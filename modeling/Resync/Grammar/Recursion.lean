import Resync.Grammar.Environment

/-!
# Recursive grammars

A recursive grammar is tied through a cell: first the cell is made, then the grammar is built with
a reference to it, and last the cell is defined by what was built.

A handle is a parser as an object that can be told apart from others: a placeholder, which is a
cell; a box, which shares the parser inside it however often it is copied; or any other parser.  A
placeholder that is copied gets a cell of its own, with the definition the cell had, but it runs
what the first one runs.  A deep copy runs its own, and a placeholder that stands by itself as a
definition is copied with it; whatever refers to a placeholder in another way still refers to the
first one.
-/

namespace Resync

/-- A computation that builds grammars, and makes and defines cells on the way. -/
abbrev Build : Type → Type := StateT Cells (Except Fault)

namespace Build

/-- A grammar that refers to a new cell, which is left undefined. -/
def undefined : Build Grammar := do
  let cells ← get
  set cells.alloc
  return .ref (.cell cells.size)

/-- A grammar that can refer to itself: `body` is given the reference and answers the
definition. -/
def recursive (body : Grammar → Build Grammar) : Build Grammar := do
  let index := (← get).size
  let handle ← undefined
  let definition ← body handle
  let cells ← get
  let cells' ← (cells.define index definition : Except Fault Cells)
  set cells'
  return handle

end Build

/-- A placeholder: the cell that defines it, and the cell that it runs. -/
structure Placeholder where
  own : Nat
  runs : Nat

/-- The grammar that a placeholder runs. -/
def Placeholder.grammar (p : Placeholder) : Grammar := .ref (.cell p.runs)

/-- A parser as an object. -/
inductive Handle where
  /-- A parser of any other kind. -/
  | parser (grammar : Grammar)
  | placeholder (p : Placeholder)
  /-- A box around another handle, which is no box itself. -/
  | box (inner : Nat) (grammar : Grammar)

/-- The grammar that a handle runs. -/
def Handle.grammar : Handle → Grammar
  | parser grammar => grammar
  | placeholder p => p.grammar
  | box _ grammar => grammar

/-- Handles by their numbers, and the cells of the placeholders. -/
structure Shelf where
  cells : Cells := {}
  /-- The placeholders that stand by themselves as the definitions of cells. -/
  bare : List (Nat × Placeholder) := []
  handles : List Handle := []

namespace Shelf

/-- The handle of a number. -/
def get (shelf : Shelf) (i : Nat) : Except Fault Handle :=
  match shelf.handles[i]? with
  | some h => .ok h
  | none => .error .indexOutOfRange

/-- The grammar that the handle of a number runs. -/
def grammar (shelf : Shelf) (i : Nat) : Grammar :=
  match shelf.handles[i]? with
  | some h => h.grammar
  | none => .empty

/-- One more handle; its number comes with the shelf. -/
def add (shelf : Shelf) (h : Handle) : Shelf × Nat :=
  ({ shelf with handles := shelf.handles ++ [h] }, shelf.handles.length)

/-- A new placeholder. -/
def addPlaceholder (shelf : Shelf) : Shelf × Nat :=
  let own := shelf.cells.size
  { shelf with cells := shelf.cells.alloc }.add (.placeholder ⟨own, own⟩)

/-- A new box around a handle; around a box, it shares what that one holds. -/
def rebox (shelf : Shelf) (i : Nat) : Except Fault (Shelf × Nat) := do
  match ← shelf.get i with
  | .box inner grammar => return shelf.add (.box inner grammar)
  | h => return shelf.add (.box i h.grammar)

/-- A box around a handle; a box is its own. -/
def box (shelf : Shelf) (i : Nat) : Except Fault (Shelf × Nat) := do
  match ← shelf.get i with
  | .box _ _ => return (shelf, i)
  | _ => shelf.rebox i

/-- A box around a new placeholder, whose definition can refer to it. -/
def addRecursive (shelf : Shelf) (body : Grammar → Build Grammar) :
    Except Fault (Shelf × Nat) := do
  let (shelf', n) := shelf.addPlaceholder
  let (definition, cells) ← (body (shelf'.grammar n)).run shelf'.cells
  let cells' ← cells.define shelf.cells.size definition
  { shelf' with cells := cells' }.box n

/-- Copies of some cells.  What stands in them by itself refers to the copies, as far as there are
any. -/
def copyCells (shelf : Shelf) (old : List Nat) (renamed : Placeholder → Placeholder) : Shelf :=
  let first := shelf.cells.size
  let bare := old.zipIdx.filterMap fun (c, k) =>
    (shelf.bare.lookup c).map fun p => (first + k, renamed p)
  let slots := old.map fun c =>
    match shelf.bare.lookup c with
    | some p => ⟨some (renamed p).grammar⟩
    | none => shelf.cells.slot c
  { shelf with cells := ⟨shelf.cells.slots ++ slots⟩, bare := shelf.bare ++ bare }

/-- A copy of a handle. -/
def copy (shelf : Shelf) (i : Nat) : Except Fault (Shelf × Nat) := do
  match ← shelf.get i with
  | .placeholder p =>
      return (shelf.copyCells [p.own] id).add (.placeholder { p with own := shelf.cells.size })
  | h => return shelf.add h

/-- The cells of placeholders. -/
def cellsOf (ps : List Placeholder) : List Nat := ps.flatMap fun p => [p.own, p.runs]

/-- The given cells and those that are reached from them through bare placeholders, in no more than
`bound` steps. -/
def reached (shelf : Shelf) : (bound : Nat) → List Nat → List Nat
  | 0, seen => seen
  | bound + 1, seen =>
      shelf.reached bound (seen ++ cellsOf (seen.filterMap fun c => shelf.bare.lookup c)).eraseDups

/-- A copy of a handle that shares no cell with it that is reached through bare placeholders. -/
def deepCopy (shelf : Shelf) (i : Nat) : Except Fault (Shelf × Nat) := do
  match ← shelf.get i with
  | .placeholder p =>
      let old := shelf.reached shelf.cells.size (cellsOf [p]).eraseDups
      let rename (c : Nat) : Nat := shelf.cells.size + old.idxOf c
      let renamed (q : Placeholder) : Placeholder := ⟨rename q.own, rename q.runs⟩
      return (shelf.copyCells old renamed).add (.placeholder (renamed p))
  | h => return shelf.add h

/-- Define a placeholder by the handle of another number; nothing else can be defined. -/
def define (shelf : Shelf) (i definition : Nat) : Except Fault Shelf := do
  match ← shelf.get i with
  | .placeholder p =>
      let h ← shelf.get definition
      let cells ← shelf.cells.define p.own h.grammar
      match h with
      | .placeholder q => return { shelf with cells := cells, bare := shelf.bare ++ [(p.own, q)] }
      | _ => return { shelf with cells := cells }
  | _ => .error .noSuchMember

/-- Whether a placeholder is defined. -/
def isDefined (shelf : Shelf) (i : Nat) : Except Fault Bool := do
  match ← shelf.get i with
  | .placeholder p => return shelf.cells.isDefined p.own
  | _ => .error .noSuchMember

/-- The handle inside a box. -/
def inner (shelf : Shelf) (i : Nat) : Except Fault Nat := do
  match ← shelf.get i with
  | .box inner _ => return inner
  | _ => .error .noSuchMember

/-- The literal of a handle that is no box. -/
def writtenPlain (shelf : Shelf) : Handle → String
  | .placeholder p =>
      if shelf.cells.isDefined p.own then "<Recursive (defined)>" else "<Recursive (undefined)>"
  | .parser _ | .box _ _ => "<Parser>"

/-- The literal of a handle. -/
def written (shelf : Shelf) (i : Nat) : Except Fault String := do
  match ← shelf.get i with
  | .box inner _ =>
      let h ← shelf.get inner
      return "BoxedParser(" ++ shelf.writtenPlain h ++ ")"
  | h => return shelf.writtenPlain h

end Shelf
end Resync
