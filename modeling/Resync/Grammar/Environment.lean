import Resync.Grammar
import Resync.WriteOnce

/-!
# Environments

An environment says what the references of a grammar mean: a dictionary of named rules, which can
be replaced at any time, and cells for recursive parsers, which are defined once.

References are looked up when they are run, so a run unfolds the grammar as it goes.  Between two
tokens a run that ends meets every reference at most once: what a reference does depends on the
position alone.  Hence the depth of references is bounded by their number times the number of
positions, and a run that exceeds the bound would not end.
-/

namespace Resync

/-- A dictionary of named rules, in the order in which the names first came up. -/
structure Rules where
  entries : List (String × Grammar) := []

namespace Rules

/-- The dictionary without rules. -/
def empty : Rules := ⟨[]⟩

/-- The rule of a name. -/
def get? (rules : Rules) (name : String) : Option Grammar := rules.entries.lookup name

/-- The rule of a name that must exist. -/
def get (rules : Rules) (name : String) : Except Fault Grammar :=
  match rules.get? name with
  | some g => .ok g
  | none => .error (.unknownRule name)

/-- Replace or add an entry of a list. -/
def setIn (name : String) (g : Grammar) : List (String × Grammar) → List (String × Grammar)
  | [] => [(name, g)]
  | (name', g') :: entries =>
      if name = name' then (name, g) :: entries
      else (name', g') :: setIn name g entries

/-- The dictionary in which a name stands for a grammar from now on. -/
def set (rules : Rules) (name : String) (g : Grammar) : Rules :=
  ⟨setIn name g rules.entries⟩

/-- The names of the rules in alphabetical order. -/
def names (rules : Rules) : List String :=
  (rules.entries.map Prod.fst).mergeSort fun s t => s ≤ t

/-- The number of rules. -/
def size (rules : Rules) : Nat := rules.entries.length

/-- A name that was set stands for its new rule, and no other name is affected. -/
theorem get?_set (rules : Rules) (name name' : String) (g : Grammar) :
    (rules.set name g).get? name' = if name' = name then some g else rules.get? name' := by
  obtain ⟨entries⟩ := rules
  simp only [set, get?]
  induction entries with
  | nil =>
      by_cases h : name' = name
      · simp [setIn, h]
      · simp [setIn, h]
  | cons entry entries ih =>
      obtain ⟨other, rule⟩ := entry
      by_cases hname : name = other
      · subst hname
        by_cases h : name' = name
        · simp [setIn, h]
        · simp [setIn, List.lookup_cons, h, beq_eq_false_iff_ne.2 h]
      · by_cases h : name' = other
        · subst h
          simp [setIn, hname, Ne.symm hname]
        · simp [setIn, hname, List.lookup_cons, beq_eq_false_iff_ne.2 h, ih]

end Rules

/-- The definitions of recursive parsers. -/
structure Cells where
  slots : List (WriteOnce Grammar) := []

namespace Cells

/-- No cells at all. -/
def empty : Cells := ⟨[]⟩

/-- The number of cells. -/
def size (cells : Cells) : Nat := cells.slots.length

/-- One more cell; its index is the number of cells before. -/
def alloc (cells : Cells) : Cells := ⟨cells.slots ++ [.unset]⟩

/-- The cell at an index; there are undefined ones beyond the last. -/
def slot (cells : Cells) (i : Nat) : WriteOnce Grammar := cells.slots.getD i .unset

/-- Whether a cell is defined. -/
def isDefined (cells : Cells) (i : Nat) : Bool := (cells.slot i).isSet

/-- Define a cell. -/
def define (cells : Cells) (i : Nat) (g : Grammar) : Except Fault Cells := do
  let slot ← (cells.slot i).set "parser" g
  return ⟨cells.slots.set i slot⟩

/-- The definition of a cell. -/
def get (cells : Cells) (i : Nat) : Except Fault Grammar :=
  match (cells.slot i).value? with
  | some g => .ok g
  | none => .error .undefinedRecursion

end Cells

/-- What references mean. -/
structure Environment where
  rules : Rules := {}
  cells : Cells := {}

namespace Environment

/-- What a reference stands for at this time. -/
def lookup (env : Environment) : Ref → Except Fault Grammar
  | .rule name => env.rules.get name
  | .cell i => env.cells.get i

/-- How deep the references of a run over `src` can lie within each other, if it ends. -/
def depth (env : Environment) (src : Source) : Nat :=
  (env.rules.size + env.cells.size + 1) * (src.size + 2)

/-- The parser a reference stands for; no more than `bound` references are followed on the way. -/
def resolve (env : Environment) : (bound : Nat) → Ref → Parser
  | 0, _ => Scan.halt .exhausted
  | bound + 1, target => fun src cur =>
      match env.lookup target with
      | .ok g => g.parser (env.resolve bound) src cur
      | .error f => .halted (.fault f) cur

/-- The parser that a grammar describes in an environment. -/
def parser (env : Environment) (g : Grammar) : Parser := fun src cur =>
  g.parser (env.resolve (env.depth src)) src cur

end Environment
end Resync
