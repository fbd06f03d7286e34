import Resync.Grammar.Recursion

/-!
# Scopes

A scope says what the names in a grammar stand for while the grammar is built: the recursive
grammars around it, of which the innermost hides the others of its name; the dictionary as it is at
the time; and the parsers of a list, which are taken by number.
-/

namespace Resync

/-- An item of a list by its number; negative numbers count from the end. -/
def itemAt {α : Type} (items : List α) (i : Int) : Except Fault α :=
  let k := if i < 0 then i + items.length else i
  if k < 0 then .error .indexOutOfRange
  else
    match items[k.toNat]? with
    | some a => .ok a
    | none => .error .indexOutOfRange

/-- What names stand for while a grammar is built. -/
structure Scope where
  /-- The recursive grammars around, the innermost first. -/
  handles : List (String × Grammar) := []
  rules : Rules := {}
  parsers : List Grammar := []
  /-- The dialect of grammars that do not choose one. -/
  dialect : Dialect := .simple

namespace Scope

/-- What a reference by name stands for: a recursive grammar around, or else the rule of that name
whenever it is run. -/
def reference (scope : Scope) (name : String) : Grammar :=
  (scope.handles.lookup name).getD (.ref (.rule name))

/-- The rule of a name as it is now. -/
def current (scope : Scope) (name : String) : Except Fault Grammar := scope.rules.get name

/-- The parser of a number. -/
def parser (scope : Scope) (i : Int) : Except Fault Grammar := itemAt scope.parsers i

/-- A recursive grammar, which can refer to itself by name. -/
def recursive (scope : Scope) (name : String) (body : Scope → Build Grammar) : Build Grammar :=
  Build.recursive fun handle => body { scope with handles := (name, handle) :: scope.handles }

end Scope

/-- A dictionary, with the cells that its rules refer to. -/
structure Dictionary where
  rules : Rules := {}
  cells : Cells := {}

namespace Dictionary

/-- The environment of the rules. -/
def environment (d : Dictionary) : Environment := ⟨d.rules, d.cells⟩

/-- Build a grammar on top of the dictionary and give it a name. -/
def set (d : Dictionary) (name : String) (body : Rules → Build Grammar) :
    Except Fault Dictionary := do
  let (g, cells) ← (body d.rules).run d.cells
  return ⟨d.rules.set name g, cells⟩

/-- Set several rules one after another.  Where one cannot be built, those before it stay. -/
def extend (d : Dictionary) :
    List (String × (Rules → Build Grammar)) → Dictionary × Option Fault
  | [] => (d, none)
  | (name, body) :: entries =>
      match d.set name body with
      | .ok d' => d'.extend entries
      | .error f => (d, some f)

end Dictionary
end Resync
