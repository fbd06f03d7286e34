import Resync.Diagnostic.Wording

/-!
# Located diagnostics

A diagnostic together with how far into the tokens the parser had got.  Of two located diagnostics
the one that got further is kept, and two at the same position are merged.
-/

namespace Resync

/-- A diagnostic, and the index of the token it is about. -/
structure Located where
  position : Nat
  error : Diagnostic

/-- What becomes of two located diagnostics. -/
inductive Kept where
  | first
  | second
  | merged
deriving DecidableEq

namespace Located

instance : BEq Located where
  beq a b := a.position == b.position && a.error == b.error

/-- The same position with another diagnostic. -/
def map (f : Diagnostic → Diagnostic) (l : Located) : Located :=
  ⟨l.position, f l.error⟩

/-- Which of two located diagnostics got further. -/
def kept (a : Located) : Option Located → Kept
  | none => .first
  | some b =>
      if a.position > b.position then .first
      else if b.position > a.position then .second
      else .merged

/-- The diagnostic that got further; those at the same position are merged. -/
def max (a : Located) : Option Located → Except Fault Located
  | none => .ok a
  | some b =>
      if a.position > b.position then .ok a
      else if b.position > a.position then .ok b
      else do
        let error ← a.error.merge b.error
        return ⟨a.position, error⟩

/-- The diagnostic that got further, of two that may be missing. -/
def mergeAlts : Option Located → Option Located → Except Fault (Option Located)
  | some a, some b => do
      let c ← a.max (some b)
      return some c
  | some a, none => .ok (some a)
  | none, b => .ok b

/-- Which of two diagnostics that may be missing is kept. -/
def keptAlt : Option Located → Option Located → Kept
  | some a, b => a.kept b
  | none, _ => .second

/-- The literal of a located diagnostic. -/
def written (l : Located) : String :=
  "Located(" ++ toString l.position ++ ", " ++ l.error.written ++ ")"

end Located
end Resync
