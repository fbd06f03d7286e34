import Resync.Fault

/-!
# Fields that are written once

A field starts out unset, can be set once, and keeps its value from then on.
-/

namespace Resync

/-- A field that can be set once. -/
structure WriteOnce (α : Type) where
  value? : Option α := none

namespace WriteOnce

variable {α : Type}

/-- The field before it is set. -/
def unset : WriteOnce α := ⟨none⟩

/-- Whether the field has been set. -/
def isSet (w : WriteOnce α) : Bool := w.value?.isSome

/-- Set the field, which goes by the given name; a second time is refused. -/
def set (w : WriteOnce α) (name : String) (a : α) : Except Fault (WriteOnce α) :=
  match w.value? with
  | none => .ok ⟨some a⟩
  | some _ => .error (.alreadySet name)

/-- The value of the field; there is none before it is set. -/
def get (w : WriteOnce α) : Except Fault α :=
  match w.value? with
  | none => .error .noSuchMember
  | some a => .ok a

/-- A field that was set successfully has the new value, and had none. -/
theorem set_eq_ok
    {w w' : WriteOnce α}
    {name : String}
    {a : α}
    (h : w.set name a = .ok w') :
    w.value? = none ∧ w' = ⟨some a⟩ := by
  unfold set at h
  split at h
  · cases h
    exact ⟨by assumption, rfl⟩
  · cases h

end WriteOnce
end Resync
