import Resync.Grammar.Environment

/-!
# What a grammar reaches

A run of a grammar runs its parts, and the definitions of what it refers to, and theirs.  All
grammars that can take part in a run are reached in this way, whatever else the environment holds.
A property that all of them have is passed on to the parts, which is what an induction over a run
needs.
-/

namespace Resync

/-- Whether a plan runs a grammar, after some outputs. -/
inductive Plan.Runs (g : Grammar) : Plan → Prop where
  | now (resume : Value → Plan) : Runs g (.step g resume)
  | later (first : Grammar) {resume : Value → Plan} (output : Value) :
      Runs g (resume output) → Runs g (.step first resume)

namespace Environment

variable (env : Environment)

/-- Whether a grammar is run directly by another one: as a part of it, by its plan, or as what it
refers to. -/
def Part (part : Grammar) : Grammar → Prop
  | .satisfy _ _ _ | .seq _ _ | .filterMap _ _ | .endOfInput _ | .empty | .scripted _ _ _ => False
  | .map _ of | .mapWithSpan _ of | .tryMap _ of | .mapError _ of | .labelled _ of => part = of
  | .optional of | .recoverWith of _ | .repeated of _ _ => part = of
  | .andThen first second => part = first ∨ part = second
  | .orElse left right => part = left ∨ part = right
  | .separatedBy item separator _ _ _ => part = item ∨ part = separator
  | .generate plan => plan.Runs part
  | .ref target => env.lookup target = .ok part

/-- The grammars that a grammar runs, directly or through others, and itself. -/
inductive Reaches (g : Grammar) : Grammar → Prop where
  | here : Reaches g g
  | there {h part : Grammar} : Reaches g h → env.Part part h → Reaches g part

/-- Whether everything a grammar reaches has a property. -/
def Within (ok : Grammar → Prop) (g : Grammar) : Prop :=
  ∀ h, env.Reaches g h → ok h

variable {env} {ok : Grammar → Prop} {g : Grammar}

/-- A part reaches nothing that the whole does not reach. -/
theorem Reaches.of_part
    {part h : Grammar}
    (hpart : env.Part part g)
    (hreaches : env.Reaches part h) :
    env.Reaches g h := by
  induction hreaches with
  | here => exact .there .here hpart
  | there _ hnext ih => exact .there ih hnext

theorem Reaches.trans
    {h k : Grammar}
    (hgh : env.Reaches g h)
    (hhk : env.Reaches h k) :
    env.Reaches g k := by
  induction hhk with
  | here => exact hgh
  | there _ hpart ih => exact .there ih hpart

/-- What is reached is the grammar itself, or is reached by one of its parts. -/
theorem Reaches.eq_or_part {h : Grammar} (hreaches : env.Reaches g h) :
    h = g ∨ ∃ part, env.Part part g ∧ env.Reaches part h := by
  induction hreaches with
  | here => exact Or.inl rfl
  | there _ hpart ih =>
      rcases ih with rfl | ⟨part, hfirst, hrest⟩
      · exact Or.inr ⟨_, hpart, .here⟩
      · exact Or.inr ⟨part, hfirst, .there hrest hpart⟩

namespace Within

/-- A grammar and all that its parts reach. -/
theorem of_parts
    (hself : ok g)
    (hparts : ∀ part, env.Part part g → env.Within ok part) :
    env.Within ok g := by
  intro h hreaches
  rcases hreaches.eq_or_part with rfl | ⟨part, hpart, hrest⟩
  · exact hself
  · exact hparts part hpart h hrest

/-- What is reached from some grammars that are closed under parts is among them. -/
theorem of_closed
    (closed : Grammar → Prop)
    (hg : closed g)
    (hok : ∀ h, closed h → ok h)
    (hparts : ∀ h part, closed h → env.Part part h → closed part) :
    env.Within ok g := by
  intro h hreaches
  apply hok
  induction hreaches with
  | here => exact hg
  | there _ hpart ih => exact hparts _ _ ih hpart

/-- The grammar itself has the property. -/
theorem self (h : env.Within ok g) : ok g := h g .here

/-- Everything that a part reaches has the property as well. -/
theorem part
    {part : Grammar}
    (h : env.Within ok g)
    (hpart : env.Part part g) :
    env.Within ok part :=
  fun k hreaches => h k (hreaches.of_part hpart)

end Within
end Environment
end Resync
