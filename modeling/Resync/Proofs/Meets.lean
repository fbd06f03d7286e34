import Resync.Proofs.Depth

/-!
# What a run meets

A plan chooses each grammar by the outputs before it, and a function is applied to the outputs of a
grammar.  Over one source not every value comes up as an output, so a run meets less than a grammar
reaches.  This module says what a grammar gives on a source, what remains of a plan after the steps
that were taken, and which grammars are met on the way.
-/

namespace Resync
namespace Environment

section Definitions

variable (env : Environment) (src : Source)

/-- Whether a grammar, run from `i`, succeeds with an output and comes to stand at `j`. -/
def Gives (g : Grammar) (i : Nat) (output : Value) (j : Nat) : Prop :=
  ∃ cur recovered alt cur',
    env.parser g src cur = .done (.success recovered output alt) cur' ∧
      cur.offset = i ∧ cur'.offset = j

/-- What remains of a plan after some of its steps, with outputs that their grammars give. -/
inductive Remains (plan : Plan) : Plan → Prop
  | all : Remains plan plan
  | next
      {first : Grammar} {resume : Value → Plan} {i j : Nat} {output : Value}
      (hbefore : Remains plan (.step first resume))
      (hgives : env.Gives src first i output j) :
      Remains plan (resume output)

/-- Whether a run of a grammar over the source may run another one directly. -/
def Calls (part : Grammar) : Grammar → Prop
  | .generate plan => ∃ resume, env.Remains src plan (.step part resume)
  | g => env.Part part g

/-- The grammars that runs of a grammar over the source may come to, and itself. -/
inductive Meets (g : Grammar) : Grammar → Prop
  | here : Meets g g
  | there {h part : Grammar} : Meets g h → env.Calls src part h → Meets g part

/-- Whether everything that runs of a grammar over the source may come to has a property. -/
def OnlyMeets (ok : Grammar → Prop) (g : Grammar) : Prop :=
  ∀ h, env.Meets src g h → ok h

end Definitions

variable {env : Environment} {src : Source} {g : Grammar} {ok : Grammar → Prop}

/-- What any run of a grammar answers, however deep it follows references, is given by it. -/
theorem Gives.of_run
    {bound : Nat}
    {cur cur' : Cursor}
    {recovered : List Located}
    {output : Value}
    {alt : Option Located}
    (hrun : g.parser (env.resolve bound) src cur = .done (.success recovered output alt) cur') :
    env.Gives src g cur.offset output cur'.offset :=
  ⟨cur, recovered, alt, cur', parser_of_bound hrun trivial, rfl, rfl⟩

/-- A plan runs what remains of it. -/
theorem Remains.runs
    {plan rest : Plan}
    (hrest : env.Remains src plan rest)
    (hruns : rest.Runs g) :
    plan.Runs g := by
  induction hrest with
  | all => exact hruns
  | next _ _ ih => exact ih (.later _ _ hruns)

theorem Calls.part {h : Grammar} (hcalls : env.Calls src g h) : env.Part g h := by
  cases h with
  | generate plan =>
      obtain ⟨resume, hremains⟩ := hcalls
      exact hremains.runs (.now resume)
  | _ => exact hcalls

/-- What is met is reached. -/
theorem Meets.reaches {h : Grammar} (hmeets : env.Meets src g h) : env.Reaches g h := by
  induction hmeets with
  | here => exact .here
  | there _ hcalls ih => exact .there ih hcalls.part

theorem Meets.trans
    {h k : Grammar}
    (hgh : env.Meets src g h)
    (hhk : env.Meets src h k) :
    env.Meets src g k := by
  induction hhk with
  | here => exact hgh
  | there _ hnext ih => exact .there ih hnext

theorem Within.onlyMeets (h : env.Within ok g) : env.OnlyMeets src ok g :=
  fun k hmeets => h k hmeets.reaches

namespace OnlyMeets

theorem self (h : env.OnlyMeets src ok g) : ok g := h g .here

/-- Everything that a part meets has the property as well. -/
theorem part
    {part : Grammar}
    (h : env.OnlyMeets src ok g)
    (hcalls : env.Calls src part g) :
    env.OnlyMeets src ok part :=
  fun k hmeets => h k (Meets.trans (.there .here hcalls) hmeets)

end OnlyMeets
end Environment
end Resync
