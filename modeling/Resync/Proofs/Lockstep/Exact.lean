import Resync.Proofs.Bounds
import Resync.Proofs.Lockstep.Grammar

/-!
# Runs that come to the same

Runs in step that report the same come to the same: with the same value or the same fault, and with
the same cursor if they start with the same.  A grammar does so with itself whenever its references
do, and a run that ends goes on in the same way if references may be followed deeper.
-/

namespace Resync

/-- Whether a scan came to an end before the bound on its steps was reached. -/
def Outcome.Ended {α : Type} : Outcome α → Prop
  | .halted .exhausted _ => False
  | .done _ _ | .halted (.fault _) _ => True

theorem Outcome.exists_of_not_ended
    {α : Type}
    {o : Outcome α}
    (ho : ¬ o.Ended) :
    ∃ cur, o = .halted .exhausted cur := by
  cases o with
  | done a cur => exact absurd trivial ho
  | halted cause cur =>
      cases cause with
      | fault f => exact absurd trivial ho
      | exhausted => exact ⟨cur, rfl⟩

namespace Lockstep

/-- Runs in step that report the same, from places that are ahead of `start`. -/
def exact (src : Source) (start : Nat) : Lockstep where
  source := src
  At := src.Ahead start
  Reports := Eq
  Breaks := Eq
  at_succ hi := hi.succ
  reports_nil := rfl
  reports_append h h' := by rw [h, h']
  reports_plain _ := rfl
  breaks_nil := rfl
  breaks_append h h' := by rw [h, h']

section Ends

variable {L : Lockstep} {Q : L.Post Result} {c d : Cursor} {o o' : Outcome Result}

theorem Ends.of_not_ended (ho : ¬ o.Ended) : L.Ends Q c d o o' := by
  obtain ⟨c', rfl⟩ := Outcome.exists_of_not_ended ho
  exact .exhausted

/-- Of two runs in step, the second one ends if the first one does. -/
theorem Ends.ended (h : L.Ends Q c d o o') (ho : o.Ended) : o'.Ended := by
  cases h with
  | done _ _ => exact trivial
  | fault _ _ => exact trivial
  | exhausted => exact ho.elim

end Ends

section Exact

variable {src : Source} {start : Nat} {c d c' d' : Cursor} {E F : List Event}
variable {o o' : Outcome Result} {p q r : Parser}

theorem Moves.symm (h : (exact src start).Moves c d c' d' E F) :
    (exact src start).Moves d c d' c' F E where
  stands := by
    rw [h.offset_eq]
    exact h.stands
  offset_eq := h.offset_eq.symm
  buffered := h.buffered.symm
  trail := h.trail'
  trail' := h.trail

/-- From one cursor, runs in step that report the same end at one cursor. -/
theorem Moves.eq (h : (exact src start).Moves c c c' d' E F) (hreports : E = F) : d' = c' := by
  obtain ⟨taken, hc, hd⟩ := h.buffered
  have hoffset := h.offset_eq
  have htrail := h.trail'
  rw [← hreports, ← h.trail] at htrail
  obtain ⟨offset, buffered, trail⟩ := c'
  obtain ⟨offset', buffered', trail'⟩ := d'
  cases hoffset
  cases htrail
  cases hc
  cases hd
  rfl

theorem Ends.symm
    (h : (exact src start).Ends ((exact src start).value fun _ => True) c d o o')
    (ho : o.Ended) :
    (exact src start).Ends ((exact src start).value fun _ => True) d c o' o := by
  cases h with
  | done hmoves hholds => exact .done hmoves.symm ⟨trivial, hholds.2.symm⟩
  | fault hmoves hbreaks => exact .fault hmoves.symm hbreaks.symm
  | exhausted => exact ho.elim

/-- From one cursor, runs in step that report the same come to the same. -/
theorem Ends.eq
    (h : (exact src start).Ends ((exact src start).value fun _ => True) c c o o')
    (ho : o.Ended) :
    o' = o := by
  cases h with
  | done hmoves hholds => rw [hmoves.eq hholds.2]
  | fault hmoves hbreaks => rw [hmoves.eq hbreaks]
  | exhausted => exact ho.elim

theorem Parsers.trans
    (hpq : (exact src start).Parsers p q)
    (hqr : (exact src start).Parsers q r) :
    (exact src start).Parsers p r := by
  intro c d hat hoffset
  by_cases hended : (p src c).Ended
  · have heq : q src c = p src c := (hpq c c hat rfl).eq hended
    have hends := hqr c d hat hoffset
    rwa [show q (exact src start).source c = p src c from heq] at hends
  · exact .of_not_ended hended

/-- Grammars run in step with themselves if their references do. -/
theorem Parsers.grammar
    {resolve resolve' : Ref → Parser}
    (hresolve : ∀ target, (exact src start).Parsers (resolve target) (resolve' target))
    (g : Grammar) :
    (exact src start).Parsers (g.parser resolve) (g.parser resolve') := by
  let K : Likeness := ⟨Eq, fun _ _ => False, fun _ _ => False, fun _ => True⟩
  have hstep : K.InStep (exact src start) Parser.recoverWith Parser.recoverWith
      resolve resolve' := by
    constructor
    · rintro target _ rfl
      exact hresolve target
    · exact fun hfalse => hfalse.elim
    · exact fun hfalse => hfalse.elim
    · exact fun _ hp => hp.recoverWith (fun _ => rfl) fun _ _ _ _ => rfl
  have hself := (Likeness.Grammars.refl (K := K) (fun _ => rfl) (fun _ => trivial) g).inStep hstep
  rwa [Grammar.parserVia_recoverWith, Grammar.parserVia_recoverWith] at hself

end Exact
end Lockstep

namespace Environment

variable (env : Environment) {src : Source} {start bound bound' : Nat}

/-- A reference that ends does the same if references may be followed deeper. -/
theorem resolve_inStep (hbound : bound ≤ bound') (target : Ref) :
    (Lockstep.exact src start).Parsers (env.resolve bound target) (env.resolve bound' target) := by
  induction bound generalizing bound' target with
  | zero => exact Lockstep.exhausted
  | succ bound ih =>
      obtain ⟨more, rfl⟩ := Nat.exists_eq_add_of_le' hbound
      rw [← Nat.add_assoc]
      cases hlookup : env.lookup target with
      | error f =>
          rw [env.resolve_succ_of_error hlookup, env.resolve_succ_of_error hlookup]
          exact Lockstep.fault f
      | ok g =>
          rw [env.resolve_succ_of_ok hlookup, env.resolve_succ_of_ok hlookup]
          exact .grammar (fun target' => ih (Nat.le_add_left _ _) target') g

/-- A grammar that ends does the same if references may be followed deeper. -/
theorem parser_inStep (hbound : bound ≤ bound') (g : Grammar) :
    (Lockstep.exact src start).Parsers
      (g.parser (env.resolve bound)) (g.parser (env.resolve bound')) :=
  .grammar (env.resolve_inStep hbound) g

end Environment
end Resync
