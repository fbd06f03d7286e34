import Resync.Proofs.Rounds

/-!
# Contracts

A contract says which diagnostics the runs over a source may carry, and for what causes they may be
halted.  A parser keeps it from a place on if every run that starts there or later ends with a
result whose diagnostics are fine, or is halted for a cause that is allowed.

Every combinator keeps the contracts that its parts keep.  Repetitions need to know in addition that
their parts do not move the cursor back; then no repetition is ever halted because it has run for
too long.
-/

namespace Resync

section Computations

variable {α β : Type} {allows : Halt → Prop} {Q R : α → Prop} {e : Except Fault α}

/-- Whether what a computation answers has a property, or the fault it ends in is allowed. -/
def Ensures (allows : Halt → Prop) (Q : α → Prop) : Except Fault α → Prop
  | .ok a => Q a
  | .error f => allows (.fault f)

namespace Ensures

theorem of_allowed
    (hallows : ∀ f, allows (.fault f))
    (h : ∀ a, e = .ok a → Q a) :
    Ensures allows Q e := by
  cases e with
  | ok a => exact h a rfl
  | error f => exact hallows f

theorem of_exists (h : ∃ a, e = .ok a ∧ Q a) : Ensures allows Q e := by
  obtain ⟨a, rfl, ha⟩ := h
  exact ha

theorem bind
    {P : β → Prop}
    {f : α → Except Fault β}
    (he : Ensures allows Q e)
    (hf : ∀ a, Q a → Ensures allows P (f a)) :
    Ensures allows P (e >>= f) := by
  cases e with
  | ok a => exact hf a he
  | error fault => exact he

theorem map
    {P : β → Prop}
    {f : α → β}
    (he : Ensures allows Q e)
    (hf : ∀ a, Q a → P (f a)) :
    Ensures allows P (e.map f) := by
  cases e with
  | ok a => exact hf a he
  | error fault => exact he

end Ensures
end Computations

/-- What is asked of the runs over a source. -/
structure Contract where
  source : Source
  /-- Which diagnostics may come up. -/
  Fine : Located → Prop
  /-- For what causes a run may be halted. -/
  Allows : Halt → Prop
  max {a b : Located} : Fine a → Fine b → Ensures Allows Fine (a.max (some b))
  spans {start stop : Nat} :
    start < stop → stop ≤ source.size →
      Ensures Allows (fun _ => True) (source.spanBetween start stop)

namespace Contract

variable (C : Contract) {α β : Type}

/-- Whether a run ends with a value that has a property, or for a cause that is allowed. -/
def Ends (Q : α → Prop) : Outcome α → Prop
  | .done a _ => Q a
  | .halted cause _ => C.Allows cause

/-- Results that carry fine diagnostics only. -/
structure Results (r : Result) : Prop where
  recovered : ∀ l ∈ r.recovered, C.Fine l
  furthest : ∀ l ∈ r.furthest, C.Fine l

/-- Parsers that keep the contract wherever they are run from `i` on. -/
def Keeps (i : Nat) (p : Parser) : Prop :=
  ∀ cur, i ≤ cur.offset → C.Ends C.Results (p C.source cur)

/-- Failures to find something expected are fine, wherever that may be. -/
def Expects (dialect : Dialect) (expected : List Value) : Prop :=
  ∀ i, Ensures C.Allows (fun e => C.Fine ⟨i, e⟩)
    (dialect.expecting (C.source.sighting i).span expected (C.source.sighting i).token)

/-- Diagnostics of a group that is not closed are fine, wherever it was opened. -/
def Delimits (dialect : Dialect) (opening closing : Value) : Prop :=
  ∀ opened i, Ensures C.Allows (fun e => C.Fine ⟨i, e⟩)
    (dialect.unclosed opened opening (C.source.sighting i).span closing
      (C.source.sighting i).token)

/-- A verdict that is given at `i`, and is fine if it is a rejection. -/
def Passes (i : Nat) : Verdict → Prop
  | .accept _ => True
  | .reject error => C.Fine ⟨i, error⟩

variable {C} {Q : α → Prop} {R : β → Prop} {cur mid : Cursor} {i j : Nat}

section Rules

variable {x : Scan α} {f : α → Scan β} {a : α}

theorem Ends.bind
    (hx : C.Ends Q (x C.source cur))
    (hf : ∀ a mid, x C.source cur = .done a mid → Q a → C.Ends R (f a C.source mid)) :
    C.Ends R ((x >>= f) C.source cur) := by
  rw [Scan.bind_apply]
  cases hrun : x C.source cur with
  | done a mid =>
      rw [hrun] at hx
      exact hf a mid hrun hx
  | halted cause mid =>
      rw [hrun] at hx
      exact hx

/-- A step that is known to return is taken. -/
theorem Ends.after
    (hx : x C.source cur = .done a mid)
    (hf : C.Ends R (f a C.source mid)) :
    C.Ends R ((x >>= f) C.source cur) := by
  rw [Scan.bind_apply, hx]
  exact hf

theorem Ends.ofExcept {e : Except Fault α} (h : Ensures C.Allows Q e) :
    C.Ends Q (Scan.ofExcept e C.source cur) := by
  cases e with
  | ok a => exact h
  | error f => exact h

theorem Keeps.later {p : Parser} (hp : C.Keeps i p) (hij : i ≤ j) : C.Keeps j p :=
  fun cur hj => hp cur (Nat.le_trans hij hj)

/-- The span since a place that the cursor was moved on from. -/
theorem Ends.spanSince
    {start : Nat}
    (hahead : C.source.Ahead start cur.offset) :
    C.Ends (fun span => C.source.spanBetween start cur.offset = .ok span)
      (Scan.spanSince start C.source cur) := by
  have hspans : Ensures C.Allows (fun _ => True) (C.source.spanBetween start cur.offset) := by
    obtain ⟨hback, hbeyond⟩ := hahead
    rcases Nat.lt_or_ge start cur.offset with hlt | hge
    · exact C.spans hlt (by omega)
    · rw [Source.spanBetween, if_pos hge]
      exact trivial
  rw [Scan.spanSince_apply]
  cases hspan : C.source.spanBetween start cur.offset with
  | ok span => exact rfl
  | error f =>
      rw [hspan] at hspans
      exact hspans

end Rules

section Diagnostics

variable {a : Located} {l m : Option Located} {r left right : Result}

theorem max_option (ha : C.Fine a) (hm : ∀ b ∈ m, C.Fine b) :
    Ensures C.Allows C.Fine (a.max m) := by
  cases m with
  | none => exact ha
  | some b => exact C.max ha (hm b rfl)

/-- Of two diagnostics that may be missing the further one is fine if both are, and it is missing
only if both are. -/
theorem mergeAlts_ensures (hl : ∀ a ∈ l, C.Fine a) (hm : ∀ b ∈ m, C.Fine b) :
    Ensures C.Allows (fun n => (∀ c ∈ n, C.Fine c) ∧ (n = none → l = none ∧ m = none))
      (Located.mergeAlts l m) := by
  cases l with
  | none =>
      rw [Located.mergeAlts_none_left]
      exact ⟨hm, fun hnone => ⟨rfl, hnone⟩⟩
  | some a =>
      cases m with
      | none => exact ⟨hl, fun hnone => nomatch hnone⟩
      | some b =>
          rw [Located.mergeAlts_some]
          refine (C.max (hl a rfl) (hm b rfl)).map fun c hc => ⟨?_, fun hnone => nomatch hnone⟩
          rintro _ ⟨⟩
          exact hc

theorem mergeAlts (hl : ∀ a ∈ l, C.Fine a) (hm : ∀ b ∈ m, C.Fine b) :
    C.Ends (fun n => (∀ c ∈ n, C.Fine c) ∧ (n = none → l = none ∧ m = none))
      (Scan.mergeAlts l m C.source cur) :=
  .ofExcept (mergeAlts_ensures hl hm)

namespace Results

theorem success
    {recovered : List Located}
    {output : Value}
    {alt : Option Located}
    (hrecovered : ∀ l ∈ recovered, C.Fine l)
    (halt : ∀ l ∈ alt, C.Fine l) :
    C.Results (.success recovered output alt) := ⟨hrecovered, halt⟩

theorem failure
    {recovered : List Located}
    {error : Located}
    (hrecovered : ∀ l ∈ recovered, C.Fine l)
    (herror : C.Fine error) :
    C.Results (.failure recovered error) := by
  refine ⟨hrecovered, ?_⟩
  rintro _ ⟨⟩
  exact herror

/-- A success that carries no diagnostics. -/
theorem matched (output : Value) : C.Results (.success [] output none) :=
  success (fun _ hl => nomatch hl) fun _ hl => nomatch hl

theorem error
    {recovered : List Located}
    {error : Located}
    (h : C.Results (.failure recovered error)) :
    C.Fine error := h.furthest error rfl

/-- The better of two results is fine if both are. -/
theorem either (hleft : C.Results left) (hright : C.Results right) :
    Ensures C.Allows C.Results (left.either right) := by
  have hpick (s : Side) : C.Results (s.pick left right) := by
    cases s with
    | left => exact hleft
    | right => exact hright
  cases left with
  | success recovered output alt => exact hpick _
  | failure recovered error =>
      cases right with
      | failure recovered' error' =>
          rw [Result.either_failures]
          refine (C.max hleft.error hright.error).map fun c hc => failure ?_ hc
          split
          · exact hleft.recovered
          · exact hright.recovered
      | success recovered' output alt =>
          cases recovered' with
          | cons l ls => exact hright
          | nil =>
              rw [Result.either_clean]
              refine (mergeAlts_ensures hright.furthest hleft.furthest).map fun n hn => ?_
              exact success (fun _ hl => nomatch hl) hn.1

end Results
end Diagnostics

section Primitives

variable {dialect : Dialect} {expected : List Value}

theorem Ends.unexpected (hexpects : C.Expects dialect expected) (i : Nat) :
    C.Ends C.Results
      (Parser.unexpected dialect (C.source.sighting i) expected C.source cur) := by
  refine .bind (.ofExcept (hexpects i)) fun error mid _ herror => ?_
  exact Results.failure (fun _ hl => nomatch hl) (by rwa [Source.sighting_position])

theorem Ends.satisfy
    {test : Value → Except Fault Bool}
    (hexpects : C.Expects dialect expected)
    (htest : ∀ i, (C.source.sighting i).token ≠ .null →
      Ensures C.Allows (fun _ => True) (test (C.source.sighting i).token)) :
    C.Ends C.Results (Parser.satisfy dialect expected test C.source cur) := by
  refine .after Scan.next_apply ?_
  by_cases hnull : (C.source.sighting cur.offset).token = .null
  · rw [if_pos hnull]
    exact .unexpected hexpects _
  · rw [if_neg hnull]
    refine .bind (.ofExcept (htest _ hnull)) fun passed mid _ _ => ?_
    cases passed with
    | true => exact Results.matched _
    | false => exact .unexpected hexpects _

theorem Ends.seqFrom
    {all tokens : List Value}
    (hexpects : ∀ token ∈ tokens, C.Expects dialect [token]) :
    C.Ends C.Results (Parser.seqFrom dialect all tokens C.source cur) := by
  induction tokens generalizing cur with
  | nil => exact Results.matched _
  | cons token tokens ih =>
      refine .after Scan.next_apply ?_
      split
      · exact .unexpected (hexpects token List.mem_cons_self) _
      · exact ih fun token' hmem => hexpects token' (List.mem_cons_of_mem token hmem)

theorem Ends.filterMap
    {f : Span → Value → Except Fault Verdict}
    (hexpects : C.Expects dialect [])
    (hf : ∀ i, (C.source.sighting i).token ≠ .null →
      Ensures C.Allows (C.Passes i) (f (C.source.sighting i).span (C.source.sighting i).token)) :
    C.Ends C.Results (Parser.filterMap dialect f C.source cur) := by
  refine .after Scan.next_apply ?_
  by_cases hnull : (C.source.sighting cur.offset).token = .null
  · rw [if_pos hnull]
    exact .unexpected hexpects _
  · rw [if_neg hnull]
    refine .bind (.ofExcept (hf _ hnull)) fun verdict mid _ hpasses => ?_
    cases verdict with
    | accept output => exact Results.matched output
    | reject error =>
        exact Results.failure (fun _ hl => nomatch hl) (by rwa [Source.sighting_position])

theorem Ends.endOfInput (hexpects : C.Expects dialect [.null]) :
    C.Ends C.Results (Parser.endOfInput dialect C.source cur) := by
  refine .after Scan.next_apply ?_
  split
  · exact Results.matched .null
  · exact .unexpected hexpects _

/-- Tokens are taken without being looked at. -/
theorem Ends.skip (count : Nat) : C.Ends (fun _ => True) (Parser.skip count C.source cur) := by
  induction count generalizing cur with
  | zero => exact trivial
  | succ count ih => exact .after Scan.next_apply ih

theorem Ends.scripted
    {consume : Nat}
    {relative : Bool}
    {answer : Result}
    (hanswer : ∀ i, C.Results (if relative then answer.shift i else answer)) :
    C.Ends C.Results (Parser.scripted consume relative answer C.source cur) :=
  .after Scan.save_apply (.bind (.skip consume) fun _ _ _ _ => hanswer cur.offset)

end Primitives

section Outputs

variable {p : Parser} (hp : C.Ends C.Results (p C.source cur))
include hp

theorem Ends.map
    {f : Value → Except Fault Value}
    (hf : ∀ recovered output alt mid,
      p C.source cur = .done (.success recovered output alt) mid →
        Ensures C.Allows (fun _ => True) (f output)) :
    C.Ends C.Results (Parser.map f p C.source cur) := by
  refine .bind hp fun r mid hrun hr => ?_
  cases r with
  | success recovered output alt =>
      refine .bind (.ofExcept (hf recovered output alt mid hrun)) fun output' mid' _ _ => ?_
      exact Results.success hr.recovered hr.furthest
  | failure recovered error => exact hr

theorem Ends.mapWithSpan
    {f : Value → Span → Except Fault Value}
    (hforward : p.Forward C.source)
    (hf : ∀ recovered output alt mid span,
      p C.source cur = .done (.success recovered output alt) mid →
        C.source.spanBetween cur.offset mid.offset = .ok span →
          Ensures C.Allows (fun _ => True) (f output span)) :
    C.Ends C.Results (Parser.mapWithSpan f p C.source cur) := by
  refine .after Scan.save_apply (.bind hp fun r mid hrun hr => ?_)
  cases r with
  | success recovered output alt =>
      refine .bind (.spanSince (hforward _ _ _ hrun)) fun span mid' _ hspan => ?_
      refine .bind (.ofExcept (hf recovered output alt mid span hrun hspan)) fun _ _ _ _ => ?_
      exact Results.success hr.recovered hr.furthest
  | failure recovered error => exact hr

theorem Ends.tryMap
    {f : Value → Span → Except Fault Verdict}
    (hforward : p.Forward C.source)
    (hf : ∀ recovered output alt mid span,
      p C.source cur = .done (.success recovered output alt) mid →
        C.source.spanBetween cur.offset mid.offset = .ok span →
          Ensures C.Allows (C.Passes cur.offset) (f output span)) :
    C.Ends C.Results (Parser.tryMap f p C.source cur) := by
  refine .after Scan.save_apply (.bind hp fun r mid hrun hr => ?_)
  cases r with
  | success recovered output alt =>
      refine .bind (.spanSince (hforward _ _ _ hrun)) fun span mid' _ hspan => ?_
      have hverdict := hf recovered output alt mid span hrun hspan
      refine .bind (.ofExcept hverdict) fun verdict _ _ hv => ?_
      cases verdict with
      | accept output' => exact Results.success hr.recovered hr.furthest
      | reject error => exact Results.failure hr.recovered hv
  | failure recovered error => exact hr

theorem Ends.mapError
    {f : Diagnostic → Diagnostic}
    (hf : ∀ l, C.Fine l → C.Fine (l.map f)) :
    C.Ends C.Results (Parser.mapError f p C.source cur) := by
  refine .bind hp fun r mid _ hr => ?_
  cases r with
  | success recovered output alt => exact hr
  | failure recovered error => exact Results.failure hr.recovered (hf error hr.error)

theorem Ends.labelled
    {label : String}
    (hlabel : ∀ l, C.Fine l → C.Fine (l.map fun e => e.withLabel label)) :
    C.Ends C.Results (Parser.labelled label p C.source cur) := by
  have hrelabel (l : Located) (hl : C.Fine l) : C.Fine (Parser.relabel label cur.offset l) := by
    unfold Parser.relabel
    split
    · exact hl
    · exact hlabel l hl
  refine .after Scan.save_apply (.bind hp fun r mid _ hr => ?_)
  cases r with
  | success recovered output alt =>
      refine Results.success hr.recovered fun l hl => ?_
      obtain ⟨l', hl', rfl⟩ := Option.map_eq_some_iff.1 hl
      exact hrelabel l' (hr.furthest l' hl')
  | failure recovered error => exact Results.failure hr.recovered (hrelabel error hr.error)

end Outputs

section Sequences

variable {p q : Parser}

theorem Ends.tryParse (hp : C.Ends C.Results (p C.source cur)) :
    C.Ends C.Results (Scan.tryParse p C.source cur) := by
  refine .after Scan.save_apply (.bind hp fun r mid _ hr => ?_)
  cases r with
  | success recovered output alt => exact hr
  | failure recovered error => exact .after (Scan.revert_apply cur.offset) hr

theorem Ends.andThen
    (hp : C.Ends C.Results (p C.source cur))
    (hq : ∀ recovered output alt mid,
      p C.source cur = .done (.success recovered output alt) mid →
        C.Ends C.Results (q C.source mid)) :
    C.Ends C.Results (Parser.andThen p q C.source cur) := by
  refine .bind hp fun first mid hrun hfirst => ?_
  cases first with
  | failure recovered error => exact hfirst
  | success recovered output alt =>
      refine .bind (hq recovered output alt mid hrun) fun second last _ hsecond => ?_
      have hall := List.forall_mem_append.2 ⟨hfirst.recovered, hsecond.recovered⟩
      cases second with
      | success recovered' output' alt' =>
          refine .bind (mergeAlts hfirst.furthest hsecond.furthest) fun alt'' _ _ halt => ?_
          exact Results.success hall halt.1
      | failure recovered' error =>
          refine .bind (.ofExcept (max_option hsecond.error hfirst.furthest)) fun _ _ _ herror => ?_
          exact Results.failure hall herror

theorem Ends.orElse
    (hp : C.Ends C.Results (p C.source cur))
    (hq : ∀ mid, mid.offset = cur.offset → C.Ends C.Results (q C.source mid)) :
    C.Ends C.Results (Parser.orElse p q C.source cur) := by
  refine .after Scan.save_apply (.bind hp fun left mid _ hleft => ?_)
  by_cases hclean : left.isClean = true
  · rw [if_pos hclean]
    exact hleft
  · rw [if_neg hclean]
    refine .after Scan.save_apply (.after (Scan.revert_apply _) ?_)
    refine .bind (hq _ rfl) fun right last _ hright => ?_
    exact .after Scan.save_apply (.after (Scan.revert_apply _) (.ofExcept (hleft.either hright)))

theorem Ends.optional (hp : C.Ends C.Results (p C.source cur)) :
    C.Ends C.Results (Parser.optional p C.source cur) := by
  refine .bind hp.tryParse fun r mid _ hr => ?_
  cases r with
  | success recovered output alt => exact hr
  | failure recovered error => exact Results.success (fun _ hl => nomatch hl) hr.furthest

/-- A step of a plan, after some steps with fine diagnostics. -/
theorem Ends.step
    {k : Value → List Located → Option Located → Parser}
    {recovered : List Located}
    {alt : Option Located}
    (hp : C.Ends C.Results (p C.source cur))
    (hk : ∀ recovered' output alt' alt'' mid,
      p C.source cur = .done (.success recovered' output alt') mid →
        (∀ l ∈ recovered ++ recovered', C.Fine l) →
          (∀ l ∈ alt'', C.Fine l) →
            C.Ends C.Results (k output (recovered ++ recovered') alt'' C.source mid))
    (hrecovered : ∀ l ∈ recovered, C.Fine l)
    (halt : ∀ l ∈ alt, C.Fine l) :
    C.Ends C.Results (Parser.step p k recovered alt C.source cur) := by
  refine .bind hp fun r mid hrun hr => ?_
  have hall := List.forall_mem_append.2 ⟨hrecovered, hr.recovered⟩
  cases r with
  | success recovered' output alt' =>
      refine .bind (mergeAlts halt hr.furthest) fun alt'' last hmerge halt'' => ?_
      obtain ⟨-, rfl⟩ := Scan.mergeAlts_eq_done.1 hmerge
      exact hk recovered' output alt' alt'' last hrun hall halt''.1
  | failure recovered' error =>
      refine .bind (.ofExcept (max_option hr.error halt)) fun _ _ _ herror => ?_
      exact Results.failure hall herror

end Sequences
end Contract
end Resync
