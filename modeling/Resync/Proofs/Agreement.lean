import Resync.Proofs.Run

/-!
# Parsers that agree

Two parsers agree if they cannot be told apart by what they answer: from one place, with the same
tokens buffered, they end alike, and only where a failure leaves the cursor, and what is reported,
may differ.

Every combinator keeps agreement.  That is so because none of them goes on from the cursor of a
failure, and because nothing reads the trail.
-/

namespace Resync

/-- Two cursors at one place, with the same tokens buffered. -/
def Cursor.Level (c d : Cursor) : Prop :=
  c.offset = d.offset ∧ c.buffered = d.buffered

/-- Two endings that differ at most in where a failure leaves the cursor, and in what was
reported. -/
inductive Outcome.Agree : Outcome Result → Outcome Result → Prop
  | success
      {recovered : List Located} {output : Value} {alt : Option Located} {c d : Cursor}
      (hlevel : c.Level d) :
      Agree (.done (.success recovered output alt) c) (.done (.success recovered output alt) d)
  | failure
      {recovered : List Located} {error : Located} {c d : Cursor}
      (hbuffered : c.buffered = d.buffered) :
      Agree (.done (.failure recovered error) c) (.done (.failure recovered error) d)
  | halted
      {cause : Halt} {c d : Cursor}
      (hbuffered : c.buffered = d.buffered) :
      Agree (.halted cause c) (.halted cause d)

/-- Two parsers that end alike from every place. -/
def Parser.Agree (p q : Parser) : Prop :=
  ∀ (src : Source) (c d : Cursor), c.Level d → (p src c).Agree (q src d)

/-- Two endings with the same value and level cursors. -/
inductive Outcome.Even {α : Type} : Outcome α → Outcome α → Prop
  | done {a : α} {c d : Cursor} (hlevel : c.Level d) : Even (.done a c) (.done a d)
  | halted
      {cause : Halt} {c d : Cursor}
      (hbuffered : c.buffered = d.buffered) :
      Even (.halted cause c) (.halted cause d)

/-- Two scans that answer the same and leave level cursors level. -/
def Scan.Even {α : Type} (x y : Scan α) : Prop :=
  ∀ (src : Source) (c d : Cursor), c.Level d → (x src c).Even (y src d)

namespace Scan
namespace Even

variable {α β : Type} {x y : Scan α} {f g : α → Scan β}

theorem bind (hx : x.Even y) (hf : ∀ a, (f a).Even (g a)) : (x >>= f).Even (y >>= g) := by
  intro src c d hlevel
  have hends := hx src c d hlevel
  rw [bind_apply, bind_apply]
  generalize x src c = o at hends
  generalize y src d = o' at hends
  cases hends with
  | done hlevel' => exact hf _ src _ _ hlevel'
  | halted hbuffered => exact .halted hbuffered

theorem pure (a : α) : (Pure.pure a : Scan α).Even (Pure.pure a) :=
  fun _ _ _ hlevel => .done hlevel

theorem ofExcept (e : Except Fault α) : (ofExcept e).Even (ofExcept e) := by
  intro src c d hlevel
  cases e with
  | ok a => exact .done hlevel
  | error f => exact .halted hlevel.2

theorem source : source.Even source := fun _ _ _ hlevel => .done hlevel

theorem save : save.Even save := by
  intro src c d hlevel
  rw [save_apply, save_apply, hlevel.1]
  exact .done hlevel

theorem revert (i : Nat) : (revert i).Even (revert i) :=
  fun _ _ _ hlevel => .done ⟨rfl, hlevel.2⟩

theorem report (e e' : Event) : (report e).Even (report e') :=
  fun _ _ _ hlevel => .done hlevel

theorem lookAt (i : Nat) : (lookAt i).Even (lookAt i) := by
  intro src c d hlevel
  rw [lookAt_apply, lookAt_apply]
  refine .done ⟨hlevel.1, ?_⟩
  rw [Cursor.looked_buffered, Cursor.looked_buffered, hlevel.2]

theorem peek : peek.Even peek := save.bind lookAt

theorem next : next.Even next := by
  refine peek.bind fun seen => ?_
  by_cases hnull : seen.token = .null
  · simp only [hnull, ne_eq, not_true_eq_false, if_false]
    exact pure seen
  · simp only [hnull, ne_eq, not_false_eq_true, if_true]
    exact (revert _).bind fun _ => pure seen

theorem spanSince (start : Nat) : (spanSince start).Even (spanSince start) := by
  refine (lookAt start).bind fun first => save.bind fun offset => ?_
  by_cases hempty : offset ≤ start
  · simp only [if_pos hempty]
    exact pure _
  · simp only [if_neg hempty]
    exact (lookAt _).bind fun last => ofExcept _

theorem skip (count : Nat) : (Parser.skip count).Even (Parser.skip count) := by
  induction count with
  | zero => exact pure ()
  | succ count ih => exact next.bind fun _ => ih

/-- Parsers that agree are tried alike: where a failure left the cursor is forgotten. -/
theorem tryParse {p q : Parser} (h : p.Agree q) : (tryParse p).Even (tryParse q) := by
  intro src c d hlevel
  have hends := h src c d hlevel
  rw [tryParse_apply, tryParse_apply]
  generalize p src c = o at hends
  generalize q src d = o' at hends
  cases hends with
  | success hlevel' => exact .done hlevel'
  | failure hbuffered => exact .done ⟨hlevel.1, hbuffered⟩
  | halted hbuffered => exact .halted hbuffered

end Even
end Scan

namespace Parser
namespace Agree

open Scan (Even)

variable {p p' q q' : Parser} {src : Source} {c d : Cursor}

section Rules

/-- Scans that are even, and then parsers that agree. -/
theorem after
    {α : Type}
    {x y : Scan α}
    {k k' : α → Parser}
    (hx : x.Even y)
    (hk : ∀ a, (k a).Agree (k' a)) :
    Parser.Agree (x >>= k) (y >>= k') := by
  intro src c d hlevel
  have hends := hx src c d hlevel
  rw [Scan.bind_apply, Scan.bind_apply]
  generalize x src c = o at hends
  generalize y src d = o' at hends
  cases hends with
  | done hlevel' => exact hk _ src _ _ hlevel'
  | halted hbuffered => exact .halted hbuffered

/-- Parsers that agree, and then what is made of their results.  After a failure the cursors need
not be level, so there nothing may depend on them. -/
theorem bind
    {k k' : Result → Parser}
    (hp : p.Agree p')
    (hsuccess : ∀ recovered output alt,
      (k (.success recovered output alt)).Agree (k' (.success recovered output alt)))
    (hfailure : ∀ recovered error src c d, c.buffered = d.buffered →
      (k (.failure recovered error) src c).Agree (k' (.failure recovered error) src d)) :
    Parser.Agree (p >>= k) (p' >>= k') := by
  intro src c d hlevel
  have hends := hp src c d hlevel
  rw [Scan.bind_apply, Scan.bind_apply]
  generalize p src c = o at hends
  generalize p' src d = o' at hends
  cases hends with
  | success hlevel' => exact hsuccess _ _ _ src _ _ hlevel'
  | failure hbuffered => exact hfailure _ _ src _ _ hbuffered
  | halted hbuffered => exact .halted hbuffered

/-- Moved to one place, cursors are level again. -/
theorem afterRevert
    {k k' : Unit → Parser}
    (i : Nat)
    (hk : (k ()).Agree (k' ()))
    (hbuffered : c.buffered = d.buffered) :
    ((Scan.revert i >>= k) src c).Agree ((Scan.revert i >>= k') src d) :=
  hk src _ _ ⟨rfl, hbuffered⟩

/-- Computing without the source needs no level cursors. -/
theorem afterExcept
    {α : Type}
    {k k' : α → Parser}
    (e : Except Fault α)
    (hk : ∀ a, (k a src c).Agree (k' a src d))
    (hbuffered : c.buffered = d.buffered) :
    ((Scan.ofExcept e >>= k) src c).Agree ((Scan.ofExcept e >>= k') src d) := by
  cases e with
  | ok a => exact hk a
  | error f => exact .halted hbuffered

theorem success (recovered : List Located) (output : Value) (alt : Option Located) :
    Parser.Agree (return .success recovered output alt) (return .success recovered output alt) :=
  fun _ _ _ hlevel => .success hlevel

theorem failure (recovered : List Located) (error : Located) :
    Parser.Agree (return .failure recovered error) (return .failure recovered error) :=
  fun _ _ _ hlevel => .failure hlevel.2

theorem exhausted : Parser.Agree (Scan.halt .exhausted) (Scan.halt .exhausted) :=
  fun _ _ _ hlevel => .halted hlevel.2

theorem answer (r : Result) : Parser.Agree (return r) (return r) := by
  cases r with
  | success recovered output alt => exact success recovered output alt
  | failure recovered error => exact failure recovered error

theorem ofExcept (e : Except Fault Result) : Parser.Agree (Scan.ofExcept e) (Scan.ofExcept e) := by
  cases e with
  | ok r => exact answer r
  | error f => exact fun _ _ _ hlevel => .halted hlevel.2

end Rules

section Primitives

variable (dialect : Dialect)

theorem unexpected (seen : Sighting) (expected : List Value) :
    (unexpected dialect seen expected).Agree (unexpected dialect seen expected) :=
  after (Even.ofExcept _) fun _ => failure _ _

theorem satisfy (expected : List Value) (test : Value → Except Fault Bool) :
    (satisfy dialect expected test).Agree (satisfy dialect expected test) := by
  refine after Even.next fun seen => ?_
  by_cases hnull : seen.token = .null
  · simp only [if_pos hnull]
    exact unexpected dialect seen expected
  · simp only [if_neg hnull]
    refine after (Even.ofExcept _) fun passed => ?_
    cases passed with
    | true => exact success _ _ _
    | false => exact unexpected dialect seen expected

theorem seqFrom (all tokens : List Value) :
    (seqFrom dialect all tokens).Agree (seqFrom dialect all tokens) := by
  induction tokens with
  | nil => exact success _ _ _
  | cons token tokens ih =>
      refine after Even.next fun seen => ?_
      by_cases hmiss : seen.token = .null ∨ seen.token ≠ token
      · simp only [if_pos hmiss]
        exact unexpected dialect seen [token]
      · simp only [if_neg hmiss]
        exact ih

theorem filterMap (f : Span → Value → Except Fault Verdict) :
    (filterMap dialect f).Agree (filterMap dialect f) := by
  refine after Even.next fun seen => ?_
  by_cases hnull : seen.token = .null
  · simp only [if_pos hnull]
    exact unexpected dialect seen []
  · simp only [if_neg hnull]
    refine after (Even.ofExcept _) fun verdict => ?_
    cases verdict with
    | accept output => exact success _ _ _
    | reject error => exact failure _ _

theorem endOfInput : (endOfInput dialect).Agree (endOfInput dialect) := by
  refine after Even.next fun seen => ?_
  by_cases hnull : seen.token = .null
  · simp only [if_pos hnull]
    exact success _ _ _
  · simp only [if_neg hnull]
    exact unexpected dialect seen [.null]

theorem scripted (consume : Nat) (relative : Bool) (r : Result) :
    (scripted consume relative r).Agree (scripted consume relative r) :=
  after Even.save fun _ => after (Even.skip consume) fun _ => answer _

end Primitives

section Outputs

variable (hp : p.Agree p')
include hp

theorem map (f : Value → Except Fault Value) : (map f p).Agree (map f p') :=
  hp.bind
    (fun _ _ _ => after (Even.ofExcept _) fun _ => success _ _ _)
    (fun _ _ _ _ _ hbuffered => .failure hbuffered)

theorem mapWithSpan (f : Value → Span → Except Fault Value) :
    (mapWithSpan f p).Agree (mapWithSpan f p') := by
  refine after Even.save fun start => hp.bind ?_ ?_
  · intro recovered output alt
    exact after (Even.spanSince start) fun _ =>
      after (Even.ofExcept _) fun _ => success _ _ _
  · exact fun _ _ _ _ _ hbuffered => .failure hbuffered

theorem tryMap (f : Value → Span → Except Fault Verdict) :
    (tryMap f p).Agree (tryMap f p') := by
  refine after Even.save fun start => hp.bind ?_ ?_
  · intro recovered output alt
    refine after (Even.spanSince start) fun span => after (Even.ofExcept _) fun verdict => ?_
    cases verdict with
    | accept output' => exact success _ _ _
    | reject error => exact failure _ _
  · exact fun _ _ _ _ _ hbuffered => .failure hbuffered

theorem mapError (f : Diagnostic → Diagnostic) : (mapError f p).Agree (mapError f p') :=
  hp.bind (fun _ _ _ => success _ _ _) (fun _ _ _ _ _ hbuffered => .failure hbuffered)

theorem labelled (label : String) : (labelled label p).Agree (labelled label p') :=
  after Even.save fun _ =>
    hp.bind (fun _ _ _ => success _ _ _) (fun _ _ _ _ _ hbuffered => .failure hbuffered)

end Outputs

section Sequences

theorem andThen (hp : p.Agree p') (hq : q.Agree q') : (andThen p q).Agree (andThen p' q') := by
  refine hp.bind ?_ (fun _ _ _ _ _ hbuffered => .failure hbuffered)
  intro recovered output alt
  refine hq.bind ?_ ?_
  · exact fun _ _ _ => after (Even.ofExcept _) fun _ => success _ _ _
  · exact fun _ _ _ _ _ hbuffered => afterExcept _ (fun _ => .failure hbuffered) hbuffered

/-- The second half of a choice.  Where the first parser succeeded the cursors it left are level;
where it failed they are not needed, because then the second result is at least as good unless it
is a failure too. -/
theorem orElseRight
    {left : Result}
    {leftEnd leftEnd' : Nat}
    (hleft : left.isSuccess = true → leftEnd = leftEnd')
    (hq : q.Agree q') :
    Parser.Agree
      (do
        let right ← q
        let rightEnd ← Scan.save
        Scan.revert ((left.side right).pick leftEnd rightEnd)
        Scan.ofExcept (left.either right))
      (do
        let right ← q'
        let rightEnd ← Scan.save
        Scan.revert ((left.side right).pick leftEnd' rightEnd)
        Scan.ofExcept (left.either right)) := by
  cases left with
  | success recovered output alt =>
      rw [hleft rfl]
      refine hq.bind ?_ ?_
      · exact fun _ _ _ =>
          after Even.save fun _ => after (Even.revert _) fun _ => ofExcept _
      · intro recovered' error src c d hbuffered
        exact .success ⟨rfl, hbuffered⟩
  | failure recovered error =>
      refine hq.bind ?_ ?_
      · intro recovered' output alt
        refine after Even.save fun rightEnd => ?_
        cases recovered' with
        | nil => exact after (Even.revert _) fun _ => ofExcept _
        | cons l ls => exact after (Even.revert _) fun _ => ofExcept _
      · intro recovered' error' src c d hbuffered
        simp only [Scan.bind_apply, Scan.save_apply, Scan.revert_apply, Result.either]
        by_cases hposition : error.position = error'.position
        · rw [if_pos hposition]
          cases error.max (some error') with
          | ok error'' => exact .failure hbuffered
          | error f => exact .halted hbuffered
        · rw [if_neg hposition]
          cases Result.side (.failure recovered error) (.failure recovered' error') with
          | left => exact .failure hbuffered
          | right => exact .failure hbuffered

theorem orElse (hp : p.Agree p') (hq : q.Agree q') : (orElse p q).Agree (orElse p' q') := by
  intro src c d hlevel
  have hends := hp src c d hlevel
  simp only [Parser.orElse, Scan.bind_apply, Scan.save_apply]
  generalize p src c = o at hends
  generalize p' src d = o' at hends
  cases hends with
  | halted hbuffered => exact .halted hbuffered
  | failure hbuffered =>
      exact orElseRight (fun h => by cases h) hq src _ _ ⟨hlevel.1, hbuffered⟩
  | @success recovered output alt c' d' hlevel' =>
      cases recovered with
      | nil => exact .success hlevel'
      | cons l ls =>
          exact orElseRight (fun _ => hlevel'.1) hq src _ _ ⟨hlevel.1, hlevel'.2⟩

theorem optional (hp : p.Agree p') : (optional p).Agree (optional p') := by
  refine after (Even.tryParse hp) fun r => ?_
  cases r with
  | success recovered output alt => exact success _ _ _
  | failure recovered error => exact success _ _ _

theorem step
    {k k' : Value → List Located → Option Located → Parser}
    (hp : p.Agree p')
    (hk : ∀ output recovered alt, (k output recovered alt).Agree (k' output recovered alt))
    (recovered : List Located)
    (alt : Option Located) :
    (step p k recovered alt).Agree (step p' k' recovered alt) := by
  refine hp.bind ?_ ?_
  · exact fun _ _ _ => after (Even.ofExcept _) fun _ => hk _ _ _
  · exact fun _ _ _ _ _ hbuffered => afterExcept _ (fun _ => .failure hbuffered) hbuffered

end Sequences

section Repetitions

theorem rounds (minimum : Nat) : (rounds minimum).Even (rounds minimum) :=
  Even.source.bind fun _ => Even.save.bind fun _ => Even.pure _

theorem repeatedFrom
    (hp : p.Agree p')
    (minimum : Nat)
    (maximum : Option Nat)
    (bound : Nat)
    (recovered : List Located)
    (outputs : List Value)
    (alt : Option Located) :
    (repeatedFrom p minimum maximum bound recovered outputs alt).Agree
      (repeatedFrom p' minimum maximum bound recovered outputs alt) := by
  induction bound generalizing recovered outputs alt with
  | zero => exact exhausted
  | succ bound ih =>
      unfold Parser.repeatedFrom
      by_cases hfull : maximum.any (· ≤ outputs.length) = true
      · simp only [if_pos hfull]
        exact success _ _ _
      · simp only [if_neg hfull]
        refine after Even.save fun before => hp.bind ?_ ?_
        · intro recovered' output alt'
          refine after (Even.ofExcept _) fun alt'' => after Even.save fun stop => ?_
          by_cases hstall : minimum ≤ outputs.length ∧ stop = before
          · simp only [if_pos hstall]
            exact after (Even.report _ _) fun _ => success _ _ _
          · simp only [if_neg hstall]
            exact ih _ _ _
        · intro recovered' error src c d hbuffered
          by_cases hshort : outputs.length < minimum
          · simp only [if_pos hshort]
            exact .failure hbuffered
          · simp only [if_neg hshort]
            refine afterRevert _ ?_ hbuffered
            exact after (Even.ofExcept _) fun _ => after (Even.ofExcept _) fun _ => success _ _ _

theorem repeated (hp : p.Agree p') (minimum : Nat) (maximum : Option Nat) :
    (repeated p minimum maximum).Agree (repeated p' minimum maximum) :=
  after (rounds minimum) fun _ => hp.repeatedFrom _ _ _ _ _ _

theorem separatedEnd
    (minimum : Nat)
    (recovered : List Located)
    (outputs : List Value)
    (alt : Option Located) :
    (separatedEnd minimum recovered outputs alt).Agree
      (separatedEnd minimum recovered outputs alt) := by
  unfold Parser.separatedEnd
  by_cases hshort : outputs.length < minimum
  · simp only [if_pos hshort]
    exact ofExcept _
  · simp only [if_neg hshort]
    exact success _ _ _

theorem separatedFrom
    (hp : p.Agree p')
    (hq : q.Agree q')
    (minimum : Nat)
    (trailing : Bool)
    (bound : Nat)
    (recovered : List Located)
    (outputs : List Value)
    (alt : Option Located) :
    (separatedFrom p q minimum trailing bound recovered outputs alt).Agree
      (separatedFrom p' q' minimum trailing bound recovered outputs alt) := by
  induction bound generalizing recovered outputs alt with
  | zero => exact exhausted
  | succ bound ih =>
      unfold Parser.separatedFrom
      refine after Even.save fun before => hq.bind ?_ ?_
      · intro recoveredSep outputSep altSep
        refine after Even.save fun afterSeparator => hp.bind ?_ ?_
        · intro recoveredItem output altItem
          refine after (Even.ofExcept _) fun reached => after (Even.ofExcept _) fun alt' =>
            after Even.save fun stop => ?_
          by_cases hstall : minimum ≤ outputs.length ∧ stop = before
          · simp only [if_pos hstall]
            exact after (Even.report _ _) fun _ => separatedEnd _ _ _ _
          · simp only [if_neg hstall]
            exact ih _ _ _
        · intro recoveredItem error src c d hbuffered
          refine afterExcept _ (fun alt' => ?_) hbuffered
          cases trailing with
          | true => exact afterRevert _ (separatedEnd _ _ _ _) hbuffered
          | false => exact afterRevert _ (separatedEnd _ _ _ _) hbuffered
      · intro recoveredSep error src c d hbuffered
        refine afterRevert _ ?_ hbuffered
        exact after (Even.ofExcept _) fun _ => separatedEnd _ _ _ _

theorem leadingSeparator (hq : q.Agree q') (allowed : Bool) :
    (leadingSeparator q allowed).Even (leadingSeparator q' allowed) := by
  cases allowed with
  | false => exact Even.pure _
  | true =>
      refine (Even.tryParse hq).bind fun r => ?_
      cases r with
      | success recovered output alt => exact Even.pure _
      | failure recovered error => exact Even.pure _

theorem separatedBy
    (hp : p.Agree p')
    (hq : q.Agree q')
    (minimum : Nat)
    (leading trailing : Bool) :
    (separatedBy p q minimum leading trailing).Agree
      (separatedBy p' q' minimum leading trailing) := by
  refine after (hq.leadingSeparator leading) fun first => after (Even.tryParse hp) fun r => ?_
  cases r with
  | success recovered output alt =>
      exact after (Even.ofExcept _) fun _ => after (rounds minimum) fun _ =>
        hp.separatedFrom hq _ _ _ _ _ _
  | failure recovered error => exact after (Even.ofExcept _) fun _ => separatedEnd _ _ _ _

end Repetitions

section Recovery

theorem giveUp (recovered : List Located) (fatal : Located) (skipped : Nat) :
    (Strategy.skipAndRetry.giveUp recovered fatal skipped).Agree
      (Strategy.skipAndRetry.giveUp recovered fatal skipped) :=
  after Even.save fun _ => after (Even.report _ _) fun _ => failure _ _

theorem skipAndRetry
    (hp : p.Agree p')
    (sentinels : List Value)
    (recovered : List Located)
    (fatal : Located)
    (remaining skipped : Nat) :
    (Strategy.skipAndRetry p sentinels recovered fatal remaining skipped).Agree
      (Strategy.skipAndRetry p' sentinels recovered fatal remaining skipped) := by
  induction remaining generalizing skipped with
  | zero =>
      unfold Strategy.skipAndRetry
      exact after Even.peek fun _ => giveUp _ _ _
  | succ remaining ih =>
      unfold Strategy.skipAndRetry
      refine after Even.peek fun seen => ?_
      by_cases hstop : seen.token = .null ∨ seen.token ∈ sentinels
      · simp only [if_pos hstop]
        exact giveUp _ _ _
      · simp only [if_neg hstop]
        refine after (Even.revert _) fun _ => after (Even.tryParse hp) fun r => ?_
        cases r with
        | success recovered' output alt =>
            exact after Even.save fun _ => after (Even.report _ _) fun _ => success _ _ _
        | failure recovered' error => exact ih _

theorem skipGroup
    (rules : Walk.Rules)
    (default : Value)
    (recovered : List Located)
    (fatal : Located) :
    (Strategy.skipGroup rules default recovered fatal).Agree
      (Strategy.skipGroup rules default recovered fatal) := by
  refine after Even.source fun src => after Even.save fun start =>
    after (Even.lookAt _) fun _ => after (Even.revert _) fun _ =>
      after (Even.ofExcept _) fun verdict => ?_
  by_cases hclosed : verdict.1 = true
  · simp only [if_pos hclosed]
    exact after (Even.report _ _) fun _ => success _ _ _
  · simp only [if_neg hclosed]
    exact after (Even.report _ _) fun _ => failure _ _

theorem recover
    (hp : p.Agree p')
    (s : Strategy)
    (recovered : List Located)
    (fatal : Located) :
    (s.recover p recovered fatal).Agree (s.recover p' recovered fatal) := by
  cases s with
  | skipThenRetry sentinels =>
      exact after Even.source fun _ => after Even.save fun _ => hp.skipAndRetry _ _ _ _ _
  | nestedDelimiters opening closing others default => exact skipGroup _ _ _ _
  | defaultOutput value => exact success _ _ _

theorem recoverWith (hp : p.Agree p') (s : Strategy) :
    (recoverWith p s).Agree (recoverWith p' s) := by
  refine after (Even.tryParse hp) fun r => ?_
  cases r with
  | success recovered output alt => exact success _ _ _
  | failure recovered error => exact after (Even.report _ _) fun _ => hp.recover s _ _

end Recovery

end Agree
end Parser
end Resync
