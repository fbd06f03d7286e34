import Resync.Grammar.Environment

/-!
# Runs that return

A scan is a chain of steps, and a run of it returns exactly if every step does.  This module says
what each step does to the cursor, and then, for every parser that runs other parsers, which of
them a run that returned has run, from where, and how its answer came about.  For sequences it says
what they return, too, if one knows what their parts do.

Proofs about runs use these statements and open no parser.
-/

namespace Resync

/-- The cursor moved to an offset. -/
def Cursor.moved (cur : Cursor) (offset : Nat) : Cursor := { cur with offset := offset }

/-- The cursor after the token at `i` was looked at. -/
def Cursor.looked (cur : Cursor) (src : Source) (i : Nat) : Cursor :=
  { cur with buffered := max cur.buffered (min src.size (i + 1)) }

namespace Cursor

variable (cur : Cursor) (src : Source) (i : Nat)

@[simp] theorem moved_offset : (cur.moved i).offset = i := rfl

@[simp] theorem moved_buffered : (cur.moved i).buffered = cur.buffered := rfl

@[simp] theorem moved_trail : (cur.moved i).trail = cur.trail := rfl

@[simp] theorem looked_offset : (cur.looked src i).offset = cur.offset := rfl

@[simp] theorem looked_trail : (cur.looked src i).trail = cur.trail := rfl

@[simp] theorem looked_buffered :
    (cur.looked src i).buffered = max cur.buffered (min src.size (i + 1)) := rfl

end Cursor

namespace Source

/-- What is seen at a position is seen there. -/
@[simp] theorem sighting_position (src : Source) (i : Nat) : (src.sighting i).position = i := by
  unfold sighting
  split
  · rfl
  · rfl

/-- The offset after the token at `i` was taken: the end of the input is never passed. -/
def after (src : Source) (i : Nat) : Nat :=
  if (src.sighting i).token = .null then i else i + 1

/-- The span of the tokens from `start` on, as far as they lie before `stop`. -/
def spanBetween (src : Source) (start stop : Nat) : Except Fault Span :=
  if stop ≤ start then
    .ok (src.sighting start).span.front
  else
    (src.sighting start).span.through (src.sighting (stop - 1)).span

end Source

namespace Scan

variable {α β : Type} {src : Source} {cur cur' : Cursor}

section Steps

theorem save_apply : save src cur = .done cur.offset cur := rfl

theorem revert_apply (i : Nat) : revert i src cur = .done () (cur.moved i) := rfl

theorem lookAt_apply (i : Nat) : lookAt i src cur = .done (src.sighting i) (cur.looked src i) := rfl

theorem halt_apply (cause : Halt) : (halt cause : Scan α) src cur = .halted cause cur := rfl

theorem peek_apply :
    peek src cur = .done (src.sighting cur.offset) (cur.looked src cur.offset) := rfl

/-- Taking a token looks at it and moves the cursor behind it. -/
theorem next_apply :
    next src cur =
      .done (src.sighting cur.offset)
        ((cur.looked src cur.offset).moved (src.after cur.offset)) := by
  unfold next Source.after
  by_cases h : (src.sighting cur.offset).token = .null
  · simp [peek_apply, h]
    rfl
  · simp [peek_apply, revert_apply, h]

/-- A parser is tried: the cursor of a failure is moved back. -/
theorem tryParse_apply (p : Parser) :
    tryParse p src cur =
      match p src cur with
      | .done (.success recovered output alt) cur' => .done (.success recovered output alt) cur'
      | .done (.failure recovered error) cur' =>
          .done (.failure recovered error) (cur'.moved cur.offset)
      | .halted cause cur' => .halted cause cur' := by
  unfold tryParse
  simp only [bind_apply, save_apply]
  cases p src cur with
  | halted cause cur' => rfl
  | done r cur' =>
      cases r with
      | success recovered output alt => rfl
      | failure recovered error => rfl

/-- The span since `start` is that of the tokens between there and the cursor. -/
theorem spanSince_apply (start : Nat) :
    spanSince start src cur =
      let cur' := cur.looked src start
      let cur'' := if cur.offset ≤ start then cur' else cur'.looked src (cur.offset - 1)
      match src.spanBetween start cur.offset with
      | .ok span => .done span cur''
      | .error f => .halted (.fault f) cur'' := by
  unfold spanSince Source.spanBetween
  by_cases h : cur.offset ≤ start
  · simp [lookAt_apply, save_apply, h]
  · simp only [bind_apply, lookAt_apply, save_apply, Cursor.looked_offset, h, if_false]
    cases (src.sighting start).span.through (src.sighting (cur.offset - 1)).span with
    | ok span => rfl
    | error f => rfl

end Steps

section Returns

variable {a b : α}

/-- A chain of two steps returns if the first does and then the second. -/
theorem bind_eq_done {x : Scan α} {f : α → Scan β} {b : β} :
    (x >>= f) src cur = .done b cur' ↔
      ∃ a mid, x src cur = .done a mid ∧ f a src mid = .done b cur' := by
  rw [bind_apply]
  cases x src cur with
  | done a mid =>
      constructor
      · intro h
        exact ⟨a, mid, rfl, h⟩
      · rintro ⟨a', mid', h, h'⟩
        cases h
        exact h'
  | halted cause mid =>
      constructor
      · intro h
        cases h
      · rintro ⟨a', mid', h, -⟩
        cases h

/-- What was computed without the source returns with its value and leaves the cursor. -/
theorem ofExcept_eq_done {e : Except Fault α} :
    ofExcept e src cur = .done a cur' ↔ e = .ok a ∧ cur' = cur := by
  cases e with
  | ok a' => simp [eq_comm]
  | error f => simp [halt_apply]

theorem pure_eq_done : (pure a : Scan α) src cur = .done b cur' ↔ b = a ∧ cur' = cur := by
  simp [eq_comm]

theorem mergeAlts_eq_done {l m n : Option Located} :
    mergeAlts l m src cur = .done n cur' ↔ Located.mergeAlts l m = .ok n ∧ cur' = cur :=
  ofExcept_eq_done

/-- A span that was returned leaves the cursor where it is. -/
theorem spanSince_eq_done
    {start : Nat}
    {span : Span}
    (h : spanSince start src cur = .done span cur') :
    src.spanBetween start cur.offset = .ok span ∧
      cur'.offset = cur.offset ∧ cur'.trail = cur.trail := by
  rw [spanSince_apply] at h
  revert h
  cases src.spanBetween start cur.offset with
  | error f =>
      intro h
      cases h
  | ok span' =>
      intro h
      cases h
      refine ⟨rfl, ?_, ?_⟩
      · split <;> rfl
      · split <;> rfl

end Returns

end Scan

/-- Whether a source holds some tokens, one after another, from a position on. -/
def Source.Holds (src : Source) : Nat → List Value → Prop
  | _, [] => True
  | i, token :: tokens =>
      (src.sighting i).token ≠ .null ∧ (src.sighting i).token = token ∧ src.Holds (i + 1) tokens

/-- A result is a failure to find something expected, stated in the given dialect. -/
def Result.Missed (dialect : Dialect) (r : Result) : Prop :=
  ∃ i span expected found error,
    dialect.expecting span expected found = .ok error ∧ r = .failure [] ⟨i, error⟩

namespace Parser

open Scan

variable {src : Source} {cur cur' : Cursor} {r : Result} {dialect : Dialect}

section Primitives

theorem unexpected_done
    {seen : Sighting}
    {expected : List Value}
    (h : unexpected dialect seen expected src cur = .done r cur') :
    r.Missed dialect ∧ cur' = cur := by
  obtain ⟨error, mid, hexpecting, hrest⟩ := bind_eq_done.1 h
  obtain ⟨herror, rfl⟩ := ofExcept_eq_done.1 hexpecting
  obtain ⟨rfl, rfl⟩ := pure_eq_done.1 hrest
  exact ⟨⟨_, _, _, _, error, herror, rfl⟩, rfl⟩

/-- A token that passes the test is the output. -/
theorem satisfy_of_passed
    {test : Value → Except Fault Bool}
    (dialect : Dialect)
    (expected : List Value)
    (hnull : (src.sighting cur.offset).token ≠ .null)
    (htest : test (src.sighting cur.offset).token = .ok true) :
    ∃ cur', satisfy dialect expected test src cur =
        .done (.success [] (src.sighting cur.offset).token none) cur' ∧
      cur'.offset = cur.offset + 1 := by
  have hafter : src.after cur.offset = cur.offset + 1 := if_neg hnull
  refine ⟨(cur.looked src cur.offset).moved (src.after cur.offset), ?_, hafter⟩
  unfold satisfy
  simp only [bind_apply, next_apply, if_neg hnull, htest, ofExcept_ok, pure_apply, if_true]

/-- Any other token, and the end of the input, is a failure there, if it can be stated. -/
theorem satisfy_of_missed
    (test : Value → Except Fault Bool)
    {expected : List Value}
    {error : Diagnostic}
    (hmiss : (src.sighting cur.offset).token = .null ∨
      test (src.sighting cur.offset).token = .ok false)
    (herror : dialect.expecting (src.sighting cur.offset).span expected
      (src.sighting cur.offset).token = .ok error) :
    ∃ cur', satisfy dialect expected test src cur =
      .done (.failure [] ⟨cur.offset, error⟩) cur' := by
  refine ⟨(cur.looked src cur.offset).moved (src.after cur.offset), ?_⟩
  unfold satisfy unexpected
  simp only [bind_apply, next_apply]
  by_cases hnull : (src.sighting cur.offset).token = .null
  · simp only [if_pos hnull, bind_apply, herror, ofExcept_ok, pure_apply,
      Source.sighting_position]
  · simp only [if_neg hnull, hmiss.resolve_left hnull, ofExcept_ok, pure_apply, bind_apply, herror,
      Source.sighting_position, Bool.false_eq_true, if_false]

/-- A token that passes the test is taken; any other, and the end of the input, is a failure. -/
theorem satisfy_done
    {expected : List Value}
    {test : Value → Except Fault Bool}
    (h : satisfy dialect expected test src cur = .done r cur') :
    cur'.trail = cur.trail ∧
      (((src.sighting cur.offset).token ≠ .null ∧
          test (src.sighting cur.offset).token = .ok true ∧
          r = .success [] (src.sighting cur.offset).token none ∧
          cur'.offset = cur.offset + 1) ∨
        (((src.sighting cur.offset).token = .null ∨
            test (src.sighting cur.offset).token = .ok false) ∧
          r.Missed dialect)) := by
  obtain ⟨seen, mid, hseen, h⟩ := bind_eq_done.1 h
  rw [next_apply] at hseen
  cases hseen
  by_cases hnull : (src.sighting cur.offset).token = .null
  · rw [if_pos hnull] at h
    obtain ⟨hmissed, rfl⟩ := unexpected_done h
    exact ⟨rfl, Or.inr ⟨Or.inl hnull, hmissed⟩⟩
  · rw [if_neg hnull] at h
    obtain ⟨passed, mid, htest, hrest⟩ := bind_eq_done.1 h
    obtain ⟨hpassed, rfl⟩ := ofExcept_eq_done.1 htest
    cases passed with
    | true =>
        obtain ⟨rfl, rfl⟩ := pure_eq_done.1 hrest
        exact ⟨rfl, Or.inl ⟨hnull, hpassed, rfl, by simp [Source.after, hnull]⟩⟩
    | false =>
        obtain ⟨hmissed, rfl⟩ := unexpected_done hrest
        exact ⟨rfl, Or.inr ⟨Or.inr hpassed, hmissed⟩⟩

/-- A sequence of tokens is taken as a whole, or some token of it is missed. -/
theorem seqFrom_done
    {all tokens : List Value}
    (h : seqFrom dialect all tokens src cur = .done r cur') :
    cur'.trail = cur.trail ∧
      ((src.Holds cur.offset tokens ∧
          r = .success [] (.list all) none ∧
          cur'.offset = cur.offset + tokens.length) ∨
        (¬ src.Holds cur.offset tokens ∧ r.Missed dialect)) := by
  induction tokens generalizing cur with
  | nil =>
      obtain ⟨rfl, rfl⟩ := pure_eq_done.1 h
      exact ⟨rfl, Or.inl ⟨trivial, rfl, rfl⟩⟩
  | cons token tokens ih =>
      obtain ⟨seen, mid, hseen, h⟩ := bind_eq_done.1 h
      rw [next_apply] at hseen
      cases hseen
      by_cases hmatch :
          (src.sighting cur.offset).token = .null ∨ (src.sighting cur.offset).token ≠ token
      · rw [if_pos hmatch] at h
        obtain ⟨hmissed, rfl⟩ := unexpected_done h
        refine ⟨rfl, Or.inr ⟨?_, hmissed⟩⟩
        rintro ⟨hnull, htoken, -⟩
        rcases hmatch with hmatch | hmatch
        · exact hnull hmatch
        · exact hmatch htoken
      · rw [if_neg hmatch] at h
        simp only [not_or, ne_eq, Decidable.not_not] at hmatch
        obtain ⟨htrail, h⟩ := ih h
        have hafter : src.after cur.offset = cur.offset + 1 := by
          simp [Source.after, hmatch.1]
        simp only [Cursor.moved_offset, hafter] at h
        refine ⟨htrail, ?_⟩
        rcases h with ⟨hholds, hr, hoffset⟩ | ⟨hholds, hmissed⟩
        · refine Or.inl ⟨⟨hmatch.1, hmatch.2, hholds⟩, hr, ?_⟩
          simp only [hoffset, List.length_cons]
          omega
        · exact Or.inr ⟨fun hall => hholds hall.2.2, hmissed⟩

/-- A token is taken and transformed, or rejected; at the end of the input it is missed. -/
theorem filterMap_done
    {f : Span → Value → Except Fault Verdict}
    (h : filterMap dialect f src cur = .done r cur') :
    ((src.sighting cur.offset).token = .null ∧ r.Missed dialect) ∨
      ((src.sighting cur.offset).token ≠ .null ∧
        ((∃ output,
            f (src.sighting cur.offset).span (src.sighting cur.offset).token =
              .ok (.accept output) ∧
            r = .success [] output none ∧
            cur'.offset = cur.offset + 1) ∨
          (∃ error,
            f (src.sighting cur.offset).span (src.sighting cur.offset).token =
              .ok (.reject error) ∧
            r = .failure [] ⟨cur.offset, error⟩))) := by
  obtain ⟨seen, mid, hseen, h⟩ := bind_eq_done.1 h
  rw [next_apply] at hseen
  cases hseen
  by_cases hnull : (src.sighting cur.offset).token = .null
  · rw [if_pos hnull] at h
    exact Or.inl ⟨hnull, (unexpected_done h).1⟩
  · rw [if_neg hnull] at h
    obtain ⟨verdict, mid, hanswer, hrest⟩ := bind_eq_done.1 h
    obtain ⟨hverdict, rfl⟩ := ofExcept_eq_done.1 hanswer
    refine Or.inr ⟨hnull, ?_⟩
    cases verdict with
    | accept output =>
        obtain ⟨rfl, rfl⟩ := pure_eq_done.1 hrest
        exact Or.inl ⟨output, hverdict, rfl, by simp [Source.after, hnull]⟩
    | reject error =>
        obtain ⟨rfl, rfl⟩ := pure_eq_done.1 hrest
        exact Or.inr ⟨error, hverdict, by simp⟩

/-- The end of the input is matched where the token is null, and nothing is consumed. -/
theorem endOfInput_done (h : endOfInput dialect src cur = .done r cur') :
    cur'.trail = cur.trail ∧
      (((src.sighting cur.offset).token = .null ∧
          r = .success [] .null none ∧
          cur'.offset = cur.offset) ∨
        ((src.sighting cur.offset).token ≠ .null ∧ r.Missed dialect)) := by
  obtain ⟨seen, mid, hseen, h⟩ := bind_eq_done.1 h
  rw [next_apply] at hseen
  cases hseen
  by_cases hnull : (src.sighting cur.offset).token = .null
  · rw [if_pos hnull] at h
    obtain ⟨rfl, rfl⟩ := pure_eq_done.1 h
    exact ⟨rfl, Or.inl ⟨hnull, rfl, by simp [Source.after, hnull]⟩⟩
  · rw [if_neg hnull] at h
    obtain ⟨hmissed, rfl⟩ := unexpected_done h
    exact ⟨rfl, Or.inr ⟨hnull, hmissed⟩⟩

end Primitives

section Outputs

variable {p : Parser}

/-- The output of a success is mapped, and a failure is passed on. -/
theorem map_done
    {f : Value → Except Fault Value}
    (h : map f p src cur = .done r cur') :
    (∃ recovered output alt output',
        p src cur = .done (.success recovered output alt) cur' ∧
        f output = .ok output' ∧
        r = .success recovered output' alt) ∨
      (∃ recovered error,
        p src cur = .done (.failure recovered error) cur' ∧
        r = .failure recovered error) := by
  obtain ⟨result, mid, hp, hrest⟩ := bind_eq_done.1 h
  cases result with
  | success recovered output alt =>
      obtain ⟨output', stop, happly, hreturn⟩ := bind_eq_done.1 hrest
      obtain ⟨hf, rfl⟩ := ofExcept_eq_done.1 happly
      obtain ⟨rfl, rfl⟩ := pure_eq_done.1 hreturn
      exact Or.inl ⟨recovered, output, alt, output', hp, hf, rfl⟩
  | failure recovered error =>
      obtain ⟨rfl, rfl⟩ := pure_eq_done.1 hrest
      exact Or.inr ⟨recovered, error, hp, rfl⟩

section Known

variable {f : Value → Except Fault Value} {recovered : List Located} {output : Value}
variable {alt : Option Located}

theorem map_of_success
    {output' : Value}
    (hp : p src cur = .done (.success recovered output alt) cur')
    (hf : f output = .ok output') :
    map f p src cur = .done (.success recovered output' alt) cur' := by
  unfold map
  simp only [bind_apply, hp, hf, ofExcept_ok, pure_apply]

theorem map_of_failure
    {error : Located}
    (hp : p src cur = .done (.failure recovered error) cur')
    (f : Value → Except Fault Value) :
    map f p src cur = .done (.failure recovered error) cur' := by
  unfold map
  simp only [bind_apply, hp, pure_apply]

/-- A success whose output is mapped was one before. -/
theorem map_success
    (h : map f p src cur = .done (.success recovered output alt) cur') :
    ∃ output',
      p src cur = .done (.success recovered output' alt) cur' ∧ f output' = .ok output := by
  rcases map_done h with ⟨_, output', _, _, hp, hf, hr⟩ | ⟨_, _, -, hr⟩
  · cases hr
    exact ⟨output', hp, hf⟩
  · cases hr

/-- A failure is not mapped. -/
theorem map_failure
    {error : Located}
    (h : map f p src cur = .done (.failure recovered error) cur') :
    p src cur = .done (.failure recovered error) cur' := by
  rcases map_done h with ⟨_, _, _, _, -, -, hr⟩ | ⟨_, _, hp, hr⟩
  · cases hr
  · cases hr
    exact hp

end Known

/-- The output of a success is mapped together with the span that was consumed. -/
theorem mapWithSpan_done
    {f : Value → Span → Except Fault Value}
    (h : mapWithSpan f p src cur = .done r cur') :
    (∃ recovered output alt mid span output',
        p src cur = .done (.success recovered output alt) mid ∧
        src.spanBetween cur.offset mid.offset = .ok span ∧
        f output span = .ok output' ∧
        r = .success recovered output' alt ∧
        cur'.offset = mid.offset ∧ cur'.trail = mid.trail) ∨
      (∃ recovered error,
        p src cur = .done (.failure recovered error) cur' ∧
        r = .failure recovered error) := by
  obtain ⟨start, first, hsave, hrun⟩ := bind_eq_done.1 h
  cases hsave
  obtain ⟨result, mid, hp, hrest⟩ := bind_eq_done.1 hrun
  cases result with
  | success recovered output alt =>
      obtain ⟨span, last, hspan, hmap⟩ := bind_eq_done.1 hrest
      obtain ⟨hbetween, hoffset, htrail⟩ := spanSince_eq_done hspan
      obtain ⟨output', stop, happly, hreturn⟩ := bind_eq_done.1 hmap
      obtain ⟨hf, rfl⟩ := ofExcept_eq_done.1 happly
      obtain ⟨rfl, rfl⟩ := pure_eq_done.1 hreturn
      exact Or.inl
        ⟨recovered, output, alt, mid, span, output', hp, hbetween, hf, rfl, hoffset, htrail⟩
  | failure recovered error =>
      obtain ⟨rfl, rfl⟩ := pure_eq_done.1 hrest
      exact Or.inr ⟨recovered, error, hp, rfl⟩

/-- The output of a success is accepted, or rejected where the parser started. -/
theorem tryMap_done
    {f : Value → Span → Except Fault Verdict}
    (h : tryMap f p src cur = .done r cur') :
    (∃ recovered output alt mid span verdict,
        p src cur = .done (.success recovered output alt) mid ∧
        src.spanBetween cur.offset mid.offset = .ok span ∧
        f output span = .ok verdict ∧
        cur'.offset = mid.offset ∧ cur'.trail = mid.trail ∧
        ((∃ output', verdict = .accept output' ∧ r = .success recovered output' alt) ∨
          (∃ error, verdict = .reject error ∧ r = .failure recovered ⟨cur.offset, error⟩))) ∨
      (∃ recovered error,
        p src cur = .done (.failure recovered error) cur' ∧
        r = .failure recovered error) := by
  obtain ⟨start, first, hsave, hrun⟩ := bind_eq_done.1 h
  cases hsave
  obtain ⟨result, mid, hp, hrest⟩ := bind_eq_done.1 hrun
  cases result with
  | success recovered output alt =>
      obtain ⟨span, last, hspan, hmap⟩ := bind_eq_done.1 hrest
      obtain ⟨hbetween, hoffset, htrail⟩ := spanSince_eq_done hspan
      obtain ⟨verdict, stop, happly, hreturn⟩ := bind_eq_done.1 hmap
      obtain ⟨hf, rfl⟩ := ofExcept_eq_done.1 happly
      refine Or.inl ⟨recovered, output, alt, mid, span, verdict, hp, hbetween, hf, ?_⟩
      cases verdict with
      | accept output' =>
          obtain ⟨rfl, rfl⟩ := pure_eq_done.1 hreturn
          exact ⟨hoffset, htrail, Or.inl ⟨output', rfl, rfl⟩⟩
      | reject error =>
          obtain ⟨rfl, rfl⟩ := pure_eq_done.1 hreturn
          exact ⟨hoffset, htrail, Or.inr ⟨error, rfl, rfl⟩⟩
  | failure recovered error =>
      obtain ⟨rfl, rfl⟩ := pure_eq_done.1 hrest
      exact Or.inr ⟨recovered, error, hp, rfl⟩

/-- Only the diagnostic of a failure is mapped. -/
theorem mapError_done
    {f : Diagnostic → Diagnostic}
    (h : mapError f p src cur = .done r cur') :
    (∃ recovered output alt,
        p src cur = .done (.success recovered output alt) cur' ∧
        r = .success recovered output alt) ∨
      (∃ recovered error,
        p src cur = .done (.failure recovered error) cur' ∧
        r = .failure recovered (error.map f)) := by
  obtain ⟨result, mid, hp, hrest⟩ := bind_eq_done.1 h
  cases result with
  | success recovered output alt =>
      obtain ⟨rfl, rfl⟩ := pure_eq_done.1 hrest
      exact Or.inl ⟨recovered, output, alt, hp, rfl⟩
  | failure recovered error =>
      obtain ⟨rfl, rfl⟩ := pure_eq_done.1 hrest
      exact Or.inr ⟨recovered, error, hp, rfl⟩

/-- The diagnostic that a result carries is relabelled, and nothing else. -/
theorem labelled_done
    {label : String}
    (h : labelled label p src cur = .done r cur') :
    (∃ recovered output alt,
        p src cur = .done (.success recovered output alt) cur' ∧
        r = .success recovered output (alt.map (relabel label cur.offset))) ∨
      (∃ recovered error,
        p src cur = .done (.failure recovered error) cur' ∧
        r = .failure recovered (relabel label cur.offset error)) := by
  obtain ⟨start, first, hsave, hrun⟩ := bind_eq_done.1 h
  cases hsave
  obtain ⟨result, mid, hp, hrest⟩ := bind_eq_done.1 hrun
  cases result with
  | success recovered output alt =>
      obtain ⟨rfl, rfl⟩ := pure_eq_done.1 hrest
      exact Or.inl ⟨recovered, output, alt, hp, rfl⟩
  | failure recovered error =>
      obtain ⟨rfl, rfl⟩ := pure_eq_done.1 hrest
      exact Or.inr ⟨recovered, error, hp, rfl⟩

end Outputs

section Sequences

variable {p q : Parser}

/-- The second parser is run where the first one succeeded, and goes on from its cursor. -/
theorem andThen_done (h : andThen p q src cur = .done r cur') :
    (∃ recovered error,
        p src cur = .done (.failure recovered error) cur' ∧
        r = .failure recovered error) ∨
      (∃ recovered output alt mid,
        p src cur = .done (.success recovered output alt) mid ∧
        ((∃ recovered' output' alt' alt'',
            q src mid = .done (.success recovered' output' alt') cur' ∧
            Located.mergeAlts alt alt' = .ok alt'' ∧
            r = .success (recovered ++ recovered') (.tuple [output, output']) alt'') ∨
          (∃ recovered' error error',
            q src mid = .done (.failure recovered' error) cur' ∧
            error.max alt = .ok error' ∧
            r = .failure (recovered ++ recovered') error'))) := by
  obtain ⟨first, mid, hp, hrun⟩ := bind_eq_done.1 h
  cases first with
  | failure recovered error =>
      obtain ⟨rfl, rfl⟩ := pure_eq_done.1 hrun
      exact Or.inl ⟨recovered, error, hp, rfl⟩
  | success recovered output alt =>
      refine Or.inr ⟨recovered, output, alt, mid, hp, ?_⟩
      obtain ⟨second, last, hq, hrest⟩ := bind_eq_done.1 hrun
      cases second with
      | success recovered' output' alt' =>
          obtain ⟨alt'', stop, hmerged, hreturn⟩ := bind_eq_done.1 hrest
          obtain ⟨hmerge, rfl⟩ := mergeAlts_eq_done.1 hmerged
          obtain ⟨rfl, rfl⟩ := pure_eq_done.1 hreturn
          exact Or.inl ⟨recovered', output', alt', alt'', hq, hmerge, rfl⟩
      | failure recovered' error =>
          obtain ⟨error', stop, hmerged, hreturn⟩ := bind_eq_done.1 hrest
          obtain ⟨hmax, rfl⟩ := ofExcept_eq_done.1 hmerged
          obtain ⟨rfl, rfl⟩ := pure_eq_done.1 hreturn
          exact Or.inr ⟨recovered', error, error', hq, hmax, rfl⟩

section Known

variable {recovered recovered' : List Located} {output output' : Value}
variable {alt alt' alt'' : Option Located} {error : Located} {mid : Cursor}

theorem andThen_of_success
    (hp : p src cur = .done (.success recovered output alt) mid)
    (hq : q src mid = .done (.success recovered' output' alt') cur')
    (hmerge : Located.mergeAlts alt alt' = .ok alt'') :
    andThen p q src cur =
      .done (.success (recovered ++ recovered') (.tuple [output, output']) alt'') cur' := by
  unfold andThen
  simp only [bind_apply, hp, hq, Scan.mergeAlts, hmerge, ofExcept_ok, pure_apply]

theorem andThen_of_failure
    (hp : p src cur = .done (.failure recovered error) cur')
    (q : Parser) :
    andThen p q src cur = .done (.failure recovered error) cur' := by
  unfold andThen
  simp only [bind_apply, hp, pure_apply]

theorem andThen_of_success_failure
    {error' : Located}
    (hp : p src cur = .done (.success recovered output alt) mid)
    (hq : q src mid = .done (.failure recovered' error) cur')
    (hmax : error.max alt = .ok error') :
    andThen p q src cur = .done (.failure (recovered ++ recovered') error') cur' := by
  unfold andThen
  simp only [bind_apply, hp, hq, hmax, ofExcept_ok, pure_apply]

/-- Both parts of a sequence succeed if it does. -/
theorem andThen_success
    (h : andThen p q src cur = .done (.success recovered output alt) cur') :
    ∃ recovered₁ output₁ alt₁ mid recovered₂ output₂ alt₂,
      p src cur = .done (.success recovered₁ output₁ alt₁) mid ∧
      q src mid = .done (.success recovered₂ output₂ alt₂) cur' ∧
      Located.mergeAlts alt₁ alt₂ = .ok alt ∧
      recovered = recovered₁ ++ recovered₂ ∧ output = .tuple [output₁, output₂] := by
  rcases andThen_done h with
    ⟨_, _, -, hr⟩ | ⟨_, _, _, mid, hp, ⟨_, _, _, _, hq, hmerge, hr⟩ | ⟨_, _, _, -, -, hr⟩⟩
  · cases hr
  · cases hr
    exact ⟨_, _, _, mid, _, _, _, hp, hq, hmerge, rfl, rfl⟩
  · cases hr

/-- One of the parts of a sequence fails if it does. -/
theorem andThen_failure
    (h : andThen p q src cur = .done (.failure recovered error) cur') :
    p src cur = .done (.failure recovered error) cur' ∨
      ∃ mid recovered' error', q src mid = .done (.failure recovered' error') cur' := by
  rcases andThen_done h with
    ⟨_, _, hp, hr⟩ | ⟨_, _, _, mid, -, ⟨_, _, _, _, -, -, hr⟩ | ⟨_, _, _, hq, -, -⟩⟩
  · cases hr
    exact Or.inl hp
  · cases hr
  · exact Or.inr ⟨mid, _, _, hq⟩

end Known

/-- The second parser is run from the start unless the first was a clean success. -/
theorem orElse_done (h : orElse p q src cur = .done r cur') :
    (p src cur = .done r cur' ∧ r.isClean = true) ∨
      (∃ left mid right stop,
        p src cur = .done left mid ∧ left.isClean = false ∧
        q src (mid.moved cur.offset) = .done right stop ∧
        left.either right = .ok r ∧
        cur' = stop.moved ((left.side right).pick mid.offset stop.offset)) := by
  obtain ⟨start, first, hsave, hrun⟩ := bind_eq_done.1 h
  cases hsave
  obtain ⟨left, mid, hp, hrest⟩ := bind_eq_done.1 hrun
  by_cases hclean : left.isClean = true
  · rw [if_pos hclean] at hrest
    obtain ⟨rfl, rfl⟩ := pure_eq_done.1 hrest
    exact Or.inl ⟨hp, hclean⟩
  · rw [if_neg hclean] at hrest
    simp only [bind_apply, save_apply, revert_apply] at hrest
    cases hq : q src (mid.moved cur.offset) with
    | halted cause stop =>
        rw [hq] at hrest
        cases hrest
    | done right stop =>
        rw [hq] at hrest
        obtain ⟨heither, rfl⟩ := ofExcept_eq_done.1 hrest
        exact Or.inr ⟨left, mid, right, stop, hp, by simpa using hclean, hq, heither, rfl⟩

theorem optional_of_success
    {recovered : List Located}
    {output : Value}
    {alt : Option Located}
    (hp : p src cur = .done (.success recovered output alt) cur') :
    optional p src cur = .done (.success recovered output alt) cur' := by
  unfold optional
  simp only [bind_apply, tryParse_apply, hp, pure_apply]

theorem optional_of_failure
    {recovered : List Located}
    {error : Located}
    (hp : p src cur = .done (.failure recovered error) cur') :
    optional p src cur = .done (.success [] .null (some error)) (cur'.moved cur.offset) := by
  unfold optional
  simp only [bind_apply, tryParse_apply, hp, pure_apply]

/-- A failure becomes a success without output, and is given back. -/
theorem optional_done (h : optional p src cur = .done r cur') :
    (∃ recovered output alt,
        p src cur = .done (.success recovered output alt) cur' ∧
        r = .success recovered output alt) ∨
      (∃ recovered error mid,
        p src cur = .done (.failure recovered error) mid ∧
        cur' = mid.moved cur.offset ∧
        r = .success [] .null (some error)) := by
  obtain ⟨result, stop, htry, hrest⟩ := bind_eq_done.1 h
  rw [tryParse_apply] at htry
  cases hp : p src cur with
  | halted cause mid =>
      rw [hp] at htry
      cases htry
  | done result' mid =>
      rw [hp] at htry
      cases result' with
      | success recovered output alt =>
          cases htry
          obtain ⟨rfl, rfl⟩ := pure_eq_done.1 hrest
          exact Or.inl ⟨recovered, output, alt, rfl, rfl⟩
      | failure recovered error =>
          cases htry
          obtain ⟨rfl, rfl⟩ := pure_eq_done.1 hrest
          exact Or.inr ⟨recovered, error, mid, rfl, rfl, rfl⟩

end Sequences

section Repetitions

variable {p : Parser} {minimum bound : Nat} {maximum : Option Nat}
variable {recovered : List Located} {outputs : List Value} {alt : Option Located}

/-- A repetition is its rounds, within some bound. -/
theorem repeated_done (h : repeated p minimum maximum src cur = .done r cur') :
    ∃ bound, repeatedFrom p minimum maximum bound [] [] none src cur = .done r cur' := by
  obtain ⟨bound, mid, hrounds, hrest⟩ := bind_eq_done.1 h
  cases hrounds
  exact ⟨_, hrest⟩

/-- One round of a repetition: it is full, or the match consumes nothing and is dropped, or the
match is kept and the next round follows, or the failure is too early, or it ends the
repetition. -/
theorem repeatedFrom_done
    (h : repeatedFrom p minimum maximum (bound + 1) recovered outputs alt src cur =
      .done r cur') :
    (maximum.any (· ≤ outputs.length) = true ∧
        r = .success recovered (.list outputs) alt ∧ cur' = cur) ∨
      (maximum.any (· ≤ outputs.length) = false ∧
        ((∃ recovered' output alt' alt'' mid,
            p src cur = .done (.success recovered' output alt') mid ∧
            Located.mergeAlts alt alt' = .ok alt'' ∧
            ((minimum ≤ outputs.length ∧ mid.offset = cur.offset ∧
                r = .success recovered (.list outputs) alt'' ∧
                cur' = { mid with trail := .repetitionStalled cur.offset :: mid.trail }) ∨
              (¬ (minimum ≤ outputs.length ∧ mid.offset = cur.offset) ∧
                repeatedFrom p minimum maximum bound (recovered ++ recovered')
                  (outputs ++ [output]) alt'' src mid = .done r cur'))) ∨
          (∃ recovered' error,
            outputs.length < minimum ∧
            p src cur = .done (.failure recovered' error) cur' ∧
            r = .failure (recovered ++ recovered') error) ∨
          (∃ recovered' error reached alt' mid,
            minimum ≤ outputs.length ∧
            p src cur = .done (.failure recovered' error) mid ∧
            Located.mergeAlts (some error) recovered'.head? = .ok reached ∧
            Located.mergeAlts alt reached = .ok alt' ∧
            r = .success recovered (.list outputs) alt' ∧
            cur' = mid.moved cur.offset))) := by
  unfold repeatedFrom at h
  by_cases hfull : maximum.any (· ≤ outputs.length) = true
  · rw [if_pos hfull] at h
    obtain ⟨rfl, rfl⟩ := pure_eq_done.1 h
    exact Or.inl ⟨hfull, rfl, rfl⟩
  · rw [if_neg hfull] at h
    refine Or.inr ⟨by simpa using hfull, ?_⟩
    obtain ⟨before, first, hsave, hrun⟩ := bind_eq_done.1 h
    cases hsave
    obtain ⟨result, mid, hp, hrest⟩ := bind_eq_done.1 hrun
    cases result with
    | success recovered' output alt' =>
        refine Or.inl ⟨recovered', output, alt', ?_⟩
        obtain ⟨alt'', last, hmerged, hcheck⟩ := bind_eq_done.1 hrest
        obtain ⟨hmerge, rfl⟩ := mergeAlts_eq_done.1 hmerged
        obtain ⟨after, last', hsave, hround⟩ := bind_eq_done.1 hcheck
        cases hsave
        refine ⟨alt'', _, hp, hmerge, ?_⟩
        by_cases hstall : minimum ≤ outputs.length ∧ last.offset = cur.offset
        · rw [if_pos hstall] at hround
          obtain ⟨u, stop, hreport, hreturn⟩ := bind_eq_done.1 hround
          cases hreport
          obtain ⟨rfl, rfl⟩ := pure_eq_done.1 hreturn
          exact Or.inl ⟨hstall.1, hstall.2, rfl, rfl⟩
        · rw [if_neg hstall] at hround
          exact Or.inr ⟨hstall, hround⟩
    | failure recovered' error =>
        refine Or.inr ?_
        by_cases hshort : outputs.length < minimum
        · simp only [if_pos hshort] at hrest
          obtain ⟨rfl, rfl⟩ := pure_eq_done.1 hrest
          exact Or.inl ⟨recovered', error, hshort, hp, rfl⟩
        · simp only [if_neg hshort] at hrest
          obtain ⟨u, back, hrevert, hends⟩ := bind_eq_done.1 hrest
          cases hrevert
          obtain ⟨reached, last, hfound, hmore⟩ := bind_eq_done.1 hends
          obtain ⟨hreached, rfl⟩ := mergeAlts_eq_done.1 hfound
          obtain ⟨alt', stop, hmerged, hreturn⟩ := bind_eq_done.1 hmore
          obtain ⟨hmerge, rfl⟩ := mergeAlts_eq_done.1 hmerged
          obtain ⟨rfl, rfl⟩ := pure_eq_done.1 hreturn
          exact Or.inr
            ⟨recovered', error, reached, alt', mid, by omega, hp, hreached, hmerge, rfl, rfl⟩

end Repetitions

section Plans

variable {p : Parser} {k : Value → List Located → Option Located → Parser}
variable {recovered : List Located} {alt : Option Located}

/-- A step of a plan, with what the steps before have given: a failure ends the plan, and after a
success `k` goes on from the output. -/
def step
    (p : Parser)
    (k : Value → List Located → Option Located → Parser)
    (recovered : List Located)
    (alt : Option Located) :
    Parser := do
  match ← p with
  | .success recovered' output alt' =>
      let alt'' ← Scan.mergeAlts alt alt'
      k output (recovered ++ recovered') alt''
  | .failure recovered' error =>
      let error' ← Scan.ofExcept (error.max alt)
      return .failure (recovered ++ recovered') error'

theorem step_done (h : step p k recovered alt src cur = .done r cur') :
    (∃ recovered' error error',
        p src cur = .done (.failure recovered' error) cur' ∧
        error.max alt = .ok error' ∧
        r = .failure (recovered ++ recovered') error') ∨
      (∃ recovered' output alt' alt'' mid,
        p src cur = .done (.success recovered' output alt') mid ∧
        Located.mergeAlts alt alt' = .ok alt'' ∧
        k output (recovered ++ recovered') alt'' src mid = .done r cur') := by
  obtain ⟨result, mid, hp, hrest⟩ := bind_eq_done.1 h
  cases result with
  | success recovered' output alt' =>
      obtain ⟨alt'', last, hmerged, hgoes⟩ := bind_eq_done.1 hrest
      obtain ⟨hmerge, rfl⟩ := mergeAlts_eq_done.1 hmerged
      exact Or.inr ⟨recovered', output, alt', alt'', _, hp, hmerge, hgoes⟩
  | failure recovered' error =>
      obtain ⟨error', last, hmerged, hreturn⟩ := bind_eq_done.1 hrest
      obtain ⟨hmax, rfl⟩ := ofExcept_eq_done.1 hmerged
      obtain ⟨rfl, rfl⟩ := pure_eq_done.1 hreturn
      exact Or.inl ⟨recovered', error, error', hp, hmax, rfl⟩

section Known

variable {recovered' : List Located} {output : Value} {alt' alt'' : Option Located} {mid : Cursor}

theorem step_of_success
    (hp : p src cur = .done (.success recovered' output alt') mid)
    (hmerge : Located.mergeAlts alt alt' = .ok alt'') :
    step p k recovered alt src cur = k output (recovered ++ recovered') alt'' src mid := by
  unfold step
  simp only [bind_apply, hp, Scan.mergeAlts, hmerge, ofExcept_ok, pure_apply]

theorem step_of_failure
    {error error' : Located}
    (hp : p src cur = .done (.failure recovered' error) cur')
    (hmax : error.max alt = .ok error') :
    step p k recovered alt src cur = .done (.failure (recovered ++ recovered') error') cur' := by
  unfold step
  simp only [bind_apply, hp, hmax, ofExcept_ok, pure_apply]

end Known

end Plans

end Parser

/-- A plan runs its first grammar as a step. -/
theorem Plan.parser_step
    (resolve : Ref → Parser)
    (g : Grammar)
    (resume : Value → Plan) :
    (Plan.step g resume).parser resolve =
      Parser.step (g.parser resolve) fun output => (resume output).parser resolve := by
  rw [Plan.parser]
  rfl

end Resync
