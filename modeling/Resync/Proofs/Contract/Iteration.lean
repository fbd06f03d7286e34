import Resync.Proofs.Contract

/-!
# Contracts of repetitions and recoveries

A repetition, a separated list and a recovery run a parser several times.  Each round keeps the
contract, and there are enough rounds: a repetition is never halted because it has run for too long,
even if its parts match without consuming anything.
-/

namespace Resync

/-- Trying a parser does not move the cursor back either. -/
theorem Parser.Forward.tryParse
    {src : Source}
    {p : Parser}
    (hp : p.Forward src) :
    Parser.Forward src (Scan.tryParse p) := by
  intro cur r cur' hrun
  rw [Scan.tryParse_apply] at hrun
  cases hcase : p src cur with
  | halted cause mid =>
      rw [hcase] at hrun
      cases hrun
  | done r' mid =>
      rw [hcase] at hrun
      cases r' with
      | success recovered output alt =>
          cases hrun
          exact hp _ _ _ hcase
      | failure recovered error =>
          cases hrun
          exact .self

namespace Contract

variable {C : Contract} {cur : Cursor} {i : Nat} {p q : Parser}

section Repetitions

variable {minimum bound : Nat} {maximum : Option Nat}
variable {recovered : List Located} {outputs : List Value} {alt : Option Located}

/-- The rounds of a repetition.  The bound leaves room for the matches that are missing and for the
tokens that are left. -/
theorem Ends.repeatedFrom
    (hforward : p.Forward C.source)
    (hp : C.Keeps i p)
    (hi : i ≤ cur.offset)
    (hbound : minimum - outputs.length + (C.source.size - cur.offset) < bound)
    (hrecovered : ∀ l ∈ recovered, C.Fine l)
    (halt : ∀ l ∈ alt, C.Fine l) :
    C.Ends C.Results
      (Parser.repeatedFrom p minimum maximum bound recovered outputs alt C.source cur) := by
  induction bound generalizing cur recovered outputs alt with
  | zero => exact absurd hbound (Nat.not_lt_zero _)
  | succ bound ih =>
      unfold Parser.repeatedFrom
      by_cases hfull : maximum.any (· ≤ outputs.length) = true
      · simp only [if_pos hfull]
        exact Results.success hrecovered halt
      · simp only [if_neg hfull]
        refine .after Scan.save_apply (.bind (hp cur hi) fun r mid hrun hr => ?_)
        obtain ⟨hback, hbeyond⟩ := hforward cur r mid hrun
        have hall := List.forall_mem_append.2 ⟨hrecovered, hr.recovered⟩
        cases r with
        | success recovered' output alt' =>
            refine .bind (mergeAlts halt hr.furthest) fun alt'' last hmerge halt'' => ?_
            obtain ⟨-, rfl⟩ := Scan.mergeAlts_eq_done.1 hmerge
            refine .after Scan.save_apply ?_
            by_cases hstall : minimum ≤ outputs.length ∧ last.offset = cur.offset
            · simp only [if_pos hstall]
              exact .after rfl (Results.success hrecovered halt''.1)
            · simp only [if_neg hstall]
              refine ih (by omega) ?_ hall halt''.1
              rw [List.length_append, List.length_singleton]
              omega
        | failure recovered' error =>
            by_cases hshort : outputs.length < minimum
            · simp only [if_pos hshort]
              exact Results.failure hall hr.error
            · simp only [if_neg hshort]
              refine .after (Scan.revert_apply _) ?_
              have hhead : ∀ l ∈ recovered'.head?, C.Fine l :=
                fun l hl => hr.recovered l (List.mem_of_mem_head? hl)
              refine .bind (mergeAlts hr.furthest hhead) fun reached _ _ hreached => ?_
              refine .bind (mergeAlts halt hreached.1) fun alt' _ _ halt' => ?_
              exact Results.success hrecovered halt'.1

/-- A repetition keeps what its parts keep, and ends. -/
theorem Ends.repeated
    (hforward : p.Forward C.source)
    (hp : C.Keeps i p)
    (hi : i ≤ cur.offset) :
    C.Ends C.Results (Parser.repeated p minimum maximum C.source cur) := by
  refine .after rfl (.repeatedFrom hforward hp hi ?_ (fun _ hl => nomatch hl)
    fun _ hl => nomatch hl)
  rw [List.length_nil]
  omega

/-- The end of a separated list has a diagnostic to fail with if it lacks items. -/
theorem Ends.separatedEnd
    (hshort : alt = none → minimum ≤ outputs.length)
    (hrecovered : ∀ l ∈ recovered, C.Fine l)
    (halt : ∀ l ∈ alt, C.Fine l) :
    C.Ends C.Results (Parser.separatedEnd minimum recovered outputs alt C.source cur) := by
  unfold Parser.separatedEnd
  by_cases hlength : outputs.length < minimum
  · rw [if_pos hlength]
    cases alt with
    | none =>
        have hminimum := hshort rfl
        omega
    | some error => exact Results.failure hrecovered (halt error rfl)
  · rw [if_neg hlength]
    exact Results.success hrecovered halt

/-- Once a failure was merged into the alternatives, there is one. -/
theorem Ends.mergeFailure
    {error : Located}
    {k : Option Located → Parser}
    (herror : C.Fine error)
    (halt : ∀ l ∈ alt, C.Fine l)
    (hk : ∀ alt' mid, alt' ≠ none → (∀ l ∈ alt', C.Fine l) →
      C.Ends C.Results (k alt' C.source mid)) :
    C.Ends C.Results ((Scan.mergeAlts alt (some error) >>= k) C.source cur) := by
  refine .bind (mergeAlts (m := some error) halt ?_) fun alt' mid _ halt' =>
    hk alt' mid (fun hnone => nomatch (halt'.2 hnone).2) halt'.1
  rintro _ ⟨⟩
  exact herror

/-- The rounds of a separated list, within a bound that leaves room for them. -/
theorem Ends.separatedFrom
    {trailing : Bool}
    (hforward : p.Forward C.source)
    (hforward' : q.Forward C.source)
    (hp : C.Keeps i p)
    (hq : C.Keeps i q)
    (hi : i ≤ cur.offset)
    (hbound : minimum - outputs.length + (C.source.size - cur.offset) < bound)
    (hrecovered : ∀ l ∈ recovered, C.Fine l)
    (halt : ∀ l ∈ alt, C.Fine l) :
    C.Ends C.Results
      (Parser.separatedFrom p q minimum trailing bound recovered outputs alt C.source cur) := by
  induction bound generalizing cur recovered outputs alt with
  | zero => exact absurd hbound (Nat.not_lt_zero _)
  | succ bound ih =>
      unfold Parser.separatedFrom
      refine .after Scan.save_apply (.bind (hq cur hi) fun r sep hsep hr => ?_)
      obtain ⟨hback, hbeyond⟩ := hforward' cur r sep hsep
      cases r with
      | failure recoveredSep error =>
          refine .after (Scan.revert_apply _) ?_
          exact .mergeFailure hr.error halt fun alt' mid hsome halt' =>
            .separatedEnd (fun hnone => absurd hnone hsome) hrecovered halt'
      | success recoveredSep output altSep =>
          refine .after Scan.save_apply (.bind (hp sep (by omega)) fun r mid hrun hr' => ?_)
          obtain ⟨hback', hbeyond'⟩ := hforward sep r mid hrun
          cases r with
          | failure recoveredItem error =>
              refine .mergeFailure hr'.error halt fun alt' mid hsome halt' => ?_
              have hshort : alt' = none → minimum ≤ outputs.length :=
                fun hnone => absurd hnone hsome
              cases trailing with
              | true =>
                  have hall := List.forall_mem_append.2 ⟨hrecovered, hr.recovered⟩
                  exact .after (Scan.revert_apply _) (.separatedEnd hshort hall halt')
              | false =>
                  exact .after (Scan.revert_apply _) (.separatedEnd hshort hrecovered halt')
          | success recoveredItem output altItem =>
              refine .bind (mergeAlts hr.furthest hr'.furthest) ?_
              intro reached last hmerge hreached
              obtain ⟨-, rfl⟩ := Scan.mergeAlts_eq_done.1 hmerge
              refine .bind (mergeAlts halt hreached.1) fun alt' last' hmerge' halt' => ?_
              obtain ⟨-, rfl⟩ := Scan.mergeAlts_eq_done.1 hmerge'
              refine .after Scan.save_apply ?_
              by_cases hstall : minimum ≤ outputs.length ∧ last'.offset = cur.offset
              · simp only [if_pos hstall]
                exact .after rfl (.separatedEnd (fun _ => hstall.1) hrecovered halt'.1)
              · simp only [if_neg hstall]
                refine ih (by omega) ?_ ?_ halt'.1
                · rw [List.length_append, List.length_singleton]
                  omega
                · exact List.forall_mem_append.2
                    ⟨hrecovered, List.forall_mem_append.2 ⟨hr.recovered, hr'.recovered⟩⟩

theorem Ends.leadingSeparator
    (hq : C.Ends C.Results (q C.source cur))
    (allowed : Bool) :
    C.Ends (fun l => (∀ d ∈ l.1, C.Fine d) ∧ ∀ d ∈ l.2, C.Fine d)
      (Parser.leadingSeparator q allowed C.source cur) := by
  cases allowed with
  | false => exact ⟨fun _ hl => (List.not_mem_nil hl).elim, fun _ hl => nomatch hl⟩
  | true =>
      refine .bind hq.tryParse fun r mid _ hr => ?_
      cases r with
      | success recovered output alt => exact ⟨hr.recovered, hr.furthest⟩
      | failure recovered error =>
          exact ⟨fun _ hl => (List.not_mem_nil hl).elim, hr.furthest⟩

/-- A leading separator does not move the cursor back. -/
theorem leadingSeparator_forward
    {allowed : Bool}
    {l : List Located × Option Located}
    {mid : Cursor}
    (hforward : q.Forward C.source)
    (hrun : Parser.leadingSeparator q allowed C.source cur = .done l mid) :
    C.source.Ahead cur.offset mid.offset := by
  cases allowed with
  | false =>
      cases hrun
      exact .self
  | true =>
      obtain ⟨r, last, htry, hrest⟩ := Scan.bind_eq_done.1 hrun
      have hahead := hforward.tryParse _ _ _ htry
      cases r with
      | success recovered output alt =>
          cases hrest
          exact hahead
      | failure recovered error =>
          cases hrest
          exact hahead

/-- A separated list keeps what its parts keep, and ends. -/
theorem Ends.separatedBy
    {leading trailing : Bool}
    (hforward : p.Forward C.source)
    (hforward' : q.Forward C.source)
    (hp : C.Keeps i p)
    (hq : C.Keeps i q)
    (hi : i ≤ cur.offset) :
    C.Ends C.Results (Parser.separatedBy p q minimum leading trailing C.source cur) := by
  refine .bind (.leadingSeparator (hq cur hi) leading) ?_
  rintro ⟨recovered, alt⟩ first hlead ⟨hrecovered, halt⟩
  obtain ⟨hback, -⟩ := leadingSeparator_forward hforward' hlead
  refine .bind (.tryParse (hp first (by omega))) fun r mid htry hr => ?_
  obtain ⟨hback', -⟩ := hforward.tryParse _ _ _ htry
  cases r with
  | success recovered' output alt' =>
      refine .bind (mergeAlts halt hr.furthest) fun alt'' last hmerge halt'' => ?_
      obtain ⟨-, rfl⟩ := Scan.mergeAlts_eq_done.1 hmerge
      have hall := List.forall_mem_append.2 ⟨hrecovered, hr.recovered⟩
      exact .after rfl (.separatedFrom hforward hforward' hp hq (by omega) (by omega) hall halt''.1)
  | failure recovered' error =>
      exact .mergeFailure hr.error halt fun alt' mid hsome halt' =>
        .separatedEnd (fun hnone => absurd hnone hsome) hrecovered halt'

end Repetitions

section Recovery

variable {recovered : List Located} {fatal : Located}

theorem Ends.giveUp
    (hrecovered : ∀ l ∈ recovered, C.Fine l)
    (hfatal : C.Fine fatal)
    (skipped : Nat) :
    C.Ends C.Results (Strategy.skipAndRetry.giveUp recovered fatal skipped C.source cur) :=
  .after rfl (.after rfl (Results.failure hrecovered hfatal))

theorem Ends.skipAndRetry
    {sentinels : List Value}
    (hp : C.Keeps i p)
    (hi : i ≤ cur.offset)
    (hrecovered : ∀ l ∈ recovered, C.Fine l)
    (hfatal : C.Fine fatal)
    (remaining skipped : Nat) :
    C.Ends C.Results
      (Strategy.skipAndRetry p sentinels recovered fatal remaining skipped C.source cur) := by
  induction remaining generalizing skipped cur with
  | zero =>
      unfold Strategy.skipAndRetry
      exact .after Scan.peek_apply (.giveUp hrecovered hfatal skipped)
  | succ remaining ih =>
      unfold Strategy.skipAndRetry
      refine .after Scan.peek_apply ?_
      split
      · exact .giveUp hrecovered hfatal skipped
      · rw [Source.sighting_position]
        refine .after (Scan.revert_apply _) ?_
        have hi' : i ≤ cur.offset + 1 := Nat.le_succ_of_le hi
        refine .bind (.tryParse (hp _ hi')) fun r mid htry hr => ?_
        cases r with
        | success recovered' output alt =>
            refine .after Scan.save_apply (.after rfl (Results.success ?_ hr.furthest))
            exact List.forall_mem_append.2
              ⟨hr.recovered, List.forall_mem_singleton.2 hfatal⟩
        | failure recovered' error =>
            have hoffset := Strategy.offset_of_tryParse_failure htry
            exact ih (hoffset ▸ hi') (skipped + 1)

variable {rules : Walk.Rules}

/-- The diagnostic that a walk reports is fine if those of its delimiters are. -/
theorem missing_ensures
    (hdelimits : C.Delimits rules.dialect rules.opening rules.closing)
    {report : Option Located}
    (hreport : ∀ l ∈ report, C.Fine l)
    (openings : List Span)
    (j : Nat) :
    Ensures C.Allows (fun found => ∀ l ∈ found, C.Fine l)
      (Walk.missing rules openings report (C.source.sighting j)) := by
  match openings, report with
  | [], _ | _ :: _ :: _, _ | [_], some _ => exact hreport
  | [start], none =>
      refine (hdelimits start j).bind fun error herror => ?_
      rintro _ ⟨⟩
      rwa [Source.sighting_position]

/-- What has been reported once a token was counted is fine. -/
theorem tallied_ensures
    (hdelimits : C.Delimits rules.dialect rules.opening rules.closing)
    {report : Option Located}
    (hreport : ∀ l ∈ report, C.Fine l)
    (openings : List Span)
    (j : Nat)
    (exceeds : Bool) :
    Ensures C.Allows (fun found => ∀ l ∈ found, C.Fine l)
      (if exceeds then Walk.missing rules openings report (C.source.sighting j)
        else .ok report) := by
  split
  · exact missing_ensures hdelimits hreport openings j
  · exact hreport

theorem atEnd_ensures
    (hdelimits : C.Delimits rules.dialect rules.opening rules.closing)
    {report : Option Located}
    (hreport : ∀ l ∈ report, C.Fine l)
    (openings : List Span)
    (j : Nat) :
    Ensures C.Allows (fun verdict => ∀ l ∈ verdict.2, C.Fine l)
      (Walk.atEnd rules openings report (C.source.sighting j)).verdict :=
  (missing_ensures hdelimits hreport openings j).bind fun _ hfound => hfound

/-- A walk over the rest of the source reports nothing but fine diagnostics. -/
theorem run_ensures
    (hdelimits : C.Delimits rules.dialect rules.opening rules.closing)
    {report : Option Located}
    {rest : List (Value × Span)}
    {j : Nat}
    (hrest : C.source.rest j = rest)
    (openings : List Span)
    (counts : List Int)
    (hreport : ∀ l ∈ report, C.Fine l) :
    Ensures C.Allows (fun verdict => ∀ l ∈ verdict.2, C.Fine l)
      (Walk.run rules C.source.eoi rest j openings counts report).verdict := by
  induction rest generalizing j openings counts report with
  | nil =>
      unfold Walk.run
      rw [← Source.sighting_of_rest_nil hrest]
      exact atEnd_ensures hdelimits hreport openings j
  | cons entry rest ih =>
      obtain ⟨token, span⟩ := entry
      obtain ⟨hsighting, hnext⟩ := Source.sighting_of_rest_cons hrest
      unfold Walk.run
      by_cases hnull : token = .null
      · subst hnull
        simp only [if_true]
        rw [← hsighting]
        exact atEnd_ensures hdelimits hreport openings j
      · simp only [if_neg hnull]
        by_cases hopening : token = rules.opening
        · simp only [if_pos hopening]
          exact ih hnext _ _ hreport
        · simp only [if_neg hopening]
          by_cases hclosing : token = rules.closing
          · simp only [if_pos hclosing]
            rcases openings with _ | ⟨_, _ | ⟨outer, outers⟩⟩
            · exact hreport
            · exact hreport
            · exact ih hnext _ _ hreport
          · simp only [if_neg hclosing]
            obtain ⟨counts', exceeds⟩ := Walk.tally token rules.others counts
            have hfound := tallied_ensures hdelimits hreport openings j exceeds
            rw [hsighting] at hfound
            generalize (if exceeds = true then Walk.missing rules openings report ⟨j, span, token⟩
              else .ok report) = found at hfound ⊢
            cases found with
            | error f => exact hfound
            | ok found =>
                simp only
                split
                · exact hfound
                · exact ih hnext _ _ hfound

theorem withFatal_fine
    {errors : List Located}
    (herrors : ∀ l ∈ errors, C.Fine l)
    (hfatal : C.Fine fatal) :
    ∀ l ∈ Strategy.withFatal errors fatal, C.Fine l := by
  have hsingle : ∀ l ∈ [fatal], C.Fine l := List.forall_mem_singleton.2 hfatal
  unfold Strategy.withFatal
  split
  · split
    · exact List.forall_mem_append.2 ⟨herrors, hsingle⟩
    · exact herrors
  · exact hsingle

theorem Ends.skipGroup
    {default : Value}
    (hdelimits : C.Delimits rules.dialect rules.opening rules.closing)
    (hrecovered : ∀ l ∈ recovered, C.Fine l)
    (hfatal : C.Fine fatal) :
    C.Ends C.Results (Strategy.skipGroup rules default recovered fatal C.source cur) := by
  have hverdict : Ensures C.Allows (fun verdict => ∀ l ∈ verdict.2, C.Fine l)
      (Walk.run rules C.source.eoi (C.source.rest cur.offset) cur.offset []
        (rules.others.map fun _ => 0) none).verdict :=
    run_ensures hdelimits rfl [] _ fun _ hl => nomatch hl
  refine .after rfl (.after Scan.save_apply (.after (Scan.lookAt_apply _)
    (.after (Scan.revert_apply _) (.bind (.ofExcept hverdict) ?_))))
  rintro ⟨closed, report⟩ mid _ hreport
  have herrors : ∀ l ∈ recovered ++ report.toList, C.Fine l :=
    List.forall_mem_append.2 ⟨hrecovered, fun l hl => hreport l (Option.mem_toList.1 hl)⟩
  cases closed with
  | true =>
      have hall := withFatal_fine herrors hfatal
      exact .after rfl (Results.success hall fun _ hl => nomatch hl)
  | false => exact .after rfl (Results.failure herrors hfatal)

variable (C) in
/-- Strategies that report nothing but fine diagnostics. -/
def Recovers : Strategy → Prop
  | .nestedDelimiters opening closing _ _ =>
      ∀ l, C.Fine l → C.Delimits l.error.dialect opening closing
  | .skipThenRetry _ | .defaultOutput _ => True

theorem Ends.recover
    {s : Strategy}
    (hs : C.Recovers s)
    (hp : C.Keeps i p)
    (hi : i ≤ cur.offset)
    (hrecovered : ∀ l ∈ recovered, C.Fine l)
    (hfatal : C.Fine fatal) :
    C.Ends C.Results (s.recover p recovered fatal C.source cur) := by
  cases s with
  | skipThenRetry sentinels =>
      exact .after rfl (.after Scan.save_apply (.skipAndRetry hp hi hrecovered hfatal _ _))
  | nestedDelimiters opening closing others default =>
      exact .skipGroup (hs fatal hfatal) hrecovered hfatal
  | defaultOutput value =>
      have hall := List.forall_mem_append.2 ⟨hrecovered, List.forall_mem_singleton.2 hfatal⟩
      exact Results.success hall fun _ hl => nomatch hl

/-- A parser that recovers keeps what it keeps without, if the strategy reports nothing else. -/
theorem Ends.recoverWith
    {s : Strategy}
    (hs : C.Recovers s)
    (hp : C.Keeps i p)
    (hi : i ≤ cur.offset) :
    C.Ends C.Results (Parser.recoverWith p s C.source cur) := by
  refine .bind (.tryParse (hp cur hi)) fun r mid htry hr => ?_
  cases r with
  | success recovered output alt => exact hr
  | failure recovered error =>
      have hi' : i ≤ mid.offset := by rwa [Strategy.offset_of_tryParse_failure htry]
      exact .after rfl (.recover hs hp hi' hr.recovered hr.error)

end Recovery
end Contract
end Resync
