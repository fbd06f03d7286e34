import Resync.Proofs.Simulation

/-!
# Simulations of repetitions and recoveries

A repetition, a separated list and a recovery run a parser several times.  How often depends on how
much of the source is left, which is the only thing they ask of the source as a whole.  Rounds that
correspond one by one correspond as a whole, within the same bound; where both runs read one
source, the bounds are the same.
-/

namespace Resync

/-- What becomes of a group that was walked over. -/
def Strategy.afterWalk
    (walk : Walk)
    (default : Value)
    (recovered : List Located)
    (fatal : Located) :
    Parser := do
  let _ ← Scan.lookAt walk.seen
  Scan.revert walk.offset
  let (closed, report) ← Scan.ofExcept walk.verdict
  let errors := recovered ++ report.toList
  if closed then
    Scan.report (.groupSkipped walk.offset)
    return .success (withFatal errors fatal) default none
  else
    Scan.report (.groupNotFound walk.offset)
    return .failure errors fatal

/-- A group is skipped by a walk from the cursor over the rest of the source. -/
theorem Strategy.skipGroup_apply
    (rules : Walk.Rules)
    (default : Value)
    (recovered : List Located)
    (fatal : Located)
    (src : Source)
    (cur : Cursor) :
    skipGroup rules default recovered fatal src cur =
      afterWalk
        (Walk.run rules src.eoi (src.rest cur.offset) cur.offset [] (rules.others.map fun _ => 0)
          none)
        default recovered fatal src cur := rfl

namespace Simulation

variable {S : Simulation}

/-- What two repetitions have gathered so far. -/
structure Gathered
    (S : Simulation)
    (recovered recovered' : List Located)
    (outputs outputs' : List Value) :
    Prop where
  recovered_alike : List.Forall₂ S.Alike recovered recovered'
  outputs_eq : (S.made → recovered = []) → outputs' = outputs
  length_eq : outputs'.length = outputs.length

namespace Gathered

variable {recovered recovered' : List Located} {outputs outputs' : List Value}

theorem nil : S.Gathered [] [] [] [] := ⟨.nil, fun _ => rfl, rfl⟩

/-- One more match. -/
theorem concat
    {more more' : List Located}
    {output output' : Value}
    (h : S.Gathered recovered recovered' outputs outputs')
    (hmore : List.Forall₂ S.Alike more more')
    (houtput : S.Outputs more output output') :
    S.Gathered (recovered ++ more) (recovered' ++ more')
      (outputs ++ [output]) (outputs' ++ [output']) where
  recovered_alike := List.rel_append h.recovered_alike hmore
  outputs_eq hclean := by
    have hnil := fun hmade => List.append_eq_nil_iff.1 (hclean hmade)
    rw [h.outputs_eq fun hmade => (hnil hmade).1, houtput fun hmade => (hnil hmade).2]
  length_eq := by simp only [List.length_append, h.length_eq, List.length_singleton]

/-- Recoveries without a match. -/
theorem append
    {more more' : List Located}
    (h : S.Gathered recovered recovered' outputs outputs')
    (hmore : List.Forall₂ S.Alike more more') :
    S.Gathered (recovered ++ more) (recovered' ++ more') outputs outputs' where
  recovered_alike := List.rel_append h.recovered_alike hmore
  outputs_eq hclean := h.outputs_eq fun hmade => (List.append_eq_nil_iff.1 (hclean hmade)).1
  length_eq := h.length_eq

theorem success
    {alt alt' : Option Located}
    (h : S.Gathered recovered recovered' outputs outputs')
    (halt : Option.Rel S.Alike alt alt') :
    S.Parsers (return .success recovered (.list outputs) alt)
      (return .success recovered' (.list outputs') alt') :=
  Parsers.success h.recovered_alike (fun hclean => congrArg Value.list (h.outputs_eq hclean)) halt

end Gathered

namespace Parsers

section Repetitions

variable {p p' q q' : Parser} {minimum : Nat} {maximum : Option Nat} {trailing : Bool}
variable {recovered recovered' : List Located} {outputs outputs' : List Value}
variable {alt alt' : Option Located}

/-- The rounds of a repetition, within the same bound. -/
theorem repeatedFrom
    (hp : S.Parsers p p')
    (bound : Nat)
    (hgathered : S.Gathered recovered recovered' outputs outputs')
    (halt : Option.Rel S.Alike alt alt') :
    S.Parsers (Parser.repeatedFrom p minimum maximum bound recovered outputs alt)
      (Parser.repeatedFrom p' minimum maximum bound recovered' outputs' alt') := by
  induction bound generalizing recovered recovered' outputs outputs' alt alt' with
  | zero => exact exhausted
  | succ bound ih =>
      unfold Parser.repeatedFrom
      rw [hgathered.length_eq]
      by_cases hfull : maximum.any (· ≤ outputs.length) = true
      · simp only [if_pos hfull]
        exact hgathered.success halt
      · simp only [if_neg hfull]
        refine saveBoth fun before hbefore => S.bind hp fun r r' hr => ?_
        cases hr with
        | success hmore houtput hfurther =>
            refine S.bind (mergeAlts halt hfurther) fun _ _ halt'' => saveBoth fun stop _ => ?_
            by_cases hstall : minimum ≤ outputs.length ∧ stop = before
            · simp only [if_pos hstall]
              exact S.bind S.report fun _ _ _ => hgathered.success halt''
            · simp only [if_neg hstall]
              exact ih (hgathered.concat hmore houtput) halt''
        | failure hmore herror =>
            by_cases hshort : outputs.length < minimum
            · simp only [if_pos hshort]
              exact failure (List.rel_append hgathered.recovered_alike hmore) herror
            · simp only [if_neg hshort]
              exact S.bind (S.revert hbefore) fun _ _ _ =>
                S.bind (mergeAlts (.some herror) (head_alike hmore)) fun _ _ hreached =>
                  S.bind (mergeAlts halt hreached) fun _ _ halt'' => hgathered.success halt''

theorem separatedEnd
    (hgathered : S.Gathered recovered recovered' outputs outputs')
    (halt : Option.Rel S.Alike alt alt') :
    S.Parsers (Parser.separatedEnd minimum recovered outputs alt)
      (Parser.separatedEnd minimum recovered' outputs' alt') := by
  unfold Parser.separatedEnd
  rw [hgathered.length_eq]
  by_cases hshort : outputs.length < minimum
  · simp only [if_pos hshort]
    cases halt with
    | none => exact S.silent_left fun cur a cur' hrun => by cases hrun
    | some herror => exact failure hgathered.recovered_alike herror
  · simp only [if_neg hshort]
    exact hgathered.success halt

/-- The rounds of a separated list, within the same bound. -/
theorem separatedFrom
    (hp : S.Parsers p p')
    (hq : S.Parsers q q')
    (bound : Nat)
    (hgathered : S.Gathered recovered recovered' outputs outputs')
    (halt : Option.Rel S.Alike alt alt') :
    S.Parsers (Parser.separatedFrom p q minimum trailing bound recovered outputs alt)
      (Parser.separatedFrom p' q' minimum trailing bound recovered' outputs' alt') := by
  induction bound generalizing recovered recovered' outputs outputs' alt alt' with
  | zero => exact exhausted
  | succ bound ih =>
      unfold Parser.separatedFrom
      refine saveBoth fun before hbefore => S.bind hq fun r r' hr => ?_
      cases hr with
      | failure hsep herror =>
          exact S.bind (S.revert hbefore) fun _ _ _ =>
            S.bind (mergeAlts halt (.some herror)) fun _ _ halt' => separatedEnd hgathered halt'
      | success hsep houtputSep haltSep =>
          refine saveBoth fun afterSeparator hafter => S.bind hp fun r r' hr => ?_
          cases hr with
          | failure hitem herror =>
              refine S.bind (mergeAlts halt (.some herror)) fun _ _ halt' => ?_
              cases trailing with
              | true =>
                  exact S.bind (S.revert hafter) fun _ _ _ =>
                    separatedEnd (hgathered.append hsep) halt'
              | false =>
                  exact S.bind (S.revert hbefore) fun _ _ _ => separatedEnd hgathered halt'
          | success hitem houtput haltItem =>
              refine S.bind (mergeAlts haltSep haltItem) fun _ _ hreached =>
                S.bind (mergeAlts halt hreached) fun _ _ halt' => saveBoth fun stop _ => ?_
              rw [hgathered.length_eq]
              by_cases hstall : minimum ≤ outputs.length ∧ stop = before
              · simp only [if_pos hstall]
                exact S.bind S.report fun _ _ _ => separatedEnd hgathered halt'
              · simp only [if_neg hstall]
                refine ih (hgathered.concat (List.rel_append hsep hitem) ?_) halt'
                exact fun hclean => houtput fun hmade =>
                  (List.append_eq_nil_iff.1 (hclean hmade)).2

theorem leadingSeparator (hq : S.Parsers q q') (allowed : Bool) :
    S.Rel
      (fun l l' => List.Forall₂ S.Alike l.1 l'.1 ∧ Option.Rel S.Alike l.2 l'.2)
      (Parser.leadingSeparator q allowed)
      (Parser.leadingSeparator q' allowed) := by
  cases allowed with
  | false => exact S.pure ⟨.nil, .none⟩
  | true =>
      refine S.bind hq.tryParse fun r r' hr => ?_
      cases hr with
      | success hrecovered houtput halt => exact S.pure ⟨hrecovered, halt⟩
      | failure hrecovered herror => exact S.pure ⟨.nil, .some herror⟩

/-- A separated list, where the rounds after its first item correspond. -/
theorem separatedByOf
    (hp : S.Parsers p p')
    (hq : S.Parsers q q')
    (leading : Bool)
    (hrounds : ∀ {recovered recovered' outputs outputs' alt alt'},
      S.Gathered recovered recovered' outputs outputs' →
      Option.Rel S.Alike alt alt' →
      S.Parsers
        (do
          let bound ← Parser.rounds minimum
          Parser.separatedFrom p q minimum trailing (bound + 1) recovered outputs alt)
        (do
          let bound ← Parser.rounds minimum
          Parser.separatedFrom p' q' minimum trailing (bound + 1) recovered' outputs' alt')) :
    S.Parsers (Parser.separatedBy p q minimum leading trailing)
      (Parser.separatedBy p' q' minimum leading trailing) := by
  refine S.bind (leadingSeparator hq leading) ?_
  rintro ⟨recovered, alt⟩ ⟨recovered', alt'⟩ ⟨hrecovered, halt⟩
  have hgathered : S.Gathered recovered recovered' [] [] := Gathered.nil.append hrecovered
  refine S.bind hp.tryParse fun r r' hr => ?_
  cases hr with
  | success hmore houtput hfurther =>
      exact S.bind (mergeAlts halt hfurther) fun _ _ halt' =>
        hrounds (hgathered.concat hmore houtput) halt'
  | failure hmore herror =>
      exact S.bind (mergeAlts halt (.some herror)) fun _ _ halt' => separatedEnd hgathered halt'

end Repetitions
end Parsers

section Recovery

/-- Diagnostics of a group that is not closed correspond, wherever it was opened. -/
def Delimits (dialect dialect' : Dialect) (opening closing : Value) : Prop :=
  ∀ opened i, S.At i →
    Answers S.loose (fun e e' => S.Alike ⟨i, e⟩ ⟨i, e'⟩)
      (dialect.unclosed opened opening (S.source.sighting i).span closing
        (S.source.sighting i).token)
      (dialect'.unclosed opened opening (S.source.sighting i).span closing
        (S.source.sighting i).token)

/-- Strategies that resume in the same way, from diagnostics that are alike.  What they put in
place may differ where outputs are made up. -/
inductive Strategies (S : Simulation) : Strategy → Strategy → Prop
  | skipThenRetry (sentinels : List Value) :
      Strategies S (.skipThenRetry sentinels) (.skipThenRetry sentinels)
  | nestedDelimiters
      {opening closing : Value} {others : List (Value × Value)} {default default' : Value}
      (hdelimits : ∀ l l', S.Alike l l' →
        S.Delimits l.error.dialect l'.error.dialect opening closing)
      (hdefault : ¬ S.made → default' = default) :
      Strategies S (.nestedDelimiters opening closing others default)
        (.nestedDelimiters opening closing others default')
  | defaultOutput
      {value value' : Value}
      (hvalue : ¬ S.made → value' = value) :
      Strategies S (.defaultOutput value) (.defaultOutput value')

/-- Walks that correspond as far as the first one comes to a verdict. -/
def Walks (S : Simulation) (walk walk' : Walk) : Prop :=
  ∀ closed report, walk.verdict = .ok (closed, report) →
    (∃ report', walk'.verdict = .ok (closed, report') ∧ Option.Rel S.Alike report report' ∧
        walk'.seen = walk.seen ∧ walk'.offset = walk.offset ∧ S.At walk.offset) ∨
      (S.loose ∧ ∃ f, walk'.verdict = .error f)

variable {opening closing : Value} {dialect dialect' : Dialect} (others : List (Value × Value))

theorem missing_answers
    {report report' : Option Located}
    {i : Nat}
    (hdelimits : S.Delimits dialect dialect' opening closing)
    (hi : S.At i)
    (openings : List Span)
    (hreport : Option.Rel S.Alike report report') :
    Answers S.loose (Option.Rel S.Alike)
      (Walk.missing ⟨opening, closing, others, dialect⟩ openings report (S.source.sighting i))
      (Walk.missing ⟨opening, closing, others, dialect'⟩ openings report'
        (S.source.sighting i)) := by
  cases hreport with
  | some hl =>
      match openings with
      | [] | [_] | _ :: _ :: _ => exact .some hl
  | none =>
      match openings with
      | [] | _ :: _ :: _ => exact .none
      | [start] =>
          simp only [Walk.missing, Source.sighting_position]
          exact (hdelimits start i hi).bind fun _ _ => .some

theorem stopAfter_walks
    {report report' : Option Located}
    {i : Nat}
    (hi : S.At (i + 1))
    (closed : Bool)
    (hreport : Option.Rel S.Alike report report') :
    S.Walks (Walk.stopAfter i closed report) (Walk.stopAfter i closed report') := by
  intro closed' report'' hverdict
  cases hverdict
  exact Or.inl ⟨report', rfl, hreport, rfl, rfl, hi⟩

theorem atEnd_walks
    {report report' : Option Located}
    {i : Nat}
    (hdelimits : S.Delimits dialect dialect' opening closing)
    (hi : S.At i)
    (openings : List Span)
    (hreport : Option.Rel S.Alike report report') :
    S.Walks
      (Walk.atEnd ⟨opening, closing, others, dialect⟩ openings report (S.source.sighting i))
      (Walk.atEnd ⟨opening, closing, others, dialect'⟩ openings report'
        (S.source.sighting i)) := by
  intro closed report'' hverdict
  have hmissing := missing_answers others hdelimits hi openings hreport
  unfold Walk.atEnd at hverdict ⊢
  rw [Source.sighting_position]
  cases hleft : Walk.missing ⟨opening, closing, others, dialect⟩ openings report
      (S.source.sighting i) with
  | error f =>
      simp only [hleft] at hverdict
      cases hverdict
  | ok found =>
      simp only [hleft] at hverdict hmissing
      cases hverdict
      cases hright : Walk.missing ⟨opening, closing, others, dialect'⟩ openings report'
          (S.source.sighting i) with
      | error f =>
          rw [hright] at hmissing
          exact Or.inr ⟨hmissing, f, rfl⟩
      | ok found' =>
          rw [hright] at hmissing
          exact Or.inl ⟨found', rfl, hmissing, rfl, rfl, hi⟩

/-- What walks report after a token that is no opening and no closing one, and that may exceed what
was opened, corresponds. -/
theorem counted_answers
    {report report' : Option Located}
    {i : Nat}
    (hdelimits : S.Delimits dialect dialect' opening closing)
    (hi : S.At i)
    (openings : List Span)
    (hreport : Option.Rel S.Alike report report')
    (exceeds : Bool) :
    Answers S.loose (Option.Rel S.Alike)
      (if exceeds = true then
        Walk.missing ⟨opening, closing, others, dialect⟩ openings report (S.source.sighting i)
      else .ok report)
      (if exceeds = true then
        Walk.missing ⟨opening, closing, others, dialect'⟩ openings report' (S.source.sighting i)
      else .ok report') := by
  cases exceeds with
  | true => exact missing_answers others hdelimits hi openings hreport
  | false => exact hreport

/-- Walks over the rest of one source correspond, whatever they report. -/
theorem run_walks
    {report report' : Option Located}
    {rest : List (Value × Span)}
    {i : Nat}
    (hdelimits : S.Delimits dialect dialect' opening closing)
    (hrest : S.source.rest i = rest)
    (hi : S.At i)
    (openings : List Span)
    (counts : List Int)
    (hreport : Option.Rel S.Alike report report') :
    S.Walks
      (Walk.run ⟨opening, closing, others, dialect⟩ S.source.eoi rest i openings counts report)
      (Walk.run ⟨opening, closing, others, dialect'⟩ S.source.eoi rest i openings counts
        report') := by
  induction rest generalizing i openings counts report report' with
  | nil =>
      unfold Walk.run
      rw [← Source.sighting_of_rest_nil hrest]
      exact atEnd_walks others hdelimits hi openings hreport
  | cons entry rest ih =>
      obtain ⟨token, span⟩ := entry
      obtain ⟨hsighting, hnext⟩ := Source.sighting_of_rest_cons hrest
      unfold Walk.run
      by_cases hnull : token = .null
      · subst hnull
        simp only [if_true]
        rw [← hsighting]
        exact atEnd_walks others hdelimits hi openings hreport
      · have hi' : S.At (i + 1) := S.at_succ hi (by rwa [hsighting])
        simp only [if_neg hnull]
        by_cases hopening : token = opening
        · simp only [if_pos hopening]
          exact ih hnext hi' _ _ hreport
        · simp only [if_neg hopening]
          by_cases hclosing : token = closing
          · simp only [if_pos hclosing]
            match openings with
            | [] => exact stopAfter_walks hi' false hreport
            | [_] => exact stopAfter_walks hi' true hreport
            | _ :: outer :: outers => exact ih hnext hi' _ _ hreport
          · simp only [if_neg hclosing]
            obtain ⟨counts', exceeds⟩ := Walk.tally token others counts
            have hfound := counted_answers others hdelimits hi openings hreport exceeds
            rw [hsighting] at hfound
            revert hfound
            generalize (if exceeds = true then
                Walk.missing ⟨opening, closing, others, dialect⟩ openings report
                  ⟨i, span, token⟩
              else .ok report) = found
            generalize (if exceeds = true then
                Walk.missing ⟨opening, closing, others, dialect'⟩ openings report'
                  ⟨i, span, token⟩
              else .ok report') = found'
            intro hfound
            match found, found' with
            | .error f, _ => exact fun closed report hverdict => by cases hverdict
            | .ok found, .error f => exact fun closed report hverdict => Or.inr ⟨hfound, f, rfl⟩
            | .ok found, .ok found' =>
                by_cases hnone : openings.isEmpty = true
                · simp only [if_pos hnone]
                  exact stopAfter_walks hi' false hfound
                · simp only [if_neg hnone]
                  exact ih hnext hi' _ _ hfound

theorem withFatal_alike
    {errors errors' : List Located}
    {fatal fatal' : Located}
    (herrors : List.Forall₂ S.Alike errors errors')
    (hfatal : S.Alike fatal fatal') :
    List.Forall₂ S.Alike (Strategy.withFatal errors fatal) (Strategy.withFatal errors' fatal') := by
  have hlast := Results.lastRecovered_eq herrors
  unfold Result.lastRecovered at hlast
  unfold Strategy.withFatal
  cases h : errors.getLast? with
  | none =>
      rw [h, Option.map_none, Option.map_eq_none_iff] at hlast
      rw [hlast]
      exact .cons hfatal .nil
  | some last =>
      rw [h] at hlast
      obtain ⟨last', h', hposition⟩ := Option.map_eq_some_iff.1 hlast
      simp only [h', hposition, S.position_eq hfatal]
      split
      · exact List.rel_append herrors (.cons hfatal .nil)
      · exact herrors

/-- Something is always reported for a group that was skipped. -/
theorem withFatal_ne_nil (errors : List Located) (fatal : Located) :
    Strategy.withFatal errors fatal ≠ [] := by
  unfold Strategy.withFatal
  cases h : errors.getLast? with
  | none => exact List.cons_ne_nil _ _
  | some last =>
      simp only
      split
      · exact fun hnil => List.cons_ne_nil _ _ (List.append_eq_nil_iff.1 hnil).2
      · rintro rfl
        cases h

namespace Parsers

variable {p p' : Parser} {recovered recovered' : List Located} {fatal fatal' : Located}

theorem giveUp
    (hrecovered : List.Forall₂ S.Alike recovered recovered')
    (hfatal : S.Alike fatal fatal')
    (skipped : Nat) :
    S.Parsers (Strategy.skipAndRetry.giveUp recovered fatal skipped)
      (Strategy.skipAndRetry.giveUp recovered' fatal' skipped) :=
  saveBoth fun _ _ => S.bind S.report fun _ _ _ => failure hrecovered hfatal

theorem skipAndRetry
    (hp : S.Parsers p p')
    (sentinels : List Value)
    (hrecovered : List.Forall₂ S.Alike recovered recovered')
    (hfatal : S.Alike fatal fatal')
    (remaining skipped : Nat) :
    S.Parsers (Strategy.skipAndRetry p sentinels recovered fatal remaining skipped)
      (Strategy.skipAndRetry p' sentinels recovered' fatal' remaining skipped) := by
  induction remaining generalizing skipped with
  | zero =>
      unfold Strategy.skipAndRetry
      exact S.bind Simulation.peek fun _ _ _ => giveUp hrecovered hfatal skipped
  | succ remaining ih =>
      unfold Strategy.skipAndRetry
      refine S.bind Simulation.peek ?_
      rintro seen _ ⟨rfl, i, hi, rfl⟩
      by_cases hstop :
          (S.source.sighting i).token = .null ∨ (S.source.sighting i).token ∈ sentinels
      · simp only [if_pos hstop]
        exact giveUp hrecovered hfatal skipped
      · simp only [if_neg hstop, Source.sighting_position]
        have hi' : S.At (i + 1) := S.at_succ hi fun hnull => hstop (Or.inl hnull)
        refine S.bind (S.revert hi') fun _ _ _ => S.bind hp.tryParse fun r r' hr => ?_
        cases hr with
        | success hmore houtput halt =>
            refine saveBoth fun _ _ => S.bind S.report fun _ _ _ =>
              success (List.rel_append hmore (.cons hfatal .nil)) ?_ halt
            exact fun hclean => houtput fun hmade => (List.append_eq_nil_iff.1 (hclean hmade)).1
        | failure hmore herror => exact ih _

/-- A group that was walked over, where the walks correspond. -/
theorem afterWalk
    {walk walk' : Walk}
    {default default' : Value}
    (hwalks : S.Walks walk walk')
    (hdefault : ¬ S.made → default' = default)
    (hrecovered : List.Forall₂ S.Alike recovered recovered')
    (hfatal : S.Alike fatal fatal') :
    S.Parsers (Strategy.afterWalk walk default recovered fatal)
      (Strategy.afterWalk walk' default' recovered' fatal') := by
  obtain ⟨seen, offset, verdict⟩ := walk
  obtain ⟨seen', offset', verdict'⟩ := walk'
  -- A walk that faults has looked at a token before, so the verdict has to be known first.
  cases verdict with
  | error f => exact S.silent_left fun cur a cur' hrun => by cases hrun
  | ok verdict =>
      obtain ⟨closed, report⟩ := verdict
      rcases hwalks _ _ rfl with
        ⟨report', rfl, hreport, rfl, rfl, hoffset⟩ | ⟨hloose, f, rfl⟩
      · refine S.bind S.lookAt fun _ _ _ => S.bind (S.revert hoffset) fun _ _ _ => ?_
        refine S.bind (V := fun v v' => v = (closed, report) ∧ v' = (closed, report'))
          (S.pure ⟨rfl, rfl⟩) ?_
        rintro _ _ ⟨rfl, rfl⟩
        have herrors : List.Forall₂ S.Alike (recovered ++ report.toList)
            (recovered' ++ report'.toList) := by
          refine List.rel_append hrecovered ?_
          cases hreport with
          | none => exact .nil
          | some hl => exact .cons hl .nil
        cases closed with
        | true =>
            refine S.bind S.report fun _ _ _ =>
              success (withFatal_alike herrors hfatal) ?_ .none
            intro hclean
            exact hdefault fun hmade => withFatal_ne_nil _ _ (hclean hmade)
        | false => exact S.bind S.report fun _ _ _ => failure herrors hfatal
      · exact S.silent_right hloose fun cur b cur' hrun => by cases hrun

/-- A parser that recovers, where the recoveries correspond. -/
theorem recoverWith
    {s s' : Strategy}
    (hp : S.Parsers p p')
    (hrecover : ∀ {recovered recovered' fatal fatal'},
      List.Forall₂ S.Alike recovered recovered' →
      S.Alike fatal fatal' →
      S.Parsers (s.recover p recovered fatal) (s'.recover p' recovered' fatal')) :
    S.Parsers (Parser.recoverWith p s) (Parser.recoverWith p' s') := by
  refine S.bind hp.tryParse fun r r' hr => ?_
  cases hr with
  | success hrecovered houtput halt => exact success hrecovered houtput halt
  | failure hrecovered herror =>
      exact S.bind S.report fun _ _ _ => hrecover hrecovered herror

end Parsers
end Recovery

section OneSource

/-- Whether both runs read one source. -/
def SameSource (S : Simulation) : Prop :=
  S.Rel (fun src src' => src = S.source ∧ src' = S.source) Scan.source Scan.source

namespace Parsers

variable {p p' q q' : Parser} (hsource : S.SameSource)
include hsource

theorem rounds (minimum : Nat) :
    S.Rel (fun bound bound' => bound' = bound) (Parser.rounds minimum) (Parser.rounds minimum) := by
  refine S.bind hsource ?_
  rintro _ _ ⟨rfl, rfl⟩
  exact saveBoth fun _ _ => S.pure rfl

theorem repeated (hp : S.Parsers p p') (minimum : Nat) (maximum : Option Nat) :
    S.Parsers (Parser.repeated p minimum maximum) (Parser.repeated p' minimum maximum) := by
  refine S.bind (rounds hsource minimum) ?_
  rintro _ bound rfl
  exact hp.repeatedFrom _ .nil .none

theorem separatedBy
    (hp : S.Parsers p p')
    (hq : S.Parsers q q')
    (minimum : Nat)
    (leading trailing : Bool) :
    S.Parsers (Parser.separatedBy p q minimum leading trailing)
      (Parser.separatedBy p' q' minimum leading trailing) := by
  refine hp.separatedByOf hq leading fun hgathered halt => S.bind (rounds hsource minimum) ?_
  rintro _ bound rfl
  exact hp.separatedFrom hq _ hgathered halt

variable {recovered recovered' : List Located} {fatal fatal' : Located}

theorem skipGroup
    {dialect dialect' : Dialect}
    {opening closing default default' : Value}
    (others : List (Value × Value))
    (hdelimits : S.Delimits dialect dialect' opening closing)
    (hdefault : ¬ S.made → default' = default)
    (hrecovered : List.Forall₂ S.Alike recovered recovered')
    (hfatal : S.Alike fatal fatal') :
    S.Parsers
      (Strategy.skipGroup ⟨opening, closing, others, dialect⟩ default recovered fatal)
      (Strategy.skipGroup ⟨opening, closing, others, dialect'⟩ default' recovered' fatal') := by
  refine S.bind hsource ?_
  rintro _ _ ⟨rfl, rfl⟩
  exact saveBoth fun start hstart =>
    afterWalk (run_walks others hdelimits rfl hstart [] _ .none) hdefault hrecovered hfatal

theorem recover
    {s s' : Strategy}
    (hp : S.Parsers p p')
    (hs : S.Strategies s s')
    (hrecovered : List.Forall₂ S.Alike recovered recovered')
    (hfatal : S.Alike fatal fatal') :
    S.Parsers (s.recover p recovered fatal) (s'.recover p' recovered' fatal') := by
  cases hs with
  | skipThenRetry sentinels =>
      refine S.bind hsource ?_
      rintro _ _ ⟨rfl, rfl⟩
      exact saveBoth fun start _ => hp.skipAndRetry sentinels hrecovered hfatal _ _
  | nestedDelimiters hdelimits hdefault =>
      exact skipGroup hsource _ (hdelimits _ _ hfatal) hdefault hrecovered hfatal
  | defaultOutput hvalue =>
      refine success (List.rel_append hrecovered (.cons hfatal .nil)) ?_ .none
      intro hclean
      exact hvalue fun hmade => List.cons_ne_nil _ _ (List.append_eq_nil_iff.1 (hclean hmade)).2

end Parsers
end OneSource

/-- Rules for all that runs a parser several times.  They may ask for more than parsers that
correspond. -/
structure Loops (S : Simulation) (Fit : Parser → Parser → Prop) : Prop where
  repeated {p p' : Parser} :
    Fit p p' → S.Parsers p p' → ∀ minimum maximum,
      S.Parsers (Parser.repeated p minimum maximum) (Parser.repeated p' minimum maximum)
  separatedBy {p p' q q' : Parser} :
    Fit p p' → Fit q q' → S.Parsers p p' → S.Parsers q q' → ∀ minimum leading trailing,
      S.Parsers (Parser.separatedBy p q minimum leading trailing)
        (Parser.separatedBy p' q' minimum leading trailing)
  recoverWith {p p' : Parser} {s s' : Strategy} :
    Fit p p' → S.Parsers p p' → S.Strategies s s' →
      S.Parsers (p.recoverWith s) (p'.recoverWith s')

/-- Where both runs read one source, nothing more is asked for. -/
theorem SameSource.loops (h : S.SameSource) : S.Loops fun _ _ => True where
  repeated _ hp := Parsers.repeated h hp
  separatedBy _ _ hp hq := Parsers.separatedBy h hp hq
  recoverWith _ hp hs := hp.recoverWith (Parsers.recover h hp hs)

end Simulation
end Resync
