import Resync.Proofs.Lockstep
import Resync.Proofs.Simulation.Iteration

/-!
# Recoveries in step

A strategy that is given parsers in step goes on in step itself.  Whatever the parsers report while
it runs them, it closes with a report of its own, which says where it stands.
-/

namespace Resync

/-- A walk stays where one can stand who starts there and goes on behind tokens only. -/
theorem Walk.run_stands
    {src : Source}
    {At : Nat → Prop}
    {rest : List (Value × Span)}
    {i : Nat}
    (rules : Walk.Rules)
    (at_succ : ∀ {i}, At i → (src.sighting i).token ≠ .null → At (i + 1))
    (hrest : src.rest i = rest)
    (hi : At i)
    (openings : List Span)
    (counts : List Int)
    (report : Option Located) :
    At (run rules src.eoi rest i openings counts report).offset := by
  induction rest generalizing i openings counts report with
  | nil => exact hi
  | cons entry rest ih =>
      obtain ⟨token, span⟩ := entry
      obtain ⟨hsighting, hnext⟩ := Source.sighting_of_rest_cons hrest
      unfold run
      by_cases hnull : token = .null
      · simp only [if_pos hnull]
        exact hi
      · have hi' : At (i + 1) := at_succ hi (by rwa [hsighting])
        have hlater := ih hnext hi'
        simp only [if_neg hnull]
        by_cases hopening : token = rules.opening
        · simp only [if_pos hopening]
          exact hlater _ _ _
        · simp only [if_neg hopening]
          by_cases hclosing : token = rules.closing
          · simp only [if_pos hclosing]
            rcases openings with _ | ⟨_, _ | ⟨outer, outers⟩⟩
            · exact hi'
            · exact hi'
            · exact hlater _ _ _
          · simp only [if_neg hclosing]
            generalize tally token rules.others counts = tallied
            obtain ⟨counts', exceeds⟩ := tallied
            generalize (if exceeds = true then missing rules openings report ⟨i, span, token⟩
              else .ok report) = found
            cases found with
            | error f => exact hi'
            | ok found =>
                by_cases hnone : openings.isEmpty = true
                · simp only [if_pos hnone]
                  exact hi'
                · simp only [if_neg hnone]
                  exact hlater _ _ _

namespace Lockstep

variable {L : Lockstep} {Q : L.Post Result} {p p' : Parser} {s : Strategy}
variable {recovered : List Located} {fatal : Located}

/-- Whether what a strategy closes with is what is asked for. -/
def Post.Closes (Q : L.Post Result) (s : Strategy) : Prop :=
  ∀ (r : Result) (i : Nat) (E : List Event), s.Closing r.isSuccess i E → Q.Holds r i E E

namespace Parsers

theorem giveUp
    {sentinels : List Value}
    (hcloses : Q.Closes (.skipThenRetry sentinels))
    (skipped : Nat) :
    L.Pairs Q (Strategy.skipAndRetry.giveUp recovered fatal skipped)
      (Strategy.skipAndRetry.giveUp recovered fatal skipped) :=
  reportAt (e := fun i => .skippedInVain i skipped) fun i =>
    hcloses _ i _ (.skippedInVain sentinels i skipped)

theorem skipAndRetry
    {sentinels : List Value}
    (hcloses : Q.Closes (.skipThenRetry sentinels))
    (hp : L.Parsers p p')
    (remaining skipped : Nat) :
    L.Pairs Q (Strategy.skipAndRetry p sentinels recovered fatal remaining skipped)
      (Strategy.skipAndRetry p' sentinels recovered fatal remaining skipped) := by
  induction remaining generalizing skipped with
  | zero =>
      unfold Strategy.skipAndRetry
      exact bind peek fun _ _ => giveUp hcloses skipped
  | succ remaining ih =>
      unfold Strategy.skipAndRetry
      refine bind peek ?_
      rintro seen ⟨i, hi, rfl⟩
      by_cases hstop : (L.source.sighting i).token = .null ∨ (L.source.sighting i).token ∈ sentinels
      · simp only [if_pos hstop]
        exact giveUp hcloses skipped
      · simp only [if_neg hstop, Source.sighting_position]
        have hi' := L.at_succ hi (not_or.1 hstop).1
        refine bind (revert hi') fun _ _ => bind hp.tryParse fun r _ => ?_
        cases r with
        | success recovered' output alt =>
            exact reportAt (e := fun i => .skipped i (skipped + 1)) fun i =>
              hcloses _ i _ (.skipped sentinels i (skipped + 1))
        | failure recovered' error => exact ih (skipped + 1)

theorem skipGroup
    {opening closing default : Value}
    {others : List (Value × Value)}
    (hcloses : Q.Closes (.nestedDelimiters opening closing others default))
    (dialect : Dialect) :
    L.Pairs Q (Strategy.skipGroup ⟨opening, closing, others, dialect⟩ default recovered fatal)
      (Strategy.skipGroup ⟨opening, closing, others, dialect⟩ default recovered fatal) := by
  intro c d hat hoffset
  have hstands := Walk.run_stands ⟨opening, closing, others, dialect⟩ L.at_succ
    (rfl : L.source.rest c.offset = _) hat [] (others.map fun _ => 0) none
  rw [Strategy.skipGroup_apply, Strategy.skipGroup_apply, hoffset]
  generalize Walk.run ⟨opening, closing, others, dialect⟩ L.source.eoi (L.source.rest c.offset)
    c.offset [] (others.map fun _ => 0) none = walk at hstands
  obtain ⟨seen, stop, verdict⟩ := walk
  have hbeside := (Beside.start c.buffered d.buffered).max (min L.source.size (seen + 1))
  cases verdict with
  | error f => exact .fault ⟨hstands, rfl, hbeside, rfl, rfl⟩ L.breaks_nil
  | ok verdict =>
      obtain ⟨closed, report⟩ := verdict
      cases closed with
      | true =>
          exact .done (E := [.groupSkipped stop]) (F := [.groupSkipped stop])
            ⟨hstands, rfl, hbeside, rfl, rfl⟩ (hcloses _ _ _ (.groupSkipped _ _ _ _ _))
      | false =>
          exact .done (E := [.groupNotFound stop]) (F := [.groupNotFound stop])
            ⟨hstands, rfl, hbeside, rfl, rfl⟩ (hcloses _ _ _ (.groupNotFound _ _ _ _ _))

theorem recover (hcloses : Q.Closes s) (hp : L.Parsers p p') :
    L.Pairs Q (s.recover p recovered fatal) (s.recover p' recovered fatal) := by
  cases s with
  | skipThenRetry sentinels =>
      refine bind readSource ?_
      rintro src rfl
      exact bind save fun start _ => skipAndRetry hcloses hp _ _
  | nestedDelimiters opening closing others default => exact skipGroup hcloses _
  | defaultOutput value => exact pure_of fun i => hcloses _ i _ (.default value i)

/-- A parser is resumed in step if what follows its failure goes on in step. -/
theorem resume
    {k k' : List Located → Located → Parser}
    (hp : L.Parsers p p')
    (hk : ∀ recovered error, L.Parsers (k recovered error) (k' recovered error)) :
    L.Parsers
      (do
        match ← Scan.tryParse p with
        | .success recovered output alt => return .success recovered output alt
        | .failure recovered error => k recovered error)
      (do
        match ← Scan.tryParse p' with
        | .success recovered output alt => return .success recovered output alt
        | .failure recovered error => k' recovered error) := by
  refine bind hp.tryParse fun r _ => ?_
  cases r with
  | success recovered output alt => exact answer _
  | failure recovered error => exact hk recovered error

theorem recoverWith
    (hp : L.Parsers p p')
    (hopening : ∀ error, L.Reports [.recovering error s] [.recovering error s])
    (hclosing : ∀ success i E, s.Closing success i E → L.Reports E E) :
    L.Parsers (p.recoverWith s) (p'.recoverWith s) :=
  hp.resume fun _ error => bind (report (hopening error)) fun _ _ =>
    recover (fun r i E h => ⟨trivial, hclosing r.isSuccess i E h⟩) hp

end Parsers
end Lockstep
end Resync
