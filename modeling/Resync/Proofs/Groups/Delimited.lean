import Resync.Proofs.Groups.Skipping
import Resync.Proofs.OneDialect
import Resync.Proofs.Resuming

/-!
# Delimited groups

A grammar between two delimiters is a sequence of three, which is recovered by skipping the balanced
group that begins where it starts.  So wherever such a group begins, one gets past it: either the
sequence succeeds, or the group is skipped.  The inside may consume delimiters, recover, or stop
anywhere.  All that it has to do is to return, with nothing that cannot be merged with the missing
closing delimiter.
-/

namespace Resync

open Walk (Misses)

/-- A grammar after one token and before another one. -/
def Grammar.between (g : Grammar) (dialect : Dialect) (opening closing : Value) : Grammar :=
  ((just dialect opening).ignoreThen g).thenIgnore (just dialect closing)

/-- A group is delimited by two tokens that differ. -/
theorem Grammar.delimitedBy_eq_ok
    {g d : Grammar}
    {dialect : Dialect}
    {opening closing : Value} :
    g.delimitedBy dialect opening closing = .ok d ↔
      opening ≠ closing ∧
        d = (g.between dialect opening closing).recoverWith
          (.nestedDelimiters opening closing [] .absent) := by
  unfold delimitedBy Strategy.nested
  by_cases hdiffer : opening = closing
  · rw [if_pos hdiffer]
    exact iff_of_false (fun h => nomatch h) fun h => h.1 hdiffer
  · rw [if_neg hdiffer]
    constructor
    · rintro ⟨⟩
      exact ⟨hdiffer, rfl⟩
    · rintro ⟨-, rfl⟩
      rfl

/-- A token between two delimiters is a balanced group with them, if it is no delimiter itself. -/
theorem Source.Balanced.of_holds
    {src : Source}
    {opening closing inside : Value}
    {start : Nat}
    (hdiffer : opening ≠ closing)
    (hopening : inside ≠ opening)
    (hclosing : inside ≠ closing)
    (hholds : src.Holds start [opening, inside, closing]) :
    src.Balanced opening closing start (start + 3) := by
  obtain ⟨htoken, hopens, htoken', rfl, htoken'', hcloses, -⟩ := hholds
  have halone : src.Alone opening closing start (start + 2) :=
    (Source.Alone.begin hdiffer htoken hopens).other htoken' hopening hclosing
  exact .of_alone halone hdiffer htoken'' hcloses

/-- Without other pairs, the closing delimiter of a balanced group is not missed. -/
theorem Walk.Misses.not_balanced
    {rules : Walk.Rules}
    {src : Source}
    {start i : Nat}
    (h : Misses rules src start i)
    (hothers : rules.others = [])
    (stop : Nat) :
    ¬ src.Balanced rules.opening rules.closing start stop := by
  intro hgroup
  rcases h with ⟨⟨-, -, pair, hpair, -⟩, -⟩ | ⟨rfl, halone, -⟩
  · rw [hothers] at hpair
    exact nomatch hpair
  · exact Nat.not_lt.2 hgroup.le_limit (hgroup.lt_of_open halone.toOpen)

/-- Only a terse diagnostic takes one that may be terse. -/
theorem Diagnostic.exists_merge_of_takes
    {a b : Diagnostic}
    (h : a.dialect = .terse ∨ b.dialect ≠ .terse) :
    ∃ c, a.merge b = .ok c := by
  cases a with
  | terse text => exact ⟨_, rfl⟩
  | detailed family detail =>
      cases b with
      | detailed family' detail' => exact ⟨_, rfl⟩
      | terse text =>
          rcases h with h | h
          · cases h
          · exact absurd rfl h

/-- Two located diagnostics can be merged unless they lie at one position, where the first one is
detailed and the second one is terse. -/
theorem Located.exists_max_of_takes
    {a : Located}
    {m : Option Located}
    (h : a.error.dialect = .terse ∨
      ∀ b ∈ m, b.position = a.position → b.error.dialect ≠ .terse) :
    ∃ c, a.max m = .ok c := by
  cases m with
  | none => exact ⟨a, rfl⟩
  | some b =>
      rcases Nat.lt_trichotomy a.position b.position with hlt | heq | hlt
      · exact ⟨b, by rw [max, if_neg (Nat.lt_asymm hlt), if_pos hlt]⟩
      · obtain ⟨error, hmerge⟩ : ∃ error, a.error.merge b.error = .ok error :=
          Diagnostic.exists_merge_of_takes (h.imp_right fun h => h b rfl heq.symm)
        refine ⟨⟨a.position, error⟩, ?_⟩
        rw [max, if_neg (by omega), if_neg (by omega), hmerge]
        rfl
      · exact ⟨a, by rw [max, if_pos hlt]⟩

theorem Action.itemAt_zero_pair (v w : Value) : itemAt 0 (.tuple [v, w]) = .ok v := rfl

theorem Action.itemAt_one_pair (v w : Value) : itemAt 1 (.tuple [v, w]) = .ok w := rfl

namespace Parser

open Scan

section Tokens

variable (dialect : Dialect) (token : Value)

/-- Match exactly one token. -/
def single : Parser := satisfy dialect [token] fun v => .ok (v = token)

variable {dialect token} {src : Source} {cur : Cursor}

variable (dialect) in
theorem single_of_holds (hholds : src.Holds cur.offset [token]) :
    ∃ cur', single dialect token src cur = .done (.success [] token none) cur' ∧
      cur'.offset = cur.offset + 1 := by
  obtain ⟨hnull, rfl, -⟩ := hholds
  exact satisfy_of_passed dialect _ hnull (by simp)

/-- Another token, or the end of the input, is a failure there, if it can be stated. -/
theorem single_of_not_holds
    (hkey : dialect = .terse ∨ token.isKey = true)
    (hholds : ¬ src.Holds cur.offset [token]) :
    ∃ error cur', single dialect token src cur = .done (.failure [] ⟨cur.offset, error⟩) cur' ∧
      error.dialect = dialect := by
  obtain ⟨error, herror, hdialect⟩ : ∃ error,
      dialect.expecting (src.sighting cur.offset).span [token] (src.sighting cur.offset).token =
        .ok error ∧ error.dialect = dialect :=
    Dialect.exists_expecting (hkey.imp_right List.forall_mem_singleton.2)
  have hmiss : (src.sighting cur.offset).token = .null ∨
      (.ok (decide ((src.sighting cur.offset).token = token)) : Except Fault Bool) = .ok false := by
    by_cases hnull : (src.sighting cur.offset).token = .null
    · exact Or.inl hnull
    · have htoken : (src.sighting cur.offset).token ≠ token :=
        fun htoken => hholds ⟨hnull, htoken, trivial⟩
      exact Or.inr (by rw [decide_eq_false htoken])
  obtain ⟨cur', hrun⟩ := satisfy_of_missed (fun v => .ok (v = token)) hmiss herror
  exact ⟨error, cur', hrun, hdialect⟩

theorem single_done
    {r : Result}
    {cur' : Cursor}
    (hrun : single dialect token src cur = .done r cur') :
    (src.Holds cur.offset [token] ∧ r = .success [] token none ∧
        cur'.offset = cur.offset + 1) ∨
      (¬ src.Holds cur.offset [token] ∧ r.Missed dialect) := by
  obtain ⟨-, ⟨hnull, htest, rfl, hoffset⟩ | ⟨hmiss, hmissed⟩⟩ := satisfy_done hrun
  · have htoken : (src.sighting cur.offset).token = token := by simpa using htest
    exact Or.inl ⟨⟨hnull, htoken, trivial⟩, by rw [htoken], hoffset⟩
  · refine Or.inr ⟨fun hholds => ?_, hmissed⟩
    rcases hmiss with hnull | htest
    · exact hholds.1 hnull
    · simp [hholds.2.1] at htest

end Tokens

section Between

variable (dialect : Dialect) (opening closing : Value) (p : Parser)

/-- Run a parser after one token and before another one. -/
def between : Parser :=
  map (Action.itemAt 0)
    (andThen (map (Action.itemAt 1) (andThen (single dialect opening) p)) (single dialect closing))

variable {dialect opening closing p} {src : Source} {cur cur' : Cursor}
variable {recovered : List Located} {output : Value} {alt : Option Located}

/-- If a parser between two tokens succeeds, they stand where it starts and where it ends, and the
parser succeeded between them in the same way. -/
theorem between_success
    (hsteady : p.Steady src)
    (hrun : between dialect opening closing p src cur =
      .done (.success recovered output alt) cur') :
    ∃ mid, src.Holds cur.offset [opening] ∧
      p.Answers src (cur.offset + 1) (.success recovered output alt) mid ∧
      src.Holds mid [closing] ∧ cur'.offset = mid + 1 := by
  obtain ⟨_, hpair, hitem⟩ := map_success hrun
  obtain ⟨_, _, _, mid, _, _, _, hfirst, hclosing, hmerge, rfl, rfl⟩ := andThen_success hpair
  obtain ⟨_, hpair', hitem'⟩ := map_success hfirst
  obtain ⟨_, _, _, start, _, _, _, hopening, hp, hmerge', rfl, rfl⟩ := andThen_success hpair'
  rcases single_done hopening with ⟨hopens, hr, hstart⟩ | ⟨-, _, _, _, _, _, -, hr⟩
  · rcases single_done hclosing with ⟨hcloses, hr', hstop⟩ | ⟨-, _, _, _, _, _, -, hr'⟩
    · cases hr
      cases hr'
      cases hitem
      cases hitem'
      rw [Located.mergeAlts_none_left] at hmerge'
      rw [Located.mergeAlts_none_right] at hmerge
      cases hmerge'
      cases hmerge
      refine ⟨mid.offset, hopens, ?_, hcloses, hstop⟩
      rw [List.nil_append, List.append_nil, ← hstart]
      exact hsteady.answers hp
    · cases hr'
  · cases hr

section Outcomes

variable {mid : Nat} {error : Located}
variable (hsteady : p.Steady src) (hopens : src.Holds cur.offset [opening])
include hsteady hopens

/-- Where the inside fails, so does the sequence. -/
theorem between_of_failure
    (hanswers : p.Answers src (cur.offset + 1) (.failure recovered error) mid) :
    ∃ cur', between dialect opening closing p src cur = .done (.failure recovered error) cur' := by
  obtain ⟨start, hopening, hstart⟩ := single_of_holds dialect hopens
  obtain ⟨stop, hp, -⟩ := hanswers.run hsteady hstart
  have hfirst := map_of_failure (andThen_of_success_failure hopening hp rfl) (Action.itemAt 1)
  exact ⟨stop, map_of_failure (andThen_of_failure hfirst _) _⟩

/-- Where the inside succeeds in front of the second token, so does the sequence. -/
theorem between_of_success
    (hanswers : p.Answers src (cur.offset + 1) (.success recovered output alt) mid)
    (hcloses : src.Holds mid [closing]) :
    ∃ cur', between dialect opening closing p src cur =
        .done (.success recovered output alt) cur' ∧ cur'.offset = mid + 1 := by
  obtain ⟨start, hopening, hstart⟩ := single_of_holds dialect hopens
  obtain ⟨stop, hp, rfl⟩ := hanswers.run hsteady hstart
  obtain ⟨cur', hclosing, hcur'⟩ := single_of_holds dialect hcloses
  have hfirst := map_of_success
    (andThen_of_success hopening hp (Located.mergeAlts_none_left alt)) (Action.itemAt_one_pair _ _)
  have hboth := map_of_success
    (andThen_of_success hfirst hclosing (Located.mergeAlts_none_right alt))
    (Action.itemAt_zero_pair _ _)
  rw [List.nil_append, List.append_nil] at hboth
  exact ⟨cur', hboth, hcur'⟩

/-- Where the second token is missed, the sequence fails, if that can be stated and merged with the
alternative of the inside. -/
theorem between_of_missed
    (hanswers : p.Answers src (cur.offset + 1) (.success recovered output alt) mid)
    (hcloses : ¬ src.Holds mid [closing])
    (hkey : dialect = .terse ∨ closing.isKey = true)
    (hmerges : dialect = .terse ∨ ∀ l ∈ alt, l.position = mid → l.error.dialect ≠ .terse) :
    ∃ recovered' error cur', between dialect opening closing p src cur =
      .done (.failure recovered' error) cur' := by
  obtain ⟨start, hopening, hstart⟩ := single_of_holds dialect hopens
  obtain ⟨stop, hp, rfl⟩ := hanswers.run hsteady hstart
  obtain ⟨error, cur', hclosing, hdialect⟩ := single_of_not_holds hkey hcloses
  obtain ⟨error', hmax⟩ : ∃ error', Located.max ⟨stop.offset, error⟩ alt = .ok error' :=
    Located.exists_max_of_takes (hmerges.imp_left hdialect.trans)
  have hfirst := map_of_success
    (andThen_of_success hopening hp (Located.mergeAlts_none_left alt)) (Action.itemAt_one_pair _ _)
  exact ⟨_, error', cur', map_of_failure (andThen_of_success_failure hfirst hclosing hmax) _⟩

end Outcomes

/-- Where the first token is missed, the sequence fails at once, if that can be stated. -/
theorem between_of_unopened
    (hopens : ¬ src.Holds cur.offset [opening])
    (hkey : dialect = .terse ∨ opening.isKey = true) :
    ∃ error cur', between dialect opening closing p src cur =
      .done (.failure [] ⟨cur.offset, error⟩) cur' := by
  obtain ⟨error, cur', hopening, -⟩ := single_of_not_holds hkey hopens
  have hfirst := map_of_failure (andThen_of_failure hopening p) (Action.itemAt 1)
  exact ⟨error, cur', map_of_failure (andThen_of_failure hfirst _) _⟩

end Between

section Recoveries

variable {p : Parser} {src : Source} {cur cur' mid : Cursor} {r : Result}

/-- A success is not recovered from. -/
theorem recoverWith_of_success
    {recovered : List Located}
    {output : Value}
    {alt : Option Located}
    (hrun : p src cur = .done (.success recovered output alt) mid)
    (s : Strategy) :
    p.recoverWith s src cur = .done (.success recovered output alt) mid := by
  unfold recoverWith
  simp only [bind_apply, tryParse_apply, hrun, pure_apply]

/-- What a parser that is recovered returns is its own success, or what the strategy makes of its
failure. -/
theorem recoverWith_done
    {s : Strategy}
    (hrun : p.recoverWith s src cur = .done r cur') :
    (p src cur = .done r cur' ∧ r.isSuccess = true) ∨
      ∃ recovered fatal first, first.offset = cur.offset ∧
        s.recover p recovered fatal src first = .done r cur' := by
  cases hp : p src cur with
  | halted cause mid =>
      unfold recoverWith at hrun
      simp only [bind_apply, tryParse_apply, hp] at hrun
      cases hrun
  | done r' mid =>
      cases r' with
      | success recovered output alt =>
          cases (recoverWith_of_success hp s).symm.trans hrun
          exact Or.inl ⟨rfl, rfl⟩
      | failure recovered fatal =>
          obtain ⟨first, hfirst, hrecover⟩ := recoverWith_of_failure hp s
          exact Or.inr ⟨recovered, fatal, first, hfirst, hrecover.symm.trans hrun⟩

variable {opening closing default : Value}

/-- Where a balanced group begins, whatever a parser returns is a success after recovery, if there
are no other pairs to watch. -/
theorem recoverWith_of_balanced
    {stop : Nat}
    (hdiffer : opening ≠ closing)
    (hrun : p src cur = .done r mid)
    (hgroup : src.Balanced opening closing cur.offset stop) :
    ∃ recovered output alt cur',
      p.recoverWith (.nestedDelimiters opening closing [] default) src cur =
        .done (.success recovered output alt) cur' := by
  cases r with
  | success recovered output alt =>
      exact ⟨recovered, output, alt, mid, recoverWith_of_success hrun _⟩
  | failure recovered fatal =>
      obtain ⟨first, hfirst, hrecover⟩ :=
        recoverWith_of_failure hrun (.nestedDelimiters opening closing [] default)
      rw [← hfirst] at hgroup
      rw [hrecover]
      rcases Strategy.nestedDelimiters_ends p [] default recovered fatal src first hdiffer with
        ⟨_, _, _, hmisses, -, -⟩ | ⟨_, cur', -, -, hends⟩ | ⟨_, _, -, hnone, -, -⟩
      · exact absurd hgroup (hmisses.not_balanced rfl stop)
      · exact ⟨_, _, _, cur', hends⟩
      · exact absurd hgroup (hnone stop)

end Recoveries

end Parser

namespace Environment

/-- **Delimited groups are got past.**  Let a grammar be delimited by two tokens, which differ.

* Where a balanced group begins, this succeeds if the grammar returns behind the opening.  A
  detailed dialect has to be able to say so if the closing delimiter is missed: this one can be a
  member of a set, and the grammar does not stop with a terse alternative right there, which cannot
  be merged.
* If it succeeds, it has consumed two tokens at least, of which the first is the opening and the
  last is the closing.  If the opening, the grammar and the closing in sequence did not succeed by
  themselves, then the output is absent, something is reported, and just the balanced group has been
  skipped.
* If it fails, no balanced group begins there. -/
theorem delimitedBy_passes
    (env : Environment)
    (g : Grammar)
    {dialect : Dialect}
    {opening closing : Value}
    {d : Grammar}
    (hdelimits : g.delimitedBy dialect opening closing = .ok d)
    (src : Source)
    (cur : Cursor) :
    let p := env.parser g
    let sequence := g.between dialect opening closing
    let outcome := env.parser d src cur
    let start := cur.offset
    ((∃ stop, src.Balanced opening closing start stop) →
        (∃ r stop, p.Answers src (start + 1) r stop) →
        (dialect = .terse ∨
          closing.isKey = true ∧
            ∀ recovered output l stop,
              p.Answers src (start + 1) (.success recovered output (some l)) stop →
                l.position = stop → l.error.dialect ≠ .terse) →
          ∃ recovered output alt cur', outcome = .done (.success recovered output alt) cur') ∧
      (∀ recovered output alt cur', outcome = .done (.success recovered output alt) cur' →
        start + 2 ≤ cur'.offset ∧ (src.sighting start).token = opening ∧
          (src.sighting (cur'.offset - 1)).token = closing ∧
          (¬ (env.parser sequence).Succeeds src start →
            output = .absent ∧ recovered ≠ [] ∧
              src.Balanced opening closing start cur'.offset)) ∧
      ∀ recovered error cur', outcome = .done (.failure recovered error) cur' →
        ∀ stop, ¬ src.Balanced opening closing start stop := by
  intro p sequence outcome start
  obtain ⟨hdiffer, rfl⟩ := Grammar.delimitedBy_eq_ok.1 hdelimits
  let q : Parser := g.parser (env.resolve (env.depth src))
  have hsteady : q.Steady src := parser_steady
  have houtcome : outcome = (Parser.between dialect opening closing q).recoverWith
      (.nestedDelimiters opening closing [] .absent) src cur := rfl
  rw [houtcome]
  refine ⟨?_, fun recovered output alt cur' hrun => ?_, fun recovered error cur' hrun => ?_⟩
  · rintro ⟨stop, hgroup⟩ ⟨r, mid, hanswers⟩ hspoken
    have hopens : src.Holds start [opening] :=
      ⟨Source.token_start_ne_null hgroup.start_lt hgroup.le_limit, hgroup.token_start, trivial⟩
    obtain ⟨r', cur', hrun⟩ : ∃ r' cur',
        Parser.between dialect opening closing q src cur = .done r' cur' := by
      cases r with
      | failure recovered error =>
          obtain ⟨cur', hrun⟩ := Parser.between_of_failure hsteady hopens hanswers
          exact ⟨_, cur', hrun⟩
      | success recovered output alt =>
          by_cases hcloses : src.Holds mid [closing]
          · obtain ⟨cur', hrun, -⟩ := Parser.between_of_success hsteady hopens hanswers hcloses
            exact ⟨_, cur', hrun⟩
          · have hkey : dialect = .terse ∨ closing.isKey = true := hspoken.imp_right And.left
            have hmerges : dialect = .terse ∨
                ∀ l ∈ alt, l.position = mid → l.error.dialect ≠ .terse := by
              refine hspoken.imp_right fun h l hl => ?_
              rw [Option.mem_def.1 hl] at hanswers
              exact h.2 _ _ l mid hanswers
            obtain ⟨_, _, cur', hrun⟩ :=
              Parser.between_of_missed hsteady hopens hanswers hcloses hkey hmerges
            exact ⟨_, cur', hrun⟩
    exact Parser.recoverWith_of_balanced hdiffer hrun hgroup
  · rcases Parser.recoverWith_done hrun with ⟨hbetween, -⟩ | ⟨_, fatal, first, hfirst, hrecover⟩
    · obtain ⟨mid, hopens, hanswers, hcloses, hstop⟩ := Parser.between_success hsteady hbetween
      have hback : start + 1 ≤ mid := (env.forward _ g src).le_of_answers hanswers
      rw [hstop]
      refine ⟨by omega, hopens.2.1, hcloses.2.1, fun hfails => absurd ?_ hfails⟩
      exact ⟨_, _, _, _, parser_steady.answers hbetween⟩
    · rcases Strategy.nestedDelimiters_ends (Parser.between dialect opening closing q) [] .absent _
          fatal src first hdiffer with
        ⟨_, _, _, -, -, hends⟩ | ⟨_, _, -, hgroup, hends⟩ | ⟨_, _, -, -, -, hends⟩
      · cases hrecover.symm.trans hends
      · cases hrecover.symm.trans hends
        rw [hfirst] at hgroup
        obtain ⟨last, hstop, hlt, hclosing⟩ := hgroup.exists_last hdiffer
        have hprevious : cur'.offset - 1 = last := by omega
        refine ⟨by omega, hgroup.token_start, hprevious ▸ hclosing, fun _ => ⟨rfl, ?_, hgroup⟩⟩
        exact Simulation.withFatal_ne_nil _ _
      · cases hrecover.symm.trans hends
  · rcases Parser.recoverWith_done hrun with ⟨-, hsuccess⟩ | ⟨_, fatal, first, hfirst, hrecover⟩
    · cases hsuccess
    · rcases Strategy.nestedDelimiters_done hdiffer hrecover with ⟨-, _, hr⟩ | ⟨hnone, -, -⟩
      · cases hr
      · rwa [hfirst] at hnone

/-- A letter that is not the expected one between two brackets: the group is skipped. -/
theorem delimitedBy_passes_of_letter :
    let g : Grammar := .just .simple (.str "a")
    let src : Source := .ofText "(b)" .null
    ∃ d, g.delimitedBy .simple (.str "(") (.str ")") = .ok d ∧
      ∃ recovered alt cur', parser {} d src {} = .done (.success recovered .absent alt) cur' ∧
        recovered ≠ [] ∧ cur'.offset = 3 := by
  intro g src
  obtain ⟨d, hdelimits⟩ : ∃ d, g.delimitedBy .simple (.str "(") (.str ")") = .ok d := ⟨_, rfl⟩
  obtain ⟨hpasses, hsucceeds, -⟩ := delimitedBy_passes {} g hdelimits src {}
  have hgroup : src.Balanced (.str "(") (.str ")") 0 3 :=
    .of_holds (by decide) (by decide) (by decide) ⟨nofun, rfl, nofun, rfl, nofun, rfl, trivial⟩
  have hmerges (recovered : List Located) (output : Value) (l : Located) (stop : Nat)
      (hanswers : (parser {} g).Answers src 1 (.success recovered output (some l)) stop) :
      l.position = stop → l.error.dialect ≠ .terse := by
    obtain ⟨cur', hrun, -⟩ := hanswers
    have hletter : Parser.single .simple (.str "a") src ⟨1, 0, []⟩ = _ := hrun
    rcases Parser.single_done hletter with ⟨-, hr, -⟩ | ⟨-, _, _, _, _, _, -, hr⟩
    · cases hr
    · cases hr
  have hfails : (parser {} (g.between .simple (.str "(") (.str ")"))).Fails src 0 :=
    ⟨_, _, _, _, rfl, rfl⟩
  obtain ⟨recovered, output, alt, cur', hrun⟩ :=
    hpasses ⟨3, hgroup⟩ ⟨_, _, _, rfl, rfl⟩ (Or.inr ⟨rfl, hmerges⟩)
  obtain ⟨-, -, -, hskipped⟩ := hsucceeds _ _ _ _ hrun
  obtain ⟨rfl, hreported, hgroup'⟩ := hskipped hfails.not_succeeds
  exact ⟨d, hdelimits, recovered, alt, cur', hrun, hreported, hgroup'.unique hgroup⟩

/-- The letter is optional, and missed.  If it is stated in another dialect than the brackets, the
two cannot be merged; if a list closes the group, it cannot be said to be missed.  So the run is
given up, although a balanced group begins there. -/
theorem delimitedBy_given_up :
    let letter (dialect : Dialect) : Grammar := (Grammar.just dialect (.str "a")).optional
    let GivesUp (dialect : Dialect) (closing : Value) (fault : Fault) : Prop :=
      let src : Source := .ofTokens [.str "(", .str "b", closing] .null
      src.Balanced (.str "(") closing 0 3 ∧
        (parser {} (letter dialect)).Succeeds src 1 ∧
        ∃ d cur', (letter dialect).delimitedBy .simple (.str "(") closing = .ok d ∧
          parser {} d src {} = .halted (.fault fault) cur'
    GivesUp .terse (.str ")") .noSuchMember ∧
      GivesUp .simple (.list [.int 1]) .typeMismatch := by
  intro letter GivesUp
  have hgroup (closing : Value) (htoken : closing ≠ .null) (hfirst : .str "(" ≠ closing)
      (hinside : .str "b" ≠ closing) :
      (Source.ofTokens [.str "(", .str "b", closing] .null).Balanced (.str "(") closing 0 3 :=
    .of_holds hfirst (by decide) hinside ⟨nofun, rfl, nofun, rfl, htoken, rfl, trivial⟩
  refine ⟨⟨hgroup _ ?_ ?_ ?_, ⟨_, _, _, _, _, rfl, rfl⟩, _, _, rfl, rfl⟩,
    hgroup _ ?_ ?_ ?_, ⟨_, _, _, _, _, rfl, rfl⟩, _, _, rfl, rfl⟩
  all_goals decide

end Environment
end Resync
