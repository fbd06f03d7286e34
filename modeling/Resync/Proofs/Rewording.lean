import Resync.Grammar.Combinator
import Resync.Proofs.Simulation.Paired

/-!
# Diagnostics do not steer

The positions of diagnostics decide between alternatives and recoveries, but what the diagnostics
say decides nothing.  Grammars that differ in their wording only, that is in dialects, labels and
functions on diagnostics, parse alike.
-/

namespace Resync

/-- Two results that differ at most in what their diagnostics say. -/
structure Result.Rewords (r r' : Result) : Prop where
  isSuccess_eq : r'.isSuccess = r.isSuccess
  output_eq : r'.output = r.output
  recovered_eq : r'.recovered.map Located.position = r.recovered.map Located.position
  alt_eq : r'.alt.map Located.position = r.alt.map Located.position
  error_eq : r'.error?.map Located.position = r.error?.map Located.position

/-- Positions are moved on alike. -/
theorem Result.Rewords.shift
    {r r' : Result}
    (h : r.Rewords r')
    (offset : Nat) :
    (r.shift offset).Rewords (r'.shift offset) := by
  have hlist (ls : List Located) :
      (ls.map fun l => (⟨l.position + offset, l.error⟩ : Located)).map Located.position =
        (ls.map Located.position).map (· + offset) := by
    rw [List.map_map, List.map_map]
    rfl
  have hoption (l : Option Located) :
      (l.map fun l => (⟨l.position + offset, l.error⟩ : Located)).map Located.position =
        (l.map Located.position).map (· + offset) := by
    cases l with
    | none => rfl
    | some l => rfl
  obtain ⟨hsuccess, houtput, hrecovered, halt, herror⟩ := h
  cases r with
  | success recovered output alt =>
      cases r' with
      | success recovered' output' alt' =>
          refine ⟨rfl, houtput, ?_, ?_, rfl⟩
          · exact (hlist recovered').trans
              ((congrArg (List.map (· + offset)) hrecovered).trans (hlist recovered).symm)
          · exact (hoption alt').trans
              ((congrArg (Option.map (· + offset)) halt).trans (hoption alt).symm)
      | failure recovered' error' => cases hsuccess
  | failure recovered error =>
      cases r' with
      | success recovered' output' alt' => cases hsuccess
      | failure recovered' error' =>
          refine ⟨rfl, rfl, ?_, rfl, congrArg (Option.map (· + offset)) herror⟩
          exact (hlist recovered').trans
            ((congrArg (List.map (· + offset)) hrecovered).trans (hlist recovered).symm)

/-- Two verdicts that differ at most in what a rejection says. -/
inductive Verdict.Rewords : Verdict → Verdict → Prop
  | accept (output : Value) : Verdict.Rewords (.accept output) (.accept output)
  | reject (error error' : Diagnostic) : Verdict.Rewords (.reject error) (.reject error')

mutual

/-- Two grammars that differ at most in what their diagnostics say: in the dialects, in what is said
to be expected, in labels and in functions on diagnostics, which may also be there in one grammar
only, and in what functions say when they reject something. -/
inductive Grammar.Rewords : Grammar → Grammar → Prop
  | satisfy
      (dialect dialect' : Dialect) (expected expected' : List Value)
      (test : Value → Except Fault Bool) :
      Grammar.Rewords (.satisfy dialect expected test) (.satisfy dialect' expected' test)
  | seq (dialect dialect' : Dialect) (tokens : List Value) :
      Grammar.Rewords (.seq dialect tokens) (.seq dialect' tokens)
  | filterMap
      (dialect dialect' : Dialect) {f f' : Span → Value → Except Fault Verdict}
      (hf : ∀ span token, Answers True Verdict.Rewords (f span token) (f' span token)) :
      Grammar.Rewords (.filterMap dialect f) (.filterMap dialect' f')
  | endOfInput (dialect dialect' : Dialect) :
      Grammar.Rewords (.endOfInput dialect) (.endOfInput dialect')
  | empty : Grammar.Rewords .empty .empty
  | scripted
      (consume : Nat) (relative : Bool) {answer answer' : Result}
      (hanswer : answer.Rewords answer') :
      Grammar.Rewords (.scripted consume relative answer) (.scripted consume relative answer')
  | map
      (f : Value → Except Fault Value) {g g' : Grammar}
      (hg : Grammar.Rewords g g') :
      Grammar.Rewords (.map f g) (.map f g')
  | mapWithSpan
      (f : Value → Span → Except Fault Value) {g g' : Grammar}
      (hg : Grammar.Rewords g g') :
      Grammar.Rewords (.mapWithSpan f g) (.mapWithSpan f g')
  | tryMap
      {f f' : Value → Span → Except Fault Verdict} {g g' : Grammar}
      (hf : ∀ output span, Answers True Verdict.Rewords (f output span) (f' output span))
      (hg : Grammar.Rewords g g') :
      Grammar.Rewords (.tryMap f g) (.tryMap f' g')
  | mapErrorLeft
      (f : Diagnostic → Diagnostic) {g g' : Grammar}
      (hg : Grammar.Rewords g g') :
      Grammar.Rewords (.mapError f g) g'
  | mapErrorRight
      (f : Diagnostic → Diagnostic) {g g' : Grammar}
      (hg : Grammar.Rewords g g') :
      Grammar.Rewords g (.mapError f g')
  | labelledLeft
      (label : String) {g g' : Grammar}
      (hg : Grammar.Rewords g g') :
      Grammar.Rewords (.labelled label g) g'
  | labelledRight
      (label : String) {g g' : Grammar}
      (hg : Grammar.Rewords g g') :
      Grammar.Rewords g (.labelled label g')
  | andThen
      {g g' h h' : Grammar}
      (hg : Grammar.Rewords g g') (hh : Grammar.Rewords h h') :
      Grammar.Rewords (.andThen g h) (.andThen g' h')
  | orElse
      {g g' h h' : Grammar}
      (hg : Grammar.Rewords g g') (hh : Grammar.Rewords h h') :
      Grammar.Rewords (.orElse g h) (.orElse g' h')
  | optional {g g' : Grammar} (hg : Grammar.Rewords g g') :
      Grammar.Rewords (.optional g) (.optional g')
  | recoverWith (strategy : Strategy) {g g' : Grammar} (hg : Grammar.Rewords g g') :
      Grammar.Rewords (.recoverWith g strategy) (.recoverWith g' strategy)
  | repeated
      (minimum : Nat) (maximum : Option Nat) {g g' : Grammar}
      (hg : Grammar.Rewords g g') :
      Grammar.Rewords (.repeated g minimum maximum) (.repeated g' minimum maximum)
  | separatedBy
      (minimum : Nat) (leading trailing : Bool) {g g' h h' : Grammar}
      (hg : Grammar.Rewords g g') (hh : Grammar.Rewords h h') :
      Grammar.Rewords (.separatedBy g h minimum leading trailing)
        (.separatedBy g' h' minimum leading trailing)
  | generate {plan plan' : Plan} (hplan : Plan.Rewords plan plan') :
      Grammar.Rewords (.generate plan) (.generate plan')
  | ref (target : Ref) : Grammar.Rewords (.ref target) (.ref target)

/-- The same of plans, after any outputs. -/
inductive Plan.Rewords : Plan → Plan → Prop
  | finish (output : Value) : Plan.Rewords (.finish output) (.finish output)
  | abandon (f f' : Fault) : Plan.Rewords (.abandon f) (.abandon f')
  | step
      {g g' : Grammar} {resume resume' : Value → Plan}
      (hg : Grammar.Rewords g g')
      (hresume : ∀ output, Plan.Rewords (resume output) (resume' output)) :
      Plan.Rewords (.step g resume) (.step g' resume')

end

/-- What references mean in one environment and in the other differs at most in what diagnostics
say. -/
def Environment.Rewords (env env' : Environment) : Prop :=
  ∀ {target : Ref} {g g' : Grammar},
    env.lookup target = .ok g → env'.lookup target = .ok g' → g.Rewords g'

namespace Simulation

/-- The comparison that asks for diagnostics at the same positions. -/
def positional (source : Source) : Simulation :=
  paired source (fun _ => True) (fun l m => m.position = l.position) False Eq.symm
    (by
      intro a a' b b' c c' ha hb hmax hmax'
      rw [Located.position_of_max hmax, Located.position_of_max hmax', ha, hb])
    (fun _ _ => trivial)

variable {source : Source}

theorem positional_sameSource : (positional source).SameSource := by
  intro c d a c' b d' hlevel hat hx hy
  cases hx
  cases hy
  exact ⟨⟨rfl, rfl⟩, hlevel, hat⟩

theorem forall₂_position {ls ms : List Located} :
    List.Forall₂ (positional source).Alike ls ms ↔
      ms.map Located.position = ls.map Located.position := by
  rw [← List.forall₂_eq_eq_eq, List.forall₂_map_left_iff, List.forall₂_map_right_iff]
  exact ⟨List.Forall₂.flip, List.Forall₂.flip⟩

theorem optionRel_position {l m : Option Located} :
    Option.Rel (positional source).Alike l m ↔
      m.map Located.position = l.map Located.position := by
  constructor
  · intro h
    cases h with
    | none => rfl
    | some halike => exact congrArg some halike
  · intro h
    cases l with
    | none =>
        rw [Option.map_none, Option.map_eq_none_iff] at h
        rw [h]
        exact .none
    | some a =>
        obtain ⟨b, rfl, hb⟩ := Option.map_eq_some_iff.1 h
        exact .some hb

/-- Results correspond if they differ at most in what their diagnostics say. -/
theorem positional_results {r r' : Result} : (positional source).Results r r' ↔ r.Rewords r' := by
  constructor
  · intro h
    cases h with
    | success hrecovered houtput halt =>
        exact ⟨rfl, houtput fun hmade => hmade.elim, forall₂_position.1 hrecovered,
          optionRel_position.1 halt, rfl⟩
    | failure hrecovered herror =>
        exact ⟨rfl, rfl, forall₂_position.1 hrecovered, rfl, congrArg some herror⟩
  · rintro ⟨hsuccess, houtput, hrecovered, halt, herror⟩
    cases r with
    | success recovered output alt =>
        cases r' with
        | success recovered' output' alt' =>
            exact .success (forall₂_position.2 hrecovered) (fun _ => houtput)
              (optionRel_position.2 halt)
        | failure recovered' error' => cases hsuccess
    | failure recovered error =>
        cases r' with
        | success recovered' output' alt' => cases hsuccess
        | failure recovered' error' =>
            exact .failure (forall₂_position.2 hrecovered) (Option.some.inj herror)

theorem positional_verdicts
    {e e' : Except Fault Verdict}
    (h : Answers True Verdict.Rewords e e')
    (i : Nat) :
    Answers (positional source).loose ((positional source).Verdicts i) e e' := by
  refine .of_loose trivial fun v v' hv hv' => ?_
  rw [hv, hv'] at h
  cases h with
  | accept output => exact .accept output
  | reject error error' => exact .reject rfl

/-- Whatever is expected where, a failure to find it is located there. -/
theorem positional_expects (dialect dialect' : Dialect) (expected expected' : List Value) :
    (positional source).Expects dialect dialect' expected expected' :=
  fun _ _ => .of_loose trivial fun _ _ _ _ => rfl

theorem positional_strategies (strategy : Strategy) :
    (positional source).Strategies strategy strategy := by
  cases strategy with
  | skipThenRetry sentinels => exact .skipThenRetry sentinels
  | nestedDelimiters opening closing others default =>
      exact .nestedDelimiters (fun _ _ _ _ _ _ => .of_loose trivial fun _ _ _ _ => rfl)
        fun _ => rfl
  | defaultOutput value => exact .defaultOutput fun _ => rfl

end Simulation

section Runs

open Simulation

variable {source : Source} {resolve resolve' : Ref → Parser}

/-- Amending diagnostics without moving them makes no difference. -/
theorem Simulation.Parsers.amendLeft
    {p p' : Parser}
    {onAlt onError : Located → Located}
    (hp : (positional source).Parsers p p')
    (hAlt : ∀ l, (onAlt l).position = l.position)
    (hError : ∀ l, (onError l).position = l.position) :
    (positional source).Parsers (p.amending onAlt onError) p' := by
  rw [← Parser.amending_id p']
  exact hp.amending (fun l m hlm => hlm.trans (hAlt l).symm)
    fun l m hlm => hlm.trans (hError l).symm

theorem Simulation.Parsers.amendRight
    {p p' : Parser}
    {onAlt onError : Located → Located}
    (hp : (positional source).Parsers p p')
    (hAlt : ∀ l, (onAlt l).position = l.position)
    (hError : ∀ l, (onError l).position = l.position) :
    (positional source).Parsers p (p'.amending onAlt onError) := by
  rw [← Parser.amending_id p]
  exact hp.amending (fun l m hlm => (hAlt m).trans hlm) fun l m hlm => (hError m).trans hlm

theorem Parser.position_relabel (label : String) (start : Nat) (l : Located) :
    (relabel label start l).position = l.position := by
  unfold relabel
  split
  · rfl
  · rfl

mutual

/-- Grammars that differ in their wording only correspond if what they refer to does. -/
theorem Grammar.Rewords.simulates
    (hresolve : ∀ target, (positional source).Parsers (resolve target) (resolve' target)) :
    ∀ {g g' : Grammar}, g.Rewords g' →
      (positional source).Parsers (g.parser resolve) (g'.parser resolve')
  | _, _, .satisfy dialect dialect' expected expected' test => by
      rw [Grammar.parser, Grammar.parser]
      exact Parsers.satisfy (positional_expects _ _ _ _) test
  | _, _, .seq dialect dialect' tokens => by
      rw [Grammar.parser, Grammar.parser]
      exact Parsers.seqFrom tokens tokens fun _ _ => positional_expects _ _ _ _
  | _, _, .filterMap dialect dialect' hf => by
      rw [Grammar.parser, Grammar.parser]
      exact Parsers.filterMap (positional_expects _ _ _ _) fun i _ => positional_verdicts (hf _ _) i
  | _, _, .endOfInput dialect dialect' => by
      rw [Grammar.parser, Grammar.parser]
      exact Parsers.endOfInput (positional_expects _ _ _ _)
  | _, _, .empty => by
      rw [Grammar.parser, Grammar.parser]
      exact Parsers.matched _
  | _, _, .scripted consume relative hanswer => by
      rw [Grammar.parser, Grammar.parser]
      refine Parsers.scripted fun i _ => positional_results.2 ?_
      cases relative with
      | true => exact hanswer.shift i
      | false => exact hanswer
  | _, _, .map f hg => by
      rw [Grammar.parser, Grammar.parser]
      exact (Grammar.Rewords.simulates hresolve hg).map f
  | _, _, .mapWithSpan f hg => by
      rw [Grammar.parser, Grammar.parser]
      exact (Grammar.Rewords.simulates hresolve hg).mapWithSpan f
  | _, _, .tryMap hf hg => by
      rw [Grammar.parser, Grammar.parser]
      exact (Grammar.Rewords.simulates hresolve hg).tryMap id fun i _ _ _ =>
        positional_verdicts (hf _ _) i
  | _, _, .mapErrorLeft f hg => by
      rw [Grammar.parser, Parser.mapError_eq_amending]
      exact (Grammar.Rewords.simulates hresolve hg).amendLeft (fun _ => rfl) fun _ => rfl
  | _, _, .mapErrorRight f hg => by
      rw [Grammar.parser, Parser.mapError_eq_amending]
      exact (Grammar.Rewords.simulates hresolve hg).amendRight (fun _ => rfl) fun _ => rfl
  | _, _, .labelledLeft label hg => by
      rw [Grammar.parser, Parser.labelled_eq_amending]
      exact saveLeft fun start _ => (Grammar.Rewords.simulates hresolve hg).amendLeft
        (Parser.position_relabel label start) (Parser.position_relabel label start)
  | _, _, .labelledRight label hg => by
      rw [Grammar.parser, Parser.labelled_eq_amending]
      exact saveRight fun start _ => (Grammar.Rewords.simulates hresolve hg).amendRight
        (Parser.position_relabel label start) (Parser.position_relabel label start)
  | _, _, .andThen hg hh => by
      rw [Grammar.parser, Grammar.parser]
      exact (Grammar.Rewords.simulates hresolve hg).andThen (Grammar.Rewords.simulates hresolve hh)
  | _, _, .orElse hg hh => by
      rw [Grammar.parser, Grammar.parser]
      exact (Grammar.Rewords.simulates hresolve hg).orElse (Grammar.Rewords.simulates hresolve hh)
  | _, _, .optional hg => by
      rw [Grammar.parser, Grammar.parser]
      exact (Grammar.Rewords.simulates hresolve hg).optional
  | _, _, .recoverWith strategy hg => by
      rw [Grammar.parser, Grammar.parser]
      exact positional_sameSource.loops.recoverWith trivial
        (Grammar.Rewords.simulates hresolve hg) (positional_strategies strategy)
  | _, _, .repeated minimum maximum hg => by
      rw [Grammar.parser, Grammar.parser]
      exact positional_sameSource.loops.repeated trivial
        (Grammar.Rewords.simulates hresolve hg) minimum maximum
  | _, _, .separatedBy minimum leading trailing hg hh => by
      rw [Grammar.parser, Grammar.parser]
      exact positional_sameSource.loops.separatedBy trivial trivial
        (Grammar.Rewords.simulates hresolve hg) (Grammar.Rewords.simulates hresolve hh)
        minimum leading trailing
  | _, _, .generate hplan => by
      rw [Grammar.parser, Grammar.parser]
      exact Plan.Rewords.simulates hresolve hplan .nil .none
  | _, _, .ref target => by
      rw [Grammar.parser, Grammar.parser]
      exact hresolve target

/-- The same of plans, with what the steps before have given. -/
theorem Plan.Rewords.simulates
    (hresolve : ∀ target, (positional source).Parsers (resolve target) (resolve' target)) :
    ∀ {plan plan' : Plan}, plan.Rewords plan' →
      ∀ {recovered recovered' : List Located} {alt alt' : Option Located},
        List.Forall₂ (positional source).Alike recovered recovered' →
        Option.Rel (positional source).Alike alt alt' →
        (positional source).Parsers (plan.parser resolve recovered alt)
          (plan'.parser resolve' recovered' alt')
  | _, _, .finish output, _, _, _, _, hrecovered, halt => by
      rw [Plan.parser, Plan.parser]
      exact Parsers.success hrecovered (fun _ => rfl) halt
  | _, _, .abandon f f', _, _, _, _, _, _ => by
      rw [Plan.parser, Plan.parser]
      exact (positional source).silent_left fun cur a cur' hrun => by cases hrun
  | _, _, .step hg hresume, _, _, _, _, hrecovered, halt => by
      rw [Plan.parser_step, Plan.parser_step]
      refine (Grammar.Rewords.simulates hresolve hg).step ?_ hrecovered halt
      intro output output' more more' further further' hmore houtput hfurther
      rw [houtput fun hmade => hmade.elim]
      exact Plan.Rewords.simulates hresolve (hresume output) hmore hfurther

end

namespace Environment

/-- **Diagnostics do not steer.**  Take two grammars, each with what it refers to, that differ at
most in what their diagnostics say.  Runs of both from the same place that return have results
that differ at most in what the diagnostics say, recoveries included; they end at the same place
and take the same number of tokens. -/
theorem parser_rewords
    {env env' : Environment}
    {g g' : Grammar}
    (src : Source)
    (cur : Cursor)
    {r r' : Result}
    {c c' : Cursor}
    (hg : g.Rewords g')
    (henv : env.Rewords env')
    (hrun : env.parser g src cur = .done r c)
    (hrun' : env'.parser g' src cur = .done r' c') :
    r.Rewords r' ∧ c'.offset = c.offset ∧ c'.buffered = c.buffered := by
  have hresolve (bound bound' : Nat) (target : Ref) :
      (positional src).Parsers (env.resolve bound target) (env'.resolve bound' target) :=
    resolve_simulates_loosely trivial (fun hleft hright hparts => (henv hleft hright).simulates hparts)
      bound bound' target
  have hparsers := hg.simulates (hresolve (env.depth src) (env'.depth src))
  obtain ⟨hresults, hlevel, -⟩ := hparsers cur cur r c r' c' ⟨rfl, rfl⟩ trivial hrun hrun'
  exact ⟨positional_results.1 hresults, hlevel.1.symm, hlevel.2.symm⟩

/-- A rule that skips a group in which it failed, stated in two dialects and with other labels. -/
theorem parser_rewords_of_skipped_group :
    let list (dialect : Dialect) : Grammar :=
      ((Grammar.just dialect (.str "(")).andThen (.ref (.cell 0))).andThen
        (.just dialect (.str ")"))
    let skip : Strategy := .nestedDelimiters (.str "(") (.str ")") [] .absent
    let g : Grammar := (list .simple).recoverWith skip
    let g' : Grammar :=
      .labelled "group" (.recoverWith (.mapError (fun e => e.withLabel "list") (list .terse)) skip)
    let env : Environment := ⟨{}, ⟨[⟨some (.labelled "item" (.just .simple (.str "a")))⟩]⟩⟩
    let env' : Environment := ⟨{}, ⟨[⟨some (.just .terse (.str "a"))⟩]⟩⟩
    let span : Span := .single 0 .null
    let src : Source := ⟨#[(.str "(", span), (.str "b", span), (.str ")", span)], span⟩
    ∃ r c r' c', env.parser g src {} = .done r c ∧ env'.parser g' src {} = .done r' c' ∧
      r.recovered.map Located.position = [1] ∧ r.Rewords r' ∧
      c'.offset = c.offset ∧ c'.buffered = c.buffered := by
  intro list skip g g' env env' span src
  have hlist : (list .simple).Rewords (list .terse) :=
    .andThen (.andThen (.satisfy _ _ _ _ _) (.ref _)) (.satisfy _ _ _ _ _)
  have hg : g.Rewords g' := .labelledRight _ (.recoverWith _ (.mapErrorRight _ hlist))
  have henv : env.Rewords env' := by
    intro target h h' hleft hright
    match target with
    | .rule name => cases hleft
    | .cell (index + 1) => cases hleft
    | .cell 0 =>
        cases hleft
        cases hright
        exact .labelledLeft _ (.satisfy _ _ _ _ _)
  have hrewords := parser_rewords src {} hg henv rfl rfl
  exact ⟨_, _, _, _, rfl, rfl, rfl, hrewords⟩

end Environment
end Runs
end Resync
