import Resync.Grammar.Combinator
import Resync.Proofs.Simulation.Paired

/-!
# Placeholders of recoveries

A recovery may put a value in place of what could not be parsed.  Such a value stands beside the
diagnostic that was recovered from: wherever the diagnostic is dropped, so is the value.  So
grammars that differ in these values only give the same results, apart from the outputs of those
that had to recover.

A function that may reject an output could tell the values apart, and so could a plan that chooses
its next step by them.  There are none of either here.
-/

namespace Resync

/-- Two strategies that resume in the same way, with whatever value. -/
inductive Strategy.Refills : Strategy → Strategy → Prop
  | skipThenRetry (sentinels : List Value) :
      Strategy.Refills (.skipThenRetry sentinels) (.skipThenRetry sentinels)
  | nestedDelimiters
      (opening closing : Value) (others : List (Value × Value)) (default default' : Value) :
      Strategy.Refills (.nestedDelimiters opening closing others default)
        (.nestedDelimiters opening closing others default')
  | defaultOutput (value value' : Value) :
      Strategy.Refills (.defaultOutput value) (.defaultOutput value')

mutual

/-- Two grammars that differ at most in the values that recoveries put in place.  No function may
reject an output. -/
inductive Grammar.Refills : Grammar → Grammar → Prop
  | satisfy (dialect : Dialect) (expected : List Value) (test : Value → Except Fault Bool) :
      Grammar.Refills (.satisfy dialect expected test) (.satisfy dialect expected test)
  | seq (dialect : Dialect) (tokens : List Value) :
      Grammar.Refills (.seq dialect tokens) (.seq dialect tokens)
  | filterMap (dialect : Dialect) (f : Span → Value → Except Fault Verdict) :
      Grammar.Refills (.filterMap dialect f) (.filterMap dialect f)
  | endOfInput (dialect : Dialect) : Grammar.Refills (.endOfInput dialect) (.endOfInput dialect)
  | empty : Grammar.Refills .empty .empty
  | scripted (consume : Nat) (relative : Bool) (answer : Result) :
      Grammar.Refills (.scripted consume relative answer) (.scripted consume relative answer)
  | map (f : Value → Except Fault Value) {g g' : Grammar} (hg : Grammar.Refills g g') :
      Grammar.Refills (.map f g) (.map f g')
  | mapWithSpan
      (f : Value → Span → Except Fault Value) {g g' : Grammar}
      (hg : Grammar.Refills g g') :
      Grammar.Refills (.mapWithSpan f g) (.mapWithSpan f g')
  | mapError (f : Diagnostic → Diagnostic) {g g' : Grammar} (hg : Grammar.Refills g g') :
      Grammar.Refills (.mapError f g) (.mapError f g')
  | labelled (label : String) {g g' : Grammar} (hg : Grammar.Refills g g') :
      Grammar.Refills (.labelled label g) (.labelled label g')
  | andThen
      {g g' h h' : Grammar}
      (hg : Grammar.Refills g g') (hh : Grammar.Refills h h') :
      Grammar.Refills (.andThen g h) (.andThen g' h')
  | orElse
      {g g' h h' : Grammar}
      (hg : Grammar.Refills g g') (hh : Grammar.Refills h h') :
      Grammar.Refills (.orElse g h) (.orElse g' h')
  | optional {g g' : Grammar} (hg : Grammar.Refills g g') :
      Grammar.Refills (.optional g) (.optional g')
  | recoverWith
      {s s' : Strategy} {g g' : Grammar}
      (hs : s.Refills s') (hg : Grammar.Refills g g') :
      Grammar.Refills (.recoverWith g s) (.recoverWith g' s')
  | repeated
      (minimum : Nat) (maximum : Option Nat) {g g' : Grammar}
      (hg : Grammar.Refills g g') :
      Grammar.Refills (.repeated g minimum maximum) (.repeated g' minimum maximum)
  | separatedBy
      (minimum : Nat) (leading trailing : Bool) {g g' h h' : Grammar}
      (hg : Grammar.Refills g g') (hh : Grammar.Refills h h') :
      Grammar.Refills (.separatedBy g h minimum leading trailing)
        (.separatedBy g' h' minimum leading trailing)
  | generate {plan plan' : Plan} (hplan : Plan.Refills True plan plan') :
      Grammar.Refills (.generate plan) (.generate plan')
  | ref (target : Ref) : Grammar.Refills (.ref target) (.ref target)

/-- The same of plans: their steps differ at most in the values that recoveries put in place,
whatever the outputs before were, and they end with the same output if the outputs before were
`same`. -/
inductive Plan.Refills : Prop → Plan → Plan → Prop
  | finish {same : Prop} {output output' : Value} (houtput : same → output' = output) :
      Plan.Refills same (.finish output) (.finish output')
  | abandon (same : Prop) (f f' : Fault) : Plan.Refills same (.abandon f) (.abandon f')
  | step
      {same : Prop} {g g' : Grammar} {resume resume' : Value → Plan}
      (hg : Grammar.Refills g g')
      (hresume : ∀ output output',
        Plan.Refills (same ∧ output' = output) (resume output) (resume' output')) :
      Plan.Refills same (.step g resume) (.step g' resume')

end

/-- Steps that are known beforehand depend on no output. -/
theorem Plan.Refills.sequence
    {gs gs' : List Grammar}
    (hgs : List.Forall₂ Grammar.Refills gs gs') :
    Plan.Refills True (Plan.sequence gs) (Plan.sequence gs') := by
  have hfrom {same : Prop} {outputs outputs' : List Value} (v v' : Value)
      (houtputs : same → outputs' = outputs) :
      Plan.Refills same (Plan.stepsFrom outputs v (gs.map .fixed))
        (Plan.stepsFrom outputs' v' (gs'.map .fixed)) := by
    induction hgs generalizing same outputs outputs' v v' with
    | nil => exact .finish fun hsame => congrArg Value.list (houtputs hsame)
    | cons hg hrest ih =>
        refine .step hg fun output output' => ih output output' ?_
        rintro ⟨hsame, rfl⟩
        rw [houtputs hsame]
  exact hfrom .null .null fun _ => rfl

/-- What references mean in one environment and in the other differs at most in the values that
recoveries put in place. -/
def Environment.Refills (env env' : Environment) : Prop :=
  ∀ {target : Ref} {g g' : Grammar},
    env.lookup target = .ok g → env'.lookup target = .ok g' → g.Refills g'

/-- Two results that differ at most in an output beside which something was recovered from. -/
structure Result.Refills (r r' : Result) : Prop where
  isSuccess_eq : r'.isSuccess = r.isSuccess
  recovered_eq : r'.recovered = r.recovered
  alt_eq : r'.alt = r.alt
  error_eq : r'.error? = r.error?
  output_eq : r.recovered = [] → r'.output = r.output

namespace Simulation

/-- The comparison that asks for equal diagnostics, and for equal outputs where nothing was
recovered from. -/
def refilling (source : Source) : Simulation :=
  located source (fun _ => True) (fun _ => True) True fun _ _ => trivial

variable {source : Source}

theorem refilling_diagonal : (refilling source).Diagonal fun _ => True :=
  located_diagonal fun _ => trivial

theorem refilling_loops : (refilling source).Loops fun _ _ => True := located_sameSource.loops

theorem refilling_strategies {s s' : Strategy} (h : s.Refills s') :
    (refilling source).Strategies s s' := by
  cases h with
  | skipThenRetry sentinels => exact .skipThenRetry sentinels
  | nestedDelimiters opening closing others default default' =>
      refine .nestedDelimiters ?_ fun hmade => absurd trivial hmade
      rintro l m ⟨rfl, -⟩
      exact fun _ _ hi => .refl fun error _ => refilling_diagonal.alike_at hi error
  | defaultOutput value value' => exact .defaultOutput fun hmade => absurd trivial hmade

theorem refilling_results {r r' : Result} (h : (refilling source).Results r r') :
    r.Refills r' := by
  cases h with
  | success hrecovered houtput halt =>
      exact ⟨rfl, refilling_diagonal.list_eq hrecovered, refilling_diagonal.option_eq halt, rfl,
        fun hclean => houtput fun _ => hclean⟩
  | failure hrecovered herror =>
      exact ⟨rfl, refilling_diagonal.list_eq hrecovered, rfl, congrArg some herror.1, fun _ => rfl⟩

end Simulation

section Runs

open Simulation

variable {source : Source} {resolve resolve' : Ref → Parser}

mutual

/-- Grammars that differ in such values only correspond if what they refer to does. -/
theorem Grammar.Refills.simulates
    (hresolve : ∀ target, (refilling source).Parsers (resolve target) (resolve' target)) :
    ∀ {g g' : Grammar}, g.Refills g' →
      (refilling source).Parsers (g.parser resolve) (g'.parser resolve')
  | _, _, .satisfy dialect expected test => by
      rw [Grammar.parser, Grammar.parser]
      exact Parsers.satisfy (refilling_diagonal.expects _ _) test
  | _, _, .seq dialect tokens => by
      rw [Grammar.parser, Grammar.parser]
      exact Parsers.seqFrom tokens tokens fun _ _ => refilling_diagonal.expects _ _
  | _, _, .filterMap dialect f => by
      rw [Grammar.parser, Grammar.parser]
      exact Parsers.filterMap (refilling_diagonal.expects _ _) fun i hi =>
        .refl fun verdict _ => refilling_diagonal.verdicts hi verdict
  | _, _, .endOfInput dialect => by
      rw [Grammar.parser, Grammar.parser]
      exact Parsers.endOfInput (refilling_diagonal.expects _ _)
  | _, _, .empty => by
      rw [Grammar.parser, Grammar.parser]
      exact Parsers.matched _
  | _, _, .scripted consume relative answer => by
      rw [Grammar.parser, Grammar.parser]
      exact Parsers.scripted fun i _ => (refilling_diagonal.results_self_iff _).2 fun _ _ => trivial
  | _, _, .map f hg => by
      rw [Grammar.parser, Grammar.parser]
      exact (Grammar.Refills.simulates hresolve hg).map f
  | _, _, .mapWithSpan f hg => by
      rw [Grammar.parser, Grammar.parser]
      exact (Grammar.Refills.simulates hresolve hg).mapWithSpan f
  | _, _, .mapError f hg => by
      rw [Grammar.parser, Grammar.parser]
      exact (Grammar.Refills.simulates hresolve hg).mapError (refilling_diagonal.alike_map f)
  | _, _, .labelled label hg => by
      rw [Grammar.parser, Grammar.parser]
      exact (Grammar.Refills.simulates hresolve hg).labelled (refilling_diagonal.alike_map _)
  | _, _, .andThen hg hh => by
      rw [Grammar.parser, Grammar.parser]
      exact (Grammar.Refills.simulates hresolve hg).andThen (Grammar.Refills.simulates hresolve hh)
  | _, _, .orElse hg hh => by
      rw [Grammar.parser, Grammar.parser]
      exact (Grammar.Refills.simulates hresolve hg).orElse (Grammar.Refills.simulates hresolve hh)
  | _, _, .optional hg => by
      rw [Grammar.parser, Grammar.parser]
      exact (Grammar.Refills.simulates hresolve hg).optional
  | _, _, .recoverWith hs hg => by
      rw [Grammar.parser, Grammar.parser]
      exact refilling_loops.recoverWith trivial
        (Grammar.Refills.simulates hresolve hg) (refilling_strategies hs)
  | _, _, .repeated minimum maximum hg => by
      rw [Grammar.parser, Grammar.parser]
      exact refilling_loops.repeated trivial
        (Grammar.Refills.simulates hresolve hg) minimum maximum
  | _, _, .separatedBy minimum leading trailing hg hh => by
      rw [Grammar.parser, Grammar.parser]
      exact refilling_loops.separatedBy trivial trivial
        (Grammar.Refills.simulates hresolve hg) (Grammar.Refills.simulates hresolve hh)
        minimum leading trailing
  | _, _, .generate hplan => by
      rw [Grammar.parser, Grammar.parser]
      exact Plan.Refills.simulates hresolve hplan (fun _ => trivial) .nil .none
  | _, _, .ref target => by
      rw [Grammar.parser, Grammar.parser]
      exact hresolve target

/-- The same of plans.  As long as nothing was recovered from, the outputs before were the same. -/
theorem Plan.Refills.simulates
    (hresolve : ∀ target, (refilling source).Parsers (resolve target) (resolve' target)) :
    ∀ {same : Prop} {plan plan' : Plan}, Plan.Refills same plan plan' →
      ∀ {recovered recovered' : List Located} {alt alt' : Option Located},
        (recovered = [] → same) →
        List.Forall₂ (refilling source).Alike recovered recovered' →
        Option.Rel (refilling source).Alike alt alt' →
        (refilling source).Parsers (plan.parser resolve recovered alt)
          (plan'.parser resolve' recovered' alt')
  | _, _, _, .finish houtput, _, _, _, _, hsame, hrecovered, halt => by
      rw [Plan.parser, Plan.parser]
      exact Parsers.success hrecovered (fun hclean => houtput (hsame (hclean trivial))) halt
  | _, _, _, .abandon same f f', _, _, _, _, _, _, _ => by
      rw [Plan.parser, Plan.parser]
      exact (refilling source).silent_left fun cur a cur' hrun => by cases hrun
  | _, _, _, .step hg hresume, _, _, _, _, hsame, hrecovered, halt => by
      rw [Plan.parser_step, Plan.parser_step]
      refine (Grammar.Refills.simulates hresolve hg).step ?_ hrecovered halt
      intro output output' more more' further further' hmore houtput hfurther
      refine Plan.Refills.simulates hresolve (hresume output output') ?_ hmore hfurther
      intro hclean
      obtain ⟨hbefore, hnow⟩ := List.append_eq_nil_iff.1 hclean
      exact ⟨hsame hbefore, houtput fun _ => hnow⟩

end

namespace Environment

/-- **No placeholder without a diagnostic.**  Take two grammars, each with what it refers to, that
differ at most in the values that recoveries put in place.  Runs of both from the same place that
return agree in whether they succeed, where they end, and all diagnostics; and their outputs are
the same if nothing was recovered from. -/
theorem parser_refills
    {env env' : Environment}
    {g g' : Grammar}
    (src : Source)
    (cur : Cursor)
    {r r' : Result}
    {c c' : Cursor}
    (hg : g.Refills g')
    (henv : env.Refills env')
    (hrun : env.parser g src cur = .done r c)
    (hrun' : env'.parser g' src cur = .done r' c') :
    r.Refills r' ∧ c'.offset = c.offset := by
  have hresolve (bound bound' : Nat) (target : Ref) :
      (refilling src).Parsers (env.resolve bound target) (env'.resolve bound' target) :=
    resolve_simulates_loosely trivial (fun hleft hright hparts => (henv hleft hright).simulates hparts)
      bound bound' target
  have hparsers := hg.simulates (hresolve (env.depth src) (env'.depth src))
  obtain ⟨hresults, hlevel, -⟩ := hparsers cur cur r c r' c' ⟨rfl, rfl⟩ trivial hrun hrun'
  exact ⟨refilling_results hresults, hlevel.1.symm⟩

/-- A group that is skipped by one alternative, and parsed by the other. -/
theorem parser_refills_of_abandoned_group :
    let one (token : Int) : Grammar := .just .simple (.int token)
    let g (placeholder : Value) : Grammar :=
      ((one 2).recoverWith (.nestedDelimiters (.int 1) (.int 3) [] placeholder)).orElse (one 1)
    let span : Span := .single 0 .null
    let src : Source := ⟨#[(.int 1, span), (.int 3, span)], span⟩
    ∃ r c r' c', parser {} (g (.int 0)) src {} = .done r c ∧
      parser {} (g (.int 4)) src {} = .done r' c' ∧
      r.Refills r' ∧ c'.offset = c.offset ∧ r.recovered = [] ∧ r'.output = .int 1 := by
  intro one g span src
  have hone (token : Int) : (one token).Refills (one token) := .satisfy _ _ _
  have hg : (g (.int 0)).Refills (g (.int 4)) :=
    .orElse (.recoverWith (.nestedDelimiters _ _ _ _ _) (hone _)) (hone _)
  have henv : Refills {} {} := by
    intro target h h' hleft
    cases target with
    | rule name => cases hleft
    | cell index => cases hleft
  obtain ⟨hrefills, hoffset⟩ := parser_refills src {} hg henv rfl rfl
  exact ⟨_, _, _, _, rfl, rfl, hrefills, hoffset, rfl, rfl⟩

end Environment
end Runs
end Resync
