import Resync.Proofs.Simulation.Iteration

/-!
# Simulations of grammars

A grammar corresponds to itself as soon as what it is made of does: its dialects, its functions and
its strategies.  What these have to respect depends on which diagnostics are alike.  Where only
equal diagnostics are, there is nothing to ask of them.
-/

namespace Resync
namespace Simulation

/-- Whether what a grammar itself says, apart from its parts, corresponds to itself. -/
def Admits (S : Simulation) : Grammar → Prop
  | .satisfy dialect expected _ => S.Expects dialect dialect expected expected
  | .seq dialect tokens => ∀ token ∈ tokens, S.Expects dialect dialect [token] [token]
  | .filterMap dialect f =>
      S.Expects dialect dialect [] [] ∧ ∀ i, S.At i → Answers S.loose (S.Verdicts i)
        (f (S.source.sighting i).span (S.source.sighting i).token)
        (f (S.source.sighting i).span (S.source.sighting i).token)
  | .endOfInput dialect => S.Expects dialect dialect [.null] [.null]
  | .scripted _ relative answer => ∀ i, S.At i →
      S.Results (if relative then answer.shift i else answer)
        (if relative then answer.shift i else answer)
  | .tryMap f _ => ∀ i output span, S.At i →
      Answers S.loose (S.Verdicts i) (f output span) (f output span)
  | .mapError f _ => ∀ l m, S.Alike l m → S.Alike (l.map f) (m.map f)
  | .labelled label _ => ∀ l m, S.Alike l m →
      S.Alike (l.map fun e => e.withLabel label) (m.map fun e => e.withLabel label)
  | .recoverWith _ strategy => S.Strategies strategy strategy
  | .empty | .map _ _ | .mapWithSpan _ _ | .andThen _ _ | .orElse _ _ | .optional _ => True
  | .repeated _ _ _ | .separatedBy _ _ _ _ _ | .generate _ | .ref _ => True

section Diagonal

variable {S : Simulation} {P : Nat → Prop}

/-- Simulations in which diagnostics are alike if they are equal, and lie where `P` holds. -/
structure Diagonal (S : Simulation) (P : Nat → Prop) : Prop where
  alike_iff (l m : Located) : S.Alike l m ↔ m = l ∧ P l.position
  holds {i : Nat} : S.At i → P i

namespace Diagonal

theorem alike_map
    (h : S.Diagonal P)
    (f : Diagnostic → Diagnostic)
    (l m : Located)
    (hlm : S.Alike l m) :
    S.Alike (l.map f) (m.map f) := by
  obtain ⟨rfl, hl⟩ := (h.alike_iff l m).1 hlm
  exact (h.alike_iff _ _).2 ⟨rfl, hl⟩

theorem list_eq
    {ls ms : List Located}
    (h : S.Diagonal P)
    (hall : List.Forall₂ S.Alike ls ms) :
    ms = ls := by
  have hequal : List.Forall₂ Eq ls ms := hall.imp fun l m hlm => ((h.alike_iff l m).1 hlm).1.symm
  rw [List.forall₂_eq_eq_eq] at hequal
  exact hequal.symm

theorem option_eq
    {l m : Option Located}
    (h : S.Diagonal P)
    (hlm : Option.Rel S.Alike l m) :
    m = l := by
  cases hlm with
  | none => rfl
  | some halike => exact congrArg some ((h.alike_iff _ _).1 halike).1

/-- Where no outputs are made up, results that correspond are the same. -/
theorem results_eq
    {r r' : Result}
    (h : S.Diagonal P)
    (hmade : ¬ S.made)
    (hr : S.Results r r') :
    r' = r := by
  cases hr with
  | success hrecovered houtput halt =>
      rw [h.list_eq hrecovered, houtput fun hmakes => absurd hmakes hmade, h.option_eq halt]
  | failure hrecovered herror => rw [h.list_eq hrecovered, ((h.alike_iff _ _).1 herror).1]

theorem alike_at {i : Nat} (h : S.Diagonal P) (hi : S.At i) (error : Diagnostic) :
    S.Alike ⟨i, error⟩ ⟨i, error⟩ := (h.alike_iff _ _).2 ⟨rfl, h.holds hi⟩

theorem expects (h : S.Diagonal P) (dialect : Dialect) (expected : List Value) :
    S.Expects dialect dialect expected expected :=
  fun _ hi => .refl fun error _ => h.alike_at hi error

theorem verdicts {i : Nat} (h : S.Diagonal P) (hi : S.At i) (verdict : Verdict) :
    S.Verdicts i verdict verdict := by
  cases verdict with
  | accept output => exact .accept output
  | reject error => exact .reject (h.alike_at hi error)

theorem strategies (h : S.Diagonal P) (strategy : Strategy) : S.Strategies strategy strategy := by
  cases strategy with
  | skipThenRetry sentinels => exact .skipThenRetry sentinels
  | nestedDelimiters opening closing others default =>
      refine .nestedDelimiters ?_ fun _ => rfl
      rintro l m hlm
      obtain ⟨rfl, -⟩ := (h.alike_iff l m).1 hlm
      exact fun _ _ hi => .refl fun error _ => h.alike_at hi error
  | defaultOutput value => exact .defaultOutput fun _ => rfl

/-- A result corresponds to itself if its diagnostics lie where they may. -/
theorem results_self_iff
    (h : S.Diagonal P)
    (r : Result) :
    S.Results r r ↔ ∀ l ∈ r.recovered ++ r.furthest.toList, P l.position := by
  have hself (l : Located) : S.Alike l l ↔ P l.position := by
    rw [h.alike_iff]
    exact and_iff_right rfl
  constructor
  · intro hr l hl
    rw [← hself]
    cases hr with
    | success hrecovered houtput halt =>
        rcases List.mem_append.1 hl with hl | hl
        · exact List.forall₂_same.1 hrecovered l hl
        · cases halt with
          | none => cases hl
          | some halike => rwa [List.mem_singleton.1 hl]
    | failure hrecovered herror =>
        rcases List.mem_append.1 hl with hl | hl
        · exact List.forall₂_same.1 hrecovered l hl
        · rwa [List.mem_singleton.1 hl]
  · intro hr
    have hall (l : Located) (hl : l ∈ r.recovered ++ r.furthest.toList) : S.Alike l l :=
      (hself l).2 (hr l hl)
    have hrecovered : List.Forall₂ S.Alike r.recovered r.recovered :=
      List.forall₂_same.2 fun l hl => hall l (List.mem_append_left _ hl)
    have hfurthest (l : Located) (hl : r.furthest = some l) : S.Alike l l :=
      hall l (List.mem_append_right _ (by rw [hl]; exact List.mem_singleton_self l))
    cases r with
    | success recovered output alt =>
        refine .success hrecovered (fun _ => rfl) ?_
        cases alt with
        | none => exact .none
        | some l => exact .some (hfurthest l rfl)
    | failure recovered error => exact .failure hrecovered (hfurthest error rfl)

/-- Only answers that were laid down beforehand are asked for their positions. -/
theorem admits
    (h : S.Diagonal P)
    (g : Grammar)
    (hscripted : ∀ consume relative answer, g = .scripted consume relative answer → ∀ i, P i) :
    S.Admits g := by
  cases g with
  | satisfy dialect expected test => exact h.expects dialect expected
  | seq dialect tokens => exact fun token _ => h.expects dialect [token]
  | filterMap dialect f =>
      exact ⟨h.expects dialect [], fun i hi => .refl fun verdict _ => h.verdicts hi verdict⟩
  | endOfInput dialect => exact h.expects dialect [.null]
  | scripted consume relative answer =>
      exact fun i _ => (h.results_self_iff _).2 fun l _ => hscripted consume relative answer rfl _
  | tryMap f of => exact fun i output span hi => .refl fun verdict _ => h.verdicts hi verdict
  | mapError f of => exact h.alike_map f
  | labelled label of => exact h.alike_map _
  | recoverWith of strategy => exact h.strategies strategy
  | _ => trivial

end Diagonal
end Diagonal

end Simulation

section Runs

open Simulation

variable {S : Simulation} {Fit : Parser → Parser → Prop} {env : Environment}
variable {resolve resolve' : Ref → Parser}

mutual

/-- If what a grammar refers to corresponds, then so does the grammar. -/
theorem Grammar.simulates
    (hmade : ¬ S.made)
    (hloops : S.Loops Fit)
    (hfit : ∀ g : Grammar, Fit (g.parser resolve) (g.parser resolve'))
    (hresolve : ∀ target,
      (∀ g, env.lookup target = .ok g → env.Within S.Admits g) →
        S.Parsers (resolve target) (resolve' target)) :
    ∀ g : Grammar, env.Within S.Admits g →
      S.Parsers (g.parser resolve) (g.parser resolve')
  | .satisfy dialect expected test, hadmits => by
      rw [Grammar.parser, Grammar.parser]
      exact Parsers.satisfy hadmits.self test
  | .seq dialect tokens, hadmits => by
      rw [Grammar.parser, Grammar.parser]
      exact Parsers.seqFrom tokens tokens hadmits.self
  | .filterMap dialect f, hadmits => by
      rw [Grammar.parser, Grammar.parser]
      obtain ⟨hexpects, hf⟩ := hadmits.self
      exact Parsers.filterMap hexpects hf
  | .endOfInput dialect, hadmits => by
      rw [Grammar.parser, Grammar.parser]
      exact Parsers.endOfInput hadmits.self
  | .empty, _ => by
      rw [Grammar.parser, Grammar.parser]
      exact Parsers.matched _
  | .scripted consume relative answer, hadmits => by
      rw [Grammar.parser, Grammar.parser]
      exact Parsers.scripted hadmits.self
  | .map f of, hadmits => by
      rw [Grammar.parser, Grammar.parser]
      exact (of.simulates hmade hloops hfit hresolve (hadmits.part rfl)).map f
  | .mapWithSpan f of, hadmits => by
      rw [Grammar.parser, Grammar.parser]
      exact (of.simulates hmade hloops hfit hresolve (hadmits.part rfl)).mapWithSpan f
  | .tryMap f of, hadmits => by
      rw [Grammar.parser, Grammar.parser]
      exact (of.simulates hmade hloops hfit hresolve (hadmits.part rfl)).tryMap hmade hadmits.self
  | .mapError f of, hadmits => by
      rw [Grammar.parser, Grammar.parser]
      exact (of.simulates hmade hloops hfit hresolve (hadmits.part rfl)).mapError hadmits.self
  | .labelled label of, hadmits => by
      rw [Grammar.parser, Grammar.parser]
      exact (of.simulates hmade hloops hfit hresolve (hadmits.part rfl)).labelled hadmits.self
  | .andThen first second, hadmits => by
      rw [Grammar.parser, Grammar.parser]
      have hfirst := first.simulates hmade hloops hfit hresolve (hadmits.part (Or.inl rfl))
      have hsecond := second.simulates hmade hloops hfit hresolve (hadmits.part (Or.inr rfl))
      exact hfirst.andThen hsecond
  | .orElse left right, hadmits => by
      rw [Grammar.parser, Grammar.parser]
      have hleft := left.simulates hmade hloops hfit hresolve (hadmits.part (Or.inl rfl))
      have hright := right.simulates hmade hloops hfit hresolve (hadmits.part (Or.inr rfl))
      exact hleft.orElse hright
  | .optional of, hadmits => by
      rw [Grammar.parser, Grammar.parser]
      exact (of.simulates hmade hloops hfit hresolve (hadmits.part rfl)).optional
  | .recoverWith of strategy, hadmits => by
      rw [Grammar.parser, Grammar.parser]
      have hof := of.simulates hmade hloops hfit hresolve (hadmits.part rfl)
      exact hloops.recoverWith (hfit of) hof hadmits.self
  | .repeated of minimum maximum, hadmits => by
      rw [Grammar.parser, Grammar.parser]
      have hof := of.simulates hmade hloops hfit hresolve (hadmits.part rfl)
      exact hloops.repeated (hfit of) hof minimum maximum
  | .separatedBy item separator minimum leading trailing, hadmits => by
      rw [Grammar.parser, Grammar.parser]
      have hitem := item.simulates hmade hloops hfit hresolve (hadmits.part (Or.inl rfl))
      have hseparator := separator.simulates hmade hloops hfit hresolve (hadmits.part (Or.inr rfl))
      exact hloops.separatedBy (hfit item) (hfit separator) hitem hseparator minimum leading
        trailing
  | .generate steps, hadmits => by
      rw [Grammar.parser, Grammar.parser]
      exact steps.simulates hmade hloops hfit hresolve (fun _ hruns => hadmits.part hruns) .nil .none
  | .ref target, hadmits => by
      rw [Grammar.parser, Grammar.parser]
      exact hresolve target fun _ hlookup => hadmits.part hlookup

/-- The same of a plan, with what the steps before have given. -/
theorem Plan.simulates
    (hmade : ¬ S.made)
    (hloops : S.Loops Fit)
    (hfit : ∀ g : Grammar, Fit (g.parser resolve) (g.parser resolve'))
    (hresolve : ∀ target,
      (∀ g, env.lookup target = .ok g → env.Within S.Admits g) →
        S.Parsers (resolve target) (resolve' target)) :
    ∀ steps : Plan, (∀ g, steps.Runs g → env.Within S.Admits g) →
      ∀ {recovered recovered' : List Located} {alt alt' : Option Located},
        List.Forall₂ S.Alike recovered recovered' →
        Option.Rel S.Alike alt alt' →
        S.Parsers (steps.parser resolve recovered alt) (steps.parser resolve' recovered' alt')
  | .finish output, _, _, _, _, _, hrecovered, halt => by
      rw [Plan.parser, Plan.parser]
      exact Parsers.success hrecovered (fun _ => rfl) halt
  | .abandon f, _, _, _, _, _, _, _ => by
      rw [Plan.parser, Plan.parser]
      exact S.silent_left fun cur a cur' hrun => by cases hrun
  | .step first resume, hadmits, _, _, _, _, hrecovered, halt => by
      rw [Plan.parser_step, Plan.parser_step]
      have hfirst := first.simulates hmade hloops hfit hresolve (hadmits first (.now resume))
      refine hfirst.step ?_ hrecovered halt
      intro output output' more more' further further' hmore houtput hfurther
      rw [houtput fun hmakes => absurd hmakes hmade]
      exact (resume output).simulates hmade hloops hfit hresolve
        (fun g hruns => hadmits g (.later first output hruns)) hmore hfurther

end

end Runs

namespace Environment

variable {S : Simulation} {Fit : Parser → Parser → Prop} (env : Environment)

/-- One more reference is followed to what it stands for. -/
theorem resolve_succ_of_ok
    {target : Ref}
    {g : Grammar}
    (hlookup : env.lookup target = .ok g)
    (bound : Nat) :
    env.resolve (bound + 1) target = g.parser (env.resolve bound) := by
  funext src cur
  rw [resolve, hlookup]

/-- A reference that stands for nothing is a fault. -/
theorem resolve_succ_of_error
    {target : Ref}
    {f : Fault}
    (hlookup : env.lookup target = .error f)
    (bound : Nat) :
    env.resolve (bound + 1) target = Scan.halt (.fault f) := by
  funext src cur
  rw [resolve, hlookup]
  rfl

/-- References correspond to themselves, followed to one depth in the first run and to a greater
one in the second. -/
theorem resolve_simulates
    (more : Nat)
    (hmade : ¬ S.made)
    (hloops : S.Loops Fit)
    (hfit : ∀ (bound : Nat) (g : Grammar),
      Fit (g.parser (env.resolve bound)) (g.parser (env.resolve (bound + more))))
    (bound : Nat)
    (target : Ref)
    (hadmits : ∀ g, env.lookup target = .ok g → env.Within S.Admits g) :
    S.Parsers (env.resolve bound target) (env.resolve (bound + more) target) := by
  induction bound generalizing target with
  | zero => exact S.silent_left fun cur a cur' hrun => by cases hrun
  | succ bound ih =>
      rw [Nat.add_right_comm]
      cases hlookup : env.lookup target with
      | error f =>
          rw [env.resolve_succ_of_error hlookup]
          exact S.silent_left fun cur a cur' hrun => by cases hrun
      | ok g =>
          rw [env.resolve_succ_of_ok hlookup, env.resolve_succ_of_ok hlookup]
          exact g.simulates hmade hloops (hfit bound) ih (hadmits g hlookup)

/-- References to what corresponds correspond, however deep they are followed on either side, if a
run that returns may be compared to one that does not. -/
theorem resolve_simulates_loosely
    {env env' : Environment}
    (hloose : S.loose)
    (hlookup : ∀ {bound bound' : Nat} {target : Ref} {g g' : Grammar},
      env.lookup target = .ok g →
      env'.lookup target = .ok g' →
      (∀ target', S.Parsers (env.resolve bound target') (env'.resolve bound' target')) →
      S.Parsers (g.parser (env.resolve bound)) (g'.parser (env'.resolve bound')))
    (bound bound' : Nat)
    (target : Ref) :
    S.Parsers (env.resolve bound target) (env'.resolve bound' target) := by
  induction bound generalizing bound' target with
  | zero => exact S.silent_left fun cur a cur' hrun => by cases hrun
  | succ bound ih =>
      cases bound' with
      | zero => exact S.silent_right hloose fun cur a cur' hrun => by cases hrun
      | succ bound' =>
          cases hleft : env.lookup target with
          | error f =>
              rw [env.resolve_succ_of_error hleft]
              exact S.silent_left fun cur a cur' hrun => by cases hrun
          | ok g =>
              cases hright : env'.lookup target with
              | error f =>
                  rw [env'.resolve_succ_of_error hright]
                  exact S.silent_right hloose fun cur a cur' hrun => by cases hrun
              | ok g' =>
                  rw [env.resolve_succ_of_ok hleft, env'.resolve_succ_of_ok hright]
                  exact hlookup hleft hright fun target' => ih bound' target'

end Environment
end Resync
