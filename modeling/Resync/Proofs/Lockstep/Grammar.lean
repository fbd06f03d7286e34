import Resync.Proofs.Lockstep.Recovery
import Resync.Proofs.Reach
import Resync.Proofs.Run

/-!
# Grammars in step

Two grammars are alike if they are the same up to their references.  A reference may correspond to
another one, or to what stands in its place in the other grammar.  Grammars that are alike run in
step as soon as references that correspond do, and a reference does not differ from what may stand
in its place.

How a parser is resumed by a strategy is left open, so that something can be put around it.
-/

namespace Resync

mutual

/-- The parser that a grammar describes; `rescue` says how a parser is resumed by a strategy. -/
def Grammar.parserVia
    (rescue : Parser → Strategy → Parser)
    (resolve : Ref → Parser) :
    Grammar → Parser
  | .satisfy dialect expected test => Parser.satisfy dialect expected test
  | .seq dialect tokens => Parser.seq dialect tokens
  | .filterMap dialect f => Parser.filterMap dialect f
  | .endOfInput dialect => Parser.endOfInput dialect
  | .empty => Parser.empty
  | .scripted consume relative answer => Parser.scripted consume relative answer
  | .map f of => Parser.map f (of.parserVia rescue resolve)
  | .mapWithSpan f of => Parser.mapWithSpan f (of.parserVia rescue resolve)
  | .tryMap f of => Parser.tryMap f (of.parserVia rescue resolve)
  | .mapError f of => Parser.mapError f (of.parserVia rescue resolve)
  | .labelled label of => Parser.labelled label (of.parserVia rescue resolve)
  | .andThen first second =>
      Parser.andThen (first.parserVia rescue resolve) (second.parserVia rescue resolve)
  | .orElse left right =>
      Parser.orElse (left.parserVia rescue resolve) (right.parserVia rescue resolve)
  | .optional of => Parser.optional (of.parserVia rescue resolve)
  | .recoverWith of strategy => rescue (of.parserVia rescue resolve) strategy
  | .repeated of minimum maximum =>
      Parser.repeated (of.parserVia rescue resolve) minimum maximum
  | .separatedBy item separator minimum leading trailing =>
      Parser.separatedBy (item.parserVia rescue resolve) (separator.parserVia rescue resolve)
        minimum leading trailing
  | .generate plan => plan.parserVia rescue resolve [] none
  | .ref target => resolve target

/-- The parser that runs a plan, with what the steps so far have given. -/
def Plan.parserVia
    (rescue : Parser → Strategy → Parser)
    (resolve : Ref → Parser) :
    Plan →
    List Located →
    Option Located →
    Parser
  | .finish output => fun recovered alt => return .success recovered output alt
  | .abandon f => fun _ _ => Scan.halt (.fault f)
  | .step grammar resume =>
      Parser.step (grammar.parserVia rescue resolve) fun output =>
        (resume output).parserVia rescue resolve

end

section Plain

variable (resolve : Ref → Parser)

mutual

/-- Usually nothing is put around the strategies. -/
theorem Grammar.parserVia_recoverWith :
    ∀ g : Grammar, g.parserVia Parser.recoverWith resolve = g.parser resolve
  | .satisfy _ _ _ | .seq _ _ | .filterMap _ _ | .endOfInput _ | .empty | .scripted _ _ _
  | .ref _ => by
      rw [Grammar.parserVia, Grammar.parser]
  | .map _ of | .mapWithSpan _ of | .tryMap _ of | .mapError _ of | .labelled _ of
  | .optional of | .recoverWith of _ | .repeated of _ _ => by
      rw [Grammar.parserVia, Grammar.parser, of.parserVia_recoverWith]
  | .andThen first second | .orElse first second | .separatedBy first second _ _ _ => by
      rw [Grammar.parserVia, Grammar.parser, first.parserVia_recoverWith,
        second.parserVia_recoverWith]
  | .generate plan => by
      rw [Grammar.parserVia, Grammar.parser, plan.parserVia_recoverWith]

theorem Plan.parserVia_recoverWith :
    ∀ plan : Plan, plan.parserVia Parser.recoverWith resolve = plan.parser resolve
  | .finish output => by rw [Plan.parserVia, Plan.parser]
  | .abandon f => by rw [Plan.parserVia, Plan.parser]
  | .step first resume => by
      rw [Plan.parserVia, Plan.parser_step, first.parserVia_recoverWith]
      congr 1
      funext output
      exact (resume output).parserVia_recoverWith

end

end Plain

/-- In what two grammars that are alike may differ. -/
structure Likeness where
  /-- References that correspond. -/
  Refs : Ref → Ref → Prop
  /-- What may stand in the second grammar in the place of a reference of the first one. -/
  Unfolds : Ref → Grammar → Prop
  /-- What may stand in the first grammar in the place of a reference of the second one. -/
  Folds : Ref → Grammar → Prop
  /-- The strategies that the grammars may use. -/
  Resumes : Strategy → Prop

/-- Whether a grammar has no parts and is no reference. -/
def Grammar.IsLeaf : Grammar → Prop
  | .satisfy _ _ _ | .seq _ _ | .filterMap _ _ | .endOfInput _ | .empty | .scripted _ _ _ => True
  | _ => False

namespace Likeness

mutual

/-- Grammars that are the same up to their references. -/
inductive Grammars (K : Likeness) : Grammar → Grammar → Prop
  | leaf {g : Grammar} (hleaf : g.IsLeaf) : Grammars K g g
  | map (f : Value → Except Fault Value) {of of' : Grammar} :
      Grammars K of of' → Grammars K (.map f of) (.map f of')
  | mapWithSpan (f : Value → Span → Except Fault Value) {of of' : Grammar} :
      Grammars K of of' → Grammars K (.mapWithSpan f of) (.mapWithSpan f of')
  | tryMap (f : Value → Span → Except Fault Verdict) {of of' : Grammar} :
      Grammars K of of' → Grammars K (.tryMap f of) (.tryMap f of')
  | mapError (f : Diagnostic → Diagnostic) {of of' : Grammar} :
      Grammars K of of' → Grammars K (.mapError f of) (.mapError f of')
  | labelled (label : String) {of of' : Grammar} :
      Grammars K of of' → Grammars K (.labelled label of) (.labelled label of')
  | andThen {first first' second second' : Grammar} :
      Grammars K first first' → Grammars K second second' →
        Grammars K (.andThen first second) (.andThen first' second')
  | orElse {left left' right right' : Grammar} :
      Grammars K left left' → Grammars K right right' →
        Grammars K (.orElse left right) (.orElse left' right')
  | optional {of of' : Grammar} :
      Grammars K of of' → Grammars K (.optional of) (.optional of')
  | recoverWith {strategy : Strategy} {of of' : Grammar} (hresumes : K.Resumes strategy) :
      Grammars K of of' → Grammars K (.recoverWith of strategy) (.recoverWith of' strategy)
  | repeated (minimum : Nat) (maximum : Option Nat) {of of' : Grammar} :
      Grammars K of of' → Grammars K (.repeated of minimum maximum) (.repeated of' minimum maximum)
  | separatedBy (minimum : Nat) (leading trailing : Bool)
      {item item' separator separator' : Grammar} :
      Grammars K item item' → Grammars K separator separator' →
        Grammars K (.separatedBy item separator minimum leading trailing)
          (.separatedBy item' separator' minimum leading trailing)
  | generate {plan plan' : Plan} :
      Plans K plan plan' → Grammars K (.generate plan) (.generate plan')
  | ref {target target' : Ref} (hrefs : K.Refs target target') :
      Grammars K (.ref target) (.ref target')
  | unfold {target : Ref} {definition g' : Grammar} (hunfolds : K.Unfolds target definition) :
      Grammars K definition g' → Grammars K (.ref target) g'
  | fold {target' : Ref} {g definition' : Grammar} (hfolds : K.Folds target' definition') :
      Grammars K g definition' → Grammars K g (.ref target')

/-- Plans whose grammars are the same up to their references. -/
inductive Plans (K : Likeness) : Plan → Plan → Prop
  | finish (output : Value) : Plans K (.finish output) (.finish output)
  | abandon (fault : Fault) : Plans K (.abandon fault) (.abandon fault)
  | step {g g' : Grammar} {resume resume' : Value → Plan} :
      Grammars K g g' → (∀ output, Plans K (resume output) (resume' output)) →
        Plans K (.step g resume) (.step g' resume')

end

variable {K : Likeness}

/-- The same with the two sides exchanged. -/
def swap (K : Likeness) : Likeness where
  Refs target target' := K.Refs target' target
  Unfolds := K.Folds
  Folds := K.Unfolds
  Resumes := K.Resumes

mutual

theorem Grammars.symm {g g' : Grammar} : K.Grammars g g' → K.swap.Grammars g' g
  | .leaf hleaf => .leaf hleaf
  | .map f hof => .map f hof.symm
  | .mapWithSpan f hof => .mapWithSpan f hof.symm
  | .tryMap f hof => .tryMap f hof.symm
  | .mapError f hof => .mapError f hof.symm
  | .labelled label hof => .labelled label hof.symm
  | .andThen hfirst hsecond => .andThen hfirst.symm hsecond.symm
  | .orElse hleft hright => .orElse hleft.symm hright.symm
  | .optional hof => .optional hof.symm
  | .recoverWith hresumes hof => .recoverWith hresumes hof.symm
  | .repeated minimum maximum hof => .repeated minimum maximum hof.symm
  | .separatedBy minimum leading trailing hitem hseparator =>
      .separatedBy minimum leading trailing hitem.symm hseparator.symm
  | .generate hplan => .generate hplan.symm
  | .ref hrefs => .ref hrefs
  | .unfold hunfolds h => .fold hunfolds h.symm
  | .fold hfolds h => .unfold hfolds h.symm

theorem Plans.symm {plan plan' : Plan} : K.Plans plan plan' → K.swap.Plans plan' plan
  | .finish output => .finish output
  | .abandon fault => .abandon fault
  | .step hg hresume => .step hg.symm fun output => (hresume output).symm

end

/-- What a grammar is asked for to be alike to itself. -/
def Fits (K : Likeness) : Grammar → Prop
  | .recoverWith _ strategy => K.Resumes strategy
  | .ref target => K.Refs target target
  | _ => True

mutual

theorem Grammars.self {env : Environment} : ∀ g : Grammar, env.Within K.Fits g → K.Grammars g g
  | .satisfy _ _ _, _ => .leaf trivial
  | .seq _ _, _ => .leaf trivial
  | .filterMap _ _, _ => .leaf trivial
  | .endOfInput _, _ => .leaf trivial
  | .empty, _ => .leaf trivial
  | .scripted _ _ _, _ => .leaf trivial
  | .map f of, h => .map f (.self of (h.part rfl))
  | .mapWithSpan f of, h => .mapWithSpan f (.self of (h.part rfl))
  | .tryMap f of, h => .tryMap f (.self of (h.part rfl))
  | .mapError f of, h => .mapError f (.self of (h.part rfl))
  | .labelled label of, h => .labelled label (.self of (h.part rfl))
  | .andThen first second, h =>
      .andThen (.self first (h.part (Or.inl rfl))) (.self second (h.part (Or.inr rfl)))
  | .orElse left right, h =>
      .orElse (.self left (h.part (Or.inl rfl))) (.self right (h.part (Or.inr rfl)))
  | .optional of, h => .optional (.self of (h.part rfl))
  | .recoverWith of _, h => .recoverWith h.self (.self of (h.part rfl))
  | .repeated of minimum maximum, h => .repeated minimum maximum (.self of (h.part rfl))
  | .separatedBy item separator minimum leading trailing, h =>
      .separatedBy minimum leading trailing (.self item (h.part (Or.inl rfl)))
        (.self separator (h.part (Or.inr rfl)))
  | .generate plan, h => .generate (Plans.self plan fun _ hruns => h.part hruns)
  | .ref _, h => .ref h.self

theorem Plans.self {env : Environment} :
    ∀ plan : Plan, (∀ g, plan.Runs g → env.Within K.Fits g) → K.Plans plan plan
  | .finish output, _ => .finish output
  | .abandon fault, _ => .abandon fault
  | .step g resume, h =>
      .step (Grammars.self g (h g (.now resume))) fun output =>
        Plans.self (resume output) fun g' hruns => h g' (.later g output hruns)

end

/-- Where references correspond to themselves, and any strategy may be used, every grammar is alike
to itself. -/
theorem Grammars.refl
    (hrefs : ∀ target, K.Refs target target)
    (hresumes : ∀ strategy, K.Resumes strategy)
    (g : Grammar) :
    K.Grammars g g := by
  refine .self g (fun h _ => ?_ : Environment.Within {} K.Fits g)
  cases h with
  | recoverWith of strategy => exact hresumes strategy
  | ref target => exact hrefs target
  | _ => trivial

end Likeness

section InStep

variable {L : Lockstep} {K : Likeness} {rescue rescue' : Parser → Strategy → Parser}
variable {resolve resolve' : Ref → Parser}

open Lockstep.Parsers

/-- What is asked of references and strategies for grammars that are alike to run in step. -/
structure Likeness.InStep
    (K : Likeness)
    (L : Lockstep)
    (rescue rescue' : Parser → Strategy → Parser)
    (resolve resolve' : Ref → Parser) :
    Prop where
  refs {target target' : Ref} :
    K.Refs target target' → L.Parsers (resolve target) (resolve' target')
  unfolds {target : Ref} {definition : Grammar} {q : Parser} :
    K.Unfolds target definition → L.Parsers (definition.parserVia rescue resolve) q →
      L.Parsers (resolve target) q
  folds {target' : Ref} {definition' : Grammar} {p : Parser} :
    K.Folds target' definition' → L.Parsers p (definition'.parserVia rescue' resolve') →
      L.Parsers p (resolve' target')
  resumes {strategy : Strategy} {p p' : Parser} :
    K.Resumes strategy → L.Parsers p p' → L.Parsers (rescue p strategy) (rescue' p' strategy)

mutual

/-- **Grammars that are alike run in step.** -/
theorem Likeness.Grammars.inStep
    (h : K.InStep L rescue rescue' resolve resolve')
    {g g' : Grammar} :
    K.Grammars g g' → L.Parsers (g.parserVia rescue resolve) (g'.parserVia rescue' resolve')
  | .leaf (g := g) hleaf => by
      cases g with
      | satisfy dialect expected test =>
          rw [Grammar.parserVia, Grammar.parserVia]
          exact satisfy dialect expected test
      | seq dialect tokens =>
          rw [Grammar.parserVia, Grammar.parserVia]
          exact seqFrom dialect tokens tokens
      | filterMap dialect f =>
          rw [Grammar.parserVia, Grammar.parserVia]
          exact filterMap dialect f
      | endOfInput dialect =>
          rw [Grammar.parserVia, Grammar.parserVia]
          exact endOfInput dialect
      | empty =>
          rw [Grammar.parserVia, Grammar.parserVia]
          exact answer _
      | scripted consume relative r =>
          rw [Grammar.parserVia, Grammar.parserVia]
          exact scripted consume relative r
      | _ => exact hleaf.elim
  | .map f hof => by
      rw [Grammar.parserVia, Grammar.parserVia]
      exact (hof.inStep h).map f
  | .mapWithSpan f hof => by
      rw [Grammar.parserVia, Grammar.parserVia]
      exact (hof.inStep h).mapWithSpan f
  | .tryMap f hof => by
      rw [Grammar.parserVia, Grammar.parserVia]
      exact (hof.inStep h).tryMap f
  | .mapError f hof => by
      rw [Grammar.parserVia, Grammar.parserVia]
      exact (hof.inStep h).mapError f
  | .labelled label hof => by
      rw [Grammar.parserVia, Grammar.parserVia]
      exact (hof.inStep h).labelled label
  | .andThen hfirst hsecond => by
      rw [Grammar.parserVia, Grammar.parserVia]
      exact (hfirst.inStep h).andThen (hsecond.inStep h)
  | .orElse hleft hright => by
      rw [Grammar.parserVia, Grammar.parserVia]
      exact (hleft.inStep h).orElse (hright.inStep h)
  | .optional hof => by
      rw [Grammar.parserVia, Grammar.parserVia]
      exact (hof.inStep h).optional
  | .recoverWith hresumes hof => by
      rw [Grammar.parserVia, Grammar.parserVia]
      exact h.resumes hresumes (hof.inStep h)
  | .repeated minimum maximum hof => by
      rw [Grammar.parserVia, Grammar.parserVia]
      exact (hof.inStep h).repeated minimum maximum
  | .separatedBy minimum leading trailing hitem hseparator => by
      rw [Grammar.parserVia, Grammar.parserVia]
      exact (hitem.inStep h).separatedBy minimum (hseparator.inStep h) leading trailing
  | .generate hplan => by
      rw [Grammar.parserVia, Grammar.parserVia]
      exact hplan.inStep h [] none
  | .ref hrefs => by
      rw [Grammar.parserVia, Grammar.parserVia]
      exact h.refs hrefs
  | .unfold hunfolds hdefinition => by
      rw [Grammar.parserVia]
      exact h.unfolds hunfolds (hdefinition.inStep h)
  | .fold hfolds hdefinition => by
      rw [Grammar.parserVia.eq_def _ _ (.ref _)]
      exact h.folds hfolds (hdefinition.inStep h)

/-- The same of plans, with what the steps before have given. -/
theorem Likeness.Plans.inStep
    (h : K.InStep L rescue rescue' resolve resolve')
    {plan plan' : Plan} :
    K.Plans plan plan' → ∀ recovered alt,
      L.Parsers (plan.parserVia rescue resolve recovered alt)
        (plan'.parserVia rescue' resolve' recovered alt)
  | .finish output, _, _ => by
      rw [Plan.parserVia, Plan.parserVia]
      exact answer _
  | .abandon fault, _, _ => by
      rw [Plan.parserVia, Plan.parserVia]
      exact Lockstep.fault fault
  | .step hg hresume, recovered, alt => by
      rw [Plan.parserVia, Plan.parserVia]
      exact (hg.inStep h).step (fun output => (hresume output).inStep h) recovered alt

end

end InStep
end Resync
