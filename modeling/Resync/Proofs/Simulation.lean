import Mathlib.Data.List.Forall2
import Resync.Proofs.Furthest
import Resync.Proofs.Reach
import Resync.Proofs.Run

/-!
# Simulations

Two runs are compared step by step.  A simulation says which scans correspond, one of a first run
and one of a second, and how their values are related.  It is given by a few rules: for the steps
that move or read the cursor, for one scan after another, and for scans that never answer.
Whatever a grammar does is made of these steps, so the rules carry over to all parsers, and from
there to grammars.

A simulation also says which diagnostics are alike.  Parsers correspond if their results do: both
succeed or both fail, with diagnostics that are alike and with one output.  Where outputs may be
made up, they need to be the same only if nothing was recovered from.
-/

namespace Resync

section Computations

variable {α β γ δ : Type}

/-- Whether what two computations answer is related.  The second one must answer where the first
one does, unless the comparison is `loose`. -/
def Answers (loose : Prop) (V : α → β → Prop) : Except Fault α → Except Fault β → Prop
  | .ok a, .ok b => V a b
  | .ok _, .error _ => loose
  | .error _, _ => True

namespace Answers

variable {loose : Prop} {V : α → β → Prop} {W : γ → δ → Prop}
variable {e : Except Fault α} {e' : Except Fault β}

theorem refl {V : α → α → Prop} (h : ∀ a, e = .ok a → V a a) : Answers loose V e e := by
  cases e with
  | ok a => exact h a rfl
  | error f => trivial

theorem of_loose (hloose : loose) (h : ∀ a b, e = .ok a → e' = .ok b → V a b) :
    Answers loose V e e' := by
  cases e with
  | error f => trivial
  | ok a =>
      cases e' with
      | ok b => exact h a b rfl rfl
      | error f => exact hloose

theorem map
    {f : α → γ}
    {g : β → δ}
    (h : Answers loose V e e')
    (hVW : ∀ a b, V a b → W (f a) (g b)) :
    Answers loose W (e.map f) (e'.map g) := by
  cases e with
  | error f => trivial
  | ok a =>
      cases e' with
      | ok b => exact hVW a b h
      | error f => exact h

theorem bind
    {f : α → Except Fault γ}
    {g : β → Except Fault δ}
    (h : Answers loose V e e')
    (hVW : ∀ a b, V a b → Answers loose W (f a) (g b)) :
    Answers loose W (e >>= f) (e' >>= g) := by
  cases e with
  | error f => trivial
  | ok a =>
      cases e' with
      | ok b => exact hVW a b h
      | error fault =>
          show Answers loose W (f a) (.error fault)
          cases f a with
          | ok c => exact h
          | error f => trivial

end Answers
end Computations

/-- The result with other diagnostics, except those that were recovered from. -/
def Result.amend (onAlt onError : Located → Located) : Result → Result
  | success recovered output alt => .success recovered output (alt.map onAlt)
  | failure recovered error => .failure recovered (onError error)

namespace Parser

/-- A parser that amends its diagnostics. -/
def amending (onAlt onError : Located → Located) (p : Parser) : Parser := do
  let r ← p
  return r.amend onAlt onError

theorem amending_id (p : Parser) : p.amending id id = p := by
  have hid : (fun r : Result => (pure (r.amend id id) : Parser)) = pure := by
    funext r
    cases r with
    | success recovered output alt => cases alt <;> rfl
    | failure recovered error => rfl
  unfold amending
  rw [hid, bind_pure]

theorem mapError_eq_amending (f : Diagnostic → Diagnostic) (p : Parser) :
    mapError f p = p.amending id (Located.map f) := by
  unfold mapError amending
  congr 1
  funext r
  cases r with
  | success recovered output alt => cases alt <;> rfl
  | failure recovered error => rfl

theorem labelled_eq_amending (label : String) (p : Parser) :
    labelled label p =
      (do
        let start ← Scan.save
        p.amending (relabel label start) (relabel label start)) := by
  unfold labelled amending
  congr 1
  funext start
  congr 1
  funext r
  cases r with
  | success recovered output alt => rfl
  | failure recovered error => rfl

end Parser

namespace Source

variable {src : Source} {i : Nat}

theorem sighting_of_rest_nil (h : src.rest i = []) : src.sighting i = ⟨i, src.eoi, .null⟩ := by
  unfold rest at h
  unfold sighting
  have hnone : src.tokens[i]? = none := by
    simpa [Array.getElem?_eq_none_iff] using h
  rw [hnone]

theorem sighting_of_rest_cons
    {token : Value}
    {span : Span}
    {rest : List (Value × Span)}
    (h : src.rest i = (token, span) :: rest) :
    src.sighting i = ⟨i, span, token⟩ ∧ src.rest (i + 1) = rest := by
  unfold Source.rest at h ⊢
  unfold sighting
  have hsome : src.tokens[i]? = some (token, span) := by
    have hhead := congrArg List.head? h
    simpa [List.head?_drop] using hhead
  have htail := congrArg List.tail h
  rw [List.tail_drop] at htail
  rw [hsome]
  exact ⟨rfl, htail⟩

end Source

/-- A way to compare two runs. -/
structure Simulation where
  /-- The source of the first run. -/
  source : Source
  /-- Where the cursors may stand. -/
  At : Nat → Prop
  /-- Which diagnostics correspond. -/
  Alike : Located → Located → Prop
  /-- Whether outputs are made up where something was recovered from. -/
  made : Prop
  /-- Whether the second run may end without an answer where the first one answers. -/
  loose : Prop
  /-- Which scans correspond, and how their values are related: they correspond if their steps do,
  and if one of them never answers. -/
  Rel {α β : Type} (V : α → β → Prop) (x : Scan α) (y : Scan β) : Prop
  loose_of_made : made → loose
  position_eq {l m : Located} : Alike l m → l.position = m.position
  max {a a' b b' : Located} :
    Alike a a' → Alike b b' → Answers loose Alike (a.max (some b)) (a'.max (some b'))
  at_succ {i : Nat} : At i → (source.sighting i).token ≠ .null → At (i + 1)
  pure {α β : Type} {V : α → β → Prop} {a : α} {b : β} : V a b → Rel V (pure a) (pure b)
  bind {α β γ δ : Type} {V : α → β → Prop} {W : γ → δ → Prop}
    {x : Scan α} {y : Scan β} {f : α → Scan γ} {g : β → Scan δ} :
    Rel V x y → (∀ a b, V a b → Rel W (f a) (g b)) → Rel W (x >>= f) (y >>= g)
  save : Rel (fun i j => j = i ∧ At i) Scan.save Scan.save
  revert {i : Nat} : At i → Rel (fun _ _ => True) (Scan.revert i) (Scan.revert i)
  report {e e' : Event} : Rel (fun _ _ => True) (Scan.report e) (Scan.report e')
  lookAt {i : Nat} :
    Rel (fun s t => t = s ∧ s = source.sighting i) (Scan.lookAt i) (Scan.lookAt i)
  silent_left {α β : Type} {V : α → β → Prop} {x : Scan α} {y : Scan β} :
    (∀ cur a cur', x source cur ≠ .done a cur') → Rel V x y
  silent_right {α β : Type} {V : α → β → Prop} {x : Scan α} {y : Scan β} :
    loose → (∀ cur b cur', y source cur ≠ .done b cur') → Rel V x y

namespace Simulation

variable (S : Simulation)

/-- Outputs that correspond after some recoveries. -/
def Outputs (recovered : List Located) (output output' : Value) : Prop :=
  (S.made → recovered = []) → output' = output

/-- Results that correspond. -/
inductive Results : Result → Result → Prop
  | success
      {recovered recovered' : List Located} {output output' : Value} {alt alt' : Option Located}
      (hrecovered : List.Forall₂ S.Alike recovered recovered')
      (houtput : S.Outputs recovered output output')
      (halt : Option.Rel S.Alike alt alt') :
      Results (.success recovered output alt) (.success recovered' output' alt')
  | failure
      {recovered recovered' : List Located} {error error' : Located}
      (hrecovered : List.Forall₂ S.Alike recovered recovered')
      (herror : S.Alike error error') :
      Results (.failure recovered error) (.failure recovered' error')

/-- Parsers that correspond. -/
def Parsers (p p' : Parser) : Prop := S.Rel S.Results p p'

/-- What is seen at a place where the cursor may stand, in both runs. -/
def Sightings (seen seen' : Sighting) : Prop :=
  seen' = seen ∧ ∃ i, S.At i ∧ seen = S.source.sighting i

/-- Failures to find something expected at one place correspond, wherever that may be. -/
def Expects (dialect dialect' : Dialect) (expected expected' : List Value) : Prop :=
  ∀ i, S.At i →
    Answers S.loose (fun e e' => S.Alike ⟨i, e⟩ ⟨i, e'⟩)
      (dialect.expecting (S.source.sighting i).span expected (S.source.sighting i).token)
      (dialect'.expecting (S.source.sighting i).span expected' (S.source.sighting i).token)

/-- Verdicts that correspond where a rejection is located at `i`. -/
inductive Verdicts (i : Nat) : Verdict → Verdict → Prop
  | accept (output : Value) : Verdicts i (.accept output) (.accept output)
  | reject
      {error error' : Diagnostic}
      (herror : S.Alike ⟨i, error⟩ ⟨i, error'⟩) :
      Verdicts i (.reject error) (.reject error')

variable {S} {α β γ δ : Type} {V W : α → β → Prop} {x : Scan α} {y : Scan β}

section Rules

theorem weaken (h : S.Rel V x y) (hVW : ∀ a b, V a b → W a b) : S.Rel W x y := by
  have hrel := S.bind h fun a b hab => S.pure (hVW a b hab)
  rwa [bind_pure, bind_pure] at hrel

theorem ofExcept
    {e : Except Fault α}
    {e' : Except Fault β}
    (h : Answers S.loose V e e') :
    S.Rel V (Scan.ofExcept e) (Scan.ofExcept e') := by
  cases e with
  | error f => exact S.silent_left fun cur a cur' hrun => by cases hrun
  | ok a =>
      cases e' with
      | ok b => exact S.pure h
      | error f => exact S.silent_right h fun cur b cur' hrun => by cases hrun

theorem exhausted : S.Rel V (Scan.halt .exhausted) (Scan.halt .exhausted) :=
  S.silent_left fun cur a cur' hrun => by cases hrun

/-- A step that only reads the offset can be left out of the second run. -/
theorem saveLeft {f : Nat → Scan α} (h : ∀ i, S.At i → S.Rel V (f i) y) :
    S.Rel V (Scan.save >>= f) y :=
  S.bind (g := fun _ => y) S.save fun i _ hij => h i hij.2

/-- A step that only reads the offset can be left out of the first run. -/
theorem saveRight {g : Nat → Scan β} (h : ∀ i, S.At i → S.Rel V x (g i)) :
    S.Rel V x (Scan.save >>= g) := by
  refine S.bind (f := fun _ => x) S.save ?_
  rintro _ i ⟨rfl, hi⟩
  exact h i hi

/-- Both runs read the same offset. -/
theorem saveBoth
    {f : Nat → Scan α}
    {g : Nat → Scan β}
    (h : ∀ i, S.At i → S.Rel V (f i) (g i)) :
    S.Rel V (Scan.save >>= f) (Scan.save >>= g) := by
  refine S.bind S.save ?_
  rintro _ i ⟨rfl, hi⟩
  exact h i hi

theorem peek : S.Rel S.Sightings Scan.peek Scan.peek := by
  refine saveBoth fun i hi => weaken S.lookAt ?_
  rintro s _ ⟨rfl, hs⟩
  exact ⟨rfl, i, hi, hs⟩

theorem next : S.Rel S.Sightings Scan.next Scan.next := by
  refine S.bind peek ?_
  rintro seen _ ⟨rfl, i, hi, rfl⟩
  have hseen : S.Sightings (S.source.sighting i) (S.source.sighting i) := ⟨rfl, i, hi, rfl⟩
  by_cases hnull : (S.source.sighting i).token = .null
  · simp only [hnull, ne_eq, not_true_eq_false, if_false]
    exact S.pure hseen
  · simp only [hnull, ne_eq, not_false_eq_true, if_true, Source.sighting_position]
    exact S.bind (S.revert (S.at_succ hi hnull)) fun _ _ _ => S.pure hseen

theorem spanSince (start : Nat) :
    S.Rel (fun span span' => span' = span) (Scan.spanSince start) (Scan.spanSince start) := by
  refine S.bind S.lookAt ?_
  rintro first _ ⟨rfl, -⟩
  refine saveBoth fun offset _ => ?_
  by_cases hempty : offset ≤ start
  · simp only [if_pos hempty]
    exact S.pure rfl
  · simp only [if_neg hempty]
    refine S.bind S.lookAt ?_
    rintro last _ ⟨rfl, -⟩
    exact ofExcept (.refl fun _ _ => rfl)

/-- Parsers that correspond are tried alike. -/
theorem Parsers.tryParse {p p' : Parser} (hp : S.Parsers p p') :
    S.Parsers (Scan.tryParse p) (Scan.tryParse p') := by
  refine saveBoth fun before hbefore => S.bind hp fun r r' hr => ?_
  cases hr with
  | success hrecovered houtput halt => exact S.pure (.success hrecovered houtput halt)
  | failure hrecovered herror =>
      exact S.bind (S.revert hbefore) fun _ _ _ => S.pure (.failure hrecovered herror)

end Rules

section Diagnostics

variable {a a' : Located} {l l' m m' : Option Located}

theorem max_option (ha : S.Alike a a') (hm : Option.Rel S.Alike m m') :
    Answers S.loose S.Alike (a.max m) (a'.max m') := by
  cases hm with
  | none => exact ha
  | some hb => exact S.max ha hb

theorem mergeAlts_answers (hl : Option.Rel S.Alike l l') (hm : Option.Rel S.Alike m m') :
    Answers S.loose (Option.Rel S.Alike) (Located.mergeAlts l m) (Located.mergeAlts l' m') := by
  cases hl with
  | none =>
      rw [Located.mergeAlts_none_left, Located.mergeAlts_none_left]
      exact hm
  | some ha =>
      cases hm with
      | none => exact .some ha
      | some hb =>
          rw [Located.mergeAlts_some, Located.mergeAlts_some]
          exact (S.max ha hb).map fun _ _ => .some

theorem mergeAlts (hl : Option.Rel S.Alike l l') (hm : Option.Rel S.Alike m m') :
    S.Rel (Option.Rel S.Alike) (Scan.mergeAlts l m) (Scan.mergeAlts l' m') :=
  ofExcept (mergeAlts_answers hl hm)

theorem head_alike
    {recovered recovered' : List Located}
    (h : List.Forall₂ S.Alike recovered recovered') :
    Option.Rel S.Alike recovered.head? recovered'.head? := by
  cases h with
  | nil => exact .none
  | cons hl _ => exact .some hl

/-- A function of outputs, applied to outputs that correspond. -/
theorem Outputs.apply
    {recovered : List Located}
    {output output' : Value}
    (h : S.Outputs recovered output output')
    (f : Value → Except Fault Value) :
    Answers S.loose (S.Outputs recovered) (f output) (f output') := by
  by_cases hsame : S.made → recovered = []
  · rw [h hsame]
    exact .refl fun _ _ _ => rfl
  · have hmade : S.made := by
      by_contra hnot
      exact hsame fun hmade => absurd hmade hnot
    exact .of_loose (S.loose_of_made hmade) fun _ _ _ _ hclean => absurd hclean hsame

end Diagnostics

namespace Results

variable {left left' right right' r r' : Result}

theorem isClean_eq (h : S.Results r r') : r'.isClean = r.isClean := by
  cases h with
  | success hrecovered houtput halt =>
      cases hrecovered with
      | nil => rfl
      | cons hl hrest => rfl
  | failure hrecovered herror => rfl

theorem lastRecovered_eq
    {recovered recovered' : List Located}
    (h : List.Forall₂ S.Alike recovered recovered') :
    Result.lastRecovered recovered' = Result.lastRecovered recovered := by
  unfold Result.lastRecovered
  induction h with
  | nil => rfl
  | cons hl hrest ih =>
      cases hrest with
      | nil => exact congrArg some (S.position_eq hl).symm
      | cons hm hrest => simpa only [List.getLast?_cons_cons] using ih

/-- Which side is taken depends on what all results that correspond have in common. -/
theorem side_eq (hleft : S.Results left left') (hright : S.Results right right') :
    left'.side right' = left.side right := by
  cases hright with
  | failure hrecovered herror =>
      cases hleft with
      | success hrecovered' houtput halt => rfl
      | failure hrecovered' herror' =>
          simp only [Result.side, S.position_eq herror, S.position_eq herror']
  | success hrecovered houtput halt =>
      cases hrecovered with
      | nil => cases hleft <;> rfl
      | cons hl hrest =>
          cases hleft with
          | failure hrecovered' herror => rfl
          | success hrecovered' houtput' halt' =>
              have hall := List.Forall₂.cons hl hrest
              simp only [Result.side, Result.betterRecovered, lastRecovered_eq hrecovered',
                lastRecovered_eq hall, hrecovered'.length_eq, hall.length_eq]

/-- What is made of two results that correspond to two others corresponds. -/
theorem either (hleft : S.Results left left') (hright : S.Results right right') :
    Answers S.loose S.Results (left.either right) (left'.either right') := by
  have hside := hleft.side_eq hright
  cases hleft with
  | success hrecovered houtput halt =>
      have hpick (recovered : List Located) (output : Value) (alt : Option Located) (r : Result) :
          (Result.success recovered output alt).either r =
            .ok (((Result.success recovered output alt).side r).pick
              (.success recovered output alt) r) := by
        cases r with
        | success recovered' output' alt' => cases recovered' <;> rfl
        | failure recovered' error' => rfl
      rw [hpick, hpick, hside]
      cases Result.side _ right with
      | left => exact .success hrecovered houtput halt
      | right => exact hright
  | failure hrecovered herror =>
      cases hright with
      | success hrecovered' houtput halt =>
          cases hrecovered' with
          | nil =>
              rw [Result.either_clean, Result.either_clean]
              exact (mergeAlts_answers halt (.some herror)).map fun _ _ halt' =>
                .success .nil houtput halt'
          | cons hl hrest => exact .success (.cons hl hrest) houtput halt
      | failure hrecovered' herror' =>
          rw [Result.either_failures, Result.either_failures, S.position_eq herror,
            S.position_eq herror']
          refine (S.max herror herror').map fun _ _ hmax => .failure ?_ hmax
          split
          · exact hrecovered
          · exact hrecovered'

end Results

namespace Parsers

open Simulation (saveLeft saveRight saveBoth)

section Primitives

variable {dialect dialect' : Dialect} {i : Nat}

theorem success
    {recovered recovered' : List Located}
    {output output' : Value}
    {alt alt' : Option Located}
    (hrecovered : List.Forall₂ S.Alike recovered recovered')
    (houtput : S.Outputs recovered output output')
    (halt : Option.Rel S.Alike alt alt') :
    S.Parsers (return .success recovered output alt) (return .success recovered' output' alt') :=
  S.pure (.success hrecovered houtput halt)

theorem failure
    {recovered recovered' : List Located}
    {error error' : Located}
    (hrecovered : List.Forall₂ S.Alike recovered recovered')
    (herror : S.Alike error error') :
    S.Parsers (return .failure recovered error) (return .failure recovered' error') :=
  S.pure (.failure hrecovered herror)

theorem matched (output : Value) :
    S.Parsers (return .success [] output none) (return .success [] output none) :=
  success .nil (fun _ => rfl) .none

theorem unexpected
    {expected expected' : List Value}
    (hexpects : S.Expects dialect dialect' expected expected')
    (hi : S.At i) :
    S.Parsers (Parser.unexpected dialect (S.source.sighting i) expected)
      (Parser.unexpected dialect' (S.source.sighting i) expected') := by
  refine S.bind (ofExcept (hexpects i hi)) fun error error' herror => ?_
  rw [Source.sighting_position]
  exact failure .nil herror

theorem satisfy
    {expected expected' : List Value}
    (hexpects : S.Expects dialect dialect' expected expected')
    (test : Value → Except Fault Bool) :
    S.Parsers (Parser.satisfy dialect expected test) (Parser.satisfy dialect' expected' test) := by
  refine S.bind Simulation.next ?_
  rintro seen _ ⟨rfl, i, hi, rfl⟩
  by_cases hnull : (S.source.sighting i).token = .null
  · simp only [if_pos hnull]
    exact unexpected hexpects hi
  · simp only [if_neg hnull]
    refine S.bind (ofExcept (.refl (V := Eq) fun _ _ => rfl)) ?_
    rintro passed _ rfl
    cases passed with
    | true => exact matched _
    | false => exact unexpected hexpects hi

theorem seqFrom
    (all tokens : List Value)
    (hexpects : ∀ token ∈ tokens, S.Expects dialect dialect' [token] [token]) :
    S.Parsers (Parser.seqFrom dialect all tokens) (Parser.seqFrom dialect' all tokens) := by
  induction tokens with
  | nil => exact matched _
  | cons token tokens ih =>
      refine S.bind Simulation.next ?_
      rintro seen _ ⟨rfl, i, hi, rfl⟩
      by_cases hmiss :
          (S.source.sighting i).token = .null ∨ (S.source.sighting i).token ≠ token
      · simp only [if_pos hmiss]
        exact unexpected (hexpects token List.mem_cons_self) hi
      · simp only [if_neg hmiss]
        exact ih fun t ht => hexpects t (List.mem_cons_of_mem _ ht)

theorem filterMap
    {f f' : Span → Value → Except Fault Verdict}
    (hexpects : S.Expects dialect dialect' [] [])
    (hf : ∀ i, S.At i → Answers S.loose (S.Verdicts i)
      (f (S.source.sighting i).span (S.source.sighting i).token)
      (f' (S.source.sighting i).span (S.source.sighting i).token)) :
    S.Parsers (Parser.filterMap dialect f) (Parser.filterMap dialect' f') := by
  refine S.bind Simulation.next ?_
  rintro seen _ ⟨rfl, i, hi, rfl⟩
  by_cases hnull : (S.source.sighting i).token = .null
  · simp only [if_pos hnull]
    exact unexpected hexpects hi
  · simp only [if_neg hnull]
    refine S.bind (ofExcept (hf i hi)) fun verdict verdict' hverdict => ?_
    cases hverdict with
    | accept output => exact matched output
    | reject herror =>
        simp only [Source.sighting_position]
        exact failure .nil herror

theorem endOfInput (hexpects : S.Expects dialect dialect' [.null] [.null]) :
    S.Parsers (Parser.endOfInput dialect) (Parser.endOfInput dialect') := by
  refine S.bind Simulation.next ?_
  rintro seen _ ⟨rfl, i, hi, rfl⟩
  by_cases hnull : (S.source.sighting i).token = .null
  · simp only [if_pos hnull]
    exact matched _
  · simp only [if_neg hnull]
    exact unexpected hexpects hi

theorem skip (count : Nat) :
    S.Rel (fun _ _ => True) (Parser.skip count) (Parser.skip count) := by
  induction count with
  | zero => exact S.pure trivial
  | succ count ih => exact S.bind Simulation.next fun _ _ _ => ih

theorem scripted
    {consume : Nat}
    {relative : Bool}
    {answer answer' : Result}
    (hanswer : ∀ i, S.At i →
      S.Results (if relative then answer.shift i else answer)
        (if relative then answer'.shift i else answer')) :
    S.Parsers (Parser.scripted consume relative answer)
      (Parser.scripted consume relative answer') :=
  saveBoth fun i hi => S.bind (skip consume) fun _ _ _ => S.pure (hanswer i hi)

end Primitives

section Outputs

variable {p p' : Parser}

theorem map (hp : S.Parsers p p') (f : Value → Except Fault Value) :
    S.Parsers (Parser.map f p) (Parser.map f p') := by
  refine S.bind hp fun r r' hr => ?_
  cases hr with
  | success hrecovered houtput halt =>
      exact S.bind (ofExcept (houtput.apply f)) fun _ _ hmapped =>
        success hrecovered hmapped halt
  | failure hrecovered herror => exact failure hrecovered herror

theorem mapWithSpan (hp : S.Parsers p p') (f : Value → Span → Except Fault Value) :
    S.Parsers (Parser.mapWithSpan f p) (Parser.mapWithSpan f p') := by
  refine saveBoth fun start _ => S.bind hp fun r r' hr => ?_
  cases hr with
  | success hrecovered houtput halt =>
      refine S.bind (Simulation.spanSince start) ?_
      rintro _ span rfl
      exact S.bind (ofExcept (houtput.apply fun output => f output span)) fun _ _ hmapped =>
        success hrecovered hmapped halt
  | failure hrecovered herror => exact failure hrecovered herror

/-- A function that may reject the output has to see the same output in both runs. -/
theorem tryMap
    {f f' : Value → Span → Except Fault Verdict}
    (hp : S.Parsers p p')
    (hmade : ¬ S.made)
    (hf : ∀ i output span, S.At i →
      Answers S.loose (S.Verdicts i) (f output span) (f' output span)) :
    S.Parsers (Parser.tryMap f p) (Parser.tryMap f' p') := by
  refine saveBoth fun start hstart => S.bind hp fun r r' hr => ?_
  cases hr with
  | success hrecovered houtput halt =>
      refine S.bind (Simulation.spanSince start) ?_
      rintro _ span rfl
      rw [houtput fun hmakes => absurd hmakes hmade]
      refine S.bind (ofExcept (hf start _ span hstart)) fun verdict verdict' hverdict => ?_
      cases hverdict with
      | accept output => exact success hrecovered (fun _ => rfl) halt
      | reject herror => exact failure hrecovered herror
  | failure hrecovered herror => exact failure hrecovered herror

/-- Diagnostics may be amended on one side or on both. -/
theorem amending
    {onAlt onAlt' onError onError' : Located → Located}
    (hp : S.Parsers p p')
    (hAlt : ∀ l m, S.Alike l m → S.Alike (onAlt l) (onAlt' m))
    (hError : ∀ l m, S.Alike l m → S.Alike (onError l) (onError' m)) :
    S.Parsers (p.amending onAlt onError) (p'.amending onAlt' onError') := by
  refine S.bind hp fun r r' hr => ?_
  cases hr with
  | success hrecovered houtput halt =>
      refine success hrecovered houtput ?_
      cases halt with
      | none => exact .none
      | some hl => exact .some (hAlt _ _ hl)
  | failure hrecovered herror => exact failure hrecovered (hError _ _ herror)

theorem mapError
    {f : Diagnostic → Diagnostic}
    (hp : S.Parsers p p')
    (hf : ∀ l m, S.Alike l m → S.Alike (l.map f) (m.map f)) :
    S.Parsers (Parser.mapError f p) (Parser.mapError f p') := by
  rw [Parser.mapError_eq_amending, Parser.mapError_eq_amending]
  exact hp.amending (fun _ _ => id) hf

theorem labelled
    {label : String}
    (hp : S.Parsers p p')
    (hlabel : ∀ l m, S.Alike l m →
      S.Alike (l.map fun e => e.withLabel label) (m.map fun e => e.withLabel label)) :
    S.Parsers (Parser.labelled label p) (Parser.labelled label p') := by
  rw [Parser.labelled_eq_amending, Parser.labelled_eq_amending]
  refine saveBoth fun start _ => ?_
  have hrelabel (l m : Located) (hlm : S.Alike l m) :
      S.Alike (Parser.relabel label start l) (Parser.relabel label start m) := by
    unfold Parser.relabel
    rw [← S.position_eq hlm]
    split
    · exact hlm
    · exact hlabel l m hlm
  exact hp.amending hrelabel hrelabel

end Outputs

section Sequences

variable {p p' q q' : Parser}

theorem andThen (hp : S.Parsers p p') (hq : S.Parsers q q') :
    S.Parsers (Parser.andThen p q) (Parser.andThen p' q') := by
  refine S.bind hp fun first first' hfirst => ?_
  cases hfirst with
  | failure hrecovered herror => exact failure hrecovered herror
  | success hrecovered houtput halt =>
      refine S.bind hq fun second second' hsecond => ?_
      cases hsecond with
      | success hrecovered' houtput' halt' =>
          refine S.bind (mergeAlts halt halt') fun _ _ halt'' => ?_
          refine success (List.rel_append hrecovered hrecovered') ?_ halt''
          intro hclean
          have hnil := fun hmade => List.append_eq_nil_iff.1 (hclean hmade)
          rw [houtput fun hmade => (hnil hmade).1, houtput' fun hmade => (hnil hmade).2]
      | failure hrecovered' herror =>
          exact S.bind (ofExcept (max_option herror halt)) fun _ _ herror' =>
            failure (List.rel_append hrecovered hrecovered') herror'

theorem orElse (hp : S.Parsers p p') (hq : S.Parsers q q') :
    S.Parsers (Parser.orElse p q) (Parser.orElse p' q') := by
  refine saveBoth fun before hbefore => S.bind hp fun left left' hleft => ?_
  by_cases hclean : left.isClean = true
  · rw [if_pos hclean, if_pos (hleft.isClean_eq.trans hclean)]
    exact S.pure hleft
  · rw [if_neg hclean, if_neg (fun hclean' => hclean (hleft.isClean_eq.symm.trans hclean'))]
    refine saveBoth fun leftEnd hleftEnd => S.bind (S.revert hbefore) fun _ _ _ =>
      S.bind hq fun right right' hright => saveBoth fun rightEnd hrightEnd => ?_
    rw [hleft.side_eq hright]
    have hend : S.At ((left.side right).pick leftEnd rightEnd) := by
      cases left.side right with
      | left => exact hleftEnd
      | right => exact hrightEnd
    exact S.bind (S.revert hend) fun _ _ _ => ofExcept (hleft.either hright)

theorem optional (hp : S.Parsers p p') :
    S.Parsers (Parser.optional p) (Parser.optional p') := by
  refine S.bind hp.tryParse fun r r' hr => ?_
  cases hr with
  | success hrecovered houtput halt => exact success hrecovered houtput halt
  | failure hrecovered herror => exact success .nil (fun _ => rfl) (.some herror)

/-- A step of a plan.  The rest may count on equal outputs where the simulation does. -/
theorem step
    {k k' : Value → List Located → Option Located → Parser}
    {recovered recovered' : List Located}
    {alt alt' : Option Located}
    (hp : S.Parsers p p')
    (hk : ∀ {output output' more more' further further'},
      List.Forall₂ S.Alike (recovered ++ more) (recovered' ++ more') →
      S.Outputs more output output' →
      Option.Rel S.Alike further further' →
      S.Parsers (k output (recovered ++ more) further) (k' output' (recovered' ++ more') further'))
    (hrecovered : List.Forall₂ S.Alike recovered recovered')
    (halt : Option.Rel S.Alike alt alt') :
    S.Parsers (Parser.step p k recovered alt) (Parser.step p' k' recovered' alt') := by
  refine S.bind hp fun r r' hr => ?_
  cases hr with
  | success hmore houtput halt' =>
      exact S.bind (mergeAlts halt halt') fun _ _ halt'' =>
        hk (List.rel_append hrecovered hmore) houtput halt''
  | failure hmore herror =>
      exact S.bind (ofExcept (max_option herror halt)) fun _ _ herror' =>
        failure (List.rel_append hrecovered hmore) herror'

end Sequences
end Parsers

end Simulation
end Resync
