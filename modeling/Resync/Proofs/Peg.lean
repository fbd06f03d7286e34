import Resync.Grammar.Combinator
import Resync.Proofs.Furthest
import Resync.Proofs.Reach
import Resync.Proofs.Run

/-!
# Grammars as parsing expressions

A grammar that recovers from nothing is a parsing expression: it matches from a position, with an
output and the position after it, or it does not match.  `Peg` says so by rules that know neither
diagnostics nor cursors.  A sequence goes on where its first part ends, a choice tries its second
part only if the first does not match, and a repetition takes whatever matches and gives nothing
back.

A run that returns has the one answer that the rules give (`parser_iff_peg`).  So nothing else that
the engine does can be seen in what is matched: where it leaves the cursor of a failure, which
diagnostics it merges, and which alternatives it carries along.
-/

namespace Resync

/-- What a result says about the match: the output and where it ends, or that there is none. -/
def Result.matched (r : Result) (offset : Nat) : Option (Value × Nat) :=
  match r with
  | success _ output _ => some (output, offset)
  | failure _ _ => none

/-- Whether a grammar by itself is a parsing expression: it recovers from nothing, is no separated
list, and does not answer what was laid down beforehand. -/
def Grammar.IsRecoveryFree : Grammar → Prop
  | .scripted _ _ _ | .recoverWith _ _ | .separatedBy _ _ _ _ _ => False
  | _ => True

mutual

/-- The matches of parsing expressions: `some (output, stop)` for a match from a position on up to
`stop`, and `none` if there is no match. -/
inductive Peg (env : Environment) (src : Source) : Grammar → Nat → Option (Value × Nat) → Prop where
  | taken
      {dialect : Dialect} {expected : List Value} {test : Value → Except Fault Bool} {i : Nat}
      (hnull : (src.sighting i).token ≠ .null)
      (htest : test (src.sighting i).token = .ok true) :
      Peg env src (.satisfy dialect expected test) i (some ((src.sighting i).token, i + 1))
  | notTaken
      {dialect : Dialect} {expected : List Value} {test : Value → Except Fault Bool} {i : Nat}
      (hmiss : (src.sighting i).token = .null ∨ test (src.sighting i).token = .ok false) :
      Peg env src (.satisfy dialect expected test) i none
  | seq
      {dialect : Dialect} {tokens : List Value} {i : Nat}
      (hholds : src.Holds i tokens) :
      Peg env src (.seq dialect tokens) i (some (.list tokens, i + tokens.length))
  | notSeq
      {dialect : Dialect} {tokens : List Value} {i : Nat}
      (hholds : ¬ src.Holds i tokens) :
      Peg env src (.seq dialect tokens) i none
  | accepted
      {dialect : Dialect} {f : Span → Value → Except Fault Verdict} {i : Nat} {output : Value}
      (hnull : (src.sighting i).token ≠ .null)
      (hf : f (src.sighting i).span (src.sighting i).token = .ok (.accept output)) :
      Peg env src (.filterMap dialect f) i (some (output, i + 1))
  | rejected
      {dialect : Dialect} {f : Span → Value → Except Fault Verdict} {i : Nat} {error : Diagnostic}
      (hnull : (src.sighting i).token ≠ .null)
      (hf : f (src.sighting i).span (src.sighting i).token = .ok (.reject error)) :
      Peg env src (.filterMap dialect f) i none
  | nothingToFilter
      {dialect : Dialect} {f : Span → Value → Except Fault Verdict} {i : Nat}
      (hnull : (src.sighting i).token = .null) :
      Peg env src (.filterMap dialect f) i none
  | atEnd
      {dialect : Dialect} {i : Nat}
      (hnull : (src.sighting i).token = .null) :
      Peg env src (.endOfInput dialect) i (some (.null, i))
  | notAtEnd
      {dialect : Dialect} {i : Nat}
      (hnull : (src.sighting i).token ≠ .null) :
      Peg env src (.endOfInput dialect) i none
  | empty {i : Nat} : Peg env src .empty i (some (.null, i))
  | map
      {f : Value → Except Fault Value} {of : Grammar} {i j : Nat} {output output' : Value}
      (hof : Peg env src of i (some (output, j)))
      (hf : f output = .ok output') :
      Peg env src (.map f of) i (some (output', j))
  | notMap
      {f : Value → Except Fault Value} {of : Grammar} {i : Nat}
      (hof : Peg env src of i none) :
      Peg env src (.map f of) i none
  | mapWithSpan
      {f : Value → Span → Except Fault Value} {of : Grammar} {i j : Nat} {span : Span}
      {output output' : Value}
      (hof : Peg env src of i (some (output, j)))
      (hspan : src.spanBetween i j = .ok span)
      (hf : f output span = .ok output') :
      Peg env src (.mapWithSpan f of) i (some (output', j))
  | notMapWithSpan
      {f : Value → Span → Except Fault Value} {of : Grammar} {i : Nat}
      (hof : Peg env src of i none) :
      Peg env src (.mapWithSpan f of) i none
  | tryMap
      {f : Value → Span → Except Fault Verdict} {of : Grammar} {i j : Nat} {span : Span}
      {output output' : Value}
      (hof : Peg env src of i (some (output, j)))
      (hspan : src.spanBetween i j = .ok span)
      (hf : f output span = .ok (.accept output')) :
      Peg env src (.tryMap f of) i (some (output', j))
  | tryMapRejected
      {f : Value → Span → Except Fault Verdict} {of : Grammar} {i j : Nat} {span : Span}
      {output : Value} {error : Diagnostic}
      (hof : Peg env src of i (some (output, j)))
      (hspan : src.spanBetween i j = .ok span)
      (hf : f output span = .ok (.reject error)) :
      Peg env src (.tryMap f of) i none
  | notTryMap
      {f : Value → Span → Except Fault Verdict} {of : Grammar} {i : Nat}
      (hof : Peg env src of i none) :
      Peg env src (.tryMap f of) i none
  | mapError
      {f : Diagnostic → Diagnostic} {of : Grammar} {i : Nat} {o : Option (Value × Nat)}
      (hof : Peg env src of i o) :
      Peg env src (.mapError f of) i o
  | labelled
      {label : String} {of : Grammar} {i : Nat} {o : Option (Value × Nat)}
      (hof : Peg env src of i o) :
      Peg env src (.labelled label of) i o
  | andThen
      {first second : Grammar} {i j k : Nat} {output output' : Value}
      (hfirst : Peg env src first i (some (output, j)))
      (hsecond : Peg env src second j (some (output', k))) :
      Peg env src (.andThen first second) i (some (.tuple [output, output'], k))
  | notFirst
      {first second : Grammar} {i : Nat}
      (hfirst : Peg env src first i none) :
      Peg env src (.andThen first second) i none
  | notSecond
      {first second : Grammar} {i j : Nat} {output : Value}
      (hfirst : Peg env src first i (some (output, j)))
      (hsecond : Peg env src second j none) :
      Peg env src (.andThen first second) i none
  | left
      {left right : Grammar} {i j : Nat} {output : Value}
      (hleft : Peg env src left i (some (output, j))) :
      Peg env src (.orElse left right) i (some (output, j))
  | right
      {left right : Grammar} {i : Nat} {o : Option (Value × Nat)}
      (hleft : Peg env src left i none)
      (hright : Peg env src right i o) :
      Peg env src (.orElse left right) i o
  | present
      {of : Grammar} {i j : Nat} {output : Value}
      (hof : Peg env src of i (some (output, j))) :
      Peg env src (.optional of) i (some (output, j))
  | missing
      {of : Grammar} {i : Nat}
      (hof : Peg env src of i none) :
      Peg env src (.optional of) i (some (.null, i))
  | repeated
      {of : Grammar} {minimum : Nat} {maximum : Option Nat} {i : Nat} {o : Option (Value × Nat)}
      (hrounds : PegRounds env src of minimum maximum [] i o) :
      Peg env src (.repeated of minimum maximum) i o
  | generate
      {plan : Plan} {i : Nat} {o : Option (Value × Nat)}
      (hplan : PegPlan env src plan i o) :
      Peg env src (.generate plan) i o
  | ref
      {target : Ref} {g : Grammar} {i : Nat} {o : Option (Value × Nat)}
      (hlookup : env.lookup target = .ok g)
      (hg : Peg env src g i o) :
      Peg env src (.ref target) i o

/-- The rounds of a repetition after some matches: it is full, or nothing more matches, which is a
failure as long as matches are missing, or a match is empty and not needed, or a match is taken for
good. -/
inductive PegRounds (env : Environment) (src : Source) :
    Grammar → Nat → Option Nat → List Value → Nat → Option (Value × Nat) → Prop where
  | full
      {of : Grammar} {minimum : Nat} {maximum : Option Nat} {outputs : List Value} {i : Nat}
      (hfull : maximum.any (· ≤ outputs.length) = true) :
      PegRounds env src of minimum maximum outputs i (some (.list outputs, i))
  | tooFew
      {of : Grammar} {minimum : Nat} {maximum : Option Nat} {outputs : List Value} {i : Nat}
      (hfull : maximum.any (· ≤ outputs.length) = false)
      (hfew : outputs.length < minimum)
      (hof : Peg env src of i none) :
      PegRounds env src of minimum maximum outputs i none
  | enough
      {of : Grammar} {minimum : Nat} {maximum : Option Nat} {outputs : List Value} {i : Nat}
      (hfull : maximum.any (· ≤ outputs.length) = false)
      (henough : minimum ≤ outputs.length)
      (hof : Peg env src of i none) :
      PegRounds env src of minimum maximum outputs i (some (.list outputs, i))
  | stalled
      {of : Grammar} {minimum : Nat} {maximum : Option Nat} {outputs : List Value} {i : Nat}
      {output : Value}
      (hfull : maximum.any (· ≤ outputs.length) = false)
      (henough : minimum ≤ outputs.length)
      (hof : Peg env src of i (some (output, i))) :
      PegRounds env src of minimum maximum outputs i (some (.list outputs, i))
  | more
      {of : Grammar} {minimum : Nat} {maximum : Option Nat} {outputs : List Value} {i j : Nat}
      {output : Value} {o : Option (Value × Nat)}
      (hfull : maximum.any (· ≤ outputs.length) = false)
      (hof : Peg env src of i (some (output, j)))
      (hneeded : ¬ (minimum ≤ outputs.length ∧ j = i))
      (hrest : PegRounds env src of minimum maximum (outputs ++ [output]) j o) :
      PegRounds env src of minimum maximum outputs i o

/-- The matches of a plan: its steps one after another. -/
inductive PegPlan (env : Environment) (src : Source) :
    Plan → Nat → Option (Value × Nat) → Prop where
  | finish {output : Value} {i : Nat} : PegPlan env src (.finish output) i (some (output, i))
  | step
      {first : Grammar} {resume : Value → Plan} {i j : Nat} {output : Value}
      {o : Option (Value × Nat)}
      (hfirst : Peg env src first i (some (output, j)))
      (hrest : PegPlan env src (resume output) j o) :
      PegPlan env src (.step first resume) i o
  | notStep
      {first : Grammar} {resume : Value → Plan} {i : Nat}
      (hfirst : Peg env src first i none) :
      PegPlan env src (.step first resume) i none

end

namespace PegRounds

variable {env : Environment} {src : Source} {of : Grammar} {minimum : Nat} {maximum : Option Nat}
variable {outputs : List Value} {i j : Nat} {output : Value}

/-- A full repetition ends where it is. -/
theorem iff_of_full (hfull : maximum.any (· ≤ outputs.length) = true) (o : Option (Value × Nat)) :
    PegRounds env src of minimum maximum outputs i o ↔ o = some (.list outputs, i) := by
  constructor
  · intro hrounds
    have hnot {b : Bool} (h : b = true) (h' : b = false) : False := by
      rw [h] at h'
      cases h'
    cases hrounds with
    | full _ => rfl
    | tooFew hfull' _ _ => exact (hnot hfull hfull').elim
    | enough hfull' _ _ => exact (hnot hfull hfull').elim
    | stalled hfull' _ _ => exact (hnot hfull hfull').elim
    | more hfull' _ _ _ => exact (hnot hfull hfull').elim
  · rintro rfl
    exact .full hfull

/-- Where nothing more matches, it depends on the number of matches how a repetition ends. -/
theorem iff_of_none
    (hfull : maximum.any (· ≤ outputs.length) = false)
    (hof : ∀ o, Peg env src of i o ↔ o = none)
    (o : Option (Value × Nat)) :
    PegRounds env src of minimum maximum outputs i o ↔
      o = if outputs.length < minimum then none else some (.list outputs, i) := by
  constructor
  · intro hrounds
    cases hrounds with
    | full hfull' =>
        rw [hfull] at hfull'
        cases hfull'
    | tooFew _ hfew _ => rw [if_pos hfew]
    | enough _ henough _ => rw [if_neg (Nat.not_lt.2 henough)]
    | stalled _ _ hmatch => cases (hof _).1 hmatch
    | more _ hmatch _ _ => cases (hof _).1 hmatch
  · rintro rfl
    by_cases hfew : outputs.length < minimum
    · rw [if_pos hfew]
      exact .tooFew hfull hfew ((hof _).2 rfl)
    · rw [if_neg hfew]
      exact .enough hfull (Nat.le_of_not_lt hfew) ((hof _).2 rfl)

/-- Where another match is empty and not needed, a repetition ends. -/
theorem iff_of_stalled
    (hfull : maximum.any (· ≤ outputs.length) = false)
    (hof : ∀ o, Peg env src of i o ↔ o = some (output, j))
    (hstalled : minimum ≤ outputs.length ∧ j = i)
    (o : Option (Value × Nat)) :
    PegRounds env src of minimum maximum outputs i o ↔ o = some (.list outputs, i) := by
  obtain ⟨henough, rfl⟩ := hstalled
  constructor
  · intro hrounds
    cases hrounds with
    | full _ => rfl
    | tooFew _ _ hnone => cases (hof _).1 hnone
    | enough _ _ _ => rfl
    | stalled _ _ _ => rfl
    | more _ hmatch hneeded _ =>
        cases (hof _).1 hmatch
        exact absurd ⟨henough, rfl⟩ hneeded
  · rintro rfl
    exact .stalled hfull henough ((hof _).2 rfl)

/-- Any other match is taken, and the repetition goes on behind it. -/
theorem iff_of_more
    (hfull : maximum.any (· ≤ outputs.length) = false)
    (hof : ∀ o, Peg env src of i o ↔ o = some (output, j))
    (hneeded : ¬ (minimum ≤ outputs.length ∧ j = i))
    (o : Option (Value × Nat)) :
    PegRounds env src of minimum maximum outputs i o ↔
      PegRounds env src of minimum maximum (outputs ++ [output]) j o := by
  constructor
  · intro hrounds
    cases hrounds with
    | full hfull' =>
        rw [hfull] at hfull'
        cases hfull'
    | tooFew _ _ hnone => cases (hof _).1 hnone
    | enough _ _ hnone => cases (hof _).1 hnone
    | stalled _ henough hmatch =>
        cases (hof _).1 hmatch
        exact absurd ⟨henough, rfl⟩ hneeded
    | more _ hmatch _ hrest =>
        cases (hof _).1 hmatch
        exact hrest
  · intro hrest
    exact .more hfull ((hof _).2 rfl) hneeded hrest

end PegRounds

/-- Whether a parser answers what the rules give for a grammar, and recovers from nothing. -/
def Parser.Recognizes (env : Environment) (src : Source) (p : Parser) (g : Grammar) : Prop :=
  ∀ cur r cur', p src cur = .done r cur' →
    r.recovered = [] ∧ ∀ o, Peg env src g cur.offset o ↔ o = r.matched cur'.offset

/-- The same for a plan. -/
def Parser.RecognizesPlan
    (env : Environment)
    (src : Source)
    (p : Parser)
    (plan : Plan) :
    Prop :=
  ∀ cur r cur', p src cur = .done r cur' →
    r.recovered = [] ∧ ∀ o, PegPlan env src plan cur.offset o ↔ o = r.matched cur'.offset

namespace Parser.Recognizes

variable {env : Environment} {src : Source} {p q : Parser} {g h : Grammar}

section Primitives

variable (dialect : Dialect)

theorem satisfy (expected : List Value) (test : Value → Except Fault Bool) :
    (Parser.satisfy dialect expected test).Recognizes env src
      (.satisfy dialect expected test) := by
  intro cur r cur' hrun
  obtain ⟨-, hends⟩ := satisfy_done hrun
  rcases hends with ⟨hnull, htest, rfl, hoffset⟩ | ⟨hmiss, i, span, expected', found, error, -, rfl⟩
  · refine ⟨rfl, fun o => ⟨?_, ?_⟩⟩
    · intro hpeg
      cases hpeg with
      | taken _ _ => simp only [Result.matched, hoffset]
      | notTaken hmiss =>
          rcases hmiss with hmiss | hmiss
          · exact absurd hmiss hnull
          · rw [htest] at hmiss
            cases hmiss
    · rintro rfl
      simp only [Result.matched, hoffset]
      exact .taken hnull htest
  · refine ⟨rfl, fun o => ⟨?_, ?_⟩⟩
    · intro hpeg
      cases hpeg with
      | notTaken _ => rfl
      | taken hnull htest =>
          rcases hmiss with hmiss | hmiss
          · exact absurd hmiss hnull
          · rw [htest] at hmiss
            cases hmiss
    · rintro rfl
      exact .notTaken hmiss

theorem seq (tokens : List Value) :
    (Parser.seq dialect tokens).Recognizes env src (.seq dialect tokens) := by
  intro cur r cur' hrun
  obtain ⟨-, hends⟩ := seqFrom_done hrun
  rcases hends with ⟨hholds, rfl, hoffset⟩ | ⟨hholds, i, span, expected, found, error, -, rfl⟩
  · refine ⟨rfl, fun o => ⟨?_, ?_⟩⟩
    · intro hpeg
      cases hpeg with
      | seq _ => simp only [Result.matched, hoffset]
      | notSeq hnot => exact absurd hholds hnot
    · rintro rfl
      simp only [Result.matched, hoffset]
      exact .seq hholds
  · refine ⟨rfl, fun o => ⟨?_, ?_⟩⟩
    · intro hpeg
      cases hpeg with
      | seq hall => exact absurd hall hholds
      | notSeq _ => rfl
    · rintro rfl
      exact .notSeq hholds

theorem filterMap (f : Span → Value → Except Fault Verdict) :
    (Parser.filterMap dialect f).Recognizes env src (.filterMap dialect f) := by
  intro cur r cur' hrun
  rcases filterMap_done hrun with
    ⟨hnull, i, span, expected, found, error, -, rfl⟩ |
    ⟨hnull, ⟨output, hf, rfl, hoffset⟩ | ⟨error, hf, rfl⟩⟩
  · refine ⟨rfl, fun o => ⟨?_, ?_⟩⟩
    · intro hpeg
      cases hpeg with
      | accepted hsome _ => exact absurd hnull hsome
      | rejected _ _ => rfl
      | nothingToFilter _ => rfl
    · rintro rfl
      exact .nothingToFilter hnull
  · refine ⟨rfl, fun o => ⟨?_, ?_⟩⟩
    · intro hpeg
      cases hpeg with
      | accepted _ hf' =>
          rw [hf] at hf'
          cases hf'
          simp only [Result.matched, hoffset]
      | rejected _ hf' =>
          rw [hf] at hf'
          cases hf'
      | nothingToFilter hnone => exact absurd hnone hnull
    · rintro rfl
      simp only [Result.matched, hoffset]
      exact .accepted hnull hf
  · refine ⟨rfl, fun o => ⟨?_, ?_⟩⟩
    · intro hpeg
      cases hpeg with
      | accepted _ hf' =>
          rw [hf] at hf'
          cases hf'
      | rejected _ _ => rfl
      | nothingToFilter _ => rfl
    · rintro rfl
      exact .rejected hnull hf

theorem endOfInput : (Parser.endOfInput dialect).Recognizes env src (.endOfInput dialect) := by
  intro cur r cur' hrun
  obtain ⟨-, hends⟩ := endOfInput_done hrun
  rcases hends with ⟨hnull, rfl, hoffset⟩ | ⟨hnull, i, span, expected, found, error, -, rfl⟩
  · refine ⟨rfl, fun o => ⟨?_, ?_⟩⟩
    · intro hpeg
      cases hpeg with
      | atEnd _ => simp only [Result.matched, hoffset]
      | notAtEnd hnot => exact absurd hnull hnot
    · rintro rfl
      simp only [Result.matched, hoffset]
      exact .atEnd hnull
  · refine ⟨rfl, fun o => ⟨?_, ?_⟩⟩
    · intro hpeg
      cases hpeg with
      | atEnd hend => exact absurd hend hnull
      | notAtEnd _ => rfl
    · rintro rfl
      exact .notAtEnd hnull

theorem empty : Parser.empty.Recognizes env src .empty := by
  intro cur r cur' hrun
  cases hrun
  refine ⟨rfl, fun o => ⟨?_, ?_⟩⟩
  · intro hpeg
    cases hpeg
    rfl
  · rintro rfl
    exact .empty

end Primitives

section Outputs

theorem map
    (hp : p.Recognizes env src g)
    (f : Value → Except Fault Value) :
    (Parser.map f p).Recognizes env src (.map f g) := by
  intro cur r cur' hrun
  rcases map_done hrun with
    ⟨recovered, output, alt, output', hof, hf, rfl⟩ | ⟨recovered, error, hof, rfl⟩
  · obtain ⟨hrecovered, hanswer⟩ := hp _ _ _ hof
    refine ⟨hrecovered, fun o => ⟨?_, ?_⟩⟩
    · intro hpeg
      cases hpeg with
      | map hg hf' =>
          cases (hanswer _).1 hg
          rw [hf] at hf'
          cases hf'
          rfl
      | notMap hg => cases (hanswer _).1 hg
    · rintro rfl
      exact .map ((hanswer _).2 rfl) hf
  · obtain ⟨hrecovered, hanswer⟩ := hp _ _ _ hof
    refine ⟨hrecovered, fun o => ⟨?_, ?_⟩⟩
    · intro hpeg
      cases hpeg with
      | map hg _ => cases (hanswer _).1 hg
      | notMap _ => rfl
    · rintro rfl
      exact .notMap ((hanswer _).2 rfl)

theorem mapWithSpan
    (hp : p.Recognizes env src g)
    (f : Value → Span → Except Fault Value) :
    (Parser.mapWithSpan f p).Recognizes env src (.mapWithSpan f g) := by
  intro cur r cur' hrun
  rcases mapWithSpan_done hrun with
    ⟨recovered, output, alt, mid, span, output', hof, hspan, hf, rfl, hoffset, -⟩ |
    ⟨recovered, error, hof, rfl⟩
  · obtain ⟨hrecovered, hanswer⟩ := hp _ _ _ hof
    refine ⟨hrecovered, fun o => ⟨?_, ?_⟩⟩
    · intro hpeg
      cases hpeg with
      | mapWithSpan hg hspan' hf' =>
          cases (hanswer _).1 hg
          rw [hspan] at hspan'
          cases hspan'
          rw [hf] at hf'
          cases hf'
          simp only [Result.matched, hoffset]
      | notMapWithSpan hg => cases (hanswer _).1 hg
    · rintro rfl
      simp only [Result.matched, hoffset]
      exact .mapWithSpan ((hanswer _).2 rfl) hspan hf
  · obtain ⟨hrecovered, hanswer⟩ := hp _ _ _ hof
    refine ⟨hrecovered, fun o => ⟨?_, ?_⟩⟩
    · intro hpeg
      cases hpeg with
      | mapWithSpan hg _ _ => cases (hanswer _).1 hg
      | notMapWithSpan _ => rfl
    · rintro rfl
      exact .notMapWithSpan ((hanswer _).2 rfl)

theorem tryMap
    (hp : p.Recognizes env src g)
    (f : Value → Span → Except Fault Verdict) :
    (Parser.tryMap f p).Recognizes env src (.tryMap f g) := by
  intro cur r cur' hrun
  rcases tryMap_done hrun with
    ⟨recovered, output, alt, mid, span, verdict, hof, hspan, hf, hoffset, -, hverdict⟩ |
    ⟨recovered, error, hof, rfl⟩
  · obtain ⟨hrecovered, hanswer⟩ := hp _ _ _ hof
    -- The three rules of this form ask for the verdict on the same output and span.
    have hverdicts : ∀ {output' j span' verdict'},
        Peg env src g cur.offset (some (output', j)) →
        src.spanBetween cur.offset j = .ok span' →
        f output' span' = .ok verdict' →
        verdict' = verdict := by
      intro output' j span' verdict' hg hspan' hf'
      cases (hanswer _).1 hg
      rw [hspan] at hspan'
      cases hspan'
      rw [hf] at hf'
      cases hf'
      rfl
    rcases hverdict with ⟨output', rfl, rfl⟩ | ⟨error, rfl, rfl⟩
    · refine ⟨hrecovered, fun o => ⟨?_, ?_⟩⟩
      · intro hpeg
        cases hpeg with
        | tryMap hg hspan' hf' =>
            cases hverdicts hg hspan' hf'
            cases (hanswer _).1 hg
            simp only [Result.matched, hoffset]
        | tryMapRejected hg hspan' hf' => cases hverdicts hg hspan' hf'
        | notTryMap hg => cases (hanswer _).1 hg
      · rintro rfl
        simp only [Result.matched, hoffset]
        exact .tryMap ((hanswer _).2 rfl) hspan hf
    · refine ⟨hrecovered, fun o => ⟨?_, ?_⟩⟩
      · intro hpeg
        cases hpeg with
        | tryMap hg hspan' hf' => cases hverdicts hg hspan' hf'
        | tryMapRejected _ _ _ => rfl
        | notTryMap _ => rfl
      · rintro rfl
        exact .tryMapRejected ((hanswer _).2 rfl) hspan hf
  · obtain ⟨hrecovered, hanswer⟩ := hp _ _ _ hof
    refine ⟨hrecovered, fun o => ⟨?_, ?_⟩⟩
    · intro hpeg
      cases hpeg with
      | tryMap hg _ _ => cases (hanswer _).1 hg
      | tryMapRejected _ _ _ => rfl
      | notTryMap _ => rfl
    · rintro rfl
      exact .notTryMap ((hanswer _).2 rfl)

/-- A parser that changes no more than the diagnostics of another one recognizes the same. -/
theorem of_same_match
    (hp : p.Recognizes env src g)
    (hsame : ∀ cur r cur', q src cur = .done r cur' →
      ∃ r', p src cur = .done r' cur' ∧ r.recovered = r'.recovered ∧
        r.matched cur'.offset = r'.matched cur'.offset)
    (hpeg : ∀ i o, Peg env src h i o ↔ Peg env src g i o) :
    q.Recognizes env src h := by
  intro cur r cur' hrun
  obtain ⟨r', hof, hrecovered, hmatched⟩ := hsame cur r cur' hrun
  obtain ⟨hnone, hanswer⟩ := hp _ _ _ hof
  refine ⟨hrecovered.trans hnone, fun o => ?_⟩
  rw [hpeg, hanswer, hmatched]

theorem mapError
    (hp : p.Recognizes env src g)
    (f : Diagnostic → Diagnostic) :
    (Parser.mapError f p).Recognizes env src (.mapError f g) := by
  refine hp.of_same_match ?_ fun i o => ⟨?_, .mapError⟩
  · intro cur r cur' hrun
    rcases mapError_done hrun with
      ⟨recovered, output, alt, hof, rfl⟩ | ⟨recovered, error, hof, rfl⟩
    · exact ⟨_, hof, rfl, rfl⟩
    · exact ⟨_, hof, rfl, rfl⟩
  · intro hpeg
    cases hpeg with
    | mapError hof => exact hof

theorem labelled
    (hp : p.Recognizes env src g)
    (label : String) :
    (Parser.labelled label p).Recognizes env src (.labelled label g) := by
  refine hp.of_same_match ?_ fun i o => ⟨?_, .labelled⟩
  · intro cur r cur' hrun
    rcases labelled_done hrun with
      ⟨recovered, output, alt, hof, rfl⟩ | ⟨recovered, error, hof, rfl⟩
    · exact ⟨_, hof, rfl, rfl⟩
    · exact ⟨_, hof, rfl, rfl⟩
  · intro hpeg
    cases hpeg with
    | labelled hof => exact hof

end Outputs

section Sequences

theorem andThen
    (hp : p.Recognizes env src g)
    (hq : q.Recognizes env src h) :
    (Parser.andThen p q).Recognizes env src (.andThen g h) := by
  intro cur r cur' hrun
  rcases andThen_done hrun with
    ⟨recovered, error, hfirst, rfl⟩ | ⟨recovered, output, alt, mid, hfirst, hrest⟩
  · obtain ⟨hrecovered, hanswer⟩ := hp _ _ _ hfirst
    refine ⟨hrecovered, fun o => ⟨?_, ?_⟩⟩
    · intro hpeg
      cases hpeg with
      | andThen hg _ => cases (hanswer _).1 hg
      | notFirst _ => rfl
      | notSecond hg _ => rfl
    · rintro rfl
      exact .notFirst ((hanswer _).2 rfl)
  · obtain ⟨hrecovered, hanswer⟩ := hp _ _ _ hfirst
    obtain rfl : recovered = [] := hrecovered
    have hg : Peg env src g cur.offset (some (output, mid.offset)) := (hanswer _).2 rfl
    rcases hrest with
      ⟨recovered', output', alt', alt'', hsecond, -, rfl⟩ |
      ⟨recovered', error, error', hsecond, -, rfl⟩
    · obtain ⟨hrecovered', hanswer'⟩ := hq _ _ _ hsecond
      refine ⟨hrecovered', fun o => ⟨?_, ?_⟩⟩
      · intro hpeg
        cases hpeg with
        | andThen hg' hh =>
            cases (hanswer _).1 hg'
            cases (hanswer' _).1 hh
            rfl
        | notFirst hg' => cases (hanswer _).1 hg'
        | notSecond hg' hh =>
            cases (hanswer _).1 hg'
            cases (hanswer' _).1 hh
      · rintro rfl
        exact .andThen hg ((hanswer' _).2 rfl)
    · obtain ⟨hrecovered', hanswer'⟩ := hq _ _ _ hsecond
      refine ⟨hrecovered', fun o => ⟨?_, ?_⟩⟩
      · intro hpeg
        cases hpeg with
        | andThen hg' hh =>
            cases (hanswer _).1 hg'
            cases (hanswer' _).1 hh
        | notFirst _ => rfl
        | notSecond _ _ => rfl
      · rintro rfl
        exact .notSecond hg ((hanswer' _).2 rfl)

/-- After a failure without recoveries the answer is the one of the second parser. -/
theorem either_matched
    {error : Located}
    {right r : Result}
    (hrecovered : right.recovered = [])
    (h : (Result.failure [] error).either right = .ok r)
    (i j : Nat) :
    r.recovered = [] ∧
      r.matched (((Result.failure [] error).side right).pick i j) = right.matched j := by
  cases right with
  | success recovered output alt =>
      obtain rfl : recovered = [] := hrecovered
      rw [Result.either_clean] at h
      obtain ⟨alt', -, rfl⟩ := map_eq_ok.1 h
      exact ⟨rfl, rfl⟩
  | failure recovered error' =>
      obtain rfl : recovered = [] := hrecovered
      rw [Result.either_failures, ite_self] at h
      obtain ⟨c, -, rfl⟩ := map_eq_ok.1 h
      exact ⟨rfl, rfl⟩

theorem orElse
    (hp : p.Recognizes env src g)
    (hq : q.Recognizes env src h) :
    (Parser.orElse p q).Recognizes env src (.orElse g h) := by
  intro cur r cur' hrun
  rcases orElse_done hrun with
    ⟨hfirst, hclean⟩ | ⟨left, mid, right, stop, hfirst, hclean, hsecond, heither, rfl⟩
  · obtain ⟨hrecovered, hanswer⟩ := hp _ _ _ hfirst
    cases r with
    | failure recovered error => cases hclean
    | success recovered output alt =>
        refine ⟨hrecovered, fun o => ⟨?_, ?_⟩⟩
        · intro hpeg
          cases hpeg with
          | left hg => exact (hanswer _).1 hg
          | right hg _ => cases (hanswer _).1 hg
        · rintro rfl
          exact .left ((hanswer _).2 rfl)
  · obtain ⟨hrecovered, hanswer⟩ := hp _ _ _ hfirst
    cases left with
    | success recovered output alt =>
        obtain rfl : recovered = [] := hrecovered
        cases hclean
    | failure recovered error =>
        obtain rfl : recovered = [] := hrecovered
        -- The second parser starts where the first did, wherever that one has left the cursor.
        obtain ⟨hrecovered', hanswer'⟩ := hq _ _ _ hsecond
        obtain ⟨hnone, hmatched⟩ := either_matched hrecovered' heither mid.offset stop.offset
        refine ⟨hnone, fun o => ⟨?_, ?_⟩⟩
        · intro hpeg
          cases hpeg with
          | left hg => cases (hanswer _).1 hg
          | right _ hh => exact ((hanswer' _).1 hh).trans hmatched.symm
        · rintro rfl
          exact .right ((hanswer _).2 rfl) ((hanswer' _).2 hmatched)

theorem optional (hp : p.Recognizes env src g) :
    (Parser.optional p).Recognizes env src (.optional g) := by
  intro cur r cur' hrun
  rcases optional_done hrun with
    ⟨recovered, output, alt, hof, rfl⟩ | ⟨recovered, error, mid, hof, rfl, rfl⟩
  · obtain ⟨hrecovered, hanswer⟩ := hp _ _ _ hof
    refine ⟨hrecovered, fun o => ⟨?_, ?_⟩⟩
    · intro hpeg
      cases hpeg with
      | present hg => exact (hanswer _).1 hg
      | missing hg => cases (hanswer _).1 hg
    · rintro rfl
      exact .present ((hanswer _).2 rfl)
  · obtain ⟨-, hanswer⟩ := hp _ _ _ hof
    refine ⟨rfl, fun o => ⟨?_, ?_⟩⟩
    · intro hpeg
      cases hpeg with
      | present hg => cases (hanswer _).1 hg
      | missing _ => rfl
    · rintro rfl
      exact .missing ((hanswer _).2 rfl)

end Sequences

section Repetitions

/-- The rounds of a repetition, by induction on their bound. -/
theorem repeatedFrom
    (hp : p.Recognizes env src g)
    (minimum : Nat)
    (maximum : Option Nat)
    (bound : Nat)
    {outputs : List Value}
    {alt : Option Located}
    {cur cur' : Cursor}
    {r : Result}
    (hrun : Parser.repeatedFrom p minimum maximum bound [] outputs alt src cur = .done r cur') :
    r.recovered = [] ∧
      ∀ o, PegRounds env src g minimum maximum outputs cur.offset o ↔
        o = r.matched cur'.offset := by
  induction bound generalizing outputs alt cur with
  | zero =>
      unfold Parser.repeatedFrom at hrun
      cases hrun
  | succ bound ih =>
      rcases repeatedFrom_done hrun with
        ⟨hfull, rfl, rfl⟩ |
        ⟨hfull, ⟨recovered', output, alt', alt'', mid, hof, -, hround⟩ |
          ⟨recovered', error, hfew, hof, rfl⟩ |
          ⟨recovered', error, reached, alt', mid, henough, hof, -, -, rfl, rfl⟩⟩
      · exact ⟨rfl, PegRounds.iff_of_full hfull⟩
      · obtain ⟨hrecovered, hanswer⟩ := hp _ _ _ hof
        obtain rfl : recovered' = [] := hrecovered
        rcases hround with ⟨henough, hstalled, rfl, rfl⟩ | ⟨hneeded, hrest⟩
        · refine ⟨rfl, fun o => ?_⟩
          rw [PegRounds.iff_of_stalled hfull hanswer ⟨henough, hstalled⟩ o, ← hstalled]
          rfl
        · obtain ⟨hnone, hrounds⟩ := ih hrest
          refine ⟨hnone, fun o => ?_⟩
          rw [PegRounds.iff_of_more hfull hanswer hneeded o]
          exact hrounds o
      · obtain ⟨hrecovered, hanswer⟩ := hp _ _ _ hof
        obtain rfl : recovered' = [] := hrecovered
        refine ⟨rfl, fun o => ?_⟩
        rw [PegRounds.iff_of_none hfull hanswer o, if_pos hfew]
        rfl
      · obtain ⟨-, hanswer⟩ := hp _ _ _ hof
        refine ⟨rfl, fun o => ?_⟩
        rw [PegRounds.iff_of_none hfull hanswer o, if_neg (Nat.not_lt.2 henough)]
        rfl

theorem repeated
    (hp : p.Recognizes env src g)
    (minimum : Nat)
    (maximum : Option Nat) :
    (Parser.repeated p minimum maximum).Recognizes env src (.repeated g minimum maximum) := by
  intro cur r cur' hrun
  obtain ⟨bound, hrounds⟩ := repeated_done hrun
  obtain ⟨hrecovered, hanswer⟩ := hp.repeatedFrom minimum maximum bound hrounds
  refine ⟨hrecovered, fun o => ⟨?_, ?_⟩⟩
  · intro hpeg
    cases hpeg with
    | repeated hof => exact (hanswer o).1 hof
  · intro ho
    exact .repeated ((hanswer o).2 ho)

end Repetitions

section Plans

theorem step
    {k : Value → List Located → Option Located → Parser}
    {resume : Value → Plan}
    (hp : p.Recognizes env src g)
    (hk : ∀ output alt, (k output [] alt).RecognizesPlan env src (resume output))
    (alt : Option Located) :
    (Parser.step p k [] alt).RecognizesPlan env src (.step g resume) := by
  intro cur r cur' hrun
  rcases step_done hrun with
    ⟨recovered', error, error', hfirst, -, rfl⟩ |
    ⟨recovered', output, alt', alt'', mid, hfirst, -, hrest⟩
  · obtain ⟨hrecovered, hanswer⟩ := hp _ _ _ hfirst
    refine ⟨hrecovered, fun o => ⟨?_, ?_⟩⟩
    · intro hplan
      cases hplan with
      | step hg _ => cases (hanswer _).1 hg
      | notStep _ => rfl
    · rintro rfl
      exact .notStep ((hanswer _).2 rfl)
  · obtain ⟨hrecovered, hanswer⟩ := hp _ _ _ hfirst
    obtain rfl : recovered' = [] := hrecovered
    obtain ⟨hnone, hanswer'⟩ := hk _ _ _ _ _ hrest
    refine ⟨hnone, fun o => ⟨?_, ?_⟩⟩
    · intro hplan
      cases hplan with
      | step hg hlater =>
          cases (hanswer _).1 hg
          exact (hanswer' _).1 hlater
      | notStep hg => cases (hanswer _).1 hg
    · intro ho
      exact .step ((hanswer _).2 rfl) ((hanswer' _).2 ho)

end Plans

end Parser.Recognizes

section Runs

variable {env : Environment} {src : Source} {resolve : Ref → Parser}

mutual

/-- If what a grammar refers to is recognized, then so is the grammar. -/
theorem Grammar.recognizes
    (hresolve : ∀ target,
      (∀ g, env.lookup target = .ok g → env.Within Grammar.IsRecoveryFree g) →
        (resolve target).Recognizes env src (.ref target)) :
    ∀ g : Grammar, env.Within Grammar.IsRecoveryFree g →
      (g.parser resolve).Recognizes env src g
  | .satisfy dialect expected test, _ => by
      rw [Grammar.parser]
      exact Parser.Recognizes.satisfy dialect expected test
  | .seq dialect tokens, _ => by
      rw [Grammar.parser]
      exact Parser.Recognizes.seq dialect tokens
  | .filterMap dialect f, _ => by
      rw [Grammar.parser]
      exact Parser.Recognizes.filterMap dialect f
  | .endOfInput dialect, _ => by
      rw [Grammar.parser]
      exact Parser.Recognizes.endOfInput dialect
  | .empty, _ => by
      rw [Grammar.parser]
      exact Parser.Recognizes.empty
  | .map f of, hfree => by
      rw [Grammar.parser]
      exact (of.recognizes hresolve (hfree.part rfl)).map f
  | .mapWithSpan f of, hfree => by
      rw [Grammar.parser]
      exact (of.recognizes hresolve (hfree.part rfl)).mapWithSpan f
  | .tryMap f of, hfree => by
      rw [Grammar.parser]
      exact (of.recognizes hresolve (hfree.part rfl)).tryMap f
  | .mapError f of, hfree => by
      rw [Grammar.parser]
      exact (of.recognizes hresolve (hfree.part rfl)).mapError f
  | .labelled label of, hfree => by
      rw [Grammar.parser]
      exact (of.recognizes hresolve (hfree.part rfl)).labelled label
  | .andThen first second, hfree => by
      rw [Grammar.parser]
      exact (first.recognizes hresolve (hfree.part (Or.inl rfl))).andThen
        (second.recognizes hresolve (hfree.part (Or.inr rfl)))
  | .orElse left right, hfree => by
      rw [Grammar.parser]
      exact (left.recognizes hresolve (hfree.part (Or.inl rfl))).orElse
        (right.recognizes hresolve (hfree.part (Or.inr rfl)))
  | .optional of, hfree => by
      rw [Grammar.parser]
      exact (of.recognizes hresolve (hfree.part rfl)).optional
  | .repeated of minimum maximum, hfree => by
      rw [Grammar.parser]
      exact (of.recognizes hresolve (hfree.part rfl)).repeated minimum maximum
  | .generate plan, hfree => by
      rw [Grammar.parser]
      intro cur r cur' hrun
      obtain ⟨hrecovered, hanswer⟩ :=
        plan.recognizes hresolve (fun h hruns => hfree.part hruns) none cur r cur' hrun
      refine ⟨hrecovered, fun o => ⟨?_, ?_⟩⟩
      · intro hpeg
        cases hpeg with
        | generate hplan => exact (hanswer o).1 hplan
      · intro ho
        exact .generate ((hanswer o).2 ho)
  | .ref target, hfree => by
      rw [Grammar.parser]
      exact hresolve target fun g hlookup => hfree.part hlookup
  | .scripted consume relative answer, hfree => hfree.self.elim
  | .recoverWith of strategy, hfree => hfree.self.elim
  | .separatedBy item separator minimum leading trailing, hfree => hfree.self.elim

/-- The same for the steps of a plan. -/
theorem Plan.recognizes
    (hresolve : ∀ target,
      (∀ g, env.lookup target = .ok g → env.Within Grammar.IsRecoveryFree g) →
        (resolve target).Recognizes env src (.ref target)) :
    ∀ plan : Plan, (∀ g, plan.Runs g → env.Within Grammar.IsRecoveryFree g) →
      ∀ alt : Option Located, (plan.parser resolve [] alt).RecognizesPlan env src plan
  | .finish output, _, alt => by
      rw [Plan.parser]
      intro cur r cur' hrun
      cases hrun
      refine ⟨rfl, fun o => ⟨?_, ?_⟩⟩
      · intro hplan
        cases hplan
        rfl
      · rintro rfl
        exact .finish
  | .abandon f, _, alt => by
      rw [Plan.parser]
      intro cur r cur' hrun
      cases hrun
  | .step first resume, hfree, alt => by
      rw [Plan.parser_step]
      refine (first.recognizes hresolve (hfree _ (.now resume))).step ?_ alt
      intro output alt'
      exact (resume output).recognizes hresolve
        (fun g hruns => hfree g (.later first output hruns)) alt'

end

namespace Environment

/-- References are recognized, however deep they are followed. -/
theorem resolve_recognizes
    (bound : Nat)
    (target : Ref)
    (hfree : ∀ g, env.lookup target = .ok g → env.Within Grammar.IsRecoveryFree g) :
    (env.resolve bound target).Recognizes env src (.ref target) := by
  induction bound generalizing target with
  | zero =>
      intro cur r cur' hrun
      rw [resolve] at hrun
      cases hrun
  | succ bound ih =>
      intro cur r cur' hrun
      rw [resolve] at hrun
      cases hlookup : env.lookup target with
      | error f =>
          rw [hlookup] at hrun
          cases hrun
      | ok g =>
          rw [hlookup] at hrun
          obtain ⟨hrecovered, hanswer⟩ := g.recognizes ih (hfree g hlookup) cur r cur' hrun
          refine ⟨hrecovered, fun o => ⟨?_, ?_⟩⟩
          · intro hpeg
            cases hpeg with
            | ref hlookup' hg =>
                rw [hlookup] at hlookup'
                cases hlookup'
                exact (hanswer o).1 hg
          · intro ho
            exact .ref hlookup ((hanswer o).2 ho)

/-- **Runs are matches.**  A run of a grammar that is free of recovery, if it returns, recovers
from nothing, and whether it succeeds, with which output, and up to where, is what the rules of
parsing expressions give for the grammar at the place where the run started. -/
theorem parser_iff_peg
    (g : Grammar)
    (src : Source)
    (cur : Cursor)
    {r : Result}
    {cur' : Cursor}
    (hfree : env.Within Grammar.IsRecoveryFree g)
    (hrun : env.parser g src cur = .done r cur') :
    r.recovered = [] ∧ ∀ o, Peg env src g cur.offset o ↔ o = r.matched cur'.offset :=
  g.recognizes (env.resolve_recognizes _) hfree cur r cur' hrun

/-- A rule that matches as many ones as there are by referring to itself. -/
theorem parser_iff_peg_of_recursion :
    let rule : Grammar := .ref (.cell 0)
    let body : Grammar := .optional (.andThen (.just .simple (.int 1)) rule)
    let env : Environment := ⟨{}, ⟨[⟨some body⟩]⟩⟩
    let one : Value × Span := (.int 1, .single 0 .null)
    let src : Source := ⟨#[one, one, (.int 2, .single 2 .null)], .single 3 .null⟩
    ∃ r cur', env.parser rule src {} = .done r cur' ∧ r.recovered = [] ∧
      Peg env src rule 0
        (some (.tuple [.int 1, .tuple [.int 1, .null]], 2)) := by
  intro rule body env one src
  have hfree : env.Within Grammar.IsRecoveryFree rule := by
    refine .of_closed
      (fun h => h = rule ∨ h = body ∨ h = .andThen (.just .simple (.int 1)) rule ∨
        h = .just .simple (.int 1))
      (Or.inl rfl) ?_ ?_
    · rintro h (rfl | rfl | rfl | rfl)
      · trivial
      · trivial
      · trivial
      · trivial
    · rintro h part (rfl | rfl | rfl | rfl) hpart
      · cases hpart
        exact Or.inr (Or.inl rfl)
      · cases hpart
        exact Or.inr (Or.inr (Or.inl rfl))
      · rcases hpart with rfl | rfl
        · exact Or.inr (Or.inr (Or.inr rfl))
        · exact Or.inl rfl
      · exact hpart.elim
  obtain ⟨hrecovered, hanswer⟩ := env.parser_iff_peg rule src {} hfree rfl
  exact ⟨_, _, rfl, hrecovered, (hanswer _).2 rfl⟩

end Environment
end Runs
end Resync
