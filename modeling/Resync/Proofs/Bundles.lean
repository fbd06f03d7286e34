import Resync.Proofs.Run

/-!
# Bundles of runs

A bundle of scans depends on a parameter, but only through some parsers that it calls.  From one
cursor its members go on as one, until they call.  So they either all end in the same way, or there
is a first call, and whatever is halted there is halted.

Every combinator keeps this of its parts.  Nothing else can tell the members apart, so the rules
follow the binds of the combinators.
-/

namespace Resync
namespace Bundle

section Definitions

variable {ι α : Type} (Calls : (ι → Outcome Result) → Prop)

/-- How the members of a bundle end: all in the same way, or there is a call that halts each of them
that it is halted in. -/
inductive Ends (o : ι → Outcome α) : Prop
  | alike (o' : Outcome α) (hends : ∀ s, o s = o')
  | called
      (call : ι → Outcome Result)
      (hcalls : Calls call)
      (hhalts : ∀ s cause cur, call s = .halted cause cur → o s = .halted cause cur)

/-- Whether the members of a bundle differ in nothing but what they call. -/
def Scans (src : Source) (x : ι → Scan α) : Prop := ∀ cur, Ends Calls fun s => x s src cur

end Definitions

variable {ι α β : Type} {Calls : (ι → Outcome Result) → Prop} {src : Source}

namespace Scans

section Rules

variable {x : ι → Scan α} {f : ι → α → Scan β}

theorem const (x : Scan α) : Scans Calls src fun _ => x :=
  fun cur => .alike (x src cur) fun _ => rfl

theorem bind
    (hx : Scans Calls src x)
    (hf : ∀ a, Scans Calls src fun s => f s a) :
    Scans Calls src fun s => x s >>= f s := by
  intro cur
  simp only [Scan.bind_apply]
  cases hx cur with
  | alike o hends =>
      simp only [hends]
      cases o with
      | done a cur' => exact hf a cur'
      | halted cause cur' => exact .alike _ fun _ => rfl
  | called call hcalls hhalts =>
      refine .called call hcalls fun s cause cur' hcall => ?_
      rw [hhalts s cause cur' hcall]

end Rules

variable {p q : ι → Parser}

theorem tryParse (hp : Scans Calls src p) : Scans Calls src fun s => Scan.tryParse (p s) :=
  (const Scan.save).bind fun _ => hp.bind fun _ => const _

section Outputs

variable (hp : Scans Calls src p)
include hp

theorem map (f : Value → Except Fault Value) : Scans Calls src fun s => Parser.map f (p s) :=
  hp.bind fun _ => const _

theorem mapWithSpan (f : Value → Span → Except Fault Value) :
    Scans Calls src fun s => Parser.mapWithSpan f (p s) :=
  (const Scan.save).bind fun _ => hp.bind fun _ => const _

theorem tryMap (f : Value → Span → Except Fault Verdict) :
    Scans Calls src fun s => Parser.tryMap f (p s) :=
  (const Scan.save).bind fun _ => hp.bind fun _ => const _

theorem mapError (f : Diagnostic → Diagnostic) :
    Scans Calls src fun s => Parser.mapError f (p s) :=
  hp.bind fun _ => const _

theorem labelled (label : String) : Scans Calls src fun s => Parser.labelled label (p s) :=
  (const Scan.save).bind fun _ => hp.bind fun _ => const _

theorem optional : Scans Calls src fun s => Parser.optional (p s) :=
  hp.tryParse.bind fun _ => const _

end Outputs

section Sequences

theorem andThen (hp : Scans Calls src p) (hq : Scans Calls src q) :
    Scans Calls src fun s => Parser.andThen (p s) (q s) := by
  refine hp.bind fun r => ?_
  cases r with
  | failure recovered error => exact const _
  | success recovered output alt => exact hq.bind fun _ => const _

theorem orElse (hp : Scans Calls src p) (hq : Scans Calls src q) :
    Scans Calls src fun s => Parser.orElse (p s) (q s) := by
  refine (const Scan.save).bind fun before => hp.bind fun left => ?_
  by_cases hclean : left.isClean = true
  · simp only [if_pos hclean]
    exact const _
  · simp only [if_neg hclean]
    exact (const Scan.save).bind fun _ => (const (Scan.revert before)).bind fun _ =>
      hq.bind fun _ => const _

theorem step
    {k : ι → Value → List Located → Option Located → Parser}
    (hp : Scans Calls src p)
    (hk : ∀ output recovered alt, Scans Calls src fun s => k s output recovered alt)
    (recovered : List Located)
    (alt : Option Located) :
    Scans Calls src fun s => Parser.step (p s) (k s) recovered alt := by
  refine hp.bind fun r => ?_
  cases r with
  | failure recovered' error => exact const _
  | success recovered' output alt' =>
      exact (const (Scan.mergeAlts alt alt')).bind fun _ => hk _ _ _

end Sequences

section Repetitions

variable (minimum : Nat)

theorem repeatedFrom
    (hp : Scans Calls src p)
    (maximum : Option Nat)
    (bound : Nat)
    (recovered : List Located)
    (outputs : List Value)
    (alt : Option Located) :
    Scans Calls src fun s =>
      Parser.repeatedFrom (p s) minimum maximum bound recovered outputs alt := by
  induction bound generalizing recovered outputs alt with
  | zero => exact const _
  | succ bound ih =>
      unfold Parser.repeatedFrom
      by_cases hfull : maximum.any (· ≤ outputs.length) = true
      · simp only [if_pos hfull]
        exact const _
      · simp only [if_neg hfull]
        refine (const Scan.save).bind fun before => hp.bind fun r => ?_
        cases r with
        | failure recovered' error => exact const _
        | success recovered' output alt' =>
            refine (const (Scan.mergeAlts alt alt')).bind fun alt'' =>
              (const Scan.save).bind fun stop => ?_
            by_cases hstall : minimum ≤ outputs.length ∧ stop = before
            · simp only [if_pos hstall]
              exact const _
            · simp only [if_neg hstall]
              exact ih _ _ _

theorem repeated (hp : Scans Calls src p) (maximum : Option Nat) :
    Scans Calls src fun s => Parser.repeated (p s) minimum maximum :=
  (const (Parser.rounds minimum)).bind fun _ => hp.repeatedFrom _ _ _ _ _ _

theorem separatedFrom
    (hp : Scans Calls src p)
    (hq : Scans Calls src q)
    (trailing : Bool)
    (bound : Nat)
    (recovered : List Located)
    (outputs : List Value)
    (alt : Option Located) :
    Scans Calls src fun s =>
      Parser.separatedFrom (p s) (q s) minimum trailing bound recovered outputs alt := by
  induction bound generalizing recovered outputs alt with
  | zero => exact const _
  | succ bound ih =>
      unfold Parser.separatedFrom
      refine (const Scan.save).bind fun before => hq.bind fun r => ?_
      cases r with
      | failure recoveredSep error => exact const _
      | success recoveredSep outputSep altSep =>
          refine (const Scan.save).bind fun afterSeparator => hp.bind fun r => ?_
          cases r with
          | failure recoveredItem error => exact const _
          | success recoveredItem output altItem =>
              refine (const (Scan.mergeAlts altSep altItem)).bind fun reached =>
                (const (Scan.mergeAlts alt reached)).bind fun alt' =>
                  (const Scan.save).bind fun stop => ?_
              by_cases hstall : minimum ≤ outputs.length ∧ stop = before
              · simp only [if_pos hstall]
                exact const _
              · simp only [if_neg hstall]
                exact ih _ _ _

theorem leadingSeparator (hq : Scans Calls src q) (allowed : Bool) :
    Scans Calls src fun s => Parser.leadingSeparator (q s) allowed := by
  cases allowed with
  | false => exact const _
  | true => exact hq.tryParse.bind fun _ => const _

theorem separatedBy
    (hp : Scans Calls src p)
    (hq : Scans Calls src q)
    (leading trailing : Bool) :
    Scans Calls src fun s => Parser.separatedBy (p s) (q s) minimum leading trailing := by
  refine (hq.leadingSeparator leading).bind fun first => hp.tryParse.bind fun r => ?_
  cases r with
  | failure recovered error => exact const _
  | success recovered output alt =>
      exact (const (Scan.mergeAlts first.2 alt)).bind fun _ =>
        (const (Parser.rounds minimum)).bind fun _ => separatedFrom minimum hp hq _ _ _ _ _

end Repetitions

section Recoveries

variable {recovered : List Located} {fatal : Located}

theorem skipAndRetry
    (hp : Scans Calls src p)
    (sentinels : List Value)
    (remaining skipped : Nat) :
    Scans Calls src fun s =>
      Strategy.skipAndRetry (p s) sentinels recovered fatal remaining skipped := by
  induction remaining generalizing skipped with
  | zero =>
      unfold Strategy.skipAndRetry
      exact (const Scan.peek).bind fun _ => const _
  | succ remaining ih =>
      unfold Strategy.skipAndRetry
      refine (const Scan.peek).bind fun seen => ?_
      by_cases hstop : seen.token = .null ∨ seen.token ∈ sentinels
      · simp only [if_pos hstop]
        exact const _
      · simp only [if_neg hstop]
        refine (const (Scan.revert (seen.position + 1))).bind fun _ =>
          hp.tryParse.bind fun r => ?_
        cases r with
        | success recovered' output alt => exact const _
        | failure recovered' error => exact ih (skipped + 1)

theorem recoverWith (hp : Scans Calls src p) (strategy : Strategy) :
    Scans Calls src fun s => (p s).recoverWith strategy := by
  refine hp.tryParse.bind fun r => ?_
  cases r with
  | success recovered output alt => exact const _
  | failure recovered error =>
      refine (const (Scan.report (.recovering error strategy))).bind fun _ => ?_
      cases strategy with
      | skipThenRetry sentinels =>
          exact (const Scan.source).bind fun src' => (const Scan.save).bind fun start =>
            hp.skipAndRetry sentinels _ _
      | nestedDelimiters opening closing others default => exact const _
      | defaultOutput value => exact const _

end Recoveries

section Grammars

variable {resolve : ι → Ref → Parser}

mutual

/-- The runs of a grammar differ in nothing but calls if its references do not. -/
theorem grammar (hresolve : ∀ target, Scans Calls src fun s => resolve s target) :
    ∀ g : Grammar, Scans Calls src fun s => g.parser (resolve s)
  | .satisfy _ _ _ | .seq _ _ | .filterMap _ _ | .endOfInput _ | .empty | .scripted _ _ _ => by
      simp only [Grammar.parser]
      exact const _
  | .map f of => by
      simp only [Grammar.parser]
      exact (grammar hresolve of).map f
  | .mapWithSpan f of => by
      simp only [Grammar.parser]
      exact (grammar hresolve of).mapWithSpan f
  | .tryMap f of => by
      simp only [Grammar.parser]
      exact (grammar hresolve of).tryMap f
  | .mapError f of => by
      simp only [Grammar.parser]
      exact (grammar hresolve of).mapError f
  | .labelled label of => by
      simp only [Grammar.parser]
      exact (grammar hresolve of).labelled label
  | .andThen first second => by
      simp only [Grammar.parser]
      exact (grammar hresolve first).andThen (grammar hresolve second)
  | .orElse left right => by
      simp only [Grammar.parser]
      exact (grammar hresolve left).orElse (grammar hresolve right)
  | .optional of => by
      simp only [Grammar.parser]
      exact (grammar hresolve of).optional
  | .recoverWith of strategy => by
      simp only [Grammar.parser]
      exact (grammar hresolve of).recoverWith strategy
  | .repeated of minimum maximum => by
      simp only [Grammar.parser]
      exact (grammar hresolve of).repeated minimum maximum
  | .separatedBy item separator minimum leading trailing => by
      simp only [Grammar.parser]
      exact (grammar hresolve item).separatedBy minimum (grammar hresolve separator)
        leading trailing
  | .generate plan => by
      simp only [Grammar.parser]
      exact Scans.plan hresolve plan [] none
  | .ref target => by
      simp only [Grammar.parser]
      exact hresolve target

theorem plan (hresolve : ∀ target, Scans Calls src fun s => resolve s target) :
    ∀ (plan : Plan) (recovered : List Located) (alt : Option Located),
      Scans Calls src fun s => plan.parser (resolve s) recovered alt
  | .finish output, recovered, alt => by
      simp only [Plan.parser]
      exact const _
  | .abandon f, recovered, alt => by
      simp only [Plan.parser]
      exact const _
  | .step first resume, recovered, alt => by
      simp only [Plan.parser_step]
      exact (grammar hresolve first).step
        (fun output recovered' alt' => Scans.plan hresolve (resume output) recovered' alt')
        recovered alt

end

end Grammars

end Scans
end Bundle
end Resync
