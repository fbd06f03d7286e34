import Resync.Proofs.Furthest
import Resync.Proofs.Instrumented
import Resync.Proofs.Reach

/-!
# The furthest failure

Where choices are abandoned and repetitions end, failures are passed over, and what they expected
may still be what the input lacks.  A result therefore carries one diagnostic beside those that
were recovered from: the failure itself, or the alternative of a success.

To say what that diagnostic is, the primitives of a grammar are made to note their failures on the
trail, which nothing reads.  The diagnostic then sums up all failures that were noted: it lies at
the furthest of their positions, and expects just what the failures there expected
(`furthest_failure`).  A label replaces what is expected, so it keeps only the position.
-/

namespace Resync

/-- Whether a diagnostic says that a pattern was expected. -/
def Diagnostic.Expects : Diagnostic → Value → Prop
  | .detailed _ d, v => v ∈ d.expected
  | .terse _, _ => False

/-- Whether a diagnostic keeps its contents. -/
def Diagnostic.IsDetailed : Diagnostic → Prop
  | .detailed _ _ => True
  | .terse _ => False

/-- Diagnostics merged into a detailed one leave it detailed, and add what they expect. -/
theorem Diagnostic.merge_isDetailed
    {a b c : Diagnostic}
    (ha : a.IsDetailed)
    (h : a.merge b = .ok c) :
    c.IsDetailed ∧ ∀ v, c.Expects v ↔ a.Expects v ∨ b.Expects v := by
  cases a with
  | terse text => exact ha.elim
  | detailed family d =>
      cases b with
      | terse text => cases h
      | detailed family' d' =>
          cases h
          exact ⟨trivial, fun v => PatternSet.mem_union⟩

/-- What was expected is kept in a detailed dialect. -/
theorem Dialect.expecting_isDetailed
    {family : Family}
    {span : Span}
    {expected : List Value}
    {found : Value}
    {error : Diagnostic}
    (h : (Dialect.detailed family).expecting span expected found = .ok error) :
    error.IsDetailed := by
  obtain ⟨patterns, -, hreturn⟩ := bind_eq_ok.1 h
  cases hreturn
  trivial

namespace Located

/-- Whether a diagnostic expects what is expected by those of some failures that lie where it
does. -/
def Gathers (d : Located) (failures : List Located) : Prop :=
  ∀ v, d.error.Expects v ↔ ∃ e ∈ failures, e.position = d.position ∧ e.error.Expects v

end Located

/-- What a diagnostic that may be missing says about some failures: there are none if it is
missing, and otherwise it lies where the furthest of them do and, if it is to be exact, expects
just what these do. -/
def SumsUp (exact : Bool) (failures : List Located) : Option Located → Prop
  | none => failures = []
  | some d =>
      d.error.IsDetailed ∧ d.IsFurthestOf failures ∧ (exact = true → d.Gathers failures)

namespace SumsUp

variable {exact : Bool} {F G : List Located} {a c : Located} {l m n : Option Located}

theorem nil : SumsUp exact [] none := rfl

theorem eq_none (h : SumsUp exact [] l) : l = none := by
  cases l with
  | none => rfl
  | some d =>
      obtain ⟨-, ⟨⟨e, he, -⟩, -⟩, -⟩ := h
      cases he

theorem exists_some
    (h : SumsUp exact F l)
    (hF : F ≠ []) :
    ∃ d, l = some d ∧ d.IsFurthestOf F ∧ (exact = true → d.Gathers F) := by
  cases l with
  | none => exact absurd h hF
  | some d => exact ⟨d, rfl, h.2⟩

theorem singleton (ha : a.error.IsDetailed) : SumsUp exact [a] (some a) := by
  refine ⟨ha, ⟨⟨a, List.mem_singleton_self a, rfl⟩, ?_⟩, ?_⟩
  · intro e he
    exact Nat.le_of_eq (congrArg Located.position (List.mem_singleton.1 he))
  · intro _ v
    constructor
    · intro hv
      exact ⟨a, List.mem_singleton_self a, rfl, hv⟩
    · rintro ⟨e, he, -, hv⟩
      rwa [List.mem_singleton.1 he] at hv

/-- The order of the failures is of no importance. -/
theorem comm (h : SumsUp exact (F ++ G) l) : SumsUp exact (G ++ F) l := by
  cases l with
  | none =>
      obtain ⟨hF, hG⟩ := List.append_eq_nil_iff.1 h
      exact List.append_eq_nil_iff.2 ⟨hG, hF⟩
  | some d =>
      have hmem (e : Located) : e ∈ F ++ G ↔ e ∈ G ++ F := List.perm_append_comm.mem_iff
      obtain ⟨hdetailed, ⟨⟨e, he, hposition⟩, hmax⟩, hexact⟩ := h
      refine ⟨hdetailed, ⟨⟨e, (hmem e).1 he, hposition⟩, ?_⟩, ?_⟩
      · intro e' he'
        exact hmax e' ((hmem e').2 he')
      · intro hx v
        simp only [hexact hx v, hmem]

/-- Failures that lie before the furthest one change nothing. -/
theorem append_before
    (ha : SumsUp exact F (some a))
    (hbefore : ∀ e ∈ G, e.position < a.position) :
    SumsUp exact (F ++ G) (some a) := by
  obtain ⟨hdetailed, ⟨⟨e, he, hposition⟩, hmax⟩, hexact⟩ := ha
  refine ⟨hdetailed, ⟨⟨e, List.mem_append_left _ he, hposition⟩, ?_⟩, ?_⟩
  · intro e' he'
    rcases List.mem_append.1 he' with he' | he'
    · exact hmax e' he'
    · exact Nat.le_of_lt (hbefore e' he')
  · intro hx v
    rw [hexact hx v]
    constructor
    · rintro ⟨e', he', hat, hexpects⟩
      exact ⟨e', List.mem_append_left _ he', hat, hexpects⟩
    · rintro ⟨e', he', hat, hexpects⟩
      rcases List.mem_append.1 he' with he' | he'
      · exact ⟨e', he', hat, hexpects⟩
      · have hlt := hbefore e' he'
        omega

/-- Two diagnostics at one position are merged. -/
theorem merge
    {b : Located}
    {error : Diagnostic}
    (ha : SumsUp exact F (some a))
    (hb : SumsUp exact G (some b))
    (hat : a.position = b.position)
    (h : a.error.merge b.error = .ok error) :
    SumsUp exact (F ++ G) (some ⟨a.position, error⟩) := by
  obtain ⟨hdetailed, ⟨⟨e, he, hposition⟩, hmax⟩, hexact⟩ := ha
  obtain ⟨-, ⟨-, hmax'⟩, hexact'⟩ := hb
  obtain ⟨hmerged, hexpects⟩ := Diagnostic.merge_isDetailed hdetailed h
  refine ⟨hmerged, ⟨⟨e, List.mem_append_left _ he, hposition⟩, ?_⟩, ?_⟩
  · intro e' he'
    rcases List.mem_append.1 he' with he' | he'
    · exact hmax e' he'
    · have hle := hmax' e' he'
      simp only
      omega
  · intro hx v
    rw [hexpects v, hexact hx v, hexact' hx v, ← hat]
    constructor
    · rintro (⟨e', he', hv⟩ | ⟨e', he', hv⟩)
      · exact ⟨e', List.mem_append_left _ he', hv⟩
      · exact ⟨e', List.mem_append_right _ he', hv⟩
    · rintro ⟨e', he', hv⟩
      rcases List.mem_append.1 he' with he' | he'
      · exact Or.inl ⟨e', he', hv⟩
      · exact Or.inr ⟨e', he', hv⟩

/-- Of two diagnostics the one that got further sums up the failures of both. -/
theorem max
    (ha : SumsUp exact F (some a))
    (hm : SumsUp exact G m)
    (h : a.max m = .ok c) :
    SumsUp exact (F ++ G) (some c) := by
  cases m with
  | none =>
      cases h
      rw [show G = [] from hm, List.append_nil]
      exact ha
  | some b =>
      rcases Located.max_some_eq_ok h with ⟨hlt, rfl⟩ | ⟨hlt, rfl⟩ | ⟨heq, error, hmerge, rfl⟩
      · refine ha.append_before fun e he => ?_
        have hle := hm.2.1.2 e he
        omega
      · refine (hm.append_before fun e he => ?_).comm
        have hle := ha.2.1.2 e he
        omega
      · exact ha.merge hm heq hmerge

/-- The same where either of the two may be missing. -/
theorem mergeAlts
    (hl : SumsUp exact F l)
    (hm : SumsUp exact G m)
    (h : Located.mergeAlts l m = .ok n) :
    SumsUp exact (F ++ G) n := by
  cases l with
  | none =>
      rw [Located.mergeAlts_none_left] at h
      cases h
      rw [show F = [] from hl, List.nil_append]
      exact hm
  | some a =>
      cases m with
      | none =>
          cases h
          exact hl.max hm rfl
      | some b =>
          rw [Located.mergeAlts_some] at h
          obtain ⟨c, hmax, rfl⟩ := map_eq_ok.1 h
          exact hl.max hm hmax

/-- A label keeps the position. -/
theorem relabel
    (h : SumsUp false F l)
    (label : String)
    (start : Nat) :
    SumsUp false F (l.map (Parser.relabel label start)) := by
  cases l with
  | none => exact h
  | some d =>
      obtain ⟨hdetailed, hfurthest, -⟩ := h
      have hposition : (Parser.relabel label start d).position = d.position := by
        unfold Parser.relabel
        split
        · rfl
        · rfl
      refine ⟨?_, ?_, fun hx => nomatch hx⟩
      · unfold Parser.relabel
        split
        · exact hdetailed
        · obtain ⟨position, error⟩ := d
          cases error with
          | detailed family d => trivial
          | terse text => exact hdetailed.elim
      · unfold Located.IsFurthestOf
        rw [hposition]
        exact hfurthest

end SumsUp

section Noting

/-- The failure that an event tells of. -/
def Event.failure? : Event → Option Located
  | .recovering failure _ => some failure
  | .skipped _ _ | .skippedInVain _ _ | .groupSkipped _ | .groupNotFound _ => none
  | .repetitionStalled _ | .separationStalled _ | .rejected _ => none

/-- The failures that were reported, the latest first. -/
def Cursor.failures (cur : Cursor) : List Located := cur.trail.filterMap Event.failure?

@[simp] theorem Cursor.moved_failures (cur : Cursor) (i : Nat) :
    (cur.moved i).failures = cur.failures := rfl

/-- A parser that also reports its failure, in the only kind of event that tells of one. -/
def Parser.noting (p : Parser) : Parser := do
  match ← p with
  | .success recovered output alt => return .success recovered output alt
  | .failure recovered error =>
      Scan.report (.recovering error (.skipThenRetry []))
      return .failure recovered error

/-- Whether a grammar looks at the source by itself and runs no other grammar. -/
def Grammar.isPrimitive : Grammar → Bool
  | .satisfy _ _ _ | .seq _ _ | .filterMap _ _ | .endOfInput _ | .empty => true
  | _ => false

/-- A parser that also reports its failure if it is that of a primitive grammar. -/
def Grammar.noting (g : Grammar) (p : Parser) : Parser := if g.isPrimitive then p.noting else p

namespace Environment

/-- The parser that a grammar describes, if every primitive also reports its failures. -/
def noting (env : Environment) (g : Grammar) : Parser := env.parserWith Grammar.noting g

/-- All failures of primitives during a run, the latest first. -/
def failures (env : Environment) (g : Grammar) (src : Source) (cur : Cursor) : List Located :=
  match env.noting g src { cur with trail := [] } with
  | .done _ cur' => cur'.failures
  | .halted _ cur' => cur'.failures

end Environment

theorem Parser.noting_done
    {p : Parser}
    {src : Source}
    {cur cur' : Cursor}
    {r : Result}
    (h : p.noting src cur = .done r cur') :
    (∃ recovered output alt,
        p src cur = .done (.success recovered output alt) cur' ∧
        r = .success recovered output alt) ∨
      (∃ recovered error mid,
        p src cur = .done (.failure recovered error) mid ∧
        r = .failure recovered error ∧
        cur'.failures = error :: mid.failures) := by
  obtain ⟨result, mid, hp, hrest⟩ := Scan.bind_eq_done.1 h
  cases result with
  | success recovered output alt =>
      obtain ⟨rfl, rfl⟩ := Scan.pure_eq_done.1 hrest
      exact Or.inl ⟨recovered, output, alt, hp, rfl⟩
  | failure recovered error =>
      obtain ⟨u, stop, hreport, hreturn⟩ := Scan.bind_eq_done.1 hrest
      cases hreport
      obtain ⟨rfl, rfl⟩ := Scan.pure_eq_done.1 hreturn
      exact Or.inr ⟨recovered, error, mid, hp, rfl, rfl⟩

/-- Reporting a failure is invisible. -/
theorem Parser.Agree.noting {p p' : Parser} (h : p.Agree p') : p.Agree p'.noting := by
  intro src c d hlevel
  have hends := h src c d hlevel
  unfold Parser.noting
  rw [Scan.bind_apply]
  generalize p src c = o at hends
  generalize p' src d = o' at hends
  cases hends with
  | success hlevel' => exact .success hlevel'
  | failure hbuffered => exact .failure hbuffered
  | halted hbuffered => exact .halted hbuffered

theorem Grammar.agree_noting
    (g : Grammar)
    (p p' : Parser)
    (h : p.Agree p') :
    p.Agree (g.noting p') := by
  unfold Grammar.noting
  split
  · exact h.noting
  · exact h

end Noting

namespace Parser

/-- Whether a parser never recovers, and the diagnostic it carries sums up what it reports. -/
def Accounts (exact : Bool) (src : Source) (p : Parser) : Prop :=
  ∀ cur r cur', p src cur = .done r cur' →
    ∃ F, cur'.failures = F ++ cur.failures ∧ r.recovered = [] ∧ SumsUp exact F r.furthest

/-- The same of a parser that goes on after some failures were reported. -/
def AccountsAfter
    (exact : Bool)
    (src : Source)
    (before : List Located)
    (p : Parser) :
    Prop :=
  ∀ cur r cur', p src cur = .done r cur' →
    ∃ F, cur'.failures = F ++ cur.failures ∧ r.recovered = [] ∧
      SumsUp exact (F ++ before) r.furthest

variable {exact : Bool} {src : Source} {p q : Parser}

theorem accountsAfter_nil : p.AccountsAfter exact src [] ↔ p.Accounts exact src := by
  simp only [AccountsAfter, Accounts, List.append_nil]

namespace Accounts

/-- A primitive accounts for its failure by noting it. -/
theorem primitive
    (family : Family)
    (hp : ∀ cur r cur', p src cur = .done r cur' →
      cur'.trail = cur.trail ∧
        ((∃ output, r = .success [] output none) ∨ r.Missed (.detailed family))) :
    p.noting.Accounts exact src := by
  intro cur r cur' h
  rcases noting_done h with
    ⟨recovered, output, alt, hrun, rfl⟩ | ⟨recovered, error, mid, hrun, rfl, hnoted⟩
  · obtain ⟨htrail, hends⟩ := hp _ _ _ hrun
    rcases hends with ⟨output', hr⟩ | ⟨i, span, expected, found, error, -, hr⟩
    · cases hr
      exact ⟨[], by simp only [Cursor.failures, htrail, List.nil_append], rfl, rfl⟩
    · cases hr
  · obtain ⟨htrail, hends⟩ := hp _ _ _ hrun
    rcases hends with ⟨output', hr⟩ | ⟨i, span, expected, found, error', hexpecting, hr⟩
    · cases hr
    · cases hr
      have hbefore : mid.failures = cur.failures := by rw [Cursor.failures, htrail]; rfl
      have hdetailed : error'.IsDetailed := Dialect.expecting_isDetailed hexpecting
      exact ⟨[_], by rw [hnoted, hbefore]; rfl, rfl, SumsUp.singleton hdetailed⟩

theorem map
    {f : Value → Except Fault Value}
    (hp : p.Accounts exact src) :
    (Parser.map f p).Accounts exact src := by
  intro cur r cur' h
  rcases map_done h with
    ⟨recovered, output, alt, output', hrun, -, rfl⟩ | ⟨recovered, error, hrun, rfl⟩
  · obtain ⟨F, hF, hrecovered, hsums⟩ := hp _ _ _ hrun
    exact ⟨F, hF, hrecovered, hsums⟩
  · exact hp _ _ _ hrun

theorem mapWithSpan
    {f : Value → Span → Except Fault Value}
    (hp : p.Accounts exact src) :
    (Parser.mapWithSpan f p).Accounts exact src := by
  intro cur r cur' h
  rcases mapWithSpan_done h with
    ⟨recovered, output, alt, mid, span, output', hrun, -, -, rfl, -, htrail⟩ |
    ⟨recovered, error, hrun, rfl⟩
  · obtain ⟨F, hF, hrecovered, hsums⟩ := hp _ _ _ hrun
    exact ⟨F, by rw [Cursor.failures, htrail]; exact hF, hrecovered, hsums⟩
  · exact hp _ _ _ hrun

theorem labelled
    (hp : p.Accounts exact src)
    (hexact : exact = false)
    (label : String) :
    (Parser.labelled label p).Accounts exact src := by
  subst hexact
  intro cur r cur' h
  rcases labelled_done h with
    ⟨recovered, output, alt, hrun, rfl⟩ | ⟨recovered, error, hrun, rfl⟩
  · obtain ⟨F, hF, hrecovered, hsums⟩ := hp _ _ _ hrun
    exact ⟨F, hF, hrecovered, hsums.relabel label _⟩
  · obtain ⟨F, hF, hrecovered, hsums⟩ := hp _ _ _ hrun
    exact ⟨F, hF, hrecovered, hsums.relabel label _⟩

theorem andThen
    (hp : p.Accounts exact src)
    (hq : q.Accounts exact src) :
    (Parser.andThen p q).Accounts exact src := by
  intro cur r cur' h
  rcases andThen_done h with
    ⟨recovered, error, hrun, rfl⟩ | ⟨recovered, output, alt, mid, hrun, hsecond⟩
  · exact hp _ _ _ hrun
  · obtain ⟨F, hF, hrecovered, hsums⟩ := hp _ _ _ hrun
    obtain rfl : recovered = [] := hrecovered
    rcases hsecond with
      ⟨recovered', output', alt', alt'', hrun', hmerge, rfl⟩ |
      ⟨recovered', error, error', hrun', hmax, rfl⟩
    · obtain ⟨G, hG, hrecovered', hsums'⟩ := hq _ _ _ hrun'
      refine ⟨G ++ F, ?_, hrecovered', (hsums.mergeAlts hsums' hmerge).comm⟩
      rw [hG, hF, List.append_assoc]
    · obtain ⟨G, hG, hrecovered', hsums'⟩ := hq _ _ _ hrun'
      refine ⟨G ++ F, ?_, hrecovered', hsums'.max hsums hmax⟩
      rw [hG, hF, List.append_assoc]

theorem optional (hp : p.Accounts exact src) : (Parser.optional p).Accounts exact src := by
  intro cur r cur' h
  rcases optional_done h with
    ⟨recovered, output, alt, hrun, rfl⟩ | ⟨recovered, error, mid, hrun, rfl, rfl⟩
  · exact hp _ _ _ hrun
  · obtain ⟨F, hF, -, hsums⟩ := hp _ _ _ hrun
    exact ⟨F, hF, rfl, hsums⟩

/-- The failures of both sides are summed up, unless the first is a clean success. -/
theorem orElse
    (hp : p.Accounts exact src)
    (hq : q.Accounts exact src) :
    (Parser.orElse p q).Accounts exact src := by
  intro cur r cur' h
  rcases orElse_done h with
    ⟨hrun, -⟩ | ⟨left, mid, right, stop, hrun, hclean, hrun', heither, rfl⟩
  · exact hp _ _ _ hrun
  · obtain ⟨F, hF, hrecovered, hsums⟩ := hp _ _ _ hrun
    obtain ⟨G, hG, hrecovered', hsums'⟩ := hq _ _ _ hrun'
    rw [Cursor.moved_failures, hF, ← List.append_assoc] at hG
    cases left with
    | success recovered output alt =>
        obtain rfl : recovered = [] := hrecovered
        cases hclean
    | failure recovered error =>
        obtain rfl : recovered = [] := hrecovered
        cases right with
        | success recovered' output' alt' =>
            obtain rfl : recovered' = [] := hrecovered'
            rw [Result.either_clean] at heither
            obtain ⟨alt'', hmerge, rfl⟩ := map_eq_ok.1 heither
            exact ⟨G ++ F, hG, rfl, hsums'.mergeAlts hsums hmerge⟩
        | failure recovered' error' =>
            obtain rfl : recovered' = [] := hrecovered'
            rw [Result.either_failures, ite_self] at heither
            obtain ⟨c, hmax, rfl⟩ := map_eq_ok.1 heither
            exact ⟨G ++ F, hG, rfl, (hsums.max hsums' hmax).comm⟩

/-- The rounds of a repetition that asks for one match at most.  Only in the first round can a
failure be the end of it all, and then there was none before. -/
theorem repeatedFrom
    {minimum : Nat}
    (hp : p.Accounts exact src)
    (hminimum : minimum ≤ 1)
    (maximum : Option Nat)
    (bound : Nat)
    (outputs : List Value)
    {before : List Located}
    {alt : Option Located}
    (hfirst : outputs.length < minimum → before = [])
    (hsums : SumsUp exact before alt) :
    (Parser.repeatedFrom p minimum maximum bound [] outputs alt).AccountsAfter exact src
      before := by
  induction bound generalizing outputs before alt with
  | zero =>
      intro cur r cur' h
      unfold Parser.repeatedFrom at h
      cases h
  | succ bound ih =>
      intro cur r cur' h
      rcases repeatedFrom_done h with
        ⟨-, rfl, rfl⟩ |
        ⟨-, ⟨recovered', output, alt', alt'', mid, hrun, hmerge, hround⟩ |
          ⟨recovered', error, hshort, hrun, rfl⟩ |
          ⟨recovered', error, reached, alt', mid, -, hrun, hreached, hmerge, rfl, rfl⟩⟩
      · exact ⟨[], rfl, rfl, hsums⟩
      · obtain ⟨F, hF, hrecovered, hsums'⟩ := hp _ _ _ hrun
        obtain rfl : recovered' = [] := hrecovered
        have hboth : SumsUp exact (F ++ before) alt'' := (hsums.mergeAlts hsums' hmerge).comm
        rcases hround with ⟨-, -, rfl, rfl⟩ | ⟨-, hrest⟩
        · exact ⟨F, hF, rfl, hboth⟩
        · have hlater : (outputs ++ [output]).length < minimum → F ++ before = [] := by
            intro hlt
            rw [List.length_append, List.length_singleton] at hlt
            omega
          obtain ⟨G, hG, hrecovered', hends⟩ := ih (outputs ++ [output]) hlater hboth _ _ _ hrest
          refine ⟨G ++ F, ?_, hrecovered', ?_⟩
          · rw [hG, hF, List.append_assoc]
          · rw [List.append_assoc]
            exact hends
      · obtain ⟨F, hF, hrecovered, hsums'⟩ := hp _ _ _ hrun
        refine ⟨F, hF, hrecovered, ?_⟩
        -- The failure forgets the alternative so far, so there must be nothing to forget.
        rw [hfirst hshort, List.append_nil]
        exact hsums'
      · obtain ⟨F, hF, hrecovered, hsums'⟩ := hp _ _ _ hrun
        obtain rfl : recovered' = [] := hrecovered
        cases hreached
        exact ⟨F, hF, rfl, (hsums.mergeAlts hsums' hmerge).comm⟩

theorem repeated
    {minimum : Nat}
    {maximum : Option Nat}
    (hp : p.Accounts exact src)
    (hminimum : minimum ≤ 1) :
    (Parser.repeated p minimum maximum).Accounts exact src := by
  intro cur r cur' h
  obtain ⟨bound, hrounds⟩ := repeated_done h
  have hafter := hp.repeatedFrom hminimum maximum bound [] (fun _ => rfl) SumsUp.nil
  exact accountsAfter_nil.1 hafter _ _ _ hrounds

/-- A step of a plan, which accounts for the steps before as well. -/
theorem step
    {k : Value → List Located → Option Located → Parser}
    {before : List Located}
    {alt : Option Located}
    (hp : p.Accounts exact src)
    (hk : ∀ output failures alt',
      SumsUp exact failures alt' → (k output [] alt').AccountsAfter exact src failures)
    (hsums : SumsUp exact before alt) :
    (Parser.step p k [] alt).AccountsAfter exact src before := by
  intro cur r cur' h
  rcases step_done h with
    ⟨recovered', error, error', hrun, hmax, rfl⟩ |
    ⟨recovered', output, alt', alt'', mid, hrun, hmerge, hrest⟩
  · obtain ⟨F, hF, hrecovered, hsums'⟩ := hp _ _ _ hrun
    exact ⟨F, hF, hrecovered, hsums'.max hsums hmax⟩
  · obtain ⟨F, hF, hrecovered, hsums'⟩ := hp _ _ _ hrun
    obtain rfl : recovered' = [] := hrecovered
    have hboth : SumsUp exact (F ++ before) alt'' := (hsums.mergeAlts hsums' hmerge).comm
    obtain ⟨G, hG, hrecovered', hends⟩ := hk output _ _ hboth _ _ _ hrest
    refine ⟨G ++ F, ?_, hrecovered', ?_⟩
    · rw [hG, hF, List.append_assoc]
    · rw [List.append_assoc]
      exact hends

end Accounts
end Parser

section Runs

/-- Whether a grammar by itself states what it expects in detail, recovers from nothing and drops
no failure; a label counts only where labels are allowed. -/
def Grammar.IsPlain (labels : Bool) : Grammar → Prop
  | .satisfy (.detailed _) _ _ | .seq (.detailed _) _ | .endOfInput (.detailed _) => True
  | .empty | .map _ _ | .mapWithSpan _ _ | .andThen _ _ | .orElse _ _ | .optional _ => True
  | .generate _ | .ref _ => True
  | .repeated _ minimum _ => minimum ≤ 1
  | .labelled _ _ => labels = true
  | _ => False

variable {env : Environment} {labels : Bool} {src : Source} {resolve : Ref → Parser}

mutual

/-- If what a plain grammar refers to accounts for its failures, then so does the grammar. -/
theorem Grammar.accounts
    (hresolve : ∀ target,
      (∀ g, env.lookup target = .ok g → env.Within (Grammar.IsPlain labels) g) →
        (resolve target).Accounts (!labels) src) :
    ∀ g : Grammar, env.Within (Grammar.IsPlain labels) g →
      (g.parserWith Grammar.noting resolve).Accounts (!labels) src
  | .satisfy dialect expected test, hplain => by
      rw [Grammar.parserWith]
      cases dialect with
      | terse => exact hplain.self.elim
      | detailed family =>
          refine Parser.Accounts.primitive family fun cur r cur' h => ?_
          obtain ⟨htrail, ⟨-, -, rfl, -⟩ | ⟨-, hmissed⟩⟩ := Parser.satisfy_done h
          · exact ⟨htrail, Or.inl ⟨_, rfl⟩⟩
          · exact ⟨htrail, Or.inr hmissed⟩
  | .seq dialect tokens, hplain => by
      rw [Grammar.parserWith]
      cases dialect with
      | terse => exact hplain.self.elim
      | detailed family =>
          refine Parser.Accounts.primitive family fun cur r cur' h => ?_
          obtain ⟨htrail, ⟨-, rfl, -⟩ | ⟨-, hmissed⟩⟩ := Parser.seqFrom_done h
          · exact ⟨htrail, Or.inl ⟨_, rfl⟩⟩
          · exact ⟨htrail, Or.inr hmissed⟩
  | .endOfInput dialect, hplain => by
      rw [Grammar.parserWith]
      cases dialect with
      | terse => exact hplain.self.elim
      | detailed family =>
          refine Parser.Accounts.primitive family fun cur r cur' h => ?_
          obtain ⟨htrail, ⟨-, rfl, -⟩ | ⟨-, hmissed⟩⟩ := Parser.endOfInput_done h
          · exact ⟨htrail, Or.inl ⟨_, rfl⟩⟩
          · exact ⟨htrail, Or.inr hmissed⟩
  | .empty, _ => by
      rw [Grammar.parserWith]
      refine Parser.Accounts.primitive .simple fun cur r cur' h => ?_
      cases h
      exact ⟨rfl, Or.inl ⟨_, rfl⟩⟩
  | .map f of, hplain => by
      rw [Grammar.parserWith]
      exact (of.accounts hresolve (hplain.part rfl)).map
  | .mapWithSpan f of, hplain => by
      rw [Grammar.parserWith]
      exact (of.accounts hresolve (hplain.part rfl)).mapWithSpan
  | .labelled label of, hplain => by
      rw [Grammar.parserWith]
      have hlabels : labels = true := hplain.self
      exact (of.accounts hresolve (hplain.part rfl)).labelled (by rw [hlabels]; rfl) label
  | .andThen first second, hplain => by
      rw [Grammar.parserWith]
      exact (first.accounts hresolve (hplain.part (Or.inl rfl))).andThen
        (second.accounts hresolve (hplain.part (Or.inr rfl)))
  | .orElse left right, hplain => by
      rw [Grammar.parserWith]
      exact (left.accounts hresolve (hplain.part (Or.inl rfl))).orElse
        (right.accounts hresolve (hplain.part (Or.inr rfl)))
  | .optional of, hplain => by
      rw [Grammar.parserWith]
      exact (of.accounts hresolve (hplain.part rfl)).optional
  | .repeated of minimum maximum, hplain => by
      rw [Grammar.parserWith]
      exact (of.accounts hresolve (hplain.part rfl)).repeated hplain.self
  | .generate plan, hplain => by
      rw [Grammar.parserWith]
      exact Parser.accountsAfter_nil.1
        (plan.accounts hresolve (fun h hruns => hplain.part hruns) SumsUp.nil)
  | .ref target, hplain => by
      rw [Grammar.parserWith]
      exact hresolve target fun g hlookup => hplain.part hlookup
  | .filterMap dialect f, hplain => hplain.self.elim
  | .scripted consume relative answer, hplain => hplain.self.elim
  | .tryMap f of, hplain => hplain.self.elim
  | .mapError f of, hplain => hplain.self.elim
  | .recoverWith of strategy, hplain => hplain.self.elim
  | .separatedBy item separator minimum leading trailing, hplain => hplain.self.elim

/-- The same of a plan, which accounts for the steps before as well. -/
theorem Plan.accounts
    (hresolve : ∀ target,
      (∀ g, env.lookup target = .ok g → env.Within (Grammar.IsPlain labels) g) →
        (resolve target).Accounts (!labels) src) :
    ∀ (plan : Plan), (∀ g, plan.Runs g → env.Within (Grammar.IsPlain labels) g) →
      ∀ {before : List Located} {alt : Option Located}, SumsUp (!labels) before alt →
        (plan.parserWith Grammar.noting resolve [] alt).AccountsAfter (!labels) src before
  | .finish output, _, before, alt, hsums => by
      rw [Plan.parserWith]
      intro cur r cur' h
      cases h
      exact ⟨[], rfl, rfl, hsums⟩
  | .abandon f, _, before, alt, _ => by
      rw [Plan.parserWith]
      intro cur r cur' h
      cases h
  | .step grammar resume, hplain, before, alt, hsums => by
      rw [Plan.parserWith]
      refine (grammar.accounts hresolve (hplain _ (.now resume))).step ?_ hsums
      intro output failures alt' hsums'
      exact (resume output).accounts hresolve
        (fun g hruns => hplain g (.later grammar output hruns)) hsums'

end

namespace Environment

/-- Plain references account for their failures, however deep they are followed. -/
theorem resolveWith_accounts
    (bound : Nat)
    (target : Ref)
    (hplain : ∀ g, env.lookup target = .ok g → env.Within (Grammar.IsPlain labels) g) :
    (env.resolveWith Grammar.noting bound target).Accounts (!labels) src := by
  induction bound generalizing target with
  | zero =>
      intro cur r cur' h
      rw [resolveWith] at h
      cases h
  | succ bound ih =>
      intro cur r cur' h
      rw [resolveWith] at h
      cases hlookup : env.lookup target with
      | error f =>
          rw [hlookup] at h
          cases h
      | ok g =>
          rw [hlookup] at h
          exact g.accounts ih (hplain g hlookup) cur r cur' h

/-- Noting failures changes no result. -/
theorem noting_eq_done
    {g : Grammar}
    {cur cur' : Cursor}
    {r : Result}
    (hrun : env.parser g src cur = .done r cur') :
    ∃ stop, env.noting g src { cur with trail := [] } = .done r stop := by
  have hends : (env.parser g src cur).Agree (env.noting g src { cur with trail := [] }) :=
    env.parser_agree_parserWith Grammar.agree_noting g src cur _ ⟨rfl, rfl⟩
  rw [hrun] at hends
  generalize env.noting g src { cur with trail := [] } = o at hends
  cases hends with
  | success => exact ⟨_, rfl⟩
  | failure => exact ⟨_, rfl⟩

/-- **The furthest failure.**  Take a plain grammar, and all failures of primitives during a run of
it that returns, those of abandoned branches and rounds included; noting them changes no result.
Without any, the run succeeds and there is no alternative.  Otherwise the result carries a
diagnostic at the furthest of their positions, and, if there are no labels, it expects just what
the failures there expected. -/
theorem furthest_failure
    (labels : Bool)
    (g : Grammar)
    (src : Source)
    (cur : Cursor)
    {r : Result}
    {cur' : Cursor}
    (hplain : env.Within (Grammar.IsPlain labels) g)
    (hrun : env.parser g src cur = .done r cur') :
    (∃ stop, env.noting g src { cur with trail := [] } = .done r stop) ∧
      (env.failures g src cur = [] → r.isSuccess = true ∧ r.alt = none) ∧
      (env.failures g src cur ≠ [] →
        ∃ d, r.furthest = some d ∧
          d.IsFurthestOf (env.failures g src cur) ∧
          (labels = false → d.Gathers (env.failures g src cur))) := by
  obtain ⟨stop, hnoting⟩ := noting_eq_done hrun
  refine ⟨⟨stop, hnoting⟩, ?_⟩
  have haccounts : (env.noting g).Accounts (!labels) src := by
    intro start r' stop' h
    exact g.accounts (env.resolveWith_accounts _) hplain start r' stop' h
  obtain ⟨F, hF, -, hsums⟩ := haccounts _ _ _ hnoting
  have hfailures : env.failures g src cur = F := by
    simp only [failures, hnoting, hF]
    exact List.append_nil F
  rw [hfailures]
  constructor
  · intro hnone
    have hfurthest : r.furthest = none := (hnone ▸ hsums).eq_none
    cases r with
    | success recovered output alt => exact ⟨rfl, hfurthest⟩
    | failure recovered error => cases hfurthest
  · intro hsome
    obtain ⟨d, hd, hfurthest, hgathers⟩ := hsums.exists_some hsome
    exact ⟨d, hd, hfurthest, fun hlabels => hgathers (by rw [hlabels]; rfl)⟩

/-- The second token of a pair is missed further on than the alternative to the pair. -/
theorem furthest_failure_of_pair :
    let g : Grammar :=
      ((Grammar.just .simple (.int 1)).andThen (.just .simple (.int 2))).orElse
        (.just .simple (.int 3))
    let span : Span := .single 0 .null
    let src : Source := ⟨#[(.int 1, span), (.int 4, span)], span⟩
    ∃ r cur', parser {} g src {} = .done r cur' ∧
      ∃ d, r.furthest = some d ∧ d.position = 1 ∧
        d.IsFurthestOf (failures {} g src {}) ∧ d.Gathers (failures {} g src {}) := by
  intro g span src
  have hplain : Within {} (Grammar.IsPlain false) g := by
    refine .of_closed
      (fun h => h = g ∨
        h = (Grammar.just .simple (.int 1)).andThen (.just .simple (.int 2)) ∨
        ∃ token, h = .just .simple token)
      (Or.inl rfl) ?_ ?_
    · rintro h (rfl | rfl | ⟨token, rfl⟩)
      · trivial
      · trivial
      · trivial
    · rintro h part (rfl | rfl | ⟨token, rfl⟩) hpart
      · rcases hpart with rfl | rfl
        · exact Or.inr (Or.inl rfl)
        · exact Or.inr (Or.inr ⟨_, rfl⟩)
      · rcases hpart with rfl | rfl
        · exact Or.inr (Or.inr ⟨_, rfl⟩)
        · exact Or.inr (Or.inr ⟨_, rfl⟩)
      · exact hpart.elim
  obtain ⟨-, -, hsome⟩ := furthest_failure false g src {} hplain rfl
  obtain ⟨d, hd, hfurthest, hgathers⟩ := hsome (by exact List.cons_ne_nil _ _)
  cases hd
  exact ⟨_, _, rfl, _, rfl, rfl, hfurthest, hgathers rfl⟩

end Environment
end Runs
end Resync
