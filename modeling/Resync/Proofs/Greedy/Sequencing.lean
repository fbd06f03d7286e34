import Resync.Proofs.Greedy.Splitting

/-!
# Repetitions of a fixed length

A repetition that asks for as many matches as it allows takes just these, whatever they consume.  So
does a plan that runs the parser as many times, and both answer the same.  They differ where a match
is missing: the plan merges the failure with the alternatives of the matches before, but the
repetition passes it on as it is.
-/

namespace Resync

open Located (mergeAlts mergeAll)

namespace Repetition

section Relations

variable (A : Nat → Result → Nat → Prop) (n : Nat)

/-- Whether the parser fails after some consecutive matches, of which there are fewer than `n`.  The
matches and the failure have recovered from something, and that is gathered. -/
inductive FailsAfter (start : Nat) : List Match → List Located → Located → Nat → Prop
  | intro
      {ms : List Match}
      {recovered : List Located}
      {error : Located}
      {mid stop : Nat}
      (hchain : Chain A start ms mid)
      (hlacks : ms.length < n)
      (hanswers : A mid (.failure recovered error) stop) :
      FailsAfter start ms (ms.flatMap Match.recovered ++ recovered) error stop

/-- What `n` matches in sequence answer, with what those before have given. -/
inductive Sequences
    (start : Nat)
    (recovered : List Located)
    (outputs : List Value)
    (alt : Option Located) :
    Result → Nat → Prop
  | success
      {ms : List Match}
      {alt' : Option Located}
      {stop : Nat}
      (hchain : Chain A start ms stop)
      (hlength : ms.length = n)
      (hmerge : mergeAll alt (ms.map Match.alt) = .ok alt') :
      Sequences start recovered outputs alt
        (.success (recovered ++ ms.flatMap Match.recovered)
          (.list (outputs ++ ms.map Match.output)) alt') stop
  | failure
      {ms : List Match}
      {recovered' : List Located}
      {error error' : Located}
      {alt' : Option Located}
      {stop : Nat}
      (hfails : FailsAfter A n start ms recovered' error stop)
      (hmerge : mergeAll alt (ms.map Match.alt) = .ok alt')
      (hmax : error.max alt' = .ok error') :
      Sequences start recovered outputs alt (.failure (recovered ++ recovered') error') stop

end Relations

variable {A : Nat → Result → Nat → Prop} {n start stop : Nat} {recovered : List Located}
variable {output : Value} {outputs : List Value} {alt : Option Located} {error : Located}
variable {r : Result}

/-- Without matches to make, there is what was there before. -/
theorem sequences_zero :
    Sequences A 0 start recovered outputs alt r stop ↔
      r = .success recovered (.list outputs) alt ∧ stop = start := by
  constructor
  · intro h
    cases h with
    | success hchain hlength hmerge =>
        obtain rfl := List.length_eq_zero_iff.1 hlength
        cases hmerge
        rw [List.flatMap_nil, List.map_nil, List.append_nil, List.append_nil]
        exact ⟨rfl, hchain⟩
    | failure hfails =>
        cases hfails with
        | intro _ hlacks _ => exact absurd hlacks (Nat.not_lt_zero _)
  · rintro ⟨rfl, rfl⟩
    have hchain : Chain A stop [] stop := rfl
    have h : Sequences A 0 stop recovered outputs alt _ stop := .success hchain rfl rfl
    rwa [List.flatMap_nil, List.map_nil, List.append_nil, List.append_nil] at h

/-- The first match fails, or the others follow it. -/
theorem sequences_succ :
    Sequences A (n + 1) start recovered outputs alt r stop ↔
      (∃ recovered' error error', A start (.failure recovered' error) stop ∧
          error.max alt = .ok error' ∧ r = .failure (recovered ++ recovered') error') ∨
        ∃ (m : Match) (alt' : Option Located), m.start = start ∧ A start m.result m.stop ∧
          mergeAlts alt m.alt = .ok alt' ∧
          Sequences A n m.stop (recovered ++ m.recovered) (outputs ++ [m.output]) alt' r stop := by
  constructor
  · intro h
    cases h with
    | @success ms _ _ hchain hlength hmerge =>
        cases ms with
        | nil => cases hlength
        | cons m ms =>
            obtain ⟨hstart, hanswers, hrest⟩ := hchain
            rw [List.map_cons, Located.mergeAll_cons] at hmerge
            obtain ⟨alt', hfirst, hmerge'⟩ := bind_eq_ok.1 hmerge
            rw [List.flatMap_cons, List.map_cons, ← List.append_assoc, List.append_cons]
            exact Or.inr ⟨m, alt', hstart, hanswers, hfirst,
              .success hrest (Nat.succ.inj hlength) hmerge'⟩
    | @failure ms _ _ _ _ _ hfails hmerge hmax =>
        cases hfails with
        | intro hchain hlacks hfails =>
            cases ms with
            | nil =>
                cases hchain
                cases hmerge
                rw [List.flatMap_nil, List.nil_append]
                exact Or.inl ⟨_, _, _, hfails, hmax, rfl⟩
            | cons m ms =>
                obtain ⟨hstart, hanswers, hrest⟩ := hchain
                rw [List.map_cons, Located.mergeAll_cons] at hmerge
                obtain ⟨alt', hfirst, hmerge'⟩ := bind_eq_ok.1 hmerge
                rw [List.flatMap_cons, List.append_assoc, ← List.append_assoc]
                exact Or.inr ⟨m, alt', hstart, hanswers, hfirst,
                  .failure (.intro hrest (Nat.lt_of_succ_lt_succ hlacks) hfails) hmerge' hmax⟩
  · rintro (⟨recovered', error, error', hfails, hmax, rfl⟩ |
      ⟨m, alt', hstart, hanswers, hfirst, hrest⟩)
    · have hchain : Chain A start [] start := rfl
      exact .failure (.intro hchain (Nat.succ_pos n) hfails) rfl hmax
    · have hmore {alts : List (Option Located)} {c : Option Located}
          (hmerge : mergeAll alt' alts = .ok c) : mergeAll alt (m.alt :: alts) = .ok c := by
        rw [Located.mergeAll_cons, hfirst]
        exact hmerge
      cases hrest with
      | success hchain hlength hmerge =>
          rw [List.append_assoc, List.append_assoc, ← List.flatMap_cons, List.singleton_append,
            ← List.map_cons]
          exact .success ⟨hstart, hanswers, hchain⟩ (congrArg Nat.succ hlength) (hmore hmerge)
      | failure hfails hmerge hmax =>
          cases hfails with
          | intro hchain hlacks hfails =>
              rw [List.append_assoc, ← List.append_assoc m.recovered, ← List.flatMap_cons]
              exact .failure (.intro ⟨hstart, hanswers, hchain⟩ (Nat.succ_lt_succ hlacks) hfails)
                (hmore hmerge) hmax

/-- Where a match is missing, the alternatives of those before can be merged into the failure, if
all of them keep their contents. -/
theorem FailsAfter.exists_max
    {ms : List Match}
    (h : FailsAfter A n start ms recovered error stop)
    (hdetailed : Detailed A) :
    ∃ alt error', mergeAll none (ms.map Match.alt) = .ok alt ∧ error.max alt = .ok error' ∧
      ((∀ m ∈ ms, ∀ l ∈ m.alt, l.position < error.position) → error' = error) := by
  cases h with
  | intro hchain hlacks hanswers =>
      have hkind := Diagnostic.compatible_isDetailed
      have herror : error.error.IsDetailed :=
        hdetailed hanswers error (List.mem_append_right _ List.mem_cons_self)
      obtain ⟨alt, hmerge, halt⟩ := Located.exists_mergeAll_of_compatible hkind
        Located.altIsDetailed_none (hchain.altIsDetailed hdetailed)
      obtain ⟨error', hmax, -⟩ := Located.exists_max_of_compatible hkind herror halt
      refine ⟨alt, error', hmerge, hmax, fun hbefore => ?_⟩
      cases alt with
      | none =>
          cases hmax
          rfl
      | some l =>
          obtain ⟨m, hm, l', hl', hposition⟩ := Located.position_of_mergeAll hmerge rfl
          rcases List.mem_cons.1 hm with rfl | hm
          · cases hl'
          · obtain ⟨m', hm', rfl⟩ := List.mem_map.1 hm
            have hlt : l.position < error.position := hposition ▸ hbefore m' hm' l' hl'
            rcases Located.max_some_eq_ok hmax with ⟨-, heq⟩ | ⟨hgt, -⟩ | ⟨heq, -⟩
            · exact heq
            · omega
            · omega

section Exact

/-- A repetition of a fixed length succeeds like as many matches in sequence. -/
theorem returns_success_iff :
    Returns A n (some n) start (.success recovered output alt) stop ↔
      Sequences A n start [] [] none (.success recovered output alt) stop := by
  constructor
  · intro h
    cases h with
    | @success ms _ _ _ hkeeps hstops hmerge =>
        have hlength : ms.length = n := by
          have hle := hkeeps.length_le n rfl
          have hge := hstops.enough hkeeps fun _ hmost => Option.mem_some.1 hmost ▸ Nat.le_refl n
          exact Nat.le_antisymm hle hge
        cases hstops with
        | full hfull =>
            rw [Located.mergeAll_concat_none] at hmerge
            exact .success hkeeps.chain hlength hmerge
        | stalled hroom => exact absurd (hroom n rfl) (Nat.not_lt.2 (Nat.le_of_eq hlength.symm))
        | failed hroom => exact absurd (hroom n rfl) (Nat.not_lt.2 (Nat.le_of_eq hlength.symm))
  · intro h
    cases h with
    | @success ms _ _ hchain hlength hmerge =>
        subst hlength
        rw [← Located.mergeAll_concat_none] at hmerge
        have hkeeps : Keeps A ms.length (some ms.length) start ms stop := by
          refine ⟨hchain, fun _ hmost => Nat.le_of_eq (Option.mem_some.1 hmost), fun m hm => ?_⟩
          rw [List.drop_length] at hm
          exact nomatch hm
        exact .success hkeeps (.full fun hroom => Nat.lt_irrefl _ (hroom _ rfl)) hmerge

/-- A repetition of a fixed length fails where a match is missing, as the parser does there. -/
theorem returns_failure_iff :
    Returns A n (some n) start (.failure recovered error) stop ↔
      ∃ ms alt, FailsAfter A n start ms recovered error stop ∧
        mergeAll none (ms.map Match.alt) = .ok alt := by
  constructor
  · intro h
    cases h with
    | failure hkeeps _ hlacks hanswers hmerge =>
        exact ⟨_, _, .intro hkeeps.chain hlacks hanswers, hmerge⟩
  · rintro ⟨ms, alt, ⟨hchain, hlacks, hanswers⟩, hmerge⟩
    have hroom : HasRoom (some n) ms.length := fun _ hmost => Option.mem_some.1 hmost ▸ hlacks
    exact .failure (.of_lacking hchain hroom hlacks) hroom hlacks hanswers hmerge

/-- Matches in sequence fail where one is missing, and then their alternatives are merged into the
failure. -/
theorem sequences_failure_iff {error' : Located} :
    Sequences A n start [] [] none (.failure recovered error') stop ↔
      ∃ ms error alt, FailsAfter A n start ms recovered error stop ∧
        mergeAll none (ms.map Match.alt) = .ok alt ∧ error.max alt = .ok error' := by
  constructor
  · intro h
    cases h with
    | failure hfails hmerge hmax => exact ⟨_, _, _, hfails, hmerge, hmax⟩
  · rintro ⟨ms, error, alt, hfails, hmerge, hmax⟩
    exact .failure hfails hmerge hmax

end Exact

end Repetition

/-- What a plan answers that runs one grammar a number of times depends only on what the grammar
answers. -/
theorem Plan.sequence_iff
    {resolve : Ref → Parser}
    {g : Grammar}
    {src : Source}
    {cur : Cursor}
    {recovered : List Located}
    {outputs : List Value}
    {previous : Value}
    {alt : Option Located}
    {r : Result}
    {stop : Nat}
    (hsteady : (g.parser resolve).Steady src)
    (n : Nat) :
    (∃ cur', (stepsFrom outputs previous (List.replicate n (.fixed g))).parser resolve recovered
          alt src cur = .done r cur' ∧ cur'.offset = stop) ↔
      Repetition.Sequences ((g.parser resolve).Answers src) n cur.offset recovered outputs alt r
        stop := by
  induction n generalizing cur recovered outputs previous alt with
  | zero =>
      rw [Repetition.sequences_zero, List.replicate_zero, stepsFrom, Plan.parser]
      constructor
      · rintro ⟨cur', hrun, rfl⟩
        obtain ⟨rfl, rfl⟩ := Scan.pure_eq_done.1 hrun
        exact ⟨rfl, rfl⟩
      · rintro ⟨rfl, rfl⟩
        exact ⟨cur, rfl, rfl⟩
  | succ n ih =>
      rw [Repetition.sequences_succ, List.replicate_succ, stepsFrom, Plan.parser_step]
      constructor
      · rintro ⟨cur', hrun, rfl⟩
        rcases Parser.step_done hrun with
          ⟨recovered', error, error', hfails, hmax, rfl⟩ |
            ⟨recovered', output, alt', alt'', mid, hp, hmerge, hrest⟩
        · exact Or.inl ⟨recovered', error, error', hsteady.answers hfails, hmax, rfl⟩
        · exact Or.inr ⟨⟨cur.offset, mid.offset, recovered', output, alt'⟩, alt'', rfl,
            hsteady.answers hp, hmerge, ih.1 ⟨cur', hrest, rfl⟩⟩
      · rintro (⟨recovered', error, error', hanswers, hmax, rfl⟩ |
          ⟨m, alt', hstart, hanswers, hmerge, hrest⟩)
        · obtain ⟨cur', hfails, hcur'⟩ := hanswers.run hsteady rfl
          exact ⟨cur', Parser.step_of_failure hfails hmax, hcur'⟩
        · obtain ⟨mid, hp, hmid⟩ := hanswers.run hsteady rfl
          rw [← hmid] at hrest
          obtain ⟨cur', hrun, hcur'⟩ := ih.2 hrest
          exact ⟨cur', (Parser.step_of_success hp hmerge).trans hrun, hcur'⟩

namespace Environment

open Repetition

variable (env : Environment) (g : Grammar) (n : Nat) (src : Source) (cur : Cursor)

/-- What a grammar answers that is run a number of times depends only on what it answers once. -/
theorem sequence_iff {r : Result} {stop : Nat} :
    (∃ cur', env.parser (.generate (.sequence (List.replicate n g))) src cur = .done r cur' ∧
        cur'.offset = stop) ↔
      Sequences ((env.parser g).Answers src) n cur.offset [] [] none r stop := by
  have hsteady : (g.parser (env.resolve (env.depth src))).Steady src := parser_steady
  have hplan : Plan.sequence (List.replicate n g) =
      Plan.stepsFrom [] .null (List.replicate n (.fixed g)) :=
    congrArg Plan.ofSteps List.map_replicate
  show (∃ cur', (Plan.sequence (List.replicate n g)).parser (env.resolve (env.depth src)) [] none
    src cur = .done r cur' ∧ cur'.offset = stop) ↔ _
  rw [hplan]
  exact Plan.sequence_iff hsteady n

/-- **A repetition of a fixed length is a sequence, but for the alternatives of a failure.**  Where
the diagnostics of a grammar keep their contents, let it be repeated `n` times, no less and no more,
and let a plan run it `n` times.

* One of them succeeds if and only if the other one does, and then with the same outputs, the same
  that was recovered from, the same alternative, and the cursor at the same place.
* They fail where the grammar fails behind less than `n` consecutive matches, with the cursor where
  it left it and all that was recovered from.  The plan merges the alternatives of these matches
  into the failure, so that the one that got furthest is reported; the repetition reports the
  failure of the grammar as it is.
* So both report the same if the failure lies behind all these alternatives. -/
theorem repeated_times (hdetailed : Detailed ((env.parser g).Answers src)) :
    let A := (env.parser g).Answers src
    let times := env.parser (g.repeated n (some n)) src cur
    let steps := env.parser (.generate (.sequence (List.replicate n g))) src cur
    (∀ recovered output alt stop,
      (∃ cur', times = .done (.success recovered output alt) cur' ∧ cur'.offset = stop) ↔
        ∃ cur', steps = .done (.success recovered output alt) cur' ∧ cur'.offset = stop) ∧
      (∀ recovered error stop,
        (∃ cur', times = .done (.failure recovered error) cur' ∧ cur'.offset = stop) ↔
          ∃ ms, FailsAfter A n cur.offset ms recovered error stop) ∧
      (∀ recovered error' stop,
        (∃ cur', steps = .done (.failure recovered error') cur' ∧ cur'.offset = stop) ↔
          ∃ ms error alt, FailsAfter A n cur.offset ms recovered error stop ∧
            mergeAll none (ms.map Match.alt) = .ok alt ∧ error.max alt = .ok error') ∧
      ∀ ms recovered error stop, FailsAfter A n cur.offset ms recovered error stop →
        ∃ alt error', mergeAll none (ms.map Match.alt) = .ok alt ∧ error.max alt = .ok error' ∧
          ((∀ m ∈ ms, ∀ l ∈ m.alt, l.position < error.position) → error' = error) := by
  intro A times steps
  refine ⟨fun recovered output alt stop => ?_, fun recovered error stop => ?_,
    fun recovered error' stop => ?_, fun ms recovered error stop h => h.exists_max hdetailed⟩
  · exact (repeated_iff env g n (some n) src cur).trans
      (returns_success_iff.trans (sequence_iff env g n src cur).symm)
  · refine (repeated_iff env g n (some n) src cur).trans (returns_failure_iff.trans ?_)
    refine exists_congr fun ms => ⟨fun ⟨_, h, _⟩ => h, fun h => ?_⟩
    obtain ⟨alt, -, hmerge, -⟩ := h.exists_max hdetailed
    exact ⟨alt, h, hmerge⟩
  · exact (sequence_iff env g n src cur).trans sequences_failure_iff

/-- A letter with an optional mark in front of it is asked for twice, and the second letter is
missing.  The first match leaves an alternative, that the mark was missed, but this lies before the
failure, so the repetition and the plan report the same. -/
theorem repeated_times_of_letter :
    let mark : Grammar := .just .simple (.str "x")
    let g : Grammar := mark.optional.ignoreThen (.just .simple (.str "a"))
    let src : Source := .ofText "ab" .null
    ∃ missed error, (parser {} g).Answers src 0 (.success [] (.str "a") (some missed)) 1 ∧
      (parser {} g).Answers src 1 (.failure [] error) 2 ∧ missed.position < error.position ∧
      (∃ cur', parser {} (g.repeated 2 (some 2)) src {} = .done (.failure [] error) cur' ∧
        cur'.offset = 2) ∧
      ∃ cur', parser {} (.generate (.sequence [g, g])) src {} = .done (.failure [] error) cur' ∧
        cur'.offset = 2 := by
  intro mark g src
  have hspeaks : Environment.Within {} (Grammar.Speaks .simple) g :=
    Grammar.speaks_ignoreThen (Grammar.speaks_optional (Grammar.speaks_just _))
      (Grammar.speaks_just _)
  have hdetailed : Detailed ((parser {} g).Answers src) := detailed_of_speaks hspeaks
  obtain ⟨missed, hfirst, hmissed⟩ : ∃ missed, (parser {} g).Answers src 0
      (.success [] (.str "a") (some missed)) 1 ∧ missed.position = 0 := ⟨_, ⟨_, rfl, rfl⟩, rfl⟩
  obtain ⟨error, hsecond, herror⟩ : ∃ error, (parser {} g).Answers src 1 (.failure [] error) 2 ∧
      error.position = 1 := ⟨_, ⟨_, rfl, rfl⟩, rfl⟩
  have hlt : missed.position < error.position := by
    rw [hmissed, herror]
    exact Nat.zero_lt_one
  let m : Match := ⟨0, 1, [], .str "a", some missed⟩
  have hfails : FailsAfter ((parser {} g).Answers src) 2 0 [m] [] error 2 :=
    .intro ⟨rfl, hfirst, rfl⟩ (Nat.lt_succ_self 1) hsecond
  obtain ⟨-, htimes, hsteps, hmerge⟩ := repeated_times {} g 2 src {} hdetailed
  obtain ⟨alt, error', hall, hmax, hsame⟩ := hmerge _ _ _ _ hfails
  have hbefore : ∀ m' ∈ [m], ∀ l ∈ m'.alt, l.position < error.position := by
    intro m' hm' l hl
    cases List.mem_singleton.1 hm'
    cases hl
    exact hlt
  obtain rfl := hsame hbefore
  exact ⟨missed, error', hfirst, hsecond, hlt, (htimes _ _ _).2 ⟨_, hfails⟩,
    (hsteps _ _ _).2 ⟨_, _, _, hfails, hall, hmax⟩⟩

/-- A letter with an optional tail is asked for twice.  The tail got further than the second letter
did, and only the plan says so. -/
theorem repeated_times_reports_less :
    let tail : Grammar := .seq .simple [.str "b", .str "c"]
    let g : Grammar := (Grammar.just .simple (.str "a")).ignoreThen tail.optional
    let src : Source := .ofText "ab" .null
    ∃ error error' cur' cur'',
      parser {} (g.repeated 2 (some 2)) src {} = .done (.failure [] error) cur' ∧
      parser {} (.generate (.sequence [g, g])) src {} = .done (.failure [] error') cur'' ∧
      error.position = 1 ∧ error'.position = 2 := by
  intro tail g src
  obtain ⟨beyond, hfirst⟩ : ∃ beyond, (parser {} g).Answers src 0
      (.success [] .null (some ⟨2, beyond⟩)) 1 := ⟨_, _, rfl, rfl⟩
  obtain ⟨error, cur', hrun⟩ : ∃ error cur', parser {} (g.repeated 2 (some 2)) src {} =
      .done (.failure [] ⟨1, error⟩) cur' := ⟨_, _, rfl⟩
  obtain ⟨stop, hsecond⟩ : ∃ stop, (parser {} g).Answers src 1 (.failure [] ⟨1, error⟩) stop := by
    cases hrun
    exact ⟨_, _, rfl, rfl⟩
  let m : Match := ⟨0, 1, [], .null, some ⟨2, beyond⟩⟩
  have hfails : FailsAfter ((parser {} g).Answers src) 2 0 [m] [] ⟨1, error⟩ stop :=
    .intro ⟨rfl, hfirst, rfl⟩ (Nat.lt_succ_self 1) hsecond
  have hsequences : Sequences ((parser {} g).Answers src) 2 0 [] [] none
      (.failure [] ⟨2, beyond⟩) stop := .failure hfails rfl rfl
  obtain ⟨cur'', hsteps, -⟩ := (sequence_iff {} g 2 src {}).2 hsequences
  exact ⟨_, _, cur', cur'', hrun, hsteps, rfl, rfl⟩

end Environment
end Resync
