import Resync.Proofs.Greedy
import Resync.Proofs.OneDialect

/-!
# Splitting a repetition

A repetition can be split anywhere above its minimum: one up to the split, and then another one for
the rest, with their outputs in one list, answer what the whole repetition does.  If the first part
stops early, the second one tries the same place again.  It finds the same reason to stop there, and
the same alternative, which adds nothing.
-/

namespace Resync

open Located (mergeAlts mergeAll AltIsDetailed)

namespace Repetition

section Relations

variable (A : Nat → Result → Nat → Prop)

/-- Whether there is no more than one answer at a place. -/
def Single : Prop :=
  ∀ ⦃i j j' : Nat⦄ ⦃r r' : Result⦄, A i r j → A i r' j' → r = r' ∧ j = j'

/-- Whether all diagnostics of the answers are of a kind. -/
def OfKind (kind : Diagnostic → Prop) : Prop :=
  ∀ ⦃i j : Nat⦄ ⦃r : Result⦄, A i r j →
    ∀ l ∈ r.recovered ++ r.furthest.toList, kind l.error

/-- Whether all diagnostics of the answers keep their contents. -/
def Detailed : Prop :=
  ∀ ⦃i j : Nat⦄ ⦃r : Result⦄, A i r j →
    ∀ l ∈ r.recovered ++ r.furthest.toList, l.error.IsDetailed

variable (minimum split : Nat) (maximum : Option Nat)

/-- What a repetition up to `split` answers and then one of the rest, with the outputs of both in
one list. -/
inductive Splices (start : Nat) : Result → Nat → Prop
  | failure
      {recovered : List Located}
      {error : Located}
      {stop : Nat}
      (hfails : Returns A minimum (some split) start (.failure recovered error) stop) :
      Splices start (.failure recovered error) stop
  | success
      {recovered recovered' : List Located}
      {outputs outputs' : List Value}
      {alt alt' alt'' : Option Located}
      {mid stop : Nat}
      (hfirst : Returns A minimum (some split) start (.success recovered (.list outputs) alt) mid)
      (hsecond : Returns A 0 (maximum.map (· - split)) mid
        (.success recovered' (.list outputs') alt') stop)
      (hmerge : mergeAlts alt alt' = .ok alt'') :
      Splices start (.success (recovered ++ recovered') (.list (outputs ++ outputs')) alt'') stop

end Relations

variable {A : Nat → Result → Nat → Prop} {minimum minimum' split count count' : Nat}
variable {maximum maximum' : Option Nat} {start mid stop : Nat} {ms ms' : List Match}
variable {last last' : Option Located}

theorem hasRoom_map_sub :
    HasRoom (maximum.map (· - split)) count ↔ HasRoom maximum (split + count) := by
  cases maximum with
  | none => simp [HasRoom]
  | some most =>
      simp only [HasRoom, Option.map_some, Option.mem_some, forall_eq']
      omega

/-- What a repetition puts out is a list. -/
theorem Returns.exists_list
    {recovered : List Located}
    {output : Value}
    {alt : Option Located}
    (h : Returns A minimum maximum start (.success recovered output alt) stop) :
    ∃ outputs, output = .list outputs := by
  cases h with
  | success => exact ⟨_, rfl⟩

namespace Stops

/-- Beyond the split, the whole repetition stops where that of the rest does. -/
theorem iff_rest (hle : minimum ≤ split) :
    Stops A minimum maximum (split + count) mid last ↔
      Stops A 0 (maximum.map (· - split)) count mid last := by
  constructor
  · intro h
    cases h with
    | full hfull => exact .full (mt hasRoom_map_sub.1 hfull)
    | stalled hroom henough hanswers =>
        exact .stalled (hasRoom_map_sub.2 hroom) (Nat.zero_le _) hanswers
    | failed hroom henough hanswers hreached =>
        exact .failed (hasRoom_map_sub.2 hroom) (Nat.zero_le _) hanswers hreached
  · intro h
    have henough : minimum ≤ split + count := Nat.le_add_right_of_le hle
    cases h with
    | full hfull => exact .full (mt hasRoom_map_sub.2 hfull)
    | stalled hroom _ hanswers => exact .stalled (hasRoom_map_sub.1 hroom) henough hanswers
    | failed hroom _ hanswers hreached =>
        exact .failed (hasRoom_map_sub.1 hroom) henough hanswers hreached

/-- Where there is room, the reason to stop is the same for all repetitions that have enough. -/
theorem of_room
    (h : Stops A minimum maximum count mid last)
    (hroom : HasRoom maximum count)
    (hroom' : HasRoom maximum' count')
    (henough' : minimum ≤ count → minimum' ≤ count') :
    Stops A minimum' maximum' count' mid last := by
  cases h with
  | full hfull => exact absurd hroom hfull
  | stalled _ henough hanswers => exact .stalled hroom' (henough' henough) hanswers
  | failed _ henough hanswers hreached => exact .failed hroom' (henough' henough) hanswers hreached

/-- Another repetition that stops at the same place finds the same alternative, or has no room. -/
theorem eq_none_or_eq
    (h : Stops A minimum maximum count mid last)
    (hsingle : Single A)
    (hroom : HasRoom maximum count)
    (h' : Stops A minimum' maximum' count' mid last') :
    last' = none ∨ last' = last := by
  cases h with
  | full hfull => exact absurd hroom hfull
  | stalled _ _ hanswers =>
      cases h' with
      | full => exact Or.inl rfl
      | stalled _ _ hanswers' =>
          cases (hsingle hanswers hanswers').1
          exact Or.inr rfl
      | failed _ _ hanswers' _ => cases (hsingle hanswers hanswers').1
  | failed _ _ hanswers hreached =>
      cases h' with
      | full => exact Or.inl rfl
      | stalled _ _ hanswers' => cases (hsingle hanswers hanswers').1
      | failed _ _ hanswers' hreached' =>
          cases (hsingle hanswers hanswers').1
          cases hreached.symm.trans hreached'
          exact Or.inr rfl

/-- Where a repetition stops although there is room, another one that is not asked for anything
keeps nothing. -/
theorem keeps_nothing
    (h : Stops A minimum maximum count mid last)
    (hsingle : Single A)
    (hroom : HasRoom maximum count)
    (hkeeps : Keeps A 0 maximum' mid ms stop) :
    ms = [] := by
  cases ms with
  | nil => rfl
  | cons m ms =>
      obtain ⟨⟨rfl, hmatch, -⟩, -, hconsumes⟩ := hkeeps
      have hlt : m.start < m.stop := hconsumes m List.mem_cons_self
      cases h with
      | full hfull => exact absurd hroom hfull
      | stalled _ _ hanswers => exact absurd (hsingle hanswers hmatch).2 (Nat.ne_of_lt hlt)
      | failed _ _ hanswers _ => cases (hsingle hanswers hmatch).1

/-- The alternative that is found is one of the answer, or a merger of its diagnostics. -/
theorem altIsDetailed
    (h : Stops A minimum maximum count mid last)
    (hdetailed : Detailed A) :
    AltIsDetailed last := by
  cases h with
  | full => exact Located.altIsDetailed_none
  | stalled _ _ hanswers =>
      exact fun l hl => hdetailed hanswers l (List.mem_append_right _ (Option.mem_toList.2 hl))
  | @failed recovered error _ reached _ _ hanswers hreached =>
      have herror : error.error.IsDetailed :=
        hdetailed hanswers error (List.mem_append_right _ List.mem_cons_self)
      cases hhead : recovered.head? with
      | none =>
          rw [hhead] at hreached
          cases hreached
          exact fun l hl => Option.mem_some.1 hl ▸ herror
      | some first =>
          have hfirst : first.error.IsDetailed :=
            hdetailed hanswers first (List.mem_append_left _ (List.mem_of_head? hhead))
          obtain ⟨a, rfl⟩ := Located.exists_finding herror
          obtain ⟨b, rfl⟩ := Located.exists_finding hfirst
          rw [hhead, Located.mergeAlts_some, Finding.max_located] at hreached
          cases hreached
          exact fun l hl => Option.mem_some.1 hl ▸ trivial

end Stops

/-- The alternatives of matches keep their contents if all answers do. -/
theorem Chain.altIsDetailed
    (h : Chain A start ms stop)
    (hdetailed : Detailed A) :
    ∀ alt ∈ ms.map Match.alt, AltIsDetailed alt := by
  refine List.forall_mem_map.2 fun m hm l hl => ?_
  exact hdetailed (h.answers hm) l (List.mem_append_right _ (Option.mem_toList.2 hl))

/-- The matches of a repetition that comes to the split are those up to it and those beyond. -/
theorem Keeps.iff_rest
    (hle : minimum ≤ split)
    (hmost : ∀ most ∈ maximum, split ≤ most)
    (hlength : ms.length = split) :
    Keeps A minimum maximum start (ms ++ ms') stop ↔
      ∃ mid, Keeps A minimum (some split) start ms mid ∧
        Keeps A 0 (maximum.map (· - split)) mid ms' stop := by
  have hdrop : (ms ++ ms').drop minimum = ms.drop minimum ++ ms' := by
    rw [List.drop_append, Nat.sub_eq_zero_of_le (hlength ▸ hle), List.drop_zero]
  constructor
  · rintro ⟨hchain, hall, hconsumes⟩
    obtain ⟨mid, hbefore, hafter⟩ := hchain.exists_mid
    rw [hdrop] at hconsumes
    refine ⟨mid, ⟨hbefore, fun most hmost => ?_, fun m hm => ?_⟩,
      ⟨hafter, fun most hmost => ?_, fun m hm => ?_⟩⟩
    · exact Option.mem_some.1 hmost ▸ Nat.le_of_eq hlength
    · exact hconsumes m (List.mem_append_left _ hm)
    · obtain ⟨most', hmost', rfl⟩ := Option.map_eq_some_iff.1 hmost
      have hboth := hall most' hmost'
      rw [List.length_append] at hboth
      omega
    · exact hconsumes m (List.mem_append_right _ hm)
  · rintro ⟨mid, ⟨hbefore, -, hconsumes⟩, ⟨hafter, hrest, hconsumes'⟩⟩
    refine ⟨hbefore.append hafter, fun most hmost' => ?_, fun m hm => ?_⟩
    · have hfirst := hmost most hmost'
      have hsecond := hrest (most - split) (Option.mem_map_of_mem _ hmost')
      rw [List.length_append]
      omega
    · rw [hdrop] at hm
      exact (List.mem_append.1 hm).elim (hconsumes m) (hconsumes' m)

section Whole

variable {r : Result} {c : Option Located}

/-- At the split the first part finds nothing, so the alternatives of the whole are those of the
parts. -/
theorem mergeAll_at_split
    (halts : ∀ alt ∈ ms.map Match.alt, AltIsDetailed alt)
    (halts' : ∀ alt ∈ ms'.map Match.alt, AltIsDetailed alt)
    (hlast : AltIsDetailed last) :
    mergeAll none ((ms ++ ms').map Match.alt ++ [last]) = .ok c ↔
      ∃ a b, mergeAll none (ms.map Match.alt ++ [none]) = .ok a ∧
        mergeAll none (ms'.map Match.alt ++ [last]) = .ok b ∧ mergeAlts a b = .ok c := by
  rw [← Located.mergeAll_append_eq_ok
    (List.forall_mem_append.2 ⟨halts, List.forall_mem_singleton.2 Located.altIsDetailed_none⟩)
    (List.forall_mem_append.2 ⟨halts', List.forall_mem_singleton.2 hlast⟩)]
  rw [List.map_append, List.append_assoc, List.append_assoc, List.singleton_append,
    Located.mergeAll_append, Located.mergeAll_append]
  simp only [Located.mergeAll_cons_none]

/-- Before the split the second part finds nothing, or the same again. -/
theorem mergeAll_before_split
    (halts : ∀ alt ∈ ms.map Match.alt, AltIsDetailed alt)
    (hlast : AltIsDetailed last)
    (hlast' : last' = none ∨ last' = last) :
    mergeAll none (ms.map Match.alt ++ [last]) = .ok c ↔
      ∃ a b, mergeAll none (ms.map Match.alt ++ [last]) = .ok a ∧
        mergeAll none [last'] = .ok b ∧ mergeAlts a b = .ok c := by
  have hagain : AltIsDetailed last' := by
    rcases hlast' with rfl | rfl
    · exact Located.altIsDetailed_none
    · exact hlast
  refine Iff.trans ?_ (Located.mergeAll_append_eq_ok
    (List.forall_mem_append.2 ⟨halts, List.forall_mem_singleton.2 hlast⟩)
    (List.forall_mem_singleton.2 hagain))
  rcases hlast' with rfl | rfl
  · rw [Located.mergeAll_concat none none]
    cases mergeAll none (ms.map Match.alt ++ [last]) with
    | error f => rfl
    | ok a => rw [Except.bind, Located.mergeAlts_none_right]
  · rw [Located.mergeAll_concat_again halts hlast]

/-- A repetition that came to the split splits into both parts there. -/
theorem Splices.at_split
    (hdetailed : Detailed A)
    (hle : minimum ≤ split)
    (hmost : ∀ most ∈ maximum, split ≤ most)
    (hlength : ms.length = split)
    (hkeeps : Keeps A minimum maximum start (ms ++ ms') stop)
    (hstops : Stops A minimum maximum (ms ++ ms').length stop last)
    (hmerge : mergeAll none ((ms ++ ms').map Match.alt ++ [last]) = .ok c) :
    Splices A minimum split maximum start
      (.success ((ms ++ ms').flatMap Match.recovered) (.list ((ms ++ ms').map Match.output)) c)
      stop := by
  obtain ⟨mid, hkeeps₁, hkeeps₂⟩ := (Keeps.iff_rest hle hmost hlength).1 hkeeps
  obtain ⟨a, b, ha, hb, hab⟩ := (mergeAll_at_split (hkeeps₁.chain.altIsDetailed hdetailed)
    (hkeeps₂.chain.altIsDetailed hdetailed) (hstops.altIsDetailed hdetailed)).1 hmerge
  have hfull : ¬ HasRoom (some split) ms.length :=
    fun hroom => Nat.lt_irrefl _ (hlength ▸ hroom split rfl)
  rw [List.length_append, hlength, Stops.iff_rest hle] at hstops
  rw [List.flatMap_append, List.map_append]
  exact .success (.success hkeeps₁ (.full hfull) ha) (.success hkeeps₂ hstops hb) hab

/-- A repetition that stopped before the split stops once more at the same place. -/
theorem Splices.before_split
    (hdetailed : Detailed A)
    (hcount : ms.length < split)
    (hroom : HasRoom maximum ms.length)
    (hkeeps : Keeps A minimum maximum start ms stop)
    (hstops : Stops A minimum maximum ms.length stop last)
    (hmerge : mergeAll none (ms.map Match.alt ++ [last]) = .ok c) :
    Splices A minimum split maximum start
      (.success (ms.flatMap Match.recovered) (.list (ms.map Match.output)) c) stop := by
  have hsplit : HasRoom (some split) ms.length :=
    fun most hmost => Option.mem_some.1 hmost ▸ hcount
  have hkeeps₁ : Keeps A minimum (some split) start ms stop :=
    ⟨hkeeps.chain, fun most hmost => Nat.le_of_lt (hsplit most hmost), hkeeps.consumes⟩
  obtain ⟨last', hstops', hlast'⟩ : ∃ last',
      Stops A 0 (maximum.map (· - split)) 0 stop last' ∧ (last' = none ∨ last' = last) := by
    by_cases hrest : HasRoom (maximum.map (· - split)) 0
    · exact ⟨last, hstops.of_room hroom hrest fun _ => Nat.le_refl 0, Or.inr rfl⟩
    · exact ⟨none, .full hrest, Or.inl rfl⟩
  obtain ⟨a, b, ha, hb, hab⟩ := (mergeAll_before_split (hkeeps.chain.altIsDetailed hdetailed)
    (hstops.altIsDetailed hdetailed) hlast').1 hmerge
  have hspliced := Splices.success
    (.success hkeeps₁ (hstops.of_room hroom hsplit id) ha) (.success .nil hstops' hb) hab
  rwa [List.flatMap_nil, List.map_nil, List.append_nil, List.append_nil] at hspliced

/-- The two parts make up the whole repetition. -/
theorem Returns.of_splices
    (h : Splices A minimum split maximum start r stop)
    (hsingle : Single A)
    (hdetailed : Detailed A)
    (hle : minimum ≤ split)
    (hmost : ∀ most ∈ maximum, split ≤ most) :
    Returns A minimum maximum start r stop := by
  have hwithin {count : Nat} (hcount : count < split) : HasRoom maximum count :=
    fun most hm => Nat.lt_of_lt_of_le hcount (hmost most hm)
  cases h with
  | failure hfails =>
      cases hfails with
      | failure hkeeps _ hlacks hanswers hmerge =>
          have hroom := hwithin (Nat.lt_of_lt_of_le hlacks hle)
          exact .failure (.of_lacking hkeeps.chain hroom hlacks) hroom hlacks hanswers hmerge
  | success hfirst hsecond hmerge =>
      cases hfirst with
      | @success ms _ last _ hkeeps hstops ha =>
          cases hsecond with
          | @success ms' _ last' _ hkeeps' hstops' hb =>
              by_cases hroom : HasRoom (some split) ms.length
              · obtain rfl := hstops.keeps_nothing hsingle hroom hkeeps'
                cases hkeeps'.chain
                have hlast' := hstops.eq_none_or_eq hsingle hroom hstops'
                have hmore : HasRoom maximum ms.length := hwithin (hroom split rfl)
                have hkeeps₀ : Keeps A minimum maximum start ms stop :=
                  ⟨hkeeps.chain, fun most hm => Nat.le_of_lt (hmore most hm), hkeeps.consumes⟩
                have hall := (mergeAll_before_split (hkeeps.chain.altIsDetailed hdetailed)
                  (hstops.altIsDetailed hdetailed) hlast').2 ⟨_, _, ha, hb, hmerge⟩
                rw [List.flatMap_nil, List.map_nil, List.append_nil, List.append_nil]
                exact .success hkeeps₀ (hstops.of_room hroom hmore id) hall
              · obtain hlength := Option.some.inj (hkeeps.eq_of_full hroom)
                cases hstops with
                | stalled hroom' => exact absurd hroom' hroom
                | failed hroom' => exact absurd hroom' hroom
                | full =>
                    have hall := (mergeAll_at_split (hkeeps.chain.altIsDetailed hdetailed)
                      (hkeeps'.chain.altIsDetailed hdetailed) (hstops'.altIsDetailed hdetailed)).2
                      ⟨_, _, ha, hb, hmerge⟩
                    have hkeeps₀ := (Keeps.iff_rest hle hmost hlength.symm).2 ⟨_, hkeeps, hkeeps'⟩
                    rw [← Stops.iff_rest hle, hlength, ← List.length_append] at hstops'
                    rw [← List.flatMap_append, ← List.map_append]
                    exact .success hkeeps₀ hstops' hall

/-- A repetition answers what its two parts do. -/
theorem returns_iff_splices
    (hsingle : Single A)
    (hdetailed : Detailed A)
    (hle : minimum ≤ split)
    (hmost : ∀ most ∈ maximum, split ≤ most) :
    Returns A minimum maximum start r stop ↔ Splices A minimum split maximum start r stop := by
  refine ⟨fun h => ?_, fun h => .of_splices h hsingle hdetailed hle hmost⟩
  cases h with
  | failure hkeeps hroom hlacks hanswers hmerge =>
      have hsplit : HasRoom (some split) _ := fun most hm =>
        Option.mem_some.1 hm ▸ Nat.lt_of_lt_of_le hlacks hle
      exact .failure
        (.failure (.of_lacking hkeeps.chain hsplit hlacks) hsplit hlacks hanswers hmerge)
  | @success ms _ last alt hkeeps hstops hmerge =>
      by_cases hcount : ms.length < split
      · have hroom : HasRoom maximum ms.length :=
          fun most hm => Nat.lt_of_lt_of_le hcount (hmost most hm)
        exact .before_split hdetailed hcount hroom hkeeps hstops hmerge
      · have hlength : (ms.take split).length = split :=
          List.length_take_of_le (Nat.le_of_not_lt hcount)
        rw [← List.take_append_drop split ms] at hkeeps hstops hmerge ⊢
        exact .at_split hdetailed hle hmost hlength hkeeps hstops hmerge

end Whole

end Repetition

namespace Environment

open Repetition

variable (env : Environment) (g : Grammar) (minimum split : Nat) (maximum : Option Nat)
variable (src : Source) (cur : Cursor)

/-- Two repetitions with their outputs in one list answer the outputs of one and then the other. -/
theorem chain_iff_splices {r : Result} {stop : Nat} :
    (∃ cur', env.parser ((g.repeated minimum (some split)).chain
          (g.repeated 0 (maximum.map (· - split)))) src cur = .done r cur' ∧
        cur'.offset = stop) ↔
      Splices ((env.parser g).Answers src) minimum split maximum cur.offset r stop := by
  let q : Parser := g.parser (env.resolve (env.depth src))
  have hreturns {minimum : Nat} {maximum : Option Nat} {cur : Cursor} {r : Result} {stop : Nat} :
      (∃ cur', q.repeated minimum maximum src cur = .done r cur' ∧ cur'.offset = stop) ↔
        Returns ((env.parser g).Answers src) minimum maximum cur.offset r stop :=
    Environment.repeated_iff env g minimum maximum src cur
  have hchain : env.parser ((g.repeated minimum (some split)).chain
        (g.repeated 0 (maximum.map (· - split)))) src cur =
      Parser.map Action.chained (Parser.andThen (q.repeated minimum (some split))
        (q.repeated 0 (maximum.map (· - split)))) src cur := rfl
  rw [hchain]
  constructor
  · rintro ⟨cur', hrun, rfl⟩
    cases r with
    | success recovered output alt =>
        obtain ⟨_, hpair, hchained⟩ := Parser.map_success hrun
        obtain ⟨_, _, _, mid, _, _, _, hp, hq, hmerge, rfl, rfl⟩ := Parser.andThen_success hpair
        have hfirst := hreturns.1 ⟨mid, hp, rfl⟩
        have hsecond := hreturns.1 ⟨cur', hq, rfl⟩
        obtain ⟨outputs, rfl⟩ := hfirst.exists_list
        obtain ⟨outputs', rfl⟩ := hsecond.exists_list
        cases hchained
        exact .success hfirst hsecond hmerge
    | failure recovered error =>
        rcases Parser.andThen_failure (Parser.map_failure hrun) with hp | ⟨mid, _, _, hq⟩
        · exact .failure (hreturns.1 ⟨cur', hp, rfl⟩)
        -- The second part is not asked for anything, so it does not fail.
        · cases hreturns.1 ⟨cur', hq, rfl⟩ with
          | failure _ _ hlacks => exact absurd hlacks (Nat.not_lt_zero _)
  · intro hsplices
    cases hsplices with
    | failure hfails =>
        obtain ⟨cur', hp, hcur'⟩ := hreturns.2 hfails
        exact ⟨cur', Parser.map_of_failure (Parser.andThen_of_failure hp _) _, hcur'⟩
    | success hfirst hsecond hmerge =>
        obtain ⟨mid, hp, rfl⟩ := hreturns.2 hfirst
        obtain ⟨cur', hq, hcur'⟩ := hreturns.2 hsecond
        exact ⟨cur', Parser.map_of_success (Parser.andThen_of_success hp hq hmerge) rfl, hcur'⟩

variable {env g src} in
/-- A grammar that speaks a dialect gives answers in it. -/
theorem ofKind_of_speaks
    {dialect : Dialect}
    (hspeaks : env.Within (Grammar.Speaks dialect) g) :
    OfKind ((env.parser g).Answers src) fun error => error.dialect = dialect := by
  rintro i j r ⟨cur', hrun, -⟩ l hl
  have hadmits : env.OnlyMeets src ((Contract.speaking src dialect).Admits env) g :=
    fun h hmeets => speaking_admits h (hspeaks h hmeets.reaches)
  have hkeeps : (Contract.speaking src dialect).Keeps 0
      (g.parser (env.resolve (env.depth src))) := env.parser_keeps trivial hadmits 0
  have hends := hkeeps ⟨i, 0, []⟩ (Nat.zero_le _)
  change (Contract.speaking src dialect).Ends _ (env.parser g src ⟨i, 0, []⟩) at hends
  rw [hrun] at hends
  rcases List.mem_append.1 hl with hl | hl
  · exact hends.recovered l hl
  · exact hends.furthest l (Option.mem_toList.1 hl)

variable {env g src} in
/-- A grammar that speaks a detailed dialect gives answers that keep their contents. -/
theorem detailed_of_speaks
    {family : Family}
    (hspeaks : env.Within (Grammar.Speaks (.detailed family)) g) :
    Detailed ((env.parser g).Answers src) := by
  intro i j r hanswers l hl
  have hdialect : l.error.dialect = .detailed family := ofKind_of_speaks hspeaks hanswers l hl
  cases herror : l.error with
  | detailed family' detail => trivial
  | terse text =>
      rw [herror] at hdialect
      cases hdialect

/-- **A repetition can be split above its minimum.**  Where the diagnostics of a grammar keep their
contents, let it be repeated within two bounds, and let a third one lie between these.  A repetition
up to that one, and then another one of what is left of the upper bound, with their outputs in one
list, return what the whole repetition does: the outputs, what was recovered from, the alternative,
or the failure, and where the cursor is left.  If one side does not return, neither does the
other. -/
theorem repeated_split
    (hle : minimum ≤ split)
    (hmost : ∀ most ∈ maximum, split ≤ most)
    (hdetailed : Detailed ((env.parser g).Answers src))
    (r : Result)
    (stop : Nat) :
    (∃ cur', env.parser (g.repeated minimum maximum) src cur = .done r cur' ∧
        cur'.offset = stop) ↔
      ∃ cur', env.parser ((g.repeated minimum (some split)).chain
          (g.repeated 0 (maximum.map (· - split)))) src cur = .done r cur' ∧
        cur'.offset = stop := by
  rw [chain_iff_splices, repeated_iff]
  exact returns_iff_splices (fun _ _ _ _ _ h h' => h.unique h') hdetailed hle hmost

/-- Two letters, and then nothing as often as one likes: split at four, the first repetition stops
early, because it matches nothing, and so does the second. -/
theorem repeated_split_early :
    let g : Grammar := (Grammar.just .simple (.str "a")).optional
    let src : Source := .ofText "aab" .null
    ∃ alt cur', parser {} (g.repeated 1 none) src {} =
        .done (.success [] (.list [.str "a", .str "a"]) alt) cur' ∧ cur'.offset = 2 ∧
      ∃ cur'', parser {} ((g.repeated 1 (some 4)).chain (g.repeated 0 none)) src {} =
        .done (.success [] (.list [.str "a", .str "a"]) alt) cur'' ∧ cur''.offset = 2 := by
  intro g src
  have hdetailed : Detailed ((parser {} g).Answers src) :=
    detailed_of_speaks (Grammar.speaks_optional (Grammar.speaks_just _))
  obtain ⟨alt, cur', hrun, hcur'⟩ : ∃ alt cur', parser {} (g.repeated 1 none) src {} =
      .done (.success [] (.list [.str "a", .str "a"]) alt) cur' ∧ cur'.offset = 2 :=
    ⟨_, _, rfl, rfl⟩
  exact ⟨alt, cur', hrun, hcur',
    (repeated_split {} g 1 4 none src {} (by decide) nofun hdetailed _ 2).1 ⟨cur', hrun, hcur'⟩⟩

end Environment
end Resync
