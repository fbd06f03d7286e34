import Resync.Proofs.Merging
import Resync.Proofs.Resuming

/-!
# Greedy repetition

A repetition keeps consecutive matches of its parser.  It takes what it is asked for, whatever these
matches consume, and after that only what consumes something.  It stops where it has as many matches
as it may have, where the parser fails, or where the parser matches nothing.  If the parser fails
before there are enough matches, so does the repetition.

Between two rounds a repetition knows the matches that it kept, and nothing else matters.
-/

namespace Resync

open Located (mergeAlts mergeAll)

/-- A match of a parser: from where to where it goes, and what was answered. -/
structure Match where
  start : Nat
  stop : Nat
  recovered : List Located
  output : Value
  alt : Option Located

/-- What a match answers. -/
def Match.result (m : Match) : Result := .success m.recovered m.output m.alt

namespace Repetition

section Relations

-- What the parser answers at a place, and where it leaves the cursor.
variable (A : Nat → Result → Nat → Prop)

/-- Whether the matches of a list are consecutive: the first one goes from `start`, each other one
from where the one before ended, and the last one to `stop`. -/
def Chain : Nat → List Match → Nat → Prop
  | start, [], stop => stop = start
  | start, m :: ms, stop =>
      m.start = start ∧ A start m.result m.stop ∧ Chain m.stop ms stop

variable (minimum : Nat) (maximum : Option Nat)

/-- Whether a repetition may have more than `count` matches. -/
def HasRoom (count : Nat) : Prop := ∀ most ∈ maximum, count < most

/-- Whether a repetition that starts at `start` may have kept these matches when it is at `stop`. -/
structure Keeps (start : Nat) (ms : List Match) (stop : Nat) : Prop where
  chain : Chain A start ms stop
  length_le : ∀ most ∈ maximum, ms.length ≤ most
  consumes : ∀ m ∈ ms.drop minimum, m.start < m.stop

/-- Whether a repetition that has `count` matches and is at `i` has reason to stop there, and the
alternative that it finds in the attempt to go on. -/
inductive Stops (count i : Nat) : Option Located → Prop
  | full (hfull : ¬ HasRoom maximum count) : Stops count i none
  | stalled
      {recovered : List Located}
      {output : Value}
      {alt : Option Located}
      (hroom : HasRoom maximum count)
      (henough : minimum ≤ count)
      (hanswers : A i (.success recovered output alt) i) :
      Stops count i alt
  | failed
      {recovered : List Located}
      {error : Located}
      {stop : Nat}
      {reached : Option Located}
      (hroom : HasRoom maximum count)
      (henough : minimum ≤ count)
      (hanswers : A i (.failure recovered error) stop)
      (hreached : mergeAlts (some error) recovered.head? = .ok reached) :
      Stops count i reached

/-- What a repetition that starts at `start` answers, and where it leaves the cursor. -/
inductive Returns (start : Nat) : Result → Nat → Prop
  | success
      {ms : List Match}
      {stop : Nat}
      {last alt : Option Located}
      (hkept : Keeps A minimum maximum start ms stop)
      (hstops : Stops A minimum maximum ms.length stop last)
      (hmerge : mergeAll none (ms.map Match.alt ++ [last]) = .ok alt) :
      Returns start
        (.success (ms.flatMap Match.recovered) (.list (ms.map Match.output)) alt) stop
  | failure
      {ms : List Match}
      {mid stop : Nat}
      {alt : Option Located}
      {recovered : List Located}
      {error : Located}
      (hkept : Keeps A minimum maximum start ms mid)
      (hroom : HasRoom maximum ms.length)
      (hlacks : ms.length < minimum)
      (hanswers : A mid (.failure recovered error) stop)
      (hmerge : mergeAll none (ms.map Match.alt) = .ok alt) :
      Returns start (.failure (ms.flatMap Match.recovered ++ recovered) error) stop

end Relations

variable {A : Nat → Result → Nat → Prop} {minimum : Nat} {maximum : Option Nat}
variable {start mid stop count : Nat} {m : Match} {ms ms' : List Match}

theorem not_hasRoom_iff : ¬ HasRoom maximum count ↔ maximum.any (· ≤ count) = true := by
  cases maximum with
  | none => simp [HasRoom]
  | some most => simp [HasRoom]

theorem HasRoom.not_any (h : HasRoom maximum count) : ¬ maximum.any (· ≤ count) = true :=
  mt not_hasRoom_iff.2 (not_not_intro h)

namespace Chain

/-- Consecutive matches after consecutive matches are consecutive. -/
theorem append
    (h : Chain A start ms mid)
    (h' : Chain A mid ms' stop) :
    Chain A start (ms ++ ms') stop := by
  induction ms generalizing start with
  | nil =>
      cases h
      exact h'
  | cons m ms ih => exact ⟨h.1, h.2.1, ih h.2.2⟩

/-- Consecutive matches can be split anywhere. -/
theorem exists_mid (h : Chain A start (ms ++ ms') stop) :
    ∃ mid, Chain A start ms mid ∧ Chain A mid ms' stop := by
  induction ms generalizing start with
  | nil => exact ⟨start, rfl, h⟩
  | cons m ms ih =>
      obtain ⟨mid, hbefore, hafter⟩ := ih h.2.2
      exact ⟨mid, ⟨h.1, h.2.1, hbefore⟩, hafter⟩

/-- Every match of a chain is an answer. -/
theorem answers (h : Chain A start ms stop) (hm : m ∈ ms) : A m.start m.result m.stop := by
  induction ms generalizing start with
  | nil => exact nomatch hm
  | cons m' ms ih =>
      rcases List.mem_cons.1 hm with rfl | hm
      · exact h.1 ▸ h.2.1
      · exact ih h.2.2 hm

theorem unique
    {stop' : Nat}
    (h : Chain A start ms stop)
    (h' : Chain A start ms stop') :
    stop = stop' := by
  induction ms generalizing start with
  | nil => exact h.trans h'.symm
  | cons m ms ih => exact ih h.2.2 h'.2.2

theorem singleton
    (hstart : m.start = start)
    (hanswers : A start m.result m.stop) :
    Chain A start [m] m.stop :=
  ⟨hstart, hanswers, rfl⟩

/-- No match goes back, so matches that consume something cover as many tokens. -/
theorem length_le
    (h : Chain A start ms stop)
    (hforward : ∀ {i r j}, A i r j → i ≤ j)
    (hconsumes : ∀ m ∈ ms.drop minimum, m.start < m.stop) :
    start ≤ stop ∧ ms.length ≤ minimum + (stop - start) := by
  induction ms generalizing start minimum with
  | nil =>
      cases h
      exact ⟨Nat.le_refl _, Nat.zero_le _⟩
  | cons m ms ih =>
      obtain ⟨rfl, hanswers, hrest⟩ := h
      have hback : m.start ≤ m.stop := hforward hanswers
      cases minimum with
      | zero =>
          have hm : m.start < m.stop := hconsumes m List.mem_cons_self
          obtain ⟨hle, hlength⟩ := @ih 0 m.stop hrest fun m' hm' =>
            hconsumes m' (List.mem_cons_of_mem _ hm')
          rw [List.length_cons]
          omega
      | succ minimum =>
          obtain ⟨hle, hlength⟩ := ih hrest hconsumes
          rw [List.length_cons]
          omega

end Chain

namespace Keeps

theorem nil : Keeps A minimum maximum start [] start :=
  ⟨rfl, fun _ _ => Nat.zero_le _, by simp⟩

/-- A repetition that goes on keeps one more match. -/
theorem concat
    (h : Keeps A minimum maximum start ms mid)
    (hroom : HasRoom maximum ms.length)
    (hstart : m.start = mid)
    (hanswers : A mid m.result m.stop)
    (hconsumes : minimum ≤ ms.length → mid < m.stop) :
    Keeps A minimum maximum start (ms ++ [m]) m.stop := by
  refine ⟨h.chain.append (.singleton hstart hanswers), fun most hmost => ?_, fun m' hm' => ?_⟩
  · rw [List.length_append, List.length_singleton]
    exact hroom most hmost
  · rw [List.drop_append, List.mem_append] at hm'
    rcases hm' with hm' | hm'
    · exact h.consumes m' hm'
    · have henough : minimum - ms.length = 0 := by
        by_contra hlacks
        rw [List.drop_eq_nil_of_le (by rw [List.length_singleton]; omega)] at hm'
        exact nomatch hm'
      rw [henough, List.drop_zero, List.mem_singleton] at hm'
      subst hm'
      exact hstart ▸ hconsumes (by omega)

/-- The matches that a repetition kept were kept one by one. -/
theorem of_append
    (h : Keeps A minimum maximum start (ms ++ m :: ms') stop) :
    ∃ mid, Keeps A minimum maximum start ms mid ∧ HasRoom maximum ms.length ∧
      m.start = mid ∧ A mid m.result m.stop ∧
      (minimum ≤ ms.length → mid < m.stop) := by
  obtain ⟨mid, hbefore, hstart, hanswers, -⟩ := h.chain.exists_mid
  have hlength (most : Nat) (hmost : most ∈ maximum) : ms.length + (ms'.length + 1) ≤ most := by
    have hle := h.length_le most hmost
    rwa [List.length_append, List.length_cons] at hle
  refine ⟨mid, ⟨hbefore, fun most hmost => ?_, fun m' hm' => h.consumes m' ?_⟩,
    fun most hmost => ?_, hstart, hanswers, fun henough => ?_⟩
  · have hle := hlength most hmost
    omega
  · rw [List.drop_append]
    exact List.mem_append_left _ hm'
  · have hle := hlength most hmost
    omega
  · subst hstart
    refine h.consumes m ?_
    rw [List.drop_append, Nat.sub_eq_zero_of_le henough]
    exact List.mem_append_right _ List.mem_cons_self

/-- As long as there are too few of them, all consecutive matches are kept. -/
theorem of_lacking
    (hchain : Chain A start ms stop)
    (hroom : HasRoom maximum ms.length)
    (hlacks : ms.length < minimum) :
    Keeps A minimum maximum start ms stop := by
  refine ⟨hchain, fun most hmost => Nat.le_of_lt (hroom most hmost), fun m hm => ?_⟩
  rw [List.drop_eq_nil_of_le (Nat.le_of_lt hlacks)] at hm
  exact nomatch hm

theorem eq_of_full
    (h : Keeps A minimum maximum start ms stop)
    (hfull : ¬ HasRoom maximum ms.length) :
    maximum = some ms.length := by
  cases maximum with
  | none => exact absurd (fun most hmost => nomatch hmost) hfull
  | some most =>
      have hle := h.length_le most rfl
      have hge : most ≤ ms.length := by
        by_contra hlt
        exact hfull fun most' hmost => Option.mem_some.1 hmost ▸ Nat.lt_of_not_le hlt
      rw [Nat.le_antisymm hge hle]

end Keeps

namespace Stops

variable {last : Option Located}

/-- A repetition has no reason to stop before it has enough matches. -/
theorem enough
    (h : Stops A minimum maximum ms.length stop last)
    (hkeeps : Keeps A minimum maximum start ms stop)
    (hbounds : ∀ most ∈ maximum, minimum ≤ most) :
    minimum ≤ ms.length := by
  cases h with
  | full hfull => exact hbounds _ (hkeeps.eq_of_full hfull)
  | stalled hroom henough hanswers => exact henough
  | failed hroom henough hanswers hreached => exact henough

/-- The reasons to stop: there is no room, the parser fails, or it matches nothing. -/
theorem reason
    (h : Stops A minimum maximum ms.length stop last)
    (hkeeps : Keeps A minimum maximum start ms stop) :
    maximum = some ms.length ∨
      (∃ recovered error stop', A stop (.failure recovered error) stop') ∨
      ∃ m : Match, A stop m.result stop := by
  cases h with
  | full hfull => exact Or.inl (hkeeps.eq_of_full hfull)
  | stalled hroom henough hanswers => exact Or.inr (Or.inr ⟨⟨stop, stop, _, _, _⟩, hanswers⟩)
  | failed hroom henough hanswers hreached => exact Or.inr (Or.inl ⟨_, _, _, hanswers⟩)

end Stops

end Repetition

namespace Parser

open Repetition

variable {p : Parser} {src : Source} {minimum : Nat} {maximum : Option Nat}
variable {start stop : Nat} {m : Match} {ms ms' : List Match}

section Rounds

open Scan

variable {cur cur' : Cursor} {bound : Nat} {recovered : List Located} {outputs : List Value}
variable {alt alt' last : Option Located} {r : Result}

/-- A match that is kept is followed by the next round. -/
theorem repeatedFrom_of_match
    {recovered' : List Located}
    {output : Value}
    {alt'' : Option Located}
    (hroom : HasRoom maximum outputs.length)
    (hrun : p src cur = .done (.success recovered' output alt') cur')
    (hmerge : Located.mergeAlts alt alt' = .ok alt'')
    (hkept : ¬ (minimum ≤ outputs.length ∧ cur'.offset = cur.offset)) :
    repeatedFrom p minimum maximum (bound + 1) recovered outputs alt src cur =
      repeatedFrom p minimum maximum bound (recovered ++ recovered') (outputs ++ [output]) alt''
        src cur' := by
  rw [repeatedFrom, if_neg hroom.not_any]
  simp only [bind_apply, save_apply, hrun, Scan.mergeAlts, hmerge, ofExcept_ok, pure_apply,
    if_neg hkept]

/-- A match ends the run if its alternative cannot be merged with those before. -/
theorem repeatedFrom_of_clash
    {recovered' : List Located}
    {output : Value}
    {f : Fault}
    (hroom : HasRoom maximum outputs.length)
    (hrun : p src cur = .done (.success recovered' output alt') cur')
    (hclash : Located.mergeAlts alt alt' = .error f) :
    repeatedFrom p minimum maximum (bound + 1) recovered outputs alt src cur =
      .halted (.fault f) cur' := by
  rw [repeatedFrom, if_neg hroom.not_any]
  simp only [bind_apply, save_apply, hrun, Scan.mergeAlts, hclash, ofExcept_error, halt_apply]

/-- A failure before there are enough matches is passed on. -/
theorem repeatedFrom_of_failure
    {recovered' : List Located}
    {error : Located}
    (hroom : HasRoom maximum outputs.length)
    (hlacks : outputs.length < minimum)
    (hrun : p src cur = .done (.failure recovered' error) cur') :
    repeatedFrom p minimum maximum (bound + 1) recovered outputs alt src cur =
      .done (.failure (recovered ++ recovered') error) cur' := by
  rw [repeatedFrom, if_neg hroom.not_any]
  simp only [bind_apply, save_apply, hrun, if_pos hlacks, pure_apply]

/-- Where a repetition has reason to stop it does. -/
theorem repeatedFrom_of_stops
    (hsteady : p.Steady src)
    (hstops : Stops (p.Answers src) minimum maximum outputs.length cur.offset last)
    (hmerge : Located.mergeAlts alt last = .ok alt') :
    ∃ cur', repeatedFrom p minimum maximum (bound + 1) recovered outputs alt src cur =
        .done (.success recovered (.list outputs) alt') cur' ∧ cur'.offset = cur.offset := by
  rw [repeatedFrom]
  cases hstops with
  | full hfull =>
      rw [Located.mergeAlts_none_right] at hmerge
      cases hmerge
      rw [if_pos (not_hasRoom_iff.1 hfull)]
      exact ⟨cur, rfl, rfl⟩
  | stalled hroom henough hanswers =>
      rw [if_neg hroom.not_any]
      obtain ⟨mid, hrun, hmid⟩ := hanswers.run hsteady rfl
      simp only [bind_apply, save_apply, hrun, Scan.mergeAlts, hmerge, ofExcept_ok, pure_apply,
        if_pos (And.intro henough hmid)]
      exact ⟨_, rfl, hmid⟩
  | failed hroom henough hanswers hreached =>
      rw [if_neg hroom.not_any]
      obtain ⟨mid, hrun, -⟩ := hanswers.run hsteady rfl
      simp only [bind_apply, save_apply, hrun, revert_apply, Scan.mergeAlts, hreached, hmerge,
        ofExcept_ok, pure_apply, if_neg (Nat.not_lt.2 henough)]
      exact ⟨_, rfl, rfl⟩

/-- From the matches that were kept so far, the rounds that are left do what a repetition does. -/
theorem returns_of_repeatedFrom
    (hsteady : p.Steady src)
    (hforward : p.Forward src)
    (hkept : Keeps (p.Answers src) minimum maximum start ms cur.offset)
    (hmerge : mergeAll none (ms.map Match.alt) = .ok alt)
    (hrun : repeatedFrom p minimum maximum bound (ms.flatMap Match.recovered)
      (ms.map Match.output) alt src cur = .done r cur') :
    Returns (p.Answers src) minimum maximum start r cur'.offset := by
  induction bound generalizing ms alt cur with
  | zero => cases hrun
  | succ bound ih =>
      have hstopped {last alt' : Option Located}
          (hlast : Located.mergeAlts alt last = .ok alt') :
          mergeAll none (ms.map Match.alt ++ [last]) = .ok alt' := by
        rw [Located.mergeAll_concat, hmerge]
        exact hlast
      have hdone := repeatedFrom_done hrun
      rw [List.length_map, ← Bool.not_eq_true, ← not_hasRoom_iff, not_not] at hdone
      rcases hdone with
        ⟨hfull, rfl, rfl⟩ | ⟨hroom, ⟨recovered', output, alt', alt'', mid, hmatch, hmerged,
          ⟨henough, hstall, rfl, rfl⟩ | ⟨hgoes, hrest⟩⟩ | ⟨recovered', error, hlacks, hfails, rfl⟩ |
          ⟨recovered', error, reached, alt', mid, henough, hfails, hreached, hmerged, rfl, rfl⟩⟩
      · exact .success hkept (.full hfull) (hstopped (Located.mergeAlts_none_right alt))
      · have hanswers := hsteady.answers hmatch
        rw [hstall] at hanswers
        show Returns (p.Answers src) minimum maximum start _ mid.offset
        rw [hstall]
        exact .success hkept (.stalled hroom henough hanswers) (hstopped hmerged)
      · let m : Match := ⟨cur.offset, mid.offset, recovered', output, alt'⟩
        have hback : cur.offset ≤ mid.offset := (hforward _ _ _ hmatch).1
        have hmore : Keeps (p.Answers src) minimum maximum start (ms ++ [m]) mid.offset :=
          hkept.concat hroom rfl (hsteady.answers hmatch) fun henough =>
            Nat.lt_of_le_of_ne hback fun heq => hgoes ⟨henough, heq.symm⟩
        have hmerge' : mergeAll none ((ms ++ [m]).map Match.alt) = .ok alt'' := by
          rw [List.map_append]
          exact hstopped hmerged
        refine ih hmore hmerge' ?_
        rw [List.flatMap_append, List.map_append, List.flatMap_singleton]
        exact hrest
      · exact .failure hkept hroom hlacks (hsteady.answers hfails) hmerge
      · have hanswers := hsteady.answers hfails
        exact .success hkept (.failed hroom henough hanswers hreached) (hstopped hmerged)

/-- The rounds come to every list of matches that a repetition may have kept. -/
theorem repeatedFrom_reaches
    (hsteady : p.Steady src)
    (hkept : Keeps (p.Answers src) minimum maximum start (ms ++ ms') stop)
    (hat : Chain (p.Answers src) start ms cur.offset)
    (hmerge : mergeAll none (ms.map Match.alt) = .ok alt)
    (hall : mergeAll none ((ms ++ ms').map Match.alt) = .ok alt')
    (bound : Nat) :
    ∃ cur' : Cursor, cur'.offset = stop ∧
      repeatedFrom p minimum maximum (bound + ms'.length) (ms.flatMap Match.recovered)
          (ms.map Match.output) alt src cur =
        repeatedFrom p minimum maximum bound ((ms ++ ms').flatMap Match.recovered)
          ((ms ++ ms').map Match.output) alt' src cur' := by
  induction ms' generalizing ms alt cur with
  | nil =>
      rw [List.append_nil] at hkept hall ⊢
      cases hmerge.symm.trans hall
      exact ⟨cur, hat.unique hkept.chain, rfl⟩
  | cons m ms' ih =>
      obtain ⟨mid, hbefore, hroom, hstart, hanswers, hconsumes⟩ := hkept.of_append
      obtain rfl := hat.unique hbefore.chain
      obtain ⟨last, hrun, hlast⟩ := hanswers.run hsteady rfl
      rw [List.append_cons] at hkept hall ⊢
      obtain ⟨alt'', hmerge', -⟩ :
          ∃ alt'', mergeAll none ((ms ++ [m]).map Match.alt) = .ok alt'' ∧ _ := by
        rw [List.map_append, Located.mergeAll_append] at hall
        exact bind_eq_ok.1 hall
      have hmerged : Located.mergeAlts alt m.alt = .ok alt'' := by
        rw [List.map_append, List.map_singleton, Located.mergeAll_concat, hmerge] at hmerge'
        exact hmerge'
      have hgoes : ¬ (minimum ≤ (ms.map Match.output).length ∧ last.offset = cur.offset) := by
        rintro ⟨henough, hstall⟩
        have hlt := hconsumes (by rwa [List.length_map] at henough)
        omega
      have hchain : Chain (p.Answers src) start (ms ++ [m]) last.offset := by
        rw [hlast]
        exact hat.append (.singleton hstart hanswers)
      obtain ⟨cur', hcur', hrest⟩ := ih hkept hchain hmerge' hall
      refine ⟨cur', hcur', ?_⟩
      rw [← hrest, List.flatMap_append, List.map_append, List.flatMap_singleton]
      rw [← List.length_map Match.output] at hroom
      exact repeatedFrom_of_match hroom hrun hmerged hgoes

variable (maximum) in
/-- Rounds that return within some bound do so within the bound of a repetition. -/
theorem repeated_of_rounds
    (hforward : p.Forward src)
    (hrun : repeatedFrom p minimum maximum bound [] [] none src cur = .done r cur') :
    repeated p minimum maximum src cur = .done r cur' := by
  refine hforward.repeatedFrom ?_ r cur' hrun
  rw [List.length_nil, Nat.sub_zero]
  omega

/-- What a repetition answers depends only on what its parser answers. -/
theorem repeated_iff
    (hsteady : p.Steady src)
    (hforward : p.Forward src) :
    (∃ cur', repeated p minimum maximum src cur = .done r cur' ∧ cur'.offset = stop) ↔
      Returns (p.Answers src) minimum maximum cur.offset r stop := by
  constructor
  · rintro ⟨cur', hrun, rfl⟩
    obtain ⟨bound, hrounds⟩ := repeated_done hrun
    exact returns_of_repeatedFrom hsteady hforward .nil rfl hrounds
  · have hreaches {ms : List Match} {mid : Nat} {alt : Option Located}
        (hkeeps : Keeps (p.Answers src) minimum maximum cur.offset ([] ++ ms) mid)
        (hmerge : mergeAll none (([] ++ ms).map Match.alt) = .ok alt) :=
      repeatedFrom_reaches hsteady hkeeps rfl rfl hmerge 1
    intro hreturns
    cases hreturns with
    | success hkeeps hstops hmerge =>
        rw [Located.mergeAll_concat] at hmerge
        obtain ⟨alt, hall, hlast⟩ := bind_eq_ok.1 hmerge
        obtain ⟨last, rfl, hrest⟩ := hreaches hkeeps hall
        rw [← List.length_map Match.output] at hstops
        obtain ⟨cur', hrun, hcur'⟩ := repeatedFrom_of_stops hsteady hstops hlast
        exact ⟨cur', repeated_of_rounds maximum hforward (hrest.trans hrun), hcur'⟩
    | failure hkeeps hroom hlacks hanswers hmerge =>
        obtain ⟨last, rfl, hrest⟩ := hreaches hkeeps hmerge
        obtain ⟨cur', hrun, hcur'⟩ := hanswers.run hsteady rfl
        rw [← List.length_map Match.output] at hroom hlacks
        refine ⟨cur', repeated_of_rounds maximum hforward (hrest.trans ?_), hcur'⟩
        exact repeatedFrom_of_failure hroom hlacks hrun

end Rounds

end Parser

namespace Environment

open Repetition

/-- What the repetition of a grammar answers depends only on what the grammar answers. -/
theorem repeated_iff
    (env : Environment)
    (g : Grammar)
    (minimum : Nat)
    (maximum : Option Nat)
    (src : Source)
    (cur : Cursor)
    {r : Result}
    {stop : Nat} :
    (∃ cur', env.parser (g.repeated minimum maximum) src cur = .done r cur' ∧
        cur'.offset = stop) ↔
      Returns ((env.parser g).Answers src) minimum maximum cur.offset r stop := by
  have hsteady : (g.parser (env.resolve (env.depth src))).Steady src := parser_steady
  exact Parser.repeated_iff hsteady (env.forward _ g src)

/-- **A repetition is the greedy chain of matches.**  Let a grammar be repeated within two bounds
that make sense, from any cursor.

* If this succeeds, it has kept consecutive matches, the first from the start, and the cursor is
  where the last one ended.  Their outputs are the output, and what they recovered from is what was
  recovered from, both in order.  Their number lies within the bounds, and exceeds what was asked
  for by no more than the tokens consumed: each match after those that were asked for consumes
  something.  It stopped because there were as many as there may be, or because the grammar fails
  there or matches without consuming anything.
* It fails, with the failure of the grammar, if and only if the grammar fails before there are
  enough matches, provided that the alternatives of these matches can be merged.  All that they and
  the failing run recovered from is kept.
* Alternatives in one dialect can be merged. -/
theorem repeated_greedy
    (env : Environment)
    (g : Grammar)
    (minimum : Nat)
    (maximum : Option Nat)
    (src : Source)
    (cur : Cursor)
    (hbounds : ∀ most ∈ maximum, minimum ≤ most) :
    let p := env.parser g
    let outcome := env.parser (g.repeated minimum maximum) src cur
    (∀ recovered output alt cur', outcome = .done (.success recovered output alt) cur' →
        ∃ ms, Chain (p.Answers src) cur.offset ms cur'.offset ∧
          output = .list (ms.map Match.output) ∧
          recovered = ms.flatMap Match.recovered ∧
          minimum ≤ ms.length ∧ (∀ most ∈ maximum, ms.length ≤ most) ∧
          ms.length ≤ minimum + (cur'.offset - cur.offset) ∧
          (∀ m ∈ ms.drop minimum, m.start < m.stop) ∧
          (maximum = some ms.length ∨ p.Fails src cur'.offset ∨
            ∃ m : Match, p.Answers src cur'.offset m.result cur'.offset)) ∧
      (∀ recovered error stop,
        (∃ cur', outcome = .done (.failure recovered error) cur' ∧ cur'.offset = stop) ↔
          ∃ ms mid recovered', Chain (p.Answers src) cur.offset ms mid ∧
            ms.length < minimum ∧
            p.Answers src mid (.failure recovered' error) stop ∧
            recovered = ms.flatMap Match.recovered ++ recovered' ∧
            ∃ alt, mergeAll none (ms.map Match.alt) = .ok alt) ∧
      ∀ dialect, (∀ i r j, p.Answers src i r j → ∀ l ∈ r.alt, l.error.dialect = dialect) →
        ∀ ms start stop, Chain (p.Answers src) start ms stop →
          ∃ alt, mergeAll none (ms.map Match.alt) = .ok alt := by
  intro p outcome
  refine ⟨fun recovered output alt cur' hrun => ?_, fun recovered error stop => ?_,
    fun dialect hp ms start stop hchain => ?_⟩
  · have hforward {i j : Nat} {r : Result} (hanswers : p.Answers src i r j) : i ≤ j :=
      Parser.Forward.le_of_answers (env.forward _ g src) hanswers
    have hreturns := (repeated_iff env g minimum maximum src cur).1 ⟨cur', hrun, rfl⟩
    cases hreturns with
    | @success ms _ _ _ hkeeps hstops hmerge =>
        exact ⟨ms, hkeeps.chain, rfl, rfl, hstops.enough hkeeps hbounds, hkeeps.length_le,
          (hkeeps.chain.length_le hforward hkeeps.consumes).2, hkeeps.consumes,
          hstops.reason hkeeps⟩
  · refine (repeated_iff env g minimum maximum src cur).trans ⟨fun hreturns => ?_, ?_⟩
    · cases hreturns with
      | failure hkeeps hroom hlacks hanswers hmerge =>
          exact ⟨_, _, _, hkeeps.chain, hlacks, hanswers, rfl, _, hmerge⟩
    · rintro ⟨ms, mid, recovered', hchain, hlacks, hanswers, rfl, alt, hmerge⟩
      have hroom : HasRoom maximum ms.length :=
        fun most hmost => Nat.lt_of_lt_of_le hlacks (hbounds most hmost)
      exact .failure (.of_lacking hchain hroom hlacks) hroom hlacks hanswers hmerge
  · have hnone : ∀ l ∈ (none : Option Located), l.error.dialect = dialect := nofun
    have halts : ∀ m ∈ ms, ∀ l ∈ m.alt, l.error.dialect = dialect := fun m hm =>
      hp _ _ _ (hchain.answers hm)
    obtain ⟨alt, hmerge, -⟩ := Located.exists_mergeAll hnone (List.forall_mem_map.2 halts)
    exact ⟨alt, hmerge⟩

/-- Two letters out of three at most, of which the first was asked for. -/
theorem repeated_greedy_of_letters :
    let g : Grammar := .just .simple (.str "a")
    let src : Source := .ofText "aab" .null
    (∃ alt cur', parser {} (g.repeated 1 (some 3)) src {} =
        .done (.success [] (.list [.str "a", .str "a"]) alt) cur' ∧ cur'.offset = 2) ∧
      ∃ ms, Chain ((parser {} g).Answers src) 0 ms 2 ∧ ms.length ≤ 1 + (2 - 0) ∧
        (some 3 = some ms.length ∨ (parser {} g).Fails src 2 ∨
          ∃ m : Match, (parser {} g).Answers src 2 m.result 2) := by
  intro g src
  obtain ⟨alt, cur', hrun, hcur'⟩ : ∃ alt cur', parser {} (g.repeated 1 (some 3)) src {} =
      .done (.success [] (.list [.str "a", .str "a"]) alt) cur' ∧ cur'.offset = 2 :=
    ⟨_, _, rfl, rfl⟩
  obtain ⟨ms, hchain, -, -, -, -, hlength, -, hreason⟩ :=
    (repeated_greedy {} g 1 (some 3) src {} (by simp)).1 _ _ _ _ hrun
  rw [hcur'] at hchain hlength hreason
  exact ⟨⟨alt, cur', hrun, hcur'⟩, ms, hchain, hlength, hreason⟩

/-- Three letters are asked for, and there are two.  What the first one missed lies where the second
one missed something else, and cannot be merged with it, because that is stated in another dialect.
So the grammar fails, and the repetition does not. -/
theorem repeated_greedy_of_dialects :
    let missing : Grammar := .seq .simple [.str "x", .str "y", .str "q"]
    let g : Grammar := (missing.optional.ignoreThen (.anyToken .simple)).thenIgnore
      (Grammar.just .terse (.str "r")).optional
    let src : Source := .ofText "xy" .null
    (∃ ms, Chain ((parser {} g).Answers src) 0 ms 2 ∧ ms.length < 3) ∧
      (parser {} g).Fails src 2 ∧
      ∃ cur', parser {} (g.repeated 3 none) src {} = .halted (.fault .noSuchMember) cur' := by
  intro missing g src
  obtain ⟨detail, hfirst⟩ : ∃ detail, parser {} g src {} =
      .done (.success [] (.str "x") (some ⟨2, .detailed .simple detail⟩)) ⟨1, 2, []⟩ := ⟨_, rfl⟩
  obtain ⟨text, hsecond⟩ : ∃ text, parser {} g src ⟨1, 2, []⟩ =
      .done (.success [] (.str "y") (some ⟨2, .terse text⟩)) ⟨2, 2, []⟩ := ⟨_, rfl⟩
  have hanswers : (parser {} g).Answers src 1
      (.success [] (.str "y") (some ⟨2, .terse text⟩)) 2 := parser_steady.answers hsecond
  have hclash (q : Parser)
      (hfirst : q src {} =
        .done (.success [] (.str "x") (some ⟨2, .detailed .simple detail⟩)) ⟨1, 2, []⟩)
      (hsecond : q src ⟨1, 2, []⟩ =
        .done (.success [] (.str "y") (some ⟨2, .terse text⟩)) ⟨2, 2, []⟩) :
      Parser.repeated q 3 none src {} = .halted (.fault .noSuchMember) ⟨2, 2, []⟩ := by
    have hroom (count : Nat) : HasRoom none count := nofun
    exact (Parser.repeatedFrom_of_match (hroom _) hfirst rfl (by simp)).trans
      (Parser.repeatedFrom_of_clash (hroom _) hsecond rfl)
  refine ⟨⟨[⟨0, 1, _, _, _⟩, ⟨1, 2, _, _, _⟩], ⟨rfl, ⟨_, hfirst, rfl⟩, rfl, hanswers, rfl⟩,
    Nat.lt_succ_self 2⟩, ⟨_, _, _, _, rfl, rfl⟩, ⟨2, 2, []⟩, ?_⟩
  exact hclash (g.parser (resolve {} (depth {} src))) hfirst hsecond

end Environment
end Resync
