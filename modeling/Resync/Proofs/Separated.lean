import Resync.Proofs.Greedy

/-!
# Separated lists

A separated list is an item, and then further items as long as there are any, each of them behind a
separator.  Before the first item there may be a spare separator, if this is allowed, and likewise
behind the last one.  A further item that consumes nothing ends the list, once there are enough.

Between two rounds a separated list knows the items that it kept, and nothing else matters.  So it
is a greedy repetition of a separator and an item in sequence, behind a first item.  It only ends
in another way: it tells whether the separator was missed or the item.
-/

namespace Resync

open Located (mergeAlts mergeAll)
open Repetition (Keeps Chain HasRoom)

/-- The result of a separated list: it fails if there are too few items. -/
def Result.ofList
    (minimum : Nat)
    (recovered : List Located)
    (outputs : List Value)
    (alt : Option Located) :
    Except Fault Result :=
  if outputs.length < minimum then failed recovered alt
  else .ok (success recovered (.list outputs) alt)

namespace Parser

/-- A separator, and an item behind it; only the output of the item is kept. -/
def nextItem (item separator : Parser) : Parser :=
  map (Action.itemAt 1) (andThen separator item)

end Parser

namespace Separation

section Relations

-- What the item and the separator answer at a place, and where they leave the cursor.
variable (A B : Nat → Result → Nat → Prop)

/-- What a separator and an item behind it answer. -/
inductive NextItem (i : Nat) : Result → Nat → Prop
  | item
      {recovered recovered' : List Located}
      {output output' : Value}
      {alt alt' alt'' : Option Located}
      {mid j : Nat}
      (hseparator : B i (.success recovered output alt) mid)
      (hitem : A mid (.success recovered' output' alt') j)
      (hmerge : mergeAlts alt alt' = .ok alt'') :
      NextItem i (.success (recovered ++ recovered') output' alt'') j
  | noSeparator
      {recovered : List Located}
      {error : Located}
      {j : Nat}
      (hseparator : B i (.failure recovered error) j) :
      NextItem i (.failure recovered error) j
  | noItem
      {recovered recovered' : List Located}
      {output : Value}
      {alt : Option Located}
      {error error' : Located}
      {mid j : Nat}
      (hseparator : B i (.success recovered output alt) mid)
      (hitem : A mid (.failure recovered' error) j)
      (hmax : error.max alt = .ok error') :
      NextItem i (.failure (recovered ++ recovered') error') j

/-- What a spare separator gives where it is allowed, and that there is none where it is not. -/
inductive Spare (start : Nat) : Bool → List Located → Option Located → Nat → Prop
  | unasked : Spare start false [] none start
  | missed
      {recovered : List Located}
      {error : Located}
      {stop : Nat}
      (hseparator : B start (.failure recovered error) stop) :
      Spare start true [] (some error) start
  | found
      {recovered : List Located}
      {output : Value}
      {alt : Option Located}
      {stop : Nat}
      (hseparator : B start (.success recovered output alt) stop) :
      Spare start true recovered alt stop

variable (minimum : Nat) (leading trailing : Bool)

/-- How a separated list that has `count` items ends at `i`: the alternative that it finds in the
attempt to go on, what a spare separator recovered from, and where the cursor is left. -/
inductive Ends (count i : Nat) : Option Located → List Located → Nat → Prop
  | noSeparator
      {recovered : List Located}
      {error : Located}
      {stop : Nat}
      (hseparator : B i (.failure recovered error) stop) :
      Ends count i (some error) [] i
  | noItem
      {recovered recovered' : List Located}
      {output : Value}
      {alt : Option Located}
      {error : Located}
      {mid stop : Nat}
      (hseparator : B i (.success recovered output alt) mid)
      (hitem : A mid (.failure recovered' error) stop) :
      Ends count i (some error) (if trailing then recovered else []) (if trailing then mid else i)
  | stalled
      {recovered : List Located}
      {output : Value}
      {alt : Option Located}
      (henough : minimum ≤ count)
      (hanswers : NextItem A B i (.success recovered output alt) i) :
      Ends count i alt [] i

/-- What a separated list that starts at `start` answers, and where it leaves the cursor. -/
inductive Lists (start : Nat) : Result → Nat → Prop
  | items
      {lead dangling : List Located}
      {leadAlt last alt : Option Located}
      {m : Match}
      {ms : List Match}
      {mid stop : Nat}
      {r : Result}
      (hlead : Spare B start leading lead leadAlt m.start)
      (hfirst : A m.start m.result m.stop)
      (hkeeps : Keeps (NextItem A B) (minimum - 1) none m.stop ms mid)
      (hends : Ends A B minimum trailing (ms.length + 1) mid last dangling stop)
      (hmerge : mergeAll leadAlt ((m :: ms).map Match.alt ++ [last]) = .ok alt)
      (hlist : Result.ofList minimum (lead ++ (m :: ms).flatMap Match.recovered ++ dangling)
        ((m :: ms).map Match.output) alt = .ok r) :
      Lists start r stop
  | empty
      {lead recovered : List Located}
      {leadAlt alt : Option Located}
      {error : Located}
      {mid stop : Nat}
      {r : Result}
      (hlead : Spare B start leading lead leadAlt mid)
      (hfirst : A mid (.failure recovered error) stop)
      (hmerge : mergeAlts leadAlt (some error) = .ok alt)
      (hlist : Result.ofList minimum lead [] alt = .ok r) :
      Lists start r mid

end Relations

end Separation

namespace Parser

open Scan Separation

variable {p q : Parser} {src : Source} {minimum : Nat} {leading trailing : Bool}

/-- What a separator and an item in sequence answer depends only on what each of them answers. -/
theorem nextItem_iff
    {i j : Nat}
    {r : Result}
    (hsteady : p.Steady src) :
    (p.nextItem q).Answers src i r j ↔ NextItem (p.Answers src) (q.Answers src) i r j := by
  constructor
  · rintro ⟨cur', hrun, rfl⟩
    rcases map_done hrun with ⟨_, _, _, _, hpair, hitem, rfl⟩ | ⟨_, _, hpair, rfl⟩
    · obtain ⟨_, _, _, mid, _, _, _, hq, hp, hmerge, rfl, rfl⟩ := andThen_success hpair
      have hseparator : q.Answers src i _ mid.offset := ⟨mid, hq, rfl⟩
      cases hitem
      exact .item hseparator (hsteady.answers hp) hmerge
    · rcases andThen_done hpair with
        ⟨_, _, hq, hr⟩ | ⟨_, _, _, mid, hq, ⟨_, _, _, _, -, -, hr⟩ | ⟨_, _, _, hp, hmax, hr⟩⟩
      · cases hr
        exact .noSeparator ⟨cur', hq, rfl⟩
      · cases hr
      · have hseparator : q.Answers src i _ mid.offset := ⟨mid, hq, rfl⟩
        cases hr
        exact .noItem hseparator (hsteady.answers hp) hmax
  · intro h
    cases h with
    | item hseparator hitem hmerge =>
        obtain ⟨mid, hq, rfl⟩ := hseparator
        obtain ⟨cur', hp, hcur'⟩ := hitem.run hsteady rfl
        exact ⟨cur', map_of_success (andThen_of_success hq hp hmerge) rfl, hcur'⟩
    | noSeparator hseparator =>
        obtain ⟨cur', hq, rfl⟩ := hseparator
        exact ⟨cur', map_of_failure (andThen_of_failure hq p) _, rfl⟩
    | noItem hseparator hitem hmax =>
        obtain ⟨mid, hq, rfl⟩ := hseparator
        obtain ⟨cur', hp, hcur'⟩ := hitem.run hsteady rfl
        exact ⟨cur', map_of_failure (andThen_of_success_failure hq hp hmax) _, hcur'⟩

section Rounds

variable {cur cur' : Cursor} {bound : Nat} {recovered : List Located} {outputs : List Value}
variable {alt : Option Located} {r : Result}

theorem separatedEnd_eq :
    separatedEnd minimum recovered outputs alt =
      ofExcept (Result.ofList minimum recovered outputs alt) := by
  unfold separatedEnd Result.ofList
  by_cases hlacks : outputs.length < minimum
  · rw [if_pos hlacks, if_pos hlacks]
  · rw [if_neg hlacks, if_neg hlacks]
    rfl

/-- A spare separator in front of a list is tried if it is allowed. -/
theorem leadingSeparator_iff
    {mid : Nat}
    (hsteady : q.Steady src) :
    (∃ cur', leadingSeparator q leading src cur = .done (recovered, alt) cur' ∧
        cur'.offset = mid) ↔
      Spare (q.Answers src) cur.offset leading recovered alt mid := by
  constructor
  · rintro ⟨cur', hrun, rfl⟩
    cases leading with
    | false =>
        cases hrun
        exact .unasked
    | true =>
        obtain ⟨result, stop, htry, hrest⟩ := bind_eq_done.1 hrun
        rw [tryParse_apply] at htry
        cases hq : q src cur with
        | halted cause mid =>
            rw [hq] at htry
            cases htry
        | done result' mid =>
            have hseparator := hsteady.answers hq
            rw [hq] at htry
            cases result' with
            | success recovered output alt =>
                cases htry
                cases hrest
                exact .found hseparator
            | failure recovered error =>
                cases htry
                cases hrest
                exact .missed hseparator
  · intro hspare
    cases hspare with
    | unasked => exact ⟨cur, rfl, rfl⟩
    | missed hseparator =>
        obtain ⟨mid, hq, -⟩ := hseparator.run hsteady rfl
        refine ⟨mid.moved cur.offset, ?_, rfl⟩
        unfold leadingSeparator
        simp only [if_true, bind_apply, tryParse_apply, hq, pure_apply]
    | found hseparator =>
        obtain ⟨mid, hq, hmid⟩ := hseparator.run hsteady rfl
        refine ⟨mid, ?_, hmid⟩
        unfold leadingSeparator
        simp only [if_true, bind_apply, tryParse_apply, hq, pure_apply]

section Steps

variable {recovered' : List Located} {output : Value} {alt' alt'' last : Option Located}
variable {stop : Nat} {dangling : List Located}

/-- A further item that is kept is followed by the next round. -/
theorem separatedFrom_of_item
    (hsteady : p.Steady src)
    (hsteady' : q.Steady src)
    (hanswers : NextItem (p.Answers src) (q.Answers src) cur.offset
      (.success recovered' output alt') stop)
    (hmerge : Located.mergeAlts alt alt' = .ok alt'')
    (hkept : ¬ (minimum ≤ outputs.length ∧ stop = cur.offset)) :
    ∃ cur', separatedFrom p q minimum trailing (bound + 1) recovered outputs alt src cur =
        separatedFrom p q minimum trailing bound (recovered ++ recovered') (outputs ++ [output])
          alt'' src cur' ∧
      cur'.offset = stop := by
  cases hanswers with
  | item hseparator hitem hreached =>
      obtain ⟨mid, hq, hmid⟩ := hseparator.run hsteady' rfl
      obtain ⟨cur', hp, rfl⟩ := hitem.run hsteady hmid
      refine ⟨cur', ?_, rfl⟩
      rw [separatedFrom]
      simp only [bind_apply, save_apply, hq, hp, Scan.mergeAlts, hreached, hmerge, ofExcept_ok,
        pure_apply, if_neg hkept]

variable (bound) in
/-- Where a separated list ends, it answers the items that it has. -/
theorem separatedFrom_of_ends
    (hsteady : p.Steady src)
    (hsteady' : q.Steady src)
    (hends : Ends (p.Answers src) (q.Answers src) minimum trailing outputs.length cur.offset last
      dangling stop)
    (hmerge : Located.mergeAlts alt last = .ok alt')
    (hlist : Result.ofList minimum (recovered ++ dangling) outputs alt' = .ok r) :
    ∃ cur', separatedFrom p q minimum trailing (bound + 1) recovered outputs alt src cur =
        .done r cur' ∧ cur'.offset = stop := by
  rw [separatedFrom]
  simp only [separatedEnd_eq]
  cases hends with
  | noSeparator hseparator =>
      obtain ⟨mid, hq, -⟩ := hseparator.run hsteady' rfl
      rw [List.append_nil] at hlist
      simp only [bind_apply, save_apply, hq, revert_apply, Scan.mergeAlts, hmerge, ofExcept_ok,
        pure_apply, hlist]
      exact ⟨_, rfl, rfl⟩
  | noItem hseparator hitem =>
      obtain ⟨mid, hq, rfl⟩ := hseparator.run hsteady' rfl
      obtain ⟨last, hp, -⟩ := hitem.run hsteady rfl
      cases trailing with
      | true =>
          simp only [if_true] at hlist
          simp only [bind_apply, save_apply, hq, hp, revert_apply, Scan.mergeAlts, hmerge,
            ofExcept_ok, pure_apply, hlist, if_true]
          exact ⟨_, rfl, rfl⟩
      | false =>
          simp only [Bool.false_eq_true, if_false, List.append_nil] at hlist
          simp only [bind_apply, save_apply, hq, hp, revert_apply, Scan.mergeAlts, hmerge,
            ofExcept_ok, pure_apply, hlist, Bool.false_eq_true, if_false]
          exact ⟨_, rfl, rfl⟩
  | stalled henough hanswers =>
      cases hanswers with
      | item hseparator hitem hreached =>
          obtain ⟨mid, hq, hmid⟩ := hseparator.run hsteady' rfl
          obtain ⟨cur', hp, hcur'⟩ := hitem.run hsteady hmid
          rw [List.append_nil] at hlist
          simp only [bind_apply, save_apply, hq, hp, Scan.mergeAlts, hreached, hmerge, ofExcept_ok,
            pure_apply, hlist, if_pos (And.intro henough hcur')]
          exact ⟨_, rfl, hcur'⟩

/-- One round of a separated list: a further item is kept and the next round follows, or the list
ends. -/
theorem separatedFrom_done
    (hsteady : p.Steady src)
    (hsteady' : q.Steady src)
    (hrun : separatedFrom p q minimum trailing (bound + 1) recovered outputs alt src cur =
      .done r cur') :
    (∃ recovered' output alt' alt'' mid,
        NextItem (p.Answers src) (q.Answers src) cur.offset
          (.success recovered' output alt') mid.offset ∧
        Located.mergeAlts alt alt' = .ok alt'' ∧
        ¬ (minimum ≤ outputs.length ∧ mid.offset = cur.offset) ∧
        separatedFrom p q minimum trailing bound (recovered ++ recovered') (outputs ++ [output])
          alt'' src mid = .done r cur') ∨
      ∃ last dangling alt',
        Ends (p.Answers src) (q.Answers src) minimum trailing outputs.length cur.offset last
          dangling cur'.offset ∧
        Located.mergeAlts alt last = .ok alt' ∧
        Result.ofList minimum (recovered ++ dangling) outputs alt' = .ok r := by
  rw [separatedFrom] at hrun
  simp only [separatedEnd_eq] at hrun
  obtain ⟨before, first, hsave, htried⟩ := bind_eq_done.1 hrun
  cases hsave
  obtain ⟨result, mid, hq, hbehind⟩ := bind_eq_done.1 htried
  have hseparator := hsteady'.answers hq
  cases result with
  | failure recovered' error =>
      obtain ⟨_, back, hrevert, hends⟩ := bind_eq_done.1 hbehind
      cases hrevert
      obtain ⟨alt', _, hmerged, hlisted⟩ := bind_eq_done.1 hends
      obtain ⟨hmerge, rfl⟩ := mergeAlts_eq_done.1 hmerged
      obtain ⟨hlist, rfl⟩ := ofExcept_eq_done.1 hlisted
      refine Or.inr ⟨_, [], alt', .noSeparator hseparator, hmerge, ?_⟩
      rw [List.append_nil]
      exact hlist
  | success recovered₁ output₁ alt₁ =>
      obtain ⟨after, _, hsave, htried'⟩ := bind_eq_done.1 hbehind
      cases hsave
      obtain ⟨result, last, hp, hrest⟩ := bind_eq_done.1 htried'
      have hitem := hsteady.answers hp
      cases result with
      | failure recovered₂ error =>
          obtain ⟨alt', _, hmerged, hends⟩ := bind_eq_done.1 hrest
          obtain ⟨hmerge, rfl⟩ := mergeAlts_eq_done.1 hmerged
          have hended : Ends (p.Answers src) (q.Answers src) minimum trailing outputs.length
              cur.offset _ _ _ := .noItem hseparator hitem
          cases trailing with
          | true =>
              obtain ⟨_, back, hrevert, hlisted⟩ := bind_eq_done.1 hends
              cases hrevert
              obtain ⟨hlist, rfl⟩ := ofExcept_eq_done.1 hlisted
              exact Or.inr ⟨_, _, alt', hended, hmerge, hlist⟩
          | false =>
              obtain ⟨_, back, hrevert, hlisted⟩ := bind_eq_done.1 hends
              cases hrevert
              obtain ⟨hlist, rfl⟩ := ofExcept_eq_done.1 hlisted
              refine Or.inr ⟨_, _, alt', hended, hmerge, ?_⟩
              simp only [Bool.false_eq_true, if_false, List.append_nil]
              exact hlist
      | success recovered₂ output alt₂ =>
          obtain ⟨reached, _, hfound, hmore⟩ := bind_eq_done.1 hrest
          obtain ⟨hreached, rfl⟩ := mergeAlts_eq_done.1 hfound
          obtain ⟨alt', last, hmerged, hcheck⟩ := bind_eq_done.1 hmore
          obtain ⟨hmerge, rfl⟩ := mergeAlts_eq_done.1 hmerged
          obtain ⟨after, _, hsave, hround⟩ := bind_eq_done.1 hcheck
          cases hsave
          have hanswers : NextItem (p.Answers src) (q.Answers src) cur.offset
              (.success (recovered₁ ++ recovered₂) output reached) last.offset :=
            .item hseparator hitem hreached
          by_cases hstall : minimum ≤ outputs.length ∧ last.offset = cur.offset
          · rw [if_pos hstall] at hround
            obtain ⟨_, stop, hreport, hlisted⟩ := bind_eq_done.1 hround
            cases hreport
            obtain ⟨hlist, rfl⟩ := ofExcept_eq_done.1 hlisted
            refine Or.inr ⟨reached, [], alt', ?_, hmerge, ?_⟩
            · show Ends (p.Answers src) (q.Answers src) minimum trailing outputs.length
                cur.offset reached [] last.offset
              rw [hstall.2] at hanswers ⊢
              exact .stalled hstall.1 hanswers
            · rw [List.append_nil]
              exact hlist
          · rw [if_neg hstall] at hround
            exact Or.inl ⟨_, output, reached, alt', last, hanswers, hmerge, hstall, hround⟩

end Steps

section Runs

variable {lead : List Located} {leadAlt : Option Located} {m : Match} {ms ms' : List Match}
variable {stop : Nat} {alt' : Option Located}
variable (hsteady : p.Steady src) (hsteady' : q.Steady src)
include hsteady hsteady'

/-- From the items that were kept so far, the rounds that are left do what a separated list does. -/
theorem ends_of_separatedFrom
    (hforward : p.Forward src)
    (hforward' : q.Forward src)
    (hkeeps : Keeps (NextItem (p.Answers src) (q.Answers src)) (minimum - 1) none m.stop ms
      cur.offset)
    (hmerge : mergeAll leadAlt ((m :: ms).map Match.alt) = .ok alt)
    (hrun : separatedFrom p q minimum trailing bound (lead ++ (m :: ms).flatMap Match.recovered)
      ((m :: ms).map Match.output) alt src cur = .done r cur') :
    ∃ ms' mid last dangling alt',
      Keeps (NextItem (p.Answers src) (q.Answers src)) (minimum - 1) none m.stop ms' mid ∧
      Ends (p.Answers src) (q.Answers src) minimum trailing (ms'.length + 1) mid last dangling
        cur'.offset ∧
      mergeAll leadAlt ((m :: ms').map Match.alt ++ [last]) = .ok alt' ∧
      Result.ofList minimum (lead ++ (m :: ms').flatMap Match.recovered ++ dangling)
        ((m :: ms').map Match.output) alt' = .ok r := by
  induction bound generalizing ms alt cur with
  | zero => cases hrun
  | succ bound ih =>
      have hstopped {last alt' : Option Located}
          (hlast : Located.mergeAlts alt last = .ok alt') :
          mergeAll leadAlt ((m :: ms).map Match.alt ++ [last]) = .ok alt' := by
        rw [Located.mergeAll_concat, hmerge]
        exact hlast
      rcases separatedFrom_done hsteady hsteady' hrun with
        ⟨recovered', output, alt', alt'', mid, hanswers, hmerged, hkept, hrest⟩ |
          ⟨last, dangling, alt', hends, hmerged, hlist⟩
      · have hback : cur.offset ≤ mid.offset := by
          cases hanswers with
          | item hseparator hitem =>
              exact Nat.le_trans (hforward'.le_of_answers hseparator) (hforward.le_of_answers hitem)
        let m' : Match := ⟨cur.offset, mid.offset, recovered', output, alt'⟩
        rw [List.length_map, List.length_cons] at hkept
        have hmore : Keeps (NextItem (p.Answers src) (q.Answers src)) (minimum - 1) none m.stop
            (ms ++ [m']) mid.offset :=
          hkeeps.concat (m := m') nofun rfl hanswers fun henough =>
            Nat.lt_of_le_of_ne hback fun heq => hkept ⟨by omega, heq.symm⟩
        have hmerge' : mergeAll leadAlt ((m :: (ms ++ [m'])).map Match.alt) = .ok alt'' := by
          rw [← List.cons_append, List.map_append]
          exact hstopped hmerged
        refine ih hmore hmerge' ?_
        rw [← List.cons_append, List.flatMap_append, List.map_append, List.flatMap_singleton,
          ← List.append_assoc]
        exact hrest
      · rw [List.length_map, List.length_cons] at hends
        exact ⟨ms, cur.offset, last, dangling, alt', hkeeps, hends, hstopped hmerged, hlist⟩

variable (trailing lead) in
/-- The rounds come to every list of items that a separated list may have kept. -/
theorem separatedFrom_reaches
    (hkeeps : Keeps (NextItem (p.Answers src) (q.Answers src)) (minimum - 1) none m.stop
      (ms ++ ms') stop)
    (hat : Chain (NextItem (p.Answers src) (q.Answers src)) m.stop ms cur.offset)
    (hmerge : mergeAll leadAlt ((m :: ms).map Match.alt) = .ok alt)
    (hall : mergeAll leadAlt ((m :: (ms ++ ms')).map Match.alt) = .ok alt')
    (bound : Nat) :
    ∃ cur' : Cursor, cur'.offset = stop ∧
      separatedFrom p q minimum trailing (bound + ms'.length)
          (lead ++ (m :: ms).flatMap Match.recovered) ((m :: ms).map Match.output) alt src cur =
        separatedFrom p q minimum trailing bound
          (lead ++ (m :: (ms ++ ms')).flatMap Match.recovered)
          ((m :: (ms ++ ms')).map Match.output) alt' src cur' := by
  induction ms' generalizing ms alt cur with
  | nil =>
      rw [List.append_nil] at hkeeps hall ⊢
      cases hmerge.symm.trans hall
      exact ⟨cur, hat.unique hkeeps.chain, rfl⟩
  | cons m' ms' ih =>
      obtain ⟨mid, hbefore, -, hstart, hanswers, hconsumes⟩ := hkeeps.of_append
      obtain rfl := hat.unique hbefore.chain
      rw [List.append_cons] at hkeeps hall ⊢
      obtain ⟨alt'', hmerge', -⟩ :
          ∃ alt'', mergeAll leadAlt ((m :: (ms ++ [m'])).map Match.alt) = .ok alt'' ∧ _ := by
        rw [← List.cons_append, List.map_append, Located.mergeAll_append] at hall
        exact bind_eq_ok.1 hall
      have hmerged : Located.mergeAlts alt m'.alt = .ok alt'' := by
        rw [← List.cons_append, List.map_append, List.map_singleton, Located.mergeAll_concat,
          hmerge] at hmerge'
        exact hmerge'
      have hkept : ¬ (minimum ≤ ((m :: ms).map Match.output).length ∧
          m'.stop = cur.offset) := by
        rintro ⟨henough, hstall⟩
        rw [List.length_map, List.length_cons] at henough
        have hlt := hconsumes (by omega)
        omega
      obtain ⟨mid, hround, hmid⟩ :=
        separatedFrom_of_item hsteady hsteady' hanswers hmerged hkept
      have hchain : Chain (NextItem (p.Answers src) (q.Answers src)) m.stop (ms ++ [m'])
          mid.offset := by
        rw [hmid]
        exact hat.append (.singleton hstart hanswers)
      obtain ⟨cur', hcur', hrest⟩ := ih hkeeps hchain hmerge' hall
      refine ⟨cur', hcur', ?_⟩
      rw [← hrest, ← List.cons_append, List.flatMap_append, List.map_append,
        List.flatMap_singleton, ← List.append_assoc]
      exact hround

end Runs

section Lists

variable {mid last : Cursor} {lead recovered' : List Located} {leadAlt alt' : Option Located}
variable {output : Value} {error : Located}

/-- A separated list that returns has tried its first item behind a spare separator, and then come
to its rounds, or to its end. -/
theorem separatedBy_done
    (hrun : separatedBy p q minimum leading trailing src cur = .done r cur') :
    ∃ lead leadAlt mid, leadingSeparator q leading src cur = .done (lead, leadAlt) mid ∧
      ((∃ recovered' output alt alt' last bound,
          p src mid = .done (.success recovered' output alt) last ∧
          Located.mergeAlts leadAlt alt = .ok alt' ∧
          separatedFrom p q minimum trailing bound (lead ++ recovered') [output] alt' src last =
            .done r cur') ∨
        ∃ recovered' error alt' last,
          p src mid = .done (.failure recovered' error) last ∧
          Located.mergeAlts leadAlt (some error) = .ok alt' ∧
          Result.ofList minimum lead [] alt' = .ok r ∧ cur' = last.moved mid.offset) := by
  obtain ⟨⟨lead, leadAlt⟩, mid, hlead, hfirst⟩ := bind_eq_done.1 hrun
  refine ⟨lead, leadAlt, mid, hlead, ?_⟩
  obtain ⟨result, stop, htry, hrest⟩ := bind_eq_done.1 hfirst
  rw [tryParse_apply] at htry
  cases hp : p src mid with
  | halted cause last =>
      rw [hp] at htry
      cases htry
  | done result' last =>
      rw [hp] at htry
      cases result' with
      | success recovered' output alt =>
          cases htry
          obtain ⟨alt', _, hmerged, hbounded⟩ := bind_eq_done.1 hrest
          obtain ⟨hmerge, rfl⟩ := mergeAlts_eq_done.1 hmerged
          obtain ⟨bound, _, hrounds, hround⟩ := bind_eq_done.1 hbounded
          cases hrounds
          exact Or.inl ⟨recovered', output, alt, alt', _, _, rfl, hmerge, hround⟩
      | failure recovered' error =>
          cases htry
          obtain ⟨alt', _, hmerged, hends⟩ := bind_eq_done.1 hrest
          obtain ⟨hmerge, rfl⟩ := mergeAlts_eq_done.1 hmerged
          rw [separatedEnd_eq] at hends
          obtain ⟨hlist, rfl⟩ := ofExcept_eq_done.1 hends
          exact Or.inr ⟨recovered', error, alt', last, rfl, hmerge, hlist, rfl⟩

/-- Rounds that return within some bound do so within the bound of a separated list. -/
theorem separatedBy_of_rounds
    (hforward : p.Forward src)
    (hforward' : q.Forward src)
    (hlead : leadingSeparator q leading src cur = .done (lead, leadAlt) mid)
    (hfirst : p src mid = .done (.success recovered' output alt) last)
    (hmerge : Located.mergeAlts leadAlt alt = .ok alt')
    (hrounds : separatedFrom p q minimum trailing bound (lead ++ recovered') [output] alt' src
      last = .done r cur') :
    separatedBy p q minimum leading trailing src cur = .done r cur' := by
  unfold separatedBy rounds
  simp only [bind_apply, hlead, tryParse_apply, hfirst, Scan.mergeAlts, hmerge, ofExcept_ok,
    pure_apply, save_apply]
  refine hforward.separatedFrom hforward' ?_ r cur' hrounds
  rw [List.length_singleton]
  omega

theorem separatedBy_of_failure
    (hlead : leadingSeparator q leading src cur = .done (lead, leadAlt) mid)
    (hfirst : p src mid = .done (.failure recovered' error) last)
    (hmerge : Located.mergeAlts leadAlt (some error) = .ok alt')
    (hlist : Result.ofList minimum lead [] alt' = .ok r) :
    separatedBy p q minimum leading trailing src cur = .done r (last.moved mid.offset) := by
  unfold separatedBy
  simp only [bind_apply, hlead, tryParse_apply, hfirst, Scan.mergeAlts, hmerge, ofExcept_ok,
    pure_apply, separatedEnd_eq, hlist]

variable {stop : Nat}

/-- What a separated list answers depends only on what its item and its separator answer. -/
theorem separatedBy_iff
    (hsteady : p.Steady src)
    (hsteady' : q.Steady src)
    (hforward : p.Forward src)
    (hforward' : q.Forward src) :
    (∃ cur', separatedBy p q minimum leading trailing src cur = .done r cur' ∧
        cur'.offset = stop) ↔
      Lists (p.Answers src) (q.Answers src) minimum leading trailing cur.offset r stop := by
  constructor
  · rintro ⟨cur', hrun, rfl⟩
    obtain ⟨lead, leadAlt, mid, hlead, hrest⟩ := separatedBy_done hrun
    have hspare := (leadingSeparator_iff hsteady').1 ⟨mid, hlead, rfl⟩
    rcases hrest with
      ⟨recovered', output, alt, alt', last, bound, hp, hmerge, hrounds⟩ |
        ⟨recovered', error, alt', last, hp, hmerge, hlist, rfl⟩
    · let m : Match := ⟨mid.offset, last.offset, recovered', output, alt⟩
      have hfirst : mergeAll leadAlt ([m].map Match.alt) = .ok alt' := by
        rw [List.map_singleton, Located.mergeAll_cons, hmerge]
        rfl
      rw [← List.append_nil recovered'] at hrounds
      obtain ⟨ms, _, _, _, _, hkeeps, hends, hall, hlist⟩ :=
        ends_of_separatedFrom hsteady hsteady' hforward hforward' .nil hfirst hrounds
      exact .items hspare (hsteady.answers hp) hkeeps hends hall hlist
    · have hfirst : p.Answers src mid.offset (.failure recovered' error) last.offset :=
        hsteady.answers hp
      exact .empty hspare hfirst hmerge hlist
  · intro hlists
    cases hlists with
    | @items lead dangling leadAlt last alt m ms _ _ _ hspare hfirst hkeeps hends hmerge hlist =>
        obtain ⟨start, hlead, hstart⟩ := (leadingSeparator_iff hsteady').2 hspare
        obtain ⟨first, hp, hstop⟩ := hfirst.run hsteady hstart
        rw [Located.mergeAll_concat] at hmerge
        obtain ⟨alt', hall, hlast⟩ := bind_eq_ok.1 hmerge
        obtain ⟨alt₁, hmerge₁, -⟩ : ∃ alt₁, Located.mergeAlts leadAlt m.alt = .ok alt₁ ∧ _ := by
          rw [List.map_cons, Located.mergeAll_cons] at hall
          exact bind_eq_ok.1 hall
        have halone : mergeAll leadAlt ([m].map Match.alt) = .ok alt₁ := by
          rw [List.map_singleton, Located.mergeAll_cons, hmerge₁]
          rfl
        have hat : Chain (NextItem (p.Answers src) (q.Answers src)) m.stop [] first.offset := hstop
        obtain ⟨mid, rfl, hreaches⟩ :=
          separatedFrom_reaches trailing lead hsteady hsteady' hkeeps hat halone hall 1
        rw [← List.length_cons (a := m), ← List.length_map Match.output] at hends
        obtain ⟨cur', hrun, hcur'⟩ :=
          separatedFrom_of_ends 0 hsteady hsteady' hends hlast hlist
        have hrounds := hreaches.trans hrun
        rw [List.flatMap_singleton] at hrounds
        exact ⟨cur', separatedBy_of_rounds hforward hforward' hlead hp hmerge₁ hrounds, hcur'⟩
    | empty hspare hfirst hmerge hlist =>
        obtain ⟨start, hlead, rfl⟩ := (leadingSeparator_iff hsteady').2 hspare
        obtain ⟨last, hp, -⟩ := hfirst.run hsteady rfl
        exact ⟨_, separatedBy_of_failure hlead hp hmerge hlist, rfl⟩

end Lists

end Rounds

end Parser

namespace Environment

/-- What a separated list of grammars answers depends only on what the item and the separator
answer. -/
theorem separatedBy_iff
    (env : Environment)
    (item separator : Grammar)
    (minimum : Nat)
    (leading trailing : Bool)
    (src : Source)
    (cur : Cursor)
    {r : Result}
    {stop : Nat} :
    (∃ cur', env.parser (item.separatedBy separator minimum leading trailing) src cur =
          .done r cur' ∧ cur'.offset = stop) ↔
      Separation.Lists ((env.parser item).Answers src) ((env.parser separator).Answers src)
        minimum leading trailing cur.offset r stop := by
  have hsteady : (item.parser (env.resolve (env.depth src))).Steady src := parser_steady
  have hsteady' : (separator.parser (env.resolve (env.depth src))).Steady src := parser_steady
  exact Parser.separatedBy_iff hsteady hsteady' (env.forward _ item src)
    (env.forward _ separator src)

end Environment
end Resync
