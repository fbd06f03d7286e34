import Resync.Proofs.Greedy.Splitting
import Resync.Proofs.Separated

/-!
# The grammar of a separated list

A separated list stands for a grammar that is made of other parts: an item, then a repetition of a
separator and an item in sequence, and an optional separator before and behind if this is allowed.
This module says what that grammar answers, in terms of what the item and the separator answer.
-/

namespace Resync

open Located (mergeAlts mergeAll)
open Repetition (Keeps Chain Returns)

/-- The grammar that a separated list stands for.  Its output is the first item, and the list of the
others. -/
def Grammar.listing
    (item separator : Grammar)
    (minimum : Nat)
    (leading trailing : Bool) :
    Grammar :=
  let items := item.andThen ((separator.ignoreThen item).repeated (minimum - 1) none)
  let led := if leading then separator.optional.ignoreThen items else items
  if trailing then led.thenIgnore separator.optional else led

/-- A result behind something that recovered and had an alternative. -/
def Result.behind (recovered : List Located) (alt : Option Located) : Result → Except Fault Result
  | success recovered' output alt' =>
      (mergeAlts alt alt').map (success (recovered ++ recovered') output)
  | failure recovered' error => (error.max alt).map (failure (recovered ++ recovered'))

/-- Behind nothing, a result is what it is. -/
theorem Result.behind_nothing (r : Result) : r.behind [] none = .ok r := by
  cases r with
  | success recovered output alt =>
      rw [behind, Located.mergeAlts_none_left]
      rfl
  | failure recovered error => rfl

namespace Separation

section Relations

variable (A B : Nat → Result → Nat → Prop) (minimum : Nat) (leading trailing : Bool)

/-- What an item answers with the further ones, of which `minimum - 1` are asked for. -/
inductive Items (start : Nat) : Result → Nat → Prop
  | all
      {recovered recovered' : List Located}
      {output : Value}
      {outputs : List Value}
      {alt alt' alt'' : Option Located}
      {mid stop : Nat}
      (hfirst : A start (.success recovered output alt) mid)
      (hothers : Returns (NextItem A B) (minimum - 1) none mid
        (.success recovered' (.list outputs) alt') stop)
      (hmerge : mergeAlts alt alt' = .ok alt'') :
      Items start (.success (recovered ++ recovered') (.tuple [output, .list outputs]) alt'') stop
  | noFirst
      {recovered : List Located}
      {error : Located}
      {stop : Nat}
      (hfirst : A start (.failure recovered error) stop) :
      Items start (.failure recovered error) stop
  | tooFew
      {recovered recovered' : List Located}
      {output : Value}
      {alt : Option Located}
      {error error' : Located}
      {mid stop : Nat}
      (hfirst : A start (.success recovered output alt) mid)
      (hothers : Returns (NextItem A B) (minimum - 1) none mid (.failure recovered' error) stop)
      (hmax : error.max alt = .ok error') :
      Items start (.failure (recovered ++ recovered') error') stop

/-- What becomes of a result if a spare separator may follow it. -/
inductive Trails : Result → Nat → Result → Nat → Prop
  | success
      {recovered dangling : List Located}
      {output : Value}
      {alt last alt' : Option Located}
      {mid stop : Nat}
      (htrail : Spare B mid trailing dangling last stop)
      (hmerge : mergeAlts alt last = .ok alt') :
      Trails (.success recovered output alt) mid (.success (recovered ++ dangling) output alt') stop
  | failure
      {recovered : List Located}
      {error : Located}
      {mid : Nat} :
      Trails (.failure recovered error) mid (.failure recovered error) mid

/-- What the grammar of a list answers, and where it leaves the cursor. -/
inductive Listing (start : Nat) : Result → Nat → Prop
  | intro
      {lead : List Located}
      {alt : Option Located}
      {r r' r'' : Result}
      {first mid stop : Nat}
      (hlead : Spare B start leading lead alt first)
      (hitems : Items A B minimum first r mid)
      (hbehind : r.behind lead alt = .ok r')
      (htrails : Trails B trailing r' mid r'' stop) :
      Listing start r'' stop

end Relations

end Separation

/-- Where no spare separator is allowed, a result is what it is. -/
theorem Separation.Trails.unasked
    (B : Nat → Result → Nat → Prop)
    (r : Result)
    (i : Nat) :
    Trails B false r i r i := by
  cases r with
  | failure recovered error => exact .failure
  | success recovered output alt =>
      have hspare : Spare B i false [] none i := .unasked
      have h : Trails B false (.success recovered output alt) i _ i :=
        .success hspare (Located.mergeAlts_none_right alt)
      rwa [List.append_nil] at h

namespace Parser

open Separation

variable {p q : Parser} {src : Source} {i j : Nat} {r : Result} {allowed : Bool}

/-- What a separator and an item answer, as a relation. -/
theorem nextItem_answers (hsteady : p.Steady src) :
    (p.nextItem q).Answers src = NextItem (p.Answers src) (q.Answers src) :=
  funext fun _ => funext fun _ => funext fun _ => propext (nextItem_iff hsteady)

section Spares

variable {recovered : List Located} {alt : Option Located}

/-- An optional separator is a spare one. -/
theorem spare_of_optional (h : q.optional.Answers src i r j) :
    ∃ recovered output alt, r = .success recovered output alt ∧
      Spare (q.Answers src) i true recovered alt j := by
  rcases h.of_optional with ⟨recovered, output, alt, hq, rfl⟩ | ⟨_, error, _, hq, rfl, rfl⟩
  · exact ⟨recovered, output, alt, rfl, .found hq⟩
  · exact ⟨[], .null, some error, rfl, .missed hq⟩

theorem optional_of_spare (h : Spare (q.Answers src) i true recovered alt j) :
    ∃ output, q.optional.Answers src i (.success recovered output alt) j := by
  cases h with
  | missed hq => exact ⟨.null, hq.optional_of_failure⟩
  | found hq => exact ⟨_, hq.optional_of_success⟩

/-- A parser behind a spare separator. -/
def behindSpare (p q : Parser) (allowed : Bool) : Parser :=
  if allowed then p.nextItem q.optional else p

/-- A parser before a spare separator. -/
def beforeSpare (p q : Parser) (allowed : Bool) : Parser :=
  if allowed then map (Action.itemAt 0) (andThen p q.optional) else p

theorem behindSpare_iff (hsteady : p.Steady src) :
    (p.behindSpare q allowed).Answers src i r j ↔
      ∃ lead alt mid r', Spare (q.Answers src) i allowed lead alt mid ∧
        p.Answers src mid r' j ∧ r'.behind lead alt = .ok r := by
  cases allowed with
  | false =>
      constructor
      · intro h
        exact ⟨[], none, i, r, .unasked, h, r.behind_nothing⟩
      · rintro ⟨lead, alt, mid, r', hspare, h, hbehind⟩
        cases hspare
        rw [Result.behind_nothing] at hbehind
        cases hbehind
        exact h
  | true =>
      refine (nextItem_iff (q := q.optional) hsteady).trans ⟨fun h => ?_, ?_⟩
      · cases h with
        | item hseparator hitem hmerge =>
            obtain ⟨_, _, _, hr, hspare⟩ := spare_of_optional hseparator
            cases hr
            exact ⟨_, _, _, _, hspare, hitem, map_eq_ok.2 ⟨_, hmerge, rfl⟩⟩
        | noSeparator hseparator =>
            obtain ⟨_, _, _, hr, -⟩ := spare_of_optional hseparator
            cases hr
        | noItem hseparator hitem hmax =>
            obtain ⟨_, _, _, hr, hspare⟩ := spare_of_optional hseparator
            cases hr
            exact ⟨_, _, _, _, hspare, hitem, map_eq_ok.2 ⟨_, hmax, rfl⟩⟩
      · rintro ⟨lead, alt, mid, r', hspare, hitem, hbehind⟩
        obtain ⟨output, hseparator⟩ := optional_of_spare hspare
        cases r' with
        | success recovered' output' alt' =>
            obtain ⟨alt'', hmerge, rfl⟩ := map_eq_ok.1 hbehind
            exact .item hseparator hitem hmerge
        | failure recovered' error =>
            obtain ⟨error', hmax, rfl⟩ := map_eq_ok.1 hbehind
            exact .noItem hseparator hitem hmax

theorem beforeSpare_iff (hsteady : q.Steady src) :
    (p.beforeSpare q allowed).Answers src i r j ↔
      ∃ r' mid, p.Answers src i r' mid ∧ Trails (q.Answers src) allowed r' mid r j := by
  cases allowed with
  | false =>
      constructor
      · exact fun h => ⟨r, j, h, .unasked _ r j⟩
      · rintro ⟨r', mid, h, htrails⟩
        cases htrails with
        | failure => exact h
        | success htrail hmerge =>
            cases htrail
            rw [Located.mergeAlts_none_right] at hmerge
            cases hmerge
            rw [List.append_nil]
            exact h
  | true =>
      constructor
      · rintro ⟨cur', hrun, rfl⟩
        rcases map_done hrun with ⟨_, _, _, _, hpair, hitem, rfl⟩ | ⟨_, _, hpair, rfl⟩
        · obtain ⟨_, _, _, mid, _, _, _, hp, hq, hmerge, rfl, rfl⟩ := andThen_success hpair
          obtain ⟨_, _, _, hr, hspare⟩ := spare_of_optional (hsteady.optional.answers hq)
          cases hr
          cases hitem
          exact ⟨_, _, ⟨mid, hp, rfl⟩, .success hspare hmerge⟩
        · rcases andThen_failure hpair with hp | ⟨mid, _, _, hq⟩
          · exact ⟨_, _, ⟨cur', hp, rfl⟩, .failure⟩
          · obtain ⟨_, _, _, hr, -⟩ := spare_of_optional (hsteady.optional.answers hq)
            cases hr
      · rintro ⟨r', mid, ⟨last, hp, rfl⟩, htrails⟩
        cases htrails with
        | failure => exact ⟨last, map_of_failure (andThen_of_failure hp _) _, rfl⟩
        | success htrail hmerge =>
            obtain ⟨output, hanswers⟩ := optional_of_spare htrail
            obtain ⟨cur', hq, hcur'⟩ := hanswers.run hsteady.optional rfl
            exact ⟨cur', map_of_success (andThen_of_success hp hq hmerge) rfl, hcur'⟩

end Spares

/-- An item and a repetition in sequence answer what they answer one after the other. -/
theorem items_iff
    {minimum : Nat}
    (hsteady : p.Steady src)
    (hforward : (p.nextItem q).Forward src)
    (hsteady' : (p.nextItem q).Steady src)
    (hsteady'' : ((p.nextItem q).repeated (minimum - 1) none).Steady src) :
    (p.andThen ((p.nextItem q).repeated (minimum - 1) none)).Answers src i r j ↔
      Items (p.Answers src) (q.Answers src) minimum i r j := by
  have hreturns {i j : Nat} {r : Result} :
      ((p.nextItem q).repeated (minimum - 1) none).Answers src i r j ↔
        Returns (NextItem (p.Answers src) (q.Answers src)) (minimum - 1) none i r j := by
    rw [← nextItem_answers hsteady]
    let start : Cursor := ⟨i, 0, []⟩
    show (∃ cur', (p.nextItem q).repeated (minimum - 1) none src start = .done r cur' ∧
      cur'.offset = j) ↔ Returns _ _ _ start.offset r j
    exact repeated_iff hsteady' hforward
  constructor
  · rintro ⟨cur', hrun, rfl⟩
    rcases andThen_done hrun with
      ⟨_, _, hp, rfl⟩ | ⟨_, _, _, mid, hp, ⟨_, _, _, _, hq, hmerge, rfl⟩ | ⟨_, _, _, hq, hmax, rfl⟩⟩
    · exact .noFirst ⟨cur', hp, rfl⟩
    · have hfirst : p.Answers src i _ mid.offset := ⟨mid, hp, rfl⟩
      have hothers := hreturns.1 (hsteady''.answers hq)
      obtain ⟨outputs, rfl⟩ := hothers.exists_list
      exact .all hfirst hothers hmerge
    · have hfirst : p.Answers src i _ mid.offset := ⟨mid, hp, rfl⟩
      exact .tooFew hfirst (hreturns.1 (hsteady''.answers hq)) hmax
  · intro h
    cases h with
    | all hfirst hothers hmerge =>
        obtain ⟨mid, hp, rfl⟩ := hfirst
        obtain ⟨cur', hq, hcur'⟩ := (hreturns.2 hothers).run hsteady'' rfl
        exact ⟨cur', andThen_of_success hp hq hmerge, hcur'⟩
    | noFirst hfirst =>
        obtain ⟨cur', hp, rfl⟩ := hfirst
        exact ⟨cur', andThen_of_failure hp _, rfl⟩
    | tooFew hfirst hothers hmax =>
        obtain ⟨mid, hp, rfl⟩ := hfirst
        obtain ⟨cur', hq, hcur'⟩ := (hreturns.2 hothers).run hsteady'' rfl
        exact ⟨cur', andThen_of_success_failure hp hq hmax, hcur'⟩

end Parser

namespace Environment

open Separation

/-- What the grammar of a list answers depends only on what the item and the separator answer. -/
theorem listing_iff
    (env : Environment)
    (item separator : Grammar)
    (minimum : Nat)
    (leading trailing : Bool)
    (src : Source)
    (cur : Cursor)
    {r : Result}
    {stop : Nat} :
    (∃ cur', env.parser (item.listing separator minimum leading trailing) src cur =
          .done r cur' ∧ cur'.offset = stop) ↔
      Listing ((env.parser item).Answers src) ((env.parser separator).Answers src)
        minimum leading trailing cur.offset r stop := by
  have hsteady (g : Grammar) : (g.parser (env.resolve (env.depth src))).Steady src :=
    parser_steady
  let p := item.parser (env.resolve (env.depth src))
  let q := separator.parser (env.resolve (env.depth src))
  let others := (separator.ignoreThen item).repeated (minimum - 1) none
  let items := (item.andThen others).parser (env.resolve (env.depth src))
  have hparser : (item.listing separator minimum leading trailing).parser
      (env.resolve (env.depth src)) = (items.behindSpare q leading).beforeSpare q trailing := by
    cases leading <;> cases trailing <;> rfl
  have hlisting : ((items.behindSpare q leading).beforeSpare q trailing).Steady src :=
    hparser ▸ hsteady _
  have hitems {i j : Nat} {r : Result} :
      items.Answers src i r j ↔ Items (p.Answers src) (q.Answers src) minimum i r j :=
    Parser.items_iff (hsteady item) (env.forward _ (separator.ignoreThen item) src)
      (hsteady (separator.ignoreThen item)) (hsteady others)
  show (∃ cur', (item.listing separator minimum leading trailing).parser
    (env.resolve (env.depth src)) src cur = .done r cur' ∧ cur'.offset = stop) ↔ _
  rw [hparser, hlisting.done_iff, Parser.beforeSpare_iff (hsteady separator)]
  constructor
  · rintro ⟨r', mid, hled, htrails⟩
    obtain ⟨lead, alt, first, r'', hlead, hanswers, hbehind⟩ :=
      (Parser.behindSpare_iff (hsteady (item.andThen others))).1 hled
    exact .intro hlead (hitems.1 hanswers) hbehind htrails
  · rintro ⟨hlead, hanswers, hbehind, htrails⟩
    have hled := (Parser.behindSpare_iff (q := q) (hsteady (item.andThen others))).2
      ⟨_, _, _, _, hlead, hitems.2 hanswers, hbehind⟩
    exact ⟨_, _, hled, htrails⟩

end Environment
end Resync
