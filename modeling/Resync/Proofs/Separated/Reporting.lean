import Resync.Proofs.Peg
import Resync.Proofs.Separated.Accepting

/-!
# What a separated list reports

A separated list reports less than the grammar that it stands for.  Where a separator is matched and
no item follows, it drops the alternative of the separator.  Where there are too few items, it drops
what the last attempt recovered from, be it in the item or in the separator before it.  Apart from
this both report the same.
-/

namespace Resync

open Located (mergeAlts mergeAll AltIsDetailed)
open Repetition (Keeps Chain HasRoom Returns Stops Single Stuck OfKind Detailed)

/-- A list that lacks items fails with the alternative that it has. -/
theorem Result.ofList_of_lacking
    {minimum : Nat}
    {outputs : List Value}
    (hlacks : outputs.length < minimum)
    (recovered : List Located)
    (error : Located) :
    ofList minimum recovered outputs (some error) = .ok (.failure recovered error) :=
  if_pos hlacks

/-- A list that lacks items does nothing but fail. -/
theorem Result.exists_failure_of_ofList
    {minimum : Nat}
    {recovered : List Located}
    {outputs : List Value}
    {alt : Option Located}
    {r : Result}
    (hlacks : outputs.length < minimum)
    (h : ofList minimum recovered outputs alt = .ok r) :
    ∃ error, alt = some error ∧ r = .failure recovered error := by
  rw [ofList, if_pos hlacks] at h
  cases alt with
  | none => cases h
  | some error =>
      cases h
      exact ⟨error, rfl, rfl⟩

/-- A list that fails lacks items. -/
theorem Result.ofList_failure
    {minimum : Nat}
    {recovered recovered' : List Located}
    {outputs : List Value}
    {alt : Option Located}
    {error : Located}
    (h : ofList minimum recovered outputs alt = .ok (.failure recovered' error)) :
    outputs.length < minimum ∧ recovered' = recovered ∧ alt = some error := by
  by_cases hlacks : outputs.length < minimum
  · obtain ⟨_, rfl, hr⟩ := exists_failure_of_ofList hlacks h
    cases hr
    exact ⟨hlacks, rfl, rfl⟩
  · rw [ofList, if_neg hlacks] at h
    cases h

namespace Separation

section Relations

variable (A B : Nat → Result → Nat → Prop)

/-- Whether no answer has recovered from anything. -/
def Clean (A : Nat → Result → Nat → Prop) : Prop :=
  ∀ ⦃i j : Nat⦄ ⦃r : Result⦄, A i r j → r.recovered = []

/-- The alternative of a separator that is matched at a place although no item follows it; there is
none if there is no such separator. -/
inductive Unfollowed (i : Nat) : Option Located → Prop
  | separator
      {recovered recovered' : List Located}
      {output : Value}
      {alt : Option Located}
      {error : Located}
      {mid j : Nat}
      (hseparator : B i (.success recovered output alt) mid)
      (hitem : A mid (.failure recovered' error) j) :
      Unfollowed i alt
  | nothing
      (hnone : ∀ recovered output alt mid, B i (.success recovered output alt) mid →
        ∀ recovered' error j, ¬ A mid (.failure recovered' error) j) :
      Unfollowed i none

variable (minimum : Nat)

/-- How there are too few items from `start` on: what the items and the separators before have
recovered from, and what the attempt to find another item has. -/
inductive Lacks (start : Nat) : List Located → List Located → Prop
  | first
      {attempted : List Located}
      {error : Located}
      {stop : Nat}
      (hfirst : A start (.failure attempted error) stop) :
      Lacks start [] attempted
  | further
      {attempted : List Located}
      {m : Match}
      {ms : List Match}
      {mid : Nat}
      (hstart : m.start = start)
      (hfirst : A m.start m.result m.stop)
      (hothers : Chain (NextItem A B) m.stop ms mid)
      (hlacks : ms.length + 1 < minimum)
      (hnone : NoItem A B mid attempted) :
      Lacks start ((m :: ms).flatMap Match.recovered) attempted

end Relations

variable {A B : Nat → Result → Nat → Prop} {kind : Diagnostic → Prop}
variable {minimum least count count' : Nat} {start stop stop' i j : Nat}
variable {recovered : List Located} {output : Value} {error : Located}
variable {alt last last' missing : Option Located} {r : Result}

section Plain

/-- The grammar of a list without spare separators is that of its items. -/
theorem listing_plain_iff :
    Listing A B minimum false false start r stop ↔ Items A B minimum start r stop := by
  constructor
  · rintro ⟨hlead, hitems, hbehind, htrails⟩
    cases hlead
    rw [Result.behind_nothing] at hbehind
    cases hbehind
    cases htrails with
    | failure => exact hitems
    | success htrail hmerge =>
        cases htrail
        rw [Located.mergeAlts_none_right] at hmerge
        cases hmerge
        rw [List.append_nil]
        exact hitems
  · exact fun hitems =>
      .intro .unasked hitems r.behind_nothing (.unasked B r stop)

end Plain

/-- Where no separator is kept behind the last item, a list ends behind that item. -/
theorem Ends.plain (h : Ends A B minimum false count i last recovered stop) :
    recovered = [] ∧ stop = i := by
  cases h with
  | noSeparator => exact ⟨rfl, rfl⟩
  | noItem => exact ⟨rfl, rfl⟩
  | stalled => exact ⟨rfl, rfl⟩

/-- The alternative of a separator that no item follows is of the kind. -/
theorem Unfollowed.ofKind
    (h : Unfollowed A B i missing)
    (hB : OfKind B kind) :
    ∀ l ∈ missing, kind l.error := by
  cases h with
  | separator hseparator _ => exact hB.of_success hseparator
  | nothing => exact nofun

/-- There is a separator that no item follows, or there is none. -/
theorem exists_unfollowed (A B : Nat → Result → Nat → Prop) (i : Nat) :
    ∃ missing, Unfollowed A B i missing := by
  by_cases hsome : ∃ recovered output alt mid, B i (.success recovered output alt) mid ∧
      ∃ recovered' error j, A mid (.failure recovered' error) j
  · obtain ⟨_, _, alt, _, hseparator, _, _, _, hitem⟩ := hsome
    exact ⟨alt, .separator hseparator hitem⟩
  · refine ⟨none, .nothing fun _ _ _ _ hseparator _ _ _ hitem => hsome ?_⟩
    exact ⟨_, _, _, _, hseparator, _, _, _, hitem⟩

/-- The alternative of a separated list is of the kind. -/
theorem Lists.ofKind
    {leading trailing : Bool}
    (h : Lists A B minimum leading trailing start (.success recovered output alt) stop)
    (hkind : Diagnostic.Compatible kind)
    (hA : OfKind A kind)
    (hB : OfKind B kind) :
    ∀ l ∈ alt, kind l.error := by
  cases h with
  | items hlead hfirst hkeeps hends hmerge hlist =>
      obtain ⟨-, -, -, rfl⟩ := Result.ofList_success hlist
      obtain ⟨c, hmerge', hc⟩ := exists_mergeAll_items hkind hA hB (hlead.ofKind hB) hfirst
        hkeeps.chain (hends.ofKind hkind hA hB)
      cases hmerge.symm.trans hmerge'
      exact hc
  | @empty _ _ _ _ error _ _ _ hlead hfirst hmerge hlist =>
      obtain ⟨-, -, -, rfl⟩ := Result.ofList_success hlist
      have herror : ∀ l ∈ some error, kind l.error :=
        fun l hl => Option.mem_some.1 hl ▸ hA.of_failure hfirst
      obtain ⟨c, hmerge', hc⟩ :=
        Located.exists_mergeAlts_of_compatible hkind (hlead.ofKind hB) herror
      cases hmerge.symm.trans hmerge'
      exact hc

/-- Where a separated list ends although it lacks items, there is no further item. -/
theorem NoItem.of_ends_of_lacking
    {trailing : Bool}
    (h : Ends A B minimum trailing count i last recovered stop)
    (hlacks : count < minimum) :
    ∃ attempted, NoItem A B i attempted := by
  cases h with
  | noSeparator hseparator => exact ⟨_, .noSeparator hseparator⟩
  | noItem hseparator hitem => exact ⟨_, .noItem hseparator hitem⟩
  | stalled henough _ => exact absurd hlacks (Nat.not_lt.2 henough)

section Alternatives

variable (hA : Single A) (hB : Single B)
include hA hB

/-- Without recovery, a separated list ends where a repetition of a separator and an item stops.
The repetition finds the same alternative, with that of a separator that no item follows. -/
theorem stops_iff_ends
    (hcleanA : Clean A)
    (hcleanB : Clean B)
    (henough : least ≤ count)
    (henough' : minimum ≤ count') :
    Stops (NextItem A B) least none count i last' ↔
      ∃ last missing, Ends A B minimum false count' i last [] i ∧
        Unfollowed A B i missing ∧ mergeAlts last missing = .ok last' := by
  have hroom : HasRoom none count := nofun
  constructor
  · intro h
    cases h with
    | full hfull => exact absurd hroom hfull
    | stalled _ _ hanswers =>
        refine ⟨last', none, .stalled henough' hanswers, .nothing ?_,
          Located.mergeAlts_none_right last'⟩
        cases hanswers with
        | item hseparator hitem _ =>
            intro _ _ _ _ hseparator' _ _ _ hitem'
            obtain ⟨-, rfl⟩ := hB hseparator hseparator'
            cases (hA hitem hitem').1
    | failed _ _ hanswers hreached =>
        cases hanswers with
        | noSeparator hseparator =>
            obtain rfl : _ = [] := hcleanB hseparator
            cases hreached
            refine ⟨_, none, .noSeparator hseparator, .nothing ?_, rfl⟩
            intro _ _ _ _ hseparator' _ _ _ _
            cases (hB hseparator hseparator').1
        | noItem hseparator hitem hmax =>
            obtain rfl : _ = [] := hcleanB hseparator
            obtain rfl : _ = [] := hcleanA hitem
            cases hreached
            have hends : Ends A B minimum false count' i _ _ _ := .noItem hseparator hitem
            refine ⟨_, _, hends, .separator hseparator hitem, ?_⟩
            rw [Located.mergeAlts_some_left, hmax]
            rfl
  · rintro ⟨last, missing, hends, hunfollowed, hmerge⟩
    cases hends with
    | noSeparator hseparator =>
        cases hunfollowed with
        | separator hseparator' => cases (hB hseparator hseparator').1
        | nothing =>
            cases hmerge
            obtain rfl : _ = [] := hcleanB hseparator
            exact .failed hroom henough (.noSeparator hseparator) rfl
    | noItem hseparator hitem =>
        cases hunfollowed with
        | nothing hnone => exact absurd hitem (hnone _ _ _ _ hseparator _ _ _)
        | separator hseparator' hitem' =>
            obtain ⟨hr, rfl⟩ := hB hseparator hseparator'
            cases hr
            rw [Located.mergeAlts_some_left] at hmerge
            obtain ⟨error, hmax, rfl⟩ := map_eq_ok.1 hmerge
            obtain rfl : _ = [] := hcleanB hseparator
            obtain rfl : _ = [] := hcleanA hitem
            exact .failed hroom henough (.noItem hseparator hitem hmax) rfl
    | stalled _ hanswers =>
        cases hunfollowed with
        | nothing =>
            rw [Located.mergeAlts_none_right] at hmerge
            cases hmerge
            exact .stalled hroom henough hanswers
        | separator hseparator' hitem' =>
            cases hanswers with
            | item hseparator hitem _ =>
                obtain ⟨-, rfl⟩ := hB hseparator hseparator'
                cases (hA hitem hitem').1

variable {first : Value} {others : List Value} {alt' : Option Located}

/-- Without recovery, the grammar of a list succeeds like the separated list, but for the
alternative of a separator that no item follows. -/
theorem listing_success_iff
    (hcleanA : Clean A)
    (hcleanB : Clean B)
    (hdetailedA : Detailed A)
    (hdetailedB : Detailed B) :
    Listing A B minimum false false start
        (.success recovered (.tuple [first, .list others]) alt') stop ↔
      ∃ alt missing, Lists A B minimum false false start
          (.success recovered (.list (first :: others)) alt) stop ∧
        Unfollowed A B stop missing ∧ mergeAlts alt missing = .ok alt' := by
  have hkind := Diagnostic.compatible_isDetailed
  have hnext : OfKind (NextItem A B) Diagnostic.IsDetailed :=
    NextItem.ofKind hkind hdetailedA hdetailedB
  have hmerges {m : Match} {ms : List Match} {mid : Nat} {last missing last' : Option Located}
      (hfirst : A m.start m.result m.stop)
      (hothers : Chain (NextItem A B) m.stop ms mid)
      (hends : Ends A B minimum false (ms.length + 1) mid last [] mid)
      (hunfollowed : Unfollowed A B mid missing)
      (hlast : mergeAlts last missing = .ok last') :
      (∃ c, mergeAll none (ms.map Match.alt ++ [last']) = .ok c ∧ mergeAlts m.alt c = .ok alt') ↔
        ∃ c, mergeAll none ((m :: ms).map Match.alt ++ [last]) = .ok c ∧
          mergeAlts c missing = .ok alt' := by
    exact Located.mergeAll_first_iff (OfKind.of_success hdetailedA hfirst) (hnext.alts hothers)
      (hends.ofKind hkind hdetailedA hdetailedB) (hunfollowed.ofKind hdetailedB) hlast
  rw [listing_plain_iff]
  constructor
  · intro h
    cases h with
    | @all recovered _ _ _ alt _ _ mid _ hfirst hothers hmerge =>
        cases hothers with
        | @success ms _ _ _ hkeeps hstops hall =>
            let m : Match := ⟨start, mid, recovered, first, alt⟩
            have hfirst : A m.start m.result m.stop := hfirst
            have henough := Nat.le_add_of_sub_le (hstops.enough hkeeps nofun)
            obtain ⟨last, missing, hends, hunfollowed, hlast⟩ :=
              (stops_iff_ends hA hB hcleanA hcleanB (hstops.enough hkeeps nofun) henough).1 hstops
            obtain ⟨alt, hall', hmerge'⟩ :=
              (hmerges hfirst hkeeps.chain hends hunfollowed hlast).1 ⟨_, hall, hmerge⟩
            have hlists : Lists A B minimum false false start _ stop :=
              .of_enough .unasked hfirst hkeeps henough hends hall'
            rw [List.nil_append, List.append_nil] at hlists
            exact ⟨alt, missing, hlists, hunfollowed, hmerge'⟩
  · rintro ⟨alt, missing, hlists, hunfollowed, hmerge⟩
    cases hlists with
    | empty _ _ _ hlist =>
        obtain ⟨-, -, houtputs, -⟩ := Result.ofList_success hlist
        cases houtputs
    | @items _ _ _ last _ m ms mid _ _ hlead hfirst hkeeps hends hall hlist =>
        obtain ⟨henough, rfl, houtputs, rfl⟩ := Result.ofList_success hlist
        cases houtputs
        cases hlead
        obtain ⟨rfl, rfl⟩ := hends.plain
        rw [List.length_map, List.length_cons] at henough
        obtain ⟨last', hlast, -⟩ := Located.exists_mergeAlts_of_compatible hkind
          (hends.ofKind hkind hdetailedA hdetailedB) (hunfollowed.ofKind hdetailedB)
        have hstops : Stops (NextItem A B) (minimum - 1) none ms.length stop last' :=
          (stops_iff_ends hA hB hcleanA hcleanB (Nat.sub_le_of_le_add henough) henough).2
            ⟨last, missing, hends, hunfollowed, hlast⟩
        obtain ⟨_, hall', hmerge'⟩ :=
          (hmerges hfirst hkeeps.chain hends hunfollowed hlast).2 ⟨_, hall, hmerge⟩
        rw [List.nil_append, List.append_nil]
        exact .all hfirst (.success hkeeps hstops hall') hmerge'

omit hA hB in
/-- A separated list that asks for an item only fails where there is none. -/
theorem lists_failure_iff :
    Lists A B 1 false false start (.failure recovered error) stop ↔
      recovered = [] ∧ stop = start ∧
        ∃ attempted stop', A start (.failure attempted error) stop' := by
  constructor
  · intro h
    cases h with
    | items _ _ _ _ _ hlist =>
        obtain ⟨hlacks, -⟩ := Result.ofList_failure hlist
        rw [List.length_map, List.length_cons] at hlacks
        omega
    | empty hlead hfirst hmerge hlist =>
        cases hlead
        cases hmerge
        obtain ⟨-, rfl, herror⟩ := Result.ofList_failure hlist
        cases herror
        exact ⟨rfl, rfl, _, _, hfirst⟩
  · rintro ⟨rfl, rfl, attempted, stop', hfirst⟩
    exact .empty .unasked hfirst rfl (Result.ofList_of_lacking Nat.one_pos _ error)

omit hA hB in
/-- The grammar of a list that asks for an item only fails where there is none. -/
theorem listing_failure_iff :
    Listing A B 1 false false start (.failure recovered error) stop ↔
      A start (.failure recovered error) stop := by
  rw [listing_plain_iff]
  constructor
  · intro h
    cases h with
    | noFirst hfirst => exact hfirst
    | tooFew _ hothers _ =>
        cases hothers with
        | failure _ _ hlacks => exact absurd hlacks (Nat.not_lt_zero _)
  · exact .noFirst

end Alternatives

section Recoveries

variable {kept attempted : List Located}

/-- A separated list that fails lacks items. -/
theorem Lacks.of_lists (h : Lists A B minimum false false start (.failure recovered error) stop) :
    ∃ attempted, Lacks A B minimum start recovered attempted := by
  cases h with
  | empty hlead hfirst _ hlist =>
      cases hlead
      obtain ⟨-, rfl, -⟩ := Result.ofList_failure hlist
      exact ⟨_, .first hfirst⟩
  | items hlead hfirst hkeeps hends _ hlist =>
      obtain ⟨hlacks, rfl, -⟩ := Result.ofList_failure hlist
      cases hlead
      rw [List.length_map, List.length_cons] at hlacks
      rw [List.nil_append, hends.plain.1, List.append_nil]
      obtain ⟨attempted, hnone⟩ := NoItem.of_ends_of_lacking hends hlacks
      exact ⟨attempted, .further rfl hfirst hkeeps.chain hlacks hnone⟩

/-- The grammar of a list that fails lacks items, and nothing that was recovered from is lost. -/
theorem Lacks.of_listing
    (h : Listing A B minimum false false start (.failure recovered error) stop) :
    ∃ kept attempted, recovered = kept ++ attempted ∧
      Lacks A B minimum start kept attempted := by
  rw [listing_plain_iff] at h
  cases h with
  | noFirst hfirst => exact ⟨[], recovered, rfl, .first hfirst⟩
  | @tooFew recovered _ output alt _ _ mid _ hfirst hothers _ =>
      cases hothers with
      | @failure ms _ _ _ _ _ hkeeps _ hlacks hanswers _ =>
          let m : Match := ⟨start, mid, recovered, output, alt⟩
          have hfirst : A m.start m.result m.stop := hfirst
          refine ⟨(m :: ms).flatMap Match.recovered, _, (List.append_assoc _ _ _).symm,
            .further rfl hfirst hkeeps.chain (Nat.add_lt_of_lt_sub hlacks) ?_⟩
          exact .of_failure hanswers

/-- A separated list that lacks items only fails, without what the last attempt has recovered
from. -/
theorem Lacks.lists
    (h : Lacks A B minimum start kept attempted)
    (hA : Single A)
    (hB : Single B)
    (hminimum : 0 < minimum)
    (h' : Lists A B minimum false false start r stop) :
    ∃ error, r = .failure kept error := by
  cases h with
  | first hfirst =>
      cases h' with
      | items hlead hfirst' =>
          cases hlead
          cases (hA hfirst hfirst').1
      | empty hlead hfirst' _ hlist =>
          cases hlead
          obtain ⟨error, -, hr⟩ := Result.exists_failure_of_ofList hminimum hlist
          exact ⟨error, hr⟩
  | @further _ m ms mid hstart hfirst hothers hlacks hnone =>
      cases h' with
      | empty hlead hfirst' =>
          cases hlead
          rw [hstart] at hfirst
          cases (hA hfirst hfirst').1
      | @items _ _ _ _ _ m' ms' _ _ _ hlead hfirst' hkeeps hends _ hlist =>
          cases hlead
          rw [hstart] at hfirst
          obtain ⟨hresult, hstop⟩ := hA hfirst hfirst'
          obtain rfl := Match.eq_of_result hstart hresult hstop
          have hsingle := NextItem.single hA hB
          have hstuck := hnone.stuck hA hB
          obtain ⟨rest, hms, -⟩ := hothers.exists_rest hsingle hstuck hkeeps.chain
          have hlacks' : ms'.length + 1 < minimum := by
            rw [hms, List.length_append] at hlacks
            omega
          obtain ⟨_, hnone'⟩ := NoItem.of_ends_of_lacking hends hlacks'
          obtain ⟨rfl, rfl⟩ :=
            hothers.unique_of_stuck hkeeps.chain hsingle hstuck (hnone'.stuck hA hB)
          rw [← List.length_cons, ← List.length_map Match.output] at hlacks'
          rw [List.nil_append, hends.plain.1, List.append_nil] at hlist
          obtain ⟨error, -, hr⟩ := Result.exists_failure_of_ofList hlacks' hlist
          exact ⟨error, hr⟩

/-- The grammar of a list that lacks items only fails, with all that was recovered from. -/
theorem Lacks.listing
    (h : Lacks A B minimum start kept attempted)
    (hA : Single A)
    (hB : Single B)
    (h' : Listing A B minimum false false start r stop) :
    ∃ error, r = .failure (kept ++ attempted) error := by
  rw [listing_plain_iff] at h'
  cases h with
  | first hfirst =>
      cases h' with
      | all hfirst' => cases (hA hfirst hfirst').1
      | noFirst hfirst' =>
          cases (hA hfirst hfirst').1
          exact ⟨_, rfl⟩
      | tooFew hfirst' => cases (hA hfirst hfirst').1
  | @further _ m ms mid hstart hfirst hothers hlacks hnone =>
      rw [hstart] at hfirst
      have hsingle := NextItem.single hA hB
      have hstuck := hnone.stuck hA hB
      cases h' with
      | noFirst hfirst' => cases (hA hfirst hfirst').1
      | all hfirst' hothers' _ =>
          obtain ⟨-, rfl⟩ := hA hfirst hfirst'
          cases hothers' with
          | success hkeeps hstops _ =>
              obtain ⟨rest, rfl, -⟩ := hothers.exists_rest hsingle hstuck hkeeps.chain
              have henough := hstops.enough hkeeps nofun
              rw [List.length_append] at hlacks
              omega
      | tooFew hfirst' hothers' _ =>
          obtain ⟨hr, rfl⟩ := hA hfirst hfirst'
          cases hr
          cases hothers' with
          | failure hkeeps _ _ hanswers _ =>
              have hnone' := NoItem.of_failure hanswers
              obtain ⟨rfl, rfl⟩ :=
                hothers.unique_of_stuck hkeeps.chain hsingle hstuck (hnone'.stuck hA hB)
              obtain rfl := hnone.unique hnone' hA hB
              rw [List.flatMap_cons, List.append_assoc]
              exact ⟨_, rfl⟩

/-- A separated list that lacks items fails if diagnostics can be merged. -/
theorem Lacks.exists_lists
    (h : Lacks A B minimum start kept attempted)
    (hB : Single B)
    (hminimum : 0 < minimum)
    (hkind : Diagnostic.Compatible kind)
    (hkindA : OfKind A kind)
    (hkindB : OfKind B kind) :
    ∃ r stop, Lists A B minimum false false start r stop := by
  cases h with
  | first hfirst =>
      exact ⟨_, _, .empty .unasked hfirst rfl (Result.ofList_of_lacking hminimum _ _)⟩
  | @further _ m ms mid hstart hfirst hothers hlacks hnone =>
      obtain ⟨error, hends⟩ := hnone.ends hB .unasked minimum (ms.length + 1)
      have hbefore : ∀ l ∈ (none : Option Located), kind l.error := nofun
      obtain ⟨alt, hmerge, -⟩ := exists_mergeAll_items hkind hkindA hkindB hbefore hfirst hothers
        (hends.ofKind hkind hkindA hkindB)
      obtain ⟨error', rfl⟩ : ∃ error', alt = some error' := by
        rw [Located.mergeAll_concat] at hmerge
        obtain ⟨_, -, hlast⟩ := bind_eq_ok.1 hmerge
        exact Located.exists_some_of_mergeAlts hlast
      have hkeeps : Keeps (NextItem A B) (minimum - 1) none m.stop ms mid :=
        .of_lacking hothers nofun (Nat.lt_sub_of_add_lt hlacks)
      subst hstart
      rw [← List.length_cons, ← List.length_map Match.output] at hlacks
      exact ⟨_, _, .items .unasked hfirst hkeeps hends hmerge
        (Result.ofList_of_lacking hlacks _ error')⟩

/-- The grammar of a list that lacks items fails if diagnostics can be merged. -/
theorem Lacks.exists_listing
    (h : Lacks A B minimum start kept attempted)
    (hkind : Diagnostic.Compatible kind)
    (hkindA : OfKind A kind)
    (hkindB : OfKind B kind) :
    ∃ r stop, Listing A B minimum false false start r stop := by
  simp only [listing_plain_iff]
  cases h with
  | first hfirst => exact ⟨_, _, .noFirst hfirst⟩
  | @further _ m ms mid hstart hfirst hothers hlacks hnone =>
      have hnext := NextItem.ofKind hkind hkindA hkindB
      have hbefore : ∀ l ∈ (none : Option Located), kind l.error := nofun
      obtain ⟨error, stop, hfails⟩ := hnone.exists_failure hkind hkindA hkindB
      obtain ⟨_, hmerge, -⟩ :=
        Located.exists_mergeAll_of_compatible hkind hbefore (hnext.alts hothers)
      obtain ⟨error', hmax, -⟩ := Located.exists_max_of_compatible hkind
        (hnext.of_failure hfails) (hkindA.of_success hfirst)
      have hlacks' : ms.length < minimum - 1 := Nat.lt_sub_of_add_lt hlacks
      subst hstart
      exact ⟨_, _, .tooFew hfirst
        (.failure (.of_lacking hothers nofun hlacks') nofun hlacks' hfails hmerge) hmax⟩

end Recoveries

end Separation

namespace Environment

open Repetition Separation

/-- A grammar that is free of recovery recovers from nothing. -/
theorem clean_of_recoveryFree
    {env : Environment}
    {g : Grammar}
    {src : Source}
    (hfree : env.Within Grammar.IsRecoveryFree g) :
    Clean ((env.parser g).Answers src) := by
  rintro i j r ⟨cur', hrun, -⟩
  exact (g.recognizes (env.resolve_recognizes _) hfree _ r cur' hrun).1

/-- **A separated list drops the alternative of a separator that no item follows.**  Let the item
and the separator never recover, and let their diagnostics keep their contents.  Then let the
separated list and its grammar be run from any cursor, both asking for an item.

* One of them fails if and only if the other one does, with the same failure.
* The grammar succeeds with the items of a separated list, at the same place, and with its
  alternative, into which is merged that of a separator that was matched there although the item
  fails behind it.  If there is no such separator, the alternative is the same.
* So they succeed together: there is always an alternative that comes of this. -/
theorem separatedBy_reports
    (env : Environment)
    (src : Source)
    (item separator : Grammar)
    (cur : Cursor)
    (hcleanA : Clean ((env.parser item).Answers src))
    (hcleanB : Clean ((env.parser separator).Answers src))
    (hdetailedA : Detailed ((env.parser item).Answers src))
    (hdetailedB : Detailed ((env.parser separator).Answers src)) :
    let A := (env.parser item).Answers src
    let B := (env.parser separator).Answers src
    let list := env.parser (item.separatedBy separator 1 false false) src cur
    let reference := env.parser (item.listing separator 1 false false) src cur
    (∀ recovered error,
      (∃ cur', list = .done (.failure recovered error) cur') ↔
        ∃ cur', reference = .done (.failure recovered error) cur') ∧
      (∀ recovered first others alt' stop,
        (∃ cur', reference = .done (.success recovered (.tuple [first, .list others]) alt') cur' ∧
            cur'.offset = stop) ↔
          ∃ alt missing, (∃ cur', list = .done (.success recovered (.list (first :: others)) alt)
              cur' ∧ cur'.offset = stop) ∧
            Unfollowed A B stop missing ∧ mergeAlts alt missing = .ok alt') ∧
      ∀ recovered first others alt cur',
        list = .done (.success recovered (.list (first :: others)) alt) cur' →
          ∃ missing alt', Unfollowed A B cur'.offset missing ∧
            mergeAlts alt missing = .ok alt' := by
  intro A B list reference
  have hA : Single A := single_answers item
  have hB : Single B := single_answers separator
  have hlists {r : Result} {stop : Nat} :=
    @separatedBy_iff env item separator 1 false false src cur r stop
  have hlisting {r : Result} {stop : Nat} :=
    @listing_iff env item separator 1 false false src cur r stop
  refine ⟨fun recovered error => ⟨?_, ?_⟩, fun recovered first others alt' stop => ?_,
    fun recovered first others alt cur' hrun => ?_⟩
  · rintro ⟨cur', hrun⟩
    obtain ⟨rfl, -, attempted, stop, hfirst⟩ := lists_failure_iff.1 (hlists.1 ⟨cur', hrun, rfl⟩)
    obtain rfl : attempted = [] := hcleanA hfirst
    obtain ⟨cur'', hrun', -⟩ := hlisting.2 (listing_failure_iff.2 hfirst)
    exact ⟨cur'', hrun'⟩
  · rintro ⟨cur', hrun⟩
    have hfirst := listing_failure_iff.1 (hlisting.1 ⟨cur', hrun, rfl⟩)
    obtain ⟨cur'', hrun', -⟩ :=
      hlists.2 (lists_failure_iff.2 ⟨hcleanA hfirst, rfl, recovered, _, hfirst⟩)
    exact ⟨cur'', hrun'⟩
  · refine hlisting.trans
      ((listing_success_iff hA hB hcleanA hcleanB hdetailedA hdetailedB).trans ?_)
    exact exists_congr fun alt => exists_congr fun missing => and_congr_left fun _ => hlists.symm
  · obtain ⟨missing, hunfollowed⟩ := exists_unfollowed A B cur'.offset
    have hkind := Diagnostic.compatible_isDetailed
    obtain ⟨alt', hmerge, -⟩ := Located.exists_mergeAlts_of_compatible hkind
      ((hlists.1 ⟨cur', hrun, rfl⟩).ofKind hkind hdetailedA hdetailedB)
      (hunfollowed.ofKind hdetailedB)
    exact ⟨missing, alt', hunfollowed, hmerge⟩

/-- A letter, and a comma that no other one follows. -/
theorem separatedBy_reports_of_comma :
    let item : Grammar := .just .simple (.str "a")
    let separator : Grammar := .just .simple (.str ",")
    let src : Source := .ofText "a,b" .null
    ∃ alt missing alt',
      (∃ cur', parser {} (item.separatedBy separator 1 false false) src {} =
        .done (.success [] (.list [.str "a"]) alt) cur' ∧ cur'.offset = 1) ∧
      Unfollowed ((parser {} item).Answers src) ((parser {} separator).Answers src) 1 missing ∧
      mergeAlts alt missing = .ok alt' ∧
      ∃ cur', parser {} (item.listing separator 1 false false) src {} =
        .done (.success [] (.tuple [.str "a", .list []]) alt') cur' ∧ cur'.offset = 1 := by
  intro item separator src
  have hclean (token : Value) : Clean ((parser {} (.just .simple token)).Answers src) :=
    clean_of_recoveryFree (.of_parts trivial fun _ hpart => hpart.elim)
  have hdetailed (token : Value) : Detailed ((parser {} (.just .simple token)).Answers src) :=
    detailed_of_speaks (Grammar.speaks_just _)
  obtain ⟨alt, cur', hrun, hoffset⟩ : ∃ alt cur', parser {} (item.separatedBy separator 1 false
      false) src {} = .done (.success [] (.list [.str "a"]) alt) cur' ∧ cur'.offset = 1 :=
    ⟨_, _, rfl, rfl⟩
  obtain ⟨-, hsuccess, hsome⟩ := separatedBy_reports {} src item separator {} (hclean _) (hclean _)
    (hdetailed _) (hdetailed _)
  obtain ⟨missing, alt', hunfollowed, hmerge⟩ := hsome _ _ _ _ _ hrun
  rw [hoffset] at hunfollowed
  have hlist := And.intro hrun hoffset
  exact ⟨alt, missing, alt', ⟨cur', hlist⟩, hunfollowed, hmerge,
    (hsuccess _ _ _ _ _).2 ⟨alt, missing, ⟨cur', hlist⟩, hunfollowed, hmerge⟩⟩

/-- A comma may have a blank behind it.  Where there is neither a blank nor another letter, only the
grammar says that there might have been a blank. -/
theorem separatedBy_reports_less :
    let item : Grammar := .just .simple (.str "a")
    let blank : Grammar := .just .simple (.str " ")
    let separator : Grammar := (Grammar.just .simple (.str ",")).thenIgnore blank.optional
    let src : Source := .ofText "a,b" .null
    Clean ((parser {} item).Answers src) ∧ Clean ((parser {} separator).Answers src) ∧
      ∃ d d' cur' cur'',
        parser {} (item.separatedBy separator 1 false false) src {} =
          .done (.success [] (.list [.str "a"]) (some ⟨2, .detailed .simple d⟩)) cur' ∧
        parser {} (item.listing separator 1 false false) src {} =
          .done (.success [] (.tuple [.str "a", .list []]) (some ⟨2, .detailed .simple d'⟩)) cur'' ∧
        .str " " ∉ d.expected ∧ .str " " ∈ d'.expected := by
  intro item blank separator src
  have hjust (token : Value) : Environment.Within {} Grammar.IsRecoveryFree
      (.just .simple token) := .of_parts trivial fun _ hpart => hpart.elim
  have hblank : Environment.Within {} Grammar.IsRecoveryFree blank.optional :=
    .of_parts trivial fun _ hpart => hpart ▸ hjust _
  have hpair : Environment.Within {} Grammar.IsRecoveryFree
      ((Grammar.just .simple (.str ",")).andThen blank.optional) := by
    refine .of_parts trivial ?_
    rintro part (rfl | rfl)
    · exact hjust _
    · exact hblank
  refine ⟨clean_of_recoveryFree (hjust _),
    clean_of_recoveryFree (.of_parts trivial fun _ hpart => hpart ▸ hpair), ?_⟩
  let m : Match := ⟨0, 1, [], .str "a", none⟩
  have hfirst : (parser {} item).Answers src m.start m.result m.stop := ⟨_, rfl, rfl⟩
  obtain ⟨b, hseparator, hb⟩ : ∃ b, (parser {} separator).Answers src 1
      (.success [] (.str ",") (some ⟨2, .detailed .simple b⟩)) 2 ∧
        b.expected.items = [.str " "] := ⟨_, ⟨_, rfl, rfl⟩, rfl⟩
  obtain ⟨d, stop, hitem, hd⟩ : ∃ d stop, (parser {} item).Answers src 2
      (.failure [] ⟨2, .detailed .simple d⟩) stop ∧ d.expected.items = [.str "a"] :=
    ⟨_, _, ⟨_, rfl, rfl⟩, rfl⟩
  have hends : Ends ((parser {} item).Answers src) ((parser {} separator).Answers src) 1 false
      1 1 (some ⟨2, .detailed .simple d⟩) [] 1 := .noItem hseparator hitem
  obtain ⟨cur', hrun, -⟩ := (separatedBy_iff {} item separator 1 false false src {}).2
    (.items .unasked hfirst .nil hends rfl rfl)
  have hnext : NextItem ((parser {} item).Answers src) ((parser {} separator).Answers src) 1
      (.failure [] ⟨2, .detailed .simple (d.merge b)⟩) stop := .noItem hseparator hitem rfl
  obtain ⟨cur'', hrun', -⟩ := (listing_iff {} item separator 1 false false src {}).2
    (listing_plain_iff.2 (.all hfirst
      (.success .nil (.failed nofun (Nat.le_refl 0) hnext rfl) rfl) rfl))
  refine ⟨d, d.merge b, cur', cur'', hrun, hrun', ?_, PatternSet.mem_union.2 (Or.inr ?_)⟩
  · show Value.str " " ∉ d.expected.items
    rw [hd]
    decide
  · show Value.str " " ∈ b.expected.items
    rw [hb]
    decide

/-- **A separated list that fails drops what the last attempt recovered from.**  Let a separated
list and its grammar be run from any cursor, both asking for at least one item.

* If the separated list fails, there are too few items.  It reports all that the items and the
  separators before have recovered from, in order, but nothing of the last attempt: the first item,
  or a separator and an item behind it.
* If its grammar fails, there are too few items as well, and it reports that, too.
* Where there are too few items, neither of them answers anything else, and both return if all
  diagnostics of the item and the separator can be merged. -/
theorem separatedBy_drops
    (env : Environment)
    (src : Source)
    (item separator : Grammar)
    (cur : Cursor)
    (minimum : Nat)
    (hminimum : 0 < minimum) :
    let A := (env.parser item).Answers src
    let B := (env.parser separator).Answers src
    let list := env.parser (item.separatedBy separator minimum false false) src cur
    let reference := env.parser (item.listing separator minimum false false) src cur
    (∀ recovered error cur', list = .done (.failure recovered error) cur' →
      ∃ attempted, Lacks A B minimum cur.offset recovered attempted) ∧
      (∀ recovered error cur', reference = .done (.failure recovered error) cur' →
        ∃ kept attempted, recovered = kept ++ attempted ∧
          Lacks A B minimum cur.offset kept attempted) ∧
      ∀ kept attempted, Lacks A B minimum cur.offset kept attempted →
        (∀ r cur', list = .done r cur' → ∃ error, r = .failure kept error) ∧
          (∀ r cur', reference = .done r cur' →
            ∃ error, r = .failure (kept ++ attempted) error) ∧
          ∀ kind, Diagnostic.Compatible kind → OfKind A kind → OfKind B kind →
            (∃ r cur', list = .done r cur') ∧ ∃ r cur', reference = .done r cur' := by
  intro A B list reference
  have hA : Single A := single_answers item
  have hB : Single B := single_answers separator
  have hlists {r : Result} {stop : Nat} :=
    @separatedBy_iff env item separator minimum false false src cur r stop
  have hlisting {r : Result} {stop : Nat} :=
    @listing_iff env item separator minimum false false src cur r stop
  refine ⟨fun recovered error cur' hrun => Lacks.of_lists (hlists.1 ⟨cur', hrun, rfl⟩),
    fun recovered error cur' hrun => Lacks.of_listing (hlisting.1 ⟨cur', hrun, rfl⟩),
    fun kept attempted hlacks => ⟨fun r cur' hrun => ?_, fun r cur' hrun => ?_,
      fun kind hkind hkindA hkindB => ⟨?_, ?_⟩⟩⟩
  · exact hlacks.lists hA hB hminimum (hlists.1 ⟨cur', hrun, rfl⟩)
  · exact hlacks.listing hA hB (hlisting.1 ⟨cur', hrun, rfl⟩)
  · obtain ⟨r, stop, hanswers⟩ := hlacks.exists_lists hB hminimum hkind hkindA hkindB
    obtain ⟨cur', hrun, -⟩ := hlists.2 hanswers
    exact ⟨r, cur', hrun⟩
  · obtain ⟨r, stop, hanswers⟩ := hlacks.exists_listing hkind hkindA hkindB
    obtain ⟨cur', hrun, -⟩ := hlisting.2 hanswers
    exact ⟨r, cur', hrun⟩

/-- Behind a letter and a comma something is skipped up to another letter, and behind that there is
nothing. -/
theorem lacks_of_letter :
    let item : Grammar := ((Grammar.just .simple (.str "a")).recoverWith
      (.skipThenRetry [.str ","])).thenIgnore (.just .simple (.str ";"))
    let separator : Grammar := .just .simple (.str ",")
    let src : Source := .ofText "a;,xa" .null
    OfKind ((parser {} item).Answers src) Diagnostic.IsDetailed ∧
      OfKind ((parser {} separator).Answers src) Diagnostic.IsDetailed ∧
      ∃ d, Lacks ((parser {} item).Answers src) ((parser {} separator).Answers src) 2 0 []
        [⟨3, d⟩] := by
  intro item separator src
  refine ⟨detailed_of_speaks (Grammar.speaks_thenIgnore
      (Grammar.speaks_recoverWith _ (Grammar.speaks_just _)) (Grammar.speaks_just _)),
    detailed_of_speaks (Grammar.speaks_just _), ?_⟩
  obtain ⟨alt, hfirst⟩ : ∃ alt, (parser {} item).Answers src 0 (.success [] (.str "a") alt) 2 :=
    ⟨_, _, rfl, rfl⟩
  have hcomma : (parser {} separator).Answers src 2 (.success [] (.str ",") none) 3 :=
    ⟨_, rfl, rfl⟩
  obtain ⟨d, error, stop, hsecond⟩ : ∃ d error stop,
      (parser {} item).Answers src 3 (.failure [⟨3, d⟩] error) stop := ⟨_, _, _, _, rfl, rfl⟩
  let m : Match := ⟨0, 2, [], .str "a", alt⟩
  have hfirst : (parser {} item).Answers src m.start m.result m.stop := hfirst
  have hchain : Chain (NextItem ((parser {} item).Answers src) ((parser {} separator).Answers src))
      m.stop [] 2 := rfl
  exact ⟨d, .further rfl hfirst hchain (Nat.lt_succ_self 1) (.noItem hcomma hsecond)⟩

/-- There, the separated list does not report what was skipped. -/
theorem separatedBy_drops_attempt :
    let item : Grammar := ((Grammar.just .simple (.str "a")).recoverWith
      (.skipThenRetry [.str ","])).thenIgnore (.just .simple (.str ";"))
    let separator : Grammar := .just .simple (.str ",")
    let src : Source := .ofText "a;,xa" .null
    ∃ d, Lacks ((parser {} item).Answers src) ((parser {} separator).Answers src) 2 0 []
        [⟨3, d⟩] ∧
      ∃ error cur', parser {} (item.separatedBy separator 2 false false) src {} =
        .done (.failure [] error) cur' := by
  intro item separator src
  obtain ⟨hitem, hseparator, d, hlacks⟩ := lacks_of_letter
  obtain ⟨-, -, hboth⟩ := separatedBy_drops {} src item separator {} 2 Nat.zero_lt_two
  obtain ⟨hfails, -, hreturns⟩ := hboth _ _ hlacks
  obtain ⟨⟨r, cur', hrun⟩, -⟩ := hreturns _ Diagnostic.compatible_isDetailed hitem hseparator
  obtain ⟨error, rfl⟩ := hfails _ _ hrun
  exact ⟨d, hlacks, error, cur', hrun⟩

/-- Its grammar does. -/
theorem separatedBy_drops_recovered :
    let item : Grammar := ((Grammar.just .simple (.str "a")).recoverWith
      (.skipThenRetry [.str ","])).thenIgnore (.just .simple (.str ";"))
    let separator : Grammar := .just .simple (.str ",")
    let src : Source := .ofText "a;,xa" .null
    ∃ d error error' cur' cur'',
      parser {} (item.separatedBy separator 2 false false) src {} =
        .done (.failure [] error) cur' ∧
      parser {} (item.listing separator 2 false false) src {} =
        .done (.failure [⟨3, d⟩] error') cur'' := by
  intro item separator src
  have hA : Single ((parser {} item).Answers src) := single_answers item
  have hB : Single ((parser {} separator).Answers src) := single_answers separator
  have hkind := Diagnostic.compatible_isDetailed
  obtain ⟨hitem, hseparator, d, hlacks⟩ := lacks_of_letter
  obtain ⟨r, stop, hlist⟩ := hlacks.exists_lists hB Nat.zero_lt_two hkind hitem hseparator
  obtain ⟨error, rfl⟩ := hlacks.lists hA hB Nat.zero_lt_two hlist
  obtain ⟨cur', hrun, -⟩ := (separatedBy_iff {} item separator 2 false false src {}).2 hlist
  obtain ⟨r, stop, hlisting⟩ := hlacks.exists_listing hkind hitem hseparator
  obtain ⟨error', rfl⟩ := hlacks.listing hA hB hlisting
  obtain ⟨cur'', hrun', -⟩ := (listing_iff {} item separator 2 false false src {}).2 hlisting
  exact ⟨d, error, error', cur', cur'', hrun, hrun'⟩

end Environment
end Resync
