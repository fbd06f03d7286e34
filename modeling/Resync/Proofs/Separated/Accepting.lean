import Resync.Proofs.Separated.Listing

/-!
# What a separated list accepts

A separated list accepts what the grammar accepts that it stands for, if its separator consumes
something whenever it succeeds.  Both take an item and as many further ones as there are, and both
give back a separator that no item follows, unless a spare one is allowed there.

This is shown by a relation between the two that knows nothing of alternatives.  Either of them
that succeeds with an item is in the relation, and where the relation holds, either of them can only
succeed like it.  So they differ at most where alternatives cannot be merged.
-/

namespace Resync

open Located (mergeAlts mergeAll)
open Repetition (Keeps Chain HasRoom Returns Stops Single)

/-- Two matches are the same if they start at one place and answer the same. -/
theorem Match.eq_of_result
    {m m' : Match}
    (hstart : m.start = m'.start)
    (hresult : m.result = m'.result)
    (hstop : m.stop = m'.stop) :
    m = m' := by
  obtain ⟨start, stop, recovered, output, alt⟩ := m
  obtain ⟨start', stop', recovered', output', alt'⟩ := m'
  cases hstart
  cases hstop
  cases hresult
  rfl

namespace Repetition

section Relations

variable (A : Nat → Result → Nat → Prop)

/-- Whether there is no match at a place. -/
def Stuck (i : Nat) : Prop :=
  ∀ recovered output alt j, ¬ A i (.success recovered output alt) j

/-- Whether every match consumes something. -/
def Consumes : Prop :=
  ∀ ⦃i j : Nat⦄ ⦃recovered : List Located⦄ ⦃output : Value⦄ ⦃alt : Option Located⦄,
    A i (.success recovered output alt) j → i < j

end Relations

variable {A : Nat → Result → Nat → Prop} {kind : Diagnostic → Prop}
variable {start mid mid' i j : Nat} {ms ms' : List Match} {recovered : List Located}
variable {output : Value} {alt : Option Located} {error : Located}

/-- Where the parser fails there is no match. -/
theorem Single.stuck
    (hsingle : Single A)
    (h : A i (.failure recovered error) j) :
    Stuck A i := by
  intro recovered' output alt j' h'
  cases (hsingle h h').1

/-- Consecutive matches up to a place where there is no other one go on with all others. -/
theorem Chain.exists_rest
    (h : Chain A start ms mid)
    (hsingle : Single A)
    (hstuck : Stuck A mid)
    (h' : Chain A start ms' mid') :
    ∃ rest, ms = ms' ++ rest ∧ Chain A mid' rest mid := by
  induction ms' generalizing start ms with
  | nil =>
      cases h'
      exact ⟨ms, rfl, h⟩
  | cons m' ms' ih =>
      obtain ⟨hstart', hanswers', hrest'⟩ := h'
      cases ms with
      | nil =>
          cases h
          exact absurd hanswers' (hstuck _ _ _ _)
      | cons m ms =>
          obtain ⟨hstart, hanswers, hrest⟩ := h
          obtain ⟨hresult, hstop⟩ := hsingle hanswers hanswers'
          obtain rfl := Match.eq_of_result (hstart.trans hstart'.symm) hresult hstop
          obtain ⟨rest, rfl, hchain⟩ := ih hrest hrest'
          exact ⟨rest, rfl, hchain⟩

/-- There is one way only to go on for as long as there is a match. -/
theorem Chain.unique_of_stuck
    (h : Chain A start ms mid)
    (h' : Chain A start ms' mid')
    (hsingle : Single A)
    (hstuck : Stuck A mid)
    (hstuck' : Stuck A mid') :
    ms = ms' ∧ mid = mid' := by
  obtain ⟨rest, rfl, hrest⟩ := h.exists_rest hsingle hstuck h'
  cases rest with
  | nil => exact ⟨List.append_nil _, hrest⟩
  | cons m rest => exact absurd hrest.2.1 (hstuck' _ _ _ _)

/-- If every match consumes something, a repetition without a limit may keep any of them. -/
theorem Chain.keeps
    (h : Chain A start ms mid)
    (hconsumes : Consumes A)
    (minimum : Nat) :
    Keeps A minimum none start ms mid :=
  ⟨h, nofun, fun _ hm => hconsumes (h.answers (List.mem_of_mem_drop hm))⟩

namespace OfKind

theorem of_success (h : OfKind A kind) (hanswers : A i (.success recovered output alt) j) :
    ∀ l ∈ alt, kind l.error :=
  fun l hl => h hanswers l (List.mem_append_right _ (Option.mem_toList.2 hl))

theorem of_failure (h : OfKind A kind) (hanswers : A i (.failure recovered error) j) :
    kind error.error :=
  h hanswers error (List.mem_append_right _ List.mem_cons_self)

/-- What consecutive matches had as alternatives is of the kind. -/
theorem alts (h : OfKind A kind) (hchain : Chain A start ms mid) :
    ∀ m ∈ ms.map Match.alt, ∀ l ∈ m, kind l.error :=
  List.forall_mem_map.2 fun _ hm => h.of_success (hchain.answers hm)

end OfKind

end Repetition

/-- A list that succeeds has enough items. -/
theorem Result.ofList_success
    {minimum : Nat}
    {recovered recovered' : List Located}
    {outputs : List Value}
    {output : Value}
    {alt alt' : Option Located}
    (h : ofList minimum recovered outputs alt = .ok (.success recovered' output alt')) :
    minimum ≤ outputs.length ∧ recovered' = recovered ∧ output = .list outputs ∧ alt' = alt := by
  unfold ofList at h
  by_cases hlacks : outputs.length < minimum
  · rw [if_pos hlacks] at h
    cases alt with
    | none => cases h
    | some error => cases h
  · rw [if_neg hlacks] at h
    cases h
    exact ⟨Nat.le_of_not_lt hlacks, rfl, rfl, rfl⟩

theorem Result.ofList_of_enough
    {minimum : Nat}
    {outputs : List Value}
    (henough : minimum ≤ outputs.length)
    (recovered : List Located)
    (alt : Option Located) :
    ofList minimum recovered outputs alt = .ok (.success recovered (.list outputs) alt) :=
  if_neg (Nat.not_lt.2 henough)

namespace Separation

open Repetition

section Relations

variable (A B : Nat → Result → Nat → Prop)

/-- Whether there is no further item at a place: no separator, or none that an item follows.  What
was recovered from in the attempt to find one is gathered. -/
inductive NoItem (i : Nat) : List Located → Prop
  | noSeparator
      {recovered : List Located}
      {error : Located}
      {j : Nat}
      (hseparator : B i (.failure recovered error) j) :
      NoItem i recovered
  | noItem
      {recovered recovered' : List Located}
      {output : Value}
      {alt : Option Located}
      {error : Located}
      {mid j : Nat}
      (hseparator : B i (.success recovered output alt) mid)
      (hitem : A mid (.failure recovered' error) j) :
      NoItem i (recovered ++ recovered')

variable (minimum : Nat) (leading trailing : Bool)

/-- Whether there is a list from `start` to `stop`: an item and all further ones behind it, at least
`minimum` of them together, and a separator before and behind where this is allowed and there is
one.  All that they recovered from is gathered, and so are the outputs of the items. -/
inductive Accepts (start : Nat) : List Located → Value → List Value → Nat → Prop
  | intro
      {lead attempted dangling : List Located}
      {leadAlt last : Option Located}
      {m : Match}
      {ms : List Match}
      {mid stop : Nat}
      (hlead : Spare B start leading lead leadAlt m.start)
      (hfirst : A m.start m.result m.stop)
      (hothers : Chain (NextItem A B) m.stop ms mid)
      (henough : minimum ≤ ms.length + 1)
      (hnone : NoItem A B mid attempted)
      (htrail : Spare B mid trailing dangling last stop) :
      Accepts start (lead ++ (m :: ms).flatMap Match.recovered ++ dangling) m.output
        (ms.map Match.output) stop

end Relations

variable {A B : Nat → Result → Nat → Prop} {kind : Diagnostic → Prop}
variable {minimum count : Nat} {leading trailing allowed : Bool}
variable {start stop stop' i j : Nat} {recovered : List Located} {output : Value}
variable {alt last : Option Located} {r : Result}

/-- A spare separator is found or not, and then it answers one thing. -/
theorem Spare.unique
    {recovered' : List Located}
    {alt' : Option Located}
    (hB : Single B)
    (h : Spare B start allowed recovered alt stop)
    (h' : Spare B start allowed recovered' alt' stop') :
    recovered = recovered' ∧ alt = alt' ∧ stop = stop' := by
  cases h with
  | unasked =>
      cases h'
      exact ⟨rfl, rfl, rfl⟩
  | missed hseparator =>
      cases h' with
      | missed hseparator' =>
          cases (hB hseparator hseparator').1
          exact ⟨rfl, rfl, rfl⟩
      | found hseparator' => cases (hB hseparator hseparator').1
  | found hseparator =>
      cases h' with
      | missed hseparator' => cases (hB hseparator hseparator').1
      | found hseparator' =>
          obtain ⟨hr, rfl⟩ := hB hseparator hseparator'
          cases hr
          exact ⟨rfl, rfl, rfl⟩

namespace NextItem

/-- A separator and an item in sequence answer one thing. -/
theorem single (hA : Single A) (hB : Single B) : Single (NextItem A B) := by
  intro i j j' r r' h h'
  cases h with
  | item hseparator hitem hmerge =>
      cases h' with
      | item hseparator' hitem' hmerge' =>
          obtain ⟨hr, rfl⟩ := hB hseparator hseparator'
          cases hr
          obtain ⟨hr, rfl⟩ := hA hitem hitem'
          cases hr
          cases hmerge.symm.trans hmerge'
          exact ⟨rfl, rfl⟩
      | noSeparator hseparator' => cases (hB hseparator hseparator').1
      | noItem hseparator' hitem' _ =>
          obtain ⟨hr, rfl⟩ := hB hseparator hseparator'
          cases (hA hitem hitem').1
  | noSeparator hseparator =>
      cases h' with
      | item hseparator' => cases (hB hseparator hseparator').1
      | noSeparator hseparator' => exact hB hseparator hseparator'
      | noItem hseparator' => cases (hB hseparator hseparator').1
  | noItem hseparator hitem hmax =>
      cases h' with
      | item hseparator' hitem' _ =>
          obtain ⟨hr, rfl⟩ := hB hseparator hseparator'
          cases (hA hitem hitem').1
      | noSeparator hseparator' => cases (hB hseparator hseparator').1
      | noItem hseparator' hitem' hmax' =>
          obtain ⟨hr, rfl⟩ := hB hseparator hseparator'
          cases hr
          obtain ⟨hr, rfl⟩ := hA hitem hitem'
          cases hr
          cases hmax.symm.trans hmax'
          exact ⟨rfl, rfl⟩

/-- A separator and an item are of a kind together if each of them is. -/
theorem ofKind
    (hkind : Diagnostic.Compatible kind)
    (hA : OfKind A kind)
    (hB : OfKind B kind) :
    OfKind (NextItem A B) kind := by
  intro i j r h l hl
  rcases List.mem_append.1 hl with hl | hl
  · have hrecovered {A : Nat → Result → Nat → Prop} {i j : Nat} {r : Result}
        (hA : OfKind A kind) (h : A i r j) (hl : l ∈ r.recovered) : kind l.error :=
      hA h l (List.mem_append_left _ hl)
    cases h with
    | item hseparator hitem _ | noItem hseparator hitem _ =>
        rcases List.mem_append.1 hl with hl | hl
        · exact hrecovered hB hseparator hl
        · exact hrecovered hA hitem hl
    | noSeparator hseparator => exact hrecovered hB hseparator hl
  · cases h with
    | item hseparator hitem hmerge =>
        obtain ⟨c, hmerge', hc⟩ := Located.exists_mergeAlts_of_compatible hkind
          (hB.of_success hseparator) (hA.of_success hitem)
        cases hmerge.symm.trans hmerge'
        exact hc l (Option.mem_toList.1 hl)
    | noSeparator hseparator =>
        cases List.mem_singleton.1 hl
        exact hB.of_failure hseparator
    | noItem hseparator hitem hmax =>
        obtain ⟨c, hmax', hc⟩ := Located.exists_max_of_compatible hkind (hA.of_failure hitem)
          (hB.of_success hseparator)
        cases hmax.symm.trans hmax'
        cases List.mem_singleton.1 hl
        exact hc

/-- If the separator consumes something, so does it with an item. -/
theorem consumes
    (hA : ∀ ⦃i j : Nat⦄ ⦃r : Result⦄, A i r j → i ≤ j)
    (hB : Consumes B) :
    Consumes (NextItem A B) := by
  intro i j recovered output alt h
  cases h with
  | item hseparator hitem _ => exact Nat.lt_of_lt_of_le (hB hseparator) (hA hitem)

end NextItem

/-- What a spare separator had as an alternative is of the kind. -/
theorem Spare.ofKind
    (h : Spare B start allowed recovered alt stop)
    (hB : OfKind B kind) :
    ∀ l ∈ alt, kind l.error := by
  cases h with
  | unasked => exact nofun
  | missed hseparator => exact fun l hl => Option.mem_some.1 hl ▸ hB.of_failure hseparator
  | found hseparator => exact hB.of_success hseparator

/-- What a separated list finds in the attempt to go on is of the kind. -/
theorem Ends.ofKind
    (h : Ends A B minimum trailing count i last recovered stop)
    (hkind : Diagnostic.Compatible kind)
    (hA : OfKind A kind)
    (hB : OfKind B kind) :
    ∀ l ∈ last, kind l.error := by
  cases h with
  | noSeparator hseparator => exact fun l hl => Option.mem_some.1 hl ▸ hB.of_failure hseparator
  | noItem _ hitem => exact fun l hl => Option.mem_some.1 hl ▸ hA.of_failure hitem
  | stalled _ hanswers => exact (NextItem.ofKind hkind hA hB).of_success hanswers

namespace NoItem

/-- Where there is no further item, a separator and an item in sequence do not match. -/
theorem stuck
    (h : NoItem A B i recovered)
    (hA : Single A)
    (hB : Single B) :
    Stuck (NextItem A B) i := by
  intro recovered' output alt j hanswers
  cases hanswers with
  | item hseparator' hitem' _ =>
      cases h with
      | noSeparator hseparator => cases (hB hseparator hseparator').1
      | noItem hseparator hitem =>
          obtain ⟨hr, rfl⟩ := hB hseparator hseparator'
          cases (hA hitem hitem').1

/-- An attempt to find a further item recovers from one thing. -/
theorem unique
    {recovered' : List Located}
    (h : NoItem A B i recovered)
    (h' : NoItem A B i recovered')
    (hA : Single A)
    (hB : Single B) :
    recovered = recovered' := by
  cases h with
  | noSeparator hseparator =>
      cases h' with
      | noSeparator hseparator' =>
          cases (hB hseparator hseparator').1
          rfl
      | noItem hseparator' => cases (hB hseparator hseparator').1
  | noItem hseparator hitem =>
      cases h' with
      | noSeparator hseparator' => cases (hB hseparator hseparator').1
      | noItem hseparator' hitem' =>
          obtain ⟨hr, rfl⟩ := hB hseparator hseparator'
          cases hr
          cases (hA hitem hitem').1
          rfl

/-- Where a separator and an item in sequence fail, there is no further item. -/
theorem of_failure
    {error : Located}
    (h : NextItem A B i (.failure recovered error) j) :
    NoItem A B i recovered := by
  cases h with
  | noSeparator hseparator => exact .noSeparator hseparator
  | noItem hseparator hitem _ => exact .noItem hseparator hitem

/-- Where there is no further item, a separated list ends, and it keeps the separator if it may. -/
theorem ends
    {dangling : List Located}
    (h : NoItem A B i recovered)
    (hB : Single B)
    (htrail : Spare B i trailing dangling last stop)
    (minimum count : Nat) :
    ∃ error, Ends A B minimum trailing count i (some error) dangling stop := by
  cases h with
  | noSeparator hseparator =>
      cases htrail with
      | unasked => exact ⟨_, .noSeparator hseparator⟩
      | missed => exact ⟨_, .noSeparator hseparator⟩
      | found hseparator' => cases (hB hseparator hseparator').1
  | noItem hseparator hitem =>
      cases htrail with
      | unasked =>
          have hends : Ends A B minimum false count stop _ _ _ := .noItem hseparator hitem
          exact ⟨_, hends⟩
      | missed hseparator' => cases (hB hseparator hseparator').1
      | found hseparator' =>
          obtain ⟨hr, rfl⟩ := hB hseparator hseparator'
          cases hr
          have hends : Ends A B minimum true count i _ _ _ := .noItem hseparator hitem
          exact ⟨_, hends⟩

/-- Where a separated list ends and nothing stalls, there is no further item, and what follows is a
spare separator. -/
theorem of_ends
    (hconsumes : Consumes (NextItem A B))
    (h : Ends A B minimum trailing count i last recovered stop) :
    (∃ attempted, NoItem A B i attempted) ∧ ∃ alt, Spare B i trailing recovered alt stop := by
  cases h with
  | noSeparator hseparator =>
      refine ⟨⟨_, .noSeparator hseparator⟩, ?_⟩
      cases trailing with
      | false => exact ⟨none, .unasked⟩
      | true => exact ⟨_, .missed hseparator⟩
  | noItem hseparator hitem =>
      refine ⟨⟨_, .noItem hseparator hitem⟩, ?_⟩
      cases trailing with
      | false => exact ⟨none, .unasked⟩
      | true => exact ⟨_, .found hseparator⟩
  | stalled _ hanswers => exact absurd (hconsumes hanswers) (Nat.lt_irrefl _)

/-- Where a repetition of a separator and an item stops and nothing stalls, there is no further
item. -/
theorem of_stops
    (hconsumes : Consumes (NextItem A B))
    (h : Stops (NextItem A B) minimum none count i last) :
    ∃ attempted, NoItem A B i attempted := by
  cases h with
  | full hfull => exact absurd nofun hfull
  | stalled _ _ hanswers => exact absurd (hconsumes hanswers) (Nat.lt_irrefl _)
  | failed _ _ hanswers _ => exact ⟨_, .of_failure hanswers⟩

/-- Where there is no further item and diagnostics can be merged, a separator and an item in
sequence fail. -/
theorem exists_failure
    (h : NoItem A B i recovered)
    (hkind : Diagnostic.Compatible kind)
    (hA : OfKind A kind)
    (hB : OfKind B kind) :
    ∃ error j, NextItem A B i (.failure recovered error) j := by
  cases h with
  | noSeparator hseparator => exact ⟨_, _, .noSeparator hseparator⟩
  | noItem hseparator hitem =>
      obtain ⟨error, hmax, -⟩ := Located.exists_max_of_compatible hkind
        (hA.of_failure hitem) (hB.of_success hseparator)
      exact ⟨error, _, .noItem hseparator hitem hmax⟩

/-- Where there is no further item and diagnostics can be merged, a repetition stops. -/
theorem stops
    (h : NoItem A B i recovered)
    (hkind : Diagnostic.Compatible kind)
    (hA : OfKind A kind)
    (hB : OfKind B kind)
    (henough : minimum ≤ count) :
    ∃ last, Stops (NextItem A B) minimum none count i last ∧ ∀ l ∈ last, kind l.error := by
  obtain ⟨error, j, hfails⟩ := h.exists_failure hkind hA hB
  have hnext := NextItem.ofKind hkind hA hB
  have herror : ∀ l ∈ some error, kind l.error :=
    fun l hl => Option.mem_some.1 hl ▸ hnext.of_failure hfails
  have hhead : ∀ l ∈ recovered.head?, kind l.error :=
    fun l hl => hnext hfails l (List.mem_append_left _ (List.mem_of_head? hl))
  obtain ⟨last, hreached, hlast⟩ :=
    Located.exists_mergeAlts_of_compatible hkind herror hhead
  exact ⟨last, .failed nofun henough hfails hreached, hlast⟩

end NoItem

/-- The alternatives of a list can be merged: that of a spare separator, those of the items, and the
one at its end. -/
theorem exists_mergeAll_items
    {m : Match}
    {ms : List Match}
    (hkind : Diagnostic.Compatible kind)
    (hA : OfKind A kind)
    (hB : OfKind B kind)
    (halt : ∀ l ∈ alt, kind l.error)
    (hfirst : A m.start m.result m.stop)
    (hothers : Chain (NextItem A B) m.stop ms i)
    (hlast : ∀ l ∈ last, kind l.error) :
    ∃ c, mergeAll alt ((m :: ms).map Match.alt ++ [last]) = .ok c ∧ ∀ l ∈ c, kind l.error := by
  refine Located.exists_mergeAll_of_compatible hkind halt ?_
  refine List.forall_mem_append.2 ⟨?_, List.forall_mem_singleton.2 hlast⟩
  exact List.forall_mem_cons.2
    ⟨hA.of_success hfirst, (NextItem.ofKind hkind hA hB).alts hothers⟩

/-- A separated list that has enough items succeeds with them. -/
theorem Lists.of_enough
    {lead dangling : List Located}
    {leadAlt : Option Located}
    {m : Match}
    {ms : List Match}
    (hlead : Spare B start leading lead leadAlt m.start)
    (hfirst : A m.start m.result m.stop)
    (hkeeps : Keeps (NextItem A B) (minimum - 1) none m.stop ms i)
    (henough : minimum ≤ ms.length + 1)
    (hends : Ends A B minimum trailing (ms.length + 1) i last dangling stop)
    (hmerge : mergeAll leadAlt ((m :: ms).map Match.alt ++ [last]) = .ok alt) :
    Lists A B minimum leading trailing start
      (.success (lead ++ (m :: ms).flatMap Match.recovered ++ dangling)
        (.list ((m :: ms).map Match.output)) alt) stop := by
  rw [← List.length_cons, ← List.length_map Match.output] at henough
  exact .items hlead hfirst hkeeps hends hmerge (Result.ofList_of_enough henough _ alt)

section Accepted

variable {first : Value} {others : List Value}

/-- A separated list that succeeds with an item accepts a list. -/
theorem Accepts.of_lists
    (hconsumes : Consumes (NextItem A B))
    (h : Lists A B minimum leading trailing start
      (.success recovered (.list (first :: others)) alt) stop) :
    Accepts A B minimum leading trailing start recovered first others stop := by
  cases h with
  | items hlead hfirst hkeeps hends _ hlist =>
      obtain ⟨henough, rfl, houtputs, -⟩ := Result.ofList_success hlist
      cases houtputs
      obtain ⟨⟨_, hnone⟩, _, htrail⟩ := NoItem.of_ends hconsumes hends
      rw [List.length_map, List.length_cons] at henough
      exact .intro hlead hfirst hkeeps.chain henough hnone htrail
  | empty _ _ _ hlist =>
      obtain ⟨-, -, houtputs, -⟩ := Result.ofList_success hlist
      cases houtputs

/-- The grammar of a list that succeeds accepts a list. -/
theorem Accepts.of_listing
    (hconsumes : Consumes (NextItem A B))
    (h : Listing A B minimum leading trailing start (.success recovered output alt) stop) :
    ∃ first others, output = .tuple [first, .list others] ∧
      Accepts A B minimum leading trailing start recovered first others stop := by
  obtain @⟨_, _, _, _, _, start', _, _, hlead, hitems, hbehind, htrails⟩ := h
  cases htrails with
  | success htrail _ =>
      cases hitems with
      | @all recovered₁ _ output₁ _ alt₁ _ _ mid _ hfirst hothers _ =>
          obtain ⟨_, -, hr⟩ := map_eq_ok.1 hbehind
          cases hr
          cases hothers with
          | @success ms _ _ _ hkeeps hstops _ =>
              let m : Match := ⟨start', mid, recovered₁, output₁, alt₁⟩
              have henough : minimum ≤ ms.length + 1 := by
                have hle := hstops.enough hkeeps nofun
                omega
              have hfirst : A m.start m.result m.stop := hfirst
              obtain ⟨_, hnone⟩ := NoItem.of_stops hconsumes hstops
              exact ⟨output₁, _, rfl, .intro hlead hfirst hkeeps.chain henough hnone htrail⟩
      | noFirst =>
          obtain ⟨_, -, hr⟩ := map_eq_ok.1 hbehind
          cases hr
      | tooFew =>
          obtain ⟨_, -, hr⟩ := map_eq_ok.1 hbehind
          cases hr

variable (hA : Single A) (hB : Single B)
include hA hB

/-- Where there is a list, a separated list answers nothing else. -/
theorem Accepts.lists
    (h : Accepts A B minimum leading trailing start recovered first others stop)
    (hconsumes : Consumes (NextItem A B))
    (h' : Lists A B minimum leading trailing start r stop') :
    ∃ alt, r = .success recovered (.list (first :: others)) alt ∧ stop' = stop := by
  obtain ⟨hlead, hfirst, hothers, henough, hnone, htrail⟩ := h
  cases h' with
  | items hlead' hfirst' hkeeps hends _ hlist =>
      obtain ⟨rfl, rfl, hstart⟩ := hlead.unique hB hlead'
      rw [hstart] at hfirst
      obtain ⟨hresult, hstop⟩ := hA hfirst hfirst'
      obtain rfl := Match.eq_of_result hstart hresult hstop
      obtain ⟨⟨_, hnone'⟩, _, htrail'⟩ := NoItem.of_ends hconsumes hends
      obtain ⟨rfl, rfl⟩ := hothers.unique_of_stuck hkeeps.chain (NextItem.single hA hB)
        (hnone.stuck hA hB) (hnone'.stuck hA hB)
      obtain ⟨rfl, -, rfl⟩ := htrail.unique hB htrail'
      rw [← List.length_cons, ← List.length_map Match.output] at henough
      rw [Result.ofList_of_enough henough] at hlist
      cases hlist
      exact ⟨_, rfl, rfl⟩
  | empty hlead' hfirst' =>
      obtain ⟨-, -, rfl⟩ := hlead.unique hB hlead'
      cases (hA hfirst hfirst').1

/-- Where there is a list, its grammar answers nothing else. -/
theorem Accepts.listing
    (h : Accepts A B minimum leading trailing start recovered first others stop)
    (hconsumes : Consumes (NextItem A B))
    (h' : Listing A B minimum leading trailing start r stop') :
    ∃ alt, r = .success recovered (.tuple [first, .list others]) alt ∧ stop' = stop := by
  obtain ⟨hlead, hfirst, hothers, henough, hnone, htrail⟩ := h
  obtain ⟨hlead', hitems, hbehind, htrails⟩ := h'
  obtain ⟨rfl, rfl, rfl⟩ := hlead.unique hB hlead'
  have hstuck := hnone.stuck hA hB
  cases hitems with
  | noFirst hfirst' => cases (hA hfirst hfirst').1
  | all hfirst' hothers' _ =>
      obtain ⟨hr, rfl⟩ := hA hfirst hfirst'
      cases hr
      cases hothers' with
      | success hkeeps hstops _ =>
          obtain ⟨_, hnone'⟩ := NoItem.of_stops hconsumes hstops
          obtain ⟨rfl, rfl⟩ := hothers.unique_of_stuck hkeeps.chain (NextItem.single hA hB) hstuck
            (hnone'.stuck hA hB)
          obtain ⟨_, -, rfl⟩ := map_eq_ok.1 hbehind
          cases htrails with
          | success htrail' _ =>
              obtain ⟨rfl, -, rfl⟩ := htrail.unique hB htrail'
              exact ⟨_, rfl, rfl⟩
  | tooFew hfirst' hothers' _ =>
      obtain ⟨hr, rfl⟩ := hA hfirst hfirst'
      cases hr
      cases hothers' with
      | failure hkeeps _ hlacks hanswers _ =>
          obtain ⟨rfl, rfl⟩ := hothers.unique_of_stuck hkeeps.chain (NextItem.single hA hB) hstuck
            ((NoItem.of_failure hanswers).stuck hA hB)
          omega

omit hA in
/-- Where there is a list and diagnostics can be merged, a separated list succeeds. -/
theorem Accepts.exists_lists
    (h : Accepts A B minimum leading trailing start recovered first others stop)
    (hconsumes : Consumes (NextItem A B))
    (hkind : Diagnostic.Compatible kind)
    (hkindA : OfKind A kind)
    (hkindB : OfKind B kind) :
    ∃ alt, Lists A B minimum leading trailing start
      (.success recovered (.list (first :: others)) alt) stop := by
  obtain @⟨_, _, _, _, _, m, ms, _, _, hlead, hfirst, hothers, henough, hnone, htrail⟩ := h
  obtain ⟨error, hends⟩ := hnone.ends hB htrail minimum (ms.length + 1)
  obtain ⟨alt, hmerge, -⟩ := exists_mergeAll_items hkind hkindA hkindB (hlead.ofKind hkindB)
    hfirst hothers (hends.ofKind hkind hkindA hkindB)
  exact ⟨alt, .of_enough hlead hfirst (hothers.keeps hconsumes _) henough hends hmerge⟩

omit hA hB in
/-- Where there is a list and diagnostics can be merged, its grammar succeeds. -/
theorem Accepts.exists_listing
    (h : Accepts A B minimum leading trailing start recovered first others stop)
    (hconsumes : Consumes (NextItem A B))
    (hkind : Diagnostic.Compatible kind)
    (hkindA : OfKind A kind)
    (hkindB : OfKind B kind) :
    ∃ alt, Listing A B minimum leading trailing start
      (.success recovered (.tuple [first, .list others]) alt) stop := by
  obtain ⟨hlead, hfirst, hothers, henough, hnone, htrail⟩ := h
  obtain ⟨last, hstops, hlast⟩ :=
    hnone.stops hkind hkindA hkindB (Nat.sub_le_of_le_add henough)
  -- The alternatives are merged from the inside out: those of the further items, then those of all
  -- items, and then those of the spare separators.
  have halts := List.forall_mem_append.2 ⟨(NextItem.ofKind hkind hkindA hkindB).alts hothers,
    List.forall_mem_singleton.2 hlast⟩
  have hbefore : ∀ l ∈ (none : Option Located), kind l.error := nofun
  obtain ⟨_, hfurther, hc⟩ := Located.exists_mergeAll_of_compatible hkind hbefore halts
  obtain ⟨_, hitems, hc⟩ :=
    Located.exists_mergeAlts_of_compatible hkind (hkindA.of_success hfirst) hc
  obtain ⟨_, hled, hc⟩ :=
    Located.exists_mergeAlts_of_compatible hkind (hlead.ofKind hkindB) hc
  obtain ⟨alt, hall, -⟩ :=
    Located.exists_mergeAlts_of_compatible hkind hc (htrail.ofKind hkindB)
  have hreturns := Returns.success (hothers.keeps hconsumes (minimum - 1)) hstops hfurther
  exact ⟨alt, .intro hlead (.all hfirst hreturns hitems) (map_eq_ok.2 ⟨_, hled, rfl⟩)
    (.success htrail hall)⟩

end Accepted

end Separation

namespace Environment

open Repetition Separation

variable {env : Environment} {src : Source}

/-- A grammar answers one thing at a place. -/
theorem single_answers (g : Grammar) : Single ((env.parser g).Answers src) :=
  fun _ _ _ _ _ h h' => h.unique h'

/-- A token consumes itself. -/
theorem consumes_just (dialect : Dialect) (token : Value) :
    Consumes ((env.parser (.just dialect token)).Answers src) := by
  rintro i _ recovered output alt ⟨cur', hrun, rfl⟩
  have htoken : Parser.satisfy dialect [token] (fun v => .ok (v = token)) src ⟨i, 0, []⟩ =
      .done (.success recovered output alt) cur' := hrun
  obtain ⟨-, ⟨-, -, -, hoffset⟩ | ⟨-, _, _, _, _, _, -, hr⟩⟩ := Parser.satisfy_done htoken
  · exact hoffset ▸ Nat.lt_succ_self i
  · cases hr

/-- **A separated list accepts the grammar that it stands for.**  Let the separator consume
something whenever it succeeds.  Then let the separated list and its grammar be run from any cursor.

* If the separated list succeeds with an item, its grammar does not answer anything else: the same
  items in order, the same that was recovered from, and the cursor at the same place.
* If the grammar succeeds, the separated list does not answer anything else.
* If all diagnostics of the item and the separator can be merged, one of them returns such a success
  if and only if the other one does.
* What they accept is an item and all further ones, each behind a separator, enough of them, and
  spare separators where these are allowed.  So behind the last item the separator fails, or it
  succeeds and the item fails behind it; then the separator is given back unless it is allowed
  there, and nothing of the item that failed is consumed. -/
theorem separatedBy_accepts
    (env : Environment)
    (src : Source)
    (item separator : Grammar)
    (minimum : Nat)
    (leading trailing : Bool)
    (cur : Cursor)
    (hconsumes : Consumes ((env.parser separator).Answers src)) :
    let A := (env.parser item).Answers src
    let B := (env.parser separator).Answers src
    let list := env.parser (item.separatedBy separator minimum leading trailing) src cur
    let reference := env.parser (item.listing separator minimum leading trailing) src cur
    (∀ recovered first others alt cur' r cur'',
      list = .done (.success recovered (.list (first :: others)) alt) cur' →
      reference = .done r cur'' →
        (∃ alt', r = .success recovered (.tuple [first, .list others]) alt') ∧
          cur''.offset = cur'.offset) ∧
      (∀ recovered output alt cur' r cur'',
        reference = .done (.success recovered output alt) cur' →
        list = .done r cur'' →
          (∃ first others alt', output = .tuple [first, .list others] ∧
            r = .success recovered (.list (first :: others)) alt') ∧
          cur''.offset = cur'.offset) ∧
      (∀ kind, Diagnostic.Compatible kind → OfKind A kind → OfKind B kind →
        ∀ recovered first others stop,
          (∃ alt cur', list = .done (.success recovered (.list (first :: others)) alt) cur' ∧
              cur'.offset = stop) ↔
            ∃ alt cur', reference = .done (.success recovered (.tuple [first, .list others]) alt)
              cur' ∧ cur'.offset = stop) ∧
      (∀ recovered first others alt cur',
        list = .done (.success recovered (.list (first :: others)) alt) cur' →
          Accepts A B minimum leading trailing cur.offset recovered first others cur'.offset) ∧
      ∀ recovered output alt cur',
        reference = .done (.success recovered output alt) cur' →
          ∃ first others, output = .tuple [first, .list others] ∧
            Accepts A B minimum leading trailing cur.offset recovered first others
              cur'.offset := by
  intro A B list reference
  have hA : Single A := single_answers item
  have hB : Single B := single_answers separator
  have hforward {i j : Nat} {r : Result} (h : A i r j) : i ≤ j :=
    Parser.Forward.le_of_answers (env.forward _ item src) h
  have hnext : Consumes (NextItem A B) := NextItem.consumes (fun _ _ _ => hforward) hconsumes
  have hlists {r : Result} {stop : Nat} := @separatedBy_iff env item separator minimum leading
    trailing src cur r stop
  have hlisting {r : Result} {stop : Nat} := @listing_iff env item separator minimum leading
    trailing src cur r stop
  have hlist (recovered : List Located) (first : Value) (others : List Value)
      (alt : Option Located) (cur' : Cursor)
      (hrun : list = .done (.success recovered (.list (first :: others)) alt) cur') :
      Accepts A B minimum leading trailing cur.offset recovered first others cur'.offset :=
    .of_lists hnext (hlists.1 ⟨cur', hrun, rfl⟩)
  have hreference (recovered : List Located) (output : Value) (alt : Option Located)
      (cur' : Cursor)
      (hrun : reference = .done (.success recovered output alt) cur') :
      ∃ first others, output = .tuple [first, .list others] ∧
        Accepts A B minimum leading trailing cur.offset recovered first others cur'.offset :=
    Accepts.of_listing hnext (hlisting.1 ⟨cur', hrun, rfl⟩)
  refine ⟨fun recovered first others alt cur' r cur'' hrun hrun' => ?_,
    fun recovered output alt cur' r cur'' hrun hrun' => ?_,
    fun kind hkind hkindA hkindB recovered first others stop => ⟨?_, ?_⟩, hlist, hreference⟩
  · have haccepts := hlist _ _ _ _ _ hrun
    obtain ⟨alt', hr, hstop⟩ := haccepts.listing hA hB hnext (hlisting.1 ⟨cur'', hrun', rfl⟩)
    exact ⟨⟨alt', hr⟩, hstop⟩
  · obtain ⟨first, others, houtput, haccepts⟩ := hreference _ _ _ _ hrun
    obtain ⟨alt', hr, hstop⟩ := haccepts.lists hA hB hnext (hlists.1 ⟨cur'', hrun', rfl⟩)
    exact ⟨⟨first, others, alt', houtput, hr⟩, hstop⟩
  · rintro ⟨alt, cur', hrun, rfl⟩
    obtain ⟨alt', hanswers⟩ :=
      (hlist _ _ _ _ _ hrun).exists_listing hnext hkind hkindA hkindB
    obtain ⟨cur'', hrun', hstop⟩ := hlisting.2 hanswers
    exact ⟨alt', cur'', hrun', hstop⟩
  · rintro ⟨alt, cur', hrun, rfl⟩
    obtain ⟨_, _, houtput, haccepts⟩ := hreference _ _ _ _ hrun
    cases houtput
    obtain ⟨alt', hanswers⟩ := haccepts.exists_lists hB hnext hkind hkindA hkindB
    obtain ⟨cur'', hrun', hstop⟩ := hlists.2 hanswers
    exact ⟨alt', cur'', hrun', hstop⟩

/-- Two letters with a comma between them, and another comma, which is kept as a spare one. -/
theorem separatedBy_accepts_spare :
    let item : Grammar := .just .simple (.str "a")
    let separator : Grammar := .just .simple (.str ",")
    let src : Source := .ofText "a,a,b" .null
    (∃ alt cur', parser {} (item.separatedBy separator 1 false true) src {} =
        .done (.success [] (.list [.str "a", .str "a"]) alt) cur' ∧ cur'.offset = 4) ∧
      ∃ alt cur', parser {} (item.listing separator 1 false true) src {} =
        .done (.success [] (.tuple [.str "a", .list [.str "a"]]) alt) cur' ∧ cur'.offset = 4 := by
  intro item separator src
  have hkind (token : Value) : OfKind ((parser {} (.just .simple token)).Answers src)
      fun error => error.dialect = .simple := ofKind_of_speaks (Grammar.speaks_just _)
  have hrun : ∃ alt cur', parser {} (item.separatedBy separator 1 false true) src {} =
      .done (.success [] (.list [.str "a", .str "a"]) alt) cur' ∧ cur'.offset = 4 :=
    ⟨_, _, rfl, rfl⟩
  obtain ⟨-, -, hboth, -⟩ := separatedBy_accepts {} src item separator 1 false true {}
    (consumes_just _ _)
  exact ⟨hrun, (hboth _ (Diagnostic.compatible_dialect _) (hkind _) (hkind _) _ _ _ _).1 hrun⟩

/-- The second item has a terse alternative where what the first one missed lies, and that cannot be
merged into it.  The separated list tries to; its grammar merges it with what is missed behind the
last item, which is further on. -/
theorem separatedBy_accepts_less :
    let whole : Grammar := .seq .simple [.str "a", .str ",", .str "z"]
    let item : Grammar := ((Grammar.just .terse (.str "z")).optional.ignoreThen
      whole.optional).ignoreThen (.anyToken .simple)
    let separator : Grammar := .just .simple (.str ",")
    let src : Source := .ofText "a,b" .null
    Consumes ((parser {} separator).Answers src) ∧
      (∃ cur', parser {} (item.separatedBy separator 0 false false) src {} =
        .halted (.fault .noSuchMember) cur') ∧
      ∃ alt cur', parser {} (item.listing separator 0 false false) src {} =
        .done (.success [] (.tuple [.str "a", .list [.str "b"]]) alt) cur' ∧
          cur'.offset = 3 := by
  intro whole item separator src
  refine ⟨consumes_just _ _, ?_, ?_⟩
  · have hhalts : (match parser {} (item.separatedBy separator 0 false false) src {} with
        | .halted (.fault .noSuchMember) _ => true
        | _ => false) = true := by decide +kernel +revert
    split at hhalts
    case h_1 cur' hrun => exact ⟨cur', hrun⟩
    case h_2 => cases hhalts
  · have hsucceeds : (match parser {} (item.listing separator 0 false false) src {} with
        | .done (.success recovered output _) cur' =>
            recovered.isEmpty && output = .tuple [.str "a", .list [.str "b"]] && cur'.offset = 3
        | _ => false) = true := by decide +kernel +revert
    split at hsucceeds
    case h_1 recovered output alt cur' hrun =>
      simp only [Bool.and_eq_true, List.isEmpty_iff, decide_eq_true_eq] at hsucceeds
      obtain ⟨⟨rfl, rfl⟩, hoffset⟩ := hsucceeds
      exact ⟨alt, cur', hrun, hoffset⟩
    case h_2 => cases hsucceeds

end Environment
end Resync
