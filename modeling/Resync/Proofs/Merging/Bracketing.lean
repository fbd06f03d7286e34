import Resync.Proofs.Merging

/-!
# Bracketings of a merger

Diagnostics that keep their contents are merged in many orders: a grammar can be bracketed in
different ways, and a loop goes from left to right where a grammar nests.  It makes no difference.
However the items of a list are bracketed, and wherever some of them are missing, what they are
merged into depends on the list alone.

What it is can be said without merging.  It lies at the furthest position, and expects all that is
expected there.  It has its place and its finding from the first of the diagnostics there, and also
its reason, unless one of the others names an unclosed delimiter.  So only these three depend on the
order in which the diagnostics come.
-/

namespace Resync

open Located (mergeAlts mergeAll)

/-- A way to bracket the items of a list, of which any number may be missing. -/
inductive Bracketing (α : Type) where
  | nothing
  | single (a : α)
  | both (left right : Bracketing α)

namespace Bracketing

/-- The items that are not missing, from left to right. -/
def items {α : Type} : Bracketing α → List α
  | nothing => []
  | single a => [a]
  | both left right => left.items ++ right.items

/-- What the alternatives become if they are merged as they are bracketed. -/
def merged : Bracketing Finding → Except Fault (Option Located)
  | nothing => .ok none
  | single a => .ok (some a.located)
  | both left right => left.merged.bind fun a => right.merged.bind fun b => mergeAlts a b

end Bracketing

namespace Finding

/-- Whether a finding names an unclosed delimiter. -/
def isUnclosed (a : Finding) : Bool := a.detail.reason.isUnclosed

/-- The findings that lie at a position. -/
def lyingAt (found : List Finding) (i : Nat) : List Finding :=
  found.filter fun a => a.position = i

/-- The reason that findings at one position have together: the first one's, unless some of them
name an unclosed delimiter; then that of the first that does. -/
def leadingReason (first : Finding) (others : List Finding) : Reason :=
  (((first :: others).find? isUnclosed).getD first).detail.reason

/-- What a finding has to be to stand for all of some findings. -/
structure StandsFor (a : Finding) (found : List Finding) : Prop where
  furthest : ∀ b ∈ found, b.position ≤ a.position
  first : ∃ first others, lyingAt found a.position = first :: others ∧
    a.family = first.family ∧ a.detail.span = first.detail.span ∧
    a.detail.found = first.detail.found ∧ a.detail.reason = leadingReason first others
  expected : ∀ v, v ∈ a.detail.expected ↔
    ∃ b ∈ found, b.position = a.position ∧ v ∈ b.detail.expected

/-- Whether two findings lie at one position, expect the same there, and agree on whether a
delimiter is unclosed. -/
structure Alike (a b : Finding) : Prop where
  position : a.position = b.position
  expected : ∀ v, v ∈ a.detail.expected ↔ v ∈ b.detail.expected
  isUnclosed : a.isUnclosed = b.isUnclosed

theorem located_injective : Function.Injective located := by
  rintro ⟨i, family, d⟩ ⟨j, family', d'⟩ h
  cases h
  rfl

theorem Alike.refl (a : Finding) : Alike a a := ⟨rfl, fun _ => Iff.rfl, rfl⟩

variable {a b : Finding} {found found' : List Finding} {i : Nat}

theorem mem_lyingAt : a ∈ lyingAt found i ↔ a ∈ found ∧ a.position = i := by
  simp [lyingAt]

theorem lyingAt_append (found found' : List Finding) (i : Nat) :
    lyingAt (found ++ found') i = lyingAt found i ++ lyingAt found' i :=
  List.filter_append ..

/-- Beyond all findings there is none. -/
theorem lyingAt_eq_nil (h : ∀ b ∈ found, b.position < i) : lyingAt found i = [] := by
  refine List.eq_nil_iff_forall_not_mem.2 fun b hb => ?_
  obtain ⟨hmem, hat⟩ := mem_lyingAt.1 hb
  have hlt := h b hmem
  omega

theorem isUnclosed_of_find (h : found.find? isUnclosed = some a) :
    a.detail.reason.isUnclosed = true := by
  have ha : a.isUnclosed = true := List.find?_some h
  exact ha

/-- Of two lists at one position, the first reason of the first one leads, unless only the second
one names an unclosed delimiter. -/
theorem leadingReason_append (a b : Finding) (others others' : List Finding) :
    leadingReason a (others ++ b :: others') =
      if !(leadingReason a others).isUnclosed && (leadingReason b others').isUnclosed then
        leadingReason b others'
      else leadingReason a others := by
  unfold leadingReason
  rw [← List.cons_append, List.find?_append]
  cases hfirst : (a :: others).find? isUnclosed with
  | some c =>
      simp [isUnclosed_of_find hfirst]
  | none =>
      have ha : a.detail.reason.isUnclosed = false :=
        Bool.eq_false_iff.2 (List.find?_eq_none.1 hfirst a List.mem_cons_self)
      cases hsecond : (b :: others').find? isUnclosed with
      | some c =>
          simp [ha, isUnclosed_of_find hsecond]
      | none =>
          have hb : b.detail.reason.isUnclosed = false :=
            Bool.eq_false_iff.2 (List.find?_eq_none.1 hsecond b List.mem_cons_self)
          simp [ha, hb]

/-- The leading reason is about an unclosed delimiter if any of the reasons is. -/
theorem leadingReason_isUnclosed_iff (first : Finding) (others : List Finding) :
    (leadingReason first others).isUnclosed = true ↔
      ∃ a ∈ first :: others, a.isUnclosed = true := by
  unfold leadingReason
  cases hfind : (first :: others).find? isUnclosed with
  | some a =>
      have ha := isUnclosed_of_find hfind
      exact iff_of_true ha ⟨a, List.mem_of_find?_eq_some hfind, ha⟩
  | none =>
      have hnone := List.find?_eq_none.1 hfind
      exact iff_of_false (hnone first List.mem_cons_self) fun ⟨a, hmem, ha⟩ => hnone a hmem ha

namespace StandsFor

theorem singleton (a : Finding) : StandsFor a [a] where
  furthest b hb := Nat.le_of_eq (congrArg position (List.mem_singleton.1 hb))
  first := by
    refine ⟨a, [], by simp [lyingAt], rfl, rfl, rfl, ?_⟩
    cases ha : a.isUnclosed with
    | true => simp [leadingReason, ha]
    | false => simp [leadingReason, ha]
  expected v := by simp

/-- Only what lies at the furthest position counts. -/
theorem of_lyingAt
    (h : StandsFor a found)
    (hfurthest : ∀ b ∈ found', b.position ≤ a.position)
    (hlying : lyingAt found' a.position = lyingAt found a.position) :
    StandsFor a found' where
  furthest := hfurthest
  first := by
    rw [hlying]
    exact h.first
  expected v := by
    rw [h.expected v]
    simp only [← and_assoc, ← mem_lyingAt, hlying]

/-- What two findings stand for, their merger stands for. -/
theorem merge
    (ha : StandsFor a found)
    (hb : StandsFor b found') :
    StandsFor (a.merge b) (found ++ found') := by
  have hfurthest : ∀ c ∈ found ++ found', c.position ≤ (a.merge b).position := by
    intro c hc
    rw [position_merge]
    rcases List.mem_append.1 hc with hc | hc
    · exact Nat.le_trans (ha.furthest c hc) (Nat.le_max_left ..)
    · exact Nat.le_trans (hb.furthest c hc) (Nat.le_max_right ..)
  rcases Nat.lt_trichotomy a.position b.position with h | h | h
  · rw [merge_of_gt h] at hfurthest ⊢
    refine hb.of_lyingAt hfurthest ?_
    rw [lyingAt_append, List.append_left_eq_self]
    exact lyingAt_eq_nil fun c hc => Nat.lt_of_le_of_lt (ha.furthest c hc) h
  · rw [merge_of_eq h] at hfurthest ⊢
    refine ⟨hfurthest, ?_, fun v => ?_⟩
    · obtain ⟨first, others, hlying, hfamily, hspan, hfound, hreason⟩ := ha.first
      obtain ⟨first', others', hlying', -, -, -, hreason'⟩ := hb.first
      refine ⟨first, others ++ first' :: others', ?_, hfamily, hspan, hfound, ?_⟩
      · rw [lyingAt_append, hlying, h, hlying', List.cons_append]
      · rw [leadingReason_append, ← hreason, ← hreason']
        rfl
    · have hmerged : v ∈ (a.detail.merge b.detail).expected ↔
          v ∈ a.detail.expected ∨ v ∈ b.detail.expected := PatternSet.mem_union
      rw [hmerged, ha.expected v, hb.expected v, ← h]
      simp only [List.mem_append, or_and_right, exists_or]
  · rw [merge_of_lt h] at hfurthest ⊢
    refine ha.of_lyingAt hfurthest ?_
    rw [lyingAt_append, List.append_right_eq_self]
    exact lyingAt_eq_nil fun c hc => Nat.lt_of_le_of_lt (hb.furthest c hc) h

/-- There is a finding where the one lies that stands for all. -/
theorem exists_at (h : StandsFor a found) : ∃ b ∈ found, b.position = a.position := by
  obtain ⟨first, others, hlying, -⟩ := h.first
  have hmem : first ∈ lyingAt found a.position := hlying ▸ List.mem_cons_self
  exact ⟨first, mem_lyingAt.1 hmem⟩

theorem isUnclosed_iff (h : StandsFor a found) :
    a.isUnclosed = true ↔ ∃ b ∈ found, b.position = a.position ∧ b.isUnclosed = true := by
  obtain ⟨first, others, hlying, -, -, -, hreason⟩ := h.first
  rw [isUnclosed, hreason, leadingReason_isUnclosed_iff, ← hlying]
  simp only [mem_lyingAt, and_assoc]

/-- In another order, the same findings are about the same. -/
theorem alike
    (ha : StandsFor a found)
    (hb : StandsFor b found')
    (hperm : found.Perm found') :
    Alike a b := by
  have hposition : a.position = b.position := by
    obtain ⟨c, hc, hac⟩ := ha.exists_at
    obtain ⟨d, hd, hbd⟩ := hb.exists_at
    have hle := hb.furthest c (hperm.mem_iff.1 hc)
    have hge := ha.furthest d (hperm.mem_iff.2 hd)
    omega
  refine ⟨hposition, fun v => ?_, Bool.eq_iff_iff.2 ?_⟩
  · rw [ha.expected v, hb.expected v, hposition]
    simp only [hperm.mem_iff]
  · rw [ha.isUnclosed_iff, hb.isUnclosed_iff, hposition]
    simp only [hperm.mem_iff]

end StandsFor

end Finding

namespace Bracketing

open Finding (StandsFor Alike)

variable (t t' : Bracketing Finding)

/-- However findings are bracketed, they are merged as they are from left to right. -/
theorem merged_eq_mergeAll :
    t.merged = mergeAll none (t.items.map fun a => some a.located) := by
  have hlist (found : List Finding) :
      found.map (fun a => some a.located) = (found.map some).map (Option.map Finding.located) := by
    rw [List.map_map]
    rfl
  have hdetailed (found : List Finding) :
      ∀ m ∈ found.map fun a => some a.located, Located.AltIsDetailed m := by
    refine List.forall_mem_map.2 fun a _ l hl => ?_
    cases hl
    trivial
  induction t with
  | nothing => rfl
  | single a =>
      rw [items, List.map_singleton, Located.mergeAll_cons, Located.mergeAlts_none_left]
      rfl
  | both left right ihleft ihright =>
      have hall := Located.mergeAll_located none ((left.items ++ right.items).map some)
      rw [← hlist, List.map_append] at hall
      obtain ⟨a, b, ha, hb, hmerge⟩ :=
        (Located.mergeAll_append_eq_ok (hdetailed _) (hdetailed _)).1 hall
      rw [merged, ihleft, ihright, items, List.map_append, ha, hb]
      exact hmerge.trans hall.symm

/-- If there is anything, it is merged into what stands for it. -/
theorem merged_standsFor :
    (t.items = [] ∧ t.merged = .ok none) ∨
      ∃ a, t.merged = .ok (some a.located) ∧ StandsFor a t.items := by
  induction t with
  | nothing => exact Or.inl ⟨rfl, rfl⟩
  | single a => exact Or.inr ⟨a, rfl, .singleton a⟩
  | both left right ihleft ihright =>
      rw [merged, items]
      rcases ihleft with ⟨hitems, hmerged⟩ | ⟨a, hmerged, ha⟩
      · rw [hitems, hmerged]
        rcases ihright with ⟨hitems', hmerged'⟩ | ⟨b, hmerged', hb⟩
        · rw [hitems', hmerged']
          exact Or.inl ⟨rfl, rfl⟩
        · rw [hmerged']
          exact Or.inr ⟨b, rfl, hb⟩
      · rw [hmerged]
        rcases ihright with ⟨hitems', hmerged'⟩ | ⟨b, hmerged', hb⟩
        · rw [hitems', hmerged', List.append_nil]
          exact Or.inr ⟨a, rfl, ha⟩
        · rw [hmerged']
          refine Or.inr ⟨a.merge b, ?_, ha.merge hb⟩
          exact Located.mergeAlts_located (some a) (some b)

variable {t t'} in
/-- In another order, findings are merged into something that is about the same. -/
theorem merged_perm (hperm : t.items.Perm t'.items) :
    ∃ a b, t.merged = .ok (a.map Finding.located) ∧ t'.merged = .ok (b.map Finding.located) ∧
      Option.Rel Alike a b := by
  rcases t.merged_standsFor with ⟨hitems, hmerged⟩ | ⟨a, hmerged, ha⟩
  · rcases t'.merged_standsFor with ⟨-, hmerged'⟩ | ⟨b, -, hb⟩
    · exact ⟨none, none, hmerged, hmerged', .none⟩
    · obtain ⟨c, hc, -⟩ := hb.exists_at
      rw [← hperm.mem_iff, hitems] at hc
      exact nomatch hc
  · rcases t'.merged_standsFor with ⟨hitems', -⟩ | ⟨b, hmerged', hb⟩
    · obtain ⟨c, hc, -⟩ := ha.exists_at
      rw [hperm.mem_iff, hitems'] at hc
      exact nomatch hc
    · exact ⟨some a, some b, hmerged, hmerged', .some (ha.alike hb hperm)⟩

/-- **Merging diagnostics loses nothing.**  Take diagnostics of the detailed families at any
positions, some of which may be missing, and merge them however they are bracketed.

* They become what they become from left to right, so every other bracketing gives the same.
* There is nothing left only if there was nothing.  Otherwise what is left lies at the furthest
  position and expects all that is expected there.  Its family, its place and its finding are those
  of the first diagnostic there, and so is its reason, unless there is one that names an unclosed
  delimiter.
* In another order they become something at the same position that expects the same, and names an
  unclosed delimiter if and only if this does.
* A diagnostic that is merged with itself stays what it is. -/
theorem merged_loses_nothing (t : Bracketing Finding) :
    t.merged = mergeAll none (t.items.map fun a => some a.located) ∧
      ((t.items = [] ∧ t.merged = .ok none) ∨
        ∃ a, t.merged = .ok (some a.located) ∧ StandsFor a t.items) ∧
      (∀ t' : Bracketing Finding, t.items.Perm t'.items →
        ∃ a b, t.merged = .ok (a.map Finding.located) ∧
          t'.merged = .ok (b.map Finding.located) ∧ Option.Rel Alike a b) ∧
      ∀ a : Finding, a.located.max (some a.located) = .ok a.located := by
  refine ⟨t.merged_eq_mergeAll, t.merged_standsFor, fun t' => merged_perm, fun a => ?_⟩
  rw [Finding.max_located, Finding.merge_self]

/-- An unexpected letter, a group that is not closed there, and a diagnostic before both, in two
orders and bracketed in two ways. -/
theorem merged_loses_nothing_of_three :
    let place : Span := ⟨2, 3, .null, by decide⟩
    let opened : Span := ⟨0, 1, .null, by decide⟩
    let letter : Finding :=
      ⟨2, .simple, ⟨place, .unexpected, .singleton (.str "a"), .str "c"⟩⟩
    let group : Finding :=
      ⟨2, .project, ⟨place, .unclosed opened (.str "("), .singleton (.str ")"), .str "c"⟩⟩
    let earlier : Finding :=
      ⟨1, .simple, ⟨opened, .custom "no", .empty, .null⟩⟩
    let t : Bracketing Finding :=
      .both (.both (.single letter) .nothing) (.both (.single group) (.single earlier))
    let t' : Bracketing Finding :=
      .both (.single earlier) (.both (.single group) (.single letter))
    t.items.Perm t'.items ∧ t.merged = .ok (some (letter.merge group).located) ∧
      t'.merged = .ok (some (group.merge letter).located) ∧
      Alike (letter.merge group) (group.merge letter) := by
  intro place opened letter group earlier t t'
  have hperm : t.items.Perm t'.items := (List.reverse_perm [letter, group, earlier]).symm
  have ht : t.merged = .ok (some (letter.merge group).located) := rfl
  have ht' : t'.merged = .ok (some (group.merge letter).located) := rfl
  obtain ⟨-, -, hothers, -⟩ := t.merged_loses_nothing
  obtain ⟨a, b, ha, hb, halike⟩ := hothers t' hperm
  refine ⟨hperm, ht, ht', ?_⟩
  cases halike with
  | none => cases ht.symm.trans ha
  | @some a b halike =>
      have hleft := Option.some.inj (Except.ok.inj (ht.symm.trans ha))
      have hright := Option.some.inj (Except.ok.inj (ht'.symm.trans hb))
      rwa [Finding.located_injective hleft, Finding.located_injective hright]

end Bracketing
end Resync
