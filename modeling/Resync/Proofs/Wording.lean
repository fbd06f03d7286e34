import Resync.Proofs.Describing

/-!
# Equal diagnostics read alike

What was expected is kept in the order in which it was gathered, and equality does not see this
order.  So the wording must not see it either.  It names the patterns in the alphabetical order of
their descriptions.  Two patterns may have one description, as a label may be spelled like a text
with its quotes; but whichever of them is listed first, the row of descriptions is the same.

Two findings at one place that were made of one token can be merged in either order, unless a reason
is lost with that: a message of the grammar's own, or one of two delimiters that were not closed.
-/

namespace Resync

namespace PatternSet

variable {s t : PatternSet} {u v w : Value}

section Order

theorem listedBefore_iff :
    listedBefore v w = true ↔
      v.describe < w.describe ∨ v.describe = w.describe ∧ rank v ≤ rank w := by
  unfold listedBefore
  split_ifs with h
  · simp [h]
  · simp [h]

/-- Patterns are listed in the order of their descriptions. -/
theorem describe_le_of_listedBefore (h : listedBefore v w = true) : v.describe ≤ w.describe := by
  rcases listedBefore_iff.1 h with hlt | ⟨heq, -⟩
  · exact Std.le_of_lt hlt
  · exact heq ▸ String.le_refl _

theorem listedBefore_trans
    (huv : listedBefore u v = true)
    (hvw : listedBefore v w = true) :
    listedBefore u w = true := by
  rw [listedBefore_iff] at huv hvw ⊢
  rcases huv with huv | ⟨huv, hrank⟩
  · rcases hvw with hvw | ⟨hvw, -⟩
    · exact Or.inl (String.lt_trans huv hvw)
    · exact Or.inl (hvw ▸ huv)
  · rcases hvw with hvw | ⟨hvw, hrank'⟩
    · exact Or.inl (huv ▸ hvw)
    · exact Or.inr ⟨huv.trans hvw, Nat.le_trans hrank hrank'⟩

theorem listedBefore_total (v w : Value) : (listedBefore v w || listedBefore w v) = true := by
  rw [Bool.or_eq_true, listedBefore_iff, listedBefore_iff]
  rcases Std.lt_trichotomy v.describe w.describe with hlt | heq | hgt
  · exact Or.inl (Or.inl hlt)
  · rcases Nat.le_total (rank v) (rank w) with hle | hle
    · exact Or.inl (Or.inr ⟨heq, hle⟩)
    · exact Or.inr (Or.inr ⟨heq.symm, hle⟩)
  · exact Or.inr (Or.inl hgt)

end Order

theorem sorted_descriptions (s : PatternSet) : s.descriptions.Pairwise (· ≤ ·) := by
  have hlisted : (s.items.mergeSort listedBefore).Pairwise fun v w => listedBefore v w = true := by
    refine List.pairwise_mergeSort ?_ listedBefore_total s.items
    exact fun _ _ _ => listedBefore_trans
  exact List.pairwise_map.2 (hlisted.imp describe_le_of_listedBefore)

theorem descriptions_perm (s : PatternSet) :
    s.descriptions.Perm (s.items.map Value.describe) :=
  (List.mergeSort_perm s.items listedBefore).map Value.describe

/-- Sets with the same members are listed with the same descriptions: both rows are in order, and
one is a rearrangement of the other. -/
theorem descriptions_eq (h : ∀ v, v ∈ s ↔ v ∈ t) : s.descriptions = t.descriptions := by
  have hitems : s.items.Perm t.items := (List.perm_ext_iff_of_nodup s.nodup t.nodup).2 h
  have hperm : s.descriptions.Perm t.descriptions :=
    s.descriptions_perm.trans ((hitems.map Value.describe).trans t.descriptions_perm.symm)
  exact hperm.eq_of_pairwise (fun _ _ _ _ => String.le_antisymm) s.sorted_descriptions
    t.sorted_descriptions

theorem isEmpty_eq (h : ∀ v, v ∈ s ↔ v ∈ t) : s.isEmpty = t.isEmpty := by
  have hitems : s.items.Perm t.items := (List.perm_ext_iff_of_nodup s.nodup t.nodup).2 h
  rw [isEmpty, isEmpty, Bool.eq_iff_iff, List.isEmpty_iff, List.isEmpty_iff]
  exact ⟨fun hs => (hs ▸ hitems).nil_eq.symm, fun ht => (ht ▸ hitems).eq_nil⟩

theorem mem_foldl_insert (items : List Value) :
    v ∈ items.foldl insert s ↔ v ∈ s ∨ v ∈ items := by
  induction items generalizing s with
  | nil => simp
  | cons w items ih => simp [ih, insert, or_assoc]

theorem mem_ofList {items : List Value} : v ∈ ofList items ↔ v ∈ items := by
  simp [ofList, mem_foldl_insert]

end PatternSet

namespace Detail

variable {a b : Detail}

theorem beq_iff :
    (a == b) = true ↔
      a.span = b.span ∧ a.reason = b.reason ∧ (∀ v, v ∈ a.expected ↔ v ∈ b.expected) ∧
        a.found = b.found := by
  show (a.span == b.span && a.reason == b.reason && a.expected == b.expected &&
    a.found == b.found) = true ↔ _
  simp only [Bool.and_eq_true, beq_iff_eq, PatternSet.beq_iff, and_assoc]

/-- The wording of a finding sees no more of what was expected than which patterns it is. -/
theorem message_congr
    (hreason : a.reason = b.reason)
    (hexpected : ∀ v, v ∈ a.expected ↔ v ∈ b.expected)
    (hfound : a.found = b.found) :
    a.message = b.message := by
  have hwords : a.expected.inWords = b.expected.inWords :=
    congrArg alternatives (PatternSet.descriptions_eq hexpected)
  have hempty : a.expected.isEmpty = b.expected.isEmpty := PatternSet.isEmpty_eq hexpected
  simp only [message, hreason, hfound, hwords, hempty]

end Detail

namespace Diagnostic

/-- **Equal diagnostics read alike.**

* Diagnostics that are equal have the same wording.
* So the wording does not depend on the order in which patterns were gathered, or on how often.
* Two findings at one place that were made of one token can be merged in either order, if neither
  has a message of the grammar's own and not both are about a delimiter that was not closed: the
  mergers are equal, and read alike. -/
theorem equal_read_alike :
    (∀ e e' : Diagnostic, (e == e') = true → e.message = e'.message) ∧
    (∀ (span : Span) (reason : Reason) (items items' : List Value) (found : Value),
      (∀ v, v ∈ items ↔ v ∈ items') →
        (Detail.mk span reason (.ofList items) found).message =
          (Detail.mk span reason (.ofList items') found).message) ∧
    ∀ (family family' : Family) (a b : Detail), a.span = b.span → a.found = b.found →
      (∀ text, a.reason ≠ .custom text) → (∀ text, b.reason ≠ .custom text) →
      ¬ (a.reason.isUnclosed = true ∧ b.reason.isUnclosed = true) →
        ∃ ab ba, merge (.detailed family a) (.detailed family' b) = .ok ab ∧
          merge (.detailed family' b) (.detailed family a) = .ok ba ∧
          (ab == ba) = true ∧ ab.message = ba.message := by
  have halike (e e' : Diagnostic) (h : (e == e') = true) : e.message = e'.message := by
    cases e with
    | detailed family d =>
        cases e' with
        | detailed family' d' =>
            obtain ⟨-, hreason, hexpected, hfound⟩ := Detail.beq_iff.1 h
            exact Detail.message_congr hreason hexpected hfound
        | terse text => cases h
    | terse text =>
        cases e' with
        | detailed family' d' => cases h
        | terse text' => exact eq_of_beq h
  refine ⟨halike, fun span reason items items' found h => ?_,
    fun family family' a b hspan hfound ha hb hunclosed => ?_⟩
  · exact Detail.message_congr rfl (by simp [PatternSet.mem_ofList, h]) rfl
  · let seen : Sighting := ⟨0, a.span, a.found⟩
    have hdescribes : a.Describes seen := ⟨rfl, rfl, ha⟩
    have hdescribes' : b.Describes seen := ⟨hspan.symm, hfound.symm, hb⟩
    have hrivals : ¬ a.Rivals b := fun h => hunclosed ⟨h.1, h.2.1⟩
    have hequal : (detailed family (a.merge b) == detailed family' (b.merge a)) = true :=
      hdescribes.merge_beq_comm hdescribes' hrivals
    exact ⟨_, _, rfl, rfl, hequal, halike _ _ hequal⟩

/-- A label that is spelled like a text with its quotes, gathered before it and behind it, and a
delimiter that was not closed at the same place. -/
theorem equal_read_alike_of_quotes :
    let label : Value := .label "'x'"
    let text : Value := .str "x"
    let span : Span := .emptyAt 3 .null
    let a : Detail := ⟨span, .unexpected, .ofList [label, text, .null], .null⟩
    let a' : Detail := ⟨span, .unexpected, .ofList [.null, text, label, text], .null⟩
    let b : Detail := ⟨span, .unclosed (.single 0 .null) (.str "("), .singleton (.str ")"), .null⟩
    label.describe = text.describe ∧ a.expected.items ≠ a'.expected.items ∧
      (detailed .simple a == detailed .project a') = true ∧ a.message = a'.message ∧
      ∃ ab ba, merge (.detailed .simple a) (.detailed .simple b) = .ok ab ∧
        merge (.detailed .simple b) (.detailed .simple a) = .ok ba ∧
        (ab == ba) = true ∧ ab.message = ba.message := by
  intro label text span a a' b
  obtain ⟨halike, -, hmerged⟩ := equal_read_alike
  have hequal : (detailed .simple a == detailed .project a') = true := rfl
  refine ⟨rfl, by decide, hequal, halike _ _ hequal, ?_⟩
  exact hmerged .simple .simple a b rfl rfl nofun nofun (fun h => absurd h.1 Bool.false_ne_true)

/-- Of two descriptions that are alike both are named. -/
example :
    let expected : PatternSet := .ofList [.str "x", .null, .label "'x'"]
    (Detail.mk (.emptyAt 3 .null) .unexpected expected .null).message =
      "expected one of 'x', 'x' or end of input, found end of input" := by
  cbv

end Diagnostic
end Resync
