import Resync.Fault

/-!
# Sets of expected patterns

A diagnostic says what was expected as a set of patterns.  The members are kept in the order in
which they first arrived, each once, so that union is associative and idempotent as it stands; two
sets are equal when they have the same members, in whatever order.
-/

namespace Resync

/-- A finite set of patterns, in order of arrival. -/
structure PatternSet where
  items : List Value
  nodup : items.Nodup

namespace PatternSet

/-- The set without members. -/
def empty : PatternSet := ⟨[], List.nodup_nil⟩

/-- The set of one pattern. -/
def singleton (v : Value) : PatternSet := ⟨[v], by simp⟩

instance : Membership Value PatternSet where
  mem s v := v ∈ s.items

instance (v : Value) (s : PatternSet) : Decidable (v ∈ s) :=
  inferInstanceAs (Decidable (v ∈ s.items))

/-- All patterns of both sets: those of the first, then the new ones of the second. -/
def union (s t : PatternSet) : PatternSet where
  items := s.items ++ t.items.filter fun v => v ∉ s.items
  nodup := by
    refine List.nodup_append.2 ⟨s.nodup, t.nodup.filter _, ?_⟩
    intro a ha b hb hab
    subst hab
    simp [ha] at hb

/-- The set with one more pattern. -/
def insert (s : PatternSet) (v : Value) : PatternSet := s.union (singleton v)

/-- The patterns of a list, each once. -/
def ofList (items : List Value) : PatternSet := items.foldl insert empty

/-- The patterns of a list, provided that all of them can be members of a set. -/
def ofKeys (items : List Value) : Except Fault PatternSet :=
  if items.all Value.isKey then .ok (ofList items) else .error .typeMismatch

/-- Whether every member of `s` is one of `t`. -/
def subset (s t : PatternSet) : Bool := s.items.all fun v => v ∈ t

instance : BEq PatternSet where
  beq s t := s.subset t && t.subset s

/-- Whether there is no member. -/
def isEmpty (s : PatternSet) : Bool := s.items.isEmpty

/-- The names of the labels among the members. -/
def labels (s : PatternSet) : List String :=
  s.items.filterMap fun
    | .label name => some name
    | _ => none

/-- Patterns of one description are listed in this order: the end of the input, labels, integers,
texts, tokens, and then whatever else there is. -/
def rank : Value → Nat
  | .null => 0
  | .label _ => 1
  | .int _ => 2
  | .str _ => 3
  | .token _ _ => 4
  | .bool _ | .span _ _ _ | .list _ | .tuple _ | .absent => 5

/-- The order in which patterns are listed: by description, then by kind. -/
def listedBefore (v w : Value) : Bool :=
  if v.describe = w.describe then rank v ≤ rank w else v.describe < w.describe

/-- The members in a fixed order. -/
def listed (s : PatternSet) : List Value := s.items.mergeSort listedBefore

/-- The descriptions of the members, in order. -/
def descriptions (s : PatternSet) : List String := s.listed.map Value.describe

@[simp] theorem mem_items {v : Value} {s : PatternSet} : v ∈ s.items ↔ v ∈ s := Iff.rfl

@[simp] theorem mem_union {v : Value} {s t : PatternSet} : v ∈ s.union t ↔ v ∈ s ∨ v ∈ t := by
  by_cases h : v ∈ s.items <;> simp [← mem_items, union, h]

@[simp] theorem not_mem_empty (v : Value) : v ∉ empty := by
  simp [← mem_items, empty]

@[simp] theorem mem_singleton {v w : Value} : v ∈ singleton w ↔ v = w := by
  simp [← mem_items, singleton]

/-- Sets are equal when they have the same members. -/
theorem beq_iff {s t : PatternSet} : (s == t) = true ↔ ∀ v, v ∈ s ↔ v ∈ t := by
  simp only [BEq.beq, subset, Bool.and_eq_true, List.all_eq_true, decide_eq_true_eq, mem_items]
  constructor
  · rintro ⟨hst, hts⟩ v
    exact ⟨hst v, hts v⟩
  · intro h
    exact ⟨fun v => (h v).1, fun v => (h v).2⟩

end PatternSet
end Resync
