/-!
# Classes of characters as ranges of code points

A class is a list of closed ranges in increasing order.  Membership is decided by walking the
list, and the walk stops at the first range that starts beyond the code point.
-/

namespace Resync
namespace Text

/-- Whether `n` lies in one of the ranges.  The ranges are closed and in increasing order. -/
def inRanges (n : Nat) : List (Nat × Nat) → Bool
  | [] => false
  | (low, high) :: rest =>
      if n < low then false
      else if n ≤ high then true
      else inRanges n rest

/-- How far `n` lies behind the start of the range that holds it, if one does. -/
def positionInRange? (n : Nat) : List (Nat × Nat) → Option Nat
  | [] => none
  | (low, high) :: rest =>
      if n < low then none
      else if n ≤ high then some (n - low)
      else positionInRange? n rest

/-- A position is found for exactly the numbers that lie in a range. -/
theorem isSome_positionInRange?
    (n : Nat)
    (ranges : List (Nat × Nat)) :
    (positionInRange? n ranges).isSome = inRanges n ranges := by
  induction ranges with
  | nil => rfl
  | cons r rest ih =>
      obtain ⟨low, high⟩ := r
      simp only [positionInRange?, inRanges]
      split
      · rfl
      · split
        · rfl
        · exact ih

/-- Ranges are in increasing order, and no two of them touch or overlap. -/
def RangesSorted : List (Nat × Nat) → Prop
  | [] => True
  | (low, high) :: rest =>
      low ≤ high ∧ (∀ r ∈ rest, high < r.1) ∧ RangesSorted rest

/-- A code point that is found lies in a range of the list. -/
theorem exists_of_inRanges
    {n : Nat}
    {ranges : List (Nat × Nat)}
    (h : inRanges n ranges = true) :
    ∃ r ∈ ranges, r.1 ≤ n ∧ n ≤ r.2 := by
  induction ranges with
  | nil => simp [inRanges] at h
  | cons r rest ih =>
      obtain ⟨low, high⟩ := r
      simp only [inRanges] at h
      split at h
      · cases h
      · split at h
        · exact ⟨(low, high), by simp, by omega, by assumption⟩
        · obtain ⟨r, hr, hn⟩ := ih h
          exact ⟨r, by simp [hr], hn⟩

/-- In a sorted list every code point of a range is found. -/
theorem inRanges_of_mem
    {n : Nat}
    {ranges : List (Nat × Nat)}
    (hsorted : RangesSorted ranges)
    {r : Nat × Nat}
    (hr : r ∈ ranges)
    (hlow : r.1 ≤ n)
    (hhigh : n ≤ r.2) :
    inRanges n ranges = true := by
  induction ranges with
  | nil => cases hr
  | cons r' rest ih =>
      obtain ⟨low, high⟩ := r'
      obtain ⟨hle, hbelow, hrest⟩ := hsorted
      simp only [inRanges]
      rcases List.mem_cons.1 hr with rfl | hmem
      · rw [if_neg (by omega), if_pos hhigh]
      · have hgap := hbelow r hmem
        rw [if_neg (by omega)]
        split
        · rfl
        · exact ih hrest hmem

end Text
end Resync
