import Mathlib.Algebra.GroupWithZero.Nat
import Mathlib.Algebra.Order.BigOperators.Group.List
import Mathlib.Algebra.Order.Group.Nat
import Mathlib.Data.List.DropRight
import Mathlib.Data.Prod.Lex
import Mathlib.Order.Interval.Set.Defs
import Mathlib.Order.Monotone.Defs
import Resync.Location

/-!
# Locations and offsets

A text falls at its line feeds into lines.  The location of an offset tells how many lines have
ended before it, and how much of its own line lies in front of it.  So the offset is what these
lines take, their line feeds included, and what lies in front of it on its line.

Locations are ordered by line, then by column.  Every location whose column is not beyond the end of
its line belongs to one offset, and the further the offset, the later the location.
-/

namespace Resync
namespace Text

/-- What stands in front of the first line feed. -/
def firstLine (text : List Char) : List Char := text.takeWhile (· ≠ '\n')

/-- What stands behind the last line feed. -/
def lastLine (text : List Char) : List Char := text.rtakeWhile (· ≠ '\n')

/-- What each line takes, its line feed included. -/
def lineSizes (text : List Char) : List Nat := (text.splitOn '\n').map (·.length + 1)

section Lines

variable (c : Char) (text rest : List Char)

@[simp] theorem firstLine_nil : firstLine [] = [] := rfl

@[simp] theorem firstLine_cons :
    firstLine (c :: rest) = if c = '\n' then [] else c :: firstLine rest := by
  by_cases hc : c = '\n'
  · simp [firstLine, hc]
  · simp [firstLine, hc]

@[simp] theorem lastLine_nil : lastLine [] = [] := rfl

@[simp] theorem lastLine_append_singleton :
    lastLine (text ++ [c]) = if c = '\n' then [] else lastLine text ++ [c] := by
  by_cases hc : c = '\n'
  · simp [lastLine, hc]
  · simp [lastLine, hc]

/-- One more character in front is on the last line only if there is no other line. -/
theorem lastLine_cons :
    lastLine (c :: rest) =
      if c = '\n' ∨ '\n' ∈ rest then lastLine rest else c :: lastLine rest := by
  induction rest using List.reverseRecOn with
  | nil => simpa using lastLine_append_singleton c []
  | append_singleton rest d ih =>
      rw [← List.cons_append, lastLine_append_singleton, lastLine_append_singleton, ih]
      by_cases hd : d = '\n'
      · simp [hd]
      · simp only [List.mem_append, List.mem_singleton, if_neg hd, Ne.symm hd, or_false]
        split_ifs
        · rfl
        · rfl

@[simp] theorem splitOn_newline_cons :
    (c :: rest).splitOn '\n' =
      if c = '\n' then [] :: rest.splitOn '\n' else (rest.splitOn '\n').modifyHead (c :: ·) := by
  simp [List.splitOn, List.splitOnP_cons_eq_if_modifyHead]

/-- A text begins with its first line. -/
theorem exists_splitOn_eq_cons : ∃ behind, rest.splitOn '\n' = firstLine rest :: behind := by
  induction rest with
  | nil => exact ⟨[], rfl⟩
  | cons c rest ih =>
      obtain ⟨behind, hbehind⟩ := ih
      by_cases hc : c = '\n'
      · simp [hc]
      · simp [hc, hbehind]

/-- A text that goes on: the lines that have ended stay, and the last one is continued. -/
theorem splitOn_append :
    ∃ ended,
      (text ++ rest).splitOn '\n' = ended ++ (rest.splitOn '\n').modifyHead (lastLine text ++ ·) ∧
      ended.length = text.count '\n' ∧
      (ended.map (·.length + 1)).sum + (lastLine text).length = text.length := by
  -- The next character either ends the last line, or is one more of it.
  induction text using List.reverseRecOn generalizing rest with
  | nil =>
      obtain ⟨behind, hbehind⟩ := exists_splitOn_eq_cons rest
      exact ⟨[], by simp [hbehind], rfl, rfl⟩
  | append_singleton text c ih =>
      obtain ⟨ended, hsplit, hlength, hsum⟩ := ih (c :: rest)
      obtain ⟨behind, hbehind⟩ := exists_splitOn_eq_cons rest
      rw [lastLine_append_singleton, List.length_append, List.length_singleton]
      by_cases hc : c = '\n'
      · refine ⟨ended ++ [lastLine text], ?_, ?_, ?_⟩
        · simpa [hc, hbehind] using hsplit
        · simp [hlength, hc]
        · rw [if_pos hc, List.map_append, List.sum_append, List.map_singleton, List.sum_singleton]
          simp only [List.length_nil]
          omega
      · refine ⟨ended, ?_, ?_, ?_⟩
        · simpa [hc, hbehind] using hsplit
        · simp [hlength, hc]
        · rw [if_neg hc, List.length_append, List.length_singleton]
          omega

end Lines
end Text

namespace Location

section Order

/-- The order of the text: by line, then by column. -/
instance : LinearOrder Location :=
  LinearOrder.lift' (fun l => toLex (l.line, l.column)) fun l m h => by
    cases l
    cases m
    simpa using h

theorem lt_iff {l m : Location} :
    l < m ↔ l.line < m.line ∨ l.line = m.line ∧ l.column < m.column :=
  Prod.Lex.toLex_lt_toLex

end Order

/-- Whether a location lies in a text: it has a line of the text, and a column that is not beyond
the end of this line. -/
def Within (text : List Char) (l : Location) : Prop :=
  1 ≤ l.line ∧ ∃ line, (text.splitOn '\n')[l.line - 1]? = some line ∧ l.column ≤ line.length

/-- The offset that belongs to a location: what the lines in front of it take, and its column. -/
def offsetIn (text : List Char) (l : Location) : Nat :=
  ((Text.lineSizes text).take (l.line - 1)).sum + l.column

variable {text : List Char} {l m : Location}

section Offsets

theorem after_eq (text : List Char) :
    after text = ⟨text.count '\n' + 1, (Text.lastLine text).length⟩ := by
  simp [after, Text.lastLine, List.rtakeWhile]

theorem ofOffset_eq_after {i : Nat} (hi : i ≤ text.length) :
    ofOffset text i = after (text.take i) := by
  simp [ofOffset, clamp, hi]

/-- The location of an offset: so many lines have ended in front of it, and it stands on the next
one. -/
theorem exists_ended_of_ofOffset {i : Nat} (hi : i ≤ text.length) :
    ∃ ended behind,
      text.splitOn '\n' =
        ended ++ (Text.lastLine (text.take i) ++ Text.firstLine (text.drop i)) :: behind ∧
      ofOffset text i = ⟨ended.length + 1, (Text.lastLine (text.take i)).length⟩ ∧
      (ended.map (·.length + 1)).sum + (Text.lastLine (text.take i)).length = i := by
  obtain ⟨ended, hsplit, hlength, hsum⟩ := Text.splitOn_append (text.take i) (text.drop i)
  obtain ⟨behind, hbehind⟩ := Text.exists_splitOn_eq_cons (text.drop i)
  refine ⟨ended, behind, ?_, ?_, ?_⟩
  · rw [List.take_append_drop, hbehind, List.modifyHead_cons] at hsplit
    exact hsplit
  · rw [ofOffset_eq_after hi, after_eq, hlength]
  · rw [hsum, List.length_take, Nat.min_eq_left hi]

theorem ofOffset_within {i : Nat} (hi : i ≤ text.length) : (ofOffset text i).Within text := by
  obtain ⟨ended, behind, hsplit, hlocation, -⟩ := exists_ended_of_ofOffset hi
  rw [hlocation]
  exact ⟨by simp, Text.lastLine (text.take i) ++ Text.firstLine (text.drop i), by simp [hsplit],
    by simp⟩

/-- An offset belongs to its location. -/
theorem offsetIn_ofOffset {i : Nat} (hi : i ≤ text.length) :
    (ofOffset text i).offsetIn text = i := by
  obtain ⟨ended, behind, hsplit, hlocation, hsum⟩ := exists_ended_of_ofOffset hi
  have htake : (Text.lineSizes text).take ended.length = ended.map (·.length + 1) := by
    simp [Text.lineSizes, hsplit]
  rw [hlocation]
  simp only [offsetIn, Nat.add_sub_cancel, htake]
  exact hsum

end Offsets

section Within

/-- What the lines up to the one of a location take reaches beyond its offset. -/
theorem Within.offsetIn_lt_sum
    (hl : l.Within text)
    {n : Nat}
    (hn : l.line ≤ n) :
    l.offsetIn text < ((Text.lineSizes text).take n).sum := by
  obtain ⟨hone, line, hline, hcolumn⟩ := hl
  have hsize : (Text.lineSizes text)[l.line - 1]? = some (line.length + 1) := by
    simp [Text.lineSizes, hline]
  obtain ⟨hlt, hsize⟩ := List.getElem?_eq_some_iff.1 hsize
  calc l.offsetIn text
      < ((Text.lineSizes text).take (l.line - 1)).sum + (line.length + 1) := by
        unfold offsetIn
        omega
    _ = ((Text.lineSizes text).take (l.line - 1 + 1)).sum := by
        rw [List.sum_take_succ _ _ hlt, hsize]
    _ ≤ ((Text.lineSizes text).take n).sum :=
        List.monotone_sum_take _ (by omega)

/-- Later locations belong to greater offsets. -/
theorem Within.offsetIn_lt
    (hl : l.Within text)
    (hlt : l < m) :
    l.offsetIn text < m.offsetIn text := by
  rcases lt_iff.1 hlt with hline | ⟨hline, hcolumn⟩
  · have hsum := hl.offsetIn_lt_sum (Nat.le_sub_one_of_lt hline)
    unfold offsetIn at hsum ⊢
    omega
  · unfold offsetIn
    rw [hline]
    omega

theorem sum_lineSizes (text : List Char) : (Text.lineSizes text).sum = text.length + 1 := by
  obtain ⟨ended, hsplit, -, hsum⟩ := Text.splitOn_append text []
  rw [List.append_nil] at hsplit
  rw [← hsum, Text.lineSizes, hsplit]
  simp [Nat.add_assoc]

theorem Within.offsetIn_le (hl : l.Within text) : l.offsetIn text ≤ text.length := by
  have hlt := hl.offsetIn_lt_sum
    (n := max l.line (Text.lineSizes text).length) (Nat.le_max_left _ _)
  rw [List.take_of_length_le (Nat.le_max_right _ _), sum_lineSizes] at hlt
  exact Nat.le_of_lt_succ hlt

/-- There is no other offset with the same location. -/
theorem Within.ofOffset_offsetIn (hl : l.Within text) : ofOffset text (l.offsetIn text) = l := by
  have hback : (ofOffset text (l.offsetIn text)).offsetIn text = l.offsetIn text :=
    offsetIn_ofOffset hl.offsetIn_le
  rcases lt_trichotomy (ofOffset text (l.offsetIn text)) l with hlt | heq | hgt
  · have hless := (ofOffset_within hl.offsetIn_le).offsetIn_lt hlt
    omega
  · exact heq
  · have hmore := hl.offsetIn_lt hgt
    omega

end Within

/-- The location of an offset comes before those of greater offsets. -/
theorem ofOffset_lt
    {i j : Nat}
    (hij : i < j)
    (hj : j ≤ text.length) :
    ofOffset text i < ofOffset text j := by
  by_contra hnot
  rcases lt_or_eq_of_le (not_lt.1 hnot) with hlt | heq
  · have hback := (ofOffset_within hj).offsetIn_lt hlt
    rw [offsetIn_ofOffset hj, offsetIn_ofOffset (by omega)] at hback
    omega
  · have hsame := congrArg (offsetIn text) heq
    rw [offsetIn_ofOffset hj, offsetIn_ofOffset (by omega)] at hsame
    omega

/-- **Offsets and locations determine each other.**

* From the start of a text to its end, a greater offset has a later location.  So no two offsets
  have the same one.
* The location of an offset lies in the text, and the offset that belongs to it is that offset: the
  lines in front of it with their line feeds, and its column.
* Every location that lies in the text is that of exactly one offset.
* An offset in front of the text has the location of its start, and one behind it that of its
  end. -/
theorem ofOffset_determines (text : List Char) :
    StrictMonoOn (fun i : Nat => ofOffset text i) (Set.Iic text.length) ∧
    Set.InjOn (fun i : Nat => ofOffset text i) (Set.Iic text.length) ∧
    (∀ i : Nat, i ≤ text.length →
      (ofOffset text i).Within text ∧ (ofOffset text i).offsetIn text = i) ∧
    (∀ l : Location, l.Within text →
      ∃! i : Nat, i ≤ text.length ∧ ofOffset text i = l) ∧
    ∀ i : Int,
      (i < 0 → ofOffset text i = ofOffset text 0) ∧
      (text.length < i → ofOffset text i = ofOffset text text.length) := by
  have hmono : StrictMonoOn (fun i : Nat => ofOffset text i) (Set.Iic text.length) :=
    fun i _ j hj hij => ofOffset_lt hij hj
  refine ⟨hmono, hmono.injOn, fun i hi => ⟨ofOffset_within hi, offsetIn_ofOffset hi⟩,
    fun l hl => ?_, fun i => ⟨fun hi => ?_, fun hi => ?_⟩⟩
  · refine ⟨l.offsetIn text, ⟨hl.offsetIn_le, hl.ofOffset_offsetIn⟩, fun i ⟨hi, heq⟩ => ?_⟩
    exact hmono.injOn hi hl.offsetIn_le (heq.trans hl.ofOffset_offsetIn.symm)
  · have hclamp : clamp text.length i = clamp text.length 0 := by
      unfold clamp
      omega
    simp [ofOffset, hclamp]
  · have hclamp : clamp text.length i = clamp text.length text.length := by
      unfold clamp
      omega
    simp [ofOffset, hclamp]

/-- The end of a line that a line feed follows, the empty line at the end, and an offset beyond. -/
theorem ofOffset_determines_of_lines :
    let text := "ab\ncd!\n".toList
    (⟨2, 3⟩ : Location).Within text ∧
      (∃! i : Nat, i ≤ 7 ∧ ofOffset text i = ⟨2, 3⟩) ∧
      ofOffset text 6 < ofOffset text 7 ∧ (ofOffset text 7).offsetIn text = 7 ∧
      ofOffset text 100 = ofOffset text 7 := by
  intro text
  obtain ⟨hmono, -, hback, hunique, hclamped⟩ := ofOffset_determines text
  have hwithin : (⟨2, 3⟩ : Location).Within text := ⟨by decide, "cd!".toList, by decide, by decide⟩
  refine ⟨hwithin, hunique ⟨2, 3⟩ hwithin, ?_, ?_, ?_⟩
  · exact hmono (Set.mem_Iic.2 (by decide)) (Set.mem_Iic.2 (by decide)) (by decide : 6 < 7)
  · exact (hback 7 (by decide)).2
  · exact (hclamped 100).2 (by decide)

end Location
end Resync
