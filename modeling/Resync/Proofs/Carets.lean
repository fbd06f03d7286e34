import Resync.Proofs.Lines
import Resync.Proofs.Spans

/-!
# Carets

In a source whose only line breaks are line feeds, a report shows the line on which the span of its
diagnostic begins, and underlines what of the span lies on it.  The carets stop where the span or
the line ends, and there is one at least: where the span is empty, or begins at the end of its line.
-/

namespace Resync
namespace Text

variable {text : List Char}

/-- The first line of the front of a text is the front of its first line. -/
theorem firstLine_take (text : List Char) (n : Nat) :
    firstLine (text.take n) = (firstLine text).take n :=
  List.take_takeWhile.symm

theorem firstLine_prefix (text : List Char) : firstLine text <+: text :=
  List.takeWhile_prefix _

/-- Where only line feeds end lines, the lines are the pieces between them, but for an empty one at
the end. -/
theorem getD_lines
    (hfeeds : ∀ c ∈ text, isLineBreak c = true → c = '\n')
    (k : Nat) :
    (lines text).getD k [] = (text.splitOn '\n').getD k [] := by
  induction text generalizing k with
  | nil =>
      cases k with
      | zero => rfl
      | succ k => rfl
  | cons c rest ih =>
      obtain ⟨hc, hrest⟩ := List.forall_mem_cons.1 hfeeds
      by_cases hnewline : c = '\n'
      · rw [lines_cons_break (by simp [hnewline]; decide) (by simp [hnewline])]
        cases k with
        | zero => simp [hnewline]
        | succ k => simpa [hnewline] using ih hrest k
      · have hother : isLineBreak c = false := by
          simpa using fun h => hnewline (hc h)
        obtain ⟨behind, hbehind⟩ := exists_splitOn_eq_cons rest
        have hsame := ih hrest k
        rw [hbehind] at hsame
        rw [lines_cons_other hother, splitOn_newline_cons, if_neg hnewline, hbehind,
          List.modifyHead_cons]
        cases k with
        | zero => cases hlines : lines rest <;> simpa [hlines] using hsame
        | succ k => cases hlines : lines rest <;> simpa [hlines] using hsame

end Text

/-- Where only line feeds end lines, the line that is looked up for the location of an offset is
what stands around the offset between two of them. -/
theorem Location.lineOf_ofOffset
    {text : List Char}
    {i : Nat}
    (hfeeds : ∀ c ∈ text, Text.isLineBreak c = true → c = '\n')
    (hi : i ≤ text.length) :
    (ofOffset text i).lineOf text =
      Text.lastLine (text.take i) ++ Text.firstLine (text.drop i) := by
  obtain ⟨ended, behind, hsplit, hlocation, -⟩ := exists_ended_of_ofOffset hi
  unfold lineOf
  rw [Text.getD_lines hfeeds, hlocation, hsplit]
  simp

namespace Report

/-- **Carets underline the error.**  In a source whose only line breaks are line feeds, let a
diagnostic have a span that does not begin in front of the source or behind it.  The report gives
the number of the line on which the span begins, and its column, counted from one.  It shows this
line, without the white space at its end, and under it as many carets as characters of the span lie
on the line, or one if there are none.  They stand under what the span covers, and stop where the
span ends, or the line if the span goes on. -/
theorem ofDiagnostic_underlines
    {source : String}
    {d : Detail}
    (hfeeds : ∀ c ∈ source.toList, Text.isLineBreak c = true → c = '\n')
    (hstart : 0 ≤ d.span.start)
    (hinside : d.span.start ≤ source.toList.length)
    (family : Family) :
    let start := d.span.start.toNat
    let front := Text.lastLine (source.toList.take start)
    let line := front ++ Text.firstLine (source.toList.drop start)
    let column := front.length
    let width := (Text.firstLine (d.span.cut source).toList).length
    ofDiagnostic source (.detailed family d) =
      d.message ++ " at line " ++ toString ((source.toList.take start).count '\n' + 1)
        ++ ", column " ++ toString (column + 1) ++ ":\n"
        ++ String.ofList (Text.trimEnd line) ++ "\n"
        ++ String.ofList (List.replicate column ' ' ++ List.replicate (max 1 width) '^')
        ++ closing source.toList d.reason ∧
    (line.drop column).take width = (source.toList.drop start).take width ∧
    (column + width : Int) = min (column + d.span.length) line.length := by
  intro start front line column width
  let text := source.toList
  have hi : start ≤ text.length := Int.toNat_le.2 hinside
  have horder := d.span.start_le_stop
  have hlocation : Location.ofOffset text d.span.start =
      ⟨(text.take start).count '\n' + 1, column⟩ := by
    rw [← Int.toNat_of_nonneg hstart, Location.ofOffset_eq_after hi, Location.after_eq]
  have hline : Location.lineOf text ⟨(text.take start).count '\n' + 1, column⟩ = line := by
    rw [← hlocation, ← Int.toNat_of_nonneg hstart]
    exact Location.lineOf_ofOffset hfeeds hi
  have hlength : line.length = column + (Text.firstLine (text.drop start)).length :=
    List.length_append
  have hcut : (d.span.cut source).toList = (text.drop start).take d.span.length.toNat := by
    simp [Span.cut, Text.slice, text, start]
  have hwidth : width =
      min d.span.length.toNat (Text.firstLine (text.drop start)).length := by
    simp only [width, hcut, Text.firstLine_take, List.length_take]
  unfold Span.length at hwidth ⊢
  refine ⟨?_, ?_, by omega⟩
  · have hshown : (max (widthOnLine text d.span
        ⟨(text.take start).count '\n' + 1, column⟩) 1).toNat = max 1 width := by
      unfold widthOnLine
      rw [hline, hlength]
      dsimp only
      omega
    show ofDetail text d = _
    rw [ofDetail_eq, hlocation, hline, caretLine, hshown]
  · calc (line.drop column).take width
        = (Text.firstLine (text.drop start)).take width := by
          rw [List.drop_left]
      _ = ((text.drop start).take (Text.firstLine (text.drop start)).length).take width := by
          rw [← List.prefix_iff_eq_take.1 (Text.firstLine_prefix _)]
      _ = (text.drop start).take width := by
          rw [List.take_take, Nat.min_eq_left (by omega)]

/-- A span that goes on to the next line, and one behind the last line feed. -/
theorem ofDiagnostic_underlines_of_lines :
    let across : Detail := ⟨⟨4, 9, .null, by decide⟩, .custom "bad", .empty, .null⟩
    let behind : Detail := ⟨⟨11, 11, .null, by decide⟩, .custom "bad", .empty, .null⟩
    ofDiagnostic "ab\ncd! \nef\n" (.detailed .simple across) =
        "bad at line 2, column 2:\ncd!\n ^^^" ∧
      ofDiagnostic "ab\ncd! \nef\n" (.detailed .simple behind) =
        "bad at line 4, column 1:\n\n^" := by
  have hfeeds : ∀ c ∈ "ab\ncd! \nef\n".toList, Text.isLineBreak c = true → c = '\n' :=
    List.forall_iff_forall_mem.1 (by decide)
  refine ⟨?_, ?_⟩
  · refine (ofDiagnostic_underlines hfeeds (by decide) (by decide) .simple).1.trans ?_
    decide +kernel
  · refine (ofDiagnostic_underlines hfeeds (by decide) (by decide) .simple).1.trans ?_
    decide +kernel

end Report
end Resync
