import Resync.Proofs.Locations
import Resync.Report

/-!
# The line that is shown

A report shows a line of its source.  Which one is looked up by the number of a location, and that
counts line feeds; the lines it is looked up in end at every line break.  The two agree on a
character if every line break in front of it is a line feed, or a carriage return in front of one.
Then the line that is shown is the line with the character, and it stands in its column.  Otherwise
the line that is shown is an earlier one.
-/

namespace Resync
namespace Text

/-- Whether all line breaks of a text are line feeds, or carriage returns in front of one. -/
def BreaksAtLineFeeds (text : List Char) : Prop :=
  ∀ k, ∀ c ∈ text[k]?, isLineBreak c = true → c = '\n' ∨ c = '\r' ∧ text[k + 1]? = some '\n'

/-- How a text falls at its line breaks: into lines that have ended, and one that is begun and goes
on if no break follows.  The lines that have ended are as many as the line feeds, unless there are
breaks of another kind. -/
structure Falls (text : List Char) (ended : List (List Char)) (begun : List Char) : Prop where
  lines_append : ∀ c rest, isLineBreak c = false →
    lines (text ++ c :: rest) = ended ++ (lines (c :: rest)).modifyHead (begun ++ ·)
  count_le : text.count '\n' ≤ ended.length
  count_eq_iff : text.count '\n' = ended.length ↔ BreaksAtLineFeeds text
  begun_eq : text.count '\n' = ended.length → begun = lastLine text

section Lines

variable {c : Char} {text rest : List Char}

theorem breaksAtLineFeeds_nil : BreaksAtLineFeeds [] := by
  simp [BreaksAtLineFeeds]

theorem breaksAtLineFeeds_cons :
    BreaksAtLineFeeds (c :: rest) ↔
      (isLineBreak c = true → c = '\n' ∨ c = '\r' ∧ rest.head? = some '\n') ∧
        BreaksAtLineFeeds rest := by
  unfold BreaksAtLineFeeds
  rw [← Nat.and_forall_add_one]
  simp [List.head?_eq_getElem?]

instance decidableBreaksAtLineFeeds : (text : List Char) → Decidable (BreaksAtLineFeeds text)
  | [] => isTrue breaksAtLineFeeds_nil
  | _ :: rest =>
      have := decidableBreaksAtLineFeeds rest
      decidable_of_iff _ breaksAtLineFeeds_cons.symm

/-- A carriage return in front of a line feed is a part of the same break. -/
theorem lines_cons_return (hrest : rest.head? = some '\n') : lines ('\r' :: rest) = lines rest := by
  cases rest with
  | nil => cases hrest
  | cons c rest =>
      obtain rfl : c = '\n' := by simpa using hrest
      rfl

/-- Any other line break ends a line of its own. -/
theorem lines_cons_break
    (hc : isLineBreak c = true)
    (hrest : ¬ (c = '\r' ∧ rest.head? = some '\n')) :
    lines (c :: rest) = [] :: lines rest := by
  rw [lines]
  · simp [hc]
  · rintro rest' rfl rfl
    simp at hrest

/-- Any other character begins the line that it stands on. -/
theorem lines_cons_other (hc : isLineBreak c = false) :
    lines (c :: rest) = (c :: (lines rest).headD []) :: (lines rest).tail := by
  rw [lines]
  · cases lines rest with
    | nil => simp [hc]
    | cons line others => simp [hc]
  · rintro rest' rfl
    cases hc

/-- The text of no characters. -/
theorem falls_nil : Falls [] [] [] where
  lines_append c rest hc := by
    simp [lines_cons_other hc]
  count_le := by simp
  count_eq_iff := by simp [breaksAtLineFeeds_nil]
  begun_eq := by simp

/-- A carriage return in front of a line feed changes nothing. -/
theorem Falls.cons_return
    {ended : List (List Char)}
    {begun : List Char}
    (h : Falls rest ended begun)
    (hrest : rest.head? = some '\n') :
    Falls ('\r' :: rest) ended begun := by
  have hmem : '\n' ∈ rest := List.mem_of_mem_head? hrest
  refine ⟨fun c behind hc => ?_, ?_, ?_, fun hcount => ?_⟩
  · rw [List.cons_append, lines_cons_return, h.lines_append c behind hc]
    simp [List.head?_append, hrest]
  · simpa using h.count_le
  · simpa [breaksAtLineFeeds_cons, hrest] using h.count_eq_iff
  · rw [lastLine_cons, if_pos (Or.inr hmem)]
    exact h.begun_eq (by simpa using hcount)

/-- Any other line break in front ends a line of its own. -/
theorem Falls.cons_break
    {ended : List (List Char)}
    {begun : List Char}
    (h : Falls rest ended begun)
    (hc : isLineBreak c = true)
    (hrest : ¬ (c = '\r' ∧ rest.head? = some '\n')) :
    Falls (c :: rest) ([] :: ended) begun := by
  have hle := h.count_le
  refine ⟨fun d behind hd => ?_, ?_, ?_, fun hcount => ?_⟩
  · rw [List.cons_append, lines_cons_break hc, h.lines_append d behind hd]
    · rfl
    · rintro ⟨rfl, hhead⟩
      cases rest with
      | nil =>
          obtain rfl : d = '\n' := by simpa using hhead
          cases hd
      | cons c rest => exact hrest ⟨rfl, by simpa using hhead⟩
  · rw [List.count_cons, List.length_cons]
    split_ifs <;> omega
  · rw [breaksAtLineFeeds_cons, ← h.count_eq_iff, List.count_cons, List.length_cons]
    by_cases hnewline : c = '\n'
    · simp [hnewline]
    · simp [hnewline, hc, hrest]
      omega
  · by_cases hnewline : c = '\n'
    · rw [lastLine_cons, if_pos (Or.inl hnewline)]
      exact h.begun_eq (by simpa [hnewline] using hcount)
    · simp [hnewline] at hcount
      omega

/-- Any other character in front stands on the first line, which has ended or not. -/
theorem Falls.cons_other
    {ended : List (List Char)}
    {begun : List Char}
    (h : Falls rest ended begun)
    (hc : isLineBreak c = false) :
    ∃ ended' begun', Falls (c :: rest) ended' begun' := by
  have hnewline : c ≠ '\n' := by
    rintro rfl
    cases hc
  have hlines (d : Char) (behind : List Char) (hd : isLineBreak d = false) :
      lines (c :: rest ++ d :: behind) =
        (c :: (ended ++ (lines (d :: behind)).modifyHead (begun ++ ·)).headD []) ::
          (ended ++ (lines (d :: behind)).modifyHead (begun ++ ·)).tail := by
    rw [List.cons_append, lines_cons_other hc, h.lines_append d behind hd]
  have hcount : (c :: rest).count '\n' = rest.count '\n' := List.count_cons_of_ne hnewline
  have hle : (c :: rest).count '\n' ≤ ended.length := hcount.trans_le h.count_le
  have hiff : (c :: rest).count '\n' = ended.length ↔ BreaksAtLineFeeds (c :: rest) := by
    rw [hcount, h.count_eq_iff]
    simp [breaksAtLineFeeds_cons, hc]
  cases ended with
  | nil =>
      refine ⟨[], c :: begun, fun d behind hd => ?_, hle, hiff, fun hnone => ?_⟩
      · rw [hlines d behind hd, lines_cons_other hd]
        simp
      · rw [hcount] at hnone
        have hmem : '\n' ∉ rest := List.count_eq_zero.1 hnone
        rw [lastLine_cons, if_neg (by simp [hnewline, hmem]), h.begun_eq hnone]
  | cons line others =>
      refine ⟨(c :: line) :: others, begun, fun d behind hd => ?_, hle, hiff, fun hsome => ?_⟩
      · rw [hlines d behind hd]
        simp
      · rw [hcount] at hsome
        have hmem : '\n' ∈ rest := List.count_pos_iff.1 (by simp [hsome])
        rw [lastLine_cons, if_pos (Or.inr hmem)]
        exact h.begun_eq hsome

/-- Every text falls into lines. -/
theorem exists_falls (text : List Char) : ∃ ended begun, Falls text ended begun := by
  induction text with
  | nil => exact ⟨[], [], falls_nil⟩
  | cons c rest ih =>
      obtain ⟨ended, begun, h⟩ := ih
      by_cases hc : isLineBreak c = true
      · by_cases hreturn : c = '\r' ∧ rest.head? = some '\n'
        · obtain ⟨rfl, hrest⟩ := hreturn
          exact ⟨ended, begun, h.cons_return hrest⟩
        · exact ⟨[] :: ended, begun, h.cons_break hc hreturn⟩
      · exact h.cons_other (by simpa using hc)

end Lines
end Text

namespace Report

/-- Whether a report has a line. -/
def HasLine (report : String) (line : List Char) : Prop :=
  ∃ front behind, report = front ++ "\n" ++ String.ofList line ++ "\n" ++ behind

/-- What a report adds where a delimiter is unclosed: the line on which it was opened. -/
def closing (source : List Char) : Reason → String
  | .unclosed opened _ =>
      let start := Location.ofOffset source opened.start
      "\nbecause the delimiter was opened here:\n"
        ++ String.ofList (indented (Text.trimEnd (start.lineOf source))) ++ "\n"
        ++ String.ofList (indented (caretLine start.column 1))
  | .unexpected | .custom _ => ""

section Layout

variable (source : List Char) (d : Detail)

/-- A report begins with the wording and the place, the line that is looked up for the place, and
its carets. -/
theorem ofDetail_eq :
    let place := Location.ofOffset source d.span.start
    ofDetail source d =
      d.message ++ " at line " ++ toString place.line ++ ", column " ++ toString (place.column + 1)
        ++ ":\n" ++ String.ofList (Text.trimEnd (place.lineOf source)) ++ "\n"
        ++ String.ofList (caretLine place.column (widthOnLine source d.span place))
        ++ closing source d.reason := by
  unfold ofDetail excerpt
  dsimp only
  cases hreason : d.reason with
  | unexpected =>
      dsimp only [closing]
      rw [String.append_empty]
  | custom message =>
      dsimp only [closing]
      rw [String.append_empty]
  | unclosed opened delimiter =>
      dsimp only [closing]
      simp only [String.append_assoc]

/-- The line that is looked up for the place is one of the report's. -/
theorem hasLine_place :
    HasLine (ofDetail source d)
      (Text.trimEnd ((Location.ofOffset source d.span.start).lineOf source)) := by
  let place := Location.ofOffset source d.span.start
  refine ⟨d.message ++ " at line " ++ toString place.line ++ ", column "
      ++ toString (place.column + 1) ++ ":",
    String.ofList (caretLine place.column (widthOnLine source d.span place))
      ++ closing source d.reason, ?_⟩
  have hcolon : ":\n" = ":" ++ "\n" := rfl
  rw [ofDetail_eq, hcolon]
  simp only [String.append_assoc, place]

variable {d} in
/-- So is the line that is looked up for the place of an unclosed delimiter, moved to the right. -/
theorem hasLine_opened
    {opened : Span}
    {delimiter : Value}
    (hreason : d.reason = .unclosed opened delimiter) :
    HasLine (ofDetail source d)
      (indented (Text.trimEnd ((Location.ofOffset source opened.start).lineOf source))) := by
  let start := Location.ofOffset source opened.start
  obtain ⟨front, hfront⟩ : ∃ front, ofDetail source d = front ++ closing source d.reason :=
    ⟨_, ofDetail_eq source d⟩
  refine ⟨front ++ "\nbecause the delimiter was opened here:",
    String.ofList (indented (caretLine start.column 1)), ?_⟩
  have hcolon : "\nbecause the delimiter was opened here:\n" =
      "\nbecause the delimiter was opened here:" ++ "\n" := rfl
  rw [hfront, hreason]
  dsimp only [closing]
  rw [hcolon]
  simp only [String.append_assoc, start]

end Layout

variable {text : List Char} {i : Nat} {c : Char}

/-- **The line that is shown is the line of the error, unless a foreign line break comes first.**
Let an offset be that of a character that is no line break.  The text as far as this character makes
up a number of lines, and the character stands on the last of them.  The line of its location is not
a later one.  It is that line exactly if every line break in front of the offset is a line feed, or
a carriage return in front of one.  The line that is looked up for the location then has the
character in the column of the location.  That line is the one that a report shows for a diagnostic
about the offset, and for a delimiter that was opened there. -/
theorem lineOf_holds
    (hc : text[i]? = some c)
    (hbreak : Text.isLineBreak c = false) :
    let place := Location.ofOffset text i
    let shown := place.lineOf text
    let number := (Text.lines (text.take (i + 1))).length
    place.line ≤ number ∧
    (place.line = number ↔ Text.BreaksAtLineFeeds (text.take i)) ∧
    (Text.BreaksAtLineFeeds (text.take i) →
      ∃ hcolumn : place.column < shown.length, shown[place.column] = c) ∧
    (∀ d : Detail, d.span.start = i → HasLine (ofDetail text d) (Text.trimEnd shown)) ∧
    ∀ (d : Detail) opened delimiter,
      d.reason = .unclosed opened delimiter → opened.start = i →
      HasLine (ofDetail text d) (indented (Text.trimEnd shown)) := by
  intro place shown number
  obtain ⟨ended, begun, hfalls⟩ := Text.exists_falls (text.take i)
  obtain ⟨hi, rfl⟩ := List.getElem?_eq_some_iff.1 hc
  have hplace : place =
      ⟨(text.take i).count '\n' + 1, (Text.lastLine (text.take i)).length⟩ := by
    rw [← Location.after_eq, ← Location.ofOffset_eq_after (Nat.le_of_lt hi)]
  have hnumber : number = ended.length + 1 := by
    have hlines := hfalls.lines_append text[i] [] hbreak
    rw [Text.lines_cons_other hbreak, ← List.take_succ_eq_append_getElem hi] at hlines
    simp [number, hlines, Text.lines]
  have hcount := hfalls.count_le
  refine ⟨?_, ?_, fun hfeeds => ?_, fun d hd => ?_, fun d opened delimiter hreason hopened => ?_⟩
  · rw [hplace, hnumber]
    dsimp only
    omega
  · rw [hplace, hnumber, ← hfalls.count_eq_iff]
    dsimp only
    omega
  · have hequal := hfalls.count_eq_iff.2 hfeeds
    have hshown : shown = begun ++ text[i] :: (Text.lines (text.drop (i + 1))).headD [] := by
      have hlines := hfalls.lines_append text[i] (text.drop (i + 1)) hbreak
      rw [Text.lines_cons_other hbreak, List.getElem_cons_drop hi, List.take_append_drop] at hlines
      simp [shown, Location.lineOf, hplace, hequal, hlines]
    have hcolumn : place.column = begun.length := by
      rw [hplace, hfalls.begun_eq hequal]
    simp [hshown, hcolumn]
  · have hline := hasLine_place text d
    rwa [hd] at hline
  · have hline := hasLine_opened text hreason
    rwa [hopened] at hline

/-- A delimiter behind two line breaks, one of them of two characters, is shown with its line. -/
theorem lineOf_holds_of_bracket :
    let text := "x\r\ny\n (ab".toList
    let opened : Span := ⟨6, 7, .null, by decide⟩
    let d : Detail := ⟨⟨9, 9, .null, by decide⟩, .unclosed opened (.str "("), .empty, .null⟩
    let shown := (Location.ofOffset text 6).lineOf text
    (∃ hcolumn : 1 < shown.length, shown[1] = '(') ∧
      HasLine (ofDetail text d) (indented (Text.trimEnd shown)) := by
  intro text opened d shown
  have hc : text[6]? = some '(' := by decide
  obtain ⟨-, -, hholds, -, hopened⟩ := lineOf_holds hc (by decide)
  exact ⟨hholds (by decide), hopened d opened (.str "(") rfl rfl⟩

/-- A carriage return alone ends a line, but is not counted: the line that is shown for a character
behind the next line feed is an earlier one, which does not have it. -/
theorem lineOf_misses :
    let text := "a\rb\nc".toList
    let place := Location.ofOffset text 4
    text[4]? = some 'c' ∧ Text.isLineBreak 'c' = false ∧
      place = ⟨2, 0⟩ ∧ place.lineOf text = ['b'] ∧
      ¬ ∃ hcolumn : place.column < (place.lineOf text).length,
        (place.lineOf text)[place.column] = 'c' := by
  decide

end Report
end Resync
