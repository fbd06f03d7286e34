import Resync.Parser.Recovery
import Resync.Parser.Sequence

/-!
# Steps that could go wrong, checked

Two steps take the last of a list that might be empty.  A walk over a group of delimiters counts the
groups that are open, and takes the innermost opening when the count is one.  A choice between two
successes that both had to recover takes the last recovery of each.

Here both are written down with a count beside the list, and with a fault where the list is empty.
They come to the same as the walk and the choice that know the list alone, so the fault never
occurs: the count is the length of the stack of openings, and lists of one length are both empty or
both not.
-/

namespace Resync
namespace Walk

/-- The innermost opening; there must be one. -/
def innermost : List Span → Except Fault Span
  | [] => .error .indexOutOfRange
  | start :: _ => .ok start

/-- The diagnostic of a delimiter that closes more than was opened, inside the only open group. -/
def missingCounted
    (rules : Rules)
    (balance : Int)
    (openings : List Span)
    (report : Option Located)
    (seen : Sighting) :
    Except Fault (Option Located) :=
  if balance = 1 ∧ report.isNone then do
    let start ← innermost openings
    let error ← rules.dialect.unclosed start rules.opening seen.span rules.closing seen.token
    return some ⟨seen.position, error⟩
  else
    .ok report

/-- The diagnostic of the only open group at the end of the input.  Without an opening the closing
delimiter would be what was expected. -/
def missingAtEnd
    (rules : Rules)
    (balance : Int)
    (openings : List Span)
    (report : Option Located)
    (seen : Sighting) :
    Except Fault (Option Located) :=
  if balance = 1 ∧ report.isNone then do
    let error ←
      match openings with
      | start :: _ =>
          rules.dialect.unclosed start rules.opening seen.span rules.closing seen.token
      | [] => rules.dialect.expecting seen.span [rules.closing] seen.token
    return some ⟨seen.position, error⟩
  else
    .ok report

/-- The end of a counted walk at the end of the input. -/
def atEndCounted
    (rules : Rules)
    (balance : Int)
    (openings : List Span)
    (report : Option Located)
    (seen : Sighting) :
    Walk where
  seen := seen.position
  offset := seen.position
  verdict := do
    let report' ← missingAtEnd rules balance openings report seen
    return (false, report')

/-- The walk with a count of the open groups.  An opening and a closing delimiter change the count,
and the walk is over when it comes to nothing or below. -/
def runCounted
    (rules : Rules)
    (eoi : Span) :
    List (Value × Span) →
    (position : Nat) →
    (balance : Int) →
    (openings : List Span) →
    (counts : List Int) →
    (report : Option Located) →
    Walk
  | [], position, balance, openings, _, report =>
      atEndCounted rules balance openings report ⟨position, eoi, .null⟩
  | (token, span) :: rest, position, balance, openings, counts, report =>
      if token = .null then
        atEndCounted rules balance openings report ⟨position, span, .null⟩
      else if token = rules.opening ∨ token = rules.closing then
        let (balance', openings') :=
          if token = rules.opening then (balance + 1, span :: openings)
          else (balance - 1, openings.tail)
        if balance' = 0 then stopAfter position true report
        else if balance' < 0 then stopAfter position false report
        else runCounted rules eoi rest (position + 1) balance' openings' counts report
      else
        let (counts', exceeds) := tally token rules.others counts
        let report' :=
          if exceeds then missingCounted rules balance openings report ⟨position, span, token⟩
          else .ok report
        match report' with
        | .error f => ⟨position, position + 1, .error f⟩
        | .ok report'' =>
            if balance = 0 then stopAfter position false report''
            else runCounted rules eoi rest (position + 1) balance openings counts' report''

variable (rules : Rules) (openings : List Span) (report : Option Located) (seen : Sighting)

theorem missingCounted_eq :
    missingCounted rules openings.length openings report seen =
      missing rules openings report seen := by
  unfold missingCounted missing
  match openings, report with
  | [start], none =>
      rw [if_pos (by simp)]
      rfl
  | first :: second :: others, none =>
      have hcount : ((first :: second :: others).length : Int) ≠ 1 := by
        simp only [List.length_cons]
        omega
      rw [if_neg fun h => hcount h.1]
  | [], _ | [_], some _ | _ :: _ :: _, some _ => simp

theorem missingAtEnd_eq :
    missingAtEnd rules openings.length openings report seen =
      missing rules openings report seen := by
  unfold missingAtEnd missing
  match openings, report with
  | [start], none => rw [if_pos (by simp)]
  | first :: second :: others, none =>
      have hcount : ((first :: second :: others).length : Int) ≠ 1 := by
        simp only [List.length_cons]
        omega
      rw [if_neg fun h => hcount h.1]
  | [], _ | [_], some _ | _ :: _ :: _, some _ => simp

/-- A walk that keeps the count of the open groups beside their openings comes to the same. -/
theorem runCounted_eq
    (eoi : Span)
    (rest : List (Value × Span))
    (position : Nat)
    (counts : List Int) :
    runCounted rules eoi rest position openings.length openings counts report =
      run rules eoi rest position openings counts report := by
  induction rest generalizing position openings counts report with
  | nil => simp only [runCounted, run, atEndCounted, atEnd, missingAtEnd_eq]
  | cons entry rest ih =>
      obtain ⟨token, span⟩ := entry
      unfold runCounted run
      by_cases hnull : token = .null
      · simp only [if_pos hnull, atEndCounted, atEnd, missingAtEnd_eq]
      · simp only [if_neg hnull]
        by_cases hopening : token = rules.opening
        · have hcount : (openings.length : Int) + 1 = (span :: openings).length := by simp
          simp only [hopening, true_or, if_true]
          rw [if_neg (by omega), if_neg (by omega), hcount]
          exact ih _ _ _ _
        · simp only [hopening, false_or, if_false]
          by_cases hclosing : token = rules.closing
          · simp only [if_pos hclosing]
            match openings with
            | [] => rfl
            | [_] => rfl
            | start :: outer :: outers =>
                have hcount :
                    ((start :: outer :: outers).length : Int) - 1 = (outer :: outers).length := by
                  simp
                rw [hcount, if_neg (by simp; omega), if_neg (by omega)]
                exact ih _ _ _ _
          · simp only [if_neg hclosing, missingCounted_eq]
            generalize tally token rules.others counts = tallied
            obtain ⟨counts', exceeds⟩ := tallied
            generalize (if exceeds = true then missing rules openings report ⟨position, span, token⟩
              else .ok report) = found
            cases found with
            | error f => rfl
            | ok found =>
                cases openings with
                | nil => rfl
                | cons start outer =>
                    have hcount : ((start :: outer).length : Int) ≠ 0 := by simp; omega
                    simp only [if_neg hcount, List.isEmpty_cons, Bool.false_eq_true, if_false]
                    exact ih _ _ _ _

end Walk

namespace Result

/-- The position of the last diagnostic that was recovered from; there must be one. -/
def lastOf (recovered : List Located) : Except Fault Nat :=
  match recovered.getLast? with
  | some l => .ok l.position
  | none => .error .indexOutOfRange

/-- The better of two successes, with a fault where there is no last recovery to compare. -/
def betterChecked (left right : List Located) : Except Fault Side :=
  if left.length ≠ right.length then
    .ok (if left.length < right.length then .left else .right)
  else do
    let l ← lastOf left
    let r ← lastOf right
    return if l ≥ r then .left else .right

/-- The side that is taken where `left` was no clean success, with that fault. -/
def sideChecked (left right : Result) : Except Fault Side :=
  match left, right with
  | _, success [] _ _ => .ok .right
  | success recovered _ _, success (r :: rs) _ _ => betterChecked recovered (r :: rs)
  | success _ _ _, failure _ _ => .ok .left
  | failure _ _, success (_ :: _) _ _ => .ok .right
  | failure _ error, failure _ error' =>
      .ok (if error.position ≥ error'.position then .left else .right)

theorem betterChecked_eq
    (left : List Located)
    (r : Located)
    (rs : List Located) :
    betterChecked left (r :: rs) = .ok (betterRecovered left (r :: rs)) := by
  unfold betterChecked betterRecovered
  by_cases hlength : left.length = (r :: rs).length
  · cases left with
    | nil => cases hlength
    | cons l ls =>
        have hleft : (l :: ls).getLast? = some ((l :: ls).getLast (by simp)) :=
          List.getLast?_eq_some_getLast _
        have hright : (r :: rs).getLast? = some ((r :: rs).getLast (by simp)) :=
          List.getLast?_eq_some_getLast _
        simp only [hlength, ne_eq, not_true_eq_false, if_false, lastOf, lastRecovered, hleft,
          hright]
        rfl
  · simp only [ne_eq, hlength, not_false_eq_true, if_true]

/-- A choice that checks what it compares comes to the same. -/
theorem sideChecked_eq (left right : Result) : left.sideChecked right = .ok (left.side right) := by
  cases right with
  | failure recovered' error' => cases left <;> rfl
  | success recovered' output' alt' =>
      cases recovered' with
      | nil => cases left <;> rfl
      | cons r rs =>
          cases left with
          | failure recovered error => rfl
          | success recovered output alt => exact betterChecked_eq recovered r rs

end Result
end Resync
