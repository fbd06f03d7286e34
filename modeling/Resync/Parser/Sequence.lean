import Resync.Scan

/-!
# Sequences and alternatives

Sequencing runs one parser after another and keeps the diagnostic that got furthest, be it the
failure of the second parser or an alternative of the first.

Alternatives are tried from the same place.  The first clean success is taken.  Otherwise a success
that had to recover is better than a failure, fewer recoveries are better than more, recovering
later is better than earlier, and a failure further on is better than one before.
-/

namespace Resync

/-- Which of two parsers a result comes from, and with it where the cursor is left. -/
inductive Side where
  | left
  | right
deriving DecidableEq

/-- What comes from a side. -/
def Side.pick {α : Type} (s : Side) (a b : α) : α :=
  match s with
  | left => a
  | right => b

namespace Result

/-- The position of the last diagnostic that was recovered from. -/
def lastRecovered (recovered : List Located) : Option Nat :=
  recovered.getLast?.map Located.position

/-- Of two successes that had to recover, the one with fewer recoveries is better, and of those
with equally many the one that recovered later.  The first wins a draw. -/
def betterRecovered (left right : List Located) : Side :=
  if left.length ≠ right.length then
    if left.length < right.length then .left else .right
  else
    match lastRecovered left, lastRecovered right with
    | some l, some r => if l ≥ r then .left else .right
    | _, _ => .left

/-- The side that is taken where `left` was no clean success. -/
def side (left right : Result) : Side :=
  match left, right with
  | _, success [] _ _ => .right
  | success recovered _ _, success (r :: rs) _ _ => betterRecovered recovered (r :: rs)
  | success _ _ _, failure _ _ => .left
  | failure _ _, success (_ :: _) _ _ => .right
  | failure _ error, failure _ error' =>
      if error.position ≥ error'.position then .left else .right

/-- The result of trying `right` where `left` was no clean success.  The failure of `left` becomes
an alternative of a clean success, and two failures at one position are merged. -/
def either (left right : Result) : Except Fault Result :=
  match left, right with
  | failure _ error, success [] output alt => do
      let alt' ← Located.mergeAlts alt (some error)
      return success [] output alt'
  | failure recovered error, failure recovered' error' =>
      if error.position = error'.position then do
        let error'' ← error.max (some error')
        return failure recovered error''
      else
        .ok ((side left right).pick (failure recovered error) (failure recovered' error'))
  | _, _ => .ok ((side left right).pick left right)

end Result

namespace Parser

/-- Run one parser, then another; the output is the pair of their outputs. -/
def andThen (p q : Parser) : Parser := do
  match ← p with
  | .failure recovered error => return .failure recovered error
  | .success recovered output alt =>
      match ← q with
      | .success recovered' output' alt' =>
          let alt'' ← Scan.mergeAlts alt alt'
          return .success (recovered ++ recovered') (.tuple [output, output']) alt''
      | .failure recovered' error =>
          let error' ← Scan.ofExcept (error.max alt)
          return .failure (recovered ++ recovered') error'

/-- Run a parser or, where it is no clean success, another one from the same place. -/
def orElse (p q : Parser) : Parser := do
  let before ← Scan.save
  let left ← p
  if left.isClean then
    return left
  else
    let leftEnd ← Scan.save
    Scan.revert before
    let right ← q
    let rightEnd ← Scan.save
    Scan.revert ((left.side right).pick leftEnd rightEnd)
    Scan.ofExcept (left.either right)

/-- Run a parser if it succeeds; the output is null where it does not. -/
def optional (p : Parser) : Parser := do
  match ← Scan.tryParse p with
  | .success recovered output alt => return .success recovered output alt
  | .failure _ error => return .success [] .null (some error)

end Parser
end Resync
