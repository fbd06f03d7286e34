import Resync.Scan

/-!
# Repetitions

A repetition runs a parser as often as it matches.  Once it has as many matches as it asks for, a
match that consumes nothing ends it, because it would go on for ever.  So the number of rounds is
bounded by what is asked for and by the tokens that are left, as long as the cursor never moves
back; a repetition that exceeds the bound is halted.
-/

namespace Resync
namespace Parser

/-- The number of rounds within which a repetition ends. -/
def rounds (minimum : Nat) : Scan Nat := do
  let src ← Scan.source
  let offset ← Scan.save
  return minimum + (src.size - offset) + 1

/-- The rounds of a repetition, with what the matches so far have given. -/
def repeatedFrom
    (p : Parser)
    (minimum : Nat)
    (maximum : Option Nat) :
    (bound : Nat) →
    List Located →
    List Value →
    Option Located →
    Parser
  | 0, _, _, _ => Scan.halt .exhausted
  | bound + 1, recovered, outputs, alt =>
      if maximum.any (· ≤ outputs.length) then
        return .success recovered (.list outputs) alt
      else do
        let before ← Scan.save
        match ← p with
        | .success recovered' output alt' =>
            let alt'' ← Scan.mergeAlts alt alt'
            let after ← Scan.save
            if minimum ≤ outputs.length ∧ after = before then
              Scan.report (.repetitionStalled before)
              return .success recovered (.list outputs) alt''
            else
              repeatedFrom p minimum maximum bound
                (recovered ++ recovered') (outputs ++ [output]) alt''
        | .failure recovered' error =>
            if outputs.length < minimum then
              return .failure (recovered ++ recovered') error
            else
              Scan.revert before
              let reached ← Scan.mergeAlts (some error) recovered'.head?
              let alt' ← Scan.mergeAlts alt reached
              return .success recovered (.list outputs) alt'

/-- Run a parser as many times as possible, at least `minimum` and at most `maximum` times. -/
def repeated (p : Parser) (minimum : Nat) (maximum : Option Nat) : Parser := do
  let bound ← rounds minimum
  repeatedFrom p minimum maximum (bound + 1) [] [] none

/-- The end of a separated list: it fails if there are too few items. -/
def separatedEnd
    (minimum : Nat)
    (recovered : List Located)
    (outputs : List Value)
    (alt : Option Located) :
    Parser :=
  if outputs.length < minimum then
    Scan.ofExcept (Result.failed recovered alt)
  else
    return .success recovered (.list outputs) alt

/-- The rounds of a separated list after its first item: a separator and an item each. -/
def separatedFrom
    (item separator : Parser)
    (minimum : Nat)
    (trailing : Bool) :
    (bound : Nat) →
    List Located →
    List Value →
    Option Located →
    Parser
  | 0, _, _, _ => Scan.halt .exhausted
  | bound + 1, recovered, outputs, alt => do
      let before ← Scan.save
      match ← separator with
      | .failure _ error =>
          Scan.revert before
          let alt' ← Scan.mergeAlts alt (some error)
          separatedEnd minimum recovered outputs alt'
      | .success recoveredSep _ altSep =>
          let afterSeparator ← Scan.save
          match ← item with
          | .failure _ error =>
              let alt' ← Scan.mergeAlts alt (some error)
              if trailing then
                Scan.revert afterSeparator
                separatedEnd minimum (recovered ++ recoveredSep) outputs alt'
              else
                Scan.revert before
                separatedEnd minimum recovered outputs alt'
          | .success recoveredItem output altItem =>
              let reached ← Scan.mergeAlts altSep altItem
              let alt' ← Scan.mergeAlts alt reached
              let after ← Scan.save
              if minimum ≤ outputs.length ∧ after = before then
                Scan.report (.separationStalled before)
                separatedEnd minimum recovered outputs alt'
              else
                separatedFrom item separator minimum trailing bound
                  (recovered ++ (recoveredSep ++ recoveredItem)) (outputs ++ [output]) alt'

/-- An optional separator in front of a list: what was recovered from, and the alternative. -/
def leadingSeparator
    (separator : Parser)
    (allowed : Bool) :
    Scan (List Located × Option Located) := do
  if allowed then
    match ← Scan.tryParse separator with
    | .success recovered _ alt => return (recovered, alt)
    | .failure _ error => return ([], some error)
  else
    return ([], none)

/-- Run a parser any number of times, with a separator between each two.  The outputs of the
separators are dropped. -/
def separatedBy
    (item separator : Parser)
    (minimum : Nat)
    (leading trailing : Bool) :
    Parser := do
  let (recovered, alt) ← leadingSeparator separator leading
  match ← Scan.tryParse item with
  | .success recovered' output alt' =>
      let alt'' ← Scan.mergeAlts alt alt'
      let bound ← rounds minimum
      separatedFrom item separator minimum trailing (bound + 1)
        (recovered ++ recovered') [output] alt''
  | .failure _ error =>
      let alt' ← Scan.mergeAlts alt (some error)
      separatedEnd minimum recovered [] alt'

end Parser
end Resync
