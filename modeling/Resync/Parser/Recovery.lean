import Resync.Scan

/-!
# Recovery

A parser with a recovery strategy is run first.  If it fails, the cursor is moved back to where it
started, and the strategy looks for a place to resume from there.

Skipping walks over the tokens before the first sentinel and tries the parser after each of them.
Nested delimiters walk over one balanced group.  The walk keeps the spans of the delimiters that
are open, so their number is how deep it stands, and one tally of openings less closings for each
of the other pairs.
-/

namespace Resync

/-- A walk over a group of delimiters. -/
structure Walk where
  /-- The position of the token that was looked at last. -/
  seen : Nat
  /-- Where the cursor is left. -/
  offset : Nat
  /-- Whether the group was closed, and the diagnostic of a delimiter that seems to be missing. -/
  verdict : Except Fault (Bool × Option Located)

namespace Walk

/-- The delimiters of a walk, and the dialect it speaks. -/
structure Rules where
  opening : Value
  closing : Value
  others : List (Value × Value)
  dialect : Dialect

/-- The tallies of the other pairs after one token, and whether it closes more than was opened. -/
def tally (token : Value) : List (Value × Value) → List Int → List Int × Bool
  | (opening, closing) :: pairs, count :: counts =>
      let (counts', exceeds) := tally token pairs counts
      if token = opening then ((count + 1) :: counts', exceeds)
      else if token = closing then ((count - 1) :: counts', exceeds || count - 1 < 0)
      else (count :: counts', exceeds)
  | _, counts => (counts, false)

/-- The diagnostic that the group opened at `start` lacks its closing delimiter where `seen` is, if
that is the only group that is open and nothing was diagnosed before. -/
def missing
    (rules : Rules)
    (openings : List Span)
    (report : Option Located)
    (seen : Sighting) :
    Except Fault (Option Located) :=
  match openings, report with
  | [start], none => do
      let error ←
        rules.dialect.unclosed start rules.opening seen.span rules.closing seen.token
      return some ⟨seen.position, error⟩
  | _, _ => .ok report

/-- The end of a walk at the end of the input. -/
def atEnd
    (rules : Rules)
    (openings : List Span)
    (report : Option Located)
    (seen : Sighting) :
    Walk where
  seen := seen.position
  offset := seen.position
  verdict := do
    let report' ← missing rules openings report seen
    return (false, report')

/-- The end of a walk after the token at `position`. -/
def stopAfter (position : Nat) (closed : Bool) (report : Option Located) : Walk where
  seen := position
  offset := position + 1
  verdict := .ok (closed, report)

/-- The walk over the remaining tokens.  `openings` are the delimiters that are open, the innermost
first. -/
def run
    (rules : Rules)
    (eoi : Span) :
    List (Value × Span) →
    (position : Nat) →
    (openings : List Span) →
    (counts : List Int) →
    (report : Option Located) →
    Walk
  | [], position, openings, _, report =>
      atEnd rules openings report ⟨position, eoi, .null⟩
  | (token, span) :: rest, position, openings, counts, report =>
      if token = .null then
        atEnd rules openings report ⟨position, span, .null⟩
      else if token = rules.opening then
        run rules eoi rest (position + 1) (span :: openings) counts report
      else if token = rules.closing then
        match openings with
        | [] => stopAfter position false report
        | [_] => stopAfter position true report
        | _ :: outer => run rules eoi rest (position + 1) outer counts report
      else
        let (counts', exceeds) := tally token rules.others counts
        let report' :=
          if exceeds then missing rules openings report ⟨position, span, token⟩ else .ok report
        match report' with
        | .error f => ⟨position, position + 1, .error f⟩
        | .ok report'' =>
            if openings.isEmpty then stopAfter position false report''
            else run rules eoi rest (position + 1) openings counts' report''

end Walk

namespace Strategy

/-- Skip tokens until `p` succeeds.  `remaining` is the number of tokens that are left, and
`skipped` how many were skipped before. -/
def skipAndRetry
    (p : Parser)
    (sentinels : List Value)
    (recovered : List Located)
    (fatal : Located) :
    (remaining : Nat) →
    (skipped : Nat) →
    Parser
  | remaining, skipped => do
      let seen ← Scan.peek
      match remaining with
      | 0 => giveUp skipped
      | remaining + 1 =>
          if seen.token = .null ∨ seen.token ∈ sentinels then
            giveUp skipped
          else
            Scan.revert (seen.position + 1)
            match ← Scan.tryParse p with
            | .success recovered' output alt =>
                let offset ← Scan.save
                Scan.report (.skipped offset (skipped + 1))
                return .success (recovered' ++ [fatal]) output alt
            | .failure _ _ =>
                skipAndRetry p sentinels recovered fatal remaining (skipped + 1)
where
  giveUp (skipped : Nat) : Parser := do
    let offset ← Scan.save
    Scan.report (.skippedInVain offset skipped)
    return .failure recovered fatal

/-- The diagnostics after a group was skipped: the one that stopped the parser is added, unless one
that was recovered from lies as far on. -/
def withFatal (errors : List Located) (fatal : Located) : List Located :=
  match errors.getLast? with
  | some last => if fatal.position < last.position then errors ++ [fatal] else errors
  | none => [fatal]

/-- Skip one balanced group. -/
def skipGroup
    (rules : Walk.Rules)
    (default : Value)
    (recovered : List Located)
    (fatal : Located) :
    Parser := do
  let src ← Scan.source
  let start ← Scan.save
  let walk :=
    Walk.run rules src.eoi (src.rest start) start [] (rules.others.map fun _ => 0) none
  let _ ← Scan.lookAt walk.seen
  Scan.revert walk.offset
  let (closed, report) ← Scan.ofExcept walk.verdict
  let errors := recovered ++ report.toList
  if closed then
    Scan.report (.groupSkipped walk.offset)
    return .success (withFatal errors fatal) default none
  else
    Scan.report (.groupNotFound walk.offset)
    return .failure errors fatal

/-- Resume after the failure `fatal` of `p`, which had recovered from `recovered` before. -/
def recover
    (s : Strategy)
    (p : Parser)
    (recovered : List Located)
    (fatal : Located) :
    Parser :=
  match s with
  | skipThenRetry sentinels => do
      let src ← Scan.source
      let start ← Scan.save
      skipAndRetry p sentinels recovered fatal (src.size - start) 0
  | nestedDelimiters opening closing others default =>
      skipGroup ⟨opening, closing, others, fatal.error.dialect⟩ default recovered fatal
  | defaultOutput value => return .success (recovered ++ [fatal]) value none

end Strategy

/-- Run a parser, and resume by a strategy should it fail. -/
def Parser.recoverWith (p : Parser) (s : Strategy) : Parser := do
  match ← Scan.tryParse p with
  | .success recovered output alt => return .success recovered output alt
  | .failure recovered error =>
      Scan.report (.recovering error s)
      s.recover p recovered error

end Resync
