import Resync.Scan

/-!
# Primitive parsers

Parsers that look at single tokens, or at none.  A primitive takes the token it looks at even when
it fails; whoever goes back moves the cursor.  The end of the input is never matched as a token,
and no test is asked about it.
-/

namespace Resync

/-- What a function of the grammar makes of an output: another output, or a rejection. -/
inductive Verdict where
  | accept (output : Value)
  | reject (error : Diagnostic)

/-- The result with every position moved on by `offset`. -/
def Result.shift (offset : Nat) : Result → Result :=
  let move (l : Located) : Located := ⟨l.position + offset, l.error⟩
  fun
    | .success recovered output alt => .success (recovered.map move) output (alt.map move)
    | .failure recovered error => .failure (recovered.map move) (move error)

namespace Parser

/-- The failure to find one of the expected patterns. -/
def unexpected (dialect : Dialect) (seen : Sighting) (expected : List Value) : Parser := do
  let error ← Scan.ofExcept (dialect.expecting seen.span expected seen.token)
  return .failure [] ⟨seen.position, error⟩

/-- Match a token that passes a test; `expected` is what a failure says was expected. -/
def satisfy
    (dialect : Dialect)
    (expected : List Value)
    (test : Value → Except Fault Bool) :
    Parser := do
  let seen ← Scan.next
  if seen.token = .null then
    unexpected dialect seen expected
  else
    let passed ← Scan.ofExcept (test seen.token)
    if passed then
      return .success [] seen.token none
    else
      unexpected dialect seen expected

/-- Match the remaining tokens of a sequence, and answer `all` of it. -/
def seqFrom (dialect : Dialect) (all : List Value) : List Value → Parser
  | [] => return .success [] (.list all) none
  | token :: tokens => do
      let seen ← Scan.next
      if seen.token = .null ∨ seen.token ≠ token then
        unexpected dialect seen [token]
      else
        seqFrom dialect all tokens

/-- Match each of the tokens, in order. -/
def seq (dialect : Dialect) (tokens : List Value) : Parser :=
  seqFrom dialect tokens tokens

/-- Match a token and transform it; the function may reject it. -/
def filterMap (dialect : Dialect) (f : Span → Value → Except Fault Verdict) : Parser := do
  let seen ← Scan.next
  if seen.token = .null then
    unexpected dialect seen []
  else
    match ← Scan.ofExcept (f seen.span seen.token) with
    | .accept output => return .success [] output none
    | .reject error => return .failure [] ⟨seen.position, error⟩

/-- Match the end of the input. -/
def endOfInput (dialect : Dialect) : Parser := do
  let seen ← Scan.next
  if seen.token = .null then
    return .success [] .null none
  else
    unexpected dialect seen [.null]

/-- Match nothing, successfully. -/
def empty : Parser := return .success [] .null none

/-- Take tokens without looking what they are. -/
def skip : Nat → Scan Unit
  | 0 => return ()
  | count + 1 => do
      let _ ← Scan.next
      skip count

/-- Take tokens, then answer what was laid down beforehand.  Where `relative` is set, the positions
of the answer count from where the parser started. -/
def scripted (consume : Nat) (relative : Bool) (answer : Result) : Parser := do
  let start ← Scan.save
  skip consume
  return if relative then answer.shift start else answer

end Parser
end Resync
