import Resync.Parser.Primitive

/-!
# Actions

The functions that grammars apply to outputs.  They are partial in the same way as the values are
dynamic: an action that is given a value it has no meaning for ends in a fault.
-/

namespace Resync
namespace Action

section Sequences

/-- The items of a sequence. -/
def itemsOf (v : Value) : Except Fault (List Value) :=
  match v.items? with
  | some items => .ok items
  | none => .error .typeMismatch

/-- One item of a sequence. -/
def itemAt (i : Nat) (v : Value) : Except Fault Value := do
  let items ← itemsOf v
  match items[i]? with
  | some item => return item
  | none => .error .indexOutOfRange

/-- The items an output contributes to a chain: null gives none, a list or a tuple gives its items,
and any other output is an item itself. -/
def chainItems : Value → List Value
  | .null => []
  | .list items | .tuple items => items
  | v => [v]

/-- The items of both halves of a pair, in a list. -/
def chained (pair : Value) : Except Fault Value := do
  let first ← itemAt 0 pair
  let second ← itemAt 1 pair
  return .list (chainItems first ++ chainItems second)

/-- The items of a sequence as a tuple. -/
def toTuple (v : Value) : Except Fault Value := do
  let items ← itemsOf v
  return .tuple items

/-- The items of a sequence as a list. -/
def toList (v : Value) : Except Fault Value := do
  let items ← itemsOf v
  return .list items

/-- The number of items of a sequence. -/
def count (v : Value) : Except Fault Value := do
  let items ← itemsOf v
  return .int items.length

/-- The text of a value that is one. -/
def textOf : Value → Except Fault String
  | .str s => .ok s
  | _ => .error .typeMismatch

/-- The texts of a sequence, run together. -/
def concat (v : Value) : Except Fault Value := do
  let items ← itemsOf v
  let texts ← items.mapM textOf
  return .str (String.join texts)

/-- The items of the sequences in a sequence. -/
def flatten (v : Value) : Except Fault Value := do
  let groups ← itemsOf v
  let items ← groups.mapM itemsOf
  return .list items.flatten

/-- Fold an output of a first value and a sequence from the left. -/
def foldLeft
    (f : Value → Value → Except Fault Value)
    (v : Value) :
    Except Fault Value := do
  let rest ← itemAt 1 v
  let first ← itemAt 0 v
  let items ← itemsOf rest
  items.foldlM f first

/-- Fold an output of a sequence and a last value from the right. -/
def foldRight
    (f : Value → Value → Except Fault Value)
    (v : Value) :
    Except Fault Value := do
  let initial ← itemAt 0 v
  let items ← itemsOf initial
  let last ← itemAt 1 v
  items.foldrM f last

end Sequences

section Operators

/-- The number that a value counts as in arithmetic. -/
def number? : Value → Option Int
  | .int n => some n
  | .bool b => some (if b then 1 else 0)
  | _ => none

/-- Two values as a tuple. -/
def pairUp (a b : Value) : Except Fault Value := .ok (.tuple [a, b])

/-- The sum of two numbers, or two sequences of one type joined. -/
def add (a b : Value) : Except Fault Value :=
  match number? a, number? b with
  | some m, some n => .ok (.int (m + n))
  | _, _ =>
      match a, b with
      | .str s, .str t => .ok (.str (s ++ t))
      | .list xs, .list ys => .ok (.list (xs ++ ys))
      | .tuple xs, .tuple ys => .ok (.tuple (xs ++ ys))
      | _, _ => .error .typeMismatch

/-- The difference of two numbers. -/
def subtract (a b : Value) : Except Fault Value :=
  match number? a, number? b with
  | some m, some n => .ok (.int (m - n))
  | _, _ => .error .typeMismatch

end Operators

section Outputs

/-- The integer that a text of decimal digits denotes; a minus sign may go before them. -/
def integer? (s : String) : Option Int :=
  let value (digits : List Char) : Option Int :=
    if digits ≠ [] ∧ digits.all Char.isDigit then
      some (digits.foldl (fun n c => 10 * n + (c.toNat - '0'.toNat : Nat)) 0)
    else none
  match s.toList with
  | '-' :: digits => (value digits).map fun n => -n
  | digits => value digits

/-- The integer that an output denotes. -/
def integerOf : Value → Except Fault Int
  | .str s =>
      match integer? s with
      | some n => .ok n
      | none => .error .notAnInteger
  | _ => .error .notAnInteger

/-- The integer that an output denotes, as an output. -/
def toInteger (v : Value) : Except Fault Value := do
  let n ← integerOf v
  return .int n

/-- A list of one item. -/
def wrap (v : Value) : Except Fault Value := .ok (.list [v])

/-- A pair of the output with itself. -/
def twice (v : Value) : Except Fault Value := .ok (.tuple [v, v])

/-- The depth of a nesting from the depth inside: one more, where nothing counts as zero.  What
was skipped has no depth. -/
def depth : Value → Except Fault Value
  | .absent => .ok .absent
  | v => if v.isTruthy then add (.int 1) v else .ok (.int 1)

/-- The text of a token; other outputs stay. -/
def tokenText : Value → Except Fault Value
  | .token _ text => .ok (.str text)
  | v => .ok v

/-- A mark in place of what was skipped; other outputs stay. -/
def markAbsent : Value → Except Fault Value
  | .absent => .ok (.str "ERROR")
  | v => .ok v

/-- The number of items of a sequence, and minus one for other values. -/
def lengthOf (v : Value) : Int :=
  match v.items? with
  | some items => items.length
  | none => -1

/-- The number of items of an output. -/
def length (v : Value) : Except Fault Value := .ok (.int (lengthOf v))

/-- Give up. -/
def abandon {α : Type} : Except Fault α := .error .abandoned

end Outputs

section Spans

/-- The span in place of the output. -/
def spanOnly (_ : Value) (span : Span) : Except Fault Value := .ok span.toValue

/-- The output and its span. -/
def withSpan (v : Value) (span : Span) : Except Fault Value := .ok (.tuple [v, span.toValue])

/-- The length of the span in place of the output. -/
def spanLength (_ : Value) (span : Span) : Except Fault Value := .ok (.int span.length)

end Spans

section Verdicts

/-- The output and its span; nothing is rejected. -/
def acceptWithSpan (v : Value) (span : Span) : Except Fault Verdict :=
  .ok (.accept (.tuple [v, span.toValue]))

/-- Everything is rejected, with a message. -/
def reject
    (dialect : Dialect)
    (message : String)
    (_ : Value)
    (span : Span) :
    Except Fault Verdict :=
  .ok (.reject (dialect.custom span message))

/-- Outputs of more than `limit` items are rejected, with a message. -/
def limitLength
    (dialect : Dialect)
    (limit : Int)
    (message : String)
    (v : Value)
    (span : Span) :
    Except Fault Verdict :=
  if lengthOf v ≤ limit then .ok (.accept v)
  else reject dialect message v span

/-- The value of a decimal digit; other tokens are rejected. -/
def digitValue (dialect : Dialect) (span : Span) (token : Value) : Except Fault Verdict :=
  let rejection := .ok (.reject (dialect.custom span "not a digit"))
  match token with
  | .str s =>
      match s.toList with
      | [c] => if c.isDigit then .ok (.accept (.int (c.toNat - '0'.toNat : Nat))) else rejection
      | _ => rejection
  | _ => rejection

/-- The token and its span. -/
def tokenWithSpan (span : Span) (token : Value) : Except Fault Verdict :=
  .ok (.accept (.tuple [token, span.toValue]))

/-- Null in place of the token. -/
def tokenToNull (_ : Span) (_ : Value) : Except Fault Verdict := .ok (.accept .null)

end Verdicts

section Tests

/-- A test on tokens that are texts of one character; all others fail it. -/
def onCharacter (test : Char → Bool) : Value → Except Fault Bool
  | .str s =>
      match s.toList with
      | [c] => .ok (test c)
      | _ => .ok false
  | _ => .ok false

/-- Whether a token is an integer. -/
def isInteger : Value → Except Fault Bool
  | .int _ => .ok true
  | _ => .ok false

/-- Whether a token is a text. -/
def isText : Value → Except Fault Bool
  | .str _ => .ok true
  | _ => .ok false

end Tests

end Action
end Resync
