import Resync.Fault
import Resync.Lexer.Pattern

/-!
# Written patterns

The usual notation for regular expressions: characters that stand for themselves, escapes, classes
in brackets, groups in parentheses, alternatives, and the repetitions `?`, `*`, `+` and `{m,n}`,
each of which is lazy with a question mark behind it.  There are no anchors, no references to
groups and no conditions on what comes before or after; a text that uses them is refused, as is one
with an unmatched bracket or a repetition of nothing.
-/

namespace Resync
namespace Pattern

/-- The pattern of one character. -/
def char (c : Char) : Pattern := oneOf [.range c c] false

/-- The value of a row of digits in base sixteen. -/
def hexValue? (digits : List Char) : Option Nat :=
  digits.foldlM (fun n c =>
    if c.isDigit then some (16 * n + (c.toNat - '0'.toNat))
    else if 'a' ≤ c ∧ c ≤ 'f' then some (16 * n + (c.toNat - 'a'.toNat + 10))
    else if 'A' ≤ c ∧ c ≤ 'F' then some (16 * n + (c.toNat - 'A'.toNat + 10))
    else none) 0

/-- An escape that gives the code point in the given number of digits. -/
def codePoint? (width : Nat) (s : List Char) : Option (ClassItem × List Char) := do
  let digits := s.take width
  if digits.length < width then none
  let n ← hexValue? digits
  let c := Char.ofNat n
  some (.range c c, s.drop width)

/-- What follows a backslash. -/
def escape? : List Char → Option (ClassItem × List Char)
  | [] => none
  | c :: rest =>
      let literal (c : Char) : Option (ClassItem × List Char) := some (.range c c, rest)
      match c with
      | 'd' => some (.named .digit false, rest)
      | 'D' => some (.named .digit true, rest)
      | 's' => some (.named .blank false, rest)
      | 'S' => some (.named .blank true, rest)
      | 'w' => some (.named .word false, rest)
      | 'W' => some (.named .word true, rest)
      | 'n' => literal '\n'
      | 't' => literal '\t'
      | 'r' => literal '\r'
      | 'f' => literal '\x0c'
      | 'v' => literal '\x0b'
      | 'a' => literal '\x07'
      | 'x' => codePoint? 2 rest
      | 'u' => codePoint? 4 rest
      | _ => if c.isAlphanum then none else literal c

/-- One end of a range in a class, or a whole part of it. -/
def classAtom? : List Char → Option (ClassItem × List Char)
  | [] => none
  | '\\' :: rest => escape? rest
  | c :: rest => some (.range c c, rest)

/-- A part of a class: an atom, or a range between two. -/
def classItem? (s : List Char) : Option (ClassItem × List Char) := do
  let (item, rest) ← classAtom? s
  match rest with
  | '-' :: ']' :: _ => some (item, rest)
  | '-' :: rest' => do
      let (item', rest'') ← classAtom? rest'
      match item, item' with
      | .range low _, .range high _ =>
          if low ≤ high then some (.range low high, rest'') else none
      | _, _ => none
  | _ => some (item, rest)

/-- The parts of a class up to the closing bracket, which closes nothing as the first of them. -/
def classItems? : (bound : Nat) → (isFirst : Bool) → List Char → Option (List ClassItem × List Char)
  | 0, _, _ => none
  | _ + 1, false, ']' :: rest => some ([], rest)
  | bound + 1, _, s => do
      let (item, rest) ← classItem? s
      let (items, rest') ← classItems? bound false rest
      some (item :: items, rest')

/-- A class after its opening bracket. -/
def class? (s : List Char) : Option (Pattern × List Char) := do
  let (negated, s') :=
    match s with
    | '^' :: rest => (true, rest)
    | _ => (false, s)
  let (items, rest) ← classItems? (s'.length + 1) true s'
  some (oneOf items negated, rest)

/-- A number of rounds, where one is written. -/
def count (s : List Char) : Option Nat × List Char :=
  let digits := s.takeWhile Char.isDigit
  let value := digits.foldl (fun n c => 10 * n + (c.toNat - '0'.toNat)) 0
  (if digits.isEmpty then none else some value, s.drop digits.length)

/-- The bounds in braces, after the opening brace.  Braces that hold no bounds are characters. -/
def braces? (s : List Char) : Option ((Nat × Option Nat) × List Char) :=
  match count s with
  | (low, '}' :: rest) => low.map fun n => ((n, some n), rest)
  | (low, ',' :: rest) =>
      match count rest with
      | (high, '}' :: rest') => some ((low.getD 0, high), rest')
      | _ => none
  | _ => none

/-- The bounds of a repetition, where one is written. -/
def bounds? : List Char → Option ((Nat × Option Nat) × List Char)
  | '?' :: rest => some ((0, some 1), rest)
  | '*' :: rest => some ((0, none), rest)
  | '+' :: rest => some ((1, none), rest)
  | '\x7b' :: rest => braces? rest
  | _ => none

/-- A pattern with the repetition that follows it, if one does.  Repetitions are not repeated. -/
def repeated? (p : Pattern) (s : List Char) : Option (Pattern × List Char) :=
  match bounds? s with
  | none => some (p, s)
  | some ((low, high), rest) =>
      if high.any (· < low) then none
      else
        let (greedy, rest') :=
          match rest with
          | '?' :: rest' => (false, rest')
          | _ => (true, rest)
        if (bounds? rest').isSome then none
        else some (rounds p low high greedy, rest')

mutual

/-- Alternatives, up to the end or to a closing parenthesis. -/
def alternatives? : (bound : Nat) → List Char → Option (Pattern × List Char)
  | 0, _ => none
  | bound + 1, s => do
      let (first, rest) ← sequence? bound s
      match rest with
      | '|' :: rest' => do
          let (others, rest'') ← alternatives? bound rest'
          some (alt first others, rest'')
      | _ => some (first, rest)

/-- Patterns in a row, up to the end of the alternative. -/
def sequence? : (bound : Nat) → List Char → Option (Pattern × List Char)
  | 0, _ => none
  | bound + 1, s =>
      match s with
      | [] => some (empty, [])
      | '|' :: _ => some (empty, s)
      | ')' :: _ => some (empty, s)
      | _ => do
          let (atom, rest) ← atom? bound s
          let (item, rest') ← repeated? atom rest
          let (items, rest'') ← sequence? bound rest'
          some (seq item items, rest'')

/-- A character, a class or a group. -/
def atom? : (bound : Nat) → List Char → Option (Pattern × List Char)
  | 0, _ => none
  | bound + 1, s =>
      match s with
      | [] => none
      | '(' :: '?' :: ':' :: rest => group? bound rest
      | '(' :: rest => group? bound rest
      | '[' :: rest => class? rest
      | '\\' :: rest => do
          let (item, rest') ← escape? rest
          some (oneOf [item] false, rest')
      | '.' :: rest => some (oneOf [.range '\n' '\n'] true, rest)
      | c :: rest =>
          if c = '^' ∨ c = '$' ∨ (bounds? s).isSome then none
          else some (char c, rest)

/-- A group after its opening parenthesis. -/
def group? : (bound : Nat) → List Char → Option (Pattern × List Char)
  | 0, _ => none
  | bound + 1, s => do
      let (inside, rest) ← alternatives? bound s
      match rest with
      | ')' :: rest' => some (inside, rest')
      | _ => none

end

/-- The pattern that a text stands for.  Every character takes at most four steps to read. -/
def ofText? (s : String) : Option Pattern :=
  match alternatives? (4 * (s.length + 1)) s.toList with
  | some (p, []) => some p
  | _ => none

/-- The pattern that a text stands for, which must be one. -/
def ofText (s : String) : Except Fault Pattern :=
  match ofText? s with
  | some p => .ok p
  | none => .error (.malformedPattern s)

end Pattern
end Resync
