import Resync.Text.Blank
import Resync.Text.DecimalDigit
import Resync.Text.Letter
import Resync.Text.Numeral

/-!
# Patterns

Regular expressions over characters, matched from the left by trying the possibilities in order:
the first alternative before the second, and as many rounds of a repetition as possible first, or
as few as possible if it is lazy.  The first way to match is taken; it need not be the longest.

Matching is written with a continuation, which says whether the rest of the text can be matched as
well.  A round of a repetition beyond its minimum that consumes nothing is the last one, so the
number of such rounds is bounded by the length of the text.
-/

namespace Resync

/-- Classes of characters that have a name. -/
inductive NamedClass where
  | digit
  | blank
  | word
deriving DecidableEq

/-- One part of a class of characters. -/
inductive ClassItem where
  | range (low high : Char)
  | named (c : NamedClass) (negated : Bool)
deriving DecidableEq

/-- A regular expression. -/
inductive Pattern where
  /-- The empty text. -/
  | empty
  /-- One character of a class, or outside of it. -/
  | oneOf (items : List ClassItem) (negated : Bool)
  | seq (first second : Pattern)
  | alt (left right : Pattern)
  | rounds (of : Pattern) (minimum : Nat) (maximum : Option Nat) (greedy : Bool)
deriving Inhabited

/-- Whether a character belongs to a named class. -/
def NamedClass.contains (c : Char) : NamedClass → Bool
  | digit => Text.isDecimalDigit c
  | blank => Text.isBlank c
  | word => Text.isLetter c || Text.isNumeral c || c = '_'

/-- Whether a character belongs to a part of a class. -/
def ClassItem.contains (c : Char) : ClassItem → Bool
  | range low high => low ≤ c && c ≤ high
  | named k negated => k.contains c != negated

namespace Pattern

/-- A way to match the beginning of a text, given how to go on with the rest. -/
abbrev Matching : Type :=
  List Char → (List Char → Option (List Char)) → Option (List Char)

/-- A fixed number of rounds. -/
def exactly (round : Matching) : Nat → Matching
  | 0 => fun s k => k s
  | n + 1 => fun s k => round s fun s' => exactly round n s' k

/-- Up to `bound` rounds; one that consumes nothing is the last. -/
def upTo (round : Matching) (greedy : Bool) : (bound : Nat) → Matching
  | 0 => fun s k => k s
  | bound + 1 => fun s k =>
      let again (s' : List Char) : Option (List Char) :=
        if s'.length < s.length then upTo round greedy bound s' k else k s'
      if greedy then round s again <|> k s
      else k s <|> round s again

/-- The ways to match a pattern, in order. -/
def matching : Pattern → Matching
  | empty => fun s k => k s
  | oneOf items negated => fun s k =>
      match s with
      | [] => none
      | c :: rest => if (items.any fun item => item.contains c) != negated then k rest else none
  | seq first second => fun s k => first.matching s fun s' => second.matching s' k
  | alt left right => fun s k => left.matching s k <|> right.matching s k
  | rounds of minimum maximum greedy => fun s k =>
      exactly of.matching minimum s fun s' =>
        let bound :=
          match maximum with
          | some most => min (most - minimum) s'.length
          | none => s'.length
        upTo of.matching greedy bound s' k

/-- What is left of a text after the pattern has matched its beginning. -/
def rest? (p : Pattern) (s : List Char) : Option (List Char) := p.matching s some

/-- How many characters at the beginning of a text the pattern matches.  An empty match is none. -/
def length? (p : Pattern) (s : List Char) : Option Nat := do
  let rest ← p.rest? s
  let n := s.length - rest.length
  if n = 0 then none else some n

end Pattern
end Resync
