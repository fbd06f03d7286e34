import Resync.Grammar.Combinator
import Resync.Text.Blank
import Resync.Text.Letter
import Resync.Text.Numeral

/-!
# Grammars for texts

White space, line ends, numerals and names, over sources whose tokens are texts.  Names are made of
the letters and numerals of an alphabet, which is that of all scripts unless another one is given.

A token is usually one character.  A token of several characters is white space, or a letter, if all
of them are; it is a digit if it occurs, in lower case, in the row of digits of its radix, which the
empty token does as well.  Tokens that are no texts end in a fault.
-/

namespace Resync

/-- The base of a numeral system whose digits are the decimal digits and the Latin letters. -/
structure Radix where
  val : Nat
  two_le : 2 ≤ val := by omega
  le_thirtySix : val ≤ 36 := by omega

namespace Radix

/-- The decimal system. -/
def ten : Radix := ⟨10, by omega, by omega⟩

/-- The radix of that size, if there is one. -/
def ofInt (n : Int) : Except Fault Radix :=
  if h : 2 ≤ n ∧ n ≤ 36 then .ok ⟨n.toNat, by omega, by omega⟩
  else .error (.radixOutOfRange n)

/-- The digits of all systems, in order. -/
def allDigits : List Char := "0123456789abcdefghijklmnopqrstuvwxyz".toList

/-- The digits of a radix, in order. -/
def digits (r : Radix) : List Char := allDigits.take r.val

end Radix

namespace Text

/-- The lower case of a character, as far as it is a Latin letter without marks.  The Kelvin sign
is a capital K. -/
def lowerLatin (c : Char) : Char :=
  if 'A' ≤ c ∧ c ≤ 'Z' then Char.ofNat (c.toNat + 32)
  else if c = '\u212a' then 'k'
  else c

/-- Whether `part` occurs in a text. -/
def occursIn (part : List Char) : List Char → Bool
  | [] => part.isEmpty
  | c :: cs => part.isPrefixOf (c :: cs) || occursIn part cs

/-- Whether a text is not empty and all its characters pass a test. -/
def allOf (test : Char → Bool) (s : String) : Bool := s ≠ "" && s.toList.all test

/-- Which characters are letters, and which are numerals. -/
structure Alphabet where
  isLetter : Char → Bool
  isNumeral : Char → Bool

namespace Alphabet

/-- The letters and numerals of all scripts. -/
def universal : Alphabet := ⟨Text.isLetter, Text.isNumeral⟩

/-- Whether a character is a letter or a numeral. -/
def hasLetterOrNumeral (alphabet : Alphabet) (c : Char) : Bool :=
  alphabet.isLetter c || alphabet.isNumeral c

end Alphabet
end Text

namespace Grammar

/-- A test on tokens that are texts; `otherwise` is the fault of all others. -/
def onText (otherwise : Fault) (test : String → Bool) : Value → Except Fault Bool
  | .str s => .ok (test s)
  | _ => .error otherwise

/-- Any amount of white space, also none. -/
def whitespace (dialect : Dialect) : Grammar :=
  (filter dialect (onText .typeMismatch (Text.allOf Text.isBlank))).repeated 0 none |>.ignored

/-- White space before and after a grammar. -/
def padded (dialect : Dialect) (g : Grammar) : Grammar := g.paddedBy (whitespace dialect)

/-- The end of a line: a line feed, and maybe a carriage return before it. -/
def newline (dialect : Dialect) : Grammar :=
  labelled "newline"
    ((just dialect (.str "\r")).optional.ignoreThen (just dialect (.str "\n"))).ignored

/-- A token whose lower case occurs in a row of digits. -/
def digitAmong (dialect : Dialect) (row : List Char) : Grammar :=
  filter dialect (onText .noSuchMember fun s =>
    Text.occursIn (s.toList.map Text.lowerLatin) row)

/-- A digit. -/
def digit (dialect : Dialect) (r : Radix) : Grammar :=
  labelled "digit" (digitAmong dialect r.digits)

/-- One digit or more, as one text. -/
def digits (dialect : Dialect) (r : Radix) : Grammar :=
  ((digit dialect r).repeated 1 none).concat

/-- An unsigned integer without superfluous zeros in front, as a text. -/
def integer (dialect : Dialect) (r : Radix) : Grammar :=
  labelled "integer"
    (((digitAmong dialect (r.digits.drop 1)).chain ((digit dialect r).repeated 0 none)).concat
      |>.orElse (just dialect (.str "0")))

/-- A name: a letter or underscore, then letters, numerals and underscores. -/
def identifier (dialect : Dialect) (alphabet : Text.Alphabet := .universal) : Grammar :=
  let first := filter dialect (onText .noSuchMember fun s =>
    Text.allOf alphabet.isLetter s || s = "_")
  let later := filter dialect (onText .noSuchMember fun s =>
    Text.allOf alphabet.hasLetterOrNumeral s || s = "_")
  labelled "identifier" (first.chain (later.repeated 0 none)).concat

/-- One name, and no longer one that starts with it. -/
def keyword
    (dialect : Dialect)
    (word : String)
    (alphabet : Text.Alphabet := .universal) :
    Grammar :=
  tryMap (fun name span => do
      if name = .str word then
        return .accept name
      else
        let error ← dialect.expectingLabel span ("keyword " ++ Text.quote word) name
        return .reject error)
    (identifier dialect alphabet)

end Grammar
end Resync
