import Resync.Text.Lines

/-!
# Locations

A location is a line, counted from one, and a column, counted from zero.  Only line feeds count as
ends of lines here.  Offsets outside a text are taken as the nearest one inside.
-/

namespace Resync

/-- A place in a text. -/
structure Location where
  /-- The number of the line, from one. -/
  line : Nat
  /-- The number of characters before it on the line. -/
  column : Nat
deriving DecidableEq

namespace Location

/-- The nearest offset of a text of the given length. -/
def clamp (length : Nat) (offset : Int) : Nat := min offset.toNat length

/-- The location of what comes after a piece of text. -/
def after (text : List Char) : Location where
  line := text.count '\n' + 1
  column := (text.reverse.takeWhile (· ≠ '\n')).length

/-- The location of an offset. -/
def ofOffset (text : List Char) (offset : Int) : Location :=
  after (text.take (clamp text.length offset))

/-- The line of a text at a location; there are only empty ones beyond the last. -/
def lineOf (text : List Char) (l : Location) : List Char :=
  (Text.lines text).getD (l.line - 1) []

end Location
end Resync
