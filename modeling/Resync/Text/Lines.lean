import Resync.Text.Blank

/-!
# Lines of a text

A text falls into lines at every line break: the controls from line feed to carriage return, the
file, group and record separators, the next-line control, and the two Unicode separators.  A
carriage return and a line feed together are one break.  A break ends a line, so the text after the
last break is a line only if it is not empty.
-/

namespace Resync
namespace Text

/-- Whether a character ends a line. -/
def isLineBreak (c : Char) : Bool :=
  inRanges c.toNat [(0xA, 0xD), (0x1C, 0x1E), (0x85, 0x85), (0x2028, 0x2029)]

/-- The lines of a text, without their breaks. -/
def lines : List Char → List (List Char)
  | [] => []
  | '\r' :: '\n' :: rest => [] :: lines rest
  | c :: rest =>
      if isLineBreak c then [] :: lines rest
      else
        match lines rest with
        | [] => [[c]]
        | line :: others => (c :: line) :: others

/-- A text without the white space at its end. -/
def trimEnd (s : List Char) : List Char := (s.reverse.dropWhile isBlank).reverse

end Text
end Resync
