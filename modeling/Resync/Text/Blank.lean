import Resync.Text.CodeRange

/-!
# Blank characters

White space: the space separators, and the controls and separators that the
bidirectional classes WS, B and S count as blank.  The table follows Unicode 15.
-/

namespace Resync
namespace Text

/-- The code points of white space. -/
def blankRanges : List (Nat × Nat) :=
  [(0x9, 0xD), (0x1C, 0x20), (0x85, 0x85), (0xA0, 0xA0), (0x1680, 0x1680), (0x2000, 0x200A),
   (0x2028, 0x2029), (0x202F, 0x202F), (0x205F, 0x205F), (0x3000, 0x3000)]

/-- White space of any kind, line breaks included. -/
def isBlank (c : Char) : Bool :=
  inRanges c.toNat blankRanges

end Text
end Resync
