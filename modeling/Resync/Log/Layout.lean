import Resync.Decimal
import Resync.Text.DecimalDigit

/-!
# Layouts of fields

How the filling of a template field is laid out: padded to a width on one side or on both, a text
cut to a length, a number with a sign, in another base, with a decimal point, or with its digits in
groups.  A layout that makes no sense for a value gives no text.
-/

namespace Resync
namespace Log

/-- Where padding goes. -/
inductive Alignment where
  | left
  | right
  | centre
  /-- Between the sign of a number and its digits. -/
  | inside
deriving DecidableEq

/-- The form in which a filling is written. -/
inductive Form where
  | text
  /-- The character with a number as its code point. -/
  | character
  /-- A whole number in a base; `mark` is how the base is shown. -/
  | whole (base : Nat) (mark : String) (upper : Bool)
  /-- A whole number as it is usual at a place, which never groups the digits here. -/
  | localWhole
  | fixed
  | scientific (upper : Bool)
  | general (upper : Bool)
  | percent
deriving DecidableEq

/-- How a filling is laid out. -/
structure Layout where
  fill : Option Char := none
  alignment : Option Alignment := none
  /-- What is written in front of a number that is not negative. -/
  sign : Option Char := none
  /-- Whether a negative number that is rounded to zero loses its sign.  Whole numbers are not
  rounded to zero, so this only restricts the forms. -/
  unsignedZero : Bool := false
  /-- Whether the base of a number, or a point without places, is shown. -/
  alternate : Bool := false
  /-- Whether zeros are filled in where no other fill is given. -/
  zero : Bool := false
  width : Nat := 0
  grouping : Option Char := none
  precision : Option Nat := none
  form : Option Form := none
deriving DecidableEq

/-- The form that a letter stands for. -/
def Form.ofLetter : Char → Option Form
  | 's' => some .text
  | 'c' => some .character
  | 'b' => some (.whole 2 "0b" false)
  | 'o' => some (.whole 8 "0o" false)
  | 'd' => some (.whole 10 "" false)
  | 'x' => some (.whole 16 "0x" false)
  | 'X' => some (.whole 16 "0X" true)
  | 'n' => some .localWhole
  | 'f' | 'F' => some .fixed
  | 'e' => some (.scientific false)
  | 'E' => some (.scientific true)
  | 'g' => some (.general false)
  | 'G' => some (.general true)
  | '%' => some .percent
  | _ => none

/-- Whether digits of a form can stand in groups with the given mark between them. -/
def Form.canGroup (mark : Char) : Form → Bool
  | text | character | localWhole => false
  | whole base _ _ => base = 10 || mark = '_'
  | fixed | scientific _ | general _ | percent => true

/-- How many digits stand in a group. -/
def Form.groupSize : Form → Nat
  | whole base _ _ => if base = 10 then 3 else 4
  | _ => 3

namespace Layout

section Reading

/-- The alignment that a character stands for. -/
def alignmentOf : Char → Option Alignment
  | '<' => some .left
  | '>' => some .right
  | '^' => some .centre
  | '=' => some .inside
  | _ => none

/-- A fill character and an alignment at the beginning. -/
def readAlignment (l : Layout) : List Char → Layout × List Char
  | [] => (l, [])
  | [c] =>
      match alignmentOf c with
      | some a => ({ l with alignment := some a }, [])
      | none => (l, [c])
  | c :: c' :: rest =>
      match alignmentOf c', alignmentOf c with
      | some a, _ => ({ l with fill := some c, alignment := some a }, rest)
      | none, some a => ({ l with alignment := some a }, c' :: rest)
      | none, none => (l, c :: c' :: rest)

/-- A sign. -/
def readSign (l : Layout) : List Char → Layout × List Char
  | c :: rest =>
      if c = '+' ∨ c = '-' ∨ c = ' ' then ({ l with sign := some c }, rest) else (l, c :: rest)
  | [] => (l, [])

/-- The mark that a zero has no sign. -/
def readUnsignedZero (l : Layout) : List Char → Layout × List Char
  | 'z' :: rest => ({ l with unsignedZero := true }, rest)
  | s => (l, s)

/-- The mark that the base or the point is shown. -/
def readAlternate (l : Layout) : List Char → Layout × List Char
  | '#' :: rest => ({ l with alternate := true }, rest)
  | s => (l, s)

/-- A zero in front of the width, unless a fill is given. -/
def readZero (l : Layout) : List Char → Layout × List Char
  | '0' :: rest => if l.fill.isNone then ({ l with zero := true }, rest) else (l, '0' :: rest)
  | s => (l, s)

/-- The width. -/
def readWidth (l : Layout) (s : List Char) : Layout × List Char :=
  let (width, rest) := Text.leadingNumber s
  ({ l with width := width.getD 0 }, rest)

/-- The mark between groups of digits. -/
def readGrouping (l : Layout) : List Char → Layout × List Char
  | c :: rest =>
      if c = ',' ∨ c = '_' then ({ l with grouping := some c }, rest) else (l, c :: rest)
  | [] => (l, [])

/-- The precision, which has digits if it is there. -/
def readPrecision (l : Layout) : List Char → Option (Layout × List Char)
  | '.' :: s =>
      match Text.leadingNumber s with
      | (some n, rest) => some ({ l with precision := some n }, rest)
      | (none, _) => none
  | s => some (l, s)

/-- The form, which is the last letter. -/
def readForm (l : Layout) : List Char → Option Layout
  | [] => some l
  | [c] => (Form.ofLetter c).map fun form => { l with form := some form }
  | _ => none

/-- No width is greater than this, and no number of places after a point. -/
def maxWidth : Nat := Nat.pow 2 31 - 1

/-- No length that a text is cut to is greater than this. -/
def maxPrecision : Nat := Nat.pow 2 63 - 1

/-- The layout that a text stands for. -/
def ofText (s : List Char) : Option Layout := do
  let (l, s) := readAlignment {} s
  let (l, s) := readSign l s
  let (l, s) := readUnsignedZero l s
  let (l, s) := readAlternate l s
  let (l, s) := readZero l s
  let (l, s) := readWidth l s
  let (l, s) := readGrouping l s
  let (l, s) ← readPrecision l s
  let l ← readForm l s
  if l.width > maxWidth ∨ l.precision.any (· > maxPrecision) then none else some l

end Reading

section Writing

/-- The character that fills the width. -/
def fillChar (l : Layout) : Char := l.fill.getD (if l.zero then '0' else ' ')

/-- Padding on the sides that the alignment asks for; `front` stays in front of padding inside. -/
def pad (l : Layout) (alignment : Alignment) (front body : List Char) : List Char :=
  let missing := l.width - (front.length + body.length)
  let padding (n : Nat) : List Char := List.replicate n l.fillChar
  match alignment with
  | .left => front ++ body ++ padding missing
  | .right => padding missing ++ front ++ body
  | .centre => padding (missing / 2) ++ front ++ body ++ padding (missing - missing / 2)
  | .inside => front ++ padding missing ++ body

/-- A text in a layout. -/
def text (l : Layout) (s : List Char) : Option (List Char) :=
  if l.sign.isSome ∨ l.unsignedZero ∨ l.alternate ∨ l.grouping.isSome ∨ l.form.any (· ≠ .text)
      ∨ l.alignment = some .inside then none
  else
    let cut := match l.precision with
      | some n => s.take n
      | none => s
    some (l.pad (l.alignment.getD .left) [] cut)

/-- Digits in groups of the given size, counted from the right. -/
def grouped (mark : Char) (size : Nat) (digits : List Char) : List Char :=
  let (_, out) := digits.foldr (fun c (acc : Nat × List Char) =>
    let (n, out) := acc
    (n + 1, if n ≠ 0 ∧ n % size = 0 then c :: mark :: out else c :: out)) (0, [])
  out

/-- The number of digits that fill a width when they stand in groups of the given size. -/
def digitsToFill (size width : Nat) : Nat :=
  width - (width - 1) / (size + 1)

/-- The digits of a number in groups.  Zeros that fill `room` are grouped as well. -/
def groupedDigits (mark : Char) (size room : Nat) (digits : List Char) : List Char :=
  if digits.isEmpty then []
  else grouped mark size (List.replicate (digitsToFill size room - digits.length) '0' ++ digits)

/-- What stands in front of a number: its sign, and the mark of its base. -/
def front (l : Layout) (negative : Bool) (mark : List Char) : List Char :=
  let sign :=
    if negative then ['-']
    else
      match l.sign with
      | some '+' => ['+']
      | some ' ' => [' ']
      | _ => []
  sign ++ (if l.alternate then mark else [])

/-- A numeral with what stands in front of it. -/
def numeral (l : Layout) (groupSize : Nat) (front : List Char) (n : Decimal.Numeral) : List Char :=
  let alignment := l.alignment.getD (if l.zero then .inside else .right)
  let room :=
    if alignment = .inside ∧ l.fillChar = '0' then l.width - (front.length + n.rest.length) else 0
  let whole := l.grouping.elim n.whole fun mark => groupedDigits mark groupSize room n.whole
  l.pad alignment front (whole ++ n.rest)

/-- The character with a code point, unless it is none. -/
def characterOf (n : Int) : Option Char :=
  if h : 0 ≤ n ∧ n.toNat.isValidChar then some (Char.ofNatAux n.toNat h.2) else none

/-- The digits of a whole number in a base. -/
def digitsIn (base : Nat) (upper : Bool) (n : Nat) : List Char :=
  let digits := Nat.toDigits base n
  if upper then digits.map Char.toUpper else digits

/-- A number with a point, in one of the forms that have one. -/
def pointed (l : Layout) (form : Form) (n : Nat) : Option Decimal.Numeral := do
  let places := l.precision.getD 6
  if places > maxWidth then none
  let m ← Decimal.held? n
  match form with
  | .fixed => some (Decimal.fixed places l.alternate m)
  | .scientific upper => some (Decimal.scientific places l.alternate upper m)
  | .general upper => some (Decimal.general places l.alternate upper m)
  | .percent =>
      match Decimal.held? (100 * m) with
      | some hundredfold =>
          let numeral := Decimal.fixed places l.alternate hundredfold
          some { numeral with rest := numeral.rest ++ ['%'] }
      | none => some ⟨[], "inf%".toList⟩
  | _ => none

/-- An integer in a layout. -/
def integer (l : Layout) (n : Int) : Option (List Char) := do
  let form := l.form.getD (.whole 10 "" false)
  if l.grouping.any fun mark => !form.canGroup mark then none
  let isWhole := l.precision.isNone && !l.unsignedZero
  match form with
  | .text => none
  | .character =>
      if !isWhole ∨ l.sign.isSome ∨ l.alternate then none
      let c ← characterOf n
      some (l.numeral form.groupSize [] ⟨[], [c]⟩)
  | .whole base mark upper =>
      if !isWhole then none
      some (l.numeral form.groupSize (l.front (n < 0) mark.toList)
        ⟨digitsIn base upper n.natAbs, []⟩)
  | .localWhole =>
      if !isWhole then none
      some (l.numeral form.groupSize (l.front (n < 0) []) ⟨digitsIn 10 false n.natAbs, []⟩)
  | .fixed | .scientific _ | .general _ | .percent => do
      let numeral ← l.pointed form n.natAbs
      some (l.numeral form.groupSize (l.front (n < 0) []) numeral)

end Writing

end Layout
end Log
end Resync
