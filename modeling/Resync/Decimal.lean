/-!
# Decimal numerals

Whole numbers written with a decimal point: with a fixed number of places, with an exponent, or in
whichever of the two ways needs no more than a given number of digits.

A number is held with 53 binary digits before it is written in this way, so a large one is rounded
twice.  Rounding is always to the nearest number there is, and halfway between two to the one whose
last digit is even.
-/

namespace Resync
namespace Decimal

section Rounding

/-- The whole number nearest to `n / d`; of two that are equally near, the even one. -/
def nearestQuotient (n d : Nat) : Nat :=
  let q := n / d
  let r := n % d
  if 2 * r < d ∨ (2 * r = d ∧ q % 2 = 0) then q else q + 1

/-- The number of digits of `n` in a base. -/
def digitCount (base n : Nat) : Nat := (Nat.toDigits base n).length

/-- The number nearest to `n` of which all digits but the first `places` are zeros. -/
def rounded (base places n : Nat) : Nat :=
  let unit := Nat.pow base (digitCount base n - places)
  nearestQuotient n unit * unit

/-- The number as it is held with 53 binary digits; there is none from `2 ^ 1024` on. -/
def held? (n : Nat) : Option Nat :=
  let m := rounded 2 53 n
  if m < Nat.pow 2 1024 then some m else none

/-- The rounded quotient is no further than half a unit from the exact one. -/
theorem nearestQuotient_near
    (n d : Nat)
    (hd : 0 < d) :
    2 * (nearestQuotient n d * d) ≤ 2 * n + d ∧ 2 * n ≤ 2 * (nearestQuotient n d * d) + d := by
  have hdiv : d * (n / d) + n % d = n := Nat.div_add_mod n d
  have hmod : n % d < d := Nat.mod_lt n hd
  have hcomm : n / d * d = d * (n / d) := Nat.mul_comm (n / d) d
  have hnext : (n / d + 1) * d = d * (n / d) + d := by rw [Nat.add_mul, hcomm, Nat.one_mul]
  simp only [nearestQuotient]
  split
  · rw [hcomm]
    omega
  · rw [hnext]
    omega

end Rounding

section Numerals

/-- A numeral: its digits before the point, and all that comes after them. -/
structure Numeral where
  whole : List Char
  rest : List Char := []

/-- The first `places` digits of a number, rounded, and how many digits it has before the point. -/
def leading (places n : Nat) : List Char × Nat :=
  let digits := Nat.toDigits 10 (rounded 10 places n)
  (digits.take places ++ List.replicate (places - digits.length) '0', digits.length)

/-- The digits after the point, and the point, which goes with the last of them unless it is
kept. -/
def fraction (keepPoint : Bool) (digits : List Char) : List Char :=
  if digits.isEmpty && !keepPoint then [] else '.' :: digits

/-- A power of ten as an exponent, of two digits at least. -/
def exponent (upper : Bool) (e : Nat) : List Char :=
  (if upper then 'E' else 'e') :: '+' :: (if e < 10 then ['0'] else []) ++ Nat.toDigits 10 e

/-- The digits without the zeros at the end. -/
def trimZeros (digits : List Char) : List Char :=
  (digits.reverse.dropWhile (· = '0')).reverse

/-- A number with a fixed number of places after the point. -/
def fixed (places : Nat) (keepPoint : Bool) (n : Nat) : Numeral where
  whole := Nat.toDigits 10 n
  rest := fraction keepPoint (List.replicate places '0')

/-- A number with one digit before the point, a fixed number of places after it, and an
exponent. -/
def scientific (places : Nat) (keepPoint upper : Bool) (n : Nat) : Numeral :=
  let (digits, point) := leading (places + 1) n
  ⟨digits.take 1, fraction keepPoint (digits.drop 1) ++ exponent upper (point - 1)⟩

/-- A number with a given number of digits in all, at least one.  It has an exponent if it has more
digits before the point than that.  Zeros at the end are dropped, unless the point is kept. -/
def general (places : Nat) (keepPoint upper : Bool) (n : Nat) : Numeral :=
  let size := max places 1
  let (digits, point) := leading size n
  let trim (ds : List Char) : List Char := if keepPoint then ds else trimZeros ds
  if point > size then
    ⟨digits.take 1, fraction keepPoint (trim (digits.drop 1)) ++ exponent upper (point - 1)⟩
  else
    ⟨digits.take point, fraction keepPoint (trim (digits.drop point))⟩

end Numerals

end Decimal
end Resync
