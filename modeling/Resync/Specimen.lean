import Resync.Result

/-!
# Specimens

Whatever the library shows to its user: values, diagnostics, located diagnostics and results.
Specimens can be compared and written down, and all but results can be counted as members of a set
if what they hold can.  A specimen has an identity apart from its contents; only some small values
exist just once.
-/

namespace Resync

/-- Something to be shown. -/
inductive Specimen where
  | value (v : Value)
  | diagnostic (e : Diagnostic)
  | located (l : Located)
  | result (r : Result)

namespace Specimen

/-- The null value. -/
def null : Specimen := .value .null

/-- A located diagnostic that may be missing. -/
def ofAlt : Option Located → Specimen
  | some l => .located l
  | none => null

/-- Specimens of one kind are compared by their contents, and those of two kinds differ. -/
instance : BEq Specimen where
  beq
    | value v, value w => v == w
    | diagnostic e, diagnostic f => e == f
    | located l, located m => l == m
    | result r, result s => r == s
    | _, _ => false

/-- How a specimen reads. -/
def plain : Specimen → String
  | value v => v.plain
  | diagnostic e => e.message
  | located l => l.written
  | result r => r.written

/-- The literal of a specimen. -/
def written : Specimen → String
  | value v => v.written
  | diagnostic e => e.written
  | located l => l.written
  | result r => r.written

/-- Whether a specimen can be a member of a set. -/
def isKey : Specimen → Bool
  | value v => v.isKey
  | diagnostic e => e.isKey
  | located l => l.error.isKey
  | result _ => false

/-- How many of some specimens differ from each other. -/
def countDistinct (xs : List Specimen) : Except Fault Nat :=
  if xs.all isKey then .ok xs.eraseDups.length else .error .typeMismatch

/-- The specimen as a diagnostic. -/
def toDiagnostic : Specimen → Except Fault Diagnostic
  | diagnostic e => .ok e
  | _ => .error .noSuchMember

/-- The specimen as a located diagnostic. -/
def toLocated : Specimen → Except Fault Located
  | located l => .ok l
  | _ => .error .noSuchMember

/-- The specimen as a located diagnostic that may be missing. -/
def toAlt : Specimen → Except Fault (Option Located)
  | value .null => .ok none
  | x => some <$> x.toLocated

/-- The specimen as a span. -/
def toSpan : Specimen → Except Fault Span
  | value (.span start stop context) => Span.between start stop context
  | _ => .error .noSuchMember

/-- Whether a value exists only once: null, the absent value, the two truth values, a small number,
a text of no more than one character out of the first 256, and the tuple without items. -/
def isUnique : Value → Bool
  | .null | .bool _ | .absent => true
  | .int n => -5 ≤ n && n ≤ 256
  | .str s => s.length ≤ 1 && s.toList.all fun c => c.toNat < 256
  | .tuple items => items.isEmpty
  | .token _ _ | .label _ | .span _ _ _ | .list _ => false

/-- What tells a specimen apart from others. -/
inductive Identity where
  /-- One of the values that exist only once. -/
  | unique (v : Value)
  /-- An object of its own. -/
  | object (number : Nat)
deriving DecidableEq

/-- The identity of a new specimen; `number` has not been given out before. -/
def identity (number : Nat) : Specimen → Identity
  | value v => if isUnique v then .unique v else .object number
  | diagnostic _ | located _ | result _ => .object number

end Specimen

/-- How many of some reasons differ from each other. -/
def Reason.countDistinct (rs : List Reason) : Except Fault Nat :=
  if rs.all Reason.isKey then .ok rs.eraseDups.length else .error .typeMismatch

end Resync
