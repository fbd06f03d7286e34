import Resync.PatternSet
import Resync.Span

/-!
# Diagnostics

A diagnostic says what is wrong with the input.  A grammar chooses the dialect in which it speaks:
the two detailed families keep where something was found, what was expected there and for what
reason, and differ only by name; the terse dialect keeps nothing but a text that spells out how
the diagnostic came about.

Diagnostics of one dialect are combined by `Diagnostic.merge`.  A detailed diagnostic that is
merged keeps its own place and finding, gathers the expectations of both, and prefers the reason
that names an unclosed delimiter, because it says more than an unexpected token.
-/

namespace Resync

/-- The two families of detailed diagnostics.  They have the same contents. -/
inductive Family where
  | simple
  | project
deriving DecidableEq

/-- The dialect in which a grammar states its diagnostics. -/
inductive Dialect where
  | detailed (family : Family)
  | terse
deriving DecidableEq

/-- Why a diagnostic was issued. -/
inductive Reason where
  /-- Something else was expected. -/
  | unexpected
  /-- A delimiter was opened and never closed. -/
  | unclosed (opened : Span) (delimiter : Value)
  /-- A function of the grammar rejected the input. -/
  | custom (message : String)
deriving DecidableEq

/-- Whether the reason is an unclosed delimiter. -/
def Reason.isUnclosed : Reason → Bool
  | .unclosed _ _ => true
  | .unexpected | .custom _ => false

/-- Whether a reason can be a member of a set. -/
def Reason.isKey : Reason → Bool
  | .unclosed opened delimiter => opened.toValue.isKey && delimiter.isKey
  | .unexpected | .custom _ => true

/-- The contents of a detailed diagnostic. -/
structure Detail where
  /-- The place the diagnostic is about. -/
  span : Span
  reason : Reason
  /-- The patterns that would have been accepted instead. -/
  expected : PatternSet
  /-- The token that was found; null at the end of the input. -/
  found : Value

/-- A statement about the input. -/
inductive Diagnostic where
  | detailed (family : Family) (detail : Detail)
  | terse (text : String)

/-- The dialect used when a grammar chooses none. -/
def Dialect.simple : Dialect := .detailed .simple

/-- The name of a dialect. -/
def Dialect.name : Dialect → String
  | .detailed .simple => "Simple"
  | .detailed .project => "ProjectError"
  | .terse => "Terse"

namespace Detail

instance : BEq Detail where
  beq a b :=
    a.span == b.span && a.reason == b.reason && a.expected == b.expected && a.found == b.found

/-- The same finding, with a label as all that was expected. -/
def withLabel (d : Detail) (label : String) : Detail :=
  { d with expected := .singleton (.label label) }

/-- The reason two findings have together: the first one's, unless only the second is about an
unclosed delimiter. -/
def jointReason (a b : Detail) : Reason :=
  if !a.reason.isUnclosed && b.reason.isUnclosed then b.reason else a.reason

/-- Two findings at one position: the place and the token of the first, the expectations of
both. -/
def merge (a b : Detail) : Detail :=
  { a with reason := jointReason a b, expected := a.expected.union b.expected }

end Detail

namespace Diagnostic

/-- Detailed diagnostics are equal when their contents are, whatever their family. -/
instance : BEq Diagnostic where
  beq
    | .detailed _ a, .detailed _ b => a == b
    | .terse s, .terse t => s == t
    | .detailed _ _, .terse _ => false
    | .terse _, .detailed _ _ => false

/-- The dialect a diagnostic is stated in. -/
def dialect : Diagnostic → Dialect
  | .detailed family _ => .detailed family
  | .terse _ => .terse

/-- Whether a diagnostic can be a member of a set. -/
def isKey : Diagnostic → Bool
  | .detailed _ d => d.span.toValue.isKey && d.reason.isKey && d.found.isKey
  | .terse _ => true

/-- The names of the labels among the expected patterns. -/
def labels : Diagnostic → Except Fault (List String)
  | .detailed _ d => .ok d.expected.labels
  | .terse _ => .error .noSuchMember

/-- The reason of a detailed diagnostic. -/
def reason : Diagnostic → Except Fault Reason
  | .detailed _ d => .ok d.reason
  | .terse _ => .error .noSuchMember

/-- The diagnostic with a label in place of what it says was expected. -/
def withLabel (e : Diagnostic) (label : String) : Diagnostic :=
  match e with
  | .detailed family d => .detailed family (d.withLabel label)
  | .terse text => .terse (label ++ "<" ++ text ++ ">")

end Diagnostic
end Resync
