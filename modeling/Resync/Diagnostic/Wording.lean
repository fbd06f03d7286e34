import Resync.Diagnostic

/-!
# The wording of diagnostics

A detailed diagnostic names what was expected in alphabetical order of the descriptions, so its
wording does not depend on the order in which the expectations were gathered.  A terse one is its
own wording.
-/

namespace Resync

/-- A list of alternatives in words. -/
def alternatives : List String → String
  | [] => ""
  | [a] => a
  | [a, b] => a ++ " or " ++ b
  | items => "one of " ++ ", ".intercalate items.dropLast ++ " or " ++ items.getLastD ""

/-- The literal of a reason. -/
def Reason.written : Reason → String
  | .unexpected => "Unexpected()"
  | .unclosed opened delimiter =>
      "Unclosed(" ++ opened.written ++ ", " ++ delimiter.written ++ ")"
  | .custom message => "Custom(" ++ Text.quote message ++ ")"

/-- The expected patterns in words. -/
def PatternSet.inWords (s : PatternSet) : String := alternatives s.descriptions

/-- The literal of a set of patterns. -/
def PatternSet.written (s : PatternSet) : String :=
  if s.isEmpty then "set()"
  else "\x7b" ++ ", ".intercalate (s.listed.map Value.written) ++ "\x7d"

/-- The wording of a detailed diagnostic. -/
def Detail.message (d : Detail) : String :=
  let found := d.found.describe
  match d.reason with
  | .custom message => message
  | .unclosed opened delimiter =>
      let opening :=
        "unclosed delimiter " ++ delimiter.describe ++ " (opened at " ++ opened.plain ++ ")"
      let expectation := if d.expected.isEmpty then "" else ", expected " ++ d.expected.inWords
      opening ++ expectation ++ ", found " ++ found
  | .unexpected =>
      if d.expected.isEmpty then "unexpected " ++ found
      else "expected " ++ d.expected.inWords ++ ", found " ++ found

namespace Diagnostic

/-- What a diagnostic tells its reader. -/
def message : Diagnostic → String
  | .detailed _ d => d.message
  | .terse text => text

/-- The literal of a diagnostic. -/
def written (e : Diagnostic) : String :=
  match e with
  | .detailed _ d =>
      e.dialect.name ++ "(" ++ d.span.written ++ ", " ++ d.reason.written ++ ", "
        ++ d.expected.written ++ ", " ++ d.found.written ++ ")"
  | .terse text => e.dialect.name ++ "(" ++ Text.quote text ++ ")"

/-- The wordings of several diagnostics, a line each. -/
def joined (es : List Diagnostic) : String := "\n".intercalate (es.map message)

/-- Two diagnostics at one position as one.  A terse diagnostic quotes whatever it is merged with;
a detailed one takes only another detailed one. -/
def merge : Diagnostic → Diagnostic → Except Fault Diagnostic
  | .detailed family a, .detailed _ b => .ok (.detailed family (a.merge b))
  | .detailed _ _, .terse _ => .error .noSuchMember
  | .terse text, other => .ok (.terse ("(" ++ text ++ "&" ++ other.message ++ ")"))

end Diagnostic

namespace Dialect

/-- Descriptions of patterns, in alphabetical order. -/
def sortedDescriptions (items : List Value) : List String :=
  (items.map Value.describe).mergeSort fun s t => s ≤ t

/-- A diagnostic that one of the given patterns was expected, and something else found. -/
def expecting
    (d : Dialect)
    (span : Span)
    (expected : List Value)
    (found : Value) :
    Except Fault Diagnostic :=
  match d with
  | .detailed family => do
      let patterns ← PatternSet.ofKeys expected
      return .detailed family ⟨span, .unexpected, patterns, found⟩
  | .terse =>
      .ok (.terse
        ("want[" ++ ",".intercalate (sortedDescriptions expected) ++ "]got["
          ++ found.describe ++ "]"))

/-- A diagnostic that something with a name was expected. -/
def expectingLabel
    (d : Dialect)
    (span : Span)
    (label : String)
    (found : Value) :
    Except Fault Diagnostic := do
  let e ← d.expecting span [] found
  return e.withLabel label

/-- A diagnostic that a delimiter was opened and not closed where its partner was expected. -/
def unclosed
    (d : Dialect)
    (opened : Span)
    (delimiter : Value)
    (span : Span)
    (expected found : Value) :
    Except Fault Diagnostic :=
  match d with
  | .detailed family => do
      let patterns ← PatternSet.ofKeys [expected]
      return .detailed family ⟨span, .unclosed opened delimiter, patterns, found⟩
  | .terse =>
      .ok (.terse
        ("open[" ++ delimiter.describe ++ "@" ++ opened.plain ++ "]want["
          ++ expected.describe ++ "@" ++ span.plain ++ "]got[" ++ found.describe ++ "]"))

/-- The terse diagnostic of a rejection, which may lack a place. -/
def terseRejection (place : Option Span) (message : String) : Diagnostic :=
  .terse ("custom[" ++ message ++ "@" ++ (place.elim "None" Span.plain) ++ "]")

/-- A diagnostic with a message of the grammar's own. -/
def custom (d : Dialect) (span : Span) (message : String) : Diagnostic :=
  match d with
  | .detailed family => .detailed family ⟨span, .custom message, .empty, .null⟩
  | .terse => terseRejection (some span) message

end Dialect

/-- The diagnostic with a message in place of everything but its place.  A terse diagnostic knows
no place. -/
def Diagnostic.restate (e : Diagnostic) (message : String) : Diagnostic :=
  match e with
  | .detailed family d => (Dialect.detailed family).custom d.span message
  | .terse _ => Dialect.terseRejection none message

end Resync
