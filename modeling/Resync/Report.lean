import Resync.Diagnostic.Wording
import Resync.Location

/-!
# Reports

A report shows a diagnostic with the line of the source it is about, and underlines the place with
carets.  The carets do not go beyond the line, and there is always one.  Where a delimiter was not
closed, the line on which it was opened is shown as well.  A terse diagnostic knows no place and is
shown as it is.
-/

namespace Resync
namespace Report

/-- Carets under the characters from a column on, at least one. -/
def caretLine (column : Nat) (width : Int) : List Char :=
  List.replicate column ' ' ++ List.replicate (max width 1).toNat '^'

/-- A line moved to the right by two columns; a blank line stays as it is. -/
def indented (line : List Char) : List Char :=
  if line.all Text.isBlank then line else ' ' :: ' ' :: line

/-- The line at a location, and carets under the place. -/
def excerpt (source : List Char) (l : Location) (width : Int) : List Char × List Char :=
  (Text.trimEnd (l.lineOf source), caretLine l.column width)

/-- How many characters of a span that starts at location `l` lie on the line shown for it. -/
def widthOnLine (source : List Char) (span : Span) (l : Location) : Int :=
  min span.stop ((l.lineOf source).length + span.start - l.column) - span.start

/-- The report of a detailed diagnostic, whose span refers to the source. -/
def ofDetail (source : List Char) (d : Detail) : String :=
  let place := Location.ofOffset source d.span.start
  let (line, carets) := excerpt source place (widthOnLine source d.span place)
  let head :=
    d.message ++ " at line " ++ toString place.line ++ ", column " ++ toString (place.column + 1)
      ++ ":\n" ++ String.ofList line ++ "\n" ++ String.ofList carets
  match d.reason with
  | .unclosed opened _ =>
      let (line', carets') := excerpt source (Location.ofOffset source opened.start) 1
      head ++ "\nbecause the delimiter was opened here:\n" ++ String.ofList (indented line')
        ++ "\n" ++ String.ofList (indented carets')
  | .unexpected | .custom _ => head

/-- The report of a diagnostic. -/
def ofDiagnostic (source : String) : Diagnostic → String
  | .detailed _ d => ofDetail source.toList d
  | .terse text => text

/-- The reports of several diagnostics, with a blank line between each two. -/
def ofDiagnostics (source : String) (es : List Diagnostic) : String :=
  "\n\n".intercalate (es.map (ofDiagnostic source))

end Report
end Resync
