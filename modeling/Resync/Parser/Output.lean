import Resync.Parser.Primitive

/-!
# Parsers with other outputs or diagnostics

Parsers that run another parser and change what it answers: its output, or the diagnostic that
stopped it.  Diagnostics that were recovered from are left as they are.
-/

namespace Resync
namespace Parser

/-- Apply a function to the output. -/
def map (f : Value → Except Fault Value) (p : Parser) : Parser := do
  match ← p with
  | .success recovered output alt =>
      let output' ← Scan.ofExcept (f output)
      return .success recovered output' alt
  | .failure recovered error => return .failure recovered error

/-- Apply a function to the output and to the span of what was consumed. -/
def mapWithSpan (f : Value → Span → Except Fault Value) (p : Parser) : Parser := do
  let start ← Scan.save
  match ← p with
  | .success recovered output alt =>
      let span ← Scan.spanSince start
      let output' ← Scan.ofExcept (f output span)
      return .success recovered output' alt
  | .failure recovered error => return .failure recovered error

/-- Apply a function that may reject the output.  A rejection is located where the parser
started. -/
def tryMap (f : Value → Span → Except Fault Verdict) (p : Parser) : Parser := do
  let start ← Scan.save
  match ← p with
  | .success recovered output alt =>
      let span ← Scan.spanSince start
      match ← Scan.ofExcept (f output span) with
      | .accept output' => return .success recovered output' alt
      | .reject error => return .failure recovered ⟨start, error⟩
  | .failure recovered error => return .failure recovered error

/-- Apply a function to the diagnostic of a failure. -/
def mapError (f : Diagnostic → Diagnostic) (p : Parser) : Parser := do
  match ← p with
  | .success recovered output alt => return .success recovered output alt
  | .failure recovered error => return .failure recovered (error.map f)

/-- The diagnostic with a label, unless it lies beyond the start: what happened after something
was consumed keeps its own description, which says more. -/
def relabel (label : String) (start : Nat) (l : Located) : Located :=
  if l.position > start then l else l.map fun e => e.withLabel label

/-- Describe what the parser expects by a label. -/
def labelled (label : String) (p : Parser) : Parser := do
  let start ← Scan.save
  match ← p with
  | .success recovered output alt =>
      return .success recovered output (alt.map (relabel label start))
  | .failure recovered error => return .failure recovered (relabel label start error)

end Parser
end Resync
