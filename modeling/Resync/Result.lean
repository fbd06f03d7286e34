import Resync.Located

/-!
# Results

The result of running a parser.  Either way it carries the diagnostics that were recovered from on
the way, which are reported whatever happens.  A success has an output, and may have an
alternative: the furthest diagnostic that another choice, or another number of repetitions, would
have run into.  A failure has the diagnostic that stopped the parser.
-/

namespace Resync

/-- What a parser answers. -/
inductive Result where
  | success (recovered : List Located) (output : Value) (alt : Option Located)
  | failure (recovered : List Located) (error : Located)

namespace Result

/-- The diagnostics that were recovered from. -/
def recovered : Result → List Located
  | success recovered _ _ => recovered
  | failure recovered _ => recovered

/-- Whether the parser succeeded. -/
def isSuccess : Result → Bool
  | success _ _ _ => true
  | failure _ _ => false

/-- Whether the parser succeeded, and had nothing to recover from. -/
def isClean : Result → Bool
  | success [] _ _ => true
  | success (_ :: _) _ _ => false
  | failure _ _ => false

/-- The output; null for a failure. -/
def output : Result → Value
  | success _ output _ => output
  | failure _ _ => .null

/-- The alternative of a success. -/
def alt : Result → Option Located
  | success _ _ alt => alt
  | failure _ _ => none

/-- The diagnostic that stopped a failure. -/
def error? : Result → Option Located
  | success _ _ _ => none
  | failure _ error => some error

/-- The diagnostic a result carries beside those recovered from: a failure's own, or the
alternative of a success. -/
def furthest : Result → Option Located
  | success _ _ alt => alt
  | failure _ error => some error

/-- All diagnostics to be reported, in order: those recovered from, then the one that stopped the
parser. -/
def diagnostics (r : Result) : List Diagnostic :=
  (r.recovered ++ r.error?.toList).map Located.error

instance : BEq Result where
  beq
    | success rs v a, success rs' v' a' => rs == rs' && v == v' && a == a'
    | failure rs e, failure rs' e' => rs == rs' && e == e'
    | success _ _ _, failure _ _ => false
    | failure _ _, success _ _ _ => false

/-- A failure, unless it lacks the diagnostic that every failure has. -/
def failed (recovered : List Located) : Option Located → Except Fault Result
  | some error => .ok (failure recovered error)
  | none => .error .failureWithoutDiagnostic

/-- The literals of a list of located diagnostics. -/
def writtenList (items : List Located) : String :=
  "[" ++ ", ".intercalate (items.map Located.written) ++ "]"

/-- The literal of a result. -/
def written : Result → String
  | success recovered output alt =>
      "PResult.success(" ++ writtenList recovered ++ ", " ++ output.written ++ ", "
        ++ (alt.elim "None" Located.written) ++ ")"
  | failure recovered error =>
      "PResult.failure(" ++ writtenList recovered ++ ", " ++ error.written ++ ")"

end Result
end Resync
