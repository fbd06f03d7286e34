import Resync.Value.Written

/-!
# Faults

A fault ends a computation without a result.  It is not a diagnostic: diagnostics speak of the
input, faults of the grammar or of the functions it was built from.  Every fault is named for its
cause, and `Fault.message` holds the wording of all of them.
-/

namespace Resync

/-- Why a grammar cannot be built, or why a computation was given up. -/
inductive Fault where
  /-- A span would end before it starts. -/
  | backwardSpan (start stop : Int)
  /-- A radix lies outside the range in which digits have characters. -/
  | radixOutOfRange (radix : Int)
  /-- A repetition asks for a negative number of matches. -/
  | negativeMinimum (minimum : Int)
  /-- A repetition allows fewer matches than it asks for. -/
  | maximumBelowMinimum (maximum minimum : Int)
  /-- A group of delimiters opens and closes with the same token. -/
  | identicalDelimiters (delimiter : Value)
  /-- A choice is made between no parsers at all. -/
  | noAlternatives
  /-- A lexer is given no rules. -/
  | noRules
  /-- A failed result carries no diagnostic. -/
  | failureWithoutDiagnostic
  /-- An output is no numeral of an integer. -/
  | notAnInteger
  /-- A function of the grammar gave up. -/
  | abandoned
  /-- A recursive parser is run, and has not been defined. -/
  | undefinedRecursion
  /-- A field that is written once is written again. -/
  | alreadySet (field : String)
  /-- A value, or a diagnostic, does not have what is asked of it. -/
  | noSuchMember
  /-- A function is applied to a value of the wrong type. -/
  | typeMismatch
  /-- An item is taken beyond the end of a sequence. -/
  | indexOutOfRange
  /-- A dictionary has no rule of this name. -/
  | unknownRule (name : String)
  /-- A text is no regular expression. -/
  | malformedPattern (pattern : String)
deriving DecidableEq

/-- The wording of a fault. -/
def Fault.message : Fault → String
  | .backwardSpan start stop =>
      "span ends before it starts: " ++ toString start ++ ".." ++ toString stop
  | .radixOutOfRange radix => "radix must be between 2 and 36, got " ++ toString radix
  | .negativeMinimum minimum => "at_least must not be negative, got " ++ toString minimum
  | .maximumBelowMinimum maximum minimum =>
      "at_most (" ++ toString maximum ++ ") must not be less than at_least ("
        ++ toString minimum ++ ")"
  | .identicalDelimiters delimiter =>
      "NestedDelimiters cannot be used with identical delimiters (" ++ delimiter.written ++ ")"
  | .noAlternatives => "choice needs at least one parser"
  | .noRules => "a lexer needs at least one rule"
  | .failureWithoutDiagnostic => "PResult representing failure should have an error"
  | .notAnInteger => "not an integer"
  | .abandoned => "boom"
  | .undefinedRecursion => "recursive parser was used before it was defined"
  | .alreadySet field => "Attribute \"" ++ field ++ "\" cannot be set more than once"
  | .noSuchMember => "no such member"
  | .typeMismatch => "value of the wrong type"
  | .indexOutOfRange => "index out of range"
  | .unknownRule name => "no rule is named " ++ Text.quote name
  | .malformedPattern pattern => "not a regular expression: " ++ Text.quote pattern

end Resync
