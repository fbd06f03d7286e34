import Resync.Fault
import Resync.Log.Template

/-!
# The log

Loggers have dotted names.  One of them governs all below it by a level, which stays until it is
set again; before that, and for all other loggers, records below the level of warnings are dropped.
Only the records of the governing logger and those below it are written.
-/

namespace Resync
namespace Log

/-- The kinds of records. -/
inductive Severity where
  | debug
  | info
  | warning
  | error
deriving DecidableEq

namespace Severity

/-- The level of a kind of record. -/
def level : Severity → Int
  | debug => 10
  | info => 20
  | warning => 30
  | error => 40

/-- The name of a kind of record. -/
def name : Severity → String
  | debug => "DEBUG"
  | info => "INFO"
  | warning => "WARNING"
  | error => "ERROR"

end Severity

/-- What is written to the log by one call. -/
structure Record where
  logger : String
  severity : Severity
  message : String
  /-- The exception that was handled at the time, in words. -/
  exception : Option String

/-- The name of the governing logger. -/
def governor : String := "salvage"

/-- Whether a logger is the governing one or below it. -/
def isGoverned (logger : String) : Bool :=
  logger = governor || (governor ++ ".").isPrefixOf logger

/-- The level below which a logger drops records; `set` is the level of the governing one, where
zero is none. -/
def threshold (set : Int) (logger : String) : Int :=
  if isGoverned logger && set ≠ 0 then set else Severity.warning.level

/-- Whether a logger writes records of a level; levels are above zero. -/
def isEnabledFor (set : Int) (logger : String) (level : Int) : Bool :=
  0 < level && threshold set logger ≤ level

/-- The names that a call has for its own arguments, so that no argument of a template has them. -/
def reservedNames : List String := ["self", "format_string"]

/-- The named argument that asks for the exception that is being handled; templates do not see it. -/
def exceptionRequest : String := "exc_info"

/-- The exception in a record: the one that is being handled, or words for none if it is asked
for. -/
def exceptionWords (handled : Option String) (request : Option Value) : Option String :=
  handled <|> if request.any Value.isTruthy then some "NoneType: None" else none

/-- The record of a call, if it is written. -/
def record
    (set : Int)
    (logger : String)
    (severity : Severity)
    (template : String)
    (args : List Value)
    (named : List (String × Value))
    (handled : Option String) :
    Except Fault (Option Record) :=
  if named.any fun (name, _) => name ∈ reservedNames then .error .typeMismatch
  else if isGoverned logger && isEnabledFor set logger severity.level then
    let exception := exceptionWords handled (named.lookup exceptionRequest)
    let seen := named.filter fun (name, _) => name ≠ exceptionRequest
    .ok ((format template args seen).map fun message => ⟨logger, severity, message, exception⟩)
  else .ok none

/-- A handled exception in words. -/
def exceptionText (kind message : String) : String := kind ++ ": " ++ message

end Log
end Resync
