import Resync.Located
import Resync.Strategy

/-!
# Events of a run

What a run reports to the log while it goes on: recoveries and how they ended, repetitions that
were stopped because nothing was consumed, and parses that ended with diagnostics.
-/

namespace Resync

/-- One report of a run. -/
inductive Event where
  /-- A parser has failed, and a strategy takes over. -/
  | recovering (failure : Located) (strategy : Strategy)
  /-- Skipping found a place where the parser succeeds. -/
  | skipped (offset count : Nat)
  /-- Skipping reached a sentinel or the end of the input. -/
  | skippedInVain (offset count : Nat)
  /-- A balanced group was skipped. -/
  | groupSkipped (offset : Nat)
  /-- No balanced group starts where the parser failed. -/
  | groupNotFound (offset : Nat)
  /-- A repetition matched without consuming anything. -/
  | repetitionStalled (offset : Nat)
  /-- An item and its separator matched without consuming anything. -/
  | separationStalled (offset : Nat)
  /-- A parse ended with diagnostics. -/
  | rejected (count : Nat)

namespace Event

/-- The logger that reports an event. -/
def logger : Event → String
  | recovering _ _ | repetitionStalled _ | separationStalled _ | rejected _ =>
      "salvage.parser_combinators"
  | skipped _ _ | skippedInVain _ _ | groupSkipped _ | groupNotFound _ =>
      "salvage.parser_combinators.recovery"

/-- The report of an event in words. -/
def message : Event → String
  | recovering failure strategy =>
      "recovering from " ++ failure.error.message ++ " at " ++ toString failure.position
        ++ " with " ++ strategy.name
  | skipped offset count =>
      "recovered at " ++ toString offset ++ " after skipping " ++ toString count ++ " tokens"
  | skippedInVain offset count =>
      "gave up recovering at " ++ toString offset ++ " after skipping " ++ toString count
        ++ " tokens"
  | groupSkipped offset => "recovered at " ++ toString offset ++ " by skipping delimiters"
  | groupNotFound offset => "gave up recovering with delimiters at " ++ toString offset
  | repetitionStalled offset =>
      "stopping repetition at " ++ toString offset ++ ": match consumed no input"
  | separationStalled offset =>
      "stopping separated items at " ++ toString offset ++ ": match consumed no input"
  | rejected count => "parse failed with " ++ toString count ++ " errors"

end Event
end Resync
