import Resync.Fault

/-!
# Recovery strategies

A strategy says how to go on after a parser has failed.  Skipping drops one token at a time and
tries the parser again after each.  Nested delimiters drop one balanced group and put a default in
its place.  The default strategy puts a value in place without dropping anything.
-/

namespace Resync

/-- How to resume after a failure. -/
inductive Strategy where
  /-- Skip tokens until the parser succeeds, but none of `sentinels`. -/
  | skipThenRetry (sentinels : List Value)
  /-- Skip a group between `opening` and `closing`.  The other pairs are only watched for one that
  closes without having been opened. -/
  | nestedDelimiters (opening closing : Value) (others : List (Value × Value)) (default : Value)
  /-- Go on with a value. -/
  | defaultOutput (value : Value)

namespace Strategy

/-- The name a strategy goes by. -/
def name : Strategy → String
  | skipThenRetry _ => "SkipThenRetryUntil"
  | nestedDelimiters _ _ _ _ => "NestedDelimiters"
  | defaultOutput _ => "DefaultOutput"

/-- A strategy of nested delimiters; the two must differ. -/
def nested
    (opening closing : Value)
    (others : List (Value × Value))
    (default : Value) :
    Except Fault Strategy :=
  if opening = closing then .error (.identicalDelimiters opening)
  else .ok (.nestedDelimiters opening closing others default)

/-- The literal of a strategy. -/
def written (s : Strategy) : String :=
  match s with
  | skipThenRetry sentinels => s.name ++ "(" ++ (Value.list sentinels).written ++ ")"
  | nestedDelimiters opening closing others default =>
      let pairs := others.map fun (a, b) => Value.tuple [a, b]
      s.name ++ "(" ++ opening.written ++ ", " ++ closing.written ++ ", "
        ++ (Value.list pairs).written ++ ", Constant(" ++ default.written ++ "))"
  | defaultOutput value => s.name ++ "(" ++ value.written ++ ")"

end Strategy
end Resync
