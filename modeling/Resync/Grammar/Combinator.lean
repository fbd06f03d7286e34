import Resync.Action
import Resync.Grammar

/-!
# Combinators

The grammars that are put together from those of `Resync.Grammar`.  Where a combinator asks for
something that not every argument gives, it answers a fault in its place.
-/

namespace Resync
namespace Grammar

section Tokens

/-- Match exactly one token. -/
def just (dialect : Dialect) (token : Value) : Grammar :=
  satisfy dialect [token] fun v => .ok (v = token)

/-- Match one of some tokens. -/
def oneOf (dialect : Dialect) (tokens : List Value) : Grammar :=
  satisfy dialect tokens fun v => .ok (v ∈ tokens)

/-- Match a token that is none of some. -/
def noneOf (dialect : Dialect) (tokens : List Value) : Grammar :=
  satisfy dialect [] fun v => .ok (v ∉ tokens)

/-- Match a token that passes a test. -/
def filter (dialect : Dialect) (test : Value → Except Fault Bool) : Grammar :=
  satisfy dialect [] test

/-- Match any token. -/
def anyToken (dialect : Dialect) : Grammar := filter dialect fun _ => .ok true

/-- Match a token of a kind that a lexer gave it. -/
def token (dialect : Dialect) (kind : String) : Grammar :=
  labelled (kind ++ " token") (filter dialect fun
    | .token kind' _ => .ok (kind' = kind)
    | _ => .error .noSuchMember)

end Tokens

section Outputs

variable (g h : Grammar)

/-- A fixed output. -/
def answering (value : Value) : Grammar := map (fun _ => .ok value) g

/-- Null as the output. -/
def ignored : Grammar := g.answering .null

/-- One grammar, then another; their outputs are spliced into one list. -/
def chain : Grammar := map Action.chained (andThen g h)

/-- One grammar, then another; only the output of the second is kept. -/
def ignoreThen : Grammar := map (Action.itemAt 1) (andThen g h)

/-- One grammar, then another; only the output of the first is kept. -/
def thenIgnore : Grammar := map (Action.itemAt 0) (andThen g h)

/-- A grammar with another one on both sides. -/
def paddedBy : Grammar := (h.ignoreThen g).thenIgnore h

/-- The output folded from the left. -/
def foldl (f : Value → Value → Except Fault Value) : Grammar := map (Action.foldLeft f) g

/-- The output folded from the right. -/
def foldr (f : Value → Value → Except Fault Value) : Grammar := map (Action.foldRight f) g

/-- The texts of the output, run together. -/
def concat : Grammar := map Action.concat g

/-- The items of the groups in the output, as one list. -/
def flatten : Grammar := map Action.flatten g

end Outputs

section Choices

/-- The alternatives in turn, the first of them given apart. -/
def choice (g : Grammar) (others : List Grammar) : Grammar := others.foldl orElse g

/-- The alternatives in turn; there must be one. -/
def choiceOf : List Grammar → Except Fault Grammar
  | [] => .error .noAlternatives
  | g :: others => .ok (g.choice others)

/-- A grammar between two delimiters, which may nest.  Where the inside cannot be parsed, the group
is skipped, and the output is absent. -/
def delimitedBy
    (g : Grammar)
    (dialect : Dialect)
    (opening closing : Value) :
    Except Fault Grammar := do
  let strategy ← Strategy.nested opening closing [] .absent
  return ((just dialect opening).ignoreThen g).thenIgnore (just dialect closing)
    |>.recoverWith strategy

end Choices

section Repetitions

/-- A minimum number of matches. -/
def checkMinimum (minimum : Int) : Except Fault Nat :=
  if minimum < 0 then .error (.negativeMinimum minimum) else .ok minimum.toNat

/-- A grammar as many times as possible within two bounds, which must make sense. -/
def repeatedWithin
    (g : Grammar)
    (minimum : Int)
    (maximum : Option Int) :
    Except Fault Grammar := do
  let least ← checkMinimum minimum
  match maximum with
  | none => return g.repeated least none
  | some most =>
      if most < minimum then .error (.maximumBelowMinimum most minimum)
      else return g.repeated least (some most.toNat)

/-- A grammar any number of times, with a separator between each two; the minimum must make
sense. -/
def separatedWithin
    (g separator : Grammar)
    (minimum : Int)
    (leading trailing : Bool) :
    Except Fault Grammar := do
  let least ← checkMinimum minimum
  return g.separatedBy separator least leading trailing

end Repetitions

end Grammar

namespace Plan

/-- One step of a plan that answers the list of all outputs. -/
inductive Step where
  /-- A grammar that is known beforehand. -/
  | fixed (g : Grammar)
  /-- A grammar that is built from the output before; null before the first step. -/
  | dependent (build : Value → Except Fault Grammar)

/-- The steps in order, after the outputs so far; `previous` is the last of them. -/
def stepsFrom (outputs : List Value) (previous : Value) : List Step → Plan
  | [] => .finish (.list outputs)
  | .fixed g :: steps => .step g fun v => stepsFrom (outputs ++ [v]) v steps
  | .dependent build :: steps =>
      match build previous with
      | .ok g => .step g fun v => stepsFrom (outputs ++ [v]) v steps
      | .error f => .abandon f

/-- The steps in order; the output is the list of theirs. -/
def ofSteps (steps : List Step) : Plan := stepsFrom [] .null steps

/-- Grammars in order; the output is the list of theirs. -/
def sequence (gs : List Grammar) : Plan := ofSteps (gs.map Step.fixed)

end Plan
end Resync
