import Resync.Parser.Output
import Resync.Parser.Recovery
import Resync.Parser.Repetition
import Resync.Parser.Sequence

/-!
# Grammars

A grammar is a description of a parser, built from the parsers of `Resync.Parser`.  It may refer to
other grammars: to the rules of a dictionary by name, and to recursive parsers by the cell that
holds their definition.  A reference is bound late, whenever it is run, so that grammars can refer
to themselves and to rules that change.

A plan is a sequence of grammars in which each may depend on the outputs before it.  It ends with
an output, or is given up.

`Grammar.parser` gives a grammar its meaning, once it is said what references mean.  Every grammar
runs its parts; only a reference runs something else, so the meaning is defined by recursion on the
grammar.
-/

namespace Resync

/-- What a grammar can refer to. -/
inductive Ref where
  /-- The rule of that name in the dictionary. -/
  | rule (name : String)
  /-- The definition of a recursive parser. -/
  | cell (index : Nat)
deriving DecidableEq

mutual

/-- Descriptions of parsers. -/
inductive Grammar where
  | satisfy (dialect : Dialect) (expected : List Value) (test : Value → Except Fault Bool)
  | seq (dialect : Dialect) (tokens : List Value)
  | filterMap (dialect : Dialect) (f : Span → Value → Except Fault Verdict)
  | endOfInput (dialect : Dialect)
  | empty
  | scripted (consume : Nat) (relative : Bool) (answer : Result)
  | map (f : Value → Except Fault Value) (of : Grammar)
  | mapWithSpan (f : Value → Span → Except Fault Value) (of : Grammar)
  | tryMap (f : Value → Span → Except Fault Verdict) (of : Grammar)
  | mapError (f : Diagnostic → Diagnostic) (of : Grammar)
  | labelled (label : String) (of : Grammar)
  | andThen (first second : Grammar)
  | orElse (left right : Grammar)
  | optional (of : Grammar)
  | recoverWith (of : Grammar) (strategy : Strategy)
  | repeated (of : Grammar) (minimum : Nat) (maximum : Option Nat)
  | separatedBy (item separator : Grammar) (minimum : Nat) (leading trailing : Bool)
  | generate (plan : Plan)
  | ref (target : Ref)

/-- Sequences of grammars that depend on earlier outputs.  Each way through a plan is finite.  A
sequence that may go on without end, as long as its steps succeed, is covered run by run: a run that
returns has taken finitely many steps, so it is the run of the plan that is cut off behind them. -/
inductive Plan where
  | finish (output : Value)
  | abandon (fault : Fault)
  | step (grammar : Grammar) (resume : Value → Plan)

end

mutual

/-- The parser that a grammar describes; `resolve` says what its references mean. -/
def Grammar.parser (resolve : Ref → Parser) : Grammar → Parser
  | .satisfy dialect expected test => Parser.satisfy dialect expected test
  | .seq dialect tokens => Parser.seq dialect tokens
  | .filterMap dialect f => Parser.filterMap dialect f
  | .endOfInput dialect => Parser.endOfInput dialect
  | .empty => Parser.empty
  | .scripted consume relative answer => Parser.scripted consume relative answer
  | .map f of => Parser.map f (of.parser resolve)
  | .mapWithSpan f of => Parser.mapWithSpan f (of.parser resolve)
  | .tryMap f of => Parser.tryMap f (of.parser resolve)
  | .mapError f of => Parser.mapError f (of.parser resolve)
  | .labelled label of => Parser.labelled label (of.parser resolve)
  | .andThen first second => Parser.andThen (first.parser resolve) (second.parser resolve)
  | .orElse left right => Parser.orElse (left.parser resolve) (right.parser resolve)
  | .optional of => Parser.optional (of.parser resolve)
  | .recoverWith of strategy => Parser.recoverWith (of.parser resolve) strategy
  | .repeated of minimum maximum => Parser.repeated (of.parser resolve) minimum maximum
  | .separatedBy item separator minimum leading trailing =>
      Parser.separatedBy (item.parser resolve) (separator.parser resolve)
        minimum leading trailing
  | .generate plan => plan.parser resolve [] none
  | .ref target => resolve target

/-- The parser that runs a plan, with what the steps so far have given.  A step that fails ends the
plan. -/
def Plan.parser
    (resolve : Ref → Parser) :
    Plan →
    List Located →
    Option Located →
    Parser
  | .finish output => fun recovered alt => return .success recovered output alt
  | .abandon f => fun _ _ => Scan.halt (.fault f)
  | .step grammar resume => fun recovered alt => do
      match ← grammar.parser resolve with
      | .success recovered' output alt' =>
          let alt'' ← Scan.mergeAlts alt alt'
          (resume output).parser resolve (recovered ++ recovered') alt''
      | .failure recovered' error =>
          let error' ← Scan.ofExcept (error.max alt)
          return .failure (recovered ++ recovered') error'

end

end Resync
