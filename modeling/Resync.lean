import Resync.Action
import Resync.Decimal
import Resync.Diagnostic
import Resync.Diagnostic.Wording
import Resync.Event
import Resync.Fault
import Resync.Grammar
import Resync.Grammar.Combinator
import Resync.Grammar.Environment
import Resync.Grammar.Recursion
import Resync.Grammar.Scope
import Resync.Grammar.Text
import Resync.Lexer
import Resync.Lexer.Pattern
import Resync.Lexer.PatternText
import Resync.Lexer.Reader
import Resync.Located
import Resync.Location
import Resync.Log
import Resync.Log.Layout
import Resync.Log.Subject
import Resync.Log.Template
import Resync.Parser.Output
import Resync.Parser.Primitive
import Resync.Parser.Recovery
import Resync.Parser.Repetition
import Resync.Parser.Sequence
import Resync.PatternSet
import Resync.Proofs.Agreement
import Resync.Proofs.Bounds
import Resync.Proofs.Brackets
import Resync.Proofs.Bundles
import Resync.Proofs.Carets
import Resync.Proofs.Characters
import Resync.Proofs.Checked
import Resync.Proofs.Choice
import Resync.Proofs.Contract
import Resync.Proofs.Contract.Grammar
import Resync.Proofs.Contract.Iteration
import Resync.Proofs.Depth
import Resync.Proofs.Describing
import Resync.Proofs.Faultless
import Resync.Proofs.Furthest
import Resync.Proofs.FurthestFailure
import Resync.Proofs.Greedy
import Resync.Proofs.Greedy.Sequencing
import Resync.Proofs.Greedy.Splitting
import Resync.Proofs.Groups
import Resync.Proofs.Groups.Delimited
import Resync.Proofs.Groups.Nested
import Resync.Proofs.Groups.Skipping
import Resync.Proofs.Groups.Walk
import Resync.Proofs.Instrumented
import Resync.Proofs.Labels
import Resync.Proofs.LateBinding
import Resync.Proofs.LazyStream
import Resync.Proofs.LazyStream.Refinement
import Resync.Proofs.Lines
import Resync.Proofs.Locations
import Resync.Proofs.Lockstep
import Resync.Proofs.Lockstep.Exact
import Resync.Proofs.Lockstep.Grammar
import Resync.Proofs.Lockstep.Recovery
import Resync.Proofs.Meets
import Resync.Proofs.Merging
import Resync.Proofs.Merging.Bracketing
import Resync.Proofs.Names
import Resync.Proofs.Numerals
import Resync.Proofs.OneDialect
import Resync.Proofs.Ordered
import Resync.Proofs.Parses
import Resync.Proofs.Peg
import Resync.Proofs.Placeholder
import Resync.Proofs.Pulled
import Resync.Proofs.Reach
import Resync.Proofs.Readers
import Resync.Proofs.Resuming
import Resync.Proofs.Rewording
import Resync.Proofs.Rounds
import Resync.Proofs.Run
import Resync.Proofs.Separated
import Resync.Proofs.Separated.Accepting
import Resync.Proofs.Separated.Empty
import Resync.Proofs.Separated.Joining
import Resync.Proofs.Separated.Listing
import Resync.Proofs.Separated.Reporting
import Resync.Proofs.Sequences
import Resync.Proofs.Simulation
import Resync.Proofs.Simulation.Carried
import Resync.Proofs.Simulation.Grammar
import Resync.Proofs.Simulation.Iteration
import Resync.Proofs.Simulation.Paired
import Resync.Proofs.Spans
import Resync.Proofs.Termination
import Resync.Proofs.Tokenizing
import Resync.Proofs.Tying
import Resync.Proofs.Wording
import Resync.Report
import Resync.Result
import Resync.Scan
import Resync.Source
import Resync.Span
import Resync.Specimen
import Resync.Strategy
import Resync.Text.Blank
import Resync.Text.CodeRange
import Resync.Text.DecimalDigit
import Resync.Text.Letter
import Resync.Text.Lines
import Resync.Text.Numeral
import Resync.Text.Printable
import Resync.Text.Quoted
import Resync.Value
import Resync.Value.Written
import Resync.WriteOnce
