import Resync.Lexer.PatternText
import Resync.Lexer.Reader
import Resync.Location
import Resync.Source

/-!
# Lexers

A lexer cuts a text into tokens.  At each position the rules are tried in order and the first that
matches gives a token of its kind; before the first token and after each one, at most one match of
the skip pattern is dropped.  Where neither a rule matches nor the text ends, the lexer fails, and
says what it tried there.

What is matched by a rule is left abstract: a recognizer sees the whole text and an offset, and
answers how many characters it takes from there, if any.  Written patterns take at least one, and
look at nothing before the offset.  How readers are put together is left open, too; unless something
else is said, it is done in the standard way.
-/

namespace Resync

/-- A token of a kind, wherever its recognizer matches. -/
structure LexRule where
  kind : String
  recognizer : Recognizer

/-- Rules in order of precedence, and what is dropped between tokens. -/
structure Lexer where
  rules : List LexRule
  skip : Option Recognizer

/-- A token with the offsets of its text. -/
structure Lexeme where
  kind : String
  text : List Char
  start : Nat

/-- Where a lexer failed, and what it tried there. -/
structure LexFailure where
  offset : Nat
  expected : List String
  location : Location

namespace Lexeme

/-- The offset after the text. -/
def stop (l : Lexeme) : Nat := l.start + l.text.length

/-- The token in a source. -/
def token (l : Lexeme) : Value := .token l.kind (String.ofList l.text)

/-- The span of the text. -/
def span (l : Lexeme) (context : Value) : Span :=
  ⟨l.start, l.stop, context, by unfold stop; omega⟩

end Lexeme

/-- The wording of a failure. -/
def LexFailure.message (f : LexFailure) : String :=
  let expectation :=
    match f.expected with
    | [single] => single
    | several => "one of " ++ ", ".intercalate several
  "cannot tokenize input at offset " ++ toString f.offset ++ ": expected " ++ expectation
    ++ " at " ++ toString (f.location.line - 1) ++ ":" ++ toString f.location.column

namespace Recognizer

/-- The recognizer of a written pattern. -/
def ofPattern (s : String) : Except Fault Recognizer := do
  let p ← Pattern.ofText s
  return ⟨s, fun text i => p.length? (text.drop i)⟩

end Recognizer

/-- The rule of a kind and a written pattern. -/
def LexRule.ofPattern (rule : String × String) : Except Fault LexRule := do
  let recognizer ← Recognizer.ofPattern rule.2
  return ⟨rule.1, recognizer⟩

namespace Lexer

/-- What is dropped between tokens unless a lexer says otherwise. -/
def defaultSkip : String := "\\s+"

/-- The recognizer of a written skip pattern; an empty pattern is none. -/
def skipOfPattern : Option String → Except Fault (Option Recognizer)
  | none => .ok none
  | some s => if s = "" then .ok none else some <$> Recognizer.ofPattern s

/-- The lexer of written rules.  There must be one. -/
def ofPatterns (rules : List (String × String)) (skip : Option String) : Except Fault Lexer :=
  if rules.isEmpty then .error .noRules
  else do
    let skip' ← skipOfPattern skip
    let rules' ← rules.mapM LexRule.ofPattern
    return ⟨rules', skip'⟩

section Readers

variable (lexer : Lexer) (readers : Readers)

/-- What is dropped between tokens: one match of the skip pattern, if there is one. -/
def separator : Reader Unit :=
  match lexer.skip with
  | some r => readers.bind (readers.optional (readers.taking r)) fun _ => readers.pure ()
  | none => readers.pure ()

/-- A token of a rule.  It ends where its text does. -/
def tokenOf (rule : LexRule) : Reader Lexeme :=
  readers.bind readers.offset fun start =>
    readers.bind (readers.taking rule.recognizer) fun text =>
      readers.pure ⟨rule.kind, text, start⟩

/-- A token of the first rule that matches. -/
def token : Reader Lexeme := readers.firstOf (lexer.rules.map (tokenOf readers))

/-- A token, and what is dropped behind it. -/
def tokenAndSeparator : Reader Lexeme :=
  readers.bind (lexer.token readers) fun l =>
    readers.bind (lexer.separator readers) fun _ => readers.pure l

/-- All tokens. -/
def reader : Reader (List Lexeme) :=
  readers.bind (lexer.separator readers) fun _ =>
    readers.many (lexer.tokenAndSeparator readers)

end Readers

/-- The tokens of a text. -/
def lexemes
    (lexer : Lexer)
    (text : List Char)
    (readers : Readers := .standard) :
    Except LexFailure (List Lexeme) :=
  match readers.readAll (lexer.reader readers) text with
  | .ok ls => .ok ls
  | .error furthest =>
      let expected := (furthest.expected.map Text.quote).eraseDups.mergeSort fun s t => s ≤ t
      .error ⟨furthest.offset, expected, Location.ofOffset text furthest.offset⟩

/-- The tokens of a text with their spans. -/
def tokenize
    (lexer : Lexer)
    (text : String)
    (context : Value)
    (readers : Readers := .standard) :
    Except LexFailure (List (Value × Span)) := do
  let ls ← lexer.lexemes text.toList readers
  return ls.map fun l => (l.token, l.span context)

end Lexer

/-- The source of lexed tokens.  Unless it is given, the span of the end of the input is empty and
lies just after the last token. -/
def Source.ofLexed (tokens : List (Value × Span)) (eoi : Option Span) : Source where
  tokens := tokens.toArray
  eoi :=
    match eoi, tokens.getLast? with
    | some span, _ => span
    | none, some (_, span) => span.back
    | none, none => Span.emptyAt 0 .null

end Resync
