import Resync.Text.Quoted
import Resync.Value

/-!
# Written forms of values

The written form of a value is its literal: texts are quoted, the parts of a sequence are
separated by a comma and a space, and a tuple of one item keeps its comma.  A pattern is described
by its written form, except that the null pattern stands for the end of the input and a label is
described by its name.

Integers are written with all their digits, however many these are.  A host may refuse to write more
than some thousands of them (4300, unless it is told otherwise).  That is a limit on resources, like
that on the depth of calls, and not part of the written form.
-/

namespace Resync
namespace Value

/-- The written form of a span; the context is left out when it is null. -/
def writtenSpan (start stop : Int) (context : Option String) : String :=
  match context with
  | none => "Span(" ++ toString start ++ ", " ++ toString stop ++ ")"
  | some text => "Span(" ++ toString start ++ ", " ++ toString stop ++ ", " ++ text ++ ")"

/-- The written form of a tuple, from those of its items. -/
def writtenTuple : List String → String
  | [item] => "(" ++ item ++ ",)"
  | items => "(" ++ ", ".intercalate items ++ ")"

mutual

/-- The written form of a value.  That of an integer has no limit on its length. -/
def written : Value → String
  | .null => "None"
  | .bool true => "True"
  | .bool false => "False"
  | .int n => toString n
  | .str s => Text.quote s
  | .token kind text => "Token(type=" ++ Text.quote kind ++ ", value=" ++ Text.quote text ++ ")"
  | .label name => "Label(" ++ Text.quote name ++ ")"
  | .span start stop .null => writtenSpan start stop none
  | .span start stop context => writtenSpan start stop (some context.written)
  | .list items => "[" ++ ", ".intercalate (writtenItems items) ++ "]"
  | .tuple items => writtenTuple (writtenItems items)
  | .absent => "ABSENT"

/-- The written forms of a sequence of values. -/
def writtenItems : List Value → List String
  | [] => []
  | item :: items => item.written :: writtenItems items

end

/-- How a value reads as plain text: a text and a label as they are, a span as its two ends. -/
def plain : Value → String
  | .str s => s
  | .label name => name
  | .span start stop _ => toString start ++ ".." ++ toString stop
  | v => v.written

/-- How a diagnostic speaks of a pattern or of a token. -/
def describe : Value → String
  | .null => "end of input"
  | .label name => name
  | v => v.written

end Value
end Resync
