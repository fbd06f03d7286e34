import Resync.Value.Written

/-!
# Subjects of fields

What a template can speak of: the arguments it is given, their items, their members and their
classes.  Numbers have the members of complex numbers and of fractions; a token has its kind and
its text, a label its name, a span its two ends and its context.
-/

namespace Resync
namespace Log

/-- What a field can speak of. -/
inductive Subject where
  | value (v : Value)
  /-- A class of values, by the module it is defined in and by its name. -/
  | kind (home name : String)
deriving DecidableEq

namespace Subject

/-- The module of the classes that need no import. -/
def builtin : String := "builtins"

/-- The class of a value. -/
def kindOf : Value → Subject
  | .null => kind builtin "NoneType"
  | .bool _ => kind builtin "bool"
  | .int _ => kind builtin "int"
  | .str _ => kind builtin "str"
  | .token _ _ => kind "salvage.lex" "Token"
  | .label _ => kind "salvage.error" "Label"
  | .span _ _ _ => kind "salvage.span" "Span"
  | .list _ => kind builtin "list"
  | .tuple _ => kind builtin "tuple"
  | .absent => kind "salvage.parser_combinators" "_Absent"

/-- The literal of a subject. -/
def written : Subject → String
  | value v => v.written
  | kind home name =>
      "<class '" ++ (if home = builtin then name else home ++ "." ++ name) ++ "'>"

/-- How a subject reads as plain text. -/
def plain : Subject → String
  | value v => v.plain
  | kind home name => (kind home name).written

/-- An item of a subject by its number. -/
def item (i : Nat) : Subject → Option Subject
  | value v => do
      let items ← v.items?
      value <$> items[i]?
  | kind _ _ => none

/-- A member of a number. -/
def memberOfNumber (n : Int) : String → Option Value
  | "real" | "numerator" => some (.int n)
  | "imag" => some (.int 0)
  | "denominator" => some (.int 1)
  | _ => none

/-- A member of a value. -/
def memberOfValue (name : String) : Value → Option Value
  | .int n => memberOfNumber n name
  | .bool b => memberOfNumber (if b then 1 else 0) name
  | .token type text =>
      match name with
      | "type" => some (.str type)
      | "value" => some (.str text)
      | _ => none
  | .label text => if name = "name" then some (.str text) else none
  | .span start stop context =>
      match name with
      | "start" => some (.int start)
      | "end" => some (.int stop)
      | "context" => some context
      | _ => none
  | .null | .str _ | .list _ | .tuple _ | .absent => none

/-- A member of a subject by its name. -/
def member (name : String) : Subject → Option Subject
  | value v => if name = "__class__" then some (kindOf v) else value <$> memberOfValue name v
  | kind home ownName =>
      match name with
      | "__class__" => some (kind builtin "type")
      | "__name__" | "__qualname__" => some (value (.str ownName))
      | "__module__" => some (value (.str home))
      | _ => none

end Subject
end Log
end Resync
