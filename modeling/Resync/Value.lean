/-!
# Values

Grammars are put together at run time, so one type holds whatever passes through them: the tokens
of a source, the outputs of parsers, and the patterns that diagnostics mention.  A label is a
pattern that is described by a name.  The absent value stands for an output that could not be
parsed and was skipped; it differs from the null value, which parsers do output.

Equality is structural.  Values of different kinds differ, and so true and false differ from one
and zero.  Where a host takes these for the same, what is said here is about tokens, outputs and
patterns of which none is a truth value while another one is such a number.  Values that are lists,
or contain one, cannot be members of a pattern set; `Value.isKey` tells them apart.
-/

namespace Resync

/-- Tokens, outputs and patterns. -/
inductive Value where
  | null
  | bool (b : Bool)
  | int (n : Int)
  | str (s : String)
  | token (kind text : String)
  | label (name : String)
  | span (start stop : Int) (context : Value)
  | list (items : List Value)
  | tuple (items : List Value)
  | absent
deriving Inhabited

namespace Value

mutual

/-- Structural equality of values, as a test.  It tells true from one and false from zero. -/
def eqb : Value → Value → Bool
  | .null, .null => true
  | .bool a, .bool b => a == b
  | .int m, .int n => m == n
  | .str s, .str t => s == t
  | .token kind text, .token kind' text' => kind == kind' && text == text'
  | .label name, .label name' => name == name'
  | .span start stop context, .span start' stop' context' =>
      start == start' && stop == stop' && eqb context context'
  | .list items, .list items' => eqbList items items'
  | .tuple items, .tuple items' => eqbList items items'
  | .absent, .absent => true
  | _, _ => false

/-- Structural equality of sequences of values, as a test. -/
def eqbList : List Value → List Value → Bool
  | [], [] => true
  | a :: as, b :: bs => eqb a b && eqbList as bs
  | _, _ => false

end

mutual

/-- The test decides equality of values. -/
theorem eqb_iff : ∀ a b : Value, eqb a b = true ↔ a = b
  | .null, b => by cases b <;> simp [eqb]
  | .bool _, b => by cases b <;> simp [eqb]
  | .int _, b => by cases b <;> simp [eqb]
  | .str _, b => by cases b <;> simp [eqb]
  | .token _ _, b => by cases b <;> simp [eqb]
  | .label _, b => by cases b <;> simp [eqb]
  | .span _ _ context, b => by cases b <;> simp [eqb, eqb_iff context, and_assoc]
  | .list items, b => by cases b <;> simp [eqb, eqbList_iff items]
  | .tuple items, b => by cases b <;> simp [eqb, eqbList_iff items]
  | .absent, b => by cases b <;> simp [eqb]

/-- The test decides equality of sequences of values. -/
theorem eqbList_iff : ∀ as bs : List Value, eqbList as bs = true ↔ as = bs
  | [], bs => by cases bs <;> simp [eqbList]
  | a :: as, bs => by cases bs <;> simp [eqbList, eqb_iff a, eqbList_iff as]

end

instance : DecidableEq Value := fun a b =>
  decidable_of_iff (eqb a b = true) (eqb_iff a b)

mutual

/-- Whether a value can be a member of a pattern set: lists cannot, however deeply they lie. -/
def isKey : Value → Bool
  | .span _ _ context => context.isKey
  | .list _ => false
  | .tuple items => areKeys items
  | .null | .bool _ | .int _ | .str _ | .token _ _ | .label _ | .absent => true

/-- Whether all values of a sequence can be members of a pattern set. -/
def areKeys : List Value → Bool
  | [] => true
  | item :: items => item.isKey && areKeys items

end

/-- Whether a value counts as something: null, false, zero and whatever is empty do not. -/
def isTruthy : Value → Bool
  | .null => false
  | .bool b => b
  | .int n => n ≠ 0
  | .str s => s ≠ ""
  | .span start stop _ => start ≠ stop
  | .list items | .tuple items => !items.isEmpty
  | .token _ _ | .label _ | .absent => true

/-- The characters of a text, each as a text of its own. -/
def characters (s : String) : List Value :=
  s.toList.map fun c => .str (String.singleton c)

/-- The items of a value that is a sequence: a list, a tuple, or a text as its characters. -/
def items? : Value → Option (List Value)
  | .str s => some (characters s)
  | .list items | .tuple items => some items
  | .null | .bool _ | .int _ | .token _ _ | .label _ | .span _ _ _ | .absent => none

end Value
end Resync
