import Resync.Log.Layout
import Resync.Log.Subject

/-!
# Message templates

A template is a text with fields in braces.  A field is filled with a positional argument, the next
one in turn or the one of a given number, or with a named one; what stands behind that takes items
and members of it, a conversion after an exclamation mark asks for its literal, and a layout follows
a colon.  Double braces stand for single ones.  A layout may hold fields itself, which are filled
first; those of their layouts are not.

A template that is not well formed, that counts its fields in both ways, or that asks for an
argument it is not given, has no text.
-/

namespace Resync
namespace Log

section Parts

/-- What a field is filled with. -/
inductive FieldName where
  | next
  | position (i : Nat)
  | key (name : String)
deriving DecidableEq

/-- A step from a subject to a part of it. -/
inductive Selector where
  | item (i : Nat)
  | member (name : String)
deriving DecidableEq

/-- How the filling is written before it is laid out. -/
inductive Conversion where
  | plain
  | literal
  /-- The literal in ASCII. -/
  | ascii
deriving DecidableEq

/-- A field of a template; its layout is the text that is read once its own fields are filled. -/
structure Field where
  name : FieldName
  path : List Selector
  conversion : Option Conversion
  layout : List Char
deriving DecidableEq

/-- A piece of a template. -/
inductive Piece where
  | text (c : Char)
  | field (f : Field)
deriving DecidableEq

end Parts

section Reading

/-- The number that a row of digits stands for, and nothing else. -/
def numberOf (digits : List Char) : Option Nat :=
  match Text.leadingNumber digits with
  | (some n, []) => if n > Layout.maxPrecision then none else some n
  | _ => none

/-- Whether a character begins a step to a part. -/
def beginsStep (c : Char) : Bool := c = '.' || c = '['

/-- The steps after the name of a field, up to the given number of them.  An item is given by its
number, because no subject has named ones. -/
def path : (bound : Nat) → List Char → Option (List Selector)
  | _, [] => some []
  | 0, _ => none
  | bound + 1, '.' :: s => do
      let name := s.takeWhile fun c => !beginsStep c
      if name.isEmpty then none
      let steps ← path bound (s.drop name.length)
      some (.member (String.ofList name) :: steps)
  | bound + 1, '[' :: s => do
      let digits := s.takeWhile (· ≠ ']')
      let i ← numberOf digits
      match s.drop digits.length with
      | ']' :: rest => do
          let steps ← path bound rest
          some (.item i :: steps)
      | _ => none
  | _, _ => none

/-- The name of a field: none, a number, or any other text. -/
def fieldName (s : List Char) : Option FieldName :=
  if s.isEmpty then some .next
  else if s.all Text.isDecimalDigit then FieldName.position <$> numberOf s
  else some (.key (String.ofList s))

/-- The conversion that a letter stands for. -/
def Conversion.ofLetter : Char → Option Conversion
  | 's' => some .plain
  | 'r' => some .literal
  | 'a' => some .ascii
  | _ => none

/-- The conversion of a field and the layout behind it. -/
def ending : List Char → Option (Option Conversion × List Char)
  | [] => some (none, [])
  | ':' :: layout => some (none, layout)
  | '!' :: c :: rest => do
      let conversion ← Conversion.ofLetter c
      match rest with
      | [] => some (some conversion, [])
      | ':' :: layout => some (some conversion, layout)
      | _ => none
  | _ => none

/-- A field cut where its conversion or its layout begins; brackets hide what is in them. -/
def cutName : (inBrackets : Bool) → List Char → List Char × List Char
  | _, [] => ([], [])
  | true, c :: s =>
      let (name, rest) := cutName (c ≠ ']') s
      (c :: name, rest)
  | false, c :: s =>
      if c = '!' ∨ c = ':' then ([], c :: s)
      else
        let (name, rest) := cutName (c = '[') s
        (c :: name, rest)

/-- A field, as it is written between its braces. -/
def readField (s : List Char) : Option Field := do
  let (written, rest) := cutName false s
  let root := written.takeWhile fun c => !beginsStep c
  let name ← fieldName root
  let steps ← path written.length (written.drop root.length)
  let (conversion, layout) ← ending rest
  some ⟨name, steps, conversion, layout⟩

/-- Where a reader of a template stands. -/
inductive Place where
  /-- Outside of fields. -/
  | text
  /-- In the name of a field. -/
  | name (inBrackets : Bool)
  /-- In the layout of a field, within the given number of further braces. -/
  | layout (depth : Nat)

/-- The pieces of a template.  `inside` is what was read of an open field, the latest character
first. -/
def piecesFrom : Place → (inside : List Char) → List Char → Option (List Piece)
  | .text, _, [] => some []
  | .text, _, '\x7b' :: '\x7b' :: rest => (piecesFrom .text [] rest).map (.text '\x7b' :: ·)
  | .text, _, '\x7d' :: '\x7d' :: rest => (piecesFrom .text [] rest).map (.text '\x7d' :: ·)
  | .text, _, '\x7b' :: rest => piecesFrom (.name false) [] rest
  | .text, _, '\x7d' :: _ => none
  | .text, _, c :: rest => (piecesFrom .text [] rest).map (.text c :: ·)
  | .name _, _, [] => none
  | .name true, inside, c :: rest => piecesFrom (.name (c ≠ ']')) (c :: inside) rest
  | .name false, _, '\x7b' :: _ => none
  | .name false, inside, '\x7d' :: rest => do
      let f ← readField inside.reverse
      let pieces ← piecesFrom .text [] rest
      some (.field f :: pieces)
  | .name false, inside, c :: rest =>
      if c = '!' ∨ c = ':' then piecesFrom (.layout 0) (c :: inside) rest
      else piecesFrom (.name (c = '[')) (c :: inside) rest
  | .layout _, _, [] => none
  | .layout depth, inside, '\x7b' :: rest =>
      piecesFrom (.layout (depth + 1)) ('\x7b' :: inside) rest
  | .layout 0, inside, '\x7d' :: rest => do
      let f ← readField inside.reverse
      let pieces ← piecesFrom .text [] rest
      some (.field f :: pieces)
  | .layout (depth + 1), inside, '\x7d' :: rest =>
      piecesFrom (.layout depth) ('\x7d' :: inside) rest
  | .layout depth, inside, c :: rest => piecesFrom (.layout depth) (c :: inside) rest

/-- The pieces of a template. -/
def pieces (template : List Char) : Option (List Piece) := piecesFrom .text [] template

end Reading

section Filling

/-- How a template counts its positional arguments: in turn, or by number, but not in both ways. -/
inductive Count where
  | undecided
  | inTurn (used : Nat)
  | byNumber

/-- The number of the next argument in turn. -/
def Count.next : Count → Option (Nat × Count)
  | undecided => some (0, inTurn 1)
  | inTurn used => some (used, inTurn (used + 1))
  | byNumber => none

/-- The count after an argument was asked for by number. -/
def Count.position : Count → Option Count
  | undecided | byNumber => some byNumber
  | inTurn _ => none

/-- What a template is filled with. -/
structure Arguments where
  positional : List Value
  named : List (String × Value)

/-- The argument that a name asks for. -/
def Arguments.find (args : Arguments) (count : Count) : FieldName → Option (Value × Count)
  | .next => do
      let (i, count') ← count.next
      let v ← args.positional[i]?
      some (v, count')
  | .position i => do
      let count' ← count.position
      let v ← args.positional[i]?
      some (v, count')
  | .key name => do
      let v ← args.named.lookup name
      some (v, count)

/-- A part of a subject. -/
def Selector.select : Selector → Subject → Option Subject
  | item i, subject => subject.item i
  | member name, subject => subject.member name

/-- A text in ASCII: all other characters are escaped. -/
def inAscii (s : String) : List Char :=
  s.toList.flatMap fun c => if c.toNat < 0x80 then [c] else Text.escapeCodePoint c.toNat

/-- A subject after a conversion, or as it is where there is none.  What is converted is a text. -/
def converted (subject : Subject) : Option Conversion → Subject
  | none => subject
  | some .plain => .value (.str subject.plain)
  | some .literal => .value (.str subject.written)
  | some .ascii => .value (.str (String.ofList (inAscii subject.written)))

/-- A subject in a layout.  Only texts and numbers take one that is not empty. -/
def laidOut (layout : List Char) (subject : Subject) : Option (List Char) :=
  if layout.isEmpty then some subject.plain.toList
  else do
    let l ← Layout.ofText layout
    match subject with
    | .value (.str s) => l.text s.toList
    | .value (.int n) => l.integer n
    | .value (.bool b) => l.integer (if b then 1 else 0)
    | _ => none

/-- The text of pieces.  `fillLayout` fills the fields of a layout. -/
def fill
    (args : Arguments)
    (fillLayout : Count → List Char → Option (List Char × Count)) :
    Count →
    List Piece →
    Option (List Char × Count)
  | count, [] => some ([], count)
  | count, .text c :: ps => do
      let (text, count') ← fill args fillLayout count ps
      some (c :: text, count')
  | count, .field f :: ps => do
      let (argument, count₁) ← args.find count f.name
      let subject ← f.path.foldlM (fun s step => step.select s) (Subject.value argument)
      let (layout, count₂) ← fillLayout count₁ f.layout
      let body ← laidOut layout (converted subject f.conversion)
      let (text, count₃) ← fill args fillLayout count₂ ps
      some (body ++ text, count₃)

/-- The text of a template in which fields lie within each other no deeper than `depth`. -/
def fillNested
    (args : Arguments) :
    (depth : Nat) →
    Count →
    List Char →
    Option (List Char × Count)
  | 0, _, _ => none
  | depth + 1, count, template => do
      let ps ← pieces template
      fill args (fun count' layout =>
        if '\x7b' ∈ layout then fillNested args depth count' layout else some (layout, count'))
        count ps

/-- The text of a template with its arguments. -/
def format
    (template : String)
    (args : List Value)
    (named : List (String × Value)) :
    Option String := do
  let (text, _) ← fillNested ⟨args, named⟩ 2 .undecided template.toList
  some (String.ofList text)

end Filling

end Log
end Resync
