/-!
# Readers

A reader takes something from a text at an offset, or misses it there.  Where readers are put
together, the miss that got furthest is remembered, even of attempts that were given up and of those
before a success, and misses at one offset are put together.  When a text as a whole is refused,
this is the miss that says where and why.

What uses readers does not depend on how that is done.  It is given the ways to put readers together
(`Readers`); those that are defined here are one choice (`Readers.standard`).
-/

namespace Resync

/-- How many characters of a text are taken from an offset on, if any. -/
abbrev Matcher : Type := (text : List Char) → (offset : Nat) → Option Nat

/-- A matcher, and the text by which it is known. -/
structure Recognizer where
  text : String
  run : Matcher

/-- Where something was missing, and what was expected there. -/
structure Miss where
  offset : Nat
  expected : List String

/-- What comes of reading: a value and where it ends, if it was read; and the miss that got
furthest, of which there is one if nothing was read. -/
inductive Reading (α : Type) where
  | read (value : α) (stop : Nat) (furthest : Option Miss)
  | missed (furthest : Miss)

/-- The miss that got further than one before; at the same offset everything was expected that
either of them says. -/
def Miss.join (m : Miss) : Option Miss → Miss
  | none => m
  | some earlier =>
      if m.offset > earlier.offset then m
      else if m.offset = earlier.offset then ⟨m.offset, m.expected ++ earlier.expected⟩
      else earlier

/-- The miss that got further, of two that may not be there. -/
def Miss.further (earlier : Option Miss) : Option Miss → Option Miss
  | none => earlier
  | some m => some (m.join earlier)

/-- What comes of reading after an earlier miss. -/
def Reading.after {α : Type} (earlier : Option Miss) : Reading α → Reading α
  | read a stop furthest => read a stop (Miss.further earlier furthest)
  | missed furthest => missed (furthest.join earlier)

/-- Something to be read from a text at an offset. -/
def Reader (α : Type) : Type := (text : List Char) → (offset : Nat) → Reading α

/-- A piece of a text. -/
def Text.slice (text : List Char) (start count : Nat) : List Char := (text.drop start).take count

namespace Reader

variable {α β : Type}

/-- Read nothing. -/
protected def pure (a : α) : Reader α := fun _ i => .read a i none

/-- One reader after another. -/
protected def bind (x : Reader α) (f : α → Reader β) : Reader β := fun text i =>
  match x text i with
  | .read a stop furthest => (f a text stop).after furthest
  | .missed furthest => .missed furthest

instance : Monad Reader where
  pure := Reader.pure
  bind := Reader.bind

/-- Miss what is expected. -/
def miss (expected : String) : Reader α := fun _ i => .missed ⟨i, [expected]⟩

/-- The offset. -/
def offset : Reader Nat := fun _ i => .read i i none

/-- What a recognizer takes. -/
def taking (r : Recognizer) : Reader (List Char) := fun text i =>
  match r.run text i with
  | some count =>
      let value := Text.slice text i count
      .read value (i + value.length) none
  | none => miss r.text text i

/-- Read one thing or, if it is missed, another. -/
def orElse (x y : Reader α) : Reader α := fun text i =>
  match x text i with
  | .read a stop furthest => .read a stop furthest
  | .missed furthest => (y text i).after (some furthest)

/-- The first of several that is not missed. -/
def firstOf : List (Reader α) → Reader α
  | [] => miss "<empty alt>"
  | [x] => x
  | x :: y :: others => x.orElse (firstOf (y :: others))

/-- Read something unless it is missed. -/
def optional (x : Reader α) : Reader (Option α) := fun text i =>
  match x text i with
  | .read a stop furthest => .read (some a) stop furthest
  | .missed furthest => .read none i (some furthest)

/-- Read something until it is missed, but no more often than `most` times. -/
def upTo (x : Reader α) : (most : Nat) → Reader (List α)
  | 0 => return []
  | most + 1 => do
      match ← x.optional with
      | none => return []
      | some a => return a :: (← x.upTo most)

/-- Read something until it is missed.  What takes at least one character each time cannot be read
more often than there are characters. -/
def many (x : Reader α) : Reader (List α) := fun text i => x.upTo (text.length + 1) text i

/-- The end of the text. -/
def ended : Reader Unit := fun text i =>
  if text.length ≤ i then .read () i none else miss "EOF" text i

/-- Read something, and the end of the text behind it. -/
def whole (x : Reader α) : Reader α := do
  let a ← x
  ended
  return a

/-- Read a whole text, or say which miss got furthest. -/
def readAll (x : Reader α) (text : List Char) : Except Miss α :=
  match x.whole text 0 with
  | .read a _ _ => .ok a
  | .missed furthest => .error furthest

end Reader

/-- The ways in which readers are put together and run. -/
structure Readers where
  /-- Read nothing. -/
  pure : {α : Type} → α → Reader α
  /-- One reader after another. -/
  bind : {α β : Type} → Reader α → (α → Reader β) → Reader β
  /-- The offset. -/
  offset : Reader Nat
  /-- What a recognizer takes. -/
  taking : Recognizer → Reader (List Char)
  /-- The first of several that is not missed. -/
  firstOf : {α : Type} → List (Reader α) → Reader α
  /-- Read something unless it is missed. -/
  optional : {α : Type} → Reader α → Reader (Option α)
  /-- Read something until it is missed. -/
  many : {α : Type} → Reader α → Reader (List α)
  /-- Read a whole text, or say which miss got furthest. -/
  readAll : {α : Type} → Reader α → List Char → Except Miss α

/-- The ways to put readers together that are defined here. -/
def Readers.standard : Readers where
  pure := Reader.pure
  bind := Reader.bind
  offset := Reader.offset
  taking := Reader.taking
  firstOf := Reader.firstOf
  optional := Reader.optional
  many := Reader.many
  readAll := Reader.readAll

end Resync
