import Resync.Event
import Resync.Result
import Resync.Source

/-!
# Scans

A scan is a computation over a source.  It moves a cursor, and the cursor remembers how many
tokens have been buffered so far and what has been reported.  A scan ends with a value, or it is
halted by a fault, or because a bound on its steps was reached; the cursor is known in either case.

The buffer is always the part of the source before the greatest position looked at, so only its
length is kept.
-/

namespace Resync

/-- The state of a scan. -/
structure Cursor where
  /-- The index of the next token. -/
  offset : Nat := 0
  /-- How many tokens have been taken from the source. -/
  buffered : Nat := 0
  /-- What has been reported, the latest first. -/
  trail : List Event := []

/-- What has been reported, in order. -/
def Cursor.events (cur : Cursor) : List Event := cur.trail.reverse

/-- Why a scan ended without a value. -/
inductive Halt where
  | fault (f : Fault)
  /-- The bound on the number of steps was reached. -/
  | exhausted

/-- How a scan ends. -/
inductive Outcome (α : Type) where
  | done (value : α) (cursor : Cursor)
  | halted (cause : Halt) (cursor : Cursor)

/-- Whether a scan ended with a value. -/
def Outcome.isDone {α : Type} : Outcome α → Bool
  | done _ _ => true
  | halted _ _ => false

/-- Where a scan ended. -/
def Outcome.cursor {α : Type} : Outcome α → Cursor
  | done _ cur => cur
  | halted _ cur => cur

/-- A computation over a source. -/
def Scan (α : Type) : Type := Source → Cursor → Outcome α

/-- A parser is a scan with a result. -/
abbrev Parser : Type := Scan Result

namespace Scan

variable {α β : Type}

/-- The scan that does nothing but answer. -/
protected def pure (a : α) : Scan α := fun _ cur => .done a cur

/-- One scan after another. -/
protected def bind (x : Scan α) (f : α → Scan β) : Scan β := fun src cur =>
  match x src cur with
  | .done a cur' => f a src cur'
  | .halted cause cur' => .halted cause cur'

instance : Monad Scan where
  pure := Scan.pure
  bind := Scan.bind

@[simp] theorem pure_apply (a : α) (src : Source) (cur : Cursor) :
    (pure a : Scan α) src cur = .done a cur := rfl

@[simp] theorem bind_apply
    (x : Scan α)
    (f : α → Scan β)
    (src : Source)
    (cur : Cursor) :
    (x >>= f) src cur =
      match x src cur with
      | .done a cur' => f a src cur'
      | .halted cause cur' => .halted cause cur' := rfl

@[simp] theorem map_apply
    (f : α → β)
    (x : Scan α)
    (src : Source)
    (cur : Cursor) :
    (f <$> x) src cur =
      match x src cur with
      | .done a cur' => .done (f a) cur'
      | .halted cause cur' => .halted cause cur' := rfl

/-- A step that was halted halts what comes after it, so sequencing is associative. -/
instance : LawfulMonad Scan :=
  LawfulMonad.mk' Scan
    (fun x => by
      funext src cur
      simp only [map_apply, id_eq]
      cases x src cur <;> rfl)
    (fun _ _ => rfl)
    (fun x f g => by
      funext src cur
      simp only [bind_apply]
      cases x src cur <;> rfl)

/-- Give up. -/
def halt (cause : Halt) : Scan α := fun _ cur => .halted cause cur

/-- Answer what was computed without the source, or give up with its fault. -/
def ofExcept : Except Fault α → Scan α
  | .ok a => pure a
  | .error f => halt (.fault f)

@[simp] theorem ofExcept_ok (a : α) : ofExcept (.ok a) = (pure a : Scan α) := rfl

@[simp] theorem ofExcept_error (f : Fault) : ofExcept (.error f) = (halt (.fault f) : Scan α) := rfl

/-- The source. -/
def source : Scan Source := fun src cur => .done src cur

/-- The offset of the cursor. -/
def save : Scan Nat := fun _ cur => .done cur.offset cur

/-- Move the cursor, forward or back. -/
def revert (offset : Nat) : Scan Unit := fun _ cur => .done () { cur with offset := offset }

/-- Report an event. -/
def report (e : Event) : Scan Unit := fun _ cur =>
  .done () { cur with trail := e :: cur.trail }

/-- What is at position `i`; the tokens up to there are buffered. -/
def lookAt (i : Nat) : Scan Sighting := fun src cur =>
  .done (src.sighting i) { cur with buffered := max cur.buffered (min src.size (i + 1)) }

/-- What is at the cursor. -/
def peek : Scan Sighting := do
  let offset ← save
  lookAt offset

/-- Take the token at the cursor.  The cursor does not move past the end of the input. -/
def next : Scan Sighting := do
  let seen ← peek
  if seen.token ≠ .null then
    revert (seen.position + 1)
  return seen

/-- Whether the cursor is at the end of the input. -/
def atEnd : Scan Bool := do
  let seen ← peek
  return seen.token = .null

/-- The span of everything that was consumed since position `start`: from the start of the token
there to the end of the last token before the cursor, or the empty span in front of it. -/
def spanSince (start : Nat) : Scan Span := do
  let first ← lookAt start
  let offset ← save
  if offset ≤ start then
    return first.span.front
  else
    let last ← lookAt (offset - 1)
    ofExcept (first.span.through last.span)

/-- Run a probe, which says whether to keep what it consumed. -/
def attempt (probe : Scan (Bool × α)) : Scan α := do
  let before ← save
  let (commit, a) ← probe
  if !commit then
    revert before
  return a

/-- Run a parser; if it fails, the cursor is moved back to where it started. -/
def tryParse (p : Parser) : Parser := do
  let before ← save
  let result ← p
  if !result.isSuccess then
    revert before
  return result

/-- The literal of the cursor. -/
def written : Scan String := fun _ cur =>
  .done ("Stream(offset=" ++ toString cur.offset ++ ", buffered=" ++ toString cur.buffered ++ ")")
    cur

/-- The diagnostic that got further, of two that may be missing. -/
def mergeAlts (a b : Option Located) : Scan (Option Located) := ofExcept (Located.mergeAlts a b)

end Scan

namespace Parser

/-- The output of a parser, and all its diagnostics. -/
def recovering (p : Parser) : Scan (Value × List Diagnostic) := do
  let result ← p
  return (result.output, result.diagnostics)

/-- The output of a parser that has no diagnostics; any diagnostics it has stand in the way. -/
def strict (p : Parser) : Scan (Except (List Diagnostic) Value) := do
  let (output, diagnostics) ← p.recovering
  if diagnostics.isEmpty then
    return .ok output
  else
    Scan.report (.rejected diagnostics.length)
    return .error diagnostics

end Parser
end Resync
