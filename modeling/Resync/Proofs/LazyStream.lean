import Resync.Proofs.Bounds

/-!
# Lazy streams

A lazy stream takes its tokens from somewhere one at a time, and only once they are asked for.  What
was taken is kept in a buffer, so that the stream can be rewound.  A scan needs neither: it has the
whole source at hand, and counts how many tokens would have been taken.

Programs over the operations of a stream are run here on a lazy stream, as a scan, and on an eager
cursor that reads its answers off the source and only remembers what was requested and saved.  All
three give the same answers, however the program goes back and forth, beyond the end of the source
or into attempts within attempts.
-/

namespace Resync

/-- The operations of a stream, by what they answer. -/
inductive StreamOp : Type → Type where
  | peek : StreamOp Sighting
  | next : StreamOp Sighting
  | atEnd : StreamOp Bool
  | save : StreamOp Nat
  | revert (offset : Nat) : StreamOp Unit
  | spanSince (start : Nat) : StreamOp Span

/-- Programs over the operations of a stream.  What comes next may depend on all answers before. -/
inductive StreamProgram : Type → Type 1 where
  | answer {α : Type} (a : α) : StreamProgram α
  | perform {α β : Type} (op : StreamOp β) (resume : β → StreamProgram α) : StreamProgram α
  | attempt
      {α β : Type} (probe : StreamProgram (Bool × β)) (resume : β → StreamProgram α) :
      StreamProgram α
  | tryParse
      {α : Type} (parser : StreamProgram Result) (resume : Result → StreamProgram α) :
      StreamProgram α

/-- What a program is run on. -/
structure StreamImpl (m : Type → Type) where
  perform {β : Type} : StreamOp β → m β
  attempt {β : Type} : m (Bool × β) → m β
  tryParse : m Result → m Result

/-- The run of a program. -/
def StreamProgram.run
    {m : Type → Type}
    [Monad m]
    (impl : StreamImpl m)
    {α : Type} :
    StreamProgram α → m α
  | .answer a => pure a
  | .perform op resume => do
      let b ← impl.perform op
      (resume b).run impl
  | .attempt probe resume => do
      let b ← impl.attempt (probe.run impl)
      (resume b).run impl
  | .tryParse parser resume => do
      let r ← impl.tryParse (parser.run impl)
      (resume r).run impl

/-- The operations of a scan. -/
def Scan.impl : StreamImpl Scan where
  perform
    | .peek => Scan.peek
    | .next => Scan.next
    | .atEnd => Scan.atEnd
    | .save => Scan.save
    | .revert offset => Scan.revert offset
    | .spanSince start => Scan.spanSince start
  attempt := Scan.attempt
  tryParse := Scan.tryParse

/-- A stream that takes tokens as they are asked for. -/
structure LazyStream where
  /-- The tokens that were not taken yet. -/
  rest : List (Value × Span)
  /-- The tokens that were taken. -/
  buffer : List (Value × Span)
  /-- The index of the next token. -/
  offset : Nat
  /-- The span of the end of the input. -/
  eoi : Span

namespace LazyStream

/-- The stream of a source, before anything was asked for. -/
def ofSource (src : Source) : LazyStream := ⟨src.tokens.toList, [], 0, src.eoi⟩

/-- Take tokens until there is one at index `i`, or there are no more. -/
def takeUntil (i : Nat) :
    (rest buffer : List (Value × Span)) →
    List (Value × Span) × List (Value × Span)
  | [], buffer => ([], buffer)
  | entry :: rest, buffer =>
      if buffer.length ≤ i then takeUntil i rest (buffer ++ [entry]) else (entry :: rest, buffer)

/-- The token at index `i`, if there is one; the tokens up to there are taken. -/
def pull (i : Nat) : EStateM Fault LazyStream (Option (Value × Span)) := do
  let s ← get
  let (rest, buffer) := takeUntil i s.rest s.buffer
  set { s with rest := rest, buffer := buffer }
  return buffer[i]?

/-- The span at index `i`. -/
def spanAt (i : Nat) : EStateM Fault LazyStream Span := do
  match ← pull i with
  | some (_, span) => return span
  | none => return (← get).eoi

/-- What is at the cursor. -/
def peek : EStateM Fault LazyStream Sighting := do
  let i := (← get).offset
  match ← pull i with
  | some (token, span) => return ⟨i, span, token⟩
  | none => return ⟨i, (← get).eoi, .null⟩

/-- Move the cursor. -/
def revert (offset : Nat) : EStateM Fault LazyStream Unit :=
  modify fun s => { s with offset := offset }

/-- Take the token at the cursor. -/
def next : EStateM Fault LazyStream Sighting := do
  let seen ← peek
  if seen.token ≠ .null then
    revert ((← get).offset + 1)
  return seen

/-- The span of everything that was consumed since position `start`. -/
def spanSince (start : Nat) : EStateM Fault LazyStream Span := do
  let first ← spanAt start
  let offset := (← get).offset
  if offset ≤ start then
    return first.front
  else
    let last ← spanAt (offset - 1)
    match first.withRange first.start last.stop with
    | .ok span => return span
    | .error f => throw f

/-- The operations of a lazy stream. -/
def impl : StreamImpl (EStateM Fault LazyStream) where
  perform
    | .peek => peek
    | .next => next
    | .atEnd => do return (← peek).token = .null
    | .save => do return (← get).offset
    | .revert offset => revert offset
    | .spanSince start => spanSince start
  attempt probe := do
    let before := (← get).offset
    let (commit, b) ← probe
    if !commit then
      revert before
    return b
  tryParse parser := do
    let before := (← get).offset
    let r ← parser
    if !r.isSuccess then
      revert before
    return r

end LazyStream

/-- A cursor over a source that is at hand.  It keeps record of what was asked of it. -/
structure Tape where
  /-- The index of the next token. -/
  offset : Nat := 0
  /-- The indices that were requested. -/
  requested : List Nat := []
  /-- The offsets that were saved. -/
  saved : List Nat := []
  /-- Whether the cursor was ever moved to an offset that had not been saved. -/
  strayed : Bool := false

namespace Tape

variable (src : Source)

/-- One more than the greatest index that was requested, and zero if none was. -/
def reach (t : Tape) : Nat :=
  match t.requested.max? with
  | some i => i + 1
  | none => 0

/-- What the source has at index `i`. -/
def look (i : Nat) : EStateM Fault Tape Sighting := do
  modify fun t => { t with requested := i :: t.requested }
  return src.sighting i

/-- Put the cursor back to where it stood. -/
def restore (offset : Nat) : EStateM Fault Tape Unit := modify fun t => { t with offset := offset }

/-- The operations of an eager cursor. -/
def impl : StreamImpl (EStateM Fault Tape) where
  perform
    | .peek => do look src (← get).offset
    | .next => do
        let i := (← get).offset
        let seen ← look src i
        restore (src.after i)
        return seen
    | .atEnd => do return (← look src (← get).offset).token = .null
    | .save => do
        modify fun t => { t with saved := t.offset :: t.saved }
        return (← get).offset
    | .revert offset =>
        modify fun t =>
          { t with offset := offset, strayed := t.strayed || !t.saved.contains offset }
    | .spanSince start => do
        let _ ← look src start
        let offset := (← get).offset
        if start < offset then
          let _ ← look src (offset - 1)
        match src.spanBetween start offset with
        | .ok span => return span
        | .error f => throw f
  attempt probe := do
    let before := (← get).offset
    let (commit, b) ← probe
    if !commit then
      restore before
    return b
  tryParse parser := do
    let before := (← get).offset
    let r ← parser
    if !r.isSuccess then
      restore before
    return r

end Tape
end Resync
