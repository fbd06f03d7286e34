import Resync.Fault

/-!
# Spans

A span is a half-open range of offsets, with a context that usually names a file.  No span ends
before it starts: the constructor asks for a proof, and the operations that cannot give one end in
a fault.
-/

namespace Resync

/-- A half-open range of the input. -/
structure Span where
  /-- The first offset of the range. -/
  start : Int
  /-- The first offset after the range. -/
  stop : Int
  /-- What the offsets refer to; null when that goes without saying. -/
  context : Value := .null
  start_le_stop : start ≤ stop := by omega
deriving DecidableEq

namespace Span

/-- The span between two offsets, unless it would be backward. -/
def between (start stop : Int) (context : Value) : Except Fault Span :=
  if h : start ≤ stop then .ok ⟨start, stop, context, h⟩
  else .error (.backwardSpan start stop)

/-- The span of the token at index `i`, in a source without positions of its own. -/
def single (i : Nat) (context : Value) : Span :=
  ⟨i, i + 1, context, by omega⟩

/-- The empty span at an offset. -/
def emptyAt (offset : Int) (context : Value) : Span :=
  ⟨offset, offset, context, Int.le_refl offset⟩

/-- The empty span where `s` starts. -/
def front (s : Span) : Span := emptyAt s.start s.context

/-- The empty span where `s` ends. -/
def back (s : Span) : Span := emptyAt s.stop s.context

/-- Another range in the same context. -/
def withRange (s : Span) (start stop : Int) : Except Fault Span :=
  between start stop s.context

/-- The range from the start of `s` to the end of `t`, in the context of `s`. -/
def through (s t : Span) : Except Fault Span := s.withRange s.start t.stop

/-- The smallest range that holds both spans, in the context of the first. -/
def union (s t : Span) : Span where
  start := min s.start t.start
  stop := max s.stop t.stop
  context := s.context
  start_le_stop := by
    have hs := s.start_le_stop
    omega

/-- The number of offsets in the range. -/
def length (s : Span) : Int := s.stop - s.start

/-- Whether an offset lies in the range. -/
def contains (s : Span) (offset : Int) : Bool :=
  s.start ≤ offset && offset < s.stop

/-- A span as a value. -/
def toValue (s : Span) : Value := .span s.start s.stop s.context

/-- The literal of a span. -/
def written (s : Span) : String := s.toValue.written

/-- The two ends of a span. -/
def plain (s : Span) : String := s.toValue.plain

/-- Two spans are written as one value only if they are the same. -/
theorem toValue_inj {s t : Span} : s.toValue = t.toValue ↔ s = t := by
  cases s
  cases t
  simp [toValue]

/-- A span that can be built is the one between the given offsets. -/
theorem between_eq_ok
    {start stop : Int}
    {context : Value}
    {s : Span}
    (h : between start stop context = .ok s) :
    s.start = start ∧ s.stop = stop ∧ s.context = context := by
  unfold between at h
  split at h
  · cases h
    exact ⟨rfl, rfl, rfl⟩
  · cases h

end Span
end Resync
