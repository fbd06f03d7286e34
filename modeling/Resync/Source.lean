import Resync.Span

/-!
# Token sources

A source is a finite sequence of tokens, each with its span, and the span that is reported for the
end of the input.  A null token marks an end of the input as well: it is reported with its own
span, and nothing after it is ever reached.
-/

namespace Resync

/-- The tokens of an input, with their spans. -/
structure Source where
  tokens : Array (Value × Span)
  /-- The span of the end of the input. -/
  eoi : Span

/-- What is seen at one position of a source: the span there, and the token, which is null at the
end of the input. -/
structure Sighting where
  position : Nat
  span : Span
  token : Value

namespace Source

/-- A source whose spans are the indices of its tokens. -/
def ofTokens (tokens : List Value) (context : Value) : Source where
  tokens := tokens.toArray.mapIdx fun i token => (token, Span.single i context)
  eoi := Span.emptyAt tokens.length context

/-- The characters of a text, each as a token. -/
def ofText (text : String) (context : Value) : Source :=
  ofTokens (Value.characters text) context

/-- The number of tokens. -/
def size (src : Source) : Nat := src.tokens.size

/-- What is at a position; beyond the last token that is the end of the input. -/
def sighting (src : Source) (i : Nat) : Sighting :=
  match src.tokens[i]? with
  | some (token, span) => ⟨i, span, token⟩
  | none => ⟨i, src.eoi, .null⟩

/-- The tokens from a position on. -/
def rest (src : Source) (i : Nat) : List (Value × Span) := src.tokens.toList.drop i

end Source
end Resync
