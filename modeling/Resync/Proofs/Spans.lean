import Resync.Proofs.Bounds
import Resync.Proofs.Ordered

/-!
# What a span covers

The span of what was consumed starts where the first token starts and ends where the last one ends.
It says exactly what was consumed if the spans of the source lie apart, each one ending before the
next starts: then it holds the spans of these tokens, and lies apart from all others.  Texts lie
apart, and so does what a lexer cuts.

Where nothing was consumed there is no first token.  The span is then the empty one in front of the
token that comes next, or of the end of the input.
-/

namespace Resync

/-- Whether the spans of a source lie apart: each token ends before the next one starts, and the
last one before the end of the input does. -/
def Source.Apart (src : Source) : Prop :=
  ∀ i, i < src.size → (src.sighting i).span.stop ≤ (src.sighting (i + 1)).span.start

/-- Whether a span is the one that belongs to the tokens from `start` on that lie before `stop`. -/
structure Source.Spanned (src : Source) (start stop : Nat) (span : Span) : Prop where
  context_eq : span.context = (src.sighting start).span.context
  start_eq : span.start = (src.sighting start).span.start
  stop_eq : start < stop → span.stop = (src.sighting (stop - 1)).span.stop
  stop_eq_start : stop ≤ start → span.stop = span.start

/-- The tokens from `start` on that lie before `stop`. -/
def Source.tokensBetween (src : Source) (start stop : Nat) : List Value :=
  ((src.rest start).take (stop - start)).map Prod.fst

/-- The piece of a text that a span covers. -/
def Span.cut (s : Span) (text : String) : String :=
  .ofList (Text.slice text.toList s.start.toNat s.length.toNat)

theorem Value.length_characters (text : String) :
    (Value.characters text).length = text.toList.length := List.length_map _

namespace Source

variable {src : Source} {start stop : Nat} {span : Span}

/-- Beyond the last token the end of the input is seen, however far one looks. -/
theorem sighting_span_of_size_le {i : Nat} (hi : src.size ≤ i) :
    (src.sighting i).span = src.eoi := by
  unfold sighting
  rw [Array.getElem?_eq_none hi]

section Apart

/-- Where neighbours lie apart, all tokens do. -/
theorem Apart.stop_le_start
    (h : src.Apart)
    {i j : Nat}
    (hi : i < src.size)
    (hij : i < j) :
    (src.sighting i).span.stop ≤ (src.sighting j).span.start := by
  induction hij with
  | refl => exact h i hi
  | @step j hij ih =>
      by_cases hj : j < src.size
      · calc (src.sighting i).span.stop
            ≤ (src.sighting j).span.start := ih
          _ ≤ (src.sighting j).span.stop := (src.sighting j).span.start_le_stop
          _ ≤ (src.sighting (j + 1)).span.start := h j hj
      · have hend : src.size ≤ j := Nat.le_of_not_lt hj
        rw [sighting_span_of_size_le hend] at ih
        rw [sighting_span_of_size_le (Nat.le_succ_of_le hend)]
        exact ih

theorem Apart.start_le_start
    (h : src.Apart)
    {i j : Nat}
    (hij : i ≤ j) :
    (src.sighting i).span.start ≤ (src.sighting j).span.start := by
  rcases Nat.lt_or_eq_of_le hij with hlt | rfl
  · by_cases hi : i < src.size
    · exact Int.le_trans (src.sighting i).span.start_le_stop (h.stop_le_start hi hlt)
    · have hend : src.size ≤ i := Nat.le_of_not_lt hi
      have hsame : (src.sighting i).span = (src.sighting j).span :=
        (sighting_span_of_size_le hend).trans (sighting_span_of_size_le (Nat.le_trans hend hij)).symm
      exact Int.le_of_eq (congrArg Span.start hsame)
  · exact Int.le_refl _

theorem Apart.ordered (h : src.Apart) : src.Ordered := fun _ j hij _ =>
  Int.le_trans (h.start_le_start hij) (src.sighting j).span.start_le_stop

/-- A source lies apart if its tokens do, and the end of the input comes behind the last of them. -/
theorem Apart.of_pairwise
    {tokens : List (Value × Span)}
    {eoi : Span}
    (h : tokens.Pairwise fun s t => s.2.stop ≤ t.2.start)
    (hlast : ∀ last ∈ tokens.getLast?, last.2.stop ≤ eoi.start) :
    Apart ⟨tokens.toArray, eoi⟩ := by
  intro i hi
  have hi' : i < tokens.length := hi
  unfold sighting
  by_cases hnext : i + 1 < tokens.length
  · simpa [hi', hnext] using List.pairwise_iff_getElem.1 h i (i + 1) hi' hnext (Nat.lt_succ_self i)
  · have hgetLast : tokens.getLast? = some tokens[i] := by
      rw [List.getLast?_eq_getElem?, List.getElem?_eq_getElem (by omega)]
      simp only [show tokens.length - 1 = i by omega]
    simpa [hi', hnext] using hlast _ hgetLast

end Apart

section Spanned

/-- Whatever span is built is that of the tokens in question. -/
theorem spanned_of_spanBetween (h : src.spanBetween start stop = .ok span) :
    src.Spanned start stop span := by
  unfold spanBetween at h
  by_cases hempty : stop ≤ start
  · rw [if_pos hempty] at h
    cases h
    exact ⟨rfl, rfl, fun hlt => absurd hempty (Nat.not_le.2 hlt), fun _ => rfl⟩
  · rw [if_neg hempty] at h
    obtain ⟨hstart, hstop, hcontext⟩ := Span.between_eq_ok h
    exact ⟨hcontext, hstart, fun _ => hstop, fun hle => absurd hle hempty⟩

/-- Where nothing was consumed, the span is the empty one in front of what comes next. -/
theorem Spanned.eq_front (h : src.Spanned start stop span) (hempty : stop ≤ start) :
    span = (src.sighting start).span.front := by
  obtain ⟨hcontext, hstart, -, hstop⟩ := h
  have hstop := hstop hempty
  cases span with
  | mk first last context hle =>
      cases hcontext
      cases hstart
      cases hstop
      rfl

/-- In an ordered source a run can always be given the span of what it consumed. -/
theorem Ordered.exists_spanned (h : src.Ordered) (hahead : src.Ahead start stop) :
    ∃ span, src.spanBetween start stop = .ok span ∧ src.Spanned start stop span := by
  have hbuilt : ∃ span, src.spanBetween start stop = .ok span := by
    by_cases hempty : stop ≤ start
    · unfold spanBetween
      rw [if_pos hempty]
      exact ⟨_, rfl⟩
    · have hstop := hahead.2
      exact h.exists_spanBetween start (by omega)
  obtain ⟨span, hspan⟩ := hbuilt
  exact ⟨span, hspan, spanned_of_spanBetween hspan⟩

/-- Where spans lie apart, that of some tokens holds the spans of these, and lies behind the tokens
before them and before those behind them. -/
theorem Apart.encloses
    (h : src.Apart)
    (hspan : src.Spanned start stop span)
    (hback : start ≤ stop)
    {i : Nat}
    (hi : i < src.size) :
    (i < start → (src.sighting i).span.stop ≤ span.start) ∧
      (start ≤ i → i < stop →
        span.start ≤ (src.sighting i).span.start ∧ (src.sighting i).span.stop ≤ span.stop) ∧
      (stop ≤ i → span.stop ≤ (src.sighting i).span.start) := by
  refine ⟨fun hlt => ?_, fun hstart hlt => ⟨?_, ?_⟩, fun hle => ?_⟩
  · rw [hspan.start_eq]
    exact h.stop_le_start hi hlt
  · rw [hspan.start_eq]
    exact h.start_le_start hstart
  · rw [hspan.stop_eq (by omega)]
    rcases Nat.lt_or_eq_of_le (Nat.le_sub_one_of_lt hlt) with hbefore | rfl
    · exact Int.le_trans (h.stop_le_start hi hbefore) (src.sighting (stop - 1)).span.start_le_stop
    · exact Int.le_refl _
  · rcases Nat.lt_or_eq_of_le hback with hlt | rfl
    · rw [hspan.stop_eq hlt]
      exact h.stop_le_start (by omega) (by omega)
    · rw [hspan.stop_eq_start (Nat.le_refl _), hspan.start_eq]
      exact h.start_le_start hle

end Spanned

section Indexed

variable {tokens : List Value} {context : Value} {text : String}

/-- A text has as many tokens as characters. -/
theorem size_ofText : (ofText text context).size = text.toList.length := by
  simp [size, ofText, ofTokens, Value.characters]

/-- Where spans are indices, the span at an index starts there, and that of a token has length
one. -/
theorem sighting_span_ofTokens (context : Value) {i : Nat} (hi : i ≤ tokens.length) :
    ((ofTokens tokens context).sighting i).span =
      if i < tokens.length then Span.single i context else Span.emptyAt i context := by
  unfold sighting ofTokens
  split_ifs with hlt
  · simp [hlt]
  · obtain rfl : i = tokens.length := by omega
    simp

theorem ofTokens_apart (tokens : List Value) (context : Value) :
    (ofTokens tokens context).Apart := by
  intro i hi
  have hi' : i < tokens.length := by simpa [size, ofTokens] using hi
  rw [sighting_span_ofTokens context (by omega), sighting_span_ofTokens context (by omega),
    if_pos hi']
  split_ifs
  · exact Int.le_refl _
  · exact Int.le_refl _

/-- Where spans are indices, the span of some tokens says from which to which they lie. -/
theorem Spanned.eq_of_ofTokens
    (h : (ofTokens tokens context).Spanned start stop span)
    (hback : start ≤ stop)
    (hstop : stop ≤ tokens.length) :
    span.context = context ∧ span.start = start ∧ span.stop = stop := by
  have hstart := sighting_span_ofTokens context (Nat.le_trans hback hstop)
  have hcontext_eq : span.context = context := by
    rw [h.context_eq, hstart]
    split_ifs <;> rfl
  have hstart_eq : span.start = start := by
    rw [h.start_eq, hstart]
    split_ifs <;> rfl
  refine ⟨hcontext_eq, hstart_eq, ?_⟩
  rcases Nat.lt_or_eq_of_le hback with hlt | rfl
  · rw [h.stop_eq hlt, sighting_span_ofTokens context (by omega), if_pos (by omega)]
    show ((stop - 1 : Nat) : Int) + 1 = stop
    omega
  · rw [h.stop_eq_start (Nat.le_refl _), hstart_eq]

/-- The tokens between two places of a text are the characters of the piece between them. -/
theorem characters_cut
    (hstart : span.start = start)
    (hstop : span.stop = stop) :
    Value.characters (span.cut text) = (ofText text context).tokensBetween start stop := by
  have hlength : span.length.toNat = stop - start := by
    unfold Span.length
    omega
  have htokens : (ofText text context).tokens.toList.map Prod.fst = Value.characters text :=
    List.ext_getElem (by simp [ofText, ofTokens]) fun i _ _ => by simp [ofText, ofTokens]
  unfold tokensBetween rest Span.cut
  rw [List.map_take, List.map_drop, htokens, hlength, hstart]
  simp [Value.characters, Text.slice]

end Indexed
end Source

namespace Lexer

/-- What a lexer cuts lies apart, if the end of the input is not given, or is behind it. -/
theorem ofLexed_apart
    {lexer : Lexer}
    {text : String}
    {context : Value}
    {tokens : List (Value × Span)}
    {eoi : Option Span}
    (h : lexer.tokenize text context = .ok tokens)
    (heoi : ∀ span ∈ eoi, ∀ last ∈ tokens.getLast?, last.2.stop ≤ span.start) :
    (Source.ofLexed tokens eoi).Apart := by
  refine .of_pairwise (tokenize_sorted h) fun last hlast => ?_
  cases eoi with
  | some span => exact heoi span rfl last hlast
  | none =>
      rw [Option.mem_def] at hlast
      rw [hlast]
      exact Int.le_refl _

end Lexer

section Handing

variable {src : Source} {cur cur' last : Cursor} {span : Span} {p : Parser}
variable {recovered : List Located} {output : Value} {alt : Option Located}

/-- The span since a place is there to be reported if it can be built, and nothing is consumed. -/
theorem Scan.spanSince_of_spanBetween
    {start : Nat}
    (h : src.spanBetween start cur.offset = .ok span) :
    ∃ last, spanSince start src cur = .done span last ∧
      last.offset = cur.offset ∧ last.trail = cur.trail := by
  rw [spanSince_apply, h]
  refine ⟨_, rfl, ?_, ?_⟩
  · split <;> rfl
  · split <;> rfl

/-- The function that maps a success is given its output and the span of what was consumed. -/
theorem Parser.mapWithSpan_of_success
    (hp : p src cur = .done (.success recovered output alt) cur')
    (hspan : Scan.spanSince cur.offset src cur' = .done span last)
    (f : Value → Span → Except Fault Value) :
    mapWithSpan f p src cur =
      match f output span with
      | .ok output' => .done (.success recovered output' alt) last
      | .error fault => .halted (.fault fault) last := by
  unfold mapWithSpan
  simp only [Scan.bind_apply, Scan.save_apply, hp, hspan]
  cases f output span with
  | ok output' => rfl
  | error fault => rfl

/-- The function that judges a success is given its output and the span of what was consumed. -/
theorem Parser.tryMap_of_success
    (hp : p src cur = .done (.success recovered output alt) cur')
    (hspan : Scan.spanSince cur.offset src cur' = .done span last)
    (f : Value → Span → Except Fault Verdict) :
    tryMap f p src cur =
      match f output span with
      | .ok (.accept output') => .done (.success recovered output' alt) last
      | .ok (.reject error) => .done (.failure recovered ⟨cur.offset, error⟩) last
      | .error fault => .halted (.fault fault) last := by
  unfold tryMap
  simp only [Scan.bind_apply, Scan.save_apply, hp, hspan]
  cases f output span with
  | error fault => rfl
  | ok verdict =>
      cases verdict with
      | accept output' => rfl
      | reject error => rfl

/-- A failure is not judged. -/
theorem Parser.tryMap_of_failure
    {error : Located}
    (hp : p src cur = .done (.failure recovered error) cur')
    (f : Value → Span → Except Fault Verdict) :
    tryMap f p src cur = .done (.failure recovered error) cur' := by
  unfold tryMap
  simp only [Scan.bind_apply, Scan.save_apply, hp, Scan.pure_apply]

end Handing

namespace Environment

variable (env : Environment) (g : Grammar)

/-- After a run over an ordered source, the span of what it consumed is there. -/
theorem exists_spanSince
    {src : Source}
    {cur cur' : Cursor}
    {r : Result}
    (hordered : src.Ordered)
    (hrun : env.parser g src cur = .done r cur') :
    ∃ span last, Scan.spanSince cur.offset src cur' = .done span last ∧
      src.Spanned cur.offset cur'.offset span ∧
      last.offset = cur'.offset ∧ last.trail = cur'.trail := by
  have hahead : src.Ahead cur.offset cur'.offset := env.forward _ g src cur r cur' hrun
  obtain ⟨span, hbetween, hspan⟩ := hordered.exists_spanned hahead
  obtain ⟨last, hsince, hoffset, htrail⟩ := Scan.spanSince_of_spanBetween hbetween
  exact ⟨span, last, hsince, hspan, hoffset, htrail⟩

/-- **A span covers what was consumed.**

* Let a grammar succeed over a text, from a place that is not beyond its end.  Then the functions
  that ask for a span are given one that has the context of the source, starts where the run started
  and ends where it ended.  The piece of the text that it covers is made of the tokens that were
  consumed.  What the functions answer is the answer of the run.
* Let a grammar run over any source whose spans lie apart, and return.  Then the span of what was
  consumed is there.  If anything was, it reaches from the start of the first token to the end of
  the last one; if nothing was, it is the empty span in front of what comes next.  The tokens that
  were consumed lie within it, those before lie in front of it, and those that are left behind it.
* Texts, and other sources whose spans are indices, lie apart.  So does what a lexer cuts, unless
  it is given an end of the input that is not behind the last token. -/
theorem spans_cover_consumed :
    (∀ text context cur recovered output alt cur',
      cur.offset ≤ text.toList.length →
      env.parser g (.ofText text context) cur = .done (.success recovered output alt) cur' →
      ∃ (span : Span) (last : Cursor),
        span.context = context ∧ span.start = cur.offset ∧ span.stop = cur'.offset ∧
        Value.characters (span.cut text) =
          (Source.ofText text context).tokensBetween cur.offset cur'.offset ∧
        last.offset = cur'.offset ∧
        (∀ f, env.parser (.mapWithSpan f g) (.ofText text context) cur =
          match f output span with
          | .ok output' => .done (.success recovered output' alt) last
          | .error fault => .halted (.fault fault) last) ∧
        ∀ f, env.parser (.tryMap f g) (.ofText text context) cur =
          match f output span with
          | .ok (.accept output') => .done (.success recovered output' alt) last
          | .ok (.reject error) => .done (.failure recovered ⟨cur.offset, error⟩) last
          | .error fault => .halted (.fault fault) last) ∧
    (∀ src cur r cur',
      src.Apart →
      env.parser g src cur = .done r cur' →
      ∃ span last,
        Scan.spanSince cur.offset src cur' = .done span last ∧ last.offset = cur'.offset ∧
        (cur.offset < cur'.offset →
          span.context = (src.sighting cur.offset).span.context ∧
          span.start = (src.sighting cur.offset).span.start ∧
          span.stop = (src.sighting (cur'.offset - 1)).span.stop) ∧
        (¬ cur.offset < cur'.offset →
          cur'.offset = cur.offset ∧ span = (src.sighting cur.offset).span.front) ∧
        ∀ i, i < src.size →
          (i < cur.offset → (src.sighting i).span.stop ≤ span.start) ∧
          (cur.offset ≤ i → i < cur'.offset →
            span.start ≤ (src.sighting i).span.start ∧ (src.sighting i).span.stop ≤ span.stop) ∧
          (cur'.offset ≤ i → span.stop ≤ (src.sighting i).span.start)) ∧
    (∀ tokens context, (Source.ofTokens tokens context).Apart) ∧
    ∀ (lexer : Lexer) text context tokens (eoi : Option Span),
      lexer.tokenize text context = .ok tokens →
      (∀ span ∈ eoi, ∀ last ∈ tokens.getLast?, last.2.stop ≤ span.start) →
      (Source.ofLexed tokens eoi).Apart := by
  refine ⟨?_, ?_, Source.ofTokens_apart, fun _ _ _ _ _ => Lexer.ofLexed_apart⟩
  · intro text context cur recovered output alt cur' hcur hrun
    obtain ⟨hback, hbeyond⟩ : (Source.ofText text context).Ahead cur.offset cur'.offset :=
      env.forward _ g _ cur _ cur' hrun
    rw [Source.size_ofText, Nat.max_eq_right hcur, ← Value.length_characters] at hbeyond
    obtain ⟨span, last, hsince, hspan, hoffset, -⟩ :=
      env.exists_spanSince g (Source.ofTokens_ordered _ _) hrun
    obtain ⟨hcontext, hstart, hstop⟩ := hspan.eq_of_ofTokens hback hbeyond
    exact ⟨span, last, hcontext, hstart, hstop, Source.characters_cut hstart hstop, hoffset,
      Parser.mapWithSpan_of_success hrun hsince, Parser.tryMap_of_success hrun hsince⟩
  · intro src cur r cur' hapart hrun
    have hback : cur.offset ≤ cur'.offset := (env.forward _ g src cur r cur' hrun).1
    obtain ⟨span, last, hsince, hspan, hoffset, -⟩ := env.exists_spanSince g hapart.ordered hrun
    refine ⟨span, last, hsince, hoffset, fun hlt => ?_, fun hnot => ?_, fun i hi => ?_⟩
    · exact ⟨hspan.context_eq, hspan.start_eq, hspan.stop_eq hlt⟩
    · exact ⟨by omega, hspan.eq_front (by omega)⟩
    · exact hapart.encloses hspan hback hi

/-- Two letters are consumed from within a text, and two that have a gap between them. -/
theorem spans_cover_consumed_of_letters :
    let g : Grammar := (Grammar.just .simple (.str "a")).repeated 0 none
    let src : Source :=
      ⟨#[(.str "a", ⟨0, 2, .null, by decide⟩), (.str "a", ⟨5, 6, .null, by decide⟩),
        (.str "b", ⟨6, 7, .null, by decide⟩)], .emptyAt 9 .null⟩
    (∃ alt last, parser {} (.mapWithSpan (fun _ span => .ok span.toValue) g)
        (.ofText "baac" (.str "file")) ⟨1, 0, []⟩ =
          .done (.success [] (.span 1 3 (.str "file")) alt) last ∧ last.offset = 3) ∧
      src.Apart ∧
      (∃ r cur' span last, parser {} g src {} = .done r cur' ∧
        Scan.spanSince 0 src cur' = .done span last ∧ span.start = 0 ∧ span.stop = 6) ∧
      ∃ r cur' last, parser {} g src ⟨2, 0, []⟩ = .done r cur' ∧
        Scan.spanSince 2 src cur' = .done (.emptyAt 6 .null) last := by
  intro g src
  obtain ⟨htext, hsource, -⟩ := spans_cover_consumed {} g
  have hapart : src.Apart := .of_pairwise (by simp) (by simp [Span.emptyAt])
  refine ⟨?_, hapart, ?_, ?_⟩
  · obtain ⟨alt, cur', hrun, hcur'⟩ :
        ∃ alt cur', parser {} g (.ofText "baac" (.str "file")) ⟨1, 0, []⟩ =
          .done (.success [] (.list [.str "a", .str "a"]) alt) cur' ∧ cur'.offset = 3 :=
      ⟨_, _, rfl, rfl⟩
    obtain ⟨span, last, hcontext, hstart, hstop, -, hlast, hmap, -⟩ :=
      htext "baac" (.str "file") ⟨1, 0, []⟩ _ _ _ _ (by decide) hrun
    rw [hcur'] at hstop hlast
    refine ⟨alt, last, ?_, hlast⟩
    simp [hmap, Span.toValue, hcontext, hstart, hstop]
  · obtain ⟨span, last, hsince, -, hreached, -⟩ := hsource src {} _ _ hapart rfl
    obtain ⟨-, hstart, hstop⟩ := hreached (by decide)
    exact ⟨_, _, span, last, rfl, hsince, hstart, hstop⟩
  · obtain ⟨span, last, hsince, -, -, hempty, -⟩ := hsource src ⟨2, 0, []⟩ _ _ hapart rfl
    obtain ⟨-, rfl⟩ := hempty (by decide)
    exact ⟨_, _, last, rfl, hsince⟩

end Environment

end Resync
