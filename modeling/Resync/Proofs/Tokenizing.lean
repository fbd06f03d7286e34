import Resync.Lexer
import Resync.Proofs.Furthest
import Resync.Proofs.Readers

/-!
# Tokenizing is greedy scanning

A lexer is put together from readers: what is dropped, then as often as possible a token of the
first rule that matches and what is dropped behind it, then the end of the text.  It comes to the
same as a scan: at each position at most one match of the skip pattern is dropped, and the first
rule in order that matches gives the next token, until none matches.  If that is at the end of the
text, the tokens are answered, and otherwise the lexer fails at this offset.

The offset of a failure is that of the miss that got furthest.  The scan is what decides it because
every reader of a lexer, where it succeeds, ends no nearer than any miss that it met.
-/

namespace Resync

/-- A piece that does not go beyond the text has the length that was asked for. -/
theorem Text.length_slice
    {text : List Char}
    {i n : Nat}
    (h : i + n ≤ text.length) :
    (slice text i n).length = n := by
  rw [slice, List.length_take, List.length_drop]
  omega

/-- A piece, and what is behind it. -/
theorem Text.slice_append_drop (text : List Char) (i n : Nat) :
    slice text i n ++ text.drop (i + n) = text.drop i := by
  rw [slice, ← List.drop_drop]
  exact List.take_append_drop n (text.drop i)

/-- Whether a recognizer takes at least one character of a text wherever it takes any, and none
beyond the end. -/
def Recognizer.Advances (r : Recognizer) (text : List Char) : Prop :=
  ∀ i n, i ≤ text.length → r.run text i = some n → 0 < n ∧ i + n ≤ text.length

namespace Lexer

variable (lexer : Lexer) (text : List Char)

/-- Whether all patterns of a lexer take at least one character of a text wherever they take any,
and none beyond the end. -/
def Advances : Prop :=
  (∀ rule ∈ lexer.rules, rule.recognizer.Advances text) ∧ ∀ r ∈ lexer.skip, r.Advances text

/-- Where the next token has to start, after one match of the skip pattern. -/
def skipFrom (i : Nat) : Nat := i + ((lexer.skip.bind fun r => r.run text i).getD 0)

/-- The kind of the first rule that matches at an offset, and how many characters it takes. -/
def ruleAt (i : Nat) : Option (String × Nat) :=
  lexer.rules.findSome? fun rule => (rule.recognizer.run text i).map fun n => (rule.kind, n)

/-- What a scan from an offset gives, and where it ends: it drops what is skipped, takes what the
first rule takes there, and goes on until no rule matches. -/
inductive Scans (context : Value) : Nat → List (Value × Span) → Nat → Prop where
  | stop {i : Nat} :
      lexer.ruleAt text (lexer.skipFrom text i) = none →
      Scans context i [] (lexer.skipFrom text i)
  | take {i start last : Nat} {kind : String} {n : Nat} {tokens : List (Value × Span)} :
      lexer.skipFrom text i = start →
      lexer.ruleAt text start = some (kind, n) →
      Scans context (start + n) tokens last →
      Scans context i
        ((.token kind (String.ofList (Text.slice text start n)),
          ⟨start, (start + n : Nat), context, by omega⟩) :: tokens)
        last

/-- Whether what lies between two offsets is empty, or a single match of the skip pattern. -/
def Gap (i j : Nat) : Prop :=
  j = i ∨ ∃ r ∈ lexer.skip, ∃ n, r.run text i = some n ∧ j = i + n

end Lexer

/-- What lies between some spans, and before and behind them, from an offset up to another. -/
def Span.gaps (last i : Nat) : List Span → List (Nat × Nat)
  | [] => [(i, last)]
  | s :: spans => (i, s.start.toNat) :: gaps last s.stop.toNat spans

/-- The text of a token. -/
def Value.lexed : Value → List Char
  | .token _ value => value.toList
  | _ => []

/-- The texts of tokens in turn with the pieces of a text that lie between them. -/
def Text.pieces (text : List Char) (i : Nat) : List (Value × Span) → List (List Char)
  | [] => [text.drop i]
  | (token, span) :: tokens =>
      slice text i (span.start.toNat - i) :: token.lexed :: pieces text span.stop.toNat tokens

namespace Lexer

section Written

/-- A written pattern takes at least one character, and none beyond the end of the text. -/
theorem ofPattern_advances
    {s : String}
    {r : Recognizer}
    (h : Recognizer.ofPattern s = .ok r)
    (text : List Char) :
    r.Advances text := by
  obtain ⟨p, -, hr⟩ := bind_eq_ok.1 h
  cases hr
  intro i n hi hrun
  obtain ⟨rest, -, htaken⟩ := Option.bind_eq_some_iff.1 hrun
  by_cases hzero : (text.drop i).length - rest.length = 0
  · simp only [if_pos hzero] at htaken
    cases htaken
  · simp only [if_neg hzero] at htaken
    cases htaken
    rw [List.length_drop] at hzero ⊢
    omega

theorem ofRules_advances
    {rules : List (String × String)}
    {rules' : List LexRule}
    (h : rules.mapM LexRule.ofPattern = .ok rules')
    (text : List Char) :
    ∀ rule ∈ rules', rule.recognizer.Advances text := by
  induction rules generalizing rules' with
  | nil =>
      cases h
      exact fun _ hrule => nomatch hrule
  | cons rule rules ih =>
      rw [List.mapM_cons] at h
      obtain ⟨first, hfirst, hothers⟩ := bind_eq_ok.1 h
      obtain ⟨others, hmap, hrules⟩ := bind_eq_ok.1 hothers
      obtain ⟨r, hr, hrule⟩ := bind_eq_ok.1 hfirst
      cases hrules
      cases hrule
      exact List.forall_mem_cons.2 ⟨ofPattern_advances hr text, ih hmap⟩

theorem skipOfPattern_advances
    {skip : Option String}
    {skip' : Option Recognizer}
    (h : skipOfPattern skip = .ok skip')
    (text : List Char) :
    ∀ r ∈ skip', r.Advances text := by
  unfold skipOfPattern at h
  split at h
  · cases h
    exact fun _ hr => nomatch hr
  · split at h
    · cases h
      exact fun _ hr => nomatch hr
    · obtain ⟨r, hr, rfl⟩ := map_eq_ok.1 h
      rintro _ ⟨⟩
      exact ofPattern_advances hr text

/-- A lexer of written rules advances on every text. -/
theorem ofPatterns_advances
    {rules : List (String × String)}
    {skip : Option String}
    {lexer : Lexer}
    (h : ofPatterns rules skip = .ok lexer)
    (text : List Char) :
    lexer.Advances text := by
  unfold ofPatterns at h
  split at h
  · cases h
  · obtain ⟨skip', hskip, hrest⟩ := bind_eq_ok.1 h
    obtain ⟨rules', hrules, hlexer⟩ := bind_eq_ok.1 hrest
    cases hlexer
    exact ⟨ofRules_advances hrules text, skipOfPattern_advances hskip text⟩

end Written

variable {lexer : Lexer} {text : List Char} {context : Value} {i j : Nat}

theorem le_skipFrom : i ≤ lexer.skipFrom text i := Nat.le_add_right _ _

theorem skipFrom_le
    (h : lexer.Advances text)
    (hi : i ≤ text.length) :
    lexer.skipFrom text i ≤ text.length := by
  unfold skipFrom
  cases hskip : lexer.skip with
  | none => exact hi
  | some r =>
      cases hrun : r.run text i with
      | none =>
          simp only [Option.bind_some, hrun, Option.getD_none]
          exact hi
      | some n =>
          simp only [Option.bind_some, hrun, Option.getD_some]
          exact (h.2 r hskip i n hi hrun).2

theorem gap_skipFrom : lexer.Gap text i (lexer.skipFrom text i) := by
  unfold Gap skipFrom
  cases hskip : lexer.skip with
  | none => exact Or.inl rfl
  | some r =>
      cases hrun : r.run text i with
      | none =>
          simp only [Option.bind_some, hrun, Option.getD_none]
          exact Or.inl rfl
      | some n =>
          simp only [Option.bind_some, hrun, Option.getD_some]
          exact Or.inr ⟨r, rfl, n, hrun, rfl⟩

/-- A rule that matches advances. -/
theorem ruleAt_advances
    {kind : String}
    {n : Nat}
    (h : lexer.Advances text)
    (hi : i ≤ text.length)
    (hrule : lexer.ruleAt text i = some (kind, n)) :
    0 < n ∧ i + n ≤ text.length := by
  obtain ⟨rule, hmem, hfound⟩ := List.exists_of_findSome?_eq_some hrule
  obtain ⟨m, hrun, hm⟩ := Option.map_eq_some_iff.1 hfound
  cases hm
  exact h.1 rule hmem i n hi hrun

section Readers

variable {readers : Readers} (hlawful : readers.Lawful)
include hlawful

theorem reads_separator
    (h : lexer.Advances text)
    (hi : i ≤ text.length) :
    (lexer.separator readers text i).Reads () (lexer.skipFrom text i) := by
  unfold separator skipFrom
  cases hskip : lexer.skip with
  | none => exact hlawful.pure _ _ _
  | some r =>
      cases hrun : r.run text i with
      | none =>
          simp only [Option.bind_some, hrun, Option.getD_none]
          have hmissed := hlawful.optional_misses (hlawful.taking_misses hrun)
          exact hlawful.bind hmissed (hlawful.pure _ _ _) (Nat.le_refl _)
      | some n =>
          simp only [Option.bind_some, hrun, Option.getD_some]
          have htaken := hlawful.taking hrun (h.2 r hskip i n hi hrun).2
          exact hlawful.bind (hlawful.optional htaken) (hlawful.pure _ _ _) (Nat.le_refl _)

theorem misses_tokenOf
    {rule : LexRule}
    (hrun : rule.recognizer.run text i = none) :
    (tokenOf readers rule text i).MissesAt i := by
  refine hlawful.bind_misses (hlawful.offset text i) ?_ (Nat.le_refl _)
  exact hlawful.bind_misses_first (hlawful.taking_misses hrun)

theorem reads_tokenOf
    {rule : LexRule}
    {n : Nat}
    (hr : rule.recognizer.Advances text)
    (hi : i ≤ text.length)
    (hrun : rule.recognizer.run text i = some n) :
    (tokenOf readers rule text i).Reads ⟨rule.kind, Text.slice text i n, i⟩ (i + n) := by
  refine hlawful.bind (hlawful.offset text i) ?_ (Nat.le_add_right _ _)
  have htaken := hlawful.taking hrun (hr i n hi hrun).2
  exact hlawful.bind htaken (hlawful.pure _ _ _) (Nat.le_refl _)

theorem misses_token
    (hrule : lexer.ruleAt text i = none) :
    (lexer.token readers text i).MissesAt i := by
  refine hlawful.firstOf_misses ?_
  rw [List.forall_mem_map]
  intro rule hmem
  have hrun := List.findSome?_eq_none_iff.1 hrule rule hmem
  exact misses_tokenOf hlawful (Option.map_eq_none_iff.1 hrun)

theorem reads_token
    {kind : String}
    {n : Nat}
    (h : lexer.Advances text)
    (hi : i ≤ text.length)
    (hrule : lexer.ruleAt text i = some (kind, n)) :
    (lexer.token readers text i).Reads ⟨kind, Text.slice text i n, i⟩ (i + n) := by
  obtain ⟨before, rule, after, hrules, hfound, hbefore⟩ := List.findSome?_eq_some_iff.1 hrule
  obtain ⟨m, hrun, hm⟩ := Option.map_eq_some_iff.1 hfound
  cases hm
  have hmem : rule ∈ lexer.rules := hrules ▸ List.mem_append_right _ List.mem_cons_self
  unfold token
  rw [hrules, List.map_append, List.map_cons]
  refine hlawful.firstOf ?_ (reads_tokenOf hlawful (h.1 rule hmem) hi hrun) (Nat.le_add_right _ _)
  rw [List.forall_mem_map]
  exact fun other hother => misses_tokenOf hlawful (Option.map_eq_none_iff.1 (hbefore other hother))

theorem misses_tokenAndSeparator
    (hrule : lexer.ruleAt text i = none) :
    (lexer.tokenAndSeparator readers text i).MissesAt i :=
  hlawful.bind_misses_first (misses_token hlawful hrule)

theorem reads_tokenAndSeparator
    {kind : String}
    {n : Nat}
    (h : lexer.Advances text)
    (hi : i ≤ text.length)
    (hrule : lexer.ruleAt text i = some (kind, n)) :
    (lexer.tokenAndSeparator readers text i).Reads ⟨kind, Text.slice text i n, i⟩
      (lexer.skipFrom text (i + n)) := by
  have hstop := (ruleAt_advances h hi hrule).2
  refine hlawful.bind (reads_token hlawful h hi hrule) ?_ le_skipFrom
  exact hlawful.bind (reads_separator hlawful h hstop) (hlawful.pure _ _ _) (Nat.le_refl _)

/-- The rounds of a lexer are those of the scan, and it misses where the scan ends.  The induction
is on the characters that are left. -/
theorem rounds_tokenAndSeparator
    (context : Value)
    (h : lexer.Advances text)
    (hi : i ≤ text.length) :
    ∃ ls stop,
      (lexer.tokenAndSeparator readers).Rounds text (lexer.skipFrom text i) ls stop ∧
        (lexer.tokenAndSeparator readers text stop).MissesAt stop ∧ stop ≤ text.length ∧
        lexer.Scans text context i (ls.map fun l => (l.token, l.span context)) stop := by
  induction hleft : text.length - i using Nat.strongRecOn generalizing i with
  | ind left ih =>
  have hstart := skipFrom_le h hi
  cases hrule : lexer.ruleAt text (lexer.skipFrom text i) with
  | none =>
      exact ⟨[], lexer.skipFrom text i, .nil, misses_tokenAndSeparator hlawful hrule, hstart,
        .stop hrule⟩
  | some found =>
      obtain ⟨kind, n⟩ := found
      obtain ⟨hn, hstop⟩ := ruleAt_advances h hstart hrule
      have hskip : i ≤ lexer.skipFrom text i := le_skipFrom
      obtain ⟨ls, stop, hrounds, hmisses, hend, hscans⟩ := ih _ (by omega) hstop rfl
      have hread := reads_tokenAndSeparator hlawful h hstart hrule
      have hprogress : lexer.skipFrom text i <
          lexer.skipFrom text (lexer.skipFrom text i + n) :=
        Nat.lt_of_lt_of_le (Nat.lt_add_of_pos_right hn) le_skipFrom
      refine ⟨_ :: ls, stop, .cons hread hprogress (skipFrom_le h hstop) hrounds, hmisses, hend, ?_⟩
      have hspan : (Lexeme.span ⟨kind, Text.slice text (lexer.skipFrom text i) n,
          lexer.skipFrom text i⟩ context) =
          ⟨lexer.skipFrom text i, (lexer.skipFrom text i + n : Nat), context, by omega⟩ := by
        unfold Lexeme.span Lexeme.stop
        simp only [Text.length_slice hstop]
      rw [List.map_cons, hspan]
      exact .take rfl hrule hscans

/-- A lexer reads what the scan gives. -/
theorem reads_reader (context : Value) (h : lexer.Advances text) :
    ∃ ls stop, (lexer.reader readers text 0).Reads ls stop ∧ stop ≤ text.length ∧
      lexer.Scans text context 0 (ls.map fun l => (l.token, l.span context)) stop := by
  have hzero : 0 ≤ text.length := Nat.zero_le _
  obtain ⟨ls, stop, hrounds, hmisses, hend, hscans⟩ :=
    rounds_tokenAndSeparator hlawful context h hzero
  have hmany := hlawful.many hrounds hmisses
  exact ⟨ls, stop, hlawful.bind (reads_separator hlawful h hzero) hmany hrounds.le, hend, hscans⟩

end Readers

namespace Scans

variable {tokens : List (Value × Span)} {last : Nat}

/-- There is only one way to scan. -/
theorem unique
    {tokens' : List (Value × Span)}
    {last' : Nat}
    (h : lexer.Scans text context i tokens last)
    (h' : lexer.Scans text context i tokens' last') :
    tokens = tokens' ∧ last = last' := by
  induction h generalizing tokens' last' with
  | stop hrule =>
      cases h' with
      | stop _ => exact ⟨rfl, rfl⟩
      | take hstart hrule' _ =>
          subst hstart
          rw [hrule] at hrule'
          cases hrule'
  | take hstart hrule _ ih =>
      subst hstart
      cases h' with
      | stop hrule' =>
          rw [hrule] at hrule'
          cases hrule'
      | take hstart' hrule' hrest' =>
          subst hstart'
          rw [hrule] at hrule'
          cases hrule'
          obtain ⟨rfl, rfl⟩ := ih hrest'
          exact ⟨rfl, rfl⟩

/-- The spans that a scan gives are not empty, and each of them ends before the next one starts. -/
theorem spans
    (h : lexer.Scans text context i tokens last)
    (hadvances : lexer.Advances text)
    (hi : i ≤ text.length) :
    (∀ t ∈ tokens, (i : Int) ≤ t.2.start ∧ t.2.start < t.2.stop) ∧
      tokens.Pairwise fun t u => t.2.stop ≤ u.2.start := by
  induction h with
  | stop hrule => simp
  | @take i start last kind n tokens hstart hrule _ ih =>
      subst hstart
      have hi' := skipFrom_le hadvances hi
      have hle : i ≤ lexer.skipFrom text i := le_skipFrom
      obtain ⟨hn, hstop⟩ := ruleAt_advances hadvances hi' hrule
      obtain ⟨hlater, hsorted⟩ := ih hstop
      constructor
      · rw [List.forall_mem_cons]
        refine ⟨⟨Int.ofNat_le.2 hle, Int.ofNat_lt.2 (Nat.lt_add_of_pos_right hn)⟩,
          fun t ht => ?_⟩
        have ht' := hlater t ht
        omega
      · exact List.pairwise_cons.2 ⟨fun t ht => (hlater t ht).1, hsorted⟩

/-- What a scan of a whole text leaves out is nothing, or a single match of the skip pattern each
time. -/
theorem gaps
    (h : lexer.Scans text context i tokens last) :
    ∀ gap ∈ Span.gaps last i (tokens.map Prod.snd), lexer.Gap text gap.1 gap.2 := by
  induction h with
  | stop hrule =>
      refine List.forall_mem_singleton.2 ?_
      exact gap_skipFrom
  | take hstart hrule _ ih =>
      subst hstart
      exact List.forall_mem_cons.2 ⟨gap_skipFrom, ih⟩

/-- Nothing of a text is lost by scanning it. -/
theorem pieces_flatten
    (h : lexer.Scans text context i tokens last) :
    (Text.pieces text i tokens).flatten = text.drop i := by
  induction h with
  | stop hrule => simp [Text.pieces]
  | @take i start last kind n tokens hstart hrule _ ih =>
      subst hstart
      have hle : i ≤ lexer.skipFrom text i := le_skipFrom
      simp only [Text.pieces, List.flatten_cons, Int.toNat_natCast, ih, Value.lexed,
        String.toList_ofList]
      rw [Text.slice_append_drop]
      have hgap := Text.slice_append_drop text i (lexer.skipFrom text i - i)
      rwa [Nat.add_sub_cancel' hle] at hgap

end Scans

/-- What a lexer answers for a text is what the scan gives, if that reaches the end of the text; if
not, the lexer fails where it ends. -/
theorem tokenize_of_scans
    {text : String}
    {tokens : List (Value × Span)}
    {last : Nat}
    {readers : Readers}
    (hlawful : readers.Lawful)
    (hadvances : lexer.Advances text.toList)
    (hscans : lexer.Scans text.toList context 0 tokens last) :
    last ≤ text.length ∧
      (last = text.length → lexer.tokenize text context readers = .ok tokens) ∧
      (last ≠ text.length → ∃ failure, lexer.tokenize text context readers = .error failure ∧
        failure.offset = last) := by
  obtain ⟨ls, stop, hreads, hstop, hscans'⟩ := reads_reader hlawful context hadvances
  obtain ⟨rfl, rfl⟩ := hscans.unique hscans'
  rw [String.length_toList] at hstop
  refine ⟨hstop, fun hend => ?_, fun hshort => ?_⟩
  · rw [hend, ← String.length_toList] at hreads
    unfold tokenize lexemes
    rw [hlawful.readAll hreads]
    rfl
  · have hlt : last < text.toList.length := by
      rw [String.length_toList]
      omega
    obtain ⟨m, herror, hm⟩ := hlawful.readAll_misses hreads hlt
    unfold tokenize lexemes
    rw [herror]
    exact ⟨_, rfl, hm⟩

/-- **Tokenizing is greedy scanning, and loses no text.**  Let readers be put together in any lawful
way, and let the patterns of a lexer advance wherever they match.  Then a text has the tokens that
the scan gives if that reaches the end of the text, and otherwise the lexer fails at the offset where
the scan ends because no rule matches there.  The spans of the tokens are not empty, and each ends
before the next one starts; between them, before the first and behind the last there is nothing or a
single match of the skip pattern; and with what lies between them, the texts of the tokens are the
whole text. -/
theorem tokenize_iff_scans
    (lexer : Lexer)
    (text : String)
    (context : Value)
    (readers : Readers)
    (hlawful : readers.Lawful)
    (hadvances : lexer.Advances text.toList) :
    (∀ tokens, lexer.tokenize text context readers = .ok tokens ↔
        lexer.Scans text.toList context 0 tokens text.length) ∧
      (∀ offset,
        (∃ failure, lexer.tokenize text context readers = .error failure ∧ failure.offset = offset) ↔
          offset ≠ text.length ∧ ∃ tokens, lexer.Scans text.toList context 0 tokens offset) ∧
      ∀ tokens, lexer.tokenize text context readers = .ok tokens →
        (∀ t ∈ tokens, t.2.start < t.2.stop) ∧
          (tokens.Pairwise fun t u => t.2.stop ≤ u.2.start) ∧
          (∀ gap ∈ Span.gaps text.length 0 (tokens.map Prod.snd),
            lexer.Gap text.toList gap.1 gap.2) ∧
          (Text.pieces text.toList 0 tokens).flatten = text.toList := by
  obtain ⟨ls, last, -, -, hscans⟩ := reads_reader hlawful context hadvances
  obtain ⟨-, hok, herror⟩ := tokenize_of_scans hlawful hadvances hscans
  have hiff : ∀ tokens, lexer.tokenize text context readers = .ok tokens ↔
      lexer.Scans text.toList context 0 tokens text.length := by
    intro tokens
    constructor
    · intro htokens
      by_cases hend : last = text.length
      · rw [hok hend] at htokens
        cases htokens
        exact hend ▸ hscans
      · obtain ⟨failure, hfailure, -⟩ := herror hend
        rw [hfailure] at htokens
        cases htokens
    · exact fun h => (tokenize_of_scans hlawful hadvances h).2.1 rfl
  refine ⟨hiff, fun offset => ⟨?_, ?_⟩, fun tokens htokens => ?_⟩
  · rintro ⟨failure, hfailure, rfl⟩
    by_cases hend : last = text.length
    · rw [hok hend] at hfailure
      cases hfailure
    · obtain ⟨failure', hfailure', hlast⟩ := herror hend
      rw [hfailure] at hfailure'
      cases hfailure'
      exact hlast ▸ ⟨hlast ▸ hend, _, hscans⟩
  · rintro ⟨hoffset, tokens, h⟩
    exact (tokenize_of_scans hlawful hadvances h).2.2 hoffset
  · have h := (hiff tokens).1 htokens
    obtain ⟨hspans, hsorted⟩ := h.spans hadvances (Nat.zero_le _)
    exact ⟨fun t ht => (hspans t ht).2, hsorted, h.gaps, h.pieces_flatten⟩

/-- A text with blanks around its tokens, and one in which a token is followed by something that no
rule matches. -/
theorem tokenize_iff_scans_of_blanks :
    let row (p : Char → Bool) (text : List Char) (i : Nat) : Option Nat :=
      let n := ((text.drop i).takeWhile p).length
      if n = 0 then none else some n
    let lexer : Lexer :=
      ⟨[⟨"NUMBER", "[0-9]+", row Char.isDigit⟩, ⟨"NAME", "[a-z]+", row Char.isLower⟩],
        some ⟨" +", row (· = ' ')⟩⟩
    (∃ tokens, lexer.tokenize " 12 ab " .null = .ok tokens ∧
        tokens.map Prod.fst = [.token "NUMBER" "12", .token "NAME" "ab"] ∧
        lexer.Scans " 12 ab ".toList .null 0 tokens 7 ∧ ∀ t ∈ tokens, t.2.start < t.2.stop) ∧
      ∃ tokens, lexer.Scans "12 ?".toList .null 0 tokens 3 := by
  intro row lexer
  have hrow (p : Char → Bool) (name : String) (text : List Char) :
      Recognizer.Advances ⟨name, row p⟩ text := by
    intro i n hi hrun
    change (if ((text.drop i).takeWhile p).length = 0 then none
      else some ((text.drop i).takeWhile p).length) = some n at hrun
    have hle : ((text.drop i).takeWhile p).length ≤ (text.drop i).length :=
      (List.takeWhile_prefix p).length_le
    rw [List.length_drop] at hle
    split at hrun
    · cases hrun
    · cases hrun
      omega
  have hadvances (text : List Char) : lexer.Advances text := by
    refine ⟨?_, ?_⟩
    · exact List.forall_mem_cons.2 ⟨hrow _ _ _, List.forall_mem_singleton.2 (hrow _ _ _)⟩
    · rintro r ⟨⟩
      exact hrow _ _ _
  have hruns : ∃ tokens failure, lexer.tokenize " 12 ab " .null = .ok tokens ∧
      tokens.map Prod.fst = [.token "NUMBER" "12", .token "NAME" "ab"] ∧
      lexer.tokenize "12 ?" .null = .error failure ∧ failure.offset = 3 :=
    ⟨_, _, rfl, rfl, rfl, rfl⟩
  obtain ⟨tokens, failure, htokens, hmap, hfailure, hoffset⟩ := hruns
  obtain ⟨hiff, -, hspans⟩ :=
    tokenize_iff_scans lexer " 12 ab " .null .standard Readers.standard_lawful (hadvances _)
  obtain ⟨-, herror, -⟩ :=
    tokenize_iff_scans lexer "12 ?" .null .standard Readers.standard_lawful (hadvances _)
  exact ⟨⟨tokens, htokens, hmap, (hiff tokens).1 htokens, (hspans tokens htokens).1⟩,
    ((herror 3).1 ⟨failure, hfailure, hoffset⟩).2⟩

end Lexer
end Resync
