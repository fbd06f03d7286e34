import Resync.Lexer
import Resync.Proofs.Run

/-!
# Ordered sources

In an ordered source no token starts behind the end of a later one.  Then the span from one token to
a later one is never backward.  Texts and sequences of tokens whose spans are their indices are
ordered, and so is what a lexer cuts, because it cuts one token behind the other.
-/

namespace Resync

/-- Whether no token starts behind the end of a later one. -/
def Source.Ordered (src : Source) : Prop :=
  ∀ i j, i ≤ j → j < src.size → (src.sighting i).span.start ≤ (src.sighting j).span.stop

namespace Source

/-- In an ordered source no span that is built is backward. -/
theorem Ordered.exists_spanBetween
    {src : Source}
    {stop : Nat}
    (h : src.Ordered)
    (start : Nat)
    (hstop : stop ≤ src.size) :
    ∃ span, src.spanBetween start stop = .ok span := by
  unfold spanBetween
  by_cases hempty : stop ≤ start
  · rw [if_pos hempty]
    exact ⟨_, rfl⟩
  · rw [if_neg hempty]
    unfold Span.through Span.withRange Span.between
    rw [dif_pos (h start (stop - 1) (by omega) (by omega))]
    exact ⟨_, rfl⟩

/-- A source is ordered if its tokens start in order. -/
theorem Ordered.of_pairwise
    {tokens : List (Value × Span)}
    {eoi : Span}
    (h : tokens.Pairwise fun s t => s.2.start ≤ t.2.start) :
    Ordered ⟨tokens.toArray, eoi⟩ := by
  have hsighting {i : Nat} (hi : i < tokens.length) :
      (sighting ⟨tokens.toArray, eoi⟩ i).span = tokens[i].2 := by
    unfold sighting
    simp [hi]
  intro i j hij hj
  have hj' : j < tokens.length := hj
  rw [hsighting (by omega), hsighting hj']
  rcases Nat.lt_or_eq_of_le hij with hlt | rfl
  · have hstart := List.pairwise_iff_getElem.1 h i j (by omega) hj' hlt
    exact Int.le_trans hstart tokens[j].2.start_le_stop
  · exact tokens[i].2.start_le_stop

/-- Where spans are indices they are ordered. -/
theorem ofTokens_ordered (tokens : List Value) (context : Value) :
    (ofTokens tokens context).Ordered := by
  have hsighting {i : Nat} (hi : i < (ofTokens tokens context).size) :
      ((ofTokens tokens context).sighting i).span = Span.single i context := by
    unfold sighting
    rw [Array.getElem?_eq_getElem hi]
    simp [ofTokens]
  intro i j hij hj
  rw [hsighting (Nat.lt_of_le_of_lt hij hj), hsighting hj]
  show (i : Int) ≤ j + 1
  omega

end Source

namespace Reader

variable {α β : Type} {x : Reader α}

/-- Whether a condition on where a reader starts, what it reads and where it ends is met wherever it
reads something. -/
def Ensures (x : Reader α) (Q : Nat → α → Nat → Prop) : Prop :=
  ∀ text i a j furthest, x text i = .read a j furthest → Q i a j

namespace Ensures

theorem pure (a : α) : (Reader.pure a).Ensures fun i b j => b = a ∧ j = i := by
  rintro text i b j furthest ⟨⟩
  exact ⟨rfl, rfl⟩

theorem bind
    {f : α → Reader β}
    {P : Nat → α → Nat → Prop}
    {Q : α → Nat → β → Nat → Prop}
    {R : Nat → β → Nat → Prop}
    (hx : x.Ensures P)
    (hf : ∀ a, (f a).Ensures (Q a))
    (h : ∀ i a j b k, P i a j → Q a j b k → R i b k) :
    (Reader.bind x f).Ensures R := by
  intro text i b k furthest hread
  unfold Reader.bind at hread
  cases hfirst : x text i with
  | missed m =>
      rw [hfirst] at hread
      cases hread
  | read a j m =>
      simp only [hfirst] at hread
      cases hsecond : f a text j with
      | missed m' =>
          rw [hsecond] at hread
          cases hread
      | read b' k' m' =>
          rw [hsecond] at hread
          cases hread
          exact h i a j b k (hx text i a j m hfirst) (hf a text j b k m' hsecond)

theorem optional
    {Q : Nat → α → Nat → Prop}
    (hx : x.Ensures Q) :
    x.optional.Ensures fun i found j => found.elim (j = i) (Q i · j) := by
  intro text i found j furthest hread
  unfold Reader.optional at hread
  cases hfirst : x text i with
  | missed m =>
      rw [hfirst] at hread
      cases hread
      exact rfl
  | read a stop m =>
      rw [hfirst] at hread
      cases hread
      exact hx text i a j _ hfirst

theorem firstOf
    {Q : Nat → α → Nat → Prop}
    {xs : List (Reader α)}
    (h : ∀ x ∈ xs, x.Ensures Q) :
    (firstOf xs).Ensures Q := by
  induction xs with
  | nil =>
      intro text i a j furthest hread
      cases hread
  | cons x xs ih =>
      obtain ⟨hx, hxs⟩ := List.forall_mem_cons.1 h
      cases xs with
      | nil => exact hx
      | cons y others =>
          intro text i a j furthest hread
          change x.orElse (Reader.firstOf (y :: others)) text i = _ at hread
          unfold Reader.orElse at hread
          cases hfirst : x text i with
          | read a' j' m =>
              rw [hfirst] at hread
              cases hread
              exact hx text i a j _ hfirst
          | missed m =>
              simp only [hfirst] at hread
              cases hsecond : Reader.firstOf (y :: others) text i with
              | missed m' =>
                  rw [hsecond] at hread
                  cases hread
              | read a' j' m' =>
                  rw [hsecond] at hread
                  cases hread
                  exact ih hxs text i a j m' hsecond

theorem taking (r : Recognizer) :
    (taking r).Ensures fun i value j => j = i + value.length := by
  intro text i value j furthest hread
  unfold Reader.taking at hread
  cases hrun : r.run text i with
  | none =>
      rw [hrun] at hread
      cases hread
  | some count =>
      rw [hrun] at hread
      cases hread
      rfl

/-- What is said of what a reader reads holds of a whole text. -/
theorem readAll
    {Q : α → Prop}
    {text : List Char}
    {a : α}
    (hx : x.Ensures fun _ a _ => Q a)
    (h : x.readAll text = .ok a) :
    Q a := by
  have hended (a : α) : (do ended; return a : Reader α).Ensures fun _ b _ => b = a := by
    refine .bind (P := fun _ _ _ => True) (fun _ _ _ _ _ _ => trivial) (fun _ => .pure a) ?_
    exact fun _ _ _ _ _ _ hb => hb.1
  have hwhole : x.whole.Ensures fun _ a _ => Q a := by
    refine .bind hx hended ?_
    rintro _ a _ _ _ ha rfl
    exact ha
  unfold Reader.readAll at h
  cases hread : x.whole text 0 with
  | missed m =>
      rw [hread] at h
      cases h
  | read b stop furthest =>
      rw [hread] at h
      cases h
      exact hwhole text 0 a stop furthest hread

end Ensures
end Reader

theorem Lexeme.start_le_stop (l : Lexeme) : l.start ≤ l.stop := Nat.le_add_right _ _

namespace Lexer

variable {lexer : Lexer}

open Reader (Ensures)

theorem separator_ensures : (lexer.separator .standard).Ensures fun i _ j => i ≤ j := by
  unfold separator
  cases lexer.skip with
  | none =>
      intro text i a j furthest hread
      exact Nat.le_of_eq (Ensures.pure () text i a j furthest hread).2.symm
  | some r =>
      refine .bind (.optional (.taking r)) (fun _ => .pure ()) ?_
      rintro i (_ | value) j b k hoptional ⟨-, rfl⟩
      · exact Nat.le_of_eq hoptional.symm
      · have hstop : k = i + value.length := hoptional
        omega

theorem tokenAndSeparator_ensures :
    (lexer.tokenAndSeparator .standard).Ensures fun i l j => l.start = i ∧ l.stop ≤ j := by
  have htoken : (lexer.token .standard).Ensures fun i l j => l.start = i ∧ l.stop ≤ j := by
    refine .firstOf ?_
    rw [List.forall_mem_map]
    intro rule _
    have hoffset : Reader.offset.Ensures fun i start j => start = i ∧ j = i := by
      rintro text i start j furthest ⟨⟩
      exact ⟨rfl, rfl⟩
    refine .bind hoffset (fun start => .bind (.taking _) (fun value => .pure _)
      fun i value j l k (hj : j = i + value.length) (hl : l = ⟨rule.kind, value, start⟩ ∧ k = j) =>
        (⟨by rw [hl.1], by rw [hl.1, hl.2, hj]⟩ : l.start = start ∧ k = i + l.text.length)) ?_
    rintro i start j l k ⟨rfl, rfl⟩ ⟨rfl, rfl⟩
    exact ⟨rfl, Nat.le_refl _⟩
  refine .bind htoken (fun l => .bind separator_ensures (fun _ => .pure l)
    fun i _ j l' k (hle : i ≤ j) (hl : l' = l ∧ k = j) =>
      (⟨hl.1, by omega⟩ : l' = l ∧ i ≤ k)) ?_
  rintro i l j l' k ⟨hstart, hle⟩ ⟨rfl, hle'⟩
  exact ⟨hstart, Nat.le_trans hle hle'⟩

/-- Whether lexemes lie one behind the other, and none of them starts before an offset. -/
def SortedFrom (i : Nat) (ls : List Lexeme) : Prop :=
  (∀ l ∈ ls, i ≤ l.start) ∧ ls.Pairwise fun l m => l.stop ≤ m.start

theorem SortedFrom.cons
    {i : Nat}
    {l : Lexeme}
    {ls : List Lexeme}
    (h : SortedFrom i ls)
    (hl : l.stop ≤ i) :
    SortedFrom l.start (l :: ls) := by
  have hlater : ∀ m ∈ ls, l.stop ≤ m.start := fun m hm => Nat.le_trans hl (h.1 m hm)
  refine ⟨List.forall_mem_cons.2 ⟨Nat.le_refl _, fun m hm => ?_⟩, List.pairwise_cons.2 ⟨hlater, h.2⟩⟩
  exact Nat.le_trans l.start_le_stop (hlater m hm)

/-- Tokens are read one behind the other. -/
theorem upTo_ensures (most : Nat) :
    ((lexer.tokenAndSeparator .standard).upTo most).Ensures fun i ls _ => SortedFrom i ls := by
  have hnil (i : Nat) : SortedFrom i [] := ⟨fun _ hl => (nomatch hl), .nil⟩
  induction most with
  | zero =>
      rintro text i ls j furthest ⟨⟩
      exact hnil i
  | succ most ih =>
      unfold Reader.upTo
      refine .bind (Q := fun found i ls _ => ∃ others, ls = found.toList ++ others ∧
        SortedFrom i others) (.optional tokenAndSeparator_ensures) (fun found => ?_) ?_
      · cases found with
        | none =>
            rintro text i ls j furthest ⟨⟩
            exact ⟨[], rfl, hnil i⟩
        | some l =>
            refine .bind ih (fun others => .pure (l :: others)) ?_
            rintro i others j ls k hothers ⟨rfl, -⟩
            exact ⟨others, rfl, hothers⟩
      · rintro i (_ | l) j ls k hfirst ⟨others, rfl, hothers⟩
        · cases hfirst
          exact hothers
        · obtain ⟨rfl, hle⟩ := hfirst
          exact hothers.cons hle

/-- No lexeme starts before those in front of it have ended. -/
theorem lexemes_sorted
    {text : List Char}
    {ls : List Lexeme}
    (h : lexer.lexemes text = .ok ls) :
    ls.Pairwise fun l m => l.stop ≤ m.start := by
  have hreader : (lexer.reader .standard).Ensures fun _ ls _ =>
      ls.Pairwise fun l m => l.stop ≤ m.start := by
    refine .bind (Q := fun _ i ls _ => SortedFrom i ls) separator_ensures (fun _ => ?_) ?_
    · exact fun text => upTo_ensures (text.length + 1) text
    · exact fun _ _ _ _ _ _ hls => hls.2
  unfold lexemes at h
  cases hread : Readers.standard.readAll (lexer.reader .standard) text with
  | error m =>
      rw [hread] at h
      cases h
  | ok ls' =>
      rw [hread] at h
      cases h
      exact hreader.readAll hread

/-- The tokens that a lexer cuts lie one behind the other. -/
theorem tokenize_sorted
    {text : String}
    {context : Value}
    {tokens : List (Value × Span)}
    (h : lexer.tokenize text context = .ok tokens) :
    tokens.Pairwise fun s t => s.2.stop ≤ t.2.start := by
  unfold tokenize at h
  cases hlexemes : lexer.lexemes text.toList with
  | error failure =>
      rw [hlexemes] at h
      cases h
  | ok ls =>
      rw [hlexemes] at h
      cases h
      have hsorted := lexemes_sorted hlexemes
      exact List.pairwise_map.2 (hsorted.imp fun {l m} hle => Int.ofNat_le.2 hle)

/-- Lexed tokens make an ordered source. -/
theorem ofLexed_ordered
    {text : String}
    {context : Value}
    {tokens : List (Value × Span)}
    (h : lexer.tokenize text context = .ok tokens)
    (eoi : Option Span) :
    (Source.ofLexed tokens eoi).Ordered :=
  .of_pairwise ((tokenize_sorted h).imp fun {s _} hle => Int.le_trans s.2.start_le_stop hle)

end Lexer
end Resync
