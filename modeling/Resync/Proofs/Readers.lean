import Resync.Lexer.Reader

/-!
# The laws of readers

What is known of the ways to put readers together, wherever they come from, is a few laws
(`Readers.Lawful`).  Each of them is about one way, and says what is read and how far the miss that
got furthest is: no further than where something was read, and just where nothing was.

The standard ways keep the laws (`Readers.standard_lawful`).
-/

namespace Resync

namespace Reading

variable {α : Type}

/-- Whether something was read up to an offset, and nothing was missed behind it. -/
def Reads (o : Reading α) (a : α) (stop : Nat) : Prop :=
  ∃ furthest, o = .read a stop furthest ∧ ∀ m ∈ furthest, m.offset ≤ stop

/-- Whether nothing was read, and the miss that got furthest is at an offset. -/
def MissesAt (o : Reading α) (i : Nat) : Prop := ∃ m, o = .missed m ∧ m.offset = i

end Reading

/-- Consecutive readings by one reader, from an offset up to another.  Each takes something, and
does not go beyond the text. -/
inductive Reader.Rounds {α : Type} (x : Reader α) (text : List Char) :
    Nat → List α → Nat → Prop where
  | nil {i : Nat} : Rounds x text i [] i
  | cons
      {i j k : Nat} {a : α} {as : List α}
      (hread : (x text i).Reads a j)
      (hprogress : i < j)
      (hwithin : j ≤ text.length)
      (hrest : Rounds x text j as k) :
      Rounds x text i (a :: as) k

/-- What is known of the ways to put readers together. -/
structure Readers.Lawful (readers : Readers) : Prop where
  /-- Nothing is read. -/
  pure {α : Type} (a : α) (text : List Char) (i : Nat) : (readers.pure a text i).Reads a i
  /-- The offset is read, and nothing is taken. -/
  offset (text : List Char) (i : Nat) : (readers.offset text i).Reads i i
  /-- What a recognizer takes is read. -/
  taking
    {r : Recognizer} {text : List Char} {i n : Nat}
    (hrun : r.run text i = some n)
    (hwithin : i + n ≤ text.length) :
    (readers.taking r text i).Reads (Text.slice text i n) (i + n)
  /-- If a recognizer takes nothing, that is missed. -/
  taking_misses
    {r : Recognizer} {text : List Char} {i : Nat}
    (hrun : r.run text i = none) :
    (readers.taking r text i).MissesAt i
  /-- The second reader goes on where the first one ended. -/
  bind
    {α β : Type} {x : Reader α} {f : α → Reader β} {text : List Char} {i j k : Nat} {a : α} {b : β}
    (hx : (x text i).Reads a j)
    (hf : (f a text j).Reads b k)
    (hforward : j ≤ k) :
    (readers.bind x f text i).Reads b k
  /-- What the second reader misses is missed, as it got further. -/
  bind_misses
    {α β : Type} {x : Reader α} {f : α → Reader β} {text : List Char} {i j k : Nat} {a : α}
    (hx : (x text i).Reads a j)
    (hf : (f a text j).MissesAt k)
    (hforward : j ≤ k) :
    (readers.bind x f text i).MissesAt k
  /-- What the first reader misses is missed. -/
  bind_misses_first
    {α β : Type} {x : Reader α} {f : α → Reader β} {text : List Char} {i j : Nat}
    (hx : (x text i).MissesAt j) :
    (readers.bind x f text i).MissesAt j
  /-- The first of several readers that does not miss is the one that counts. -/
  firstOf
    {α : Type} {x : Reader α} {before after : List (Reader α)} {text : List Char}
    {i j : Nat} {a : α}
    (hbefore : ∀ y ∈ before, (y text i).MissesAt i)
    (hx : (x text i).Reads a j)
    (hforward : i ≤ j) :
    (readers.firstOf (before ++ x :: after) text i).Reads a j
  /-- If all miss, so do they together. -/
  firstOf_misses
    {α : Type} {xs : List (Reader α)} {text : List Char} {i : Nat}
    (h : ∀ x ∈ xs, (x text i).MissesAt i) :
    (readers.firstOf xs text i).MissesAt i
  /-- What can be read is read. -/
  optional
    {α : Type} {x : Reader α} {text : List Char} {i j : Nat} {a : α}
    (hx : (x text i).Reads a j) :
    (readers.optional x text i).Reads (some a) j
  /-- What is missed is left out. -/
  optional_misses
    {α : Type} {x : Reader α} {text : List Char} {i : Nat}
    (hx : (x text i).MissesAt i) :
    (readers.optional x text i).Reads none i
  /-- A reader is repeated until it misses. -/
  many
    {α : Type} {x : Reader α} {text : List Char} {i k : Nat} {as : List α}
    (hrounds : x.Rounds text i as k)
    (hx : (x text k).MissesAt k) :
    (readers.many x text i).Reads as k
  /-- A text that is read up to its end is accepted. -/
  readAll
    {α : Type} {x : Reader α} {text : List Char} {a : α}
    (hx : (x text 0).Reads a text.length) :
    readers.readAll x text = .ok a
  /-- A text of which only a part is read is refused where that ends. -/
  readAll_misses
    {α : Type} {x : Reader α} {text : List Char} {a : α} {i : Nat}
    (hx : (x text 0).Reads a i)
    (hshort : i < text.length) :
    ∃ m, readers.readAll x text = .error m ∧ m.offset = i

/-- A miss is not moved by earlier ones that did not get further. -/
theorem Miss.join_offset
    {m : Miss}
    {earlier : Option Miss}
    (h : ∀ e ∈ earlier, e.offset ≤ m.offset) :
    (m.join earlier).offset = m.offset := by
  cases earlier with
  | none => rfl
  | some e =>
      have he : e.offset ≤ m.offset := h e rfl
      simp only [join]
      split
      · rfl
      · split
        · rfl
        · omega

namespace Reader

variable {α β : Type} {text : List Char} {i j k : Nat} {a : α} {b : β}
variable {x : Reader α} {f : α → Reader β}

theorem reads_pure : (Reader.pure a text i).Reads a i := ⟨none, rfl, fun _ hm => nomatch hm⟩

theorem misses_miss (expected : String) : ((miss expected : Reader α) text i).MissesAt i :=
  ⟨_, rfl, rfl⟩

theorem reads_after
    {earlier : Option Miss}
    {o : Reading α}
    (h : o.Reads a j)
    (hearlier : ∀ m ∈ earlier, m.offset ≤ j) :
    (o.after earlier).Reads a j := by
  obtain ⟨furthest, rfl, hfurthest⟩ := h
  refine ⟨Miss.further earlier furthest, rfl, ?_⟩
  cases furthest with
  | none => exact hearlier
  | some m =>
      rintro _ ⟨⟩
      have hm : m.offset ≤ j := hfurthest m rfl
      cases earlier with
      | none => exact hm
      | some e =>
          have he : e.offset ≤ j := hearlier e rfl
          simp only [Miss.join]
          split
          · exact hm
          · split
            · exact hm
            · exact he

theorem misses_after
    {earlier : Option Miss}
    {o : Reading α}
    (h : o.MissesAt j)
    (hearlier : ∀ m ∈ earlier, m.offset ≤ j) :
    (o.after earlier).MissesAt j := by
  obtain ⟨m, rfl, rfl⟩ := h
  exact ⟨_, rfl, Miss.join_offset hearlier⟩

theorem reads_taking
    {r : Recognizer}
    {n : Nat}
    (hrun : r.run text i = some n)
    (hwithin : i + n ≤ text.length) :
    (taking r text i).Reads (Text.slice text i n) (i + n) := by
  have hlength : (Text.slice text i n).length = n := by
    rw [Text.slice, List.length_take, List.length_drop]
    omega
  unfold taking
  rw [hrun]
  simp only [hlength]
  exact ⟨none, rfl, fun _ hm => nomatch hm⟩

theorem misses_taking
    {r : Recognizer}
    (hrun : r.run text i = none) :
    (taking r text i).MissesAt i := by
  unfold taking
  rw [hrun]
  exact misses_miss _

section Sequences

theorem reads_bind
    (hx : (x text i).Reads a j)
    (hf : (f a text j).Reads b k)
    (hjk : j ≤ k) :
    (Reader.bind x f text i).Reads b k := by
  obtain ⟨furthest, hread, hfurthest⟩ := hx
  unfold Reader.bind
  rw [hread]
  exact reads_after hf fun m hm => Nat.le_trans (hfurthest m hm) hjk

theorem misses_bind
    (hx : (x text i).Reads a j)
    (hf : (f a text j).MissesAt k)
    (hjk : j ≤ k) :
    (Reader.bind x f text i).MissesAt k := by
  obtain ⟨furthest, hread, hfurthest⟩ := hx
  unfold Reader.bind
  rw [hread]
  exact misses_after hf fun m hm => Nat.le_trans (hfurthest m hm) hjk

theorem misses_bind_of_misses (hx : (x text i).MissesAt j) :
    (Reader.bind x f text i).MissesAt j := by
  obtain ⟨m, hmiss, hm⟩ := hx
  unfold Reader.bind
  rw [hmiss]
  exact ⟨m, rfl, hm⟩

end Sequences

section Choices

theorem misses_firstOf
    {xs : List (Reader α)}
    (h : ∀ x ∈ xs, (x text i).MissesAt i) :
    (firstOf xs text i).MissesAt i := by
  induction xs with
  | nil => exact misses_miss _
  | cons x xs ih =>
      obtain ⟨hx, hxs⟩ := List.forall_mem_cons.1 h
      cases xs with
      | nil => exact hx
      | cons y others =>
          obtain ⟨m, hmiss, hm⟩ := hx
          change (orElse x (firstOf (y :: others)) text i).MissesAt i
          unfold orElse
          rw [hmiss]
          refine misses_after (ih hxs) ?_
          rintro _ ⟨⟩
          exact Nat.le_of_eq hm

theorem reads_firstOf
    {before after : List (Reader α)}
    (hbefore : ∀ y ∈ before, (y text i).MissesAt i)
    (hx : (x text i).Reads a j)
    (hij : i ≤ j) :
    (firstOf (before ++ x :: after) text i).Reads a j := by
  induction before with
  | nil =>
      obtain ⟨furthest, hread, hfurthest⟩ := hx
      cases after with
      | nil => exact ⟨furthest, hread, hfurthest⟩
      | cons z others =>
          change (orElse x (firstOf (z :: others)) text i).Reads a j
          unfold orElse
          rw [hread]
          exact ⟨furthest, rfl, hfurthest⟩
  | cons y before ih =>
      obtain ⟨⟨m, hmiss, hm⟩, hothers⟩ := List.forall_mem_cons.1 hbefore
      have hfirst : firstOf (y :: before ++ x :: after) =
          y.orElse (firstOf (before ++ x :: after)) := by
        cases before with
        | nil => rfl
        | cons z before => rfl
      rw [hfirst]
      unfold orElse
      rw [hmiss]
      refine reads_after (ih hothers) ?_
      rintro _ ⟨⟩
      omega

end Choices

section Repetitions

theorem reads_optional (h : (x text i).Reads a j) : (x.optional text i).Reads (some a) j := by
  obtain ⟨furthest, hread, hfurthest⟩ := h
  unfold optional
  rw [hread]
  exact ⟨furthest, rfl, hfurthest⟩

theorem optional_of_misses (h : (x text i).MissesAt i) : (x.optional text i).Reads none i := by
  obtain ⟨m, hmiss, hm⟩ := h
  unfold optional
  rw [hmiss]
  refine ⟨some m, rfl, ?_⟩
  rintro _ ⟨⟩
  exact Nat.le_of_eq hm

/-- Rounds go on from their start. -/
theorem Rounds.le {as : List α} (h : x.Rounds text i as k) : i ≤ k := by
  induction h with
  | nil => exact Nat.le_refl _
  | cons _ hprogress _ _ ih => omega

/-- There is at most one round for every character that is left. -/
theorem Rounds.length_le {as : List α} (h : x.Rounds text i as k) :
    as.length ≤ text.length - i := by
  induction h with
  | nil => exact Nat.zero_le _
  | cons _ hprogress hwithin _ ih =>
      rw [List.length_cons]
      omega

theorem reads_upTo
    {as : List α}
    {most : Nat}
    (hrounds : x.Rounds text i as k)
    (hx : (x text k).MissesAt k)
    (hmost : as.length < most) :
    (x.upTo most text i).Reads as k := by
  induction most generalizing i as with
  | zero => omega
  | succ most ih =>
      unfold upTo
      cases hrounds with
      | nil => exact reads_bind (optional_of_misses hx) reads_pure (Nat.le_refl _)
      | cons hread hprogress hwithin hrest =>
          refine reads_bind (reads_optional hread) ?_ hrest.le
          have hothers := ih hrest (Nat.lt_of_succ_lt_succ hmost)
          exact reads_bind hothers reads_pure (Nat.le_refl _)

theorem reads_many
    {as : List α}
    (hrounds : x.Rounds text i as k)
    (hx : (x text k).MissesAt k) :
    (x.many text i).Reads as k := by
  have hlength := hrounds.length_le
  exact reads_upTo hrounds hx (by omega)

end Repetitions

section Texts

theorem reads_ended : (ended text text.length).Reads () text.length := by
  unfold ended
  rw [if_pos (Nat.le_refl _)]
  exact ⟨none, rfl, fun _ hm => nomatch hm⟩

theorem misses_ended (h : i < text.length) : (ended text i).MissesAt i := by
  unfold ended
  rw [if_neg (Nat.not_le.2 h)]
  exact misses_miss _

theorem readAll_of_reads (h : (x text 0).Reads a text.length) : x.readAll text = .ok a := by
  have hwhole : (x.whole text 0).Reads a text.length :=
    reads_bind h (reads_bind reads_ended reads_pure (Nat.le_refl _)) (Nat.le_refl _)
  obtain ⟨furthest, hread, -⟩ := hwhole
  unfold readAll
  rw [hread]

theorem readAll_of_short
    (h : (x text 0).Reads a i)
    (hi : i < text.length) :
    ∃ m, x.readAll text = .error m ∧ m.offset = i := by
  have hwhole : (x.whole text 0).MissesAt i :=
    misses_bind h (misses_bind_of_misses (misses_ended hi)) (Nat.le_refl _)
  obtain ⟨m, hmiss, hm⟩ := hwhole
  unfold readAll
  rw [hmiss]
  exact ⟨m, rfl, hm⟩

end Texts

end Reader

theorem Readers.standard_lawful : Readers.standard.Lawful where
  pure _ _ _ := ⟨none, rfl, fun _ hm => nomatch hm⟩
  offset _ _ := ⟨none, rfl, fun _ hm => nomatch hm⟩
  taking := Reader.reads_taking
  taking_misses := Reader.misses_taking
  bind := Reader.reads_bind
  bind_misses := Reader.misses_bind
  bind_misses_first := Reader.misses_bind_of_misses
  firstOf := Reader.reads_firstOf
  firstOf_misses := Reader.misses_firstOf
  optional := Reader.reads_optional
  optional_misses := Reader.optional_of_misses
  many := Reader.reads_many
  readAll := Reader.readAll_of_reads
  readAll_misses := Reader.readAll_of_short

end Resync
