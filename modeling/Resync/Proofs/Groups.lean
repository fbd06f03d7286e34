import Resync.Proofs.Bounds

/-!
# Groups of delimiters

What is a group of delimiters is said here by counting, without a walk over the tokens.  The tokens
from a position on are level at a later one if there are as many openings as closings between the
two, and more openings than closings at all places in between.  A balanced group is level and has an
opening.  It begins with it then, and there is at most one such group at a position.

On the way to the end of a group more was opened than closed since it began: the group is open
there.
-/

namespace Resync
namespace Source

variable (src : Source)

/-- How many of the tokens from `start` on, before `stop`, pass a test. -/
def count (test : Value → Bool) (start stop : Nat) : Nat :=
  ((src.rest start).take (stop - start)).countP fun entry => test entry.1

/-- Whether the tokens from `start` on, before `stop`, hold as many openings as closings, and every
shorter stretch from `start` on more openings than closings, the empty one apart. -/
structure Level (opening closing : Value) (start stop : Nat) : Prop where
  start_le : start ≤ stop
  le_limit : stop ≤ src.limit start
  count_eq : src.count (· = opening) start stop = src.count (· = closing) start stop
  count_lt : ∀ i, start < i → i < stop →
    src.count (· = closing) start i < src.count (· = opening) start i

/-- Whether the tokens from `start` on, before `stop`, are a balanced group: they are level, and
there is an opening among them. -/
structure Balanced (opening closing : Value) (start stop : Nat) : Prop
    extends src.Level opening closing start stop where
  opens : 0 < src.count (· = opening) start stop

/-- Whether a group that is opened at `start` is still open at `i`. -/
structure Open (opening closing : Value) (start i : Nat) : Prop where
  start_lt : start < i
  le_limit : i ≤ src.limit start
  count_lt : ∀ j, start < j → j ≤ i →
    src.count (· = closing) start j < src.count (· = opening) start j

/-- Whether the group that is opened at `start` is open at `i`, and no other one within it. -/
structure Alone (opening closing : Value) (start i : Nat) : Prop
    extends src.Open opening closing start i where
  count_eq : src.count (· = opening) start i = src.count (· = closing) start i + 1

variable {src} {opening closing : Value} {test : Value → Bool} {start stop i : Nat}

section Counts

@[simp] theorem count_self : src.count test start start = 0 := by
  simp [count]

/-- One more token counts if it passes the test. -/
theorem count_succ
    (hstart : start ≤ i)
    (htoken : (src.sighting i).token ≠ .null) :
    src.count test start (i + 1) =
      src.count test start i + if test (src.sighting i).token then 1 else 0 := by
  have hindex : i + 1 - start = i - start + 1 := by omega
  unfold count
  rw [sighting_eq hstart] at htoken ⊢
  rw [hindex, List.take_add_one, List.countP_append]
  cases hentry : (src.rest start)[i - start]? with
  | none =>
      rw [hentry] at htoken
      exact absurd rfl htoken
  | some entry => simp [List.countP_singleton]

theorem count_succ_of_pass
    (hstart : start ≤ i)
    (htoken : (src.sighting i).token ≠ .null)
    (hpass : test (src.sighting i).token = true) :
    src.count test start (i + 1) = src.count test start i + 1 := by
  rw [count_succ hstart htoken, if_pos hpass]

theorem count_succ_of_fail
    (hstart : start ≤ i)
    (htoken : (src.sighting i).token ≠ .null)
    (hfail : test (src.sighting i).token = false) :
    src.count test start (i + 1) = src.count test start i := by
  rw [count_succ hstart htoken, hfail]
  rfl

theorem count_first_of_fail
    (htoken : (src.sighting start).token ≠ .null)
    (hfail : test (src.sighting start).token = false) :
    src.count test start (start + 1) = 0 := by
  rw [count_succ_of_fail (Nat.le_refl _) htoken hfail, count_self]

/-- An opening counts as such, and not as a closing. -/
theorem counts_succ_of_opening
    (hdiffer : opening ≠ closing)
    (hstart : start ≤ i)
    (htoken : (src.sighting i).token ≠ .null)
    (hopening : (src.sighting i).token = opening) :
    src.count (· = opening) start (i + 1) = src.count (· = opening) start i + 1 ∧
      src.count (· = closing) start (i + 1) = src.count (· = closing) start i := by
  constructor
  · exact count_succ_of_pass hstart htoken (by simpa using hopening)
  · exact count_succ_of_fail hstart htoken (by simpa [hopening] using hdiffer)

/-- A closing counts as such, and not as an opening. -/
theorem counts_succ_of_closing
    (hdiffer : opening ≠ closing)
    (hstart : start ≤ i)
    (htoken : (src.sighting i).token ≠ .null)
    (hclosing : (src.sighting i).token = closing) :
    src.count (· = opening) start (i + 1) = src.count (· = opening) start i ∧
      src.count (· = closing) start (i + 1) = src.count (· = closing) start i + 1 := by
  constructor
  · exact count_succ_of_fail hstart htoken (by simpa [hclosing] using hdiffer.symm)
  · exact count_succ_of_pass hstart htoken (by simpa using hclosing)

end Counts

section Limits

theorem start_le_limit : start ≤ src.limit start := limit_isLeast.1.1

/-- There are tokens up to the limit. -/
theorem token_ne_null (hstart : start ≤ i) (hi : i < src.limit start) :
    (src.sighting i).token ≠ .null :=
  fun hnull => Nat.not_lt.2 (limit_isLeast.2 ⟨hstart, hnull⟩) hi

/-- A place before another one that is not beyond the limit has a token. -/
theorem token_start_ne_null (hlt : start < i) (hi : i ≤ src.limit start) :
    (src.sighting start).token ≠ .null :=
  token_ne_null (Nat.le_refl _) (Nat.lt_of_lt_of_le hlt hi)

/-- A place without a token, if it is not beyond the limit, is the limit. -/
theorem eq_limit_of_null
    (hstart : start ≤ i)
    (hi : i ≤ src.limit start)
    (hnull : (src.sighting i).token = .null) :
    i = src.limit start :=
  Nat.le_antisymm hi (limit_isLeast.2 ⟨hstart, hnull⟩)

theorem lt_limit_of_token
    (hi : i ≤ src.limit start)
    (htoken : (src.sighting i).token ≠ .null) :
    i < src.limit start := by
  refine Nat.lt_of_le_of_ne hi ?_
  rintro rfl
  exact htoken limit_isLeast.1.2

end Limits

/-- Behind its opening a group is the only one that is open. -/
theorem Alone.begin
    (hdiffer : opening ≠ closing)
    (htoken : (src.sighting start).token ≠ .null)
    (hopening : (src.sighting start).token = opening) :
    src.Alone opening closing start (start + 1) := by
  obtain ⟨hopened, hclosed⟩ := counts_succ_of_opening hdiffer (Nat.le_refl start) htoken hopening
  rw [count_self] at hopened hclosed
  refine ⟨⟨Nat.lt_succ_self _, lt_limit_of_token start_le_limit htoken, ?_⟩, ?_⟩
  · intro j hj hle
    obtain rfl : j = start + 1 := by omega
    rw [hclosed, hopened]
    exact Nat.zero_lt_one
  · rw [hclosed, hopened]

namespace Open

/-- A group stays open behind a token unless that closes as much as was opened. -/
theorem succ
    (h : src.Open opening closing start i)
    (htoken : (src.sighting i).token ≠ .null)
    (hcount : src.count (· = closing) start (i + 1) < src.count (· = opening) start (i + 1)) :
    src.Open opening closing start (i + 1) := by
  refine ⟨Nat.lt_succ_of_lt h.start_lt, lt_limit_of_token h.le_limit htoken, ?_⟩
  intro j hj hle
  rcases Nat.lt_or_eq_of_le hle with hlt | rfl
  · exact h.count_lt j hj (Nat.le_of_lt_succ hlt)
  · exact hcount

/-- Only an opening opens a group. -/
theorem token_start (h : src.Open opening closing start i) :
    (src.sighting start).token = opening := by
  have htoken : (src.sighting start).token ≠ .null :=
    token_start_ne_null h.start_lt h.le_limit
  by_contra hopening
  have hnone : src.count (· = opening) start (start + 1) = 0 :=
    count_first_of_fail htoken (by simpa using hopening)
  have hcount := h.count_lt (start + 1) (Nat.lt_succ_self _) h.start_lt
  omega

end Open

/-- Behind a token that is no delimiter a group is still the only one that is open. -/
theorem Alone.other
    (h : src.Alone opening closing start i)
    (htoken : (src.sighting i).token ≠ .null)
    (hopening : (src.sighting i).token ≠ opening)
    (hclosing : (src.sighting i).token ≠ closing) :
    src.Alone opening closing start (i + 1) := by
  have hstart : start ≤ i := Nat.le_of_lt h.start_lt
  have hopened : src.count (· = opening) start (i + 1) = src.count (· = opening) start i :=
    count_succ_of_fail hstart htoken (by simpa using hopening)
  have hclosed : src.count (· = closing) start (i + 1) = src.count (· = closing) start i :=
    count_succ_of_fail hstart htoken (by simpa using hclosing)
  have hequal : src.count (· = opening) start (i + 1) =
      src.count (· = closing) start (i + 1) + 1 := by
    rw [hopened, hclosed, h.count_eq]
  exact ⟨h.toOpen.succ htoken (hequal ▸ Nat.lt_succ_self _), hequal⟩

namespace Balanced

variable {stop' : Nat}

theorem start_lt (h : src.Balanced opening closing start stop) : start < stop := by
  refine Nat.lt_of_le_of_ne h.start_le ?_
  rintro rfl
  exact absurd h.opens (by simp)

/-- A group is balanced behind the closing delimiter of the last of its openings. -/
theorem of_alone
    (h : src.Alone opening closing start i)
    (hdiffer : opening ≠ closing)
    (htoken : (src.sighting i).token ≠ .null)
    (hclosing : (src.sighting i).token = closing) :
    src.Balanced opening closing start (i + 1) := by
  have hstart : start ≤ i := Nat.le_of_lt h.start_lt
  obtain ⟨hopened, hclosed⟩ := counts_succ_of_closing hdiffer hstart htoken hclosing
  refine ⟨⟨Nat.le_succ_of_le hstart, lt_limit_of_token h.le_limit htoken, ?_, ?_⟩, ?_⟩
  · rw [hopened, hclosed, h.count_eq]
  · exact fun j hj hlt => h.count_lt j hj (Nat.le_of_lt_succ hlt)
  · rw [hopened, h.count_eq]
    exact Nat.succ_pos _

/-- A group that is still open is not balanced before. -/
theorem lt_of_open
    (h : src.Balanced opening closing start stop)
    (hopen : src.Open opening closing start i) :
    i < stop := by
  by_contra hle
  have hcount := hopen.count_lt stop h.start_lt (Nat.le_of_not_lt hle)
  rw [h.count_eq] at hcount
  exact Nat.lt_irrefl _ hcount

/-- A balanced group begins with an opening: a single token is none. -/
theorem token_start (h : src.Balanced opening closing start stop) :
    (src.sighting start).token = opening := by
  have htoken : (src.sighting start).token ≠ .null :=
    token_start_ne_null h.start_lt h.le_limit
  by_contra hopening
  have hnone : src.count (· = opening) start (start + 1) = 0 :=
    count_first_of_fail htoken (by simpa using hopening)
  rcases Nat.lt_or_eq_of_le h.start_lt with hlt | heq
  · have hcount := h.count_lt (start + 1) (Nat.lt_succ_self _) hlt
    omega
  · have hopens := h.opens
    rw [← heq] at hopens
    exact absurd hopens (by rw [Nat.succ_eq_add_one, hnone]; exact Nat.lt_irrefl 0)

/-- A balanced group ends with a closing, which is not the token that it begins with. -/
theorem exists_last
    (h : src.Balanced opening closing start stop)
    (hdiffer : opening ≠ closing) :
    ∃ last, stop = last + 1 ∧ start < last ∧ (src.sighting last).token = closing := by
  obtain ⟨last, rfl⟩ : ∃ last, stop = last + 1 :=
    Nat.exists_eq_succ_of_ne_zero (Nat.ne_zero_of_lt h.start_lt)
  have hstart : start ≤ last := Nat.le_of_lt_succ h.start_lt
  have htoken : (src.sighting last).token ≠ .null := token_ne_null hstart h.le_limit
  have hclosing : (src.sighting last).token = closing := by
    by_contra hother
    have hclosed : src.count (· = closing) start (last + 1) = src.count (· = closing) start last :=
      count_succ_of_fail hstart htoken (by simpa using hother)
    have hopened :
        src.count (· = opening) start last ≤ src.count (· = opening) start (last + 1) := by
      rw [count_succ hstart htoken]
      exact Nat.le_add_right _ _
    have hequal := h.count_eq
    have hopens := h.opens
    rcases Nat.lt_or_eq_of_le hstart with hlt | rfl
    · have hcount := h.count_lt last hlt (Nat.lt_succ_self _)
      omega
    · rw [count_self] at hclosed
      omega
  refine ⟨last, rfl, Nat.lt_of_le_of_ne hstart ?_, hclosing⟩
  rintro rfl
  exact hdiffer (h.token_start.symm.trans hclosing)

/-- At most one balanced group begins at a position. -/
theorem unique
    (h : src.Balanced opening closing start stop)
    (h' : src.Balanced opening closing start stop') :
    stop = stop' := by
  rcases Nat.lt_trichotomy stop stop' with hlt | heq | hlt
  · have hcount := h'.count_lt stop h.start_lt hlt
    rw [h.count_eq] at hcount
    exact absurd hcount (Nat.lt_irrefl _)
  · exact heq
  · have hcount := h.count_lt stop' h'.start_lt hlt
    rw [h'.count_eq] at hcount
    exact absurd hcount (Nat.lt_irrefl _)

end Balanced
end Source
end Resync
