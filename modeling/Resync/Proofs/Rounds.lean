import Resync.Proofs.Bounds

/-!
# Enough rounds

The rounds of a repetition, and the steps of a recovery that skips tokens, are bounded.  The bounds
are never felt: because no parser moves the cursor back, each round brings the number of matches
closer to what is asked for, or the cursor closer to the end of the source.  A run that returns
within some bound returns in the same way within every bound that leaves room for this.
-/

namespace Resync

/-- Whether a scan that returns from a cursor returns what another one does. -/
def Scan.Yields {α : Type} (src : Source) (cur : Cursor) (x y : Scan α) : Prop :=
  ∀ a cur', x src cur = .done a cur' → y src cur = .done a cur'

namespace Scan.Yields

variable {α β : Type} {src : Source} {cur : Cursor} {x : Scan α} {f g : α → Scan β}

theorem refl : Yields src cur x x := fun _ _ => id

theorem bind
    (h : ∀ a mid, x src cur = .done a mid → Yields src mid (f a) (g a)) :
    Yields src cur (x >>= f) (x >>= g) := by
  intro b cur' hrun
  obtain ⟨a, mid, ha, hb⟩ := bind_eq_done.1 hrun
  exact bind_eq_done.2 ⟨a, mid, ha, h a mid ha b cur' hb⟩

end Scan.Yields

/-- Two chains of steps that start alike end alike if what comes after does. -/
theorem Scan.bind_congr_at
    {α β : Type}
    {src : Source}
    {cur : Cursor}
    {x : Scan α}
    {f g : α → Scan β}
    (h : ∀ a mid, x src cur = .done a mid → f a src mid = g a src mid) :
    (x >>= f) src cur = (x >>= g) src cur := by
  rw [bind_apply, bind_apply]
  cases hrun : x src cur with
  | done a mid => exact h a mid hrun
  | halted cause mid => rfl

namespace Parser.Forward

open Scan (Yields)

variable {src : Source} {p q : Parser} {minimum : Nat} {maximum : Option Nat} {trailing : Bool}

/-- A repetition needs no more rounds than matches that are missing and tokens that are left. -/
theorem repeatedFrom
    {cur : Cursor}
    {bound bound' : Nat}
    {recovered : List Located}
    {outputs : List Value}
    {alt : Option Located}
    (hp : p.Forward src)
    (hbound : minimum - outputs.length + (src.size - cur.offset) < bound') :
    Yields src cur
      (Parser.repeatedFrom p minimum maximum bound recovered outputs alt)
      (Parser.repeatedFrom p minimum maximum bound' recovered outputs alt) := by
  induction bound generalizing bound' cur recovered outputs alt with
  | zero => exact fun r cur' hrun => by cases hrun
  | succ bound ih =>
      obtain ⟨more, rfl⟩ := Nat.exists_eq_succ_of_ne_zero (Nat.ne_zero_of_lt hbound)
      unfold Parser.repeatedFrom
      by_cases hfull : maximum.any (· ≤ outputs.length) = true
      · simp only [if_pos hfull]
        exact .refl
      · simp only [if_neg hfull]
        refine .bind fun before start hsave => .bind fun r mid hrun => ?_
        cases hsave
        obtain ⟨hback, hbeyond⟩ := hp cur r mid hrun
        cases r with
        | failure recovered' error => exact .refl
        | success recovered' output alt' =>
            refine .bind fun alt'' last hmerge => .bind fun after stop hsave => ?_
            obtain ⟨-, rfl⟩ := Scan.mergeAlts_eq_done.1 hmerge
            cases hsave
            by_cases hstall : minimum ≤ outputs.length ∧ last.offset = cur.offset
            · simp only [if_pos hstall]
              exact .refl
            · simp only [if_neg hstall]
              refine ih ?_
              rw [List.length_append, List.length_singleton]
              omega

/-- A separated list needs no more rounds than that either. -/
theorem separatedFrom
    {cur : Cursor}
    {bound bound' : Nat}
    {recovered : List Located}
    {outputs : List Value}
    {alt : Option Located}
    (hp : p.Forward src)
    (hq : q.Forward src)
    (hbound : minimum - outputs.length + (src.size - cur.offset) < bound') :
    Yields src cur
      (Parser.separatedFrom p q minimum trailing bound recovered outputs alt)
      (Parser.separatedFrom p q minimum trailing bound' recovered outputs alt) := by
  induction bound generalizing bound' cur recovered outputs alt with
  | zero => exact fun r cur' hrun => by cases hrun
  | succ bound ih =>
      obtain ⟨more, rfl⟩ := Nat.exists_eq_succ_of_ne_zero (Nat.ne_zero_of_lt hbound)
      unfold Parser.separatedFrom
      refine .bind fun before start hsave => .bind fun r sep hsep => ?_
      cases hsave
      obtain ⟨hback, hbeyond⟩ := hq cur r sep hsep
      cases r with
      | failure recoveredSep error => exact .refl
      | success recoveredSep output altSep =>
          refine .bind fun afterSeparator start' hsave => .bind fun r mid hrun => ?_
          cases hsave
          obtain ⟨hback', hbeyond'⟩ := hp sep r mid hrun
          cases r with
          | failure recoveredItem error => exact .refl
          | success recoveredItem output altItem =>
              refine .bind fun reached last hmerge => .bind fun alt'' last' hmerge' =>
                .bind fun after stop hsave => ?_
              obtain ⟨-, rfl⟩ := Scan.mergeAlts_eq_done.1 hmerge
              obtain ⟨-, rfl⟩ := Scan.mergeAlts_eq_done.1 hmerge'
              cases hsave
              by_cases hstall : minimum ≤ outputs.length ∧ last'.offset = cur.offset
              · simp only [if_pos hstall]
                exact .refl
              · simp only [if_neg hstall]
                refine ih ?_
                rw [List.length_append, List.length_singleton]
                omega

end Parser.Forward

namespace Strategy

variable {src : Source} {p : Parser} {sentinels : List Value}
variable {recovered : List Located} {fatal : Located}

/-- A parser that is tried and fails leaves the cursor where it was. -/
theorem offset_of_tryParse_failure
    {cur cur' : Cursor}
    {error : Located}
    (hrun : Scan.tryParse p src cur = .done (.failure recovered error) cur') :
    cur'.offset = cur.offset := by
  rw [Scan.tryParse_apply] at hrun
  cases hp : p src cur with
  | halted cause mid =>
      rw [hp] at hrun
      cases hrun
  | done r mid =>
      rw [hp] at hrun
      cases r with
      | success recovered' output alt => cases hrun
      | failure recovered' error' =>
          cases hrun
          rfl

/-- Skipping needs no more steps than tokens that are left: whatever it comes to, with more steps it
comes to the same. -/
theorem skipAndRetry_eq
    {remaining remaining' skipped : Nat}
    {cur : Cursor}
    (h : src.size - cur.offset ≤ remaining)
    (h' : src.size - cur.offset ≤ remaining') :
    skipAndRetry p sentinels recovered fatal remaining skipped src cur =
      skipAndRetry p sentinels recovered fatal remaining' skipped src cur := by
  induction remaining generalizing remaining' skipped cur with
  | zero =>
      unfold skipAndRetry
      refine Scan.bind_congr_at fun seen mid hpeek => ?_
      cases hpeek
      cases remaining' with
      | zero => rfl
      | succ remaining' =>
          have hnull : (src.sighting cur.offset).token = .null := by
            by_contra htoken
            have hsize := src.lt_size_of_token htoken
            omega
          simp only [hnull, true_or, if_true]
  | succ remaining ih =>
      unfold skipAndRetry
      refine Scan.bind_congr_at fun seen mid hpeek => ?_
      cases hpeek
      by_cases hstop :
          (src.sighting cur.offset).token = .null ∨ (src.sighting cur.offset).token ∈ sentinels
      · cases remaining' with
        | zero => simp only [if_pos hstop]
        | succ remaining' => simp only [if_pos hstop]
      · have hsize : cur.offset < src.size :=
          src.lt_size_of_token fun hnull => hstop (Or.inl hnull)
        cases remaining' with
        | zero => omega
        | succ remaining' =>
            simp only [if_neg hstop]
            refine Scan.bind_congr_at fun _ start hrevert =>
              Scan.bind_congr_at fun r last htry => ?_
            cases hrevert
            cases r with
            | success recovered' output alt => rfl
            | failure recovered' error =>
                have hoffset : last.offset = cur.offset + 1 :=
                  (offset_of_tryParse_failure htry).trans
                    (congrArg (· + 1) (src.sighting_position cur.offset))
                exact ih (by omega) (by omega)

theorem skipAndRetry_yields
    {remaining remaining' skipped : Nat}
    {cur : Cursor}
    (h : src.size - cur.offset ≤ remaining)
    (h' : src.size - cur.offset ≤ remaining') :
    Scan.Yields src cur
      (skipAndRetry p sentinels recovered fatal remaining skipped)
      (skipAndRetry p sentinels recovered fatal remaining' skipped) :=
  fun _ _ hrun => skipAndRetry_eq h h' ▸ hrun

end Strategy

/-- A recovery starts where the parser that failed did. -/
theorem Parser.recoverWith_of_failure
    {src : Source}
    {p : Parser}
    {cur mid : Cursor}
    {recovered : List Located}
    {fatal : Located}
    (hfails : p src cur = .done (.failure recovered fatal) mid)
    (s : Strategy) :
    ∃ cur', cur'.offset = cur.offset ∧
      p.recoverWith s src cur = s.recover p recovered fatal src cur' := by
  unfold recoverWith
  rw [Scan.bind_apply, Scan.tryParse_apply, hfails]
  refine ⟨_, ?_, rfl⟩
  rfl

end Resync
