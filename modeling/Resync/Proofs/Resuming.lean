import Resync.Proofs.Pulled
import Resync.Proofs.Rounds

/-!
# Resuming after skipped tokens

A recovery that skips tokens resumes at the first place where the parser succeeds, up to the
barrier, which is the first sentinel or the limit of the input.  The token at the barrier is not
skipped, but the parser is tried there like anywhere else.

What a parser answers at a place is a property of the place, if runs that start at the same offset
return the same.  For grammars this is so.  Skipping over places where the parser fails is one step
that is repeated, and it ends at the first place where the parser succeeds, or at the barrier.
-/

namespace Resync

namespace Source

section Barriers

variable (src : Source) (sentinels : List Value)

/-- Whether no token is skipped at a place: it is a sentinel, or there is none. -/
def Stops (i : Nat) : Prop := (src.sighting i).token = .null ∨ (src.sighting i).token ∈ sentinels

/-- Where skipping stops that starts at `start`: at the first sentinel from there on, or where the
input ends. -/
def barrier (start : Nat) : Nat :=
  src.first (fun token => token = .null ∨ token ∈ sentinels) start

variable {src sentinels} {start i : Nat}

/-- The barrier is the first place where no token is skipped. -/
theorem barrier_isLeast :
    IsLeast {i | start ≤ i ∧ src.Stops sentinels i} (src.barrier sentinels start) := by
  have hfirst := first_isLeast src start (fun token => token = .null ∨ token ∈ sentinels) (by simp)
  simp only [decide_eq_true_eq] at hfirst
  exact hfirst

theorem stops_barrier : src.Stops sentinels (src.barrier sentinels start) := barrier_isLeast.1.2

/-- Everything before the barrier is skipped. -/
theorem not_stops_of_lt_barrier (hstart : start ≤ i) (hi : i < src.barrier sentinels start) :
    ¬ src.Stops sentinels i :=
  fun hstop => Nat.not_lt.2 (barrier_isLeast.2 ⟨hstart, hstop⟩) hi

end Barriers
end Source

namespace Parser

section Answers

variable (p : Parser) (src : Source)

/-- What a parser answers at a place, and where it leaves the cursor, if nothing was taken from the
source before. -/
def Answers (start : Nat) (r : Result) (stop : Nat) : Prop :=
  ∃ cur', p src ⟨start, 0, []⟩ = .done r cur' ∧ cur'.offset = stop

/-- Whether a parser succeeds at a place. -/
def Succeeds (start : Nat) : Prop :=
  ∃ recovered output alt stop, p.Answers src start (.success recovered output alt) stop

/-- Whether a parser fails at a place. -/
def Fails (start : Nat) : Prop :=
  ∃ recovered error stop, p.Answers src start (.failure recovered error) stop

/-- Whether runs of a parser that start at the same offset return the same. -/
def Steady : Prop :=
  ∀ ⦃c d c' : Cursor⦄ ⦃r : Result⦄, d.offset = c.offset → p src c = .done r c' →
    ∃ d', p src d = .done r d' ∧ d'.offset = c'.offset

end Answers

variable {p : Parser} {src : Source} {cur : Cursor} {start stop : Nat} {r : Result}

/-- No parser both succeeds and fails at a place. -/
theorem Fails.not_succeeds (h : p.Fails src start) : ¬ p.Succeeds src start := by
  rintro ⟨recovered', output, alt, stop', last, hsucceeds, -⟩
  obtain ⟨recovered, error, stop, last', hfails, -⟩ := h
  cases hsucceeds.symm.trans hfails

/-- A parser answers one thing at a place. -/
theorem Answers.unique
    {r' : Result}
    {stop' : Nat}
    (h : p.Answers src start r stop)
    (h' : p.Answers src start r' stop') :
    r = r' ∧ stop = stop' := by
  obtain ⟨last, hrun, rfl⟩ := h
  obtain ⟨last', hrun', rfl⟩ := h'
  cases hrun.symm.trans hrun'
  exact ⟨rfl, rfl⟩

theorem Forward.le_of_answers (h : p.Forward src) (hanswers : p.Answers src start r stop) :
    start ≤ stop := by
  obtain ⟨last, hrun, rfl⟩ := hanswers
  exact (h _ _ _ hrun).1

/-- A parser fails at all places between two others, or there is a first one where it does not. -/
theorem fails_or_first (p : Parser) (src : Source) (start stop : Nat) :
    (∀ k, start < k → k ≤ stop → p.Fails src k) ∨
      ∃ k, start < k ∧ k ≤ stop ∧ ¬ p.Fails src k ∧ ∀ i, start < i → i < k → p.Fails src i := by
  classical
  by_cases hfound : ∃ k, start < k ∧ k ≤ stop ∧ ¬ p.Fails src k
  · obtain ⟨hback, hk, hnot⟩ := Nat.find_spec hfound
    refine Or.inr ⟨Nat.find hfound, hback, hk, hnot, fun i hi hlt => ?_⟩
    by_contra hfails
    exact Nat.find_min hfound hlt ⟨hi, Nat.le_trans (Nat.le_of_lt hlt) hk, hfails⟩
  · refine Or.inl fun k hback hk => ?_
    by_contra hfails
    exact hfound ⟨k, hback, hk, hfails⟩

/-- What a parser answers at a place it answers from wherever it starts there. -/
theorem Answers.run
    (h : p.Answers src start r stop)
    (hsteady : p.Steady src)
    (hoffset : cur.offset = start) :
    ∃ cur', p src cur = .done r cur' ∧ cur'.offset = stop := by
  obtain ⟨mid, hrun, hmid⟩ := h
  obtain ⟨cur', hrun', hcur'⟩ := hsteady hoffset hrun
  exact ⟨cur', hrun', hcur'.trans hmid⟩

/-- Whatever run returns shows what the parser answers there. -/
theorem Steady.answers
    {cur' : Cursor}
    (hsteady : p.Steady src)
    (hrun : p src cur = .done r cur') :
    p.Answers src cur.offset r cur'.offset :=
  hsteady (c := cur) (d := ⟨cur.offset, 0, []⟩) rfl hrun

/-- The runs of a parser that start at a place return what it answers there. -/
theorem Steady.done_iff (hsteady : p.Steady src) :
    (∃ cur', p src cur = .done r cur' ∧ cur'.offset = stop) ↔
      p.Answers src cur.offset r stop := by
  constructor
  · rintro ⟨cur', hrun, rfl⟩
    exact hsteady.answers hrun
  · exact fun h => h.run hsteady rfl

section Options

variable {i j : Nat} {recovered : List Located} {output : Value} {alt : Option Located}

theorem Answers.optional_of_success (h : p.Answers src i (.success recovered output alt) j) :
    p.optional.Answers src i (.success recovered output alt) j := by
  obtain ⟨cur', hrun, hcur'⟩ := h
  exact ⟨cur', Parser.optional_of_success hrun, hcur'⟩

theorem Answers.optional_of_failure
    {error : Located}
    (h : p.Answers src i (.failure recovered error) j) :
    p.optional.Answers src i (.success [] .null (some error)) i := by
  obtain ⟨cur', hrun, -⟩ := h
  exact ⟨cur'.moved i, Parser.optional_of_failure hrun, rfl⟩

/-- What is optional answers as it does where it succeeds, and is left out where it fails. -/
theorem Answers.of_optional
    {r : Result}
    (h : p.optional.Answers src i r j) :
    (∃ recovered output alt, p.Answers src i r j ∧ r = .success recovered output alt) ∨
      ∃ recovered error stop, p.Answers src i (.failure recovered error) stop ∧
        r = .success [] .null (some error) ∧ j = i := by
  obtain ⟨cur', hrun, hcur'⟩ := h
  rcases optional_done hrun with ⟨_, _, _, hp, rfl⟩ | ⟨_, _, mid, hp, hmoved, rfl⟩
  · exact Or.inl ⟨_, _, _, ⟨cur', hp, hcur'⟩, rfl⟩
  · rw [hmoved] at hcur'
    exact Or.inr ⟨_, _, _, ⟨mid, hp, rfl⟩, rfl, hcur'.symm⟩

/-- What is optional depends on no more of the cursor than the parser. -/
theorem Steady.optional (h : p.Steady src) : p.optional.Steady src := by
  intro c d c' r hoffset hrun
  rcases optional_done hrun with ⟨_, _, _, hp, rfl⟩ | ⟨_, _, mid, hp, rfl, rfl⟩
  · obtain ⟨d', hp', hd'⟩ := h hoffset hp
    exact ⟨d', Parser.optional_of_success hp', hd'⟩
  · obtain ⟨d', hp', -⟩ := h hoffset hp
    exact ⟨d'.moved d.offset, Parser.optional_of_failure hp', hoffset⟩

end Options

end Parser

namespace Strategy

variable {p : Parser} {src : Source} {sentinels : List Value}
variable {recovered : List Located} {fatal : Located} {remaining skipped : Nat} {cur : Cursor}

section Steps

variable (p recovered fatal remaining skipped) in
/-- Skipping one token: the parser is tried behind it. -/
theorem skipAndRetry_succ (hpasses : ¬ src.Stops sentinels cur.offset) :
    ∃ mid : Cursor, mid.offset = cur.offset + 1 ∧
      skipAndRetry p sentinels recovered fatal (remaining + 1) skipped src cur =
        match p src mid with
        | .done (.success recovered' output alt) cur' =>
            .done (.success (recovered' ++ [fatal]) output alt)
              { cur' with trail := .skipped cur'.offset (skipped + 1) :: cur'.trail }
        | .done (.failure _ _) cur' =>
            skipAndRetry p sentinels recovered fatal remaining (skipped + 1) src
              (cur'.moved mid.offset)
        | .halted cause cur' => .halted cause cur' := by
  refine ⟨(cur.looked src cur.offset).moved (cur.offset + 1), rfl, ?_⟩
  unfold Source.Stops at hpasses
  rw [skipAndRetry]
  simp only [Scan.bind_apply, Scan.peek_apply]
  rw [if_neg hpasses]
  simp only [Scan.bind_apply, Scan.revert_apply, Source.sighting_position, Scan.tryParse_apply]
  cases p src ((cur.looked src cur.offset).moved (cur.offset + 1)) with
  | halted cause cur' => rfl
  | done r cur' =>
      cases r with
      | success recovered' output alt => rfl
      | failure recovered' error => rfl

/-- Where the token is not skipped, the recovery fails. -/
theorem skipAndRetry_of_stops (hstop : src.Stops sentinels cur.offset) :
    ∃ cur', skipAndRetry p sentinels recovered fatal remaining skipped src cur =
        .done (.failure recovered fatal) cur' ∧
      cur'.offset = cur.offset ∧
      cur'.trail.head? = some (.skippedInVain cur.offset skipped) := by
  unfold Source.Stops at hstop
  rw [skipAndRetry]
  simp only [Scan.bind_apply, Scan.peek_apply]
  cases remaining with
  | zero => exact ⟨_, rfl, rfl, rfl⟩
  | succ remaining =>
      simp only
      rw [if_pos hstop]
      exact ⟨_, rfl, rfl, rfl⟩

end Steps

section Runs

variable {k stop : Nat} {r : Result}

/-- Skipping goes on over places where the parser fails. -/
theorem skipAndRetry_add
    (hsteady : p.Steady src)
    (n : Nat)
    (hpasses : ∀ i, cur.offset ≤ i → i < cur.offset + n → ¬ src.Stops sentinels i)
    (hfails : ∀ i, cur.offset < i → i ≤ cur.offset + n → p.Fails src i) :
    ∃ cur' : Cursor, cur'.offset = cur.offset + n ∧
      skipAndRetry p sentinels recovered fatal (remaining + n) skipped src cur =
        skipAndRetry p sentinels recovered fatal remaining (skipped + n) src cur' := by
  induction n generalizing skipped cur with
  | zero => exact ⟨cur, rfl, rfl⟩
  | succ n ih =>
      obtain ⟨mid, hmid, hstep⟩ := skipAndRetry_succ p recovered fatal (remaining + n) skipped
        (hpasses cur.offset (Nat.le_refl _) (by omega))
      obtain ⟨recovered', error, stop, hanswers⟩ := hfails (cur.offset + 1) (by omega) (by omega)
      obtain ⟨last, hrun, -⟩ := hanswers.run hsteady hmid
      rw [hrun] at hstep
      have hlast : (last.moved mid.offset).offset = cur.offset + 1 := hmid
      obtain ⟨cur', hcur', hrest⟩ := @ih (skipped + 1) (last.moved mid.offset)
        (fun i hi hlt => hpasses i (by omega) (by omega))
        (fun i hi hle => hfails i (by omega) (by omega))
      rw [Nat.add_right_comm, Nat.add_assoc] at hrest
      exact ⟨cur', by omega, hstep.trans hrest⟩

variable (recovered fatal) in
/-- The recovery comes to every place up to the barrier before which the parser fails. -/
theorem skipThenRetry_reaches
    (hsteady : p.Steady src)
    (hback : cur.offset ≤ k)
    (hk : k ≤ src.barrier sentinels cur.offset)
    (hfails : ∀ i, cur.offset < i → i ≤ k → p.Fails src i) :
    ∃ cur' : Cursor, cur'.offset = k ∧
      (skipThenRetry sentinels).recover p recovered fatal src cur =
        skipAndRetry p sentinels recovered fatal (src.size - cur.offset + 1) (k - cur.offset) src
          cur' := by
  obtain ⟨n, rfl⟩ := Nat.exists_eq_add_of_le hback
  obtain ⟨cur', hcur', hrun⟩ := skipAndRetry_add hsteady n
    (fun i hi hlt => Source.not_stops_of_lt_barrier hi (Nat.lt_of_lt_of_le hlt hk)) hfails
  refine ⟨cur', hcur', ?_⟩
  rw [Nat.add_sub_cancel_left, ← Nat.zero_add n, ← hrun]
  exact skipAndRetry_eq (Nat.le_refl _) (by omega)

variable (recovered fatal) in
/-- What the recovery comes to where the parser did not succeed before. -/
theorem skipThenRetry_at
    (hsteady : p.Steady src)
    (hback : cur.offset < k)
    (hk : k ≤ src.barrier sentinels cur.offset)
    (hfails : ∀ i, cur.offset < i → i < k → p.Fails src i) :
    ∃ mid : Cursor, mid.offset = k ∧
      (skipThenRetry sentinels).recover p recovered fatal src cur =
        match p src mid with
        | .done (.success recovered' output alt) cur' =>
            .done (.success (recovered' ++ [fatal]) output alt)
              { cur' with trail := .skipped cur'.offset (k - cur.offset) :: cur'.trail }
        | .done (.failure _ _) cur' =>
            skipAndRetry p sentinels recovered fatal (src.size - cur.offset) (k - cur.offset) src
              (cur'.moved k)
        | .halted cause cur' => .halted cause cur' := by
  obtain ⟨before, rfl⟩ := Nat.exists_eq_succ_of_ne_zero (Nat.ne_zero_of_lt hback)
  have hbefore := Nat.le_of_lt_succ hback
  obtain ⟨last, rfl, hrun⟩ := skipThenRetry_reaches recovered fatal hsteady hbefore
    (Nat.le_of_lt hk) fun i hi hle => hfails i hi (Nat.lt_succ_of_le hle)
  obtain ⟨mid, hmid, hstep⟩ := skipAndRetry_succ p recovered fatal (src.size - cur.offset)
    (last.offset - cur.offset) (Source.not_stops_of_lt_barrier hbefore hk)
  rw [hmid] at hstep
  rw [Nat.succ_sub hbefore]
  exact ⟨mid, hmid, hrun.trans hstep⟩

variable (recovered fatal) in
/-- At the first place where the parser succeeds the recovery does so, too. -/
theorem skipThenRetry_succeeds
    {recovered' : List Located}
    {output : Value}
    {alt : Option Located}
    (hsteady : p.Steady src)
    (hback : cur.offset < k)
    (hk : k ≤ src.barrier sentinels cur.offset)
    (hfails : ∀ i, cur.offset < i → i < k → p.Fails src i)
    (hanswers : p.Answers src k (.success recovered' output alt) stop) :
    ∃ cur', (skipThenRetry sentinels).recover p recovered fatal src cur =
        .done (.success (recovered' ++ [fatal]) output alt) cur' ∧
      cur'.offset = stop ∧
      cur'.trail.head? = some (.skipped stop (k - cur.offset)) := by
  obtain ⟨mid, hmid, hrecover⟩ := skipThenRetry_at recovered fatal hsteady hback hk hfails
  obtain ⟨last, hrun, rfl⟩ := hanswers.run hsteady hmid
  rw [hrun] at hrecover
  exact ⟨_, hrecover, rfl, rfl⟩

variable (recovered fatal) in
/-- Where the parser fails at all places up to the barrier, the recovery fails there. -/
theorem skipThenRetry_fails
    (hsteady : p.Steady src)
    (hfails : ∀ i, cur.offset < i → i ≤ src.barrier sentinels cur.offset → p.Fails src i) :
    ∃ cur', (skipThenRetry sentinels).recover p recovered fatal src cur =
        .done (.failure recovered fatal) cur' ∧
      cur'.offset = src.barrier sentinels cur.offset ∧
      cur'.trail.head? = some
        (.skippedInVain (src.barrier sentinels cur.offset)
          (src.barrier sentinels cur.offset - cur.offset)) := by
  obtain ⟨last, hlast, hrecover⟩ := skipThenRetry_reaches recovered fatal hsteady
    Source.barrier_isLeast.1.1 (Nat.le_refl _) hfails
  have hstop : src.Stops sentinels last.offset := hlast ▸ Source.stops_barrier
  rw [hrecover, ← hlast]
  exact skipAndRetry_of_stops hstop

/-- If the recovery returns, it is no clean success, and it is a success if and only if the parser
succeeds at one of the places up to the barrier. -/
theorem skipThenRetry_done
    {cur' : Cursor}
    (hsteady : p.Steady src)
    (hrun : (skipThenRetry sentinels).recover p recovered fatal src cur = .done r cur') :
    r.isClean = false ∧
      (r.isSuccess = true ↔
        ∃ k, cur.offset < k ∧ k ≤ src.barrier sentinels cur.offset ∧ p.Succeeds src k) := by
  rcases p.fails_or_first src cur.offset (src.barrier sentinels cur.offset) with
    hfails | ⟨k, hback, hk, hnot, hbefore⟩
  · obtain ⟨last, hrecover, -⟩ := skipThenRetry_fails recovered fatal hsteady hfails
    cases hrun.symm.trans hrecover
    refine ⟨rfl, iff_of_false Bool.false_ne_true ?_⟩
    rintro ⟨k, hback, hk, hsucceeds⟩
    exact (hfails k hback hk).not_succeeds hsucceeds
  · obtain ⟨mid, rfl, hrecover⟩ := skipThenRetry_at recovered fatal hsteady hback hk hbefore
    cases hp : p src mid with
    | halted cause last =>
        rw [hp] at hrecover
        cases hrun.symm.trans hrecover
    | done result last =>
        rw [hp] at hrecover
        cases result with
        | failure recovered' error =>
            exact absurd ⟨recovered', error, last.offset, hsteady.answers hp⟩ hnot
        | success recovered' output alt =>
            cases hrun.symm.trans hrecover
            refine ⟨?_, iff_of_true rfl ⟨mid.offset, hback, hk, ?_⟩⟩
            · cases recovered' with
              | nil => rfl
              | cons l recovered' => rfl
            · exact ⟨recovered', output, alt, last.offset, hsteady.answers hp⟩

variable (recovered fatal) in
/-- The recovery returns if the parser does at all places up to the barrier. -/
theorem skipThenRetry_returns
    (hsteady : p.Steady src)
    (hreturns : ∀ k, cur.offset < k → k ≤ src.barrier sentinels cur.offset →
      ∃ r stop, p.Answers src k r stop) :
    ∃ r cur', (skipThenRetry sentinels).recover p recovered fatal src cur = .done r cur' := by
  rcases p.fails_or_first src cur.offset (src.barrier sentinels cur.offset) with
    hfails | ⟨k, hback, hk, hnot, hbefore⟩
  · obtain ⟨cur', hrecover, -⟩ := skipThenRetry_fails recovered fatal hsteady hfails
    exact ⟨_, cur', hrecover⟩
  · obtain ⟨r, stop, hanswers⟩ := hreturns k hback hk
    cases r with
    | failure recovered' error => exact absurd ⟨recovered', error, stop, hanswers⟩ hnot
    | success recovered' output alt =>
        obtain ⟨cur', hrecover, -⟩ :=
          skipThenRetry_succeeds recovered fatal hsteady hback hk hbefore hanswers
        exact ⟨_, cur', hrecover⟩

end Runs
end Strategy

namespace Environment

variable {env : Environment} {g : Grammar} {src : Source}

/-- What a grammar answers depends on no more of the cursor than its offset. -/
theorem parser_steady : (env.parser g).Steady src := by
  intro c d c' r hoffset hrun
  obtain ⟨d', hrun', hd', -⟩ := parser_again hrun hoffset
  exact ⟨d', hrun', hd'⟩

/-- **The first place to resume.**  Let a grammar fail, and let it be recovered by skipping tokens.
The barrier is the first null token or sentinel from there on, or the end of the source.

* At the first place behind the start, the barrier included, where the grammar succeeds rather than
  fails, the recovery succeeds like it, and reports the failure after whatever that recovered from.
  The tokens before that place have been skipped.
* If the grammar fails at all these places, the recovery fails as the grammar did at first, with the
  cursor at the barrier.
* The recovery is never a clean success, and it is a success if and only if the grammar succeeds at
  one of these places.  It returns if the grammar does at all of them. -/
theorem skipThenRetry_resumes
    (sentinels : List Value)
    {cur mid : Cursor}
    {recovered : List Located}
    {fatal : Located}
    (hfails : env.parser g src cur = .done (.failure recovered fatal) mid) :
    let outcome := env.parser (g.recoverWith (.skipThenRetry sentinels)) src cur
    let p := env.parser g
    let start := cur.offset
    let stop := src.barrier sentinels start
    IsLeast {i | start ≤ i ∧
        ((src.sighting i).token = .null ∨ (src.sighting i).token ∈ sentinels)} stop ∧
      (∀ k recovered' output alt last, start < k → k ≤ stop →
        (∀ i, start < i → i < k → p.Fails src i) →
        p.Answers src k (.success recovered' output alt) last →
          ∃ cur', outcome = .done (.success (recovered' ++ [fatal]) output alt) cur' ∧
            cur'.offset = last ∧ cur'.trail.head? = some (.skipped last (k - start))) ∧
      ((∀ k, start < k → k ≤ stop → p.Fails src k) →
        ∃ cur', outcome = .done (.failure recovered fatal) cur' ∧
          cur'.offset = stop ∧ cur'.trail.head? = some (.skippedInVain stop (stop - start))) ∧
      (∀ r cur', outcome = .done r cur' →
        r.isClean = false ∧
          (r.isSuccess = true ↔ ∃ k, start < k ∧ k ≤ stop ∧ p.Succeeds src k)) ∧
      ((∀ k, start < k → k ≤ stop → ∃ r last, p.Answers src k r last) →
        ∃ r cur', outcome = .done r cur') := by
  intro outcome p start stop
  -- References are followed as deep as this source asks for, in the retries as well.
  let q : Parser := g.parser (env.resolve (env.depth src))
  have hsteady : q.Steady src := parser_steady
  have hfailed : q src cur = .done (.failure recovered fatal) mid := hfails
  obtain ⟨first, hfirst, hrecover⟩ :=
    Parser.recoverWith_of_failure hfailed (.skipThenRetry sentinels)
  have houtcome : outcome =
      (Strategy.skipThenRetry sentinels).recover q recovered fatal src first := hrecover
  rw [houtcome]
  subst start stop
  rw [← hfirst]
  exact ⟨Source.barrier_isLeast,
    fun k recovered' output alt last hback hk hbefore hanswers =>
      Strategy.skipThenRetry_succeeds recovered fatal hsteady hback hk hbefore hanswers,
    Strategy.skipThenRetry_fails recovered fatal hsteady,
    fun r cur' => Strategy.skipThenRetry_done hsteady,
    Strategy.skipThenRetry_returns recovered fatal hsteady⟩

/-- A semicolon that is looked for is found after two letters, although it is a sentinel. -/
theorem skipThenRetry_resumes_at_sentinel :
    let g : Grammar := .just .simple (.str ";")
    let src : Source := .ofText "ab;c" .null
    ∃ fatal mid cur', parser {} g src {} = .done (.failure [] fatal) mid ∧
      src.barrier [.str ";"] 0 = 2 ∧
      parser {} (g.recoverWith (.skipThenRetry [.str ";"])) src {} =
        .done (.success [fatal] (.str ";") none) cur' ∧
      cur'.offset = 3 ∧ cur'.trail.head? = some (.skipped 3 2) := by
  intro g src
  obtain ⟨fatal, mid, hfails⟩ :
      ∃ fatal mid, parser {} g src {} = .done (.failure [] fatal) mid := ⟨_, _, rfl⟩
  have hbefore (i : Nat) (hback : 0 < i) (hlt : i < 2) : (parser {} g).Fails src i := by
    obtain rfl : i = 1 := by omega
    exact ⟨_, _, _, _, rfl, rfl⟩
  obtain ⟨-, hsucceeds, -⟩ := skipThenRetry_resumes [.str ";"] hfails
  obtain ⟨cur', hrun, hoffset, htrail⟩ := hsucceeds 2 [] (.str ";") none 3 Nat.zero_lt_two
    (by decide) hbefore ⟨_, rfl, rfl⟩
  exact ⟨fatal, mid, cur', hfails, by decide, hrun, hoffset, htrail⟩

end Environment
end Resync
