import Resync.Grammar.Combinator
import Resync.Proofs.Furthest
import Resync.Proofs.Run

/-!
# What a choice selects

A choice tries its alternatives in turn, each from the same place.  The first clean success is
taken, and nothing after it is run.  Without one, the best result is taken as it is, and of equally
good ones the leftmost: a success that had to recover before any failure, fewer recoveries before
more, the last recovery further on before one less far, and a failure further on before one less
far.

Beside the result, the diagnostics of the failures are carried along.  Those before the first
success are merged from left to right.  They become the diagnostic of a choice that fails, and an
alternative of a clean success; a success that had to recover forgets them.  Where merging them
faults, so does the choice.
-/

namespace Resync

/-- A run of one alternative: what it answered, and the cursor it left. -/
structure Trial where
  result : Result
  cursor : Cursor

/-- The runs of some parsers one after another, each from the offset `start`, in the state that the
one before has left; and the cursor after the last of them. -/
inductive Trials
    (src : Source)
    (start : Nat) :
    Cursor → List Parser → List Trial → Cursor → Prop where
  | nil (cur : Cursor) : Trials src start cur [] [] cur
  | cons
      {p : Parser} {ps : List Parser} {cur mid stop : Cursor} {r : Result} {ts : List Trial}
      (hrun : p src (cur.moved start) = .done r mid)
      (hrest : Trials src start mid ps ts stop) :
      Trials src start cur (p :: ps) (⟨r, mid⟩ :: ts) stop

/-- How a scan ends that computes a result and leaves the cursor at `cur`: a fault of the
computation halts it. -/
def Outcome.Gives (o : Outcome Result) (computed : Except Fault Result) (cur : Cursor) : Prop :=
  match computed with
  | .ok r => o = .done r cur
  | .error f => ∃ stop, o = .halted (.fault f) stop

namespace Result

/-- The position of the last recovery. -/
def lastPosition (recovered : List Located) : Nat := (lastRecovered recovered).getD 0

/-- Whether one result is better than another, where neither is a clean success. -/
def Beats : Result → Result → Prop
  | success rs _ _, success ls _ _ =>
      rs.length < ls.length ∨ rs.length = ls.length ∧ lastPosition ls < lastPosition rs
  | success _ _ _, failure _ _ => True
  | failure _ _, success _ _ _ => False
  | failure _ error, failure _ error' => error'.position < error.position

theorem Beats.asymm {a b : Result} (h : a.Beats b) : ¬ b.Beats a := by
  cases a with
  | success rs v alt =>
      cases b with
      | success ls w alt' =>
          unfold Beats at h ⊢
          omega
      | failure ls e => exact fun h' => h'
  | failure rs e =>
      cases b with
      | success ls w alt' => exact h.elim
      | failure ls e' =>
          unfold Beats at h ⊢
          omega

/-- What beats another result beats all that do not beat that one. -/
theorem Beats.of_not_beats {a b c : Result} (h : a.Beats b) (hc : ¬ c.Beats b) : a.Beats c := by
  cases a with
  | success rs v alt =>
      cases c with
      | failure ls e => trivial
      | success ls w alt' =>
          cases b with
          | failure qs e => exact absurd trivial hc
          | success qs u alt'' =>
              unfold Beats at h hc ⊢
              omega
  | failure rs e =>
      cases b with
      | success qs u alt'' => exact h.elim
      | failure qs e'' =>
          cases c with
          | success ls w alt' => exact absurd trivial hc
          | failure ls e' =>
              unfold Beats at h hc ⊢
              omega

theorem Beats.isSuccess {a b : Result} (h : a.Beats b) (hb : b.isSuccess = true) :
    a.isSuccess = true := by
  cases a with
  | success rs v alt => rfl
  | failure rs e =>
      cases b with
      | success ls w alt => exact h.elim
      | failure ls e' => cases hb

theorem lastRecovered_eq {recovered : List Located} (h : recovered ≠ []) :
    lastRecovered recovered = some (lastPosition recovered) := by
  have hlast : recovered.getLast? = some (recovered.getLast h) := List.getLast?_eq_some_getLast h
  simp only [lastPosition, lastRecovered, hlast, Option.map_some, Option.getD_some]

/-- Of two successes that had to recover the second is taken just if it is better. -/
theorem betterRecovered_eq
    {ls rs : List Located}
    (hls : ls ≠ [])
    (hrs : rs ≠ []) :
    betterRecovered ls rs =
      if rs.length < ls.length ∨ rs.length = ls.length ∧ lastPosition ls < lastPosition rs then
        .right
      else
        .left := by
  unfold betterRecovered
  rw [lastRecovered_eq hls, lastRecovered_eq hrs]
  by_cases hlength : ls.length = rs.length
  · by_cases hlast : lastPosition rs ≤ lastPosition ls
    · rw [if_neg (by omega), if_neg (by omega)]
      exact if_pos hlast
    · rw [if_neg (by omega), if_pos (by omega)]
      exact if_neg hlast
  · rw [if_pos hlength]
    by_cases hfewer : ls.length < rs.length
    · rw [if_pos hfewer, if_neg (by omega)]
    · rw [if_neg hfewer, if_pos (by omega)]

/-- The second of two results is taken just if it is better. -/
theorem side_eq
    {left right : Result}
    (hleft : left.isClean = false)
    (hright : right.isClean = false) :
    (right.Beats left ∧ left.side right = .right) ∨
      (¬ right.Beats left ∧ left.side right = .left) := by
  cases left with
  | success ls v alt =>
      cases right with
      | success rs w alt' =>
          have hls : ls ≠ [] := by
            rintro rfl
            cases hleft
          have hrs : rs ≠ [] := by
            rintro rfl
            cases hright
          have hside : (success ls v alt).side (success rs w alt') = betterRecovered ls rs := by
            cases rs with
            | nil => exact absurd rfl hrs
            | cons e rs => rfl
          rw [hside, betterRecovered_eq hls hrs]
          by_cases hbeats : (success rs w alt').Beats (success ls v alt)
          · exact Or.inl ⟨hbeats, if_pos hbeats⟩
          · exact Or.inr ⟨hbeats, if_neg hbeats⟩
      | failure rs e => exact Or.inr ⟨fun h => h, rfl⟩
  | failure ls e =>
      cases right with
      | success rs w alt' =>
          refine Or.inl ⟨trivial, ?_⟩
          cases rs with
          | nil => rfl
          | cons e' rs => rfl
      | failure rs e' =>
          by_cases hle : e'.position ≤ e.position
          · exact Or.inr ⟨Nat.not_lt.2 hle, if_pos hle⟩
          · exact Or.inl ⟨Nat.lt_of_not_le hle, if_neg hle⟩

/-- Unless both are failures, the one that is taken is left as it is. -/
theorem either_eq_pick
    {left right : Result}
    (hright : right.isClean = false)
    (hsuccess : left.isSuccess = true ∨ right.isSuccess = true) :
    left.either right = .ok ((left.side right).pick left right) := by
  cases left with
  | success ls v alt =>
      cases right with
      | success rs w alt' => rfl
      | failure rs e => rfl
  | failure ls e =>
      cases right with
      | success rs w alt' =>
          cases rs with
          | nil => cases hright
          | cons e' rs => rfl
      | failure rs e' => simp [isSuccess] at hsuccess

end Result

/-- Whether a trial is the best of some: better than all before it, and none after it is better.
So it is the leftmost of the best. -/
def Wins (ts : List Trial) (w : Trial) : Prop :=
  ∃ before after, ts = before ++ w :: after ∧
    (∀ t ∈ before, w.result.Beats t.result) ∧ ∀ t ∈ after, ¬ t.result.Beats w.result

namespace Wins

variable {ts : List Trial} {t w : Trial}

theorem singleton (t : Trial) : Wins [t] t := by
  refine ⟨[], [], rfl, ?_, ?_⟩
  · intro x hx
    cases hx
  · intro x hx
    cases hx

theorem mem (h : Wins ts w) : w ∈ ts := by
  obtain ⟨before, after, rfl, -, -⟩ := h
  exact List.mem_append_right _ List.mem_cons_self

/-- Nothing is better than the best. -/
theorem not_beats (h : Wins ts w) (ht : t ∈ ts) : ¬ t.result.Beats w.result := by
  obtain ⟨before, after, rfl, hbefore, hafter⟩ := h
  rcases List.mem_append.1 ht with ht | ht
  · exact (hbefore t ht).asymm
  · rcases List.mem_cons.1 ht with rfl | ht
    · exact fun hself => hself.asymm hself
    · exact hafter t ht

/-- One more trial that is not better leaves the best where it is. -/
theorem concat_of_not_beats (h : Wins ts w) (ht : ¬ t.result.Beats w.result) :
    Wins (ts ++ [t]) w := by
  obtain ⟨before, after, rfl, hbefore, hafter⟩ := h
  refine ⟨before, after ++ [t], by simp, hbefore, ?_⟩
  intro x hx
  rcases List.mem_append.1 hx with hx | hx
  · exact hafter x hx
  · rw [List.mem_singleton.1 hx]
    exact ht

/-- One more trial that is better than the best is the best of all. -/
theorem concat_of_beats (h : Wins ts w) (ht : t.result.Beats w.result) : Wins (ts ++ [t]) t := by
  refine ⟨ts, [], rfl, ?_, ?_⟩
  · intro x hx
    exact ht.of_not_beats (h.not_beats hx)
  · intro x hx
    cases hx

end Wins

/-- The diagnostics of the failures before the first success. -/
def leading : List Trial → List Located
  | [] => []
  | ⟨.failure _ error, _⟩ :: ts => error :: leading ts
  | ⟨.success _ _ _, _⟩ :: _ => []

/-- The diagnostics of all failures. -/
def fatalErrors (ts : List Trial) : List Located := ts.filterMap fun t => t.result.error?

/-- The best result, with what was gathered from the leading failures: a failure carries it, and a
success forgets it. -/
def Result.withLeading (r : Result) (gathered : Option Located) : Result :=
  match r with
  | success recovered output alt => success recovered output alt
  | failure recovered error => failure recovered (gathered.getD error)

theorem Result.isClean_withLeading (r : Result) (gathered : Option Located) :
    (r.withLeading gathered).isClean = r.isClean := by
  cases r with
  | success recovered output alt => rfl
  | failure recovered error => rfl

theorem Result.withLeading_of_isSuccess
    {r : Result}
    {gathered : Option Located}
    (h : r.isSuccess = true) :
    r.withLeading gathered = r := by
  cases r with
  | success recovered output alt => rfl
  | failure recovered error => cases h

/-- How a choice stands after some trials none of which was a clean success: it answers the best
result, and the cursor after the last trial is moved to where the best one left it. -/
def Outcome.Stands (o : Outcome Result) (ts : List Trial) (stop : Cursor) : Prop :=
  ∃ w, Wins ts w ∧
    o.Gives ((Located.maxAll (leading ts)).map w.result.withLeading)
      (stop.moved w.cursor.offset)

section Leading

variable {ts : List Trial}

theorem leading_success
    (recovered : List Located)
    (output : Value)
    (alt : Option Located)
    (cursor : Cursor) :
    leading [⟨.success recovered output alt, cursor⟩] = [] := rfl

theorem leading_failure
    (recovered : List Located)
    (error : Located)
    (cursor : Cursor) :
    leading [⟨.failure recovered error, cursor⟩] = [error] := rfl

/-- Nothing after a success counts. -/
theorem leading_append_of_success
    (h : ∃ t ∈ ts, t.result.isSuccess = true)
    (us : List Trial) :
    leading (ts ++ us) = leading ts := by
  induction ts with
  | nil =>
      obtain ⟨t, ht, -⟩ := h
      cases ht
  | cons t ts ih =>
      obtain ⟨result, cursor⟩ := t
      cases result with
      | success recovered output alt => rfl
      | failure recovered error =>
          obtain ⟨t, ht, hsuccess⟩ := h
          rcases List.mem_cons.1 ht with rfl | ht
          · cases hsuccess
          · have hrest : leading (ts ++ us) = leading ts := ih ⟨t, ht, hsuccess⟩
            exact congrArg (error :: ·) hrest

/-- After failures everything counts that counts by itself. -/
theorem leading_append_of_failures
    (h : ∀ t ∈ ts, t.result.isSuccess = false)
    (us : List Trial) :
    leading (ts ++ us) = leading ts ++ leading us := by
  induction ts with
  | nil => rfl
  | cons t ts ih =>
      obtain ⟨result, cursor⟩ := t
      cases result with
      | success recovered output alt =>
          have hfailure := h _ List.mem_cons_self
          cases hfailure
      | failure recovered error =>
          have hrest : leading (ts ++ us) = leading ts ++ leading us :=
            ih fun t ht => h t (List.mem_cons_of_mem _ ht)
          exact congrArg (error :: ·) hrest

/-- The diagnostics of nothing but failures all count. -/
theorem leading_of_failures (h : ∀ t ∈ ts, t.result.isSuccess = false) :
    leading ts = fatalErrors ts := by
  induction ts with
  | nil => rfl
  | cons t ts ih =>
      obtain ⟨result, cursor⟩ := t
      cases result with
      | success recovered output alt =>
          have hfailure := h _ List.mem_cons_self
          cases hfailure
      | failure recovered error =>
          have hrest := ih fun t ht => h t (List.mem_cons_of_mem _ ht)
          exact congrArg (error :: ·) hrest

/-- Each of these diagnostics is that of a failure. -/
theorem mem_fatalErrors_iff {e : Located} :
    e ∈ fatalErrors ts ↔ ∃ t ∈ ts, ∃ recovered, t.result = .failure recovered e := by
  have herror (r : Result) : r.error? = some e ↔ ∃ recovered, r = .failure recovered e := by
    cases r <;> simp [Result.error?]
  simp only [fatalErrors, List.mem_filterMap, herror]

end Leading

namespace Wins

variable {ts : List Trial} {w : Trial}

/-- If the best result is a failure, there is nothing else. -/
theorem all_failures (h : Wins ts w) (hw : w.result.isSuccess = false) :
    ∀ t ∈ ts, t.result.isSuccess = false := by
  intro t ht
  have hnot : ¬ t.result.Beats w.result := h.not_beats ht
  cases hresult : t.result with
  | failure recovered error => rfl
  | success recovered output alt =>
      cases hbest : w.result with
      | success recovered' output' alt' =>
          rw [hbest] at hw
          cases hw
      | failure recovered' error =>
          rw [hresult, hbest] at hnot
          exact absurd trivial hnot

/-- What was gathered from failures lies where the best of them does. -/
theorem exists_gathered
    {recovered : List Located}
    {error : Located}
    {gathered : Option Located}
    (h : Wins ts w)
    (hw : w.result = .failure recovered error)
    (hgathered : Located.maxAll (leading ts) = .ok gathered) :
    ∃ d, gathered = some d ∧ d.position = error.position := by
  have hall : ∀ t ∈ ts, t.result.isSuccess = false := h.all_failures (by rw [hw]; rfl)
  rw [leading_of_failures hall] at hgathered
  have herror : error ∈ fatalErrors ts := mem_fatalErrors_iff.2 ⟨w, h.mem, recovered, hw⟩
  cases gathered with
  | none =>
      have hnone : fatalErrors ts = [] := Located.maxAll_eq_none hgathered
      rw [hnone] at herror
      cases herror
  | some d =>
      obtain ⟨⟨e, he, hat⟩, hmax⟩ := Located.maxAll_isFurthestOf hgathered
      refine ⟨d, rfl, Nat.le_antisymm ?_ (hmax error herror)⟩
      obtain ⟨t, ht, recovered', hfailure⟩ := mem_fatalErrors_iff.1 he
      have hnot : ¬ t.result.Beats w.result := h.not_beats ht
      rw [hfailure, hw] at hnot
      have hle : e.position ≤ error.position := Nat.le_of_not_lt hnot
      omega

end Wins

section Steps

variable {p q : Parser} {src : Source} {cur mid stop : Cursor} {l r : Result}

/-- A clean success of the first parser is taken. -/
theorem Parser.orElse_of_clean
    (hp : p src cur = .done l mid)
    (hclean : l.isClean = true) :
    orElse p q src cur = .done l mid := by
  unfold orElse
  simp only [Scan.bind_apply, Scan.save_apply, hp, hclean, if_true, Scan.pure_apply]

theorem Parser.orElse_of_halted
    {cause : Halt}
    (hp : p src cur = .halted cause mid) :
    orElse p q src cur = .halted cause mid := by
  unfold orElse
  simp only [Scan.bind_apply, Scan.save_apply, hp]

/-- Anything else is weighed against what the second parser answers from the same place. -/
theorem Parser.orElse_of_not_clean
    (hp : p src cur = .done l mid)
    (hclean : l.isClean = false)
    (hq : q src (mid.moved cur.offset) = .done r stop) :
    (orElse p q src cur).Gives (l.either r)
      (stop.moved ((l.side r).pick mid.offset stop.offset)) := by
  unfold orElse
  simp only [Scan.bind_apply, Scan.save_apply, hp]
  rw [if_neg (by simp [hclean])]
  simp only [Scan.bind_apply, Scan.save_apply, Scan.revert_apply, hq]
  cases l.either r with
  | ok result => rfl
  | error f => exact ⟨_, rfl⟩

end Steps

namespace Wins

variable {ts : List Trial} {t w : Trial} {gathered : Option Located}

/-- One more trial after a success: the better one of both is the best, and is left as it is. -/
theorem concat_success
    (h : Wins ts w)
    (hw : w.result.isSuccess = true)
    (hwclean : w.result.isClean = false)
    (htclean : t.result.isClean = false)
    (hgathered : Located.maxAll (leading ts) = .ok gathered) :
    ∃ best, Wins (ts ++ [t]) best ∧
      w.result.either t.result =
        (Located.maxAll (leading (ts ++ [t]))).map best.result.withLeading ∧
      (w.result.side t.result).pick w.cursor.offset t.cursor.offset = best.cursor.offset := by
  have heither : w.result.either t.result = .ok ((w.result.side t.result).pick w.result t.result) :=
    Result.either_eq_pick htclean (Or.inl hw)
  rw [leading_append_of_success ⟨w, h.mem, hw⟩, hgathered, heither]
  rcases Result.side_eq hwclean htclean with ⟨hbeats, hside⟩ | ⟨hbeats, hside⟩
  · have ht : t.result.isSuccess = true := hbeats.isSuccess hw
    refine ⟨t, h.concat_of_beats hbeats, ?_, by rw [hside]; rfl⟩
    rw [hside]
    exact congrArg Except.ok (Result.withLeading_of_isSuccess ht).symm
  · refine ⟨w, h.concat_of_not_beats hbeats, ?_, by rw [hside]; rfl⟩
    rw [hside]
    exact congrArg Except.ok (Result.withLeading_of_isSuccess hw).symm

/-- One more trial after nothing but failures: a success is the best, and of two failures the one
further on, to which what was gathered is added. -/
theorem concat_failure
    {recovered : List Located}
    {error : Located}
    (h : Wins ts w)
    (hw : w.result = .failure recovered error)
    (htclean : t.result.isClean = false)
    (hgathered : Located.maxAll (leading ts) = .ok gathered) :
    ∃ best, Wins (ts ++ [t]) best ∧
      (w.result.withLeading gathered).either t.result =
        (Located.maxAll (leading (ts ++ [t]))).map best.result.withLeading ∧
      ((w.result.withLeading gathered).side t.result).pick w.cursor.offset t.cursor.offset =
        best.cursor.offset := by
  obtain ⟨d, rfl, hposition⟩ := h.exists_gathered hw hgathered
  have hall : ∀ t ∈ ts, t.result.isSuccess = false := h.all_failures (by rw [hw]; rfl)
  have hcurrent : w.result.withLeading (some d) = .failure recovered d := by rw [hw]; rfl
  rw [leading_append_of_failures hall, hcurrent]
  obtain ⟨result, cursor⟩ := t
  cases result with
  | success recovered' output alt =>
      have hbeats : (Result.success recovered' output alt).Beats w.result := by rw [hw]; trivial
      have hside :
          (Result.failure recovered d).side (.success recovered' output alt) = .right := by
        have hfailure : (Result.failure recovered d).isClean = false := rfl
        rcases Result.side_eq hfailure htclean with
          ⟨-, hside⟩ | ⟨hnot, -⟩
        · exact hside
        · exact absurd trivial hnot
      have heither :
          (Result.failure recovered d).either (.success recovered' output alt) =
            .ok (.success recovered' output alt) := by
        rw [Result.either_eq_pick htclean (Or.inr rfl), hside]
        rfl
      refine ⟨_, h.concat_of_beats hbeats, ?_, by rw [hside]; rfl⟩
      rw [heither, leading_success, List.append_nil, hgathered]
      rfl
  | failure recovered' error' =>
      rw [leading_failure, Located.maxAll_concat, hgathered, Result.either_failures]
      have hmerge : (Except.ok (some d)).bind (fun m => Located.mergeAlts m (some error')) =
          (d.max (some error')).map some := Located.mergeAlts_some d error'
      have hbeats :
          (Result.failure recovered' error').Beats w.result ↔
            error.position < error'.position := by
        rw [hw]
        rfl
      rw [hmerge]
      by_cases hle : error'.position ≤ d.position
      · have hside : (Result.failure recovered d).side (.failure recovered' error') = .left :=
          if_pos hle
        have hnot : ¬ (Result.failure recovered' error').Beats w.result := by
          rw [hbeats]
          omega
        refine ⟨w, h.concat_of_not_beats hnot, ?_, by rw [hside]; rfl⟩
        rw [if_pos hle, hw]
        cases d.max (some error') with
        | error f => rfl
        | ok c => rfl
      · have hside : (Result.failure recovered d).side (.failure recovered' error') = .right :=
          if_neg hle
        have hbetter : (Result.failure recovered' error').Beats w.result := by
          rw [hbeats]
          omega
        refine ⟨_, h.concat_of_beats hbetter, ?_, by rw [hside]; rfl⟩
        rw [if_neg hle]
        cases d.max (some error') with
        | error f => rfl
        | ok c => rfl

end Wins

section Standing

variable {p q : Parser} {src : Source} {cur mid stop : Cursor} {r : Result} {ts us : List Trial}

/-- A fault in merging the leading diagnostics stays one. -/
theorem maxAll_leading_concat_of_error
    {f : Fault}
    (h : Located.maxAll (leading ts) = .error f)
    (t : Trial) :
    Located.maxAll (leading (ts ++ [t])) = .error f := by
  by_cases hsuccess : ∃ t ∈ ts, t.result.isSuccess = true
  · rw [leading_append_of_success hsuccess]
    exact h
  · have hall : ∀ t ∈ ts, t.result.isSuccess = false := by
      intro t ht
      exact Bool.eq_false_iff.2 fun htrue => hsuccess ⟨t, ht, htrue⟩
    rw [leading_append_of_failures hall]
    obtain ⟨result, cursor⟩ := t
    cases result with
    | success recovered output alt =>
        rw [leading_success, List.append_nil]
        exact h
    | failure recovered error =>
        rw [leading_failure, Located.maxAll_concat, h]
        rfl

namespace Outcome.Stands

/-- A choice of one parser stands as that parser does. -/
theorem singleton (h : p src cur = .done r stop) : (p src cur).Stands [⟨r, stop⟩] stop := by
  refine ⟨_, Wins.singleton _, ?_⟩
  cases r with
  | success recovered output alt => exact h
  | failure recovered error => exact h

/-- One more trial that is no clean success. -/
theorem concat
    (h : (p src cur).Stands ts mid)
    (hclean : ∀ t ∈ ts, t.result.isClean = false)
    (hq : q src (mid.moved cur.offset) = .done r stop)
    (hr : r.isClean = false) :
    (Parser.orElse p q src cur).Stands (ts ++ [⟨r, stop⟩]) stop := by
  obtain ⟨w, hwins, hgives⟩ := h
  have hw : w.result.isClean = false := hclean w hwins.mem
  cases hgathered : Located.maxAll (leading ts) with
  | error f =>
      rw [hgathered] at hgives
      obtain ⟨place, hhalted⟩ := hgives
      -- The choice was halted before; there is a best trial all the same.
      have hexists : ∃ best, Wins (ts ++ [⟨r, stop⟩]) best := by
        by_cases hbeats : r.Beats w.result
        · exact ⟨_, hwins.concat_of_beats hbeats⟩
        · exact ⟨w, hwins.concat_of_not_beats hbeats⟩
      obtain ⟨best, hbest⟩ := hexists
      refine ⟨best, hbest, ?_⟩
      rw [maxAll_leading_concat_of_error hgathered]
      exact ⟨place, Parser.orElse_of_halted hhalted⟩
  | ok gathered =>
      rw [hgathered] at hgives
      have hp : p src cur =
          .done (w.result.withLeading gathered) (mid.moved w.cursor.offset) := hgives
      have hcurrent : (w.result.withLeading gathered).isClean = false := by
        rw [Result.isClean_withLeading]
        exact hw
      have hends := Parser.orElse_of_not_clean hp hcurrent hq
      -- What is weighed against the new result carries what was gathered, so a best failure is not
      -- compared by its own position but by that of the gathered diagnostic, which is the same.
      have hstep : ∃ best, Wins (ts ++ [⟨r, stop⟩]) best ∧
          (w.result.withLeading gathered).either r =
            (Located.maxAll (leading (ts ++ [⟨r, stop⟩]))).map best.result.withLeading ∧
          ((w.result.withLeading gathered).side r).pick w.cursor.offset stop.offset =
            best.cursor.offset := by
        cases hresult : w.result with
        | success recovered output alt =>
            have hsuccess : w.result.isSuccess = true := by rw [hresult]; rfl
            have hstep := hwins.concat_success (t := ⟨r, stop⟩) hsuccess hw hr hgathered
            rw [hresult] at hstep
            exact hstep
        | failure recovered error =>
            have hstep := hwins.concat_failure (t := ⟨r, stop⟩) hresult hr hgathered
            rw [hresult] at hstep
            exact hstep
      obtain ⟨best, hbest, heither, hoffset⟩ := hstep
      refine ⟨best, hbest, ?_⟩
      rw [heither, Cursor.moved_offset, hoffset] at hends
      exact hends

/-- More trials that are no clean successes. -/
theorem foldl
    {qs : List Parser}
    (h : (p src cur).Stands ts mid)
    (htrials : Trials src cur.offset mid qs us stop)
    (hclean : ∀ t ∈ ts ++ us, t.result.isClean = false) :
    (qs.foldl Parser.orElse p src cur).Stands (ts ++ us) stop := by
  induction qs generalizing p ts us mid with
  | nil =>
      cases htrials
      rw [List.append_nil]
      exact h
  | cons q qs ih =>
      cases htrials with
      | @cons _ _ _ next _ r us hrun hrest =>
          have hts : ∀ t ∈ ts, t.result.isClean = false :=
            fun t ht => hclean t (List.mem_append_left _ ht)
          have hr : r.isClean = false :=
            hclean ⟨r, next⟩ (List.mem_append_right _ List.mem_cons_self)
          have hstands := h.concat hts hrun hr
          have hsplit : ts ++ ⟨r, next⟩ :: us = ts ++ [⟨r, next⟩] ++ us := by simp
          rw [hsplit] at hclean ⊢
          exact ih hstands hrest hclean

/-- One trial or more, none of which is a clean success. -/
theorem of_trials
    {qs : List Parser}
    (htrials : Trials src cur.offset cur (p :: qs) ts stop)
    (hclean : ∀ t ∈ ts, t.result.isClean = false) :
    (qs.foldl Parser.orElse p src cur).Stands ts stop := by
  cases htrials with
  | cons hrun hrest => exact (singleton hrun).foldl hrest hclean

end Outcome.Stands

/-- What a clean success answers after some trials that were none: what the failures before the
first success have gathered is an alternative to it, unless there was a success. -/
def cleanAfter
    (ts : List Trial)
    (output : Value)
    (alt : Option Located) :
    Except Fault Result := do
  let gathered ← Located.maxAll (leading ts)
  if ts.any fun t => t.result.isSuccess then
    return .success [] output alt
  else
    let alt' ← Located.mergeAlts alt gathered
    return .success [] output alt'

/-- A clean success after other trials. -/
theorem Outcome.Stands.gives_clean
    {output : Value}
    {alt : Option Located}
    (h : (p src cur).Stands ts mid)
    (hclean : ∀ t ∈ ts, t.result.isClean = false)
    (hq : q src (mid.moved cur.offset) = .done (.success [] output alt) stop) :
    (Parser.orElse p q src cur).Gives (cleanAfter ts output alt) stop := by
  obtain ⟨w, hwins, hgives⟩ := h
  have hw : w.result.isClean = false := hclean w hwins.mem
  unfold cleanAfter
  cases hgathered : Located.maxAll (leading ts) with
  | error f =>
      rw [hgathered] at hgives
      obtain ⟨place, hhalted⟩ := hgives
      exact ⟨place, Parser.orElse_of_halted hhalted⟩
  | ok gathered =>
      rw [hgathered] at hgives
      have hp : p src cur =
          .done (w.result.withLeading gathered) (mid.moved w.cursor.offset) := hgives
      have hcurrent : (w.result.withLeading gathered).isClean = false := by
        rw [Result.isClean_withLeading]
        exact hw
      have hends := Parser.orElse_of_not_clean hp hcurrent hq
      cases hresult : w.result with
      | success recovered output' alt' =>
          have hany : (ts.any fun t => t.result.isSuccess) = true :=
            List.any_eq_true.2 ⟨w, hwins.mem, by rw [hresult]; rfl⟩
          rw [hresult] at hends
          simp only [hany]
          exact hends
      | failure recovered error =>
          have hall := hwins.all_failures (by rw [hresult]; rfl)
          have hany : (ts.any fun t => t.result.isSuccess) = false :=
            List.any_eq_false.2 fun t ht => by simp [hall t ht]
          obtain ⟨d, rfl, -⟩ := hwins.exists_gathered hresult hgathered
          rw [hresult] at hends
          simp only [hany]
          exact hends

/-- What the parsers so far have given is the end of it, if it is a clean success or a fault. -/
theorem Outcome.Gives.foldl
    {computed : Except Fault Result}
    (qs : List Parser)
    (h : (p src cur).Gives computed stop)
    (hclean : ∀ result, computed = .ok result → result.isClean = true) :
    (qs.foldl Parser.orElse p src cur).Gives computed stop := by
  induction qs generalizing p with
  | nil => exact h
  | cons q qs ih =>
      refine ih ?_
      cases computed with
      | ok result => exact Parser.orElse_of_clean h (hclean result rfl)
      | error f =>
          obtain ⟨place, hhalted⟩ := h
          exact ⟨place, Parser.orElse_of_halted hhalted⟩

theorem isClean_of_cleanAfter
    {output : Value}
    {alt : Option Located}
    (h : cleanAfter ts output alt = .ok r) :
    r.isClean = true := by
  unfold cleanAfter at h
  obtain ⟨gathered, -, hrest⟩ := bind_eq_ok.1 h
  split at hrest
  · cases hrest
    rfl
  · obtain ⟨alt', -, hreturn⟩ := bind_eq_ok.1 hrest
    cases hreturn
    rfl

/-- After a success that was not clean the alternative of a clean one is left as it is. -/
theorem cleanAfter_of_success
    {gathered : Option Located}
    (hgathered : Located.maxAll (leading ts) = .ok gathered)
    (hsuccess : ∃ t ∈ ts, t.result.isSuccess = true)
    (output : Value)
    (alt : Option Located) :
    cleanAfter ts output alt = .ok (.success [] output alt) := by
  unfold cleanAfter
  rw [hgathered]
  exact if_pos (List.any_eq_true.2 hsuccess)

/-- After nothing but failures, what they gathered is merged with the alternative. -/
theorem cleanAfter_of_failures
    {gathered : Option Located}
    (hgathered : Located.maxAll (leading ts) = .ok gathered)
    (hall : ∀ t ∈ ts, t.result.isSuccess = false)
    (output : Value)
    (alt : Option Located) :
    cleanAfter ts output alt = (Located.mergeAlts alt gathered).map (.success [] output) := by
  have hany : ¬ (ts.any fun t => t.result.isSuccess) = true := by
    simpa using hall
  unfold cleanAfter
  rw [hgathered]
  refine (if_neg hany).trans ?_
  cases Located.mergeAlts alt gathered <;> rfl

/-- If all fail, the diagnostics at the furthest position are those of the best result and of later
ones, and the choice merges them from left to right. -/
theorem Wins.merges
    {w : Trial}
    {recovered : List Located}
    {error d : Located}
    (h : Wins ts w)
    (hw : w.result = .failure recovered error)
    (hmax : Located.maxAll (fatalErrors ts) = .ok (some d)) :
    d.position = error.position ∧
      ∃ others,
        (fatalErrors ts).filter (fun e => e.position = error.position) = error :: others ∧
        Located.mergeFrom error.error others = .ok d.error := by
  have hall : ∀ t ∈ ts, t.result.isSuccess = false := h.all_failures (by rw [hw]; rfl)
  have hposition : d.position = error.position := by
    rw [← leading_of_failures hall] at hmax
    obtain ⟨d', hd', hat⟩ := h.exists_gathered hw hmax
    cases hd'
    exact hat
  obtain ⟨before, after, rfl, hbefore, hafter⟩ := h
  have hearlier : ∀ e ∈ fatalErrors before, e.position < error.position := by
    intro e he
    obtain ⟨t, ht, recovered', hresult⟩ := mem_fatalErrors_iff.1 he
    have hbeats := hbefore t ht
    rw [hw, hresult] at hbeats
    exact hbeats
  have hlater : ∀ e ∈ fatalErrors after, e.position ≤ error.position := by
    intro e he
    obtain ⟨t, ht, recovered', hresult⟩ := mem_fatalErrors_iff.1 he
    have hnot := hafter t ht
    rw [hw, hresult] at hnot
    exact Nat.le_of_not_lt hnot
  have hsplit : fatalErrors (before ++ w :: after) =
      fatalErrors before ++ error :: fatalErrors after := by
    unfold fatalErrors
    rw [List.filterMap_append, List.filterMap_cons_some (by rw [hw]; rfl)]
  rw [hsplit] at hmax ⊢
  refine ⟨hposition, (fatalErrors after).filter (fun e => e.position = error.position), ?_, ?_⟩
  · have hnone : (fatalErrors before).filter (fun e => e.position = error.position) = [] := by
      rw [List.filter_eq_nil_iff]
      intro e he
      have hlt := hearlier e he
      simp only [decide_eq_true_eq]
      omega
    rw [List.filter_append, hnone, List.nil_append, List.filter_cons_of_pos (by simp)]
  · exact Located.maxFrom_merges hlater (Located.maxAll_append_before hearlier hmax)

end Standing

section OneDialect

variable {dialect : Dialect} {ts : List Trial}

theorem mem_fatalErrors_of_mem_leading {e : Located} (h : e ∈ leading ts) : e ∈ fatalErrors ts := by
  induction ts with
  | nil => cases h
  | cons t ts ih =>
      obtain ⟨result, cursor⟩ := t
      cases result with
      | success recovered output alt => cases h
      | failure recovered error =>
          rcases List.mem_cons.1 h with rfl | h
          · exact List.mem_cons_self
          · exact List.mem_cons_of_mem _ (ih h)

/-- Where all diagnostics are stated in one dialect, they can be merged, and then with an
alternative in it. -/
theorem exists_gathered_of_dialect
    (hts : ∀ e ∈ fatalErrors ts, e.error.dialect = dialect)
    {alt : Option Located}
    (halt : ∀ d, alt = some d → d.error.dialect = dialect) :
    ∃ gathered, Located.maxAll (leading ts) = .ok gathered ∧
      ∃ alt', Located.mergeAlts alt gathered = .ok alt' := by
  obtain ⟨m, hm, hmdialect⟩ :=
    Located.exists_maxAll fun e he => hts e (mem_fatalErrors_of_mem_leading he)
  refine ⟨m, hm, ?_⟩
  cases alt with
  | none => exact ⟨m, Located.mergeAlts_none_left m⟩
  | some a =>
      cases m with
      | none => exact ⟨some a, rfl⟩
      | some b =>
          obtain ⟨c, hmax, -⟩ := Located.exists_max (halt a rfl) hmdialect
          exact ⟨some c, by rw [Located.mergeAlts_some, hmax]; rfl⟩

end OneDialect

section Selection

variable {p q : Parser} {ps tried later : List Parser} {src : Source} {cur mid stop : Cursor}
variable {ts : List Trial}

/-- The first clean success is taken, and nothing after it is run. -/
theorem foldl_gives_clean
    {output : Value}
    {alt : Option Located}
    (hsplit : p :: ps = tried ++ q :: later)
    (htrials : Trials src cur.offset cur tried ts mid)
    (hclean : ∀ t ∈ ts, t.result.isClean = false)
    (hq : q src (mid.moved cur.offset) = .done (.success [] output alt) stop) :
    (ps.foldl Parser.orElse p src cur).Gives (cleanAfter ts output alt) stop := by
  have hend (r : Result) (h : cleanAfter ts output alt = .ok r) : r.isClean = true :=
    isClean_of_cleanAfter h
  cases tried with
  | nil =>
      obtain ⟨rfl, rfl⟩ := List.cons.inj hsplit
      cases htrials
      have hfirst : (p src cur).Gives (cleanAfter [] output alt) stop := by
        cases alt with
        | none => exact hq
        | some d => exact hq
      exact hfirst.foldl ps hend
  | cons first tried =>
      obtain ⟨rfl, rfl⟩ := List.cons.inj hsplit
      have hstands := Outcome.Stands.of_trials htrials hclean
      rw [List.append_eq, List.foldl_append, List.foldl_cons]
      exact (hstands.gives_clean hclean hq).foldl later hend

/-- Where the failures before the first success cannot be merged, the choice is halted. -/
theorem foldl_halted_of_clash
    {f : Fault}
    (hsplit : p :: ps = tried ++ later)
    (htrials : Trials src cur.offset cur tried ts mid)
    (hclean : ∀ t ∈ ts, t.result.isClean = false)
    (hclash : Located.maxAll (leading ts) = .error f) :
    ∃ place, ps.foldl Parser.orElse p src cur = .halted (.fault f) place := by
  cases tried with
  | nil =>
      cases htrials
      cases hclash
  | cons first tried =>
      obtain ⟨rfl, rfl⟩ := List.cons.inj hsplit
      obtain ⟨w, -, hgives⟩ := Outcome.Stands.of_trials htrials hclean
      rw [hclash] at hgives
      rw [List.append_eq, List.foldl_append]
      exact hgives.foldl later nofun

/-- Of successes none of which is clean the best is taken as it is. -/
theorem foldl_gives_recovered
    (htrials : Trials src cur.offset cur (p :: ps) ts stop)
    (hclean : ∀ t ∈ ts, t.result.isClean = false)
    (hsuccess : ∃ t ∈ ts, t.result.isSuccess = true) :
    ∃ w, Wins ts w ∧ w.result.isSuccess = true ∧
      (ps.foldl Parser.orElse p src cur).Gives
        ((Located.maxAll (leading ts)).map fun _ => w.result)
        (stop.moved w.cursor.offset) := by
  obtain ⟨w, hwins, hgives⟩ := Outcome.Stands.of_trials htrials hclean
  have hw : w.result.isSuccess = true := by
    obtain ⟨t, ht, htsuccess⟩ := hsuccess
    cases hfailure : w.result.isSuccess with
    | true => rfl
    | false =>
        have hnone := hwins.all_failures hfailure t ht
        rw [hnone] at htsuccess
        cases htsuccess
  have hkept : w.result.withLeading = fun _ => w.result := by
    funext gathered
    exact Result.withLeading_of_isSuccess hw
  rw [hkept] at hgives
  exact ⟨w, hwins, hw, hgives⟩

/-- Of failures the best is taken, with what was gathered from all. -/
theorem foldl_gives_failure
    (htrials : Trials src cur.offset cur (p :: ps) ts stop)
    (hall : ∀ t ∈ ts, t.result.isSuccess = false) :
    ∃ w recovered error, Wins ts w ∧ w.result = .failure recovered error ∧
      (ps.foldl Parser.orElse p src cur).Gives
        ((Located.maxAll (fatalErrors ts)).bind (Result.failed recovered))
        (stop.moved w.cursor.offset) := by
  have hclean : ∀ t ∈ ts, t.result.isClean = false := by
    intro t ht
    have hfailure := hall t ht
    cases hresult : t.result with
    | success recovered output alt =>
        rw [hresult] at hfailure
        cases hfailure
    | failure recovered error => rfl
  obtain ⟨w, hwins, hgives⟩ := Outcome.Stands.of_trials htrials hclean
  cases hw : w.result with
  | success recovered output alt =>
      have hfailure := hall w hwins.mem
      rw [hw] at hfailure
      cases hfailure
  | failure recovered error =>
      refine ⟨w, recovered, error, hwins, hw, ?_⟩
      rw [← leading_of_failures hall]
      cases hmax : Located.maxAll (leading ts) with
      | error f =>
          rw [hmax] at hgives
          exact hgives
      | ok m =>
          obtain ⟨d, rfl, -⟩ := hwins.exists_gathered hw hmax
          rw [hmax, hw] at hgives
          exact hgives

end Selection

/-- A choice runs its alternatives by `orElse`, from left to right. -/
theorem Grammar.choice_parser
    (resolve : Ref → Parser)
    (g : Grammar)
    (gs : List Grammar) :
    (g.choice gs).parser resolve =
      (gs.map (Grammar.parser resolve)).foldl Parser.orElse (g.parser resolve) := by
  unfold Grammar.choice
  induction gs generalizing g with
  | nil => rfl
  | cons h gs ih =>
      rw [List.foldl_cons, ih, List.map_cons, List.foldl_cons, Grammar.parser]

/-- **What a choice selects.**  Let the alternatives of a choice be run one after another, each from
the start of the choice.

* The first clean success is taken, with its output and cursor, and nothing after it is run.  If
  there was a success before it, it is left as it is.  If not, what the failures before it have
  gathered is merged into its alternative.
* If there are successes, and none is clean, the best of them is taken as it is.
* If all alternatives fail, so does the choice, at the furthest position.  The recoveries and the
  cursor are those of the leftmost failure there, and the diagnostics there are merged from left to
  right.
* All this provided that the diagnostics of the failures before the first success can be merged from
  left to right, and then with the alternative of a clean success.  Where they cannot, the choice is
  halted by the fault of merging them.
* In one dialect they can. -/
theorem Grammar.choice_selects
    (resolve : Ref → Parser)
    (g : Grammar)
    (gs : List Grammar)
    (src : Source)
    (cur : Cursor) :
    let parsers := (g :: gs).map (Grammar.parser resolve)
    let answer := (g.choice gs).parser resolve src cur
    (∀ tried p later ts mid output alt stop gathered,
      parsers = tried ++ p :: later →
      Trials src cur.offset cur tried ts mid →
      (∀ t ∈ ts, t.result.isClean = false) →
      p src (mid.moved cur.offset) = .done (.success [] output alt) stop →
      Located.maxAll (leading ts) = .ok gathered →
      ((∃ t ∈ ts, t.result.isSuccess = true) →
        answer = .done (.success [] output alt) stop) ∧
      ((∀ t ∈ ts, t.result.isSuccess = false) →
        (∀ alt', Located.mergeAlts alt gathered = .ok alt' →
          answer = .done (.success [] output alt') stop) ∧
        ∀ f, Located.mergeAlts alt gathered = .error f →
          ∃ place, answer = .halted (.fault f) place)) ∧
    (∀ ts stop gathered,
      Trials src cur.offset cur parsers ts stop →
      (∀ t ∈ ts, t.result.isClean = false) →
      (∃ t ∈ ts, t.result.isSuccess = true) →
      Located.maxAll (leading ts) = .ok gathered →
      ∃ w, Wins ts w ∧ w.result.isSuccess = true ∧
        answer = .done w.result (stop.moved w.cursor.offset)) ∧
    (∀ ts stop gathered,
      Trials src cur.offset cur parsers ts stop →
      (∀ t ∈ ts, t.result.isSuccess = false) →
      Located.maxAll (fatalErrors ts) = .ok gathered →
      ∃ w recovered error d others, Wins ts w ∧ w.result = .failure recovered error ∧
        answer = .done (.failure recovered d) (stop.moved w.cursor.offset) ∧
        d.position = error.position ∧
        (fatalErrors ts).filter (fun e => e.position = error.position) = error :: others ∧
        Located.mergeFrom error.error others = .ok d.error) ∧
    (∀ tried later ts mid f,
      parsers = tried ++ later →
      Trials src cur.offset cur tried ts mid →
      (∀ t ∈ ts, t.result.isClean = false) →
      Located.maxAll (leading ts) = .error f →
      ∃ place, answer = .halted (.fault f) place) ∧
    (∀ ts dialect alt,
      (∀ e ∈ fatalErrors ts, e.error.dialect = dialect) →
      (∀ d, alt = some d → d.error.dialect = dialect) →
      ∃ gathered, Located.maxAll (leading ts) = .ok gathered ∧
        ((∀ t ∈ ts, t.result.isSuccess = false) →
          Located.maxAll (fatalErrors ts) = .ok gathered) ∧
        ∃ alt', Located.mergeAlts alt gathered = .ok alt') := by
  intro parsers answer
  have hanswer : answer =
      (gs.map (Grammar.parser resolve)).foldl Parser.orElse (g.parser resolve) src cur := by
    show (g.choice gs).parser resolve src cur = _
    rw [Grammar.choice_parser]
  rw [hanswer]
  refine ⟨?_, ?_, ?_, ?_, ?_⟩
  · intro tried p later ts mid output alt stop gathered hsplit htrials hclean hp hgathered
    have hgives := foldl_gives_clean hsplit htrials hclean hp
    refine ⟨fun hsuccess => ?_, fun hall => ⟨fun alt' halt' => ?_, fun f hfault => ?_⟩⟩
    · rwa [cleanAfter_of_success hgathered hsuccess] at hgives
    · rwa [cleanAfter_of_failures hgathered hall, halt'] at hgives
    · rwa [cleanAfter_of_failures hgathered hall, hfault] at hgives
  · intro ts stop gathered htrials hclean hsuccess hgathered
    obtain ⟨w, hwins, hw, hgives⟩ := foldl_gives_recovered htrials hclean hsuccess
    rw [hgathered] at hgives
    exact ⟨w, hwins, hw, hgives⟩
  · intro ts stop gathered htrials hall hgathered
    obtain ⟨w, recovered, error, hwins, hw, hgives⟩ := foldl_gives_failure htrials hall
    obtain ⟨d, rfl, -⟩ :=
      hwins.exists_gathered hw ((leading_of_failures hall).symm ▸ hgathered)
    obtain ⟨hposition, others, hothers, hmerge⟩ := hwins.merges hw hgathered
    rw [hgathered] at hgives
    exact ⟨w, recovered, error, d, others, hwins, hw, hgives, hposition, hothers, hmerge⟩
  · intro tried later ts mid f hsplit htrials hclean hclash
    exact foldl_halted_of_clash hsplit htrials hclean hclash
  · intro ts dialect alt hts halt
    obtain ⟨gathered, hgathered, hmerge⟩ := exists_gathered_of_dialect hts halt
    exact ⟨gathered, hgathered, fun hall => leading_of_failures hall ▸ hgathered, hmerge⟩

/-- A clean success after a failure, a success that had to recover before one as good, and failures
of which two lie at the furthest position; and failures that cannot be merged. -/
theorem choice_selects_each_way :
    let resolve : Ref → Parser := fun _ => Parser.empty
    let src : Source := ⟨#[(.int 5, .single 0 .null)], .single 1 .null⟩
    let missing (i : Nat) (text : String) : Grammar :=
      .scripted 1 false (.failure [] ⟨i, .terse text⟩)
    let patched (n : Nat) : Grammar :=
      .scripted n false (.success [⟨0, .terse "r"⟩] (.int n) none)
    (∃ stop,
      ((missing 3 "a").choice [.just .simple (.int 5), missing 9 "z"]).parser resolve src {} =
        .done (.success [] (.int 5) (some ⟨3, .terse "a"⟩)) stop) ∧
    (∃ (w : Trial) (stop : Cursor), w.result.isSuccess = true ∧
      ((patched 0).choice [patched 1]).parser resolve src {} = .done w.result stop) ∧
    (∃ recovered stop d,
      ((missing 1 "a").choice [missing 2 "b", missing 2 "c"]).parser resolve src {} =
        .done (.failure recovered d) stop ∧ d.position = 2) ∧
    (∃ place,
      ((Grammar.just .simple (.int 4)).choice [missing 0 "b"]).parser resolve src {} =
        .halted (.fault .noSuchMember) place) ∧
    ∃ gathered,
      Located.maxAll (leading [⟨.failure [] ⟨1, .terse "a"⟩, {}⟩]) = .ok gathered := by
  intro resolve src missing patched
  refine ⟨?_, ?_, ?_, ?_, ?_⟩
  · obtain ⟨hclean, -⟩ :=
      Grammar.choice_selects resolve (missing 3 "a")
        [.just .simple (.int 5), missing 9 "z"] src {}
    obtain ⟨-, hfailures⟩ := hclean [(missing 3 "a").parser resolve] _ _ _ _ _ _ _ _ rfl
      (.cons rfl (.nil _)) (by decide) rfl rfl
    exact ⟨_, (hfailures (by decide)).1 _ rfl⟩
  · obtain ⟨-, hrecovered, -⟩ := Grammar.choice_selects resolve (patched 0) [patched 1] src {}
    obtain ⟨w, -, hw, hends⟩ := hrecovered _ _ _ (.cons rfl (.cons rfl (.nil _))) (by decide)
      ⟨_, List.mem_cons_self, rfl⟩ rfl
    exact ⟨w, _, hw, hends⟩
  · obtain ⟨-, -, hfailure, -⟩ :=
      Grammar.choice_selects resolve (missing 1 "a") [missing 2 "b", missing 2 "c"] src {}
    obtain ⟨w, recovered, error, d, others, -, -, hends, -⟩ :=
      hfailure _ _ _ (.cons rfl (.cons rfl (.cons rfl (.nil _)))) (by decide) rfl
    refine ⟨recovered, _, d, hends, ?_⟩
    obtain ⟨stop, hrun⟩ : ∃ stop,
        ((missing 1 "a").choice [missing 2 "b", missing 2 "c"]).parser resolve src {} =
          .done (.failure [] ⟨2, .terse "(b&c)"⟩) stop := ⟨_, rfl⟩
    cases hrun.symm.trans hends
    rfl
  · obtain ⟨-, -, -, hclash, -⟩ :=
      Grammar.choice_selects resolve (.just .simple (.int 4)) [missing 0 "b"] src {}
    exact hclash _ [] _ _ _ (List.append_nil _).symm (.cons rfl (.cons rfl (.nil _)))
      (by decide) rfl
  · obtain ⟨-, -, -, -, hdialect⟩ := Grammar.choice_selects resolve (missing 1 "a") [] src {}
    obtain ⟨gathered, hgathered, -⟩ := hdialect [⟨.failure [] ⟨1, .terse "a"⟩, {}⟩] .terse none
      (by decide) (fun d hd => nomatch hd)
    exact ⟨gathered, hgathered⟩

/-- Three letters, of which the second one is asked for in another dialect, where the third one
stands.  Each run returns, and the third is a clean success; but what the first two have missed
cannot be merged, and so the choice is halted. -/
theorem choice_halted_between_dialects :
    let resolve : Ref → Parser := fun _ => Parser.empty
    let src : Source := .ofText "c" .null
    let first : Grammar := .just .simple (.str "a")
    let others : List Grammar := [.just .terse (.str "b"), .just .simple (.str "c")]
    (∃ ts t stop,
      Trials src 0 {} ((first :: others).map (Grammar.parser resolve)) (ts ++ [t]) stop ∧
      (∀ u ∈ ts, u.result.isSuccess = false) ∧
      t.result = .success [] (.str "c") none ∧ t.cursor.offset = 1) ∧
    ∃ place, (first.choice others).parser resolve src {} =
      .halted (.fault .noSuchMember) place := by
  intro resolve src first others
  refine ⟨⟨[_, _], _, _, .cons rfl (.cons rfl (.cons rfl (.nil _))), ?_, rfl, rfl⟩, _, rfl⟩
  exact List.forall_mem_cons.2 ⟨rfl, List.forall_mem_singleton.2 rfl⟩

end Resync
