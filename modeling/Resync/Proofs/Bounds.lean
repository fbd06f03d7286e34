import Mathlib.Order.Bounds.Defs
import Resync.Grammar.Combinator
import Resync.Proofs.Simulation.Paired

/-!
# Bounds of a run

A run never goes back behind the place where it starts, and never gets beyond the end of the input,
which is a null token or the end of the source.  The same holds of all its diagnostics: what was
tried and abandoned was tried within these bounds as well.

Parsers that are given from outside may say what they like about positions.  They cannot move the
cursor back either.
-/

namespace Resync

namespace Source

variable (src : Source)

/-- The first place from `start` on whose token passes a test, or where the source ends. -/
def first (test : Value → Bool) (start : Nat) : Nat :=
  start + (src.rest start).findIdx fun entry => test entry.1

/-- Where the input ends for a run that starts at `start`: at the first null token from there on, or
where the source ends. -/
def limit (start : Nat) : Nat :=
  start + (src.rest start).findIdx fun entry => entry.1 = .null

variable {src} {start i : Nat} {test : Value → Bool}

theorem sighting_eq (hi : start ≤ i) :
    (src.sighting i).token = (((src.rest start)[i - start]?).map Prod.fst).getD .null := by
  unfold sighting rest
  rw [List.getElem?_drop, Nat.add_sub_cancel' hi, Array.getElem?_toList]
  cases src.tokens[i]? with
  | none => rfl
  | some entry => rfl

theorem lt_size_of_token (htoken : (src.sighting i).token ≠ .null) : i < src.size := by
  by_contra hi
  have hnone : src.tokens[i]? = none := Array.getElem?_eq_none (Nat.le_of_not_lt hi)
  rw [sighting, hnone] at htoken
  exact htoken rfl

variable (src start test) in
/-- The first place that passes a test, if the end of the source does. -/
theorem first_isLeast (hnull : test .null = true) :
    IsLeast {i | start ≤ i ∧ test (src.sighting i).token = true} (src.first test start) := by
  constructor
  · refine ⟨Nat.le_add_right _ _, ?_⟩
    unfold first
    rw [sighting_eq (Nat.le_add_right _ _), Nat.add_sub_cancel_left]
    cases hentry : (src.rest start)[(src.rest start).findIdx fun entry => test entry.1]? with
    | none => exact hnull
    | some entry =>
        obtain ⟨hindex, rfl⟩ := List.getElem?_eq_some_iff.1 hentry
        exact List.findIdx_getElem (w := hindex)
  · rintro i ⟨hstart, hpass⟩
    by_contra hi
    have hindex : i - start < (src.rest start).findIdx fun entry => test entry.1 := by
      unfold first at hi
      omega
    have hlength := Nat.lt_of_lt_of_le hindex List.findIdx_le_length
    rw [sighting_eq hstart, List.getElem?_eq_getElem hlength] at hpass
    exact Bool.eq_false_iff.1 (List.not_of_lt_findIdx hindex) hpass

/-- The limit is the first place without a token. -/
theorem limit_isLeast :
    IsLeast {i | start ≤ i ∧ (src.sighting i).token = .null} (src.limit start) := by
  have hfirst := first_isLeast src start (· = .null) rfl
  simp only [decide_eq_true_eq] at hfirst
  exact hfirst

variable (src) in
/-- Whether a run that starts at `start` may come to stand at `i`: not before, and beyond the source
only if it starts there. -/
def Ahead (start i : Nat) : Prop := start ≤ i ∧ i ≤ max start src.size

namespace Ahead

theorem self : src.Ahead start start := ⟨Nat.le_refl _, Nat.le_max_left _ _⟩

/-- Behind a token there is another place. -/
theorem succ
    (hi : src.Ahead start i)
    (htoken : (src.sighting i).token ≠ .null) :
    src.Ahead start (i + 1) := by
  have hsize := src.lt_size_of_token htoken
  obtain ⟨hback, hbeyond⟩ := hi
  constructor
  · exact Nat.le_succ_of_le hback
  · exact Nat.le_trans hsize (Nat.le_max_right _ _)

end Ahead
end Source

/-- Whether a grammar itself is none that is given from outside. -/
def Grammar.IsBuiltIn : Grammar → Prop
  | .scripted _ _ _ => False
  | _ => True

/-- A parser that does not move the cursor back, and moves it on only within the source. -/
def Parser.Forward (src : Source) (p : Parser) : Prop :=
  ∀ cur r cur', p src cur = .done r cur' → src.Ahead cur.offset cur'.offset

namespace Environment

section Places

variable {env : Environment} {src : Source} {g : Grammar} {bound : Nat}
variable {cur cur' : Cursor} {r : Result}

/-- Where a run ends, and where its diagnostics lie: what holds at the start, and after a token if
before, holds there. -/
theorem run_places
    (At P : Nat → Prop)
    (at_succ : ∀ {i}, At i → (src.sighting i).token ≠ .null → At (i + 1))
    (hP : ∀ {i}, At i → P i)
    (hg : env.Within (fun h => h.IsBuiltIn ∨ ∀ i, P i) g)
    (hat : At cur.offset)
    (hrun : g.parser (env.resolve bound) src cur = .done r cur') :
    At cur'.offset ∧ ∀ l ∈ r.recovered ++ r.furthest.toList, P l.position := by
  let S := Simulation.located src At P False at_succ
  have hdiagonal : S.Diagonal P := Simulation.located_diagonal hP
  have hloops : S.Loops fun _ _ => True := Simulation.located_sameSource.loops
  have hadmits {h : Grammar} (hh : env.Within (fun h => h.IsBuiltIn ∨ ∀ i, P i) h) :
      env.Within S.Admits h := by
    intro k hreaches
    refine hdiagonal.admits k ?_
    rintro consume relative answer rfl
    exact (hh _ hreaches).resolve_left id
  have hparsers : S.Parsers (g.parser (env.resolve bound)) (g.parser (env.resolve bound)) := by
    refine g.simulates id hloops (fun _ => trivial) ?_ (hadmits hg)
    exact env.resolve_simulates 0 id hloops (fun _ _ => trivial) bound
  exact Simulation.located_done hP hparsers hat hrun

end Places

variable (env : Environment)

/-- No grammar moves the cursor back. -/
theorem forward (bound : Nat) (g : Grammar) (src : Source) :
    (g.parser (env.resolve bound)).Forward src := by
  intro cur r cur' hrun
  exact (run_places (src.Ahead cur.offset) (fun _ => True) (fun hi => hi.succ) (fun _ => trivial)
    (fun _ _ => Or.inr fun _ => trivial) .self hrun).1

/-- **Bounds of a run.**  A run of a grammar that is not given parsers from outside, if it returns,
ends between its start and the end of the input.  The diagnostics that it recovered from, its
alternative and the diagnostic that stopped it lie there too. -/
theorem parser_within_limit
    (g : Grammar)
    (src : Source)
    (cur : Cursor)
    {r : Result}
    {cur' : Cursor}
    (hbuiltIn : env.Within Grammar.IsBuiltIn g)
    (hrun : env.parser g src cur = .done r cur') :
    cur.offset ≤ cur'.offset ∧ cur'.offset ≤ src.limit cur.offset ∧
      ∀ l ∈ r.recovered ++ r.furthest.toList,
        cur.offset ≤ l.position ∧ l.position ≤ src.limit cur.offset := by
  have hstep {i : Nat}
      (hi : cur.offset ≤ i ∧ i ≤ src.limit cur.offset)
      (htoken : (src.sighting i).token ≠ .null) :
      cur.offset ≤ i + 1 ∧ i + 1 ≤ src.limit cur.offset := by
    have hne : i ≠ src.limit cur.offset := by
      rintro rfl
      exact htoken Source.limit_isLeast.1.2
    omega
  obtain ⟨⟨hback, hbeyond⟩, hlies⟩ :=
    run_places (fun i => cur.offset ≤ i ∧ i ≤ src.limit cur.offset)
      (fun i => cur.offset ≤ i ∧ i ≤ src.limit cur.offset)
      hstep id (fun h hreaches => Or.inl (hbuiltIn h hreaches))
      ⟨Nat.le_refl _, Source.limit_isLeast.1.1⟩ hrun
  exact ⟨hback, hbeyond, hlies⟩

/-- A pair is found after a token was skipped, right before a null token. -/
theorem parser_within_limit_of_null :
    let g : Grammar :=
      ((Grammar.just .simple (.int 1)).andThen (.just .simple (.int 2))).recoverWith
        (.skipThenRetry [])
    let span : Span := .single 0 .null
    let src : Source :=
      ⟨#[(.int 3, span), (.int 4, span), (.int 1, span), (.int 2, span), (.null, span)], span⟩
    ∃ r cur', parser {} g src ⟨1, 0, []⟩ = .done r cur' ∧ cur'.offset = 4 ∧ src.limit 1 = 4 ∧
      r.recovered.map Located.position = [1] ∧
      ∀ l ∈ r.recovered ++ r.furthest.toList, 1 ≤ l.position ∧ l.position ≤ src.limit 1 := by
  intro g span src
  have hbuiltIn : Within {} Grammar.IsBuiltIn g := by
    refine .of_closed
      (fun h => h = g ∨
        h = (Grammar.just .simple (.int 1)).andThen (.just .simple (.int 2)) ∨
        ∃ token, h = .just .simple token)
      (Or.inl rfl) ?_ ?_
    · rintro h (rfl | rfl | ⟨token, rfl⟩)
      · trivial
      · trivial
      · trivial
    · rintro h part (rfl | rfl | ⟨token, rfl⟩) hpart
      · exact Or.inr (Or.inl hpart)
      · rcases hpart with rfl | rfl
        · exact Or.inr (Or.inr ⟨_, rfl⟩)
        · exact Or.inr (Or.inr ⟨_, rfl⟩)
      · exact hpart.elim
  obtain ⟨-, -, hlies⟩ := parser_within_limit {} g src ⟨1, 0, []⟩ hbuiltIn rfl
  exact ⟨_, _, rfl, rfl, rfl, rfl, hlies⟩

end Environment
end Resync
