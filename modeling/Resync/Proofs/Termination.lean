import Resync.Grammar.Combinator
import Resync.Proofs.Contract.Grammar

/-!
# Termination

A grammar whose definitions are guarded ends over every source, from every place.  Three things
could go on for ever, and a bound halts each of them in a run: references that are followed within
each other, the rounds of a repetition, and the steps of a recovery that skips tokens.  None of the
bounds is felt.  Between two references within each other a token is taken, so they lie no deeper
than there are tokens left.  A round of a repetition that asks for no more matches, and consumes
nothing, is the last.  A step of a recovery drops a token for good, whatever is tried after it.
-/

namespace Resync

/-- The contract to end: whatever a run comes to, it does not run into a bound. -/
def Contract.ending (src : Source) : Contract where
  source := src
  Fine _ := True
  Allows cause := cause ≠ .exhausted
  max _ _ := .of_allowed (fun _ hcause => nomatch hcause) fun _ _ => trivial
  spans _ _ := .of_allowed (fun _ hcause => nomatch hcause) fun _ _ => trivial

namespace Environment

variable (env : Environment)

/-- Whether the definitions of all references that a grammar reaches are guarded. -/
def Guards (g : Grammar) : Prop :=
  ∀ target definition, env.Reaches g (.ref target) → env.lookup target = .ok definition →
    definition.Guarded False

section Ending

variable {env} {src : Source} {α : Type}

theorem ending_ensures {Q : α → Prop} (hQ : ∀ a, Q a) (e : Except Fault α) :
    Ensures (Contract.ending src).Allows Q e :=
  .of_allowed (fun _ hcause => nomatch hcause) fun a _ => hQ a

theorem ending_results (r : Result) : (Contract.ending src).Results r :=
  ⟨fun _ _ => trivial, fun _ _ => trivial⟩

theorem ending_passes {i : Nat} (verdict : Verdict) : (Contract.ending src).Passes i verdict := by
  cases verdict with
  | accept output => trivial
  | reject error => trivial

/-- No grammar by itself runs into a bound. -/
theorem ending_admits (g : Grammar) : (Contract.ending src).Admits env g := by
  have hexpects (dialect : Dialect) (expected : List Value) :
      (Contract.ending src).Expects dialect expected :=
    fun _ => ending_ensures (fun _ => trivial) _
  cases g with
  | satisfy dialect expected test =>
      exact ⟨hexpects _ _, fun _ _ => ending_ensures (fun _ => trivial) _⟩
  | seq dialect tokens => exact fun token _ => hexpects _ _
  | filterMap dialect f => exact ⟨hexpects _ _, fun _ _ => ending_ensures ending_passes _⟩
  | endOfInput dialect => exact hexpects _ _
  | scripted consume relative answer => exact fun _ => ending_results _
  | map f of => exact fun _ _ _ _ => ending_ensures (fun _ => trivial) _
  | mapWithSpan f of => exact fun _ _ _ _ _ _ => ending_ensures (fun _ => trivial) _
  | tryMap f of => exact fun _ _ _ _ _ _ => ending_ensures ending_passes _
  | mapError f of => exact fun _ _ => trivial
  | labelled label of => exact fun _ _ => trivial
  | recoverWith of strategy =>
      cases strategy with
      | nestedDelimiters opening closing others default =>
          exact fun _ _ _ _ => ending_ensures (fun _ => trivial) _
      | _ => trivial
  | generate plan => exact fun _ _ hcause => nomatch hcause
  | ref target => exact fun _ _ hcause => nomatch hcause
  | _ => trivial

/-- What a grammar reaches refers to guarded definitions only, where it is a reference. -/
def RefersGuarded (env : Environment) (h : Grammar) : Prop :=
  ∀ target definition, h = .ref target → env.lookup target = .ok definition →
    definition.Guarded False

theorem Guards.onlyMeets {g : Grammar} (h : env.Guards g) :
    env.OnlyMeets src env.RefersGuarded g := by
  rintro _ hmeets target definition rfl hlookup
  exact h target definition hmeets.reaches hlookup

/-- A reference ends if it is followed deeper than there are tokens left. -/
theorem resolve_ends
    {bound i : Nat}
    {target : Ref}
    (hmeets : env.OnlyMeets src env.RefersGuarded (.ref target))
    (hbound : src.size - i < bound) :
    (Contract.ending src).Keeps i (env.resolve bound target) := by
  induction bound generalizing i target with
  | zero => exact absurd hbound (Nat.not_lt_zero _)
  | succ bound ih =>
      cases hlookup : env.lookup target with
      | error f =>
          rw [env.resolve_succ_of_error hlookup]
          exact fun _ _ hcause => nomatch hcause
      | ok definition =>
          rw [env.resolve_succ_of_ok hlookup]
          have hguarded : definition.Guarded False := hmeets.self target definition rfl hlookup
          refine definition.keeps (fun h _ => ending_admits h) (hmeets.part hlookup) hguarded ?_
          constructor
          · exact fun _ hfalse => hfalse.elim
          · intro target' hi hmeets'
            have hi' : i < src.size := hi
            exact ih hmeets' (by omega)

end Ending

/-- **Termination.**  If the definitions that a grammar refers to are guarded, its run ends over
every source and from every place, with a result or with a fault.  It needs to follow references no
deeper than there are tokens left, and no repetition goes on beyond its bound.  Skipping tokens ends
by itself, with at most as many steps as there are tokens left: it comes to the same with any number
of steps above. -/
theorem parser_ends
    (g : Grammar)
    (src : Source)
    (cur : Cursor)
    (hguards : env.Guards g) :
    ((∃ r cur', env.parser g src cur = .done r cur') ∨
        ∃ f cur', env.parser g src cur = .halted (.fault f) cur') ∧
      (∀ bound, src.size - cur.offset < bound → ∀ cur',
        g.parser (env.resolve bound) src cur ≠ .halted .exhausted cur') ∧
      ∀ p sentinels recovered fatal skipped c remaining, src.size - c.offset ≤ remaining →
        Strategy.skipAndRetry p sentinels recovered fatal remaining skipped src c =
          Strategy.skipAndRetry p sentinels recovered fatal (src.size - c.offset) skipped src c := by
  have hends : ∀ bound, src.size - cur.offset < bound → ∀ cur',
      g.parser (env.resolve bound) src cur ≠ .halted .exhausted cur' := by
    intro bound hbound cur' hrun
    have hresolved : (Contract.ending src).Resolved env env.RefersGuarded bound True cur.offset :=
      .of_all fun target hmeets => resolve_ends hmeets hbound
    have hkeeps : (Contract.ending src).Keeps cur.offset (g.parser (env.resolve bound)) :=
      g.keeps (fun h _ => ending_admits h) hguards.onlyMeets (g.guarded_of trivial) hresolved
    have hends : (Contract.ending src).Ends (Contract.ending src).Results
        (g.parser (env.resolve bound) src cur) := hkeeps cur (Nat.le_refl _)
    rw [hrun] at hends
    exact hends rfl
  refine ⟨?_, hends, fun p sentinels recovered fatal skipped c remaining hremaining =>
    Strategy.skipAndRetry_eq hremaining (Nat.le_refl _)⟩
  have hdepth : src.size - cur.offset < env.depth src := by
    unfold depth
    have hone : 1 * (src.size + 2) ≤ (env.rules.size + env.cells.size + 1) * (src.size + 2) :=
      Nat.mul_le_mul_right _ (Nat.le_add_left _ _)
    omega
  cases hrun : env.parser g src cur with
  | done r cur' => exact Or.inl ⟨r, cur', rfl⟩
  | halted cause cur' =>
      cases cause with
      | fault f => exact Or.inr ⟨f, cur', rfl⟩
      | exhausted => exact absurd hrun (hends _ hdepth cur')

/-- A list whose items and separators may all be empty, and whose items refer to themselves behind a
token. -/
theorem parser_ends_of_empty_items :
    let nest : Grammar :=
      ((Grammar.just .simple (.int 1)).andThen (.ref (.cell 0))).optional
    let g : Grammar := .separatedBy (.ref (.cell 0)) .empty 3 true true
    let env : Environment := { cells := ⟨[⟨some nest⟩]⟩ }
    let src : Source := .ofTokens [.int 1, .int 1] .null
    env.Guards g ∧ (∃ r cur', env.parser g src {} = .done r cur') ∧
      ∀ cur', g.parser (env.resolve 3) src {} ≠ .halted .exhausted cur' := by
  intro nest g env src
  have hguards : env.Guards g := by
    rintro target definition - hlookup
    cases target with
    | rule name => cases hlookup
    | cell i =>
        cases i with
        | zero =>
            cases hlookup
            exact ⟨trivial, Or.inr trivial⟩
        | succ i => cases hlookup
  obtain ⟨hends, hbound, -⟩ := parser_ends env g src {} hguards
  refine ⟨hguards, hends.resolve_right ?_, hbound 3 (by decide)⟩
  rintro ⟨f, cur', hrun⟩
  have hdone : (env.parser g src {}).isDone = true := by decide +kernel
  rw [hrun] at hdone
  cases hdone

end Environment
end Resync
