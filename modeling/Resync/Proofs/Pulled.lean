import Resync.Grammar.Combinator
import Resync.Proofs.Depth
import Resync.Proofs.Simulation.Carried

/-!
# What a run depends on

A run depends on the grammar, on where it starts, and on the tokens that it takes from the source.
It does not depend on how many tokens had been taken before, and what has not been taken when it
ends may be anything: other tokens, more or fewer of them, and another end of the input.
-/

namespace Resync

/-- Sources that begin alike look the same to a run that does not take all of the first one. -/
theorem Source.Shows.of_begins
    {src src' : Source}
    {count : Nat}
    (hcount : count < src.size)
    (hbegins : ∀ i < count, src'.tokens[i]? = src.tokens[i]?) :
    src.Shows src' count := by
  intro i hi
  have hbefore : i < count := by omega
  unfold Source.size at hcount hi ⊢
  have hentry := Array.getElem?_eq_getElem (Nat.lt_trans hbefore hcount)
  have hentry' := (hbegins i hbefore).trans hentry
  obtain ⟨hinside, -⟩ := Array.getElem?_eq_some_iff.1 hentry'
  constructor
  · unfold Source.sighting
    rw [hentry, hentry']
  · omega

namespace Environment

section Carried

variable {env : Environment} {src src' : Source} {count first second : Nat} {At : Nat → Prop}
variable {hshows : src.Shows src' count}
variable {at_succ : ∀ {i}, At i → (src.sighting i).token ≠ .null → At (i + 1)}

open Simulation

/-- Nothing is asked of grammars for their runs to be carried over. -/
theorem within_carried (g : Grammar) :
    env.Within (carried src src' count first second At hshows at_succ).Admits g :=
  fun k _ => carried_diagonal.admits k fun _ _ _ _ _ => trivial

theorem resolve_carried (bound : Nat) (target : Ref) :
    (carried src src' count first second At hshows at_succ).Parsers
      (env.resolve bound target) (env.resolve bound target) :=
  env.resolve_simulates 0 id carried_loops
    (fun bound h => ⟨env.forward bound h src, env.forward bound h src'⟩) bound target
    fun g _ => within_carried g

/-- A grammar is carried over as its references are. -/
theorem parser_carried (bound : Nat) (g : Grammar) :
    (carried src src' count first second At hshows at_succ).Parsers
      (g.parser (env.resolve bound)) (g.parser (env.resolve bound)) :=
  g.simulates id carried_loops
    (fun h => ⟨env.forward bound h src, env.forward bound h src'⟩)
    (fun target _ => resolve_carried bound target) (within_carried g : env.Within _ g)

end Carried

variable (env : Environment)

/-- How many tokens a run has taken from the source when it ends, if none had been taken before. -/
def pulled (g : Grammar) (src : Source) (start : Nat) : Nat :=
  match env.parser g src ⟨start, 0, []⟩ with
  | .done _ cur => cur.buffered
  | .halted _ cur => cur.buffered

variable {env} {g : Grammar} {src : Source} {cur cur' : Cursor} {r : Result}

/-- A run that returns does so again from wherever it starts at the same offset. -/
theorem parser_again
    {d : Cursor}
    (hrun : env.parser g src cur = .done r cur')
    (hoffset : d.offset = cur.offset) :
    ∃ d', env.parser g src d = .done r d' ∧ d'.offset = cur'.offset ∧
      Beside cur.buffered d.buffered cur'.buffered d'.buffered := by
  have hends : (Lockstep.exact src cur.offset).Ends _ cur d (env.parser g src cur)
      (env.parser g src d) :=
    env.parser_inStep (Nat.le_refl (env.depth src)) g cur d .self hoffset
  rw [hrun] at hends
  generalize env.parser g src d = o at hends ⊢
  cases hends with
  | done hmoves _ => exact ⟨_, rfl, hmoves.offset_eq, hmoves.buffered⟩

/-- Tokens that had been taken before make no difference. -/
theorem parser_of_same_offset
    {c : Cursor}
    (hrun : env.parser g src cur = .done r cur')
    (hoffset : c.offset = cur.offset) :
    ∃ c', env.parser g src c = .done r c' ∧ c'.offset = cur'.offset ∧
      c'.buffered = max c.buffered (env.pulled g src cur.offset) := by
  let fresh : Cursor := ⟨cur.offset, 0, []⟩
  obtain ⟨stop, hfresh, hstop, -⟩ := parser_again (d := fresh) hrun rfl
  obtain ⟨c', hc, hc', taken, htaken, hbuffered⟩ := parser_again hfresh hoffset
  have hpulled : env.pulled g src cur.offset = stop.buffered := by
    unfold pulled
    rw [hfresh]
  have hzero : stop.buffered = taken := htaken.trans (Nat.zero_max taken)
  refine ⟨c', hc, hc'.trans hstop, ?_⟩
  rw [hbuffered, hpulled, hzero]

/-- What was not taken from the source makes no difference. -/
theorem parser_of_begins
    {src' : Source}
    (hrun : env.parser g src cur = .done r cur')
    (hcount : cur'.buffered < src.size)
    (hbegins : ∀ i < cur'.buffered, src'.tokens[i]? = src.tokens[i]?) :
    ∃ c', env.parser g src' cur = .done r c' ∧ c'.offset = cur'.offset ∧
      c'.buffered = cur'.buffered := by
  have hparsers : (Simulation.carried src src' cur'.buffered cur.buffered cur.buffered
      (fun _ => True) (.of_begins hcount hbegins) fun _ _ => trivial).Parsers
      (g.parser (env.resolve (env.depth src))) (g.parser (env.resolve (env.depth src))) :=
    parser_carried (env.depth src) g
  obtain ⟨-, -, -, hcarries⟩ := hparsers cur r cur' trivial hrun
  obtain ⟨r', mid, hrun', hresults, hmid, taken, htaken, hbuffered⟩ :=
    hcarries cur rfl (.start _ _) (Nat.le_refl _)
  rw [Simulation.carried_diagonal.results_eq id hresults] at hrun'
  exact ⟨mid, parser_of_bound hrun' trivial, hmid, hbuffered.trans htaken.symm⟩

variable (env g src cur) in
/-- **A run depends only on the tokens that it takes.**  If a run returns, then so does every run
that starts at the same offset, whatever had been taken from the source before: with the same
result, at the same offset, and with the greater of the number of tokens taken before and a number
that depends on the grammar, the source and the offset alone.  If some of the source has not been
taken when the run ends, then anything else may stand in its place. -/
theorem parser_depends_on_pulled
    (hrun : env.parser g src cur = .done r cur') :
    (∀ c : Cursor, c.offset = cur.offset →
      ∃ c', env.parser g src c = .done r c' ∧ c'.offset = cur'.offset ∧
        c'.buffered = max c.buffered (env.pulled g src cur.offset)) ∧
    (cur'.buffered < src.size →
      ∀ src' : Source, (∀ i < cur'.buffered, src'.tokens[i]? = src.tokens[i]?) →
        ∃ c', env.parser g src' cur = .done r c' ∧ c'.offset = cur'.offset ∧
          c'.buffered = cur'.buffered) :=
  ⟨fun _ hoffset => parser_of_same_offset hrun hoffset,
    fun hcount _ hbegins => parser_of_begins hrun hcount hbegins⟩

/-- The ones at the beginning are followed by a token that is looked at, and one that is not. -/
theorem parser_depends_on_pulled_of_ones :
    let ones : Grammar := (Grammar.just .simple (.int 1)).repeated 0 none
    let g : Grammar := .mapWithSpan (fun v _ => .ok v) ones
    let span : Span := .single 0 .null
    let src : Source := ⟨#[(.int 1, span), (.int 2, span), (.int 3, span)], span⟩
    let src' : Source := ⟨#[(.int 1, span), (.int 2, span)], .single 5 .null⟩
    ∃ r cur', parser {} g src {} = .done r cur' ∧ cur'.buffered = 2 ∧
      (∃ c', parser {} g src ⟨0, 3, []⟩ = .done r c' ∧ c'.buffered = max 3 (pulled {} g src 0)) ∧
      ∃ c', parser {} g src' {} = .done r c' ∧ c'.offset = cur'.offset ∧ c'.buffered = 2 := by
  intro ones g span src src'
  obtain ⟨hstarts, hrest⟩ := parser_depends_on_pulled {} g src {} rfl
  obtain ⟨c, hc, -, hbuffered⟩ := hstarts ⟨0, 3, []⟩ rfl
  refine ⟨_, _, rfl, rfl, ⟨c, hc, hbuffered⟩, hrest (by decide) src' ?_⟩
  intro i hi
  match i, hi with
  | 0, _ => rfl
  | 1, _ => rfl

end Environment
end Resync
