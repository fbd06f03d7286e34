import Resync.Proofs.Agreement
import Resync.Proofs.Simulation.Grammar

/-!
# Pairs of runs that return

Two runs over one source that start level, with as many tokens buffered, and both return.  The
simulation says that they end level too, at a place where the cursor may stand, and with values
that correspond.  Nothing is said of a run whose partner does not return.

A run is also paired with itself.  Then the simulation speaks of one run, and of where its
diagnostics lie.
-/

namespace Resync
namespace Simulation

/-- The comparison of runs over one source that both return. -/
def paired
    (source : Source)
    (At : Nat → Prop)
    (Alike : Located → Located → Prop)
    (made : Prop)
    (position_eq : ∀ {l m}, Alike l m → l.position = m.position)
    (max_alike : ∀ {a a' b b' c c' : Located}, Alike a a' → Alike b b' →
      a.max (some b) = .ok c → a'.max (some b') = .ok c' → Alike c c')
    (at_succ : ∀ {i}, At i → (source.sighting i).token ≠ .null → At (i + 1)) :
    Simulation where
  source := source
  At := At
  Alike := Alike
  made := made
  loose := True
  Rel V x y := ∀ c d a c' b d', c.Level d → At c.offset →
    x source c = .done a c' → y source d = .done b d' → V a b ∧ c'.Level d' ∧ At c'.offset
  loose_of_made _ := trivial
  position_eq := position_eq
  max ha hb := .of_loose trivial fun _ _ => max_alike ha hb
  at_succ := at_succ
  pure hab := by
    intro c d a c' b d' hlevel hat hx hy
    cases hx
    cases hy
    exact ⟨hab, hlevel, hat⟩
  bind hx hf := by
    intro c d a c' b d' hlevel hat hleft hright
    obtain ⟨u, mid, hu, ha⟩ := Scan.bind_eq_done.1 hleft
    obtain ⟨v, mid', hv, hb⟩ := Scan.bind_eq_done.1 hright
    obtain ⟨huv, hlevel', hat'⟩ := hx c d u mid v mid' hlevel hat hu hv
    exact hf u v huv mid mid' a c' b d' hlevel' hat' ha hb
  save := by
    intro c d a c' b d' hlevel hat hx hy
    cases hx
    cases hy
    exact ⟨⟨hlevel.1.symm, hat⟩, hlevel, hat⟩
  revert hi := by
    intro c d a c' b d' hlevel hat hx hy
    cases hx
    cases hy
    exact ⟨trivial, ⟨rfl, hlevel.2⟩, hi⟩
  report := by
    intro e e' c d a c' b d' hlevel hat hx hy
    cases hx
    cases hy
    exact ⟨trivial, hlevel, hat⟩
  lookAt := by
    intro i c d a c' b d' hlevel hat hx hy
    cases hx
    cases hy
    refine ⟨⟨rfl, rfl⟩, ⟨hlevel.1, ?_⟩, hat⟩
    simp only [hlevel.2]
  silent_left h := fun c d a c' b d' _ _ hx _ => absurd hx (h c a c')
  silent_right _ h := fun c d a c' b d' _ _ _ hy => absurd hy (h d b d')

section Equal

variable (source : Source) (At P : Nat → Prop) (made : Prop)
variable (at_succ : ∀ {i}, At i → (source.sighting i).token ≠ .null → At (i + 1))

/-- The comparison that asks for equal diagnostics, which lie where `P` holds. -/
def located : Simulation :=
  paired source At (fun l m => m = l ∧ P l.position) made
    (by
      rintro l m ⟨rfl, -⟩
      rfl)
    (by
      rintro a a' b b' c c' ⟨rfl, ha⟩ ⟨rfl, hb⟩ hmax hmax'
      rw [hmax] at hmax'
      cases hmax'
      refine ⟨rfl, ?_⟩
      rcases Located.max_some_eq_ok hmax with ⟨-, rfl⟩ | ⟨-, rfl⟩ | ⟨-, error, -, rfl⟩
      · exact ha
      · exact hb
      · exact ha)
    at_succ

variable {source At P made} {at_succ}

theorem located_diagonal (hP : ∀ {i}, At i → P i) :
    (located source At P made at_succ).Diagonal P := ⟨fun _ _ => Iff.rfl, hP⟩

theorem located_sameSource : (located source At P made at_succ).SameSource := by
  intro c d a c' b d' hlevel hat hx hy
  cases hx
  cases hy
  exact ⟨⟨rfl, rfl⟩, hlevel, hat⟩

/-- What a run of a parser that corresponds to itself shows. -/
theorem located_done
    {p : Parser}
    {cur cur' : Cursor}
    {r : Result}
    (hP : ∀ {i}, At i → P i)
    (hp : (located source At P made at_succ).Parsers p p)
    (hat : At cur.offset)
    (hrun : p source cur = .done r cur') :
    At cur'.offset ∧ ∀ l ∈ r.recovered ++ r.furthest.toList, P l.position := by
  obtain ⟨hresults, -, hat'⟩ := hp cur cur r cur' r cur' ⟨rfl, rfl⟩ hat hrun hrun
  exact ⟨hat', ((located_diagonal hP).results_self_iff r).1 hresults⟩

end Equal
end Simulation
end Resync
