import Mathlib.Data.Finset.Prod
import Mathlib.Order.Interval.Finset.Nat
import Mathlib.Order.Monotone.Basic
import Resync.Proofs.Lockstep.Exact

/-!
# Enough references

How deep references may lie within each other is bounded by their number times the number of
places in the source.  A run that ends, with a result or with a fault, however deep it follows
references, does the same within this bound.

The reason is that a reference ends or not depending on where it stands alone.  The places from
which references end within some depth grow with the depth.  If they do not grow from one depth to
the next, then they do not grow from there on, because what a reference does depends only on what
other references do at smaller depth.  There are fewer places than the bound says, so it is reached
before they stop growing at the latest.
-/

namespace Resync
namespace Environment

variable (env : Environment)

/-- Whether a reference ends from an offset, if no more than `bound` references are followed. -/
def EndsFrom (src : Source) (bound : Nat) (target : Ref) (offset : Nat) : Prop :=
  ∃ c, c.offset = offset ∧ (env.resolve bound target src c).Ended

/-- Whether no reference ends at a greater depth only, from a place that is ahead of `start`. -/
def Settled (src : Source) (start bound bound' : Nat) : Prop :=
  ∀ target i, src.Ahead start i →
    env.EndsFrom src bound' target i → env.EndsFrom src bound target i

/-- At least one reference may be followed. -/
theorem depth_pos (src : Source) : 0 < env.depth src :=
  Nat.mul_pos (Nat.succ_pos _) (Nat.succ_pos _)

section Settling

variable {env} {src : Source} {start bound bound' : Nat}

/-- A reference that ends does so from wherever it is run at that offset, and at every greater
depth. -/
theorem EndsFrom.ended
    {target : Ref}
    {c : Cursor}
    (h : env.EndsFrom src bound target c.offset)
    (hbound : bound ≤ bound') :
    (env.resolve bound' target src c).Ended := by
  obtain ⟨e, hoffset, hended⟩ := h
  exact (env.resolve_inStep hbound target e c .self hoffset.symm).ended hended

theorem EndsFrom.mono
    {target : Ref}
    {i : Nat}
    (h : env.EndsFrom src bound target i)
    (hbound : bound ≤ bound') :
    env.EndsFrom src bound' target i := by
  obtain ⟨c, rfl, hended⟩ := h
  exact ⟨c, rfl, EndsFrom.ended ⟨c, rfl, hended⟩ hbound⟩

/-- What stands for nothing ends with a fault. -/
theorem EndsFrom.of_error
    {target : Ref}
    {f : Fault}
    (hlookup : env.lookup target = .error f)
    (i : Nat) :
    env.EndsFrom src (bound + 1) target i := by
  refine ⟨⟨i, 0, []⟩, rfl, ?_⟩
  rw [env.resolve_succ_of_error hlookup]
  exact trivial

/-- Where more depth lets no more references end, it makes no difference. -/
theorem Settled.resolve
    (h : env.Settled src start bound bound')
    (hbound : bound ≤ bound')
    (target : Ref) :
    (Lockstep.exact src start).Parsers (env.resolve bound' target) (env.resolve bound target) := by
  intro c d hat hoffset
  by_cases hended : (env.resolve bound' target src c).Ended
  · have hreturns := h target c.offset hat ⟨c, rfl, hended⟩
    rw [← hoffset] at hat hreturns
    exact (env.resolve_inStep hbound target d c hat hoffset.symm).symm
      (hreturns.ended (Nat.le_refl _))
  · exact .of_not_ended hended

/-- If one more reference makes no difference, then the next one makes none. -/
theorem Settled.succ (h : env.Settled src start bound (bound + 1)) :
    env.Settled src start (bound + 1) (bound + 2) := by
  rintro target i hi ⟨c, rfl, hended⟩
  cases hlookup : env.lookup target with
  | error f => exact .of_error hlookup _
  | ok g =>
      refine ⟨c, rfl, ?_⟩
      rw [env.resolve_succ_of_ok hlookup] at hended ⊢
      have hstep := Lockstep.Parsers.grammar (h.resolve (Nat.le_succ _)) g
      exact (hstep c c hi rfl).ended hended

end Settling

section Counting

open Classical

/-- The references that stand for something. -/
def targets : Finset Ref :=
  (env.rules.entries.map (fun entry => Ref.rule entry.1) ++
    (List.range env.cells.size).map Ref.cell).toFinset

theorem card_targets : env.targets.card ≤ env.rules.size + env.cells.size := by
  refine Nat.le_trans (List.toFinset_card_le _) ?_
  rw [List.length_append, List.length_map, List.length_map, List.length_range]
  exact Nat.le_refl _

variable {env} {src : Source} {start bound : Nat}

theorem mem_targets
    {target : Ref}
    {g : Grammar}
    (hlookup : env.lookup target = .ok g) :
    target ∈ env.targets := by
  rw [targets, List.mem_toFinset, List.mem_append, List.mem_map, List.mem_map]
  cases target with
  | rule name =>
      left
      change env.rules.get name = .ok g at hlookup
      unfold Rules.get Rules.get? at hlookup
      cases hentry : env.rules.entries.lookup name with
      | none =>
          rw [hentry] at hlookup
          cases hlookup
      | some h =>
          obtain ⟨before, after, hentries, -⟩ := List.lookup_eq_some_iff.1 hentry
          refine ⟨(name, h), ?_, rfl⟩
          rw [hentries]
          exact List.mem_append_right _ List.mem_cons_self
  | cell index =>
      right
      refine ⟨index, List.mem_range.2 ?_, rfl⟩
      by_contra hindex
      have hslot : env.cells.slot index = .unset := by
        unfold Cells.slot
        rw [List.getD_eq_getElem?_getD, List.getElem?_eq_none (Nat.le_of_not_lt hindex)]
        rfl
      change env.cells.get index = .ok g at hlookup
      unfold Cells.get at hlookup
      rw [hslot] at hlookup
      cases hlookup

variable (env src start) in
/-- All references at all places that are ahead. -/
def placesAhead : Finset (Ref × Nat) := env.targets ×ˢ Finset.Icc start (max start src.size)

theorem card_placesAhead_lt : (env.placesAhead src start).card < env.depth src := by
  have hplaces := Nat.mul_le_mul env.card_targets
    (show max start src.size + 1 - start ≤ src.size + 2 by omega)
  rw [placesAhead, Finset.card_product, Nat.card_Icc, depth, Nat.add_mul _ 1]
  omega

variable (env src start) in
/-- The references that end within some depth, with the places where they do. -/
noncomputable def ending (bound : Nat) : Finset (Ref × Nat) :=
  (env.placesAhead src start).filter fun place => env.EndsFrom src bound place.1 place.2

theorem mem_ending {target : Ref} {i : Nat} :
    (target, i) ∈ env.ending src start bound ↔
      target ∈ env.targets ∧ src.Ahead start i ∧ env.EndsFrom src bound target i := by
  rw [ending, Finset.mem_filter, placesAhead, Finset.mem_product, Finset.mem_Icc, and_assoc]
  exact Iff.rfl

theorem ending_mono {bound' : Nat} (hbound : bound ≤ bound') :
    env.ending src start bound ⊆ env.ending src start bound' := by
  rintro ⟨target, i⟩ hplace
  rw [mem_ending] at hplace ⊢
  exact ⟨hplace.1, hplace.2.1, hplace.2.2.mono hbound⟩

/-- Equally many references end if and only if more depth lets no more end. -/
theorem card_ending_eq {bound' : Nat} (hbound : bound + 1 ≤ bound') :
    (env.ending src start (bound + 1)).card = (env.ending src start bound').card ↔
      env.Settled src start (bound + 1) bound' := by
  constructor
  · intro hcard target i hi hends
    cases hlookup : env.lookup target with
    | error f => exact .of_error hlookup i
    | ok g =>
        have hplace : (target, i) ∈ env.ending src start bound' :=
          mem_ending.2 ⟨mem_targets hlookup, hi, hends⟩
        rw [← Finset.eq_of_subset_of_card_le (ending_mono hbound) (Nat.le_of_eq hcard.symm)]
          at hplace
        exact (mem_ending.1 hplace).2.2
  · intro hsettled
    congr 1
    refine Finset.Subset.antisymm (ending_mono hbound) ?_
    rintro ⟨target, i⟩ hplace
    rw [mem_ending] at hplace ⊢
    exact ⟨hplace.1, hplace.2.1, hsettled target i hplace.2.1 hplace.2.2⟩

/-- The bound on the depth is enough for all references. -/
theorem settled_depth {n : Nat} (hn : env.depth src ≤ n) :
    env.Settled src start (env.depth src) n := by
  obtain ⟨least, hleast⟩ := Nat.exists_eq_succ_of_ne_zero (Nat.ne_of_gt (env.depth_pos src))
  obtain ⟨more, rfl⟩ := Nat.exists_eq_add_of_le' hn
  have hplaces : (env.placesAhead src start).card < env.depth src := card_placesAhead_lt
  rw [hleast] at hn hplaces ⊢
  rw [← card_ending_eq hn]
  symm
  refine Nat.stabilises_of_monotone
    (f := fun bound => (env.ending src start (bound + 1)).card) (b := least) (n := more + least)
    ?_ ?_ ?_ (Nat.le_add_left _ _)
  · exact fun m m' hm => Finset.card_le_card (ending_mono (Nat.succ_le_succ hm))
  · exact fun m => Nat.le_trans (Finset.card_filter_le _ _) (Nat.le_of_lt_succ hplaces)
  · intro m hm
    rw [card_ending_eq (Nat.le_succ _)] at hm
    exact (card_ending_eq (Nat.le_succ _)).2 hm.succ

end Counting

/-- A run that ends, however deep it follows references, does the same within the bound. -/
theorem parser_inStep_depth (src : Source) (start bound : Nat) (g : Grammar) :
    (Lockstep.exact src start).Parsers
      (g.parser (env.resolve bound)) (g.parser (env.resolve (env.depth src))) := by
  rcases Nat.le_total bound (env.depth src) with hless | hmore
  · exact env.parser_inStep hless g
  · exact .grammar ((settled_depth hmore).resolve hmore) g

/-- **Enough references.**  A run that ends, however deep it follows references, comes to the same
within the bound: to the same result or the same fault, at the same place, with as many tokens taken
and with the same reports. -/
theorem parser_of_bound
    {env : Environment}
    {g : Grammar}
    {src : Source}
    {bound : Nat}
    {cur : Cursor}
    {o : Outcome Result}
    (hrun : g.parser (env.resolve bound) src cur = o)
    (hended : o.Ended) :
    env.parser g src cur = o := by
  subst hrun
  exact (env.parser_inStep_depth src cur.offset bound g cur cur .self rfl).eq hended

end Environment
end Resync
