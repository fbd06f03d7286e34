import Mathlib.Logic.Function.Basic
import Resync.Proofs.Bundles
import Resync.Proofs.LateBinding

/-!
# Tying the knot once

Cells are defined one after another, in any order, and grammars that refer to them are run in
between.  Each cell keeps the first definition that it is given, so what a history of operations
leaves behind is known from the first definitions in it.

A run may come to a cell that is not defined yet.  One sees that it does from what it would do if
the undefined cells were defined by grammars that break off with a fault: it breaks off with the
fault of the cell that it comes to.  All other runs are the same whatever definitions are still to
come.
-/

namespace Resync

namespace Cells

variable {count : Nat}

/-- The cells with these definitions; some may be undefined. -/
def holding (definitions : Fin count → Option Grammar) : Cells :=
  ⟨List.ofFn fun i => ⟨definitions i⟩⟩

/-- The cells with these definitions, none undefined. -/
def tied (definitions : Fin count → Grammar) : Cells := holding fun i => some (definitions i)

/-- So many cells that were just made. -/
def fresh : Nat → Cells
  | 0 => empty
  | count + 1 => (fresh count).alloc

section Holding

variable (definitions : Fin count → Option Grammar) (i : Fin count)

@[simp] theorem size_holding : (holding definitions).size = count := List.length_ofFn

@[simp] theorem slot_holding : (holding definitions).slot i = ⟨definitions i⟩ := by
  unfold slot holding
  rw [List.getD_eq_getElem?_getD, List.getElem?_ofFn, dif_pos i.isLt]
  rfl

@[simp] theorem isDefined_holding : (holding definitions).isDefined i = (definitions i).isSome := by
  unfold isDefined
  rw [slot_holding]
  rfl

variable {definitions i} in
theorem get_of_some {definition : Grammar} (h : definitions i = some definition) :
    (holding definitions).get i = .ok definition := by
  unfold get
  rw [slot_holding, h]

variable {definitions i} in
theorem get_of_none (h : definitions i = none) :
    (holding definitions).get i = .error .undefinedRecursion := by
  unfold get
  rw [slot_holding, h]

/-- There are no definitions beyond the last cell. -/
theorem get_of_le {j : Nat} (hj : count ≤ j) :
    (holding definitions).get j = .error .undefinedRecursion := by
  have hslot : (holding definitions).slot j = .unset := by
    unfold slot holding
    rw [List.getD_eq_getElem?_getD, List.getElem?_ofFn, dif_neg (Nat.not_lt.2 hj)]
    rfl
  unfold get
  rw [hslot]
  rfl

/-- A cell that is undefined is defined, and no other one is touched; one that is defined is left as
it is. -/
theorem define_holding (definition : Grammar) :
    (holding definitions).define i definition =
      if (definitions i).isSome then .error (.alreadySet "parser")
      else .ok (holding (Function.update definitions i (some definition))) := by
  have hset : (holding definitions).slots.set i ⟨some definition⟩ =
      (holding (Function.update definitions i (some definition))).slots := by
    refine List.ext_getElem (by simp [holding]) fun j hj hj' => ?_
    simp only [holding, List.getElem_set, List.getElem_ofFn, Function.update_apply, Fin.ext_iff,
      eq_comm (a := j)]
    split_ifs
    · rfl
    · rfl
  unfold define
  rw [slot_holding]
  unfold WriteOnce.set
  cases definitions i with
  | none => exact congrArg (fun slots => Except.ok (Cells.mk slots)) hset
  | some definition' => rfl

end Holding

theorem fresh_eq (count : Nat) : fresh count = holding fun _ : Fin count => none := by
  unfold holding
  rw [List.ofFn_const]
  induction count with
  | zero => rfl
  | succ count ih =>
      rw [fresh, ih, List.replicate_succ']
      rfl

end Cells

/-- A plan that is given up at once breaks off with its fault. -/
theorem Grammar.parser_abandon (resolve : Ref → Parser) (f : Fault) :
    (Grammar.generate (.abandon f)).parser resolve = Scan.halt (.fault f) := by
  rw [Grammar.parser, Plan.parser]

namespace Environment

variable {count : Nat}

section Missing

variable (rules : Rules) (first : Fin count → Option Grammar)

/-- What references mean if the cells have these definitions, and those that are undefined have
others in their place. -/
def completed (others : Fin count → Grammar) : Environment :=
  ⟨rules, .tied fun i => (first i).getD (others i)⟩

/-- What undefined cells are called for: what the definition of one of them does somewhere. -/
def CallsMissing (src : Source) (call : (Fin count → Grammar) → Outcome Result) : Prop :=
  ∃ i bound cur, first i = none ∧
    call = fun others => (others i).parser ((completed rules first others).resolve bound) src cur

/-- Whether a run comes to an undefined cell, and where: whichever faults the undefined cells would
break off with, it breaks off with the fault of this one. -/
def ComesTo (g : Grammar) (src : Source) (cur : Cursor) (i : Fin count) (cur' : Cursor) : Prop :=
  first i = none ∧
    ∀ faults : Fin count → Fault,
      (completed rules first fun j => .generate (.abandon (faults j))).parser g src cur =
        .halted (.fault (faults i)) cur'

/-- What a reference stands for does not depend on the undefined cells, unless it is one of them. -/
theorem lookup_completed (target : Ref) :
    (∀ others, (completed rules first others).lookup target =
        (Environment.mk rules (.holding first)).lookup target) ∨
      ∃ i : Fin count, target = .cell i ∧ first i = none ∧
        ∀ others, (completed rules first others).lookup target = .ok (others i) := by
  cases target with
  | rule name => exact Or.inl fun _ => rfl
  | cell j =>
      by_cases hj : j < count
      · let i : Fin count := ⟨j, hj⟩
        have hget (others : Fin count → Grammar) :
            (completed rules first others).lookup (.cell i) = .ok ((first i).getD (others i)) :=
          Cells.get_of_some rfl
        cases hfirst : first i with
        | none =>
            rw [hfirst] at hget
            exact Or.inr ⟨i, rfl, hfirst, hget⟩
        | some definition =>
            rw [hfirst] at hget
            exact Or.inl fun others => (hget others).trans (Cells.get_of_some hfirst).symm
      · refine Or.inl fun others => ?_
        exact (Cells.get_of_le _ (Nat.not_lt.1 hj)).trans
          (Cells.get_of_le _ (Nat.not_lt.1 hj)).symm

variable {rules first} {src : Source} {g : Grammar} {cur cur' : Cursor}

/-- Runs that differ only in the definitions that are still to come differ in nothing but what they
call undefined cells for.  The induction is on how deep references are followed. -/
theorem resolve_scans (bound : Nat) (target : Ref) :
    Bundle.Scans (CallsMissing rules first src) src fun others =>
      (completed rules first others).resolve bound target := by
  induction bound generalizing target with
  | zero => exact .const _
  | succ bound ih =>
      rcases lookup_completed rules first target with hsame | ⟨i, rfl, hfirst, hmissing⟩
      · cases hlookup : (Environment.mk rules (.holding first)).lookup target with
        | error f =>
            have hrun (others : Fin count → Grammar) :=
              resolve_succ_of_error _ ((hsame others).trans hlookup) bound
            simp only [hrun]
            exact .const _
        | ok definition =>
            have hrun (others : Fin count → Grammar) :=
              resolve_succ_of_ok _ ((hsame others).trans hlookup) bound
            simp only [hrun]
            exact .grammar ih definition
      · intro cur
        have hrun (others : Fin count → Grammar) :=
          resolve_succ_of_ok _ (hmissing others) bound
        simp only [hrun]
        exact .called _ ⟨i, bound, cur, hfirst, rfl⟩ fun _ _ _ hcall => hcall

variable (rules first) in
/-- All runs of a grammar end in the same way, whatever definitions are still to come, or they call
an undefined cell. -/
theorem completed_ends (g : Grammar) (src : Source) (cur : Cursor) :
    Bundle.Ends (CallsMissing rules first src) fun others =>
      (completed rules first others).parser g src cur := by
  have hdepth (others : Fin count → Grammar) : (completed rules first others).depth src =
      (Environment.mk rules (.holding first)).depth src := by
    unfold depth
    simp only [completed, Cells.tied, Cells.size_holding]
  unfold parser
  simp only [hdepth]
  exact Bundle.Scans.grammar (resolve_scans _) g cur

/-- An undefined cell is like one whose definition breaks off because there is none. -/
theorem resolve_holding (bound : Nat) :
    (Environment.mk rules (.holding first)).resolve bound =
      (completed rules first fun _ => .generate (.abandon .undefinedRecursion)).resolve bound := by
  induction bound with
  | zero => rfl
  | succ bound ih =>
      funext target
      rcases lookup_completed rules first target with hsame | ⟨i, rfl, hfirst, hmissing⟩
      · cases hlookup : (Environment.mk rules (.holding first)).lookup target with
        | error f =>
            rw [resolve_succ_of_error _ hlookup,
              resolve_succ_of_error _ ((hsame _).trans hlookup)]
        | ok definition =>
            rw [resolve_succ_of_ok _ hlookup, resolve_succ_of_ok _ ((hsame _).trans hlookup), ih]
      · have hlookup : (Environment.mk rules (.holding first)).lookup (.cell i) =
            .error .undefinedRecursion := Cells.get_of_none hfirst
        rw [resolve_succ_of_error _ hlookup, resolve_succ_of_ok _ (hmissing _),
          Grammar.parser_abandon]

theorem parser_holding (g : Grammar) (src : Source) (cur : Cursor) :
    (Environment.mk rules (.holding first)).parser g src cur =
      (completed rules first fun _ => .generate (.abandon .undefinedRecursion)).parser g src
        cur := by
  unfold parser depth
  rw [resolve_holding]
  simp only [completed, Cells.tied, Cells.size_holding]

/-- A run that comes to an undefined cell is given up there. -/
theorem ComesTo.halted {i : Fin count} (h : ComesTo rules first g src cur i cur') :
    (Environment.mk rules (.holding first)).parser g src cur =
      .halted (.fault .undefinedRecursion) cur' :=
  (parser_holding g src cur).trans (h.2 fun _ => .undefinedRecursion)

/-- A run comes to an undefined cell, or it is what it is when all cells are defined. -/
theorem comesTo_or_tied (g : Grammar) (src : Source) (cur : Cursor) :
    (∃ i cur', ComesTo rules first g src cur i cur') ∨
      ∀ tie : Fin count → Grammar, (∀ i, ∀ definition ∈ first i, tie i = definition) →
        (Environment.mk rules (.holding first)).parser g src cur =
          (Environment.mk rules (.tied tie)).parser g src cur := by
  cases completed_ends rules first g src cur with
  | alike o hends =>
      refine Or.inr fun tie htie => ?_
      have htied : completed rules first tie = ⟨rules, .tied tie⟩ := by
        unfold completed
        congr 2
        funext i
        cases hfirst : first i with
        | none => rfl
        | some definition => exact (htie i definition hfirst).symm
      rw [parser_holding, ← htied, hends, hends]
  | called call hcalls hhalts =>
      obtain ⟨i, bound, cur', hfirst, rfl⟩ := hcalls
      refine Or.inl ⟨i, cur', hfirst, fun faults => hhalts _ _ _ ?_⟩
      simp only [Grammar.parser_abandon]
      rfl

end Missing

end Environment

namespace Cells

/-- What can be done with cells, and with grammars that refer to them. -/
inductive Operation (count : Nat) where
  | define (cell : Fin count) (definition : Grammar)
  | isDefined (cell : Fin count)
  | run (g : Grammar) (src : Source) (cur : Cursor)

/-- What an operation answers. -/
inductive Answer where
  /-- The cell was defined, or there was a fault. -/
  | define (fault : Option Fault)
  | isDefined (answer : Bool)
  | run (outcome : Outcome Result)

variable {count : Nat}

/-- One operation: what it answers, and the cells it leaves.  Where a cell cannot be defined, they
are left as they were. -/
def perform (rules : Rules) (cells : Cells) : Operation count → Answer × Cells
  | .define i definition =>
      match cells.define i definition with
      | .ok cells' => (.define none, cells')
      | .error f => (.define (some f), cells)
  | .isDefined i => (.isDefined (cells.isDefined i), cells)
  | .run g src cur => (.run ((Environment.mk rules cells).parser g src cur), cells)

/-- The cells that a history of operations leaves. -/
def after (rules : Rules) (cells : Cells) (history : List (Operation count)) : Cells :=
  history.foldl (fun cells operation => (cells.perform rules operation).2) cells

/-- The definition that an operation gives to a cell. -/
def Operation.definition? (i : Fin count) : Operation count → Option Grammar
  | .define j definition => if j = i then some definition else none
  | .isDefined _ | .run _ _ _ => none

/-- The first definition that a cell is given in a history. -/
def firstDefinition (history : List (Operation count)) (i : Fin count) : Option Grammar :=
  history.findSome? (Operation.definition? i)

/-- A cell that has its first definition keeps it in whatever is done later. -/
theorem firstDefinition_append (history later : List (Operation count)) (i : Fin count) :
    firstDefinition (history ++ later) i =
      (firstDefinition history i).or (firstDefinition later i) :=
  List.findSome?_append

section Histories

variable (rules : Rules) (definitions : Fin count → Option Grammar)

/-- What an operation leaves: a cell that has a definition keeps it, and another one has the
definition that the operation gives to it, if it does. -/
theorem perform_holding (operation : Operation count) :
    ((holding definitions).perform rules operation).2 =
      holding fun i => (definitions i).or (operation.definition? i) := by
  cases operation with
  | define j definition =>
      have hother (i : Fin count) (hi : j ≠ i) :
          (definitions i).or ((Operation.define j definition).definition? i) = definitions i := by
        simp [Operation.definition?, hi]
      simp only [perform, define_holding]
      cases hj : definitions j with
      | none =>
          simp only [Option.isSome_none, Bool.false_eq_true, if_false]
          congr 1
          funext i
          by_cases hi : j = i
          · subst hi
            simp [Operation.definition?, hj]
          · rw [hother i hi, Function.update_of_ne (Ne.symm hi)]
      | some definition' =>
          simp only [Option.isSome_some, if_true]
          congr 1
          funext i
          by_cases hi : j = i
          · subst hi
            simp [hj]
          · rw [hother i hi]
  | isDefined j => simp [perform, Operation.definition?]
  | run g src cur => simp [perform, Operation.definition?]

/-- What a history leaves, by induction on its operations. -/
theorem after_holding (history : List (Operation count)) :
    (holding definitions).after rules history =
      holding fun i => (definitions i).or (firstDefinition history i) := by
  induction history generalizing definitions with
  | nil => simp [after, firstDefinition]
  | cons operation history ih =>
      unfold after at ih ⊢
      rw [List.foldl_cons, perform_holding, ih]
      unfold firstDefinition
      congr 1
      funext i
      rw [List.findSome?_cons, Option.or_assoc]
      cases operation.definition? i <;> rfl

theorem after_fresh (history : List (Operation count)) :
    (fresh count).after rules history = holding (firstDefinition history) := by
  rw [fresh_eq, after_holding]
  rfl

end Histories

/-- **A recursive grammar is tied once and for all.**  Take any number of cells, whose definitions
may refer to each other, and any history of operations on them.  The cells are as their first
definitions in it say, and nothing else in it matters.

Whatever is done next, a cell without a definition is defined, and no other one is touched; to
define it again is refused, and all cells are left as they were.  A cell is known as defined exactly
if it has a first definition.  A run touches no cell.  What refers to a cell runs its first
definition.

A run that comes to a cell without a definition is given up there.  Every other run is the run of
the grammar with all its knots tied, however the cells that are left will be defined.  Once all are,
whatever else was done meanwhile, every run is that run, and it has the definitions of before. -/
theorem tied_once_and_for_all
    (rules : Rules)
    (history : List (Operation count)) :
    let first := firstDefinition history
    let cells := (fresh count).after rules history
    let env : Environment := ⟨rules, cells⟩
    cells = holding first ∧
      (∀ i definition, cells.perform rules (.define i definition) =
        if (first i).isSome then (.define (some (.alreadySet "parser")), cells)
        else (.define none, holding (Function.update first i (some definition)))) ∧
      (∀ i, cells.perform rules (.isDefined i) = (.isDefined (first i).isSome, cells)) ∧
      (∀ g src cur, cells.perform rules (.run g src cur : Operation count) =
        (.run (env.parser g src cur), cells)) ∧
      (∀ i definition, first i = some definition → ∀ src cur,
        (env.parser (.ref (.cell i)) src cur).Same (env.parser definition src cur)) ∧
      (∀ g src cur i cur', Environment.ComesTo rules first g src cur i cur' →
        env.parser g src cur = .halted (.fault .undefinedRecursion) cur') ∧
      (∀ g src cur, (∃ i cur', Environment.ComesTo rules first g src cur i cur') ∨
        ∀ tie : Fin count → Grammar, (∀ i, ∀ definition ∈ first i, tie i = definition) →
          env.parser g src cur = (Environment.mk rules (tied tie)).parser g src cur) ∧
      ∀ (later : List (Operation count)) (tie : Fin count → Grammar),
        (∀ i, firstDefinition (history ++ later) i = some (tie i)) →
          (fresh count).after rules (history ++ later) = tied tie ∧
            ∀ i, ∀ definition ∈ first i, tie i = definition := by
  intro first cells env
  have hcells : cells = holding first := after_fresh rules history
  have henv : env = ⟨rules, holding first⟩ := congrArg (Environment.mk rules) hcells
  refine ⟨hcells, fun i definition => ?_, fun i => ?_, fun g src cur => rfl,
    fun i definition hfirst => ?_, fun g src cur i cur' hcomes => ?_, fun g src cur => ?_,
    fun later tie htie => ⟨?_, fun i definition hfirst => ?_⟩⟩
  · rw [hcells]
    simp only [perform, define_holding]
    split_ifs
    · rfl
    · rfl
  · rw [hcells]
    simp [perform]
  · have hlookup : env.lookup (.cell i) = .ok definition := by
      rw [henv]
      exact get_of_some hfirst
    exact env.binding_same hlookup
  · rw [henv]
    exact hcomes.halted
  · rw [henv]
    exact Environment.comesTo_or_tied g src cur
  · rw [after_fresh]
    exact congrArg holding (funext htie)
  · have hboth := htie i
    rw [firstDefinition_append, show firstDefinition history i = some definition from hfirst]
      at hboth
    exact (Option.some.inj hboth).symm

/-- Two cells that refer to each other.  A run comes to the second one before that is defined, and
to the end of the text afterwards; that the first one was to be defined again makes no difference.
-/
theorem tied_once_and_for_all_of_two_cells :
    let one (c : String) : Grammar := .just .simple (.str c)
    let ones : Grammar := (one "a").andThen (.optional (.ref (.cell 1)))
    let others : Grammar := (one "b").andThen (.optional (.ref (.cell 0)))
    let src : Source := .ofText "ab" .null
    let g : Grammar := .ref (.cell 0)
    let early : List (Operation 2) := [.define 0 ones, .run g src {}, .define 0 others]
    let late : List (Operation 2) := [.define 1 others]
    let tie (i : Fin 2) : Grammar := if i = 0 then ones else others
    let before : Environment := ⟨{}, (fresh 2).after {} early⟩
    let afterwards : Environment := ⟨{}, (fresh 2).after {} (early ++ late)⟩
    (before.cells.perform {} (.define 0 others : Operation 2)).1 =
        .define (some (.alreadySet "parser")) ∧
      (∃ cur, before.parser g src {} = .halted (.fault .undefinedRecursion) cur ∧
        cur.offset = 1) ∧
      afterwards = ⟨{}, tied tie⟩ ∧
      ∃ r cur, afterwards.parser g src {} = .done r cur ∧ r.isSuccess = true ∧ cur.offset = 2 := by
  intro one ones others src g early late tie before afterwards
  obtain ⟨-, hdefine, -, -, -, hcomes, -, hties⟩ := tied_once_and_for_all {} early
  have hcome : ∃ cur, Environment.ComesTo {} (firstDefinition early) g src {} 1 cur ∧
      cur.offset = 1 := ⟨_, ⟨rfl, fun faults => rfl⟩, rfl⟩
  obtain ⟨cur, hcome, hoffset⟩ := hcome
  have htie : ∀ i, firstDefinition (early ++ late) i = some (tie i)
    | 0 => rfl
    | 1 => rfl
  refine ⟨congrArg Prod.fst (hdefine 0 others), ⟨cur, hcomes g src {} 1 cur hcome, hoffset⟩,
    congrArg _ (hties late tie htie).1, _, _, rfl, rfl, rfl⟩

end Cells
end Resync
