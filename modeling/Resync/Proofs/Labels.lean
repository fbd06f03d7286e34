import Resync.Proofs.Rewording
import Resync.Proofs.Sequences

/-!
# Labels and alternatives

A label takes the place of what a diagnostic says was expected, unless the diagnostic lies beyond the
place where the labelled parser started.  If diagnostics keep their contents, it makes no difference
whether the label is given to them before they are merged or afterwards.  At the start the label is
all that is expected either way, and beyond it nothing is changed.

No label decides which of two alternatives is taken.  So a label can be given to a choice or to each
of its alternatives, and a label inside another one is never seen.
-/

namespace Resync

open Located (AltIsDetailed)

/-- A label takes the place of all that two findings expected, be they merged or not. -/
theorem Detail.withLabel_merge (a b : Detail) (label : String) :
    (a.merge b).withLabel label = (a.withLabel label).merge (b.withLabel label) := by
  show Detail.mk _ _ _ _ = Detail.mk _ _ _ _
  exact congrArg (Detail.mk _ _ · _) (PatternSet.union_self _).symm

namespace Finding

variable (label : String) (start : Nat)

/-- A finding with a label, unless it lies beyond the start. -/
def relabel (a : Finding) : Finding :=
  if a.position > start then a else { a with detail := a.detail.withLabel label }

theorem located_relabel (a : Finding) :
    (a.relabel label start).located = Parser.relabel label start a.located := by
  unfold relabel Parser.relabel
  by_cases hbeyond : a.position > start
  · rw [if_pos hbeyond]
    exact (if_pos hbeyond).symm
  · rw [if_neg hbeyond]
    exact (if_neg hbeyond).symm

theorem position_relabel (a : Finding) : (a.relabel label start).position = a.position := by
  unfold relabel
  split
  · rfl
  · rfl

/-- Findings can be given a label before they are merged. -/
theorem relabel_merge (a b : Finding) :
    (a.merge b).relabel label start = (a.relabel label start).merge (b.relabel label start) := by
  have ha := position_relabel label start a
  have hb := position_relabel label start b
  rcases Nat.lt_trichotomy a.position b.position with h | h | h
  · rw [merge_of_gt h, merge_of_gt (by omega)]
  · rw [merge_of_eq h, merge_of_eq (by omega)]
    unfold relabel
    by_cases hbeyond : a.position > start
    · rw [if_pos hbeyond, if_pos hbeyond, if_pos (h ▸ hbeyond)]
    · rw [if_neg hbeyond, if_neg hbeyond, if_neg (h ▸ hbeyond)]
      exact congrArg (Finding.mk _ _) (Detail.withLabel_merge ..)
  · rw [merge_of_lt h, merge_of_lt (by omega)]

/-- Of two labels only the one that is given last is seen. -/
theorem relabel_relabel (label' : String) (a : Finding) :
    (a.relabel label' start).relabel label start = a.relabel label start := by
  unfold relabel
  by_cases hbeyond : a.position > start
  · simp only [if_pos hbeyond]
  · simp only [if_neg hbeyond]
    rfl

end Finding

namespace Located

variable (label : String) (start : Nat)

theorem map_relabel_located (a : Option Finding) :
    (a.map Finding.located).map (Parser.relabel label start) =
      (a.map (Finding.relabel label start)).map Finding.located := by
  rw [Option.map_map, Option.map_map]
  exact congrArg (Option.map · a) (funext fun b => (b.located_relabel label start).symm)

/-- Detailed alternatives can be given a label before they are merged. -/
theorem mergeAlts_relabel
    {a b : Option Located}
    (ha : AltIsDetailed a)
    (hb : AltIsDetailed b) :
    mergeAlts (a.map (Parser.relabel label start)) (b.map (Parser.relabel label start)) =
      (mergeAlts a b).map (Option.map (Parser.relabel label start)) := by
  obtain ⟨a, rfl⟩ := altIsDetailed_iff.1 ha
  obtain ⟨b, rfl⟩ := altIsDetailed_iff.1 hb
  have hmerge : Option.merge Finding.merge (a.map (Finding.relabel label start))
      (b.map (Finding.relabel label start)) =
      (Option.merge Finding.merge a b).map (Finding.relabel label start) := by
    cases a with
    | none => simp only [Option.map_none, Option.merge_none_left]
    | some a =>
        cases b with
        | none => rfl
        | some b => exact congrArg some (a.relabel_merge label start b).symm
  rw [map_relabel_located, map_relabel_located, mergeAlts_located, mergeAlts_located, hmerge]
  exact congrArg Except.ok (map_relabel_located label start _).symm

/-- Detailed diagnostics can be given a label before they are merged. -/
theorem max_relabel
    {a b : Located}
    (ha : a.error.IsDetailed)
    (hb : b.error.IsDetailed) :
    (Parser.relabel label start a).max (some (Parser.relabel label start b)) =
      (a.max (some b)).map (Parser.relabel label start) := by
  obtain ⟨a, rfl⟩ := exists_finding ha
  obtain ⟨b, rfl⟩ := exists_finding hb
  rw [← Finding.located_relabel, ← Finding.located_relabel, Finding.max_located,
    Finding.max_located, ← Finding.relabel_merge, Finding.located_relabel]
  rfl

end Located

namespace Result

variable {label : String} {start : Nat} {left right : Result}

/-- The result with a label for what its diagnostic expected. -/
def relabelled (label : String) (start : Nat) : Result → Result
  | success recovered output alt =>
      success recovered output (alt.map (Parser.relabel label start))
  | failure recovered error => failure recovered (Parser.relabel label start error)

theorem isClean_relabelled (r : Result) : (r.relabelled label start).isClean = r.isClean := by
  cases r with
  | success recovered output alt =>
      cases recovered with
      | nil => rfl
      | cons l recovered => rfl
  | failure recovered error => rfl

variable (label start) in
/-- Labels do not decide which of two results is taken. -/
theorem side_relabelled (left right : Result) :
    (left.relabelled label start).side (right.relabelled label start) = left.side right := by
  cases right with
  | success recovered output alt =>
      cases recovered with
      | nil => cases left <;> rfl
      | cons l recovered => cases left <;> rfl
  | failure recovered error =>
      cases left with
      | success recovered' output alt => rfl
      | failure recovered' error' => simp only [relabelled, side, Parser.position_relabel]

/-- After a success either result is left as it is. -/
theorem either_of_success (h : left.isSuccess = true) (right : Result) :
    left.either right = .ok ((left.side right).pick left right) := by
  cases left with
  | failure recovered error => cases h
  | success recovered output alt =>
      cases right with
      | success recovered' output' alt' => rfl
      | failure recovered' error => rfl

variable (label start) in
/-- Two results can be given a label before one of them is taken. -/
theorem either_relabelled
    (hleft : AltIsDetailed left.furthest)
    (hright : AltIsDetailed right.furthest) :
    (left.relabelled label start).either (right.relabelled label start) =
      (left.either right).map (relabelled label start) := by
  cases left with
  | success recovered output alt =>
      have hside := side_relabelled label start (success recovered output alt) right
      rw [either_of_success rfl, either_of_success rfl, hside]
      cases (success recovered output alt).side right with
      | left => rfl
      | right => rfl
  | failure recovered error =>
      cases right with
      | failure recovered' error' =>
          have hmax := Located.max_relabel label start (hleft error rfl) (hright error' rfl)
          simp only [relabelled, either_failures, hmax, Parser.position_relabel]
          cases error.max (some error') with
          | error f => rfl
          | ok d => rfl
      | success recovered' output alt =>
          cases recovered' with
          | nil =>
              have hmerge : Located.mergeAlts (alt.map (Parser.relabel label start))
                  (some (Parser.relabel label start error)) =
                  (Located.mergeAlts alt (some error)).map
                    (Option.map (Parser.relabel label start)) :=
                Located.mergeAlts_relabel label start hright hleft
              simp only [relabelled, either_clean, hmerge]
              cases Located.mergeAlts alt (some error) with
              | error f => rfl
              | ok d => rfl
          | cons l recovered' => rfl

/-- Of two labels only the one that is given last is seen. -/
theorem relabelled_relabelled
    {r : Result}
    (hr : AltIsDetailed r.furthest)
    (label' : String) :
    (r.relabelled label' start).relabelled label start = r.relabelled label start := by
  cases r with
  | success recovered output alt =>
      obtain ⟨a, rfl⟩ := Located.altIsDetailed_iff.1 hr
      have hlast : (a.map (Finding.relabel label' start)).map (Finding.relabel label start) =
          a.map (Finding.relabel label start) := by
        rw [Option.map_map]
        exact congrArg (Option.map · a) (funext (Finding.relabel_relabel label start label'))
      simp only [relabelled, Located.map_relabel_located, hlast]
  | failure recovered error =>
      obtain ⟨a, rfl⟩ := Located.exists_finding (hr error rfl)
      simp only [relabelled, ← Finding.located_relabel, Finding.relabel_relabel]

end Result

namespace Parser

open Scan

variable {p q : Parser} {src : Source} {cur : Cursor}

/-- A label is given to whatever a run returns. -/
theorem labelled_apply (label : String) (p : Parser) :
    labelled label p src cur =
      match p src cur with
      | .done r cur' => .done (r.relabelled label cur.offset) cur'
      | .halted cause cur' => .halted cause cur' := by
  unfold labelled
  simp only [bind_apply, save_apply]
  cases p src cur with
  | halted cause cur' => rfl
  | done r cur' =>
      cases r with
      | success recovered output alt => rfl
      | failure recovered error => rfl

/-- A label can be given to both alternatives instead of their choice. -/
theorem labelled_orElse
    (hp : p.KeepsContents src)
    (hq : q.KeepsContents src)
    (label : String) :
    labelled label (orElse p q) src cur =
      orElse (labelled label p) (labelled label q) src cur := by
  rw [labelled_apply]
  unfold orElse
  simp only [bind_apply, save_apply, labelled_apply]
  cases hleft : p src cur with
  | halted cause mid => rfl
  | done left mid =>
      simp only [Result.isClean_relabelled]
      by_cases hclean : left.isClean = true
      · simp only [if_pos hclean, pure_apply]
      · simp only [if_neg hclean, bind_apply, save_apply, revert_apply, labelled_apply]
        cases hright : q src (mid.moved cur.offset) with
        | halted cause stop => rfl
        | done right stop =>
            have heither := Result.either_relabelled label cur.offset (hp hleft) (hq hright)
            simp only [Cursor.moved_offset, heither, Result.side_relabelled]
            cases left.either right with
            | ok r => rfl
            | error f => rfl

/-- Of two labels only the outer one is seen. -/
theorem labelled_labelled
    (hp : p.KeepsContents src)
    (label label' : String) :
    labelled label (labelled label' p) src cur = labelled label p src cur := by
  simp only [labelled_apply]
  cases hrun : p src cur with
  | halted cause cur' => rfl
  | done r cur' => exact congrArg (Outcome.done · cur') (Result.relabelled_relabelled (hp hrun) label')

end Parser

namespace Environment

open Repetition (Detailed)

variable {env : Environment} {p q : Grammar} {src : Source}

/-- **Labels distribute over alternatives.**  Take grammars whose diagnostics keep their contents, as
those of any grammar do that reaches only detailed ones (`detailed_of_speaks`).

* A label for the choice between two of them can be given to both instead.  The runs return the same
  result, or are halted for the same cause, and end in the same state.
* Of two labels for one grammar only the outer one matters. -/
theorem labelled_distributes
    (hp : Detailed ((env.parser p).Answers src))
    (hq : Detailed ((env.parser q).Answers src))
    (label label' : String)
    (cur : Cursor) :
    env.parser (.labelled label (p.orElse q)) src cur =
        env.parser ((Grammar.labelled label p).orElse (.labelled label q)) src cur ∧
      env.parser (.labelled label (.labelled label' p)) src cur =
        env.parser (.labelled label p) src cur := by
  have hp' : (p.parser (env.resolve (env.depth src))).KeepsContents src :=
    keepsContents_of_detailed hp
  have hq' : (q.parser (env.resolve (env.depth src))).KeepsContents src :=
    keepsContents_of_detailed hq
  exact ⟨Parser.labelled_orElse hp' hq' label, Parser.labelled_labelled hp' label label'⟩

/-- A letter that is neither of two: both are missed at the start, and the label stands for both. -/
theorem labelled_distributes_of_letters :
    let p : Grammar := .just .simple (.str "a")
    let q : Grammar := .just .simple (.str "b")
    let src : Source := .ofText "c" .null
    Detailed ((parser {} p).Answers src) ∧ Detailed ((parser {} q).Answers src) ∧
      ∃ (d : Finding) (cur' : Cursor), d.detail.expected.items = [.label "letter"] ∧
        parser {} (.labelled "letter" (p.orElse q)) src {} =
          .done (.failure [] d.located) cur' ∧
        parser {} ((Grammar.labelled "letter" p).orElse (.labelled "letter" q)) src {} =
          .done (.failure [] d.located) cur' ∧
        parser {} (.labelled "letter" (.labelled "first" p)) src {} =
          .done (.failure [] d.located) cur' := by
  intro p q src
  have hp : Detailed ((parser {} p).Answers src) := detailed_of_speaks (Grammar.speaks_just _)
  have hq : Detailed ((parser {} q).Answers src) := detailed_of_speaks (Grammar.speaks_just _)
  obtain ⟨horElse, hlabelled⟩ := labelled_distributes hp hq "letter" "first" {}
  obtain ⟨d, cur', hitems, hrun, hone⟩ :
      ∃ (d : Finding) (cur' : Cursor), d.detail.expected.items = [.label "letter"] ∧
        parser {} (.labelled "letter" (p.orElse q)) src {} =
          .done (.failure [] d.located) cur' ∧
        parser {} (.labelled "letter" p) src {} = .done (.failure [] d.located) cur' :=
    ⟨⟨_, _, _⟩, _, rfl, rfl, rfl⟩
  exact ⟨hp, hq, d, cur', hitems, hrun, horElse ▸ hrun, hlabelled.trans hone⟩

end Environment
end Resync
