import Resync.Grammar.Combinator
import Resync.Proofs.Checked
import Resync.Proofs.Faultless
import Resync.Proofs.Groups.Walk
import Resync.Proofs.Rounds

/-!
# Skipping groups of delimiters

Nested delimiters skip the balanced group that begins where the parser started, and nothing else: if
none begins there, they fail.  The other pairs have no say in this.  They decide where a missing
closing delimiter is reported, if it is.

After a group was skipped, what the parser had recovered from is still reported.  The diagnostic
that stopped the parser is reported as well, unless the last of the others lies at its place or
before it.
-/

namespace Resync

open Walk (Misses Reported lack)

/-- Where the cursor is left if no balanced group begins at `start`: at the limit of the input, if
one was opened, and else behind the token there, if there is any. -/
def Source.astray (src : Source) (opening : Value) (start : Nat) : Nat :=
  if (src.sighting start).token = .null then start
  else if (src.sighting start).token = opening then src.limit start
  else start + 1

/-- A closing delimiter is missed only where a group was opened. -/
theorem Walk.Misses.token_start
    {rules : Walk.Rules}
    {src : Source}
    {start i : Nat}
    (h : Misses rules src start i) :
    (src.sighting start).token = rules.opening :=
  h.alone.token_start

namespace Strategy

/-- The diagnostic that stopped the parser stands last, or is left out. -/
theorem withFatal_eq (errors : List Located) (fatal : Located) :
    (withFatal errors fatal = errors ++ [fatal] ∧
        ∀ last, errors.getLast? = some last → fatal.position < last.position) ∨
      (withFatal errors fatal = errors ∧
        ∃ last, errors.getLast? = some last ∧ last.position ≤ fatal.position) := by
  unfold withFatal
  cases hlast : errors.getLast? with
  | none =>
      rw [List.getLast?_eq_none_iff.1 hlast]
      exact Or.inl ⟨rfl, nofun⟩
  | some last =>
      by_cases hposition : fatal.position < last.position
      · refine Or.inl ⟨if_pos hposition, ?_⟩
        rintro _ ⟨⟩
        exact hposition
      · exact Or.inr ⟨if_neg hposition, last, rfl, Nat.le_of_not_lt hposition⟩

section Outcomes

variable (p : Parser) {opening closing : Value} (others : List (Value × Value)) (default : Value)
variable (recovered : List Located) (fatal : Located) (src : Source) (cur : Cursor)

/-- Nested delimiters stop at a diagnostic that cannot be stated, or they succeed behind the
balanced group, or they fail because there is none. -/
theorem nestedDelimiters_ends (hdiffer : opening ≠ closing) :
    let rules : Walk.Rules := ⟨opening, closing, others, fatal.error.dialect⟩
    let outcome :=
      (nestedDelimiters opening closing others default).recover p recovered fatal src cur
    (∃ i f cur', Misses rules src cur.offset i ∧ lack rules src cur.offset i = .error f ∧
        outcome = .halted (.fault f) cur') ∨
      (∃ report cur', Reported rules src cur.offset report ∧
        src.Balanced opening closing cur.offset cur'.offset ∧
        outcome =
          .done (.success (withFatal (recovered ++ report.toList) fatal) default none) cur') ∨
      ∃ report cur', Reported rules src cur.offset report ∧
        (∀ stop, ¬ src.Balanced opening closing cur.offset stop) ∧
        cur'.offset = src.astray opening cur.offset ∧
        outcome = .done (.failure (recovered ++ report.toList) fatal) cur' := by
  intro rules outcome
  have hends := Walk.run_ends rules src cur.offset hdiffer
  have hrecover : outcome = afterWalk
      (Walk.run rules src.eoi (src.rest cur.offset) cur.offset [] (rules.others.map fun _ => 0)
        none)
      default recovered fatal src cur := rfl
  clear_value outcome
  subst hrecover
  generalize Walk.run rules src.eoi (src.rest cur.offset) cur.offset []
    (rules.others.map fun _ => 0) none = walk at hends ⊢
  unfold Source.astray
  cases hends with
  | absent hnull =>
      refine Or.inr (Or.inr ⟨none, _, fun i hmisses => ?_, fun stop hgroup => ?_, ?_, rfl⟩)
      · exact Source.token_start_ne_null hmisses.alone.start_lt hmisses.alone.le_limit hnull
      · exact Source.token_start_ne_null hgroup.start_lt hgroup.le_limit hnull
      · rw [if_pos hnull]
  | unopened htoken hopening =>
      refine Or.inr (Or.inr ⟨none, _, fun i hmisses => ?_, fun stop hgroup => ?_, ?_, rfl⟩)
      · exact hopening hmisses.token_start
      · exact hopening hgroup.token_start
      · rw [if_neg htoken, if_neg hopening]
        rfl
  | closed hgroup hreported => exact Or.inr (Or.inl ⟨_, _, hreported, hgroup, rfl⟩)
  | unclosed hopen hreported =>
      refine Or.inr (Or.inr ⟨_, _, hreported, fun stop hgroup => ?_, ?_, rfl⟩)
      · exact Nat.not_lt.2 hgroup.le_limit (hgroup.lt_of_open hopen)
      · have htoken : (src.sighting cur.offset).token ≠ .null :=
          Source.token_start_ne_null hopen.start_lt (Nat.le_refl _)
        rw [if_neg htoken, if_pos hopen.token_start]
  | fault hmisses hlack => exact Or.inl ⟨_, _, _, hmisses, hlack, rfl⟩

/-- Nested delimiters come back where the closing one can be named in a diagnostic. -/
theorem nestedDelimiters_returns
    (hdiffer : opening ≠ closing)
    (hkey : fatal.error.dialect = .terse ∨ closing.isKey = true) :
    ∃ r cur',
      (nestedDelimiters opening closing others default).recover p recovered fatal src cur =
        .done r cur' := by
  rcases nestedDelimiters_ends p others default recovered fatal src cur hdiffer with
    ⟨i, f, _, -, hlack, -⟩ | ⟨_, cur', -, -, hends⟩ | ⟨_, cur', -, -, -, hends⟩
  · have hstated : ∃ e, fatal.error.dialect.unclosed (src.sighting cur.offset).span opening
        (src.sighting i).span closing (src.sighting i).token = .ok e ∧
          e.dialect = fatal.error.dialect := Dialect.exists_unclosed hkey
    obtain ⟨e, he, -⟩ := hstated
    simp only [lack, he] at hlack
    cases hlack
  · exact ⟨_, cur', hends⟩
  · exact ⟨_, cur', hends⟩

variable {p others default recovered fatal src cur} in
/-- If nested delimiters come back, it is with a success behind the balanced group, or with a
failure because there is none. -/
theorem nestedDelimiters_done
    {r : Result}
    {cur' : Cursor}
    (hdiffer : opening ≠ closing)
    (hrun : (nestedDelimiters opening closing others default).recover p recovered fatal src cur =
      .done r cur') :
    (src.Balanced opening closing cur.offset cur'.offset ∧
        ∃ errors, r = .success errors default none) ∨
      ((∀ stop, ¬ src.Balanced opening closing cur.offset stop) ∧
        cur'.offset = src.astray opening cur.offset ∧ ∃ errors, r = .failure errors fatal) := by
  rcases nestedDelimiters_ends p others default recovered fatal src cur hdiffer with
    ⟨_, _, _, -, -, hhalts⟩ | ⟨report, _, -, hgroup, hends⟩ | ⟨report, _, -, hnone, hoffset, hends⟩
  · cases hrun.symm.trans hhalts
  · cases hrun.symm.trans hends
    exact Or.inl ⟨hgroup, _, rfl⟩
  · cases hrun.symm.trans hends
    exact Or.inr ⟨hnone, hoffset, _, rfl⟩

/-- **One balanced group is skipped.**  Nested delimiters that differ come back if the closing one
can be named in a diagnostic, whatever the other pairs.  If they come back, they succeed if and only
if a balanced group begins where they start.  There is only one such group then, the cursor is left
behind it, and the default is the output, without an alternative.  Otherwise they fail with the
diagnostic that stopped the parser, and the cursor is left at the limit of the input, if an opening
is there where they start, and else behind what is there.  The other pairs change neither. -/
theorem nestedDelimiters_skip (hdiffer : opening ≠ closing) :
    let outcome := fun others =>
      (nestedDelimiters opening closing others default).recover p recovered fatal src cur
    (fatal.error.dialect = .terse ∨ closing.isKey = true →
      ∀ others, ∃ r cur', outcome others = .done r cur') ∧
      ∀ others r cur', outcome others = .done r cur' →
        (r.isSuccess = true ↔ ∃ stop, src.Balanced opening closing cur.offset stop) ∧
          (∀ stop, src.Balanced opening closing cur.offset stop →
            (∀ stop', src.Balanced opening closing cur.offset stop' → stop' = stop) ∧
              cur'.offset = stop ∧ ∃ errors, r = .success errors default none) ∧
          ((∀ stop, ¬ src.Balanced opening closing cur.offset stop) →
            cur'.offset = src.astray opening cur.offset ∧ ∃ errors, r = .failure errors fatal) ∧
          ∀ others' r' cur'', outcome others' = .done r' cur'' →
            r'.isSuccess = r.isSuccess ∧ cur''.offset = cur'.offset := by
  intro outcome
  refine ⟨fun hkey others =>
    nestedDelimiters_returns p others default recovered fatal src cur hdiffer hkey,
    fun others r cur' hrun => ?_⟩
  rcases nestedDelimiters_done hdiffer hrun with
    ⟨hgroup, errors, rfl⟩ | ⟨hnone, hoffset, errors, rfl⟩
  · refine ⟨iff_of_true rfl ⟨_, hgroup⟩, fun stop hstop => ?_, fun hnone => ?_,
      fun others' r' cur'' hrun' => ?_⟩
    · exact ⟨fun stop' hstop' => hstop'.unique hstop, hgroup.unique hstop, errors, rfl⟩
    · exact absurd hgroup (hnone _)
    · rcases nestedDelimiters_done hdiffer hrun' with ⟨hgroup', _, rfl⟩ | ⟨hnone, -⟩
      · exact ⟨rfl, hgroup'.unique hgroup⟩
      · exact absurd hgroup (hnone _)
  · refine ⟨iff_of_false Bool.false_ne_true fun ⟨stop, hstop⟩ => hnone stop hstop,
      fun stop hstop => absurd hstop (hnone stop), fun _ => ⟨hoffset, errors, rfl⟩,
      fun others' r' cur'' hrun' => ?_⟩
    rcases nestedDelimiters_done hdiffer hrun' with ⟨hgroup, -⟩ | ⟨-, hoffset', _, rfl⟩
    · exact absurd hgroup (hnone _)
    · exact ⟨rfl, hoffset'.trans hoffset.symm⟩

/-- A group with another one in it, in the middle of a text. -/
theorem nestedDelimiters_skip_of_nested :
    let src : Source := .ofText "x((a))b" .null
    let fatal : Located := ⟨2, .detailed .simple ⟨.single 2 .null, .unexpected, .empty, .str "("⟩⟩
    (∃ cur', (nestedDelimiters (.str "(") (.str ")") [] .absent).recover
        (Environment.parser {} (.just .simple (.str "z"))) [] fatal src ⟨1, 0, []⟩ =
          .done (.success [fatal] .absent none) cur' ∧ cur'.offset = 6) ∧
      src.Balanced (.str "(") (.str ")") 1 6 := by
  intro src fatal
  have hskips : (nestedDelimiters (.str "(") (.str ")") [] .absent).recover
      (Environment.parser {} (.just .simple (.str "z"))) [] fatal src ⟨1, 0, []⟩ =
        .done (.success [fatal] .absent none) ⟨6, 6, [.groupSkipped 6]⟩ := rfl
  obtain ⟨hsuccess, hgroup, -, -⟩ :=
    (nestedDelimiters_skip (Environment.parser {} (.just .simple (.str "z"))) .absent [] fatal src
      ⟨1, 0, []⟩ (show Value.str "(" ≠ .str ")" by decide)).2 [] _ _ hskips
  obtain ⟨stop, hstop⟩ := hsuccess.1 rfl
  obtain rfl : 6 = stop := (hgroup stop hstop).2.1
  exact ⟨⟨_, hskips, rfl⟩, hstop⟩

/-- A single letter is level, because it has no shorter stretch, but is no group.  A list cannot be
named as the closing delimiter that is missing. -/
theorem nestedDelimiters_stray :
    let p : Parser := Environment.parser {} (.just .simple (.str "z"))
    let fatal : Located := ⟨0, .detailed .simple ⟨.single 0 .null, .unexpected, .empty, .str "a"⟩⟩
    let src : Source := .ofText "a" .null
    let src' : Source := .ofText "(" .null
    (src.Level (.str "(") (.str ")") 0 1 ∧
        ∃ cur', (nestedDelimiters (.str "(") (.str ")") [] .absent).recover p [] fatal src {} =
          .done (.failure [] fatal) cur' ∧ cur'.offset = 1) ∧
      ∃ cur', (nestedDelimiters (.str "(") (.list [.int 1]) [] .absent).recover p [] fatal src' {} =
        .halted (.fault .typeMismatch) cur' := by
  intro p fatal src src'
  refine ⟨⟨?_, _, rfl, rfl⟩, _, rfl⟩
  refine ⟨Nat.zero_le 1, ?_, ?_, fun i hi hlt => ?_⟩
  · decide
  · decide
  · omega

/-- **What is reported of a group.**  Nested delimiters report what the parser had recovered from,
then the closing delimiter if it is missed, and then maybe the diagnostic that stopped the parser.
The closing delimiter is missed at one place at most, and only if an opening is there where they
start.  If this cannot be stated, and only then, they stop at a fault.  A walk that is prepared to
expect the closing delimiter when nothing was opened comes to the same: this is never reported. -/
theorem nestedDelimiters_report (hdiffer : opening ≠ closing) :
    let rules : Walk.Rules := ⟨opening, closing, others, fatal.error.dialect⟩
    let outcome :=
      (nestedDelimiters opening closing others default).recover p recovered fatal src cur
    (∀ r cur', outcome = .done r cur' →
      ∃ report, Reported rules src cur.offset report ∧
        (r.recovered = recovered ++ report.toList ∨
          r.recovered = recovered ++ report.toList ++ [fatal])) ∧
      (∀ cause cur', outcome = .halted cause cur' →
        ∃ i f, Misses rules src cur.offset i ∧ lack rules src cur.offset i = .error f ∧
          cause = .fault f) ∧
      (∀ i, Misses rules src cur.offset i →
        (src.sighting cur.offset).token = opening ∧
          ∀ j, Misses rules src cur.offset j → j = i) ∧
      ∀ counts,
        Walk.runCounted rules src.eoi (src.rest cur.offset) cur.offset 0 [] counts none =
          Walk.run rules src.eoi (src.rest cur.offset) cur.offset [] counts none := by
  intro rules outcome
  refine ⟨fun r cur' hrun => ?_, fun cause cur' hrun => ?_,
    fun i hmisses => ⟨hmisses.token_start, fun j hmisses' => hmisses'.unique hmisses⟩,
    fun counts => Walk.runCounted_eq rules [] none src.eoi _ _ counts⟩
  · rcases nestedDelimiters_ends p others default recovered fatal src cur hdiffer with
      ⟨_, _, _, -, -, hhalts⟩ | ⟨report, _, hreported, -, hends⟩ |
        ⟨report, _, hreported, -, -, hends⟩
    · cases hrun.symm.trans hhalts
    · cases hrun.symm.trans hends
      refine ⟨report, hreported, ?_⟩
      rcases withFatal_eq (recovered ++ report.toList) fatal with ⟨hlast, -⟩ | ⟨hleft, -⟩
      · exact Or.inr hlast
      · exact Or.inl hleft
    · cases hrun.symm.trans hends
      exact ⟨report, hreported, Or.inl rfl⟩
  · rcases nestedDelimiters_ends p others default recovered fatal src cur hdiffer with
      ⟨i, f, _, hmisses, hlack, hhalts⟩ | ⟨_, _, -, -, hends⟩ | ⟨_, _, -, -, -, hends⟩
    · cases hrun.symm.trans hhalts
      exact ⟨i, f, hmisses, hlack, rfl⟩
    · cases hrun.symm.trans hends
    · cases hrun.symm.trans hends

/-- A bracket that was not opened, inside a group. -/
theorem nestedDelimiters_report_of_bracket :
    let rules : Walk.Rules := ⟨.str "(", .str ")", [(.str "[", .str "]")], .simple⟩
    let fatal : Located := ⟨1, .detailed .simple ⟨.single 1 .null, .unexpected, .empty, .str "a"⟩⟩
    let src : Source := .ofText "(a])" .null
    ∃ r cur', (nestedDelimiters (.str "(") (.str ")") [(.str "[", .str "]")] .absent).recover
        (Environment.parser {} (.just .simple (.str "z"))) [] fatal src {} = .done r cur' ∧
      r.recovered.map Located.position = [2, 1] ∧
      Misses rules src 0 2 ∧ ∀ j, Misses rules src 0 j → j = 2 := by
  intro rules fatal src
  have halone : src.Alone rules.opening rules.closing 0 2 := by
    have hcount : ∀ j ≤ 2, 0 < j →
        src.count (· = rules.closing) 0 j < src.count (· = rules.opening) 0 j := by decide
    exact ⟨⟨Nat.zero_lt_two, by decide, fun j hj hle => hcount j hle hj⟩, by decide⟩
  have hmisses : Misses rules src 0 2 := by
    refine Or.inl ⟨⟨halone, by decide, _, List.mem_singleton_self _, by decide, by decide⟩, ?_⟩
    -- Neither the opening of the group nor the letter behind it closes the other pair.
    have hcloses : ∀ j < 2,
        rules.closes (.str "[", .str "]") (src.sighting j).token = false := by decide
    rintro j hj ⟨-, -, pair, hpair, hcloses', -⟩
    obtain rfl := List.mem_singleton.1 hpair
    rw [hcloses j hj] at hcloses'
    cases hcloses'
  obtain ⟨-, -, hplace, -⟩ :=
    nestedDelimiters_report (Environment.parser {} (.just .simple (.str "z")))
      [(.str "[", .str "]")] .absent [] fatal src {} (show Value.str "(" ≠ .str ")" by decide)
  exact ⟨_, _, rfl, rfl, hmisses, (hplace 2 hmisses).2⟩

end Outcomes

section Recoveries

variable (p : Parser) {opening closing : Value} (others : List (Value × Value)) (default : Value)
variable {recovered : List Located} {fatal : Located} (src : Source) (cur : Cursor)

/-- **What is still reported after a group was skipped.**  Where a parser failed and nested
delimiters then succeed, something is reported: what the parser had recovered from before, and the
closing delimiter if it is missed.  The diagnostic that stopped the parser follows, unless the last
one of these lies at its place or before it. -/
theorem nestedDelimiters_keep
    {errors : List Located}
    {output : Value}
    {alt : Option Located}
    {mid cur' : Cursor}
    (hdiffer : opening ≠ closing)
    (hfails : p src cur = .done (.failure recovered fatal) mid)
    (hrecovers : p.recoverWith (nestedDelimiters opening closing others default) src cur =
      .done (.success errors output alt) cur') :
    errors ≠ [] ∧ recovered <+: errors ∧
      ∃ report, Reported ⟨opening, closing, others, fatal.error.dialect⟩ src cur.offset report ∧
        ((errors = recovered ++ report.toList ++ [fatal] ∧
            ∀ last, (recovered ++ report.toList).getLast? = some last →
              fatal.position < last.position) ∨
          (errors = recovered ++ report.toList ∧
            ∃ last, errors.getLast? = some last ∧ last.position ≤ fatal.position)) := by
  obtain ⟨first, hfirst, hrecover⟩ :=
    Parser.recoverWith_of_failure hfails (nestedDelimiters opening closing others default)
  rw [hrecover] at hrecovers
  rcases nestedDelimiters_ends p others default recovered fatal src first hdiffer with
    ⟨_, _, _, -, -, hends⟩ | ⟨report, _, hreported, -, hends⟩ | ⟨_, _, -, -, -, hends⟩
  · cases hrecovers.symm.trans hends
  · cases hrecovers.symm.trans hends
    rw [hfirst] at hreported
    rcases withFatal_eq (recovered ++ report.toList) fatal with ⟨heq, hbefore⟩ | ⟨heq, last, hlast⟩
    · rw [heq]
      refine ⟨List.concat_ne_nil _ _, ?_, report, hreported, Or.inl ⟨rfl, hbefore⟩⟩
      rw [List.append_assoc]
      exact List.prefix_append _ _
    · rw [heq]
      refine ⟨?_, List.prefix_append _ _, report, hreported, Or.inr ⟨rfl, last, hlast⟩⟩
      intro hnil
      rw [hnil] at hlast
      cases hlast.1
  · cases hrecovers.symm.trans hends

/-- A bracket that was not opened, inside a group that holds a letter instead of nothing. -/
theorem nestedDelimiters_keep_of_bracket :
    let p : Parser :=
      Environment.parser {} ((Grammar.just .simple (.str "(")).andThen (.just .simple (.str ")")))
    let src : Source := .ofText "(a])" .null
    ∃ errors cur',
      p.recoverWith (nestedDelimiters (.str "(") (.str ")") [(.str "[", .str "]")] .absent) src {} =
        .done (.success errors .absent none) cur' ∧
      errors.map Located.position = [2, 1] ∧ errors ≠ [] := by
  intro p src
  obtain ⟨hne, -⟩ := nestedDelimiters_keep p [(.str "[", .str "]")] .absent src {}
    (show Value.str "(" ≠ .str ")" by decide) rfl rfl
  exact ⟨_, _, rfl, rfl, hne⟩

/-- Where the parser recovered from something before, and was stopped later, the diagnostic that
stopped it is left out, and nothing else is reported there. -/
theorem nestedDelimiters_drop :
    let item : Grammar := (Grammar.just .simple (.str "a")).recoverWith (.skipThenRetry [])
    let p : Parser := Environment.parser {} (item.andThen (.just .simple (.str ")")))
    let src : Source := .ofText "(ac)" .null
    ∃ recovered fatal mid errors cur',
      p src {} = .done (.failure recovered fatal) mid ∧
      p.recoverWith (nestedDelimiters (.str "(") (.str ")") [] .absent) src {} =
        .done (.success errors .absent none) cur' ∧
      fatal.position = 2 ∧ errors.map Located.position = [0] := by
  intro item p src
  exact ⟨_, _, _, _, _, rfl, rfl, rfl, rfl⟩

end Recoveries
end Strategy
end Resync
