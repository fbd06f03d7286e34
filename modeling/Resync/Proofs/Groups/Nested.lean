import Resync.Proofs.Groups.Delimited
import Resync.Proofs.LateBinding

/-!
# Nested groups

A recursive grammar for nested groups is one that may be itself between two delimiters.  Its clean
successes are just the groups that hold nothing but delimiters, as many of them opening as closing,
all openings first.  In the innermost one the grammar is tried for one level too many, and even
tries to recover there.  This finds no group, so it does no harm.  Wherever a group is skipped,
something is reported.
-/

namespace Resync

namespace Source

variable {src : Source} {opening closing : Value} {i n : Nat}

theorem holds_append {tokens tokens' : List Value} :
    src.Holds i (tokens ++ tokens') ↔
      src.Holds i tokens ∧ src.Holds (i + tokens.length) tokens' := by
  induction tokens generalizing i with
  | nil => exact ⟨fun h => ⟨trivial, h⟩, fun h => h.2⟩
  | cons token tokens ih =>
      show _ ∧ _ ∧ src.Holds (i + 1) (tokens ++ tokens') ↔
        (_ ∧ _ ∧ src.Holds (i + 1) tokens) ∧ src.Holds (i + (tokens.length + 1)) tokens'
      rw [ih, and_assoc, and_assoc, Nat.add_right_comm, ← Nat.add_assoc]

variable (src opening closing) in
/-- Whether `n` openings are followed by as many closings from a position on. -/
def Nests (i n : Nat) : Prop :=
  src.Holds i (List.replicate n opening ++ List.replicate n closing)

/-- One level more is an opening before and a closing behind. -/
theorem nests_succ :
    src.Nests opening closing i (n + 1) ↔
      src.Holds i [opening] ∧ src.Nests opening closing (i + 1) n ∧
        src.Holds (i + 1 + 2 * n) [closing] := by
  have hlength : (List.replicate n opening ++ List.replicate n closing).length = 2 * n := by
    rw [List.length_append, List.length_replicate, List.length_replicate]
    omega
  unfold Nests
  rw [List.replicate_succ, List.replicate_succ', ← List.append_assoc, List.cons_append,
    List.cons_append, ← List.singleton_append, holds_append, holds_append, hlength]
  rfl

end Source

namespace Action

/-- A group with nothing inside is one level deep. -/
theorem depth_null : depth .null = .ok (.int 1) := rfl

/-- Around a group there is one level more. -/
theorem depth_int {n : Nat} (hn : 0 < n) : depth (.int n) = .ok (.int (n + 1 : Nat)) := by
  have htruthy : (Value.int n).isTruthy = true := by
    simp only [Value.isTruthy, decide_eq_true_eq, ne_eq]
    omega
  have hsum : (1 + (n : Int)) = ((n + 1 : Nat) : Int) := by omega
  show (if (Value.int n).isTruthy = true then add (.int 1) (.int n) else _) = _
  rw [if_pos htruthy, ← hsum]
  rfl

end Action

namespace Parser

section Levels

variable (dialect : Dialect) (opening closing : Value)

/-- One level of nested groups, around what is inside. -/
def level (p : Parser) : Parser :=
  map Action.depth ((between dialect opening closing p.optional).recoverWith
    (.nestedDelimiters opening closing [] .absent))

variable {dialect opening closing} {p : Parser} {src : Source} {cur cur' : Cursor}

/-- A recovery with nested delimiters is no clean success. -/
theorem recoverWith_clean
    {q : Parser}
    {output : Value}
    {alt : Option Located}
    (hdiffer : opening ≠ closing)
    (hrun : q.recoverWith (.nestedDelimiters opening closing [] .absent) src cur =
      .done (.success [] output alt) cur') :
    q src cur = .done (.success [] output alt) cur' := by
  rcases recoverWith_done hrun with ⟨hq, -⟩ | ⟨recovered, fatal, first, hfirst, hrecover⟩
  · exact hq
  · rcases Strategy.nestedDelimiters_ends q [] .absent recovered fatal src first hdiffer with
      ⟨_, _, _, -, -, hends⟩ | ⟨report, _, -, -, hends⟩ | ⟨_, _, -, -, -, hends⟩
    · cases hrecover.symm.trans hends
    · generalize herrors : Strategy.withFatal (recovered ++ report.toList) fatal = errors at hends
      cases hrecover.symm.trans hends
      exact absurd herrors (Simulation.withFatal_ne_nil _ _)
    · cases hrecover.symm.trans hends

/-- Where there is no opening, a level fails, if that can be stated: no group begins there. -/
theorem level_of_unopened
    (hdiffer : opening ≠ closing)
    (hkey : dialect = .terse ∨ opening.isKey = true)
    (hopens : ¬ src.Holds cur.offset [opening]) :
    ∃ recovered error cur',
      level dialect opening closing p src cur = .done (.failure recovered error) cur' := by
  have hbegins {stop : Nat} (hlt : cur.offset < stop) (hstop : stop ≤ src.limit cur.offset)
      (htoken : (src.sighting cur.offset).token = opening) : src.Holds cur.offset [opening] :=
    ⟨Source.token_start_ne_null hlt hstop, htoken, trivial⟩
  obtain ⟨error, mid, hfails⟩ := between_of_unopened hopens hkey
  obtain ⟨first, hfirst, hrecover⟩ :=
    recoverWith_of_failure hfails (.nestedDelimiters opening closing [] .absent)
  rcases Strategy.nestedDelimiters_ends (between dialect opening closing p.optional) [] .absent []
      ⟨cur.offset, error⟩ src first hdiffer with
    ⟨_, _, _, hmisses, -, -⟩ | ⟨_, _, -, hgroup, -⟩ | ⟨_, cur', -, -, -, hends⟩
  · rw [hfirst] at hmisses
    exact absurd (hbegins hmisses.alone.start_lt hmisses.alone.le_limit hmisses.token_start) hopens
  · rw [hfirst] at hgroup
    exact absurd (hbegins hgroup.start_lt hgroup.le_limit hgroup.token_start) hopens
  · exact ⟨_, _, cur', map_of_failure (hrecover.trans hends) _⟩

variable {recovered : List Located} {output output' : Value} {alt : Option Located} {mid : Nat}

/-- A level succeeds around what succeeds, or is left out, between two delimiters. -/
theorem level_of_success
    (hsteady : p.optional.Steady src)
    (hopens : src.Holds cur.offset [opening])
    (hanswers : p.optional.Answers src (cur.offset + 1) (.success recovered output alt) mid)
    (hcloses : src.Holds mid [closing])
    (hdepth : Action.depth output = .ok output') :
    ∃ cur', level dialect opening closing p src cur =
        .done (.success recovered output' alt) cur' ∧ cur'.offset = mid + 1 := by
  obtain ⟨cur', hrun, hcur'⟩ := between_of_success hsteady hopens hanswers hcloses
  exact ⟨cur', map_of_success (recoverWith_of_success hrun _) hdepth, hcur'⟩

/-- A level that is a clean success stands between two delimiters, and nothing was skipped. -/
theorem level_clean
    (hdiffer : opening ≠ closing)
    (hsteady : p.optional.Steady src)
    (hrun : level dialect opening closing p src cur = .done (.success [] output' alt) cur') :
    ∃ output mid, Action.depth output = .ok output' ∧ src.Holds cur.offset [opening] ∧
      p.optional.Answers src (cur.offset + 1) (.success [] output alt) mid ∧
      src.Holds mid [closing] ∧ cur'.offset = mid + 1 := by
  obtain ⟨output, hgroup, hdepth⟩ := map_success hrun
  obtain ⟨mid, hopens, hanswers, hcloses, hstop⟩ :=
    between_success hsteady (recoverWith_clean hdiffer hgroup)
  exact ⟨output, mid, hdepth, hopens, hanswers, hcloses, hstop⟩

end Levels

section Nesting

variable {dialect : Dialect} {opening closing : Value} {p : Parser} {src : Source}

/-- A clean success of a parser that does what one level of itself does is a nesting.  The induction
is on the tokens that are left: the inside starts behind a token. -/
theorem nests_of_clean
    {cur cur' : Cursor}
    {output : Value}
    {alt : Option Located}
    (hdiffer : opening ≠ closing)
    (hsteady : p.optional.Steady src)
    (hlevel : ∀ cur, (p src cur).Same (level dialect opening closing p src cur))
    (hrun : p src cur = .done (.success [] output alt) cur') :
    ∃ n, 0 < n ∧ src.Nests opening closing cur.offset n ∧ output = .int n ∧
      cur'.offset = cur.offset + 2 * n := by
  induction hleft : src.size - cur.offset using Nat.strong_induction_on
    generalizing cur cur' output alt with
  | _ left ih =>
      obtain ⟨inner, mid, hdepth, hopens, hanswers, hcloses, hstop⟩ :=
        level_clean hdiffer hsteady ((hlevel cur).done hrun)
      have hinside : cur.offset < src.size := src.lt_size_of_token hopens.1
      rcases hanswers.of_optional with ⟨_, _, _, ⟨last, hinner, rfl⟩, -⟩ | ⟨_, _, _, -, hout, rfl⟩
      · obtain ⟨n, hn, hnests, rfl, hlast⟩ := ih (src.size - (cur.offset + 1)) (by omega) hinner rfl
        have hmid : last.offset = cur.offset + 1 + 2 * n := hlast
        rw [hmid] at hcloses hstop
        rw [Action.depth_int hn] at hdepth
        cases hdepth
        exact ⟨n + 1, Nat.succ_pos n, Source.nests_succ.2 ⟨hopens, hnests, hcloses⟩, rfl, by omega⟩
      · cases hout
        cases hdepth
        exact ⟨1, Nat.one_pos, Source.nests_succ.2 ⟨hopens, trivial, hcloses⟩, rfl, hstop⟩

/-- A parser that does what one level of itself does succeeds on nestings.  The induction is on
their depth. -/
theorem clean_of_nests
    (hdiffer : opening ≠ closing)
    (hkey : dialect = .terse ∨ opening.isKey = true)
    (hsteady : p.optional.Steady src)
    (hlevel : ∀ cur, (p src cur).Same (level dialect opening closing p src cur))
    (n : Nat)
    (cur : Cursor)
    (hnests : src.Nests opening closing cur.offset (n + 1)) :
    ∃ alt cur', p src cur = .done (.success [] (.int (n + 1 : Nat)) alt) cur' ∧
      cur'.offset = cur.offset + 2 * (n + 1) := by
  induction n generalizing cur with
  | zero =>
      obtain ⟨hopens, -, hcloses⟩ := Source.nests_succ.1 hnests
      have hnone : ¬ src.Holds (cur.offset + 1) [opening] :=
        fun hopens' => hdiffer (hopens'.2.1.symm.trans hcloses.2.1)
      -- The innermost group is empty: there the parser fails, and is left out.
      obtain ⟨_, error, last, hfails⟩ : ∃ recovered error last,
          level dialect opening closing p src ⟨cur.offset + 1, 0, []⟩ =
            .done (.failure recovered error) last := level_of_unopened hdiffer hkey hnone
      have hanswers : p.Answers src (cur.offset + 1) (.failure _ error) last.offset :=
        ⟨last, (hlevel _).symm.done hfails, rfl⟩
      obtain ⟨cur', houter, hcur'⟩ := level_of_success hsteady hopens
        hanswers.optional_of_failure hcloses Action.depth_null
      exact ⟨_, cur', (hlevel cur).symm.done houter, hcur'⟩
  | succ n ih =>
      obtain ⟨hopens, hinner, hcloses⟩ := Source.nests_succ.1 hnests
      obtain ⟨alt, last, hrun, hlast⟩ := ih ⟨cur.offset + 1, 0, []⟩ hinner
      have hanswers : p.Answers src (cur.offset + 1) (.success [] (.int (n + 1 : Nat)) alt)
          (cur.offset + 1 + 2 * (n + 1)) := ⟨last, hrun, hlast⟩
      obtain ⟨cur', houter, hcur'⟩ := level_of_success hsteady hopens
        hanswers.optional_of_success hcloses (Action.depth_int (Nat.succ_pos n))
      exact ⟨alt, cur', (hlevel cur).symm.done houter, by omega⟩

end Nesting

end Parser

section Grammars

variable {dialect : Dialect} {opening closing : Value}

theorem Cells.size_lt_alloc (cells : Cells) : cells.size < cells.alloc.size := by
  unfold size alloc
  rw [List.length_append]
  exact Nat.lt_succ_self _

/-- A new cell can be defined. -/
theorem Cells.exists_define_alloc (cells : Cells) (definition : Grammar) :
    ∃ cells', cells.alloc.define cells.size definition = .ok cells' := by
  have hslot : cells.alloc.slot cells.size = .unset := by
    unfold slot alloc size
    rw [List.getD_eq_getElem?_getD, List.getElem?_concat_length]
    rfl
  unfold define
  rw [hslot]
  exact ⟨_, rfl⟩

variable (dialect opening closing) in
/-- The grammar of nested groups, which puts out how deep they are. -/
def Grammar.nesting : Build Grammar :=
  Build.recursive fun handle => do
    let group ← (handle.optional.delimitedBy dialect opening closing : Except Fault Grammar)
    return group.map Action.depth

/-- The grammar of nested groups can be built for all delimiters that differ, and refers to one
level around itself. -/
theorem Grammar.nesting_run (hdiffer : opening ≠ closing) (cells : Cells) :
    let handle : Grammar := .ref (.cell cells.size)
    ∃ cells', (nesting dialect opening closing).run cells = .ok (handle, cells') ∧
      cells'.get cells.size =
        .ok (.map Action.depth ((handle.optional.between dialect opening closing).recoverWith
          (.nestedDelimiters opening closing [] .absent))) := by
  intro handle
  have hgroup : handle.optional.delimitedBy dialect opening closing = .ok _ :=
    delimitedBy_eq_ok.2 ⟨hdiffer, rfl⟩
  obtain ⟨cells', hdefine⟩ := cells.exists_define_alloc (.map Action.depth
    ((handle.optional.between dialect opening closing).recoverWith
      (.nestedDelimiters opening closing [] .absent)))
  refine ⟨cells', ?_, Cells.get_of_define hdefine cells.size_lt_alloc⟩
  unfold nesting
  rw [Build.recursive_run, hgroup]
  exact congrArg (Except.map _) hdefine

end Grammars

namespace Environment

/-- **Recovery does not disturb nested groups.**  Consider the recursive grammar that is optional
between two delimiters, which differ, with its depth as the output.  To say that there is no inner
group, a detailed dialect puts the opening into a set.  If it can, the grammar is a clean success if
and only if the tokens from the start on begin with some openings, one at least, and as many
closings.  Then the output is their number, and the cursor is behind them, whatever follows. -/
theorem nesting_clean
    {dialect : Dialect}
    {opening closing : Value}
    (hdiffer : opening ≠ closing)
    (hkey : dialect = .terse ∨ opening.isKey = true)
    (cells : Cells) :
    ∃ d cells', (Grammar.nesting dialect opening closing).run cells = .ok (d, cells') ∧
      ∀ (rules : Rules) (src : Source) (cur : Cursor),
        let outcome := parser ⟨rules, cells'⟩ d src cur
        let nests := src.Nests opening closing cur.offset
        ((∃ output alt cur', outcome = .done (.success [] output alt) cur') ↔
            ∃ n, 0 < n ∧ nests n) ∧
          ∀ n, 0 < n → nests n →
            ∃ alt cur', outcome = .done (.success [] (.int n) alt) cur' ∧
              cur'.offset = cur.offset + 2 * n := by
  obtain ⟨cells', hrun, hlookup⟩ := Grammar.nesting_run hdiffer cells
  refine ⟨_, cells', hrun, fun rules src cur => ?_⟩
  intro outcome nests
  let env : Environment := ⟨rules, cells'⟩
  have hlookup' : env.lookup (.cell cells.size) = .ok _ := hlookup
  let p : Parser := env.parser (.ref (.cell cells.size))
  have hsteady : p.optional.Steady src :=
    parser_steady (g := (Grammar.ref (.cell cells.size)).optional)
  have hlevel (cur : Cursor) :
      (p src cur).Same (Parser.level dialect opening closing p src cur) :=
    (env.binding_same hlookup' src cur).trans (env.parser_binding _ src cur)
  have hclean (n : Nat) (hn : 0 < n) (hnests : nests n) :
      ∃ alt cur', outcome = .done (.success [] (.int n) alt) cur' ∧
        cur'.offset = cur.offset + 2 * n := by
    obtain ⟨m, rfl⟩ := Nat.exists_eq_add_of_lt hn
    rw [Nat.zero_add] at hnests ⊢
    exact Parser.clean_of_nests hdiffer hkey hsteady hlevel m cur hnests
  refine ⟨⟨?_, ?_⟩, hclean⟩
  · rintro ⟨output, alt, cur', hrun⟩
    obtain ⟨n, hn, hnests, -, -⟩ := Parser.nests_of_clean hdiffer hsteady hlevel hrun
    exact ⟨n, hn, hnests⟩
  · rintro ⟨n, hn, hnests⟩
    obtain ⟨alt, cur', hrun, -⟩ := hclean n hn hnests
    exact ⟨_, alt, cur', hrun⟩

/-- Two groups, one inside the other, before a letter. -/
theorem nesting_clean_of_brackets :
    let src : Source := .ofText "(())x" .null
    ∃ d cells, (Grammar.nesting .simple (.str "(") (.str ")")).run {} = .ok (d, cells) ∧
      ∃ alt cur', parser ⟨{}, cells⟩ d src {} = .done (.success [] (.int 2) alt) cur' ∧
        cur'.offset = 4 := by
  intro src
  have hnests : src.Nests (.str "(") (.str ")") 0 2 :=
    ⟨nofun, rfl, nofun, rfl, nofun, rfl, nofun, rfl, trivial⟩
  have hdiffer : Value.str "(" ≠ .str ")" := by decide
  have hkey : Dialect.simple = .terse ∨ (Value.str "(").isKey = true := Or.inr rfl
  obtain ⟨d, cells, hbuilt, hall⟩ := nesting_clean hdiffer hkey {}
  obtain ⟨-, hclean⟩ := hall {} src {}
  obtain ⟨alt, cur', hrun, hstop⟩ := hclean 2 Nat.zero_lt_two hnests
  exact ⟨d, cells, hbuilt, alt, cur', hrun, hstop⟩

/-- A list opens a group, which cannot be a member of a set.  So it cannot be said that there is no
inner group, and the run is given up, although the group is well nested. -/
theorem nesting_faulty_of_list :
    let opening : Value := .list [.int 1]
    let src : Source := .ofTokens [opening, .int 2] .null
    src.Holds 0 [opening, .int 2] ∧
      ∃ d cells cur', (Grammar.nesting .simple opening (.int 2)).run {} = .ok (d, cells) ∧
        parser ⟨{}, cells⟩ d src {} = .halted (.fault .typeMismatch) cur' := by
  intro opening src
  exact ⟨⟨nofun, rfl, nofun, rfl, trivial⟩, _, _, _, rfl, rfl⟩

end Environment
end Resync
