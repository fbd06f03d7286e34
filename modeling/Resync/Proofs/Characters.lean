import Resync.Grammar.Text
import Resync.Proofs.Parses
import Resync.Proofs.Spans

/-!
# Reading characters

Over a text a grammar that matches single tokens matches single characters.  Which these are does
not depend on the place, so they are a class: all characters that pass a test.  A repetition of such
a grammar takes the longest run of characters of the class.  Numerals and names begin with a
character of one class and go on with the longest run of another.
-/

namespace Resync

/-- Over a text one sees a character at each place within it, and the end of the input behind it. -/
theorem Source.sighting_token_ofText (text : String) (context : Value) (i : Nat) :
    ((ofText text context).sighting i).token =
      (text.toList[i]?.map fun c => Value.str (String.singleton c)).getD .null := by
  unfold sighting ofText ofTokens Value.characters
  by_cases hi : i < text.toList.length
  · simp [hi]
  · simp [hi]

theorem Value.characters_ofList_cons (c : Char) (cs : List Char) :
    characters (String.ofList (c :: cs)) =
      .str (String.singleton c) :: characters (String.ofList cs) := by
  simp [characters]

/-- The characters of a text, run together, are the text. -/
theorem Action.concat_characters (s : String) :
    concat (.list (Value.characters s)) = .ok (.str s) := by
  have htexts : (Value.characters s).mapM textOf =
      (pure (s.toList.map String.singleton) : Except Fault (List String)) := by
    unfold Value.characters
    rw [List.mapM_map]
    exact List.mapM_pure
  have hjoin : String.join (s.toList.map String.singleton) = s := by
    apply String.toList_injective
    simp [String.toList_join, List.flatMap_map]
  calc concat (.list (Value.characters s))
      = (Value.characters s).mapM textOf >>= fun texts => .ok (.str (String.join texts)) := rfl
    _ = .ok (.str s) := by rw [htexts, pure_bind, hjoin]

namespace Text

/-- A run begins with the character at its place, if that passes the test. -/
theorem run_eq (test : Char → Bool) (cs : List Char) (i : Nat) :
    (cs.drop i).takeWhile test =
      (cs[i]?.filter test).elim [] fun c => c :: (cs.drop (i + 1)).takeWhile test := by
  by_cases hi : i < cs.length
  · rw [List.drop_eq_getElem_cons hi, List.takeWhile_cons, List.getElem?_eq_getElem hi,
      Option.filter_some]
    split_ifs
    · rfl
    · rfl
  · rw [List.drop_eq_nil_of_le (by omega), List.getElem?_eq_none (by omega)]
    rfl

theorem run_eq_cons
    {test : Char → Bool}
    {cs : List Char}
    {i : Nat}
    {c : Char}
    (hc : cs[i]? = some c)
    (hpass : test c = true) :
    (cs.drop i).takeWhile test = c :: (cs.drop (i + 1)).takeWhile test := by
  rw [run_eq, hc, Option.filter_some_pos hpass, Option.elim_some]

/-- Two tests that agree on all characters of a text find the same run in it. -/
theorem run_congr
    {test test' : Char → Bool}
    {cs : List Char}
    (h : ∀ c ∈ cs, test c = test' c) :
    cs.takeWhile test = cs.takeWhile test' := by
  induction cs with
  | nil => rfl
  | cons c cs ih =>
      obtain ⟨hc, hcs⟩ := List.forall_mem_cons.1 h
      rw [List.takeWhile_cons, List.takeWhile_cons, hc, ih hcs]

end Text

namespace Environment

section Classes

variable (env : Environment)

/-- Whether a grammar matches exactly one character that passes a test, in all texts. -/
def ParsesOne (dialect : Dialect) (g : Grammar) (test : Char → Bool) : Prop :=
  ∀ text context i, env.Parses (.ofText text context) dialect g i
    ((text.toList[i]?.filter test).map fun c => (.str (String.singleton c), i + 1))

/-- Whether a grammar accepts a character: whether it succeeds at the start of the text that has
only this character. -/
def accepts (g : Grammar) (c : Char) : Bool :=
  match env.parser g (.ofText (String.singleton c) .null) {} with
  | .done r _ => r.isSuccess
  | .halted _ _ => false

end Classes

variable {env : Environment} {dialect : Dialect} {g h : Grammar} {test test' : Char → Bool}
variable {text : String} {context : Value} {i : Nat}

/-- A test on tokens that are texts, in a grammar that names keys only, makes a class. -/
theorem parsesOne_satisfy
    (env : Environment)
    (dialect : Dialect)
    {expected : List Value}
    {passes : Value → Except Fault Bool}
    (hkeys : ∀ v ∈ expected, v.isKey = true)
    (hpasses : ∀ c, passes (.str (String.singleton c)) = .ok (test c)) :
    env.ParsesOne dialect (.satisfy dialect expected passes) test := by
  intro text context i
  have htoken := Source.sighting_token_ofText text context i
  cases hc : text.toList[i]? with
  | none =>
      rw [hc] at htoken
      exact .satisfy_none hkeys (Or.inl htoken)
  | some c =>
      replace htoken : ((Source.ofText text context).sighting i).token =
          .str (String.singleton c) := by
        rw [htoken, hc]
        rfl
      have hverdict := hpasses c
      rw [← htoken] at hverdict
      by_cases hpass : test c = true
      · rw [Option.filter_some_pos hpass, Option.map_some, ← htoken]
        rw [hpass] at hverdict
        exact .satisfy (by rw [htoken]; nofun) hverdict
      · rw [Bool.not_eq_true] at hpass
        rw [hpass] at hverdict
        rw [Option.filter_some, hpass]
        exact .satisfy_none hkeys (Or.inr hverdict)

theorem parsesOne_filter
    (env : Environment)
    (dialect : Dialect)
    (otherwise : Fault)
    (passes : String → Bool) :
    env.ParsesOne dialect (.filter dialect (Grammar.onText otherwise passes)) fun c =>
      passes (String.singleton c) :=
  parsesOne_satisfy env dialect nofun fun _ => rfl

theorem parsesOne_just (env : Environment) (dialect : Dialect) (c : Char) :
    env.ParsesOne dialect (.just dialect (.str (String.singleton c))) (· = c) := by
  refine parsesOne_satisfy env dialect (List.forall_mem_singleton.2 rfl) fun c' => ?_
  have hsame : Value.str (String.singleton c') = .str (String.singleton c) ↔ c' = c := by
    rw [Value.str.injEq, ← String.toList_inj]
    simp
  simp only [hsame]

theorem isSome_found {α : Type} {found : Option Char} {f : Char → α} :
    ((found.filter test).map f).isSome = true ↔ ∃ c ∈ found, test c = true := by
  rw [Option.isSome_map, Option.isSome_filter, Option.any_eq_true]
  simp only [Option.mem_def]

/-- If what a grammar matches begins with a character of a class, and depends on that, a run returns
this exactly if there is such a character, and otherwise no output. -/
theorem Parses.run_of_found
    {src : Source}
    {found : Option Char}
    {f : Char → Value × Nat}
    (hg : env.Parses src dialect g i ((found.filter test).map f))
    (cur : Cursor)
    (hcur : cur.offset = i) :
    ∃ r cur', env.parser g src cur = .done r cur' ∧ r.recovered = [] ∧
      (r.isSuccess = true ↔ ∃ c ∈ found, test c = true) ∧
      (∀ c ∈ found, test c = true → r.output = (f c).1 ∧ cur'.offset = (f c).2) ∧
      ((¬ ∃ c ∈ found, test c = true) → r.output = .null) := by
  obtain ⟨r, cur', hrun, hrecovered, hmatched⟩ := hg.run cur hcur
  refine ⟨r, cur', hrun, hrecovered, ?_, fun c hc hpass => ?_, fun hnone => ?_⟩
  · rw [← isSome_found (f := f), ← hmatched, Result.isSome_matched]
  · rw [Option.mem_def.1 hc, Option.filter_some_pos hpass] at hmatched
    exact Result.output_of_matched hmatched
  · rw [← isSome_found (f := f), Option.not_isSome_iff_eq_none] at hnone
    exact Result.output_of_not_matched (hmatched.trans hnone)

namespace ParsesOne

/-- A grammar succeeds at the characters of its class. -/
theorem succeeds_iff (hg : env.ParsesOne dialect g test) :
    (env.parser g).Succeeds (.ofText text context) i ↔ ∃ c ∈ text.toList[i]?, test c = true :=
  (hg text context i).succeeds_iff.trans isSome_found

theorem labelled
    (label : String)
    (hg : env.ParsesOne dialect g test) :
    env.ParsesOne dialect (.labelled label g) test :=
  fun text context i => (hg text context i).labelled label

/-- There is one class only whose characters a grammar matches. -/
theorem accepts_eq (hg : env.ParsesOne dialect g test) : env.accepts g = test := by
  funext c
  obtain ⟨r, cur', hrun, -, hmatched⟩ := (hg (String.singleton c) .null 0).run {} rfl
  unfold accepts
  rw [hrun]
  rw [String.toList_singleton, List.getElem?_cons_zero] at hmatched
  show r.isSuccess = test c
  rw [← r.isSome_matched cur'.offset, hmatched, Option.isSome_map, Option.filter_some]
  cases test c with
  | true => rfl
  | false => rfl

section Runs

variable (hg : env.ParsesOne dialect g test) (text : String) (context : Value)

include hg

/-- From any place on, the longest run of characters of the class is matched one by one, and what
comes behind it is not matched. -/
theorem parsesEach
    {rest : List Char}
    (hrest : text.toList.drop i = rest) :
    env.ParsesEach (.ofText text context) dialect g i
        (Value.characters (String.ofList (rest.takeWhile test)))
        (i + (rest.takeWhile test).length) ∧
      env.Parses (.ofText text context) dialect g (i + (rest.takeWhile test).length) none := by
  induction rest generalizing i with
  | nil =>
      have hend : text.toList[i]? = none := by
        rw [← Nat.add_zero i, ← List.getElem?_drop, hrest]
        rfl
      refine ⟨.nil, ?_⟩
      have hparses := hg text context i
      rw [hend] at hparses
      exact hparses
  | cons c rest ih =>
      have hc : text.toList[i]? = some c := by
        rw [← Nat.add_zero i, ← List.getElem?_drop, hrest]
        rfl
      have htail : text.toList.drop (i + 1) = rest := by
        rw [← List.drop_drop, hrest]
        rfl
      have hparses := hg text context i
      rw [hc, Option.filter_some] at hparses
      rw [List.takeWhile_cons]
      by_cases hpass : test c = true
      · rw [if_pos hpass] at hparses ⊢
        obtain ⟨heach, hends⟩ := ih htail
        rw [Value.characters_ofList_cons, List.length_cons, ← Nat.add_assoc, Nat.add_right_comm]
        exact ⟨.cons hparses (Nat.lt_succ_self i) heach, hends⟩
      · rw [if_neg hpass] at hparses ⊢
        exact ⟨.nil, hparses⟩

/-- A repetition takes the longest run of characters of the class, if it is long enough. -/
theorem repeated (i minimum : Nat) :
    let run := (text.toList.drop i).takeWhile test
    env.Parses (.ofText text context) dialect (.repeated g minimum none) i
      (if minimum ≤ run.length then
        some (.list (Value.characters (String.ofList run)), i + run.length)
      else none) := by
  intro run
  obtain ⟨heach, hends⟩ := hg.parsesEach text context (Eq.refl (text.toList.drop i))
  have hparses := heach.repeated hends minimum
  rw [Value.length_characters, String.toList_ofList] at hparses
  exact hparses

end Runs

/-- One character of a class, and then the longest run of characters of another one, as a text. -/
theorem word
    (hg : env.ParsesOne dialect g test)
    (hh : env.ParsesOne dialect h test')
    (text : String)
    (context : Value)
    (i : Nat) :
    env.Parses (.ofText text context) dialect (g.chain (h.repeated 0 none)).concat i
      ((text.toList[i]?.filter test).map fun c =>
        let run := (text.toList.drop (i + 1)).takeWhile test'
        (.str (String.ofList (c :: run)), i + 1 + run.length)) := by
  have hfirst := hg text context i
  cases hc : text.toList[i]?.filter test with
  | none =>
      rw [hc] at hfirst
      exact ((hfirst.andThen_none _).map_none _).map_none _
  | some c =>
      rw [hc] at hfirst
      have hlater := hh.repeated text context (i + 1) 0
      simp only [Nat.zero_le, if_true] at hlater
      have hspliced : env.Parses (.ofText text context) dialect (g.chain (h.repeated 0 none)) i
          (some (.list (.str (String.singleton c) :: Value.characters (String.ofList _)), _)) :=
        (hfirst.andThen hlater).map rfl
      rw [← Value.characters_ofList_cons] at hspliced
      exact hspliced.map (Action.concat_characters _)

end ParsesOne

end Environment
end Resync
