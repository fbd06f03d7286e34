import Mathlib.Data.List.TakeWhile
import Resync.Proofs.Numerals
import Resync.Proofs.Separated.Listing

/-!
# Separated lists undo joining

Every text begins with words of a class of characters, a separator between each two, and then has a
rest that neither lengthens the last word nor brings another one.  If the separator is not of the
class, a separated list of words takes the words and leaves the rest, so a text divides in one way
only.  That the input ends there asks for an empty rest: the text is the words, joined by the
separator.
-/

namespace Resync

open Repetition (Keeps)
open Separation (Ends NextItem Spare)

namespace Text

/-- Whether characters are a word of a class: there are some, and all of them are of the class. -/
def IsWord (test : Char → Bool) (w : List Char) : Prop := w ≠ [] ∧ ∀ c ∈ w, test c = true

/-- Whether a text is words of a class with a separator between each two, and then a rest that does
not go on with either. -/
structure Divides
    (test : Char → Bool)
    (separator : Char)
    (cs : List Char)
    (words : List (List Char))
    (rest : List Char) : Prop where
  isWord : ∀ w ∈ words, IsWord test w
  eq_append : cs = [separator].intercalate words ++ rest
  stops : ∀ c ∈ rest.head?, test c = false
  ends : words ≠ [] → ∀ cs', rest = separator :: cs' → ∀ c ∈ cs'.head?, test c = false

variable {test : Char → Bool} {separator : Char} {cs rest w w' : List Char}
variable {words : List (List Char)}

/-- A word in front of what is not of the class is the longest run. -/
theorem IsWord.takeWhile_append
    (hw : IsWord test w)
    (hstops : ∀ c ∈ rest.head?, test c = false) :
    (w ++ rest).takeWhile test = w := by
  rw [List.takeWhile_append_of_pos hw.2]
  cases rest with
  | nil => simp
  | cons c rest => simp [hstops c rfl]

theorem filter_getElem?
    {i : Nat}
    (hstops : ∀ c ∈ (cs.drop i).head?, test c = false) :
    cs[i]?.filter test = none := by
  rw [← List.head?_drop, Option.filter_eq_none_iff]
  intro c hc
  simp [hstops c hc]

namespace Divides

/-- What goes on with no word is left as it is. -/
theorem nil (hstops : ∀ c ∈ rest.head?, test c = false) : Divides test separator rest [] rest :=
  ⟨nofun, rfl, hstops, fun h => absurd rfl h⟩

/-- A word and a separator in front of words give one word more. -/
theorem cons_iff :
    Divides test separator cs (w :: w' :: words) rest ↔
      IsWord test w ∧
        ∃ cs', cs = w ++ separator :: cs' ∧ Divides test separator cs' (w' :: words) rest := by
  have hmore {v : List Char} {vs : List (List Char)} : v :: vs ≠ [] := List.cons_ne_nil v vs
  constructor
  · intro h
    obtain ⟨hw, hwords⟩ := List.forall_mem_cons.1 h.isWord
    refine ⟨hw, _, ?_, hwords, rfl, h.stops, fun _ => h.ends hmore⟩
    rw [h.eq_append, List.intercalate_cons_cons]
    simp
  · rintro ⟨hw, cs', rfl, h⟩
    refine ⟨List.forall_mem_cons.2 ⟨hw, h.isWord⟩, ?_, h.stops, fun _ => h.ends hmore⟩
    rw [h.eq_append, List.intercalate_cons_cons]
    simp

end Divides

/-- A text is the run at its head, and what is not to lengthen it. -/
theorem exists_run
    (test : Char → Bool)
    (cs : List Char) :
    ∃ w rest, cs = w ++ rest ∧ (∀ c ∈ w, test c = true) ∧ ∀ c ∈ rest.head?, test c = false := by
  refine ⟨cs.takeWhile test, cs.dropWhile test, List.takeWhile_append_dropWhile.symm,
    fun c hc => List.mem_takeWhile_imp hc, fun c hc => ?_⟩
  have hnot := List.head?_dropWhile_not test cs
  rwa [Option.mem_def.1 hc] at hnot

/-- Every text divides. -/
theorem exists_divides
    (test : Char → Bool)
    (separator : Char)
    (cs : List Char) :
    ∃ words rest, Divides test separator cs words rest := by
  induction hn : cs.length using Nat.strong_induction_on generalizing cs with
  | _ n ih =>
  obtain ⟨w, rest, rfl, hall, hstops⟩ := exists_run test cs
  by_cases hempty : w = []
  · subst hempty
    exact ⟨[], rest, .nil hstops⟩
  have hw : IsWord test w := ⟨hempty, hall⟩
  by_cases hgoes : ∃ c cs', rest = separator :: c :: cs' ∧ test c = true
  · obtain ⟨c, cs', rfl, hpass⟩ := hgoes
    have hlt : (c :: cs').length < n := by
      simp only [← hn, List.length_append, List.length_cons]
      omega
    obtain ⟨words, rest', hdivides⟩ := ih _ hlt (c :: cs') rfl
    cases words with
    | nil =>
        obtain rfl : c :: cs' = rest' := hdivides.eq_append
        exact absurd (hdivides.stops c rfl) (by simp [hpass])
    | cons w' words =>
        exact ⟨w :: w' :: words, rest', Divides.cons_iff.2 ⟨hw, c :: cs', rfl, hdivides⟩⟩
  · refine ⟨[w], rest, List.forall_mem_singleton.2 hw, ?_, hstops, ?_⟩
    · rw [List.intercalate_singleton]
    · rintro - cs' rfl c hc
      obtain ⟨cs'', rfl⟩ := List.head?_eq_some_iff.1 hc
      simpa using fun hpass => hgoes ⟨c, cs'', rfl, hpass⟩

end Text

/-- Words as texts are texts with these characters. -/
theorem Value.words_eq_iff {words : List (List Char)} {xs : List String} :
    words.map (fun w => Value.str (String.ofList w)) = xs.map .str ↔
      xs.map String.toList = words := by
  have hinjective : Function.Injective Value.str := fun _ _ => Value.str.inj
  rw [← Function.comp_def, ← List.map_map, (List.map_injective_iff.2 hinjective).eq_iff]
  constructor
  · rintro rfl
    simp
  · rintro rfl
    simp

/-- The digits of the decimal system are those of the ASCII. -/
theorem Radix.ten_counts (c : Char) : ten.counts c = c.isDigit := by
  rcases Nat.lt_or_ge c.toNat 128 with hascii | hother
  · exact Text.forall_ascii (P := fun c => ten.counts c = c.isDigit) (by decide) hascii
  · have hnot : ¬ c.isDigit = true := by
      rw [Char.isDigit_iff_toNat]
      exact fun h => absurd (Nat.le_trans hother h.2) (by decide)
    rw [counts_eq_hasDigit ten (Or.inl (by decide)), Bool.eq_false_of_not_eq_true hnot, hasDigit,
      Text.digitValue?_of_not_ascii hother, Option.any_none]

namespace Environment

section Rules

variable {env : Environment} {src : Source} {dialect : Dialect} {item separator : Grammar}
variable {i j k : Nat} {v : Value} {outputs : List Value} {minimum : Nat}

/-- A separated list takes its first item and those behind separators, until a separator is missed,
or the item behind one. -/
theorem Parses.separatedBy
    (hfirst : env.Parses src dialect item i (some (v, j)))
    (hothers : env.ParsesEach src dialect (separator.ignoreThen item) j outputs k)
    (hends : env.Parses src dialect separator k none ∨
      ∃ w m, env.Parses src dialect separator k (some (w, m)) ∧
        env.Parses src dialect item m none)
    (henough : minimum ≤ outputs.length + 1) :
    env.Parses src dialect (item.separatedBy separator minimum false false) i
      (some (.list (v :: outputs), k)) := by
  obtain ⟨ms, hchain, rfl, hms⟩ := hothers.exists_chain
  let A := (env.parser item).Answers src
  let B := (env.parser separator).Answers src
  have hnext : (env.parser (separator.ignoreThen item)).Answers src = NextItem A B :=
    Parser.nextItem_answers (p := item.parser _) parser_steady
  rw [hnext] at hchain
  have hkeeps : Keeps (NextItem A B) (minimum - 1) none j ms k :=
    ⟨hchain, nofun, fun m hm => (hms m (List.mem_of_mem_drop hm)).1⟩
  obtain ⟨last, hended, hlast⟩ : ∃ error : Located,
      Ends A B minimum false (ms.length + 1) k (some error) [] k ∧
        error.error.dialect = dialect := by
    rcases hends with hseparator | ⟨w, m, hseparator, hitem⟩
    · cases hseparator with
      | missed hanswers herror => exact ⟨_, .noSeparator hanswers, herror⟩
    · cases hseparator with
      | matched hanswers halt =>
          cases hitem with
          | missed hanswers' herror => exact ⟨_, .noItem hanswers hanswers', herror⟩
  cases hfirst with
  | @matched _ alt _ hanswers halt =>
      let first : Match := ⟨i, j, [], v, alt⟩
      have halts : ∀ l ∈ (first :: ms).map Match.alt, ∀ e ∈ l, e.error.dialect = dialect :=
        List.forall_mem_map.2 (List.forall_mem_cons.2 ⟨halt, fun m hm => (hms m hm).2.2⟩)
      have hnone : ∀ l ∈ (none : Option Located), l.error.dialect = dialect := nofun
      obtain ⟨alt', hmerge, hdialect⟩ := Located.exists_mergeAll hnone
        (List.forall_mem_append.2 ⟨halts, List.forall_mem_singleton.2
          fun l (hl : l ∈ some last) => Option.mem_some.1 hl ▸ hlast⟩)
      have hrecovered : (first :: ms).flatMap Match.recovered = [] :=
        List.flatMap_eq_nil_iff.2 (List.forall_mem_cons.2 ⟨rfl, fun m hm => (hms m hm).2.1⟩)
      have hlist : Result.ofList minimum ([] ++ (first :: ms).flatMap Match.recovered ++ [])
          ((first :: ms).map Match.output) alt' =
            .ok (.success [] (.list (v :: ms.map Match.output)) alt') := by
        rw [List.length_map] at henough
        rw [hrecovered]
        exact if_neg (by rw [List.length_map, List.length_cons]; omega)
      have hspare : Spare B i false [] none first.start := .unasked
      exact .matched ((separatedBy_iff env item separator minimum false false src ⟨i, 0, []⟩).2
        (.items hspare hanswers hkeeps hended hmerge hlist)) hdialect

/-- Without a first item a separated list is empty. -/
theorem Parses.separatedBy_of_missed
    (separator : Grammar)
    (hfirst : env.Parses src dialect item i none) :
    env.Parses src dialect (item.separatedBy separator 0 false false) i (some (.list [], i)) := by
  cases hfirst with
  | @missed error stop hanswers herror =>
      refine .matched ((separatedBy_iff env item separator 0 false false src ⟨i, 0, []⟩).2
        (.empty .unasked hanswers rfl rfl)) ?_
      exact fun l hl => Option.mem_some.1 hl ▸ herror

end Rules

section Words

variable (env : Environment)

/-- Whether a grammar matches the longest run of characters that pass a test, as a text, in all
texts; there must be such a character. -/
def ParsesRuns (dialect : Dialect) (g : Grammar) (test : Char → Bool) : Prop :=
  ∀ text context i,
    let run := (text.toList.drop i).takeWhile test
    env.Parses (.ofText text context) dialect g i
      ((text.toList[i]?.filter test).map fun _ => (.str (String.ofList run), i + run.length))

variable {env} {dialect : Dialect} {item separator : Grammar} {test : Char → Bool} {comma : Char}
variable {text : String} {i : Nat} {cs w rest : List Char} {words : List (List Char)}

namespace ParsesOne

variable {g : Grammar}

theorem of_head
    {c : Char}
    (hg : env.ParsesOne dialect g test)
    (context : Value)
    (hcs : text.toList.drop i = c :: cs)
    (hpass : test c = true) :
    env.Parses (.ofText text context) dialect g i (some (.str (String.singleton c), i + 1)) := by
  have hparses := hg text context i
  rw [← List.head?_drop, hcs, List.head?_cons, Option.filter_some_pos hpass] at hparses
  exact hparses

theorem of_none
    (hg : env.ParsesOne dialect g test)
    (context : Value)
    (hstops : ∀ c ∈ (text.toList.drop i).head?, test c = false) :
    env.Parses (.ofText text context) dialect g i none := by
  have hparses := hg text context i
  rwa [Text.filter_getElem? hstops] at hparses

end ParsesOne

namespace ParsesRuns

theorem of_word
    (hitem : env.ParsesRuns dialect item test)
    (context : Value)
    (hcs : text.toList.drop i = w ++ rest)
    (hw : Text.IsWord test w)
    (hstops : ∀ c ∈ rest.head?, test c = false) :
    env.Parses (.ofText text context) dialect item i
      (some (.str (String.ofList w), i + w.length)) := by
  have hparses := hitem text context i
  rw [← List.head?_drop, hcs, hw.takeWhile_append hstops] at hparses
  cases w with
  | nil => exact absurd rfl hw.1
  | cons c w =>
      rw [List.cons_append, List.head?_cons,
        Option.filter_some_pos (hw.2 c List.mem_cons_self)] at hparses
      exact hparses

theorem of_none
    (hitem : env.ParsesRuns dialect item test)
    (context : Value)
    (hstops : ∀ c ∈ (text.toList.drop i).head?, test c = false) :
    env.Parses (.ofText text context) dialect item i none := by
  have hparses := hitem text context i
  rwa [Text.filter_getElem? hstops] at hparses

/-- Words with separators between them are matched one by one. -/
theorem parsesEach
    (hitem : env.ParsesRuns dialect item test)
    (hseparator : env.ParsesOne dialect separator (· = comma))
    (hcomma : test comma = false)
    (context : Value)
    (hdivides : Text.Divides test comma cs (w :: words) rest)
    (hcs : text.toList.drop i = cs) :
    env.Parses (.ofText text context) dialect item i
        (some (.str (String.ofList w), i + w.length)) ∧
      env.ParsesEach (.ofText text context) dialect (separator.ignoreThen item) (i + w.length)
        (words.map fun w => .str (String.ofList w))
        (i + ([comma].intercalate (w :: words)).length) := by
  induction words generalizing cs w i with
  | nil =>
      rw [List.intercalate_singleton]
      have heq := hdivides.eq_append
      rw [List.intercalate_singleton] at heq
      exact ⟨hitem.of_word context (hcs.trans heq)
        (hdivides.isWord w List.mem_cons_self) hdivides.stops, .nil⟩
  | cons w' words ih =>
      obtain ⟨hw, cs', rfl, hbehind⟩ := Text.Divides.cons_iff.1 hdivides
      have hcomma' : ∀ c ∈ (comma :: cs').head?, test c = false :=
        fun c hc => Option.some.inj hc ▸ hcomma
      refine ⟨hitem.of_word context hcs hw hcomma', ?_⟩
      have hdrop : text.toList.drop (i + w.length) = comma :: cs' := by
        rw [← List.drop_drop, hcs, List.drop_left]
      have hdrop' : text.toList.drop (i + w.length + 1) = cs' := by
        rw [← List.drop_drop, hdrop]
        rfl
      obtain ⟨hfirst, hothers⟩ := ih hbehind hdrop'
      have hsep := hseparator.of_head context hdrop (decide_eq_true rfl)
      have hlength : i + ([comma].intercalate (w :: w' :: words)).length =
          i + w.length + 1 + ([comma].intercalate (w' :: words)).length := by
        rw [List.intercalate_cons_cons]
        simp only [List.length_append, List.length_singleton]
        omega
      rw [hlength]
      exact .cons (hsep.ignoreThen hfirst) (by omega) hothers

/-- A separated list takes the words of a text, and leaves the rest. -/
theorem separatedBy
    (hitem : env.ParsesRuns dialect item test)
    (hseparator : env.ParsesOne dialect separator (· = comma))
    (hcomma : test comma = false)
    (context : Value)
    (hdivides : Text.Divides test comma text.toList words rest) :
    env.Parses (.ofText text context) dialect (item.separatedBy separator 0 false false) 0
      (some (.list (words.map fun w => .str (String.ofList w)),
        ([comma].intercalate words).length)) := by
  cases words with
  | nil =>
      have heq : text.toList = rest := hdivides.eq_append
      exact (hitem.of_none context (heq ▸ hdivides.stops)).separatedBy_of_missed separator
  | cons w words =>
      obtain ⟨hfirst, hothers⟩ := hitem.parsesEach hseparator hcomma context hdivides
        List.drop_zero
      rw [Nat.zero_add] at hfirst hothers
      rw [Nat.zero_add] at hothers
      let k := ([comma].intercalate (w :: words)).length
      have hdrop : text.toList.drop k = rest := by
        rw [hdivides.eq_append]
        exact List.drop_left
      refine hfirst.separatedBy hothers ?_ (Nat.zero_le _)
      by_cases hhead : rest.head? = some comma
      · obtain ⟨cs', hrest⟩ := List.head?_eq_some_iff.1 hhead
        have hdrop' : text.toList.drop (k + 1) = cs' := by
          rw [← List.drop_drop, hdrop, hrest]
          rfl
        exact Or.inr ⟨_, _, hseparator.of_head context (hdrop.trans hrest) (decide_eq_true rfl),
          hitem.of_none context (hdrop' ▸ hdivides.ends (List.cons_ne_nil w words) cs' hrest)⟩
      · refine Or.inl (hseparator.of_none context fun c hc => ?_)
        rw [hdrop] at hc
        exact decide_eq_false fun hsame => hhead (hsame ▸ hc)

/-- That the input ends behind the words asks for an empty rest. -/
theorem whole
    (hitem : env.ParsesRuns dialect item test)
    (hseparator : env.ParsesOne dialect separator (· = comma))
    (hcomma : test comma = false)
    (context : Value)
    (hdivides : Text.Divides test comma text.toList words rest) :
    env.Parses (.ofText text context) dialect
      ((item.separatedBy separator 0 false false).thenIgnore (.endOfInput dialect)) 0
      (if rest = [] then
        some (.list (words.map fun w => .str (String.ofList w)),
          ([comma].intercalate words).length)
      else none) := by
  have hlist := hitem.separatedBy hseparator hcomma context hdivides
  have htoken := Source.sighting_token_ofText text context ([comma].intercalate words).length
  rw [← List.head?_drop, hdivides.eq_append, List.drop_left] at htoken
  cases rest with
  | nil => exact hlist.thenIgnore (.endOfInput dialect htoken)
  | cons c rest =>
      rw [if_neg (List.cons_ne_nil c rest)]
      refine hlist.thenIgnore_none_right (.endOfInput_none dialect ?_)
      rw [htoken]
      nofun

/-- Of all ways to divide a text there is one only. -/
theorem divides_unique
    {words' : List (List Char)}
    {rest' : List Char}
    (hitem : env.ParsesRuns dialect item test)
    (hseparator : env.ParsesOne dialect separator (· = comma))
    (hcomma : test comma = false)
    (hdivides : Text.Divides test comma text.toList words rest)
    (hdivides' : Text.Divides test comma text.toList words' rest') :
    words = words' ∧ rest = rest' := by
  have hparses := hitem.separatedBy hseparator hcomma .null hdivides
  have hsame := hparses.unique (hitem.separatedBy hseparator hcomma .null hdivides')
  have hword : Function.Injective fun w => Value.str (String.ofList w) :=
    fun _ _ h => String.ofList_injective (Value.str.inj h)
  obtain rfl : words = words' := List.map_injective_iff.2 hword
    (Value.list.inj (congrArg Prod.fst (Option.some.inj hsame)))
  exact ⟨rfl, List.append_cancel_left (hdivides.eq_append.symm.trans hdivides'.eq_append)⟩

/-- A text that joining gives is divided into what was joined, and nothing is left. -/
theorem joins_iff
    (hitem : env.ParsesRuns dialect item test)
    (hseparator : env.ParsesOne dialect separator (· = comma))
    (hcomma : test comma = false)
    (hdivides : Text.Divides test comma text.toList words rest)
    (xs : List String) :
    ((∀ x ∈ xs, Text.IsWord test x.toList) ∧
        text = (String.singleton comma).intercalate xs) ↔
      xs.map String.toList = words ∧ rest = [] := by
  have hsame : text = (String.singleton comma).intercalate xs ↔
      text.toList = [comma].intercalate (xs.map String.toList) := by
    rw [← String.toList_inj, String.toList_intercalate, String.toList_singleton]
  constructor
  · rintro ⟨hxs, htext⟩
    have hdivides' : Text.Divides test comma text.toList (xs.map String.toList) [] :=
      ⟨List.forall_mem_map.2 hxs, by rw [List.append_nil, hsame.1 htext], nofun, nofun⟩
    obtain ⟨hwords, hrest⟩ := hitem.divides_unique hseparator hcomma hdivides' hdivides
    exact ⟨hwords, hrest.symm⟩
  · rintro ⟨rfl, rfl⟩
    exact ⟨List.forall_mem_map.1 hdivides.isWord,
      hsame.2 (hdivides.eq_append.trans (List.append_nil _))⟩

/-- A separated list of words, and then the end of the input, match what joining gives, and give
back what was joined. -/
theorem undoes_joining
    (hitem : env.ParsesRuns dialect item test)
    (hseparator : env.ParsesOne dialect separator (· = comma))
    (hcomma : test comma = false)
    (text : String)
    (context : Value) :
    let g := (item.separatedBy separator 0 false false).thenIgnore (.endOfInput dialect)
    let Joins (xs : List String) :=
      (∀ x ∈ xs, Text.IsWord test x.toList) ∧ text = (String.singleton comma).intercalate xs
    ∃ answer cur', (env.parser g).strict (.ofText text context) {} = .done answer cur' ∧
      (∀ xs, answer = .ok (.list (xs.map .str)) ↔ Joins xs) ∧
      ((∃ xs, Joins xs) ∨ ∃ error, answer = .error [error]) := by
  intro g Joins
  obtain ⟨words, rest, hdivides⟩ := Text.exists_divides test comma text.toList
  have hjoins (xs : List String) : Joins xs ↔ xs.map String.toList = words ∧ rest = [] :=
    hitem.joins_iff hseparator hcomma hdivides xs
  have hwhole := hitem.whole hseparator hcomma context hdivides
  by_cases hrest : rest = []
  · rw [if_pos hrest] at hwhole
    obtain ⟨cur', hrun⟩ := hwhole.strict {} rfl
    refine ⟨_, cur', hrun, fun xs => ?_, Or.inl ⟨words.map String.ofList, ?_⟩⟩
    · rw [hjoins, Except.ok.injEq, Value.list.injEq, Value.words_eq_iff]
      exact (and_iff_left hrest).symm
    · exact (hjoins _).2 ⟨by simp, hrest⟩
  · rw [if_neg hrest] at hwhole
    obtain ⟨error, cur', hrun⟩ := hwhole.strict_none {} rfl
    refine ⟨_, cur', hrun, fun xs => ?_, Or.inr ⟨error, rfl⟩⟩
    exact iff_of_false nofun fun h => hrest ((hjoins xs).1 h).2

end ParsesRuns

end Words

/-- **Parsing a separated list undoes joining.**  A list of decimal digits, separated by commas, is
matched up to the end of the input.  Over every text a strict run returns.  Its answer is a list of
texts exactly if each of them consists of digits of the ASCII, one at least, and the text is what
joining them with commas gives; for the empty list that is the empty text.  If the text is nothing
that joining gives, the answer is one diagnostic. -/
theorem separated_digits_undo_joining
    (env : Environment)
    (dialect : Dialect)
    (text : String)
    (context : Value) :
    let list := (Grammar.digits dialect .ten).separatedBy (.just dialect (.str ",")) 0 false false
    let g := list.thenIgnore (.endOfInput dialect)
    let Joins (xs : List String) :=
      (∀ x ∈ xs, x ≠ "" ∧ ∀ c ∈ x.toList, c.isDigit = true) ∧ text = ",".intercalate xs
    ∃ answer cur', (env.parser g).strict (.ofText text context) {} = .done answer cur' ∧
      (∀ xs : List String, answer = .ok (.list (xs.map .str)) ↔ Joins xs) ∧
      ((∃ xs, Joins xs) ∨ ∃ error, answer = .error [error]) := by
  have hitem : env.ParsesRuns dialect (.digits dialect .ten) Char.isDigit := by
    rw [← funext Radix.ten_counts]
    exact parses_digits env dialect .ten
  have hword (x : String) :
      Text.IsWord Char.isDigit x.toList ↔ x ≠ "" ∧ ∀ c ∈ x.toList, c.isDigit = true :=
    and_congr_left' (not_congr String.toList_eq_nil_iff)
  have hundoes := hitem.undoes_joining (parsesOne_just env dialect ',') rfl text context
  simp only [hword] at hundoes
  exact hundoes

end Environment
end Resync
