import Mathlib.Data.List.Infix
import Mathlib.Data.List.TakeWhile
import Resync.Proofs.Characters

/-!
# Names and keywords

A name is a letter or underscore, followed by letters, numerals and underscores.  Which characters
are letters and numerals is said by an alphabet, and nothing depends on which it is.  At a place of
a text stands at most one name: the longest of all that stand there.  The grammar of names matches
it.

A keyword is the name that stands at its place.  It is judged after the whole name was read, so a
word is not found where a longer name begins with it, and one that is no name is never found.  A
name that is another one is rejected where it begins, with the span of all of it.
-/

namespace Resync
namespace Text

namespace Alphabet

variable (alphabet : Alphabet)

/-- Whether a name can begin with a character. -/
def beginsName (c : Char) : Bool := alphabet.isLetter c || c = '_'

/-- Whether a name can go on with a character. -/
def continuesName (c : Char) : Bool := alphabet.hasLetterOrNumeral c || c = '_'

/-- Whether characters are a name. -/
def isName : List Char → Bool
  | [] => false
  | c :: rest => alphabet.beginsName c && rest.all alphabet.continuesName

/-- Whether a name stands at a place of a text, and no longer one does. -/
structure NameAt (cs : List Char) (i : Nat) (name : List Char) : Prop where
  name_isName : alphabet.isName name = true
  stands : name <+: cs.drop i
  longest : ∀ other, alphabet.isName other = true → other <+: cs.drop i →
    other.length ≤ name.length

/-- The name at a place: a character that it can begin with, and the longest run of those that it
can go on with. -/
def readName (cs : List Char) (i : Nat) : Option (List Char) :=
  (cs[i]?.filter alphabet.beginsName).map fun c =>
    c :: (cs.drop (i + 1)).takeWhile alphabet.continuesName

variable {alphabet} {cs name other : List Char} {i : Nat}

theorem exists_cons_of_isName (h : alphabet.isName name = true) :
    ∃ c rest, name = c :: rest ∧ alphabet.beginsName c = true ∧
      ∀ d ∈ rest, alphabet.continuesName d = true := by
  cases name with
  | nil => cases h
  | cons c rest =>
      simp only [isName, Bool.and_eq_true, List.all_eq_true] at h
      exact ⟨c, rest, rfl, h.1, h.2⟩

/-- There is one name at most at a place. -/
theorem NameAt.unique
    (h : alphabet.NameAt cs i name)
    (h' : alphabet.NameAt cs i other) :
    name = other := by
  have hle : name.length ≤ other.length := h'.longest name h.name_isName h.stands
  have hge : other.length ≤ name.length := h.longest other h'.name_isName h'.stands
  exact (List.prefix_of_prefix_length_le h.stands h'.stands hle).eq_of_length_le hge

/-- What is read is a name that stands at the place, and every other one there is a part of it. -/
theorem nameAt_of_readName (h : alphabet.readName cs i = some name) :
    alphabet.NameAt cs i name := by
  simp only [readName, Option.map_eq_some_iff, Option.filter_eq_some_iff] at h
  obtain ⟨c, ⟨hc, hbegins⟩, rfl⟩ := h
  have hdrop : cs.drop i = c :: cs.drop (i + 1) := by
    obtain ⟨hi, rfl⟩ := List.getElem?_eq_some_iff.1 hc
    exact List.drop_eq_getElem_cons hi
  refine ⟨?_, ?_, fun other hother hstands => ?_⟩
  · simp only [isName, hbegins, Bool.true_and, List.all_eq_true]
    exact fun d hd => List.mem_takeWhile_imp hd
  · rw [hdrop]
    exact List.cons_prefix_cons.2 ⟨rfl, List.takeWhile_prefix alphabet.continuesName⟩
  · obtain ⟨c', rest, rfl, -, hrest⟩ := exists_cons_of_isName hother
    rw [hdrop, List.cons_prefix_cons] at hstands
    obtain ⟨behind, hbehind⟩ := hstands.2
    rw [← hbehind, List.takeWhile_append_of_pos hrest]
    simp

/-- A name lies within its text. -/
theorem NameAt.add_length_le (h : alphabet.NameAt cs i name) : i + name.length ≤ cs.length := by
  obtain ⟨c, rest, rfl, -⟩ := exists_cons_of_isName h.name_isName
  have hle := h.stands.length_le
  simp only [List.length_cons, List.length_drop] at hle ⊢
  omega

/-- The name at a place is the one that is read. -/
theorem readName_eq_some_iff : alphabet.readName cs i = some name ↔ alphabet.NameAt cs i name := by
  refine ⟨nameAt_of_readName, fun h => ?_⟩
  obtain ⟨c, rest, hname, hbegins, -⟩ := exists_cons_of_isName h.name_isName
  have hc : cs[i]? = some c := by
    obtain ⟨behind, hbehind⟩ := h.stands
    rw [← Nat.add_zero i, ← List.getElem?_drop, ← hbehind, hname]
    rfl
  have hread : alphabet.readName cs i =
      some (c :: (cs.drop (i + 1)).takeWhile alphabet.continuesName) := by
    simp [readName, hc, hbegins]
  rw [hread, (nameAt_of_readName hread).unique h]

end Alphabet
end Text

namespace Environment

variable (env : Environment) (dialect : Dialect)

/-- A class of characters and the underscore together are a class. -/
theorem parsesOne_orUnderscore (test : Char → Bool) :
    env.ParsesOne dialect
      (.filter dialect (Grammar.onText .noSuchMember fun s => Text.allOf test s || s = "_"))
      fun c => test c || c = '_' := by
  have hclass := parsesOne_filter env dialect .noSuchMember fun s => Text.allOf test s || s = "_"
  have hsingle (c : Char) :
      (Text.allOf test (String.singleton c) || decide (String.singleton c = "_")) =
        (test c || decide (c = '_')) := by
    simp [Text.allOf, ← String.toList_inj]
  simpa only [hsingle] using hclass

section Names

variable (alphabet : Text.Alphabet) (text : String) (context : Value) (i : Nat)

/-- Where a name stands in a text, the grammar of names matches it. -/
theorem parses_identifier :
    env.Parses (.ofText text context) dialect (.identifier dialect alphabet) i
      ((alphabet.readName text.toList i).map fun name =>
        (.str (String.ofList name), i + name.length)) := by
  have hword := (parsesOne_orUnderscore env dialect alphabet.isLetter).word
    (parsesOne_orUnderscore env dialect alphabet.hasLetterOrNumeral) text context i
  have hname : (text.toList[i]?.filter alphabet.beginsName).map (fun c =>
        let run := (text.toList.drop (i + 1)).takeWhile alphabet.continuesName
        (Value.str (String.ofList (c :: run)), i + 1 + run.length)) =
      (alphabet.readName text.toList i).map fun name =>
        (.str (String.ofList name), i + name.length) := by
    simp [Text.Alphabet.readName, Function.comp_def, Nat.add_assoc, Nat.add_comm]
  rw [← hname]
  exact hword.labelled "identifier"

/-- A keyword is judged by the name at the cursor: another one is rejected there. -/
theorem keyword_of_name
    {cur : Cursor}
    {name : List Char}
    (hname : alphabet.readName text.toList cur.offset = some name)
    (word : String) :
    ∃ (span : Span) (error : Diagnostic) (alt : Option Located) (last : Cursor),
      span.context = context ∧ span.start = cur.offset ∧ span.stop = cur.offset + name.length ∧
      dialect.expectingLabel span ("keyword " ++ Text.quote word) (.str (String.ofList name)) =
        .ok error ∧
      last.offset = cur.offset + name.length ∧
      env.parser (.keyword dialect word alphabet) (.ofText text context) cur =
        if String.ofList name = word then .done (.success [] (.str word) alt) last
        else .done (.failure [] ⟨cur.offset, error⟩) last := by
  have hparses := parses_identifier env dialect alphabet text context cur.offset
  rw [hname, Option.map_some] at hparses
  obtain ⟨r, cur', hrun, hrecovered, hmatched⟩ := hparses.run cur rfl
  cases r with
  | failure recovered error => cases hmatched
  | success recovered output alt =>
      obtain ⟨rfl, hoffset⟩ := Result.output_of_matched hmatched
      cases hrecovered
      obtain ⟨span, last, hsince, hspanned, hlast, -⟩ :=
        env.exists_spanSince _ (Source.ofTokens_ordered _ _) hrun
      have hwithin : cur'.offset ≤ (Value.characters text).length := by
        rw [hoffset, Value.length_characters]
        exact (Text.Alphabet.nameAt_of_readName hname).add_length_le
      obtain ⟨hcontext, hstart, hstop⟩ := hspanned.eq_of_ofTokens (by omega) hwithin
      obtain ⟨error, herror⟩ : ∃ error, dialect.expectingLabel span ("keyword " ++ Text.quote word)
          (.str (String.ofList name)) = .ok error := by
        cases dialect with
        | detailed family => exact ⟨_, rfl⟩
        | terse => exact ⟨_, rfl⟩
      refine ⟨span, error, alt, last, hcontext, hstart, by omega, herror, by omega, ?_⟩
      refine Eq.trans (Parser.tryMap_of_success hrun hsince _) ?_
      by_cases hword : String.ofList name = word
      · subst hword
        simp only [if_true]
        rfl
      · simp [hword, herror]

/-- Where no name stands, a keyword is not found either. -/
theorem keyword_of_no_name
    {cur : Cursor}
    (hname : alphabet.readName text.toList cur.offset = none)
    (word : String) :
    ∃ error last, env.parser (.keyword dialect word alphabet) (.ofText text context) cur =
      .done (.failure [] error) last := by
  have hparses := parses_identifier env dialect alphabet text context cur.offset
  rw [hname, Option.map_none] at hparses
  obtain ⟨r, cur', hrun, hrecovered, hmatched⟩ := hparses.run cur rfl
  cases r with
  | success recovered output alt => cases hmatched
  | failure recovered error =>
      cases hrecovered
      exact ⟨error, cur', Parser.tryMap_of_failure hrun _⟩

/-- A run of a keyword succeeds exactly if the word is the name at the cursor, and rejects any other
name. -/
theorem keyword_run (cur : Cursor) (word : String) :
    ∃ result last,
      env.parser (.keyword dialect word alphabet) (.ofText text context) cur = .done result last ∧
      result.recovered = [] ∧
      (result.isSuccess = true ↔ alphabet.NameAt text.toList cur.offset word.toList) ∧
      (result.isSuccess = true →
        result.output = .str word ∧ last.offset = cur.offset + word.toList.length) ∧
      ∀ name, alphabet.NameAt text.toList cur.offset name → name ≠ word.toList →
        ∃ (span : Span) (error : Diagnostic),
          result = .failure [] ⟨cur.offset, error⟩ ∧
          span.context = context ∧ span.start = cur.offset ∧
          span.stop = cur.offset + name.length ∧
          dialect.expectingLabel span ("keyword " ++ Text.quote word) (.str (String.ofList name)) =
            .ok error := by
  cases hname : alphabet.readName text.toList cur.offset with
  | none =>
      obtain ⟨error, last, hrun⟩ := keyword_of_no_name env dialect alphabet text context hname word
      have hnot (name : List Char) : ¬ alphabet.NameAt text.toList cur.offset name := by
        simp [← Text.Alphabet.readName_eq_some_iff, hname]
      exact ⟨_, last, hrun, rfl, iff_of_false Bool.false_ne_true (hnot _),
        fun h => absurd h Bool.false_ne_true, fun name h => absurd h (hnot name)⟩
  | some name =>
      obtain ⟨span, error, alt, last, hcontext, hstart, hstop, herror, hlast, hrun⟩ :=
        keyword_of_name env dialect alphabet text context hname word
      have hnameAt := Text.Alphabet.nameAt_of_readName hname
      by_cases hword : String.ofList name = word
      · subst hword
        rw [if_pos rfl] at hrun
        refine ⟨_, last, hrun, rfl, ?_, fun _ => ⟨rfl, ?_⟩, fun other hother hne => ?_⟩
        · simpa [Result.isSuccess] using hnameAt
        · simpa using hlast
        · simp [hother.unique hnameAt] at hne
      · rw [if_neg hword] at hrun
        refine ⟨_, last, hrun, rfl, iff_of_false Bool.false_ne_true fun h => ?_,
          fun h => absurd h Bool.false_ne_true, fun other hother _ => ?_⟩
        · exact hword (by simp [hnameAt.unique h])
        · obtain rfl := hother.unique hnameAt
          exact ⟨span, error, rfl, hcontext, hstart, hstop, herror⟩

/-- A keyword is found at a place exactly if it is the name there. -/
theorem keyword_succeeds_iff (word : String) :
    (env.parser (.keyword dialect word alphabet)).Succeeds (.ofText text context) i ↔
      alphabet.NameAt text.toList i word.toList := by
  obtain ⟨result, last, hrun, -, hsuccess, -⟩ :=
    keyword_run env dialect alphabet text context ⟨i, 0, []⟩ word
  rw [← hsuccess]
  cases result with
  | success recovered output alt => exact iff_of_true ⟨_, _, _, _, last, hrun, rfl⟩ rfl
  | failure recovered error =>
      exact iff_of_false (Parser.Fails.not_succeeds ⟨_, _, _, last, hrun, rfl⟩) nofun

end Names

/-- **A keyword is a whole name.**  Over a text, let a run start at any cursor.

* The grammar of names returns, and recovers from nothing.  It succeeds exactly if a name stands at
  the cursor; it puts out the longest one there, and consumes exactly that.
* So does a keyword, and it succeeds exactly if the longest name at the cursor is its word.  If that
  is another name, the run fails.  The diagnostic is located at the cursor, and its span covers all
  of the name.  A detailed one says that this name was found, and that the keyword was expected and
  nothing else.
* At a place one word at most is found as a keyword, and a word that is no name never is. -/
theorem keyword_whole_name (alphabet : Text.Alphabet) (text : String) (context : Value) :
    (∀ cur, ∃ result last,
      env.parser (.identifier dialect alphabet) (.ofText text context) cur = .done result last ∧
      result.recovered = [] ∧
      (result.isSuccess = true ↔ ∃ name, alphabet.NameAt text.toList cur.offset name) ∧
      ∀ name, alphabet.NameAt text.toList cur.offset name →
        result.output = .str (String.ofList name) ∧
        last.offset = cur.offset + name.length) ∧
    (∀ cur word, ∃ result last,
      env.parser (.keyword dialect word alphabet) (.ofText text context) cur = .done result last ∧
      result.recovered = [] ∧
      (result.isSuccess = true ↔ alphabet.NameAt text.toList cur.offset word.toList) ∧
      (result.isSuccess = true →
        result.output = .str word ∧ last.offset = cur.offset + word.toList.length) ∧
      ∀ name, alphabet.NameAt text.toList cur.offset name → name ≠ word.toList →
        ∃ (span : Span) (error : Diagnostic),
          result = .failure [] ⟨cur.offset, error⟩ ∧
          span.context = context ∧ span.start = cur.offset ∧
          span.stop = cur.offset + name.length ∧ span.cut text = String.ofList name ∧
          dialect.expectingLabel span ("keyword " ++ Text.quote word) (.str (String.ofList name)) =
            .ok error ∧
          ∀ family, dialect = .detailed family →
            error = .detailed family
              ⟨span, .unexpected, .singleton (.label ("keyword " ++ Text.quote word)),
                .str (String.ofList name)⟩) ∧
    (∀ word word' i,
      (env.parser (.keyword dialect word alphabet)).Succeeds (.ofText text context) i →
      (env.parser (.keyword dialect word' alphabet)).Succeeds (.ofText text context) i →
      word = word') ∧
    ∀ word i,
      (env.parser (.keyword dialect word alphabet)).Succeeds (.ofText text context) i →
      alphabet.isName word.toList = true := by
  refine ⟨fun cur => ?_, fun cur word => ?_, fun word word' i h h' => ?_, fun word i h => ?_⟩
  · obtain ⟨result, last, hrun, hrecovered, hmatched⟩ :=
      (parses_identifier env dialect alphabet text context cur.offset).run cur rfl
    refine ⟨result, last, hrun, hrecovered, ?_, fun name hname => ?_⟩
    · rw [← result.isSome_matched last.offset, hmatched, Option.isSome_map,
        Option.isSome_iff_exists]
      simp only [Text.Alphabet.readName_eq_some_iff]
    · rw [Text.Alphabet.readName_eq_some_iff.2 hname, Option.map_some] at hmatched
      exact Result.output_of_matched hmatched
  · obtain ⟨result, last, hrun, hrecovered, hsuccess, houtput, hreject⟩ :=
      keyword_run env dialect alphabet text context cur word
    refine ⟨result, last, hrun, hrecovered, hsuccess, houtput, fun name hname hne => ?_⟩
    obtain ⟨span, error, hresult, hcontext, hstart, hstop, herror⟩ := hreject name hname hne
    refine ⟨span, error, hresult, hcontext, hstart, hstop, ?_, herror, ?_⟩
    · have hlength : span.length.toNat = name.length := by
        unfold Span.length
        omega
      unfold Span.cut Text.slice
      rw [hlength, hstart, Int.toNat_natCast, ← List.prefix_iff_eq_take.1 hname.stands]
    · rintro family rfl
      cases herror
      rfl
  · rw [keyword_succeeds_iff] at h h'
    exact String.toList_injective (h.unique h')
  · rw [keyword_succeeds_iff] at h
    exact h.name_isName

/-- The first four letters of a longer name, and the word itself behind it. -/
theorem keyword_whole_name_of_lettuce :
    let g : Grammar := .keyword .simple "let"
    (∃ alt last, parser {} g (.ofText "lettuce let" .null) ⟨8, 0, []⟩ =
        .done (.success [] (.str "let") alt) last ∧ last.offset = 11) ∧
      ∃ (span : Span) (last : Cursor), span.start = 0 ∧ span.stop = 7 ∧
        parser {} g (.ofText "lettuce let" .null) {} =
          .done (.failure [] ⟨0, .detailed .simple ⟨span, .unexpected,
            .singleton (.label "keyword 'let'"), .str "lettuce"⟩⟩) last := by
  intro g
  obtain ⟨-, hkeyword, -⟩ := keyword_whole_name {} .simple .universal "lettuce let" .null
  constructor
  · have hlet : Text.Alphabet.universal.NameAt "lettuce let".toList 8 "let".toList :=
      Text.Alphabet.nameAt_of_readName (by decide)
    obtain ⟨result, last, hrun, hrecovered, hsuccess, houtput, -⟩ := hkeyword ⟨8, 0, []⟩ "let"
    obtain ⟨houtput, hlast⟩ := houtput (hsuccess.2 hlet)
    cases result with
    | success recovered output alt =>
        cases hrecovered
        cases houtput
        exact ⟨alt, last, hrun, hlast⟩
    | failure recovered error => cases houtput
  · have hlettuce : Text.Alphabet.universal.NameAt "lettuce let".toList 0 "lettuce".toList :=
      Text.Alphabet.nameAt_of_readName (by decide)
    obtain ⟨result, last, hrun, -, -, -, hreject⟩ := hkeyword {} "let"
    obtain ⟨span, error, rfl, -, hstart, hstop, -, -, hdetail⟩ :=
      hreject "lettuce".toList hlettuce (by decide)
    obtain rfl := hdetail .simple rfl
    exact ⟨span, last, hstart, hstop, hrun⟩

end Environment
end Resync
