import Mathlib.Data.List.Basic
import Resync.Proofs.Characters

/-!
# Numerals

The digits of a radix are the decimal digits and the Latin letters, in either case, whose value is
below the radix.  A character counts as a digit if its lower case is one of a row.  That lets one
more character in, the Kelvin sign, whose lower case is the letter k.

Digits are matched as the longest run.  An unsigned integer is the longest run as well, unless it
begins with a zero, which then stands alone.
-/

namespace Resync

/-- The value of a character of the ASCII as a digit, if it has one: letters in either case go on
where the decimal digits end. -/
def Text.digitValue? (c : Char) : Option Nat :=
  if '0' ≤ c ∧ c ≤ '9' then some (c.toNat - '0'.toNat)
  else if 'a' ≤ c ∧ c ≤ 'z' then some (c.toNat - 'a'.toNat + 10)
  else if 'A' ≤ c ∧ c ≤ 'Z' then some (c.toNat - 'A'.toNat + 10)
  else none

/-- Whether a character is a digit of a radix: it has a value, which is below the radix. -/
def Radix.hasDigit (r : Radix) (c : Char) : Bool := (Text.digitValue? c).any (· < r.val)

/-- Whether a character counts as a digit of a radix: it is one, or it is the Kelvin sign and the
letter k is one. -/
def Radix.counts (r : Radix) (c : Char) : Bool :=
  r.hasDigit c || (c = '\u212a' && decide (20 < r.val))

namespace Text

/-- A text of one character occurs in a row if the character is a member of it. -/
theorem occursIn_singleton (c : Char) (row : List Char) : occursIn [c] row = decide (c ∈ row) := by
  induction row with
  | nil => rfl
  | cons c' row ih =>
      rw [occursIn, ih]
      simp [List.isPrefixOf, Bool.beq_eq_decide_eq]

section Ascii

variable {c : Char}

/-- What is to be said of all characters of the ASCII can be checked one by one. -/
theorem forall_ascii
    {P : Char → Prop}
    (h : ∀ n < 128, P (Char.ofNat n))
    (hc : c.toNat < 128) :
    P c :=
  c.ofNat_toNat ▸ h c.toNat hc

theorem not_le_of_not_ascii {d : Char} (hc : 128 ≤ c.toNat) (hd : d.toNat < 128) : ¬ c ≤ d := by
  intro hle
  have hle' : c.toNat ≤ d.toNat := hle
  omega

/-- Outside the ASCII only the Kelvin sign is put in lower case. -/
theorem lowerLatin_of_not_ascii (hc : 128 ≤ c.toNat) :
    lowerLatin c = if c = '\u212a' then 'k' else c := by
  rw [lowerLatin, if_neg fun h => not_le_of_not_ascii hc (by decide) h.2]

/-- No character outside the ASCII has a value. -/
theorem digitValue?_of_not_ascii (hc : 128 ≤ c.toNat) : digitValue? c = none := by
  rw [digitValue?, if_neg fun h => not_le_of_not_ascii hc (by decide) h.2,
    if_neg fun h => not_le_of_not_ascii hc (by decide) h.2,
    if_neg fun h => not_le_of_not_ascii hc (by decide) h.2]

set_option maxRecDepth 4000 in
/-- Nothing but zero is zero in lower case. -/
theorem lowerLatin_eq_zero_iff : lowerLatin c = '0' ↔ c = '0' := by
  rcases Nat.lt_or_ge c.toNat 128 with hascii | hother
  · exact forall_ascii (P := fun c => lowerLatin c = '0' ↔ c = '0') (by decide) hascii
  · have hzero : c ≠ '0' := by
      rintro rfl
      exact absurd hother (by decide)
    rw [lowerLatin_of_not_ascii hother]
    split_ifs
    · exact iff_of_false (by decide) hzero
    · rfl

set_option maxRecDepth 4000 in
/-- In the ASCII the value of a digit is the place of its lower case in the row of all digits. -/
theorem digitValue?_of_ascii (hc : c.toNat < 128) :
    digitValue? c =
      if lowerLatin c ∈ Radix.allDigits then some (Radix.allDigits.idxOf (lowerLatin c))
      else none :=
  forall_ascii
    (P := fun c => digitValue? c =
      if lowerLatin c ∈ Radix.allDigits then some (Radix.allDigits.idxOf (lowerLatin c))
      else none)
    (by decide) hc

end Ascii

end Text

namespace Radix

/-- All digits are in the ASCII. -/
theorem lt_of_mem_allDigits {c : Char} (hc : c ∈ allDigits) : c.toNat < 128 := by
  have hall : (allDigits.all fun c => c.toNat < 128) = true := by decide
  exact of_decide_eq_true (List.all_eq_true.1 hall c hc)

variable (r : Radix) (c : Char)

/-- A member of the row of digits of a radix has its place in the row of all digits, below the
radix. -/
theorem mem_digits_iff : c ∈ r.digits ↔ c ∈ allDigits ∧ allDigits.idxOf c < r.val := by
  unfold digits
  constructor
  · intro h
    have hc := List.mem_of_mem_take h
    exact ⟨hc, (List.mem_take_iff_idxOf_lt hc).1 h⟩
  · rintro ⟨hc, hlt⟩
    exact (List.mem_take_iff_idxOf_lt hc).2 hlt

/-- What counts as a digit are the characters whose lower case is in the row of digits. -/
theorem lowerLatin_mem_digits_iff : Text.lowerLatin c ∈ r.digits ↔ r.counts c = true := by
  rw [mem_digits_iff]
  unfold counts
  rcases Nat.lt_or_ge c.toNat 128 with hascii | hother
  · have hkelvin : c ≠ '\u212a' := by
      rintro rfl
      exact absurd hascii (by decide)
    unfold hasDigit
    rw [Text.digitValue?_of_ascii hascii]
    by_cases hc : Text.lowerLatin c ∈ allDigits
    · simp [hc, hkelvin]
    · simp [hc, hkelvin]
  · have hdigit : r.hasDigit c = false := by
      unfold hasDigit
      rw [Text.digitValue?_of_not_ascii hother]
      rfl
    rw [Text.lowerLatin_of_not_ascii hother, hdigit]
    by_cases hkelvin : c = '\u212a'
    · have hk : 'k' ∈ allDigits ∧ allDigits.idxOf 'k' = 20 := by decide
      simp [hkelvin, hk]
    · have hc : c ∉ allDigits := fun hmem => Nat.not_lt.2 hother (lt_of_mem_allDigits hmem)
      simp [hkelvin, hc]

variable {c} in
theorem counts_iff : r.counts c = true ↔ r.hasDigit c = true ∨ c = '\u212a' ∧ 20 < r.val := by
  simp [counts]

variable {c} in
/-- Up to the radix twenty, and for all characters but one, what counts as a digit is one. -/
theorem counts_eq_hasDigit (h : r.val ≤ 20 ∨ c ≠ '\u212a') : r.counts c = r.hasDigit c := by
  unfold counts
  rcases h with hle | hne
  · simp [Nat.not_lt.2 hle]
  · simp [hne]

/-- Zero is the first digit of every radix, and no later one. -/
theorem digits_eq_cons : r.digits = '0' :: r.digits.drop 1 ∧ '0' ∉ r.digits.drop 1 := by
  have hrow : allDigits = '0' :: allDigits.drop 1 ∧ '0' ∉ allDigits.drop 1 := by decide
  obtain ⟨n, hn⟩ : ∃ n, r.val = n + 1 := ⟨r.val - 1, by have := r.two_le; omega⟩
  have hdigits : r.digits = '0' :: (allDigits.drop 1).take n := by
    unfold digits
    rw [hn, hrow.1]
    rfl
  rw [hdigits]
  exact ⟨rfl, fun hmem => hrow.2 (List.mem_of_mem_take hmem)⟩

theorem counts_zero : r.counts '0' = true :=
  (r.lowerLatin_mem_digits_iff '0').1 (r.digits_eq_cons.1 ▸ List.mem_cons_self)

/-- The digits of a radix but the first are all its digits but zero. -/
theorem lowerLatin_mem_drop_digits_iff :
    Text.lowerLatin c ∈ r.digits.drop 1 ↔ (r.counts c && c ≠ '0') = true := by
  obtain ⟨hdigits, hzero⟩ := r.digits_eq_cons
  have hmem : r.counts c = true ↔ c = '0' ∨ Text.lowerLatin c ∈ r.digits.drop 1 := by
    rw [← lowerLatin_mem_digits_iff, ← Text.lowerLatin_eq_zero_iff, ← List.mem_cons, ← hdigits]
  rw [Bool.and_eq_true, decide_eq_true_iff, hmem]
  constructor
  · intro hlater
    refine ⟨Or.inr hlater, ?_⟩
    rintro rfl
    exact hzero hlater
  · rintro ⟨heq | hlater, hne⟩
    · exact absurd heq hne
    · exact hlater

end Radix

namespace Environment

variable (env : Environment) (dialect : Dialect) (r : Radix)

section Classes

/-- What a row of digits matches are the characters whose lower case is a member of it. -/
theorem parsesOne_digitAmong (row : List Char) :
    env.ParsesOne dialect (.digitAmong dialect row) fun c => decide (Text.lowerLatin c ∈ row) := by
  have hclass := parsesOne_filter env dialect .noSuchMember fun s =>
    Text.occursIn (s.toList.map Text.lowerLatin) row
  simp only [String.toList_singleton, List.map_singleton, Text.occursIn_singleton] at hclass
  exact hclass

theorem parsesOne_digit : env.ParsesOne dialect (.digit dialect r) r.counts := by
  have hclass := parsesOne_digitAmong env dialect r.digits
  simp only [Radix.lowerLatin_mem_digits_iff, Bool.decide_eq_true] at hclass
  exact hclass.labelled "digit"

/-- All digits but zero. -/
theorem parsesOne_nonzero :
    env.ParsesOne dialect (.digitAmong dialect (r.digits.drop 1)) fun c =>
      r.counts c && c ≠ '0' := by
  have hclass := parsesOne_digitAmong env dialect (r.digits.drop 1)
  simp only [Radix.lowerLatin_mem_drop_digits_iff, Bool.decide_eq_true] at hclass
  exact hclass

end Classes

section Runs

variable (text : String) (context : Value) (i : Nat)

/-- Digits are the longest run of characters that count as one. -/
theorem parses_digits :
    let run := (text.toList.drop i).takeWhile r.counts
    env.Parses (.ofText text context) dialect (.digits dialect r) i
      ((text.toList[i]?.filter r.counts).map fun _ =>
        (.str (String.ofList run), i + run.length)) := by
  intro run
  have hrepeated : env.Parses (.ofText text context) dialect
      (.repeated (.digit dialect r) 1 none) i
      (if 1 ≤ run.length then
        some (.list (Value.characters (String.ofList run)), i + run.length)
      else none) := (parsesOne_digit env dialect r).repeated text context i 1
  have hrun : run = _ := Text.run_eq r.counts text.toList i
  cases hc : text.toList[i]?.filter r.counts with
  | none =>
      rw [hc, Option.elim_none] at hrun
      rw [hrun] at hrepeated
      exact hrepeated.map_none _
  | some c =>
      rw [hc, Option.elim_some] at hrun
      have hsome : 1 ≤ run.length := by
        rw [hrun]
        exact Nat.succ_pos _
      rw [if_pos hsome] at hrepeated
      exact hrepeated.map (Action.concat_characters _)

/-- An unsigned integer is a zero, or the longest run of digits if that begins with another one. -/
theorem parses_integer :
    let run := (text.toList.drop i).takeWhile r.counts
    env.Parses (.ofText text context) dialect (.integer dialect r) i
      ((text.toList[i]?.filter r.counts).map fun c =>
        if c = '0' then (.str "0", i + 1) else (.str (String.ofList run), i + run.length)) := by
  intro run
  have hword := (parsesOne_nonzero env dialect r).word (parsesOne_digit env dialect r)
    text context i
  have hzero := parsesOne_just env dialect '0' text context i
  refine Parses.labelled "integer" ?_
  cases hc : text.toList[i]? with
  | none =>
      rw [hc] at hword hzero
      exact hword.orElse_right hzero
  | some c =>
      rw [hc, Option.filter_some] at hword hzero
      rw [Option.filter_some]
      by_cases hdigit : r.counts c = true
      · rw [if_pos hdigit, Option.map_some]
        by_cases hc' : c = '0'
        · rw [if_neg (by simp [hc'])] at hword
          rw [if_pos (decide_eq_true hc')] at hzero
          subst hc'
          exact hword.orElse_right hzero
        · rw [if_pos (by simp [hdigit, hc']), Option.map_some] at hword
          have hrun : run = _ := Text.run_eq_cons hc hdigit
          rw [if_neg hc', hrun, List.length_cons, ← Nat.add_assoc, Nat.add_right_comm]
          exact hword.orElse _
      · have hne : c ≠ '0' := by
          rintro rfl
          exact hdigit r.counts_zero
        rw [if_neg (by simp [hdigit])] at hword
        rw [if_neg (by simp [hne])] at hzero
        rw [if_neg hdigit]
        exact hword.orElse_right hzero

end Runs

variable (text : String) (context : Value) (cur : Cursor)

/-- **Digits are the longest run.**  Over a text, and for every radix, one digit or more are matched
exactly if the character at the cursor counts as a digit: if it is a digit of the radix, or else the
Kelvin sign in a radix that has the letter k.  The run returns in any case, and recovers from
nothing.  If it succeeds, it has taken all characters from there on that count as digits, up to the
first one that does not.  Where there is no Kelvin sign, or the radix has no letter k, these are the
digits of the radix. -/
theorem digits_longest_run :
    let run := (text.toList.drop cur.offset).takeWhile r.counts
    (∃ result cur',
      env.parser (.digits dialect r) (.ofText text context) cur = .done result cur' ∧
      result.recovered = [] ∧
      (result.isSuccess = true ↔ ∃ c ∈ text.toList[cur.offset]?,
        r.hasDigit c = true ∨ c = '\u212a' ∧ 20 < r.val) ∧
      (result.isSuccess = true →
        result.output = .str (String.ofList run) ∧ cur'.offset = cur.offset + run.length)) ∧
    (r.val ≤ 20 ∨ '\u212a' ∉ text.toList →
      run = (text.toList.drop cur.offset).takeWhile r.hasDigit ∧
      ∀ c ∈ text.toList[cur.offset]?,
        ((r.hasDigit c = true ∨ c = '\u212a' ∧ 20 < r.val) ↔ r.hasDigit c = true)) := by
  intro run
  constructor
  · obtain ⟨result, cur', hrun, hrecovered, hsuccess, houtput, -⟩ :=
      (parses_digits env dialect r text context cur.offset).run_of_found cur rfl
    simp only [Radix.counts_iff] at hsuccess
    refine ⟨result, cur', hrun, hrecovered, hsuccess, fun h => ?_⟩
    obtain ⟨c, hc, hdigit⟩ := hsuccess.1 h
    exact houtput c hc (r.counts_iff.2 hdigit)
  · intro hkelvin
    have hcounts : ∀ c ∈ text.toList, r.counts c = r.hasDigit c := fun c hc =>
      r.counts_eq_hasDigit (hkelvin.imp_right fun hnot heq => hnot (heq ▸ hc))
    refine ⟨Text.run_congr fun c hc => hcounts c (List.mem_of_mem_drop hc), fun c hc => ?_⟩
    rw [← r.counts_iff, hcounts c (List.mem_of_getElem? hc)]

/-- Digits in either case, within a text. -/
theorem digits_longest_run_of_hexadecimal :
    let r : Radix := ⟨16, by decide, by decide⟩
    ∃ result cur', parser {} (.digits .simple r) (.ofText "xfF09g" .null) ⟨1, 0, []⟩ =
        .done result cur' ∧
      result.recovered = [] ∧ result.output = .str "fF09" ∧ cur'.offset = 5 := by
  intro r
  obtain ⟨⟨result, cur', hrun, hrecovered, hsuccess, houtput⟩, -⟩ :=
    digits_longest_run {} .simple r "xfF09g" .null ⟨1, 0, []⟩
  obtain ⟨houtput, hoffset⟩ := houtput (hsuccess.2 ⟨'f', rfl, Or.inl (by decide)⟩)
  have hdigits : ("xfF09g".toList.drop 1).takeWhile r.counts = "fF09".toList := by decide
  rw [hdigits] at houtput hoffset
  exact ⟨result, cur', hrun, hrecovered, houtput, hoffset⟩

/-- The Kelvin sign is no digit of any radix, and yet it is matched as one. -/
theorem digits_take_kelvin_sign :
    let r : Radix := ⟨21, by decide, by decide⟩
    r.hasDigit '\u212a' = false ∧
      ∃ alt cur', parser {} (.digits .simple r) (.ofText "\u212a" .null) {} =
        .done (.success [] (.str "\u212a") alt) cur' ∧ cur'.offset = 1 :=
  ⟨by decide, _, _, rfl, rfl⟩

/-- **An unsigned integer is written without superfluous zeros.**  A digit is matched wherever a text
has a character that it accepts.  Over a text, and for every radix, an unsigned integer is matched
exactly if the character at the cursor is such a digit.  The run returns in any case, and recovers
from nothing.  A zero is matched alone; from another digit on, the longest run of digits is.  So
nothing that is put out has a zero in front, unless it is the zero. -/
theorem integer_canonical :
    let digit := env.accepts (.digit dialect r)
    let run := (text.toList.drop cur.offset).takeWhile digit
    (∀ i, (env.parser (.digit dialect r)).Succeeds (.ofText text context) i ↔
      ∃ c ∈ text.toList[i]?, digit c = true) ∧
    ∃ result cur',
      env.parser (.integer dialect r) (.ofText text context) cur = .done result cur' ∧
      result.recovered = [] ∧
      (result.isSuccess = true ↔ ∃ c ∈ text.toList[cur.offset]?, digit c = true) ∧
      (∀ c ∈ text.toList[cur.offset]?, digit c = true →
        (c = '0' → result.output = .str "0" ∧ cur'.offset = cur.offset + 1) ∧
        (c ≠ '0' → result.output = .str (String.ofList run) ∧
          cur'.offset = cur.offset + run.length)) ∧
      ∀ s, result.output = .str s → s = "0" ∨ s.toList.head? ≠ some '0' := by
  have hclass := parsesOne_digit env dialect r
  rw [hclass.accepts_eq]
  intro digit run
  obtain ⟨result, cur', hrun, hrecovered, hsuccess, houtput, hnull⟩ :=
    (parses_integer env dialect r text context cur.offset).run_of_found cur rfl
  have hzero (c : Char) (hc : c ∈ text.toList[cur.offset]?) (hdigit : r.counts c = true)
      (hc' : c = '0') : result.output = .str "0" ∧ cur'.offset = cur.offset + 1 := by
    have hout := houtput c hc hdigit
    rwa [if_pos hc'] at hout
  have hother (c : Char) (hc : c ∈ text.toList[cur.offset]?) (hdigit : r.counts c = true)
      (hc' : c ≠ '0') :
      result.output = .str (String.ofList run) ∧ cur'.offset = cur.offset + run.length := by
    have hout := houtput c hc hdigit
    rwa [if_neg hc'] at hout
  refine ⟨fun i => hclass.succeeds_iff, result, cur', hrun, hrecovered, hsuccess,
    fun c hc hdigit => ⟨hzero c hc hdigit, hother c hc hdigit⟩, fun s hs => ?_⟩
  by_cases hfound : ∃ c ∈ text.toList[cur.offset]?, r.counts c = true
  · obtain ⟨c, hc, hdigit⟩ := hfound
    by_cases hc' : c = '0'
    · obtain ⟨rfl⟩ := Value.str.inj (hs.symm.trans (hzero c hc hdigit hc').1)
      exact Or.inl rfl
    · obtain ⟨rfl⟩ := Value.str.inj (hs.symm.trans (hother c hc hdigit hc').1)
      have hrun : run = _ := Text.run_eq_cons hc hdigit
      refine Or.inr ?_
      rw [String.toList_ofList, hrun, List.head?_cons]
      exact fun heq => hc' (Option.some.inj heq)
  · rw [hnull hfound] at hs
    cases hs

/-- A zero stands alone, and the digits behind it are an integer of their own. -/
theorem integer_canonical_of_zero :
    let g : Grammar := .integer .simple .ten
    (∃ result cur', parser {} g (.ofText "0120;" .null) {} = .done result cur' ∧
        result.recovered = [] ∧ result.output = .str "0" ∧ cur'.offset = 1) ∧
      ∃ result cur', parser {} g (.ofText "0120;" .null) ⟨1, 0, []⟩ = .done result cur' ∧
        result.recovered = [] ∧ result.output = .str "120" ∧ cur'.offset = 4 := by
  intro g
  have hclass : accepts {} (.digit .simple .ten) = Radix.ten.counts :=
    (parsesOne_digit {} .simple .ten).accepts_eq
  constructor
  · obtain ⟨-, result, cur', hrun, hrecovered, -, houtput, -⟩ :=
      integer_canonical {} .simple .ten "0120;" .null {}
    rw [hclass] at houtput
    obtain ⟨houtput, hoffset⟩ := (houtput '0' rfl (by decide)).1 rfl
    exact ⟨result, cur', hrun, hrecovered, houtput, hoffset⟩
  · obtain ⟨-, result, cur', hrun, hrecovered, -, houtput, -⟩ :=
      integer_canonical {} .simple .ten "0120;" .null ⟨1, 0, []⟩
    rw [hclass] at houtput
    obtain ⟨houtput, hoffset⟩ := (houtput '1' rfl (by decide)).2 (by decide)
    have hdigits : ("0120;".toList.drop 1).takeWhile Radix.ten.counts = "120".toList := by decide
    rw [hdigits] at houtput hoffset
    exact ⟨result, cur', hrun, hrecovered, houtput, hoffset⟩

end Environment
end Resync
