import Resync.Proofs.Separated.Accepting

/-!
# Empty lists

A separated list is empty where its item fails at once, if that is enough.  What failed is given
back, so a list that may not start with a spare separator consumes nothing then.

Where it may, the separator is tried before the item is, and it is not asked again whether there is
an item behind it.  So an empty list can consume one separator in front of it, and reports what that
recovered from.  A spare separator behind a list is another matter: it is only looked for behind an
item, and an empty list has none.
-/

namespace Resync

open Located (mergeAlts)

namespace Separation

variable {A B : Nat → Result → Nat → Prop} {minimum start stop : Nat} {leading trailing : Bool}
variable {recovered : List Located} {alt : Option Located}

/-- A spare separator is found, or nothing is consumed, and it is missed if it is asked for. -/
theorem Spare.found_or_missed (h : Spare B start leading recovered alt stop) :
    (leading = true ∧ ∃ output, B start (.success recovered output alt) stop) ∨
      (recovered = [] ∧ stop = start ∧
        (leading = true → ∃ attempted error reached,
          B start (.failure attempted error) reached)) := by
  cases h with
  | unasked => exact Or.inr ⟨rfl, rfl, nofun⟩
  | missed hseparator => exact Or.inr ⟨rfl, rfl, fun _ => ⟨_, _, _, hseparator⟩⟩
  | found hseparator => exact Or.inl ⟨rfl, _, hseparator⟩

/-- A list is empty if none is asked for and its first item fails behind the spare separator. -/
theorem lists_empty_iff :
    Lists A B minimum leading trailing start (.success recovered (.list []) alt) stop ↔
      minimum = 0 ∧ ∃ leadAlt attempted error reached,
        Spare B start leading recovered leadAlt stop ∧
          A stop (.failure attempted error) reached ∧
          mergeAlts leadAlt (some error) = .ok alt := by
  constructor
  · intro h
    cases h with
    | items hlead hfirst hkeeps hends hmerge hlist =>
        obtain ⟨-, -, houtputs, -⟩ := Result.ofList_success hlist
        cases houtputs
    | empty hlead hfirst hmerge hlist =>
        obtain ⟨henough, rfl, -, rfl⟩ := Result.ofList_success hlist
        exact ⟨Nat.le_zero.1 henough, _, _, _, _, hlead, hfirst, hmerge⟩
  · rintro ⟨rfl, leadAlt, attempted, error, reached, hlead, hfirst, hmerge⟩
    exact .empty hlead hfirst hmerge rfl

end Separation

namespace Environment

open Separation (Spare)

variable (env : Environment) (src : Source) (item separator : Grammar) (minimum : Nat)
variable (leading trailing : Bool) (cur : Cursor)

/-- **What an empty list consumes.**  A separated list succeeds with no items if none is asked for
and the item fails at once, behind a spare separator if one may stand in front of the list and does.
Whether one may stand behind it makes no difference.  Then one of two things is the case.

* A spare separator may stand in front, and does.  The list ends where that does, and has recovered
  from the same.
* The list consumes nothing and has recovered from nothing.  If a spare separator may stand in
  front, it fails there. -/
theorem separatedBy_empty (recovered : List Located) (alt : Option Located) :
    (∀ stop,
      (∃ cur', env.parser (item.separatedBy separator minimum leading trailing) src cur =
          .done (.success recovered (.list []) alt) cur' ∧ cur'.offset = stop) ↔
        minimum = 0 ∧ ∃ leadAlt attempted error reached,
          Spare ((env.parser separator).Answers src) cur.offset leading recovered leadAlt stop ∧
            (env.parser item).Answers src stop (.failure attempted error) reached ∧
            mergeAlts leadAlt (some error) = .ok alt) ∧
      ∀ cur', env.parser (item.separatedBy separator minimum leading trailing) src cur =
          .done (.success recovered (.list []) alt) cur' →
        (leading = true ∧ ∃ output alt', (env.parser separator).Answers src cur.offset
          (.success recovered output alt') cur'.offset) ∨
        (recovered = [] ∧ cur'.offset = cur.offset ∧
          (leading = true → (env.parser separator).Fails src cur.offset)) := by
  have hlists {stop : Nat} :
      (∃ cur', env.parser (item.separatedBy separator minimum leading trailing) src cur =
          .done (.success recovered (.list []) alt) cur' ∧ cur'.offset = stop) ↔ _ :=
    separatedBy_iff env item separator minimum leading trailing src cur
  refine ⟨fun stop => hlists.trans Separation.lists_empty_iff, fun cur' hrun => ?_⟩
  obtain ⟨-, leadAlt, -, -, -, hlead, -⟩ :=
    Separation.lists_empty_iff.1 (hlists.1 ⟨cur', hrun, rfl⟩)
  rcases hlead.found_or_missed with ⟨hleading, output, hseparator⟩ | ⟨hrecovered, hstop, hmissed⟩
  · exact Or.inl ⟨hleading, output, leadAlt, hseparator⟩
  · exact Or.inr ⟨hrecovered, hstop, hmissed⟩

/-- Neither the item nor the separator is there, and a spare one may stand on both sides. -/
theorem separatedBy_empty_of_letter :
    let item : Grammar := .just .simple (.str "a")
    let separator : Grammar := .just .simple (.str ",")
    let src : Source := .ofText "b" .null
    ∃ alt cur', parser {} (item.separatedBy separator 0 true true) src {} =
        .done (.success [] (.list []) alt) cur' ∧
      cur'.offset = 0 ∧ (parser {} separator).Fails src 0 := by
  intro item separator src
  obtain ⟨alt, cur', hrun, hstop⟩ : ∃ alt cur',
      parser {} (item.separatedBy separator 0 true true) src {} =
        .done (.success [] (.list []) alt) cur' ∧ cur'.offset = 0 := ⟨_, _, rfl, rfl⟩
  obtain ⟨-, hconsumes⟩ := separatedBy_empty {} src item separator 0 true true {} [] alt
  rcases hconsumes cur' hrun with ⟨-, output, alt', hfound⟩ | ⟨-, hoffset, hmissed⟩
  · have hforward : 0 < cur'.offset := consumes_just _ _ hfound
    rw [hstop] at hforward
    exact absurd hforward (Nat.not_lt_zero _)
  · exact ⟨alt, cur', hrun, hoffset, hmissed rfl⟩

/-- A comma is consumed in front of a list that is empty. -/
theorem separatedBy_empty_consumes :
    let item : Grammar := .just .simple (.str "a")
    let separator : Grammar := .just .simple (.str ",")
    ∃ alt cur', parser {} (item.separatedBy separator 0 true false) (.ofText "," .null) {} =
        .done (.success [] (.list []) alt) cur' ∧ cur'.offset = 1 :=
  ⟨_, _, rfl, rfl⟩

end Environment
end Resync
