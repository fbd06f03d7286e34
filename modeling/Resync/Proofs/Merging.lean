import Resync.Proofs.FurthestFailure

/-!
# Merging alternatives

Diagnostics of the detailed families can always be merged.  Of two alternatives the one further on
is kept, and two at one position become one, which keeps the place and the finding of the first.
How several alternatives are bracketed makes no difference then, and an alternative that is merged
with itself stays what it is, so it does no harm to find it twice.
-/

namespace Resync

namespace PatternSet

theorem eq_of_items {s t : PatternSet} (h : s.items = t.items) : s = t := by
  cases s
  cases t
  cases h
  rfl

/-- New patterns are new to both sets before, in whichever order the sets are joined. -/
theorem union_assoc (s t u : PatternSet) : (s.union t).union u = s.union (t.union u) := by
  refine eq_of_items ?_
  simp only [union, List.filter_append, List.filter_filter, List.append_assoc]
  congr 2
  refine List.filter_congr fun v _ => ?_
  by_cases hs : v ∈ s
  · simp [hs]
  · simp [hs]

/-- A set has no patterns that are new to it. -/
theorem union_self (s : PatternSet) : s.union s = s := by
  refine eq_of_items ?_
  simp [union]

end PatternSet

namespace Detail

theorem merge_assoc (a b c : Detail) : (a.merge b).merge c = a.merge (b.merge c) := by
  have hreason : jointReason (a.merge b) c = jointReason a (b.merge c) := by
    simp only [merge, jointReason]
    by_cases ha : a.reason.isUnclosed = true
    · simp [ha]
    · by_cases hb : b.reason.isUnclosed = true
      · simp [ha, hb]
      · by_cases hc : c.reason.isUnclosed = true
        · simp [ha, hb, hc]
        · simp [ha, hb, hc]
  show Detail.mk _ _ _ _ = Detail.mk _ _ _ _
  rw [hreason]
  exact congrArg (Detail.mk _ _ · _) (PatternSet.union_assoc ..)

theorem merge_self (a : Detail) : a.merge a = a := by
  obtain ⟨span, reason, expected, found⟩ := a
  simp only [merge, jointReason, PatternSet.union_self, ite_self]

end Detail

namespace Diagnostic

/-- Whether any two diagnostics of a kind can be merged, and become one of the kind. -/
def Compatible (kind : Diagnostic → Prop) : Prop :=
  ∀ ⦃a b : Diagnostic⦄, kind a → kind b → ∃ c, a.merge b = .ok c ∧ kind c

/-- The diagnostics of one dialect are compatible. -/
theorem compatible_dialect (dialect : Dialect) : Compatible fun a => a.dialect = dialect := by
  intro a b ha hb
  obtain ⟨c, hmerge, hc⟩ := exists_merge (ha.trans hb.symm)
  exact ⟨c, hmerge, hc.trans ha⟩

/-- All diagnostics that keep their contents are compatible. -/
theorem compatible_isDetailed : Compatible IsDetailed := by
  intro a b ha hb
  cases a with
  | terse text => exact ha.elim
  | detailed family d =>
      cases b with
      | terse text => exact hb.elim
      | detailed family' d' => exact ⟨_, rfl, trivial⟩

end Diagnostic

/-- A diagnostic of a detailed family, and where it lies. -/
structure Finding where
  position : Nat
  family : Family
  detail : Detail

namespace Finding

/-- The finding as a located diagnostic. -/
def located (a : Finding) : Located := ⟨a.position, .detailed a.family a.detail⟩

/-- The finding that lies further on; two at one position become one of the first one's family. -/
def merge (a b : Finding) : Finding :=
  if b.position < a.position then a
  else if a.position < b.position then b
  else { a with detail := a.detail.merge b.detail }

/-- Findings are merged like their diagnostics. -/
theorem max_located (a b : Finding) :
    a.located.max (some b.located) = .ok (a.merge b).located := by
  show (if a.position > b.position then _ else if b.position > a.position then _ else _) =
    Except.ok (merge a b).located
  unfold merge
  by_cases hab : b.position < a.position
  · rw [if_pos hab, if_pos hab]
  · rw [if_neg hab, if_neg hab]
    by_cases hba : a.position < b.position
    · rw [if_pos hba, if_pos hba]
    · rw [if_neg hba, if_neg hba]
      rfl

theorem merge_of_lt {a b : Finding} (h : b.position < a.position) : a.merge b = a := if_pos h

theorem merge_of_gt {a b : Finding} (h : a.position < b.position) : a.merge b = b := by
  rw [merge, if_neg (Nat.lt_asymm h), if_pos h]

theorem merge_of_eq {a b : Finding} (h : a.position = b.position) :
    a.merge b = { a with detail := a.detail.merge b.detail } := by
  rw [merge, if_neg (by omega), if_neg (by omega)]

/-- The merger lies at the further one of the positions. -/
theorem position_merge (a b : Finding) : (a.merge b).position = max a.position b.position := by
  rcases Nat.lt_trichotomy a.position b.position with h | h | h
  · rw [merge_of_gt h]
    omega
  · rw [merge_of_eq h]
    show a.position = _
    omega
  · rw [merge_of_lt h]
    omega

theorem merge_assoc (a b c : Finding) : (a.merge b).merge c = a.merge (b.merge c) := by
  have hab := position_merge a b
  have hbc := position_merge b c
  rcases Nat.lt_trichotomy a.position b.position with h | h | h
  · rw [merge_of_gt h, merge_of_gt (a := a) (b := b.merge c) (by omega)]
  · rcases Nat.lt_trichotomy b.position c.position with h' | h' | h'
    · rw [merge_of_gt (a := a.merge b) (by omega), merge_of_gt h', merge_of_gt (h ▸ h')]
    · rw [merge_of_eq (a := a.merge b) (by omega), merge_of_eq (b := b.merge c) (by omega),
        merge_of_eq h, merge_of_eq h', Detail.merge_assoc]
    · rw [merge_of_lt (a := a.merge b) (by omega), merge_of_lt h']
  · rw [merge_of_lt h]
    rcases Nat.lt_trichotomy b.position c.position with h' | h' | h'
    · rw [merge_of_gt h']
    · rw [merge_of_lt (b := c) (by omega), merge_of_lt (b := b.merge c) (by omega)]
    · rw [merge_of_lt (b := c) (by omega), merge_of_lt h', merge_of_lt h]

theorem merge_self (a : Finding) : a.merge a = a := by
  rw [merge_of_eq rfl, Detail.merge_self]

instance : Std.Associative merge := ⟨merge_assoc⟩

instance : Std.IdempotentOp merge := ⟨merge_self⟩

end Finding

namespace Located

/-- Whether an alternative, if there is one, is of a detailed family. -/
def AltIsDetailed (alt : Option Located) : Prop := ∀ l ∈ alt, l.error.IsDetailed

theorem altIsDetailed_none : AltIsDetailed none :=
  fun l hl => absurd hl (Option.not_mem_none l)

theorem exists_finding {l : Located} (h : l.error.IsDetailed) :
    ∃ a : Finding, l = a.located := by
  obtain ⟨position, error⟩ := l
  cases error with
  | detailed family detail => exact ⟨⟨position, family, detail⟩, rfl⟩
  | terse text => exact h.elim

/-- Detailed alternatives are findings that may be missing. -/
theorem altIsDetailed_iff {alt : Option Located} :
    AltIsDetailed alt ↔ ∃ a : Option Finding, alt = a.map Finding.located := by
  constructor
  · intro h
    cases alt with
    | none => exact ⟨none, rfl⟩
    | some l =>
        obtain ⟨a, rfl⟩ := exists_finding (h l rfl)
        exact ⟨some a, rfl⟩
  · rintro ⟨a, rfl⟩ l hl
    obtain ⟨b, -, rfl⟩ := Option.map_eq_some_iff.1 hl
    trivial

/-- Alternatives that may be missing are merged like findings that may be missing. -/
theorem mergeAlts_located (a b : Option Finding) :
    mergeAlts (a.map Finding.located) (b.map Finding.located) =
      .ok ((Option.merge Finding.merge a b).map Finding.located) := by
  cases a with
  | none =>
      rw [Option.merge_none_left]
      exact mergeAlts_none_left _
  | some a =>
      cases b with
      | none => rfl
      | some b =>
          show mergeAlts (some a.located) (some b.located) = _
          rw [mergeAlts_some, Finding.max_located]
          rfl

/-- An alternative is merged with another one, if there is one, like two diagnostics. -/
theorem mergeAlts_some_left (a : Located) (b : Option Located) :
    mergeAlts (some a) b = (a.max b).map some := by
  cases b with
  | none => rfl
  | some b => exact mergeAlts_some a b

/-- If there is an alternative to merge, there is one afterwards. -/
theorem exists_some_of_mergeAlts
    {alt c : Option Located}
    {l : Located}
    (h : mergeAlts alt (some l) = .ok c) :
    ∃ l', c = some l' := by
  cases alt with
  | none =>
      cases h
      exact ⟨l, rfl⟩
  | some a =>
      rw [mergeAlts_some] at h
      obtain ⟨d, -, rfl⟩ := map_eq_ok.1 h
      exact ⟨d, rfl⟩

/-- The alternatives of a list, merged from left to right into one that was there before. -/
def mergeAll (alt : Option Located) (alts : List (Option Located)) :
    Except Fault (Option Located) :=
  alts.foldlM mergeAlts alt

theorem mergeAll_cons (alt alt' : Option Located) (alts : List (Option Located)) :
    mergeAll alt (alt' :: alts) = (mergeAlts alt alt').bind fun c => mergeAll c alts :=
  List.foldlM_cons

theorem mergeAll_append (alt : Option Located) (alts alts' : List (Option Located)) :
    mergeAll alt (alts ++ alts') = (mergeAll alt alts).bind fun c => mergeAll c alts' :=
  List.foldlM_append

theorem mergeAll_concat (alt alt' : Option Located) (alts : List (Option Located)) :
    mergeAll alt (alts ++ [alt']) = (mergeAll alt alts).bind fun c => mergeAlts c alt' := by
  rw [mergeAll_append]
  refine congrArg (mergeAll alt alts).bind (funext fun c => ?_)
  rw [mergeAll_cons]
  cases mergeAlts c alt' with
  | error f => rfl
  | ok d => rfl

/-- Where there is no alternative, there is nothing to merge. -/
theorem mergeAll_cons_none (alt : Option Located) (alts : List (Option Located)) :
    mergeAll alt (none :: alts) = mergeAll alt alts := by
  rw [mergeAll_cons, mergeAlts_none_right]
  rfl

theorem mergeAll_concat_none (alt : Option Located) (alts : List (Option Located)) :
    mergeAll alt (alts ++ [none]) = mergeAll alt alts := by
  rw [mergeAll_concat]
  cases mergeAll alt alts with
  | error f => rfl
  | ok c => exact mergeAlts_none_right c

/-- A merger of two alternatives lies where one of them does. -/
theorem position_of_mergeAlts
    {a b c : Option Located}
    {l : Located}
    (h : mergeAlts a b = .ok c)
    (hl : l ∈ c) :
    (∃ l' ∈ a, l'.position = l.position) ∨ ∃ l' ∈ b, l'.position = l.position := by
  cases a with
  | none =>
      rw [mergeAlts_none_left] at h
      cases h
      exact Or.inr ⟨l, hl, rfl⟩
  | some a =>
      cases b with
      | none =>
          cases h
          exact Or.inl ⟨l, hl, rfl⟩
      | some b =>
          rw [mergeAlts_some] at h
          obtain ⟨d, hmax, rfl⟩ := map_eq_ok.1 h
          cases Option.mem_some.1 hl
          rcases max_some_eq_ok hmax with ⟨-, rfl⟩ | ⟨-, rfl⟩ | ⟨-, error, -, rfl⟩
          · exact Or.inl ⟨_, rfl, rfl⟩
          · exact Or.inr ⟨_, rfl, rfl⟩
          · exact Or.inl ⟨a, rfl, rfl⟩

/-- A merger of alternatives lies where one of them does. -/
theorem position_of_mergeAll
    {alt c : Option Located}
    {alts : List (Option Located)}
    {l : Located}
    (h : mergeAll alt alts = .ok c)
    (hl : l ∈ c) :
    ∃ m ∈ alt :: alts, ∃ l' ∈ m, l'.position = l.position := by
  induction alts generalizing alt with
  | nil =>
      cases h
      exact ⟨c, List.mem_cons_self, l, hl, rfl⟩
  | cons alt' alts ih =>
      rw [mergeAll_cons] at h
      obtain ⟨d, hmerge, hrest⟩ := bind_eq_ok.1 h
      obtain ⟨m, hm, l', hl', hposition⟩ := ih hrest
      rcases List.mem_cons.1 hm with rfl | hm
      · rw [← hposition]
        rcases position_of_mergeAlts hmerge hl' with ⟨l'', hl'', h⟩ | ⟨l'', hl'', h⟩
        · exact ⟨alt, List.mem_cons_self, l'', hl'', h⟩
        · exact ⟨alt', List.mem_cons_of_mem _ List.mem_cons_self, l'', hl'', h⟩
      · exact ⟨m, List.mem_cons_of_mem _ (List.mem_cons_of_mem _ hm), l', hl', hposition⟩

section Detailed

variable {alts alts' : List (Option Located)}

theorem exists_findings (h : ∀ m ∈ alts, AltIsDetailed m) :
    ∃ found : List (Option Finding), alts = found.map (Option.map Finding.located) := by
  induction alts with
  | nil => exact ⟨[], rfl⟩
  | cons m alts ih =>
      obtain ⟨a, rfl⟩ := altIsDetailed_iff.1 (h m List.mem_cons_self)
      obtain ⟨found, rfl⟩ := ih fun m' hm' => h m' (List.mem_cons_of_mem _ hm')
      exact ⟨a :: found, rfl⟩

theorem mergeAll_located (a : Option Finding) (found : List (Option Finding)) :
    mergeAll (a.map Finding.located) (found.map (Option.map Finding.located)) =
      .ok ((found.foldl (Option.merge Finding.merge) a).map Finding.located) := by
  induction found generalizing a with
  | nil => rfl
  | cons b found ih =>
      rw [List.map_cons, mergeAll_cons, mergeAlts_located]
      exact ih (Option.merge Finding.merge a b)

/-- Detailed alternatives can be merged part by part. -/
theorem mergeAll_append_eq_ok
    {c : Option Located}
    (halts : ∀ m ∈ alts, AltIsDetailed m)
    (halts' : ∀ m ∈ alts', AltIsDetailed m) :
    mergeAll none (alts ++ alts') = .ok c ↔
      ∃ a b, mergeAll none alts = .ok a ∧ mergeAll none alts' = .ok b ∧ mergeAlts a b = .ok c := by
  obtain ⟨found, rfl⟩ := exists_findings halts
  obtain ⟨found', rfl⟩ := exists_findings halts'
  have hfirst := mergeAll_located none found
  have hsecond := mergeAll_located none found'
  have hboth : mergeAll none ((found ++ found').map (Option.map Finding.located)) = _ :=
    mergeAll_located none (found ++ found')
  -- Nothing is neutral, so the second part can be folded by itself.
  have hfold : (found ++ found').foldl (Option.merge Finding.merge) none =
      Option.merge Finding.merge (found.foldl (Option.merge Finding.merge) none)
        (found'.foldl (Option.merge Finding.merge) none) := by
    refine Eq.trans ?_ List.foldl_assoc
    rw [List.foldl_append, Option.merge_none_right]
  rw [hfold, ← mergeAlts_located] at hboth
  rw [← List.map_append, hboth]
  constructor
  · exact fun h => ⟨_, _, hfirst, hsecond, h⟩
  · rintro ⟨a, b, ha, hb, h⟩
    cases hfirst.symm.trans ha
    cases hsecond.symm.trans hb
    exact h

/-- Two detailed alternatives can be merged before they are merged into those before. -/
theorem mergeAll_concat_merged
    {a b c : Option Located}
    (halts : ∀ m ∈ alts, AltIsDetailed m)
    (ha : AltIsDetailed a)
    (hb : AltIsDetailed b)
    (hmerge : mergeAlts a b = .ok c) :
    mergeAll none (alts ++ [c]) = mergeAll none (alts ++ [a] ++ [b]) := by
  obtain ⟨found, rfl⟩ := exists_findings halts
  obtain ⟨x, rfl⟩ := altIsDetailed_iff.1 ha
  obtain ⟨y, rfl⟩ := altIsDetailed_iff.1 hb
  cases hmerge.symm.trans (mergeAlts_located x y)
  have hjoint : mergeAll none ((found ++ [Option.merge Finding.merge x y]).map _) = _ :=
    mergeAll_located none (found ++ [Option.merge Finding.merge x y])
  have hapart : mergeAll none ((found ++ [x] ++ [y]).map (Option.map Finding.located)) = _ :=
    mergeAll_located none (found ++ [x] ++ [y])
  have hfold : (found ++ [x] ++ [y]).foldl (Option.merge Finding.merge) none =
      (found ++ [Option.merge Finding.merge x y]).foldl (Option.merge Finding.merge) none := by
    simp only [List.foldl_append, List.foldl_cons, List.foldl_nil]
    exact Std.Associative.assoc _ x y
  rw [hfold, ← hjoint] at hapart
  simpa only [List.map_append, List.map_singleton] using hapart.symm

/-- A detailed alternative that is merged with itself stays what it is. -/
theorem mergeAlts_self {alt : Option Located} (halt : AltIsDetailed alt) :
    mergeAlts alt alt = .ok alt := by
  obtain ⟨a, rfl⟩ := altIsDetailed_iff.1 halt
  have hself : Option.merge Finding.merge a a = a := Std.IdempotentOp.idempotent a
  rw [mergeAlts_located, hself]

/-- A detailed alternative that is found again adds nothing. -/
theorem mergeAll_concat_again
    {alt : Option Located}
    (halts : ∀ m ∈ alts, AltIsDetailed m)
    (halt : AltIsDetailed alt) :
    mergeAll none (alts ++ [alt] ++ [alt]) = mergeAll none (alts ++ [alt]) :=
  (mergeAll_concat_merged halts halt halt (mergeAlts_self halt)).symm

/-- Detailed alternatives can be merged with the first one last, or with the last one in two
parts. -/
theorem mergeAll_first_iff
    {first last missing last' alt : Option Located}
    (hfirst : AltIsDetailed first)
    (halts : ∀ m ∈ alts, AltIsDetailed m)
    (hlast : AltIsDetailed last)
    (hmissing : AltIsDetailed missing)
    (hmerge : mergeAlts last missing = .ok last') :
    (∃ c, mergeAll none (alts ++ [last']) = .ok c ∧ mergeAlts first c = .ok alt) ↔
      ∃ c, mergeAll none (first :: alts ++ [last]) = .ok c ∧ mergeAlts c missing = .ok alt := by
  have hall : ∀ m ∈ first :: alts, AltIsDetailed m := List.forall_mem_cons.2 ⟨hfirst, halts⟩
  have hlast' : AltIsDetailed last' := by
    obtain ⟨a, rfl⟩ := altIsDetailed_iff.1 hlast
    obtain ⟨b, rfl⟩ := altIsDetailed_iff.1 hmissing
    cases hmerge.symm.trans (mergeAlts_located a b)
    exact altIsDetailed_iff.2 ⟨_, rfl⟩
  have hparts : mergeAll none ([first] ++ (alts ++ [last'])) = .ok alt ↔ _ :=
    mergeAll_append_eq_ok (List.forall_mem_singleton.2 hfirst)
      (List.forall_mem_append.2 ⟨halts, List.forall_mem_singleton.2 hlast'⟩)
  have hsingle : mergeAll none [first] = .ok first := by
    rw [mergeAll_cons, mergeAlts_none_left]
    rfl
  calc (∃ c, mergeAll none (alts ++ [last']) = .ok c ∧ mergeAlts first c = .ok alt)
      ↔ mergeAll none (first :: alts ++ [last']) = .ok alt := by
        refine Iff.trans ⟨?_, ?_⟩ hparts.symm
        · exact fun ⟨c, hrest, h⟩ => ⟨first, c, hsingle, hrest, h⟩
        · rintro ⟨a, c, ha, hrest, h⟩
          cases hsingle.symm.trans ha
          exact ⟨c, hrest, h⟩
    _ ↔ mergeAll none (first :: alts ++ [last] ++ [missing]) = .ok alt := by
        rw [mergeAll_concat_merged hall hlast hmissing hmerge]
    _ ↔ ∃ c, mergeAll none (first :: alts ++ [last]) = .ok c ∧ mergeAlts c missing = .ok alt := by
        rw [mergeAll_concat]
        exact bind_eq_ok

end Detailed

section Compatible

variable {kind : Diagnostic → Prop} {alt alt' : Option Located} {alts : List (Option Located)}

theorem exists_max_of_compatible
    {l : Located}
    (hkind : Diagnostic.Compatible kind)
    (hl : kind l.error)
    (halt : ∀ l' ∈ alt, kind l'.error) :
    ∃ c, l.max alt = .ok c ∧ kind c.error := by
  cases alt with
  | none => exact ⟨l, rfl, hl⟩
  | some l' =>
      have hl' : kind l'.error := halt l' rfl
      by_cases hgt : l.position > l'.position
      · exact ⟨l, if_pos hgt, hl⟩
      · by_cases hlt : l'.position > l.position
        · exact ⟨l', (if_neg hgt).trans (if_pos hlt), hl'⟩
        · obtain ⟨error, hmerge, herror⟩ := hkind hl hl'
          refine ⟨⟨l.position, error⟩, ?_, herror⟩
          rw [max, if_neg hgt, if_neg hlt, hmerge]
          rfl

theorem exists_mergeAlts_of_compatible
    (hkind : Diagnostic.Compatible kind)
    (halt : ∀ l ∈ alt, kind l.error)
    (halt' : ∀ l ∈ alt', kind l.error) :
    ∃ c, mergeAlts alt alt' = .ok c ∧ ∀ l ∈ c, kind l.error := by
  cases alt with
  | none => exact ⟨alt', mergeAlts_none_left alt', halt'⟩
  | some a =>
      cases alt' with
      | none => exact ⟨some a, rfl, halt⟩
      | some b =>
          obtain ⟨c, hmax, hc⟩ := exists_max_of_compatible hkind (halt a rfl) halt'
          refine ⟨some c, ?_, fun l hl => Option.mem_some.1 hl ▸ hc⟩
          rw [mergeAlts_some, hmax]
          rfl

/-- Compatible alternatives can be merged, however many there are. -/
theorem exists_mergeAll_of_compatible
    (hkind : Diagnostic.Compatible kind)
    (halt : ∀ l ∈ alt, kind l.error)
    (halts : ∀ m ∈ alts, ∀ l ∈ m, kind l.error) :
    ∃ c, mergeAll alt alts = .ok c ∧ ∀ l ∈ c, kind l.error := by
  induction alts generalizing alt with
  | nil => exact ⟨alt, rfl, halt⟩
  | cons m alts ih =>
      obtain ⟨c, hmerge, hc⟩ :=
        exists_mergeAlts_of_compatible hkind halt (halts m List.mem_cons_self)
      rw [mergeAll_cons, hmerge]
      exact ih hc fun m' hm' => halts m' (List.mem_cons_of_mem _ hm')

end Compatible

/-- Alternatives of one dialect can be merged, however many there are. -/
theorem exists_mergeAll
    {dialect : Dialect}
    {alt : Option Located}
    {alts : List (Option Located)}
    (halt : ∀ l ∈ alt, l.error.dialect = dialect)
    (halts : ∀ m ∈ alts, ∀ l ∈ m, l.error.dialect = dialect) :
    ∃ c, mergeAll alt alts = .ok c ∧ ∀ l ∈ c, l.error.dialect = dialect :=
  exists_mergeAll_of_compatible (Diagnostic.compatible_dialect dialect) halt halts

end Located
end Resync
