import Resync.Parser.Sequence

/-!
# Which of several diagnostics is the furthest

Of two located diagnostics the one further on is kept, and two at one position are merged.  Taken
from left to right over a list this keeps the furthest position, and merges what lies there.
-/

namespace Resync

section Computations

variable {α β : Type} {x : Except Fault α} {b : β}

/-- What is mapped has a value if it had one before. -/
theorem map_eq_ok {f : α → β} : x.map f = .ok b ↔ ∃ a, x = .ok a ∧ f a = b := by
  cases x with
  | error fault => simp [Except.map]
  | ok a => simp [Except.map]

/-- Of two computations one after the other both have a value if the second has. -/
theorem bind_eq_ok {f : α → Except Fault β} : x.bind f = .ok b ↔ ∃ a, x = .ok a ∧ f a = .ok b := by
  cases x with
  | error fault => simp [Except.bind]
  | ok a => simp [Except.bind]

end Computations

/-- Diagnostics of one dialect can be merged, and stay in it. -/
theorem Diagnostic.exists_merge
    {a b : Diagnostic}
    (h : a.dialect = b.dialect) :
    ∃ c, a.merge b = .ok c ∧ c.dialect = a.dialect := by
  cases a with
  | detailed family d =>
      cases b with
      | detailed family' d' => exact ⟨_, rfl, rfl⟩
      | terse text => cases h
  | terse text => exact ⟨_, rfl, rfl⟩

namespace Located

/-- Whether a diagnostic lies where the furthest of some diagnostics do. -/
def IsFurthestOf (d : Located) (items : List Located) : Prop :=
  (∃ e ∈ items, e.position = d.position) ∧ ∀ e ∈ items, e.position ≤ d.position

/-- Of two located diagnostics the one further on is kept, or both are merged. -/
theorem max_some_eq_ok
    {a b c : Located}
    (h : a.max (some b) = .ok c) :
    (b.position < a.position ∧ c = a) ∨
      (a.position < b.position ∧ c = b) ∨
      (a.position = b.position ∧
        ∃ error, a.error.merge b.error = .ok error ∧ c = ⟨a.position, error⟩) := by
  unfold max at h
  by_cases hab : a.position > b.position
  · simp only [if_pos hab] at h
    cases h
    exact Or.inl ⟨hab, rfl⟩
  · by_cases hba : b.position > a.position
    · simp only [if_neg hab, if_pos hba] at h
      cases h
      exact Or.inr (Or.inl ⟨hba, rfl⟩)
    · simp only [if_neg hab, if_neg hba] at h
      refine Or.inr (Or.inr ⟨by omega, ?_⟩)
      cases hmerge : a.error.merge b.error with
      | error f =>
          rw [hmerge] at h
          cases h
      | ok error =>
          rw [hmerge] at h
          cases h
          exact ⟨error, rfl, rfl⟩

/-- The further of two diagnostics lies where the further of their positions is. -/
theorem position_of_max
    {a b c : Located}
    (h : a.max (some b) = .ok c) :
    c.position = Max.max a.position b.position := by
  rcases max_some_eq_ok h with ⟨hlt, rfl⟩ | ⟨hlt, rfl⟩ | ⟨heq, error, -, rfl⟩
  · omega
  · omega
  · show a.position = _
    omega

theorem mergeAlts_some (a b : Located) :
    mergeAlts (some a) (some b) = (a.max (some b)).map some := by
  show (a.max (some b) >>= fun c => pure (some c)) = _
  cases a.max (some b) with
  | error f => rfl
  | ok c => rfl

theorem mergeAlts_none_left (m : Option Located) : mergeAlts none m = .ok m := by
  cases m with
  | none => rfl
  | some b => rfl

theorem mergeAlts_none_right (m : Option Located) : mergeAlts m none = .ok m := by
  cases m with
  | none => rfl
  | some a => rfl

/-- A diagnostic and those of a list, from left to right: the furthest of them as one. -/
def maxFrom (a : Located) (items : List Located) : Except Fault Located :=
  items.foldlM (fun d e => d.max (some e)) a

/-- The diagnostics of a list, from left to right: the furthest of them as one, if there are
any. -/
def maxAll : List Located → Except Fault (Option Located)
  | [] => .ok none
  | a :: items => (maxFrom a items).map some

/-- The diagnostics of a list, merged into one from left to right. -/
def mergeFrom (error : Diagnostic) (items : List Located) : Except Fault Diagnostic :=
  items.foldlM (fun d e => d.merge e.error) error

theorem maxFrom_cons (a e : Located) (items : List Located) :
    maxFrom a (e :: items) = (a.max (some e)).bind fun c => maxFrom c items :=
  List.foldlM_cons

theorem maxAll_concat (items : List Located) (e : Located) :
    maxAll (items ++ [e]) = (maxAll items).bind fun d => mergeAlts d (some e) := by
  cases items with
  | nil => rfl
  | cons a items =>
      have hfold : maxFrom a (items ++ [e]) = (maxFrom a items).bind fun d => d.max (some e) := by
        unfold maxFrom
        simp only [List.foldlM_append, List.foldlM_cons, List.foldlM_nil, bind_pure]
        rfl
      show (maxFrom a (items ++ [e])).map some = ((maxFrom a items).map some).bind _
      rw [hfold]
      cases maxFrom a items with
      | error f => rfl
      | ok d => exact (mergeAlts_some d e).symm

/-- The furthest diagnostic as one lies at the furthest position. -/
theorem maxFrom_isFurthestOf
    {a d : Located}
    {items : List Located}
    (h : maxFrom a items = .ok d) :
    d.IsFurthestOf (a :: items) := by
  induction items generalizing a with
  | nil =>
      cases h
      refine ⟨⟨d, List.mem_singleton_self d, rfl⟩, ?_⟩
      intro e he
      exact Nat.le_of_eq (congrArg Located.position (List.mem_singleton.1 he))
  | cons e items ih =>
      rw [maxFrom_cons] at h
      obtain ⟨c, hmax, hrest⟩ := bind_eq_ok.1 h
      obtain ⟨⟨x, hx, hat⟩, hall⟩ := ih hrest
      have hc : (c.position = a.position ∨ c.position = e.position) ∧
          a.position ≤ c.position ∧ e.position ≤ c.position := by
        rcases max_some_eq_ok hmax with ⟨hlt, rfl⟩ | ⟨hlt, rfl⟩ | ⟨heq, error, -, rfl⟩
        · exact ⟨Or.inl rfl, by omega, by omega⟩
        · exact ⟨Or.inr rfl, by omega, by omega⟩
        · exact ⟨Or.inl rfl, Nat.le_refl _, Nat.le_of_eq heq.symm⟩
      have hcd : c.position ≤ d.position := hall c List.mem_cons_self
      constructor
      · rcases List.mem_cons.1 hx with rfl | hx
        · rcases hc.1 with hca | hce
          · exact ⟨a, List.mem_cons_self, by omega⟩
          · exact ⟨e, List.mem_cons_of_mem _ List.mem_cons_self, by omega⟩
        · exact ⟨x, List.mem_cons_of_mem _ (List.mem_cons_of_mem _ hx), hat⟩
      · intro y hy
        rcases List.mem_cons.1 hy with rfl | hy
        · omega
        · rcases List.mem_cons.1 hy with rfl | hy
          · omega
          · exact hall y (List.mem_cons_of_mem _ hy)

theorem maxAll_eq_none {items : List Located} (h : maxAll items = .ok none) : items = [] := by
  cases items with
  | nil => rfl
  | cons a items =>
      obtain ⟨c, -, hc⟩ := map_eq_ok.1 h
      cases hc

theorem maxAll_isFurthestOf
    {d : Located}
    {items : List Located}
    (h : maxAll items = .ok (some d)) :
    d.IsFurthestOf items := by
  cases items with
  | nil => cases h
  | cons a items =>
      obtain ⟨c, hfold, hc⟩ := map_eq_ok.1 h
      cases hc
      exact maxFrom_isFurthestOf hfold

/-- From a diagnostic that none of a list lies beyond, the fold merges those at its position. -/
theorem maxFrom_merges
    {a d : Located}
    {items : List Located}
    (hle : ∀ e ∈ items, e.position ≤ a.position)
    (h : maxFrom a items = .ok d) :
    mergeFrom a.error (items.filter fun e => e.position = a.position) = .ok d.error := by
  induction items generalizing a with
  | nil =>
      cases h
      rfl
  | cons e items ih =>
      rw [maxFrom_cons] at h
      have hhead : e.position ≤ a.position := hle e List.mem_cons_self
      have htail : ∀ x ∈ items, x.position ≤ a.position :=
        fun x hx => hle x (List.mem_cons_of_mem _ hx)
      obtain ⟨c, hmax, hrest⟩ := bind_eq_ok.1 h
      rcases max_some_eq_ok hmax with ⟨hlt, rfl⟩ | ⟨hlt, rfl⟩ | ⟨heq, error, hmerge, rfl⟩
      · rw [List.filter_cons_of_neg (by simp; omega)]
        exact ih htail hrest
      · omega
      · rw [List.filter_cons_of_pos (by simp [heq])]
        unfold mergeFrom
        rw [List.foldlM_cons, hmerge]
        exact ih (a := ⟨a.position, error⟩) htail hrest

/-- What lies before a diagnostic that follows is dropped. -/
theorem maxAll_append_before
    {a d : Located}
    {before items : List Located}
    (hbefore : ∀ e ∈ before, e.position < a.position)
    (h : maxAll (before ++ a :: items) = .ok (some d)) :
    maxFrom a items = .ok d := by
  cases before with
  | nil =>
      obtain ⟨c, hfold, hc⟩ := map_eq_ok.1 h
      cases hc
      exact hfold
  | cons b before =>
      have hsplit : maxFrom b (before ++ a :: items) =
          (maxFrom b before).bind fun c => maxFrom c (a :: items) := List.foldlM_append
      obtain ⟨x, hall, hx⟩ := map_eq_ok.1 h
      cases hx
      obtain ⟨c, hfold, hrest⟩ := bind_eq_ok.1 (hsplit.symm.trans hall)
      obtain ⟨⟨e, he, hat⟩, -⟩ := maxFrom_isFurthestOf hfold
      have hlt : c.position < a.position := hat ▸ hbefore e he
      have hmax : c.max (some a) = .ok a := by rw [max, if_neg (by omega), if_pos hlt]
      rw [maxFrom_cons, hmax] at hrest
      exact hrest

section OneDialect

variable {dialect : Dialect}

theorem exists_max
    {a : Located}
    {m : Option Located}
    (ha : a.error.dialect = dialect)
    (hm : ∀ b, m = some b → b.error.dialect = dialect) :
    ∃ c, a.max m = .ok c ∧ c.error.dialect = dialect := by
  cases m with
  | none => exact ⟨a, rfl, ha⟩
  | some b =>
      have hb : b.error.dialect = dialect := hm b rfl
      obtain ⟨error, hmerge, herror⟩ := Diagnostic.exists_merge (ha.trans hb.symm)
      by_cases hab : a.position > b.position
      · exact ⟨a, by rw [max, if_pos hab], ha⟩
      · by_cases hba : b.position > a.position
        · exact ⟨b, by rw [max, if_neg hab, if_pos hba], hb⟩
        · refine ⟨⟨a.position, error⟩, ?_, herror.trans ha⟩
          rw [max, if_neg hab, if_neg hba, hmerge]
          rfl

/-- Diagnostics of one dialect can be merged, however many there are. -/
theorem exists_maxFrom
    {a : Located}
    {items : List Located}
    (ha : a.error.dialect = dialect)
    (hitems : ∀ e ∈ items, e.error.dialect = dialect) :
    ∃ d, maxFrom a items = .ok d ∧ d.error.dialect = dialect := by
  induction items generalizing a with
  | nil => exact ⟨a, rfl, ha⟩
  | cons e items ih =>
      have he : ∀ b, some e = some b → b.error.dialect = dialect := by
        rintro b ⟨⟩
        exact hitems e List.mem_cons_self
      obtain ⟨c, hmax, hc⟩ := exists_max ha he
      rw [maxFrom_cons, hmax]
      exact ih hc fun x hx => hitems x (List.mem_cons_of_mem _ hx)

theorem exists_maxAll
    {items : List Located}
    (hitems : ∀ e ∈ items, e.error.dialect = dialect) :
    ∃ m, maxAll items = .ok m ∧ ∀ d, m = some d → d.error.dialect = dialect := by
  cases items with
  | nil => exact ⟨none, rfl, fun d hd => nomatch hd⟩
  | cons a items =>
      obtain ⟨d, hfold, hd⟩ := exists_maxFrom (hitems a List.mem_cons_self)
        fun e he => hitems e (List.mem_cons_of_mem _ he)
      refine ⟨some d, map_eq_ok.2 ⟨d, hfold, rfl⟩, ?_⟩
      rintro _ ⟨⟩
      exact hd

end OneDialect

end Located

/-- Of two failures the one further on is kept, or both are merged. -/
theorem Result.either_failures
    (recovered recovered' : List Located)
    (a b : Located) :
    (failure recovered a).either (failure recovered' b) =
      (a.max (some b)).map
        (failure (if b.position ≤ a.position then recovered else recovered')) := by
  unfold either
  by_cases hat : a.position = b.position
  · simp only [if_pos hat]
    rw [if_pos (by omega)]
    cases a.max (some b) with
    | error f => rfl
    | ok c => rfl
  · simp only [if_neg hat, side]
    by_cases hle : b.position ≤ a.position
    · rw [if_pos hle, if_pos hle, Located.max, if_pos (by omega)]
      rfl
    · rw [if_neg hle, if_neg hle, Located.max, if_neg (by omega), if_pos (by omega)]
      rfl

/-- A failure becomes an alternative of the clean success after it. -/
theorem Result.either_clean
    (recovered : List Located)
    (error : Located)
    (output : Value)
    (alt : Option Located) :
    (failure recovered error).either (success [] output alt) =
      (Located.mergeAlts alt (some error)).map (success [] output) := by
  show (Located.mergeAlts alt (some error) >>= fun alt' => pure (success [] output alt')) = _
  cases Located.mergeAlts alt (some error) with
  | error f => rfl
  | ok alt' => rfl

end Resync
