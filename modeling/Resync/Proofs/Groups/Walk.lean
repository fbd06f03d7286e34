import Resync.Parser.Recovery
import Resync.Proofs.Groups
import Resync.Proofs.Simulation

/-!
# Walks over groups of delimiters

A walk keeps a stack of openings, tallies of the other pairs and what it has noted.  Inside the
group that is opened at its start, the stack is as high as openings outnumber closings, the opening
of the group lies at its bottom, and the tallies are the openings of the other pairs less their
closings.  One step keeps this, so a walk ends behind the balanced group, if there is one, and else
at the limit of the input.

A walk notes at most one diagnostic, and the place of it is said by counting as well: it is the
first one where some other pair is closed more often than it was opened, while the group itself is
the only one that is open, or the limit, if the group alone is open there and nothing was noted
before.
-/

namespace Resync
namespace Walk

section Definitions

variable (rules : Rules) (src : Source) (start : Nat)

/-- Whether a token is a delimiter of the group itself. -/
def Rules.delimits (token : Value) : Bool := token = rules.opening || token = rules.closing

/-- Whether a token opens another pair.  A delimiter of the group itself opens no other pair. -/
def Rules.opens (pair : Value × Value) (token : Value) : Bool :=
  !rules.delimits token && token = pair.1

/-- Whether a token closes another pair.  A delimiter of the group itself closes no other pair, and
a pair of equal delimiters is never closed. -/
def Rules.closes (pair : Value × Value) (token : Value) : Bool :=
  !rules.delimits token && token ≠ pair.1 && token = pair.2

/-- The openings of another pair from `start` on, before `i`, less its closings. -/
def Rules.surplus (i : Nat) (pair : Value × Value) : Int :=
  src.count (rules.opens pair) start i - src.count (rules.closes pair) start i

/-- Whether the token at `i` closes another pair, of which more was closed than opened since
`start`, while only the group that is opened at `start` is open. -/
structure Exceeds (i : Nat) : Prop extends src.Alone rules.opening rules.closing start i where
  lt_limit : i < src.limit start
  exceeds : ∃ pair ∈ rules.others, rules.closes pair (src.sighting i).token = true ∧
    src.count (rules.opens pair) start (i + 1) < src.count (rules.closes pair) start (i + 1)

/-- Whether the closing delimiter of the group that is opened at `start` is missed at `i`: where a
token exceeds for the first time, or at the limit of the input, if no token exceeds and only that
group is open. -/
def Misses (i : Nat) : Prop :=
  (Exceeds rules src start i ∧ ∀ j < i, ¬ Exceeds rules src start j) ∨
    (i = src.limit start ∧ src.Alone rules.opening rules.closing start i ∧
      ∀ j, ¬ Exceeds rules src start j)

/-- The diagnostic that the closing delimiter of the group that is opened at `start` is missed
at `i`. -/
def lack (i : Nat) : Except Fault Located := do
  let error ← rules.dialect.unclosed (src.sighting start).span rules.opening (src.sighting i).span
    rules.closing (src.sighting i).token
  return ⟨i, error⟩

/-- What a walk has noted before it comes to `i`. -/
def Noted (i : Nat) : Option Located → Prop
  | none => ∀ j < i, ¬ Exceeds rules src start j
  | some l => ∃ j < i, Exceeds rules src start j ∧ (∀ k < j, ¬ Exceeds rules src start k) ∧
      lack rules src start j = .ok l

/-- What a walk reports in the end. -/
def Reported : Option Located → Prop
  | none => ∀ i, ¬ Misses rules src start i
  | some l => ∃ i, Misses rules src start i ∧ lack rules src start i = .ok l

/-- What a walk that came to `i`, inside the group that is opened at `start`, carries with it. -/
structure Stands
    (i : Nat)
    (openings : List Span)
    (counts : List Int)
    (report : Option Located) :
    Prop where
  isOpen : src.Open rules.opening rules.closing start i
  depth : src.count (· = rules.opening) start i =
    src.count (· = rules.closing) start i + openings.length
  outermost : openings.getLast? = some (src.sighting start).span
  counts_eq : counts = rules.others.map (rules.surplus src start i)
  noted : Noted rules src start i report

/-- How a walk from `start` ends. -/
inductive Ends : Walk → Prop
  | absent :
      (src.sighting start).token = .null →
        Ends ⟨start, start, .ok (false, none)⟩
  | unopened :
      (src.sighting start).token ≠ .null → (src.sighting start).token ≠ rules.opening →
        Ends (stopAfter start false none)
  | closed {i : Nat} {report : Option Located} :
      src.Balanced rules.opening rules.closing start (i + 1) → Reported rules src start report →
        Ends (stopAfter i true report)
  | unclosed {report : Option Located} :
      src.Open rules.opening rules.closing start (src.limit start) →
        Reported rules src start report →
          Ends ⟨src.limit start, src.limit start, .ok (false, report)⟩
  | fault {i seen offset : Nat} {f : Fault} :
      Misses rules src start i → lack rules src start i = .error f →
        Ends ⟨seen, offset, .error f⟩

end Definitions

variable {rules : Rules} {src : Source} {start i : Nat}
variable {openings : List Span} {counts : List Int} {report : Option Located}

section Pairs

variable {pair : Value × Value} {token : Value}

theorem Rules.delimits_eq_false :
    rules.delimits token = false ↔ token ≠ rules.opening ∧ token ≠ rules.closing := by
  simp [delimits]

/-- A delimiter of the group itself changes no tally. -/
theorem Rules.surplus_succ_of_delimits
    (hstart : start ≤ i)
    (htoken : (src.sighting i).token ≠ .null)
    (hdelimits : rules.delimits (src.sighting i).token = true) :
    rules.surplus src start (i + 1) = rules.surplus src start i := by
  funext pair
  unfold surplus
  rw [Source.count_succ_of_fail hstart htoken (by simp [opens, hdelimits]),
    Source.count_succ_of_fail hstart htoken (by simp [closes, hdelimits])]

theorem Rules.opens_eq (hdelimits : rules.delimits token = false) :
    rules.opens pair token = decide (token = pair.1) := by
  simp [opens, hdelimits]

theorem Rules.closes_eq (hdelimits : rules.delimits token = false) :
    rules.closes pair token = decide (token ≠ pair.1 ∧ token = pair.2) := by
  simp [closes, hdelimits]

/-- Any other token changes the tallies of the pairs that it belongs to. -/
theorem Rules.surplus_succ
    (hstart : start ≤ i)
    (htoken : (src.sighting i).token ≠ .null)
    (hdelimits : rules.delimits (src.sighting i).token = false) :
    rules.surplus src start (i + 1) pair =
      if (src.sighting i).token = pair.1 then rules.surplus src start i pair + 1
      else if (src.sighting i).token = pair.2 then rules.surplus src start i pair - 1
      else rules.surplus src start i pair := by
  unfold surplus
  rw [Source.count_succ hstart htoken, Source.count_succ hstart htoken, opens_eq hdelimits,
    closes_eq hdelimits]
  by_cases hfirst : (src.sighting i).token = pair.1
  · rw [if_pos hfirst, if_pos (decide_eq_true hfirst), if_neg (by simp [hfirst])]
    omega
  · rw [if_neg hfirst, if_neg (by simpa using hfirst)]
    by_cases hsecond : (src.sighting i).token = pair.2
    · rw [if_pos hsecond, if_pos (decide_eq_true ⟨hfirst, hsecond⟩)]
      omega
    · rw [if_neg hsecond, if_neg (by simp [hsecond])]
      omega

/-- The tallies after a token are those before with its changes, and it exceeds if it closes a pair
of which no more is open. -/
theorem tally_map (others : List (Value × Value)) (f : Value × Value → Int) :
    tally token others (others.map f) =
      (others.map fun pair =>
          if token = pair.1 then f pair + 1 else if token = pair.2 then f pair - 1 else f pair,
        others.any fun pair => (token ≠ pair.1 ∧ token = pair.2) ∧ f pair - 1 < 0) := by
  induction others with
  | nil => rfl
  | cons pair others ih =>
      simp only [List.map_cons, tally, ih, List.any_cons]
      by_cases hfirst : token = pair.1
      · rw [if_pos hfirst, if_pos hfirst, decide_eq_false fun h => h.1.1 hfirst, Bool.false_or]
      · rw [if_neg hfirst, if_neg hfirst]
        by_cases hsecond : token = pair.2
        · have hcloses : token ≠ pair.1 ∧ token = pair.2 := ⟨hfirst, hsecond⟩
          rw [if_pos hsecond, if_pos hsecond, Bool.or_comm,
            decide_eq_decide.2 (and_iff_right hcloses)]
        · rw [if_neg hsecond, if_neg hsecond, decide_eq_false fun h => hsecond h.1.2, Bool.false_or]

end Pairs

section Notes

variable {j : Nat}

/-- A delimiter of the group itself exceeds nothing. -/
theorem not_exceeds_of_delimits (hdelimits : rules.delimits (src.sighting i).token = true) :
    ¬ Exceeds rules src start i := by
  intro h
  obtain ⟨pair, -, hcloses, -⟩ := h.exceeds
  simp [Rules.closes, hdelimits] at hcloses

/-- While only the group itself is open, the tallies show whether a token exceeds. -/
theorem exceeds_iff
    (halone : src.Alone rules.opening rules.closing start i)
    (htoken : (src.sighting i).token ≠ .null)
    (hdelimits : rules.delimits (src.sighting i).token = false) :
    Exceeds rules src start i ↔
      (rules.others.any fun pair =>
        ((src.sighting i).token ≠ pair.1 ∧ (src.sighting i).token = pair.2) ∧
          rules.surplus src start i pair - 1 < 0) = true := by
  have hstart : start ≤ i := Nat.le_of_lt halone.start_lt
  have hpair (pair : Value × Value) :
      (rules.closes pair (src.sighting i).token = true ∧
          src.count (rules.opens pair) start (i + 1) <
            src.count (rules.closes pair) start (i + 1)) ↔
        ((src.sighting i).token ≠ pair.1 ∧ (src.sighting i).token = pair.2) ∧
          rules.surplus src start i pair - 1 < 0 := by
    rw [Rules.closes_eq hdelimits, decide_eq_true_iff]
    refine and_congr_right fun ⟨hfirst, hsecond⟩ => ?_
    have hsurplus : rules.surplus src start (i + 1) pair = rules.surplus src start i pair - 1 := by
      rw [Rules.surplus_succ hstart htoken hdelimits, if_neg hfirst, if_pos hsecond]
    rw [← hsurplus]
    unfold Rules.surplus
    omega
  simp only [List.any_eq_true, decide_eq_true_iff, ← hpair]
  exact ⟨fun h => h.exceeds, fun h => ⟨halone, Source.lt_limit_of_token halone.le_limit htoken, h⟩⟩

/-- The closing delimiter is missed at one place at most. -/
theorem Misses.unique
    (h : Misses rules src start i)
    (h' : Misses rules src start j) :
    i = j := by
  rcases h with ⟨hi, hbefore⟩ | ⟨rfl, -, hnone⟩
  · rcases h' with ⟨hj, hbefore'⟩ | ⟨-, -, hnone'⟩
    · exact Nat.le_antisymm (Nat.le_of_not_lt fun hlt => hbefore _ hlt hj)
        (Nat.le_of_not_lt fun hlt => hbefore' _ hlt hi)
    · exact absurd hi (hnone' i)
  · rcases h' with ⟨hj, -⟩ | ⟨rfl, -, -⟩
    · exact absurd hj (hnone j)
    · rfl

/-- Where the closing delimiter is missed, only the group itself is open. -/
theorem Misses.alone (h : Misses rules src start i) :
    src.Alone rules.opening rules.closing start i := by
  rcases h with ⟨hi, -⟩ | ⟨-, halone, -⟩
  · exact hi.toAlone
  · exact halone

theorem Noted.succ
    (h : Noted rules src start i report)
    (hnot : report = none → ¬ Exceeds rules src start i) :
    Noted rules src start (i + 1) report := by
  cases report with
  | none =>
      intro j hj
      rcases Nat.lt_or_eq_of_le (Nat.le_of_lt_succ hj) with hlt | rfl
      · exact h j hlt
      · exact hnot rfl
  | some l =>
      obtain ⟨j, hj, hfirst⟩ := h
      exact ⟨j, Nat.lt_succ_of_lt hj, hfirst⟩

/-- What was noted is reported; if that is nothing, nothing may be missed later. -/
theorem Noted.reported
    (h : Noted rules src start i report)
    (hi : i ≤ src.limit start)
    (hlater : report = none → ∀ j, i ≤ j → ¬ Misses rules src start j) :
    Reported rules src start report := by
  cases report with
  | none =>
      intro j hj
      rcases Nat.lt_or_ge j i with hlt | hle
      · rcases hj with ⟨hexceeds, -⟩ | ⟨rfl, -, -⟩
        · exact h j hlt hexceeds
        · exact Nat.not_lt.2 hi hlt
      · exact hlater rfl j hle hj
  | some l =>
      obtain ⟨j, -, hexceeds, hbefore, hlack⟩ := h
      exact ⟨j, Or.inl ⟨hexceeds, hbefore⟩, hlack⟩

/-- Inside the only open group what is missing is noted, unless something was noted before. -/
theorem missing_singleton :
    missing rules [(src.sighting start).span] none (src.sighting i) =
      some <$> lack rules src start i := by
  simp only [missing, lack, Source.sighting_position]
  cases rules.dialect.unclosed (src.sighting start).span rules.opening (src.sighting i).span
    rules.closing (src.sighting i).token <;> rfl

end Notes

namespace Stands

variable {openings' : List Span} {counts' : List Int} {report' : Option Located}
variable {inner outer : Span}

theorem start_le (h : Stands rules src start i openings counts report) : start ≤ i :=
  Nat.le_of_lt h.isOpen.start_lt

/-- Some opening always lies on the stack. -/
theorem openings_ne_nil (h : Stands rules src start i openings counts report) : openings ≠ [] := by
  rintro rfl
  cases h.outermost

/-- The last opening on the stack is that of the group itself. -/
theorem eq_start (h : Stands rules src start i [outer] counts report) :
    outer = (src.sighting start).span :=
  Option.some.inj h.outermost

/-- With one opening on the stack the group itself is the only one that is open. -/
theorem alone (h : Stands rules src start i [outer] counts report) :
    src.Alone rules.opening rules.closing start i :=
  ⟨h.isOpen, h.depth⟩

/-- With more of them it is not. -/
theorem not_alone (h : Stands rules src start i (inner :: outer :: openings) counts report) :
    ¬ src.Alone rules.opening rules.closing start i := by
  intro halone
  have hdepth := h.depth
  rw [halone.count_eq, List.length_cons, List.length_cons] at hdepth
  omega

/-- A walk that starts at an opening stands behind it, with nothing but that on the stack. -/
theorem begin
    (hdiffer : rules.opening ≠ rules.closing)
    (htoken : (src.sighting start).token ≠ .null)
    (hopening : (src.sighting start).token = rules.opening) :
    Stands rules src start (start + 1) [(src.sighting start).span] (rules.others.map fun _ => 0)
      none := by
  have halone := Source.Alone.begin hdiffer htoken hopening
  have hdelimits : rules.delimits (src.sighting start).token = true := by
    simp [Rules.delimits, hopening]
  constructor
  case isOpen => exact halone.toOpen
  case depth => exact halone.count_eq
  case outermost => rfl
  case counts_eq =>
    rw [Rules.surplus_succ_of_delimits (Nat.le_refl _) htoken hdelimits]
    exact List.map_congr_left fun pair _ => by simp [Rules.surplus]
  case noted =>
    intro j hj hexceeds
    have hlt := hexceeds.start_lt
    omega

/-- A delimiter of the group itself changes the stack only. -/
theorem delimit
    (h : Stands rules src start i openings counts report)
    (htoken : (src.sighting i).token ≠ .null)
    (hdelimits : rules.delimits (src.sighting i).token = true)
    (hdepth : src.count (· = rules.opening) start (i + 1) =
      src.count (· = rules.closing) start (i + 1) + openings'.length)
    (houtermost : openings'.getLast? = some (src.sighting start).span) :
    Stands rules src start (i + 1) openings' counts report := by
  have hlength : 0 < openings'.length := by
    refine List.length_pos_of_ne_nil ?_
    rintro rfl
    cases houtermost
  constructor
  case isOpen => exact h.isOpen.succ htoken (by omega)
  case depth => exact hdepth
  case outermost => exact houtermost
  case counts_eq =>
    rw [Rules.surplus_succ_of_delimits h.start_le htoken hdelimits]
    exact h.counts_eq
  case noted => exact h.noted.succ fun _ => not_exceeds_of_delimits hdelimits

/-- An opening is put on the stack. -/
theorem push
    (h : Stands rules src start i openings counts report)
    (hdiffer : rules.opening ≠ rules.closing)
    (htoken : (src.sighting i).token ≠ .null)
    (hopening : (src.sighting i).token = rules.opening) :
    Stands rules src start (i + 1) ((src.sighting i).span :: openings) counts report := by
  obtain ⟨hopened, hclosed⟩ :=
    Source.counts_succ_of_opening hdiffer h.start_le htoken hopening
  refine h.delimit htoken (by simp [Rules.delimits, hopening]) ?_ ?_
  · rw [hopened, hclosed, h.depth, List.length_cons, Nat.add_assoc]
  · rw [List.getLast?_cons_of_ne_nil h.openings_ne_nil]
    exact h.outermost

/-- A closing delimiter takes the innermost opening from the stack. -/
theorem pop
    (h : Stands rules src start i (inner :: outer :: openings) counts report)
    (hdiffer : rules.opening ≠ rules.closing)
    (htoken : (src.sighting i).token ≠ .null)
    (hclosing : (src.sighting i).token = rules.closing) :
    Stands rules src start (i + 1) (outer :: openings) counts report := by
  obtain ⟨hopened, hclosed⟩ :=
    Source.counts_succ_of_closing hdiffer h.start_le htoken hclosing
  refine h.delimit htoken (by simp [Rules.delimits, hclosing]) ?_ ?_
  · rw [hopened, hclosed, h.depth, List.length_cons, Nat.add_right_comm, Nat.add_assoc]
  · rw [← h.outermost, List.getLast?_cons_of_ne_nil (List.cons_ne_nil _ _)]

/-- Any other token changes the tallies only, and perhaps what is noted. -/
theorem pass
    (h : Stands rules src start i openings counts report)
    (htoken : (src.sighting i).token ≠ .null)
    (hdelimits : rules.delimits (src.sighting i).token = false)
    (hnoted : Noted rules src start (i + 1) report') :
    Stands rules src start (i + 1) openings
      (tally (src.sighting i).token rules.others counts).1 report' := by
  obtain ⟨hfirst, hsecond⟩ := Rules.delimits_eq_false.1 hdelimits
  have hopened : src.count (· = rules.opening) start (i + 1) =
      src.count (· = rules.opening) start i :=
    Source.count_succ_of_fail h.start_le htoken (by simpa using hfirst)
  have hclosed : src.count (· = rules.closing) start (i + 1) =
      src.count (· = rules.closing) start i :=
    Source.count_succ_of_fail h.start_le htoken (by simpa using hsecond)
  constructor
  case isOpen =>
    refine h.isOpen.succ htoken ?_
    rw [hopened, hclosed]
    exact h.isOpen.count_lt i h.isOpen.start_lt (Nat.le_refl _)
  case depth =>
    rw [hopened, hclosed]
    exact h.depth
  case outermost => exact h.outermost
  case counts_eq =>
    rw [h.counts_eq, tally_map]
    exact List.map_congr_left fun pair _ =>
      (Rules.surplus_succ h.start_le htoken hdelimits).symm
  case noted => exact hnoted

/-- The stack and the tallies show whether a token exceeds. -/
theorem exceeds_iff
    (h : Stands rules src start i [outer] counts report)
    (htoken : (src.sighting i).token ≠ .null)
    (hdelimits : rules.delimits (src.sighting i).token = false) :
    Exceeds rules src start i ↔ (tally (src.sighting i).token rules.others counts).2 = true := by
  rw [Walk.exceeds_iff h.alone htoken hdelimits, h.counts_eq, tally_map]

/-- What is noted at a token that is no delimiter of the group itself: a diagnostic that cannot be
stated is missed there, and any other is noted. -/
theorem note
    (h : Stands rules src start i openings counts report)
    (htoken : (src.sighting i).token ≠ .null)
    (hdelimits : rules.delimits (src.sighting i).token = false) :
    match (if (tally (src.sighting i).token rules.others counts).2 then
        missing rules openings report (src.sighting i) else .ok report) with
    | .ok report' => Noted rules src start (i + 1) report'
    | .error f => Misses rules src start i ∧ lack rules src start i = .error f := by
  match openings, h with
  | [], h => exact absurd rfl h.openings_ne_nil
  | inner :: outer :: others, h =>
      have hmissing : missing rules (inner :: outer :: others) report (src.sighting i) =
          .ok report := rfl
      rw [hmissing, ite_self]
      exact h.noted.succ fun _ hexceeds => h.not_alone hexceeds.toAlone
  | [outer], h =>
      obtain rfl := h.eq_start
      by_cases hexceeds : (tally (src.sighting i).token rules.others counts).2 = true
      · rw [if_pos hexceeds]
        have hfound := (h.exceeds_iff htoken hdelimits).2 hexceeds
        cases report with
        | some l => exact h.noted.succ nofun
        | none =>
            rw [missing_singleton]
            cases hlack : lack rules src start i with
            | error f => exact ⟨Or.inl ⟨hfound, h.noted⟩, rfl⟩
            | ok l => exact ⟨i, Nat.lt_succ_self i, hfound, h.noted, hlack⟩
      · rw [if_neg hexceeds]
        exact h.noted.succ fun _ hfound => hexceeds ((h.exceeds_iff htoken hdelimits).1 hfound)

/-- Behind a token that is no delimiter of the group itself, the walk goes on unless what is missed
there cannot be stated. -/
theorem other
    (h : Stands rules src start i openings counts report)
    (htoken : (src.sighting i).token ≠ .null)
    (hdelimits : rules.delimits (src.sighting i).token = false) :
    match (if (tally (src.sighting i).token rules.others counts).2 then
        missing rules openings report (src.sighting i) else .ok report) with
    | .ok report' => Stands rules src start (i + 1) openings
        (tally (src.sighting i).token rules.others counts).1 report'
    | .error f => Misses rules src start i ∧ lack rules src start i = .error f := by
  have hnote := h.note htoken hdelimits
  split at hnote
  · exact h.pass htoken hdelimits hnote
  · exact hnote

/-- The last closing delimiter ends the walk behind a balanced group. -/
theorem close
    (h : Stands rules src start i [outer] counts report)
    (hdiffer : rules.opening ≠ rules.closing)
    (htoken : (src.sighting i).token ≠ .null)
    (hclosing : (src.sighting i).token = rules.closing) :
    Ends rules src start (stopAfter i true report) := by
  have hgroup : src.Balanced rules.opening rules.closing start (i + 1) :=
    .of_alone h.alone hdiffer htoken hclosing
  have hdelimits : rules.delimits (src.sighting i).token = true := by
    simp [Rules.delimits, hclosing]
  refine .closed hgroup (h.noted.reported h.isOpen.le_limit fun _ j hj hmisses => ?_)
  -- Behind the group it is no longer open, and its last token is one of its own delimiters.
  have hlt := hgroup.lt_of_open hmisses.alone.toOpen
  obtain rfl : j = i := by omega
  rcases hmisses with ⟨hexceeds, -⟩ | ⟨hlimit, -, -⟩
  · exact not_exceeds_of_delimits hdelimits hexceeds
  · exact Nat.ne_of_lt (Source.lt_limit_of_token h.isOpen.le_limit htoken) hlimit

/-- At the limit the walk ends with what it has noted, or with what is missed there. -/
theorem atLimit
    (h : Stands rules src start i openings counts report)
    (hnull : (src.sighting i).token = .null) :
    Ends rules src start (atEnd rules openings report (src.sighting i)) := by
  obtain rfl := Source.eq_limit_of_null h.start_le h.isOpen.le_limit hnull
  unfold atEnd
  match openings, h with
  | [], h => exact absurd rfl h.openings_ne_nil
  | inner :: outer :: others, h =>
      have hreported := h.noted.reported (Nat.le_refl _) fun _ j hj hmisses => by
        obtain rfl := Nat.le_antisymm hmisses.alone.le_limit hj
        exact h.not_alone hmisses.alone
      rw [Source.sighting_position]
      exact .unclosed h.isOpen hreported
  | [outer], h =>
      obtain rfl := h.eq_start
      rw [Source.sighting_position]
      cases report with
      | some l => exact .unclosed h.isOpen (h.noted.reported (Nat.le_refl _) nofun)
      | none =>
          have hmisses : Misses rules src start (src.limit start) :=
            Or.inr ⟨rfl, h.alone, fun j hexceeds => h.noted j hexceeds.lt_limit hexceeds⟩
          rw [missing_singleton]
          cases hlack : lack rules src start (src.limit start) with
          | error f => exact .fault hmisses hlack
          | ok l => exact .unclosed h.isOpen ⟨_, hmisses, hlack⟩

end Stands

section Runs

variable {rest : List (Value × Span)}

/-- A walk inside a group ends as it should, from wherever it stands. -/
theorem Stands.ends
    (h : Stands rules src start i openings counts report)
    (hdiffer : rules.opening ≠ rules.closing)
    (hrest : src.rest i = rest) :
    Ends rules src start (run rules src.eoi rest i openings counts report) := by
  -- The walk is over at the end of the source, at a null token, behind the group, and where a
  -- diagnostic cannot be stated; after any other token it stands one place further on.
  induction rest generalizing i openings counts report with
  | nil =>
      have hsighting := Source.sighting_of_rest_nil hrest
      have hends := h.atLimit (by rw [hsighting])
      rw [hsighting] at hends
      exact hends
  | cons entry rest ih =>
      obtain ⟨token, span⟩ := entry
      obtain ⟨hsighting, hnext⟩ := Source.sighting_of_rest_cons hrest
      have htokenEq : (src.sighting i).token = token := by rw [hsighting]
      have hspanEq : (src.sighting i).span = span := by rw [hsighting]
      unfold run
      by_cases hnull : token = .null
      · have hends := h.atLimit (htokenEq.trans hnull)
        rw [hsighting, hnull] at hends
        rw [if_pos hnull]
        exact hends
      · have htoken : (src.sighting i).token ≠ .null := by rwa [htokenEq]
        rw [if_neg hnull]
        by_cases hopening : token = rules.opening
        · rw [if_pos hopening, ← hspanEq]
          exact ih (h.push hdiffer htoken (htokenEq.trans hopening)) hnext
        · rw [if_neg hopening]
          by_cases hclosing : token = rules.closing
          · rw [if_pos hclosing]
            cases openings with
            | nil => exact absurd rfl h.openings_ne_nil
            | cons inner outer =>
                cases outer with
                | nil => exact h.close hdiffer htoken (htokenEq.trans hclosing)
                | cons => exact ih (h.pop hdiffer htoken (htokenEq.trans hclosing)) hnext
          · rw [if_neg hclosing]
            have hdelimits : rules.delimits (src.sighting i).token = false := by
              rw [htokenEq]
              exact Rules.delimits_eq_false.2 ⟨hopening, hclosing⟩
            have hother := h.other htoken hdelimits
            rw [htokenEq, hsighting] at hother
            generalize tally token rules.others counts = tallied at hother ⊢
            obtain ⟨counts', exceeds⟩ := tallied
            simp only at hother ⊢
            generalize (if exceeds = true then missing rules openings report ⟨i, span, token⟩
              else .ok report) = found at hother ⊢
            cases found with
            | error f => exact .fault hother.1 hother.2
            | ok report' =>
                have hnonempty : ¬ openings.isEmpty = true := by
                  simpa using h.openings_ne_nil
                simp only [if_neg hnonempty]
                exact ih hother hnext

variable (rules src start) in
/-- A walk ends at once, unless it starts at an opening, and then as a walk inside the group. -/
theorem run_ends (hdiffer : rules.opening ≠ rules.closing) :
    Ends rules src start
      (run rules src.eoi (src.rest start) start [] (rules.others.map fun _ => 0) none) := by
  cases hrest : src.rest start with
  | nil =>
      have hnull : (src.sighting start).token = .null := by
        rw [Source.sighting_of_rest_nil hrest]
      exact .absent hnull
  | cons entry rest =>
      obtain ⟨token, span⟩ := entry
      obtain ⟨hsighting, hnext⟩ := Source.sighting_of_rest_cons hrest
      have htokenEq : (src.sighting start).token = token := by rw [hsighting]
      unfold run
      by_cases hnull : token = .null
      · rw [if_pos hnull]
        exact .absent (htokenEq.trans hnull)
      · rw [if_neg hnull]
        have htoken : (src.sighting start).token ≠ .null := by rwa [htokenEq]
        by_cases hopening : token = rules.opening
        · have hspanEq : (src.sighting start).span = span := by rw [hsighting]
          rw [if_pos hopening, ← hspanEq]
          exact (Stands.begin hdiffer htoken (htokenEq.trans hopening)).ends hdiffer hnext
        · rw [if_neg hopening]
          have hunopened : (src.sighting start).token ≠ rules.opening := by rwa [htokenEq]
          by_cases hclosing : token = rules.closing
          · rw [if_pos hclosing]
            exact .unopened htoken hunopened
          · rw [if_neg hclosing]
            simp only [missing, ite_self]
            exact .unopened htoken hunopened

end Runs
end Walk
end Resync
