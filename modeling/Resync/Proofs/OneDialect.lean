import Resync.Grammar.Text
import Resync.Proofs.Faultless

/-!
# One dialect

A grammar that speaks one dialect throughout, and whose functions reject in this dialect, carries no
diagnostics of another one: wherever a diagnostic is made it is told the dialect, or takes over that
of another diagnostic.  The grammars for texts, for lexed tokens and for delimited groups speak the
dialect that they are given in all their parts.
-/

namespace Resync

/-- Whether a grammar itself speaks a dialect, and the functions it is built from reject in it. -/
def Grammar.Speaks (dialect : Dialect) : Grammar → Prop
  | .satisfy dialect' _ _ | .seq dialect' _ | .endOfInput dialect' => dialect' = dialect
  | .filterMap dialect' f =>
      dialect' = dialect ∧ ∀ span token verdict, f span token = .ok verdict →
        verdict.Speaks dialect
  | .scripted _ _ answer =>
      ∀ l ∈ answer.recovered ++ answer.furthest.toList, l.error.dialect = dialect
  | .tryMap f _ => ∀ output span verdict, f output span = .ok verdict → verdict.Speaks dialect
  | .mapError f _ => ∀ e, e.dialect = dialect → (f e).dialect = dialect
  | .empty | .map _ _ | .mapWithSpan _ _ | .labelled _ _ | .andThen _ _ | .orElse _ _ => True
  | .optional _ | .recoverWith _ _ | .repeated _ _ _ | .separatedBy _ _ _ _ _ => True
  | .generate _ | .ref _ => True

namespace Dialect

variable {dialect : Dialect} {span : Span} {found : Value} {e : Diagnostic}

theorem dialect_of_expecting
    {expected : List Value}
    (h : dialect.expecting span expected found = .ok e) :
    e.dialect = dialect := by
  cases dialect with
  | terse =>
      cases h
      rfl
  | detailed family =>
      obtain ⟨patterns, -, he⟩ := bind_eq_ok.1 h
      cases he
      rfl

theorem dialect_of_expectingLabel
    {label : String}
    (h : dialect.expectingLabel span label found = .ok e) :
    e.dialect = dialect := by
  obtain ⟨bare, hbare, he⟩ := bind_eq_ok.1 h
  cases he
  exact (bare.withLabel_dialect label).trans (dialect_of_expecting hbare)

theorem dialect_of_unclosed
    {opened : Span}
    {delimiter expected : Value}
    (h : dialect.unclosed opened delimiter span expected found = .ok e) :
    e.dialect = dialect := by
  cases dialect with
  | terse =>
      cases h
      rfl
  | detailed family =>
      obtain ⟨patterns, -, he⟩ := bind_eq_ok.1 h
      cases he
      rfl

end Dialect

/-- The contract to speak one dialect.  Runs may be halted for any cause. -/
def Contract.speaking (src : Source) (dialect : Dialect) : Contract where
  source := src
  Fine l := l.error.dialect = dialect
  Allows _ := True
  max ha hb := .of_exists (Located.exists_max ha fun c hc => by
    cases hc
    exact hb)
  spans _ _ := .of_allowed (fun _ => trivial) fun _ _ => trivial

section Speaking

variable {env : Environment} {dialect : Dialect} {src : Source}

/-- Where every cause is allowed, only what is answered matters. -/
theorem speaking_ensures
    {α : Type}
    {Q : α → Prop}
    {e : Except Fault α}
    (h : ∀ a, e = .ok a → Q a) :
    Ensures (Contract.speaking src dialect).Allows Q e :=
  .of_allowed (fun _ => trivial) h

theorem speaking_expects (expected : List Value) :
    (Contract.speaking src dialect).Expects dialect expected :=
  fun _ => speaking_ensures fun _ he => Dialect.dialect_of_expecting he

theorem speaking_passes
    {verdict : Verdict}
    (h : verdict.Speaks dialect)
    (i : Nat) :
    (Contract.speaking src dialect).Passes i verdict := by
  cases verdict with
  | accept output => exact trivial
  | reject error => exact h

theorem speaking_results
    {answer : Result}
    (h : ∀ l ∈ answer.recovered ++ answer.furthest.toList, l.error.dialect = dialect) :
    (Contract.speaking src dialect).Results answer where
  recovered l hl := h l (List.mem_append_left _ hl)
  furthest l hl := h l (List.mem_append_right _ (Option.mem_toList.2 hl))

/-- Moving an answer does not change what its diagnostics say. -/
theorem speaking_shift
    {answer : Result}
    (h : (Contract.speaking src dialect).Results answer)
    (offset : Nat) :
    (Contract.speaking src dialect).Results (answer.shift offset) := by
  obtain ⟨hrecovered, hfurthest⟩ := h
  cases answer with
  | success recovered output alt =>
      refine .success (List.forall_mem_map.2 hrecovered) fun l hl => ?_
      obtain ⟨m, hm, rfl⟩ := Option.map_eq_some_iff.1 hl
      exact hfurthest m hm
  | failure recovered error =>
      exact .failure (List.forall_mem_map.2 hrecovered) (hfurthest error rfl)

/-- A grammar that speaks the dialect keeps the contract by itself. -/
theorem speaking_admits (g : Grammar) (hspeaks : g.Speaks dialect) :
    (Contract.speaking src dialect).Admits env g := by
  cases g with
  | satisfy dialect' expected test =>
      cases hspeaks
      exact ⟨speaking_expects expected, fun i _ => speaking_ensures fun _ _ => trivial⟩
  | seq dialect' tokens =>
      cases hspeaks
      exact fun token _ => speaking_expects [token]
  | filterMap dialect' f =>
      obtain ⟨rfl, hf⟩ := hspeaks
      refine ⟨speaking_expects [], fun i _ => speaking_ensures fun verdict hverdict => ?_⟩
      exact speaking_passes (hf _ _ verdict hverdict) i
  | endOfInput dialect' =>
      cases hspeaks
      exact speaking_expects [.null]
  | scripted consume relative answer =>
      intro i
      cases relative with
      | true => exact speaking_shift (speaking_results hspeaks) i
      | false => exact speaking_results hspeaks
  | map f of => exact fun _ _ _ _ => speaking_ensures fun _ _ => trivial
  | mapWithSpan f of => exact fun _ _ _ _ _ _ => speaking_ensures fun _ _ => trivial
  | tryMap f of =>
      intro i output j span _ _
      exact speaking_ensures fun verdict hverdict =>
        speaking_passes (hspeaks output span verdict hverdict) i
  | mapError f of => exact fun l hl => hspeaks l.error hl
  | labelled label of => exact fun l hl => (l.error.withLabel_dialect label).trans hl
  | recoverWith of strategy =>
      cases strategy with
      | nestedDelimiters opening closing others default =>
          rintro l rfl
          exact fun opened i => speaking_ensures fun _ he => Dialect.dialect_of_unclosed he
      | _ => trivial
  | generate plan => exact fun _ _ => trivial
  | ref target => exact fun _ _ => trivial
  | _ => trivial

end Speaking

namespace Grammar

section Built

variable {env : Environment} {dialect : Dialect} {g h : Grammar}

open Environment

/-- A grammar with one part. -/
theorem speaks_of_part
    (hself : g.Speaks dialect)
    (hpart : ∀ part, env.Part part g → part = h)
    (hh : env.Within (Speaks dialect) h) :
    env.Within (Speaks dialect) g :=
  .of_parts hself fun part hp => hpart part hp ▸ hh

theorem speaks_filter (test : Value → Except Fault Bool) :
    env.Within (Speaks dialect) (filter dialect test) :=
  .of_parts rfl fun _ hpart => hpart.elim

theorem speaks_just (token : Value) : env.Within (Speaks dialect) (just dialect token) :=
  .of_parts rfl fun _ hpart => hpart.elim

theorem speaks_map
    (f : Value → Except Fault Value)
    (hg : env.Within (Speaks dialect) g) :
    env.Within (Speaks dialect) (map f g) :=
  speaks_of_part trivial (fun _ hpart => hpart) hg

theorem speaks_labelled (label : String) (hg : env.Within (Speaks dialect) g) :
    env.Within (Speaks dialect) (labelled label g) :=
  speaks_of_part trivial (fun _ hpart => hpart) hg

theorem speaks_optional (hg : env.Within (Speaks dialect) g) :
    env.Within (Speaks dialect) g.optional :=
  speaks_of_part trivial (fun _ hpart => hpart) hg

theorem speaks_repeated
    (minimum : Nat)
    (maximum : Option Nat)
    (hg : env.Within (Speaks dialect) g) :
    env.Within (Speaks dialect) (g.repeated minimum maximum) :=
  speaks_of_part trivial (fun _ hpart => hpart) hg

theorem speaks_recoverWith (s : Strategy) (hg : env.Within (Speaks dialect) g) :
    env.Within (Speaks dialect) (g.recoverWith s) :=
  speaks_of_part trivial (fun _ hpart => hpart) hg

theorem speaks_andThen
    (hg : env.Within (Speaks dialect) g)
    (hh : env.Within (Speaks dialect) h) :
    env.Within (Speaks dialect) (g.andThen h) := by
  refine .of_parts trivial fun part hpart => ?_
  rcases hpart with rfl | rfl
  · exact hg
  · exact hh

theorem speaks_orElse
    (hg : env.Within (Speaks dialect) g)
    (hh : env.Within (Speaks dialect) h) :
    env.Within (Speaks dialect) (g.orElse h) := by
  refine .of_parts trivial fun part hpart => ?_
  rcases hpart with rfl | rfl
  · exact hg
  · exact hh

theorem speaks_ignoreThen
    (hg : env.Within (Speaks dialect) g)
    (hh : env.Within (Speaks dialect) h) :
    env.Within (Speaks dialect) (g.ignoreThen h) :=
  speaks_map _ (speaks_andThen hg hh)

theorem speaks_thenIgnore
    (hg : env.Within (Speaks dialect) g)
    (hh : env.Within (Speaks dialect) h) :
    env.Within (Speaks dialect) (g.thenIgnore h) :=
  speaks_map _ (speaks_andThen hg hh)

theorem speaks_chain
    (hg : env.Within (Speaks dialect) g)
    (hh : env.Within (Speaks dialect) h) :
    env.Within (Speaks dialect) (g.chain h) :=
  speaks_map _ (speaks_andThen hg hh)

theorem speaks_whitespace : env.Within (Speaks dialect) (whitespace dialect) :=
  speaks_map _ (speaks_repeated _ _ (speaks_filter _))

theorem speaks_padded (hg : env.Within (Speaks dialect) g) :
    env.Within (Speaks dialect) (padded dialect g) :=
  speaks_thenIgnore (speaks_ignoreThen speaks_whitespace hg) speaks_whitespace

theorem speaks_digit (r : Radix) : env.Within (Speaks dialect) (digit dialect r) :=
  speaks_labelled _ (speaks_filter _)

theorem speaks_integer (r : Radix) : env.Within (Speaks dialect) (integer dialect r) := by
  have hdigits : env.Within (Speaks dialect) ((digit dialect r).repeated 0 none) :=
    speaks_repeated _ _ (speaks_digit r)
  exact speaks_labelled _ (speaks_orElse (speaks_map _ (speaks_chain (speaks_filter _) hdigits))
    (speaks_just _))

theorem speaks_identifier : env.Within (Speaks dialect) (identifier dialect) :=
  speaks_labelled _ (speaks_map _
    (speaks_chain (speaks_filter _) (speaks_repeated _ _ (speaks_filter _))))

theorem speaks_keyword (word : String) : env.Within (Speaks dialect) (keyword dialect word) := by
  refine speaks_of_part ?_ (fun _ hpart => hpart) speaks_identifier
  intro output span verdict hverdict
  simp only at hverdict
  split at hverdict
  · cases hverdict
    exact trivial
  · obtain ⟨error, herror, hreject⟩ := bind_eq_ok.1 hverdict
    cases hreject
    exact Dialect.dialect_of_expectingLabel herror

theorem speaks_delimitedBy
    {opening closing : Value}
    (hg : env.Within (Speaks dialect) g)
    (hh : g.delimitedBy dialect opening closing = .ok h) :
    env.Within (Speaks dialect) h := by
  obtain ⟨strategy, -, hbuilt⟩ := bind_eq_ok.1 hh
  cases hbuilt
  exact speaks_recoverWith _
    (speaks_thenIgnore (speaks_ignoreThen (speaks_just _) hg) (speaks_just _))

/-- The grammars for texts, and for tokens that a lexer gave a kind. -/
def lexical (dialect : Dialect) (r : Radix) (word kind : String) : List Grammar :=
  [whitespace dialect, newline dialect, digit dialect r, digits dialect r, integer dialect r,
    identifier dialect, keyword dialect word, token dialect kind]

theorem speaks_lexical (r : Radix) (word kind : String) :
    ∀ h ∈ lexical dialect r word kind, env.Within (Speaks dialect) h := by
  have hnewline : env.Within (Speaks dialect) (newline dialect) :=
    speaks_labelled _ (speaks_map _ (speaks_ignoreThen (speaks_optional (speaks_just _))
      (speaks_just _)))
  have hdigits : env.Within (Speaks dialect) (digits dialect r) :=
    speaks_map _ (speaks_repeated _ _ (speaks_digit r))
  have htoken : env.Within (Speaks dialect) (token dialect kind) :=
    speaks_labelled _ (speaks_filter _)
  simp only [lexical, List.forall_mem_cons]
  exact ⟨speaks_whitespace, hnewline, speaks_digit r, hdigits, speaks_integer r,
    speaks_identifier, speaks_keyword word, htoken, fun _ hh => nomatch hh⟩

end Built
end Grammar

namespace Environment

/-- **One dialect.**  If all that a grammar reaches speaks one dialect, and rejects in it, then a run
that returns carries diagnostics of this dialect only, be they recovered from, its alternative or
what stopped it.  The grammars for texts and for lexed tokens speak the dialect that they are given
in all their parts, and so do padded and delimited grammars if what they stand around does. -/
theorem parser_speaks
    (env : Environment)
    (dialect : Dialect)
    (g : Grammar)
    (src : Source)
    (cur : Cursor)
    {r : Result}
    {cur' : Cursor}
    (hspeaks : env.Within (Grammar.Speaks dialect) g)
    (hrun : env.parser g src cur = .done r cur') :
    (∀ l ∈ r.recovered ++ r.furthest.toList, l.error.dialect = dialect) ∧
      (∀ radix word kind, ∀ h ∈ Grammar.lexical dialect radix word kind,
        env.Within (Grammar.Speaks dialect) h) ∧
      env.Within (Grammar.Speaks dialect) (Grammar.padded dialect g) ∧
      ∀ opening closing h, g.delimitedBy dialect opening closing = .ok h →
        env.Within (Grammar.Speaks dialect) h := by
  refine ⟨?_, Grammar.speaks_lexical, Grammar.speaks_padded hspeaks,
    fun opening closing h => Grammar.speaks_delimitedBy hspeaks⟩
  have hadmits : env.OnlyMeets src ((Contract.speaking src dialect).Admits env) g :=
    fun h hmeets => speaking_admits h (hspeaks h hmeets.reaches)
  have hkeeps : (Contract.speaking src dialect).Keeps 0 (g.parser (env.resolve (env.depth src))) :=
    env.parser_keeps trivial hadmits 0
  have hends := hkeeps cur (Nat.zero_le _)
  change (Contract.speaking src dialect).Ends _ (env.parser g src cur) at hends
  rw [hrun] at hends
  intro l hl
  rcases List.mem_append.1 hl with hl | hl
  · exact hends.recovered l hl
  · exact hends.furthest l (Option.mem_toList.1 hl)

/-- A digit between brackets, and something else in its place: the group is skipped. -/
theorem parser_speaks_of_skipped_group :
    let digit : Grammar := .digit .terse .ten
    let src : Source := .ofText "(x)" .null
    ∃ group l cur', digit.delimitedBy .terse (.str "(") (.str ")") = .ok group ∧
      parser {} group src {} = .done (.success [l] .absent none) cur' ∧
      l.error.dialect = .terse := by
  intro digit src
  have hskipped : ∃ group l cur', digit.delimitedBy .terse (.str "(") (.str ")") = .ok group ∧
      parser {} group src {} = .done (.success [l] .absent none) cur' := ⟨_, _, _, rfl, rfl⟩
  obtain ⟨group, l, cur', hgroup, hrun⟩ := hskipped
  have hspeaks : Within {} (Grammar.Speaks .terse) group :=
    Grammar.speaks_delimitedBy (Grammar.speaks_digit .ten) hgroup
  exact ⟨group, l, cur', hgroup, hrun,
    (parser_speaks {} .terse group src {} hspeaks hrun).1 l List.mem_cons_self⟩

end Environment
end Resync
