import Resync.Grammar.Combinator
import Resync.Proofs.Checked
import Resync.Proofs.Contract.Grammar
import Resync.Proofs.Ordered

/-!
# Runs without faults

Faults speak of the grammar, and of the functions it is built from.  If a grammar speaks one dialect
throughout, applies its functions only to what they have a meaning for, refers only to what is
defined, and names as expected only what can be a member of a set, then its runs have no faults of
their own: whatever could go wrong on the way does not.
-/

namespace Resync

/-- Verdicts that reject in the given dialect, if they do. -/
def Verdict.Speaks (dialect : Dialect) : Verdict → Prop
  | .accept _ => True
  | .reject error => error.dialect = dialect

/-- The functions by which sequences take their outputs out of a pair. -/
def Action.TakesPair (f : Value → Except Fault Value) : Prop :=
  f = itemAt 0 ∨ f = itemAt 1 ∨ f = chained

/-- Whether a grammar itself is a sequence of two. -/
def Grammar.IsPair : Grammar → Prop
  | .andThen _ _ => True
  | _ => False

/-- Whether the patterns that a grammar itself names as expected can be members of a set. -/
def Grammar.NamesKeys : Grammar → Prop
  | .satisfy _ expected _ => ∀ v ∈ expected, v.isKey = true
  | .seq _ tokens => ∀ v ∈ tokens, v.isKey = true
  | .recoverWith _ (.nestedDelimiters _ closing _ _) => closing.isKey = true
  | _ => True

/-- Whether a grammar itself speaks one dialect, applies its functions only to what they have a
meaning for, over the given source, and refers only to what is defined.  The functions that take
outputs out of a pair are not asked for anything. -/
def Environment.Meaningful (env : Environment) (dialect : Dialect) (src : Source) : Grammar → Prop
  | .satisfy dialect' _ test =>
      dialect' = dialect ∧ ∀ i, (src.sighting i).token ≠ .null →
        ∃ passed, test (src.sighting i).token = .ok passed
  | .seq dialect' _ | .endOfInput dialect' => dialect' = dialect
  | .filterMap dialect' f =>
      dialect' = dialect ∧ ∀ i, (src.sighting i).token ≠ .null →
        ∃ verdict, f (src.sighting i).span (src.sighting i).token = .ok verdict ∧
          verdict.Speaks dialect
  | .scripted _ _ _ => False
  | .map f of =>
      (of.IsPair ∧ Action.TakesPair f) ∨ ∀ i output j, env.Gives src of i output j →
        ∃ output', f output = .ok output'
  | .mapWithSpan f of => ∀ i output j span, env.Gives src of i output j →
      src.spanBetween i j = .ok span → ∃ output', f output span = .ok output'
  | .tryMap f of => ∀ i output j span, env.Gives src of i output j →
      src.spanBetween i j = .ok span →
        ∃ verdict, f output span = .ok verdict ∧ verdict.Speaks dialect
  | .mapError f _ => ∀ e, e.dialect = dialect → (f e).dialect = dialect
  | .generate plan => ∀ f, ¬ env.Remains src plan (.abandon f)
  | .ref target => ∃ definition, env.lookup target = .ok definition
  | .empty | .labelled _ _ | .andThen _ _ | .orElse _ _ | .optional _ => True
  | .recoverWith _ _ | .repeated _ _ _ | .separatedBy _ _ _ _ _ => True

/-- Whatever a sequence of two gives is a pair. -/
theorem Environment.Gives.pair
    {env : Environment}
    {src : Source}
    {of : Grammar}
    {i j : Nat}
    {output : Value}
    (hof : of.IsPair)
    (hgives : env.Gives src of i output j) :
    ∃ first second, output = .tuple [first, second] := by
  cases of with
  | andThen first second =>
      obtain ⟨cur, recovered, alt, cur', hrun, -, -⟩ := hgives
      rw [parser, Grammar.parser] at hrun
      obtain ⟨_, first, _, _, _, second, _, -, -, -, -, houtput⟩ := Parser.andThen_success hrun
      exact ⟨first, second, houtput⟩
  | _ => exact hof.elim

/-- Both items can be taken out of a pair. -/
theorem Action.TakesPair.exists_ok
    {f : Value → Except Fault Value}
    (hf : TakesPair f)
    (first second : Value) :
    ∃ output, f (.tuple [first, second]) = .ok output := by
  rcases hf with rfl | rfl | rfl
  · exact ⟨first, rfl⟩
  · exact ⟨second, rfl⟩
  · exact ⟨_, rfl⟩

namespace Dialect

variable {dialect : Dialect} {span : Span} {found : Value}

theorem ofKeys_eq_ok {items : List Value} (hkeys : ∀ v ∈ items, v.isKey = true) :
    PatternSet.ofKeys items = .ok (PatternSet.ofList items) := by
  unfold PatternSet.ofKeys
  rw [if_pos (List.all_eq_true.2 hkeys)]

/-- That something was expected can be said in every dialect, if what was can be a member of a
set. -/
theorem exists_expecting
    {expected : List Value}
    (hkeys : dialect = .terse ∨ ∀ v ∈ expected, v.isKey = true) :
    ∃ e, dialect.expecting span expected found = .ok e ∧ e.dialect = dialect := by
  cases dialect with
  | terse => exact ⟨_, rfl, rfl⟩
  | detailed family =>
      have hitems := hkeys.resolve_left nofun
      unfold expecting
      simp only [ofKeys_eq_ok hitems]
      exact ⟨_, rfl, rfl⟩

theorem exists_unclosed
    {opened : Span}
    {delimiter expected : Value}
    (hkey : dialect = .terse ∨ expected.isKey = true) :
    ∃ e, dialect.unclosed opened delimiter span expected found = .ok e ∧ e.dialect = dialect := by
  cases dialect with
  | terse => exact ⟨_, rfl, rfl⟩
  | detailed family =>
      have hitems : ∀ v ∈ [expected], v.isKey = true :=
        List.forall_mem_singleton.2 (hkey.resolve_left nofun)
      unfold unclosed
      simp only [ofKeys_eq_ok hitems]
      exact ⟨_, rfl, rfl⟩

end Dialect

/-- A label does not change the dialect. -/
theorem Diagnostic.withLabel_dialect (e : Diagnostic) (label : String) :
    (e.withLabel label).dialect = e.dialect := by
  cases e with
  | detailed family d => rfl
  | terse text => rfl

/-- The contract to speak one dialect and to have no faults, over an ordered source. -/
def Contract.faultless (src : Source) (dialect : Dialect) (hordered : src.Ordered) : Contract where
  source := src
  Fine l := l.error.dialect = dialect
  Allows cause := ∀ f, cause ≠ .fault f
  max ha hb := .of_exists (Located.exists_max ha fun c hc => by
    cases hc
    exact hb)
  spans _ hstop :=
    .of_exists ((hordered.exists_spanBetween _ hstop).imp fun _ hspan => ⟨hspan, trivial⟩)

section Faultless

variable {env : Environment} {dialect : Dialect} {src : Source} {hordered : src.Ordered}

theorem faultless_passes
    {verdict : Verdict}
    (h : verdict.Speaks dialect)
    (i : Nat) :
    (Contract.faultless src dialect hordered).Passes i verdict := by
  cases verdict with
  | accept output => exact trivial
  | reject error => exact h

theorem faultless_expects
    {expected : List Value}
    (hkeys : dialect = .terse ∨ ∀ v ∈ expected, v.isKey = true) :
    (Contract.faultless src dialect hordered).Expects dialect expected :=
  fun _ => .of_exists (Dialect.exists_expecting hkeys)

/-- A meaningful grammar that names keys only keeps the contract by itself. -/
theorem faultless_admits
    (g : Grammar)
    (hmeaningful : env.Meaningful dialect src g)
    (hkeys : dialect = .terse ∨ g.NamesKeys) :
    (Contract.faultless src dialect hordered).Admits env g := by
  cases g with
  | satisfy dialect' expected test =>
      obtain ⟨rfl, htest⟩ := hmeaningful
      refine ⟨faultless_expects hkeys, fun i htoken => .of_exists ?_⟩
      exact (htest i htoken).imp fun _ hpassed => ⟨hpassed, trivial⟩
  | seq dialect' tokens =>
      cases hmeaningful
      exact fun token htoken => faultless_expects
        (hkeys.imp_right fun h => List.forall_mem_singleton.2 (h token htoken))
  | filterMap dialect' f =>
      obtain ⟨rfl, hf⟩ := hmeaningful
      refine ⟨faultless_expects (Or.inr fun _ hv => nomatch hv), fun i htoken => .of_exists ?_⟩
      exact (hf i htoken).imp fun _ hverdict => ⟨hverdict.1, faultless_passes hverdict.2 i⟩
  | endOfInput dialect' =>
      cases hmeaningful
      exact faultless_expects (Or.inr (List.forall_mem_singleton.2 rfl))
  | scripted consume relative answer => exact hmeaningful.elim
  | map f of =>
      intro i output j hgives
      refine .of_exists ?_
      rcases hmeaningful with ⟨hpair, hf⟩ | hf
      · obtain ⟨first, second, rfl⟩ := hgives.pair hpair
        exact (hf.exists_ok first second).imp fun _ houtput => ⟨houtput, trivial⟩
      · exact (hf i output j hgives).imp fun _ houtput => ⟨houtput, trivial⟩
  | mapWithSpan f of =>
      intro i output j span hgives hspan
      exact .of_exists ((hmeaningful i output j span hgives hspan).imp fun _ h => ⟨h, trivial⟩)
  | tryMap f of =>
      intro i output j span hgives hspan
      exact .of_exists ((hmeaningful i output j span hgives hspan).imp fun _ h =>
        ⟨h.1, faultless_passes h.2 i⟩)
  | mapError f of => exact fun l hl => hmeaningful l.error hl
  | labelled label of => exact fun l hl => (l.error.withLabel_dialect label).trans hl
  | recoverWith of strategy =>
      cases strategy with
      | nestedDelimiters opening closing others default =>
          rintro l rfl
          exact fun opened i => .of_exists (Dialect.exists_unclosed hkeys)
      | _ => trivial
  | generate plan => exact fun f hremains => absurd hremains (hmeaningful f)
  | ref target =>
      intro f hlookup
      obtain ⟨definition, hdefinition⟩ := hmeaningful
      rw [hlookup] at hdefinition
      cases hdefinition
  | _ => trivial

/-- References have no faults, however deep they are followed: the bound on their depth is none. -/
theorem resolve_faultless
    {ok : Grammar → Prop}
    (hok : ∀ h, ok h → (Contract.faultless src dialect hordered).Admits env h)
    (bound i : Nat)
    (target : Ref)
    (hmeets : env.OnlyMeets src ok (.ref target)) :
    (Contract.faultless src dialect hordered).Keeps i (env.resolve bound target) :=
  env.resolve_keeps (fun _ hcause => nomatch hcause) hok bound i target hmeets

end Faultless

/-- Parsers whose runs over a source have no faults and speak one dialect, whether recoveries are
taken or stand in the way. -/
structure Parser.Faultless (src : Source) (dialect : Dialect) (p : Parser) : Prop where
  run (cur : Cursor) (f : Fault) (cur' : Cursor) : p src cur ≠ .halted (.fault f) cur'
  recovering (cur : Cursor) (f : Fault) (cur' : Cursor) :
    p.recovering src cur ≠ .halted (.fault f) cur'
  strict (cur : Cursor) (f : Fault) (cur' : Cursor) : p.strict src cur ≠ .halted (.fault f) cur'
  /-- An output without diagnostics is that of a clean success. -/
  strict_ok (cur : Cursor) (output : Value) (cur' : Cursor) :
    p.strict src cur = .done (.ok output) cur' →
      ∃ alt stop, p src cur = .done (.success [] output alt) stop
  /-- Where there is no output there are diagnostics. -/
  strict_error (cur : Cursor) (diagnostics : List Diagnostic) (cur' : Cursor) :
    p.strict src cur = .done (.error diagnostics) cur' → diagnostics ≠ []
  speaks (cur : Cursor) (r : Result) (cur' : Cursor) :
    p src cur = .done r cur' → ∀ l ∈ r.recovered ++ r.furthest.toList, l.error.dialect = dialect

/-- A result without diagnostics is a clean success. -/
theorem Result.eq_success_of_diagnostics
    {r : Result}
    (h : r.diagnostics.isEmpty = true) :
    ∃ alt, r = .success [] r.output alt := by
  cases r with
  | success recovered output alt =>
      cases recovered with
      | nil => exact ⟨alt, rfl⟩
      | cons l ls => cases h
  | failure recovered error => cases recovered <;> cases h

namespace Parser

variable {p : Parser} {src : Source} {cur cur' : Cursor}

/-- Asking for diagnostics as well halts no run. -/
theorem recovering_eq_halted {cause : Halt} :
    p.recovering src cur = .halted cause cur' ↔ p src cur = .halted cause cur' := by
  unfold recovering
  rw [Scan.bind_apply]
  cases p src cur <;> simp

/-- Refusing diagnostics halts no run either. -/
theorem strict_eq_halted {cause : Halt} :
    p.strict src cur = .halted cause cur' ↔ p src cur = .halted cause cur' := by
  rw [← recovering_eq_halted]
  unfold strict
  rw [Scan.bind_apply]
  cases p.recovering src cur with
  | halted cause mid => simp
  | done answer mid =>
      obtain ⟨output, diagnostics⟩ := answer
      simp only
      split
      · exact iff_of_false nofun nofun
      · exact iff_of_false nofun nofun

/-- A run that returns is refused for its diagnostics, if there are any. -/
theorem strict_done
    {answer : Except (List Diagnostic) Value}
    (h : p.strict src cur = .done answer cur') :
    ∃ r mid, p src cur = .done r mid ∧
      ((r.diagnostics.isEmpty = true ∧ answer = .ok r.output) ∨
        (r.diagnostics.isEmpty = false ∧ answer = .error r.diagnostics)) := by
  obtain ⟨both, mid, hrecovering, hrest⟩ := Scan.bind_eq_done.1 h
  obtain ⟨r, last, hrun, hreturn⟩ := Scan.bind_eq_done.1 hrecovering
  cases hreturn
  refine ⟨r, _, hrun, ?_⟩
  by_cases hempty : r.diagnostics.isEmpty = true
  · simp only [if_pos hempty] at hrest
    cases hrest
    exact Or.inl ⟨hempty, rfl⟩
  · simp only [if_neg hempty] at hrest
    cases hrest
    exact Or.inr ⟨by simpa using hempty, rfl⟩

theorem Faultless.of_keeps
    {dialect : Dialect}
    (hordered : src.Ordered)
    (h : ∀ cur, (Contract.faultless src dialect hordered).Ends
      (Contract.faultless src dialect hordered).Results (p src cur)) :
    p.Faultless src dialect := by
  have hrun : ∀ cur f cur', p src cur ≠ .halted (.fault f) cur' := by
    intro cur f cur' hrun
    have hends := h cur
    rw [hrun] at hends
    exact hends f rfl
  constructor
  case run => exact hrun
  case recovering => exact fun cur f cur' hfault => hrun cur f cur' (recovering_eq_halted.1 hfault)
  case strict => exact fun cur f cur' hfault => hrun cur f cur' (strict_eq_halted.1 hfault)
  case strict_ok =>
    intro cur output cur' hstrict
    obtain ⟨r, mid, hdone, ⟨hempty, hanswer⟩ | ⟨-, hanswer⟩⟩ := strict_done hstrict
    · cases hanswer
      obtain ⟨alt, hr⟩ := Result.eq_success_of_diagnostics hempty
      exact ⟨alt, mid, hdone.trans (congrArg (Outcome.done · mid) hr)⟩
    · cases hanswer
  case strict_error =>
    intro cur diagnostics cur' hstrict
    obtain ⟨r, mid, -, ⟨-, hanswer⟩ | ⟨hfound, hanswer⟩⟩ := strict_done hstrict
    · cases hanswer
    · cases hanswer
      rintro hnil
      rw [hnil] at hfound
      cases hfound
  case speaks =>
    intro cur r cur' hcase l hl
    have hends := h cur
    rw [hcase] at hends
    rcases List.mem_append.1 hl with hl | hl
    · exact hends.recovered l hl
    · exact hends.furthest l (Option.mem_toList.1 hl)

end Parser

namespace Environment

/-- **No faults.**  If a grammar is meaningful over an ordered source, and names as expected only
what can be a member of a set unless its dialect is terse, then neither its runs nor those of
anything it meets have faults, and all their diagnostics are of its dialect.

In particular, a span can always be taken since a place, whatever was consumed; a choice never
compares the last of no recoveries; and a walk over a group of delimiters never takes the innermost
of no openings.  Sources whose spans are indices, and lexed ones, are ordered. -/
theorem run_faultless
    (env : Environment)
    (dialect : Dialect)
    (src : Source)
    (g : Grammar)
    (hordered : src.Ordered)
    (hmeaningful : env.OnlyMeets src (env.Meaningful dialect src) g)
    (hkeys : dialect = .terse ∨ env.OnlyMeets src Grammar.NamesKeys g) :
    (∀ h, env.Meets src g h → (env.parser h).Faultless src dialect) ∧
      (∀ start cur, cur.offset ≤ src.size →
        ∃ span cur', Scan.spanSince start src cur = .done span cur') ∧
      (∀ left right : Result, left.sideChecked right = .ok (left.side right)) ∧
      (∀ rules eoi rest position openings counts report,
        Walk.runCounted rules eoi rest position openings.length openings counts report =
          Walk.run rules eoi rest position openings counts report) ∧
      (∀ tokens context, (Source.ofTokens tokens context).Ordered) ∧
      ∀ (lexer : Lexer) text context tokens eoi, lexer.tokenize text context = .ok tokens →
        (Source.ofLexed tokens eoi).Ordered := by
  let C := Contract.faultless src dialect hordered
  have hadmits {h : Grammar} (hmeets : env.Meets src g h) : env.OnlyMeets src (C.Admits env) h := by
    intro k hk
    have hgk := hmeets.trans hk
    exact faultless_admits k (hmeaningful k hgk) (hkeys.imp_right fun hnames => hnames k hgk)
  refine ⟨fun h hmeets => .of_keeps hordered fun cur => ?_, fun start cur hcur => ?_,
    Result.sideChecked_eq, fun rules eoi rest position openings counts report =>
      Walk.runCounted_eq rules openings report eoi rest position counts,
    Source.ofTokens_ordered, fun lexer text context tokens eoi hlexed =>
      Lexer.ofLexed_ordered hlexed eoi⟩
  · have hresolved : C.Resolved env (C.Admits env) (env.depth src) True cur.offset :=
      .of_all fun target => resolve_faultless (fun _ hk => hk) _ _ target
    exact h.keeps (fun _ hk => hk) (hadmits hmeets) (h.guarded_of trivial) hresolved cur
      (Nat.le_refl _)
  · obtain ⟨span, hspan⟩ := hordered.exists_spanBetween start hcur
    rw [Scan.spanSince_apply]
    simp only [hspan]
    exact ⟨span, _, rfl⟩

/-- A list that cannot be a member of a set is expected, and something else is found: it cannot be
said what was expected. -/
theorem run_faulty_of_list :
    let g : Grammar := .just .simple (.list [.int 1])
    let src : Source := .ofText "a" .null
    src.Ordered ∧ OnlyMeets {} src (Meaningful {} .simple src) g ∧
      ∃ cur', parser {} g src {} = .halted (.fault .typeMismatch) cur' := by
  intro g src
  refine ⟨Source.ofTokens_ordered _ _, ?_, _, rfl⟩
  refine Within.onlyMeets (.of_closed (fun h => h = g) rfl ?_ ?_)
  · rintro h rfl
    exact ⟨rfl, fun _ _ => ⟨_, rfl⟩⟩
  · rintro h part rfl hpart
    exact hpart.elim

/-- A group that may hold another one, and is skipped because it holds something else. -/
theorem run_faultless_of_group :
    let inside : Grammar := (Grammar.ref (.cell 0)).optional
    let opened : Grammar := (Grammar.just .simple (.int 1)).ignoreThen inside
    let group : Grammar := .recoverWith (opened.thenIgnore (.just .simple (.int 2)))
      (.nestedDelimiters (.int 1) (.int 2) [] .absent)
    let env : Environment := { cells := ⟨[⟨some group⟩]⟩ }
    let src : Source := .ofTokens [.int 1, .int 3, .int 2] .null
    src.Ordered ∧ (∃ l cur', env.parser group src {} = .done (.success [l] .absent none) cur') ∧
      (env.parser group).Faultless src .simple := by
  intro inside opened group env src
  let pair : Grammar := (Grammar.just .simple (.int 1)).andThen inside
  let pair' : Grammar := opened.andThen (.just .simple (.int 2))
  have hwithin : env.Within (fun h => env.Meaningful .simple src h ∧ h.NamesKeys) group := by
    refine .of_closed
      (fun h => (h = group ∨ h = opened.thenIgnore (.just .simple (.int 2)) ∨ h = pair' ∨
        h = opened ∨ h = pair ∨ h = inside ∨ h = .ref (.cell 0)) ∨
        ∃ n, h = .just .simple (.int n))
      (Or.inl (Or.inl rfl)) ?_ ?_
    · rintro h ((rfl | rfl | rfl | rfl | rfl | rfl | rfl) | ⟨n, rfl⟩)
      · exact ⟨trivial, rfl⟩
      · exact ⟨Or.inl ⟨trivial, Or.inl rfl⟩, trivial⟩
      · exact ⟨trivial, trivial⟩
      · exact ⟨Or.inl ⟨trivial, Or.inr (Or.inl rfl)⟩, trivial⟩
      · exact ⟨trivial, trivial⟩
      · exact ⟨trivial, trivial⟩
      · exact ⟨⟨group, rfl⟩, trivial⟩
      · exact ⟨⟨rfl, fun _ _ => ⟨_, rfl⟩⟩, List.forall_mem_singleton.2 rfl⟩
    · rintro h part ((rfl | rfl | rfl | rfl | rfl | rfl | rfl) | ⟨n, rfl⟩) hpart
      · exact Or.inl (Or.inr (Or.inl hpart))
      · exact Or.inl (Or.inr (Or.inr (Or.inl hpart)))
      · rcases hpart with rfl | rfl
        · exact Or.inl (Or.inr (Or.inr (Or.inr (Or.inl rfl))))
        · exact Or.inr ⟨2, rfl⟩
      · exact Or.inl (Or.inr (Or.inr (Or.inr (Or.inr (Or.inl hpart)))))
      · rcases hpart with rfl | rfl
        · exact Or.inr ⟨1, rfl⟩
        · exact Or.inl (Or.inr (Or.inr (Or.inr (Or.inr (Or.inr (Or.inl rfl))))))
      · exact Or.inl (Or.inr (Or.inr (Or.inr (Or.inr (Or.inr (Or.inr hpart))))))
      · cases hpart
        exact Or.inl (Or.inl rfl)
      · exact hpart.elim
  have hordered : src.Ordered := Source.ofTokens_ordered _ _
  refine ⟨hordered, ⟨_, _, rfl⟩, ?_⟩
  exact (run_faultless env .simple src group hordered
    (Within.onlyMeets fun h hreaches => (hwithin h hreaches).1)
    (Or.inr (Within.onlyMeets fun h hreaches => (hwithin h hreaches).2))).1 group .here

end Environment
end Resync
