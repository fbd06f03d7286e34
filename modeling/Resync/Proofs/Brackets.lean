import Resync.Grammar.Combinator
import Resync.Proofs.Lockstep.Grammar

/-!
# Brackets of recoveries

Every time a strategy takes over from a parser that has failed, it is reported, and once more when
the strategy has come to its end.  Whatever the strategy runs in between may recover as well, and
its results may be thrown away; still the reports are well bracketed.

That it is the strategies which open and close the brackets is seen by telling on them: a run in
which every strategy leaves a mark when it is invoked, and another one when it has returned, is the
same run, and its marks stand right beside the reports.
-/

namespace Resync

/-- Whether a text begins with another one. -/
def Text.Begins (start text : String) : Prop := start.toList <+: text.toList

/-- What a strategy that skips says when it has come to its end, with or without success, at an
offset. -/
def Strategy.Says : Strategy → (success : Bool) → (offset : Nat) → String → Prop
  | .skipThenRetry _, true, offset, text =>
      ∃ count : Nat, text = "recovered at " ++ toString offset ++ " after skipping "
        ++ toString count ++ " tokens"
  | .skipThenRetry _, false, offset, text =>
      ∃ count : Nat, text = "gave up recovering at " ++ toString offset ++ " after skipping "
        ++ toString count ++ " tokens"
  | .nestedDelimiters _ _ _ _, true, offset, text =>
      text = "recovered at " ++ toString offset ++ " by skipping delimiters"
  | .nestedDelimiters _ _ _ _, false, offset, text =>
      text = "gave up recovering with delimiters at " ++ toString offset
  | .defaultOutput _, _, _, _ => False

/-- Reports in which every strategy that takes over comes to its end, one within another. -/
inductive Bracketed : List Event → Prop
  | nil : Bracketed []
  | append {E E' : List Event} : Bracketed E → Bracketed E' → Bracketed (E ++ E')
  | bracket (failure : Located) {s : Strategy} {success : Bool} {offset : Nat} {closing : Event}
      {E : List Event} :
      Bracketed E → s.Closing success offset [closing] →
        Bracketed (.recovering failure s :: E ++ [closing])

/-- The marks that strategies leave: one when they are invoked, and one when they have returned. -/
structure Marks where
  invoked : Located → Strategy → Event
  returned : Strategy → (success : Bool) → (offset : Nat) → Event

/-- Reports with marks: one beside each report of a strategy that takes over, and one beside each
report of a strategy that has come to its end. -/
inductive Marks.Added (marks : Marks) : List Event → List Event → Prop
  | nil : Marks.Added marks [] []
  | plain {e : Event} : e.isRecovery = false → Marks.Added marks [e] [e]
  | append {E E' F F' : List Event} :
      Marks.Added marks E F → Marks.Added marks E' F' → Marks.Added marks (E ++ E') (F ++ F')
  | bracket (failure : Located) {s : Strategy} {success : Bool} {offset : Nat} {closing : Event}
      {E F : List Event} :
      Marks.Added marks E F → s.Closing success offset [closing] →
        Marks.Added marks (.recovering failure s :: E ++ [closing])
          (.recovering failure s :: marks.invoked failure s :: F ++
            [closing, marks.returned s success offset])

/-- A parser that is resumed by a strategy, which leaves its marks. -/
def Parser.recoverMarked (marks : Marks) (p : Parser) (s : Strategy) : Parser := do
  match ← Scan.tryParse p with
  | .success recovered output alt => return .success recovered output alt
  | .failure recovered error =>
      Scan.report (.recovering error s)
      Scan.report (marks.invoked error s)
      let r ← s.recover p recovered error
      let offset ← Scan.save
      Scan.report (marks.returned s r.isSuccess offset)
      return r

namespace Environment

/-- The parser a reference stands for, where strategies leave marks. -/
def resolveMarked (env : Environment) (marks : Marks) : (bound : Nat) → Ref → Parser
  | 0, _ => Scan.halt .exhausted
  | bound + 1, target => fun src cur =>
      match env.lookup target with
      | .ok g => g.parserVia (Parser.recoverMarked marks) (env.resolveMarked marks bound) src cur
      | .error f => .halted (.fault f) cur

/-- The parser that a grammar describes, where strategies leave marks. -/
def parserMarked (env : Environment) (marks : Marks) (g : Grammar) : Parser := fun src cur =>
  g.parserVia (Parser.recoverMarked marks) (env.resolveMarked marks (env.depth src)) src cur

end Environment

/-- Whether a strategy skips tokens. -/
def Strategy.Skips : Strategy → Prop
  | .skipThenRetry _ | .nestedDelimiters _ _ _ _ => True
  | .defaultOutput _ => False

/-- Whether a grammar itself is resumed by skipping only. -/
def Grammar.ResumesBySkipping : Grammar → Prop
  | .recoverWith _ strategy => strategy.Skips
  | _ => True

section Words

namespace Text.Begins

theorem refl (text : String) : Begins text text := List.prefix_refl _

theorem append {start text : String} (h : Begins start text) (more : String) :
    Begins start (text ++ more) := by
  unfold Begins
  rw [String.toList_append]
  exact List.prefix_append_of_prefix h

end Text.Begins

namespace Event

/-- The words that the report of an event begins with. -/
def head : Event → String
  | recovering _ _ => "recovering from "
  | skipped _ _ | groupSkipped _ => "recovered at "
  | skippedInVain _ _ => "gave up recovering at "
  | groupNotFound _ => "gave up recovering with delimiters at "
  | repetitionStalled _ => "stopping repetition at "
  | separationStalled _ => "stopping separated items at "
  | rejected _ => "parse failed with "

theorem head_begins (e : Event) : Text.Begins e.head e.message := by
  cases e with
  | recovering failure s =>
      exact (((((Text.Begins.refl _).append _).append _).append _).append _).append _
  | skipped offset count => exact ((((Text.Begins.refl _).append _).append _).append _).append _
  | skippedInVain offset count =>
      exact ((((Text.Begins.refl _).append _).append _).append _).append _
  | groupSkipped offset => exact ((Text.Begins.refl _).append _).append _
  | groupNotFound offset => exact (Text.Begins.refl _).append _
  | repetitionStalled offset => exact ((Text.Begins.refl _).append _).append _
  | separationStalled offset => exact ((Text.Begins.refl _).append _).append _
  | rejected count => exact ((Text.Begins.refl _).append _).append _

/-- A report is that of a recovery if and only if it begins like one. -/
theorem isRecovery_iff (e : Event) :
    e.isRecovery = true ↔
      Text.Begins "recovering from" e.message ∨ Text.Begins "recovered at" e.message ∨
        Text.Begins "gave up recovering" e.message := by
  obtain ⟨rest, hrest⟩ := e.head_begins
  unfold Text.Begins
  rw [← hrest]
  clear hrest
  cases e <;> simp [isRecovery, head]

end Event

namespace Strategy.Closing

variable {s : Strategy} {success : Bool} {offset : Nat} {closing : Event}

/-- A strategy closes with words of its own. -/
theorem words (h : s.Closing success offset [closing]) :
    s.Says success offset closing.message := by
  cases h with
  | skipped sentinels offset count => exact ⟨count, rfl⟩
  | skippedInVain sentinels offset count => exact ⟨count, rfl⟩
  | groupSkipped opening closing others default offset => exact rfl
  | groupNotFound opening closing others default offset => exact rfl

theorem isRecovery (h : s.Closing success offset [closing]) : closing.isRecovery = true := by
  cases h with
  | skipped => rfl
  | skippedInVain => rfl
  | groupSkipped => rfl
  | groupNotFound => rfl

/-- A strategy that skips closes with one report. -/
theorem exists_eq
    {E : List Event}
    (h : s.Closing success offset E)
    (hskips : s.Skips) :
    ∃ closing, E = [closing] := by
  cases h with
  | skipped => exact ⟨_, rfl⟩
  | skippedInVain => exact ⟨_, rfl⟩
  | groupSkipped => exact ⟨_, rfl⟩
  | groupNotFound => exact ⟨_, rfl⟩
  | default => exact hskips.elim

end Strategy.Closing

end Words

namespace Marks

variable {marks : Marks} {E F : List Event}

/-- Among reports that are marked, those of recoveries are well bracketed. -/
theorem Added.bracketed (h : marks.Added E F) : Bracketed (E.filter Event.isRecovery) := by
  induction h with
  | nil => exact .nil
  | plain he =>
      rw [List.filter_cons_of_neg (by rw [he]; exact Bool.false_ne_true)]
      exact .nil
  | append _ _ ih ih' =>
      rw [List.filter_append]
      exact .append ih ih'
  | bracket failure _ hclosing ih =>
      rw [List.cons_append, List.filter_cons_of_pos rfl, List.filter_append,
        List.filter_cons_of_pos hclosing.isRecovery]
      exact .bracket failure ih hclosing

/-- Runs in step of which the second one has marks added to its reports.  Nothing is said of what
was reported before a fault. -/
def lockstep (marks : Marks) (src : Source) : Lockstep where
  source := src
  At _ := True
  Reports E F := marks.Added E.reverse F.reverse
  Breaks _ _ := True
  at_succ _ _ := trivial
  reports_nil := .nil
  reports_append h h' := by
    rw [List.reverse_append, List.reverse_append]
    exact .append h h'
  reports_plain he := .plain he
  breaks_nil := trivial
  breaks_append _ _ := trivial

variable {src : Source} {p p' : Parser} {s : Strategy}

/-- What is asked of a strategy while its bracket is open: its last report closes it, where it comes
to stand. -/
def closing (marks : Marks) (src : Source) (s : Strategy) : (marks.lockstep src).Post Result where
  Holds r i E F := ∃ closing E' F', E = closing :: E' ∧ F = closing :: F' ∧
    s.Closing r.isSuccess i [closing] ∧ marks.Added E'.reverse F'.reverse
  absorbs := by
    rintro r i E F _ _ hreports ⟨closing, E', F', rfl, rfl, hclosing, hinner⟩
    refine ⟨closing, E' ++ E, F' ++ F, rfl, rfl, hclosing, ?_⟩
    rw [List.reverse_append, List.reverse_append]
    exact .append hreports hinner

theorem closing_closes (hskips : s.Skips) : (marks.closing src s).Closes s := by
  intro r i E hcloses
  obtain ⟨closing, rfl⟩ := hcloses.exists_eq hskips
  exact ⟨closing, [], [], rfl, rfl, hcloses, .nil⟩

/-- A strategy that leaves its marks does so beside the bracket that it opens and closes. -/
theorem recoverMarked_inStep
    (hskips : s.Skips)
    (hp : (marks.lockstep src).Parsers p p') :
    (marks.lockstep src).Parsers (p.recoverWith s) (p'.recoverMarked marks s) := by
  refine hp.resume fun recovered error c d hat hoffset => ?_
  have hrec : (marks.lockstep src).Pairs (marks.closing src s)
      (s.recover p recovered error) (s.recover p' recovered error) :=
    Lockstep.Parsers.recover (closing_closes hskips) hp
  replace hrec := hrec { c with trail := .recovering error s :: c.trail }
    { d with trail := marks.invoked error s :: .recovering error s :: d.trail } hat hoffset
  simp only [Scan.bind_apply, Scan.report, Scan.save_apply, Scan.pure_apply]
  generalize s.recover p recovered error (marks.lockstep src).source
    { c with trail := .recovering error s :: c.trail } = o at hrec ⊢
  generalize s.recover p' recovered error (marks.lockstep src).source
    { d with trail := marks.invoked error s :: .recovering error s :: d.trail } = o' at hrec ⊢
  cases hrec with
  | exhausted => exact .exhausted
  | fault hmoves _ =>
      exact .fault ⟨trivial, hmoves.offset_eq, hmoves.buffered,
        hmoves.trail.trans (List.append_cons _ _ _), hmoves.trail'.trans
          ((List.append_cons _ _ _).trans (List.append_cons _ _ _))⟩ trivial
  | @done r c' d' E F hmoves hholds =>
      obtain ⟨closing, E', F', rfl, rfl, hcloses, hinner⟩ := hholds
      have hadded := Added.bracket error hinner hcloses
      rw [← hmoves.offset_eq] at hadded
      refine .done
        (E := (closing :: E') ++ [.recovering error s])
        (F := (marks.returned s r.isSuccess d'.offset :: closing :: F') ++
          [marks.invoked error s, .recovering error s])
        ⟨trivial, hmoves.offset_eq, hmoves.buffered, ?_, ?_⟩ ⟨trivial, ?_⟩
      · rw [hmoves.trail, List.append_assoc]
        rfl
      · rw [hmoves.trail', List.append_assoc]
        rfl
      · simpa [lockstep] using hadded

end Marks

namespace Environment

variable {env : Environment} {g : Grammar}

/-- Grammars are alike if they are the same, and are resumed by skipping only. -/
def skipping (env : Environment) : Likeness where
  Refs target target' := target' = target ∧ env.Within Grammar.ResumesBySkipping (.ref target)
  Unfolds _ _ := False
  Folds _ _ := False
  Resumes := Strategy.Skips

theorem skipping_self (hg : env.Within Grammar.ResumesBySkipping g) :
    env.skipping.Grammars g g := by
  refine .self g (fun h hreaches => ?_ : env.Within env.skipping.Fits g)
  cases h with
  | recoverWith of s => exact hg _ hreaches
  | ref target => exact ⟨rfl, fun k hk => hg k (hreaches.trans hk)⟩
  | _ => trivial

variable {marks : Marks} {src : Source} {bound : Nat}

/-- A grammar runs in step with itself, where strategies leave marks, if its references do. -/
theorem parserVia_inStep
    (hresolve : ∀ target, env.Within Grammar.ResumesBySkipping (.ref target) →
      (marks.lockstep src).Parsers (env.resolve bound target)
        (env.resolveMarked marks bound target))
    (hg : env.Within Grammar.ResumesBySkipping g) :
    (marks.lockstep src).Parsers (g.parser (env.resolve bound))
      (g.parserVia (Parser.recoverMarked marks) (env.resolveMarked marks bound)) := by
  have hstep : env.skipping.InStep (marks.lockstep src) Parser.recoverWith
      (Parser.recoverMarked marks) (env.resolve bound) (env.resolveMarked marks bound) := by
    constructor
    · rintro _ target ⟨rfl, htarget⟩
      exact hresolve target htarget
    · exact fun hfalse => hfalse.elim
    · exact fun hfalse => hfalse.elim
    · exact Marks.recoverMarked_inStep
  have halike := (skipping_self hg).inStep hstep
  rwa [Grammar.parserVia_recoverWith] at halike

theorem resolveMarked_inStep
    (target : Ref)
    (htarget : env.Within Grammar.ResumesBySkipping (.ref target)) :
    (marks.lockstep src).Parsers (env.resolve bound target)
      (env.resolveMarked marks bound target) := by
  induction bound generalizing target with
  | zero => exact Lockstep.exhausted
  | succ bound ih =>
      intro c d hat hoffset
      rw [resolve, resolveMarked]
      cases hlookup : env.lookup target with
      | error f => exact .fault (.refl hat hoffset) trivial
      | ok g => exact parserVia_inStep ih (htarget.part hlookup) c d hat hoffset

/-- Where strategies leave marks, a run comes to the same, and the marks stand beside its
reports. -/
theorem parserMarked_of_run
    (marks : Marks)
    {cur cur' : Cursor}
    {r : Result}
    (hg : env.Within Grammar.ResumesBySkipping g)
    (hrun : env.parser g src cur = .done r cur') :
    ∃ events marked stop, env.parserMarked marks g src cur = .done r stop ∧
      stop.offset = cur'.offset ∧ stop.buffered = cur'.buffered ∧
      cur'.events = cur.events ++ events ∧ stop.events = cur.events ++ marked ∧
      marks.Added events marked := by
  have hends : (marks.lockstep src).Ends _ cur cur (env.parser g src cur)
      (env.parserMarked marks g src cur) :=
    parserVia_inStep (fun target => resolveMarked_inStep target) hg cur cur trivial rfl
  rw [hrun] at hends
  generalize env.parserMarked marks g src cur = o at hends ⊢
  cases hends with
  | @done _ _ stop E F hmoves hholds =>
      obtain ⟨taken, hcur', hstop⟩ := hmoves.buffered
      refine ⟨E.reverse, F.reverse, stop, rfl, hmoves.offset_eq, hstop.trans hcur'.symm, ?_, ?_,
        hholds.2⟩
      · rw [Cursor.events, hmoves.trail, List.reverse_append, Cursor.events]
      · rw [Cursor.events, hmoves.trail', List.reverse_append, Cursor.events]

/-- **Recoveries are reported in well-formed brackets.**  In a run that returns, of a grammar that
is resumed by skipping only, the reports of recoveries form brackets, one within another.  They are
all reports that begin like one.  Each bracket is opened by a report that names its strategy, and
closed by one in the words of this strategy, which says whether it has succeeded and at which
offset it stood.

The brackets are those of the strategies that were invoked: if every strategy leaves a mark when it
is invoked and another one when it has returned, with its success and the offset where it left the
cursor, then the run comes to the same, the first mark stands behind the report that opens the
bracket, and the second one behind the report that closes it.  There are no other brackets, and no
other marks. -/
theorem parser_bracketed
    (env : Environment)
    (g : Grammar)
    (src : Source)
    (cur : Cursor)
    {r : Result}
    {cur' : Cursor}
    (hskips : env.Within Grammar.ResumesBySkipping g)
    (hrun : env.parser g src cur = .done r cur') :
    ∃ events, cur'.events = cur.events ++ events ∧
      Bracketed (events.filter Event.isRecovery) ∧
      (∀ e : Event, e.isRecovery = true ↔
        Text.Begins "recovering from" e.message ∨ Text.Begins "recovered at" e.message ∨
          Text.Begins "gave up recovering" e.message) ∧
      (∀ failure (s : Strategy), ∃ what, (Event.recovering failure s).message =
        "recovering from " ++ what ++ " with " ++ s.name) ∧
      (∀ (s : Strategy) success offset closing, s.Closing success offset [closing] →
        s.Says success offset closing.message) ∧
      ∀ marks : Marks, ∃ marked stop, env.parserMarked marks g src cur = .done r stop ∧
        stop.offset = cur'.offset ∧ stop.buffered = cur'.buffered ∧
        stop.events = cur.events ++ marked ∧ marks.Added events marked := by
  obtain ⟨events, _, _, -, -, -, hevents, -, hadded⟩ :=
    parserMarked_of_run ⟨fun _ _ => .rejected 0, fun _ _ _ => .rejected 0⟩ hskips hrun
  refine ⟨events, hevents, hadded.bracketed, Event.isRecovery_iff, ?_,
    fun _ _ _ _ => Strategy.Closing.words, fun marks => ?_⟩
  · intro failure s
    refine ⟨failure.error.message ++ " at " ++ toString failure.position, ?_⟩
    rw [← String.append_assoc, ← String.append_assoc]
    exact rfl
  · obtain ⟨events', marked, stop, hstop, hoffset, hbuffered, hevents', hall, hadded'⟩ :=
      parserMarked_of_run marks hskips hrun
    rw [hevents] at hevents'
    rw [List.append_cancel_left hevents']
    exact ⟨marked, stop, hstop, hoffset, hbuffered, hall, hadded'⟩

/-- A token is looked for in vain by two strategies, one around the other.  The outer one tries the
inner one once more, so that one bracket stands within another. -/
theorem parser_bracketed_of_missing :
    let one : Grammar := .just .simple (.int 1)
    let g : Grammar := (one.recoverWith (.skipThenRetry [])).recoverWith (.skipThenRetry [])
    let src : Source := .ofTokens [.int 2] .null
    ∃ r cur', parser {} g src {} = .done r cur' ∧
      (cur'.events.filter Event.isRecovery).length = 6 ∧
      Bracketed (cur'.events.filter Event.isRecovery) ∧
      ∀ marks : Marks, ∃ stop, parserMarked {} marks g src {} = .done r stop ∧
        marks.Added cur'.events stop.events := by
  intro one g src
  have hskips : Within {} Grammar.ResumesBySkipping g := by
    refine .of_closed (fun h => h = g ∨ h = one.recoverWith (.skipThenRetry []) ∨ h = one)
      (Or.inl rfl) ?_ ?_
    · rintro h (rfl | rfl | rfl)
      · trivial
      · trivial
      · trivial
    · rintro h part (rfl | rfl | rfl) hpart
      · exact Or.inr (Or.inl hpart)
      · exact Or.inr (Or.inr hpart)
      · exact hpart.elim
  have hdone : (parser {} g src {}).isDone = true := by decide +kernel
  have hlength : ((parser {} g src {}).cursor.events.filter Event.isRecovery).length = 6 := by
    decide +kernel
  generalize hrun : parser {} g src {} = o at hdone hlength ⊢
  cases o with
  | halted cause cur' => cases hdone
  | done r cur' =>
      obtain ⟨events, hevents, hbracketed, -, -, -, hmarks⟩ :=
        parser_bracketed {} g src {} hskips hrun
      obtain rfl : cur'.events = events := hevents
      refine ⟨r, cur', rfl, hlength, hbracketed, fun marks => ?_⟩
      obtain ⟨marked, stop, hstop, -, -, hall, hadded⟩ := hmarks marks
      obtain rfl : stop.events = marked := hall
      exact ⟨stop, hstop, hadded⟩

end Environment
end Resync
