import Resync.Proofs.Simulation.Carried

/-!
# Runs in step

Two runs over one source that start at the same offset go on in step: whatever the first one comes
to, a value or a fault, the second one comes to the same, at the same offset and with the same
tokens taken from the source.  Only if the first run reaches the bound on its steps, nothing is said
of the second one.  What the runs report meanwhile may differ; a relation says how.

Every combinator keeps its parts in step.  Where a strategy takes over, the two runs may report
something of their own around it, so recoveries are left to whoever compares.
-/

namespace Resync

theorem Beside.symm {first second m n : Nat} (h : Beside first second m n) :
    Beside second first n m := by
  obtain ⟨taken, hm, hn⟩ := h
  exact ⟨taken, hn, hm⟩

theorem Beside.trans
    {first second m n m' n' : Nat}
    (h : Beside first second m n)
    (h' : Beside m n m' n') :
    Beside first second m' n' := by
  obtain ⟨taken, rfl, rfl⟩ := h
  obtain ⟨taken', rfl, rfl⟩ := h'
  exact ⟨Max.max taken taken', Nat.max_assoc _ _ _, Nat.max_assoc _ _ _⟩

/-- Whether an event is reported by a recovery. -/
def Event.isRecovery : Event → Bool
  | .recovering _ _ | .skipped _ _ | .skippedInVain _ _ | .groupSkipped _ | .groupNotFound _ => true
  | .repetitionStalled _ | .separationStalled _ | .rejected _ => false

/-- What a strategy reports when it has come to an end at an offset, with or without success. -/
inductive Strategy.Closing : Strategy → (success : Bool) → (offset : Nat) → List Event → Prop
  | skipped (sentinels : List Value) (offset count : Nat) :
      Closing (.skipThenRetry sentinels) true offset [.skipped offset count]
  | skippedInVain (sentinels : List Value) (offset count : Nat) :
      Closing (.skipThenRetry sentinels) false offset [.skippedInVain offset count]
  | groupSkipped (opening closing : Value) (others : List (Value × Value)) (default : Value)
      (offset : Nat) :
      Closing (.nestedDelimiters opening closing others default) true offset
        [.groupSkipped offset]
  | groupNotFound (opening closing : Value) (others : List (Value × Value)) (default : Value)
      (offset : Nat) :
      Closing (.nestedDelimiters opening closing others default) false offset
        [.groupNotFound offset]
  | default (value : Value) (offset : Nat) : Closing (.defaultOutput value) true offset []

/-- How to compare what two runs in step report.  Reports are given with the latest first. -/
structure Lockstep where
  source : Source
  /-- Where the runs may stand. -/
  At : Nat → Prop
  /-- What the runs have reported between two steps. -/
  Reports : List Event → List Event → Prop
  /-- What they have reported when a fault ends them. -/
  Breaks : List Event → List Event → Prop
  at_succ {i : Nat} : At i → (source.sighting i).token ≠ .null → At (i + 1)
  reports_nil : Reports [] []
  reports_append {E F E' F' : List Event} :
    Reports E F → Reports E' F' → Reports (E' ++ E) (F' ++ F)
  reports_plain {e : Event} : e.isRecovery = false → Reports [e] [e]
  breaks_nil : Breaks [] []
  breaks_append {E F E' F' : List Event} :
    Reports E F → Breaks E' F' → Breaks (E' ++ E) (F' ++ F)

namespace Lockstep

variable (L : Lockstep) {α β : Type}

/-- What is asked of two runs that return: of their value, of the offset where they end, and of what
they have reported.  What has been reported before may be reported as well. -/
structure Post (α : Type) where
  Holds : α → Nat → List Event → List Event → Prop
  absorbs {a : α} {i : Nat} {E F E' F' : List Event} :
    L.Reports E F → Holds a i E' F' → Holds a i (E' ++ E) (F' ++ F)

/-- That the value has a property, and no recovery is under way. -/
def value (P : α → Prop) : L.Post α where
  Holds a _ E F := P a ∧ L.Reports E F
  absorbs h h' := ⟨h'.1, L.reports_append h h'.2⟩

/-- Two cursors that have moved on from two others in step. -/
structure Moves (c d c' d' : Cursor) (E F : List Event) : Prop where
  stands : L.At c'.offset
  offset_eq : d'.offset = c'.offset
  buffered : Beside c.buffered d.buffered c'.buffered d'.buffered
  trail : c'.trail = E ++ c.trail
  trail' : d'.trail = F ++ d.trail

/-- How two runs end that start at two cursors and go on in step. -/
inductive Ends (Q : L.Post α) (c d : Cursor) : Outcome α → Outcome α → Prop
  | done {a : α} {c' d' : Cursor} {E F : List Event}
      (hmoves : L.Moves c d c' d' E F)
      (hholds : Q.Holds a c'.offset E F) :
      Ends Q c d (.done a c') (.done a d')
  | fault {f : Fault} {c' d' : Cursor} {E F : List Event}
      (hmoves : L.Moves c d c' d' E F)
      (hbreaks : L.Breaks E F) :
      Ends Q c d (.halted (.fault f) c') (.halted (.fault f) d')
  | exhausted {c' : Cursor} {o : Outcome α} : Ends Q c d (.halted .exhausted c') o

/-- Scans that go on in step wherever they start. -/
def Pairs (Q : L.Post α) (x y : Scan α) : Prop :=
  ∀ c d, L.At c.offset → d.offset = c.offset → L.Ends Q c d (x L.source c) (y L.source d)

/-- Parsers that go on in step. -/
def Parsers (p q : Parser) : Prop := L.Pairs (L.value fun _ => True) p q

variable {L} {Q R : L.Post α} {P : α → Prop} {x y : Scan α}

namespace Moves

variable {c d c' d' c'' d'' : Cursor} {E F E' F' : List Event}

theorem refl (hat : L.At c.offset) (hoffset : d.offset = c.offset) : L.Moves c d c d [] [] :=
  ⟨hat, hoffset, .start _ _, rfl, rfl⟩

theorem trans (h : L.Moves c d c' d' E F) (h' : L.Moves c' d' c'' d'' E' F') :
    L.Moves c d c'' d'' (E' ++ E) (F' ++ F) where
  stands := h'.stands
  offset_eq := h'.offset_eq
  buffered := h.buffered.trans h'.buffered
  trail := by rw [h'.trail, h.trail, List.append_assoc]
  trail' := by rw [h'.trail', h.trail', List.append_assoc]

end Moves

section Rules

theorem pure_of {a : α} (h : ∀ i, Q.Holds a i [] []) :
    L.Pairs Q (pure a : Scan α) (pure a : Scan α) :=
  fun _ _ hat hoffset => .done (.refl hat hoffset) (h _)

theorem pure {a : α} (h : P a) : L.Pairs (L.value P) (pure a : Scan α) (pure a : Scan α) :=
  pure_of fun _ => ⟨h, L.reports_nil⟩

theorem bind
    {Q : L.Post β}
    {f g : α → Scan β}
    (hxy : L.Pairs (L.value P) x y)
    (hfg : ∀ a, P a → L.Pairs Q (f a) (g a)) :
    L.Pairs Q (x >>= f) (y >>= g) := by
  intro c d hat hoffset
  have hends := hxy c d hat hoffset
  rw [Scan.bind_apply, Scan.bind_apply]
  generalize x L.source c = o at hends
  generalize y L.source d = o' at hends
  cases hends with
  | exhausted => exact .exhausted
  | fault hmoves hbreaks => exact .fault hmoves hbreaks
  | @done a c' d' E F hmoves hholds =>
      obtain ⟨ha, hreports⟩ := hholds
      have hnext := hfg a ha c' d' hmoves.stands hmoves.offset_eq
      simp only
      generalize f a L.source c' = o at hnext
      generalize g a L.source d' = o' at hnext
      cases hnext with
      | exhausted => exact .exhausted
      | fault hmoves' hbreaks =>
          exact .fault (hmoves.trans hmoves') (L.breaks_append hreports hbreaks)
      | done hmoves' hholds' => exact .done (hmoves.trans hmoves') (Q.absorbs hreports hholds')

theorem weaken
    (h : L.Pairs Q x y)
    (hQR : ∀ a i E F, Q.Holds a i E F → R.Holds a i E F) :
    L.Pairs R x y := by
  intro c d hat hoffset
  have hends := h c d hat hoffset
  generalize x L.source c = o at hends ⊢
  generalize y L.source d = o' at hends ⊢
  cases hends with
  | exhausted => exact .exhausted
  | fault hmoves hbreaks => exact .fault hmoves hbreaks
  | done hmoves hholds => exact .done hmoves (hQR _ _ _ _ hholds)

theorem exhausted : L.Pairs Q (Scan.halt .exhausted) y := fun _ _ _ _ => .exhausted

theorem fault (f : Fault) : L.Pairs Q (Scan.halt (.fault f)) (Scan.halt (.fault f)) :=
  fun _ _ hat hoffset => .fault (.refl hat hoffset) L.breaks_nil

theorem ofExcept
    {e : Except Fault α}
    (h : ∀ a, e = .ok a → P a) :
    L.Pairs (L.value P) (Scan.ofExcept e) (Scan.ofExcept e) := by
  cases e with
  | ok a => exact pure (h a rfl)
  | error f => exact fault f

theorem readSource :
    L.Pairs (L.value fun src => src = L.source) Scan.source Scan.source :=
  fun _ _ hat hoffset => .done (.refl hat hoffset) ⟨rfl, L.reports_nil⟩

theorem save : L.Pairs (L.value L.At) Scan.save Scan.save := by
  intro c d hat hoffset
  rw [Scan.save_apply, Scan.save_apply, hoffset]
  exact .done (.refl hat hoffset) ⟨hat, L.reports_nil⟩

theorem revert {i : Nat} (hi : L.At i) :
    L.Pairs (L.value fun _ => True) (Scan.revert i) (Scan.revert i) :=
  fun _ _ _ _ => .done ⟨hi, rfl, .start _ _, rfl, rfl⟩ ⟨trivial, L.reports_nil⟩

theorem report {e : Event} (he : L.Reports [e] [e]) :
    L.Pairs (L.value fun _ => True) (Scan.report e) (Scan.report e) :=
  fun _ _ hat hoffset => .done ⟨hat, hoffset, .start _ _, rfl, rfl⟩ ⟨trivial, he⟩

theorem lookAt (i : Nat) :
    L.Pairs (L.value fun seen => seen = L.source.sighting i) (Scan.lookAt i) (Scan.lookAt i) :=
  fun _ _ hat hoffset => .done ⟨hat, hoffset, (Beside.start _ _).max _, rfl, rfl⟩
    ⟨rfl, L.reports_nil⟩

/-- What is seen where the cursors stand. -/
theorem peek :
    L.Pairs (L.value fun seen => ∃ i, L.At i ∧ seen = L.source.sighting i) Scan.peek Scan.peek :=
  bind save fun i hi => weaken (lookAt i) fun _ _ _ _ hseen => ⟨⟨i, hi, hseen.1⟩, hseen.2⟩

theorem next : L.Pairs (L.value fun _ => True) Scan.next Scan.next := by
  refine bind peek ?_
  rintro seen ⟨i, hi, rfl⟩
  by_cases hnull : (L.source.sighting i).token = .null
  · simp only [hnull, ne_eq, not_true_eq_false, if_false]
    exact pure trivial
  · simp only [hnull, ne_eq, not_false_eq_true, if_true, Source.sighting_position]
    exact bind (revert (L.at_succ hi hnull)) fun _ _ => pure trivial

theorem spanSince (start : Nat) :
    L.Pairs (L.value fun _ => True) (Scan.spanSince start) (Scan.spanSince start) := by
  refine bind (lookAt start) fun first _ => bind save fun offset _ => ?_
  by_cases hempty : offset ≤ start
  · simp only [if_pos hempty]
    exact pure trivial
  · simp only [if_neg hempty]
    exact bind (lookAt _) fun last _ => ofExcept fun _ _ => trivial

theorem mergeAlts (l m : Option Located) :
    L.Pairs (L.value fun _ => True) (Scan.mergeAlts l m) (Scan.mergeAlts l m) :=
  ofExcept fun _ _ => trivial

/-- An event that says where the cursors stand ends both runs. -/
theorem reportAt
    {e : Nat → Event}
    {r : α}
    (h : ∀ i, Q.Holds r i [e i] [e i]) :
    L.Pairs Q
      (do
        let offset ← Scan.save
        Scan.report (e offset)
        return r)
      (do
        let offset ← Scan.save
        Scan.report (e offset)
        return r) := by
  intro c d hat hoffset
  have hmoves : L.Moves c d { c with trail := e c.offset :: c.trail }
      { d with trail := e c.offset :: d.trail } [e c.offset] [e c.offset] :=
    ⟨hat, hoffset, .start _ _, rfl, rfl⟩
  have hends : L.Ends Q c d (.done r { c with trail := e c.offset :: c.trail })
      (.done r { d with trail := e c.offset :: d.trail }) := .done hmoves (h _)
  simp only [Scan.bind_apply, Scan.save_apply, hoffset]
  exact hends

end Rules

namespace Parsers

variable {p p' q q' : Parser}

theorem answer (r : Result) : L.Parsers (return r) (return r) := pure trivial

theorem tryParse (hp : L.Parsers p p') : L.Parsers (Scan.tryParse p) (Scan.tryParse p') := by
  refine bind save fun before hbefore => bind hp fun r _ => ?_
  cases r with
  | success recovered output alt => exact pure trivial
  | failure recovered error => exact bind (revert hbefore) fun _ _ => pure trivial

section Primitives

variable (dialect : Dialect)

theorem unexpected (seen : Sighting) (expected : List Value) :
    L.Parsers (Parser.unexpected dialect seen expected)
      (Parser.unexpected dialect seen expected) :=
  bind (ofExcept (P := fun _ => True) fun _ _ => trivial) fun _ _ => answer _

theorem satisfy (expected : List Value) (test : Value → Except Fault Bool) :
    L.Parsers (Parser.satisfy dialect expected test) (Parser.satisfy dialect expected test) := by
  refine bind next fun seen _ => ?_
  by_cases hnull : seen.token = .null
  · simp only [if_pos hnull]
    exact unexpected dialect seen expected
  · simp only [if_neg hnull]
    refine bind (ofExcept (P := fun _ => True) fun _ _ => trivial) fun passed _ => ?_
    cases passed with
    | true => exact answer _
    | false => exact unexpected dialect seen expected

theorem seqFrom (all tokens : List Value) :
    L.Parsers (Parser.seqFrom dialect all tokens) (Parser.seqFrom dialect all tokens) := by
  induction tokens with
  | nil => exact answer _
  | cons token tokens ih =>
      refine bind next fun seen _ => ?_
      by_cases hmiss : seen.token = .null ∨ seen.token ≠ token
      · simp only [if_pos hmiss]
        exact unexpected dialect seen [token]
      · simp only [if_neg hmiss]
        exact ih

theorem filterMap (f : Span → Value → Except Fault Verdict) :
    L.Parsers (Parser.filterMap dialect f) (Parser.filterMap dialect f) := by
  refine bind next fun seen _ => ?_
  by_cases hnull : seen.token = .null
  · simp only [if_pos hnull]
    exact unexpected dialect seen []
  · simp only [if_neg hnull]
    refine bind (ofExcept (P := fun _ => True) fun _ _ => trivial) fun verdict _ => ?_
    cases verdict with
    | accept output => exact answer _
    | reject error => exact answer _

theorem endOfInput : L.Parsers (Parser.endOfInput dialect) (Parser.endOfInput dialect) := by
  refine bind next fun seen _ => ?_
  by_cases hnull : seen.token = .null
  · simp only [if_pos hnull]
    exact answer _
  · simp only [if_neg hnull]
    exact unexpected dialect seen [.null]

theorem skip (count : Nat) :
    L.Pairs (L.value fun _ => True) (Parser.skip count) (Parser.skip count) := by
  induction count with
  | zero => exact pure trivial
  | succ count ih => exact bind next fun _ _ => ih

theorem scripted (consume : Nat) (relative : Bool) (r : Result) :
    L.Parsers (Parser.scripted consume relative r) (Parser.scripted consume relative r) :=
  bind save fun _ _ => bind (skip consume) fun _ _ => answer _

end Primitives

section Outputs

variable (hp : L.Parsers p p')
include hp

theorem map (f : Value → Except Fault Value) : L.Parsers (Parser.map f p) (Parser.map f p') := by
  refine bind hp fun r _ => ?_
  cases r with
  | success recovered output alt =>
      exact bind (ofExcept (P := fun _ => True) fun _ _ => trivial) fun _ _ => answer _
  | failure recovered error => exact answer _

theorem mapWithSpan (f : Value → Span → Except Fault Value) :
    L.Parsers (Parser.mapWithSpan f p) (Parser.mapWithSpan f p') := by
  refine bind save fun start _ => bind hp fun r _ => ?_
  cases r with
  | success recovered output alt =>
      exact bind (spanSince start) fun span _ =>
        bind (ofExcept (P := fun _ => True) fun _ _ => trivial) fun _ _ => answer _
  | failure recovered error => exact answer _

theorem tryMap (f : Value → Span → Except Fault Verdict) :
    L.Parsers (Parser.tryMap f p) (Parser.tryMap f p') := by
  refine bind save fun start _ => bind hp fun r _ => ?_
  cases r with
  | success recovered output alt =>
      refine bind (spanSince start) fun span _ =>
        bind (ofExcept (P := fun _ => True) fun _ _ => trivial) fun verdict _ => ?_
      cases verdict with
      | accept output' => exact answer _
      | reject error => exact answer _
  | failure recovered error => exact answer _

theorem mapError (f : Diagnostic → Diagnostic) :
    L.Parsers (Parser.mapError f p) (Parser.mapError f p') := by
  refine bind hp fun r _ => ?_
  cases r with
  | success recovered output alt => exact answer _
  | failure recovered error => exact answer _

theorem labelled (label : String) :
    L.Parsers (Parser.labelled label p) (Parser.labelled label p') := by
  refine bind save fun start _ => bind hp fun r _ => ?_
  cases r with
  | success recovered output alt => exact answer _
  | failure recovered error => exact answer _

theorem optional : L.Parsers (Parser.optional p) (Parser.optional p') := by
  refine bind hp.tryParse fun r _ => ?_
  cases r with
  | success recovered output alt => exact answer _
  | failure recovered error => exact answer _

end Outputs

section Sequences

theorem andThen (hp : L.Parsers p p') (hq : L.Parsers q q') :
    L.Parsers (Parser.andThen p q) (Parser.andThen p' q') := by
  refine bind hp fun r _ => ?_
  cases r with
  | failure recovered error => exact answer _
  | success recovered output alt =>
      refine bind hq fun r' _ => ?_
      cases r' with
      | success recovered' output' alt' => exact bind (mergeAlts _ _) fun _ _ => answer _
      | failure recovered' error =>
          exact bind (ofExcept (P := fun _ => True) fun _ _ => trivial) fun _ _ => answer _

theorem orElse (hp : L.Parsers p p') (hq : L.Parsers q q') :
    L.Parsers (Parser.orElse p q) (Parser.orElse p' q') := by
  refine bind save fun before hbefore => bind hp fun left _ => ?_
  by_cases hclean : left.isClean = true
  · simp only [if_pos hclean]
    exact answer _
  · simp only [if_neg hclean]
    refine bind save fun leftEnd hleftEnd => bind (revert hbefore) fun _ _ =>
      bind hq fun right _ => bind save fun rightEnd hrightEnd => ?_
    have hend : L.At ((left.side right).pick leftEnd rightEnd) := by
      cases left.side right with
      | left => exact hleftEnd
      | right => exact hrightEnd
    exact bind (revert hend) fun _ _ => ofExcept fun _ _ => trivial

theorem step
    {k k' : Value → List Located → Option Located → Parser}
    (hp : L.Parsers p p')
    (hk : ∀ output recovered alt, L.Parsers (k output recovered alt) (k' output recovered alt))
    (recovered : List Located)
    (alt : Option Located) :
    L.Parsers (Parser.step p k recovered alt) (Parser.step p' k' recovered alt) := by
  refine bind hp fun r _ => ?_
  cases r with
  | success recovered' output alt' => exact bind (mergeAlts _ _) fun _ _ => hk _ _ _
  | failure recovered' error =>
      exact bind (ofExcept (P := fun _ => True) fun _ _ => trivial) fun _ _ => answer _

end Sequences

section Repetitions

variable (minimum : Nat)

theorem rounds :
    L.Pairs (L.value fun _ => True) (Parser.rounds minimum) (Parser.rounds minimum) :=
  bind readSource fun _ _ => bind save fun _ _ => pure trivial

theorem repeatedFrom
    (hp : L.Parsers p p')
    (maximum : Option Nat)
    (bound : Nat)
    (recovered : List Located)
    (outputs : List Value)
    (alt : Option Located) :
    L.Parsers (Parser.repeatedFrom p minimum maximum bound recovered outputs alt)
      (Parser.repeatedFrom p' minimum maximum bound recovered outputs alt) := by
  induction bound generalizing recovered outputs alt with
  | zero => exact exhausted
  | succ bound ih =>
      unfold Parser.repeatedFrom
      by_cases hfull : maximum.any (· ≤ outputs.length) = true
      · simp only [if_pos hfull]
        exact answer _
      · simp only [if_neg hfull]
        refine bind save fun before hbefore => bind hp fun r _ => ?_
        cases r with
        | success recovered' output alt' =>
            refine bind (mergeAlts _ _) fun alt'' _ => bind save fun stop _ => ?_
            by_cases hstall : minimum ≤ outputs.length ∧ stop = before
            · simp only [if_pos hstall]
              exact bind (report (L.reports_plain rfl)) fun _ _ => answer _
            · simp only [if_neg hstall]
              exact ih _ _ _
        | failure recovered' error =>
            by_cases hshort : outputs.length < minimum
            · simp only [if_pos hshort]
              exact answer _
            · simp only [if_neg hshort]
              exact bind (revert hbefore) fun _ _ => bind (mergeAlts _ _) fun _ _ =>
                bind (mergeAlts _ _) fun _ _ => answer _

theorem repeated (hp : L.Parsers p p') (maximum : Option Nat) :
    L.Parsers (Parser.repeated p minimum maximum) (Parser.repeated p' minimum maximum) :=
  bind (rounds minimum) fun _ _ => hp.repeatedFrom _ _ _ _ _ _

theorem separatedEnd
    (recovered : List Located)
    (outputs : List Value)
    (alt : Option Located) :
    L.Parsers (Parser.separatedEnd minimum recovered outputs alt)
      (Parser.separatedEnd minimum recovered outputs alt) := by
  unfold Parser.separatedEnd
  by_cases hshort : outputs.length < minimum
  · simp only [if_pos hshort]
    exact ofExcept fun _ _ => trivial
  · simp only [if_neg hshort]
    exact answer _

theorem separatedFrom
    (hp : L.Parsers p p')
    (hq : L.Parsers q q')
    (trailing : Bool)
    (bound : Nat)
    (recovered : List Located)
    (outputs : List Value)
    (alt : Option Located) :
    L.Parsers (Parser.separatedFrom p q minimum trailing bound recovered outputs alt)
      (Parser.separatedFrom p' q' minimum trailing bound recovered outputs alt) := by
  induction bound generalizing recovered outputs alt with
  | zero => exact exhausted
  | succ bound ih =>
      unfold Parser.separatedFrom
      refine bind save fun before hbefore => bind hq fun r _ => ?_
      cases r with
      | failure recoveredSep error =>
          exact bind (revert hbefore) fun _ _ => bind (mergeAlts _ _) fun _ _ =>
            separatedEnd minimum _ _ _
      | success recoveredSep outputSep altSep =>
          refine bind save fun afterSeparator hafter => bind hp fun r _ => ?_
          cases r with
          | failure recoveredItem error =>
              refine bind (mergeAlts _ _) fun alt' _ => ?_
              cases trailing with
              | true => exact bind (revert hafter) fun _ _ => separatedEnd minimum _ _ _
              | false => exact bind (revert hbefore) fun _ _ => separatedEnd minimum _ _ _
          | success recoveredItem output altItem =>
              refine bind (mergeAlts _ _) fun reached _ => bind (mergeAlts _ _) fun alt' _ =>
                bind save fun stop _ => ?_
              by_cases hstall : minimum ≤ outputs.length ∧ stop = before
              · simp only [if_pos hstall]
                exact bind (report (L.reports_plain rfl)) fun _ _ => separatedEnd minimum _ _ _
              · simp only [if_neg hstall]
                exact ih _ _ _

theorem leadingSeparator (hq : L.Parsers q q') (allowed : Bool) :
    L.Pairs (L.value fun _ => True) (Parser.leadingSeparator q allowed)
      (Parser.leadingSeparator q' allowed) := by
  cases allowed with
  | false => exact pure trivial
  | true =>
      refine bind hq.tryParse fun r _ => ?_
      cases r with
      | success recovered output alt => exact pure trivial
      | failure recovered error => exact pure trivial

theorem separatedBy
    (hp : L.Parsers p p')
    (hq : L.Parsers q q')
    (leading trailing : Bool) :
    L.Parsers (Parser.separatedBy p q minimum leading trailing)
      (Parser.separatedBy p' q' minimum leading trailing) := by
  refine bind (hq.leadingSeparator leading) fun first _ => bind hp.tryParse fun r _ => ?_
  cases r with
  | success recovered output alt =>
      exact bind (mergeAlts _ _) fun _ _ => bind (rounds minimum) fun _ _ =>
        separatedFrom minimum hp hq _ _ _ _ _
  | failure recovered error => exact bind (mergeAlts _ _) fun _ _ => separatedEnd minimum _ _ _

end Repetitions
end Parsers
end Lockstep
end Resync
