import Resync.Proofs.Greedy.Splitting
import Resync.Proofs.Merging.Bracketing

/-!
# Sequences of parsers

Three parsers in sequence can be bracketed in two ways.  They run in the same order from the same
places, so the runs end at the same cursor, and the alternatives of a success are merged from left
to right either way.  Only where the last of the three fails do the two ways differ: one merges the
alternatives of the first two before they are merged into the failure, and the other one merges them
into it one by one, the second one first.  A failure that keeps its contents lies at the same
position and expects the same for all that.

A plan that runs several grammars is a sequence that is bracketed to the left.  There each merger is
made in the same order, so nothing is asked of the diagnostics.
-/

namespace Resync

open Located (AltIsDetailed)

namespace Finding

variable {a : Finding} {found : List Finding}

/-- A finding merged with an alternative, if there is one. -/
def withAlt (a : Finding) (alt : Option Finding) : Finding := alt.elim a a.merge

theorem max_withAlt (a : Finding) (alt : Option Finding) :
    a.located.max (alt.map located) = .ok (a.withAlt alt).located := by
  cases alt with
  | none => rfl
  | some b => exact max_located a b

/-- Two alternatives can be merged before they are merged into a finding. -/
theorem withAlt_merge (a : Finding) (alt alt' : Option Finding) :
    a.withAlt (Option.merge merge alt alt') = (a.withAlt alt).withAlt alt' := by
  cases alt with
  | none =>
      rw [Option.merge_none_left]
      rfl
  | some b =>
      cases alt' with
      | none => rfl
      | some c => exact (merge_assoc a b c).symm

theorem StandsFor.withAlt
    (h : StandsFor a found)
    (alt : Option Finding) :
    StandsFor (a.withAlt alt) (found ++ alt.toList) := by
  cases alt with
  | none => rwa [Option.toList_none, List.append_nil]
  | some b => exact h.merge (.singleton b)

/-- In which order alternatives are merged into a finding does not matter to what it is about. -/
theorem withAlt_comm (a : Finding) (alt alt' : Option Finding) :
    Alike ((a.withAlt alt).withAlt alt') ((a.withAlt alt').withAlt alt) := by
  refine (((StandsFor.singleton a).withAlt alt).withAlt alt').alike
    (((StandsFor.singleton a).withAlt alt').withAlt alt) ?_
  rw [List.append_assoc, List.append_assoc]
  exact List.perm_append_comm.append_left [a]

end Finding

namespace Value

/-- A first output and others, in pairs that are bracketed to the left. -/
def paired (v : Value) (vs : List Value) : Value := vs.foldl (fun v w => .tuple [v, w]) v

/-- The outputs in pairs that are bracketed to the left, as many levels deep. -/
def unpaired : Nat → Value → List Value
  | 0, v => [v]
  | n + 1, .tuple [v, w] => unpaired n v ++ [w]
  | _ + 1, v => [v]

/-- What is paired up can be taken apart again. -/
theorem unpaired_paired (n : Nat) (v : Value) (vs : List Value) :
    unpaired (n + vs.length) (v.paired vs) = unpaired n v ++ vs := by
  induction vs generalizing n v with
  | nil =>
      rw [List.append_nil]
      rfl
  | cons w vs ih =>
      have hdeep : n + (w :: vs).length = n + 1 + vs.length := by
        rw [List.length_cons]
        omega
      rw [hdeep]
      show unpaired _ (paired (.tuple [v, w]) vs) = _
      rw [ih, unpaired, List.append_assoc, List.singleton_append]

end Value

/-- Whether two values are three outputs in pairs, bracketed to the left and to the right. -/
inductive Value.Rebracketed : Value → Value → Prop
  | mk (u v w : Value) : Rebracketed (.tuple [.tuple [u, v], w]) (.tuple [u, .tuple [v, w]])

section Relations

-- How the outputs of two runs are related.
variable (R : Value → Value → Prop)

/-- Whether two results are the same but for related outputs, and for what a failure says beside
what it is about. -/
inductive Result.Matches : Result → Result → Prop
  | success
      {recovered : List Located}
      {output output' : Value}
      {alt : Option Located}
      (houtput : R output output') :
      Matches (.success recovered output alt) (.success recovered output' alt)
  | failure
      {recovered : List Located}
      {a b : Finding}
      (halike : a.Alike b) :
      Matches (.failure recovered a.located) (.failure recovered b.located)

/-- Whether two runs end at one cursor, with results that match or for one cause. -/
inductive Outcome.Matches : Outcome Result → Outcome Result → Prop
  | done
      {r r' : Result}
      {cur : Cursor}
      (hresult : r.Matches R r') :
      Matches (.done r cur) (.done r' cur)
  | halted
      {cause : Halt}
      {cur : Cursor} :
      Matches (.halted cause cur) (.halted cause cur)

end Relations

/-- Failures that match are about the same. -/
theorem Outcome.Matches.alike
    {R : Value → Value → Prop}
    {recovered recovered' : List Located}
    {a b : Finding}
    {cur cur' : Cursor}
    (h : Outcome.Matches R (.done (.failure recovered a.located) cur)
      (.done (.failure recovered' b.located) cur')) :
    a.Alike b := by
  cases h with
  | done hresult =>
      generalize hleft : Result.failure recovered a.located = r at hresult
      generalize hright : Result.failure recovered' b.located = r' at hresult
      cases hresult with
      | success => cases hleft
      | failure halike =>
          rwa [Finding.located_injective (Result.failure.inj hleft).2,
            Finding.located_injective (Result.failure.inj hright).2]

namespace Parser

open Scan

/-- One parser, then another; their outputs are combined by a function. -/
def joined (f : Value → Value → Value) (p q : Parser) : Parser := do
  match ← p with
  | .failure recovered error => return .failure recovered error
  | .success recovered output alt =>
      match ← q with
      | .success recovered' output' alt' =>
          let alt'' ← Scan.mergeAlts alt alt'
          return .success (recovered ++ recovered') (f output output') alt''
      | .failure recovered' error =>
          let error' ← Scan.ofExcept (error.max alt)
          return .failure (recovered ++ recovered') error'

/-- A sequence combines the outputs into a pair. -/
theorem andThen_eq_joined (p q : Parser) :
    andThen p q = joined (fun v w => .tuple [v, w]) p q := rfl

/-- A chain splices the outputs into a list. -/
theorem chained_eq_joined (p q : Parser) :
    map Action.chained (andThen p q) =
      joined (fun v w => .list (Action.chainItems v ++ Action.chainItems w)) p q := by
  unfold map andThen joined
  rw [bind_assoc]
  refine bind_congr fun first => ?_
  cases first with
  | failure recovered error => rw [pure_bind]
  | success recovered output alt =>
      simp only [bind_assoc]
      refine bind_congr fun second => ?_
      cases second with
      | success recovered' output' alt' =>
          have hchained : Action.chained (.tuple [output, output']) =
              .ok (.list (Action.chainItems output ++ Action.chainItems output')) := rfl
          simp only [bind_assoc, pure_bind, hchained, ofExcept_ok]
      | failure recovered' error => simp only [bind_assoc, pure_bind]

section Known

variable {f g f' g' : Value → Value → Value} {p q r : Parser} {src : Source}
variable {cur cur' mid : Cursor} {cause : Halt} {recovered recovered' : List Located}
variable {output output' : Value} {error : Located} {alt alt' : Option Finding}

theorem joined_of_halted (hp : p src cur = .halted cause cur') :
    joined f p q src cur = .halted cause cur' := by
  unfold joined
  simp only [bind_apply, hp]

theorem joined_of_failure (hp : p src cur = .done (.failure recovered error) cur') :
    joined f p q src cur = .done (.failure recovered error) cur' := by
  unfold joined
  simp only [bind_apply, hp, pure_apply]

theorem joined_of_success_halted
    {alt : Option Located}
    (hp : p src cur = .done (.success recovered output alt) mid)
    (hq : q src mid = .halted cause cur') :
    joined f p q src cur = .halted cause cur' := by
  unfold joined
  simp only [bind_apply, hp, hq]

theorem joined_of_success_failure
    {a : Finding}
    (hp : p src cur = .done (.success recovered output (alt.map Finding.located)) mid)
    (hq : q src mid = .done (.failure recovered' a.located) cur') :
    joined f p q src cur =
      .done (.failure (recovered ++ recovered') (a.withAlt alt).located) cur' := by
  unfold joined
  simp only [bind_apply, hp, hq, Finding.max_withAlt, ofExcept_ok, pure_apply]

theorem joined_of_success
    (hp : p src cur = .done (.success recovered output (alt.map Finding.located)) mid)
    (hq : q src mid = .done (.success recovered' output' (alt'.map Finding.located)) cur') :
    joined f p q src cur =
      .done (.success (recovered ++ recovered') (f output output')
        ((Option.merge Finding.merge alt alt').map Finding.located)) cur' := by
  unfold joined
  simp only [bind_apply, hp, hq, Scan.mergeAlts, Located.mergeAlts_located, ofExcept_ok,
    pure_apply]

/-- Whether what a parser finds furthest keeps its contents. -/
def KeepsContents (p : Parser) (src : Source) : Prop :=
  ∀ ⦃cur cur' : Cursor⦄ ⦃r : Result⦄, p src cur = .done r cur' → AltIsDetailed r.furthest

/-- Where the first two parsers succeed, the run of the third one decides. -/
theorem joined_assoc_of_success
    {R : Value → Value → Prop}
    (hp : p src cur = .done (.success recovered output (alt.map Finding.located)) mid)
    (hq : q src mid = .done (.success recovered' output' (alt'.map Finding.located)) cur')
    (hr : r.KeepsContents src)
    (hR : ∀ w, R (f (g output output') w) (f' output (g' output' w))) :
    Outcome.Matches R (joined f (joined g p q) r src cur) (joined f' p (joined g' q r) src cur) := by
  have hpair := joined_of_success hp hq (f := g)
  cases hlast : r src cur' with
  | halted cause stop =>
      rw [joined_of_success_halted hpair hlast,
        joined_of_success_halted hp (joined_of_success_halted hq hlast)]
      exact .halted
  | done result stop =>
      have hkeeps := hr hlast
      cases result with
      | failure recovered'' error =>
          obtain ⟨a, rfl⟩ := Located.exists_finding (hkeeps error rfl)
          rw [joined_of_success_failure hpair hlast,
            joined_of_success_failure hp (joined_of_success_failure hq hlast),
            List.append_assoc, Finding.withAlt_merge]
          exact .done (.failure (Finding.withAlt_comm a alt alt'))
      | success recovered'' output'' alt'' =>
          obtain ⟨a, rfl⟩ := Located.altIsDetailed_iff.1 hkeeps
          have hmerge : Option.merge Finding.merge (Option.merge Finding.merge alt alt') a =
              Option.merge Finding.merge alt (Option.merge Finding.merge alt' a) :=
            Std.Associative.assoc alt alt' a
          rw [joined_of_success hpair hlast, joined_of_success hp (joined_of_success hq hlast),
            List.append_assoc, hmerge]
          exact .done (.success (hR output''))

/-- Three parsers may be bracketed either way if their outputs may. -/
theorem joined_assoc
    {R : Value → Value → Prop}
    (hp : p.KeepsContents src)
    (hq : q.KeepsContents src)
    (hr : r.KeepsContents src)
    (hR : ∀ u v w, R (f (g u v) w) (f' u (g' v w))) :
    Outcome.Matches R (joined f (joined g p q) r src cur) (joined f' p (joined g' q r) src cur) := by
  cases hfirst : p src cur with
  | halted cause stop =>
      rw [joined_of_halted (joined_of_halted hfirst), joined_of_halted hfirst]
      exact .halted
  | done result mid =>
      have hkeeps := hp hfirst
      cases result with
      | failure recovered error =>
          obtain ⟨a, rfl⟩ := Located.exists_finding (hkeeps error rfl)
          rw [joined_of_failure (joined_of_failure hfirst), joined_of_failure hfirst]
          exact .done (.failure (.refl a))
      | success recovered output alt =>
          obtain ⟨a, rfl⟩ := Located.altIsDetailed_iff.1 hkeeps
          cases hsecond : q src mid with
          | halted cause stop =>
              rw [joined_of_halted (joined_of_success_halted hfirst hsecond),
                joined_of_success_halted hfirst (joined_of_halted hsecond)]
              exact .halted
          | done result' stop =>
              have hkeeps' := hq hsecond
              cases result' with
              | failure recovered' error =>
                  obtain ⟨b, rfl⟩ := Located.exists_finding (hkeeps' error rfl)
                  rw [joined_of_failure (joined_of_success_failure hfirst hsecond),
                    joined_of_success_failure hfirst (joined_of_failure hsecond)]
                  exact .done (.failure (.refl (b.withAlt a)))
              | success recovered' output' alt' =>
                  obtain ⟨b, rfl⟩ := Located.altIsDetailed_iff.1 hkeeps'
                  exact joined_assoc_of_success hfirst hsecond hr (hR output output')

end Known

section Plans

variable {p q : Parser} {src : Source} {cur : Cursor}

/-- A parser, and after a success something that goes on from what it gave. -/
def onward (p : Parser) (k : List Located → Value → Option Located → Parser) : Parser := do
  match ← p with
  | .success recovered output alt => k recovered output alt
  | .failure recovered error => return .failure recovered error

/-- The first step of a plan has nothing to merge with. -/
theorem step_nil (p : Parser) (k : Value → List Located → Option Located → Parser) :
    step p k [] none = p.onward fun recovered output alt => k output recovered alt := by
  unfold step onward
  refine bind_congr fun result => ?_
  cases result with
  | success recovered output alt =>
      simp only [Scan.mergeAlts, Located.mergeAlts_none_left, ofExcept_ok, pure_bind,
        List.nil_append]
  | failure recovered error => rfl

/-- What goes on from a pair goes on from its first output with the second parser as a step. -/
theorem onward_andThen
    (p q : Parser)
    (k : List Located → Value → Option Located → Parser) :
    (andThen p q).onward k = p.onward fun recovered output =>
      step q (fun output' recovered' => k recovered' (.tuple [output, output'])) recovered := by
  unfold onward andThen step
  rw [bind_assoc]
  refine bind_congr fun first => ?_
  cases first with
  | failure recovered error => rw [pure_bind]
  | success recovered output alt =>
      simp only [bind_assoc]
      refine bind_congr fun second => ?_
      cases second with
      | success recovered' output' alt' => simp only [bind_assoc, pure_bind]
      | failure recovered' error => simp only [bind_assoc, pure_bind]

/-- What goes on from an output by changing it maps it. -/
theorem onward_pure (p : Parser) (f : Value → Value) :
    (p.onward fun recovered output alt => return .success recovered (f output) alt) =
      map (fun v => .ok (f v)) p := by
  unfold onward map
  refine bind_congr fun result => ?_
  cases result with
  | success recovered output alt => simp only [ofExcept_ok, pure_bind]
  | failure recovered error => rfl

/-- Whether a run of a parser does not end with a success. -/
def Stuck (p : Parser) (src : Source) (cur : Cursor) : Prop :=
  ∀ ⦃r : Result⦄ ⦃cur' : Cursor⦄, p src cur = .done r cur' → r.isSuccess = false

theorem Stuck.of_eq (h : p.Stuck src cur) (heq : q src cur = p src cur) : q.Stuck src cur := by
  unfold Stuck
  rwa [heq]

/-- Where a parser does not succeed, nothing is run after it. -/
theorem Stuck.andThen_eq (h : p.Stuck src cur) (q : Parser) :
    andThen p q src cur = p src cur := by
  cases hp : p src cur with
  | halted cause stop =>
      rw [andThen_eq_joined, joined_of_halted hp]
  | done r stop =>
      cases r with
      | success recovered output alt => cases h hp
      | failure recovered error => exact andThen_of_failure hp q

/-- Where a parser does not succeed, none of the parsers after it is run. -/
theorem Stuck.foldl_eq (h : p.Stuck src cur) (qs : List Parser) :
    qs.foldl andThen p src cur = p src cur := by
  induction qs generalizing p with
  | nil => rfl
  | cons q qs ih =>
      have hfirst := h.andThen_eq q
      rw [List.foldl_cons, ih (h.of_eq hfirst), hfirst]

/-- Where a parser does not succeed, there is no output to map. -/
theorem Stuck.map_eq (h : p.Stuck src cur) (f : Value → Except Fault Value) :
    map f p src cur = p src cur := by
  cases hp : p src cur with
  | halted cause stop =>
      unfold map
      simp only [bind_apply, hp]
  | done r stop =>
      cases r with
      | success recovered output alt => cases h hp
      | failure recovered error => exact map_of_failure hp f

/-- A parser succeeds if its output is mapped without a fault and that succeeds. -/
theorem Stuck.of_map
    {f : Value → Value}
    (h : (map (fun v => .ok (f v)) p).Stuck src cur) :
    p.Stuck src cur := by
  intro r cur' hp
  cases r with
  | success recovered output alt => cases h (map_of_success hp rfl)
  | failure recovered error => rfl

/-- If a sequence succeeds, its output pairs up one output for each parser. -/
theorem foldl_andThen_success
    {qs : List Parser}
    {recovered : List Located}
    {output : Value}
    {alt : Option Located}
    {cur' : Cursor}
    (h : qs.foldl andThen p src cur = .done (.success recovered output alt) cur') :
    ∃ recovered' v alt' mid vs,
      p src cur = .done (.success recovered' v alt') mid ∧
        vs.length = qs.length ∧ output = v.paired vs := by
  induction qs generalizing p with
  | nil => exact ⟨_, output, _, _, [], h, rfl, rfl⟩
  | cons q qs ih =>
      obtain ⟨_, _, _, _, vs, hpair, hlength, houtput⟩ := ih h
      obtain ⟨_, v, _, mid, _, w, _, hp, -, -, -, rfl⟩ := andThen_success hpair
      exact ⟨_, v, _, mid, w :: vs, hp, congrArg (· + 1) hlength, houtput⟩

end Plans

end Parser

/-- A sequence of grammars runs their parsers in sequence. -/
theorem Grammar.parser_foldl_andThen
    (resolve : Ref → Parser)
    (g : Grammar)
    (gs : List Grammar) :
    (gs.foldl Grammar.andThen g).parser resolve =
      (gs.map (Grammar.parser resolve)).foldl Parser.andThen (g.parser resolve) := by
  rw [List.foldl_map]
  refine (List.foldl_hom (Grammar.parser resolve) fun g h => ?_).symm
  rw [Grammar.parser]

namespace Plan

variable (resolve : Ref → Parser)

/-- Grammars that are known beforehand do not depend on the output before them. -/
theorem stepsFrom_fixed (outputs : List Value) (v w : Value) (gs : List Grammar) :
    stepsFrom outputs v (gs.map Step.fixed) = stepsFrom outputs w (gs.map Step.fixed) := by
  cases gs with
  | nil => rfl
  | cons g gs => rfl

/-- The steps that follow a parser sequence their grammars behind it. -/
theorem parser_stepsFrom (p : Parser) (n : Nat) (v : Value) (gs : List Grammar) :
    (p.onward fun recovered output =>
        (stepsFrom (output.unpaired n) v (gs.map Step.fixed)).parser resolve recovered) =
      Parser.map (fun output => .ok (.list (output.unpaired (n + gs.length))))
        ((gs.map (Grammar.parser resolve)).foldl Parser.andThen p) := by
  induction gs generalizing p n v with
  | nil =>
      simp only [List.map_nil, stepsFrom, Plan.parser]
      exact Parser.onward_pure p fun output => .list (output.unpaired n)
  | cons g gs ih =>
      -- The next step extends the list by its output, as taking a pair apart does.
      have hstep : (p.onward fun recovered output =>
            (stepsFrom (output.unpaired n) v ((g :: gs).map Step.fixed)).parser resolve recovered) =
          (Parser.andThen p (g.parser resolve)).onward fun recovered output =>
            (stepsFrom (output.unpaired (n + 1)) v (gs.map Step.fixed)).parser resolve
              recovered := by
        rw [Parser.onward_andThen]
        simp only [List.map_cons, stepsFrom, Plan.parser_step, Value.unpaired]
        simp only [stepsFrom_fixed _ _ v]
      have hdeep : n + (g :: gs).length = n + 1 + gs.length := by
        rw [List.length_cons]
        omega
      rw [hstep, ih, hdeep, List.map_cons, List.foldl_cons]

/-- A plan that runs grammars in order is their sequence, with the pairs taken apart. -/
theorem parser_sequence (g : Grammar) (gs : List Grammar) :
    (sequence (g :: gs)).parser resolve [] none =
      Parser.map (fun v => .ok (.list (v.unpaired gs.length)))
        ((gs.map (Grammar.parser resolve)).foldl Parser.andThen (g.parser resolve)) := by
  have hrest := parser_stepsFrom resolve (g.parser resolve) 0 .null gs
  rw [Nat.zero_add] at hrest
  rw [← hrest, sequence, ofSteps, List.map_cons, stepsFrom, parser_step, Parser.step_nil]
  simp only [stepsFrom_fixed _ _ .null, List.nil_append, Value.unpaired]

end Plan

namespace Environment

open Repetition (Detailed)

variable (env : Environment) (a b c : Grammar) (src : Source) (cur : Cursor)

variable {env a src} in
/-- What a run finds furthest is what the grammar answers there. -/
theorem keepsContents_of_detailed (h : Detailed ((env.parser a).Answers src)) :
    (env.parser a).KeepsContents src := by
  intro cur cur' r hrun l hl
  exact h (parser_steady.answers hrun) l (List.mem_append_right _ (Option.mem_toList.2 hl))

/-- **Sequencing is associative.**  Take three grammars whose diagnostics keep their contents.

* Two sequences of them that are bracketed in different ways end at the same cursor, for the same
  cause if they are halted.  Otherwise both succeed or both fail, and have recovered from the same.
  Successes have the same alternative, and their outputs are the same but for the bracketing of the
  pairs.  Failures lie at the same position and expect the same, and if one of them names an unclosed
  delimiter, so does the other.
* Two chains of them agree in the same way, and have equal outputs. -/
theorem andThen_assoc_matches
    (ha : Detailed ((env.parser a).Answers src))
    (hb : Detailed ((env.parser b).Answers src))
    (hc : Detailed ((env.parser c).Answers src)) :
    Outcome.Matches Value.Rebracketed
        (env.parser ((a.andThen b).andThen c) src cur)
        (env.parser (a.andThen (b.andThen c)) src cur) ∧
      Outcome.Matches Eq
        (env.parser ((a.chain b).chain c) src cur)
        (env.parser (a.chain (b.chain c)) src cur) := by
  let parser (g : Grammar) : Parser := g.parser (env.resolve (env.depth src))
  have hkeeps {g : Grammar} (h : Detailed ((env.parser g).Answers src)) :
      (parser g).KeepsContents src := keepsContents_of_detailed h
  have hchain (g h : Grammar) : parser (g.chain h) =
      Parser.joined (fun v w => .list (Action.chainItems v ++ Action.chainItems w)) (parser g)
        (parser h) := Parser.chained_eq_joined (parser g) (parser h)
  constructor
  · exact Parser.joined_assoc (hkeeps ha) (hkeeps hb) (hkeeps hc) Value.Rebracketed.mk
  · show Outcome.Matches Eq (parser ((a.chain b).chain c) src cur)
      (parser (a.chain (b.chain c)) src cur)
    rw [hchain, hchain, hchain, hchain]
    refine Parser.joined_assoc (hkeeps ha) (hkeeps hb) (hkeeps hc) fun u v w => ?_
    exact congrArg Value.list (List.append_assoc ..)

/-- Letters that may be repeated, and then one that is needed; the input ends before it.  Either way
the failure expects all three of them, but in another order. -/
theorem andThen_assoc_matches_of_letters :
    let a : Grammar := (Grammar.just .simple (.str "a")).repeated 0 none
    let b : Grammar := (Grammar.just .simple (.str "b")).optional
    let c : Grammar := Grammar.just .simple (.str "c")
    let src : Source := .ofText "a" .null
    Detailed ((parser {} a).Answers src) ∧ Detailed ((parser {} b).Answers src) ∧
      Detailed ((parser {} c).Answers src) ∧
      ∃ (d d' : Finding) (cur' : Cursor),
        parser {} ((a.andThen b).andThen c) src {} = .done (.failure [] d.located) cur' ∧
        parser {} (a.andThen (b.andThen c)) src {} = .done (.failure [] d'.located) cur' ∧
        d.detail.expected.items = [.str "c", .str "a", .str "b"] ∧
        d'.detail.expected.items = [.str "c", .str "b", .str "a"] ∧ d.Alike d' := by
  intro a b c src
  have ha : Detailed ((parser {} a).Answers src) :=
    detailed_of_speaks (Grammar.speaks_repeated 0 none (Grammar.speaks_just _))
  have hb : Detailed ((parser {} b).Answers src) :=
    detailed_of_speaks (Grammar.speaks_optional (Grammar.speaks_just _))
  have hc : Detailed ((parser {} c).Answers src) := detailed_of_speaks (Grammar.speaks_just _)
  obtain ⟨hpairs, -⟩ := andThen_assoc_matches {} a b c src {} ha hb hc
  obtain ⟨d, d', cur', hleft, hright, hitems, hitems'⟩ :
      ∃ (d d' : Finding) (cur' : Cursor),
        parser {} ((a.andThen b).andThen c) src {} = .done (.failure [] d.located) cur' ∧
        parser {} (a.andThen (b.andThen c)) src {} = .done (.failure [] d'.located) cur' ∧
        d.detail.expected.items = [.str "c", .str "a", .str "b"] ∧
        d'.detail.expected.items = [.str "c", .str "b", .str "a"] :=
    ⟨⟨_, _, _⟩, ⟨_, _, _⟩, _, rfl, rfl, rfl, rfl⟩
  rw [hleft, hright] at hpairs
  exact ⟨ha, hb, hc, d, d', cur', hleft, hright, hitems, hitems', hpairs.alike⟩

variable (g : Grammar) (gs : List Grammar)

/-- **A plan that runs grammars in order is their sequence.**  Take one or more grammars of any
dialects, also of those whose diagnostics cannot be bracketed in another way.

* The plan that runs them and answers the list of their outputs is the sequence of them that is
  bracketed to the left, with the pairs of its output taken apart: it has the same outputs, the same
  recoveries, the same alternative and the same diagnostic of a failure, and ends in the same state.
* The output of the sequence pairs up one output for each grammar, and these are the list.
* Where some grammars do not succeed, nothing that is to come after them is run, so the plan with
  these does the same. -/
theorem sequence_eq_andThen :
    env.parser (.generate (.sequence (g :: gs))) =
        env.parser (.map (fun v => .ok (.list (v.unpaired gs.length))) (gs.foldl .andThen g)) ∧
      (∀ src cur recovered output alt cur',
        env.parser (gs.foldl .andThen g) src cur =
            .done (.success recovered output alt) cur' →
          ∃ v vs, vs.length = gs.length ∧ output = v.paired vs ∧
            output.unpaired gs.length = v :: vs) ∧
      ∀ src cur more,
        (∀ r cur', env.parser (.generate (.sequence (g :: gs))) src cur = .done r cur' →
          r.isSuccess = false) →
        env.parser (.generate (.sequence (g :: (gs ++ more)))) src cur =
          env.parser (.generate (.sequence (g :: gs))) src cur := by
  have hplan (src : Source) (gs : List Grammar) :
      (Grammar.generate (.sequence (g :: gs))).parser (env.resolve (env.depth src)) =
        Parser.map (fun v => .ok (.list (v.unpaired gs.length)))
          ((gs.map (Grammar.parser (env.resolve (env.depth src)))).foldl Parser.andThen
            (g.parser (env.resolve (env.depth src)))) := by
    rw [Grammar.parser, Plan.parser_sequence]
  refine ⟨?_, ?_, ?_⟩
  · funext src cur
    show (Grammar.generate _).parser _ src cur = (Grammar.map _ _).parser _ src cur
    rw [hplan, Grammar.parser, Grammar.parser_foldl_andThen]
  · intro src cur recovered output alt cur' hrun
    change (gs.foldl Grammar.andThen g).parser (env.resolve (env.depth src)) src cur = _ at hrun
    rw [Grammar.parser_foldl_andThen] at hrun
    obtain ⟨-, v, -, -, vs, -, hlength, rfl⟩ := Parser.foldl_andThen_success hrun
    rw [List.length_map] at hlength
    have hunpaired := Value.unpaired_paired 0 v vs
    rw [Nat.zero_add, hlength] at hunpaired
    exact ⟨v, vs, hlength, rfl, hunpaired⟩
  · intro src cur more hstuck
    change ((Grammar.generate (.sequence (g :: gs))).parser
      (env.resolve (env.depth src))).Stuck src cur at hstuck
    show (Grammar.generate (.sequence (g :: (gs ++ more)))).parser _ src cur =
      (Grammar.generate (.sequence (g :: gs))).parser _ src cur
    rw [hplan] at hstuck
    have hbefore := Parser.Stuck.of_map hstuck
    have hall := hbefore.foldl_eq (more.map (Grammar.parser (env.resolve (env.depth src))))
    rw [hplan, hplan, List.map_append, List.foldl_append, (hbefore.of_eq hall).map_eq, hall,
      hbefore.map_eq]

/-- Terse diagnostics, whose mergers show their order: two grammars that leave an alternative each, a
third one that fails where these lie, and a fourth one that is not run. -/
theorem sequence_eq_andThen_of_terse :
    let found (n : Int) (text : String) : Grammar :=
      .scripted 1 false (.success [] (.int n) (some ⟨1, .terse text⟩))
    let missing : Grammar := .scripted 0 false (.failure [] ⟨1, .terse "c"⟩)
    let both : String := "(" ++ "a" ++ "&" ++ "b" ++ ")"
    let src : Source := .ofText "xyz" .null
    (∃ alt cur', parser {} ((found 1 "a").andThen (found 2 "b")) src {} =
        .done (.success [] (.tuple [.int 1, .int 2]) alt) cur' ∧
      parser {} (.generate (.sequence [found 1 "a", found 2 "b"])) src {} =
        .done (.success [] (.list [.int 1, .int 2]) alt) cur' ∧
      ∃ (v : Value) (vs : List Value), vs.length = 1 ∧
        Value.tuple [.int 1, .int 2] = v.paired vs) ∧
    ∃ cur', parser {} (((found 1 "a").andThen (found 2 "b")).andThen missing) src {} =
        .done (.failure [] ⟨1, .terse ("(" ++ "c" ++ "&" ++ both ++ ")")⟩) cur' ∧
      parser {} (.generate (.sequence [found 1 "a", found 2 "b", missing, found 4 "d"])) src {} =
        .done (.failure [] ⟨1, .terse ("(" ++ "c" ++ "&" ++ both ++ ")")⟩) cur' := by
  intro found missing both src
  constructor
  · obtain ⟨hplan, hpaired, -⟩ := sequence_eq_andThen {} (found 1 "a") [found 2 "b"]
    obtain ⟨alt, cur', hrun, hmap⟩ : ∃ alt cur',
        parser {} ((found 1 "a").andThen (found 2 "b")) src {} =
          .done (.success [] (.tuple [.int 1, .int 2]) alt) cur' ∧
        parser {} (.map (fun v => .ok (.list (v.unpaired 1)))
            ((found 1 "a").andThen (found 2 "b"))) src {} =
          .done (.success [] (.list [.int 1, .int 2]) alt) cur' := ⟨_, _, rfl, rfl⟩
    obtain ⟨v, vs, hlength, houtput, -⟩ := hpaired _ _ _ _ _ _ hrun
    exact ⟨alt, cur', hrun, (congrFun (congrFun hplan src) {}).trans hmap, v, vs, hlength, houtput⟩
  · obtain ⟨hplan, -, hstops⟩ := sequence_eq_andThen {} (found 1 "a") [found 2 "b", missing]
    obtain ⟨cur', hrun, hmap⟩ : ∃ cur',
        parser {} (((found 1 "a").andThen (found 2 "b")).andThen missing) src {} =
          .done (.failure [] ⟨1, .terse ("(" ++ "c" ++ "&" ++ both ++ ")")⟩) cur' ∧
        parser {} (.map (fun v => .ok (.list (v.unpaired 2)))
            (((found 1 "a").andThen (found 2 "b")).andThen missing)) src {} =
          .done (.failure [] ⟨1, .terse ("(" ++ "c" ++ "&" ++ both ++ ")")⟩) cur' :=
      ⟨_, rfl, rfl⟩
    have hfails := (congrFun (congrFun hplan src) {}).trans hmap
    refine ⟨cur', hrun, (hstops src {} [found 4 "d"] fun r cur'' hrun' => ?_).trans hfails⟩
    cases hfails.symm.trans hrun'
    rfl

end Environment
end Resync
