import Resync.Grammar.Combinator
import Resync.Grammar.Scope
import Resync.Proofs.Depth
import Resync.Proofs.Furthest

/-!
# Late binding

A reference behaves like what it stands for.  Wherever a grammar, or a definition that it refers to,
mentions a reference, the definition may stand in its place, and the other way round, in as many
places as one likes: all runs come to the same.  The two sides unfold the recursion at different
places, so one run may follow fewer references than the other; the bound on their depth is felt on
neither side.

A grammar that is built once keeps its own body, and its references mean what they mean at the time
of the run.  So a rule that is replaced is replaced for all rules that refer to it, and a definition
that was taken from the dictionary before stays what it was, up to what it refers to.
-/

namespace Resync

/-- Whether two runs come to the same, to one value or one fault with one cursor, or both go on for
ever. -/
inductive Outcome.Same {α : Type} : Outcome α → Outcome α → Prop
  | ended (o : Outcome α) : Same o o
  | endless (c c' : Cursor) : Same (.halted .exhausted c) (.halted .exhausted c')

theorem Outcome.Same.of_ended
    {α : Type}
    {o o' : Outcome α}
    (h : o.Ended → o' = o)
    (h' : o'.Ended → o = o') :
    o.Same o' := by
  by_cases hended : o.Ended
  · rw [h hended]
    exact .ended o
  · by_cases hended' : o'.Ended
    · rw [h' hended']
      exact .ended o'
    · obtain ⟨c, rfl⟩ := exists_of_not_ended hended
      obtain ⟨c', rfl⟩ := exists_of_not_ended hended'
      exact .endless c c'

theorem Outcome.Same.trans
    {α : Type}
    {o o' o'' : Outcome α}
    (h : o.Same o')
    (h' : o'.Same o'') :
    o.Same o'' := by
  cases h with
  | ended => exact h'
  | endless c c' =>
      cases h' with
      | ended => exact .endless c c'
      | endless _ c'' => exact .endless c c''

theorem Outcome.Same.symm
    {α : Type}
    {o o' : Outcome α}
    (h : o.Same o') :
    o'.Same o := by
  cases h with
  | ended => exact .ended o
  | endless c c' => exact .endless c' c

/-- What comes to the same as a run that returns returns the same. -/
theorem Outcome.Same.done
    {α : Type}
    {o o' : Outcome α}
    {a : α}
    {cur : Cursor}
    (h : o.Same o')
    (ho : o = .done a cur) :
    o' = .done a cur := by
  cases h with
  | ended => exact ho
  | endless => cases ho

/-- In what grammars may differ whose references are looked up in two environments: references may
correspond to others, and what a reference stands for may stand in its place on either side. -/
def Likeness.between (env env' : Environment) (Refs : Ref → Ref → Prop) : Likeness where
  Refs := Refs
  Unfolds target definition := env.lookup target = .ok definition
  Folds target definition := env'.lookup target = .ok definition
  Resumes _ := True

namespace Environment

/-- Whether references that correspond stand for grammars that are alike, or both for nothing. -/
def Matches (env env' : Environment) (Refs : Ref → Ref → Prop) : Prop :=
  ∀ target target', Refs target target' →
    (∃ f, env.lookup target = .error f ∧ env'.lookup target' = .error f) ∨
      ∃ definition definition', env.lookup target = .ok definition ∧
        env'.lookup target' = .ok definition' ∧
        (Likeness.between env env' Refs).Grammars definition definition'

/-- The same references, and one of them for another. -/
def Redirects (first second : Ref) (target target' : Ref) : Prop :=
  target' = target ∨ target = first ∧ target' = second

/-- What a reference runs at present. -/
def binding (env : Environment) : Ref → Parser := fun target => env.parser (.ref target)

section Bisimulation

variable {env env' : Environment} {Refs : Ref → Ref → Prop} {g g' : Grammar}
variable {src : Source} {start : Nat}

/-- A definition is in step with the reference that stands for it. -/
theorem definition_inStep
    {target : Ref}
    {definition : Grammar}
    (hlookup : env.lookup target = .ok definition) :
    (Lockstep.exact src start).Parsers
      (definition.parser (env.resolve (env.depth src)))
      (env.resolve (env.depth src) target) := by
  have hstep := env.parser_inStep_depth src start (env.depth src + 1) (.ref target)
  rw [Grammar.parser, Grammar.parser, env.resolve_succ_of_ok hlookup] at hstep
  exact hstep

/-- Grammars that are alike run in step if their references do.  What stands in the place of a
reference on the first side may take one step less. -/
theorem alike_inStep
    {bound : Nat}
    (hrefs : ∀ target target', Refs target target' →
      (Lockstep.exact src start).Parsers (env.resolve bound target)
        (env'.resolve (env'.depth src) target'))
    (hg : (Likeness.between env env' Refs).Grammars g g') :
    (Lockstep.exact src start).Parsers
      (g.parser (env.resolve bound)) (g'.parser (env'.resolve (env'.depth src))) := by
  have hstep : (Likeness.between env env' Refs).InStep (Lockstep.exact src start)
      Parser.recoverWith Parser.recoverWith (env.resolve bound)
      (env'.resolve (env'.depth src)) := by
    constructor
    · exact fun h => hrefs _ _ h
    · intro target definition q hlookup hq
      rw [Grammar.parserVia_recoverWith] at hq
      cases bound with
      | zero => exact Lockstep.exhausted
      | succ bound =>
          rw [env.resolve_succ_of_ok hlookup]
          exact (env.parser_inStep (Nat.le_succ bound) definition).trans hq
    · intro target' definition' p hlookup hp
      rw [Grammar.parserVia_recoverWith] at hp
      exact hp.trans (definition_inStep hlookup)
    · exact fun _ hp => hp.recoverWith (fun _ => rfl) fun _ _ _ _ => rfl
  have halike := hg.inStep hstep
  rwa [Grammar.parserVia_recoverWith, Grammar.parserVia_recoverWith] at halike

namespace Matches

theorem symm (h : env.Matches env' Refs) : env'.Matches env (flip Refs) := by
  intro target' target hrefs
  rcases h target target' hrefs with ⟨f, hleft, hright⟩ | ⟨d, d', hleft, hright, halike⟩
  · exact Or.inl ⟨f, hright, hleft⟩
  · exact Or.inr ⟨d', d, hright, hleft, halike.symm⟩

/-- References that correspond run in step, however deep the first one follows others.  The
induction is on that depth; on the second side a reference does what its definition does. -/
theorem resolve_inStep
    (h : env.Matches env' Refs)
    (bound : Nat)
    (target target' : Ref)
    (hrefs : Refs target target') :
    (Lockstep.exact src start).Parsers (env.resolve bound target)
      (env'.resolve (env'.depth src) target') := by
  induction bound generalizing target target' with
  | zero => exact Lockstep.exhausted
  | succ bound ih =>
      rcases h target target' hrefs with ⟨f, hleft, hright⟩ | ⟨d, d', hleft, hright, halike⟩
      · obtain ⟨less, hless⟩ := Nat.exists_eq_succ_of_ne_zero (Nat.ne_of_gt (env'.depth_pos src))
        rw [env.resolve_succ_of_error hleft, hless, env'.resolve_succ_of_error hright]
        exact Lockstep.fault f
      · rw [env.resolve_succ_of_ok hleft]
        exact (alike_inStep ih halike).trans (definition_inStep hright)

/-- Grammars that are alike come to the same where references that correspond stand for grammars
that are alike. -/
theorem parser_same
    (h : env.Matches env' Refs)
    (hg : (Likeness.between env env' Refs).Grammars g g')
    (src : Source)
    (cur : Cursor) :
    (env.parser g src cur).Same (env'.parser g' src cur) := by
  refine .of_ended (fun hended => ?_) fun hended => ?_
  · exact (alike_inStep (h.resolve_inStep _) hg cur cur .self rfl).eq hended
  · exact (alike_inStep (h.symm.resolve_inStep _) hg.symm cur cur .self rfl).eq hended

theorem refl (env : Environment) : env.Matches env Eq := by
  rintro target _ rfl
  cases hlookup : env.lookup target with
  | error f => exact Or.inl ⟨f, rfl, rfl⟩
  | ok definition =>
      exact Or.inr ⟨definition, definition, rfl, rfl, .refl (fun _ => rfl) (fun _ => trivial) _⟩

/-- A reference may stand for another one if their definitions are alike with this done in them. -/
theorem redirects
    {first second : Ref}
    {definition definition' : Grammar}
    (hfirst : env.lookup first = .ok definition)
    (hsecond : env.lookup second = .ok definition')
    (halike : (Likeness.between env env (Redirects first second)).Grammars
      definition definition') :
    env.Matches env (Redirects first second) := by
  rintro target target' (rfl | ⟨rfl, rfl⟩)
  · cases hlookup : env.lookup target' with
    | error f => exact Or.inl ⟨f, rfl, rfl⟩
    | ok d => exact Or.inr ⟨d, d, rfl, rfl, .refl (fun _ => Or.inl rfl) (fun _ => trivial) d⟩
  · exact Or.inr ⟨definition, definition', hfirst, hsecond, halike⟩

end Matches
end Bisimulation

section Binding

variable (env : Environment)

/-- A grammar keeps its body, in which the references run what they are bound to. -/
theorem parser_binding (g : Grammar) (src : Source) (cur : Cursor) :
    (env.parser g src cur).Same (g.parser env.binding src cur) := by
  have hbinding (target : Ref) : (Lockstep.exact src cur.offset).Parsers
      (env.resolve (env.depth src) target) (env.binding target) := by
    exact env.parser_inStep (Nat.le_refl _) (.ref target)
  have hbinding' (target : Ref) : (Lockstep.exact src cur.offset).Parsers
      (env.binding target) (env.resolve (env.depth src) target) := by
    exact env.parser_inStep (Nat.le_refl _) (.ref target)
  refine .of_ended (fun hended => ?_) fun hended => ?_
  · exact (Lockstep.Parsers.grammar hbinding g cur cur .self rfl).eq hended
  · exact (Lockstep.Parsers.grammar hbinding' g cur cur .self rfl).eq hended

/-- A reference is bound to what its definition runs. -/
theorem binding_same
    {target : Ref}
    {definition : Grammar}
    (hlookup : env.lookup target = .ok definition)
    (src : Source)
    (cur : Cursor) :
    (env.binding target src cur).Same (env.parser definition src cur) :=
  (Matches.refl env).parser_same (.unfold hlookup (.refl (fun _ => rfl) (fun _ => trivial) _))
    src cur

end Binding
end Environment

section Recursion

/-- A recursive grammar is a reference to a new cell.  Its body is built with this reference, and
then defines the cell. -/
theorem Build.recursive_run (body : Grammar → Build Grammar) (cells : Cells) :
    (Build.recursive body).run cells =
      ((body (.ref (.cell cells.size))).run cells.alloc).bind fun built =>
        (built.2.define cells.size built.1).map fun cells' =>
          (.ref (.cell cells.size), cells') := by
  simp only [recursive, undefined, StateT.run_bind, StateT.run_get, StateT.run_set]
  change ((body (.ref (.cell cells.size))).run cells.alloc >>= fun _ => _) = _
  cases (body (.ref (.cell cells.size))).run cells.alloc with
  | error f => rfl
  | ok built =>
      change ((liftM (built.2.define cells.size built.1) : Build Cells).run built.2 >>= _) =
        Except.map _ _
      cases built.2.define cells.size built.1 with
      | error f => rfl
      | ok cells' => rfl

theorem Cells.get_of_define
    {cells cells' : Cells}
    {i : Nat}
    {definition : Grammar}
    (hdefine : cells.define i definition = .ok cells')
    (hi : i < cells.size) :
    cells'.get i = .ok definition := by
  obtain ⟨slot, hslot, hcells⟩ := bind_eq_ok.1 hdefine
  obtain ⟨-, rfl⟩ := WriteOnce.set_eq_ok hslot
  cases hcells
  have hget : (cells.slots.set i ⟨some definition⟩).getD i .unset = ⟨some definition⟩ := by
    rw [List.getD_eq_getElem?_getD, List.getElem?_set_self hi]
    rfl
  unfold Cells.get Cells.slot
  rw [hget]

/-- The handle that a body is given is the recursive grammar itself, and what the body builds is
what it stands for if the cell is still there. -/
theorem Build.recursive_eq_ok
    {body : Grammar → Build Grammar}
    {cells cells' : Cells}
    {p : Grammar}
    (hrun : (Build.recursive body).run cells = .ok (p, cells')) :
    p = .ref (.cell cells.size) ∧
      ∃ definition built, (body p).run cells.alloc = .ok (definition, built) ∧
        (cells.size < built.size → cells'.get cells.size = .ok definition) := by
  rw [recursive_run] at hrun
  obtain ⟨⟨definition, built⟩, hbody, hrest⟩ := bind_eq_ok.1 hrun
  obtain ⟨defined, hdefine, hpair⟩ := map_eq_ok.1 hrest
  cases hpair
  exact ⟨rfl, definition, built, hbody, Cells.get_of_define hdefine⟩

end Recursion

namespace Dictionary

/-- The present rule of a name with one more alternative. -/
def withAlternative
    (name : String)
    (extra : Rules → Build Grammar)
    (rules : Rules) :
    Build Grammar := do
  let old ← (rules.get name : Except Fault Grammar)
  let new ← extra rules
  return old.orElse new

theorem withAlternative_run
    (name : String)
    (extra : Rules → Build Grammar)
    (rules : Rules)
    (cells : Cells) :
    (withAlternative name extra rules).run cells =
      (rules.get name).bind fun old =>
        ((extra rules).run cells).map fun built => (old.orElse built.1, built.2) := by
  unfold withAlternative
  cases rules.get name with
  | error f => rfl
  | ok old =>
      change ((extra rules).run cells >>= fun _ => _) = Except.map _ _
      cases (extra rules).run cells with
      | error f => rfl
      | ok built => rfl

variable {d d' : Dictionary} {name : String} {body : Rules → Build Grammar}
variable {entries before after : List (String × (Rules → Build Grammar))}

/-- Names that are not assigned keep their rules. -/
theorem get?_extend
    (hextend : d.extend entries = (d', none))
    (hname : name ∉ entries.map Prod.fst) :
    d'.rules.get? name = d.rules.get? name := by
  induction entries generalizing d with
  | nil =>
      cases hextend
      rfl
  | cons entry entries ih =>
      obtain ⟨other, body⟩ := entry
      rw [List.map_cons, List.mem_cons, not_or] at hname
      unfold extend at hextend
      cases hset : d.set other body with
      | error f =>
          rw [hset] at hextend
          cases hextend
      | ok mid =>
          rw [hset] at hextend
          obtain ⟨⟨g, cells⟩, -, hmid⟩ := bind_eq_ok.1 hset
          cases hmid
          rw [ih hextend hname.2, Rules.get?_set, if_neg hname.1]

/-- After a sequence of assignments a name stands for what the last one to it has built. -/
theorem lookup_extend
    (hextend : d.extend (before ++ (name, body) :: after) = (d', none))
    (hname : name ∉ after.map Prod.fst) :
    ∃ mid definition cells, d.extend before = (mid, none) ∧
      (body mid.rules).run mid.cells = .ok (definition, cells) ∧
      d'.environment.lookup (.rule name) = .ok definition := by
  induction before generalizing d with
  | nil =>
      rw [List.nil_append] at hextend
      unfold extend at hextend
      cases hset : d.set name body with
      | error f =>
          rw [hset] at hextend
          cases hextend
      | ok mid =>
          rw [hset] at hextend
          obtain ⟨⟨definition, cells⟩, hbody, hmid⟩ := bind_eq_ok.1 hset
          cases hmid
          have hget := get?_extend hextend hname
          rw [Rules.get?_set, if_pos rfl] at hget
          refine ⟨d, definition, cells, rfl, hbody, ?_⟩
          change d'.rules.get name = .ok definition
          rw [Rules.get, hget]
  | cons entry before ih =>
      obtain ⟨other, body'⟩ := entry
      rw [List.cons_append] at hextend
      unfold extend at hextend ⊢
      cases hset : d.set other body' with
      | error f =>
          rw [hset] at hextend
          cases hextend
      | ok mid =>
          rw [hset] at hextend
          exact ih hextend

/-- A name whose last assignment has added an alternative runs what it stood for before, or else the
alternative; references in either run what they are bound to now. -/
theorem binding_of_withAlternative
    {env : Environment}
    {extra : Rules → Build Grammar}
    {mid : Dictionary}
    {definition : Grammar}
    {cells : Cells}
    (hbuilt : (withAlternative name extra mid.rules).run mid.cells = .ok (definition, cells))
    (hlookup : env.lookup (.rule name) = .ok definition) :
    ∃ old new, mid.rules.get name = .ok old ∧
      (extra mid.rules).run mid.cells = .ok (new, cells) ∧
      ∀ src cur, (env.binding (.rule name) src cur).Same
        (Parser.orElse (old.parser env.binding) (new.parser env.binding) src cur) := by
  rw [withAlternative_run] at hbuilt
  obtain ⟨old, hold, hrest⟩ := bind_eq_ok.1 hbuilt
  obtain ⟨⟨new, cells'⟩, hnew, hpair⟩ := map_eq_ok.1 hrest
  cases hpair
  refine ⟨old, new, hold, hnew, fun src cur => ?_⟩
  have hsame := (env.binding_same hlookup src cur).trans (env.parser_binding _ src cur)
  rwa [Grammar.parser] at hsame

end Dictionary

/-- **Late binding is substitution.**  Grammars come to the same in two environments if they are the
same up to references: references that correspond stand for grammars that are alike, and in any
places on either side a reference may be replaced by what it stands for there.

A grammar keeps its own body, and its references run what they are bound to at present, which is
what their present definitions run.

The handle that the body of a recursive grammar is given is the recursive grammar itself, and stands
for what the body builds, unless the body throws the cell away.  Another recursive grammar whose
body has the first one in the place of its own handle, wherever one likes, comes to the same.

After a sequence of assignments a name is bound to what the last one to it has built.  If that was
the rule it had with one more alternative, the old rule keeps its body and sees the new rules. -/
theorem late_binding :
    (∀ (env env' : Environment) (Refs : Ref → Ref → Prop) (g g' : Grammar),
      env.Matches env' Refs → (Likeness.between env env' Refs).Grammars g g' →
        ∀ src cur, (env.parser g src cur).Same (env'.parser g' src cur)) ∧
    (∀ (env : Environment) (g : Grammar) (src : Source) (cur : Cursor),
      (env.parser g src cur).Same (g.parser env.binding src cur)) ∧
    (∀ (env : Environment) (target : Ref) (definition : Grammar),
      env.lookup target = .ok definition →
        ∀ src cur, (env.binding target src cur).Same (env.parser definition src cur)) ∧
    (∀ (body : Grammar → Build Grammar) (cells cells' : Cells) (p : Grammar),
      (Build.recursive body).run cells = .ok (p, cells') →
        p = .ref (.cell cells.size) ∧
          ∃ definition built, (body p).run cells.alloc = .ok (definition, built) ∧
            (cells.size < built.size → cells'.get cells.size = .ok definition)) ∧
    (∀ (env : Environment) (first second : Ref) (definition definition' : Grammar),
      env.lookup first = .ok definition → env.lookup second = .ok definition' →
        (Likeness.between env env (Environment.Redirects first second)).Grammars
          definition definition' →
        ∀ src cur, (env.parser (.ref first) src cur).Same (env.parser (.ref second) src cur)) ∧
    (∀ (d d' : Dictionary) (before after : List (String × (Rules → Build Grammar)))
      (name : String) (body : Rules → Build Grammar),
      d.extend (before ++ (name, body) :: after) = (d', none) → name ∉ after.map Prod.fst →
        ∃ mid definition cells, d.extend before = (mid, none) ∧
          (body mid.rules).run mid.cells = .ok (definition, cells) ∧
          d'.environment.lookup (.rule name) = .ok definition ∧
          ∀ extra, body = Dictionary.withAlternative name extra →
            ∃ old new, mid.rules.get name = .ok old ∧
              (extra mid.rules).run mid.cells = .ok (new, cells) ∧
              ∀ src cur, (d'.environment.binding (.rule name) src cur).Same
                (Parser.orElse (old.parser d'.environment.binding)
                  (new.parser d'.environment.binding) src cur)) := by
  refine ⟨fun env env' Refs g g' h hg => h.parser_same hg, Environment.parser_binding,
    fun env target definition => env.binding_same, fun body cells cells' p => Build.recursive_eq_ok,
    ?_, ?_⟩
  · intro env first second definition definition' hfirst hsecond halike
    exact (Environment.Matches.redirects hfirst hsecond halike).parser_same
      (.ref (Or.inr ⟨rfl, rfl⟩))
  · intro d d' before after name body hextend hname
    obtain ⟨mid, definition, cells, hbefore, hbuilt, hlookup⟩ :=
      Dictionary.lookup_extend hextend hname
    refine ⟨mid, definition, cells, hbefore, hbuilt, hlookup, ?_⟩
    rintro extra rfl
    exact Dictionary.binding_of_withAlternative hbuilt hlookup

/-- A rule is extended, and then written out in one of two places where another one refers to it.  A
recursive grammar stands in the place of the handle of another one. -/
theorem late_binding_of_pairs :
    let one : Grammar := .just .simple (.int 1)
    let two : Grammar := .just .simple (.int 2)
    let item : Grammar := .ref (.rule "item")
    let d : Dictionary := ⟨⟨[("item", one), ("pair", item.andThen item)]⟩, {}⟩
    let d' : Dictionary := ⟨⟨[("item", one.orElse two), ("pair", item.andThen item)]⟩, {}⟩
    let body : Rules → Build Grammar := Dictionary.withAlternative "item" fun _ => pure two
    let env : Environment := d'.environment
    let env' : Environment :=
      ⟨⟨[("item", one.orElse two), ("pair", item.andThen (one.orElse two))]⟩, {}⟩
    let ones (rest : Grammar) : Grammar := (one.andThen rest).optional
    let tied : Environment := ⟨{}, ⟨[⟨some (ones (.ref (.cell 0)))⟩, ⟨some (ones (.ref (.cell 0)))⟩]⟩⟩
    let src : Source := .ofTokens [.int 2, .int 1] .null
    d.extend [("item", body)] = (d', none) ∧
      (∃ r cur, env.parser (.ref (.rule "pair")) src {} = .done r cur ∧ r.isSuccess = true ∧
        env'.parser (.ref (.rule "pair")) src {} = .done r cur ∧
        (item.andThen item).parser env.binding src {} = .done r cur) ∧
      (∃ r cur, env.binding (.rule "item") src {} = .done r cur ∧
        Parser.orElse (one.parser env.binding) (two.parser env.binding) src {} = .done r cur) ∧
      (∃ cells', (Build.recursive fun handle => pure (ones handle)).run {} =
          .ok (.ref (.cell 0), cells') ∧ cells'.get 0 = .ok (ones (.ref (.cell 0)))) ∧
      ∃ r cur, tied.parser (.ref (.cell 0)) src ⟨1, 0, []⟩ = .done r cur ∧ cur.offset = 2 ∧
        tied.parser (.ref (.cell 1)) src ⟨1, 0, []⟩ = .done r cur := by
  intro one two item d d' body env env' ones tied src
  obtain ⟨hsubstitute, hkeeps, hbound, hhandle, hredirect, hextend⟩ := late_binding
  have hassigned : d.extend ([] ++ ("item", body) :: []) = (d', none) := rfl
  have hleaf (token : Value) (K : Likeness) :
      K.Grammars (.just .simple token) (.just .simple token) := .leaf trivial
  have hpair (K : Likeness) (hrefs : K.Refs (.rule "item") (.rule "item"))
      (hunfolds : K.Unfolds (.rule "item") (one.orElse two)) :
      K.Grammars (item.andThen item) (item.andThen (one.orElse two)) :=
    .andThen (.ref hrefs) (.unfold hunfolds (.orElse (hleaf _ K) (hleaf _ K)))
  have hmatches : env.Matches env' Eq := by
    rintro target _ rfl
    cases target with
    | cell i => exact Or.inl ⟨.undefinedRecursion, rfl, rfl⟩
    | rule name =>
        by_cases hitem : name = "item"
        · subst hitem
          exact Or.inr ⟨_, _, rfl, rfl, .orElse (hleaf _ _) (hleaf _ _)⟩
        · by_cases hname : name = "pair"
          · subst hname
            exact Or.inr ⟨_, _, rfl, rfl, hpair _ rfl rfl⟩
          · refine Or.inl ⟨.unknownRule name, ?_, ?_⟩
            · simp [env, d', Dictionary.environment, Environment.lookup, Rules.get, Rules.get?,
                List.lookup_cons, beq_eq_false_iff_ne.2 hitem, beq_eq_false_iff_ne.2 hname]
            · simp [env', Environment.lookup, Rules.get, Rules.get?, List.lookup_cons,
                beq_eq_false_iff_ne.2 hitem, beq_eq_false_iff_ne.2 hname]
  refine ⟨rfl, ?_, ?_, ?_, ?_⟩
  · have hrun : ∃ r cur, env.parser (.ref (.rule "pair")) src {} = .done r cur ∧
        r.isSuccess = true := ⟨_, _, rfl, rfl⟩
    obtain ⟨r, cur, hrun, hsuccess⟩ := hrun
    have hdefinition := hbound env (.rule "pair") (item.andThen item) rfl src {}
    refine ⟨r, cur, hrun, hsuccess, ?_, ?_⟩
    · exact (hsubstitute env env' Eq _ _ hmatches (.ref rfl) src {}).done hrun
    · exact (hkeeps env _ src {}).done (hdefinition.done hrun)
  · obtain ⟨mid, definition, cells, hmid, hbuilt, -, halternative⟩ :=
      hextend d d' [] [] "item" body hassigned List.not_mem_nil
    cases hmid
    obtain ⟨old, new, hold, hnew, hsame⟩ := halternative _ rfl
    cases hold
    cases hnew
    have hrun : ∃ r cur, env.binding (.rule "item") src {} = .done r cur := ⟨_, _, rfl⟩
    obtain ⟨r, cur, hrun⟩ := hrun
    exact ⟨r, cur, hrun, (hsame src {}).done hrun⟩
  · obtain ⟨-, definition, built, hbuilt, hget⟩ :=
      hhandle (fun handle => pure (ones handle)) {} _ _ rfl
    cases hbuilt
    exact ⟨_, rfl, hget Nat.one_pos⟩
  · have hrun : ∃ r cur, tied.parser (.ref (.cell 0)) src ⟨1, 0, []⟩ = .done r cur ∧
        cur.offset = 2 := ⟨_, _, rfl, rfl⟩
    obtain ⟨r, cur, hrun, hoffset⟩ := hrun
    have hsame := hredirect tied (.cell 0) (.cell 1) _ _ rfl rfl
      (.optional (.andThen (hleaf _ _) (.ref (Or.inl rfl)))) src ⟨1, 0, []⟩
    exact ⟨r, cur, hrun, hoffset, hsame.done hrun⟩

end Resync
