import Resync.Proofs.Contract.Iteration
import Resync.Proofs.Meets

/-!
# Contracts of grammars

A grammar keeps a contract as soon as what it is made of does, and its references do.  How far
references have to be known depends on where they stand: behind something that takes a token a
reference is run from a later place than the grammar.  A grammar whose references all stand there is
guarded, and asks of its references only what they do from later places.
-/

namespace Resync

/-- Whether a grammar has taken a token whenever it succeeds, which can be read off it. -/
def Grammar.Takes : Grammar → Prop
  | .satisfy _ _ _ | .filterMap _ _ => True
  | .seq _ tokens => tokens ≠ []
  | .map _ of | .mapWithSpan _ of | .tryMap _ of | .mapError _ of | .labelled _ of => of.Takes
  | .andThen first second => first.Takes ∨ second.Takes
  | .endOfInput _ | .empty | .scripted _ _ _ | .orElse _ _ | .optional _ => False
  | .recoverWith _ _ | .repeated _ _ _ | .separatedBy _ _ _ _ _ | .generate _ | .ref _ => False

mutual

/-- Whether every reference in a grammar stands behind something that takes a token; `behind` says
whether the grammar as a whole does. -/
def Grammar.Guarded (behind : Prop) : Grammar → Prop
  | .satisfy _ _ _ | .seq _ _ | .filterMap _ _ | .endOfInput _ | .empty | .scripted _ _ _ => True
  | .map _ of | .mapWithSpan _ of | .tryMap _ of | .mapError _ of => of.Guarded behind
  | .labelled _ of | .optional of | .recoverWith of _ | .repeated of _ _ => of.Guarded behind
  | .andThen first second => first.Guarded behind ∧ second.Guarded (behind ∨ first.Takes)
  | .orElse left right => left.Guarded behind ∧ right.Guarded behind
  | .separatedBy item separator _ _ _ => item.Guarded behind ∧ separator.Guarded behind
  | .generate plan => plan.Guarded behind
  | .ref _ => behind

/-- The same of a plan, whatever the outputs of its steps. -/
def Plan.Guarded (behind : Prop) : Plan → Prop
  | .finish _ | .abandon _ => True
  | .step first resume =>
      first.Guarded behind ∧ ∀ output, (resume output).Guarded (behind ∨ first.Takes)

end

mutual

/-- Behind something that takes a token nothing has to be guarded. -/
theorem Grammar.guarded_of {behind : Prop} (hbehind : behind) : ∀ g : Grammar, g.Guarded behind
  | .satisfy _ _ _ | .seq _ _ | .filterMap _ _ | .endOfInput _ | .empty | .scripted _ _ _ => trivial
  | .map _ of | .mapWithSpan _ of | .tryMap _ of | .mapError _ of => of.guarded_of hbehind
  | .labelled _ of | .optional of | .recoverWith of _ | .repeated of _ _ => of.guarded_of hbehind
  | .andThen first second => ⟨first.guarded_of hbehind, second.guarded_of (Or.inl hbehind)⟩
  | .orElse left right => ⟨left.guarded_of hbehind, right.guarded_of hbehind⟩
  | .separatedBy item separator _ _ _ => ⟨item.guarded_of hbehind, separator.guarded_of hbehind⟩
  | .generate plan => plan.guarded_of hbehind
  | .ref _ => hbehind

theorem Plan.guarded_of {behind : Prop} (hbehind : behind) : ∀ plan : Plan, plan.Guarded behind
  | .finish _ | .abandon _ => trivial
  | .step first resume =>
      ⟨first.guarded_of hbehind, fun output => (resume output).guarded_of (Or.inl hbehind)⟩

end

theorem Result.Missed.isSuccess
    {dialect : Dialect}
    {r : Result}
    (h : r.Missed dialect) :
    r.isSuccess = false := by
  obtain ⟨i, span, expected, found, error, -, rfl⟩ := h
  rfl

/-- A grammar that takes a token comes to stand behind where it started. -/
theorem Grammar.lt_of_takes
    {env : Environment}
    {src : Source}
    {bound : Nat}
    {cur cur' : Cursor}
    {recovered : List Located}
    {output : Value}
    {alt : Option Located} :
    ∀ g : Grammar, g.Takes →
      g.parser (env.resolve bound) src cur = .done (.success recovered output alt) cur' →
      cur.offset < cur'.offset
  | .satisfy dialect expected test, _, hrun => by
      rw [Grammar.parser] at hrun
      rcases (Parser.satisfy_done hrun).2 with ⟨-, -, -, hoffset⟩ | ⟨-, hmissed⟩
      · omega
      · cases hmissed.isSuccess
  | .seq dialect tokens, htakes, hrun => by
      rw [Grammar.parser] at hrun
      rcases (Parser.seqFrom_done hrun).2 with ⟨-, -, hoffset⟩ | ⟨-, hmissed⟩
      · have hlength := List.length_pos_iff.2 htakes
        omega
      · cases hmissed.isSuccess
  | .filterMap dialect f, _, hrun => by
      rw [Grammar.parser] at hrun
      rcases Parser.filterMap_done hrun with
        ⟨-, hmissed⟩ | ⟨-, ⟨output, -, -, hoffset⟩ | ⟨error, -, hr⟩⟩
      · cases hmissed.isSuccess
      · omega
      · cases hr
  | .map f of, htakes, hrun => by
      rw [Grammar.parser] at hrun
      obtain ⟨_, hof, -⟩ := Parser.map_success hrun
      exact of.lt_of_takes htakes hof
  | .mapWithSpan f of, htakes, hrun => by
      rw [Grammar.parser] at hrun
      rcases Parser.mapWithSpan_done hrun with
        ⟨_, _, _, _, _, _, hof, -, -, -, hoffset, -⟩ | ⟨_, _, -, hr⟩
      · exact Nat.lt_of_lt_of_eq (of.lt_of_takes htakes hof) hoffset.symm
      · cases hr
  | .tryMap f of, htakes, hrun => by
      rw [Grammar.parser] at hrun
      rcases Parser.tryMap_done hrun with
        ⟨_, _, _, _, _, _, hof, -, -, hoffset, -, -⟩ | ⟨_, _, -, hr⟩
      · exact Nat.lt_of_lt_of_eq (of.lt_of_takes htakes hof) hoffset.symm
      · cases hr
  | .mapError f of, htakes, hrun => by
      rw [Grammar.parser] at hrun
      rcases Parser.mapError_done hrun with ⟨_, _, _, hof, -⟩ | ⟨_, _, -, hr⟩
      · exact of.lt_of_takes htakes hof
      · cases hr
  | .labelled label of, htakes, hrun => by
      rw [Grammar.parser] at hrun
      rcases Parser.labelled_done hrun with ⟨_, _, _, hof, -⟩ | ⟨_, _, -, hr⟩
      · exact of.lt_of_takes htakes hof
      · cases hr
  | .andThen first second, htakes, hrun => by
      rw [Grammar.parser] at hrun
      obtain ⟨_, _, _, mid, _, _, _, hfirst, hsecond, -⟩ := Parser.andThen_success hrun
      obtain ⟨hback, -⟩ := env.forward bound first src cur _ mid hfirst
      obtain ⟨hback', -⟩ := env.forward bound second src mid _ cur' hsecond
      rcases htakes with htakes | htakes
      · exact Nat.lt_of_lt_of_le (first.lt_of_takes htakes hfirst) hback'
      · exact Nat.lt_of_le_of_lt hback (second.lt_of_takes htakes hsecond)

namespace Contract

variable (C : Contract) (env : Environment)

/-- Whether what a grammar itself does, apart from its parts, keeps the contract. -/
def Admits : Grammar → Prop
  | .satisfy dialect expected test =>
      C.Expects dialect expected ∧ ∀ i, (C.source.sighting i).token ≠ .null →
        Ensures C.Allows (fun _ => True) (test (C.source.sighting i).token)
  | .seq dialect tokens => ∀ token ∈ tokens, C.Expects dialect [token]
  | .filterMap dialect f =>
      C.Expects dialect [] ∧ ∀ i, (C.source.sighting i).token ≠ .null →
        Ensures C.Allows (C.Passes i) (f (C.source.sighting i).span (C.source.sighting i).token)
  | .endOfInput dialect => C.Expects dialect [.null]
  | .scripted _ relative answer => ∀ i, C.Results (if relative then answer.shift i else answer)
  | .map f of => ∀ i output j, env.Gives C.source of i output j →
      Ensures C.Allows (fun _ => True) (f output)
  | .mapWithSpan f of => ∀ i output j span, env.Gives C.source of i output j →
      C.source.spanBetween i j = .ok span → Ensures C.Allows (fun _ => True) (f output span)
  | .tryMap f of => ∀ i output j span, env.Gives C.source of i output j →
      C.source.spanBetween i j = .ok span → Ensures C.Allows (C.Passes i) (f output span)
  | .mapError f _ => ∀ l, C.Fine l → C.Fine (l.map f)
  | .labelled label _ => ∀ l, C.Fine l → C.Fine (l.map fun e => e.withLabel label)
  | .recoverWith _ strategy => C.Recovers strategy
  | .generate plan => ∀ f, env.Remains C.source plan (.abandon f) → C.Allows (.fault f)
  | .ref target => ∀ f, env.lookup target = .error f → C.Allows (.fault f)
  | .empty | .andThen _ _ | .orElse _ _ | .optional _ => True
  | .repeated _ _ _ | .separatedBy _ _ _ _ _ => True

/-- What references have to keep for a grammar that is run from `i` on, where `ok` holds of what
they meet: all of them if they may stand where the grammar does, and those that are run from later
places. -/
structure Resolved (ok : Grammar → Prop) (bound : Nat) (behind : Prop) (i : Nat) : Prop where
  here (target : Ref) : behind → env.OnlyMeets C.source ok (.ref target) →
    C.Keeps i (env.resolve bound target)
  later (target : Ref) : i < C.source.size → env.OnlyMeets C.source ok (.ref target) →
    C.Keeps (i + 1) (env.resolve bound target)

variable {C env} {ok : Grammar → Prop} {bound i : Nat} {behind behind' : Prop}

namespace Resolved

theorem of_all
    (h : ∀ target, env.OnlyMeets C.source ok (.ref target) → C.Keeps i (env.resolve bound target)) :
    C.Resolved env ok bound behind i where
  here target _ := h target
  later target _ hmeets := (h target hmeets).later (Nat.le_succ i)

/-- Behind a token. -/
theorem succ
    (h : C.Resolved env ok bound behind i)
    (hi : i < C.source.size) :
    C.Resolved env ok bound behind' (i + 1) :=
  .of_all fun target => h.later target hi

theorem imp
    (h : C.Resolved env ok bound behind i)
    (himp : behind' → behind) :
    C.Resolved env ok bound behind' i where
  here target hbehind := h.here target (himp hbehind)
  later := h.later

/-- What comes after a success of a grammar stands behind a token if the grammar takes one. -/
theorem andThen
    {p : Parser}
    {first : Grammar}
    {cur mid : Cursor}
    {recovered : List Located}
    {output : Value}
    {alt : Option Located}
    (h : C.Resolved env ok bound behind i)
    (hi : i ≤ cur.offset)
    (hrun : first.parser (env.resolve bound) C.source cur =
      .done (.success recovered output alt) mid)
    (hp : ∀ {j}, C.Resolved env ok bound (behind ∨ first.Takes) j → C.Keeps j p) :
    C.Ends C.Results (p C.source mid) := by
  obtain ⟨hback, hbeyond⟩ := env.forward bound first C.source cur _ mid hrun
  by_cases htakes : first.Takes
  · have hlt := first.lt_of_takes htakes hrun
    exact hp (h.succ (by omega)) mid (by omega)
  · refine hp (h.imp ?_) mid (by omega)
    exact fun hor => hor.resolve_right htakes

end Resolved
end Contract

section Runs

open Contract

variable {C : Contract} {env : Environment} {ok : Grammar → Prop} {bound : Nat}

mutual

/-- A guarded grammar keeps a contract if all that it meets admits it, and its references keep it as
far as they have to. -/
theorem Grammar.keeps
    (hok : ∀ h, ok h → C.Admits env h) :
    ∀ (g : Grammar) {i : Nat} {behind : Prop},
      env.OnlyMeets C.source ok g →
      g.Guarded behind →
      C.Resolved env ok bound behind i →
      C.Keeps i (g.parser (env.resolve bound))
  | .satisfy dialect expected test, _, _, hmeets, _, _ => by
      rw [Grammar.parser]
      obtain ⟨hexpects, htest⟩ := hok _ hmeets.self
      exact fun cur _ => .satisfy hexpects htest
  | .seq dialect tokens, _, _, hmeets, _, _ => by
      rw [Grammar.parser]
      exact fun cur _ => .seqFrom (hok _ hmeets.self)
  | .filterMap dialect f, _, _, hmeets, _, _ => by
      rw [Grammar.parser]
      obtain ⟨hexpects, hf⟩ := hok _ hmeets.self
      exact fun cur _ => .filterMap hexpects hf
  | .endOfInput dialect, _, _, hmeets, _, _ => by
      rw [Grammar.parser]
      exact fun cur _ => .endOfInput (hok _ hmeets.self)
  | .empty, _, _, _, _, _ => by
      rw [Grammar.parser]
      exact fun cur _ => Results.matched .null
  | .scripted consume relative answer, _, _, hmeets, _, _ => by
      rw [Grammar.parser]
      exact fun cur _ => .scripted (hok _ hmeets.self)
  | .map f of, _, _, hmeets, hguarded, hresolved => by
      rw [Grammar.parser]
      have hof := of.keeps hok (hmeets.part rfl) hguarded hresolved
      exact fun cur hi => .map (hof cur hi) fun recovered output alt mid hrun =>
        hok _ hmeets.self _ _ _ (.of_run hrun)
  | .mapWithSpan f of, _, _, hmeets, hguarded, hresolved => by
      rw [Grammar.parser]
      have hof := of.keeps hok (hmeets.part rfl) hguarded hresolved
      exact fun cur hi => .mapWithSpan (hof cur hi) (env.forward bound of C.source)
        fun recovered output alt mid span hrun hspan =>
          hok _ hmeets.self _ _ _ _ (.of_run hrun) hspan
  | .tryMap f of, _, _, hmeets, hguarded, hresolved => by
      rw [Grammar.parser]
      have hof := of.keeps hok (hmeets.part rfl) hguarded hresolved
      exact fun cur hi => .tryMap (hof cur hi) (env.forward bound of C.source)
        fun recovered output alt mid span hrun hspan =>
          hok _ hmeets.self _ _ _ _ (.of_run hrun) hspan
  | .mapError f of, _, _, hmeets, hguarded, hresolved => by
      rw [Grammar.parser]
      have hof := of.keeps hok (hmeets.part rfl) hguarded hresolved
      exact fun cur hi => .mapError (hof cur hi) (hok _ hmeets.self)
  | .labelled label of, _, _, hmeets, hguarded, hresolved => by
      rw [Grammar.parser]
      have hof := of.keeps hok (hmeets.part rfl) hguarded hresolved
      exact fun cur hi => .labelled (hof cur hi) (hok _ hmeets.self)
  | .andThen first second, _, _, hmeets, hguarded, hresolved => by
      rw [Grammar.parser]
      have hfirst := first.keeps hok (hmeets.part (Or.inl rfl)) hguarded.1 hresolved
      exact fun cur hi => .andThen (hfirst cur hi) fun recovered output alt mid hrun =>
        hresolved.andThen hi hrun (second.keeps hok (hmeets.part (Or.inr rfl)) hguarded.2)
  | .orElse left right, _, _, hmeets, hguarded, hresolved => by
      rw [Grammar.parser]
      have hleft := left.keeps hok (hmeets.part (Or.inl rfl)) hguarded.1 hresolved
      have hright := right.keeps hok (hmeets.part (Or.inr rfl)) hguarded.2 hresolved
      exact fun cur hi => .orElse (hleft cur hi) fun mid hmid => hright mid (by omega)
  | .optional of, _, _, hmeets, hguarded, hresolved => by
      rw [Grammar.parser]
      have hof := of.keeps hok (hmeets.part rfl) hguarded hresolved
      exact fun cur hi => .optional (hof cur hi)
  | .recoverWith of strategy, _, _, hmeets, hguarded, hresolved => by
      rw [Grammar.parser]
      have hof := of.keeps hok (hmeets.part rfl) hguarded hresolved
      exact fun cur hi => .recoverWith (hok _ hmeets.self) hof hi
  | .repeated of minimum maximum, _, _, hmeets, hguarded, hresolved => by
      rw [Grammar.parser]
      have hof := of.keeps hok (hmeets.part rfl) hguarded hresolved
      exact fun cur hi => .repeated (env.forward bound of C.source) hof hi
  | .separatedBy item separator minimum leading trailing, _, _, hmeets, hguarded, hresolved => by
      rw [Grammar.parser]
      have hitem := item.keeps hok (hmeets.part (Or.inl rfl)) hguarded.1 hresolved
      have hseparator := separator.keeps hok (hmeets.part (Or.inr rfl)) hguarded.2 hresolved
      exact fun cur hi => .separatedBy (env.forward bound item C.source)
        (env.forward bound separator C.source) hitem hseparator hi
  | .generate plan, _, _, hmeets, hguarded, hresolved => by
      rw [Grammar.parser]
      exact Plan.keeps hok (fun hremains => hmeets.part ⟨_, hremains⟩) (hok _ hmeets.self) plan .all
        hguarded hresolved (fun _ hl => nomatch hl) (fun _ hl => nomatch hl)
  | .ref target, _, _, hmeets, hguarded, hresolved => by
      rw [Grammar.parser]
      exact hresolved.here target hguarded hmeets

/-- The same of what remains of a plan, after steps with fine diagnostics. -/
theorem Plan.keeps
    (hok : ∀ h, ok h → C.Admits env h)
    {plan : Plan}
    (hmeets : ∀ {first resume}, env.Remains C.source plan (.step first resume) →
      env.OnlyMeets C.source ok first)
    (hends : ∀ f, env.Remains C.source plan (.abandon f) → C.Allows (.fault f)) :
    ∀ (steps : Plan) {i : Nat} {behind : Prop} {recovered : List Located} {alt : Option Located},
      env.Remains C.source plan steps →
      steps.Guarded behind →
      C.Resolved env ok bound behind i →
      (∀ l ∈ recovered, C.Fine l) →
      (∀ l ∈ alt, C.Fine l) →
      C.Keeps i (steps.parser (env.resolve bound) recovered alt)
  | .finish output, _, _, _, _, _, _, _, hrecovered, halt => by
      rw [Plan.parser]
      exact fun cur _ => Results.success hrecovered halt
  | .abandon f, _, _, _, _, hremains, _, _, _, _ => by
      rw [Plan.parser]
      exact fun cur _ => hends f hremains
  | .step first resume, _, _, _, _, hremains, hguarded, hresolved, hrecovered, halt => by
      rw [Plan.parser_step]
      have hfirst := first.keeps hok (hmeets hremains) hguarded.1 hresolved
      intro cur hi
      refine .step (hfirst cur hi) ?_ hrecovered halt
      intro recovered' output alt' alt'' mid hrun hrecovered' halt''
      refine hresolved.andThen hi hrun fun hresolved' => ?_
      exact Plan.keeps hok hmeets hends (resume output) (hremains.next (.of_run hrun))
        (hguarded.2 output) hresolved' hrecovered' halt''

end

/-- References keep a contract that allows to stop at the bound on their depth, if all that they
meet admits it. -/
theorem Environment.resolve_keeps
    (hexhausted : C.Allows .exhausted)
    (hok : ∀ h, ok h → C.Admits env h)
    (bound i : Nat)
    (target : Ref)
    (hmeets : env.OnlyMeets C.source ok (.ref target)) :
    C.Keeps i (env.resolve bound target) := by
  induction bound generalizing i target with
  | zero => exact fun _ _ => hexhausted
  | succ bound ih =>
      cases hlookup : env.lookup target with
      | error f =>
          rw [env.resolve_succ_of_error hlookup]
          exact fun _ _ => hok _ hmeets.self f hlookup
      | ok definition =>
          rw [env.resolve_succ_of_ok hlookup]
          exact definition.keeps hok (hmeets.part hlookup) (definition.guarded_of trivial)
            (.of_all fun target' => ih i target')

/-- A grammar keeps such a contract as well, from every place on. -/
theorem Environment.parser_keeps
    {g : Grammar}
    (hexhausted : C.Allows .exhausted)
    (hadmits : env.OnlyMeets C.source (C.Admits env) g)
    (i : Nat) :
    C.Keeps i (g.parser (env.resolve bound)) :=
  g.keeps (fun _ h => h) hadmits (g.guarded_of trivial)
    (.of_all fun target => env.resolve_keeps hexhausted (fun _ h => h) bound i target)

end Runs
end Resync
