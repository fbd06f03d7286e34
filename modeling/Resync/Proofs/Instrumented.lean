import Resync.Grammar.Combinator
import Resync.Proofs.Agreement

/-!
# Grammars with something around every part

To speak about all parsers that take part in a run, something is put around every part of a
grammar: around each of its nodes, around the rules and cells it refers to, and around the steps of
its plans.  What is put there is told which node it stands around.

If it is invisible around each part, then it is invisible around all of them at once
(`parser_agree_parserWith`).  This is applied to moving the cursor back after every failure: a
grammar all of whose parts do so (`rewinding_moves_back`) answers what it answers without
(`parser_agree_rewinding`).
-/

namespace Resync

/-- What becomes of an ending if a failure also moves the cursor back to an offset. -/
def Outcome.movedBack (start : Nat) : Outcome Result → Outcome Result
  | .done (.failure recovered error) cur => .done (.failure recovered error) (cur.moved start)
  | .done (.success recovered output alt) cur => .done (.success recovered output alt) cur
  | .halted cause cur => .halted cause cur

/-- The same parser, but whenever it fails, the cursor is also moved back to where it started. -/
def Parser.rewinding (p : Parser) : Parser := fun src cur => (p src cur).movedBack cur.offset

mutual

/-- The parser that a grammar describes, with something around each of its parts. -/
def Grammar.parserWith
    (around : Grammar → Parser → Parser)
    (resolve : Ref → Parser) :
    Grammar → Parser
  | g@(.satisfy dialect expected test) => around g (Parser.satisfy dialect expected test)
  | g@(.seq dialect tokens) => around g (Parser.seq dialect tokens)
  | g@(.filterMap dialect f) => around g (Parser.filterMap dialect f)
  | g@(.endOfInput dialect) => around g (Parser.endOfInput dialect)
  | g@.empty => around g Parser.empty
  | g@(.scripted consume relative answer) => around g (Parser.scripted consume relative answer)
  | g@(.map f of) => around g (Parser.map f (of.parserWith around resolve))
  | g@(.mapWithSpan f of) => around g (Parser.mapWithSpan f (of.parserWith around resolve))
  | g@(.tryMap f of) => around g (Parser.tryMap f (of.parserWith around resolve))
  | g@(.mapError f of) => around g (Parser.mapError f (of.parserWith around resolve))
  | g@(.labelled label of) => around g (Parser.labelled label (of.parserWith around resolve))
  | g@(.andThen first second) =>
      around g
        (Parser.andThen (first.parserWith around resolve) (second.parserWith around resolve))
  | g@(.orElse left right) =>
      around g (Parser.orElse (left.parserWith around resolve) (right.parserWith around resolve))
  | g@(.optional of) => around g (Parser.optional (of.parserWith around resolve))
  | g@(.recoverWith of strategy) =>
      around g (Parser.recoverWith (of.parserWith around resolve) strategy)
  | g@(.repeated of minimum maximum) =>
      around g (Parser.repeated (of.parserWith around resolve) minimum maximum)
  | g@(.separatedBy item separator minimum leading trailing) =>
      around g
        (Parser.separatedBy (item.parserWith around resolve)
          (separator.parserWith around resolve) minimum leading trailing)
  | g@(.generate plan) => around g (plan.parserWith around resolve [] none)
  | g@(.ref target) => around g (resolve target)

/-- The parser that runs a plan, with something around each of its grammars. -/
def Plan.parserWith
    (around : Grammar → Parser → Parser)
    (resolve : Ref → Parser) :
    Plan →
    List Located →
    Option Located →
    Parser
  | .finish output => fun recovered alt => return .success recovered output alt
  | .abandon f => fun _ _ => Scan.halt (.fault f)
  | .step grammar resume =>
      Parser.step (grammar.parserWith around resolve) fun output =>
        (resume output).parserWith around resolve

end

namespace Environment

/-- The parser a reference stands for, with something around each part of its definition. -/
def resolveWith
    (env : Environment)
    (around : Grammar → Parser → Parser) :
    (bound : Nat) →
    Ref →
    Parser
  | 0, _ => Scan.halt .exhausted
  | bound + 1, target => fun src cur =>
      match env.lookup target with
      | .ok g => g.parserWith around (env.resolveWith around bound) src cur
      | .error f => .halted (.fault f) cur

/-- The parser that a grammar describes in an environment, with something around each of its parts
and of those it refers to. -/
def parserWith
    (env : Environment)
    (around : Grammar → Parser → Parser)
    (g : Grammar) :
    Parser := fun src cur =>
  g.parserWith around (env.resolveWith around (env.depth src)) src cur

/-- The parser that a grammar describes, if every parser in it that fails also moves the cursor
back to where it started. -/
def rewinding (env : Environment) (g : Grammar) : Parser :=
  env.parserWith (fun _ p => p.rewinding) g

end Environment

/-- There is something around the whole of a grammar. -/
theorem Grammar.exists_parserWith_eq
    (g : Grammar)
    (around : Grammar → Parser → Parser)
    (resolve : Ref → Parser) :
    ∃ p, g.parserWith around resolve = around g p := by
  cases g <;> exact ⟨_, by rw [Grammar.parserWith]⟩

section Invisible

variable {around : Grammar → Parser → Parser} {resolve resolve' : Ref → Parser}

mutual

/-- What is invisible around a parser is invisible around all parts of a grammar. -/
theorem Grammar.parser_agree_parserWith
    (haround : ∀ g p p', Parser.Agree p p' → p.Agree (around g p'))
    (hresolve : ∀ target, (resolve target).Agree (resolve' target)) :
    ∀ g : Grammar, (g.parser resolve).Agree (g.parserWith around resolve')
  | .satisfy dialect expected test => by
      rw [Grammar.parser, Grammar.parserWith]
      exact haround _ _ _ (Parser.Agree.satisfy dialect expected test)
  | .seq dialect tokens => by
      rw [Grammar.parser, Grammar.parserWith]
      exact haround _ _ _ (Parser.Agree.seqFrom dialect tokens tokens)
  | .filterMap dialect f => by
      rw [Grammar.parser, Grammar.parserWith]
      exact haround _ _ _ (Parser.Agree.filterMap dialect f)
  | .endOfInput dialect => by
      rw [Grammar.parser, Grammar.parserWith]
      exact haround _ _ _ (Parser.Agree.endOfInput dialect)
  | .empty => by
      rw [Grammar.parser, Grammar.parserWith]
      exact haround _ _ _ (Parser.Agree.success _ _ _)
  | .scripted consume relative answer => by
      rw [Grammar.parser, Grammar.parserWith]
      exact haround _ _ _ (Parser.Agree.scripted consume relative answer)
  | .map f of => by
      rw [Grammar.parser, Grammar.parserWith]
      exact haround _ _ _ ((of.parser_agree_parserWith haround hresolve).map f)
  | .mapWithSpan f of => by
      rw [Grammar.parser, Grammar.parserWith]
      exact haround _ _ _ ((of.parser_agree_parserWith haround hresolve).mapWithSpan f)
  | .tryMap f of => by
      rw [Grammar.parser, Grammar.parserWith]
      exact haround _ _ _ ((of.parser_agree_parserWith haround hresolve).tryMap f)
  | .mapError f of => by
      rw [Grammar.parser, Grammar.parserWith]
      exact haround _ _ _ ((of.parser_agree_parserWith haround hresolve).mapError f)
  | .labelled label of => by
      rw [Grammar.parser, Grammar.parserWith]
      exact haround _ _ _ ((of.parser_agree_parserWith haround hresolve).labelled label)
  | .andThen first second => by
      rw [Grammar.parser, Grammar.parserWith]
      have hfirst := first.parser_agree_parserWith haround hresolve
      have hsecond := second.parser_agree_parserWith haround hresolve
      exact haround _ _ _ (hfirst.andThen hsecond)
  | .orElse left right => by
      rw [Grammar.parser, Grammar.parserWith]
      have hleft := left.parser_agree_parserWith haround hresolve
      have hright := right.parser_agree_parserWith haround hresolve
      exact haround _ _ _ (hleft.orElse hright)
  | .optional of => by
      rw [Grammar.parser, Grammar.parserWith]
      exact haround _ _ _ (of.parser_agree_parserWith haround hresolve).optional
  | .recoverWith of strategy => by
      rw [Grammar.parser, Grammar.parserWith]
      exact haround _ _ _ ((of.parser_agree_parserWith haround hresolve).recoverWith strategy)
  | .repeated of minimum maximum => by
      rw [Grammar.parser, Grammar.parserWith]
      have hof := of.parser_agree_parserWith haround hresolve
      exact haround _ _ _ (hof.repeated minimum maximum)
  | .separatedBy item separator minimum leading trailing => by
      rw [Grammar.parser, Grammar.parserWith]
      have hitem := item.parser_agree_parserWith haround hresolve
      have hseparator := separator.parser_agree_parserWith haround hresolve
      exact haround _ _ _ (hitem.separatedBy hseparator minimum leading trailing)
  | .generate plan => by
      rw [Grammar.parser, Grammar.parserWith]
      exact haround _ _ _ (plan.parser_agree_parserWith haround hresolve [] none)
  | .ref target => by
      rw [Grammar.parser, Grammar.parserWith]
      exact haround _ _ _ (hresolve target)

/-- The same for the steps of a plan. -/
theorem Plan.parser_agree_parserWith
    (haround : ∀ g p p', Parser.Agree p p' → p.Agree (around g p'))
    (hresolve : ∀ target, (resolve target).Agree (resolve' target)) :
    ∀ (plan : Plan) (recovered : List Located) (alt : Option Located),
      (plan.parser resolve recovered alt).Agree (plan.parserWith around resolve' recovered alt)
  | .finish output, recovered, alt => by
      rw [Plan.parser, Plan.parserWith]
      exact Parser.Agree.success _ _ _
  | .abandon f, recovered, alt => by
      rw [Plan.parser, Plan.parserWith]
      exact fun _ _ _ hlevel => .halted hlevel.2
  | .step grammar resume, recovered, alt => by
      rw [Plan.parser_step, Plan.parserWith]
      exact (grammar.parser_agree_parserWith haround hresolve).step
        (fun output => (resume output).parser_agree_parserWith haround hresolve) _ _

end

end Invisible

namespace Environment

variable (env : Environment) {around : Grammar → Parser → Parser}

/-- References that are resolved to the same depth agree. -/
theorem resolve_agree_resolveWith
    (haround : ∀ g p p', Parser.Agree p p' → p.Agree (around g p'))
    (bound : Nat)
    (target : Ref) :
    (env.resolve bound target).Agree (env.resolveWith around bound target) := by
  induction bound generalizing target with
  | zero => exact Parser.Agree.exhausted
  | succ bound ih =>
      intro src c d hlevel
      rw [resolve, resolveWith]
      cases env.lookup target with
      | ok g => exact g.parser_agree_parserWith haround ih src c d hlevel
      | error f => exact .halted hlevel.2

/-- What is invisible around every parser leaves the meaning of grammars as it is. -/
theorem parser_agree_parserWith
    (haround : ∀ g p p', Parser.Agree p p' → p.Agree (around g p'))
    (g : Grammar) :
    (env.parser g).Agree (env.parserWith around g) :=
  fun src => g.parser_agree_parserWith haround (env.resolve_agree_resolveWith haround _) src

/-- Moving the cursor back after a failure is invisible. -/
theorem agree_rewinding {p p' : Parser} (h : p.Agree p') : p.Agree p'.rewinding := by
  intro src c d hlevel
  have hends := h src c d hlevel
  unfold Parser.rewinding
  generalize p src c = o at hends
  generalize p' src d = o' at hends
  cases hends with
  | success hlevel' => exact .success hlevel'
  | failure hbuffered => exact .failure hbuffered
  | halted hbuffered => exact .halted hbuffered

/-- **The cursor that a failure leaves never matters.**  A grammar in which every parser that fails
also moves the cursor back gives the same results, takes the same number of tokens from the
source, and ends a success at the same offset. -/
theorem parser_agree_rewinding (g : Grammar) (src : Source) (cur : Cursor) :
    (env.parser g src cur).Agree (env.rewinding g src cur) :=
  env.parser_agree_parserWith (fun _ _ _ => agree_rewinding) g src cur cur ⟨rfl, rfl⟩

/-- In the grammar that rewinds every failure is where it started, that of any part as well as that
of the whole. -/
theorem rewinding_moves_back
    {g : Grammar}
    {resolve : Ref → Parser}
    {src : Source}
    {cur stop : Cursor}
    {recovered : List Located}
    {error : Located}
    (h : g.parserWith (fun _ p => p.rewinding) resolve src cur =
      .done (.failure recovered error) stop) :
    stop.offset = cur.offset := by
  obtain ⟨p, hp⟩ := g.exists_parserWith_eq (fun _ p => p.rewinding) resolve
  rw [hp] at h
  unfold Parser.rewinding at h
  cases hends : p src cur with
  | done r stop' =>
      rw [hends] at h
      cases r <;> cases h
      rfl
  | halted cause stop' =>
      rw [hends] at h
      cases h

/-- A failed token is consumed, and given back in the grammar that rewinds. -/
example (eoi : Span) :
    let src : Source := ⟨#[(.int 2, Span.single 0 .null)], eoi⟩
    let offset (o : Outcome Result) : Option Nat :=
      match o with
      | .done _ cur => some cur.offset
      | .halted _ _ => none
    offset (env.parser (.just .simple (.int 1)) src {}) = some 1 ∧
      offset (env.rewinding (.just .simple (.int 1)) src {}) = some 0 :=
  ⟨rfl, rfl⟩

end Environment
end Resync
