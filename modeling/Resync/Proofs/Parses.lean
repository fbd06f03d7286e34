import Resync.Proofs.Choice
import Resync.Proofs.Faultless
import Resync.Proofs.Greedy
import Resync.Proofs.Labels
import Resync.Proofs.Peg

/-!
# Matching without recovery

A grammar that recovers from nothing, and is in no danger of a fault, either matches at a place or
does not.  If it matches, it returns an output and goes on to some place.  The rules below say so for
composed grammars: from what the parts do at their places, they tell what the whole does.  They say
that it returns, too, which the rules of parsing expressions do not.

What was missed on the way is merged.  That is possible because everything is stated in one dialect,
which the rules carry along.
-/

namespace Resync

open Located (mergeAlts mergeAll)
open Repetition (Chain Keeps Stops Returns HasRoom)

namespace Result

variable {r : Result} {offset stop : Nat} {output : Value}

theorem isSome_matched (r : Result) (offset : Nat) :
    (r.matched offset).isSome = r.isSuccess := by
  cases r with
  | success recovered output alt => rfl
  | failure recovered error => rfl

theorem output_of_matched (h : r.matched offset = some (output, stop)) :
    r.output = output ∧ offset = stop := by
  cases r with
  | success recovered output' alt =>
      cases h
      exact ⟨rfl, rfl⟩
  | failure recovered error => cases h

theorem output_of_not_matched (h : r.matched offset = none) : r.output = .null := by
  cases r with
  | success recovered output alt => cases h
  | failure recovered error => rfl

end Result

namespace Parser

variable {p : Parser} {src : Source} {cur cur' : Cursor}

theorem endOfInput_of_end
    (dialect : Dialect)
    (hend : (src.sighting cur.offset).token = .null) :
    ∃ cur', endOfInput dialect src cur = .done (.success [] .null none) cur' ∧
      cur'.offset = cur.offset := by
  have hafter : src.after cur.offset = cur.offset := if_pos hend
  refine ⟨(cur.looked src cur.offset).moved (src.after cur.offset), ?_, hafter⟩
  unfold endOfInput
  simp only [Scan.bind_apply, Scan.next_apply, if_pos hend, Scan.pure_apply]

theorem endOfInput_of_more
    {dialect : Dialect}
    {error : Diagnostic}
    (hmore : (src.sighting cur.offset).token ≠ .null)
    (herror : dialect.expecting (src.sighting cur.offset).span [.null]
      (src.sighting cur.offset).token = .ok error) :
    ∃ cur', endOfInput dialect src cur = .done (.failure [] ⟨cur.offset, error⟩) cur' := by
  refine ⟨(cur.looked src cur.offset).moved (src.after cur.offset), ?_⟩
  unfold endOfInput unexpected
  simp only [Scan.bind_apply, Scan.next_apply, if_neg hmore, herror, Scan.ofExcept_ok,
    Scan.pure_apply, Source.sighting_position]

theorem strict_of_success
    {output : Value}
    {alt : Option Located}
    (hrun : p src cur = .done (.success [] output alt) cur') :
    p.strict src cur = .done (.ok output) cur' := by
  unfold strict recovering
  simp only [Scan.bind_apply, hrun]
  rfl

theorem strict_of_failure
    {error : Located}
    (hrun : p src cur = .done (.failure [] error) cur') :
    ∃ stop, p.strict src cur = .done (.error [error.error]) stop := by
  unfold strict recovering
  simp only [Scan.bind_apply, hrun]
  exact ⟨_, rfl⟩

end Parser

namespace Environment

section Judgements

variable (env : Environment) (src : Source) (dialect : Dialect) (g : Grammar)

/-- Whether a grammar returns from a place without recovering from anything: with an output and the
place behind it, or with none if it does not match.  What it missed is stated in one dialect. -/
inductive Parses (start : Nat) : Option (Value × Nat) → Prop
  | matched
      {output : Value}
      {alt : Option Located}
      {stop : Nat}
      (hanswers : (env.parser g).Answers src start (.success [] output alt) stop)
      (halt : ∀ l ∈ alt, l.error.dialect = dialect) :
      Parses start (some (output, stop))
  | missed
      {error : Located}
      {stop : Nat}
      (hanswers : (env.parser g).Answers src start (.failure [] error) stop)
      (herror : error.error.dialect = dialect) :
      Parses start none

/-- Whether a grammar matches again and again with these outputs, and consumes something each
time. -/
inductive ParsesEach : Nat → List Value → Nat → Prop
  | nil {start : Nat} : ParsesEach start [] start
  | cons
      {start mid stop : Nat}
      {output : Value}
      {outputs : List Value}
      (hfirst : env.Parses src dialect g start (some (output, mid)))
      (hconsumes : start < mid)
      (hrest : ParsesEach mid outputs stop) :
      ParsesEach start (output :: outputs) stop

end Judgements

variable {env : Environment} {src : Source} {dialect : Dialect} {g h : Grammar}
variable {i j k : Nat} {o : Option (Value × Nat)} {v w : Value}

namespace Parses

/-- A run returns what the rules say. -/
theorem run
    (hg : env.Parses src dialect g i o)
    (cur : Cursor)
    (hcur : cur.offset = i) :
    ∃ r cur', env.parser g src cur = .done r cur' ∧ r.recovered = [] ∧
      r.matched cur'.offset = o := by
  cases hg with
  | matched hanswers halt =>
      obtain ⟨cur', hrun, rfl⟩ := hanswers.run parser_steady hcur
      exact ⟨_, cur', hrun, rfl, rfl⟩
  | missed hanswers herror =>
      obtain ⟨cur', hrun, -⟩ := hanswers.run parser_steady hcur
      exact ⟨_, cur', hrun, rfl, rfl⟩

/-- At a place the rules say one thing only. -/
theorem unique
    {dialect' : Dialect}
    {o' : Option (Value × Nat)}
    (hg : env.Parses src dialect g i o)
    (hg' : env.Parses src dialect' g i o') :
    o = o' := by
  obtain ⟨r, cur', hrun, -, hmatched⟩ := hg.run ⟨i, 0, []⟩ rfl
  obtain ⟨r', cur'', hrun', -, hmatched'⟩ := hg'.run ⟨i, 0, []⟩ rfl
  cases hrun.symm.trans hrun'
  exact hmatched.symm.trans hmatched'

/-- A grammar succeeds where the rules say that it matches. -/
theorem succeeds_iff (hg : env.Parses src dialect g i o) :
    (env.parser g).Succeeds src i ↔ o.isSome = true := by
  cases hg with
  | matched hanswers halt => exact iff_of_true ⟨_, _, _, _, hanswers⟩ rfl
  | missed hanswers herror =>
      exact iff_of_false (Parser.Fails.not_succeeds ⟨_, _, _, hanswers⟩) Bool.false_ne_true

section Tokens

variable {expected : List Value} {test : Value → Except Fault Bool}

theorem satisfy
    (hnull : (src.sighting i).token ≠ .null)
    (htest : test (src.sighting i).token = .ok true) :
    env.Parses src dialect (.satisfy dialect expected test) i
      (some ((src.sighting i).token, i + 1)) := by
  let cur : Cursor := ⟨i, 0, []⟩
  obtain ⟨cur', hrun, hcur'⟩ : ∃ cur', Parser.satisfy dialect expected test src cur = _ ∧ _ :=
    Parser.satisfy_of_passed dialect expected hnull htest
  exact .matched ⟨cur', hrun, hcur'⟩ nofun

theorem satisfy_none
    (hkeys : ∀ v ∈ expected, v.isKey = true)
    (hmiss : (src.sighting i).token = .null ∨ test (src.sighting i).token = .ok false) :
    env.Parses src dialect (.satisfy dialect expected test) i none := by
  let cur : Cursor := ⟨i, 0, []⟩
  obtain ⟨error, herror, hdialect⟩ : ∃ error,
      dialect.expecting (src.sighting i).span expected (src.sighting i).token = .ok error ∧
        error.dialect = dialect := Dialect.exists_expecting (Or.inr hkeys)
  obtain ⟨cur', hrun⟩ : ∃ cur', Parser.satisfy dialect expected test src cur = .done _ cur' :=
    Parser.satisfy_of_missed test hmiss herror
  exact .missed ⟨cur', hrun, rfl⟩ hdialect

theorem endOfInput
    (dialect : Dialect)
    (hend : (src.sighting i).token = .null) :
    env.Parses src dialect (.endOfInput dialect) i (some (.null, i)) := by
  let cur : Cursor := ⟨i, 0, []⟩
  obtain ⟨cur', hrun, hcur'⟩ : ∃ cur', Parser.endOfInput dialect src cur = _ ∧ _ :=
    Parser.endOfInput_of_end dialect hend
  exact .matched ⟨cur', hrun, hcur'⟩ nofun

theorem endOfInput_none
    (dialect : Dialect)
    (hmore : (src.sighting i).token ≠ .null) :
    env.Parses src dialect (.endOfInput dialect) i none := by
  let cur : Cursor := ⟨i, 0, []⟩
  obtain ⟨error, herror, hdialect⟩ : ∃ error,
      dialect.expecting (src.sighting i).span [.null] (src.sighting i).token = .ok error ∧
        error.dialect = dialect :=
    Dialect.exists_expecting (Or.inr (List.forall_mem_singleton.2 rfl))
  obtain ⟨cur', hrun⟩ : ∃ cur', Parser.endOfInput dialect src cur = .done _ cur' :=
    Parser.endOfInput_of_more hmore herror
  exact .missed ⟨cur', hrun, rfl⟩ hdialect

end Tokens

section Outputs

theorem map
    {f : Value → Except Fault Value}
    (hg : env.Parses src dialect g i (some (v, j)))
    (hf : f v = .ok w) :
    env.Parses src dialect (.map f g) i (some (w, j)) := by
  cases hg with
  | matched hanswers halt =>
      obtain ⟨cur', hrun, hcur'⟩ := hanswers
      exact .matched ⟨cur', Parser.map_of_success hrun hf, hcur'⟩ halt

theorem map_none
    (f : Value → Except Fault Value)
    (hg : env.Parses src dialect g i none) :
    env.Parses src dialect (.map f g) i none := by
  cases hg with
  | missed hanswers herror =>
      obtain ⟨cur', hrun, hcur'⟩ := hanswers
      exact .missed ⟨cur', Parser.map_of_failure hrun f, hcur'⟩ herror

/-- A label changes the wording only. -/
theorem labelled
    (label : String)
    (hg : env.Parses src dialect g i o) :
    env.Parses src dialect (.labelled label g) i o := by
  have hdialect (l : Located) (hl : l.error.dialect = dialect) :
      (Parser.relabel label i l).error.dialect = dialect := by
    unfold Parser.relabel
    split
    · exact hl
    · exact (l.error.withLabel_dialect label).trans hl
  let p : Parser := g.parser (env.resolve (env.depth src))
  have hlabelled {r : Result} {stop : Nat} (hanswers : p.Answers src i r stop) :
      (Parser.labelled label p).Answers src i (r.relabelled label i) stop := by
    obtain ⟨cur', hrun, hcur'⟩ := hanswers
    refine ⟨cur', ?_, hcur'⟩
    rw [Parser.labelled_apply, hrun]
  cases hg with
  | matched hanswers halt =>
      refine .matched (hlabelled hanswers) ?_
      rw [Option.forall_mem_map]
      exact fun l hl => hdialect l (halt l hl)
  | missed hanswers herror => exact .missed (hlabelled hanswers) (hdialect _ herror)

end Outputs

section Sequences

theorem andThen
    (hg : env.Parses src dialect g i (some (v, j)))
    (hh : env.Parses src dialect h j (some (w, k))) :
    env.Parses src dialect (.andThen g h) i (some (.tuple [v, w], k)) := by
  cases hg with
  | matched hanswers halt =>
      cases hh with
      | matched hanswers' halt' =>
          obtain ⟨mid, hrun, hmid⟩ := hanswers
          obtain ⟨cur', hrun', hcur'⟩ := hanswers'.run parser_steady hmid
          obtain ⟨alt, hmerge, hdialect⟩ := Located.exists_mergeAlts_of_compatible
            (Diagnostic.compatible_dialect dialect) halt halt'
          exact .matched ⟨cur', Parser.andThen_of_success hrun hrun' hmerge, hcur'⟩ hdialect

theorem andThen_none
    (h : Grammar)
    (hg : env.Parses src dialect g i none) :
    env.Parses src dialect (.andThen g h) i none := by
  cases hg with
  | missed hanswers herror =>
      obtain ⟨cur', hrun, hcur'⟩ := hanswers
      exact .missed ⟨cur', Parser.andThen_of_failure hrun _, hcur'⟩ herror

theorem andThen_none_right
    (hg : env.Parses src dialect g i (some (v, j)))
    (hh : env.Parses src dialect h j none) :
    env.Parses src dialect (.andThen g h) i none := by
  cases hg with
  | matched hanswers halt =>
      cases hh with
      | missed hanswers' herror =>
          obtain ⟨mid, hrun, hmid⟩ := hanswers
          obtain ⟨cur', hrun', hcur'⟩ := hanswers'.run parser_steady hmid
          obtain ⟨error', hmax, hdialect⟩ := Located.exists_max_of_compatible
            (Diagnostic.compatible_dialect dialect) herror halt
          exact .missed ⟨cur', Parser.andThen_of_success_failure hrun hrun' hmax, hcur'⟩ hdialect

theorem ignoreThen
    (hg : env.Parses src dialect g i (some (v, j)))
    (hh : env.Parses src dialect h j (some (w, k))) :
    env.Parses src dialect (g.ignoreThen h) i (some (w, k)) :=
  (hg.andThen hh).map rfl

theorem thenIgnore
    (hg : env.Parses src dialect g i (some (v, j)))
    (hh : env.Parses src dialect h j (some (w, k))) :
    env.Parses src dialect (g.thenIgnore h) i (some (v, k)) :=
  (hg.andThen hh).map rfl

theorem thenIgnore_none_right
    (hg : env.Parses src dialect g i (some (v, j)))
    (hh : env.Parses src dialect h j none) :
    env.Parses src dialect (g.thenIgnore h) i none :=
  (hg.andThen_none_right hh).map_none _

theorem orElse
    (h : Grammar)
    (hg : env.Parses src dialect g i (some (v, j))) :
    env.Parses src dialect (.orElse g h) i (some (v, j)) := by
  cases hg with
  | matched hanswers halt =>
      obtain ⟨cur', hrun, hcur'⟩ := hanswers
      exact .matched ⟨cur', Parser.orElse_of_clean hrun rfl, hcur'⟩ halt

/-- Where the first alternative does not match, it is as if it were not there. -/
theorem orElse_right
    (hg : env.Parses src dialect g i none)
    (hh : env.Parses src dialect h i o) :
    env.Parses src dialect (.orElse g h) i o := by
  let p : Parser := g.parser (env.resolve (env.depth src))
  let q : Parser := h.parser (env.resolve (env.depth src))
  have hkind := Diagnostic.compatible_dialect dialect
  cases hg with
  | @missed error _ hanswers herror =>
      obtain ⟨mid, hrun, -⟩ := hanswers
      have hback : (mid.moved i).offset = i := rfl
      have hmissed : ∀ l ∈ some error, l.error.dialect = dialect :=
        fun l hl => Option.mem_some.1 hl ▸ herror
      have hgives {r : Result} {stop : Cursor} (hq : q src (mid.moved i) = .done r stop) :
          (Parser.orElse p q src ⟨i, 0, []⟩).Gives ((Result.failure [] error).either r)
            (stop.moved (((Result.failure [] error).side r).pick mid.offset stop.offset)) :=
        Parser.orElse_of_not_clean hrun rfl hq
      cases hh with
      | @matched output alt stop hanswers' halt =>
          obtain ⟨last, hq, hlast⟩ := hanswers'.run parser_steady hback
          obtain ⟨alt', hmerge, hdialect⟩ :=
            Located.exists_mergeAlts_of_compatible hkind halt hmissed
          have hboth := hgives hq
          rw [Result.either_clean, hmerge] at hboth
          exact .matched ⟨_, hboth, hlast⟩ hdialect
      | @missed error' stop hanswers' herror' =>
          obtain ⟨last, hq, hlast⟩ := hanswers'.run parser_steady hback
          have hmissed' : ∀ l ∈ some error', l.error.dialect = dialect :=
            fun l hl => Option.mem_some.1 hl ▸ herror'
          obtain ⟨error'', hmax, hdialect⟩ :=
            Located.exists_max_of_compatible hkind herror hmissed'
          have hboth := hgives hq
          rw [Result.either_failures, hmax] at hboth
          simp only [ite_self] at hboth
          exact .missed ⟨_, hboth, rfl⟩ hdialect

end Sequences

section Strictly

/-- Nothing stands in the way of an output, because nothing was recovered from. -/
theorem strict
    (hg : env.Parses src dialect g i (some (v, j)))
    (cur : Cursor)
    (hcur : cur.offset = i) :
    ∃ cur', (env.parser g).strict src cur = .done (.ok v) cur' := by
  cases hg with
  | matched hanswers halt =>
      obtain ⟨cur', hrun, -⟩ := hanswers.run parser_steady hcur
      exact ⟨cur', Parser.strict_of_success hrun⟩

/-- What stands in the way where there is no output is one diagnostic. -/
theorem strict_none
    (hg : env.Parses src dialect g i none)
    (cur : Cursor)
    (hcur : cur.offset = i) :
    ∃ error cur', (env.parser g).strict src cur = .done (.error [error]) cur' := by
  cases hg with
  | missed hanswers herror =>
      obtain ⟨mid, hrun, -⟩ := hanswers.run parser_steady hcur
      obtain ⟨cur', hstrict⟩ := Parser.strict_of_failure hrun
      exact ⟨_, cur', hstrict⟩

end Strictly

end Parses

section Repetitions

variable {minimum : Nat} {outputs : List Value}

/-- What is matched again and again makes consecutive matches, of which none recovered from
anything. -/
theorem ParsesEach.exists_chain (h : env.ParsesEach src dialect g i outputs j) :
    ∃ ms, Chain ((env.parser g).Answers src) i ms j ∧ ms.map Match.output = outputs ∧
      ∀ m ∈ ms, m.start < m.stop ∧ m.recovered = [] ∧ ∀ l ∈ m.alt, l.error.dialect = dialect := by
  induction h with
  | nil => exact ⟨[], rfl, rfl, nofun⟩
  | @cons start mid stop output outputs hfirst hconsumes hrest ih =>
      obtain ⟨ms, hchain, houtputs, hms⟩ := ih
      cases hfirst with
      | @matched _ alt _ hanswers halt =>
          refine ⟨⟨start, mid, [], output, alt⟩ :: ms, ⟨rfl, hanswers, hchain⟩, ?_, ?_⟩
          · rw [List.map_cons, houtputs]
          · exact List.forall_mem_cons.2 ⟨⟨hconsumes, rfl, halt⟩, hms⟩

/-- A repetition takes what is matched again and again until the grammar does not match, and does
not match itself if this is not enough. -/
theorem ParsesEach.repeated
    (h : env.ParsesEach src dialect g i outputs j)
    (hends : env.Parses src dialect g j none)
    (minimum : Nat) :
    env.Parses src dialect (.repeated g minimum none) i
      (if minimum ≤ outputs.length then some (.list outputs, j) else none) := by
  obtain ⟨ms, hchain, rfl, hms⟩ := h.exists_chain
  have hrecovered : ms.flatMap Match.recovered = [] :=
    List.flatMap_eq_nil_iff.2 fun m hm => (hms m hm).2.1
  have hroom : HasRoom none ms.length := nofun
  have hnone : ∀ l ∈ (none : Option Located), l.error.dialect = dialect := nofun
  have halts : ∀ m ∈ ms.map Match.alt, ∀ l ∈ m, l.error.dialect = dialect :=
    List.forall_mem_map.2 fun m hm => (hms m hm).2.2
  have hkept : Keeps ((env.parser g).Answers src) minimum none i ms j :=
    ⟨hchain, nofun, fun m hm => (hms m (List.mem_of_mem_drop hm)).1⟩
  rw [List.length_map]
  cases hends with
  | @missed error stop hanswers herror =>
      by_cases henough : minimum ≤ ms.length
      · rw [if_pos henough]
        obtain ⟨alt, hmerge, hdialect⟩ := Located.exists_mergeAll hnone
          (List.forall_mem_append.2 ⟨halts, List.forall_mem_singleton.2
            fun l (hl : l ∈ some error) => Option.mem_some.1 hl ▸ herror⟩)
        have hreturns := Returns.success hkept (.failed hroom henough hanswers rfl) hmerge
        rw [hrecovered] at hreturns
        exact .matched ((repeated_iff env g minimum none src ⟨i, 0, []⟩).2 hreturns) hdialect
      · rw [if_neg henough]
        obtain ⟨alt, hmerge, -⟩ := Located.exists_mergeAll hnone halts
        have hreturns := Returns.failure hkept hroom (by omega) hanswers hmerge
        rw [hrecovered] at hreturns
        exact .missed ((repeated_iff env g minimum none src ⟨i, 0, []⟩).2 hreturns) herror

end Repetitions

end Environment
end Resync
