import Resync.Grammar.Combinator
import Resync.Proofs.Simulation.Paired

/-!
# Diagnostics describe the token they lie at

Merging keeps the place and the token of the first diagnostic, and loses those of the second.
Nothing is lost if both agree, and they do as long as it is left to the parsers to say what is
wrong: where a diagnostic is made, it lies at the token that was looked at, and neither a label nor
a merge takes it away from there.

Hence it does not matter in which order two diagnostics at one position are merged.  Only the
reason tells the order, and only if both speak of an unclosed delimiter: the first one is kept.
-/

namespace Resync

/-- Whether a finding describes what was seen, for a reason that the parsers know themselves. -/
structure Detail.Describes (d : Detail) (seen : Sighting) : Prop where
  span_eq : d.span = seen.span
  found_eq : d.found = seen.token
  not_custom : ∀ message, d.reason ≠ .custom message

/-- Whether two findings speak of two delimiters that were not closed. -/
def Detail.Rivals (a b : Detail) : Prop :=
  a.reason.isUnclosed = true ∧ b.reason.isUnclosed = true ∧ a.reason ≠ b.reason

namespace Detail.Describes

variable {a b : Detail} {seen : Sighting}

theorem withLabel (h : a.Describes seen) (label : String) : (a.withLabel label).Describes seen :=
  ⟨h.span_eq, h.found_eq, h.not_custom⟩

theorem jointReason (ha : a.Describes seen) (hb : b.Describes seen) (message : String) :
    jointReason a b ≠ .custom message := by
  unfold Detail.jointReason
  split
  · exact hb.not_custom message
  · exact ha.not_custom message

theorem merge (ha : a.Describes seen) (hb : b.Describes seen) : (a.merge b).Describes seen :=
  ⟨ha.span_eq, ha.found_eq, ha.jointReason hb⟩

/-- A reason that is not about a delimiter is the same for all. -/
theorem reason_eq (h : a.Describes seen) (hreason : a.reason.isUnclosed = false) :
    a.reason = .unexpected := by
  cases hcase : a.reason with
  | unexpected => rfl
  | unclosed opened delimiter =>
      rw [hcase] at hreason
      cases hreason
  | custom message => exact absurd hcase (h.not_custom message)

/-- Unless they are about two delimiters, findings have one reason together, whichever is first. -/
theorem jointReason_comm
    (ha : a.Describes seen)
    (hb : b.Describes seen)
    (hrivals : ¬ a.Rivals b) :
    Detail.jointReason a b = Detail.jointReason b a := by
  unfold Detail.jointReason
  cases hleft : a.reason.isUnclosed with
  | false =>
      cases hright : b.reason.isUnclosed with
      | false => simp [ha.reason_eq hleft, hb.reason_eq hright]
      | true => simp
  | true =>
      cases hright : b.reason.isUnclosed with
      | false => simp
      | true =>
          have hsame : a.reason = b.reason := by
            by_contra hdiffer
            exact hrivals ⟨hleft, hright, hdiffer⟩
          simp [hsame]

/-- Findings about the same token are merged to the same place, token and expectations in either
order. -/
theorem merge_comm (ha : a.Describes seen) (hb : b.Describes seen) :
    (a.merge b).span = (b.merge a).span ∧
      (a.merge b).found = (b.merge a).found ∧
      ((a.merge b).expected == (b.merge a).expected) = true := by
  refine ⟨ha.span_eq.trans hb.span_eq.symm, ha.found_eq.trans hb.found_eq.symm, ?_⟩
  rw [PatternSet.beq_iff]
  intro v
  simp only [Detail.merge, PatternSet.mem_union]
  exact Or.comm

/-- Unless they are about two delimiters, all of it is the same. -/
theorem merge_beq_comm
    (ha : a.Describes seen)
    (hb : b.Describes seen)
    (hrivals : ¬ a.Rivals b) :
    (a.merge b == b.merge a) = true := by
  obtain ⟨hspan, hfound, hexpected⟩ := ha.merge_comm hb
  have hreason : (a.merge b).reason = (b.merge a).reason := ha.jointReason_comm hb hrivals
  have hparts :
      ((a.merge b).span == (b.merge a).span && (a.merge b).reason == (b.merge a).reason &&
        (a.merge b).expected == (b.merge a).expected &&
        (a.merge b).found == (b.merge a).found) = true := by
    rw [hspan, hreason, hexpected, hfound]
    simp
  exact hparts

end Detail.Describes

namespace Source

variable (src : Source) (family : Family)

/-- Whether a diagnostic of a family describes what is seen where it lies. -/
def Describes (l : Located) : Prop :=
  ∃ d, l.error = .detailed family d ∧ d.Describes (src.sighting l.position)

variable {src family}

/-- The further of two diagnostics describes what is seen where it lies, if both do. -/
theorem Describes.max
    {a b c : Located}
    (ha : src.Describes family a)
    (hb : src.Describes family b)
    (hmax : a.max (some b) = .ok c) :
    src.Describes family c := by
  rcases Located.max_some_eq_ok hmax with ⟨-, rfl⟩ | ⟨-, rfl⟩ | ⟨hat, error, hmerge, rfl⟩
  · exact ha
  · exact hb
  · obtain ⟨d, hd, hdescribes⟩ := ha
    obtain ⟨d', hd', hdescribes'⟩ := hb
    rw [hd, hd'] at hmerge
    cases hmerge
    exact ⟨_, rfl, hdescribes.merge (by rwa [hat])⟩

/-- Two diagnostics at one position are merged in either order, with the same place, token and
expectations; all of it is the same unless they are about two delimiters. -/
theorem Describes.max_comm
    {a b : Located}
    (ha : src.Describes family a)
    (hb : src.Describes family b)
    (hat : a.position = b.position) :
    ∃ d d' c c',
      a.error = .detailed family d ∧ b.error = .detailed family d' ∧
      a.max (some b) = .ok ⟨a.position, .detailed family c⟩ ∧
      b.max (some a) = .ok ⟨b.position, .detailed family c'⟩ ∧
      c.span = c'.span ∧ c.found = c'.found ∧ (c.expected == c'.expected) = true ∧
      (¬ d.Rivals d' → (c == c') = true) := by
  obtain ⟨i, _⟩ := a
  obtain ⟨j, _⟩ := b
  obtain ⟨d, rfl, hd⟩ := ha
  obtain ⟨d', rfl, hd'⟩ := hb
  cases hat
  have hmax (x y : Detail) :
      Located.max ⟨i, .detailed family x⟩ (some ⟨i, .detailed family y⟩) =
        .ok ⟨i, .detailed family (x.merge y)⟩ := by
    unfold Located.max
    simp only [gt_iff_lt, Nat.lt_irrefl, if_false]
    rfl
  obtain ⟨hspan, hfound, hexpected⟩ := hd.merge_comm hd'
  exact ⟨d, d', d.merge d', d'.merge d, rfl, rfl, hmax d d', hmax d' d, hspan, hfound, hexpected,
    hd.merge_beq_comm hd'⟩

/-- What describes something is what is seen when the cursor is moved there. -/
theorem Describes.peek
    {l : Located}
    (h : src.Describes family l) :
    ∃ d, l.error = .detailed family d ∧
      (∀ cur : Cursor, ∃ cur',
        Scan.peek src (cur.moved l.position) = .done ⟨l.position, d.span, d.found⟩ cur') ∧
      (src.size ≤ l.position → d.span = src.eoi ∧ d.found = .null) := by
  obtain ⟨d, hd, hspan, hfound, -⟩ := h
  have hseen : src.sighting l.position = ⟨l.position, d.span, d.found⟩ := by
    rw [hspan, hfound]
    exact congrArg (Sighting.mk · _ _) (src.sighting_position l.position)
  refine ⟨d, hd, fun cur => ⟨(cur.moved l.position).looked src l.position, ?_⟩, fun hend => ?_⟩
  · rw [Scan.peek_apply, Cursor.moved_offset, hseen]
  · have hnone : src.tokens[l.position]? = none := Array.getElem?_eq_none hend
    unfold sighting at hspan hfound
    rw [hnone] at hspan hfound
    exact ⟨hspan, hfound⟩

end Source

namespace Dialect

variable {family : Family} {span : Span} {e : Diagnostic}

theorem expecting_eq_ok
    {expected : List Value}
    {found : Value}
    (h : (detailed family).expecting span expected found = .ok e) :
    ∃ patterns, e = .detailed family ⟨span, .unexpected, patterns, found⟩ := by
  obtain ⟨patterns, -, he⟩ := bind_eq_ok.1 h
  cases he
  exact ⟨patterns, rfl⟩

theorem unclosed_eq_ok
    {opened : Span}
    {delimiter expected found : Value}
    (h : (detailed family).unclosed opened delimiter span expected found = .ok e) :
    ∃ patterns, e = .detailed family ⟨span, .unclosed opened delimiter, patterns, found⟩ := by
  obtain ⟨patterns, -, he⟩ := bind_eq_ok.1 h
  cases he
  exact ⟨patterns, rfl⟩

end Dialect

/-- Whether a grammar itself speaks for a family and leaves it to the parsers to say what is
wrong. -/
def Grammar.LeavesWording (family : Family) : Grammar → Prop
  | .satisfy dialect _ _ | .seq dialect _ | .endOfInput dialect => dialect = .detailed family
  | .filterMap _ _ | .tryMap _ _ | .mapError _ _ | .scripted _ _ _ => False
  | .empty | .map _ _ | .mapWithSpan _ _ | .labelled _ _ | .andThen _ _ | .orElse _ _ => True
  | .optional _ | .recoverWith _ _ | .repeated _ _ _ | .separatedBy _ _ _ _ _ => True
  | .generate _ | .ref _ => True

namespace Simulation

/-- The comparison of a run with itself, by what its diagnostics describe. -/
def describing (src : Source) (family : Family) : Simulation :=
  paired src (fun _ => True) (fun l m => m = l ∧ src.Describes family l) False
    (by
      rintro l m ⟨rfl, -⟩
      rfl)
    (by
      rintro a a' b b' c c' ⟨rfl, ha⟩ ⟨rfl, hb⟩ hmax hmax'
      rw [hmax] at hmax'
      cases hmax'
      exact ⟨rfl, ha.max hb hmax⟩)
    (fun _ _ => trivial)

section Describing

variable {src : Source} {family : Family}

theorem describing_expects (expected : List Value) :
    (describing src family).Expects (.detailed family) (.detailed family) expected expected := by
  refine fun i _ => .refl fun error herror => ⟨rfl, ?_⟩
  obtain ⟨patterns, rfl⟩ := Dialect.expecting_eq_ok herror
  exact ⟨_, rfl, rfl, rfl, fun message hcustom => by cases hcustom⟩

theorem describing_delimits (opening closing : Value) :
    (describing src family).Delimits (.detailed family) (.detailed family) opening closing := by
  refine fun opened i _ => .refl fun error herror => ⟨rfl, ?_⟩
  obtain ⟨patterns, rfl⟩ := Dialect.unclosed_eq_ok herror
  exact ⟨_, rfl, rfl, rfl, fun message hcustom => by cases hcustom⟩

/-- A recovery speaks as the diagnostic that it recovers from does. -/
theorem describing_strategies (strategy : Strategy) :
    (describing src family).Strategies strategy strategy := by
  cases strategy with
  | skipThenRetry sentinels => exact .skipThenRetry sentinels
  | nestedDelimiters opening closing others default =>
      refine .nestedDelimiters ?_ fun _ => rfl
      rintro l m ⟨rfl, d, hd, -⟩
      rw [hd]
      exact describing_delimits opening closing
  | defaultOutput value => exact .defaultOutput fun _ => rfl

theorem describing_admits (g : Grammar) (hg : g.LeavesWording family) :
    (describing src family).Admits g := by
  cases g with
  | satisfy dialect expected test =>
      cases hg
      exact describing_expects expected
  | seq dialect tokens =>
      cases hg
      exact fun token _ => describing_expects [token]
  | endOfInput dialect =>
      cases hg
      exact describing_expects [.null]
  | filterMap dialect f => exact hg.elim
  | tryMap f of => exact hg.elim
  | mapError f of => exact hg.elim
  | scripted consume relative answer => exact hg.elim
  | labelled label of =>
      rintro l m ⟨rfl, d, hd, hdescribes⟩
      exact ⟨rfl, d.withLabel label, congrArg (fun e => e.withLabel label) hd,
        hdescribes.withLabel label⟩
  | recoverWith of strategy => exact describing_strategies strategy
  | _ => trivial

theorem describing_results
    {r : Result}
    (h : (describing src family).Results r r) :
    ∀ l ∈ r.recovered ++ r.furthest.toList, src.Describes family l := by
  have hrecovered : ∀ {ls : List Located},
      List.Forall₂ (describing src family).Alike ls ls → ∀ l ∈ ls, src.Describes family l :=
    fun hall l hl => (List.forall₂_same.1 hall l hl).2
  intro l hl
  rcases List.mem_append.1 hl with hl | hl
  · cases h with
    | success hall houtput halt => exact hrecovered hall l hl
    | failure hall herror => exact hrecovered hall l hl
  · cases h with
    | success hall houtput halt =>
        cases halt with
        | none => cases hl
        | some halike => exact List.mem_singleton.1 hl ▸ halike.2
    | failure hall herror => exact List.mem_singleton.1 hl ▸ herror.2

end Describing
end Simulation

namespace Environment

variable {env : Environment} {family : Family} {g : Grammar}

/-- Every diagnostic of a run describes what is seen where it lies. -/
theorem run_describes
    {src : Source}
    {cur cur' : Cursor}
    {bound : Nat}
    {r : Result}
    (hg : env.Within (Grammar.LeavesWording family) g)
    (hrun : g.parser (env.resolve bound) src cur = .done r cur') :
    ∀ l ∈ r.recovered ++ r.furthest.toList, src.Describes family l := by
  let S := Simulation.describing src family
  have hsource : S.SameSource := by
    intro c d a c' b d' hlevel hat hx hy
    cases hx
    cases hy
    exact ⟨⟨rfl, rfl⟩, hlevel, hat⟩
  have hadmits : env.Within S.Admits g := fun h hreaches =>
    Simulation.describing_admits h (hg h hreaches)
  have hparsers : S.Parsers (g.parser (env.resolve bound)) (g.parser (env.resolve bound)) := by
    refine g.simulates id hsource.loops (fun _ => trivial) ?_ hadmits
    exact env.resolve_simulates 0 id hsource.loops (fun _ _ => trivial) bound
  obtain ⟨hresults, -, -⟩ := hparsers cur cur r cur' r cur' ⟨rfl, rfl⟩ trivial hrun hrun
  exact Simulation.describing_results hresults

/-- **Diagnostics describe the token they lie at.**  If a grammar leaves it to the parsers to say
what is wrong, the place and the token of each diagnostic of a run are those that are seen where
the diagnostic lies; beyond the last token these are the end of the input and null.

So any two such diagnostics at one position, of one run or of two over the same source, are merged
to the same place, token and expectations in either order, and to equal diagnostics unless they
are about two delimiters that were not closed. -/
theorem diagnostics_describe
    {env' : Environment}
    {g' : Grammar}
    {src : Source}
    {cur cur' stop stop' : Cursor}
    {r r' : Result}
    (hg : env.Within (Grammar.LeavesWording family) g)
    (hg' : env'.Within (Grammar.LeavesWording family) g')
    (hrun : env.parser g src cur = .done r stop)
    (hrun' : env'.parser g' src cur' = .done r' stop') :
    (∀ l ∈ r.recovered ++ r.furthest.toList,
      ∃ d, l.error = .detailed family d ∧
        (∀ c : Cursor, ∃ c',
          Scan.peek src (c.moved l.position) = .done ⟨l.position, d.span, d.found⟩ c') ∧
        (src.size ≤ l.position → d.span = src.eoi ∧ d.found = .null)) ∧
      ∀ a ∈ r.recovered ++ r.furthest.toList, ∀ b ∈ r'.recovered ++ r'.furthest.toList,
        a.position = b.position →
          ∃ d d' c c',
            a.error = .detailed family d ∧ b.error = .detailed family d' ∧
            a.max (some b) = .ok ⟨a.position, .detailed family c⟩ ∧
            b.max (some a) = .ok ⟨b.position, .detailed family c'⟩ ∧
            c.span = c'.span ∧ c.found = c'.found ∧ (c.expected == c'.expected) = true ∧
            (¬ d.Rivals d' → (c == c') = true) := by
  have hdescribes := run_describes hg hrun
  have hdescribes' := run_describes hg' hrun'
  exact ⟨fun l hl => (hdescribes l hl).peek,
    fun a ha b hb hat => (hdescribes a ha).max_comm (hdescribes' b hb) hat⟩

/-- A group that is never closed: what stopped the parser, and what the recovery reports, both lie
at the end of the input. -/
theorem diagnostics_describe_of_unclosed :
    let g : Grammar :=
      ((Grammar.just .simple (.int 1)).andThen (.just .simple (.int 2))).recoverWith
        (.nestedDelimiters (.int 1) (.int 2) [] .absent)
    let src : Source := .ofTokens [.int 1] .null
    let stopped : Located :=
      ⟨1, .detailed .simple ⟨src.eoi, .unexpected, .singleton (.int 2), .null⟩⟩
    let reported : Located :=
      ⟨1, .detailed .simple
        ⟨src.eoi, .unclosed (.single 0 .null) (.int 1), .singleton (.int 2), .null⟩⟩
    (∃ stop, parser {} g src {} = .done (.failure [reported] stopped) stop) ∧
      ∃ c c',
        reported.max (some stopped) = .ok ⟨1, .detailed .simple c⟩ ∧
        stopped.max (some reported) = .ok ⟨1, .detailed .simple c'⟩ ∧ (c == c') = true := by
  intro g src stopped reported
  have hg : Within {} (Grammar.LeavesWording .simple) g := by
    refine .of_closed
      (fun h => h = g ∨
        h = (Grammar.just .simple (.int 1)).andThen (.just .simple (.int 2)) ∨
        ∃ token, h = .just .simple token)
      (Or.inl rfl) ?_ ?_
    · rintro h (rfl | rfl | ⟨token, rfl⟩)
      · trivial
      · trivial
      · exact rfl
    · rintro h part (rfl | rfl | ⟨token, rfl⟩) hpart
      · exact Or.inr (Or.inl hpart)
      · rcases hpart with rfl | rfl
        · exact Or.inr (Or.inr ⟨_, rfl⟩)
        · exact Or.inr (Or.inr ⟨_, rfl⟩)
      · exact hpart.elim
  have hrun : ∃ stop, parser {} g src {} = .done (.failure [reported] stopped) stop := ⟨_, rfl⟩
  refine ⟨hrun, ?_⟩
  obtain ⟨stop, hrun⟩ := hrun
  obtain ⟨-, hmerge⟩ := diagnostics_describe hg hg hrun hrun
  obtain ⟨d, d', c, c', -, hd', hmax, hmax', -, -, -, hsame⟩ :=
    hmerge reported (.head _) stopped (.tail _ (.head _)) rfl
  cases hd'
  refine ⟨c, c', hmax, hmax', hsame ?_⟩
  rintro ⟨-, hunclosed, -⟩
  cases hunclosed

end Environment
end Resync
