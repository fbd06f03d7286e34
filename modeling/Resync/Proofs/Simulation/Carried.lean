import Resync.Proofs.Rounds
import Resync.Proofs.Simulation.Paired

/-!
# Runs that are carried over

A run that returns is carried over to another cursor at the same place, and to another source that
looks the same to it: the run that starts there returns as well, and with the same result.  What a
run has seen of its source is what it has taken from it, so the sources may differ in the rest.

The second run takes from its source what the first one takes.  So if some tokens had been taken
before either run, as many as the first and the second number say, then the two runs always have
the greater of their number and a common one.
-/

namespace Resync

/-- Whether two sources look the same to a run that takes no more than `count` tokens of the first
one. -/
def Source.Shows (src src' : Source) (count : Nat) : Prop :=
  ∀ i, min src.size (i + 1) ≤ count →
    src'.sighting i = src.sighting i ∧ min src'.size (i + 1) = min src.size (i + 1)

theorem Source.Shows.self (src : Source) (count : Nat) : src.Shows src count :=
  fun _ _ => ⟨rfl, rfl⟩

/-- Whether two numbers are the greater of a common number and one of their own each. -/
def Beside (first second m n : Nat) : Prop :=
  ∃ taken, m = max first taken ∧ n = max second taken

theorem Beside.start (first second : Nat) : Beside first second first second :=
  ⟨0, (Nat.max_zero first).symm, (Nat.max_zero second).symm⟩

theorem Beside.max
    {first second m n : Nat}
    (h : Beside first second m n)
    (more : Nat) :
    Beside first second (Max.max m more) (Max.max n more) := by
  obtain ⟨taken, rfl, rfl⟩ := h
  exact ⟨Max.max taken more, Nat.max_assoc _ _ _, Nat.max_assoc _ _ _⟩

namespace Walk

variable {src src' : Source} (rules : Walk.Rules)

/-- One step of a walk, by what is seen where it stands. -/
theorem run_sighting
    (src : Source)
    (i : Nat)
    (openings : List Span)
    (counts : List Int)
    (report : Option Located) :
    run rules src.eoi (src.rest i) i openings counts report =
      if (src.sighting i).token = .null then atEnd rules openings report (src.sighting i)
      else
        run rules src.eoi (((src.sighting i).token, (src.sighting i).span) :: src.rest (i + 1)) i
          openings counts report := by
  cases hrest : src.rest i with
  | nil =>
      rw [Source.sighting_of_rest_nil hrest]
      rfl
  | cons entry rest =>
      obtain ⟨token, span⟩ := entry
      obtain ⟨hsighting, hnext⟩ := Source.sighting_of_rest_cons hrest
      rw [hsighting, hnext]
      by_cases hnull : token = .null
      · subst hnull
        rfl
      · rw [if_neg hnull]

/-- A walk does not look back. -/
theorem le_seen
    (eoi : Span)
    (rest : List (Value × Span))
    (i : Nat)
    (openings : List Span)
    (counts : List Int)
    (report : Option Located) :
    i ≤ (run rules eoi rest i openings counts report).seen := by
  fun_induction run rules eoi rest i openings counts report with
  | case1 | case2 | case4 | case5 | case7 | case8 => exact Nat.le_refl _
  | case3 | case6 | case9 => exact Nat.le_of_succ_le ‹_›

/-- Walks over two sources are the same if the sources agree on what the first walk looks at. -/
theorem run_congr
    {rest : List (Value × Span)}
    {i : Nat}
    {openings : List Span}
    {counts : List Int}
    {report : Option Located}
    (hrest : src.rest i = rest)
    (h : ∀ j, i ≤ j → j ≤ (run rules src.eoi rest i openings counts report).seen →
      src'.sighting j = src.sighting j) :
    run rules src'.eoi (src'.rest i) i openings counts report =
      run rules src.eoi rest i openings counts report := by
  induction rest generalizing i openings counts report with
  | nil =>
      have hi := h i (Nat.le_refl i) (le_seen rules _ _ _ _ _ _)
      rw [run_sighting, hi, Source.sighting_of_rest_nil hrest]
      rfl
  | cons entry rest ih =>
      obtain ⟨token, span⟩ := entry
      obtain ⟨hsighting, hnext⟩ := Source.sighting_of_rest_cons hrest
      have hi := h i (Nat.le_refl i) (le_seen rules _ _ _ _ _ _)
      rw [run_sighting, hi, hsighting]
      by_cases hnull : token = .null
      · subst hnull
        rfl
      · unfold run at h ⊢
        simp only [if_neg hnull] at h ⊢
        have hlater {j : Nat} (hj : i + 1 ≤ j) : i ≤ j := Nat.le_of_succ_le hj
        by_cases hopening : token = rules.opening
        · simp only [if_pos hopening] at h ⊢
          exact ih hnext fun j hj => h j (hlater hj)
        · simp only [if_neg hopening] at h ⊢
          by_cases hclosing : token = rules.closing
          · simp only [if_pos hclosing] at h ⊢
            rcases openings with _ | ⟨_, _ | ⟨outer, outers⟩⟩
            · rfl
            · rfl
            · exact ih hnext fun j hj => h j (hlater hj)
          · simp only [if_neg hclosing] at h ⊢
            revert h
            generalize tally token rules.others counts = tallied
            obtain ⟨counts', exceeds⟩ := tallied
            generalize (if exceeds = true then missing rules openings report ⟨i, span, token⟩
              else .ok report) = found
            intro h
            cases found with
            | error f => rfl
            | ok found =>
                by_cases hnone : openings.isEmpty = true
                · simp only [if_pos hnone]
                · simp only [if_neg hnone] at h ⊢
                  exact ih hnext fun j hj => h j (hlater hj)

end Walk

namespace Simulation

/-- The comparison of a run that returns with one at another cursor, over another source, that has
to return with the same result. -/
def carried
    (src src' : Source)
    (count first second : Nat)
    (At : Nat → Prop)
    (hshows : src.Shows src' count)
    (at_succ : ∀ {i}, At i → (src.sighting i).token ≠ .null → At (i + 1)) :
    Simulation where
  source := src
  At := At
  Alike l m := m = l
  made := False
  loose := False
  -- The second run has to return only if the first one takes no more than what the sources share,
  -- but values are related in any case, so that the steps after these can be compared.
  Rel V x y := ∀ c a c', At c.offset → x src c = .done a c' →
    c.buffered ≤ c'.buffered ∧ At c'.offset ∧ (∃ b, V a b) ∧
      ∀ d, d.offset = c.offset → Beside first second c.buffered d.buffered →
        c'.buffered ≤ count →
          ∃ b d', y src' d = .done b d' ∧ V a b ∧
            d'.offset = c'.offset ∧ Beside first second c'.buffered d'.buffered
  loose_of_made := id
  position_eq := by
    rintro l m rfl
    rfl
  max := by
    rintro a a' b b' rfl rfl
    exact .refl fun _ _ => rfl
  at_succ := at_succ
  pure hab := by
    intro c a c' hat hx
    cases hx
    exact ⟨Nat.le_refl _, hat, ⟨_, hab⟩, fun d hoffset hbeside _ =>
      ⟨_, d, rfl, hab, hoffset, hbeside⟩⟩
  bind hx hf := by
    intro c a c' hat hrun
    obtain ⟨u, mid, hu, ha⟩ := Scan.bind_eq_done.1 hrun
    obtain ⟨hle, hmid, ⟨v, huv⟩, hcarries⟩ := hx c u mid hat hu
    obtain ⟨hle', hat', hrelated, -⟩ := hf u v huv mid a c' hmid ha
    refine ⟨Nat.le_trans hle hle', hat', hrelated, fun d hoffset hbeside hcount => ?_⟩
    obtain ⟨w, mid', hw, huw, hoffset', hbeside'⟩ :=
      hcarries d hoffset hbeside (Nat.le_trans hle' hcount)
    obtain ⟨-, -, -, hcarries'⟩ := hf u w huw mid a c' hmid ha
    obtain ⟨b, d', hb, hab, hend⟩ := hcarries' mid' hoffset' hbeside' hcount
    exact ⟨b, d', Scan.bind_eq_done.2 ⟨w, mid', hw, hb⟩, hab, hend⟩
  save := by
    intro c a c' hat hx
    cases hx
    exact ⟨Nat.le_refl _, hat, ⟨_, rfl, hat⟩, fun d hoffset hbeside _ =>
      ⟨_, d, rfl, ⟨hoffset, hat⟩, hoffset, hbeside⟩⟩
  revert hi := by
    intro c a c' hat hx
    cases hx
    exact ⟨Nat.le_refl _, hi, ⟨(), trivial⟩, fun d hoffset hbeside _ =>
      ⟨(), _, rfl, trivial, rfl, hbeside⟩⟩
  report := by
    intro e e' c a c' hat hx
    cases hx
    exact ⟨Nat.le_refl _, hat, ⟨(), trivial⟩, fun d hoffset hbeside _ =>
      ⟨(), _, rfl, trivial, hoffset, hbeside⟩⟩
  lookAt := by
    intro i c a c' hat hx
    cases hx
    refine ⟨Nat.le_max_left _ _, hat, ⟨_, rfl, rfl⟩, fun d hoffset hbeside hcount => ?_⟩
    obtain ⟨hsighting, hsize⟩ := hshows i (Nat.le_trans (Nat.le_max_right _ _) hcount)
    refine ⟨_, _, rfl, ⟨hsighting, rfl⟩, hoffset, ?_⟩
    rw [hsize]
    exact hbeside.max _
  silent_left h := fun c a c' _ hx => absurd hx (h c a c')
  silent_right hloose := hloose.elim

section Carried

variable {src src' : Source} {count first second : Nat} {At : Nat → Prop}
variable {hshows : src.Shows src' count}
variable {at_succ : ∀ {i}, At i → (src.sighting i).token ≠ .null → At (i + 1)}

theorem carried_diagonal :
    (carried src src' count first second At hshows at_succ).Diagonal fun _ => True :=
  ⟨fun _ _ => (and_iff_left trivial).symm, fun _ => trivial⟩

/-- Parsers that leave themselves room are carried over if they are within the same bounds. -/
theorem carried_bounded
    {x y : Parser}
    {f f' : Nat → Parser}
    (room : Nat → Nat)
    (hx : ∀ c, x src c = f (room (src.size - c.offset)) src c)
    (hy : ∀ d, y src' d = f' (room (src'.size - d.offset)) src' d)
    (hraise : ∀ c bound, room (src.size - c.offset) ≤ bound →
      Scan.Yields src c (f (room (src.size - c.offset))) (f bound))
    (hlower : ∀ d bound, room (src'.size - d.offset) ≤ bound →
      Scan.Yields src' d (f' bound) (f' (room (src'.size - d.offset))))
    (hf : ∀ bound,
      (carried src src' count first second At hshows at_succ).Parsers (f bound) (f' bound)) :
    (carried src src' count first second At hshows at_succ).Parsers x y := by
  intro c r c' hat hrun
  rw [hx] at hrun
  obtain ⟨hle, hat', hrelated, -⟩ := hf _ c r c' hat hrun
  refine ⟨hle, hat', hrelated, fun d hoffset hbeside hcount => ?_⟩
  have hraised := hraise c (room (src.size - c.offset) + room (src'.size - d.offset))
    (Nat.le_add_right _ _) r c' hrun
  obtain ⟨-, -, -, hcarries⟩ := hf _ c r c' hat hraised
  obtain ⟨r', d', hrun', hr, hend⟩ := hcarries d hoffset hbeside hcount
  refine ⟨r', d', ?_, hr, hend⟩
  rw [hy]
  exact hlower d _ (Nat.le_add_left _ _) r' d' hrun'

variable {p p' q q' : Parser}

theorem carried_repeated
    (hforward : p.Forward src)
    (hforward' : p'.Forward src')
    (hp : (carried src src' count first second At hshows at_succ).Parsers p p')
    (minimum : Nat)
    (maximum : Option Nat) :
    (carried src src' count first second At hshows at_succ).Parsers
      (Parser.repeated p minimum maximum)
      (Parser.repeated p' minimum maximum) := by
  refine carried_bounded (fun left => minimum + left + 2) (fun _ => rfl) (fun _ => rfl) ?_ ?_
    fun bound => hp.repeatedFrom bound .nil .none
  · exact fun c bound hbound => hforward.repeatedFrom (by
      rw [List.length_nil]
      omega)
  · exact fun d bound hbound => hforward'.repeatedFrom (by
      rw [List.length_nil]
      omega)

theorem carried_separatedBy
    (hforward : p.Forward src ∧ q.Forward src)
    (hforward' : p'.Forward src' ∧ q'.Forward src')
    (hp : (carried src src' count first second At hshows at_succ).Parsers p p')
    (hq : (carried src src' count first second At hshows at_succ).Parsers q q')
    (minimum : Nat)
    (leading trailing : Bool) :
    (carried src src' count first second At hshows at_succ).Parsers
      (Parser.separatedBy p q minimum leading trailing)
      (Parser.separatedBy p' q' minimum leading trailing) := by
  refine hp.separatedByOf hq leading fun hgathered halt => ?_
  refine carried_bounded (fun left => minimum + left + 2) (fun _ => rfl) (fun _ => rfl) ?_ ?_
    fun bound => hp.separatedFrom hq bound hgathered halt
  · exact fun c bound hbound => hforward.1.separatedFrom hforward.2 (by omega)
  · exact fun d bound hbound => hforward'.1.separatedFrom hforward'.2 (by omega)

theorem carried_skipThenRetry
    {recovered recovered' : List Located}
    {fatal fatal' : Located}
    (hp : (carried src src' count first second At hshows at_succ).Parsers p p')
    (sentinels : List Value)
    (hrecovered : List.Forall₂ (carried src src' count first second At hshows at_succ).Alike
      recovered recovered')
    (hfatal : (carried src src' count first second At hshows at_succ).Alike fatal fatal') :
    (carried src src' count first second At hshows at_succ).Parsers
      ((Strategy.skipThenRetry sentinels).recover p recovered fatal)
      ((Strategy.skipThenRetry sentinels).recover p' recovered' fatal') := by
  refine carried_bounded (fun left => left) (fun _ => rfl) (fun _ => rfl) ?_ ?_
    fun bound => hp.skipAndRetry sentinels hrecovered hfatal bound 0
  · exact fun c bound hbound => Strategy.skipAndRetry_yields (Nat.le_refl _) hbound
  · exact fun d bound hbound => Strategy.skipAndRetry_yields hbound (Nat.le_refl _)

/-- The last token a walk looks at is taken from the source, and with it all tokens before. -/
theorem buffered_of_afterWalk
    {walk : Walk}
    {default : Value}
    {recovered : List Located}
    {fatal : Located}
    {c c' : Cursor}
    {r : Result}
    (hrun : Strategy.afterWalk walk default recovered fatal src c = .done r c') :
    min src.size (walk.seen + 1) ≤ c'.buffered := by
  obtain ⟨seen, mid, hlook, hrest⟩ := Scan.bind_eq_done.1 hrun
  obtain ⟨u, back, hrevert, hrest⟩ := Scan.bind_eq_done.1 hrest
  obtain ⟨verdict, last, hverdict, hrest⟩ := Scan.bind_eq_done.1 hrest
  obtain ⟨-, rfl⟩ := Scan.ofExcept_eq_done.1 hverdict
  cases hlook
  cases hrevert
  obtain ⟨closed, report⟩ := verdict
  cases closed with
  | true =>
      cases hrest
      exact Nat.le_max_right _ _
  | false =>
      cases hrest
      exact Nat.le_max_right _ _

theorem carried_skipGroup
    {opening closing default default' : Value}
    {recovered recovered' : List Located}
    {fatal fatal' : Located}
    {dialect : Dialect}
    (others : List (Value × Value))
    (hdefault : default' = default)
    (hrecovered : List.Forall₂ (carried src src' count first second At hshows at_succ).Alike
      recovered recovered')
    (hfatal : (carried src src' count first second At hshows at_succ).Alike fatal fatal') :
    (carried src src' count first second At hshows at_succ).Parsers
      (Strategy.skipGroup ⟨opening, closing, others, dialect⟩ default recovered fatal)
      (Strategy.skipGroup ⟨opening, closing, others, dialect⟩ default' recovered' fatal') := by
  intro c r c' hat hrun
  rw [Strategy.skipGroup_apply] at hrun
  have hdelimits : (carried src src' count first second At hshows at_succ).Delimits dialect dialect
      opening closing := fun _ _ hi => .refl fun error _ => carried_diagonal.alike_at hi error
  have hwalk := run_walks others hdelimits rfl hat [] (others.map fun _ => 0) .none
  have hafter := Parsers.afterWalk hwalk (fun _ => hdefault) hrecovered hfatal
  obtain ⟨hle, hat', hrelated, hcarries⟩ := hafter c r c' hat hrun
  refine ⟨hle, hat', hrelated, fun d hoffset hbeside hcount => ?_⟩
  have hbuffered := buffered_of_afterWalk hrun
  rw [Strategy.skipGroup_apply, hoffset,
    Walk.run_congr _ (rfl : src.rest c.offset = src.rest c.offset)]
  · exact hcarries d hoffset hbeside hcount
  · exact fun j _ hj => (hshows j (by omega)).1

/-- Whatever runs a parser several times is carried over if the parser does not move the cursor
back. -/
theorem carried_loops :
    (carried src src' count first second At hshows at_succ).Loops fun p p' =>
      p.Forward src ∧ p'.Forward src' where
  repeated hfit hp := carried_repeated hfit.1 hfit.2 hp
  separatedBy hfit hfit' hp hq := carried_separatedBy ⟨hfit.1, hfit'.1⟩ ⟨hfit.2, hfit'.2⟩ hp hq
  recoverWith _ hp hs := hp.recoverWith fun hrecovered hfatal => by
    cases hs with
    | skipThenRetry sentinels => exact carried_skipThenRetry hp sentinels hrecovered hfatal
    | nestedDelimiters _ hdefault =>
        cases hfatal
        exact carried_skipGroup _ (hdefault id) hrecovered rfl
    | defaultOutput hvalue =>
        rw [hvalue id]
        exact Parsers.success (List.rel_append hrecovered (.cons hfatal .nil)) (fun _ => rfl) .none

end Carried
end Simulation
end Resync
