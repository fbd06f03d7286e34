import Resync.Proofs.LazyStream

/-!
# A lazy stream refines an array with an index

A scan, a lazy stream and an eager cursor over one source are at the same point if they stand at the
same offset, and the buffer of the lazy stream holds what its requests have needed so far.  Every
operation leads from one such point to another, with the same answer, and so does every program.

Two things never go back: the buffer only grows, and a cursor that was moved to an offset that had
not been saved stays marked.  The mark is what keeps the cursor within the source: an attempt that
is given up puts the cursor back to where it stood, which lay within the source unless the mark was
there before.
-/

namespace Resync

section Buffers

variable {i : Nat} {rest buffer : List (Value × Span)}

namespace LazyStream

/-- Tokens are moved from the rest to the buffer, and none is lost. -/
theorem takeUntil_append :
    (takeUntil i rest buffer).2 ++ (takeUntil i rest buffer).1 = buffer ++ rest := by
  induction rest generalizing buffer with
  | nil => rfl
  | cons entry rest ih =>
      unfold takeUntil
      split
      · rw [ih, List.append_assoc]
        rfl
      · rfl

/-- Tokens are added to the buffer. -/
theorem takeUntil_grows : buffer <+: (takeUntil i rest buffer).2 := by
  induction rest generalizing buffer with
  | nil => exact List.prefix_refl buffer
  | cons entry rest ih =>
      unfold takeUntil
      split
      · exact (List.prefix_append buffer [entry]).trans ih
      · exact List.prefix_refl buffer

/-- As many tokens are taken as it needs to reach the index, unless there are too few. -/
theorem takeUntil_length :
    (takeUntil i rest buffer).2.length =
      max buffer.length (min (buffer.length + rest.length) (i + 1)) := by
  induction rest generalizing buffer with
  | nil =>
      show buffer.length = _
      rw [List.length_nil]
      omega
  | cons entry rest ih =>
      unfold takeUntil
      by_cases hshort : buffer.length ≤ i
      · rw [if_pos hshort, ih, List.length_append, List.length_singleton, List.length_cons]
        omega
      · rw [if_neg hshort, List.length_cons]
        show buffer.length = _
        omega

/-- The stream after the token at index `i` was asked for. -/
def pulled (s : LazyStream) (i : Nat) : LazyStream :=
  { s with
    rest := (takeUntil i s.rest s.buffer).1
    buffer := (takeUntil i s.rest s.buffer).2 }

@[simp] theorem pulled_offset (s : LazyStream) (i : Nat) : (s.pulled i).offset = s.offset := rfl

theorem pull_apply (s : LazyStream) (i : Nat) :
    pull i s = .ok (s.pulled i).buffer[i]? (s.pulled i) := rfl

end LazyStream
end Buffers

namespace Tape

/-- One more request is reached. -/
theorem reach_cons (t : Tape) (i : Nat) :
    reach { t with requested := i :: t.requested } = max t.reach (i + 1) := by
  unfold reach
  cases hmax : t.requested.max? with
  | none =>
      simp only [List.max?_cons, hmax]
      show i + 1 = _
      omega
  | some j =>
      simp only [List.max?_cons, hmax]
      show max i j + 1 = _
      omega

end Tape

/-- Whether a scan, a lazy stream and an eager cursor over one source have come to the same. -/
structure Tracks (src : Source) (c : Cursor) (s : LazyStream) (t : Tape) : Prop where
  offset_eq : s.offset = t.offset
  cursor_eq : c.offset = t.offset
  eoi_eq : s.eoi = src.eoi
  /-- The buffer and what was not taken are the source. -/
  whole : s.buffer ++ s.rest = src.tokens.toList
  /-- No more was taken than it needed to reach what was requested. -/
  length_eq : s.buffer.length = min src.size t.reach
  buffered_eq : c.buffered = s.buffer.length
  /-- Saved offsets lie within the source, and so does the cursor unless it was moved elsewhere. -/
  within : t.strayed = false → t.offset ≤ src.size ∧ ∀ i ∈ t.saved, i ≤ src.size

/-- What never goes back, whatever is asked of a stream. -/
structure Follows (s s' : LazyStream) (t t' : Tape) : Prop where
  grows : s.buffer <+: s'.buffer
  strays : t'.strayed = false → t.strayed = false

namespace Follows

variable {s s' s'' : LazyStream} {t t' t'' : Tape}

theorem refl (s : LazyStream) (t : Tape) : Follows s s t t := ⟨List.prefix_refl _, id⟩

theorem trans (h : Follows s s' t t') (h' : Follows s' s'' t' t'') : Follows s s'' t t'' :=
  ⟨h.grows.trans h'.grows, fun hstrayed => h.strays (h'.strays hstrayed)⟩

end Follows

/-- Whether three runs that started at the same point end alike, with the same answer or with the
same fault, and have come to the same again. -/
inductive EndsAlike (src : Source) (s : LazyStream) (t : Tape) {α : Type} :
    Outcome α → EStateM.Result Fault LazyStream α → EStateM.Result Fault Tape α → Prop
  | done
      (a : α) {c' : Cursor} {s' : LazyStream} {t' : Tape}
      (htracks : Tracks src c' s' t')
      (hfollows : Follows s s' t t') :
      EndsAlike src s t (.done a c') (.ok a s') (.ok a t')
  | fault
      (f : Fault) {c' : Cursor} {s' : LazyStream} {t' : Tape}
      (htracks : Tracks src c' s' t')
      (hfollows : Follows s s' t t') :
      EndsAlike src s t (.halted (.fault f) c') (.error f s') (.error f t')

/-- Whether a scan, a computation on lazy streams and one on eager cursors end alike from all points
that are the same. -/
def RunAlike
    (src : Source)
    {α : Type}
    (x : Scan α)
    (y : EStateM Fault LazyStream α)
    (z : EStateM Fault Tape α) :
    Prop :=
  ∀ c s t, Tracks src c s t → EndsAlike src s t (x src c) (y s) (z t)

namespace Tracks

variable {src : Source} {c : Cursor} {s : LazyStream} {t : Tape}

/-- Before anything is asked for, all three are at the beginning. -/
theorem start (src : Source) : Tracks src {} (.ofSource src) {} where
  offset_eq := rfl
  cursor_eq := rfl
  eoi_eq := rfl
  whole := rfl
  length_eq := (Nat.min_zero src.size).symm
  buffered_eq := rfl
  within _ := ⟨Nat.zero_le _, fun _ hi => nomatch hi⟩

/-- The buffer is a prefix of the source. -/
theorem buffer_prefix (h : Tracks src c s t) : s.buffer <+: src.tokens.toList :=
  ⟨s.rest, h.whole⟩

theorem size_eq (h : Tracks src c s t) : s.buffer.length + s.rest.length = src.size := by
  have hsize := congrArg List.length h.whole
  rwa [List.length_append, Array.length_toList] at hsize

theorem pulled_length (h : Tracks src c s t) (i : Nat) :
    (s.pulled i).buffer.length = max s.buffer.length (min src.size (i + 1)) := by
  rw [← h.size_eq]
  exact LazyStream.takeUntil_length

/-- Asking for a token keeps all three together. -/
theorem pulled (h : Tracks src c s t) (i : Nat) :
    Tracks src (c.looked src i) (s.pulled i) { t with requested := i :: t.requested } where
  offset_eq := h.offset_eq
  cursor_eq := h.cursor_eq
  eoi_eq := h.eoi_eq
  whole := LazyStream.takeUntil_append.trans h.whole
  length_eq := by
    rw [h.pulled_length, h.length_eq, Tape.reach_cons]
    omega
  buffered_eq := by rw [h.pulled_length, Cursor.looked_buffered, h.buffered_eq]
  within := h.within

/-- What is found in the buffer is what the source has there. -/
theorem buffer_getElem? (h : Tracks src c s t) (i : Nat) :
    (s.pulled i).buffer[i]? = src.tokens[i]? := by
  have hlength := h.pulled_length i
  rw [← Array.getElem?_toList, ← (h.pulled i).whole]
  rcases Nat.lt_or_ge i (s.pulled i).buffer.length with hlt | hge
  · rw [List.getElem?_append_left hlt]
  · have hrest := (h.pulled i).size_eq
    rw [List.getElem?_eq_none hge, List.getElem?_eq_none]
    rw [List.length_append]
    omega

/-- The cursor is moved to where all agree that it goes. -/
theorem moved
    (h : Tracks src c s t)
    (i : Nat)
    (strayed : Bool)
    (hwithin : strayed = false → t.strayed = false ∧ i ≤ src.size) :
    Tracks src (c.moved i) { s with offset := i } { t with offset := i, strayed := strayed } where
  offset_eq := rfl
  cursor_eq := rfl
  eoi_eq := h.eoi_eq
  whole := h.whole
  length_eq := h.length_eq
  buffered_eq := h.buffered_eq
  within hstrayed := ⟨(hwithin hstrayed).2, (h.within (hwithin hstrayed).1).2⟩

end Tracks

theorem Follows.pulled (s : LazyStream) (t : Tape) (i : Nat) :
    Follows s (s.pulled i) t { t with requested := i :: t.requested } :=
  ⟨LazyStream.takeUntil_grows, id⟩

theorem Follows.moved (s : LazyStream) (t : Tape) (i : Nat) {strayed : Bool}
    (hstrayed : strayed = false → t.strayed = false) :
    Follows s { s with offset := i } t { t with offset := i, strayed := strayed } :=
  ⟨List.prefix_refl _, hstrayed⟩

/-- A computation after one that has answered. -/
theorem bind_of_ok
    {ε σ α β : Type}
    {x : EStateM ε σ α}
    {f : α → EStateM ε σ β}
    {s s' : σ}
    {a : α}
    (h : x s = .ok a s') :
    (x >>= f) s = f a s' := by
  show EStateM.bind x f s = _
  unfold EStateM.bind
  rw [h]

theorem bind_of_error
    {ε σ α β : Type}
    {x : EStateM ε σ α}
    {f : α → EStateM ε σ β}
    {s s' : σ}
    {e : ε}
    (h : x s = .error e s') :
    (x >>= f) s = .error e s' := by
  show EStateM.bind x f s = _
  unfold EStateM.bind
  rw [h]

theorem get_apply {ε σ : Type} (s : σ) : (get : EStateM ε σ σ) s = .ok s s := rfl

namespace LazyStream

variable {src : Source} {c : Cursor} {s : LazyStream} {t : Tape}

theorem spanAt_apply (h : Tracks src c s t) (i : Nat) :
    spanAt i s = .ok (src.sighting i).span (s.pulled i) := by
  unfold spanAt Source.sighting
  rw [bind_of_ok (pull_apply s i), ← h.buffer_getElem? i]
  cases (s.pulled i).buffer[i]? with
  | none => exact congrArg (fun span => EStateM.Result.ok span (s.pulled i)) h.eoi_eq
  | some entry => rfl

theorem peek_apply (h : Tracks src c s t) :
    peek s = .ok (src.sighting s.offset) (s.pulled s.offset) := by
  unfold peek Source.sighting
  rw [bind_of_ok (get_apply s), bind_of_ok (pull_apply s s.offset),
    ← h.buffer_getElem? s.offset]
  cases (s.pulled s.offset).buffer[s.offset]? with
  | none =>
      exact congrArg
        (fun span => EStateM.Result.ok (Sighting.mk s.offset span .null) (s.pulled s.offset))
        h.eoi_eq
  | some entry => rfl

theorem next_apply (h : Tracks src c s t) :
    next s =
      .ok (src.sighting s.offset) { s.pulled s.offset with offset := src.after s.offset } := by
  unfold next Source.after
  rw [bind_of_ok (peek_apply h)]
  by_cases hnull : (src.sighting s.offset).token = .null
  · simp only [hnull, ne_eq, not_true_eq_false, if_false, if_true]
    rfl
  · simp only [hnull, ne_eq, not_false_eq_true, if_true, if_false]
    rfl

/-- The span since `start` is that of the tokens between there and the cursor. -/
theorem spanSince_apply (h : Tracks src c s t) (start : Nat) :
    spanSince start s =
      let s' := s.pulled start
      let s'' := if s.offset ≤ start then s' else s'.pulled (s.offset - 1)
      match src.spanBetween start s.offset with
      | .ok span => .ok span s''
      | .error f => .error f s'' := by
  unfold spanSince Source.spanBetween
  rw [bind_of_ok (spanAt_apply h start), bind_of_ok (get_apply _)]
  by_cases hempty : s.offset ≤ start
  · have hempty' : (s.pulled start).offset ≤ start := hempty
    simp only [if_pos hempty, if_pos hempty']
    rfl
  · have hempty' : ¬ (s.pulled start).offset ≤ start := hempty
    simp only [if_neg hempty, if_neg hempty']
    rw [bind_of_ok (spanAt_apply (h.pulled start) _), pulled_offset]
    unfold Span.through
    cases (src.sighting start).span.withRange (src.sighting start).span.start
        (src.sighting (s.offset - 1)).span.stop with
    | ok span => rfl
    | error f => rfl

end LazyStream

theorem Tape.look_apply (src : Source) (i : Nat) (t : Tape) :
    look src i t = .ok (src.sighting i) { t with requested := i :: t.requested } := rfl

/-- What an eager cursor makes of it. -/
theorem Tape.spanSince_apply (src : Source) (start : Nat) (t : Tape) :
    (Tape.impl src).perform (.spanSince start) t =
      let t' := { t with requested := start :: t.requested }
      let t'' :=
        if t.offset ≤ start then t'
        else { t' with requested := (t.offset - 1) :: t'.requested }
      match src.spanBetween start t.offset with
      | .ok span => .ok span t''
      | .error f => .error f t'' := by
  unfold impl
  simp only
  rw [bind_of_ok (look_apply src start t), bind_of_ok (get_apply _)]
  by_cases hempty : t.offset ≤ start
  · simp only [if_pos hempty, if_neg (Nat.not_lt.2 hempty)]
    cases src.spanBetween start t.offset with
    | ok span => rfl
    | error f => rfl
  · simp only [if_neg hempty, if_pos (Nat.not_le.1 hempty)]
    rw [bind_of_ok (look_apply src _ _)]
    cases src.spanBetween start t.offset with
    | ok span => rfl
    | error f => rfl

theorem EndsAlike.after
    {src : Source}
    {α : Type}
    {s s' : LazyStream}
    {t t' : Tape}
    {x : Outcome α}
    {y : EStateM.Result Fault LazyStream α}
    {z : EStateM.Result Fault Tape α}
    (hends : EndsAlike src s' t' x y z)
    (hfollows : Follows s s' t t') :
    EndsAlike src s t x y z := by
  cases hends with
  | done a htracks hfollows' => exact .done a htracks (hfollows.trans hfollows')
  | fault f htracks hfollows' => exact .fault f htracks (hfollows.trans hfollows')

namespace RunAlike

variable {src : Source} {α β : Type}

theorem answer (a : α) : RunAlike src (pure a) (pure a) (pure a) :=
  fun _ s t htracks => .done a htracks (.refl s t)

theorem bind
    {x : Scan α} {y : EStateM Fault LazyStream α} {z : EStateM Fault Tape α}
    {f : α → Scan β} {g : α → EStateM Fault LazyStream β} {k : α → EStateM Fault Tape β}
    (hx : RunAlike src x y z)
    (hf : ∀ a, RunAlike src (f a) (g a) (k a)) :
    RunAlike src (x >>= f) (y >>= g) (z >>= k) := by
  intro c s t htracks
  have hends := hx c s t htracks
  rw [Scan.bind_apply]
  show EndsAlike src s t _ (EStateM.bind y g s) (EStateM.bind z k t)
  unfold EStateM.bind
  revert hends
  generalize x src c = ox
  generalize y s = oy
  generalize z t = oz
  intro hends
  cases hends with
  | done a htracks' hfollows => exact (hf a _ _ _ htracks').after hfollows
  | fault f htracks' hfollows => exact .fault f htracks' hfollows

theorem peek : RunAlike src Scan.peek LazyStream.peek ((Tape.impl src).perform .peek) := by
  intro c s t htracks
  rw [Scan.peek_apply, LazyStream.peek_apply htracks, htracks.cursor_eq, htracks.offset_eq]
  exact .done _ (htracks.pulled t.offset) (.pulled s t t.offset)

theorem next : RunAlike src Scan.next LazyStream.next ((Tape.impl src).perform .next) := by
  intro c s t htracks
  rw [Scan.next_apply, LazyStream.next_apply htracks, htracks.cursor_eq, htracks.offset_eq]
  have hpulled := htracks.pulled t.offset
  refine .done _ (hpulled.moved _ t.strayed fun hstrayed => ⟨hstrayed, ?_⟩)
    ((Follows.pulled s t t.offset).trans (.moved _ _ _ id))
  have hwithin := (htracks.within hstrayed).1
  unfold Source.after
  split
  · exact hwithin
  · exact Source.lt_size_of_token ‹_›

theorem spanSince (start : Nat) :
    RunAlike src (Scan.spanSince start) (LazyStream.spanSince start)
      ((Tape.impl src).perform (.spanSince start)) := by
  intro c s t htracks
  rw [Scan.spanSince_apply, LazyStream.spanSince_apply htracks, Tape.spanSince_apply,
    htracks.cursor_eq, htracks.offset_eq]
  have hfirst := htracks.pulled start
  have hfollows := Follows.pulled s t start
  by_cases hempty : t.offset ≤ start
  · simp only [if_pos hempty]
    cases src.spanBetween start t.offset with
    | ok span => exact .done span hfirst hfollows
    | error f => exact .fault f hfirst hfollows
  · simp only [if_neg hempty]
    have hlast := hfirst.pulled (t.offset - 1)
    have hfollows' := hfollows.trans (.pulled _ _ (t.offset - 1))
    cases src.spanBetween start t.offset with
    | ok span => exact .done span hlast hfollows'
    | error f => exact .fault f hlast hfollows'

theorem perform {β : Type} (op : StreamOp β) :
    RunAlike src (Scan.impl.perform op) (LazyStream.impl.perform op)
      ((Tape.impl src).perform op) := by
  cases op with
  | peek => exact peek
  | next => exact next
  | spanSince start => exact spanSince start
  | atEnd => exact peek.bind fun seen => answer (decide (seen.token = .null))
  | save =>
      intro c s t htracks
      show EndsAlike src s t (.done c.offset c) (.ok s.offset s)
        (.ok t.offset { t with saved := t.offset :: t.saved })
      rw [htracks.cursor_eq, htracks.offset_eq]
      refine .done _ { htracks with within := fun hstrayed => ?_ } ⟨List.prefix_refl _, id⟩
      obtain ⟨hoffset, hsaved⟩ := htracks.within hstrayed
      exact ⟨hoffset, List.forall_mem_cons.2 ⟨hoffset, hsaved⟩⟩
  | revert offset =>
      intro c s t htracks
      have hkept : (t.strayed || !t.saved.contains offset) = false →
          t.strayed = false ∧ offset ≤ src.size := by
        intro hstrayed
        obtain ⟨hbefore, hsaved⟩ := Bool.or_eq_false_iff.1 hstrayed
        have hmem : offset ∈ t.saved := by simpa using hsaved
        exact ⟨hbefore, (htracks.within hbefore).2 offset hmem⟩
      exact .done () (htracks.moved offset _ hkept) (.moved s t offset fun h => (hkept h).1)

variable {x : Scan α} {y : EStateM Fault LazyStream α} {z : EStateM Fault Tape α}

/-- All three put the cursor back to where it stood, unless the answer says to keep it. -/
theorem rewinding
    (keep : α → Bool)
    (give : α → β)
    (h : RunAlike src x y z) :
    RunAlike src
      (do
        let before ← Scan.save
        let a ← x
        if !keep a then
          Scan.revert before
        return give a)
      (do
        let before := (← get).offset
        let a ← y
        if !keep a then
          LazyStream.revert before
        return give a)
      (do
        let before := (← get).offset
        let a ← z
        if !keep a then
          Tape.restore before
        return give a) := by
  intro c s t htracks
  have hends := h c s t htracks
  rw [Scan.bind_apply, Scan.save_apply, bind_of_ok (get_apply s), bind_of_ok (get_apply t)]
  simp only
  rw [Scan.bind_apply]
  generalize hx : x src c = ox at hends
  generalize hy : y s = oy at hends
  generalize hz : z t = oz at hends
  cases hends with
  | fault f htracks' hfollows =>
      rw [bind_of_error hy, bind_of_error hz]
      exact .fault f htracks' hfollows
  | @done a c' s' t' htracks' hfollows =>
      rw [bind_of_ok hy, bind_of_ok hz]
      simp only
      cases keep a with
      | true => exact .done (give a) htracks' hfollows
      | false =>
          rw [htracks.cursor_eq, htracks.offset_eq]
          have hmoved := htracks'.moved t.offset t'.strayed fun hstrayed =>
            ⟨hstrayed, (htracks.within (hfollows.strays hstrayed)).1⟩
          exact .done (give a) hmoved (hfollows.trans (.moved s' t' t.offset id))

end RunAlike

/-- Every program runs alike as a scan, on a lazy stream and on an eager cursor. -/
theorem StreamProgram.runAlike
    (src : Source)
    {α : Type} :
    ∀ program : StreamProgram α,
      RunAlike src (program.run Scan.impl) (program.run LazyStream.impl)
        (program.run (Tape.impl src))
  | .answer a => .answer a
  | .perform op resume => (RunAlike.perform op).bind fun b => (resume b).runAlike src
  | .attempt probe resume =>
      ((probe.runAlike src).rewinding Prod.fst Prod.snd).bind fun b => (resume b).runAlike src
  | .tryParse parser resume =>
      ((parser.runAlike src).rewinding Result.isSuccess id).bind fun r => (resume r).runAlike src

/-- A token is passed if there is one, and it is not null. -/
theorem Source.after_eq (src : Source) (i : Nat) :
    src.after i =
      match src.tokens[i]? with
      | some (token, _) => if token = .null then i else i + 1
      | none => i := by
  unfold after sighting
  cases src.tokens[i]? with
  | none => rfl
  | some entry => rfl

/-- **A lazy stream refines an array with an index.**  From the beginning, and wherever a lazy
stream and an eager cursor over its source have come since, every program gives the same answers on
both, and as a scan, and they come to the same point again; the buffer only grows.

At every such point the buffer is the part of the source up to the greatest index that was requested
so far.  A token that is taken moves the cursor by one exactly if it is there and is not null.  An
attempt that does not commit, and a parser that is tried and fails, leave the cursor where it was,
whatever they did.  If only saved offsets were reverted to, the cursor is within the source. -/
theorem lazyStream_refines (src : Source) :
    Tracks src {} (.ofSource src) {} ∧
      ∀ c s t, Tracks src c s t →
        (∀ {α : Type} (program : StreamProgram α),
          EndsAlike src s t (program.run Scan.impl src c) (program.run LazyStream.impl s)
            (program.run (Tape.impl src) t)) ∧
        s.buffer <+: src.tokens.toList ∧
        s.buffer.length = min src.size t.reach ∧
        (∃ s', LazyStream.next s = .ok (src.sighting s.offset) s' ∧
          s'.offset =
            match src.tokens[s.offset]? with
            | some (token, _) => if token = .null then s.offset else s.offset + 1
            | none => s.offset) ∧
        (∀ {β : Type} (probe : StreamProgram (Bool × β)) b s',
          probe.run LazyStream.impl s = .ok (false, b) s' →
            LazyStream.impl.attempt (probe.run LazyStream.impl) s =
              .ok b { s' with offset := s.offset }) ∧
        (∀ (parser : StreamProgram Result) r s',
          parser.run LazyStream.impl s = .ok r s' → r.isSuccess = false →
            LazyStream.impl.tryParse (parser.run LazyStream.impl) s =
              .ok r { s' with offset := s.offset }) ∧
        (t.strayed = false → s.offset ≤ src.size) := by
  refine ⟨.start src, fun c s t htracks => ⟨fun program => program.runAlike src c s t htracks,
    htracks.buffer_prefix, htracks.length_eq, ?_, ?_, ?_, fun hstrayed => ?_⟩⟩
  · exact ⟨_, LazyStream.next_apply htracks, src.after_eq s.offset⟩
  · intro β probe b s' hprobe
    show (get >>= _ : EStateM Fault LazyStream β) s = _
    rw [bind_of_ok (get_apply s)]
    exact bind_of_ok hprobe
  · intro parser r s' hparser hfails
    show (get >>= _ : EStateM Fault LazyStream Result) s = _
    rw [bind_of_ok (get_apply s)]
    refine (bind_of_ok hparser).trans ?_
    rw [hfails]
    rfl
  · rw [htracks.offset_eq]
    exact (htracks.within hstrayed).1

/-- A null token in the middle, an offset beyond the end, and an attempt that is given up. -/
theorem lazyStream_refines_of_null :
    let span : Span := .single 0 .null
    let src : Source := ⟨#[(.int 1, span), (.null, span), (.int 2, span)], span⟩
    let probe : StreamProgram (Bool × Value) :=
      .perform .next fun seen => .perform (.revert 7) fun _ => .perform .peek fun _ =>
        .answer (false, seen.token)
    (∃ s', probe.run LazyStream.impl (.ofSource src) = .ok (false, .int 1) s' ∧
      s'.offset = 7 ∧ s'.buffer.length = 3) ∧
      ∃ s', LazyStream.impl.attempt (probe.run LazyStream.impl) (.ofSource src) = .ok (.int 1) s' ∧
        s'.offset = 0 ∧ s'.buffer.length = 3 := by
  intro span src probe
  obtain ⟨hstart, hrefines⟩ := lazyStream_refines src
  obtain ⟨-, -, -, -, hattempt, -, -⟩ := hrefines _ _ _ hstart
  have hprobe : ∃ s', probe.run LazyStream.impl (.ofSource src) = .ok (false, .int 1) s' ∧
      s'.offset = 7 ∧ s'.buffer.length = 3 := ⟨_, rfl, rfl, rfl⟩
  refine ⟨hprobe, ?_⟩
  obtain ⟨s', hrun, -, hlength⟩ := hprobe
  exact ⟨_, hattempt probe _ s' hrun, rfl, hlength⟩

end Resync
