import CallBridge.Proofs.Stream.LateTake

/-!
# A held stream holds an item

Whether a stream is held is told by its phase, and whether there is an item to take by the flag of
its cell. Takes, callbacks, closes and ends move the two one after the other, each under a lock of
its own. Outside the callbacks of items they agree until the stream has ended, with one exception: a
callback that consumes its item after the read side was closed drops the item and leaves the hold.
From then on the stream is held, and there is nothing to take.

The exception can be told from the log: there the callback ends with its item consumed after a
close. `Holds` ties the phase and the flag to that.
-/

namespace CallBridge

namespace Session

variable {α : Type}

/-- A callback has consumed its item after the read side was closed. -/
def ConsumedLate (log : List (Event α)) : Prop :=
  [.closed, .left (.decided .proceed)].Sublist log

instance [DecidableEq α] (log : List (Event α)) : Decidable (ConsumedLate log) :=
  inferInstanceAs (Decidable (List.Sublist _ _))

theorem consumedLate_append {log es : List (Event α)} :
    ConsumedLate (log ++ es) ↔
      ConsumedLate log ∨ (.closed ∈ log ∧ .left (.decided .proceed) ∈ es) ∨ ConsumedLate es :=
  pair_sublist_append

/-! ## The end of a callback -/

variable {s : Session α}

theorem left_not_mem_asks {how : Ending} {why : Cause} {lane : Option Nat} :
    .left how ∉ (asks why lane : List (Event α)) :=
  fun h => nomatch isAside_asks _ h

theorem left_not_mem_completeTake {how : Ending} : .left how ∉ s.completeTake.2 := by
  unfold completeTake
  split
  · simpa using left_not_mem_asks
  · simp

theorem left_not_mem_readOn {how e : Ending} : .left how ∉ (s.readOn e).2 := by
  unfold readOn
  split
  · exact left_not_mem_asks
  · simp

/-- The end of a callback is told once, and nothing else tells it. -/
theorem left_mem_leave {how e : Ending} : .left how ∈ (s.leave e).2 ↔ how = e := by
  simp [leave, left_not_mem_completeTake, left_not_mem_readOn]

theorem eq_leave_of_left {p : Session α × List (Event α)} {how : Ending} (hm : Moved s p)
    (told : .left how ∈ p.2) :
    ∃ x rest, s.frames = .inspecting x :: rest ∧ p = { s with frames := rest }.leave how := by
  cases hm with
  | left e top =>
      obtain rfl := left_mem_leave.mp told
      exact ⟨_, _, top, rfl⟩
  | attached lane => exact absurd told left_not_mem_asks
  | took =>
      rcases List.mem_cons.mp told with same | asked
      · exact nomatch same
      · exact absurd asked left_not_mem_asks
  | switched | launched | refused | accepted | rejected | closed | ended | ignored | returned
  | claimed | tookNothing | cancelled => simp at told

/-- The end of a callback unlocks the place, whether or not a take goes on at once. -/
theorem completeTake_inspector :
    s.completeTake.1.stream.cell.inspector = s.stream.cell.inspector := by
  unfold completeTake
  split
  · simp [Stream.completeTake, Cell.extract]
  · rfl

/-- A callback that consumed its item leaves nothing to take. -/
theorem ready_leave_of_consumes {e : Ending} (consumes : e.consumes = true) :
    (s.leave e).1.stream.cell.ready = false := by
  let freed : Session α := { s with stream := s.stream.endInspection e.cutShort }
  have unlocked : freed.completeTake.1.stream.cell.inspector ≠
      some freed.completeTake.1.thread := by
    rw [completeTake_inspector]
    exact nofun
  show (freed.completeTake.1.readOn e).1.stream.cell.ready = false
  rw [readOn, if_pos consumes]
  simpa using Cell.ready_take unlocked

/-! ## When a hold stays -/

theorem resume_not_held (s : Stream α) (lane : Nat) : s.resume.1.phase ≠ .held lane := by
  rcases s.resume_cases with ⟨other, -, -, heq⟩ | ⟨other, -, -, heq⟩ | ⟨free, heq⟩ <;> rw [heq]
  · nofun
  · nofun
  · exact free lane

theorem held_of_attach {s : Stream α} {lane i : Nat} (h : (s.attach i).1.phase = .held lane) :
    s.phase = .held lane := by
  rcases s.attach_cases i with ⟨-, -, heq⟩ | heq <;> rw [heq] at h
  · exact nomatch h
  · exact h

/-- A hold outlasts a callback that consumed its item only if the call is over. -/
theorem held_of_refetch {s : Stream α} {lane : Nat} (h : s.refetch.1.phase = .held lane) :
    s.phase = .held lane ∧ s.cell.terminated = true := by
  cases live : s.cell.terminated with
  | true =>
      rw [refetch_of_terminated live] at h
      exact ⟨h, rfl⟩
  | false =>
      rcases s.refetch_cases with ⟨other, -, -, heq⟩ | heq
      · rw [heq] at h
        exact nomatch h
      · have held : s.phase = .held lane := by rwa [heq] at h
        simp [Stream.refetch, held, live] at heq

/-! ## The invariant -/

/-- Below an operation that shows no item the same callbacks of items run. -/
theorem running_of_top {f : Frame α} {frames rest : List (Frame α)} (top : frames = f :: rest)
    (other : ∀ x, f ≠ .inspecting x) : running rest = running frames := by
  rw [top, running_cons_of_other other]

/-- How the phase and the flag of a stream fit its log. -/
structure Holds (s : Session α) (log : List (Event α)) : Prop where
  gone : ConsumedLate log → s.stream.cell.terminated = true ∧ s.stream.cell.ready = false
  empty : ∀ lane, s.stream.phase = .held lane → running s.frames = [] →
    s.stream.cell.ready = false → ConsumedLate log

variable {log : List (Event α)} {l : Ledger α}

theorem holds_fresh (id : CallId) (timeout : Option Nat) (thread : Nat) :
    Holds (fresh id timeout thread : Session α) [] where
  gone := fun late => nomatch late
  empty := fun _ held => nomatch held

/-- A close terminates the call; while the stream is held, nothing else does. -/
theorem Closing.closed_of_held (h : Closing s.stream log) {lane : Nat}
    (held : s.stream.phase = .held lane) (dead : s.stream.cell.terminated = true) :
    .closed ∈ log := by
  refine (h.terminated.mp dead).resolve_right fun told => ?_
  have ended := h.phase.mpr (.inl told)
  exact nomatch held.symm.trans ended

theorem holds_gone {p : Session α × List (Event α)} (h : Holds s log)
    (closing : Closing s.stream log) (hm : Moved s p) (late : ConsumedLate (log ++ p.2)) :
    p.1.stream.cell.terminated = true ∧ p.1.stream.cell.ready = false := by
  rcases consumedLate_append.mp late with before | ⟨closed, now⟩ | both
  · obtain ⟨dead, empty⟩ := h.gone before
    have fades := fades_moved dead hm
    refine ⟨fades.terminated, ?_⟩
    cases ready : p.1.stream.cell.ready with
    | false => rfl
    | true => exact (fades.ready ready).symm.trans empty
  · have dead : s.stream.cell.terminated = true := closing.terminated.mpr (.inl closed)
    refine ⟨(fades_moved dead hm).terminated, ?_⟩
    obtain ⟨x, rest, -, rfl⟩ := eq_leave_of_left hm now
    exact ready_leave_of_consumes rfl
  · -- The end of a callback closes nothing.
    have closed : .closed ∈ p.2 := both.subset (by simp)
    have now : .left (.decided .proceed) ∈ p.2 := both.subset (by simp)
    obtain ⟨x, rest, -, rfl⟩ := eq_leave_of_left hm now
    exact nomatch isMark_of_mem_leave closed

theorem holds_take (hand : Hand s l) {lane : Nat} (held : s.take.1.stream.phase = .held lane) :
    s.take.1 = s := by
  cases hand with
  | rest unlocked ready => rw [take_of_nothing (.inr ready)]
  | inspected locked | claimed locked => rw [take_of_nothing (.inl locked.inspector)]
  | waiting unlocked ready item =>
      have free : s.stream.cell.inspector ≠ some s.thread := by simp [unlocked.inspector]
      rcases s.stream.cell.take_cases s.thread with ⟨nothing, -, -⟩ | ⟨-, -, -, ha⟩
      · simp [free, ready] at nothing
      · rcases s.stream.afterTake_cases (s.stream.cell.take s.thread) with
          ⟨none, -, -⟩ | ⟨x, -, -, hs⟩
        · simp [ha, item] at none
        · have resumed : s.take.1.stream.phase = _ := congrArg Stream.phase hs
          exact absurd (resumed.symm.trans held) (resume_not_held _ lane)

/-- A hold outlasts the callback of its item together with the item, unless the callback has
consumed the item after a close. -/
theorem holds_leave {x : α} {rest : List (Frame α)} (hand : Hand s l)
    (closing : Closing s.stream log) (top : s.frames = .inspecting x :: rest) {e : Ending}
    {lane : Nat} (held : ({ s with frames := rest }.leave e).1.stream.phase = .held lane)
    (empty : ({ s with frames := rest }.leave e).1.stream.cell.ready = false) :
    .closed ∈ log ∧ e = .decided .proceed := by
  let freed : Session α :=
    { s with frames := rest, stream := s.stream.endInspection e.cutShort }
  have held : (freed.completeTake.1.readOn e).1.stream.phase = .held lane := held
  have empty : (freed.completeTake.1.readOn e).1.stream.cell.ready = false := empty
  have shown : running s.frames = x :: running rest := by simp [top, running]
  cases hand with
  | rest unlocked | waiting unlocked =>
      have := unlocked.frames
      simp [shown] at this
  | inspected locked ready unclaimed =>
      have alone : freed.completeTake = (freed, []) := by
        simp [completeTake, freed, unclaimed]
      rw [alone] at held empty
      cases consumes : e.consumes with
      | false =>
          -- The item stays on offer.
          have ready : freed.stream.cell.ready = true := ready
          simp [readOn, consumes, ready] at empty
      | true =>
          rw [readOn, if_pos consumes] at held
          obtain ⟨held, dead⟩ := held_of_refetch held
          have dead : s.stream.cell.terminated = true := by
            simpa [Stream.discard, freed, Stream.endInspection, Cell.endInspection] using dead
          refine ⟨closing.closed_of_held held dead, ?_⟩
          cases e with
          | decided d => cases d <;> simp [Ending.consumes] at consumes ⊢
          | brokenOff => simp [Ending.consumes] at consumes
  | claimed locked ready claimed =>
      -- The take that has claimed the item gives up the hold.
      have taken := completeTake_of_claimed (s := freed) claimed
      have free : ∀ i, freed.completeTake.1.stream.phase ≠ .held i := by
        intro i
        rw [taken]
        rcases freed.stream.afterTake_cases freed.stream.cell.extract with
          ⟨none, -, -⟩ | ⟨y, -, -, hs⟩
        · have item : freed.stream.cell.extract.answer = some x := by
            have := (List.cons.inj (shown.symm.trans locked.frames)).1
            exact locked.item.trans (by rw [this])
          simp [item] at none
        · rw [hs]
          exact resume_not_held _ i
      unfold readOn at held
      split at held
      · exact absurd (held_of_refetch held).1 (free lane)
      · exact absurd held (free lane)

theorem holds_moved {p : Session α × List (Event α)} (h : Holds s log)
    (closing : Closing s.stream log) (hand : Hand s l) (hm : Moved s p) :
    Holds p.1 (log ++ p.2) := by
  refine ⟨holds_gone h closing hm, fun lane held idle empty => ?_⟩
  rw [consumedLate_append]
  -- Most moves leave the phase and the flag alone, so the hold was as empty before.
  cases hm with
  | attached i top =>
      have idle : running s.frames = [] := (running_of_top top nofun).symm.trans idle
      exact .inl (h.empty lane (held_of_attach held) idle (by simpa [attach] using empty))
  | accepted => simp [running] at idle
  | left e top =>
      obtain ⟨closed, rfl⟩ := holds_leave hand closing top held empty
      exact .inr (.inl ⟨closed, left_mem_leave.mpr rfl⟩)
  | ended => cases held
  | returned top other =>
      have idle : running s.frames = [] := (running_of_top top other).symm.trans idle
      exact .inl (h.empty lane held idle empty)
  | took =>
      have same := holds_take hand held
      rw [same] at held idle empty
      exact .inl (h.empty lane held idle empty)
  | claimed window =>
      cases hand with
      | rest unlocked | waiting unlocked => simp [unlocked.inspector] at window
      | inspected locked | claimed locked =>
          exact absurd (locked.frames.symm.trans idle) (List.cons_ne_nil _ _)
  | switched | launched | refused | rejected | closed | ignored | tookNothing | cancelled =>
      exact .inl (h.empty lane held idle empty)

/-! ## Runs -/

/-- A ledger that fits goes on to fit. -/
theorem Hand.along {t : Session α} {ms : List (Move α)} (h : Hand s l)
    (run : s.run ms = some (t, log)) : ∃ l', Ledger.Books l log l' ∧ Hand t l' := by
  refine run_invariant (P := fun t log => ∃ l', Ledger.Books l log l' ∧ Hand t l') ?_ run
    ⟨l, .nil, h⟩
  rintro u before p ⟨l', books, hand⟩ hm
  obtain ⟨l'', entered, hand'⟩ := hand_moved hand hm
  exact ⟨l'', books.append entered, hand'⟩

theorem holds_of_run {id : CallId} {timeout : Option Nat} {thread : Nat} {ms : List (Move α)}
    (h : (fresh id timeout thread).run ms = some (s, log)) : Holds s log := by
  have all : Holds s log ∧ Closing s.stream log ∧ ∃ l, Hand s l := by
    refine run_invariant (P := fun s log => Holds s log ∧ Closing s.stream log ∧ ∃ l, Hand s l)
      ?_ h ⟨holds_fresh id timeout thread, closing_create id timeout, [],
        hand_fresh id timeout thread⟩
    rintro s before p ⟨holds, closing, l, hand⟩ hm
    obtain ⟨l', -, hand'⟩ := hand_moved hand hm
    exact ⟨holds_moved holds closing hand hm, closing_moved closing hand hm, l', hand'⟩
  exact all.1

/-- What it means that `x` can be taken: a take returns it now, and so does whichever take comes
first, whatever happens before it. -/
def Takeable (s : Session α) (x : α) : Prop :=
  (∃ t es, s.step .take = some (t, .took (some x) :: es)) ∧
  ∀ ms t mid e post a, s.run ms = some (t, mid ++ e :: post) → (∀ m ∈ mid, m.answer? = none) →
    e.answer? = some a → a = some x

/-- An item on offer is the newest one, and it can be taken. -/
theorem takeable_of_ready {id : CallId} {timeout : Option Nat} {thread : Nat} {ms : List (Move α)}
    (h : (fresh id timeout thread).run ms = some (s, log)) (outside : running s.frames = [])
    (ready : s.stream.cell.ready = true) :
    ∃ x, (accepts log).getLast? = some x ∧ s.Takeable x := by
  obtain ⟨l, books, hand⟩ := hand_of_run h
  have entries : l.items = accepts log := books.agrees.accepts
  cases hand with
  | rest _ empty => simp [ready] at empty
  | inspected locked | claimed locked =>
      exact absurd (locked.frames.symm.trans outside) (List.cons_ne_nil _ _)
  | @waiting x l' unlocked _ item full older =>
      have next : ∀ ms t mid e post a, s.run ms = some (t, mid ++ e :: post) →
          (∀ m ∈ mid, m.answer? = none) → e.answer? = some a → a = some x := by
        intro ms t mid e post a run no_take answered
        obtain ⟨l'', after, -⟩ := (Hand.waiting unlocked ready item full older).along run
        exact after.next_take rfl no_take answered
      let o := s.stream.take s.thread
      have now : s.run [.take] =
          some (s.take.1, [] ++ .took o.answer.1 :: asks .resumed o.answer.2) := by
        simp [run, runWith, step, take, o]
      have answer : o.answer.1 = some x := next [.take] _ [] _ _ _ now (List.forall_mem_nil _) rfl
      refine ⟨x, by simp [← entries], ⟨s.take.1, asks .resumed o.answer.2, ?_⟩, next⟩
      rw [← answer]
      rfl

/-- **A held stream holds an item.** Read a stream outside the callbacks of its items, after any
run. While it is idle or reading there is nothing to take. While it is held there is an item to take
if and only if none was consumed after a close; so without that the two agree until the stream has
ended. What is on offer is the newest item, and the next take returns it. -/
theorem held_iff_ready_unless_consumed_late {id : CallId} {timeout : Option Nat} {thread : Nat}
    {ms : List (Move α)} (h : (fresh id timeout thread).run ms = some (s, log))
    (outside : running s.frames = []) :
    (s.stream.phase = .idle ∨ (∃ lane, s.stream.phase = .reading lane) →
      s.stream.cell.ready = false) ∧
    ((∃ lane, s.stream.phase = .held lane) →
      (s.stream.cell.ready = true ↔ ¬ConsumedLate log)) ∧
    (¬ConsumedLate log → s.stream.phase ≠ .ended →
      s.stream.phase.isHeld = s.stream.cell.ready) ∧
    (s.stream.cell.ready = true → ∃ x, (accepts log).getLast? = some x ∧ s.Takeable x) := by
  obtain ⟨l, -, hand⟩ := hand_of_run h
  obtain ⟨gone, empty⟩ := holds_of_run h
  have room : s.stream.phase = .idle ∨ (∃ lane, s.stream.phase = .reading lane) →
      s.stream.cell.ready = false := by
    intro room
    cases ready : s.stream.cell.ready with
    | false => rfl
    | true =>
        have full := hand.full (.inl ready)
        rcases room with idle | ⟨lane, reading⟩ <;> simp [Phase.isFull, *] at full
  have held : (∃ lane, s.stream.phase = .held lane) →
      (s.stream.cell.ready = true ↔ ¬ConsumedLate log) := by
    rintro ⟨lane, held⟩
    constructor
    · intro ready late
      have none := (gone late).2
      simp [ready] at none
    · intro early
      cases ready : s.stream.cell.ready with
      | true => rfl
      | false => exact absurd (empty lane held outside ready) early
  refine ⟨room, held, fun early going => ?_, takeable_of_ready h outside⟩
  cases phase : s.stream.phase with
  | idle => exact (room (.inl phase)).symm
  | reading lane => exact (room (.inr ⟨lane, phase⟩)).symm
  | held lane => exact ((held ⟨lane, phase⟩).mpr early).symm
  | ended => exact absurd phase going

/-- A first item is consumed by its callback before the close; the second one is held across it. -/
def heldThroughCloseMoves : List (Move Nat) :=
  [.start, .opened 0, .deliver 1, .decide .proceed, .deliver 2, .closeReads, .back, .decide .hold]

theorem held_iff_ready_unless_consumed_late_closed : ∃ s log,
    (fresh ⟨1⟩ none 0).run heldThroughCloseMoves = some (s, log) ∧ running s.frames = [] ∧
      s.stream.phase = .held 0 ∧ s.stream.cell.ready = true ∧ s.Takeable 2 := by
  have h : (fresh ⟨1⟩ none 0).run heldThroughCloseMoves = some (_, _) := rfl
  obtain ⟨-, held, -, taken⟩ := held_iff_ready_unless_consumed_late h rfl
  have ready := (held ⟨0, rfl⟩).mpr (by decide)
  obtain ⟨x, newest, takeable⟩ := taken ready
  obtain rfl : 2 = x := Option.some.inj newest
  exact ⟨_, _, h, rfl, rfl, ready, takeable⟩

/-- A callback inside which the read side is closed consumes its item: the stream is held, has not
ended, and a take finds nothing. -/
theorem hold_without_item : ∃ s log,
    (fresh ⟨1⟩ none 0).run (closedWhileHeld [.decide .proceed]) = some (s, log) ∧
      running s.frames = [] ∧ s.stream.phase = .held 0 ∧ s.stream.cell.ready = false ∧
      s.stream.cell.status = none ∧ s.step .take = some (s, [.took none]) :=
  ⟨_, _, rfl, rfl, rfl, rfl, rfl, rfl⟩

end Session

end CallBridge
