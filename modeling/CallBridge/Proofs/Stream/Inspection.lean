import CallBridge.Proofs.Stream.Taint

/-!
# The window of an item's callback

While the callback of an item runs, the place of the item is locked by the delivery that called it.
The callback may use the stream in any way, and so may the code that it calls, and other threads may
claim the item meanwhile. Nothing of this gets at the place: the thread of the callback is refused
by the mark that it is inspecting, deliveries are refused by the phase, and a take that has claimed
the item waits. So the phase cannot leave the hold except to the end, and nothing is asked for.

`Inspecting` is what holds all along. When the callback is over, the item is still there, and it is
on offer or owed to a take that waits.
-/

namespace CallBridge

namespace Audience

open Session (Ending Frame asks running Unlocked Locked)

variable {α : Type} {a b : Audience α} {x : α} {p : Audience α × List (Session.Event α)}
  {log : List (Session.Event α)}

/-- The callback of this item is running, and the item is on offer or has been claimed. -/
structure Inspecting (a : Audience α) (x : α) : Prop where
  locked : Locked a.session x
  calm : a.consuming = false
  kept : a.stream.cell.ready = true ∨ 0 < a.waiting

/-- Neither does the stream move on nor does an item: nothing is asked for, accepted or handed over,
and the callback goes on. -/
def isCalm : Session.Event α → Bool
  | .asked .. | .accepted _ | .shown _ | .left _ | .tookLate _ | .took (some _) => false
  | .launched | .refused _ | .rejected _ | .claimed | .took none | .closed | .ended _ => true

/-- What happens inside a callback, seen from an earlier point of it. -/
structure Stays (a : Audience α) (x : α) (p : Audience α × List (Session.Event α)) : Prop where
  inspecting : Inspecting p.1 x
  thread : p.1.thread = a.thread
  items : p.1.stream.items = a.stream.items
  fetches : p.1.stream.fetches = a.stream.fetches
  resumes : p.1.stream.resumes = a.stream.resumes
  calm : ∀ e ∈ p.2, isCalm e = true

theorem Stays.trans {es : List (Session.Event α)} (h : Stays a x (b, log))
    (h' : Stays b x (p.1, es)) : Stays a x (p.1, log ++ es) where
  inspecting := h'.inspecting
  thread := h'.thread.trans h.thread
  items := h'.items.trans h.items
  fetches := h'.fetches.trans h.fetches
  resumes := h'.resumes.trans h.resumes
  calm := List.forall_mem_append.mpr ⟨h.calm, h'.calm⟩

/-! ## Moves inside a callback -/

theorem Inspecting.keep (h : Inspecting a x) {u : Session α} {es : List (Session.Event α)}
    (frames : running u.frames = running a.frames) (thread : u.thread = a.thread)
    (item : u.stream.cell.item = a.stream.cell.item)
    (ready : u.stream.cell.ready = a.stream.cell.ready)
    (inspector : u.stream.cell.inspector = a.stream.cell.inspector)
    (full : u.stream.phase = a.stream.phase ∨ u.stream.phase = .ended)
    (counters : u.stream.items = a.stream.items ∧ u.stream.fetches = a.stream.fetches ∧
      u.stream.resumes = a.stream.resumes)
    (calm : ∀ e ∈ es, isCalm e = true) : Stays a x (a.follow (u, es)) := by
  have still_full : u.stream.phase.isFull = true := by
    rcases full with same | ended
    · rw [same]
      exact h.locked.full
    · rw [ended]
      rfl
  refine ⟨⟨⟨?_, ?_, ?_, still_full⟩, h.calm, ?_⟩, thread, counters.1, counters.2.1, counters.2.2,
    calm⟩
  · exact frames.trans h.locked.frames
  · exact (inspector.trans h.locked.inspector).trans (congrArg some thread.symm)
  · exact item.trans h.locked.item
  · exact h.kept.imp (ready.trans ·) (Nat.lt_add_right _)

theorem stays_acted (h : Inspecting a x) {q : Session α × List (Session.Event α)}
    (hm : Session.Moved a.session q) (unclaimed : q.1.claimed = false)
    (stays : ∀ e, .left e ∉ q.2) : Stays a x (a.follow q) := by
  have full : a.stream.phase.isFull = true := h.locked.full
  have shown : running a.frames = [x] := h.locked.frames
  cases hm with
  | switched thread idle =>
      have idle : a.frames = [] := idle
      simp [idle, running] at shown
  | attached lane top =>
      have waits : a.stream.attach lane = (a.stream, none) := by
        rcases a.stream.attach_cases lane with ⟨idle, -, -⟩ | heq
        · simp [idle, Phase.isFull] at full
        · exact heq
      refine h.keep (Session.running_of_top top (by simp)) rfl ?_ ?_ ?_ ?_ ?_ ?_ <;>
        simp [session, waits, asks]
  | accepted y reading =>
      have reading : a.stream.phase = .reading _ := reading
      simp [reading, Phase.isFull] at full
  | left e top => exact absurd (Session.left_mem_leave.mpr rfl) (stays e)
  | returned top other =>
      exact h.keep (Session.running_of_top top other) rfl rfl rfl rfl (.inl rfl) ⟨rfl, rfl, rfl⟩
        (List.forall_mem_nil _)
  | took =>
      rw [Session.take_of_nothing (.inl h.locked.inspector)]
      exact h.keep rfl rfl rfl rfl rfl (.inl rfl) ⟨rfl, rfl, rfl⟩ (by simp [isCalm])
  | claimed => cases unclaimed
  | ended => exact h.keep rfl rfl rfl rfl rfl (.inr rfl) ⟨rfl, rfl, rfl⟩ (by simp [isCalm])
  | launched | refused | rejected | closed | ignored | tookNothing | cancelled =>
      exact h.keep rfl rfl rfl rfl rfl (.inl rfl) ⟨rfl, rfl, rfl⟩ (by simp [isCalm])

/-- Inside a callback every move keeps what holds there, or it ends the callback. -/
theorem stays_moved (h : Inspecting a x) (hm : Moved a p) (stays : ∀ e, .left e ∉ p.2) :
    Stays a x p := by
  cases hm with
  | acted _ moved unclaimed silent => exact stays_acted h moved unclaimed silent
  | claimed =>
      refine ⟨⟨⟨?_, ?_, ?_, ?_⟩, h.calm, .inr (Nat.succ_pos _)⟩, rfl, rfl, rfl, rfl, ?_⟩
      · exact h.locked.frames
      · exact h.locked.inspector
      · exact h.locked.item
      · exact h.locked.full
      · simp [isCalm]
  | left e => exact absurd (List.mem_singleton.mpr rfl) (stays e)
  | readOn consuming => exact nomatch h.calm.symm.trans consuming
  | wentOn _ free => exact nomatch h.locked.inspector.symm.trans free

/-! ## Moves outside the callbacks -/

/-- Where no callback of an item runs, one may begin. -/
theorem inspecting_or_unlocked_acted (h : Unlocked a.session) (calm : a.consuming = false)
    {q : Session α × List (Session.Event α)} (hm : Session.Moved a.session q) :
    (∃ x, Inspecting (a.follow q).1 x) ∨ Unlocked (a.follow q).1.session := by
  have idle : running a.frames = [] := h.frames
  have free : a.stream.cell.inspector = none := h.inspector
  cases hm with
  | accepted x =>
      have shown : running (.inspecting x :: a.frames) = [x] := congrArg (x :: ·) idle
      exact .inl ⟨x, ⟨shown, rfl, rfl, rfl⟩, calm, .inl rfl⟩
  | attached lane top =>
      have still_idle := (Session.running_of_top top (by simp)).trans idle
      exact .inr ⟨still_idle, by simpa [follow, session, Session.attach] using free, rfl⟩
  | left e top =>
      have top : a.frames = .inspecting _ :: _ := top
      simp [top, running] at idle
  | returned top other =>
      have still_idle := (Session.running_of_top top other).trans idle
      exact .inr ⟨still_idle, free, rfl⟩
  | took =>
      refine .inr ⟨idle, ?_, rfl⟩
      simpa [follow, session, Session.take, Stream.take] using free
  | claimed window => simp [session, free] at window
  | switched | launched | refused | rejected | closed | ended | ignored | tookNothing | cancelled =>
      exact .inr ⟨idle, free, rfl⟩

theorem unlocked_left (h : Inspecting a x) {e : Ending} {y : α} {rest : List (Frame α)}
    (top : a.frames = .inspecting y :: rest) :
    Unlocked (session { a with
      stream := a.stream.endInspection e.cutShort, frames := rest, consuming := e.consumes }) := by
  have shown : running (.inspecting y :: rest) = [x] := top ▸ h.locked.frames
  exact ⟨(List.cons.inj shown).2, rfl, rfl⟩

theorem inspecting_or_unlocked_moved (h : (∃ x, Inspecting a x) ∨ Unlocked a.session)
    (hm : Moved a p) : (∃ x, Inspecting p.1 x) ∨ Unlocked p.1.session := by
  rcases h with ⟨x, inspecting⟩ | unlocked
  · cases hm with
    | left e calm top => exact .inr (unlocked_left inspecting top)
    | acted calm moved unclaimed silent =>
        exact .inl ⟨x, (stays_acted inspecting moved unclaimed silent).inspecting⟩
    | claimed calm window ready =>
        exact .inl ⟨x, (stays_moved inspecting (.claimed calm window ready) (by simp)).inspecting⟩
    | readOn consuming => exact nomatch inspecting.calm.symm.trans consuming
    | wentOn _ free => exact nomatch inspecting.locked.inspector.symm.trans free
  · have free : a.stream.cell.inspector = none := unlocked.inspector
    have idle : running a.frames = [] := unlocked.frames
    cases hm with
    | acted calm moved => exact inspecting_or_unlocked_acted unlocked calm moved
    | claimed _ window => simp [free] at window
    | left e _ top => simp [top, running] at idle
    | readOn => exact .inr ⟨idle, by simpa [session] using free, rfl⟩
    | wentOn =>
        exact .inr ⟨idle, by simpa [session, Stream.completeTake, Cell.extract] using free, rfl⟩

/-- After any run a callback of an item is running and its item is there, or the place is free. -/
theorem inspecting_or_unlocked_of_run {id : CallId} {timeout : Option Nat} {thread : Nat}
    {ms : List (Move α)} (h : (fresh id timeout thread).run ms = some (a, log)) :
    (∃ x, Inspecting a x) ∨ Unlocked a.session := by
  refine run_invariant (P := fun a _ => (∃ x, Inspecting a x) ∨ Unlocked a.session) ?_ h
    (.inr ⟨rfl, rfl, rfl⟩)
  intro u before p hu hm
  exact inspecting_or_unlocked_moved hu hm

theorem stays_of_run (h : Inspecting a x) {ms : List (Move α)} (run : a.run ms = some (b, log))
    (inside : ∀ e, .left e ∉ log) : Stays a x (b, log) := by
  refine run_invariant (P := fun b log => (∀ e, .left e ∉ log) → Stays a x (b, log)) ?_ run
    (fun _ => ⟨h, rfl, rfl, rfl, rfl, List.forall_mem_nil _⟩) inside
  intro u before p hu hm inside
  simp only [List.mem_append, not_or, forall_and] at inside
  have stays := hu inside.1
  exact stays.trans (stays_moved stays.inspecting hm inside.2)

/-! ## The window -/

/-- The place after the callback of `x`: unlocked, with the item in it for whoever comes for it. -/
structure Reopened (x : α) (a : Audience α) : Prop where
  slot : a.stream.cell.item = some x
  free : a.stream.cell.inspector = none
  idle : running a.frames = []
  offered : a.stream.cell.ready = true → a.consuming = false → ∀ m, m = .take ∨ m = .takeAside →
    ∃ b es, a.step (.act m) = some (b, .took (some x) :: es)
  dropped : a.stream.cell.ready = true → a.consuming = true →
    ∃ b es, a.step .readOn = some (b, es) ∧ b.stream.cell.item = none
  owed : a.stream.cell.ready = false → ∃ b es, a.step .goOn = some (b, .tookLate (some x) :: es)

/-- What a callback of the item `x` finds that began, or was under way, in `a`. -/
structure Window (x : α) (a b : Audience α) (log : List (Session.Event α)) : Prop where
  slot : b.stream.cell.item = some x
  phase : b.stream.phase = .ended ∨ ∃ lane, b.stream.phase = .held lane
  counters : b.stream.items = a.stream.items ∧ b.stream.fetches = a.stream.fetches ∧
    b.stream.resumes = a.stream.resumes
  unasked : ∀ why lane, .asked why lane ∉ log
  unaccepted : ∀ y, .accepted y ∉ log
  refused : ∀ r, .took r ∈ log → r = none
  take : b.step (.act .take) = some (b, [.took none])
  unlocked : ∀ m q, b.step m = some q → ¬b.Locks m
  closes : ∀ m q e, b.step m = some q → .left e ∈ q.2 → Reopened x q.1

theorem take_offered (free : a.stream.cell.inspector = none) (ready : a.stream.cell.ready = true)
    (item : a.stream.cell.item = some x) : (a.stream.take a.thread).answer.1 = some x := by
  rcases a.stream.cell.take_cases a.thread with ⟨nothing, -, -⟩ | ⟨-, -, -, answer⟩
  · simp [free, ready] at nothing
  · exact (Stream.afterTake_item _ _).trans (answer.trans item)

theorem reopened_of_unlocked (unlocked : Unlocked a.session) (item : a.stream.cell.item = some x)
    (kept : a.stream.cell.ready = true ∨ 0 < a.waiting) : Reopened x a := by
  have free : a.stream.cell.inspector = none := unlocked.inspector
  refine ⟨item, free, unlocked.frames, ?_, ?_, ?_⟩
  · intro ready calm m which
    have answer := take_offered free ready item
    have taken : a.session.step m = some a.session.take := by
      rcases which with rfl | rfl
      · rfl
      · simp [Session.step, Session.takeAside, session, free]
    have stays : a.ends m = false := by
      rcases which with rfl | rfl <;> rfl
    refine ⟨(a.follow a.session.take).1, asks .resumed (a.stream.take a.thread).answer.2, ?_⟩
    rw [step_act calm stays, taken, ← answer]
    rfl
  · intro ready consuming
    refine ⟨_, _, by rw [step, if_pos consuming], ?_⟩
    rcases a.stream.cell.take_cases a.thread with ⟨nothing, -, -⟩ | ⟨-, -, state, -⟩
    · simp [free, ready] at nothing
    · simp [state]
  · intro empty
    have due : 0 < a.waiting := kept.resolve_left (by simp [empty])
    have answer : a.stream.completeTake.answer.1 = some x :=
      (Stream.afterTake_item _ _).trans item
    refine ⟨{ a with stream := a.stream.completeTake.state, waiting := a.waiting - 1 },
      asks .resumed a.stream.completeTake.answer.2, ?_⟩
    rw [step, if_pos ⟨due, free⟩, ← answer]

theorem reopened_of_left (h : Inspecting a x) (hm : Moved a p) {e : Ending} (told : .left e ∈ p.2) :
    Reopened x p.1 := by
  cases hm with
  | left e calm top => exact reopened_of_unlocked (unlocked_left h top) h.locked.item h.kept
  | acted _ _ _ silent => exact absurd told (silent e)
  | claimed => simp at told
  | readOn => exact absurd told Session.left_not_mem_asks
  | wentOn => simp [Session.left_not_mem_asks] at told

/-- Inside the callback no operation gets as far as the lock. -/
theorem not_locks_of_inspecting (h : Inspecting a x) {m : Move α} (fits : a.step m = some p) :
    ¬a.Locks m := by
  have inspector : a.stream.cell.inspector = some a.thread := h.locked.inspector
  have full : a.stream.phase.isFull = true := h.locked.full
  rw [locks_iff]
  match m with
  | .act (.deliver y) =>
      rcases a.stream.accept_cases with ⟨lane, reading, -, -, -⟩ | ⟨-, rejected, -⟩
      · simp [reading, Phase.isFull] at full
      · simp [rejected]
  | .act .take | .act .takeAside => simp [inspector]
  | .readOn => simp [step, h.calm] at fits
  | .goOn => simp [step, inspector] at fits
  | .act .start | .act (.finish _) | .act .cancel | .act .closeReads | .act (.switch _)
  | .act (.opened _) | .act (.decide _) | .act .back | .act .panic | .leave _ => exact id

theorem held_or_ended_of_full {phase : Phase} (full : phase.isFull = true) :
    phase = .ended ∨ ∃ lane, phase = .held lane := by
  cases phase with
  | ended => exact .inl rfl
  | held lane => exact .inr ⟨lane, rfl⟩
  | idle | reading lane => exact nomatch full

/-- **The place is the callback's while it runs.** Take any state in which the callback of an item
is running, and whatever is done from there before the callback is over, at any depth, while other
threads may claim the item. A take on the thread of the callback finds nothing and changes nothing;
the stream is held or has ended; nothing is asked for, no counter moves and no item is accepted; and
no operation locks the place, which is locked already. When the callback returns or breaks off, the
item is in the place and can be taken. -/
theorem inspection_window {id : CallId} {timeout : Option Nat} {thread : Nat}
    {before ms : List (Move α)} {past : List (Session.Event α)}
    (reached : (fresh id timeout thread).run before = some (a, past))
    (running : .inspecting x ∈ a.frames) (run : a.run ms = some (b, log))
    (inside : ∀ e, .left e ∉ log) : Window x a b log := by
  have shown : x ∈ Session.running a.frames := List.mem_filterMap.mpr ⟨_, running, rfl⟩
  obtain ⟨y, inspecting⟩ : ∃ y, Inspecting a y := by
    refine (inspecting_or_unlocked_of_run reached).resolve_right fun unlocked => ?_
    rw [show Session.running a.frames = [] from unlocked.frames] at shown
    exact nomatch shown
  obtain rfl : x = y := by
    rw [show Session.running a.frames = [y] from inspecting.locked.frames] at shown
    exact List.mem_singleton.mp shown
  obtain ⟨now, -, items, fetches, resumes, calm⟩ := stays_of_run inspecting run inside
  refine {
    slot := now.locked.item
    phase := held_or_ended_of_full now.locked.full
    counters := ⟨items, fetches, resumes⟩
    unasked := fun why lane asked => nomatch calm _ asked
    unaccepted := fun y accepted => nomatch calm _ accepted
    refused := fun r took => ?_
    take := ?_
    unlocked := fun m q fits => not_locks_of_inspecting now fits
    closes := fun m q e fits told => reopened_of_left now (moved_of_step fits) told }
  · cases r with
    | none => rfl
    | some y => exact nomatch calm _ took
  · have nothing := Session.take_of_nothing (.inl now.locked.inspector)
    rw [step_act now.calm rfl, Session.step, nothing]
    rfl

/-- An item that a take has claimed is consumed, and while that take waits, the next item comes. -/
def secondItemMoves : List (Move Nat) :=
  [.act .start, .act (.opened 0), .act (.deliver 1), .act .takeAside, .leave (.decided .proceed),
    .readOn, .act (.deliver 2)]

/-- The callback of the second item sees a claim, a close, and in the callback of that a delivery,
the end, a take and a start. -/
def busyCallbackMoves : List (Move Nat) :=
  [.act .takeAside, .act .closeReads, .act (.deliver 3), .act (.finish .success), .act .back,
    .act .take, .act .start, .act .back]

theorem inspection_window_second : ∃ a past b log c,
    (fresh ⟨1⟩ none 0).run secondItemMoves = some (a, past) ∧ .inspecting 2 ∈ a.frames ∧
      a.run busyCallbackMoves = some (b, log) ∧ Window 2 a b log ∧
      b.step (.leave .brokenOff) = some (c, [.left .brokenOff]) ∧ Reopened 2 c := by
  have reached : (fresh ⟨1⟩ none 0).run secondItemMoves = some (_, _) := rfl
  have window := inspection_window reached (.head _) (show run _ busyCallbackMoves =
    some (_, [.claimed, .closed, .rejected 3, .ended .success, .took none,
      .refused (.alreadyStarted ⟨1⟩)]) from rfl) (by simp)
  have reopened := window.closes (.leave .brokenOff) (_, [.left .brokenOff]) _ rfl (.head _)
  exact ⟨_, _, _, _, _, reached, .head _, rfl, window, rfl, reopened⟩

end Audience

end CallBridge
