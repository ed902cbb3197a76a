import CallBridge.Proofs.Loopback.Errand
import CallBridge.Proofs.Loopback.Link

/-!
# Callbacks that break off

A task of the transport calls the application's callbacks itself, so a callback that breaks off
takes its task with it. For a unary call this comes too late to matter: the callback of the
completion is the last thing of its task, and the call has its status before.

A stream has callbacks before its end, those of items and that of the close. If one of them breaks
off, the stream is left in order, with the item held or the read side closed, but the task that was
to end it is gone. Nothing but the application itself can end such a stream.
-/

namespace CallBridge

namespace Brittle

inductive Move (α : Type) where
  | link (m : Link.Move α)
  | breakOff
  | closeReads
  | finish (status : Status)
deriving DecidableEq, Repr

end Brittle

/-- A stream and its task, whose callbacks may break off. -/
structure Brittle (α : Type) where
  link : Link α
  cut : Bool := false
  helped : Bool := false
deriving Repr

namespace Brittle

variable {α : Type}

def fresh (id : CallId) (timeout : Option Nat) : Brittle α := { link := .fresh id timeout }

def status (s : Brittle α) : Option Status := s.link.exchange.stream.cell.status

def stopped (s : Brittle α) : Bool := s.link.task matches .done

def abandon (s : Brittle α) : Brittle α :=
  { s with link := { s.link with task := .done, calling := false }, cut := s.cut || !s.stopped }

def lift (s : Brittle α) (m : Exchange.Move α) : Option (Brittle α × List (Exchange.Event α)) :=
  (s.link.exchange.step m).map fun q => ({ s with link := { s.link with exchange := q.1 } }, q.2)

def step (c : Link.Service α) (s : Brittle α) :
    Move α → Option (Brittle α × List (Exchange.Event α))
  | .link m => (s.link.step c m).map fun q => ({ s with link := q.1 }, q.2)
  | .breakOff =>
    -- The task is inside the callback of a close or of an end, or else inside that of an item.
    if s.link.calling then some (s.abandon, []) else s.abandon.lift (.leave .brokenOff)
  | .closeReads => s.lift .closeReads
  | .finish status => { s with helped := true }.lift (.finish status)

def run (c : Link.Service α) (s : Brittle α) (ms : List (Move α)) :
    Option (Brittle α × List (Exchange.Event α)) :=
  runWith (step c) s ms

/-! ## What a move can come to -/

def status? : Exchange.Callback α → Option Status
  | .ended status => some status
  | .item _ | .closed => none

/-- The statuses with which the callback of the end was called. -/
def ends (log : List (Exchange.Event α)) : List Status :=
  (Exchange.callbacks log).filterMap status?

@[simp] theorem ends_append (log es : List (Exchange.Event α)) :
    ends (log ++ es) = ends log ++ ends es := by
  simp [ends]

@[simp] theorem ends_singleton (e : Exchange.Event α) :
    ends [e] = (e.callback?.bind status?).toList := by
  cases e <;> rfl

theorem stopped_iff {s : Brittle α} : s.stopped = true ↔ s.link.task = .done := by
  unfold stopped
  cases s.link.task <;> simp

/-- A move ends the call or says nothing of its end. -/
inductive Moved (s : Brittle α) : Brittle α × List (Exchange.Event α) → Prop where
  | quiet {t : Brittle α} {es : List (Exchange.Event α)} (silent : ends es = [])
      (status : t.status = s.status) (stopped : t.stopped = s.stopped) (cut : t.cut = s.cut)
      (helped : t.helped = s.helped) : Moved s (t, es)
  | cut {t : Brittle α} {es : List (Exchange.Event α)} (silent : ends es = [])
      (status : t.status = s.status) (stopped : t.stopped = true)
      (cut : t.cut = (s.cut || !s.stopped)) (helped : t.helped = s.helped) : Moved s (t, es)
  | ended (status : Status) {t : Brittle α} {es : List (Exchange.Event α)}
      (moved : Exchange.Moved s.link.exchange (.finish status) (t.link.exchange, es))
      (goes : s.stopped = false) (stopped : t.stopped = true) (cut : t.cut = s.cut)
      (helped : t.helped = s.helped) : Moved s (t, es)
  | helped (status : Status) {t : Brittle α} {es : List (Exchange.Event α)}
      (moved : Exchange.Moved s.link.exchange (.finish status) (t.link.exchange, es))
      (stopped : t.stopped = s.stopped) (cut : t.cut = s.cut) (helped : t.helped = true) :
      Moved s (t, es)

variable {s : Brittle α} {x : Exchange α} {q : Exchange α × List (Exchange.Event α)}

/-- Nothing that goes on around the transport is told as an end. -/
theorem ends_aside (aside : x.Aside q) : ends q.2 = [] := by
  have items (xs : List α) : (xs.map Exchange.Callback.item).filterMap status? = [] := by
    simp [List.filterMap_eq_nil_iff, status?]
  have shown := congrArg (List.filterMap status?) aside.shown
  rw [List.filterMap_append, items, items, List.append_nil] at shown
  exact shown

theorem silent_reported {m : Exchange.Move α} (moved : Exchange.Moved x m q)
    (report : (∃ p y, m = .accept p y) ∨ m = .closeReads) :
    ends q.2 = [] ∧ q.1.stream.cell.status = x.stream.cell.status := by
  rcases report with ⟨p, y, rfl⟩ | rfl <;> cases moved <;> exact ⟨rfl, rfl⟩

theorem moved_link {c : Link.Service α} {m : Link.Move α} {q : Link α × List (Exchange.Event α)}
    (h : s.link.step c m = some q) : Moved s ({ s with link := q.1 }, q.2) := by
  cases Link.moved_of_step h with
  | aside deadline moved around =>
      have aside := Exchange.aside_moved moved around
      exact .quiet (ends_aside aside) aside.status rfl rfl rfl
  | polled thread runnable poll =>
      cases Link.polled_of_poll poll with
      | quiet exchange goes =>
          refine .quiet rfl (by simp [status, exchange]) ?_ rfl rfl
          rw [Bool.eq_iff_iff, stopped_iff, stopped_iff]
          exact goes
      | reported moved report goes =>
          obtain ⟨silent, same⟩ := silent_reported moved (report.imp_left fun ⟨y, h⟩ => ⟨_, y, h⟩)
          refine .quiet silent same ?_ rfl rfl
          rw [Bool.eq_iff_iff, stopped_iff, stopped_iff]
          exact iff_of_false goes.2 goes.1
      | ended status moved goes finished =>
          refine .ended status moved ?_ (stopped_iff.mpr finished) rfl rfl
          exact Bool.eq_false_iff.mpr fun done => goes (stopped_iff.mp done)
  | overflowed | returned | ticked n => exact .quiet rfl rfl rfl rfl rfl

theorem moved_of_step {c : Link.Service α} {m : Move α} {q : Brittle α × List (Exchange.Event α)}
    (h : s.step c m = some q) : Moved s q := by
  cases m with
  | link m =>
      obtain ⟨q', hq, rfl⟩ := Option.map_eq_some_iff.mp h
      exact moved_link hq
  | breakOff =>
      simp only [step] at h
      split at h
      · exact Option.some.inj h ▸ .cut rfl rfl rfl rfl rfl
      · obtain ⟨q', hq, rfl⟩ := Option.map_eq_some_iff.mp h
        have aside := Exchange.aside_moved (Exchange.moved_of_step hq) rfl
        exact .cut (ends_aside aside) aside.status rfl rfl rfl
  | closeReads =>
      simp only [step, lift] at h
      obtain ⟨q', hq, rfl⟩ := Option.map_eq_some_iff.mp h
      obtain ⟨silent, same⟩ := silent_reported (Exchange.moved_of_step hq) (.inr rfl)
      exact .quiet silent same rfl rfl rfl
  | finish status =>
      simp only [step, lift] at h
      obtain ⟨q', hq, rfl⟩ := Option.map_eq_some_iff.mp h
      exact .helped status (Exchange.moved_of_step hq) rfl rfl rfl

/-! ## Who ends the call -/

/-- The call is ended once, by its task unless that was cut, or by somebody else. -/
structure Settled (s : Brittle α) (log : List (Exchange.Event α)) : Prop where
  told : ends log = s.status.toList
  stopped : s.cut = true → s.stopped = true
  settled : s.status.isSome = true ↔ s.helped = true ∨ (s.stopped = true ∧ s.cut = false)

variable {log : List (Exchange.Event α)}

/-- An end is told if it is the first, and afterwards there is a status. -/
theorem told_finish {status : Status} (told : ends log = x.stream.cell.status.toList)
    (moved : Exchange.Moved x (.finish status) q) :
    ends (log ++ q.2) = q.1.stream.cell.status.toList ∧ q.1.stream.cell.status.isSome = true := by
  cases moved with
  | ignored _ again => exact ⟨by simpa using told, again⟩
  | ended _ first =>
      have untold : ends log = [] := by simpa [first] using told
      simp [untold, status?, Cell.terminate, Cell.settle, first]

theorem settled_moved {q : Brittle α × List (Exchange.Event α)} (h : Settled s log)
    (hm : Moved s q) : Settled q.1 (log ++ q.2) := by
  cases hm with
  | quiet silent status stopped cut helped =>
      refine ⟨?_, ?_, ?_⟩
      · rw [ends_append, silent, List.append_nil, status]
        exact h.told
      · rw [cut, stopped]
        exact h.stopped
      · rw [status, helped, stopped, cut]
        exact h.settled
  | cut silent status stopped cut helped =>
      refine ⟨?_, fun _ => stopped, ?_⟩
      · rw [ends_append, silent, List.append_nil, status]
        exact h.told
      · rw [status, helped, stopped, cut, h.settled]
        simp [and_comm]
  | ended status moved goes stopped cut helped =>
      obtain ⟨told, settled⟩ := told_finish h.told moved
      have whole : s.cut = false := by
        simpa [goes] using h.stopped
      exact ⟨told, fun _ => stopped, iff_of_true settled (.inr ⟨stopped, cut ▸ whole⟩)⟩
  | helped status moved stopped cut helped =>
      obtain ⟨told, settled⟩ := told_finish h.told moved
      refine ⟨told, ?_, iff_of_true settled (.inl helped)⟩
      rw [cut, stopped]
      exact h.stopped

theorem settled_of_run {c : Link.Service α} {id : CallId} {timeout : Option Nat}
    {ms : List (Move α)} (h : (fresh id timeout).run c ms = some (s, log)) : Settled s log := by
  have start : Settled (fresh id timeout : Brittle α) [] :=
    ⟨rfl, nofun, iff_of_false nofun (by simp [fresh, stopped, Link.fresh])⟩
  simpa using runWith_invariant (P := Settled)
    (fun hs hstep => settled_moved hs (moved_of_step hstep)) h start

/-- **A call is ended by its task unless a callback before the end breaks off.** Of a unary call
whose task is over and on its way to no callback any more, the callback of the completion has begun
once, and the status is that of the completion; what callbacks do is of no account. A stream is told
of no more than one end, after which it has that status. If its task is over, it has a status
exactly if no callback of an item or of the close has broken off, or else if somebody other than the
task has ended the call. -/
theorem ended_once_unless_cut {d : Errand.Service α} {id' : CallId} {timeout' : Option Nat}
    {ms' : List (Errand.Move α)} {u : Errand α} {calls : List (Inquiry.Event α)}
    (single : (Errand.fresh id' timeout').run d ms' = some (u, calls))
    {c : Link.Service α} {id : CallId} {timeout : Option Nat} {ms : List (Move α)}
    (h : (fresh id timeout).run c ms = some (s, log)) :
    (u.task = .done → u.inquiry.report = none →
      ∃ r, Inquiry.notices calls = [r] ∧
        u.inquiry.unary.cell.status = some (Inquiry.outcome r)) ∧
    ends log = s.status.toList ∧
    (s.stopped = true → (s.status.isSome = true ↔ s.cut = false ∨ s.helped = true)) := by
  obtain ⟨told, -, settled⟩ := settled_of_run h
  refine ⟨Errand.notified_of_run single, told, fun stopped => ?_⟩
  rw [settled, or_comm]
  simp [stopped]

/-- A unary call whose callback breaks off. -/
def brokenNoticeMoves : List (Errand.Move Nat) :=
  [.launch 0, .beside (.act 0 .back), .poll 9, .beside .proceed, .beside .proceed, .beside .proceed,
    .beside (.act 9 .panic)]

/-- A stream of one item, which is on its way to its callback. -/
def showingMoves : List (Move Nat) :=
  [.link .launch, .link (.poll 9), .link (.beside (.attach 0)), .link (.poll 9), .link (.poll 9),
    .link (.beside .publish)]

/-- The item is consumed, and the next read has the read side closed. -/
def closingMoves : List (Move Nat) :=
  showingMoves ++
    [.link (.beside (.leave (.decided .proceed))), .link (.beside .discard),
      .link (.beside .refetch), .link (.poll 9), .link (.poll 9)]

/-- Only the callback of the end breaks off. -/
def brokenEndMoves : List (Move Nat) :=
  closingMoves ++ [.link .back, .link (.poll 9), .breakOff]

theorem ended_once_unless_cut_late : ∃ u calls s log,
    (Errand.fresh ⟨1⟩ none).run ⟨0, .ok 7⟩ brokenNoticeMoves = some (u, calls) ∧
      u.task = .done ∧ (∃ r, Inquiry.notices calls = [r] ∧
        u.inquiry.unary.cell.status = some (Inquiry.outcome r)) ∧
      (fresh ⟨2⟩ none).run ⟨0, .ok [1]⟩ brokenEndMoves = some (s, log) ∧
      s.stopped = true ∧ s.status.isSome = true := by
  have single : (Errand.fresh ⟨1⟩ none).run ⟨0, .ok 7⟩ brokenNoticeMoves = some (_, _) := rfl
  have h : (fresh ⟨2⟩ none).run ⟨0, .ok [1]⟩ brokenEndMoves = some (_, _) := rfl
  obtain ⟨notified, -, ended⟩ := ended_once_unless_cut single h
  exact ⟨_, _, _, _, single, rfl, notified rfl rfl, h, rfl, (ended rfl).mpr (.inl rfl)⟩

/-- The callback of an item or that of the close breaks off: the task is over, nothing is under way,
and the call has neither a status nor been told of an end. -/
theorem cut_call_pending :
    (∃ s log, (fresh ⟨1⟩ none).run ⟨0, .ok [1]⟩ (showingMoves ++ [.breakOff]) = some (s, log) ∧
      s.stopped = true ∧ s.link.exchange.delivery = none ∧ s.link.calling = false ∧
      s.status = none ∧ ends log = []) ∧
    (∃ s log, (fresh ⟨1⟩ none).run ⟨0, .ok [1]⟩ (closingMoves ++ [.breakOff]) = some (s, log) ∧
      s.stopped = true ∧ s.link.exchange.delivery = none ∧ s.link.calling = false ∧
      s.status = none ∧ ends log = []) :=
  ⟨⟨_, _, rfl, rfl, rfl, rfl, rfl, rfl⟩, ⟨_, _, rfl, rfl, rfl, rfl, rfl, rfl⟩⟩

end Brittle

end CallBridge
