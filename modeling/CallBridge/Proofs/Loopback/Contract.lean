import CallBridge.Proofs.Loopback.Link

/-!
# The contract of the loopback transport

Whatever goes on around the task of a stream, and whenever the call is cancelled or its deadline
passes: the stream is given the items of its service in their order, one for each read at the most;
the read side is closed only when all of them have been given and one more read was asked for; and
the last thing that the stream is told is its end, once, with a status that says how it went.

The invariant is `Course`, a case for each state of the task. It needs from the stream that its
counters follow its phase, so that a read request on the lane means that an item is wanted, and that
the lane is there as long as the task waits.
-/

namespace CallBridge

namespace Link

open Exchange (Callback accepted callbacks reads Counted)
open Loopback (StreamTask Report View cancelledByClient deadlineExceeded laneReleased)

variable {α : Type}

/-- The statuses with which a task gives up. -/
def GivenUp (status : Status) : Prop := status = cancelledByClient ∨ status = deadlineExceeded

theorem givenUp_of_stop {v : View} {status : Status} (h : v.stop? = some status) :
    GivenUp status := by
  unfold View.stop? at h
  split at h
  · exact .inl (Option.some.inj h).symm
  · split at h
    · split at h
      · exact .inr (Option.some.inj h).symm
      · cases h
    · cases h

/-- How the task ended, by what the service answers: the items given, whether the read side was
closed, and the status. -/
inductive Verdict (c : Service α) (served : Bool) (given : List α) :
    List (Callback α) → Status → Prop where
  | completed (all : c.serve = .ok given) : Verdict c served given [.closed] .success
  | givenUp {status : Status} (early : GivenUp status)
      (some_items : ∀ items, c.serve = .ok items → given <+: items)
      (unasked : ∀ e, c.serve = .error e → served = false ∧ given = []) :
      Verdict c served given [] status
  | failed {status : Status} (fails : c.serve = .error status) (asked : served = true)
      (nothing : given = []) : Verdict c served given [] status

/-- The stream is not over in any sense. -/
structure Live (s : Exchange α) : Prop where
  terminated : s.stream.cell.terminated = false
  status : s.stream.cell.status = none
  phase : s.stream.phase ≠ .ended

/-- The callbacks so far are those of the items, but for one that is about to be published. -/
def OnlyItems (s : Exchange α) (log : List (Exchange.Event α)) : Prop :=
  callbacks log ++ s.pending.map .item = (accepted log).map .item

/-- What the stream has been given and told, by the state of the task. -/
inductive Course (c : Service α) (s : Link α) (log : List (Exchange.Event α)) : Prop where
  | fresh (task : s.task = .fresh) (unserved : s.served = false) (given : accepted log = [])
      (told : OnlyItems s.exchange log) (taken : s.taken = 0) (live : Live s.exchange)
  | waiting (rest : List α) (task : s.task = .waiting rest)
      (serve : c.serve = .ok (accepted log ++ rest)) (told : OnlyItems s.exchange log)
      (taken : s.taken = s.exchange.stream.items) (live : Live s.exchange)
  | pausing (rest : List α) (wake : Nat) (task : s.task = .pausing rest wake)
      (serve : c.serve = .ok (accepted log ++ rest)) (told : OnlyItems s.exchange log)
      (taken : s.taken = s.exchange.stream.items + 1) (live : Live s.exchange)
  | closing (task : s.task = .closing) (serve : c.serve = .ok (accepted log))
      (told : callbacks log = (accepted log).map .item ++ [.closed])
      (published : s.exchange.pending = []) (status : s.exchange.stream.cell.status = none)
      (asked : s.exchange.stream.items < s.exchange.stream.fetches)
  | finished (closes : List (Callback α)) (status : Status) (task : s.task = .done)
      (told : callbacks log = (accepted log).map .item ++ closes ++ [.ended status])
      (published : s.exchange.pending = [])
      (settled : s.exchange.stream.cell.status = some status)
      (asked : closes ≠ [] → s.exchange.stream.items < s.exchange.stream.fetches)
      (verdict : Verdict c s.served (accepted log) closes status)

/-- What holds whatever the task does next. -/
structure Paced (s : Link α) (log : List (Exchange.Event α)) : Prop where
  counted : Counted s.exchange log
  opened : s.overflowed = false → s.exchange.Opened
  taken : s.taken ≤ s.exchange.stream.fetches
  wanted : ∀ x, .rejected x ∉ log

/-- All that the transport relies on and keeps. -/
structure Kept (c : Service α) (s : Link α) (log : List (Exchange.Event α)) : Prop
    extends Paced s log where
  course : Course c s log

variable {c : Service α} {s : Link α} {log : List (Exchange.Event α)}

theorem Live.aside {x : Exchange α} {q : Exchange α × List (Exchange.Event α)} (h : Live x)
    (aside : x.Aside q) : Live q.1 where
  terminated := aside.terminated ▸ h.terminated
  status := aside.status ▸ h.status
  phase finished := (aside.phase finished).elim h.phase (by simp [h.terminated])

theorem OnlyItems.aside {x : Exchange α} {q : Exchange α × List (Exchange.Event α)}
    (h : OnlyItems x log) (aside : x.Aside q) : OnlyItems q.1 (log ++ q.2) := by
  unfold OnlyItems at h ⊢
  rw [Exchange.callbacks_append, List.append_assoc, aside.shown, Exchange.accepted_append,
    aside.accepts, List.append_nil]
  exact h

theorem published_aside {x : Exchange α} {q : Exchange α × List (Exchange.Event α)}
    (aside : x.Aside q) (published : x.pending = []) : callbacks q.2 = [] ∧ q.1.pending = [] := by
  have shown := aside.shown
  rw [published] at shown
  simpa using shown

theorem Kept.aside {t : Link α} {es : List (Exchange.Event α)} (h : Kept c s log)
    (aside : s.exchange.Aside (t.exchange, es)) (counted : Counted t.exchange (log ++ es))
    (opened : t.overflowed = false → t.exchange.Opened) (task : t.task = s.task)
    (taken : t.taken = s.taken) (served : t.served = s.served) : Kept c t (log ++ es) := by
  have given : accepted (log ++ es) = accepted log := by
    rw [Exchange.accepted_append, aside.accepts, List.append_nil]
  have fits : t.taken ≤ t.exchange.stream.fetches := taken ▸ Nat.le_trans h.taken aside.fetches
  refine ⟨⟨counted, opened, fits, ?_⟩, ?_⟩
  · intro x
    rw [List.mem_append, not_or]
    exact ⟨h.wanted x, aside.rejects x⟩
  · have items : t.exchange.stream.items = s.exchange.stream.items := aside.items
    have ahead (asked : s.exchange.stream.items < s.exchange.stream.fetches) :
        t.exchange.stream.items < t.exchange.stream.fetches :=
      items ▸ Nat.lt_of_lt_of_le asked aside.fetches
    cases h.course with
    | fresh was unserved none_given told untaken live =>
        exact .fresh (task.trans was) (served.trans unserved) (given ▸ none_given)
          (told.aside aside) (taken.trans untaken) (live.aside aside)
    | waiting rest was serve told all live =>
        exact .waiting rest (task.trans was) (given ▸ serve) (told.aside aside)
          (by rw [taken, items, all]) (live.aside aside)
    | pausing rest wake was serve told one live =>
        exact .pausing rest wake (task.trans was) (given ▸ serve) (told.aside aside)
          (by rw [taken, items, one]) (live.aside aside)
    | closing was serve told published status asked =>
        obtain ⟨silent, still⟩ := published_aside aside published
        refine .closing (task.trans was) (given ▸ serve) ?_ still (aside.status.trans status)
          (ahead asked)
        rw [given, Exchange.callbacks_append, silent, List.append_nil]
        exact told
    | finished closes status was told published settled asked verdict =>
        obtain ⟨silent, still⟩ := published_aside aside published
        refine .finished closes status (task.trans was) ?_ still (aside.status.trans settled)
          (fun some_closes => ahead (asked some_closes)) ?_
        · rw [given, Exchange.callbacks_append, silent, List.append_nil]
          exact told
        · rw [given, served]
          exact verdict

theorem kept_aside {m : Exchange.Move α} {q : Exchange α × List (Exchange.Event α)}
    (h : Kept c s log) (moved : Exchange.Moved s.exchange m q) (around : m.isAround = true)
    (deadline : Option Nat) :
    Kept c { s with exchange := q.1, deadline } (log ++ q.2) :=
  h.aside (Exchange.aside_moved moved around) (Exchange.counted_moved h.counted moved)
    (fun sound => Exchange.opened_moved (h.opened sound) moved) rfl rfl rfl

/-! ## Polls -/

theorem OnlyItems.told {x : Exchange α} (h : OnlyItems x log) (idle : x.delivery = none) :
    callbacks log = (accepted log).map .item := by
  simpa [OnlyItems, Exchange.pending, idle] using h

/-- A turn that reports the end. -/
theorem kept_finished {thread : Nat} {status : Status} {closes : List (Callback α)}
    {q : Link α × List (Exchange.Event α)} (h : Paced s log) (idle : s.exchange.delivery = none)
    (unsettled : s.exchange.stream.cell.status = none)
    (told : callbacks log = (accepted log).map .item ++ closes)
    (asked : closes ≠ [] → s.exchange.stream.items < s.exchange.stream.fetches)
    (turn : s.task.turn s.view s.reads c.latency c.serve =
      some { task := .done, report := some (.finish status) })
    (verdict : Verdict c (s.served || s.serves) (accepted log) closes status)
    (hq : s.poll c thread = some q) : Kept c q.1 (log ++ q.2) := by
  simp only [poll, turn] at hq
  obtain ⟨q', hq', rfl⟩ := Option.map_eq_some_iff.mp hq
  have moved := Exchange.moved_of_step hq'
  have counted := Exchange.counted_moved h.counted moved
  have opened := fun sound => Exchange.opened_moved (h.opened sound) moved
  cases moved with
  | ignored _ again => simp [unsettled] at again
  | ended _ first =>
      refine ⟨⟨counted, opened, h.taken, by simpa using h.wanted⟩, ?_⟩
      refine .finished closes status rfl ?_ ?_ ?_ asked ?_
      · simp [told]
      · simp [Exchange.pending, idle]
      · simp [Cell.terminate, Cell.settle, unsettled]
      · simpa using verdict

/-- A turn in which the task gives up while it waits for something. -/
theorem kept_givenUp {thread : Nat} {status : Status} {items : List α}
    {q : Link α × List (Exchange.Event α)} (h : Paced s log) (idle : s.exchange.delivery = none)
    (told : OnlyItems s.exchange log) (live : Live s.exchange)
    (serve : c.serve = .ok items) (given : accepted log <+: items)
    (stop : s.view.stop? = some status)
    (turn : s.task.turn s.view s.reads c.latency c.serve =
      some { task := .done, report := some (.finish status) })
    (hq : s.poll c thread = some q) : Kept c q.1 (log ++ q.2) := by
  have only : callbacks log = (accepted log).map .item ++ [] := by
    simpa using told.told idle
  refine kept_finished h idle live.status only (by simp) turn ?_ hq
  refine .givenUp (givenUp_of_stop stop) ?_ ?_
  · intro items' serve'
    obtain rfl : items = items' := by simpa [serve] using serve'
    exact given
  · intro e fails
    simp [serve] at fails

theorem poll_fresh {thread : Nat} {q : Link α × List (Exchange.Event α)} (h : Paced s log)
    (idle : s.exchange.delivery = none) (task : s.task = .fresh) (unserved : s.served = false)
    (given : accepted log = []) (told : OnlyItems s.exchange log) (taken : s.taken = 0)
    (live : Live s.exchange) (hq : s.poll c thread = some q) : Kept c q.1 (log ++ q.2) := by
  have only : callbacks log = (accepted log).map .item ++ [] := by
    simpa using told.told idle
  cases stop : s.view.stop? with
  | some status =>
      have turn : s.task.turn s.view s.reads c.latency c.serve =
          some { task := .done, report := some (.finish status) } := by
        simp [StreamTask.turn, task, stop]
      refine kept_finished h idle live.status only (by simp) turn ?_ hq
      refine .givenUp (givenUp_of_stop stop) ?_ ?_
      · intro items _
        rw [given]
        exact List.nil_prefix
      · intro e _
        exact ⟨by simp [unserved, serves, stop], given⟩
  | none =>
      cases serve : c.serve with
      | error e =>
          have turn : s.task.turn s.view s.reads c.latency c.serve =
              some { task := .done, report := some (.finish e) } := by
            simp [StreamTask.turn, task, stop, serve]
          refine kept_finished h idle live.status only (by simp) turn ?_ hq
          exact .failed serve (by simp [serves, task, stop]) given
      | ok items =>
          simp only [poll, task, StreamTask.turn, stop, serve, Option.some.injEq] at hq
          obtain rfl := hq.symm
          rw [List.append_nil]
          refine ⟨⟨h.counted, h.opened, h.taken, h.wanted⟩, ?_⟩
          refine .waiting items rfl (by simp [serve, given]) told ?_ live
          simp [taken, ← h.counted.items, given]

/-- The lane is open while the call goes on. -/
theorem lane_open (h : Paced s log) (running : s.hasTask = true) (live : Live s.exchange) : s.reads.laneOpen = true := by
  simp only [hasTask, Bool.and_eq_true, Bool.not_eq_true'] at running
  have opened := h.opened running.2 running.1
  simp only [live.terminated, Bool.false_eq_true, or_false] at opened
  rw [Link.reads, Bool.or_eq_true]
  refine opened.imp id fun busy => ?_
  cases phase : s.exchange.stream.phase with
  | idle => exact absurd phase busy
  | ended => exact absurd phase live.phase
  | reading lane | held lane => rfl

theorem poll_waiting {thread : Nat} {rest : List α} {q : Link α × List (Exchange.Event α)}
    (h : Paced s log) (running : s.hasTask = true)
    (idle : s.exchange.delivery = none) (task : s.task = .waiting rest)
    (serve : c.serve = .ok (accepted log ++ rest)) (told : OnlyItems s.exchange log)
    (taken : s.taken = s.exchange.stream.items) (live : Live s.exchange)
    (hq : s.poll c thread = some q) : Kept c q.1 (log ++ q.2) := by
  cases stop : s.view.stop? with
  | some status =>
      refine kept_givenUp h idle told live serve (List.prefix_append _ _) stop ?_ hq
      simp [StreamTask.turn, task, stop]
  | none =>
      by_cases asked : 0 < s.reads.waiting
      · simp only [poll, task, StreamTask.turn, stop, asked, if_true, Option.some.injEq] at hq
        obtain rfl := hq.symm
        rw [List.append_nil]
        have fits : s.taken + 1 ≤ s.exchange.stream.fetches := by
          simp only [Link.reads] at asked
          omega
        refine ⟨⟨h.counted, h.opened, fits, h.wanted⟩, ?_⟩
        exact .pausing rest _ rfl serve told (by simp [taken]) live
      · have laneOpen := lane_open h running live
        simp only [poll, task, StreamTask.turn, stop, asked, laneOpen, if_true, if_false,
          Option.some.injEq] at hq
        obtain rfl := hq.symm
        rw [List.append_nil]
        exact ⟨h, .waiting rest task serve told taken live⟩

/-- A read that the task has taken and not answered is one that the stream waits for. -/
theorem reading_of_taken (counted : Counted s.exchange log)
    (fits : s.taken ≤ s.exchange.stream.fetches) (taken : s.taken = s.exchange.stream.items + 1)
    (live : Live s.exchange) : ∃ lane, s.exchange.stream.phase = .reading lane := by
  have balanced := counted.balanced
  cases phase : s.exchange.stream.phase with
  | reading lane => exact ⟨lane, rfl⟩
  | ended => exact absurd phase live.phase
  | idle | held lane =>
      have even : s.exchange.stream.fetches = s.exchange.stream.items := by
        simpa [phase, Session.Balanced] using balanced
      omega

/-- An item that the task gives is accepted. -/
theorem kept_delivered {thread : Nat} {x : α} {rest : List α} {served : Bool}
    {q : Exchange α × List (Exchange.Event α)} (h : Paced s log) (idle : s.exchange.delivery = none)
    (serve : c.serve = .ok (accepted log ++ x :: rest)) (told : OnlyItems s.exchange log)
    (taken : s.taken = s.exchange.stream.items + 1) (live : Live s.exchange)
    (moved : Exchange.Moved s.exchange (.accept thread x) q) :
    Kept c { s with exchange := q.1, task := .waiting rest, served } (log ++ q.2) := by
  have counted := Exchange.counted_moved h.counted moved
  have opened := fun sound => Exchange.opened_moved (h.opened sound) moved
  obtain ⟨lane, reading⟩ := reading_of_taken h.counted h.taken taken live
  cases moved with
  | rejected _ _ _ unwanted =>
      rcases unwanted with elsewhere | finished
      · exact absurd reading (elsewhere lane)
      · simp [live.terminated] at finished
  | accepted _ _ _ reading' =>
      refine ⟨⟨counted, opened, h.taken, by simpa using h.wanted⟩, ?_⟩
      refine .waiting rest rfl (by simpa using serve) ?_ taken ⟨live.terminated, live.status, nofun⟩
      simp [OnlyItems, Exchange.pending, told.told idle]

theorem poll_pausing {thread : Nat} {rest : List α} {wake : Nat}
    {q : Link α × List (Exchange.Event α)} (h : Paced s log)
    (idle : s.exchange.delivery = none) (task : s.task = .pausing rest wake)
    (serve : c.serve = .ok (accepted log ++ rest)) (told : OnlyItems s.exchange log)
    (taken : s.taken = s.exchange.stream.items + 1) (live : Live s.exchange)
    (hq : s.poll c thread = some q) : Kept c q.1 (log ++ q.2) := by
  cases stop : s.view.stop? with
  | some status =>
      refine kept_givenUp h idle told live serve (List.prefix_append _ _) stop ?_ hq
      simp [StreamTask.turn, task, stop]
  | none =>
      by_cases finished : wake ≤ s.view.now
      · cases rest with
        | nil =>
            simp only [poll, task, StreamTask.turn, stop, finished, if_true,
              StreamTask.answer] at hq
            obtain rfl := Option.some.inj hq
            have all : c.serve = .ok (accepted log) := by simpa using serve
            have ahead : s.exchange.stream.items < s.exchange.stream.fetches := by
              have fits := h.taken
              omega
            have counted := Exchange.counted_moved h.counted .closed
            have opened := fun sound => Exchange.opened_moved (h.opened sound) .closed
            refine ⟨⟨counted, opened, h.taken, by simpa using h.wanted⟩, ?_⟩
            refine .closing rfl (by simpa using all) ?_ ?_ live.status ahead
            · simpa using told.told idle
            · simp [Exchange.pending, idle]
        | cons x rest =>
            simp only [poll, task, StreamTask.turn, stop, finished, if_true,
              StreamTask.answer] at hq
            obtain ⟨q', hq', rfl⟩ := Option.map_eq_some_iff.mp hq
            have moved := Exchange.moved_of_step hq'
            exact kept_delivered (s := s) h idle serve told taken live moved
      · simp only [poll, task, StreamTask.turn, stop, finished, if_false, Option.some.injEq] at hq
        obtain rfl := hq.symm
        rw [List.append_nil]
        exact ⟨h, .pausing rest wake task serve told taken live⟩

theorem poll_closing {thread : Nat} {q : Link α × List (Exchange.Event α)} (h : Paced s log)
    (idle : s.exchange.delivery = none) (task : s.task = .closing)
    (serve : c.serve = .ok (accepted log))
    (told : callbacks log = (accepted log).map .item ++ [.closed])
    (unsettled : s.exchange.stream.cell.status = none)
    (asked : s.exchange.stream.items < s.exchange.stream.fetches)
    (hq : s.poll c thread = some q) : Kept c q.1 (log ++ q.2) :=
  kept_finished h idle unsettled told (fun _ => asked) (by simp [StreamTask.turn, task])
    (.completed serve) hq

theorem kept_polled {thread : Nat} {q : Link α × List (Exchange.Event α)} (h : Kept c s log)
    (runnable : s.runnable thread = true) (hq : s.poll c thread = some q) :
    Kept c q.1 (log ++ q.2) := by
  obtain ⟨paced, course⟩ := h
  simp only [Link.runnable, Bool.and_eq_true, Option.isNone_iff_eq_none] at runnable
  obtain ⟨⟨⟨running, idle⟩, -⟩, -⟩ := runnable
  cases course with
  | fresh task unserved given told taken live =>
      exact poll_fresh paced idle task unserved given told taken live hq
  | waiting rest task serve told taken live =>
      exact poll_waiting paced running idle task serve told taken live hq
  | pausing rest wake task serve told taken live =>
      exact poll_pausing paced idle task serve told taken live hq
  | closing task serve told published status asked =>
      exact poll_closing paced idle task serve told status asked hq
  | finished closes status task told published settled asked verdict =>
      simp only [poll, task, StreamTask.turn, Option.some.injEq] at hq
      obtain rfl := hq.symm
      rw [List.append_nil]
      exact ⟨paced, .finished closes status task told published settled asked verdict⟩

/-! ## Runs -/

theorem kept_moved {q : Link α × List (Exchange.Event α)} (h : Kept c s log) (hm : Moved c s q) :
    Kept c q.1 (log ++ q.2) := by
  cases hm with
  | aside deadline moved around => exact kept_aside h moved around deadline
  | polled thread runnable poll => exact kept_polled h runnable poll
  | overflowed first =>
      exact h.aside (Exchange.aside_overflow _) (h.counted.same rfl rfl rfl rfl (.inl rfl)) nofun
        rfl rfl rfl
  | returned | ticked n =>
      exact h.aside (.refl _) (h.counted.same rfl rfl rfl rfl (.inl rfl)) h.opened rfl rfl rfl

theorem kept_fresh (c : Service α) (id : CallId) (timeout : Option Nat) :
    Kept c (fresh id timeout) [] := by
  refine ⟨⟨⟨rfl, rfl, rfl⟩, nofun, Nat.le_refl _, nofun⟩, ?_⟩
  exact .fresh rfl rfl rfl rfl rfl ⟨rfl, rfl, nofun⟩

theorem kept_of_run {id : CallId} {timeout : Option Nat} {ms : List (Move α)}
    (h : (fresh id timeout).run c ms = some (s, log)) : Kept c s log :=
  run_invariant (P := Kept c) kept_moved h (kept_fresh c id timeout)

def closes (log : List (Exchange.Event α)) : Nat :=
  (callbacks log).countP fun k => k matches .closed

theorem closes_items (xs : List α) :
    (xs.map Callback.item).countP (fun k => k matches .closed) = 0 := by
  simp

/-- While the callbacks are only those of items, the read side is open. -/
theorem OnlyItems.open {x : Exchange α} (h : OnlyItems x log) : closes log = 0 := by
  have none_closed := closes_items (accepted log)
  rw [← h, List.countP_append] at none_closed
  exact Nat.eq_zero_of_add_eq_zero_right none_closed

theorem Kept.closes (h : Kept c s log) :
    closes log = 0 ∨ (closes log = 1 ∧ c.serve = .ok (accepted log) ∧
      s.exchange.stream.items < s.exchange.stream.fetches) := by
  cases h.course with
  | fresh _ _ _ told | waiting _ _ _ told | pausing _ _ _ _ told => exact .inl told.open
  | closing _ serve told _ _ asked =>
      refine .inr ⟨?_, serve, asked⟩
      simp [Link.closes, told]
  | finished closings status _ told _ _ asked verdict =>
      cases verdict with
      | completed all =>
          refine .inr ⟨?_, all, asked (by simp)⟩
          simp [Link.closes, told]
      | givenUp | failed => exact .inl (by simp [Link.closes, told])

theorem Kept.given (h : Kept c s log) :
    (∀ items, c.serve = .ok items → accepted log <+: items) ∧
      (∀ e, c.serve = .error e → accepted log = []) := by
  cases h.course with
  | fresh _ _ given => simp [given]
  | waiting rest _ serve | pausing rest _ _ serve => simp [serve]
  | closing _ serve => simp [serve]
  | finished _ _ _ _ _ _ _ verdict =>
      cases verdict with
      | completed all => simp [all]
      | givenUp _ some_items unasked => exact ⟨some_items, fun e fails => (unasked e fails).2⟩
      | failed fails _ nothing => simp [nothing]

/-- **The transport keeps its contract.** In every run of a stream and its task: the items given are
a prefix of the list that the service answers, none of them unwanted, and no more than the reads
asked for; the read side is closed at most once, when all items have been given and one more read
was asked for; and once the task is over, the callbacks were those of the items, that of the close
if there was one, and last that of the end. Its status is success exactly if the read side was
closed; if the service was asked and failed it is that failure; else the task gave up, because of a
cancellation or the deadline. -/
theorem contract_kept {id : CallId} {timeout : Option Nat} {ms : List (Move α)}
    (h : (fresh id timeout).run c ms = some (s, log)) :
    ((∀ items, c.serve = .ok items → accepted log <+: items) ∧
      (∀ e, c.serve = .error e → accepted log = [] ∧ closes log = 0) ∧
      (∀ x, .rejected x ∉ log) ∧ (accepted log).length ≤ Exchange.reads log) ∧
    (closes log ≤ 1 ∧
      (closes log = 1 →
        c.serve = .ok (accepted log) ∧ (accepted log).length < Exchange.reads log)) ∧
    (s.task = .done → ∃ status, s.exchange.stream.cell.status = some status ∧
      callbacks log = (accepted log).map .item ++ .replicate (closes log) .closed ++
        [.ended status] ∧
      match c.serve with
      | .ok _ => if closes log = 1 then status = .success else GivenUp status
      | .error e => if s.served then status = e else GivenUp status) := by
  have kept := kept_of_run h
  have counted := kept.counted
  refine ⟨⟨kept.given.1, ?_, kept.wanted, ?_⟩, ⟨?_, ?_⟩, ?_⟩
  · intro e fails
    refine ⟨kept.given.2 e fails, kept.closes.resolve_right ?_⟩
    rintro ⟨-, serve, -⟩
    simp [fails] at serve
  · rw [counted.items, counted.reads]
    exact counted.items_le
  · rcases kept.closes with never | ⟨once, -, -⟩ <;> omega
  · intro once
    rcases kept.closes with never | ⟨-, serve, asked⟩
    · omega
    · rw [counted.items, counted.reads]
      exact ⟨serve, asked⟩
  · intro finished
    cases kept.course with
    | finished closings status task told published settled asked verdict =>
        refine ⟨status, settled, ?_⟩
        cases verdict with
        | completed all =>
            have once : closes log = 1 := by simp [closes, told]
            simp [once, told, all]
        | givenUp early some_items unasked =>
            have never : closes log = 0 := by simp [closes, told]
            cases serve : c.serve with
            | ok items => simp [never, told, early]
            | error e => simp [never, told, early, (unasked e serve).1]
        | failed fails serving =>
            have never : closes log = 0 := by simp [closes, told]
            simp [never, told, fails, serving]
    | fresh task | waiting _ task | pausing _ _ task | closing task => simp [task] at finished

/-- Of three items one is held and taken, one is consumed; the call is cancelled while the third is
held. -/
def cancelledMoves : List (Move Nat) :=
  [.launch, .poll 9, .beside (.attach 0), .poll 9, .poll 9, .beside .publish, .beside (.claim 1),
    .beside (.leave (.decided .hold)), .beside (.extract 1), .beside (.resume 1), .poll 9, .poll 9,
    .beside .publish, .beside (.leave (.decided .proceed)), .beside .discard, .beside .refetch,
    .poll 9, .poll 9, .beside .publish, .beside (.leave (.decided .hold)), .beside .cancel, .poll 9]

theorem contract_kept_cancelled : ∃ s log,
    (fresh ⟨1⟩ none).run ⟨0, .ok [1, 2, 3]⟩ cancelledMoves = some (s, log) ∧ s.task = .done ∧
      accepted log <+: [1, 2, 3] ∧ closes log = 0 ∧
      ∃ status, s.exchange.stream.cell.status = some status ∧ GivenUp status := by
  have h : (fresh ⟨1⟩ none).run ⟨0, .ok [1, 2, 3]⟩ cancelledMoves = some (_, _) := rfl
  obtain ⟨⟨items, -⟩, -, last⟩ := contract_kept h
  obtain ⟨status, settled, -, verdict⟩ := last rfl
  exact ⟨_, _, h, rfl, items _ rfl, rfl, status, settled, verdict⟩

end Link

end CallBridge
