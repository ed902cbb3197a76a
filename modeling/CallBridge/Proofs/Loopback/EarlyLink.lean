import CallBridge.Proofs.Loopback.Link

/-!
# Streams that are cancelled before their start

Until the task of such a stream has had its turn, nothing has been told and nothing can be taken:
the stream is `Vacant`, for an item that was never delivered is in no place where a take could find
it. `Early` has this and what has been told so far, as for a unary call.
-/

namespace CallBridge

namespace Exchange

variable {α : Type} {s : Exchange α} {m : Move α} {q : Exchange α × List (Event α)}

/-- Nothing has been delivered, and nobody is in the middle of a take. -/
structure Vacant (s : Exchange α) : Prop where
  delivery : s.delivery = none
  claims : s.claims = []
  resuming : s.resuming = []
  ready : s.stream.cell.ready = false

@[simp] def Event.isTaking : Event α → Bool
  | claimed _ | took _ _ _ => true
  | _ => false

/-- As long as the transport delivers nothing, every take is answered with nothing. -/
structure Missed (q : Exchange α × List (Event α)) : Prop where
  vacant : Vacant q.1
  untaken : ∀ e ∈ q.2, e.isTaking = false

theorem missed_aside (h : Vacant s) (hm : Moved s m q) (around : m.isAround = true) :
    Missed q ∧ callbacks q.2 = [] := by
  have ⟨delivery, claims, resuming, ready⟩ := h
  cases hm with
  | launched | refused | missed => exact ⟨⟨⟨delivery, claims, resuming, ready⟩, by simp⟩, rfl⟩
  | cancelled => exact ⟨⟨⟨delivery, claims, resuming, ready⟩, by simp⟩, rfl⟩
  | attached lane =>
      have empty : Vacant { s with stream := (s.stream.attach lane).1, opening := false } :=
        ⟨delivery, claims, resuming, by simpa using ready⟩
      exact ⟨⟨empty, by simp [asks]⟩, by simp⟩
  | published p x stage | left p e stage | discarded p stage | refetched p stage =>
      simp [delivery] at stage
  | claimed p outside offered => simp [ready] at offered
  | took p due claim => simp [claims] at claim
  | resumed p got => simp [resuming] at got
  | accepted | rejected | closed | ended | ignored => cases around

theorem missed_finish {status : Status} (h : Vacant s) (hm : Moved s (.finish status) q) :
    Missed q := by
  have ⟨delivery, claims, resuming, ready⟩ := h
  cases hm with
  | ended | ignored => exact ⟨⟨delivery, claims, resuming, ready⟩, by simp⟩

theorem cancelled_of_moved (hm : Moved s m q) (asked : s.stream.cell.cancelled = true) :
    q.1.stream.cell.cancelled = true := by
  cases hm with
  | cancelled => rfl
  | attached | discarded | refetched | resumed => simpa using asked
  | _ => exact asked

theorem started_of_moved (hm : Moved s m q) (waits : m ≠ .launch) :
    q.1.stream.started = s.stream.started := by
  cases hm with
  | launched | refused => exact absurd rfl waits
  | attached lane =>
      rcases s.stream.attach_cases lane with ⟨-, -, heq⟩ | heq <;> rw [heq]
  | refetched p =>
      rcases s.stream.refetch_cases with ⟨lane, -, -, heq⟩ | heq <;> rw [heq]
  | resumed p =>
      rcases s.stream.resume_cases with ⟨lane, -, -, heq⟩ | ⟨lane, -, -, heq⟩ | ⟨-, heq⟩ <;>
        rw [heq]
  | _ => rfl

theorem timeout_of_moved (hm : Moved s m q) : q.1.stream.timeout = s.stream.timeout := by
  cases hm with
  | attached lane =>
      rcases s.stream.attach_cases lane with ⟨-, -, heq⟩ | heq <;> rw [heq]
  | refetched p =>
      rcases s.stream.refetch_cases with ⟨lane, -, -, heq⟩ | heq <;> rw [heq]
  | resumed p =>
      rcases s.stream.resume_cases with ⟨lane, -, -, heq⟩ | ⟨lane, -, -, heq⟩ | ⟨-, heq⟩ <;>
        rw [heq]
  | _ => rfl

theorem started_of_launch (hm : Moved s .launch q) : q.1.stream.started = true := by
  cases hm with
  | launched => rfl
  | refused again => exact again

/-- The first launch is not refused. -/
theorem launched_of_step (h : s.step .launch = some q) (first : s.stream.started = false) :
    q.1.stream.started = true ∧ q.2 = [.launched] := by
  simp only [step, Stream.launch, first, Bool.false_eq_true, if_false] at h
  cases h
  exact ⟨rfl, rfl⟩

end Exchange

namespace Link

open Exchange (Vacant Missed callbacks)
open Loopback (StreamTask View cancelledByClient)

variable {α : Type} {c : Service α} {s : Link α} {m : Move α} {log : List (Exchange.Event α)}
  {q : Link α × List (Exchange.Event α)}

/-- What holds of a stream that nobody starts before it is cancelled. -/
structure Early (s : Link α) (log : List (Exchange.Event α)) : Prop where
  begun : s.exchange.stream.started = true → s.exchange.stream.cell.cancelled = true
  idle : s.hasTask = false → s.task = .fresh
  vacant : Vacant s.exchange
  unserved : s.served = false
  untaken : ∀ e ∈ log, e.isTaking = false
  course : (s.task = .fresh ∧ s.calling = false ∧ callbacks log = [] ∧
      s.exchange.stream.cell.status = none) ∨
    (s.task = .done ∧ callbacks log = [.ended cancelledByClient] ∧
      s.exchange.stream.cell.status = some cancelledByClient)

theorem early_fresh (id : CallId) (timeout : Option Nat) :
    Early (fresh id timeout : Link α) [] := by
  refine ⟨nofun, fun _ => rfl, ⟨rfl, rfl, rfl, rfl⟩, rfl, nofun, ?_⟩
  exact .inl ⟨rfl, rfl, rfl, rfl⟩

theorem untaken_append {es : List (Exchange.Event α)} (before : ∀ e ∈ log, e.isTaking = false)
    (now : ∀ e ∈ es, e.isTaking = false) : ∀ e ∈ log ++ es, e.isTaking = false := by
  intro e mem
  rcases List.mem_append.mp mem with mem | mem
  · exact before e mem
  · exact now e mem

theorem started_of_hasTask (h : s.hasTask = true) : s.exchange.stream.started = true :=
  (Bool.and_eq_true_iff.mp h).1

theorem hasTask_of_started {t : Link α} (h : s.hasTask = true)
    (started : s.exchange.stream.started = true → t.exchange.stream.started = true)
    (overflowed : t.overflowed = s.overflowed) : t.hasTask = true := by
  rw [hasTask, started (started_of_hasTask h), overflowed, (Bool.and_eq_true_iff.mp h).2,
    Bool.and_self]

theorem early_aside {m : Exchange.Move α} {q : Exchange α × List (Exchange.Event α)}
    (h : Early s log) (moved : Exchange.Moved s.exchange m q) (around : m.isAround = true)
    (deadline : Option Nat)
    (begun : q.1.stream.started = true → s.exchange.stream.cell.cancelled = true) :
    Early { s with exchange := q.1, deadline } (log ++ q.2) := by
  have aside := Exchange.aside_moved moved around
  obtain ⟨⟨vacant, untaken⟩, silent⟩ := Exchange.missed_aside h.vacant moved around
  refine ⟨?_, ?_, vacant, h.unserved, untaken_append h.untaken untaken, ?_⟩
  · intro started
    exact Exchange.cancelled_of_moved moved (begun started)
  · intro idle
    apply h.idle
    rw [Bool.eq_false_iff] at idle ⊢
    exact fun running => idle (hasTask_of_started running aside.started rfl)
  · rw [Exchange.callbacks_append, silent, List.append_nil, aside.status]
    exact h.course

/-- The first turn of the task is its last. -/
theorem turn_of_cancelled (task : s.task = .fresh)
    (cancelled : s.exchange.stream.cell.cancelled = true) :
    s.task.turn s.view s.reads c.latency c.serve =
      some { task := .done, report := some (.finish cancelledByClient) } := by
  have stop : s.view.stop? = some cancelledByClient := by
    simp [View.stop?, view, cancelled]
  exact StreamTask.turn_of_stop stop (by simp [task]) (by simp [task])

theorem serves_of_cancelled (cancelled : s.exchange.stream.cell.cancelled = true) :
    s.serves = false := by
  simp [serves, View.stop?, view, cancelled]

theorem early_poll {thread : Nat} (h : Early s log) (running : s.hasTask = true)
    (hq : s.poll c thread = some q) : Early q.1 (log ++ q.2) := by
  have cancelled := h.begun (started_of_hasTask running)
  rcases h.course with ⟨task, -, silent, unsettled⟩ | ⟨task, told, settled⟩
  · simp only [poll, turn_of_cancelled task cancelled] at hq
    obtain ⟨q', hq', rfl⟩ := Option.map_eq_some_iff.mp hq
    have moved := Exchange.moved_of_step hq'
    obtain ⟨vacant, untaken⟩ := Exchange.missed_finish h.vacant moved
    refine ⟨?_, fun idle => ?_, vacant, ?_, untaken_append h.untaken untaken, .inr ⟨rfl, ?_⟩⟩
    · intro _
      exact Exchange.cancelled_of_moved moved cancelled
    · have started := Exchange.started_of_moved moved (by simp)
      exact absurd (idle.symm.trans (hasTask_of_started running (started.trans ·) rfl))
        Bool.false_ne_true
    · simp [h.unserved, serves_of_cancelled cancelled]
    · cases moved with
      | ignored _ again => simp [unsettled] at again
      | ended _ first => simp [silent, Cell.terminate, Cell.settle, unsettled]
  · simp only [poll, task, StreamTask.turn, Option.some.injEq] at hq
    subst hq
    rw [List.append_nil]
    exact ⟨h.begun, h.idle, h.vacant, h.unserved, h.untaken, .inr ⟨task, told, settled⟩⟩

theorem isBeside_iff {m : Exchange.Move α} (beside : isBeside m = true) :
    m.isAround = true ∧ m ≠ .launch := by
  obtain ⟨around, others⟩ := Bool.and_eq_true_iff.mp beside
  refine ⟨around, ?_⟩
  rintro rfl
  cases others

theorem early_step (h : Early s log) (hq : s.step c m = some q)
    (first : m = .launch → s.exchange.stream.cell.cancelled = true) :
    Early q.1 (log ++ q.2) := by
  cases m with
  | launch =>
      rcases launch_cases hq with ⟨deadline, hq⟩ | ⟨unstarted, -, rfl⟩
      · obtain ⟨q', hq', rfl⟩ := Option.map_eq_some_iff.mp hq
        apply early_aside h (Exchange.moved_of_step hq') rfl
        intro _
        exact first rfl
      · have none_yet : s.hasTask = false := by simp [hasTask, unstarted]
        have ⟨delivery, claims, resuming, ready⟩ := h.vacant
        rw [List.append_nil]
        exact ⟨fun _ => first rfl, fun _ => h.idle none_yet, ⟨delivery, claims, resuming, ready⟩,
          h.unserved, h.untaken, h.course⟩
  | poll thread =>
      obtain ⟨runnable, hq⟩ := Option.ite_none_right_eq_some.mp hq
      simp only [Link.runnable, Bool.and_eq_true] at runnable
      exact early_poll h runnable.1.1.1 hq
  | back =>
      obtain ⟨calling, hq⟩ := Option.ite_none_right_eq_some.mp hq
      cases hq
      rw [List.append_nil]
      refine ⟨h.begun, h.idle, h.vacant, h.unserved, h.untaken, ?_⟩
      rcases h.course with ⟨-, idle, -⟩ | finished
      · simp [calling] at idle
      · exact .inr finished
  | tick n =>
      cases hq
      rw [List.append_nil]
      exact ⟨h.begun, h.idle, h.vacant, h.unserved, h.untaken, h.course⟩
  | beside m =>
      obtain ⟨beside, hq⟩ := Option.ite_none_right_eq_some.mp hq
      obtain ⟨q', hq', rfl⟩ := Option.map_eq_some_iff.mp hq
      obtain ⟨around, waits⟩ := isBeside_iff beside
      have moved := Exchange.moved_of_step hq'
      apply early_aside h moved around
      rw [Exchange.started_of_moved moved waits]
      exact h.begun

theorem cancelled_of_step (asked : s.exchange.stream.cell.cancelled = true)
    (hq : s.step c m = some q) : q.1.exchange.stream.cell.cancelled = true := by
  cases moved_of_step hq with
  | aside deadline moved => exact Exchange.cancelled_of_moved moved asked
  | polled thread runnable poll =>
      cases polled_of_poll poll with
      | quiet exchange =>
          rw [exchange]
          exact asked
      | reported moved | ended status moved => exact Exchange.cancelled_of_moved moved asked
  | overflowed | returned | ticked n => exact asked

/-- Once a stream is started there is a task for good, or there never will be one. -/
theorem started_of_step (begun : s.exchange.stream.started = true) (hq : s.step c m = some q) :
    q.1.exchange.stream.started = true ∧ q.1.overflowed = s.overflowed := by
  cases moved_of_step hq with
  | aside deadline moved around => exact ⟨(Exchange.aside_moved moved around).started begun, rfl⟩
  | overflowed first => simp [first] at begun
  | polled thread runnable poll =>
      refine ⟨?_, overflowed_of_poll poll⟩
      cases polled_of_poll poll with
      | quiet exchange =>
          rw [exchange]
          exact begun
      | reported moved report =>
          rw [Exchange.started_of_moved moved (by rcases report with ⟨x, rfl⟩ | rfl <;> nofun)]
          exact begun
      | ended status moved =>
          rw [Exchange.started_of_moved moved nofun]
          exact begun
  | returned | ticked n => exact ⟨begun, rfl⟩

theorem started_of_launch (hq : s.step c .launch = some q) :
    q.1.exchange.stream.started = true := by
  rcases launch_cases hq with ⟨deadline, hq⟩ | ⟨-, -, rfl⟩
  · obtain ⟨q', hq', rfl⟩ := Option.map_eq_some_iff.mp hq
    exact Exchange.started_of_launch (Exchange.moved_of_step hq')
  · rfl

/-- A stream that nobody has started yet: its timeout is the one that it was made with. -/
structure Unstarted (timeout : Option Nat) (s : Link α) : Prop where
  first : s.exchange.stream.started = false
  intact : s.overflowed = false
  timeout : s.exchange.stream.timeout = timeout

theorem unstarted_of_step {timeout : Option Nat} (h : Unstarted timeout s)
    (hq : s.step c m = some q) (waits : m ≠ .launch) : Unstarted timeout q.1 := by
  cases m with
  | launch => exact absurd rfl waits
  | poll thread =>
      obtain ⟨runnable, -⟩ := Option.ite_none_right_eq_some.mp hq
      simp [Link.runnable, hasTask, h.first] at runnable
  | back =>
      obtain ⟨-, hq⟩ := Option.ite_none_right_eq_some.mp hq
      cases hq
      exact ⟨h.first, h.intact, h.timeout⟩
  | tick n =>
      cases hq
      exact ⟨h.first, h.intact, h.timeout⟩
  | beside m =>
      obtain ⟨beside, hq⟩ := Option.ite_none_right_eq_some.mp hq
      obtain ⟨q', hq', rfl⟩ := Option.map_eq_some_iff.mp hq
      have moved := Exchange.moved_of_step hq'
      have started := Exchange.started_of_moved moved (isBeside_iff beside).2
      exact ⟨started.trans h.first, h.intact, (Exchange.timeout_of_moved moved).trans h.timeout⟩

/-! ## Runs -/

/-- How a stream stands that was cancelled before its start. The only callback says that the stream
was cancelled, and until it has come the next turn of the task brings it. -/
structure TurnedAway (c : Service α) (s : Link α) (log : List (Exchange.Event α)) : Prop where
  unserved : s.served = false
  untaken : ∀ e ∈ log, e.isTaking = false
  ends : (callbacks log = [] ∧ s.exchange.stream.cell.status = none ∧
      ∀ p, ∃ t es, s.step c (.poll p) = some (t, es) ∧
        callbacks (log ++ es) = [.ended cancelledByClient] ∧
        t.exchange.stream.cell.status = some cancelledByClient) ∨
    (callbacks log = [.ended cancelledByClient] ∧
      s.exchange.stream.cell.status = some cancelledByClient)

theorem Early.turnedAway (h : Early s log) (running : s.hasTask = true) :
    TurnedAway c s log := by
  refine ⟨h.unserved, h.untaken, ?_⟩
  rcases h.course with ⟨task, idle, silent, unsettled⟩ | ⟨-, finished⟩
  · refine .inl ⟨silent, unsettled, ?_⟩
    intro p
    have runnable : s.runnable p = true := by
      simp [runnable, running, idle, Exchange.free, h.vacant.delivery, h.vacant.claims,
        h.vacant.resuming]
    rcases s.exchange.stream.finish_cases cancelledByClient with ⟨-, ha, hs⟩ | ⟨again, -⟩
    · simp only [step, runnable, if_true, poll, report,
        turn_of_cancelled task (h.begun (started_of_hasTask running)),
        lift, Exchange.step, ha, hs, Option.map_some]
      refine ⟨_, _, rfl, ?_, ?_⟩
      · simp [silent]
      · simp [Cell.terminate, Cell.settle, unsettled]
    · simp [unsettled] at again
  · exact .inr finished

/-- Before its first launch a stream is as it was made, but for the request to stop. -/
theorem early_before {id : CallId} {timeout : Option Nat} {ms : List (Move α)}
    (h : (fresh id timeout).run c ms = some (s, log)) (first : .launch ∉ ms) :
    Early s log ∧ Unstarted timeout s := by
  refine runWith_invariant_of_mem (P := fun s log => Early s log ∧ Unstarted timeout s) ?_ h
    ⟨early_fresh id timeout, rfl, rfl, rfl⟩
  rintro s log m t es mem ⟨early, unstarted⟩ hstep
  have waits : m ≠ .launch := by
    rintro rfl
    exact first mem
  constructor
  · apply early_step early hstep
    intro launch
    exact absurd launch waits
  · exact unstarted_of_step unstarted hstep waits

theorem cancelled_of_run {ms : List (Move α)} {t : Link α} (h : s.run c ms = some (t, log))
    (cancelled : .beside .cancel ∈ ms) : t.exchange.stream.cell.cancelled = true := by
  refine runWith_of_mem (P := fun s => s.exchange.stream.cell.cancelled = true) ?_ ?_ h cancelled
  · intro s t es hstep
    cases hstep
    rfl
  · intro s m t es asked hstep
    exact cancelled_of_step asked hstep

/-- The first launch calls the channel, if a clock can show the deadline. -/
theorem launched_of_step {timeout : Option Nat} (h : Unstarted timeout s)
    (hq : s.step c .launch = some q) (shown : Loopback.deadline? s.now timeout ≠ none) :
    q.1.hasTask = true ∧ q.2 = [.launched] := by
  rcases launch_cases hq with ⟨deadline, hq⟩ | ⟨-, unshown, -⟩
  · obtain ⟨q', hq', rfl⟩ := Option.map_eq_some_iff.mp hq
    obtain ⟨started, called⟩ := Exchange.launched_of_step hq' h.first
    exact ⟨by simp [hasTask, started, h.intact], called⟩
  · exact absurd (h.timeout ▸ unshown) shown

theorem overflowed_of_step {timeout : Option Nat} (h : Unstarted timeout s)
    (hq : s.step c .launch = some q) (unshown : Loopback.deadline? s.now timeout = none) :
    q = (s.overflow, []) := by
  rw [← h.timeout] at unshown
  simp only [step, h.first, Bool.false_eq_true, if_false, unshown] at hq
  exact (Option.some.inj hq).symm

/-- What follows the launch of a stream that was cancelled before. -/
theorem Early.onward {ms : List (Move α)} {t : Link α} {es : List (Exchange.Event α)}
    (h : Early s log) (started : s.exchange.stream.started = true)
    (asked : s.exchange.stream.cell.cancelled = true) (hrun : s.run c ms = some (t, es)) :
    Early t (log ++ es) ∧ t.exchange.stream.started = true ∧ t.overflowed = s.overflowed := by
  obtain ⟨early, begun, same, -⟩ : Early t (log ++ es) ∧ t.exchange.stream.started = true ∧
      t.overflowed = s.overflowed ∧ t.exchange.stream.cell.cancelled = true := by
    refine runWith_invariant
      (P := fun t log => Early t log ∧ t.exchange.stream.started = true ∧
        t.overflowed = s.overflowed ∧ t.exchange.stream.cell.cancelled = true) ?_ hrun
      ⟨h, started, rfl, asked⟩
    rintro t log m u es ⟨ht, started, same, asked⟩ hstep
    obtain ⟨begun, still⟩ := started_of_step started hstep
    exact ⟨early_step ht hstep fun _ => asked, begun, still.trans same,
      cancelled_of_step asked hstep⟩
  exact ⟨early, begun, same⟩

/-- A run in which the stream is cancelled before it is started. -/
theorem early_of_run {id : CallId} {timeout : Option Nat} {before after : List (Move α)}
    {s₀ : Link α} {log₀ : List (Exchange.Event α)}
    (hbefore : (fresh id timeout).run c before = some (s₀, log₀))
    (h : (fresh id timeout).run c (before ++ .launch :: after) = some (s, log))
    (first : .launch ∉ before) (cancelled : .beside .cancel ∈ before) :
    Early s log ∧ Unstarted timeout s₀ ∧
      ∃ s₁ es log₁, s₀.step c .launch = some (s₁, es) ∧ log = log₀ ++ (es ++ log₁) ∧
        s.exchange.stream.started = true ∧ s.overflowed = s₁.overflowed := by
  obtain ⟨s₀', log₀', rest, hbefore', hrest, rfl⟩ := runWith_split h
  obtain ⟨rfl, rfl⟩ := Prod.mk.inj (Option.some.inj (hbefore.symm.trans hbefore'))
  obtain ⟨s₁, es, log₁, hlaunch, hafter, rfl⟩ := runWith_cons hrest
  obtain ⟨early, unstarted⟩ := early_before hbefore first
  have asked : s₀.exchange.stream.cell.cancelled = true := cancelled_of_run hbefore cancelled
  have early₁ : Early s₁ (log₀ ++ es) := early_step early hlaunch fun _ => asked
  obtain ⟨last, begun, same⟩ := early₁.onward (started_of_launch hlaunch)
    (cancelled_of_step asked hlaunch) hafter
  refine ⟨?_, unstarted, s₁, es, log₁, hlaunch, rfl, begun, same⟩
  rw [← List.append_assoc]
  exact last

/-- A stream without a task is told of nothing. -/
theorem Early.untold (h : Early s log) (idle : s.hasTask = false) :
    callbacks log = [] ∧ s.exchange.stream.cell.status = none := by
  have fresh := h.idle idle
  rcases h.course with ⟨-, -, silent, unsettled⟩ | ⟨task, -⟩
  · exact ⟨silent, unsettled⟩
  · simp [fresh] at task

end Link

end CallBridge
