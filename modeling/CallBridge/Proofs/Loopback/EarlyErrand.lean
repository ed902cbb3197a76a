import CallBridge.Proofs.Loopback.Errand

/-!
# Unary calls that are cancelled before their start

Until the task of such a call has had its turn, nothing has been told and nothing can be taken.
`Early` says so by the completions that there have been, from which `Told` and `Offered` have the
rest. It also has that a call without a task has not come any further: that is so before the start,
and for good after a start that has broken off.
-/

namespace CallBridge

namespace Loopback.UnaryTask

variable {α : Type}

/-- The task, if it is run, comes to ask its service. -/
def asks (t : UnaryTask) (v : View) (latency : Nat) : Bool :=
  match t with
  | done => false
  | fresh => v.stop?.isNone && decide (v.now + latency ≤ v.now)
  | pausing wake => v.stop?.isNone && decide (wake ≤ v.now)

/-- A task that asks its service answers with what the service says. -/
theorem run_of_asks {t : UnaryTask} {v : View} {latency : Nat} (asks : t.asks v latency = true)
    (serve : Except Status α) : t.run v latency serve = (done, some serve) := by
  cases t with
  | done => cases asks
  | fresh | pausing wake =>
      simp only [UnaryTask.asks, Bool.and_eq_true, Option.isNone_iff_eq_none,
        decide_eq_true_eq] at asks
      simp [run, run.wait, asks]

theorem run_of_not_asks {t : UnaryTask} {v : View} {latency : Nat}
    (unasked : t.asks v latency = false) (serve serve' : Except Status α) :
    t.run v latency serve = t.run v latency serve' := by
  cases t with
  | done => rfl
  | fresh | pausing wake =>
      simp only [run, run.wait]
      cases stop : v.stop? with
      | some status => rfl
      | none =>
          simp only [UnaryTask.asks, stop, Option.isNone_none, Bool.true_and,
            decide_eq_false_iff_not] at unasked
          simp [unasked]

end Loopback.UnaryTask

namespace Inquiry

variable {α : Type}

/-- Moves that neither start the call nor complete it. -/
def Move.isAside : Move α → Bool
  | .act _ .start | .act _ (.complete _) => false
  | _ => true

/-- Only a start marks the call as started, and only a completion is reported. -/
theorem aside_of_step {s : Inquiry α} {m : Move α} {q : Inquiry α × List (Event α)}
    (h : s.step m = some q) (aside : m.isAside = true) :
    q.1.unary.started = s.unary.started ∧ reports q.2 = [] := by
  cases m with
  | proceed =>
      simp only [step, proceed] at h
      split at h <;> cases h <;> exact ⟨rfl, rfl⟩
  | extract p =>
      obtain ⟨-, h⟩ := Option.ite_none_right_eq_some.mp h
      cases h
      exact ⟨rfl, rfl⟩
  | act p o =>
      obtain ⟨-, h⟩ := Option.ite_none_right_eq_some.mp h
      cases o with
      | start | complete r => cases aside
      | cancel =>
          cases h
          exact ⟨rfl, rfl⟩
      | take =>
          simp only [act] at h
          split at h
          · cases h
            exact ⟨rfl, rfl⟩
          · split at h <;> cases h <;> exact ⟨rfl, rfl⟩
      | back | panic =>
          simp only [act] at h
          split at h <;> cases h
          exact ⟨rfl, rfl⟩

theorem reports_of_start {s : Inquiry α} {p : Nat} {q : Inquiry α × List (Event α)}
    (h : s.step (.act p .start) = some q) : reports q.2 = [] := by
  obtain ⟨-, h⟩ := Option.ite_none_right_eq_some.mp h
  simp only [act] at h
  split at h <;> cases h <;> rfl

/-- The first start calls the channel. -/
theorem launched_of_start {s : Inquiry α} {p : Nat} {q : Inquiry α × List (Event α)}
    (h : s.step (.act p .start) = some q) (first : s.unary.started = false) :
    q.1.unary.started = true ∧ q.2 = [.launched] := by
  obtain ⟨-, h⟩ := Option.ite_none_right_eq_some.mp h
  simp only [act, Unary.launch, first, Bool.false_eq_true, if_false] at h
  cases h
  exact ⟨rfl, rfl⟩

theorem started_of_moved {s : Inquiry α} {q : Inquiry α × List (Event α)} (hm : Moved s q)
    (begun : s.unary.started = true) : q.1.unary.started = true := by
  cases hm with
  | launched => rfl
  | _ => exact begun

theorem started_of_start {s : Inquiry α} {p : Nat} {q : Inquiry α × List (Event α)}
    (h : s.step (.act p .start) = some q) : q.1.unary.started = true := by
  cases first : s.unary.started with
  | false => exact (launched_of_start h first).1
  | true => exact started_of_moved (moved_of_step h) first

theorem timeout_of_moved {s : Inquiry α} {q : Inquiry α × List (Event α)} (hm : Moved s q) :
    q.1.unary.timeout = s.unary.timeout := by
  cases hm <;> rfl

theorem cancelled_of_moved {s : Inquiry α} {q : Inquiry α × List (Event α)} (hm : Moved s q)
    (asked : s.unary.cell.cancelled = true) : q.1.unary.cell.cancelled = true := by
  cases hm with
  | cancelled => rfl
  | _ => exact asked

end Inquiry

namespace Errand

open Inquiry (Told Offered reports notices winners answers)
open Loopback (UnaryTask View cancelledByClient)

variable {α : Type} {c : Service α} {s : Errand α} {m : Move α} {log : List (Inquiry.Event α)}
  {q : Errand α × List (Inquiry.Event α)}

/-- The move makes the task ask its service. -/
def asks (c : Service α) (s : Errand α) : Move α → Bool
  | .poll _ => s.hasTask && s.task.asks s.view c.latency
  | _ => false

/-- How often the service is asked in a run. -/
def asked (c : Service α) (s : Errand α) : List (Move α) → Nat
  | [] => 0
  | m :: ms =>
    (s.asks c m).toNat +
      match s.step c m with
      | some (t, _) => t.asked c ms
      | none => 0

/-- The application completes the call itself. -/
def Move.completes : Move α → Bool
  | .beside (.act _ (.complete _)) => true
  | _ => false

/-- What holds of a call that nobody starts before it is cancelled. -/
structure Early (s : Errand α) (log : List (Inquiry.Event α)) : Prop where
  told : Told s.inquiry log
  offered : Offered s.inquiry log
  begun : s.inquiry.unary.started = true → s.inquiry.unary.cell.cancelled = true
  idle : s.hasTask = false → s.task = .fresh
  course : s.task = .fresh ∧ reports log = [] ∨
    s.task = .done ∧ reports log = [.error cancelledByClient]

theorem early_fresh (id : CallId) (timeout : Option Nat) :
    Early (fresh id timeout : Errand α) [] := by
  have untouched : (Inquiry.fresh id timeout : Inquiry α).run [] = some (_, []) := rfl
  obtain ⟨-, told, offered⟩ := Inquiry.singleShot_of_run untouched
  exact ⟨told, offered, nofun, fun _ => rfl, .inl ⟨rfl, rfl⟩⟩

theorem started_of_hasTask (h : s.hasTask = true) : s.inquiry.unary.started = true :=
  (Bool.and_eq_true_iff.mp h).1

theorem hasTask_of_moved (h : s.hasTask = true) {q : Inquiry α × List (Inquiry.Event α)}
    (moved : Inquiry.Moved s.inquiry q) {t : Errand α} (inquiry : t.inquiry = q.1)
    (overflowed : t.overflowed = s.overflowed) : t.hasTask = true := by
  obtain ⟨started, intact⟩ := Bool.and_eq_true_iff.mp h
  rw [hasTask, inquiry, overflowed, Inquiry.started_of_moved moved started, intact, Bool.and_self]

theorem Early.call (h : Early s log) {q : Inquiry α × List (Inquiry.Event α)}
    (moved : Inquiry.Moved s.inquiry q) {t : Errand α} (inquiry : t.inquiry = q.1)
    (begun : q.1.unary.started = true → s.inquiry.unary.cell.cancelled = true)
    (idle : t.hasTask = false → t.task = .fresh)
    (course : t.task = .fresh ∧ reports (log ++ q.2) = [] ∨
      t.task = .done ∧ reports (log ++ q.2) = [.error cancelledByClient]) :
    Early t (log ++ q.2) := by
  refine ⟨?_, ?_, ?_, idle, course⟩
  · rw [inquiry]
    exact Inquiry.told_moved h.told moved
  · rw [inquiry]
    exact Inquiry.offered_moved h.told h.offered moved
  · rw [inquiry]
    intro started
    exact Inquiry.cancelled_of_moved moved (begun started)

theorem Early.quiet (h : Early s log) {q : Inquiry α × List (Inquiry.Event α)}
    (moved : Inquiry.Moved s.inquiry q) {t : Errand α} (inquiry : t.inquiry = q.1)
    (task : t.task = s.task) (overflowed : t.overflowed = s.overflowed) (silent : reports q.2 = [])
    (begun : q.1.unary.started = true → s.inquiry.unary.cell.cancelled = true) :
    Early t (log ++ q.2) := by
  apply h.call moved inquiry begun
  · intro idle
    rw [task]
    apply h.idle
    rw [Bool.eq_false_iff] at idle ⊢
    exact fun running => idle (hasTask_of_moved running moved inquiry overflowed)
  · rw [Inquiry.reports_append, silent, List.append_nil, task]
    exact h.course

/-- A task that is run for the first time ends the call as cancelled. -/
theorem run_of_cancelled (task : s.task = .fresh)
    (cancelled : s.inquiry.unary.cell.cancelled = true) :
    s.task.run s.view c.latency c.serve = (.done, some (.error cancelledByClient)) := by
  have stop : s.view.stop? = some cancelledByClient := by
    simp [View.stop?, view, cancelled]
  simp [task, UnaryTask.run, UnaryTask.run.wait, stop]

theorem early_poll {thread : Nat} (h : Early s log) (running : s.hasTask = true)
    (hq : s.poll c thread = some q) : Early q.1 (log ++ q.2) := by
  have asked := h.begun (started_of_hasTask running)
  unfold poll at hq
  rcases h.course with ⟨task, unreported⟩ | ⟨task, reported⟩
  · rw [run_of_cancelled task asked] at hq
    obtain ⟨q', hq', rfl⟩ := Option.map_eq_some_iff.mp hq
    have live : s.inquiry.unary.cell.terminated = false := by
      simpa [unreported] using h.told.terminated
    have told : reports q'.2 = [.error cancelledByClient] := by
      obtain ⟨-, hq'⟩ := Option.ite_none_right_eq_some.mp hq'
      simp only [Inquiry.act] at hq'
      obtain ⟨-, hq'⟩ := Option.ite_none_left_eq_some.mp hq'
      rw [if_neg (by simp [live])] at hq'
      cases hq'
      rfl
    have moved := Inquiry.moved_of_step hq'
    apply h.call moved rfl
    · intro _
      exact asked
    · intro idle
      exact absurd (idle.symm.trans (hasTask_of_moved running moved rfl rfl))
          Bool.false_ne_true
    · exact .inr ⟨rfl, by simp [unreported, told]⟩
  · rw [task] at hq
    cases hq
    rw [List.append_nil]
    refine ⟨h.told, h.offered, h.begun, fun idle => ?_, .inr ⟨rfl, reported⟩⟩
    exact absurd (idle.symm.trans running) Bool.false_ne_true

/-- What goes on beside the task neither starts the call nor, unless the application does so,
completes it. -/
theorem isAside_of_step {m : Inquiry.Move α} (hq : s.step c (.beside m) = some q)
    (own : (Move.beside m).completes = false) : m.isAside = true ∧ s.lift m = some q := by
  obtain ⟨unstarting, hq⟩ := Option.ite_none_left_eq_some.mp hq
  refine ⟨?_, hq⟩
  cases m with
  | act p o => cases o <;> simp_all [Inquiry.Move.isAside, Move.completes]
  | _ => rfl

theorem early_step (h : Early s log) (hq : s.step c m = some q) (own : m.completes = false)
    (first : ∀ p, m = .launch p → s.inquiry.unary.cell.cancelled = true) :
    Early q.1 (log ++ q.2) := by
  cases m with
  | launch p =>
      rcases launch_cases hq with ⟨deadline, hq⟩ | ⟨unstarted, -, rfl⟩
      · obtain ⟨q', hq', rfl⟩ := Option.map_eq_some_iff.mp hq
        refine h.quiet (Inquiry.moved_of_step hq') rfl rfl rfl (Inquiry.reports_of_start hq') ?_
        intro _
        exact first p rfl
      · have none_yet : s.hasTask = false := by simp [hasTask, unstarted]
        refine ⟨h.told.silent rfl rfl rfl rfl rfl, ?_, fun _ => first p rfl, fun _ => ?_, ?_⟩
        · exact h.offered.same (by simp [overflow, Inquiry.offer]) rfl rfl rfl rfl rfl rfl
        · exact h.idle none_yet
        · rw [List.append_nil]
          exact h.course
  | poll thread =>
      obtain ⟨running, hq⟩ := Option.ite_none_right_eq_some.mp hq
      exact early_poll h running hq
  | tick n =>
      cases hq
      rw [List.append_nil]
      exact ⟨h.told, h.offered, h.begun, h.idle, h.course⟩
  | beside m =>
      obtain ⟨aside, hq⟩ := isAside_of_step hq own
      obtain ⟨q', hq', rfl⟩ := Option.map_eq_some_iff.mp hq
      obtain ⟨started, silent⟩ := Inquiry.aside_of_step hq' aside
      refine h.quiet (Inquiry.moved_of_step hq') rfl rfl rfl silent ?_
      intro begun
      exact h.begun (started ▸ begun)

theorem cancelled_of_step (asked : s.inquiry.unary.cell.cancelled = true)
    (hq : s.step c m = some q) : q.1.inquiry.unary.cell.cancelled = true := by
  rw [flag_of_step hq, asked, Bool.true_or]

/-- While a call that is cancelled early goes on, its service is not asked. -/
theorem Early.unasked (h : Early s log) : s.asks c m = false := by
  cases m with
  | poll thread =>
      rw [asks, Bool.and_eq_false_iff]
      cases running : s.hasTask with
      | false => exact .inl rfl
      | true =>
          refine .inr ?_
          have asked := h.begun (started_of_hasTask running)
          rcases h.course with ⟨task, -⟩ | ⟨task, -⟩
          · simp [task, UnaryTask.asks, View.stop?, view, asked]
          · simp [task, UnaryTask.asks]
  | _ => rfl

/-- Once a call is started there is a task for good, or there never will be one. -/
theorem started_of_step (begun : s.inquiry.unary.started = true) (hq : s.step c m = some q) :
    q.1.inquiry.unary.started = true ∧ q.1.overflowed = s.overflowed := by
  cases moved_of_step hq with
  | called moved inquiry overflowed =>
      refine ⟨?_, overflowed⟩
      rw [inquiry]
      exact Inquiry.started_of_moved moved begun
  | quiet inquiry overflowed =>
      refine ⟨?_, overflowed⟩
      rw [inquiry]
      exact begun
  | overflowed first => simp [first] at begun

theorem started_of_launch {p : Nat} (hq : s.step c (.launch p) = some q) :
    q.1.inquiry.unary.started = true := by
  rcases launch_cases hq with ⟨deadline, hq⟩ | ⟨-, -, rfl⟩
  · obtain ⟨q', hq', rfl⟩ := Option.map_eq_some_iff.mp hq
    exact Inquiry.started_of_start hq'
  · rfl

/-- A call that nobody has started yet: its timeout is the one that it was made with. -/
structure Unstarted (timeout : Option Nat) (s : Errand α) : Prop where
  first : s.inquiry.unary.started = false
  intact : s.overflowed = false
  timeout : s.inquiry.unary.timeout = timeout

theorem unstarted_of_step {timeout : Option Nat} (h : Unstarted timeout s)
    (hq : s.step c m = some q) (own : m.completes = false) (waits : ∀ p, m ≠ .launch p) :
    Unstarted timeout q.1 := by
  cases m with
  | launch p => exact absurd rfl (waits p)
  | poll thread => simp [step, hasTask, h.first] at hq
  | tick n =>
      cases hq
      exact ⟨h.first, h.intact, h.timeout⟩
  | beside m =>
      obtain ⟨aside, hq⟩ := isAside_of_step hq own
      obtain ⟨q', hq', rfl⟩ := Option.map_eq_some_iff.mp hq
      have same := Inquiry.timeout_of_moved (Inquiry.moved_of_step hq')
      exact ⟨(Inquiry.aside_of_step hq' aside).1.trans h.first, h.intact, same.trans h.timeout⟩

/-! ## Runs -/

theorem asked_append {ms ms' : List (Move α)} {t : Errand α}
    (h : s.run c ms = some (t, log)) : s.asked c (ms ++ ms') = s.asked c ms + t.asked c ms' := by
  induction ms generalizing s log with
  | nil =>
      cases h
      simp [asked]
  | cons m ms ih =>
      obtain ⟨u, es, rest, hstep, hrun, rfl⟩ := runWith_cons h
      simp [asked, hstep, ih hrun, Nat.add_assoc]

/-- Nobody asks the service of a call that is cancelled early, unless it is started before. -/
theorem Early.never_asked {ms : List (Move α)} (h : Early s log)
    (own : ∀ m ∈ ms, m.completes = false)
    (first : (∃ p, .launch p ∈ ms) → s.inquiry.unary.cell.cancelled = true) :
    s.asked c ms = 0 := by
  induction ms generalizing s log with
  | nil => rfl
  | cons m ms ih =>
      rw [asked, h.unasked]
      cases hstep : s.step c m with
      | none => rfl
      | some q =>
          have next : Early q.1 (log ++ q.2) := by
            apply early_step h hstep (own m List.mem_cons_self)
            rintro p rfl
            exact first ⟨p, List.mem_cons_self⟩
          have rest : q.1.asked c ms = 0 := by
            apply ih next
            · intro m' mem
              exact own m' (List.mem_cons_of_mem m mem)
            · rintro ⟨p, mem⟩
              exact cancelled_of_step (first ⟨p, List.mem_cons_of_mem m mem⟩) hstep
          simpa using rest

theorem run_proceed {n : Nat} {t : Inquiry α} {es : List (Inquiry.Event α)}
    (h : s.inquiry.run (.replicate n .proceed) = some (t, es)) :
    s.run c (.replicate n (.beside .proceed)) = some ({ s with inquiry := t }, es) := by
  induction n generalizing s es with
  | zero =>
      cases h
      rfl
  | succ n ih =>
      obtain ⟨u, first, rest, hstep, hrun, rfl⟩ := runWith_cons h
      have here : s.step c (.beside .proceed) = some ({ s with inquiry := u }, first) := by
        simp [step, lift, hstep]
      have later : run c { s with inquiry := u } (.replicate n (.beside .proceed)) =
          some ({ s with inquiry := t }, rest) := ih hrun
      have one : s.run c [.beside .proceed] = some ({ s with inquiry := u }, first) :=
        runWith_one here
      exact runWith_append one later

/-- How a call stands that was cancelled before its start. Nothing can be taken, and the only
callback says that the call was cancelled; whatever has happened, it has come once a thread of the
transport has run the task and the report is through. -/
structure TurnedAway (c : Service α) (s : Errand α) (log : List (Inquiry.Event α)) : Prop where
  untaken : winners log = [] ∧ answers log = []
  told : notices log = [] ∨ notices log = [.error cancelledByClient]
  status : s.inquiry.unary.cell.status = none ∨
    s.inquiry.unary.cell.status = some cancelledByClient
  ends : ∀ p, ∃ n t es,
    s.run c (.poll p :: .replicate n (.beside .proceed)) = some (t, es) ∧
      notices (log ++ es) = [.error cancelledByClient] ∧
      t.inquiry.unary.cell.status = some cancelledByClient

theorem Early.untaken (h : Early s log) : winners log = [] ∧ answers log = [] := by
  apply h.offered.untaken
  rcases h.course with ⟨-, reported⟩ | ⟨-, reported⟩ <;> simp [reported]

theorem Early.notices_eq (h : Early s log) :
    notices log = [] ∨ notices log = [.error cancelledByClient] := by
  rw [h.told.notified]
  rcases h.course with ⟨-, reported⟩ | ⟨-, reported⟩ <;> rw [reported]
  · simp
  · cases s.inquiry.report <;> simp

theorem Early.status_eq (h : Early s log) : s.inquiry.unary.cell.status = none ∨
    s.inquiry.unary.cell.status = some cancelledByClient := by
  rw [h.told.status]
  rcases h.course with ⟨-, reported⟩ | ⟨-, reported⟩ <;> rw [reported]
  · simp
  · cases s.inquiry.unrecorded <;> simp [Inquiry.outcome]

theorem Early.finished (h : Early s log) (task : s.task = .done) (idle : s.inquiry.report = none) :
    notices log = [.error cancelledByClient] ∧
      s.inquiry.unary.cell.status = some cancelledByClient := by
  rcases h.course with ⟨fresh, -⟩ | ⟨-, reported⟩
  · simp [task] at fresh
  · rw [h.told.notified, h.told.status, Inquiry.unrecorded, idle, reported]
    exact ⟨rfl, rfl⟩

theorem Early.poll (h : Early s log) (running : s.hasTask = true) (p : Nat) :
    ∃ t es, s.step c (.poll p) = some (t, es) ∧ t.task = .done := by
  simp only [step, running, if_true, Errand.poll]
  rcases h.course with ⟨task, unreported⟩ | ⟨task, -⟩
  · have idle : s.inquiry.report = none := by
      cases under : s.inquiry.report with
      | none => rfl
      | some stage =>
          have first := h.told.first stage.1 stage.2 under
          simp [unreported] at first
    have unoffered : s.inquiry.offer log = none := by
      simp [Inquiry.offer, idle, unreported]
    have live : s.inquiry.unary.cell.terminated = false := by
      simpa [unreported] using h.told.terminated
    rw [run_of_cancelled task (h.begun (started_of_hasTask running))]
    simp [lift, Inquiry.step, Inquiry.free, (h.offered.nothing unoffered).claims, idle,
      Inquiry.act, live]
  · exact ⟨_, _, by rw [task]; rfl, rfl⟩

theorem Early.turnedAway (h : Early s log) (running : s.hasTask = true) :
    TurnedAway c s log := by
  refine ⟨h.untaken, h.notices_eq, h.status_eq, ?_⟩
  intro p
  obtain ⟨t, es, hpoll, finished⟩ := h.poll (c := c) running p
  have polled : Early t (log ++ es) := early_step h hpoll rfl nofun
  obtain ⟨n, u, es', hrun, idle⟩ := Inquiry.run_proceed t.inquiry
  have onward : t.run c (.replicate n (.beside .proceed)) = some ({ t with inquiry := u }, es') :=
    run_proceed hrun
  have reported : Early { t with inquiry := u } (log ++ es ++ es') := by
    refine runWith_invariant_of_mem (P := Early) ?_ onward polled
    intro s before m t es mem hs hstep
    obtain rfl := List.eq_of_mem_replicate mem
    exact early_step hs hstep rfl nofun
  refine ⟨n, { t with inquiry := u }, es ++ es', ?_, ?_⟩
  · have one : s.run c [.poll p] = some (t, es) := runWith_one hpoll
    exact runWith_append one onward
  · rw [← List.append_assoc]
    exact reported.finished finished idle

/-- Before its first start a call is as it was made, but for the request to stop. -/
theorem early_before {id : CallId} {timeout : Option Nat} {ms : List (Move α)}
    (h : (fresh id timeout).run c ms = some (s, log)) (first : ∀ p, .launch p ∉ ms)
    (own : ∀ m ∈ ms, m.completes = false) :
    Early s log ∧ Unstarted timeout s := by
  refine runWith_invariant_of_mem (P := fun s log => Early s log ∧ Unstarted timeout s) ?_ h
    ⟨early_fresh id timeout, rfl, rfl, rfl⟩
  rintro s log m t es mem ⟨early, unstarted⟩ hstep
  have waits : ∀ p, m ≠ .launch p := by
    rintro p rfl
    exact first p mem
  constructor
  · apply early_step early hstep (own m mem)
    intro p launch
    exact absurd launch (waits p)
  · exact unstarted_of_step unstarted hstep (own m mem) waits

theorem cancelled_of_run {ms : List (Move α)} {t : Errand α} {r : Nat}
    (h : s.run c ms = some (t, log)) (cancelled : .beside (.act r .cancel) ∈ ms) :
    t.inquiry.unary.cell.cancelled = true := by
  have asked : ms.any Move.isRequest = true := List.any_eq_true.mpr ⟨_, cancelled, rfl⟩
  rw [flag_of_run h, asked, Bool.or_true]

/-- The first start calls the channel, if a clock can show the deadline. -/
theorem launched_of_step {timeout : Option Nat} {p : Nat} (h : Unstarted timeout s)
    (hq : s.step c (.launch p) = some q) (shown : Loopback.deadline? s.now timeout ≠ none) :
    q.1.hasTask = true ∧ q.2 = [.launched] := by
  rcases launch_cases hq with ⟨deadline, hq⟩ | ⟨-, unshown, -⟩
  · obtain ⟨q', hq', rfl⟩ := Option.map_eq_some_iff.mp hq
    obtain ⟨started, called⟩ := Inquiry.launched_of_start hq' h.first
    exact ⟨by simp [hasTask, started, h.intact], called⟩
  · exact absurd (h.timeout ▸ unshown) shown

theorem overflowed_of_step {timeout : Option Nat} {p : Nat} (h : Unstarted timeout s)
    (hq : s.step c (.launch p) = some q) (unshown : Loopback.deadline? s.now timeout = none) :
    q = (s.overflow, []) := by
  rw [← h.timeout] at unshown
  simp only [step, h.first, Bool.false_eq_true, if_false, unshown] at hq
  exact (Option.some.inj (Option.ite_none_right_eq_some.mp hq).2).symm

/-- What follows the start of a call that was cancelled before. -/
theorem Early.onward {ms : List (Move α)} {t : Errand α} {es : List (Inquiry.Event α)}
    (h : Early s log) (started : s.inquiry.unary.started = true)
    (asked : s.inquiry.unary.cell.cancelled = true) (own : ∀ m ∈ ms, m.completes = false)
    (hrun : s.run c ms = some (t, es)) :
    Early t (log ++ es) ∧ t.inquiry.unary.started = true ∧ t.overflowed = s.overflowed := by
  obtain ⟨early, begun, same, -⟩ : Early t (log ++ es) ∧ t.inquiry.unary.started = true ∧
      t.overflowed = s.overflowed ∧ t.inquiry.unary.cell.cancelled = true := by
    refine runWith_invariant_of_mem
      (P := fun t log => Early t log ∧ t.inquiry.unary.started = true ∧
        t.overflowed = s.overflowed ∧ t.inquiry.unary.cell.cancelled = true) ?_ hrun
      ⟨h, started, rfl, asked⟩
    rintro t log m u es mem ⟨ht, started, same, asked⟩ hstep
    obtain ⟨begun, still⟩ := started_of_step started hstep
    exact ⟨early_step ht hstep (own m mem) fun _ _ => asked, begun, still.trans same,
      cancelled_of_step asked hstep⟩
  exact ⟨early, begun, same⟩

/-- Neither before the start nor from then on is the service of such a call asked. -/
theorem asked_early {id : CallId} {timeout : Option Nat} {before after : List (Move α)} {p : Nat}
    (hbefore : (fresh id timeout).run c before = some (s, log)) (h : Early s log)
    (first : ∀ p, .launch p ∉ before) (cancelled : s.inquiry.unary.cell.cancelled = true)
    (own : ∀ m ∈ before ++ after, m.completes = false) :
    (fresh id timeout).asked c (before ++ .launch p :: after) = 0 := by
  have none_before : (fresh id timeout).asked c before = 0 := by
    apply (early_fresh id timeout).never_asked
    · intro m mem
      exact own m (List.mem_append_left _ mem)
    · rintro ⟨p, mem⟩
      exact absurd mem (first p)
  have none_after : s.asked c (.launch p :: after) = 0 := by
    apply h.never_asked
    · intro m mem
      rcases List.mem_cons.mp mem with rfl | mem
      · rfl
      · exact own m (List.mem_append_right _ mem)
    · intro _
      exact cancelled
  rw [asked_append hbefore, none_before, none_after]

/-- A run in which the call is cancelled before it is started. -/
theorem early_of_run {id : CallId} {timeout : Option Nat} {before after : List (Move α)} {p r : Nat}
    {s₀ : Errand α} {log₀ : List (Inquiry.Event α)}
    (hbefore : (fresh id timeout).run c before = some (s₀, log₀))
    (h : (fresh id timeout).run c (before ++ .launch p :: after) = some (s, log))
    (first : ∀ p, .launch p ∉ before) (cancelled : .beside (.act r .cancel) ∈ before)
    (own : ∀ m ∈ before ++ after, m.completes = false) :
    Early s log ∧ Unstarted timeout s₀ ∧
      (fresh id timeout).asked c (before ++ .launch p :: after) = 0 ∧
      ∃ s₁ es log₁, s₀.step c (.launch p) = some (s₁, es) ∧ log = log₀ ++ (es ++ log₁) ∧
        s.inquiry.unary.started = true ∧ s.overflowed = s₁.overflowed := by
  obtain ⟨s₀', log₀', rest, hbefore', hrest, rfl⟩ := runWith_split h
  obtain ⟨rfl, rfl⟩ := Prod.mk.inj (Option.some.inj (hbefore.symm.trans hbefore'))
  obtain ⟨s₁, es, log₁, hstart, hafter, rfl⟩ := runWith_cons hrest
  have asked : s₀.inquiry.unary.cell.cancelled = true := cancelled_of_run hbefore cancelled
  obtain ⟨early, unstarted⟩ := early_before hbefore first fun m mem =>
    own m (List.mem_append_left _ mem)
  have early₁ : Early s₁ (log₀ ++ es) := early_step early hstart rfl fun _ _ => asked
  obtain ⟨last, begun, same⟩ := early₁.onward (started_of_launch hstart)
    (cancelled_of_step asked hstart) (fun m mem => own m (List.mem_append_right _ mem)) hafter
  refine ⟨?_, unstarted, asked_early hbefore early first asked own, s₁, es, log₁, hstart, rfl,
    begun, same⟩
  rw [← List.append_assoc]
  exact last

/-- A call without a task is told of nothing. -/
theorem Early.untold (h : Early s log) (idle : s.hasTask = false) :
    notices log = [] ∧ s.inquiry.unary.cell.status = none := by
  have fresh := h.idle idle
  rcases h.course with ⟨-, unreported⟩ | ⟨task, -⟩
  · simp [h.told.notified, h.told.status, unreported]
  · simp [fresh] at task

end Errand

end CallBridge
