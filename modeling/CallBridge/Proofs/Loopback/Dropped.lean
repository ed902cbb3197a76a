import CallBridge.Proofs.Loopback.HeldLink
import CallBridge.Script.Background

/-!
# Calls that everybody has dropped

When the last reference to a call goes, the call asks to be stopped. For a stream this happens as
soon as nobody outside the transport has a reference, and no report is under way: the task has none.
The task of a unary call has one of its own, from the start of the call until its report is over. So
as long as such a call runs it cannot go, whoever drops it, and nothing asks it to stop: it waits
out its latency, asks its service and reports to nobody.

That a dropped unary call runs on is shown by taking the references away from a run. What is left is
a run of the call alone (`errands_run`), in which only a request raises the flag.
-/

namespace CallBridge

/-! ## What the task of a unary call comes to -/

namespace Loopback

variable {α : Type} {v : View}

theorem stop_of_uncancelled (h : v.cancelled = false) {status : Status}
    (stop : v.stop? = some status) : status = deadlineExceeded := by
  simp only [View.stop?, h, Bool.false_eq_true, if_false] at stop
  cases deadline : v.deadline with
  | none => simp [deadline] at stop
  | some d =>
      simp only [deadline, Option.ite_none_right_eq_some, Option.some.injEq] at stop
      exact stop.2.symm

/-- A call that nobody has asked to stop comes to what its service answers, unless it is late. -/
theorem UnaryTask.outcome_of_uncancelled (h : v.cancelled = false) {task : UnaryTask}
    {latency : Nat} {serve r : Except Status α} (outcome : (task.run v latency serve).2 = some r) :
    r = serve ∨ r = .error deadlineExceeded := by
  have wait (wake : Nat) (outcome : (run.wait v serve wake).2 = some r) :
      r = serve ∨ r = .error deadlineExceeded := by
    cases stop : v.stop? with
    | some status =>
        simp only [run.wait, stop, Option.some.injEq] at outcome
        exact .inr (outcome ▸ congrArg Except.error (stop_of_uncancelled h stop))
    | none =>
        simp only [run.wait, stop] at outcome
        split at outcome
        · exact .inl (Option.some.inj outcome).symm
        · cases outcome
  cases task with
  | done => cases outcome
  | fresh => exact wait _ outcome
  | pausing wake => exact wait wake outcome

end Loopback

/-! ## Unary calls -/

/-- A unary call with its task, and those who hold the call. -/
structure HeldErrand (α : Type) where
  errand : Errand α
  /-- Everybody who has a reference, except for the transport and the operations under way. -/
  holders : List Holder := [.name]
  gone : Bool := false

namespace HeldErrand

open Errand (Service Reported)
open Inquiry (reports)

variable {α : Type}

def fresh (id : CallId) (timeout : Option Nat) : HeldErrand α := { errand := .fresh id timeout }

inductive Move (α : Type) where
  | hold (m : Holder.Move)
  | errand (m : Errand.Move α)
  | vanish

def cancelled (s : HeldErrand α) : Bool := s.errand.inquiry.unary.cell.cancelled

/-- The task has come to its report, in which others are lent its reference. -/
def reporting (s : HeldErrand α) : Bool := s.errand.task matches .done

/-- The task has a reference of its own, or a completion is under way, which has one. -/
def kept (s : HeldErrand α) : Bool :=
  s.errand.hasTask && !s.reporting || s.errand.inquiry.report.isSome

def running (s : HeldErrand α) : Bool :=
  s.errand.hasTask && !s.errand.inquiry.unary.cell.terminated

def begins : Errand.Move α → Bool
  | .launch _ | .beside (.act _ .take) | .beside (.act _ .cancel)
  | .beside (.act _ (.complete _)) => true
  | _ => false

def cancel (s : HeldErrand α) : HeldErrand α :=
  { s with errand := { s.errand with inquiry :=
      { s.errand.inquiry with unary := s.errand.inquiry.unary.cancel.state } } }

def step (c : Service α) (s : HeldErrand α) :
    Move α → Option (HeldErrand α × List (Inquiry.Event α))
  | .hold m =>
    if s.gone then none
    else (Holder.step s.reporting s.holders m).map fun hs => ({ s with holders := hs }, [])
  | .errand m =>
    if s.gone || begins m && s.holders.isEmpty && !s.reporting then none
    else (s.errand.step c m).map fun q => ({ s with errand := q.1 }, q.2)
  | .vanish =>
    if s.gone || !s.holders.isEmpty || s.kept then none
    else some ({ s.cancel with gone := true }, [])

def run (c : Service α) (s : HeldErrand α) (ms : List (Move α)) :
    Option (HeldErrand α × List (Inquiry.Event α)) :=
  runWith (step c) s ms

variable {c : Service α} {s t : HeldErrand α} {m : Move α}

/-- What is not done to references. -/
def errands (ms : List (Move α)) : List (Errand.Move α) :=
  ms.filterMap fun | .errand m => some m | _ => none

theorem step_of_gone (gone : s.gone = true) (m : Move α) : s.step c m = none := by
  cases m <;> simp [step, gone]

inductive Moved (c : Service α) (s : HeldErrand α) :
    Move α → HeldErrand α × List (Inquiry.Event α) → Prop where
  | held (m : Holder.Move) (hs : List Holder) (there : s.gone = false) :
      Moved c s (.hold m) ({ s with holders := hs }, [])
  | acted (m : Errand.Move α) {q : Errand α × List (Inquiry.Event α)} (there : s.gone = false)
      (moved : s.errand.step c m = some q) : Moved c s (.errand m) ({ s with errand := q.1 }, q.2)
  | vanished (loose : s.kept = false) : Moved c s .vanish ({ s.cancel with gone := true }, [])

theorem moved_of_step {q : HeldErrand α × List (Inquiry.Event α)} (h : s.step c m = some q) :
    Moved c s m q := by
  have there : s.gone = false := by
    cases gone : s.gone with
    | false => rfl
    | true => simp [step_of_gone gone] at h
  cases m with
  | hold m =>
      obtain ⟨-, h⟩ := Option.ite_none_left_eq_some.mp h
      obtain ⟨hs, -, rfl⟩ := Option.map_eq_some_iff.mp h
      exact .held m hs there
  | errand m =>
      obtain ⟨-, h⟩ := Option.ite_none_left_eq_some.mp h
      obtain ⟨x, hx, rfl⟩ := Option.map_eq_some_iff.mp h
      exact .acted m there hx
  | vanish =>
      obtain ⟨fits, h⟩ := Option.ite_none_left_eq_some.mp h
      obtain rfl := Option.some.inj h
      rw [Bool.or_eq_true, not_or] at fits
      exact .vanished (by simpa using fits.2)

theorem gone_of_step {q : HeldErrand α × List (Inquiry.Event α)} (h : s.step c m = some q)
    (gone : q.1.gone = true) : q.1.kept = false := by
  cases moved_of_step h with
  | held m hs there => exact absurd gone (by simp [there])
  | acted m there => exact absurd gone (by simp [there])
  | vanished loose => exact loose

/-- Nothing happens to a call that is gone. -/
theorem run_of_gone (gone : s.gone = true) {ms : List (Move α)} {log : List (Inquiry.Event α)}
    (h : s.run c ms = some (t, log)) : t = s := by
  cases ms with
  | nil =>
      cases h
      rfl
  | cons m ms =>
      rw [run, runWith_of_stuck (step_of_gone gone m)] at h
      cases h

/-- References leave no trace in a call that is there. -/
theorem errands_run {ms : List (Move α)} {log : List (Inquiry.Event α)}
    (h : s.run c ms = some (t, log)) (there : t.gone = false) :
    s.errand.run c (errands ms) = some (t.errand, log) := by
  induction ms generalizing s log with
  | nil =>
      cases h
      rfl
  | cons m ms ih =>
      obtain ⟨u, es, rest, hstep, hrun, rfl⟩ := runWith_cons h
      have later : runWith (Errand.step c) u.errand (errands ms) = some (t.errand, rest) := ih hrun
      cases moved_of_step hstep with
      | held m hs => exact later
      | acted m _ moved =>
          have first : errands (.errand m :: ms) = m :: errands ms := rfl
          rw [first, Errand.run, runWith_of_step moved, later]
          rfl
      | vanished =>
          rw [run_of_gone rfl hrun] at there
          cases there

/-- What the call was told does not depend on who holds it. -/
theorem reported_step {log : List (Inquiry.Event α)} {q : HeldErrand α × List (Inquiry.Event α)}
    (h : Reported s.errand log) (hstep : s.step c m = some q) :
    Reported q.1.errand (log ++ q.2) := by
  cases moved_of_step hstep with
  | held m hs =>
      rw [List.append_nil]
      exact h
  | acted m _ moved => exact Errand.reported_moved h (Errand.moved_of_step moved)
  | vanished =>
      have asked : Errand.Moved s.errand (s.cancel.errand, []) := .called .cancelled rfl rfl .inl
      exact Errand.reported_moved h asked

/-- A call that is not completed has its task or a completion to keep it. -/
theorem kept_of_running {log : List (Inquiry.Event α)} (h : Reported s.errand log)
    (running : s.running = true) : s.kept = true := by
  obtain ⟨task, live⟩ := Bool.and_eq_true_iff.mp running
  have pending : s.errand.inquiry.unary.cell.terminated = false := by simpa using live
  rw [kept, task, Bool.true_and, Bool.or_eq_true]
  cases task : s.errand.task with
  | done =>
      right
      have told := h.told.terminated
      have reported : reports log ≠ [] := h.reported task
      simpa [pending, reported, Option.ne_none_iff_isSome] using told
  | fresh | pausing =>
      left
      simp [reporting, task]

theorem there_of_run {id : CallId} {timeout : Option Nat} {ms : List (Move α)}
    {log : List (Inquiry.Event α)} (h : (fresh id timeout).run c ms = some (s, log))
    (running : s.running = true) : s.gone = false := by
  have start : Reported (fresh id timeout : HeldErrand α).errand [] :=
    ⟨⟨nofun, rfl, rfl, rfl⟩, nofun⟩
  have reported : Reported s.errand ([] ++ log) :=
    runWith_invariant (P := fun s log => Reported s.errand log) reported_step h start
  have loose : s.gone = true → s.kept = false :=
    runWith_keeps (P := fun s => s.gone = true → s.kept = false)
      (fun _ hstep => gone_of_step hstep) h nofun
  cases gone : s.gone with
  | false => rfl
  | true => exact absurd (kept_of_running reported running) (by simp [loose gone])

end HeldErrand

/-! ## Scripts

In a script, who refers to a call is looked up in what there is. -/

namespace Script.World

variable (w : World) {t : Task}

/-- Anything but a task refers to the call: code that runs, a name, a register or an event. -/
def heldOutside (id : CallId) : Bool :=
  w.pins.contains id ||
    (w.callNames.values.any fun h => h.call == id) ||
    (w.knownRegisters.any fun r => r.liveCalls.contains id) ||
    (w.knownPayloads.any fun p => p.call? == some id)

theorem holds_eq (id : CallId) : w.holds id = (w.heldOutside id || w.servesUnary id) := rfl

/-- The task of a stream that was dropped ends when it is run. -/
theorem run_dropped_stream (dropped : w.heldOutside t.call = false)
    (streams : w.servesUnary t.call = false) {state : Loopback.StreamTask Datum}
    (going : state ≠ .done) (undecided : state ≠ .closing) (lane : Nat)
    (outcome : Except Status (List Datum)) :
    state.run (w.taskView t) (w.laneReads lane) t.latency outcome =
      (.done, some (.finish Loopback.cancelledByClient)) := by
  have asked : (w.taskView t).cancelled = true := by
    simp only [taskView, isCancelled, holds_eq, dropped, streams]
    split <;> simp
  have stop : (w.taskView t).stop? = some Loopback.cancelledByClient := by
    simp [Loopback.View.stop?, asked]
  rw [Loopback.StreamTask.run_turn, Loopback.StreamTask.turn_of_stop stop going undecided]

/-- The task of a unary call refers to it, so that dropping the call does not stop it. -/
theorem run_dropped_unary {i : Nat} (there : w.tasks.find? i = some t)
    {state : Loopback.UnaryTask} {outcome r : Except Status Datum}
    (serving : t.serving = .unary state outcome) (going : state ≠ .done) {m : Member}
    (known : w.call? t.call = some m) (unasked : m.body.cell.cancelled = false)
    (answer : (state.run (w.taskView t) t.latency outcome).2 = some r) :
    r = outcome ∨ r = .error Loopback.deadlineExceeded := by
  have serves : w.servesUnary t.call = true := by
    refine List.any_eq_true.mpr ⟨t, Table.mem_values_of_find? there, ?_⟩
    cases state <;> simp_all [Serving.isOver]
  have view : (w.taskView t).cancelled = false := by
    simp [taskView, isCancelled, known, unasked, holds_eq, serves]
  exact Loopback.UnaryTask.outcome_of_uncancelled view answer

end Script.World

namespace Loopback

variable {α : Type}

/-- What becomes of a call that everybody has dropped, whatever the service is and whoever has held
the call before. A stream to which nobody has a reference was asked to stop. It stays so, nothing
more is seen of it, and the next time that its task is run, it ends: as cancelled by the client,
unless the task had come to its end before, or had an answer that it could not give to anybody. A
unary call on its way is not asked to stop by being dropped. Its flag has been raised only if there
was a request, everything that happens to it happens as if nobody had dropped it, and without a
request it comes to what its service answers, or is late. -/
theorem cancelled_if_dropped_unless_unary (id : CallId) (timeout : Option Nat) :
    (∀ (c : Link.Service α) (ms : List (HeldLink.Move α)) (s : HeldLink α)
        (log : List (HeldLink.Event α)),
      (HeldLink.fresh id timeout).run c ms = some (s, log) →
      s.holders = [] → s.lent = false → s.underway = false →
        s.cancelled = true ∧
        (s.due = none → s.link.task ≠ .closing → s.verdict = cancelledByClient) ∧
        (∀ ms' t log', s.run c ms' = some (t, log') →
          t.cancelled = true ∧ t.holders = [] ∧ (log' = [] ∨ log' = [.dropped s.verdict])) ∧
        (s.link.hasTask = true → ¬s.finished →
          ∀ p, ∃ t, s.run c (s.lastTurns p) = some (t, [.dropped s.verdict]) ∧ t.finished)) ∧
    (∀ (c : Errand.Service α) (ms : List (HeldErrand.Move α)) (s : HeldErrand α)
        (log : List (Inquiry.Event α)),
      (HeldErrand.fresh id timeout).run c ms = some (s, log) → s.running = true →
        s.gone = false ∧
        (Errand.fresh id timeout).run c (HeldErrand.errands ms) = some (s.errand, log) ∧
        s.cancelled = (HeldErrand.errands ms).any Errand.Move.isRequest ∧
        (s.cancelled = false → ∀ r,
          (s.errand.task.run s.errand.view c.latency c.serve).2 = some r →
            r = c.serve ∨ r = .error deadlineExceeded)) := by
  constructor
  · intro c ms s log h empty alone idle
    have sound : s.Sound := HeldLink.sound_run h
    have gone : s.gone = true := sound.gone.trans (HeldLink.unheld_iff.mpr ⟨empty, alone, idle⟩)
    refine ⟨sound.cancelled gone, ?_, ?_, ?_⟩
    · intro idle undecided
      exact HeldLink.verdict_of_undecided idle undecided
    · intro ms' t log' later
      obtain ⟨sound', gone', course⟩ := HeldLink.gone_run sound gone later
      refine ⟨sound'.cancelled gone', ?_, ?_⟩
      · exact (HeldLink.unheld_iff.mp (sound'.gone.symm.trans gone')).1
      · cases course with
        | going verdict => exact .inl rfl
        | ended finished => exact .inr rfl
    · intro running unfinished p
      exact HeldLink.lastTurns_run sound gone running unfinished p
  · intro c ms s log h running
    have there : s.gone = false := HeldErrand.there_of_run h running
    have alone := HeldErrand.errands_run h there
    have asked := Errand.flag_of_run alone
    refine ⟨there, alone, asked, ?_⟩
    intro unasked r outcome
    exact UnaryTask.outcome_of_uncancelled unasked outcome

/-- A register takes the call over from the application and releases it while the task waits out
its latency. -/
def forsakenStream : List (HeldLink.Move Nat) :=
  [.act (.link .launch), .act (.link (.beside (.attach 0))), .act (.link (.poll 7)),
    .act (.link (.poll 7)), .hold (.pass .name .entry), .hold (.drop .entry)]

/-- The call goes through the queue of an event loop, and its event is the last to hold it. -/
def forsakenCall : List (HeldErrand.Move Nat) :=
  [.errand (.launch 0), .errand (.beside (.act 0 .back)), .hold (.copy .queued),
    .errand (.poll 7), .hold (.drop .name), .hold (.pass .queued .handled), .hold (.drop .handled)]

theorem cancelled_if_dropped_unless_unary_forsaken : ∃ s log t u log',
    (HeldLink.fresh ⟨1⟩ none).run ⟨50, .ok [1, 2]⟩ forsakenStream = some (s, log) ∧
      s.cancelled = true ∧ s.verdict = cancelledByClient ∧
      s.run ⟨50, .ok [1, 2]⟩ (s.lastTurns 8) = some (t, [.dropped cancelledByClient]) ∧
    (HeldErrand.fresh ⟨1⟩ none).run ⟨50, .ok 7⟩ forsakenCall = some (u, log') ∧
      u.holders = [] ∧ u.running = true ∧ u.cancelled = false := by
  obtain ⟨stream, unary⟩ := cancelled_if_dropped_unless_unary (α := Nat) ⟨1⟩ none
  have link : (HeldLink.fresh ⟨1⟩ none).run ⟨50, .ok [1, 2]⟩ forsakenStream = some (_, _) := rfl
  have call : (HeldErrand.fresh ⟨1⟩ none).run ⟨50, .ok 7⟩ forsakenCall = some (_, _) := rfl
  obtain ⟨asked, verdict, -, ends⟩ := stream _ _ _ _ link rfl rfl rfl
  obtain ⟨t, last, -⟩ := ends rfl (fun finished => nomatch finished.1) 8
  obtain ⟨-, -, unasked, -⟩ := unary _ _ _ _ call rfl
  exact ⟨_, _, t, _, _, link, asked, verdict rfl nofun, last, call, rfl, rfl, unasked⟩

/-- A unary call runs on after everybody has dropped it, and is completed. -/
theorem dropped_call_completes : ∃ s log t log',
    (HeldErrand.fresh ⟨1⟩ none).run ⟨50, .ok 7⟩ forsakenCall = some (s, log) ∧
      s.holders = [] ∧ s.running = true ∧ s.cancelled = false ∧
      s.run ⟨50, .ok 7⟩ [.errand (.tick 50), .errand (.poll 8), .errand (.beside .proceed),
        .errand (.beside .proceed), .errand (.beside .proceed)] = some (t, log') ∧
      t.cancelled = false ∧ t.errand.inquiry.unary.cell.status = some .success ∧
      Inquiry.notices log' = [.ok 7] :=
  ⟨_, _, _, _, rfl, rfl, rfl, rfl, rfl, rfl, rfl, rfl⟩

end Loopback

end CallBridge
