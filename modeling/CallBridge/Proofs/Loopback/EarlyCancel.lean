import CallBridge.Proofs.Loopback.EarlyErrand
import CallBridge.Proofs.Loopback.EarlyLink
import CallBridge.Script.Run

/-!
# Calls that are cancelled before their start

A call that was cancelled before it is started is started all the same: the channel is called, and
the call has a task. But the task looks at the cancellation before it looks at anything else, so the
first turn that it takes is its last, and it ends the call without having asked the service. When
it takes that turn makes no difference: before the start has its lane, between its parts, or long
after.

There is no task, and so no end, if the start breaks off because no clock can show the deadline, and
if the transport has gone.
-/

namespace CallBridge

namespace Loopback

variable {α : Type}

/-- A call that was asked to stop before it was started. Whatever the service is, however long the
latency and the timeout are, and in whatever order the task, the rest of the start and everybody
else go on: the start is not refused, the service is not asked, no take finds anything, and the only
callback is the end of the call, which says that the client has cancelled it. Nobody but the
transport completes the call, and a clock can show the moment at which the timeout is over. -/
theorem unserved_if_cancelled_before_start (id : CallId) (timeout : Option Nat) :
    (∀ (c : Errand.Service α) (before after : List (Errand.Move α)) (p r : Nat) (s₀ s : Errand α)
        (log₀ log : List (Inquiry.Event α)),
      (Errand.fresh id timeout).run c before = some (s₀, log₀) →
      (Errand.fresh id timeout).run c (before ++ .launch p :: after) = some (s, log) →
      (∀ p, .launch p ∉ before) → .beside (.act r .cancel) ∈ before →
      (∀ m ∈ before ++ after, m.completes = false) → deadline? s₀.now timeout ≠ none →
        (∃ log₁, log = log₀ ++ .launched :: log₁) ∧
        (Errand.fresh id timeout).asked c (before ++ .launch p :: after) = 0 ∧
        s.TurnedAway c log) ∧
    (∀ (c : Link.Service α) (before after : List (Link.Move α)) (s₀ s : Link α)
        (log₀ log : List (Exchange.Event α)),
      (Link.fresh id timeout).run c before = some (s₀, log₀) →
      (Link.fresh id timeout).run c (before ++ .launch :: after) = some (s, log) →
      .launch ∉ before → .beside .cancel ∈ before → deadline? s₀.now timeout ≠ none →
        (∃ log₁, log = log₀ ++ .launched :: log₁) ∧
        s.TurnedAway c log) := by
  constructor
  · intro c before after p r s₀ s log₀ log hbefore h first cancelled own shown
    obtain ⟨early, unstarted, unasked, s₁, es, log₁, hstart, rfl, started, same⟩ :=
      Errand.early_of_run hbefore h first cancelled own
    obtain ⟨running, rfl⟩ := Errand.launched_of_step unstarted hstart shown
    refine ⟨⟨log₁, rfl⟩, unasked, early.turnedAway ?_⟩
    rw [Errand.hasTask, started, same, (Bool.and_eq_true_iff.mp running).2, Bool.and_self]
  · intro c before after s₀ s log₀ log hbefore h first cancelled shown
    obtain ⟨early, unstarted, s₁, es, log₁, hlaunch, rfl, started, same⟩ :=
      Link.early_of_run hbefore h first cancelled
    obtain ⟨running, rfl⟩ := Link.launched_of_step unstarted hlaunch shown
    refine ⟨⟨log₁, rfl⟩, early.turnedAway ?_⟩
    rw [Link.hasTask, started, same, (Bool.and_eq_true_iff.mp running).2, Bool.and_self]

/-- The unary call is cancelled by one thread and started by another; its task runs while the
channel has not returned, and a take comes between the report and its callback. -/
def hastyCall : List (Errand.Move Nat) :=
  [.poll 7, .beside .proceed, .beside (.act 3 .take), .beside .proceed, .beside (.act 7 .back),
    .tick 5, .poll 8, .beside (.act 0 .back)]

/-- The task of the stream runs before the channel has returned with its lane. -/
def hastyStream : List (Link.Move Nat) :=
  [.poll 7, .beside (.claim 3), .beside (.attach 0), .back, .tick 5, .poll 8]

theorem unserved_if_cancelled_before_start_hasty : ∃ s log t log',
    (Errand.fresh ⟨1⟩ (some 9)).run ⟨4, .error ⟨.internal, ""⟩⟩
        ([.tick 2, .beside (.act 3 .cancel)] ++ .launch 0 :: hastyCall) = some (s, log) ∧
      Errand.TurnedAway ⟨4, .error ⟨.internal, ""⟩⟩ s log ∧
      Inquiry.notices log = [.error cancelledByClient] ∧
    (Link.fresh ⟨1⟩ (some 9)).run ⟨4, .ok [1, 2]⟩
        ([.beside (.claim 3), .beside .cancel] ++ .launch :: hastyStream) = some (t, log') ∧
      Link.TurnedAway ⟨4, .ok [1, 2]⟩ t log' ∧
      Exchange.callbacks log' = [.ended cancelledByClient] := by
  obtain ⟨unary, stream⟩ := unserved_if_cancelled_before_start (α := Nat) ⟨1⟩ (some 9)
  have call : (Errand.fresh ⟨1⟩ (some 9)).run ⟨4, .error ⟨.internal, ""⟩⟩
      ([.tick 2, .beside (.act 3 .cancel)] ++ .launch 0 :: hastyCall) = some (_, _) := rfl
  have link : (Link.fresh ⟨1⟩ (some 9)).run ⟨4, .ok [1, 2]⟩
      ([.beside (.claim 3), .beside .cancel] ++ .launch :: hastyStream) = some (_, _) := rfl
  obtain ⟨-, -, away⟩ := unary _ _ _ _ 3 _ _ _ _ rfl call (by simp) (by simp) (by decide) nofun
  obtain ⟨-, away'⟩ := stream _ _ _ _ _ _ _ rfl link (by simp) (by simp) nofun
  exact ⟨_, _, _, _, call, away, rfl, link, away', rfl⟩

/-- A call whose start breaks off is told of nothing, in spite of the request to stop. -/
theorem untold_if_overflowed (id : CallId) (timeout : Option Nat) :
    (∀ {c : Errand.Service α} {before after : List (Errand.Move α)} {p r : Nat} {s₀ s : Errand α}
        {log₀ log : List (Inquiry.Event α)},
      (Errand.fresh id timeout).run c before = some (s₀, log₀) →
      (Errand.fresh id timeout).run c (before ++ .launch p :: after) = some (s, log) →
      (∀ p, .launch p ∉ before) → .beside (.act r .cancel) ∈ before →
      (∀ m ∈ before ++ after, m.completes = false) → deadline? s₀.now timeout = none →
        s.overflowed = true ∧ s.inquiry.unary.started = true ∧
        Inquiry.notices log = [] ∧ s.inquiry.unary.cell.status = none) ∧
    (∀ {c : Link.Service α} {before after : List (Link.Move α)} {s₀ s : Link α}
        {log₀ log : List (Exchange.Event α)},
      (Link.fresh id timeout).run c before = some (s₀, log₀) →
      (Link.fresh id timeout).run c (before ++ .launch :: after) = some (s, log) →
      .launch ∉ before → .beside .cancel ∈ before → deadline? s₀.now timeout = none →
        s.overflowed = true ∧ s.exchange.stream.started = true ∧
        Exchange.callbacks log = [] ∧ s.exchange.stream.cell.status = none) := by
  constructor
  · intro c before after p r s₀ s log₀ log hbefore h first cancelled own unshown
    obtain ⟨early, unstarted, -, s₁, es, log₁, hstart, -, started, same⟩ :=
      Errand.early_of_run hbefore h first cancelled own
    obtain ⟨rfl, -⟩ := Prod.mk.inj (Errand.overflowed_of_step unstarted hstart unshown)
    have overflowed : s.overflowed = true := same
    exact ⟨overflowed, started, early.untold (by simp [Errand.hasTask, overflowed])⟩
  · intro c before after s₀ s log₀ log hbefore h first cancelled unshown
    obtain ⟨early, unstarted, s₁, es, log₁, hlaunch, -, started, same⟩ :=
      Link.early_of_run hbefore h first cancelled
    obtain ⟨rfl, -⟩ := Prod.mk.inj (Link.overflowed_of_step unstarted hlaunch unshown)
    have overflowed : s.overflowed = true := same
    exact ⟨overflowed, started, early.untold (by simp [Link.hasTask, overflowed])⟩

/-- A transport that goes between the request to stop and the start. -/
def lateStart : List (Script.Step × Script.Watch) :=
  [(.newTransport "m" {}, {}), (.serveUnary "f" "m" .echo none, {}), (.newUnary "u" [] none, {}),
    (.cancel "u", {}), (.dropTransport "m", {}), (.start "u" "f" .null, { call := some "u" })]

/-- A call that is cancelled before its start may be left without an end: its start breaks off over
its timeout, or the transport has gone. -/
theorem cancelled_call_unended :
    ((∃ s log, (Errand.fresh ⟨1⟩ (some (lastMoment + 1))).run ⟨0, .ok 7⟩
        ([.beside (.act 3 .cancel)] ++ .launch 0 :: []) = some (s, log) ∧
        s.inquiry.unary.started = true) ∧
      ∀ after s log, (∀ m ∈ after, m.completes = false) →
        (Errand.fresh ⟨1⟩ (some (lastMoment + 1))).run ⟨0, .ok 7⟩
          ([.beside (.act 3 .cancel)] ++ .launch 0 :: after) = some (s, log) →
        Inquiry.notices log = [] ∧ s.inquiry.unary.cell.status = none) ∧
    ((∃ s log, (Link.fresh ⟨1⟩ (some (lastMoment + 1))).run ⟨0, .ok [7]⟩
        ([.beside .cancel] ++ .launch :: []) = some (s, log) ∧
        s.exchange.stream.started = true) ∧
      ∀ after s log,
        (Link.fresh ⟨1⟩ (some (lastMoment + 1))).run ⟨0, .ok [7]⟩
          ([.beside .cancel] ++ .launch :: after) = some (s, log) →
        Exchange.callbacks log = [] ∧ s.exchange.stream.cell.status = none) ∧
    (Script.run none lateStart).getLast?.map (fun a =>
        (a.answer.result matches .reply .okay, a.background.isEmpty,
          (a.call.getD none).map Script.Snapshot.status)) =
      some (true, true, some none) := by
  obtain ⟨unary, stream⟩ := untold_if_overflowed (α := Nat) ⟨1⟩ (some (lastMoment + 1))
  have unshown : deadline? 0 (some (lastMoment + 1)) = none := by simp [deadline?]
  refine ⟨⟨⟨_, _, rfl, rfl⟩, ?_⟩, ⟨⟨_, _, rfl, rfl⟩, ?_⟩, by decide +kernel⟩
  · intro after s log own h
    have before : (Errand.fresh ⟨1⟩ (some (lastMoment + 1))).run ⟨0, .ok 7⟩
        [.beside (.act 3 .cancel)] = some (_, _) := rfl
    have mine : ∀ m ∈ [.beside (.act 3 .cancel)] ++ after, Errand.Move.completes m = false :=
      List.forall_mem_cons.mpr ⟨rfl, own⟩
    exact (unary before h (by simp) (List.mem_singleton_self _) mine unshown).2.2
  · intro after s log h
    have before : (Link.fresh ⟨1⟩ (some (lastMoment + 1))).run ⟨0, .ok [7]⟩
        [.beside .cancel] = some (_, _) := rfl
    exact (stream before h (by simp) (List.mem_singleton_self _) unshown).2.2

end Loopback

end CallBridge
