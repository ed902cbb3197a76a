import CallBridge.Loopback
import CallBridge.Proofs.Calls.Flags
import CallBridge.Proofs.Unary.SingleShot

/-!
# Errands: a unary call and the task that runs it

An errand is a unary call together with its task of the loopback transport. The task waits out the
latency, asks its service and reports once; cancellation and the deadline make it report earlier.
Everything else that can happen to the call goes on around it, further completions included, and the
code that a completion calls may break off.

The report is the last thing that the task does, so nothing that the callback of the completion does
can keep the call from its status (`notified_of_run`).
-/

namespace CallBridge

namespace Errand

structure Service (α : Type) where
  latency : Nat
  serve : Except Status α

inductive Move (α : Type) where
  | launch (thread : Nat)
  | poll (thread : Nat)
  | tick (n : Nat)
  | beside (m : Inquiry.Move α)

end Errand

/-- A unary call and its task. -/
structure Errand (α : Type) where
  inquiry : Inquiry α
  task : Loopback.UnaryTask := .fresh
  now : Nat := 0
  deadline : Option Nat := none
  /-- The start has broken off over a deadline that no clock can show. -/
  overflowed : Bool := false

namespace Errand

open Loopback (UnaryTask View)
open Inquiry (Told outcome reports notices)

variable {α : Type}

def fresh (id : CallId) (timeout : Option Nat) : Errand α := { inquiry := .fresh id timeout }

def view (s : Errand α) : View where
  now := s.now
  cancelled := s.inquiry.unary.cell.cancelled
  deadline := s.deadline

/-- The start has handed the call to the channel, upon which the task exists. -/
def hasTask (s : Errand α) : Bool := s.inquiry.unary.started && !s.overflowed

/-- The start breaks off before it has come to the channel. -/
def overflow (s : Errand α) : Errand α :=
  { s with
    inquiry := { s.inquiry with unary := s.inquiry.unary.overflow }
    overflowed := true }

def lift (s : Errand α) (m : Inquiry.Move α) : Option (Errand α × List (Inquiry.Event α)) :=
  (s.inquiry.step m).map fun q => ({ s with inquiry := q.1 }, q.2)

/-- Run the task; its outcome is the completion of the call. -/
def poll (c : Service α) (s : Errand α) (thread : Nat) :
    Option (Errand α × List (Inquiry.Event α)) :=
  let o := s.task.run s.view c.latency c.serve
  match o.2 with
  | none => some ({ s with task := o.1 }, [])
  | some r => { s with task := o.1 }.lift (.act thread (.complete r))

def step (c : Service α) (s : Errand α) : Move α → Option (Errand α × List (Inquiry.Event α))
  | .launch thread =>
    if s.inquiry.unary.started then s.lift (.act thread .start)
    else
      match Loopback.deadline? s.now s.inquiry.unary.timeout with
      | some deadline => { s with deadline }.lift (.act thread .start)
      | none => if s.inquiry.free thread then some (s.overflow, []) else none
  | .poll thread => if s.hasTask then s.poll c thread else none
  | .tick n => some ({ s with now := s.now + n }, [])
  | .beside m => if m matches .act _ .start then none else s.lift m

def run (c : Service α) (s : Errand α) (ms : List (Move α)) :
    Option (Errand α × List (Inquiry.Event α)) :=
  runWith (step c) s ms

/-! ## What a move can come to -/

theorem wait_done {wake : Nat} {v : View} {serve : Except Status α}
    (finished : (UnaryTask.run.wait v serve wake).1 = .done) :
    ∃ r, (UnaryTask.run.wait v serve wake).2 = some r := by
  cases stop : v.stop? with
  | some status => exact ⟨.error status, by simp [UnaryTask.run.wait, stop]⟩
  | none =>
      by_cases passed : wake ≤ v.now
      · exact ⟨serve, by simp [UnaryTask.run.wait, stop, passed]⟩
      · simp [UnaryTask.run.wait, stop, passed] at finished

theorem run_done {t : UnaryTask} {v : View} {latency : Nat} {serve : Except Status α}
    (finished : (t.run v latency serve).1 = .done) :
    t = .done ∨ ∃ r, (t.run v latency serve).2 = some r := by
  cases t with
  | done => exact .inl rfl
  | fresh | pausing wake => exact .inr (wait_done finished)

/-- A start calls the channel or is refused, unless no clock can show the deadline. -/
theorem launch_cases {c : Service α} {s : Errand α} {thread : Nat}
    {q : Errand α × List (Inquiry.Event α)} (h : s.step c (.launch thread) = some q) :
    (∃ deadline, { s with deadline }.lift (.act thread .start) = some q) ∨
      (s.inquiry.unary.started = false ∧
        Loopback.deadline? s.now s.inquiry.unary.timeout = none ∧ q = (s.overflow, [])) := by
  simp only [step] at h
  split at h
  · exact .inl ⟨s.deadline, h⟩
  · next first =>
      split at h
      · next deadline _ => exact .inl ⟨deadline, h⟩
      · next unshown =>
          obtain ⟨-, h⟩ := Option.ite_none_right_eq_some.mp h
          exact .inr ⟨by simpa using first, unshown, (Option.some.inj h).symm⟩

/-- Every move of an errand is a move of the call, or leaves the call alone, or is a start that
breaks off. A task comes to its end by completing the call. -/
inductive Moved (s : Errand α) : Errand α × List (Inquiry.Event α) → Prop where
  | called {q : Inquiry α × List (Inquiry.Event α)} {t : Errand α}
      (moved : Inquiry.Moved s.inquiry q) (inquiry : t.inquiry = q.1)
      (overflowed : t.overflowed = s.overflowed)
      (goes : t.task = .done → s.task = .done ∨ reports q.2 ≠ []) : Moved s (t, q.2)
  | quiet {t : Errand α} (inquiry : t.inquiry = s.inquiry)
      (overflowed : t.overflowed = s.overflowed)
      (goes : t.task = .done → s.task = .done) : Moved s (t, [])
  | overflowed (first : s.inquiry.unary.started = false) : Moved s (s.overflow, [])

/-- A completion that fits is reported, also if it is ignored. -/
theorem reports_complete {s : Inquiry α} {p : Nat} {r : Except Status α}
    {q : Inquiry α × List (Inquiry.Event α)} (h : s.step (.act p (.complete r)) = some q) :
    reports q.2 ≠ [] := by
  obtain ⟨-, h⟩ := Option.ite_none_right_eq_some.mp h
  simp only [Inquiry.act] at h
  obtain ⟨-, h⟩ := Option.ite_none_left_eq_some.mp h
  split at h <;> simp [← Option.some.inj h]

theorem moved_poll {c : Service α} {s : Errand α} {thread : Nat}
    {q : Errand α × List (Inquiry.Event α)} (h : s.poll c thread = some q) : Moved s q := by
  unfold poll at h
  cases outcome : (s.task.run s.view c.latency c.serve).2 with
  | none =>
      simp only [outcome] at h
      refine Option.some.inj h ▸ .quiet rfl rfl fun finished => ?_
      exact (run_done finished).resolve_right (by simp [outcome])
  | some r =>
      simp only [outcome, lift] at h
      obtain ⟨q', hq, rfl⟩ := Option.map_eq_some_iff.mp h
      exact .called (Inquiry.moved_of_step hq) rfl rfl fun _ => .inr (reports_complete hq)

theorem moved_of_step {c : Service α} {s : Errand α} {m : Move α}
    {q : Errand α × List (Inquiry.Event α)} (h : s.step c m = some q) : Moved s q := by
  cases m with
  | launch thread =>
      rcases launch_cases h with ⟨deadline, h⟩ | ⟨first, -, rfl⟩
      · obtain ⟨q', hq, rfl⟩ := Option.map_eq_some_iff.mp h
        exact .called (Inquiry.moved_of_step hq) rfl rfl .inl
      · exact .overflowed first
  | poll thread =>
      obtain ⟨-, h⟩ := Option.ite_none_right_eq_some.mp h
      exact moved_poll h
  | tick n => exact Option.some.inj h ▸ .quiet rfl rfl id
  | beside m =>
      obtain ⟨-, h⟩ := Option.ite_none_left_eq_some.mp h
      obtain ⟨q', hq, rfl⟩ := Option.map_eq_some_iff.mp h
      exact .called (Inquiry.moved_of_step hq) rfl rfl .inl

/-! ## The end of the task -/

/-- A task at its end has completed the call. -/
structure Reported (s : Errand α) (log : List (Inquiry.Event α)) : Prop where
  told : Told s.inquiry log
  reported : s.task = .done → reports log ≠ []

theorem reported_moved {s : Errand α} {log : List (Inquiry.Event α)}
    {q : Errand α × List (Inquiry.Event α)} (h : Reported s log) (hm : Moved s q) :
    Reported q.1 (log ++ q.2) := by
  cases hm with
  | called moved inquiry _ goes =>
      refine ⟨inquiry ▸ Inquiry.told_moved h.told moved, fun finished => ?_⟩
      rw [Inquiry.reports_append]
      rcases goes finished with before | now
      · exact List.append_ne_nil_of_left_ne_nil (h.reported before) _
      · exact List.append_ne_nil_of_right_ne_nil _ now
  | quiet inquiry _ goes =>
      rw [List.append_nil]
      exact ⟨inquiry ▸ h.told, fun finished => h.reported (goes finished)⟩
  | overflowed first =>
      refine ⟨h.told.silent rfl rfl rfl rfl rfl, ?_⟩
      rw [List.append_nil]
      exact h.reported

/-- After the task and its report the call has the status of the first completion, whose callback
was the only one. -/
theorem notified_of_run {c : Service α} {id : CallId} {timeout : Option Nat} {ms : List (Move α)}
    {s : Errand α} {log : List (Inquiry.Event α)}
    (h : (fresh id timeout).run c ms = some (s, log)) (stopped : s.task = .done)
    (idle : s.inquiry.report = none) :
    ∃ r, notices log = [r] ∧ s.inquiry.unary.cell.status = some (outcome r) := by
  have start : Reported (fresh id timeout : Errand α) [] :=
    ⟨⟨nofun, rfl, rfl, rfl⟩, nofun⟩
  have ⟨told, reported⟩ : Reported s ([] ++ log) :=
    runWith_invariant (P := Reported) (fun hs hstep => reported_moved hs (moved_of_step hstep))
      h start
  obtain ⟨r, rest, first⟩ := List.exists_cons_of_ne_nil (reported stopped)
  rw [List.nil_append] at told first
  refine ⟨r, ?_, ?_⟩
  · simpa [idle, first] using told.notified
  · simpa [idle, first, Inquiry.unrecorded] using told.status

/-! ## The flag -/

def Move.isRequest : Move α → Bool
  | .beside m => m.isRequest
  | _ => false

theorem flag_of_lift {s : Errand α} {i : Inquiry.Move α} {q : Errand α × List (Inquiry.Event α)}
    (h : s.lift i = some q) :
    q.1.inquiry.unary.cell.cancelled = (s.inquiry.unary.cell.cancelled || i.isRequest) := by
  obtain ⟨x, hx, rfl⟩ := Option.map_eq_some_iff.mp h
  cases request : i.isRequest with
  | false =>
      rw [Bool.or_false]
      exact Inquiry.cancelled_of_step hx request
  | true =>
      cases i with
      | act p o =>
          cases o with
          | cancel =>
              obtain ⟨-, hx⟩ := Option.ite_none_right_eq_some.mp hx
              obtain rfl := Option.some.inj hx
              rw [Bool.or_true]
              rfl
          | start | complete | take | back | panic => cases request
      | proceed | extract => cases request

theorem flag_of_step {c : Service α} {s : Errand α} {m : Move α}
    {q : Errand α × List (Inquiry.Event α)} (h : s.step c m = some q) :
    q.1.inquiry.unary.cell.cancelled = (s.inquiry.unary.cell.cancelled || m.isRequest) := by
  cases m with
  | launch p =>
      rcases launch_cases h with ⟨deadline, h⟩ | ⟨-, -, rfl⟩
      · exact flag_of_lift h
      · exact (Bool.or_false _).symm
  | poll p =>
      obtain ⟨-, h⟩ := Option.ite_none_right_eq_some.mp h
      simp only [poll] at h
      split at h
      · obtain rfl := Option.some.inj h
        exact (Bool.or_false _).symm
      · exact flag_of_lift h
  | tick n =>
      obtain rfl := Option.some.inj h
      exact (Bool.or_false _).symm
  | beside m =>
      obtain ⟨-, h⟩ := Option.ite_none_left_eq_some.mp h
      exact flag_of_lift h

theorem flag_of_run {c : Service α} {s t : Errand α} {ms : List (Move α)}
    {log : List (Inquiry.Event α)} (h : s.run c ms = some (t, log)) :
    t.inquiry.unary.cell.cancelled =
      (s.inquiry.unary.cell.cancelled || ms.any Move.isRequest) := by
  induction ms generalizing s log with
  | nil =>
      cases h
      exact (Bool.or_false _).symm
  | cons m ms ih =>
      obtain ⟨u, es, rest, hstep, hrun, -⟩ := runWith_cons h
      rw [ih hrun, flag_of_step hstep, List.any_cons, Bool.or_assoc]

end Errand

end CallBridge
