import CallBridge.Proofs.Unary.SingleShot

/-!
# What success says of the response

The progress of a call is read off the code of its status, and the response is published for the
kind of its completion. For a completion with a response the two agree, from its publication on: the
call has succeeded, and the response is on offer or went to one take. For a completion with a
failure they agree unless the failure carries the code of success. Nothing keeps a service from
answering so, and then the call counts as succeeded and has no response for anybody.
-/

namespace CallBridge

namespace Inquiry

variable {α : Type} {s : Inquiry α} {log : List (Event α)}

/-- Whose status was recorded has the progress that the status says. -/
theorem Told.progress (h : Told s log) (recorded : s.unrecorded = false) {r : Except Status α}
    (first : (reports log).head? = some r) :
    s.unary.cell.progress = if (outcome r).isOk then .succeeded else .failed (outcome r) := by
  have status : s.unary.cell.status = some (outcome r) := by
    rw [h.status, recorded, first]
    rfl
  rw [Cell.progress, status]
  rfl

/-- A call that has succeeded has recorded its first completion, and that carries the code of
success. -/
theorem Told.of_succeeded (h : Told s log) (succeeded : s.unary.cell.progress = .succeeded) :
    s.unrecorded = false ∧
      ∃ r, (reports log).head? = some r ∧ (outcome r).isOk = true := by
  cases recorded : s.unrecorded with
  | true =>
      rw [Cell.progress, h.status, recorded] at succeeded
      cases succeeded
  | false =>
      refine ⟨rfl, ?_⟩
      match first : (reports log).head? with
      | none =>
          rw [Cell.progress, h.status, recorded, first] at succeeded
          cases succeeded
      | some r =>
          rw [h.progress recorded first] at succeeded
          split at succeeded
          · next ok => exact ⟨r, rfl, ok⟩
          · cases succeeded

/-- A response whose status was recorded is about to be published, or it was. -/
theorem Offered.of_recorded (told : Told s log) (h : Offered s log)
    (recorded : s.unrecorded = false) {x : α} (first : (reports log).head? = some (.ok x)) :
    (∃ p, s.report = some (p, .publishing x)) ∨ Handing x s log := by
  match published : s.offer log with
  | some y =>
      obtain rfl : x = y := by simpa [first] using first_of_offer published
      exact .inr (h.handing x published)
  | none =>
      match under : s.report with
      | none => simp [offer, under, first] at published
      | some (p, .recording r) => simp [unrecorded, under] at recorded
      | some (p, .terminating r) => simp [offer, under, first] at published
      | some (p, .publishing y) =>
          have reported : reports log = [.ok y] := told.first p _ under
          obtain rfl : y = x := by simpa [reported] using first
          exact .inl ⟨p, rfl⟩

/-- A failure publishes nothing, whatever its code. -/
theorem Offered.of_failed (h : Offered s log) {status : Status}
    (first : (reports log).head? = some (.error status)) : Nothing s log := by
  apply h.nothing
  unfold offer
  rw [first]
  split <;> simp_all

/-- **Success has a response unless a failure is coded as success.** In every run, wherever one
looks: a call that has succeeded was first completed with a response, which is about to be
published by that completion, is on offer, or went to exactly one take; or it was first completed
with a failure whose code is that of success, and then there is no response and no take gets one.
The other way round, a call whose completion is recorded has succeeded if that was a response, and
has failed with the status of a failure exactly if its code is another one. -/
theorem success_responds_unless_coded_ok {id : CallId} {timeout : Option Nat}
    {ms : List (Move α)} (h : (fresh id timeout).run ms = some (s, log)) :
    (s.unary.cell.progress = .succeeded →
      (∃ x, (reports log).head? = some (.ok x) ∧
        ((∃ p, s.report = some (p, .publishing x)) ∨ Handing x s log)) ∨
      (∃ status, (reports log).head? = some (.error status) ∧ status.isOk = true ∧
        Nothing s log)) ∧
    (s.unrecorded = false →
      (∀ x, (reports log).head? = some (.ok x) → s.unary.cell.progress = .succeeded) ∧
      (∀ status, (reports log).head? = some (.error status) →
        (s.unary.cell.progress = .failed status ↔ status.isOk = false))) := by
  obtain ⟨-, told, offered⟩ := singleShot_of_run h
  constructor
  · intro succeeded
    obtain ⟨recorded, r, first, ok⟩ := told.of_succeeded succeeded
    cases r with
    | ok x => exact .inl ⟨x, first, offered.of_recorded told recorded first⟩
    | error status => exact .inr ⟨status, first, ok, offered.of_failed first⟩
  · intro recorded
    constructor
    · intro x first
      exact told.progress recorded first
    · intro status first
      rw [told.progress recorded first]
      show (if status.isOk then Progress.succeeded else .failed status) = .failed status ↔ _
      cases status.isOk <;> simp

/-- The response is published while a take waits for it, and goes to the take. -/
def answeredMoves : List (Move Nat) :=
  [.act 0 .start, .act 7 (.complete (.ok 5)), .proceed, .act 3 .take, .proceed, .act 3 .take,
    .proceed, .extract 3]

theorem success_responds_unless_coded_ok_answered : ∃ s log,
    (fresh ⟨1⟩ none).run answeredMoves = some (s, log) ∧
      s.unary.cell.progress = .succeeded ∧ Handing 5 s log ∧ answers log = [(3, some 5)] := by
  have h : (fresh ⟨1⟩ none).run answeredMoves = some (_, _) := rfl
  obtain ⟨succeeded, -⟩ := success_responds_unless_coded_ok h
  rcases succeeded rfl with ⟨x, first, ⟨p, under⟩ | handing⟩ | ⟨status, first, -⟩
  · cases under
  · cases first
    exact ⟨_, _, h, rfl, handing, rfl⟩
  · cases first

/-- A service fails a call with the code of success. -/
def codedOkMoves : List (Move Nat) :=
  [.act 0 .start, .act 7 (.complete (.error ⟨.ok, "no feature 0"⟩)), .proceed, .proceed,
    .act 7 .back, .act 0 .back]

/-- A call can succeed without a response: its one completion was a failure and is over, and no take
finds anything. -/
theorem success_without_response : ∃ s log,
    (fresh ⟨1⟩ none).run codedOkMoves = some (s, log) ∧
      reports log = [.error ⟨.ok, "no feature 0"⟩] ∧ s.report = none ∧
      s.unary.cell.progress = .succeeded ∧ s.unary.cell.ready = false ∧ winners log = [] ∧
      (s.unary.take 3).answer = none :=
  ⟨_, _, rfl, rfl, rfl, rfl, rfl, rfl, rfl⟩

end Inquiry

end CallBridge
