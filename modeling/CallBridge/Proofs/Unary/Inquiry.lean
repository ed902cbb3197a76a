import CallBridge.Call.Unary
import CallBridge.Proofs.Run

/-!
# Inquiries: everything that can happen to one unary call

Any number of threads use one unary call. Each of them may start it, report its completion, take the
response, ask it to stop, and return from or break off the code that it is in: the channel that a
start has called, or the completion callback. Such code may do all of this again, so each thread has
a stack of the calls that it waits for.

Two operations are cut into the steps that other threads can come between. A take claims the
response and then moves it out. A completion tests whether there has been one before, records the
status, publishes the response, and marks the call as over, upon which the callback begins. As the
transport reports a completion from one thread at a time, no completion begins while another is
on its way to the callback; it may well begin inside the callback.
-/

namespace CallBridge

namespace Inquiry

/-- Code outside the bridge for which an operation waits. -/
inductive Frame where
  | opening
  | notifying
deriving DecidableEq, Repr

/-- What a completion has still to do before its callback, beginning with this. -/
inductive Stage (α : Type) where
  | recording (result : Except Status α)
  | publishing (x : α)
  | terminating (result : Except Status α)

/-- What can be seen of a unary call from outside. -/
inductive Event (α : Type) where
  | launched
  | refused (fault : Fault)
  | reported (result : Except Status α)
  | ignored (result : Except Status α)
  | notified (result : Except Status α)
  | claimed (thread : Nat)
  | missed (thread : Nat)
  /-- The take that had claimed the response is answered. -/
  | took (thread : Nat) (x : Option α)

/-- What a thread may do. -/
inductive Operation (α : Type) where
  | start
  | complete (result : Except Status α)
  | take
  | cancel
  | back
  | panic

inductive Move (α : Type) where
  | act (thread : Nat) (o : Operation α)
  | proceed
  | extract (thread : Nat)

end Inquiry

/-- One unary call and the operations under way on it. -/
structure Inquiry (α : Type) where
  unary : Unary α
  frames : Nat → List Inquiry.Frame := fun _ => []
  /-- The completion on its way to the callback, and its thread. -/
  report : Option (Nat × Inquiry.Stage α) := none
  /-- The threads that have claimed the response and not moved it out yet. -/
  claims : List Nat := []

namespace Inquiry

variable {α : Type}

def fresh (id : CallId) (timeout : Option Nat) : Inquiry α := { unary := .create id timeout }

/-- A thread in the middle of a take or of a completion does nothing else. -/
def free (s : Inquiry α) (p : Nat) : Bool :=
  !s.claims.contains p && decide (s.report.map Prod.fst ≠ some p)

def setFrames (s : Inquiry α) (p : Nat) (frames : List Frame) : Inquiry α :=
  { s with frames := fun q => if q = p then frames else s.frames q }

def setCell (s : Inquiry α) (cell : Cell α) : Inquiry α :=
  { s with unary := { s.unary with cell } }

/-- The status with which a completion ends the call. -/
def outcome : Except Status α → Status
  | .ok _ => .success
  | .error status => status

namespace Stage

/-- The completion that has got this far. -/
def result : Stage α → Except Status α
  | recording r => r
  | publishing x => .ok x
  | terminating r => r

/-- Only a response is published. -/
def afterRecording : Except Status α → Stage α
  | .ok x => publishing x
  | .error status => terminating (.error status)

@[simp] theorem result_afterRecording (r : Except Status α) : (afterRecording r).result = r := by
  cases r <;> rfl

end Stage

/-! ## Moves and runs -/

/-- One operation of a thread, as far as it goes at once. -/
def act (s : Inquiry α) (p : Nat) : Operation α → Option (Inquiry α × List (Event α))
  | .start =>
    let o := s.unary.launch
    match o.answer with
    | .ok () => some ({ s with unary := o.state }.setFrames p (.opening :: s.frames p), [.launched])
    | .error f => some ({ s with unary := o.state }, [.refused f])
  | .complete r =>
    if s.report.isSome then none
    else if s.unary.cell.terminated then some (s, [.ignored r])
    else some ({ s with report := some (p, .recording r) }, [.reported r])
  | .take =>
    if s.unary.cell.inspector = some p then some (s, [.missed p])
    else
      match s.unary.cell.claim with
      | some cell => some ({ s.setCell cell with claims := p :: s.claims }, [.claimed p])
      | none => some (s, [.missed p])
  | .cancel => some ({ s with unary := s.unary.cancel.state }, [])
  | .back | .panic =>
    match s.frames p with
    | [] => none
    | _ :: rest => some (s.setFrames p rest, [])

/-- The next step of the completion under way. The last one leads into the callback. -/
def proceed (s : Inquiry α) : Option (Inquiry α × List (Event α)) :=
  match s.report with
  | none => none
  | some (p, .recording r) =>
    some ({ s.setCell (s.unary.cell.settle (outcome r)) with
      report := some (p, .afterRecording r) }, [])
  | some (p, .publishing x) =>
    some ({ s.setCell (s.unary.cell.publish x).state with
      report := some (p, .terminating (.ok x)) }, [])
  | some (p, .terminating r) =>
    some ({ s.setCell s.unary.cell.terminate with report := none }.setFrames p
      (.notifying :: s.frames p), [.notified r])

def extract (s : Inquiry α) (p : Nat) : Inquiry α × List (Event α) :=
  let o := s.unary.completeTake
  ({ s with unary := o.state, claims := s.claims.erase p }, [.took p o.answer])

def step (s : Inquiry α) : Move α → Option (Inquiry α × List (Event α))
  | .act p o => if s.free p then s.act p o else none
  | .proceed => s.proceed
  | .extract p => if s.claims.contains p then some (s.extract p) else none

def run (s : Inquiry α) (ms : List (Move α)) : Option (Inquiry α × List (Event α)) :=
  runWith step s ms

/-! ## What a move can come to -/

inductive Moved (s : Inquiry α) : Inquiry α × List (Event α) → Prop where
  | launched (p : Nat) (first : s.unary.started = false) :
      Moved s
        ({ s with unary := { s.unary with started := true } }.setFrames p
            (.opening :: s.frames p),
          [.launched])
  | refused (again : s.unary.started = true) :
      Moved s (s, [.refused (.alreadyStarted s.unary.cell.id)])
  | reported (p : Nat) (r : Except Status α) (idle : s.report = none)
      (live : s.unary.cell.terminated = false) :
      Moved s ({ s with report := some (p, .recording r) }, [.reported r])
  | ignored (r : Except Status α) (idle : s.report = none)
      (finished : s.unary.cell.terminated = true) : Moved s (s, [.ignored r])
  | claimed (p : Nat) (ready : s.unary.cell.ready = true) :
      Moved s
        ({ s.setCell { s.unary.cell with ready := false } with claims := p :: s.claims },
          [.claimed p])
  | missed (p : Nat)
      (nothing : s.unary.cell.inspector = some p ∨ s.unary.cell.ready = false) :
      Moved s (s, [.missed p])
  | cancelled : Moved s (s.setCell { s.unary.cell with cancelled := true }, [])
  | returned (p : Nat) {f : Frame} {rest : List Frame} (top : s.frames p = f :: rest) :
      Moved s (s.setFrames p rest, [])
  | recorded (p : Nat) (r : Except Status α) (stage : s.report = some (p, .recording r)) :
      Moved s
        ({ s.setCell (s.unary.cell.settle (outcome r)) with
            report := some (p, .afterRecording r) }, [])
  | published (p : Nat) (x : α) (stage : s.report = some (p, .publishing x)) :
      Moved s
        ({ s.setCell { s.unary.cell with item := some x, ready := true } with
            report := some (p, .terminating (.ok x)) }, [])
  | notified (p : Nat) (r : Except Status α) (stage : s.report = some (p, .terminating r)) :
      Moved s
        ({ s.setCell s.unary.cell.terminate with report := none }.setFrames p
            (.notifying :: s.frames p),
          [.notified r])
  | took (p : Nat) (claim : p ∈ s.claims) :
      Moved s
        ({ s.setCell { s.unary.cell with item := none } with claims := s.claims.erase p },
          [.took p s.unary.cell.item])

theorem moved_start {s : Inquiry α} {p : Nat} {q : Inquiry α × List (Event α)}
    (h : s.act p .start = some q) : Moved s q := by
  unfold act Unary.launch at h
  cases started : s.unary.started with
  | true =>
      simp only [started, if_true, Option.some.injEq] at h
      exact h ▸ .refused started
  | false =>
      simp only [started, Bool.false_eq_true, if_false, Option.some.injEq] at h
      exact h ▸ .launched p started

theorem moved_complete {s : Inquiry α} {p : Nat} {r : Except Status α}
    {q : Inquiry α × List (Event α)} (h : s.act p (.complete r) = some q) : Moved s q := by
  unfold act at h
  cases idle : s.report with
  | some stage => simp [idle] at h
  | none =>
      cases finished : s.unary.cell.terminated with
      | true =>
          simp only [idle, finished, Option.isSome_none, Bool.false_eq_true, if_false, if_true,
            Option.some.injEq] at h
          exact h ▸ .ignored r idle finished
      | false =>
          simp only [idle, finished, Option.isSome_none, Bool.false_eq_true, if_false,
            Option.some.injEq] at h
          exact h ▸ .reported p r idle finished

theorem moved_take {s : Inquiry α} {p : Nat} {q : Inquiry α × List (Event α)}
    (h : s.act p .take = some q) : Moved s q := by
  unfold act at h
  by_cases inside : s.unary.cell.inspector = some p
  · simp only [if_pos inside, Option.some.injEq] at h
    exact h ▸ .missed p (.inl inside)
  · cases ready : s.unary.cell.ready with
    | true =>
        simp only [if_neg inside, Cell.claim, ready, if_true, Option.some.injEq] at h
        exact h ▸ .claimed p ready
    | false =>
        simp only [if_neg inside, Cell.claim, ready, Bool.false_eq_true, if_false,
          Option.some.injEq] at h
        exact h ▸ .missed p (.inr ready)

theorem moved_return {s : Inquiry α} {p : Nat} {q : Inquiry α × List (Event α)}
    (h : (match s.frames p with
      | [] => none
      | _ :: rest => some (s.setFrames p rest, [])) = some q) : Moved s q := by
  cases top : s.frames p with
  | nil => simp [top] at h
  | cons f rest =>
      simp only [top, Option.some.injEq] at h
      exact h ▸ .returned p top

theorem moved_proceed {s : Inquiry α} {q : Inquiry α × List (Event α)}
    (h : s.proceed = some q) : Moved s q := by
  unfold proceed at h
  match stage : s.report with
  | none => simp [stage] at h
  | some (p, .recording r) =>
      simp only [stage, Option.some.injEq] at h
      exact h ▸ .recorded p r stage
  | some (p, .publishing x) =>
      simp only [stage, Option.some.injEq] at h
      exact h ▸ .published p x stage
  | some (p, .terminating r) =>
      simp only [stage, Option.some.injEq] at h
      exact h ▸ .notified p r stage

theorem moved_of_step {s : Inquiry α} {m : Move α} {q : Inquiry α × List (Event α)}
    (h : s.step m = some q) : Moved s q := by
  cases m with
  | act p o =>
      obtain ⟨-, h⟩ := Option.ite_none_right_eq_some.mp h
      cases o with
      | start => exact moved_start h
      | complete r => exact moved_complete h
      | take => exact moved_take h
      | cancel => exact Option.some.inj h ▸ .cancelled
      | back => exact moved_return h
      | panic => exact moved_return h
  | proceed => exact moved_proceed h
  | extract p =>
      obtain ⟨claim, h⟩ := Option.ite_none_right_eq_some.mp h
      exact Option.some.inj h ▸ .took p (List.contains_iff_mem.mp claim)

theorem run_invariant {P : Inquiry α → List (Event α) → Prop}
    (keep : ∀ {s before q}, P s before → Moved s q → P q.1 (before ++ q.2))
    {ms : List (Move α)} {s t : Inquiry α} {before log : List (Event α)}
    (h : s.run ms = some (t, log)) (hs : P s before) : P t (before ++ log) := by
  refine runWith_invariant (P := P) ?_ h hs
  intro u before m v es hu hstep
  exact keep hu (moved_of_step hstep)

end Inquiry

end CallBridge
