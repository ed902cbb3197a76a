import CallBridge.Call.Stream
import CallBridge.Proofs.Run

/-!
# Sessions: everything that can happen to one stream

An operation of a stream that calls out of the bridge stops in the middle: a start while the
channel opens the lane, a delivery while the item's callback runs, a close and an end while theirs
do. The code that was called may perform any operation on the same stream, and so may code that
those call. A session is a stream with the operations that wait for such code, innermost first; its
moves are the operations up to the point where they call out, and what follows when the called code
returns or breaks off.

What called code does is not described by anything: after each move, any other that fits may come.
The log of a run tells what could be seen from outside. One thread acts at a
time; other threads may only take.
-/

namespace CallBridge

namespace Session

/-- Why a read is asked for. -/
inductive Cause where
  | opened
  | resumed
  | continued
deriving DecidableEq, Repr

/-- How the callback of an item ends. -/
inductive Ending where
  | decided (d : Decision)
  | brokenOff
deriving DecidableEq, Repr

namespace Ending

def cutShort : Ending → Bool
  | decided _ => false
  | brokenOff => true

/-- The callback has consumed its item; after a panic it has not. -/
def consumes : Ending → Bool
  | decided .proceed => true
  | decided .hold | brokenOff => false

end Ending

/-- What can be seen of a stream from outside: what the transport is asked for, which callbacks
begin and how those of items end, and how operations are answered. -/
inductive Event (α : Type) where
  | launched
  | refused (fault : Fault)
  | asked (why : Cause) (lane : Nat)
  | accepted (x : α)
  | rejected (x : α)
  | shown (x : α)
  | left (e : Ending)
  /-- A take of another thread has claimed the item that its callback still sees. -/
  | claimed
  | took (x : Option α)
  /-- The take that had claimed an item before is answered. -/
  | tookLate (x : Option α)
  | closed
  | ended (status : Status)
deriving DecidableEq, Repr

/-- An operation that waits for the code it called. -/
inductive Frame (α : Type) where
  | opening
  | inspecting (x : α)
  | closing
  | ending
deriving DecidableEq, Repr

inductive Move (α : Type) where
  | switch (thread : Nat)
  | start
  | opened (lane : Nat)
  | deliver (x : α)
  | decide (d : Decision)
  | closeReads
  | finish (status : Status)
  | back
  | panic
  | take
  | takeAside
  | cancel
deriving DecidableEq, Repr

end Session

/-- One stream and the operations under way on it. -/
structure Session (α : Type) where
  stream : Stream α
  thread : Nat := 0
  frames : List (Session.Frame α) := []
  /-- A take of another thread has claimed the item that is being shown. -/
  claimed : Bool := false
deriving DecidableEq, Repr

namespace Session

variable {α : Type}

def fresh (id : CallId) (timeout : Option Nat) (thread : Nat) : Session α where
  stream := .create id timeout
  thread := thread

/-- The read that the answer of a transition asks for, if any. -/
def asks (why : Cause) (lane : Option Nat) : List (Event α) := lane.toList.map (Event.asked why)

/-! ## Operations up to the point where they call out -/

def start (s : Session α) : Session α × List (Event α) :=
  let o := s.stream.launch
  match o.answer with
  | .ok () => ({ s with stream := o.state, frames := .opening :: s.frames }, [.launched])
  | .error f => ({ s with stream := o.state }, [.refused f])

/-- The callback sees what has been published. -/
def deliver (s : Session α) (x : α) : Session α × List (Event α) :=
  let o := s.stream.deliver s.thread x
  if o.answer then
    ({ s with stream := o.state, frames := .inspecting x :: s.frames },
      .accepted x :: o.state.cell.item.toList.map Event.shown)
  else ({ s with stream := o.state }, [.rejected x])

def closeReads (s : Session α) : Session α × List (Event α) :=
  ({ s with stream := s.stream.closeReads.state, frames := .closing :: s.frames }, [.closed])

def finish (s : Session α) (status : Status) : Session α × List (Event α) :=
  let o := s.stream.finish status
  if o.answer then
    ({ s with stream := o.state, frames := .ending :: s.frames }, [.ended status])
  else ({ s with stream := o.state }, [])

def take (s : Session α) : Session α × List (Event α) :=
  let o := s.stream.take s.thread
  ({ s with stream := o.state }, .took o.answer.1 :: asks .resumed o.answer.2)

/-- While an item is being shown, a take of another thread only claims it. -/
def takeAside (s : Session α) : Session α × List (Event α) :=
  if s.stream.cell.inspector.isNone then s.take
  else
    match s.stream.cell.claim with
    | some cell => ({ s with stream := { s.stream with cell }, claimed := true }, [.claimed])
    | none => (s, [.took none])

/-! ## What follows when the called code is over -/

def attach (s : Session α) (lane : Nat) : Session α × List (Event α) :=
  let o := s.stream.attach lane
  ({ s with stream := o.1 }, asks .opened o.2)

def completeTake (s : Session α) : Session α × List (Event α) :=
  if s.claimed then
    let o := s.stream.completeTake
    ({ s with stream := o.state, claimed := false },
      .tookLate o.answer.1 :: asks .resumed o.answer.2)
  else (s, [])

/-- A callback that consumed its item drops it and reads on. -/
def readOn (s : Session α) (e : Ending) : Session α × List (Event α) :=
  if e.consumes then
    let o := s.stream.readOn s.thread
    ({ s with stream := o.state }, asks .continued o.answer)
  else (s, [])

/-- The callback of an item is over: first the take that waits for it goes on, then the delivery. -/
def leave (s : Session α) (e : Ending) : Session α × List (Event α) :=
  let s₁ := { s with stream := s.stream.endInspection e.cutShort }
  let s₂ := s₁.completeTake
  let s₃ := s₂.1.readOn e
  (s₃.1, .left e :: (s₂.2 ++ s₃.2))

/-! ## Moves and runs -/

def step (s : Session α) (m : Move α) : Option (Session α × List (Event α)) :=
  match m, s.frames with
  | .switch thread, [] => some ({ s with thread }, [])
  | .start, _ => some s.start
  | .opened lane, .opening :: rest => some ({ s with frames := rest }.attach lane)
  | .deliver x, _ => some (s.deliver x)
  | .decide d, .inspecting _ :: rest => some ({ s with frames := rest }.leave (.decided d))
  | .closeReads, _ => some s.closeReads
  | .finish status, _ => some (s.finish status)
  | .back, .closing :: rest | .back, .ending :: rest => some ({ s with frames := rest }, [])
  | .panic, .inspecting _ :: rest => some ({ s with frames := rest }.leave .brokenOff)
  | .panic, _ :: rest => some ({ s with frames := rest }, [])
  | .take, _ => some s.take
  | .takeAside, _ => some s.takeAside
  | .cancel, _ => some ({ s with stream := s.stream.cancel.state }, [])
  | _, _ => none

def run (s : Session α) (ms : List (Move α)) : Option (Session α × List (Event α)) :=
  runWith step s ms

/-! ## What a move can come to -/

inductive Moved (s : Session α) : Session α × List (Event α) → Prop where
  | switched (thread : Nat) (idle : s.frames = []) : Moved s ({ s with thread }, [])
  | launched (first : s.stream.started = false) :
      Moved s
        ({ s with
            stream := { s.stream with started := true }
            frames := .opening :: s.frames },
          [.launched])
  | refused (again : s.stream.started = true) :
      Moved s (s, [.refused (.alreadyStarted s.stream.cell.id)])
  | attached (lane : Nat) {rest : List (Frame α)} (top : s.frames = .opening :: rest) :
      Moved s ({ s with frames := rest }.attach lane)
  | accepted (x : α) {lane : Nat} (reading : s.stream.phase = .reading lane)
      (live : s.stream.cell.terminated = false) :
      Moved s
        ({ s with
            stream := { s.stream with
              phase := .held lane, items := s.stream.items + 1
              cell := (s.stream.cell.beginInspection s.thread x).state }
            frames := .inspecting x :: s.frames },
          [.accepted x, .shown x])
  | rejected (x : α)
      (unwanted : (∀ lane, s.stream.phase ≠ .reading lane) ∨ s.stream.cell.terminated = true) :
      Moved s (s, [.rejected x])
  | left (e : Ending) {x : α} {rest : List (Frame α)} (top : s.frames = .inspecting x :: rest) :
      Moved s ({ s with frames := rest }.leave e)
  | closed :
      Moved s
        ({ s with
            stream := { s.stream with cell := s.stream.cell.terminate }
            frames := .closing :: s.frames },
          [.closed])
  | ended (status : Status) (first : s.stream.cell.status = none) :
      Moved s
        ({ s with
            stream := { s.stream with
              cell := (s.stream.cell.settle status).terminate, phase := .ended }
            frames := .ending :: s.frames },
          [.ended status])
  | ignored (again : s.stream.cell.status.isSome) : Moved s (s, [])
  | returned {f : Frame α} {rest : List (Frame α)} (top : s.frames = f :: rest)
      (other : ∀ x, f ≠ .inspecting x) : Moved s ({ s with frames := rest }, [])
  | took : Moved s s.take
  | claimed (window : s.stream.cell.inspector.isSome) (ready : s.stream.cell.ready = true) :
      Moved s
        ({ s with
            stream := { s.stream with cell := { s.stream.cell with ready := false } }
            claimed := true },
          [.claimed])
  | tookNothing (window : s.stream.cell.inspector.isSome)
      (empty : s.stream.cell.ready = false) : Moved s (s, [.took none])
  | cancelled :
      Moved s
        ({ s with stream := { s.stream with cell := { s.stream.cell with cancelled := true } } },
          [])

theorem moved_start (s : Session α) : Moved s s.start := by
  unfold start
  rcases s.stream.launch_cases with ⟨first, ha, hs⟩ | ⟨again, ha, hs⟩ <;>
    simp only [ha, hs]
  · exact .launched first
  · exact .refused again

theorem moved_deliver (s : Session α) (x : α) : Moved s (s.deliver x) := by
  unfold deliver
  rcases s.stream.deliver_cases s.thread x with ⟨lane, reading, live, ha, hs⟩ | ⟨unwanted, ha, hs⟩
  · simp only [ha, hs, if_true]
    exact .accepted x reading live
  · simp only [ha, hs, Bool.false_eq_true, if_false]
    exact .rejected x unwanted

theorem moved_finish (s : Session α) (status : Status) : Moved s (s.finish status) := by
  unfold finish
  rcases s.stream.finish_cases status with ⟨first, ha, hs⟩ | ⟨again, ha, hs⟩
  · simp only [ha, hs, if_true]
    exact .ended status first
  · simp only [ha, hs, Bool.false_eq_true, if_false]
    exact .ignored again

theorem moved_takeAside (s : Session α) : Moved s s.takeAside := by
  unfold takeAside
  by_cases window : s.stream.cell.inspector.isNone
  · rw [if_pos window]
    exact .took
  · rw [if_neg window]
    have window : s.stream.cell.inspector.isSome := by
      simpa only [Option.isNone_iff_eq_none, ← Option.isSome_iff_ne_none] using window
    cases ready : s.stream.cell.ready with
    | true => simpa [Cell.claim, ready] using Moved.claimed window ready
    | false => simpa [Cell.claim, ready] using Moved.tookNothing window ready

theorem moved_of_step {s : Session α} {m : Move α} {p : Session α × List (Event α)}
    (h : s.step m = some p) : Moved s p := by
  cases m with
  | switch thread =>
      cases top : s.frames with
      | nil =>
          have hp : p = ({ s with thread }, []) := by simpa [step, top] using h.symm
          exact hp ▸ .switched thread top
      | cons f rest => simp [step, top] at h
  | start => exact Option.some.inj h ▸ moved_start s
  | opened lane =>
      match top : s.frames with
      | .opening :: rest =>
          simp only [step, top, Option.some.injEq] at h
          exact h ▸ .attached lane top
      | [] | .inspecting _ :: _ | .closing :: _ | .ending :: _ => simp [step, top] at h
  | deliver x => exact Option.some.inj h ▸ moved_deliver s x
  | decide d =>
      match top : s.frames with
      | .inspecting x :: rest =>
          simp only [step, top, Option.some.injEq] at h
          exact h ▸ .left (.decided d) top
      | [] | .opening :: _ | .closing :: _ | .ending :: _ => simp [step, top] at h
  | closeReads => exact Option.some.inj h ▸ .closed
  | finish status => exact Option.some.inj h ▸ moved_finish s status
  | back =>
      match top : s.frames with
      | .closing :: rest | .ending :: rest =>
          simp only [step, top, Option.some.injEq] at h
          exact h ▸ .returned top (fun _ hf => nomatch hf)
      | [] | .opening :: _ | .inspecting _ :: _ => simp [step, top] at h
  | panic =>
      match top : s.frames with
      | .inspecting x :: rest =>
          simp only [step, top, Option.some.injEq] at h
          exact h ▸ .left .brokenOff top
      | .opening :: rest | .closing :: rest | .ending :: rest =>
          simp only [step, top, Option.some.injEq] at h
          exact h ▸ .returned top (fun _ hf => nomatch hf)
      | [] => simp [step, top] at h
  | take => exact Option.some.inj h ▸ .took
  | takeAside => exact Option.some.inj h ▸ moved_takeAside s
  | cancel => exact Option.some.inj h ▸ .cancelled

theorem run_invariant {P : Session α → List (Event α) → Prop}
    (keep : ∀ {s before p}, P s before → Moved s p → P p.1 (before ++ p.2))
    {ms : List (Move α)} {s t : Session α} {before log : List (Event α)}
    (h : s.run ms = some (t, log)) (hs : P s before) : P t (before ++ log) := by
  refine runWith_invariant (P := P) ?_ h hs
  intro u before m v es hu hstep
  exact keep hu (moved_of_step hstep)

end Session

end CallBridge
