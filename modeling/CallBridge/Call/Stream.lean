import CallBridge.Call.Cell

/-!
# Calls answered by a stream of items

The transport delivers an item only in answer to a read. After a delivery the item's callback
decides: *continue* drops the item and asks for the next one at once, *hold* keeps the item and
pauses the stream until the application takes it, which is what asks for the next.

A stream moves through four phases. `reading` and `held` know the lane of the transport on which
the next read is asked for; every transition that asks for a read says so in its answer, and each
of them tests first that the call is not over.

* `idle` to `reading`: `attach`, once the channel has opened a lane.
* `reading` to `held`: `accept`, when an item arrives.
* `held` to `reading`: `resume` after a take, or `refetch` after a callback that continues.
* anything to `ended`: `finish`.
-/

namespace CallBridge

inductive Decision where
  | proceed
  | hold
deriving DecidableEq, Repr, Inhabited

/-- Where a stream stands. The lane is the transport's side of the stream. -/
inductive Phase where
  | idle
  | reading (lane : Nat)
  | held (lane : Nat)
  | ended
deriving DecidableEq, Repr

namespace Phase

/-- The lane this phase keeps open. -/
def lane? : Phase → Option Nat
  | reading lane => some lane
  | held lane => some lane
  | idle | ended => none

def text : Phase → String
  | idle => "Idle"
  | reading _ => "Reading"
  | held _ => "ItemHeld"
  | ended => "Ended"

def isHeld : Phase → Bool
  | held _ => true
  | _ => false

end Phase

/-- One call that is answered by any number of items. -/
structure Stream (α : Type) where
  cell : Cell α
  phase : Phase := .idle
  started : Bool := false
  timeout : Option Nat := none
  items : Nat := 0
  fetches : Nat := 0
  resumes : Nat := 0
deriving DecidableEq, Repr

namespace Stream

variable {α : Type}

def create (id : CallId) (timeout : Option Nat) : Stream α := { cell := { id }, timeout }

def launch (s : Stream α) : Outcome (Stream α) (Except Fault Unit) :=
  if s.started then
    { state := s, answer := .error (.alreadyStarted s.cell.id) }
  else
    { state := { s with started := true }
      answer := .ok ()
      lines := [⟨.debug, callTarget, "Starting stream call " ++ s.cell.id.text⟩] }

/-- A start that breaks off before it has come to the channel. The right to start is used up. -/
def overflow (s : Stream α) : Stream α := { s with started := true }

/-- The channel has opened a lane: ask it for the first item, unless the transport has already
ended the call. The answer is the lane to read on. -/
def attach (s : Stream α) (lane : Nat) : Stream α × Option Nat :=
  if s.phase = .idle ∧ s.cell.terminated = false then
    ({ s with phase := .reading lane, fetches := s.fetches + 1 }, some lane)
  else (s, none)

/-- An item arrived. It is accepted only in answer to a read that is still wanted. -/
def accept (s : Stream α) : Outcome (Stream α) Bool :=
  match s.phase, s.cell.terminated with
  | .reading lane, false =>
    { state := { s with phase := .held lane, items := s.items + 1 }, answer := true }
  | _, _ =>
    { state := s
      answer := false
      lines := [⟨.warn, callTarget, "Dropping unexpected item on call " ++ s.cell.id.text⟩] }

def beginInspection (s : Stream α) (thread : Nat) (x : α) : Outcome (Stream α) Unit :=
  (s.cell.beginInspection thread x).within fun cell => { s with cell }

/-- Deliver an item: if it is wanted, publish it and show it to its callback on `thread`. The
answer tells whether the callback is due. -/
def deliver (s : Stream α) (thread : Nat) (x : α) : Outcome (Stream α) Bool :=
  let o := s.accept
  if o.answer then
    let shown := o.state.beginInspection thread x
    { state := shown.state, answer := true, lines := o.lines ++ shown.lines }
  else o

def endInspection (s : Stream α) (cutShort : Bool) : Stream α :=
  { s with cell := s.cell.endInspection cutShort }

def discard (s : Stream α) (thread : Nat) : Outcome (Stream α) Unit where
  state := { s with cell := (s.cell.take thread).state }
  answer := ()
  lines := (s.cell.take thread).lines

def refetch (s : Stream α) : Stream α × Option Nat :=
  match s.phase, s.cell.terminated with
  | .held lane, false => ({ s with phase := .reading lane, fetches := s.fetches + 1 }, some lane)
  | _, _ => (s, none)

def readOn (s : Stream α) (thread : Nat) : Outcome (Stream α) (Option Nat) where
  state := (s.discard thread).state.refetch.1
  answer := (s.discard thread).state.refetch.2
  lines := (s.discard thread).lines

/-- After a take: release the hold and ask for the next item. A hold on a call that is over is
given up without a read. -/
def resume (s : Stream α) : Stream α × Option Nat :=
  match s.phase, s.cell.terminated with
  | .held lane, false =>
    ({ s with phase := .reading lane, fetches := s.fetches + 1, resumes := s.resumes + 1 },
      some lane)
  | .held _, true => ({ s with phase := .ended }, none)
  | _, _ => (s, none)

def afterTake (s : Stream α) (taken : Outcome (Cell α) (Option α)) :
    Outcome (Stream α) (Option α × Option Nat) :=
  let s' := { s with cell := taken.state }
  match taken.answer with
  | none => { state := s', answer := (none, none), lines := taken.lines }
  | some x => { state := s'.resume.1, answer := (some x, s'.resume.2), lines := taken.lines }

/-- Move the current item out and, if the stream is held, resume it. The answer has the item and
the lane to read on. -/
def take (s : Stream α) (thread : Nat) : Outcome (Stream α) (Option α × Option Nat) :=
  s.afterTake (s.cell.take thread)

def completeTake (s : Stream α) : Outcome (Stream α) (Option α × Option Nat) :=
  s.afterTake s.cell.extract

def closeReads (s : Stream α) : Outcome (Stream α) Unit where
  state := { s with cell := s.cell.terminate }
  answer := ()
  lines := [⟨.trace, callTarget, "Read side closed on call " ++ s.cell.id.text⟩]

/-- The call is over. The answer tells whether the final callback is due; a repeated end moves
nothing. -/
def finish (s : Stream α) (status : Status) : Outcome (Stream α) Bool :=
  if s.cell.status.isSome then
    { state := s
      answer := false
      lines := [⟨.warn, callTarget, "Ignoring repeated end for call " ++ s.cell.id.text⟩] }
  else
    { state := { s with cell := (s.cell.settle status).terminate, phase := .ended }
      answer := true
      lines := if s.phase.isHeld then
        [⟨.debug, callTarget, "Call " ++ s.cell.id.text ++ " ended while holding an item"⟩]
      else [] }

def cancel (s : Stream α) : Outcome (Stream α) Unit :=
  s.cell.cancel.within fun cell => { s with cell }

/-! ## What each transition can come to -/

theorem attach_cases (s : Stream α) (lane : Nat) :
    (s.phase = .idle ∧ s.cell.terminated = false ∧
      s.attach lane = ({ s with phase := .reading lane, fetches := s.fetches + 1 }, some lane)) ∨
    s.attach lane = (s, none) := by
  unfold attach
  split
  · next h => exact .inl ⟨h.1, h.2, rfl⟩
  · exact .inr rfl

theorem accept_cases (s : Stream α) :
    (∃ lane, s.phase = .reading lane ∧ s.cell.terminated = false ∧ s.accept.answer = true ∧
      s.accept.state = { s with phase := .held lane, items := s.items + 1 }) ∨
    (((∀ lane, s.phase ≠ .reading lane) ∨ s.cell.terminated = true) ∧
      s.accept.answer = false ∧ s.accept.state = s) := by
  unfold accept
  split
  · next lane hp ht => exact .inl ⟨lane, hp, ht, rfl, rfl⟩
  · next h =>
      refine .inr ⟨?_, rfl, rfl⟩
      cases ht : s.cell.terminated with
      | true => exact .inr rfl
      | false => exact .inl fun lane hp => h lane hp ht

theorem deliver_cases (s : Stream α) (thread : Nat) (x : α) :
    (∃ lane, s.phase = .reading lane ∧ s.cell.terminated = false ∧
      (s.deliver thread x).answer = true ∧
      (s.deliver thread x).state = { s with
        phase := .held lane, items := s.items + 1
        cell := (s.cell.beginInspection thread x).state }) ∨
    (((∀ lane, s.phase ≠ .reading lane) ∨ s.cell.terminated = true) ∧
      (s.deliver thread x).answer = false ∧ (s.deliver thread x).state = s) := by
  unfold deliver
  rcases s.accept_cases with ⟨lane, hp, ht, ha, hs⟩ | ⟨unwanted, ha, hs⟩
  · exact .inl ⟨lane, hp, ht, by simp [ha], by simp [ha, hs, beginInspection]⟩
  · exact .inr ⟨unwanted, by simp [ha], by simp [ha, hs]⟩

theorem refetch_cases (s : Stream α) :
    (∃ lane, s.phase = .held lane ∧ s.cell.terminated = false ∧
      s.refetch = ({ s with phase := .reading lane, fetches := s.fetches + 1 }, some lane)) ∨
    s.refetch = (s, none) := by
  unfold refetch
  split
  · next lane hp ht => exact .inl ⟨lane, hp, ht, rfl⟩
  · exact .inr rfl

theorem resume_cases (s : Stream α) :
    (∃ lane, s.phase = .held lane ∧ s.cell.terminated = false ∧
      s.resume = ({ s with
        phase := .reading lane, fetches := s.fetches + 1, resumes := s.resumes + 1 },
        some lane)) ∨
    (∃ lane, s.phase = .held lane ∧ s.cell.terminated = true ∧
      s.resume = ({ s with phase := .ended }, none)) ∨
    ((∀ lane, s.phase ≠ .held lane) ∧ s.resume = (s, none)) := by
  unfold resume
  split
  · next lane hp ht => exact .inl ⟨lane, hp, ht, rfl⟩
  · next lane hp ht => exact .inr (.inl ⟨lane, hp, ht, rfl⟩)
  · next h₁ h₂ =>
      refine .inr (.inr ⟨?_, rfl⟩)
      intro lane hp
      cases ht : s.cell.terminated
      · exact h₁ lane hp ht
      · exact h₂ lane hp ht

@[simp] theorem attach_cell (s : Stream α) (lane : Nat) : (s.attach lane).1.cell = s.cell := by
  rcases s.attach_cases lane with ⟨-, -, heq⟩ | heq <;> rw [heq]

@[simp] theorem refetch_cell (s : Stream α) : s.refetch.1.cell = s.cell := by
  rcases s.refetch_cases with ⟨lane, -, -, heq⟩ | heq <;> rw [heq]

@[simp] theorem readOn_cell (s : Stream α) (thread : Nat) :
    (s.readOn thread).state.cell = (s.cell.take thread).state := by
  simp [readOn, discard]

@[simp] theorem resume_cell (s : Stream α) : s.resume.1.cell = s.cell := by
  rcases s.resume_cases with ⟨lane, -, -, heq⟩ | ⟨lane, -, -, heq⟩ | ⟨-, heq⟩ <;> rw [heq]

theorem afterTake_cases (s : Stream α) (taken : Outcome (Cell α) (Option α)) :
    (taken.answer = none ∧ (s.afterTake taken).answer = (none, none) ∧
      (s.afterTake taken).state = { s with cell := taken.state }) ∨
    (∃ x, taken.answer = some x ∧
      (s.afterTake taken).answer = (some x, { s with cell := taken.state }.resume.2) ∧
      (s.afterTake taken).state = { s with cell := taken.state }.resume.1) := by
  unfold afterTake
  cases h : taken.answer with
  | none => exact .inl ⟨rfl, rfl, rfl⟩
  | some x => exact .inr ⟨x, rfl, rfl, rfl⟩

@[simp] theorem afterTake_cell (s : Stream α) (taken : Outcome (Cell α) (Option α)) :
    (s.afterTake taken).state.cell = taken.state := by
  rcases s.afterTake_cases taken with ⟨-, -, hs⟩ | ⟨x, -, -, hs⟩ <;> simp [hs]

@[simp] theorem afterTake_item (s : Stream α) (taken : Outcome (Cell α) (Option α)) :
    (s.afterTake taken).answer.1 = taken.answer := by
  rcases s.afterTake_cases taken with ⟨nothing, ha, -⟩ | ⟨x, item, ha, -⟩
  · rw [ha, nothing]
  · rw [ha, item]

@[simp] theorem afterTake_lines (s : Stream α) (taken : Outcome (Cell α) (Option α)) :
    (s.afterTake taken).lines = taken.lines := by
  unfold afterTake
  cases taken.answer <;> rfl

theorem finish_cases (s : Stream α) (status : Status) :
    (s.cell.status = none ∧ (s.finish status).answer = true ∧
      (s.finish status).state =
        { s with cell := (s.cell.settle status).terminate, phase := .ended }) ∨
    (s.cell.status.isSome ∧ (s.finish status).answer = false ∧ (s.finish status).state = s) := by
  unfold finish
  split
  · next h => exact .inr ⟨h, rfl, rfl⟩
  · next h => exact .inl ⟨by simpa using h, rfl, rfl⟩

theorem launch_cases (s : Stream α) :
    (s.started = false ∧ s.launch.answer = .ok () ∧
      s.launch.state = { s with started := true }) ∨
    (s.started = true ∧ s.launch.answer = .error (.alreadyStarted s.cell.id) ∧
      s.launch.state = s) := by
  unfold launch
  split
  · next h => exact .inr ⟨h, rfl, rfl⟩
  · next h => exact .inl ⟨by simpa using h, rfl, rfl⟩

end Stream

end CallBridge
