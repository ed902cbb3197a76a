import CallBridge.Call.Id
import CallBridge.Fault
import CallBridge.Log
import CallBridge.Status

/-!
# The handover cell of a call

One place through which an item goes from the transport to the application, together with the
facts every call shares: its identity, its terminal status, and whether it is over or was asked
to stop.

An item is published by filling the place and raising `ready`. A consumer takes it in two atomic
steps, `claim` (which lowers `ready` and so has one winner) and `extract` (which empties the
place). While a callback inspects a fresh item the place is locked: its own thread finds nothing
there, other threads wait. A callback cut short by a panic taints the lock for good; every later
use of the place reports that and goes on.
-/

namespace CallBridge

/-- The state one call shares between the transport and the application. -/
structure Cell (α : Type) where
  id : CallId
  item : Option α := none
  ready : Bool := false
  /-- The thread whose callback is looking at the item with the place locked. -/
  inspector : Option Nat := none
  /-- A callback was cut short while the place was locked. -/
  tainted : Bool := false
  status : Option Status := none
  terminated : Bool := false
  cancelled : Bool := false
deriving DecidableEq, Repr

inductive Progress where
  | pending
  | succeeded
  | failed (status : Status)
deriving DecidableEq, Repr

namespace Progress

def shape : Progress → String
  | pending => "Pending"
  | succeeded => "Succeeded"
  | failed s => "Failed(" ++ s.shape ++ ")"

/-- Pending without a status; otherwise the code decides. -/
def ofStatus : Option Status → Progress
  | none => pending
  | some s => if s.isOk then succeeded else failed s

end Progress

def callTarget : String := "rpc_reactor::call"

namespace Cell

variable {α : Type}

def progress (c : Cell α) : Progress := .ofStatus c.status

/-- Locking the place of a tainted cell is reported, each time. -/
def lockLines (c : Cell α) (context : String) : List Line :=
  if c.tainted then
    [⟨.warn, "rpc_reactor::lock_recovery", "Recovered from poisoned lock in " ++ context⟩]
  else []

/-- Ask the call to stop. Only the first request is reported. -/
def cancel (c : Cell α) : Outcome (Cell α) Unit where
  state := { c with cancelled := true }
  answer := ()
  lines := if c.cancelled then []
    else [⟨.debug, callTarget, "Cancel requested for call " ++ c.id.text⟩]

def publish (c : Cell α) (x : α) : Outcome (Cell α) Unit where
  state := { c with item := some x, ready := true }
  answer := ()
  lines := c.lockLines "CallHandle::publish"

def beginInspection (c : Cell α) (thread : Nat) (x : α) : Outcome (Cell α) Unit where
  state := { c with item := some x, ready := true, inspector := some thread }
  answer := ()
  lines := c.lockLines "CallHandle::publish_and_inspect"

/-- The callback is over; `cutShort` when it panicked. -/
def endInspection (c : Cell α) (cutShort : Bool) : Cell α :=
  { c with inspector := none, tainted := c.tainted || cutShort }

/-- First half of a take: lower `ready`. Of several consumers one succeeds. -/
def claim (c : Cell α) : Option (Cell α) :=
  if c.ready then some { c with ready := false } else none

/-- Second half of a take: empty the place. -/
def extract (c : Cell α) : Outcome (Cell α) (Option α) where
  state := { c with item := none }
  answer := c.item
  lines := c.lockLines "CallHandle::take"

/-- Move the published item out. The thread that is inspecting the item gets nothing, and the
item stays published. -/
def take (c : Cell α) (thread : Nat) : Outcome (Cell α) (Option α) :=
  if c.inspector = some thread then
    { state := c
      answer := none
      lines := [⟨.warn, callTarget,
        "Item of call " ++ c.id.text ++ " taken while its callback is still inspecting it"⟩] }
  else
    match c.claim with
    | none => { state := c, answer := none }
    | some claimed => claimed.extract

def settle (c : Cell α) (s : Status) : Cell α := { c with status := c.status <|> some s }

def terminate (c : Cell α) : Cell α := { c with terminated := true }

/-- A take finds nothing on the thread that inspects the item and when nothing is offered. Else it
empties the place. -/
theorem take_cases (c : Cell α) (thread : Nat) :
    ((c.inspector = some thread ∨ c.ready = false) ∧ (c.take thread).state = c ∧
      (c.take thread).answer = none) ∨
    (c.inspector ≠ some thread ∧ c.ready = true ∧
      (c.take thread).state = { c with ready := false, item := none } ∧
      (c.take thread).answer = c.item) := by
  unfold take
  by_cases hi : c.inspector = some thread
  · exact .inl ⟨.inl hi, by simp [hi], by simp [hi]⟩
  · rw [if_neg hi]
    cases hr : c.ready with
    | false => exact .inl ⟨.inr rfl, by simp [claim, hr], by simp [claim, hr]⟩
    | true => exact .inr ⟨hi, rfl, by simp [claim, hr, extract], by simp [claim, hr, extract]⟩

@[simp] theorem take_terminated (c : Cell α) (thread : Nat) :
    (c.take thread).state.terminated = c.terminated := by
  rcases c.take_cases thread with ⟨-, hs, -⟩ | ⟨-, -, hs, -⟩ <;> rw [hs]

@[simp] theorem take_status (c : Cell α) (thread : Nat) :
    (c.take thread).state.status = c.status := by
  rcases c.take_cases thread with ⟨-, hs, -⟩ | ⟨-, -, hs, -⟩ <;> rw [hs]

@[simp] theorem take_cancelled (c : Cell α) (thread : Nat) :
    (c.take thread).state.cancelled = c.cancelled := by
  rcases c.take_cases thread with ⟨-, hs, -⟩ | ⟨-, -, hs, -⟩ <;> rw [hs]

@[simp] theorem take_id (c : Cell α) (thread : Nat) : (c.take thread).state.id = c.id := by
  rcases c.take_cases thread with ⟨-, hs, -⟩ | ⟨-, -, hs, -⟩ <;> rw [hs]

@[simp] theorem take_inspector (c : Cell α) (thread : Nat) :
    (c.take thread).state.inspector = c.inspector := by
  rcases c.take_cases thread with ⟨-, hs, -⟩ | ⟨-, -, hs, -⟩ <;> rw [hs]

theorem ready_take {c : Cell α} {thread : Nat} (h : c.inspector ≠ some thread) :
    (c.take thread).state.ready = false := by
  rcases c.take_cases thread with ⟨nothing, hs, -⟩ | ⟨-, -, hs, -⟩
  · rw [hs]
    exact nothing.resolve_left h
  · rw [hs]

theorem ready_of_take {c : Cell α} {thread : Nat} (h : (c.take thread).state.ready = true) :
    c.ready = true := by
  rcases c.take_cases thread with ⟨-, hs, -⟩ | ⟨-, ready, -, -⟩
  · rwa [hs] at h
  · exact ready

@[simp] theorem settle_of_isSome {c : Cell α} {s : Status} (h : c.status.isSome) :
    c.settle s = c := by
  cases c
  simp_all [settle, Option.isSome_iff_exists]
  obtain ⟨t, rfl⟩ := h
  rfl

end Cell

end CallBridge
