import CallBridge.Call.Stream
import CallBridge.Call.Unary

/-!
# The loopback transport

A transport inside the process: services are plain functions, each call runs as a task of its own
and reports to the call from a worker thread. This module has the tasks as step machines; who
runs them, and when, is left to the caller, who tells each step what it can see of the world.

Whatever a task waits for, cancellation is looked at first, the deadline second and the awaited
event last, so a call that was cancelled before its task first ran never reaches its service.
-/

namespace CallBridge.Loopback

def target : String := "rpc_reactor::transport"

def cancelledByClient : Status := ⟨.cancelled, "call cancelled by client"⟩
def deadlineExceeded : Status := ⟨.deadlineExceeded, "deadline exceeded"⟩
def laneReleased : Status := ⟨.cancelled, "read stream released"⟩

structure Config where
  workers : Nat := 2
  threadName : String := "rpc-transport"
  /-- Milliseconds before each response and each stream item. -/
  latency : Nat := 0
deriving DecidableEq, Repr, Inhabited

def startedLine (c : Config) : Line :=
  ⟨.debug, target, "Transport runtime started with " ++ toString c.workers ++ " worker(s)"⟩

/-- The last moment that a clock can show: its seconds are a signed number of 64 bits. -/
def lastMoment : Nat := 9223372036854775807 * 1000 + 999

/-- When a call that is started now is to be given up. A start breaks off if no clock can show the
moment. -/
def deadline? (now : Nat) : Option Nat → Option (Option Nat)
  | none => some none
  | some timeout => if now + timeout ≤ lastMoment then some (some (now + timeout)) else none

/-- What a task sees when it is run: the time, and the limits set on its call. -/
structure View where
  now : Nat
  cancelled : Bool
  deadline : Option Nat
deriving Repr

/-- The status that ends whatever the task is waiting for. -/
def View.stop? (v : View) : Option Status :=
  if v.cancelled then some cancelledByClient
  else
    match v.deadline with
    | some d => if d ≤ v.now then some deadlineExceeded else none
    | none => none

def earliest (wake : Nat) : Option Nat → Nat
  | none => wake
  | some d => min wake d

/-! ## Single responses -/

/-- The task of a unary call: it waits out the latency, then asks the service. -/
inductive UnaryTask where
  | fresh
  | pausing (wake : Nat)
  | done
deriving DecidableEq, Repr

namespace UnaryTask

/-- Run the task as far as it goes. An answer is the call's outcome. -/
def run {α : Type} (t : UnaryTask) (v : View) (latency : Nat) (serve : Except Status α) :
    UnaryTask × Option (Except Status α) :=
  match t with
  | done => (done, none)
  | fresh => wait (v.now + latency)
  | pausing wake => wait wake
where
  wait (wake : Nat) : UnaryTask × Option (Except Status α) :=
    match v.stop? with
    | some s => (done, some (.error s))
    | none => if wake ≤ v.now then (done, some serve) else (pausing wake, none)

def due (t : UnaryTask) (v : View) : Option Nat :=
  match t with
  | done => none
  | fresh => some v.now
  | pausing wake => some (if v.cancelled then v.now else earliest wake v.deadline)

end UnaryTask

/-- The line that precedes the report of a failed call. -/
def unaryLines {α : Type} (call : CallId) : Except Status α → List Line
  | .ok _ => []
  | .error s => [⟨.debug, target, "Call " ++ call.text ++ " finished with " ++ s.text⟩]

/-! ## Streams -/

/-- The task of a stream: one read request is answered by one item, or by closing the read side
once the items are used up. -/
inductive StreamTask (α : Type) where
  | fresh
  | waiting (items : List α)
  /-- A request was taken; the latency runs until `wake`. -/
  | pausing (items : List α) (wake : Nat)
  | closing
  | done
deriving DecidableEq, Repr

inductive Report (α : Type) where
  | item (x : α)
  | closeReads
  | finish (status : Status)
deriving DecidableEq, Repr

namespace StreamTask

variable {α : Type}

structure Reads where
  waiting : Nat
  laneOpen : Bool
deriving Repr

/-- After the pause: the next item or the close. -/
def answer : List α → StreamTask α × Option (Report α)
  | [] => (closing, some .closeReads)
  | x :: rest => (waiting rest, some (.item x))

/-- The pause before an answer is over at `wake`. -/
def pause (v : View) (wake : Nat) (items : List α) : StreamTask α × Option (Report α) :=
  match v.stop? with
  | some s => (done, some (.finish s))
  | none => if wake ≤ v.now then answer items else (pausing items wake, none)

def await (v : View) (r : Reads) (latency : Nat) (items : List α) :
    StreamTask α × Option (Report α) :=
  match v.stop? with
  | some s => (done, some (.finish s))
  | none =>
    if 0 < r.waiting then pause v (v.now + latency) items
    else if r.laneOpen then (waiting items, none)
    else (done, some (.finish laneReleased))

/-- Run the task until it reports something or has to wait. -/
def run (t : StreamTask α) (v : View) (r : Reads) (latency : Nat)
    (serve : Except Status (List α)) : StreamTask α × Option (Report α) :=
  match t with
  | done => (done, none)
  | closing => (done, some (.finish .success))
  | fresh =>
    match v.stop?, serve with
    | some s, _ => (done, some (.finish s))
    | none, .error s => (done, some (.finish s))
    | none, .ok items => await v r latency items
  | waiting items => await v r latency items
  | pausing items wake => pause v wake items

/-- Whether running the task takes one read request off the lane. -/
def takesRead (t : StreamTask α) (v : View) (r : Reads) (serve : Except Status (List α)) : Bool :=
  match t, serve with
  | waiting _, _ => v.stop?.isNone && 0 < r.waiting
  | fresh, .ok _ => v.stop?.isNone && 0 < r.waiting
  | _, _ => false

def due (t : StreamTask α) (v : View) (r : Reads) : Option Nat :=
  match t with
  | done => none
  | fresh | closing => some v.now
  | waiting _ =>
    if v.cancelled || 0 < r.waiting || !r.laneOpen then some v.now else v.deadline
  | pausing _ wake => some (if v.cancelled then v.now else earliest wake v.deadline)

end StreamTask

/-- The line that precedes the report of a stream's end. -/
def endLine (call : CallId) (status : Status) : Line :=
  ⟨.debug, target, "Stream " ++ call.text ++ " finished with " ++ status.text⟩

/-- The line for a stream that the application dropped before its end. -/
def droppedLine (call : CallId) (status : Status) : Line :=
  ⟨.debug, target, "Stream " ++ call.text ++ " dropped by the application (" ++ status.text ++ ")"⟩

end CallBridge.Loopback
