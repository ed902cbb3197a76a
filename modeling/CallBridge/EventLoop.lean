import CallBridge.Call.Cell

/-!
# The event loop

Any thread may enqueue named events; one consumer at a time takes them from the queue and runs
the handler registered under each event's name. Events and stop markers share one queue, so a
stop asked for under the *drain* policy takes effect behind everything that was enqueued before.

Every atomic access of the loop's state is a function of its own, and the operations that an
application calls are compositions of them. Several counters describe the same queue: `pending`
counts events, `epoch` counts runs and dates the stop markers, `haltRequested` says that the
current run has one under way.
-/

namespace CallBridge

/-- A named notification for the consumer, with the call it came from, if any. -/
structure Event (π : Type) where
  name : String
  payload : Option π := none
  call : Option CallId := none
deriving DecidableEq, Repr

namespace Event

variable {π : Type}

def shape (e : Event π) : String :=
  Text.shapeRecord "Event"
    [("name", Text.quote e.name), ("call_id", Text.shapeOption CallId.shape e.call),
      ("has_payload", Text.shapeBool e.payload.isSome)]

end Event

inductive FailurePolicy where
  | reportAndContinue
  | propagate
deriving DecidableEq, Repr, Inhabited

inductive HaltPolicy where
  | drain
  | abandon
deriving DecidableEq, Repr, Inhabited

structure LoopPolicy where
  threadName : String := "reactor-scheduler"
  onFailure : FailurePolicy := .reportAndContinue
  onHalt : HaltPolicy := .drain
deriving DecidableEq, Repr, Inhabited

inductive Message (π : Type) where
  | event (e : Event π)
  /-- Stop marker for the run with this number. -/
  | halt (epoch : Nat)
deriving DecidableEq, Repr

/-- Where the receiving end of the queue is. -/
inductive Receiver where
  | home
  | away
  | lost
deriving DecidableEq, Repr

def loopTarget : String := "rpc_reactor::scheduler"

/-- An event loop. Handlers are known by name only; what they do is up to whoever dispatches. -/
structure EventLoop (π : Type) where
  policy : LoopPolicy
  queue : List (Message π) := []
  pending : Nat := 0
  receiver : Receiver := .home
  running : Bool := false
  haltRequested : Bool := false
  epoch : Nat := 0
  consumer : Option Nat := none
  handlers : List String := []
deriving DecidableEq, Repr

namespace EventLoop

variable {π : Type}

private def note (message : String) : Line := ⟨.debug, loopTarget, message⟩

/-! ## Handlers -/

def hasHandler (l : EventLoop π) (name : String) : Bool := name ∈ l.handlers

def register (l : EventLoop π) (name : String) : Outcome (EventLoop π) (Except Fault Unit) :=
  if l.hasHandler name then
    { state := l
      answer := .error (.duplicateHandler name)
      lines := [⟨.error, loopTarget, "Refusing second handler for event " ++ name⟩] }
  else
    { state := { l with handlers := l.handlers ++ [name] }
      answer := .ok ()
      lines := [note ("Registered handler for " ++ name)] }

/-! ## Enqueueing -/

/-- The queue accepts messages as long as its receiving end exists. -/
def isOpen (l : EventLoop π) : Bool := l.receiver != .lost

/-- First step of enqueueing: count the event. -/
def announce (l : EventLoop π) : EventLoop π := { l with pending := l.pending + 1 }

/-- Second step: append to the queue. `none` when the queue is gone. -/
def send (l : EventLoop π) (m : Message π) : Option (EventLoop π) :=
  if l.isOpen then some { l with queue := l.queue ++ [m] } else none

/-- Last step when the queue was gone: take the count back. -/
def withdraw (l : EventLoop π) : EventLoop π := { l with pending := l.pending - 1 }

def enqueue (l : EventLoop π) (e : Event π) : Outcome (EventLoop π) (Except Fault Unit) :=
  let lines := [⟨.trace, loopTarget, "Enqueue " ++ e.name ++ " (call " ++
    Text.shapeOption CallId.shape e.call ++ ")"⟩]
  match l.announce.send (.event e) with
  | some l' => { state := l', answer := .ok (), lines }
  | none => { state := l.announce.withdraw, answer := .error .closed, lines }

/-! ## Stopping -/

/-- Second step of a halt, after `running` was seen: raise the flag. The answer tells whether
this request is the first one of the run. -/
def requestHalt (l : EventLoop π) : EventLoop π × Bool :=
  ({ l with haltRequested := true }, !l.haltRequested)

/-- Last step of a first request: send the marker of the current run. -/
def sendHalt (l : EventLoop π) : EventLoop π × Bool :=
  match l.send (.halt l.epoch) with
  | some l' => (l', true)
  | none => (l, false)

/-- Ask the current run to stop. `false` when there is none. -/
def halt (l : EventLoop π) : Outcome (EventLoop π) Bool :=
  if l.running = false then { state := l, answer := false }
  else
    let (flagged, first) := l.requestHalt
    if first then
      { state := flagged.sendHalt.1
        answer := flagged.sendHalt.2
        lines := [note "Halt requested"] }
    else { state := flagged, answer := true }

/-! ## Runs -/

/-- First step of a claim: take the receiver and raise `running`. -/
def takeReceiver (l : EventLoop π) : Except Fault (EventLoop π) :=
  if l.running then .error .alreadyRunning
  else
    match l.receiver with
    | .home => .ok { l with receiver := .away, running := true }
    | .away | .lost => .error .closed

def clearHalt (l : EventLoop π) : EventLoop π := { l with haltRequested := false }

def nextEpoch (l : EventLoop π) : EventLoop π := { l with epoch := l.epoch + 1 }

/-- Become the loop's only run. -/
def claim (l : EventLoop π) : Except Fault (EventLoop π) :=
  l.takeReceiver.map fun taken => taken.clearHalt.nextEpoch

def begin (l : EventLoop π) (thread : Thread) : Outcome (EventLoop π) Unit where
  state := { l with consumer := some thread.serial }
  answer := ()
  lines := [note ("Consumer started on thread " ++ Text.shapeOption Text.quote thread.name ++
    " (run " ++ toString l.epoch ++ ")")]

inductive Turn (π : Type) where
  | stop
  | wait
  /-- A marker of an earlier run was dropped. -/
  | skip
  | dispatch (e : Event π)
deriving DecidableEq, Repr

def receive (l : EventLoop π) : Option (Message π × EventLoop π) :=
  match l.queue with
  | [] => none
  | m :: rest => some (m, { l with queue := rest })

def countDown (l : EventLoop π) : EventLoop π := { l with pending := l.pending - 1 }

/-- One turn of the consumer: under the abandon policy a requested stop comes first; otherwise
the head of the queue decides. -/
def turn (l : EventLoop π) : EventLoop π × Turn π :=
  if l.policy.onHalt = .abandon ∧ l.haltRequested = true then (l, .stop)
  else
    match l.receive with
    | none => (l, .wait)
    | some (.halt epoch, l') => (l', if epoch = l.epoch then .stop else .skip)
    | some (.event e, l') => (l'.countDown, .dispatch e)

/-- After a failed dispatch: the failure that ends the run, or a line and on. -/
def afterFailure (l : EventLoop π) (f : Fault) : Option Fault × List Line :=
  match l.policy.onFailure with
  | .reportAndContinue => (none, [⟨.error, loopTarget, f.text⟩])
  | .propagate => (some f, [])

/-- The run is over: the receiver goes home and the flags fall. -/
def finish (l : EventLoop π) : Outcome (EventLoop π) Unit where
  state := { l with consumer := none, receiver := .home, haltRequested := false, running := false }
  answer := ()
  lines := [note ("Consumer stopped (run " ++ toString l.epoch ++ ")")]

def lose (l : EventLoop π) : EventLoop π := { l with receiver := .lost, queue := [] }

/-- A loop that is destroyed reports the failure of a background run that nobody asked for. -/
def unreported (f : Fault) : Line :=
  ⟨.warn, loopTarget, "Consumer stopped with error: " ++ f.text⟩

def senderShape (l : EventLoop π) : String :=
  Text.shapeRecord "EventSender" [("pending", toString l.pending)]

/-! ## Simple laws -/

def events (q : List (Message π)) : List (Event π) :=
  q.filterMap fun
    | .event e => some e
    | .halt _ => none

@[simp] theorem events_append (p q : List (Message π)) : events (p ++ q) = events p ++ events q :=
  List.filterMap_append

@[simp] theorem events_nil : events ([] : List (Message π)) = [] := rfl
@[simp] theorem events_cons_event (e : Event π) (q : List (Message π)) :
    events (.event e :: q) = e :: events q := rfl
@[simp] theorem events_cons_halt (n : Nat) (q : List (Message π)) :
    events (.halt n :: q) = events q := rfl

end EventLoop

end CallBridge
