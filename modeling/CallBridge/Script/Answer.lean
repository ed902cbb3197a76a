import CallBridge.Script.Step

/-!
# Answers of a script

Every step is answered by a result and by the trace of what happened on its thread meanwhile:
log lines, callbacks and handlers, each with the answers of its own steps.
-/

namespace CallBridge.Script

structure Snapshot where
  id : CallId
  isStream : Bool
  progress : Progress
  status : Option Status
  terminated : Bool
  ready : Bool
  cancelled : Bool
  /-- Phase, items, fetches and resumes of a stream. -/
  flow : Option (Phase × Nat × Nat × Nat)
deriving Repr

structure RecordedCall where
  call : CallId
  request : Datum
  /-- The call was asked to stop, or is gone. -/
  cancelled : Bool
  token : Bool
  hasDeadline : Bool
  /-- With a deadline: whether it has passed. -/
  expired : Option Bool
deriving Repr

structure RecordedLane where
  call : CallId
  reads : Nat
  alive : Bool
deriving Repr

inductive PayloadView where
  | none
  | number (n : Nat)
  | text (s : String)
  | unary (call : CallId)
  | stream (call : CallId)
  | wrapped (call : CallId)
deriving Repr

structure EventView where
  name : String
  call : Option CallId
  payload : PayloadView
  shape : String
deriving Repr

inductive Reply where
  | nothing
  | okay
  | flag (b : Bool)
  | count (n : Nat)
  | text (s : String)
  | key (k : Key)
  | item (x : Option Datum)
  | items (xs : List (Option Datum))
  | snapshot (s : Option Snapshot)
  | call (s : Snapshot)
  | liveCall (s : Option Snapshot)
  | recorded (calls : List RecordedCall) (lanes : List RecordedLane)
  | size (n : Nat)
  | policy (p : LoopPolicy)
  | event (e : EventView)
deriving Repr

inductive Result where
  | reply (r : Reply)
  | fault (f : Fault)
  | panicked (p : Panic)
  | noObject (name : String)
deriving Repr

inductive Callback where
  | done
  | item (x : Datum) (decision : Decision)
  | readsClosed
  | ended
deriving Repr

mutual

inductive Entry where
  | line (l : Line)
  | callback (kind : Callback) (on : String) (answers : List Answer) (thread : Option String)
      (panic : Option Panic)
  /-- A recording channel ran its own steps inside a start. -/
  | started (answers : List Answer)
  | handler (loop : String) (invocation : Nat) (event : EventView) (answers : List Answer)
      (thread : Option String) (panic : Option Panic)

inductive Answer where
  | mk (result : Result) (trace : List Entry)

end

namespace Answer

def result : Answer → Result
  | mk r _ => r

def trace : Answer → List Entry
  | mk _ t => t

end Answer

namespace Entry

/-- By whom an entry of another thread is filed: log lines come before everybody's entries. -/
def owner : Entry → String
  | callback _ on _ _ _ => on
  | handler loop _ _ _ _ _ => loop
  | line _ | started _ => ""

end Entry

structure RegisterView where
  size : Nat
  entries : List (Key × Admission.Entry)

structure LoopView where
  pending : Nat
  running : Bool
  isConsumer : Bool
deriving Repr

/-- The objects that a top-level step shows after it was carried out. -/
structure Watch where
  call : Option String := none
  register : Option String := none
  loop : Option String := none
deriving Repr

/-- The answer of a top-level step: beside its own answer, what other threads did meanwhile, and
the watched objects. Views of watched objects that do not exist are `none`. It is told when a call
could not be seen coming to rest. -/
structure TopAnswer where
  answer : Answer
  background : List Entry := []
  call : Option (Option Snapshot) := none
  register : Option (Option RegisterView) := none
  loop : Option (Option LoopView) := none
  unsettled : Bool := false

end CallBridge.Script
