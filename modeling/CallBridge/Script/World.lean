import CallBridge.Script.Answer

/-!
# The world of a running script

A world holds the objects that a script has made: calls, channels, transports, registers,
reservations, event loops, outlets and events, each kind with its own names. Objects are never
removed from their stores; whether an object is still referenced is a question that is answered by
looking (`World.holds`), so nothing has to be kept in step with it.

Time is a counter of milliseconds that only moves when everybody waits. The world's actions are
functions from worlds to worlds; an action without a result has run out of patience.
-/

namespace CallBridge.Script

/-- What an event carries while a script runs. -/
inductive Payload where
  | number (n : Nat)
  | text (s : String)
  | call (id : CallId) (wrapped : Bool)
deriving DecidableEq, Repr

namespace Payload

def call? : Payload → Option CallId
  | call id _ => some id
  | number _ | text _ => none

end Payload

/-- The callbacks of a stream, and how often the two that can repeat were run. -/
structure StreamHooks where
  onItem : Reaction
  onEnd : Reaction
  onClosed : Option Reaction
  shown : Nat := 0
  closed : Nat := 0

inductive Body where
  | unary (call : Unary Datum) (onDone : Reaction)
  | stream (call : Stream Datum) (hooks : StreamHooks)

namespace Body

def cell : Body → Cell Datum
  | unary u _ => u.cell
  | stream s _ => s.cell

def withCell (b : Body) (cell : Cell Datum) : Body :=
  match b with
  | unary u h => unary { u with cell } h
  | stream s h => stream { s with cell } h

def isStream : Body → Bool
  | unary .. => false
  | stream .. => true

def started : Body → Bool
  | unary u _ => u.started
  | stream s _ => s.started

def timeout : Body → Option Nat
  | unary u _ => u.timeout
  | stream s _ => s.timeout

def launch : Body → Outcome Body (Except Fault Unit)
  | unary u h => u.launch.within (unary · h)
  | stream s h => s.launch.within (stream · h)

def overflow : Body → Body
  | unary u h => unary u.overflow h
  | stream s h => stream s.overflow h

/-- An item's callback is running. Callbacks of responses do not keep takes waiting. -/
def isInspected : Body → Bool
  | unary .. => false
  | stream s _ => s.cell.inspector.isSome

def isOver : Body → Bool
  | unary u _ => u.cell.terminated
  | stream s _ => s.cell.status.isSome

end Body

/-- A call under the name it was made with, which its callbacks report. -/
structure Member where
  name : String
  body : Body

/-- A name of a call: the call itself or a wrapper around it. -/
structure Holding where
  call : CallId
  wrapped : Bool

/-- The transport's side of a stream: read requests made and taken. -/
structure Lane where
  call : CallId
  asked : Nat := 0
  taken : Nat := 0

structure Recorder where
  onStart : List Step
  starts : List (CallId × Datum × Option Nat) := []
  lanes : List Nat := []

inductive Channel where
  | recorder (r : Recorder)
  | service (transport : Nat) (service : Service) (streams : Bool) (latency : Nat)

/-- A loopback transport; its tasks run as long as it is alive. -/
structure Transport where
  config : Loopback.Config
  alive : Bool := true

inductive Serving where
  | unary (state : Loopback.UnaryTask) (outcome : Except Status Datum)
  | stream (state : Loopback.StreamTask Datum) (outcome : Except Status (List Datum)) (lane : Nat)

namespace Serving

def isOver : Serving → Bool
  | unary .done _ => true
  | stream .done _ _ => true
  | _ => false

/-- The task as it is after a panic in a callback, or after its transport died. -/
def stopped : Serving → Serving
  | unary _ o => unary .done o
  | stream _ o l => stream .done o l

end Serving

structure Task where
  call : CallId
  transport : Nat
  thread : Thread
  latency : Nat
  deadline : Option Nat
  serving : Serving
  busy : Bool := false

structure Consumer where
  thread : Thread
  begun : Bool := false
  busy : Bool := false
  /-- Somebody waits for it, or nobody ever will. -/
  claimed : Bool := false
  result : Option (Except Fault Unit) := none

structure Runner where
  name : String
  loop : EventLoop Payload
  /-- Each handler with the number of its invocations so far. -/
  handlers : Table String (Reaction × Nat) := {}
  consumer : Option Consumer := none
  /-- Operations under way that keep the loop in existence. -/
  users : Nat := 0
  /-- The loop goes when its consumer has stopped. -/
  doomed : Bool := false

/-- A take on a thread of its own: without a result it has claimed the item and waits for the
callback that is inspecting it. -/
structure AsideTake where
  call : CallId
  thread : Thread
  result : Option (Option Datum) := none

/-- All objects of a script, and everything it has reported. -/
structure World where
  verbosity : Option Level := none
  clock : Nat := 0
  calls : Table CallId Member := {}
  lanes : Table Nat Lane := {}
  transports : Table Nat Transport := {}
  tasks : Table Nat Task := {}
  registers : Table Nat Admission.Register := {}
  runners : Table Nat Runner := {}
  callNames : Table String Holding := {}
  channels : Table String Channel := {}
  transportNames : Table String Nat := {}
  registerNames : Table String Nat := {}
  reservations : Table String (Nat × Key) := {}
  loopNames : Table String Nat := {}
  outlets : Table String Nat := {}
  events : Table String (Event Payload) := {}
  /-- Calls that an operation under way keeps in existence. -/
  pins : List CallId := []
  /-- Calls whose latest callback did not return. -/
  brokenOff : List CallId := []
  takes : List AsideTake := []
  threads : Nat := 1
  trace : Array Entry := #[]
  background : Array Entry := #[]
  active : List Nat := []

/-- An action on the world; without a result it has run out of patience. -/
abbrev Act := StateT World Option

/-! ## References -/

namespace World

variable (w : World)

def call? (id : CallId) : Option Member := w.calls.find? id

def knownRegisters : List Admission.Register :=
  (w.registerNames.values ++ w.reservations.values.map Prod.fst).filterMap w.registers.find?

def knownPayloads : List Payload :=
  (w.runners.values.flatMap fun r => (EventLoop.events r.loop.queue).filterMap Event.payload) ++
    w.events.values.filterMap Event.payload

/-- Whether the transport's task of a single response refers to the call. -/
def servesUnary (id : CallId) : Bool :=
  w.tasks.values.any fun t =>
    match t.serving with
    | .unary _ _ => t.call == id && !t.serving.isOver
    | .stream .. => false

/-- Whether anything but a stream's own task still refers to the call. -/
def holds (id : CallId) : Bool :=
  w.pins.contains id ||
    (w.callNames.values.any fun h => h.call == id) ||
    (w.knownRegisters.any fun r => r.liveCalls.contains id) ||
    (w.knownPayloads.any fun p => p.call? == some id) ||
    w.servesUnary id

/-- Whether the transport sees the call as cancelled: on request, or because it is gone. -/
def isCancelled (id : CallId) : Bool :=
  match w.call? id with
  | some m => m.body.cell.cancelled || !w.holds id
  | none => true

/-- Whether the stream of a lane may still ask for items on it. -/
def laneOpen (lane : Nat) : Bool :=
  match w.lanes.find? lane with
  | some l =>
    match (w.call? l.call).map Member.body with
    | some (.stream s _) => s.phase.lane? == some lane && w.holds l.call
    | _ => false
  | none => false

def keeps (l : Line) : Bool :=
  match w.verbosity with
  | some v => l.level.rank ≤ v.rank
  | none => false

end World

/-! ## Reporting -/

def record (es : List Entry) : Act Unit :=
  modify fun w => { w with trace := w.trace ++ es.toArray }

def report (lines : List Line) : Act Unit := do
  record ((lines.filter (← get).keeps).map Entry.line)

def collect {α : Type} (act : Act α) : Act (α × List Entry) := do
  let before := (← get).trace
  modify fun w => { w with trace := #[] }
  let a ← act
  let es := (← get).trace.toList
  modify fun w => { w with trace := before }
  pure (a, es)

/-- Let another thread act: what it reports goes to the background. -/
def elsewhere {α : Type} (act : Act α) : Act α := do
  let (a, es) ← collect act
  modify fun w => { w with background := w.background ++ es.toArray }
  pure a

def freshThread (name : Option String) : Act Thread := do
  let serial := (← get).threads
  modify fun w => { w with threads := serial + 1 }
  pure { serial, name }

/-! ## Objects -/

/-- An object that a well-formed world has. -/
def known {α : Type} (x : Option α) : Act α :=
  match x with
  | some a => pure a
  | none => failure

def member (id : CallId) : Act Member := do known ((← get).call? id)

def setBody (id : CallId) (body : Body) : Act Unit := do
  let m ← member id
  modify fun w => { w with calls := w.calls.insert id { m with body } }

def advanceCall {α : Type} (id : CallId) (o : Outcome Body α) : Act α := do
  setBody id o.state
  report o.lines
  pure o.answer

def pinned {α : Type} (id : CallId) (act : Act α) : Act α := do
  modify fun w => { w with pins := id :: w.pins }
  let a ← act
  modify fun w => { w with pins := w.pins.erase id }
  pure a

def runner (i : Nat) : Act Runner := do known ((← get).runners.find? i)

def setRunner (i : Nat) (r : Runner) : Act Unit :=
  modify fun w => { w with runners := w.runners.insert i r }

def advanceLoop {α : Type} (i : Nat) (f : EventLoop Payload → Outcome (EventLoop Payload) α) :
    Act α := do
  let r ← runner i
  let o := f r.loop
  setRunner i { r with loop := o.state }
  report o.lines
  pure o.answer

def setConsumer (i : Nat) (f : Consumer → Consumer) : Act Unit := do
  let r ← runner i
  setRunner i { r with consumer := r.consumer.map f }

def advanceRegister {α : Type} (i : Nat)
    (f : Admission.Register → Outcome Admission.Register α) : Act α := do
  let r ← known ((← get).registers.find? i)
  let o := f r
  modify fun w => { w with registers := w.registers.insert i o.state }
  report o.lines
  pure o.answer

def askRead (lane : Option Nat) : Act Unit :=
  match lane with
  | none => pure ()
  | some i => do
    let l ← known ((← get).lanes.find? i)
    modify fun w => { w with lanes := w.lanes.insert i { l with asked := l.asked + 1 } }

def takeFrom (thread : Thread) (id : CallId) : Act (Option Datum) := do
  match (← member id).body with
  | .unary u h => advanceCall id ((u.take thread.serial).within (Body.unary · h))
  | .stream s h =>
    let (x, lane) ← advanceCall id ((s.take thread.serial).within (Body.stream · h))
    askRead lane
    pure x

def cancelCall (id : CallId) : Act Unit := do
  let body := (← member id).body
  advanceCall id (body.cell.cancel.within body.withCell)

end CallBridge.Script
