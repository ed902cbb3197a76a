import CallBridge.Script.Dispatch

/-!
# What happens while a thread waits

Other threads go on when the script's own thread waits: background consumers take turns, and the
tasks of transports go on in the order of the moments at which they are due, tasks of one moment
in the order of their start. The clock moves to the moment of the task that goes on. A take that
waited for a callback has a thread to wake up first, so tasks that are due are faster.

Between two steps time passes only until the transports are through with the calls that the script
has names for. Then the clock stands still, and what is due later is not seen yet.
-/

namespace CallBridge.Script

namespace World

variable (w : World)

def taskView (t : Task) : Loopback.View where
  now := w.clock
  cancelled := w.isCancelled t.call
  deadline := t.deadline

def laneReads (lane : Nat) : Loopback.StreamTask.Reads where
  waiting := ((w.lanes.find? lane).map fun l => l.asked - l.taken).getD 0
  laneOpen := w.laneOpen lane

def taskDue (t : Task) : Option Nat :=
  if t.busy then none
  else
    match t.serving with
    | .unary state _ => state.due (w.taskView t)
    | .stream state _ lane => state.due (w.taskView t) (w.laneReads lane)

/-- The final callback has returned, or nothing will happen until the held item is taken. -/
def isAtRest (id : CallId) : Bool :=
  match (w.call? id).map Member.body with
  | some (.unary u _) => u.cell.terminated && !w.brokenOff.contains id
  | some (.stream s _) =>
    (s.cell.status.isSome || (s.phase.isHeld && !s.cell.cancelled)) && !w.brokenOff.contains id
  | none => true

/-- A call with a name is in the hands of a transport, and something is still to happen on it. -/
def isRestless : Bool :=
  w.tasks.values.any fun t =>
    (w.callNames.values.any fun h => h.call == t.call) &&
      ((w.transports.find? t.transport).any Transport.alive && !w.isAtRest t.call)

/-- The task to go on with, and when. -/
def nextTask? : Option (Nat × Nat) :=
  w.tasks.bindings.foldl
    (fun best (i, t) =>
      match w.taskDue t, best with
      | none, _ => best
      | some due, some (_, earlier) => if due < earlier then some (i, due) else best
      | some due, none => some (i, due))
    none

end World

def setTask (i : Nat) (t : Task) : Act Unit :=
  modify fun w => { w with tasks := w.tasks.insert i t }

def endBusy (i : Nat) (panic : Option Panic) : Act Unit := do
  let t ← known ((← get).tasks.find? i)
  setTask i
    { t with busy := false, serving := if panic.isSome then t.serving.stopped else t.serving }

namespace Engine

variable (e : Engine)

/-- What the task of a stream reports is delivered, unless the application dropped the stream. -/
def deliverReport (t : Task) : Loopback.Report Datum → Act (Option Panic)
  | .item x => e.deliverItem t.thread t.call x
  | .closeReads => e.deliverClose t.thread t.call
  | .finish status => do
    if (← get).holds t.call then
      pinned t.call do
        report [Loopback.endLine t.call status]
        e.deliverEnd t.thread t.call status
    else
      report [Loopback.droppedLine t.call status]
      pure none

/-- Let a task go on until it reports something or has to wait. -/
def runTask (i : Nat) : Act Unit := do
  let w ← get
  let t ← known (w.tasks.find? i)
  let view := w.taskView t
  match t.serving with
  | .unary state outcome =>
    let (state, answer) := state.run view t.latency outcome
    match answer with
    | none => setTask i { t with serving := .unary state outcome }
    | some result => pinned t.call do
      setTask i { t with serving := .unary state outcome, busy := true }
      endBusy i =<< elsewhere do
        report (Loopback.unaryLines t.call result)
        e.deliverOutcome t.thread t.call result
  | .stream state outcome lane =>
    let reads := w.laneReads lane
    if state.takesRead view reads outcome then
      let l ← known (w.lanes.find? lane)
      modify fun w => { w with lanes := w.lanes.insert lane { l with taken := l.taken + 1 } }
    let (state, answer) := state.run view reads t.latency outcome
    let serving := Serving.stream state outcome lane
    match answer with
    | none => setTask i { t with serving }
    | some r =>
      setTask i { t with serving, busy := true }
      endBusy i =<< elsewhere (e.deliverReport t r)

/-- Let one other thread go on. The answer tells whether one did. Unless somebody `waits`, time
passes only while a call with a name is not at rest. -/
def progress (waits : Bool) : Act Bool := do
  if ← (← get).runners.keys.anyM e.pumpConsumer then pure true
  else
    let w ← get
    let next := w.nextTask?
    if w.takes.any w.canComplete && next.all fun (_, due) => w.clock < due then
      completeTakes
      pure true
    else match next with
    | none => pure false
    | some (i, due) =>
      if due ≤ w.clock || waits || w.isRestless then
        set { w with clock := max w.clock due }
        e.runTask i
        pure true
      else pure false

/-- Let other threads go on until the calls with names are at rest, or nobody can. -/
def settle : Act Unit := go e.patience
where
  go : Nat → Act Unit
    | 0 => failure
    | n + 1 => do
      if ← e.progress false then go n

def await (done : World → Bool) : Act Unit := go e.patience
where
  go : Nat → Act Unit
    | 0 => failure
    | n + 1 => do
      if done (← get) then pure ()
      else if ← e.progress true then go n
      else failure

end Engine

end CallBridge.Script
