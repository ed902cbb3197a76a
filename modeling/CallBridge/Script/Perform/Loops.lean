import CallBridge.Script.Perform.Calls

/-!
# Steps on event loops

A loop goes when its name does, unless an operation is still under way on it: then that operation
takes it along when it is over. A loop that goes is asked to stop and waited for first.
-/

namespace CallBridge.Script

def namedLoop (name : String) : StepAct Nat := do named (← get).loopNames name

def namedOutlet (name : String) : StepAct Nat := do named (← get).outlets name

def specifiedPayload : PayloadSpec → StepAct (Option Payload)
  | .none => pure none
  | .number n => pure (some (.number n))
  | .text s => pure (some (.text s))
  | .object name => do
    let h ← named (← get).callNames name
    pure (some (.call h.call h.wrapped))

/-- An event that carries a call and is tagged with it. -/
def callEvent (name call : String) : StepAct (Event Payload) := do
  let h ← named (← get).callNames call
  pure { name, payload := some (.call h.call h.wrapped), call := some h.call }

def enqueueOn (i : Nat) (ev : Event Payload) : StepAct Reply := do
  allow (← advanceLoop i (·.enqueue ev))
  pure .okay

def register (loop name : String) (handler : Reaction) : StepAct Reply := do
  let i ← namedLoop loop
  allow (← advanceLoop i (·.register name))
  let r ← runner i
  setRunner i { r with handlers := r.handlers.insert name (handler, 0) }
  pure .okay

def newOutlet (loop as : String) : StepAct Reply := do
  let i ← namedLoop loop
  modify fun w => { w with outlets := w.outlets.insert as i }
  pure .nothing

def newEvent (as : String) (ev : Event Payload) : StepAct Reply := do
  modify fun w => { w with events := w.events.insert as ev }
  return .event ((← get).eventView ev)

def noCall : Reply := .text "no reactor"

def takePayload (ctx : Context) : StepAct Reply := do
  match ctx.event.bind Event.payload with
  | some (.call id _) => return .item (← takeFrom ctx.thread id)
  | _ => pure noCall

def payloadStatus (ctx : Context) : StepAct Reply := do
  match ctx.event.bind Event.payload with
  | some (.call id false) =>
    match (← member id).body.cell.status with
    | some s => pure (.text s.text)
    | none => pure .nothing
  | _ => pure noCall

/-- The result of the consumer on the thread with the given number, once it has stopped. -/
def World.consumerResult? (w : World) (i thread : Nat) : Option (Except Fault Unit) := do
  let c ← (← w.runners.find? i).consumer
  if c.thread.serial = thread then c.result else none

def noteJoined (i : Nat) : Act Unit :=
  modify fun w => { w with active := w.active.filter (· != i) }

namespace Engine

variable (e : Engine)

/-! ## Runs -/

/-- Consume events on `thread` until the run ends; an empty queue lets other threads go on. -/
def consume (thread : Thread) (i : Nat) : Act (Except Fault Unit) := go e.patience
where
  go : Nat → Act (Except Fault Unit)
    | 0 => failure
    | n + 1 => do
      match ← e.turn thread i with
      | .ended result =>
        finishRun i
        pure result
      | .going => go n
      | .waiting => if ← e.progress true then go n else failure

def runHere (thread : Thread) (i : Nat) : Act (Except Fault Unit) := do
  let r ← runner i
  match r.loop.claim with
  | .error f => pure (.error f)
  | .ok loop =>
    setRunner i { r with loop }
    advanceLoop i (·.begin thread)
    e.consume thread i

/-- Wait for the background consumer. On its own thread, or when somebody else waits for it
already, there is nothing to wait for. -/
def join (thread : Thread) (i : Nat) : Act (Except Fault Unit) := do
  match (← runner i).consumer with
  | none => pure (.ok ())
  | some c =>
    if c.claimed || c.thread.serial == thread.serial then pure (.ok ())
    else
      setConsumer i fun c => { c with claimed := true }
      e.await fun w => (w.consumerResult? i c.thread.serial).isSome
      let result ← known ((← get).consumerResult? i c.thread.serial)
      setRunner i { ← runner i with consumer := none }
      pure result

/-- The loop goes: it is stopped and waited for, and a failure that nobody has seen is reported.
From its own consumer it only goes when that has stopped. -/
def retire (thread : Thread) (i : Nat) : Act Unit := do
  noteJoined i
  let _ ← advanceLoop i EventLoop.halt
  if let .error f ← e.join thread i then
    report [EventLoop.unreported f]
  let r ← runner i
  if (r.consumer.map fun c => c.result.isNone).getD false then
    setRunner i { r with doomed := true }
  else
    setRunner i { r with loop := r.loop.lose }

/-- Take the loop along if neither a name nor another operation refers to it. -/
def retireIfUnused (thread : Thread) (i : Nat) : Act Unit := do
  if (← runner i).users = 0 && !(← get).loopNames.values.contains i then
    e.retire thread i

/-- Keep the loop in existence during an operation that waits. -/
def during {α : Type} (thread : Thread) (i : Nat) (act : Act α) : Act α := do
  let r ← runner i
  setRunner i { r with users := r.users + 1 }
  let a ← act
  let r ← runner i
  setRunner i { r with users := r.users - 1 }
  e.retireIfUnused thread i
  pure a

/-! ## Steps -/

def newLoop (ctx : Context) (as : String) (policy : LoopPolicy) : StepAct Reply := do
  let w ← get
  let i := w.runners.size
  set { w with
    runners := w.runners.insert i { name := as, loop := { policy } }
    loopNames := w.loopNames.insert as i }
  if let some old := w.loopNames.find? as then
    e.retireIfUnused ctx.thread old
  pure (.policy policy)

def dropLoop (ctx : Context) (name : String) : StepAct Reply := do
  match (← get).loopNames.find? name with
  | none => pure (.flag false)
  | some i =>
    modify fun w => { w with loopNames := w.loopNames.erase name }
    noteJoined i
    e.retireIfUnused ctx.thread i
    pure (.flag true)

def run (ctx : Context) (name : String) : StepAct Reply := do
  let i ← namedLoop name
  allow (← e.during ctx.thread i (e.runHere ctx.thread i))
  pure .okay

/-- Start a background run. When its thread cannot be made the queue is lost and the loop stays
marked as running. -/
def runAside (name : String) : StepAct Reply := do
  let i ← namedLoop name
  let r ← runner i
  let loop ← allow r.loop.claim
  match threadNameFault? loop.policy.threadName with
  | some p =>
    setRunner i { r with loop := loop.lose, consumer := none }
    StepAct.stop (.panicked p)
  | none =>
    let thread ← freshThread (some loop.policy.threadName)
    setRunner i { r with loop, consumer := some { thread } }
    modify fun w => { w with active := w.active ++ [i] }
    pure .okay

def joinRun (ctx : Context) (name : String) : StepAct Reply := do
  let i ← namedLoop name
  let consumer := (← runner i).consumer
  let result ← e.during ctx.thread i (e.join ctx.thread i)
  if (consumer.map fun c => c.thread.serial != ctx.thread.serial).getD true then
    noteJoined i
  allow result
  pure .okay

def awaitStopped (ctx : Context) (name : String) : StepAct Reply := do
  let i ← namedLoop name
  e.during ctx.thread i
    (e.await fun w => ((w.runners.find? i).map fun r => !r.loop.running).getD true)
  return .flag (← runner i).loop.running

end Engine

end CallBridge.Script
