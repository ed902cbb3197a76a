import CallBridge.Script.Background

/-!
# Steps on calls and channels

Making and starting calls, what the application does with them, and what the transport reports
when the script plays its part. A step ends early when it names something that does not exist,
when the bridge refuses it, or with a panic.
-/

namespace CallBridge.Script

/-- A step under way: it may end early, with a result of its own. -/
@[ext]
structure StepAct (α : Type) where
  attempt : Act (Except Result α)

namespace StepAct

instance : Monad StepAct where
  pure a := ⟨pure (.ok a)⟩
  bind x f := ⟨do
    match ← x.attempt with
    | .ok a => (f a).attempt
    | .error r => pure (.error r)⟩

instance : MonadLift Act StepAct := ⟨fun act => ⟨do return .ok (← act)⟩⟩

def stop {α : Type} (r : Result) : StepAct α := ⟨pure (.error r)⟩

end StepAct

def named {α : Type} (t : Table String α) (name : String) : StepAct α :=
  match t.find? name with
  | some a => pure a
  | none => StepAct.stop (.noObject name)

def namedCall (name : String) : StepAct CallId := do
  return (← named (← get).callNames name).call

def allow {α : Type} (r : Except Fault α) : StepAct α :=
  match r with
  | .ok a => pure a
  | .error f => StepAct.stop (.fault f)

/-- End as an operation has ended that may be refused or break off. -/
def conclude (r : Except Result Unit) : StepAct Reply :=
  match r with
  | .ok () => pure .okay
  | .error r => StepAct.stop r

/-- End with the panic of a callback. -/
def unwind (panic : Option Panic) : StepAct Reply :=
  match panic with
  | some p => StepAct.stop (.panicked p)
  | none => pure .nothing

/-- The call of a name, if it is of the wanted kind. -/
def namedCallOf (streams : Bool) (name : String) : StepAct CallId := do
  let id ← namedCall name
  if (← member id).body.isStream = streams then pure id
  else StepAct.stop (.noObject name)

/-! ## The application's side -/

def newCall (name : String) (body : CallId → Body) : StepAct Reply := do
  let id : CallId := ⟨(← get).calls.size + 1⟩
  modify fun w => { w with
    calls := w.calls.insert id { name, body := body id }
    callNames := w.callNames.insert name { call := id, wrapped := false } }
  pure (.count id.serial)

def wrapCall (on as : String) : StepAct Reply := do
  let h ← named (← get).callNames on
  modify fun w => { w with callNames := w.callNames.insert as { h with wrapped := true } }
  pure .nothing

def describeCall (on : String) : StepAct Reply := do
  let id ← namedCall on
  pure (.call (← member id).body.snapshot)

def stateOfCall (on : String) : StepAct Reply := do
  let w ← get
  pure (.snapshot ((w.callNames.find? on).bind fun h => w.snapshot? h.call))

def shapeOfCall (on : String) : StepAct Reply := do
  let h ← named (← get).callNames on
  if h.wrapped then pure .nothing
  else pure (.text (← member h.call).body.shape)

def dropCall (on : String) : StepAct Reply := do
  let there := (← get).callNames.contains on
  modify fun w => { w with callNames := w.callNames.erase on }
  pure (.flag there)

/-- A take on a thread of its own. While the item is being inspected the take only claims it. -/
def takeAside (on : String) : StepAct Reply := do
  let id ← namedCall on
  let thread ← freshThread none
  let body := (← member id).body
  if body.isInspected then
    match body.cell.claim with
    | some cell =>
      setBody id (body.withCell cell)
      modify fun w => { w with takes := w.takes ++ [{ call := id, thread }] }
    | none =>
      modify fun w => { w with takes := w.takes ++ [{ call := id, thread, result := some none }] }
  else
    let x ← elsewhere (takeFrom thread id)
    modify fun w => { w with takes := w.takes ++ [{ call := id, thread, result := some x }] }
  pure (.flag (← member id).body.cell.ready)

/-- The items that takes on other threads have brought since this was last asked. -/
def joinTakes : StepAct Reply := do
  completeTakes
  let xs ← (← get).takes.mapM fun t => known t.result
  modify fun w => { w with takes := [] }
  pure (.items xs)

/-! ## Channels and transports -/

/-- Why a text cannot be the name of a thread: it contains a zero character. -/
def threadNameFault? (name : String) : Option Panic :=
  let bytes := name.toUTF8.data.toList
  if bytes.contains 0 then
    some (.text ("thread name may not contain interior null bytes: NulError(" ++
      toString (bytes.idxOf 0) ++ ", " ++ Text.shapeList (fun b => toString b.toNat) bytes ++ ")"))
  else none

def transportFault? (c : Loopback.Config) : Option Panic :=
  if c.workers = 0 then some (.fixedText "Worker threads cannot be set to 0")
  else threadNameFault? c.threadName

/-- The transport goes, and with it the tasks of its calls. -/
def killTransport (i : Nat) : Act Unit := do
  let tr ← known ((← get).transports.find? i)
  modify fun w => { w with transports := w.transports.insert i { tr with alive := false } }
  for (j, t) in (← get).tasks.bindings do
    if t.transport = i then
      setTask j { t with serving := t.serving.stopped }

def newTransport (as : String) (config : Loopback.Config) : StepAct Reply := do
  let _ ← unwind (transportFault? config)
  report [Loopback.startedLine config]
  let i := (← get).transports.size
  let old := (← get).transportNames.find? as
  modify fun w => { w with
    transports := w.transports.insert i { config }
    transportNames := w.transportNames.insert as i }
  if let some j := old then
    killTransport j
  pure (.count config.latency)

def dropTransport (name : String) : StepAct Reply := do
  match (← get).transportNames.find? name with
  | none => pure (.flag false)
  | some i =>
    modify fun w => { w with transportNames := w.transportNames.erase name }
    killTransport i
    pure (.flag true)

def newService (as transport : String) (service : Service) (streams : Bool)
    (latency : Option Nat) : StepAct Reply := do
  let i ← named (← get).transportNames transport
  let tr ← known ((← get).transports.find? i)
  let channel := Channel.service i service streams (latency.getD tr.config.latency)
  modify fun w => { w with channels := w.channels.insert as channel }
  pure .nothing

def newRecorder (as : String) (onStart : List Step) : StepAct Reply := do
  modify fun w => { w with channels := w.channels.insert as (.recorder { onStart }) }
  pure .nothing

def recordedOf (name : String) : StepAct Reply := do
  match ← named (← get).channels name with
  | .recorder r => pure ((← get).recorded r)
  | .service .. => StepAct.stop (.noObject name)

/-! ## Starting a call -/

/-- With what a start breaks off whose deadline no clock can show. -/
def overflowPanic : Panic := .text "overflow when adding duration to instant"

/-- Win the right to start the call, and tell when it is to be given up. -/
def launch (id : CallId) : Act (Except Result (Option Nat)) := do
  let body := (← member id).body
  let deadline := Loopback.deadline? (← get).clock body.timeout
  if deadline.isNone && !body.started then
    setBody id body.overflow
    pure (.error (.panicked overflowPanic))
  else
    match ← advanceCall id body.launch with
    | .ok () => pure (.ok (deadline.getD none))
    | .error f => pure (.error (.fault f))

def openLane (id : CallId) : Act (Option Nat) := do
  if (← member id).body.isStream then
    let i := (← get).lanes.size
    modify fun w => { w with lanes := w.lanes.insert i { call := id } }
    pure (some i)
  else pure none

/-- Ask for the first item of a stream whose start has returned. -/
def attachLane (id : CallId) (lane : Option Nat) : Act Unit := do
  match lane, (← member id).body with
  | some i, .stream s h =>
    let (s, read) := s.attach i
    setBody id (.stream s h)
    askRead read
  | _, _ => pure ()

def pushTask (id : CallId) (transport : Nat) (service : Service) (latency : Nat)
    (request : Datum) (deadline : Option Nat) (lane : Option Nat) : Act Unit := do
  let tr ← known ((← get).transports.find? transport)
  if tr.alive then
    let thread ← freshThread (some tr.config.threadName)
    let serving :=
      match lane with
      | none => Serving.unary .fresh (service.respond request)
      | some i => Serving.stream .fresh (service.stream request) i
    setTask (← get).tasks.size { call := id, transport, thread, latency, deadline, serving }

namespace Engine

variable (e : Engine)

/-- A hand-driven channel notes the call and then runs its own steps. -/
def recordStart (ctx : Context) (via : String) (r : Recorder) (id : CallId) (request : Datum)
    (deadline : Option Nat) (lane : Option Nat) : Act Unit := do
  let noted := { r with
    starts := r.starts ++ [(id, request, deadline)], lanes := r.lanes ++ lane.toList }
  modify fun w => { w with channels := w.channels.insert via (.recorder noted) }
  if !r.onStart.isEmpty then
    let answers ← r.onStart.mapM (e.nested { thread := ctx.thread })
    record [.started answers]

/-- The channel takes the call. When it returns, the first item of a stream is asked for. -/
def openOn (ctx : Context) (id : CallId) (via : String) (channel : Channel) (request : Datum)
    (deadline : Option Nat) : Act Unit := do
  let lane ← openLane id
  match channel with
  | .recorder r => e.recordStart ctx via r id request deadline lane
  | .service transport service _ latency =>
    pushTask id transport service latency request deadline lane
  attachLane id lane

def startOn (ctx : Context) (id : CallId) (via : String) (channel : Channel) (request : Datum) :
    Act (Except Result Unit) := pinned id do
  match ← launch id with
  | .error r => pure (.error r)
  | .ok deadline =>
    e.openOn ctx id via channel request deadline
    pure (.ok ())

def start (ctx : Context) (on via : String) (request : Datum) : StepAct Reply := do
  let id ← namedCall on
  let channel ← named (← get).channels via
  if let .service _ _ streams _ := channel then
    if (← member id).body.isStream != streams then
      StepAct.stop (.noObject via)
  conclude (← e.startOn ctx id via channel request)

/-! ## The transport's side -/

def complete (ctx : Context) (on : String) (result : Except Status Datum) : StepAct Reply := do
  unwind (← e.deliverOutcome ctx.thread (← namedCallOf false on) result)

def arrive (ctx : Context) (on : String) (x : Datum) : StepAct Reply := do
  unwind (← e.deliverItem ctx.thread (← namedCallOf true on) x)

def closeReads (ctx : Context) (on : String) : StepAct Reply := do
  unwind (← e.deliverClose ctx.thread (← namedCallOf true on))

def finish (ctx : Context) (on : String) (status : Status) : StepAct Reply := do
  unwind (← e.deliverEnd ctx.thread (← namedCallOf true on) status)

def awaitEnd (on : String) : StepAct Reply := do
  let id ← namedCall on
  e.await fun w => ((w.call? id).map fun m => m.body.isOver).getD true
  pure .nothing

end Engine

end CallBridge.Script
