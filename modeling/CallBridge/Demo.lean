import CallBridge.Admission
import CallBridge.EventLoop
import CallBridge.Loopback

/-!
# The demonstration

A stream of features is read one item at a time through the event loop; when it has ended, a
second call fetches the last feature, a third one is refused because its key is taken, and the
loop stops. All parts of the bridge work together: the transport's tasks report to the calls, the
callbacks enqueue events, the handlers take items and release keys.

The state moves in steps of two kinds, a turn of the consumer and a step of the transport. They
may come in any order; `perform` lets the transport wait until the consumer does.
-/

namespace CallBridge.Demo

structure Plan where
  items : Nat := 5
  /-- Cancel the stream after the second item. -/
  cancel : Bool := false
  policy : LoopPolicy := {}
  transport : Loopback.Config := {}
deriving Repr

inductive Source where
  | listing
  | lookup
deriving DecidableEq, Repr

abbrev Feature := Nat

def Feature.name (f : Feature) : String := "feature-" ++ toString f

def Feature.shape (f : Feature) : String :=
  Text.shapeRecord "Feature" [("id", toString f), ("name", Text.quote (Feature.name f))]

def listFeatures (limit : Nat) : List Feature := (List.range limit).map (· + 1)

/-- There is no feature zero. -/
def findFeature (f : Feature) : Except Status Feature :=
  if f = 0 then .error ⟨.notFound, "feature 0 does not exist"⟩ else .ok f

def listingKey : Key := .text "ListFeatures"
def lookupKey : Key := .text "GetFeature"
def listingId : CallId := ⟨1⟩
def lookupId : CallId := ⟨2⟩

def itemEvent : String := "ListFeaturesOnItem"
def endEvent : String := "ListFeaturesOnEnd"
def doneEvent : String := "GetFeatureOnDone"

def target : String := "rpc_reactor::demo"
def listingTarget : String := "rpc_reactor::demo::list_features"
def lookupTarget : String := "rpc_reactor::demo::get_feature"

structure State where
  plan : Plan
  loop : EventLoop Source
  register : Admission.Register := {}
  listing : Stream Feature := .create listingId none
  listingTask : Loopback.StreamTask Feature := .fresh
  asked : Nat := 0
  taken : Nat := 0
  lookup : Option (Unary Feature × Loopback.UnaryTask) := none
  received : Nat := 0
  clock : Nat := 0
  lines : List Line := []

namespace State

def say (s : State) (lines : List Line) : State := { s with lines := s.lines ++ lines }

def ask (s : State) (lane : Option Nat) : State :=
  if lane.isSome then { s with asked := s.asked + 1 } else s

def onListing {α : Type} (s : State) (o : Outcome (Stream Feature) α) : State :=
  { s with listing := o.state }.say o.lines

def onRegister {α : Type} (s : State) (o : Outcome Admission.Register α) : State :=
  { s with register := o.state }.say o.lines

def onLoop {α : Type} (s : State) (o : Outcome (EventLoop Source) α) : State :=
  { s with loop := o.state }.say o.lines

def notify (s : State) (name : String) (source : Source) (call : CallId) (logTarget : String) :
    State :=
  let o := s.loop.enqueue { name, payload := some source, call := some call }
  match o.answer with
  | .ok () => s.onLoop o
  | .error f => (s.onLoop o).say [⟨.warn, logTarget, f.text⟩]

end State

/-! ## The start -/

def start (plan : Plan) : State :=
  let s : State := { plan, loop := { policy := plan.policy } }
  let s := s.say [Loopback.startedLine plan.transport]
  let s := [itemEvent, endEvent, doneEvent].foldl (fun s e => s.onLoop (s.loop.register e)) s
  let s := s.onRegister (s.register.reserve listingKey)
  let s := s.onListing s.listing.launch
  let (listing, lane) := s.listing.attach 0
  let s := { s with listing }.ask lane
  let s := s.onRegister (s.register.occupy listingKey listingId)
  let s := s.say [⟨.info, target, "Started ListFeatures as call " ++ listingId.text⟩]
  match s.loop.claim with
  | .ok loop => { s with loop }.onLoop (loop.begin Thread.main)
  | .error _ => s

/-! ## Handlers -/

/-- Take the item, which also resumes the stream. -/
def handleItem (s : State) : State :=
  let o := s.listing.take Thread.main.serial
  let s := (s.onListing o).ask o.answer.2
  let s : State :=
    match o.answer.1 with
    | some f =>
      { s with received := s.received + 1 }.say [⟨.info, listingTarget,
        "Received " ++ Feature.name f ++ " (" ++ toString f ++ "/" ++ toString s.plan.items ++
          ")"⟩]
    | none => s
  if s.plan.cancel ∧ s.received = 2 then
    let s := s.say [⟨.info, listingTarget, "Cancelling stream"⟩]
    s.onListing s.listing.cancel
  else s

def startLookup (s : State) : State :=
  let call : Unary Feature := .create lookupId none
  let launched := call.launch
  let s := { s with lookup := some (launched.state, .fresh) }.say launched.lines
  let s := s.onRegister (s.register.occupy lookupKey lookupId)
  let again := s.register.reserve lookupKey
  let s := s.onRegister again
  match again.answer with
  | .error f => s.say [⟨.info, lookupTarget, "Second request rejected: " ++ f.text⟩]
  | .ok () => s.onRegister (s.register.abandon lookupKey)

/-- Release the stream's key and go on with the second call. -/
def handleEnd (s : State) : State × Except String Unit :=
  let s := s.onRegister (s.register.releaseCall listingKey listingId)
  let status := s.listing.cell.status.getD ⟨.internal, "stream ended without status"⟩
  let s := s.say [⟨.info, listingTarget, "Stream finished: " ++ status.text⟩]
  let won := s.register.reserve lookupKey
  let s := s.onRegister won
  match won.answer with
  | .error f => (s, .error f.text)
  | .ok () => (startLookup s, .ok ())

def handleDone (s : State) : State :=
  let s := s.onRegister (s.register.releaseCall lookupKey lookupId)
  let s :=
    match s.lookup with
    | none => s
    | some (call, task) =>
      let o := call.take Thread.main.serial
      let s := { s with lookup := some (o.state, task) }.say o.lines
      match o.answer with
      | some f => s.say [⟨.info, lookupTarget, "Fetched " ++ Feature.shape f⟩]
      | none =>
        let status := o.state.cell.status.getD ⟨.internal, "no status"⟩
        s.say [⟨.warn, lookupTarget, "Fetch failed: " ++ status.text⟩]
  s.onLoop s.loop.halt

def handle (s : State) (e : Event Source) : State × Except Fault Unit :=
  if e.name = itemEvent then (handleItem s, .ok ())
  else if e.name = endEvent then
    let (s, result) := handleEnd s
    (s, result.mapError (Fault.handlerFailed e.name))
  else if e.name = doneEvent then (handleDone s, .ok ())
  else (s, .error (.unknownEvent e.name))

/-! ## Steps -/

inductive Course where
  | ended (s : State) (result : Except Fault Unit)
  | waiting (s : State)
  | going (s : State)

def consumerTurn (s : State) : Course :=
  let (loop, met) := s.loop.turn
  let s := { s with loop }
  match met with
  | .stop => .ended (s.onLoop s.loop.finish) (.ok ())
  | .wait => .waiting s
  | .skip => .going s
  | .dispatch e =>
    match handle s e with
    | (s, .ok ()) => .going s
    | (s, .error f) =>
      let (stop, lines) := s.loop.afterFailure f
      let s := s.say lines
      match stop with
      | some f => .ended (s.onLoop s.loop.finish) (.error f)
      | none => .going s

def viewOf {α : Type} (s : State) (c : Cell α) : Loopback.View where
  now := s.clock
  cancelled := c.cancelled
  deadline := none

def readsOf (s : State) : Loopback.StreamTask.Reads where
  waiting := s.asked - s.taken
  laneOpen := s.listing.phase.lane?.isSome

/-- What the stream's task reports goes to the stream, whose callbacks enqueue events. -/
def deliver (s : State) : Loopback.Report Feature → State
  | .item f =>
    let o := s.listing.deliver (Thread.main.serial + 1) f
    let s := s.onListing o
    if o.answer then
      let s := s.notify itemEvent .listing listingId listingTarget
      { s with listing := s.listing.endInspection false }
    else s
  | .closeReads => s.onListing s.listing.closeReads
  | .finish status =>
    let s := s.say [Loopback.endLine listingId status]
    let o := s.listing.finish status
    let s := s.onListing o
    if o.answer then s.notify endEvent .listing listingId listingTarget else s

def listingStep (s : State) : State :=
  let view := viewOf s s.listing.cell
  let reads := readsOf s
  let serve : Except Status (List Feature) := .ok (listFeatures s.plan.items)
  let (task, report) := s.listingTask.run view reads s.plan.transport.latency serve
  let taken := if s.listingTask.takesRead view reads serve then s.taken + 1 else s.taken
  let s := { s with listingTask := task, taken }
  match report with
  | some r => deliver s r
  | none => s

def lookupStep (s : State) (call : Unary Feature) (task : Loopback.UnaryTask) : State :=
  let (task, answer) :=
    task.run (viewOf s call.cell) s.plan.transport.latency (findFeature s.plan.items)
  match answer with
  | none => { s with lookup := some (call, task) }
  | some result =>
    let s := s.say (Loopback.unaryLines lookupId result)
    let o := call.complete result
    let s := { s with lookup := some (o.state, task) }.say o.lines
    if o.answer then s.notify doneEvent .lookup lookupId lookupTarget else s

def listingDue (s : State) : Option Nat :=
  s.listingTask.due (viewOf s s.listing.cell) (readsOf s)

def lookupDue (s : State) : Option Nat :=
  s.lookup.bind fun (call, task) => task.due (viewOf s call.cell)

def moveClock (s : State) (moment : Nat) : State := { s with clock := max s.clock moment }

/-- One step of the transport: the task that is due first goes on, and the clock with it. -/
def transportStep (s : State) : Option State :=
  match listingDue s, lookupDue s, s.lookup with
  | some a, some b, some (call, task) =>
    if a ≤ b then some (listingStep (moveClock s a)) else some (lookupStep (moveClock s b) call task)
  | none, some b, some (call, task) => some (lookupStep (moveClock s b) call task)
  | some a, _, _ => some (listingStep (moveClock s a))
  | none, _, _ => none

def run : Nat → State → State × Except Fault Unit
  | 0, s => (s, .ok ())
  | n + 1, s =>
    match consumerTurn s with
    | .ended s result => (s, result)
    | .going s => run n s
    | .waiting s =>
      match transportStep s with
      | some s => run n s
      | none => (s, .ok ())

def cancelLive (s : State) : State :=
  let live := s.register.liveCalls
  let s := if listingId ∈ live then s.onListing s.listing.cancel else s
  let s :=
    match s.lookup with
    | some (call, task) =>
      if lookupId ∈ live then
        let o := call.cancel
        { s with lookup := some (o.state, task) }.say o.lines
      else s
    | none => s
  s.say s.register.cancelAllLines

def turns (plan : Plan) : Nat := 8 * plan.items + 64

/-- The whole demonstration: what is logged, and the failure that ended it early, if any. -/
def perform (plan : Plan) : List Line × Except Fault Unit :=
  match run (turns plan) (start plan) with
  | (s, .error f) => (s.lines, .error f)
  | (s, .ok ()) =>
    let live := s.register.liveCalls.length
    let s := cancelLive s
    let s := s.say [⟨.info, target, "Demo finished (" ++ toString live ++
      " call(s) still live)"⟩]
    (s.lines, .ok ())

end CallBridge.Demo
