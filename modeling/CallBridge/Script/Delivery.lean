import CallBridge.Script.View

/-!
# Delivery to calls

The transport's reports to a call, each followed by the callback that is due. Callbacks carry out
steps of their own, so everything here is told how a step is carried out inside another.
-/

namespace CallBridge.Script

/-! ## Takes on other threads -/

/-- The take has claimed an item whose callback is over. -/
def World.canComplete (w : World) (t : AsideTake) : Bool :=
  t.result.isNone && (w.call? t.call).any fun m => !m.body.isInspected

/-- A take that can go on moves out what it finds, on its thread. -/
def completeTake (t : AsideTake) : Act AsideTake := do
  if (← get).canComplete t then
    let x ← elsewhere do
      match (← member t.call).body with
      | .unary u h => advanceCall t.call (u.completeTake.within (Body.unary · h))
      | .stream s h =>
        let (x, lane) ← advanceCall t.call (s.completeTake.within (Body.stream · h))
        askRead lane
        pure x
    pure { t with result := some x }
  else pure t

def completeTakes : Act Unit := do
  let done ← (← get).takes.mapM completeTake
  modify fun w => { w with takes := done }

/-! ## After an inspection -/

def readOn (thread : Thread) (id : CallId) : Act Unit := do
  match (← member id).body with
  | .unary .. => failure
  | .stream s hooks =>
    let lane ← advanceCall id ((s.readOn thread.serial).within (Body.stream · hooks))
    askRead lane

/-- The callback of an item is over. After a panic the stream stays as it is. Takes that waited for
the callback go on when their threads do. -/
def endInspection (thread : Thread) (id : CallId) (panic : Option Panic) (decision : Decision) :
    Act Unit := do
  match (← member id).body with
  | .unary .. => failure
  | .stream s hooks =>
    setBody id (.stream (s.endInspection panic.isSome) hooks)
    if panic.isNone ∧ decision = .proceed then
      readOn thread id

/-! ## Reports and callbacks -/

/-- Who carries out a step: the thread, and the event whose handler is running on it. -/
structure Context where
  thread : Thread
  event : Option (Event Payload) := none

/-- How steps are carried out inside others, and for how many turns a step may wait. -/
structure Engine where
  nested : Context → Step → Act Answer
  patience : Nat

/-- The name under which entries of another thread than the main one are told. -/
def Thread.label (t : Thread) : Option String := if t.isMain then none else t.name

namespace Engine

variable (e : Engine)

/-- Run a callback's steps and file its entry. The answer is the panic that it ends with. -/
def callback (thread : Thread) (id : CallId) (kind : Callback) (b : Behaviour) :
    Act (Option Panic) := do
  let answers ← b.steps.mapM (e.nested { thread })
  record [.callback kind (← member id).name answers (Thread.label thread) b.panic]
  modify fun w =>
    let others := w.brokenOff.filter (· != id)
    { w with brokenOff := if b.panic.isSome then id :: others else others }
  pure b.panic

def deliverOutcome (thread : Thread) (id : CallId) (result : Except Status Datum) :
    Act (Option Panic) := pinned id do
  match (← member id).body with
  | .unary u onDone =>
    if ← advanceCall id ((u.complete result).within (Body.unary · onDone)) then
      e.callback thread id .done (Reaction.first onDone)
    else pure none
  | .stream .. => failure

/-- One item of a stream. Its callback looks at the item before anybody can take it. -/
def deliverItem (thread : Thread) (id : CallId) (x : Datum) : Act (Option Panic) := pinned id do
  match (← member id).body with
  | .unary .. => failure
  | .stream s hooks =>
    let o := s.deliver thread.serial x
    let n := hooks.shown
    let shown := if o.answer then n + 1 else n
    if ← advanceCall id (o.within (Body.stream · { hooks with shown })) then
      let b := Reaction.pick hooks.onItem n
      let panic ← e.callback thread id (.item x b.decision) b
      endInspection thread id panic b.decision
      pure panic
    else pure none

def deliverClose (thread : Thread) (id : CallId) : Act (Option Panic) := pinned id do
  match (← member id).body with
  | .unary .. => failure
  | .stream s hooks =>
    let n := hooks.closed
    advanceCall id (s.closeReads.within (Body.stream · { hooks with closed := n + 1 }))
    match hooks.onClosed with
    | some r => e.callback thread id .readsClosed (Reaction.pick r n)
    | none => pure none

def deliverEnd (thread : Thread) (id : CallId) (status : Status) : Act (Option Panic) :=
  pinned id do
    match (← member id).body with
    | .unary .. => failure
    | .stream s hooks =>
      if ← advanceCall id ((s.finish status).within (Body.stream · hooks)) then
        e.callback thread id .ended (Reaction.first hooks.onEnd)
      else pure none

end Engine

end CallBridge.Script
