import CallBridge.Script.Perform.Loops
import CallBridge.Script.Perform.Registers

/-!
# Performing a step

Which action each step stands for, and how it is answered.
-/

namespace CallBridge.Script

namespace Engine

variable (e : Engine)

def perform (ctx : Context) : Step → StepAct Reply
  | .newUnary as onDone timeout => newCall as fun id => .unary (.create id timeout) onDone
  | .newStream as onItem onEnd onClosed timeout =>
    newCall as fun id => .stream (.create id timeout) { onItem, onEnd, onClosed }
  | .wrap on as => wrapCall on as
  | .describe on => describeCall on
  | .start on via request => e.start ctx on via request
  | .take on => do return .item (← takeFrom ctx.thread (← namedCall on))
  | .takeAside on => takeAside on
  | .joinTakes => joinTakes
  | .cancel on => do
    cancelCall (← namedCall on)
    pure .nothing
  | .state on => stateOfCall on
  | .shape on => shapeOfCall on
  | .drop on => dropCall on
  | .complete on result => e.complete ctx on result
  | .item on x => e.arrive ctx on x
  | .closeReads on => e.closeReads ctx on
  | .finish on status => e.finish ctx on status
  | .awaitEnd on => e.awaitEnd on
  | .newRecorder as onStart => newRecorder as onStart
  | .recorded channel => recordedOf channel
  | .newTransport as config => newTransport as config
  | .serveUnary as transport service latency => newService as transport service false latency
  | .serveStream as transport service latency => newService as transport service true latency
  | .dropTransport transport => dropTransport transport
  | .newRegister as => newRegister as
  | .reserve register key as => reserve register key as
  | .reservedKey reservation => reservedKey reservation
  | .reservationShape reservation => shapeOfReservation reservation
  | .occupy reservation call => occupy reservation call
  | .abandon reservation => abandon reservation
  | .release register key => release register key
  | .releaseCall register key call => releaseCall ctx register key call
  | .isCurrent register key call => isCurrent ctx register key call
  | .isBusy register key => isBusy register key
  | .live register key => liveUnder register key
  | .registerSize register => sizeOfRegister register
  | .cancelAll register => cancelAll register
  | .registerShape register => shapeOfRegister register
  | .newLoop as policy => e.newLoop ctx as policy
  | .register loop name handler => register loop name handler
  | .hasHandler loop name => do
    return .flag ((← runner (← namedLoop loop)).loop.hasHandler name)
  | .enqueue loop name payload => do
    enqueueOn (← namedLoop loop) { name, payload := ← specifiedPayload payload }
  | .enqueueCall loop name call => do enqueueOn (← namedLoop loop) (← callEvent name call)
  | .outlet loop as => newOutlet loop as
  | .send outlet name payload => do
    enqueueOn (← namedOutlet outlet) { name, payload := ← specifiedPayload payload }
  | .sendCall outlet name call => do enqueueOn (← namedOutlet outlet) (← callEvent name call)
  | .newEvent as name payload => do
    newEvent as { name, payload := ← specifiedPayload payload }
  | .newCallEvent as name call => do newEvent as (← callEvent name call)
  | .sendEvent outlet event => do
    enqueueOn (← namedOutlet outlet) (← named (← get).events event)
  | .outletShape outlet => do
    return .text (← runner (← namedOutlet outlet)).loop.senderShape
  | .pending loop => do return .count (← runner (← namedLoop loop)).loop.pending
  | .isRunning loop => do return .flag (← runner (← namedLoop loop)).loop.running
  | .isConsumer loop => do
    return .flag ((← runner (← namedLoop loop)).loop.consumer == some ctx.thread.serial)
  | .halt loop => do return .flag (← advanceLoop (← namedLoop loop) EventLoop.halt)
  | .takePayload => takePayload ctx
  | .payloadStatus => payloadStatus ctx
  | .run loop => e.run ctx loop
  | .runAside loop => runAside loop
  | .join loop => e.joinRun ctx loop
  | .awaitStopped loop => e.awaitStopped ctx loop
  | .dropLoop loop => e.dropLoop ctx loop

/-- Carry out a step and answer it with its result and its own trace. -/
def carryOut (ctx : Context) (s : Step) : Act Answer := do
  let (result, trace) ← collect (e.perform ctx s).attempt
  match result with
  | .ok reply => pure (.mk (.reply reply) trace)
  | .error early => pure (.mk early trace)

/-- Steps nest, and a step may wait for so many turns, until the fuel is used up. -/
def ofFuel : Nat → Engine
  | 0 => { nested := fun _ _ => failure, patience := 0 }
  | n + 1 => { nested := fun ctx s => (ofFuel n).carryOut ctx s, patience := n }

end Engine

end CallBridge.Script
