import CallBridge.Admission
import CallBridge.EventLoop
import CallBridge.Loopback
import CallBridge.Script.Datum

/-!
# Scripts

A script is a list of steps. Each step operates on an object known by name: a call, a channel, a
transport, a register, a reservation, an event loop, an outlet of a loop, or an event; names of
different kinds never meet. What a callback or a handler does is itself a list of steps, so
scripts nest.
-/

namespace CallBridge.Script

inductive Panic where
  | text (message : String)
  /-- A fixed text, told apart from a built one only where panics are recorded. -/
  | fixedText (message : String)
  | opaquePayload
deriving DecidableEq, Repr

inductive Verdict where
  | succeed
  | fail (message : String)
  /-- Fail with the last fault that one of the handler's own steps met, if any. -/
  | forwardLast
deriving DecidableEq, Repr, Inhabited

inductive Service where
  | echo
  /-- Answers a positive number with a record that names it. -/
  | feature
  | range
  | items (xs : List Datum)
  | fail (status : Status)
deriving Repr, Inhabited

namespace Service

def respond (s : Service) (request : Datum) : Except Status Datum :=
  match s with
  | feature =>
    match request.asCount with
    | 0 => .error ⟨.notFound, "no feature 0"⟩
    | n => .ok (.record [("id", .ofNat n), ("name", .text ("feature-" ++ toString n))])
  | fail status => .error status
  | _ => .ok request

def stream (s : Service) (request : Datum) : Except Status (List Datum) :=
  match s with
  | range => .ok ((List.range request.asCount).map fun i => .ofNat (i + 1))
  | items xs => .ok xs
  | fail status => .error status
  | _ => .ok []

end Service

inductive PayloadSpec where
  | none
  | number (n : Nat)
  | text (s : String)
  | object (name : String)
deriving Repr, Inhabited

inductive CallSpec where
  | id (n : Nat)
  | object (name : String)
  | current
deriving Repr, Inhabited

mutual

inductive Step where
  -- calls
  | newUnary (as : String) (onDone : List Behaviour) (timeout : Option Nat)
  | newStream (as : String) (onItem onEnd : List Behaviour) (onClosed : Option (List Behaviour))
      (timeout : Option Nat)
  | wrap (on as : String)
  | describe (on : String)
  | start (on via : String) (request : Datum)
  | take (on : String)
  | takeAside (on : String)
  | joinTakes
  | cancel (on : String)
  | state (on : String)
  | shape (on : String)
  | drop (on : String)
  | complete (on : String) (result : Except Status Datum)
  | item (on : String) (x : Datum)
  | closeReads (on : String)
  | finish (on : String) (status : Status)
  | awaitEnd (on : String)
  -- channels
  | newRecorder (as : String) (onStart : List Step)
  | recorded (channel : String)
  | newTransport (as : String) (config : Loopback.Config)
  | serveUnary (as transport : String) (service : Service) (latency : Option Nat)
  | serveStream (as transport : String) (service : Service) (latency : Option Nat)
  | dropTransport (transport : String)
  -- admission
  | newRegister (as : String)
  | reserve (register : String) (key : Key) (as : String)
  | reservedKey (reservation : String)
  | reservationShape (reservation : String)
  | occupy (reservation call : String)
  | abandon (reservation : String)
  | release (register : String) (key : Key)
  | releaseCall (register : String) (key : Key) (call : CallSpec)
  | isCurrent (register : String) (key : Key) (call : CallSpec)
  | isBusy (register : String) (key : Key)
  | live (register : String) (key : Key)
  | registerSize (register : String)
  | cancelAll (register : String)
  | registerShape (register : String)
  -- event loops
  | newLoop (as : String) (policy : LoopPolicy)
  | register (loop name : String) (handler : List Behaviour)
  | hasHandler (loop name : String)
  | enqueue (loop name : String) (payload : PayloadSpec)
  | enqueueCall (loop name call : String)
  | outlet (loop as : String)
  | send (outlet name : String) (payload : PayloadSpec)
  | sendCall (outlet name call : String)
  | newEvent (as name : String) (payload : PayloadSpec)
  | newCallEvent (as name call : String)
  | sendEvent (outlet event : String)
  | outletShape (outlet : String)
  | pending (loop : String)
  | isRunning (loop : String)
  | isConsumer (loop : String)
  | halt (loop : String)
  | takePayload
  | payloadStatus
  | run (loop : String)
  | runAside (loop : String)
  | join (loop : String)
  | awaitStopped (loop : String)
  | dropLoop (loop : String)

/-- What one invocation of a callback or handler does: its steps, then a panic or a result. -/
inductive Behaviour where
  | mk (steps : List Step) (decision : Decision) (panic : Option Panic) (verdict : Verdict)

end

/-- A behaviour per invocation; the last one repeats. -/
abbrev Reaction := List Behaviour

namespace Behaviour

def idle : Behaviour := mk [] .hold none .succeed

def steps : Behaviour → List Step
  | mk s _ _ _ => s

def decision : Behaviour → Decision
  | mk _ d _ _ => d

def panic : Behaviour → Option Panic
  | mk _ _ p _ => p

def verdict : Behaviour → Verdict
  | mk _ _ _ v => v

end Behaviour

instance : Inhabited Step := ⟨.joinTakes⟩

instance : Inhabited Behaviour := ⟨Behaviour.idle⟩

/-- The behaviour of the invocation with the given number, counted from zero. -/
def Reaction.pick (r : Reaction) (n : Nat) : Behaviour :=
  (r[n]? <|> r.getLast?).getD Behaviour.idle

/-- The behaviour of callbacks that only ever use the first one. -/
def Reaction.first (r : Reaction) : Behaviour := r.pick 0

end CallBridge.Script
