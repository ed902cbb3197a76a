import CallBridge.Script.Delivery

/-!
# Dispatch of events to scripted handlers

One turn of a consumer, with the handler's steps carried out in place. The blocking run of a loop
and its background consumer take the same turns; they differ in what they do when the queue is
empty.
-/

namespace CallBridge.Script

def lastFault? (answers : List Answer) : Option Fault :=
  (answers.filterMap fun a =>
    match a.result with
    | .fault f => some f
    | _ => none).getLast?

namespace Panic

/-- What a loop reports of a handler's panic. -/
def report : Panic → String
  | text m => "panicked: " ++ m
  | fixedText m => "panicked: " ++ m
  | opaquePayload => "panicked: unknown panic"

end Panic

def Behaviour.failure? (b : Behaviour) (answers : List Answer) : Option String :=
  match b.panic, b.verdict with
  | some p, _ => some p.report
  | none, .succeed => none
  | none, .fail m => some m
  | none, .forwardLast => (lastFault? answers).map Fault.text

inductive Course where
  | ended (result : Except Fault Unit)
  | waiting
  | going

/-- Keep the call that an event carries in existence during an action. -/
def holding {α : Type} (ev : Event Payload) (act : Act α) : Act α :=
  match ev.payload.bind Payload.call? with
  | some id => pinned id act
  | none => act

/-- The run is over; a loop that nobody refers to any more goes with it. -/
def finishRun (i : Nat) : Act Unit := do
  advanceLoop i EventLoop.finish
  let r ← runner i
  if r.doomed then
    setRunner i { r with loop := r.loop.lose }

namespace Engine

variable (e : Engine)

def dispatch (thread : Thread) (i : Nat) (ev : Event Payload) : Act (Option Fault) := do
  let r ← runner i
  match r.handlers.find? ev.name with
  | none => pure (some (.unknownEvent ev.name))
  | some (reaction, n) => holding ev do
    setRunner i { r with handlers := r.handlers.insert ev.name (reaction, n + 1) }
    let b := Reaction.pick reaction n
    let seen := (← get).eventView ev
    let answers ← b.steps.mapM (e.nested { thread, event := some ev })
    record [.handler r.name (n + 1) seen answers (Thread.label thread) b.panic]
    pure ((b.failure? answers).map (Fault.handlerFailed ev.name))

def turn (thread : Thread) (i : Nat) : Act Course := do
  let r ← runner i
  let (loop, met) := r.loop.turn
  setRunner i { r with loop }
  match met with
  | .stop => pure (.ended (.ok ()))
  | .wait => pure .waiting
  | .skip => pure .going
  | .dispatch ev =>
    match ← e.dispatch thread i ev with
    | none => pure .going
    | some f =>
      let (stop, lines) := loop.afterFailure f
      report lines
      match stop with
      | some f => pure (.ended (.error f))
      | none => pure .going

/-- Let the background consumer of a loop take a turn. The answer tells whether it did. -/
def pumpConsumer (i : Nat) : Act Bool := do
  match (← runner i).consumer with
  | none => pure false
  | some c =>
    if c.busy || c.result.isSome then pure false
    else elsewhere do
      if !c.begun then
        setConsumer i fun c => { c with begun := true }
        advanceLoop i (·.begin c.thread)
        pure true
      else
        setConsumer i fun c => { c with busy := true }
        let course ← e.turn c.thread i
        setConsumer i fun c => { c with busy := false }
        match course with
        | .waiting => pure false
        | .going => pure true
        | .ended result =>
          finishRun i
          setConsumer i fun c => { c with result := some result }
          pure true

end Engine

end CallBridge.Script
