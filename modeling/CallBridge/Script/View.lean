import CallBridge.Script.World

/-!
# Views of a script's objects

What can be seen of an object from outside, without changing it.
-/

namespace CallBridge.Script

namespace Body

def snapshot (b : Body) : Snapshot where
  id := b.cell.id
  isStream := b.isStream
  progress := b.cell.progress
  status := b.cell.status
  terminated := b.cell.terminated
  ready := b.cell.ready
  cancelled := b.cell.cancelled
  flow :=
    match b with
    | unary .. => none
    | stream s _ => some (s.phase, s.items, s.fetches, s.resumes)

def shape (b : Body) : String :=
  Text.shapePartial (if b.isStream then "StreamReactor" else "UnaryReactor")
    [("call_id", b.cell.id.shape), ("ready", Text.shapeBool b.cell.ready),
      ("terminated", Text.shapeBool b.cell.terminated),
      ("cancel_requested", Text.shapeBool b.cell.cancelled)]

end Body

namespace World

variable (w : World)

def snapshot? (id : CallId) : Option Snapshot := (w.call? id).map fun m => m.body.snapshot

def payloadView : Option Payload → PayloadView
  | none => .none
  | some (.number n) => .number n
  | some (.text s) => .text s
  | some (.call id true) => .wrapped id
  | some (.call id false) =>
    match w.call? id with
    | some m => if m.body.isStream then .stream id else .unary id
    | none => .unary id

def eventView (e : Event Payload) : EventView where
  name := e.name
  call := e.call
  payload := w.payloadView e.payload
  shape := e.shape

def registerView? (name : String) : Option RegisterView := do
  let r ← w.registers.find? (← w.registerNames.find? name)
  pure { size := r.entries.size
         entries := r.entries.bindings.mergeSort fun a b => a.1.le b.1 }

def loopView? (thread : Thread) (name : String) : Option LoopView := do
  let r ← w.runners.find? (← w.loopNames.find? name)
  pure { pending := r.loop.pending
         running := r.loop.running
         isConsumer := r.loop.consumer == some thread.serial }

/-- What a hand-driven channel was asked for. A deadline has passed when no time is left. -/
def recorded (r : Recorder) : Reply :=
  .recorded
    (r.starts.map fun (call, request, deadline) =>
      { call, request
        cancelled := w.isCancelled call
        token := w.isCancelled call
        hasDeadline := deadline.isSome
        expired := deadline.map fun d => decide (d ≤ w.clock) })
    (r.lanes.map fun i =>
      { call := ((w.lanes.find? i).map Lane.call).getD ⟨0⟩
        reads := ((w.lanes.find? i).map Lane.asked).getD 0
        alive := w.laneOpen i })

end World

end CallBridge.Script
