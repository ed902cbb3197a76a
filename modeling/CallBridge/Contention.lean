import CallBridge.Admission
import CallBridge.Call.Unary
import CallBridge.EventLoop

/-!
# Totals under contention

Several threads do the same thing at once: they compete for keys, feed one event loop, or take
from one completed call. What is counted here does not depend on the order in which the threads
come, so the counts are those of the threads coming one after the other.
-/

namespace CallBridge.Contention

/-! ## Competing for keys -/

structure Admissions where
  admitted : Nat := 0
  rejected : Nat := 0
  register : Admission.Register := {}

def Admissions.attempt (a : Admissions) (key : Key) : Admissions :=
  let won := a.register.reserve key
  match won.answer with
  | .error _ => { a with rejected := a.rejected + 1, register := won.state }
  | .ok () =>
    { a with
      admitted := a.admitted + 1
      register := (won.state.occupy key ⟨a.admitted + 1⟩).state }

def compete (threads : Nat) (keys : List Key) : Admissions :=
  ((List.range threads).filterMap fun i => keys[i % keys.length]?).foldl Admissions.attempt {}

/-! ## Feeding one event loop -/

structure Feed where
  refused : Nat
  halted : Bool
  joined : Bool
  pending : Nat
  /-- For each producer that was seen: how many events, and whether they came in order. -/
  seen : List (Nat × Bool)

/-- An event says who produced it and in which place. -/
abbrev Ticket := Nat × Nat

def enqueueAll (l : EventLoop Ticket) (tickets : List Ticket) : EventLoop Ticket × Nat :=
  tickets.foldl
    (fun (l, refused) t =>
      let o := l.enqueue { name := "tick", payload := some t }
      match o.answer with
      | .ok () => (o.state, refused)
      | .error _ => (o.state, refused + 1))
    (l, 0)

/-- Consume until the run ends; every turn but the last takes a message off the queue. -/
def consume (l : EventLoop Ticket) : Nat → List Ticket → EventLoop Ticket × List Ticket × Bool
  | 0, seen => (l, seen.reverse, false)
  | n + 1, seen =>
    match l.turn with
    | (l, .stop) => (l.finish.state, seen.reverse, true)
    | (l, .wait) => (l, seen.reverse, false)
    | (l, .skip) => consume l n seen
    | (l, .dispatch e) => consume l n (e.payload.toList ++ seen)

/-- Whether the places of one producer's events are 0, 1, 2 and so on. -/
def inOrder (places : List Nat) : Bool := places == List.range places.length

/-- Every producer enqueues its events; then the loop is asked to stop and waited for. The run
starts before the producers or after them. -/
def feed (producers per : Nat) (runFirst : Bool) : Feed :=
  let tickets := (List.range producers).flatMap fun p => (List.range per).map fun i => (p, i)
  let claim (l : EventLoop Ticket) : EventLoop Ticket := l.claim.toOption.getD l
  let idle : EventLoop Ticket := { policy := {} }
  let (fed, refused) :=
    if runFirst then enqueueAll (claim idle) tickets
    else
      let (l, refused) := enqueueAll idle tickets
      (claim l, refused)
  let halted := fed.halt
  let (final, seen, joined) := consume halted.state (halted.state.queue.length + 1) []
  { refused
    halted := halted.answer
    joined
    pending := final.pending
    seen := (List.range producers).filterMap fun p =>
      let places := (seen.filter fun t => t.1 == p).map Prod.snd
      if places.isEmpty then none else some (places.length, inOrder places) }

/-! ## Taking from one call -/

structure Taking where
  taken : Nat
  done : Nat
  ready : Bool

/-- All threads take from a call that was completed with `item`. -/
def takeAll {α : Type} (threads : Nat) (item : α) : Taking :=
  let done := (Unary.create ⟨1⟩ none).complete (.ok item)
  let (call, taken) := (List.range threads).foldl
    (fun (call, taken) thread =>
      let o := call.take (thread + 1)
      (o.state, if o.answer.isSome then taken + 1 else taken))
    (done.state, 0)
  { taken, done := if done.answer then 1 else 0, ready := call.cell.ready }

end CallBridge.Contention
