import CallBridge.Demo
import CallBridge.Proofs.Loopback.Link

/-!
# The demonstration, step by step

Three parties take part. The main thread starts the stream, consumes events and runs their
handlers; one task of the transport serves the stream, another one the second call. An ensemble has
what they share and where each of them stands, and any of them goes on whenever it can.

Operations are cut where another party can come between: a take claims the item, empties the place,
for which it waits while a callback has it locked, and resumes the stream; a delivery admits the
item, publishes it, enqueues the event and unlocks the place. The handler of the last event is not
cut, for when it runs both tasks are over.

`Demo.run` is a run of the ensemble in which the transport waits until the consumer does
(`takes_turn`, `reaches_of_transport`).
-/

namespace CallBridge.Demo

open Loopback (StreamTask UnaryTask Report)

@[simp] theorem endEvent_ne_itemEvent : endEvent ≠ itemEvent := by decide
@[simp] theorem doneEvent_ne_itemEvent : doneEvent ≠ itemEvent := by decide
@[simp] theorem doneEvent_ne_endEvent : doneEvent ≠ endEvent := by decide

/-! ## Handlers in pieces -/

/-- What a demonstration sets up while there is one thread only. -/
def setUp (plan : Plan) : State :=
  let s : State := { plan, loop := { policy := plan.policy } }
  let s := s.say [Loopback.startedLine plan.transport]
  let s := [itemEvent, endEvent, doneEvent].foldl (fun s e => s.onLoop (s.loop.register e)) s
  s.onRegister (s.register.reserve listingKey)

/-- What the handler of an item does once its take is over. -/
def reportItem (s : State) (item : Option Feature) : State :=
  let s : State :=
    match item with
    | some f =>
      { s with received := s.received + 1 }.say [⟨.info, listingTarget,
        "Received " ++ Feature.name f ++ " (" ++ toString f ++ "/" ++ toString s.plan.items ++
          ")"⟩]
    | none => s
  if s.plan.cancel ∧ s.received = 2 then
    let s := s.say [⟨.info, listingTarget, "Cancelling stream"⟩]
    s.onListing s.listing.cancel
  else s

/-- Create the second call and hand it to the transport. -/
def launchLookup (s : State) : State :=
  let launched := (Unary.create (α := Feature) lookupId none).launch
  { s with lookup := some (launched.state, .fresh) }.say launched.lines

/-- What the handler of the end does up to the launch of the second call. -/
def closeListing (s : State) : State × Except String Unit :=
  let s := s.onRegister (s.register.releaseCall listingKey listingId)
  let status := s.listing.cell.status.getD ⟨.internal, "stream ended without status"⟩
  let s := s.say [⟨.info, listingTarget, "Stream finished: " ++ status.text⟩]
  let won := s.register.reserve lookupKey
  let s := s.onRegister won
  match won.answer with
  | .error f => (s, .error f.text)
  | .ok () => (launchLookup s, .ok ())

/-- What it does after the launch: register the call and see a third one refused. -/
def registerLookup (s : State) : State :=
  let s := s.onRegister (s.register.occupy lookupKey lookupId)
  let again := s.register.reserve lookupKey
  let s := s.onRegister again
  match again.answer with
  | .error f => s.say [⟨.info, lookupTarget, "Second request rejected: " ++ f.text⟩]
  | .ok () => s.onRegister (s.register.abandon lookupKey)

def conclude (s : State) : State :=
  (cancelLive s).say [⟨.info, target, "Demo finished (" ++ toString s.register.liveCalls.length ++
    " call(s) still live)"⟩]

theorem handleItem_eq (s : State) :
    handleItem s = reportItem
      ((s.onListing (s.listing.take Thread.main.serial)).ask
        (s.listing.take Thread.main.serial).answer.2)
      (s.listing.take Thread.main.serial).answer.1 := rfl

theorem handleEnd_eq (s : State) :
    handleEnd s =
      match closeListing s with
      | (s, .error f) => (s, .error f)
      | (s, .ok ()) => (registerLookup s, .ok ()) := by
  simp only [handleEnd, closeListing]
  generalize s.onRegister (s.register.releaseCall listingKey listingId) = released
  generalize released.say _ = reported
  generalize reported.register.reserve lookupKey = won
  obtain ⟨register, answer, lines⟩ := won
  cases answer <;> rfl

theorem perform_eq (plan : Plan) :
    perform plan =
      match run (turns plan) (start plan) with
      | (s, .error f) => (s.lines, .error f)
      | (s, .ok ()) => ((conclude s).lines, .ok ()) := rfl

/-! ## The parties -/

/-- Where the main thread stands. -/
inductive Desk where
  | launching
  | attaching
  | occupying
  | announcing
  | claiming
  | beginning
  | ready
  | holding (e : Event Source)
  | extracting
  /-- The handler has emptied the place and found this. -/
  | resuming (item : Option Feature)
  | reporting (item : Option Feature)
  | registering
  | settling (result : Except Fault Unit)
  | leaving (result : Except Fault Unit)
  | concluding
  | done (result : Except Fault Unit)

/-- Where the stream's task stands: between two turns, or inside a report. -/
inductive ListingPost where
  | resting
  | admitting (f : Feature)
  | publishing (f : Feature)
  | inspecting
  | unlocking
  | closing
  | ending (status : Status)
  | telling
deriving DecidableEq

def ListingPost.ofReport : Option (Report Feature) → ListingPost
  | none => resting
  | some (.item f) => admitting f
  | some .closeReads => closing
  | some (.finish status) => ending status

/-- Where the second call's task stands. -/
inductive LookupPost where
  | resting
  | completing (result : Except Status Feature)
  | telling

inductive Move where
  | main
  | listing
  | lookup
  | tick (n : Nat)
deriving DecidableEq, Repr

def Move.isBusy : Move → Bool
  | tick _ => false
  | _ => true

/-- What the parties share, and where each of them stands. -/
structure Ensemble where
  shared : State
  desk : Desk := .ready
  listing : ListingPost := .resting
  lookup : LookupPost := .resting

namespace Ensemble

def begin (plan : Plan) : Ensemble := { shared := setUp plan, desk := .launching }

/-! ## Moves -/

def dispatch (s : State) (e : Event Source) : State × Desk :=
  if e.name = itemEvent then
    if s.listing.cell.inspector = some Thread.main.serial then
      (s.onListing (s.listing.take Thread.main.serial), .reporting none)
    else
      match s.listing.cell.claim with
      | some cell => ({ s with listing := { s.listing with cell } }, .extracting)
      | none => (s, .reporting none)
  else if e.name = endEvent then
    match closeListing s with
    | (s, .error f) => (s, .settling (.error (.handlerFailed e.name f)))
    | (s, .ok ()) => (s, .registering)
  else if e.name = doneEvent then (handleDone s, .settling (.ok ()))
  else (s, .settling (.error (.unknownEvent e.name)))

/-- What the main thread does next, unless it waits. -/
def mainMove (s : State) : Desk → Option (State × Desk)
  | .launching =>
    match s.listing.launch.answer with
    | .ok () => some (s.onListing s.listing.launch, .attaching)
    | .error f => some (s.onListing s.listing.launch, .done (.error f))
  | .attaching =>
    let (listing, lane) := s.listing.attach 0
    some ({ s with listing }.ask lane, .occupying)
  | .occupying => some (s.onRegister (s.register.occupy listingKey listingId), .announcing)
  | .announcing =>
    some (s.say [⟨.info, target, "Started ListFeatures as call " ++ listingId.text⟩], .claiming)
  | .claiming =>
    match s.loop.claim with
    | .ok loop => some ({ s with loop }, .beginning)
    | .error f => some (s, .done (.error f))
  | .beginning => some (s.onLoop (s.loop.begin Thread.main), .ready)
  | .ready =>
    let (loop, met) := s.loop.turn
    let s := { s with loop }
    match met with
    | .stop => some (s, .leaving (.ok ()))
    | .wait => none
    | .skip => some (s, .ready)
    | .dispatch e => some (s, .holding e)
  | .holding e => some (dispatch s e)
  | .extracting =>
    if s.listing.cell.inspector.isNone then
      let o := s.listing.cell.extract
      some ({ s with listing := { s.listing with cell := o.state } }.say o.lines,
        .resuming o.answer)
    else none
  | .resuming none => some (s, .reporting none)
  | .resuming (some f) =>
    let (listing, lane) := s.listing.resume
    some ({ s with listing }.ask lane, .reporting (some f))
  | .reporting item => some (reportItem s item, .settling (.ok ()))
  | .registering => some (registerLookup s, .settling (.ok ()))
  | .settling (.ok ()) => some (s, .ready)
  | .settling (.error f) =>
    let (stop, lines) := s.loop.afterFailure f
    match stop with
    | some f => some (s.say lines, .leaving (.error f))
    | none => some (s.say lines, .ready)
  | .leaving (.ok ()) => some (s.onLoop s.loop.finish, .concluding)
  | .leaving (.error f) => some (s.onLoop s.loop.finish, .done (.error f))
  | .concluding => some (conclude s, .done (.ok ()))
  | .done _ => none

/-- What the stream's task sees of its lane, which a start that waits for its channel has not
passed on yet. -/
def reads (s : State) (d : Desk) : StreamTask.Reads :=
  { readsOf s with laneOpen := (d matches .attaching) || s.listing.phase.lane?.isSome }

def listingMove (s : State) (d : Desk) : ListingPost → Option (State × ListingPost)
  | .resting =>
    if s.listing.started then
      (s.listingTask.turn (viewOf s s.listing.cell) (reads s d) s.plan.transport.latency
        (.ok (listFeatures s.plan.items))).map fun turn =>
          ({ s with listingTask := turn.task, taken := s.taken + turn.takes.toNat },
            .ofReport turn.report)
    else none
  | .admitting f =>
    let o := s.listing.accept
    some (s.onListing o, if o.answer then .publishing f else .resting)
  | .publishing f =>
    some (s.onListing (s.listing.beginInspection (Thread.main.serial + 1) f), .inspecting)
  | .inspecting => some (s.notify itemEvent .listing listingId listingTarget, .unlocking)
  | .unlocking => some ({ s with listing := s.listing.endInspection false }, .resting)
  | .closing => some (s.onListing s.listing.closeReads, .resting)
  | .ending status =>
    let s := s.say [Loopback.endLine listingId status]
    let o := s.listing.finish status
    some (s.onListing o, if o.answer then .telling else .resting)
  | .telling => some (s.notify endEvent .listing listingId listingTarget, .resting)

def lookupMove (s : State) : LookupPost → Option (State × LookupPost)
  | .resting =>
    match s.lookup with
    | none => none
    | some (call, task) =>
      match task.run (viewOf s call.cell) s.plan.transport.latency (findFeature s.plan.items) with
      | (task', none) =>
        if task' = task then none else some ({ s with lookup := some (call, task') }, .resting)
      | (task', some result) =>
        some ({ s.say (Loopback.unaryLines lookupId result) with lookup := some (call, task') },
          .completing result)
  | .completing result =>
    match s.lookup with
    | none => none
    | some (call, task) =>
      let o := call.complete result
      some ({ s with lookup := some (o.state, task) }.say o.lines,
        if o.answer then .telling else .resting)
  | .telling => some (s.notify doneEvent .lookup lookupId lookupTarget, .resting)

def tick (e : Ensemble) (n : Nat) : Ensemble :=
  { e with shared := { e.shared with clock := e.shared.clock + n } }

def step (e : Ensemble) : Move → Option Ensemble
  | .main => (mainMove e.shared e.desk).map fun q => { e with shared := q.1, desk := q.2 }
  | .listing =>
    (listingMove e.shared e.desk e.listing).map fun q => { e with shared := q.1, listing := q.2 }
  | .lookup => (lookupMove e.shared e.lookup).map fun q => { e with shared := q.1, lookup := q.2 }
  | .tick n => some (e.tick n)

def run (e : Ensemble) : List Move → Option Ensemble
  | [] => some e
  | m :: ms => (e.step m).bind fun e' => e'.run ms

theorem run_append (e : Ensemble) (ms ms' : List Move) :
    e.run (ms ++ ms') = (e.run ms).bind fun e' => e'.run ms' := by
  induction ms generalizing e with
  | nil => rfl
  | cons m ms ih =>
      cases h : e.step m with
      | none => simp [run, h]
      | some e' => simpa [run, h] using ih e'

/-- Somebody can go on, if not at once then when time has passed. -/
def CanGoOn (e : Ensemble) : Prop := ∃ wait m, m.isBusy ∧ ((e.tick wait).step m).isSome

theorem CanGoOn.of_step {e : Ensemble} {m : Move} (busy : m.isBusy) (h : (e.step m).isSome) :
    e.CanGoOn := ⟨0, m, busy, h⟩

/-- The main thread waits for an event, for a lock, or is done. -/
theorem canGoOn_of_desk {e : Ensemble} (ready : e.desk ≠ .ready) (extracting : e.desk ≠ .extracting)
    (going : ∀ result, e.desk ≠ .done result) : e.CanGoOn := by
  refine .of_step (m := .main) rfl ?_
  obtain ⟨s, desk, post, lookupPost⟩ := e
  rw [step, Option.isSome_map]
  cases desk with
  | ready => exact absurd rfl ready
  | extracting => exact absurd rfl extracting
  | done result => exact absurd rfl (going result)
  | launching | claiming =>
      simp only [mainMove]
      split <;> rfl
  | resuming item => cases item <;> rfl
  | settling result =>
      cases result with
      | ok => rfl
      | error f =>
          simp only [mainMove]
          split <;> rfl
  | leaving result => cases result <;> rfl
  | _ => rfl

end Ensemble

end CallBridge.Demo
