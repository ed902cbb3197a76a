import CallBridge.Proofs.Script.Steps

/-!
# Steps inside callbacks

Every step that has nothing to do with other threads is a run of moves on each stream, and so are
the steps that it carries out in its turn.
-/

namespace CallBridge.Script

variable {α β : Type} {F : Nest} {th : Nat} {e : Engine} {ctx : Context}

/-! ## Calls -/

theorem keeps_start {on via : String} {request : Datum} (nested : NestedKeep e th)
    (here : ctx.thread.serial = th) : (e.start ctx on via request).Keeps F th := by
  intro w h
  simp only [Engine.start, yields_bind, yields_namedCall, yields_get, yields_named]
  refine ⟨fun named _ => ⟨fun channel known => ?_, fun _ => h⟩, fun _ => h⟩
  have started : w.Ensures (e.startOn ctx named.call via channel request)
      fun r w' => w'.Yields (conclude r) (fun w' => w'.Sessions F th)
        fun _ w' => w'.Sessions F th := by
    refine ensures_mono (sessions_startOn nested here known h) fun r w' h' => ?_
    exact keeps_conclude w' h'
  cases channel with
  | recorder r => simpa using started
  | service transport service streams latency =>
      simp only [yields_bind, yields_lift, ensures_member]
      intro m _
      split
      · simpa using h
      · simpa using started

theorem keeps_complete {on : String} {result : Except Status Datum} (nested : NestedKeep e th)
    (here : ctx.thread.serial = th) : (e.complete ctx on result).Keeps F th :=
  keeps_namedCallOf.bind fun _ =>
    (keeps_lift fun _ h => sessions_deliverOutcome nested here h).bind fun _ => keeps_unwind

theorem keeps_arrive {on : String} {x : Datum} (nested : NestedKeep e th)
    (here : ctx.thread.serial = th) : (e.arrive ctx on x).Keeps F th :=
  keeps_namedCallOf.bind fun _ =>
    (keeps_lift fun _ h => sessions_deliverItem nested here h).bind fun _ => keeps_unwind

theorem keeps_closeReads {on : String} (nested : NestedKeep e th)
    (here : ctx.thread.serial = th) : (e.closeReads ctx on).Keeps F th :=
  keeps_namedCallOf.bind fun _ =>
    (keeps_lift fun _ h => sessions_deliverClose nested here h).bind fun _ => keeps_unwind

theorem keeps_finish {on : String} {status : Status} (nested : NestedKeep e th)
    (here : ctx.thread.serial = th) : (e.finish ctx on status).Keeps F th :=
  keeps_namedCallOf.bind fun _ =>
    (keeps_lift fun _ h => sessions_deliverEnd nested here h).bind fun _ => keeps_unwind

/-! ## All steps -/

theorem keeps_perform {s : Step} (nested : NestedKeep e th) (here : ctx.thread.serial = th)
    (prompt : s.Prompt) : (e.perform ctx s).Keeps F th := by
  obtain ⟨now, calm⟩ := prompt
  cases s with
  | newUnary as onDone timeout =>
      show (newCall as fun id => .unary (.create id timeout) onDone).Keeps F th
      refine keeps_newCall (fun id s hooks same => by simp at same) fun id s hs => ?_
      exact calm.prompt s (by simpa [Body.steps, Step.later] using hs)
  | newStream as onItem onEnd onClosed timeout =>
      show (newCall as fun id =>
        .stream (.create id timeout) { onItem, onEnd, onClosed }).Keeps F th
      refine keeps_newCall (fun id s hooks same => ?_) fun id s hs => ?_
      · rw [Body.stream.injEq] at same
        obtain ⟨rfl, rfl⟩ := same
        exact ⟨timeout, rfl, rfl⟩
      · exact calm.prompt s (by simpa [Body.steps, Step.later] using hs)
  | start => exact keeps_start nested here
  | take on =>
      exact keeps_namedCall.bind fun _ =>
        (keeps_lift fun _ h => sessions_takeFrom h (.inl here)).bind fun _ => keeps_pure _
  | joinTakes => exact keeps_joinTakes
  | cancel on =>
      exact keeps_namedCall.bind fun _ =>
        (keeps_lift fun _ h => sessions_cancelCall h).bind fun _ => keeps_pure _
  | complete => exact keeps_complete nested here
  | item => exact keeps_arrive nested here
  | closeReads => exact keeps_closeReads nested here
  | finish => exact keeps_finish nested here
  | newRecorder as onStart => exact keeps_newRecorder calm.prompt
  | recorded => exact keeps_recordedOf
  | newTransport => exact keeps_newTransport
  | serveUnary | serveStream => exact keeps_newService
  | dropTransport => exact keeps_dropTransport
  | reserve => exact keeps_reserve
  | occupy => exact keeps_occupy
  | abandon => exact keeps_abandon
  | release => exact keeps_release
  | releaseCall => exact keeps_releaseCall
  | isCurrent => exact keeps_isCurrent
  | cancelAll => exact keeps_cancelAll
  | register loop name handler => exact keeps_register calm.of_handled
  | takePayload => exact keeps_takePayload here
  | payloadStatus => exact keeps_payloadStatus
  | runAside => exact keeps_runAside
  | takeAside | awaitEnd | newLoop | run | join | awaitStopped | dropLoop =>
      simp [Step.waits] at now
  -- The steps that are left only look, or change what no stream depends on.
  | wrap | describe | state | shape | drop =>
      intro w h
      simp [Engine.perform, wrapCall, describeCall, stateOfCall, shapeOfCall, dropCall, h]
  | newRegister | reservedKey | reservationShape | isBusy | live | registerSize
  | registerShape =>
      intro w h
      simp [Engine.perform, newRegister, reservedKey, shapeOfReservation, isBusy, liveUnder,
        sizeOfRegister, shapeOfRegister, namedRegister, h]
  | enqueue =>
      exact keeps_namedLoop.bind fun _ => keeps_specifiedPayload.bind fun _ => keeps_enqueueOn
  | enqueueCall =>
      exact keeps_namedLoop.bind fun _ => keeps_callEvent.bind fun _ => keeps_enqueueOn
  | send =>
      exact keeps_namedOutlet.bind fun _ => keeps_specifiedPayload.bind fun _ => keeps_enqueueOn
  | sendCall =>
      exact keeps_namedOutlet.bind fun _ => keeps_callEvent.bind fun _ => keeps_enqueueOn
  | newEvent => exact keeps_specifiedPayload.bind fun _ => keeps_newEvent
  | newCallEvent => exact keeps_callEvent.bind fun _ => keeps_newEvent
  | sendEvent =>
      refine keeps_namedOutlet.bind fun _ => ?_
      intro w h
      simp only [yields_bind, yields_get, yields_named]
      exact ⟨fun ev _ => keeps_enqueueOn w h, fun _ => h⟩
  | halt =>
      exact keeps_namedLoop.bind fun _ =>
        (keeps_lift fun _ h => sessions_advanceLoop h).bind fun _ => keeps_pure _
  | hasHandler | outlet | outletShape | pending | isRunning | isConsumer =>
      intro w h
      simp [Engine.perform, namedLoop, namedOutlet, newOutlet, h]

/-! ## Steps inside steps -/

theorem sessions_carryOut {s : Step} {w : World} (nested : NestedKeep e th)
    (here : ctx.thread.serial = th) (prompt : s.Prompt) (h : w.Sessions F th) :
    w.Ensures (e.carryOut ctx s) fun _ w' => w'.Sessions F th := by
  simp only [Engine.carryOut, ensures_bind, ensures_collect]
  have performed := keeps_perform nested here prompt { w with trace := #[] } h
  refine ensures_mono performed fun r w' h' => ?_
  cases r with
  | ok reply => exact (ensures_pure _).mpr h'
  | error early => exact (ensures_pure _).mpr h'

/-- Steps nest as deep as they like. -/
theorem nestedKeep_ofFuel (n th : Nat) : NestedKeep (Engine.ofFuel n) th := by
  -- Steps inside a step are carried out with one unit of fuel less.
  induction n with
  | zero => exact fun ctx s F w _ _ _ => ensures_failure
  | succ n ih => exact fun ctx s F w here prompt h => sessions_carryOut ih here prompt h

end CallBridge.Script
