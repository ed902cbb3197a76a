import CallBridge.Proofs.Demo.Ensemble

/-!
# Turns of the consumer and steps of the transport

`Demo.run` lets the consumer take whole turns, and lets a task of the transport go on to its next
wait when the consumer waits. Each of the two is a run of the ensemble.
-/

namespace CallBridge

theorem EventLoop.eq_of_wait {π : Type} {l l' : EventLoop π} (h : l.turn = (l', .wait)) :
    l' = l := by
  unfold EventLoop.turn EventLoop.receive at h
  split at h
  · cases h
  · cases queue : l.queue with
    | nil =>
        rw [queue] at h
        cases h
        rfl
    | cons m rest =>
        rw [queue] at h
        cases m with
        | event e => cases h
        | halt epoch =>
            dsimp only at h
            split at h <;> cases h

namespace Demo

open Loopback (StreamTask UnaryTask Report View)

namespace State

@[simp] theorem say_nil (s : State) : s.say [] = s := by simp [say]

@[simp] theorem ask_none (s : State) : s.ask none = s := rfl

end State

namespace Ensemble

/-- One gets from one ensemble to the other, and somebody goes on. -/
def Reaches (e e' : Ensemble) : Prop := ∃ ms : List Move, (∃ m ∈ ms, m.isBusy) ∧ e.run ms = some e'

theorem Reaches.of_step {e e' : Ensemble} {m : Move} (busy : m.isBusy) (h : e.step m = some e') :
    Reaches e e' :=
  ⟨[m], ⟨m, by simp, busy⟩, by simp [run, h]⟩

theorem Reaches.trans {e e' e'' : Ensemble} (h : Reaches e e') (h' : Reaches e' e'') :
    Reaches e e'' := by
  obtain ⟨ms, ⟨m, mem, busy⟩, hrun⟩ := h
  obtain ⟨ms', -, hrun'⟩ := h'
  exact ⟨ms ++ ms', ⟨m, List.mem_append_left _ mem, busy⟩, by simp [run_append, hrun, hrun']⟩

theorem Reaches.of_tick {e e' : Ensemble} (n : Nat) (h : Reaches (e.tick n) e') : Reaches e e' := by
  obtain ⟨ms, ⟨m, mem, busy⟩, hrun⟩ := h
  exact ⟨.tick n :: ms, ⟨m, List.mem_cons_of_mem _ mem, busy⟩, by simpa [run, step] using hrun⟩

/-! ## The consumer -/

theorem reaches_of_main {s t : State} {c d : Desk} (h : mainMove s c = some (t, d)) :
    Reaches { shared := s, desk := c } { shared := t, desk := d } :=
  .of_step (m := .main) rfl (by simp [step, h])

variable {s : State}

/-- A take by parts is the whole take. -/
theorem reaches_handleItem (unlocked : s.listing.cell.inspector = none) {e : Event Source}
    (item : e.name = itemEvent) :
    Reaches { shared := s, desk := .holding e }
      { shared := handleItem s, desk := .settling (.ok ()) } := by
  rw [handleItem_eq]
  cases claimed : s.listing.cell.claim with
  | none =>
      have nothing : s.listing.take Thread.main.serial =
          { state := s.listing, answer := (none, none) } := by
        simp [Stream.take, Stream.afterTake, Cell.take, unlocked, claimed]
      refine .trans (reaches_of_main (t := s) (d := .reporting none) ?_) (reaches_of_main ?_)
      · simp [mainMove, dispatch, item, unlocked, claimed]
      · simp [mainMove, nothing, State.onListing]
  | some cell =>
      have taken : s.listing.take Thread.main.serial = s.listing.afterTake cell.extract := by
        simp [Stream.take, Cell.take, unlocked, claimed]
      have still : cell.inspector = none := by
        simp only [Cell.claim] at claimed
        split at claimed <;> cases claimed
        exact unlocked
      refine .trans (reaches_of_main (t := { s with listing := { s.listing with cell } })
        (d := .extracting) (by simp [mainMove, dispatch, item, unlocked, claimed])) ?_
      refine .trans (reaches_of_main (d := .resuming cell.extract.answer)
        (by simp [mainMove, still]; rfl)) ?_
      rw [taken]
      cases found : cell.extract.answer with
      | none =>
          refine .trans (reaches_of_main (d := .reporting none) rfl) (reaches_of_main ?_)
          simp [mainMove, Stream.afterTake, found, State.onListing]
      | some f =>
          have resumed : s.listing.afterTake cell.extract =
              { state := { s.listing with cell := cell.extract.state }.resume.1
                answer := (some f, { s.listing with cell := cell.extract.state }.resume.2)
                lines := cell.extract.lines } := by
            simp [Stream.afterTake, found]
          rw [resumed]
          exact .trans (reaches_of_main (d := .reporting (some f)) rfl) (reaches_of_main rfl)

theorem reaches_handle (unlocked : s.listing.cell.inspector = none) (e : Event Source) :
    Reaches { shared := s, desk := .holding e }
      { shared := (handle s e).1, desk := .settling (handle s e).2 } := by
  by_cases item : e.name = itemEvent
  · simpa [handle, item] using reaches_handleItem unlocked item
  by_cases ended : e.name = endEvent
  · cases closed : closeListing s with
    | mk t result =>
        cases result with
        | error f =>
            refine reaches_of_main ?_
            simp only [mainMove, dispatch, handle, handleEnd_eq, ended, closed,
              endEvent_ne_itemEvent, if_true, if_false]
            rfl
        | ok =>
            refine .trans (reaches_of_main (t := t) (d := .registering) ?_) (reaches_of_main ?_)
            · simp [mainMove, dispatch, ended, closed]
            · simp only [mainMove, handle, handleEnd_eq, ended, closed, endEvent_ne_itemEvent,
                if_true, if_false]
              rfl
  · refine reaches_of_main ?_
    by_cases done : e.name = doneEvent <;> simp [mainMove, dispatch, handle, item, ended, done]

def Desk.after : Except Fault Unit → Desk
  | .ok () => .concluding
  | .error f => .done (.error f)

/-- What a turn of the consumer comes to, the ensemble gets to. -/
inductive Takes (s : State) : Course → Prop where
  | waiting (waits : mainMove s .ready = none) : Takes s (.waiting s)
  | going {t : State} (reaches : Reaches { shared := s } { shared := t }) : Takes s (.going t)
  | ended {t : State} {result : Except Fault Unit}
      (reaches : Reaches { shared := s } { shared := t, desk := Desk.after result }) :
      Takes s (.ended t result)

theorem takes_turn (unlocked : s.listing.cell.inspector = none) : Takes s (consumerTurn s) := by
  cases turn : s.loop.turn with
  | mk loop met =>
      cases met with
      | wait =>
          obtain rfl := EventLoop.eq_of_wait turn
          simp only [consumerTurn, turn]
          exact .waiting (by simp [mainMove, turn])
      | stop =>
          simp only [consumerTurn, turn]
          have stopped : Reaches { shared := s }
              { shared := { s with loop }, desk := .leaving (.ok ()) } :=
            reaches_of_main (by simp [mainMove, turn])
          exact .ended (stopped.trans (reaches_of_main rfl))
      | skip =>
          simp only [consumerTurn, turn]
          exact .going (reaches_of_main (by simp [mainMove, turn]))
      | dispatch e =>
          have held : Reaches { shared := s }
              { shared := { s with loop }, desk := .holding e } :=
            reaches_of_main (by simp [mainMove, turn])
          have handled := held.trans (reaches_handle (s := { s with loop }) unlocked e)
          simp only [consumerTurn, turn]
          cases result : handle { s with loop } e with
          | mk t r =>
              rw [result] at handled
              cases r with
              | ok => exact .going (handled.trans (reaches_of_main rfl))
              | error f =>
                  cases after : t.loop.afterFailure f with
                  | mk stop lines =>
                      cases stop with
                      | none =>
                          simp only [after]
                          refine .going (handled.trans (reaches_of_main ?_))
                          simp [mainMove, after]
                      | some f' =>
                          simp only [after]
                          refine .ended (handled.trans (.trans
                            (reaches_of_main (t := t.say lines) (d := .leaving (.error f')) ?_)
                            (reaches_of_main rfl)))
                          simp [mainMove, after]

/-! ## The stream's task -/

theorem reaches_of_listing {t : State} {p q : ListingPost}
    (h : listingMove s .ready p = some (t, q)) :
    Reaches { shared := s, listing := p } { shared := t, listing := q } :=
  .of_step (m := .listing) rfl (by simp [step, h])

/-- A delivery by parts is the whole delivery. -/
theorem reaches_deliver (s : State) (r : Report Feature) :
    Reaches { shared := s, listing := .ofReport (some r) } { shared := deliver s r } := by
  cases r with
  | item f =>
      cases wanted : s.listing.accept.answer with
      | false =>
          refine reaches_of_listing ?_
          simp [listingMove, ListingPost.ofReport, deliver, Stream.deliver, wanted]
      | true =>
          -- The place is locked while the event is enqueued.
          have shown : deliver s (.item f) =
              let t := (s.onListing s.listing.accept).onListing
                (s.listing.accept.state.beginInspection (Thread.main.serial + 1) f)
              let t := t.notify itemEvent .listing listingId listingTarget
              { t with listing := t.listing.endInspection false } := by
            simp [deliver, Stream.deliver, wanted, State.onListing, State.say]
          rw [shown]
          refine .trans (reaches_of_listing (t := s.onListing s.listing.accept)
            (q := .publishing f) (by simp [listingMove, ListingPost.ofReport, wanted])) ?_
          refine .trans (reaches_of_listing (q := .inspecting) rfl) ?_
          exact .trans (reaches_of_listing (q := .unlocking) rfl) (reaches_of_listing rfl)
  | closeReads => exact reaches_of_listing rfl
  | finish status =>
      let t := s.say [Loopback.endLine listingId status]
      cases first : (t.listing.finish status).answer with
      | false =>
          refine reaches_of_listing ?_
          simp [listingMove, ListingPost.ofReport, deliver, t, first]
      | true =>
          refine .trans (reaches_of_listing (t := t.onListing (t.listing.finish status))
            (q := .telling) ?_) (reaches_of_listing ?_)
          · simp [listingMove, ListingPost.ofReport, t, first]
          · simp [listingMove, deliver, t, first]

/-- The turn that the stream's task takes next, by what it sees of its lane. -/
def nextTurn (s : State) (r : StreamTask.Reads) : Option (StreamTask.Turn Feature) :=
  s.listingTask.turn (viewOf s s.listing.cell) r s.plan.transport.latency
    (.ok (listFeatures s.plan.items))

def afterTurn (s : State) (turn : StreamTask.Turn Feature) : State :=
  { s with listingTask := turn.task, taken := s.taken + turn.takes.toNat }

theorem listingMove_resting (launched : s.listing.started = true) (d : Desk) :
    listingMove s d .resting =
      (nextTurn s (reads s d)).map fun turn => (afterTurn s turn, .ofReport turn.report) :=
  if_pos launched

theorem step_of_done {e : Ensemble} (served : e.shared.listingTask = .done)
    (resting : e.listing = .resting) : e.step .listing = none := by
  simp [step, resting, listingMove, served, StreamTask.turn]

theorem reaches_afterTurn (launched : s.listing.started = true) {turn : StreamTask.Turn Feature}
    (next : nextTurn s (readsOf s) = some turn) :
    Reaches { shared := s }
      { shared := afterTurn s turn, listing := .ofReport turn.report } := by
  refine reaches_of_listing ?_
  have reads : reads s .ready = readsOf s := by simp [reads, readsOf]
  rw [listingMove_resting launched, reads, next]
  rfl

/-- What a poll comes to when its task has come this far and has taken so many requests. -/
def polled (s : State) (q : StreamTask Feature × Option (Report Feature)) (taken : Nat) : State :=
  match q.2 with
  | some r => deliver { s with listingTask := q.1, taken } r
  | none => { s with listingTask := q.1, taken }

theorem listingStep_eq_polled (s : State) :
    listingStep s =
      polled s
        (s.listingTask.run (viewOf s s.listing.cell) (readsOf s) s.plan.transport.latency
          (.ok (listFeatures s.plan.items)))
        (if s.listingTask.takesRead (viewOf s s.listing.cell) (readsOf s)
          (.ok (listFeatures s.plan.items)) then s.taken + 1 else s.taken) := rfl

/-- What a poll comes to, by the turn that it begins with: it waits, it reports, or it goes on. -/
theorem listingStep_eq (s : State) :
    listingStep s =
      match nextTurn s (readsOf s) with
      | none => s
      | some turn =>
        match turn.report with
        | some r => deliver (afterTurn s turn) r
        | none => listingStep (afterTurn s turn) := by
  rw [listingStep_eq_polled]
  unfold nextTurn
  cases task : s.listingTask with
  | done => simp [StreamTask.turn, StreamTask.takesRead, StreamTask.run, polled, ← task]
  | closing => simp [StreamTask.turn, StreamTask.takesRead, StreamTask.run, polled, afterTurn]
  | fresh =>
      cases stop : (viewOf s s.listing.cell).stop? with
      | some status =>
          simp [StreamTask.turn, StreamTask.takesRead, StreamTask.run, polled, afterTurn, stop]
      | none =>
          simp only [StreamTask.turn, StreamTask.run, stop]
          rfl
  | waiting items =>
      cases stop : (viewOf s s.listing.cell).stop? with
      | some status =>
          simp [StreamTask.turn, StreamTask.takesRead, StreamTask.run, StreamTask.await, polled,
            afterTurn, stop]
      | none =>
          by_cases asked : 0 < (readsOf s).waiting
          · simp only [StreamTask.turn, StreamTask.run, StreamTask.await, StreamTask.takesRead,
              stop, asked, if_true]
            rfl
          · cases laneOpen : (readsOf s).laneOpen <;>
              simp [StreamTask.turn, StreamTask.takesRead, StreamTask.run, StreamTask.await, polled,
                afterTurn, stop, asked, laneOpen, ← task]
  | pausing items wake =>
      cases stop : (viewOf s s.listing.cell).stop? with
      | some status =>
          simp [StreamTask.turn, StreamTask.takesRead, StreamTask.run, StreamTask.pause, polled,
            afterTurn, stop]
      | none =>
          by_cases finished : wake ≤ (viewOf s s.listing.cell).now
          · cases items <;>
              simp [StreamTask.turn, StreamTask.takesRead, StreamTask.run, StreamTask.pause, polled,
                StreamTask.answer, afterTurn, stop, finished]
          · simp [StreamTask.turn, StreamTask.takesRead, StreamTask.run, StreamTask.pause, polled,
              stop, finished, ← task]

/-- Turns that a poll can take before it reports or waits. -/
def turnsLeft : StreamTask Feature → Nat
  | .fresh => 2
  | .waiting _ => 1
  | .pausing .. | .closing | .done => 0

theorem turnsLeft_of_quiet {turn : StreamTask.Turn Feature}
    (next : nextTurn s (readsOf s) = some turn) (quiet : turn.report = none) :
    turnsLeft turn.task < turnsLeft s.listingTask := by
  unfold nextTurn at next
  cases task : s.listingTask with
  | done =>
      rw [task] at next
      cases next
  | closing =>
      rw [task] at next
      cases next
      cases quiet
  | fresh =>
      simp only [task, StreamTask.turn] at next
      split at next <;> cases next
      · cases quiet
      · cases quiet
      · exact Nat.lt_add_one 1
  | waiting items =>
      simp only [task, StreamTask.turn] at next
      split at next
      · cases next
        cases quiet
      · split at next
        · cases next
          simp [turnsLeft]
        · split at next <;> cases next
          cases quiet
  | pausing items wake =>
      simp only [task, StreamTask.turn] at next
      split at next
      · cases next
        cases quiet
      · split at next <;> cases next
        cases items <;> cases quiet

theorem reaches_listing (launched : s.listing.started = true) {turn : StreamTask.Turn Feature}
    (next : nextTurn s (readsOf s) = some turn) :
    Reaches { shared := s } { shared := listingStep s } := by
  -- Only turns without a report are followed by another one, and there are two of them at most.
  induction left : turnsLeft s.listingTask using Nat.strongRecOn generalizing s turn with
  | ind n ih =>
      have gone := reaches_afterTurn launched next
      have poll := listingStep_eq s
      simp only [next] at poll
      cases report : turn.report with
      | some r =>
          simp only [report] at poll gone
          rw [poll]
          exact gone.trans (reaches_deliver _ r)
      | none =>
          simp only [report] at poll gone
          rw [poll]
          cases further : nextTurn (afterTurn s turn) (readsOf (afterTurn s turn)) with
          | none =>
              have stays := listingStep_eq (afterTurn s turn)
              simp only [further] at stays
              rw [stays]
              exact gone
          | some turn' =>
              have fewer : turnsLeft (afterTurn s turn).listingTask < n :=
                left ▸ turnsLeft_of_quiet next report
              exact gone.trans (ih (s := afterTurn s turn) _ fewer launched further rfl)

/-! ## The transport -/

theorem stop?_viewOf {α : Type} (s : State) (c : Cell α) :
    (viewOf s c).stop? = if c.cancelled then some Loopback.cancelledByClient else none := rfl

theorem nextTurn_of_due {moment : Nat} (due : listingDue s = some moment) :
    ∃ turn, nextTurn (moveClock s moment) (readsOf s) = some turn := by
  unfold nextTurn
  unfold listingDue at due
  show ∃ turn, s.listingTask.turn (viewOf (moveClock s moment) s.listing.cell) (readsOf s) _ _ = _
  cases task : s.listingTask with
  | done =>
      rw [task] at due
      cases due
  | closing => exact ⟨_, rfl⟩
  | fresh =>
      simp only [StreamTask.turn]
      split <;> exact ⟨_, rfl⟩
  | waiting items =>
      simp only [task, StreamTask.due, viewOf] at due
      simp only [StreamTask.turn, stop?_viewOf]
      cases cancelled : s.listing.cell.cancelled with
      | true => exact ⟨_, rfl⟩
      | false =>
          by_cases asked : 0 < (readsOf s).waiting
          · exact ⟨_, by simp [asked]; rfl⟩
          · cases laneOpen : (readsOf s).laneOpen with
            | true => simp [cancelled, asked, laneOpen] at due
            | false => exact ⟨_, by simp [asked]; rfl⟩
  | pausing items wake =>
      simp only [task, StreamTask.due, viewOf, Loopback.earliest, Option.some.injEq] at due
      simp only [StreamTask.turn, stop?_viewOf]
      cases cancelled : s.listing.cell.cancelled with
      | true => exact ⟨_, rfl⟩
      | false =>
          have reached : wake ≤ (viewOf (moveClock s moment) s.listing.cell).now := by
            simp only [cancelled, Bool.false_eq_true, if_false] at due
            exact due ▸ Nat.le_max_right ..
          exact ⟨_, by simp [reached]; rfl⟩

theorem reaches_of_lookup {t : State} {p q : LookupPost}
    (h : lookupMove s p = some (t, q)) :
    Reaches { shared := s, lookup := p } { shared := t, lookup := q } :=
  .of_step (m := .lookup) rfl (by simp [step, h])

/-- When its time has come, the second call's task answers or begins to wait. -/
theorem run_of_due {task : UnaryTask} {c : Cell Feature} {moment : Nat}
    (due : task.due (viewOf s c) = some moment) (latency : Nat) (serve : Except Status Feature) :
    (task.run (viewOf (moveClock s moment) c) latency serve).2 = none →
      (task.run (viewOf (moveClock s moment) c) latency serve).1 ≠ task := by
  intro silent
  cases task with
  | done => cases due
  | fresh =>
      simp only [UnaryTask.run, UnaryTask.run.wait, stop?_viewOf]
      cases c.cancelled with
      | true => nofun
      | false =>
          simp only [Bool.false_eq_true, if_false]
          split <;> nofun
  | pausing wake =>
      simp only [UnaryTask.due, viewOf, Loopback.earliest, Option.some.injEq] at due
      simp only [UnaryTask.run, UnaryTask.run.wait, stop?_viewOf] at silent
      cases cancelled : c.cancelled with
      | true => simp [cancelled] at silent
      | false =>
          have reached : wake ≤ (viewOf (moveClock s moment) c).now := by
            simp only [cancelled, Bool.false_eq_true, if_false] at due
            exact due ▸ Nat.le_max_right ..
          simp [cancelled, reached] at silent

theorem reaches_lookup {call : Unary Feature} {task : UnaryTask}
    (underway : s.lookup = some (call, task)) {moment : Nat}
    (due : task.due (viewOf s call.cell) = some moment) :
    Reaches { shared := moveClock s moment }
      { shared := lookupStep (moveClock s moment) call task } := by
  let t := moveClock s moment
  have goes := run_of_due due t.plan.transport.latency (findFeature t.plan.items)
  have present : t.lookup = some (call, task) := underway
  cases ran : task.run (viewOf t call.cell) t.plan.transport.latency (findFeature t.plan.items) with
  | mk task' answer =>
      cases answer with
      | none =>
          have moves : task' ≠ task := by simpa [t, ran] using goes (by simp [t, ran])
          refine reaches_of_lookup ?_
          simp [lookupMove, present, lookupStep, ran, moves, t]
      | some result =>
          let told := { t.say (Loopback.unaryLines lookupId result) with
            lookup := some (call, task') }
          have answered : Reaches { shared := t }
              { shared := told, lookup := .completing result } :=
            reaches_of_lookup (by simp [lookupMove, present, ran, told])
          refine answered.trans ?_
          cases first : (call.complete result).answer with
          | false =>
              refine reaches_of_lookup ?_
              simp [lookupMove, lookupStep, ran, first, told, t]
          | true =>
              let completed := { told with
                lookup := some ((call.complete result).state, task') }.say
                  (call.complete result).lines
              refine .trans (reaches_of_lookup (t := completed) (q := .telling) ?_)
                (reaches_of_lookup ?_)
              · simp [lookupMove, first, told, completed]
              · simp [lookupMove, lookupStep, ran, first, told, completed, t]

/-- A step of the transport is a run of the ensemble. -/
theorem reaches_of_transport (launched : s.listing.started = true) {t : State}
    (h : transportStep s = some t) : Reaches { shared := s } { shared := t } := by
  have moved (moment : Nat) :
      ({ shared := s } : Ensemble).tick (moment - s.clock) = { shared := moveClock s moment } := by
    have later : s.clock + (moment - s.clock) = max s.clock moment := by omega
    simp [tick, moveClock, later]
  have listing {moment : Nat} (due : listingDue s = some moment) :
      Reaches { shared := s } { shared := listingStep (moveClock s moment) } := by
    obtain ⟨turn, next⟩ := nextTurn_of_due due
    exact .of_tick _ (moved moment ▸ reaches_listing (s := moveClock s moment) launched next)
  have lookup {moment : Nat} {call : Unary Feature} {task : UnaryTask}
      (underway : s.lookup = some (call, task)) (due : lookupDue s = some moment) :
      Reaches { shared := s } { shared := lookupStep (moveClock s moment) call task } := by
    simp only [lookupDue, underway, Option.bind_some] at due
    exact .of_tick _ (moved moment ▸ reaches_lookup underway due)
  -- Time passes until the first of the two is due.
  unfold transportStep at h
  split at h
  · next a b call task a' b' underway =>
      split at h
      · exact Option.some.inj h ▸ listing a'
      · exact Option.some.inj h ▸ lookup underway b'
  · next b call task a' b' underway => exact Option.some.inj h ▸ lookup underway b'
  · next a a' _ => exact Option.some.inj h ▸ listing a'
  · cases h

/-! ## Nobody goes on -/

theorem undue_of_transport (h : transportStep s = none) :
    listingDue s = none ∧ lookupDue s = none := by
  unfold transportStep at h
  split at h
  · split at h <;> cases h
  · cases h
  · cases h
  · next undue alone =>
      refine ⟨undue, ?_⟩
      cases due : lookupDue s with
      | none => rfl
      | some moment =>
          cases underway : s.lookup with
          | none => simp [lookupDue, underway] at due
          | some q => exact absurd underway (alone moment q.1 q.2 due)

theorem nextTurn_of_undue (h : listingDue s = none) (n : Nat) :
    nextTurn { s with clock := s.clock + n } (readsOf s) = none := by
  unfold listingDue at h
  show s.listingTask.turn (viewOf _ s.listing.cell) (readsOf s) _ _ = none
  cases task : s.listingTask with
  | done => rfl
  | fresh | closing => simp [task, StreamTask.due] at h
  | pausing items wake => simp [task, StreamTask.due] at h
  | waiting items =>
      have idle : s.listing.cell.cancelled = false ∧ ¬0 < (readsOf s).waiting ∧
          (readsOf s).laneOpen = true := by
        simpa [task, StreamTask.due, viewOf, and_assoc] using h
      obtain ⟨uncancelled, unasked, laneOpen⟩ := idle
      simp [StreamTask.turn, stop?_viewOf, uncancelled, unasked, laneOpen]

/-- When the consumer waits and the transport has no step, nobody can go on at any time. -/
theorem not_canGoOn (waits : mainMove s .ready = none) (h : transportStep s = none) :
    ¬CanGoOn { shared := s } := by
  obtain ⟨listing, lookup⟩ := undue_of_transport h
  rintro ⟨n, m, busy, goes⟩
  -- Each party waits at every time.
  cases m with
  | tick => cases busy
  | main =>
      cases met : s.loop.turn with
      | mk loop turn =>
          cases turn with
          | wait => simp [step, Ensemble.tick, mainMove, met] at goes
          | stop | skip | dispatch => simp [mainMove, met] at waits
  | listing =>
      cases launched : s.listing.started with
      | false => simp [step, Ensemble.tick, listingMove, launched] at goes
      | true =>
          let t : State := { s with clock := s.clock + n }
          have reads : reads t .ready = readsOf s := by simp [reads, readsOf, t]
          have move : listingMove t .ready .resting = none := by
            rw [listingMove_resting (s := t) launched, reads, nextTurn_of_undue listing]
            rfl
          simp [step, Ensemble.tick, t, move] at goes
  | lookup =>
      cases underway : s.lookup with
      | none => simp [step, Ensemble.tick, lookupMove, underway] at goes
      | some q =>
          obtain ⟨call, task⟩ := q
          cases task with
          | done => simp [step, Ensemble.tick, lookupMove, underway, UnaryTask.run] at goes
          | fresh | pausing => simp [lookupDue, underway, UnaryTask.due] at lookup

end Ensemble

end Demo

end CallBridge
