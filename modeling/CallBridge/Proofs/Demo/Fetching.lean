import CallBridge.Proofs.Demo.Streaming

/-!
# The demonstration after its stream

When the stream has ended the main thread hands a second call to the transport, whose task answers
once; meanwhile the main thread registers the call and sees a third one refused. The answer's
handler asks the loop to stop, and from then on the main thread is alone.
-/

namespace CallBridge.Demo

open Loopback (UnaryTask)

/-! ## The second call -/

/-- How far the second call's task is. -/
inductive Reply where
  | fresh
  | pausing (wake : Nat)
  | completing
  | telling
  | told

def launchedCall : Unary Feature := (Unary.create lookupId none).launch.state

def doneNotice : Event Source :=
  { name := doneEvent, payload := some .lookup, call := some lookupId }

namespace Reply

def task : Reply → UnaryTask
  | fresh => .fresh
  | pausing wake => .pausing wake
  | completing | telling | told => .done

def post (n : Nat) : Reply → LookupPost
  | completing => .completing (findFeature n)
  | telling => .telling
  | fresh | pausing _ | told => .resting

def call (n : Nat) : Reply → Unary Feature
  | fresh | pausing _ | completing => launchedCall
  | telling | told => (launchedCall.complete (findFeature n)).state

/-- The queue between the second call's task and the main thread. -/
def queue : Reply → Grip → List (Message Source)
  | told, .apart => [.event doneNotice]
  | _, _ => []

def left : Reply → Nat
  | fresh => 4
  | pausing _ => 3
  | completing => 2
  | telling => 1
  | told => 0

end Reply

def Reply.Due (clock : Nat) : Reply → Prop
  | .pausing wake => wake ≤ clock
  | .told => False
  | _ => True

/-- Where the main thread can be while the second call is under way. -/
inductive Awaits : Reply → Desk → Prop where
  | registering (r : Reply) : Awaits r .registering
  | settling (r : Reply) : Awaits r (.settling (.ok ()))
  | ready (r : Reply) : Awaits r .ready
  | holding : Awaits .told (.holding doneNotice)

theorem Awaits.free {r : Reply} {desk : Desk} (h : Awaits r desk) (untold : r ≠ .told) :
    (∀ r', Awaits r' desk) ∧ desk.grip = .apart := by
  cases h with
  | registering => exact ⟨.registering, rfl⟩
  | settling => exact ⟨.settling, rfl⟩
  | ready => exact ⟨.ready, rfl⟩
  | holding => exact absurd rfl untold

def vacated : Admission.Register := (liveListing.releaseCall listingKey listingId).state

def reservedLookup : Admission.Register := (vacated.reserve lookupKey).state

def liveLookup : Admission.Register := (reservedLookup.occupy lookupKey lookupId).state

/-- The register when everything is released. -/
def cleared : Admission.Register := (liveLookup.releaseCall lookupKey lookupId).state

theorem liveCalls_cleared : cleared.liveCalls = [] := by decide

def Desk.fetchRegister : Desk → Admission.Register
  | registering => reservedLookup
  | _ => liveLookup

def Desk.fetchPage (n : Nat) : Desk → Nat
  | registering => n + 2
  | _ => n + 3

/-- The ensemble's stream is over and the second call's task is as far as given. -/
structure Fetches (plan : Plan) (reply : Reply) (e : Ensemble) : Prop where
  planned : e.shared.plan = plan
  awaits : Awaits reply e.desk
  served : e.shared.listingTask = .done
  resting : e.listing = .resting
  unlocked : e.shared.listing.cell.inspector = none
  launched : e.shared.listing.started = true
  call : e.shared.lookup = some (reply.call plan.items, reply.task)
  post : e.lookup = reply.post plan.items
  loop : LoopAt plan true (reply.queue e.desk.grip) e.shared.loop
  register : e.shared.register = e.desk.fetchRegister
  lines : UpTo plan.items (e.desk.fetchPage plan.items) e.shared.lines

/-- A bound of the moves that are left while the second call is under way. -/
def fetchRank (reply : Reply) (desk : Desk) : Nat := desk.left + reply.left + 3

/-! ## The end -/

/-- Where the main thread is when the loop has been asked to stop. -/
inductive Closing : Desk → Prop where
  | settling : Closing (.settling (.ok ()))
  | ready : Closing .ready
  | leaving : Closing (.leaving (.ok ()))
  | concluding : Closing .concluding
  | done : Closing (.done (.ok ()))

def Desk.lastPage (n : Nat) : Desk → Nat
  | done _ => n + 5
  | _ => n + 4

/-- Both tasks of the ensemble are over and the loop has been asked to stop. -/
structure Closes (plan : Plan) (e : Ensemble) : Prop where
  closing : Closing e.desk
  served : e.shared.listingTask = .done
  resting : e.listing = .resting
  unlocked : e.shared.listing.cell.inspector = none
  launched : e.shared.listing.started = true
  answered : ∃ call, e.shared.lookup = some (call, .done)
  told : e.lookup = .resting
  stops : e.desk = .settling (.ok ()) ∨ e.desk = .ready → e.shared.loop.turn.2 = .stop
  register : e.shared.register = cleared
  lines : UpTo plan.items (e.desk.lastPage plan.items) e.shared.lines

/-- A loop that is asked to stop does so in its next turn, whatever its policy. -/
theorem LoopAt.halt {plan : Plan} {l : EventLoop Source} (h : LoopAt plan true [] l) :
    ∃ l', l.halt = { state := l', answer := true
                     lines := [⟨.debug, loopTarget, "Halt requested"⟩] } ∧
      l'.turn.2 = .stop := by
  have receiver : l.receiver = .away := h.receiver
  have epoch : l.epoch = 1 := h.epoch
  -- The flag is seen under one policy, and the marker under the other.
  refine ⟨{ l with haltRequested := true, queue := [.halt 1] }, ?_, ?_⟩
  · simp only [EventLoop.halt, EventLoop.requestHalt, EventLoop.sendHalt, EventLoop.send,
      EventLoop.isOpen, h.active, h.unasked, h.queued, receiver, epoch]
    rfl
  · simp only [EventLoop.turn, EventLoop.receive, epoch]
    split <;> rfl

namespace Ensemble

variable {plan : Plan} {e e' : Ensemble}

theorem closeListing_eq {s : State} {stream : Stream Feature} (live : s.register = liveListing)
    (is : s.listing = stream) (status : stream.cell.status = some .success) :
    ∃ release launch, closeListing s = ({ s with
        register := reservedLookup, lookup := some (launchedCall, .fresh)
        lines := s.lines ++ (release ++
          [⟨.info, listingTarget, "Stream finished: " ++ Status.success.text⟩] ++ launch) },
      .ok ()) ∧ told release = [] ∧ told launch = [] := by
  subst is
  have released : (liveListing.releaseCall listingKey listingId).state = vacated := rfl
  have vacant : vacated.reserve lookupKey = { state := reservedLookup, answer := .ok () } := rfl
  refine ⟨(liveListing.releaseCall listingKey listingId).lines,
    (Unary.create (α := Feature) lookupId none).launch.lines, ?_, told_debug .., told_debug ..⟩
  simp only [closeListing, State.onRegister, State.say, launchLookup, live, status, released,
    vacant, Option.getD_some, List.append_nil, List.append_assoc]
  rfl

/-- The handler of the stream's end: the second call takes over. -/
theorem main_ended (h : Streams plan plan.items .finished e) (held : e.desk = .holding endNotice)
    (hs : e.step .main = some e') :
    Fetches plan .fresh e' ∧
      fetchRank .fresh e'.desk < streamRank plan.items plan.items .finished e.desk := by
  obtain ⟨⟨s', desk'⟩, moved, rfl⟩ := Option.map_eq_some_iff.mp hs
  obtain ⟨s, desk, post, lookupPost⟩ := e
  obtain rfl : desk = .holding endNotice := held
  obtain ⟨release, launch, closed, silent, silent'⟩ := closeListing_eq h.register h.stream rfl
  dsimp only at closed moved
  have named : endNotice.name = endEvent := rfl
  simp only [mainMove, dispatch, named, if_neg endEvent_ne_itemEvent, if_true, closed] at moved
  cases moved
  refine ⟨{
      planned := h.planned
      awaits := .registering _
      served := h.task
      resting := h.post
      unlocked := by
        rw [show s.listing = _ from h.stream]
        rfl
      launched := by
        rw [show s.listing = _ from h.stream]
        rfl
      call := rfl
      post := h.resting
      loop := h.loop
      register := rfl
      lines := ?_ }, ?_⟩
  · rw [← List.append_assoc, ← List.append_assoc]
    have finished := (h.lines.quiet silent).next (account_epilogue plan.items 0) (told_info ..)
    exact finished.quiet silent'
  · simp [fetchRank, streamRank, Desk.left, Reply.left, Leg.left]

theorem rejection_text :
    "Second request rejected: " ++ (Fault.busy lookupKey.shape (some lookupId)).text =
      "Second request rejected: Operation \"GetFeature\" is busy" := by
  decide +kernel

/-- The second call is registered, and the third one is refused because of it. -/
theorem registerLookup_eq {s : State} (reserved : s.register = reservedLookup) :
    ∃ before, registerLookup s = { s with
        register := liveLookup
        lines := s.lines ++ before ++ [⟨.info, "rpc_reactor::demo::get_feature",
          "Second request rejected: Operation \"GetFeature\" is busy"⟩] } ∧
      told before = [] := by
  have occupied : (reservedLookup.occupy lookupKey lookupId).state = liveLookup := rfl
  have refused : (liveLookup.reserve lookupKey).answer =
      .error (.busy lookupKey.shape (some lookupId)) := rfl
  have unchanged : (liveLookup.reserve lookupKey).state = liveLookup := rfl
  have quiet : told (reservedLookup.occupy lookupKey lookupId).lines = [] := told_debug ..
  have quiet' : told (liveLookup.reserve lookupKey).lines = [] := told_debug ..
  refine ⟨(reservedLookup.occupy lookupKey lookupId).lines ++ (liveLookup.reserve lookupKey).lines,
    ?_, by rw [told_append, quiet, quiet', List.nil_append]⟩
  simp only [registerLookup, State.onRegister, State.say, reserved, occupied, refused, unchanged,
    rejection_text, List.append_assoc]
  rfl

theorem take_told (n : Nat) :
    ((Reply.told.call n).take Thread.main.serial).lines = [] ∧
      (n = 0 ∧ ((Reply.told.call n).take Thread.main.serial).answer = none ∧
        ((Reply.told.call n).take Thread.main.serial).state.cell.status =
          some ⟨.notFound, "feature 0 does not exist"⟩ ∨
      n ≠ 0 ∧ ((Reply.told.call n).take Thread.main.serial).answer = some n) := by
  cases n with
  | zero => exact ⟨rfl, .inl ⟨rfl, rfl, rfl⟩⟩
  | succ n => exact ⟨rfl, .inr ⟨nofun, rfl⟩⟩

/-- What the handler of the answer does: it reports the feature, or that there is none, releases the
key, and asks the loop to stop. -/
theorem handleDone_eq {plan : Plan} {s : State} (live : s.register = liveLookup)
    (call : s.lookup = some (Reply.told.call plan.items, .done))
    (loop : LoopAt plan true [] s.loop) :
    ∃ call' loop' before after, handleDone s = { s with
        register := cleared, lookup := some (call', .done), loop := loop'
        lines := s.lines ++ before ++ [fetchedLine plan.items] ++ after } ∧
      loop'.turn.2 = .stop ∧ told before = [] ∧ told after = [] := by
  have released : (liveLookup.releaseCall lookupKey lookupId).state = cleared := rfl
  obtain ⟨loop', halted, stops⟩ := loop.halt
  have quiet : told (liveLookup.releaseCall lookupKey lookupId).lines = [] := told_debug ..
  refine ⟨((Reply.told.call plan.items).take Thread.main.serial).state, loop',
    (liveLookup.releaseCall lookupKey lookupId).lines,
    [⟨.debug, loopTarget, "Halt requested"⟩], ?_, stops, quiet, told_debug ..⟩
  obtain ⟨silent, ⟨empty, nothing, status⟩ | ⟨some, item⟩⟩ := take_told plan.items
  · have fetched : fetchedLine plan.items = _ := if_pos empty
    simp only [handleDone, State.onRegister, State.say, State.onLoop, live, released, call, halted,
      nothing, silent, status, fetched, List.append_nil]
    rfl
  · have fetched : fetchedLine plan.items = _ := if_neg some
    simp only [handleDone, State.onRegister, State.say, State.onLoop, live, released, call, halted,
      item, silent, fetched, List.append_nil]
    rfl

end Ensemble

namespace Fetches

open Ensemble

variable {plan : Plan} {reply : Reply} {e e' : Ensemble}

def Before (plan : Plan) (rank : Nat) (e : Ensemble) : Prop :=
  ∃ reply, Fetches plan reply e ∧ fetchRank reply e.desk < rank

theorem main_step (h : Fetches plan reply e) (going : e.desk ≠ .holding doneNotice)
    (hs : e.step .main = some e') : Before plan (fetchRank reply e.desk) e' := by
  obtain ⟨⟨s', desk'⟩, moved, rfl⟩ := Option.map_eq_some_iff.mp hs
  obtain ⟨s, desk, post, lookupPost⟩ := e
  have awaits : Awaits reply desk := h.awaits
  dsimp only at going moved ⊢
  cases awaits with
  | registering =>
      obtain ⟨before, registered, silent⟩ := registerLookup_eq (s := s) h.register
      simp only [mainMove, registered] at moved
      cases moved
      refine ⟨reply, { h with awaits := .settling _, register := rfl, lines := ?_ }, ?_⟩
      · exact (h.lines.quiet silent).next (account_epilogue plan.items 1) (told_info ..)
      · simp [fetchRank, Desk.left]
  | settling =>
      cases moved
      refine ⟨reply, { h with awaits := .ready _ }, ?_⟩
      simp [fetchRank, Desk.left]
  | ready =>
      -- The only event that can be queued is that of the answer.
      have queued : reply.queue .apart = [] ∨
          reply = .told ∧ reply.queue .apart = [.event doneNotice] := by
        cases reply <;> simp [Reply.queue]
      rcases queued with empty | ⟨rfl, answered⟩
      · have waits : s.loop.turn = (s.loop, .wait) := (empty ▸ h.loop).turn_nil
        simp [mainMove, waits] at moved
      · obtain ⟨loop, taken, left⟩ := (answered ▸ h.loop : LoopAt plan true _ s.loop).turn_event
        simp only [mainMove, taken] at moved
        cases moved
        refine ⟨.told, { h with awaits := .holding, loop := left }, ?_⟩
        simp [fetchRank, Desk.left]
  | holding => exact absurd rfl going

theorem main_answered (h : Fetches plan reply e) (held : e.desk = .holding doneNotice)
    (hs : e.step .main = some e') :
    Closes plan e' ∧ e'.desk.left < fetchRank reply e.desk := by
  obtain ⟨⟨s', desk'⟩, moved, rfl⟩ := Option.map_eq_some_iff.mp hs
  obtain ⟨s, desk, post, lookupPost⟩ := e
  obtain rfl : desk = .holding doneNotice := held
  have awaits : Awaits reply (.holding doneNotice) := h.awaits
  cases awaits
  obtain ⟨call', loop', before, after, done, stops, silent, silent'⟩ :=
    handleDone_eq (s := s) h.register h.call h.loop
  have named : doneNotice.name = doneEvent := rfl
  simp only [mainMove, dispatch, named, if_neg doneEvent_ne_itemEvent, if_neg doneEvent_ne_endEvent,
    if_true] at moved
  rw [done] at moved
  cases moved
  refine ⟨{
      closing := .settling
      served := h.served
      resting := h.resting
      unlocked := h.unlocked
      launched := h.launched
      answered := ⟨_, rfl⟩
      told := h.post
      stops := fun _ => stops
      register := rfl
      lines := ?_ }, ?_⟩
  · exact ((h.lines.quiet silent).next (account_epilogue plan.items 2)
      (told_fetchedLine plan.items)).quiet silent'
  · simp [fetchRank, Desk.left, Reply.left]

/-- The second call's task goes on, and there is less to do afterwards. -/
def Advances (plan : Plan) (reply : Reply) (e : Ensemble) : Prop :=
  ∃ e', e.step .lookup = some e' ∧ Before plan (fetchRank reply e.desk) e'

theorem Advances.before (h : Advances plan reply e) (hs : e.step .lookup = some e') :
    Before plan (fetchRank reply e.desk) e' := by
  obtain ⟨e'', goes, before⟩ := h
  exact Option.some.inj (hs.symm.trans goes) ▸ before

theorem Advances.canGoOn (h : Advances plan reply e) : e.CanGoOn := by
  obtain ⟨e', goes, -⟩ := h
  exact .of_step (m := .lookup) rfl (by rw [goes]; rfl)

/-- What has to be shown of a move of the second call's task. -/
theorem to_reply {s' : State} (reply' : Reply) (h : Fetches plan reply e)
    (move : lookupMove e.shared (reply.post plan.items) = some (s', reply'.post plan.items))
    (awaits : Awaits reply' e.desk) (fewer : reply'.left < reply.left)
    (frame : s' = { e.shared with lookup := s'.lookup, loop := s'.loop, lines := s'.lines })
    (call : s'.lookup = some (reply'.call plan.items, reply'.task))
    (loop : LoopAt plan true (reply'.queue e.desk.grip) s'.loop)
    (lines : ∃ more, s'.lines = e.shared.lines ++ more ∧ told more = []) :
    Advances plan reply e := by
  obtain ⟨more, lines, silent⟩ := lines
  refine ⟨{ e with shared := s', lookup := reply'.post plan.items }, ?_, reply', ?_, ?_⟩
  · rw [step, h.post, move]
    rfl
  · rw [frame]
    exact { h with
      awaits, call, loop
      post := rfl
      lines := by simpa only [lines] using h.lines.quiet silent }
  · simp only [fetchRank]
    omega

theorem told_unaryLines (call : CallId) (result : Except Status Feature) :
    told (Loopback.unaryLines call result) = [] := by
  cases result
  · exact told_debug ..
  · rfl

/-- A task that has not answered yet comes to its answer. -/
theorem answers {task : UnaryTask} (h : Fetches plan reply e) (untold : reply ≠ .told)
    (resting : reply.post plan.items = .resting)
    (call : e.shared.lookup = some (launchedCall, task))
    (ran : task.run (viewOf e.shared launchedCall.cell) e.shared.plan.transport.latency
      (findFeature e.shared.plan.items) = (.done, some (findFeature plan.items)))
    (queue : reply.queue e.desk.grip = []) (fewer : 2 < reply.left) : Advances plan reply e := by
  have move : lookupMove e.shared (reply.post plan.items) =
      some ({ e.shared.say (Loopback.unaryLines lookupId (findFeature plan.items)) with
        lookup := some (launchedCall, .done) }, .completing (findFeature plan.items)) := by
    simp only [resting, lookupMove, call, ran]
  have loop : LoopAt plan true [] e.shared.loop := queue ▸ h.loop
  exact h.to_reply .completing move ((h.awaits.free untold).1 _) fewer rfl rfl loop
    ⟨_, rfl, told_unaryLines ..⟩

theorem fresh_due (h : Fetches plan .fresh e) : Advances plan .fresh e := by
  obtain ⟨free, -⟩ := h.awaits.free (by simp)
  have call : e.shared.lookup = some (launchedCall, .fresh) := h.call
  obtain rfl : e.shared.plan = plan := h.planned
  by_cases immediate : e.shared.clock + e.shared.plan.transport.latency ≤ e.shared.clock
  · exact h.answers (by simp) rfl call (if_pos immediate) rfl (by decide)
  · have ran : UnaryTask.fresh.run (viewOf e.shared launchedCall.cell)
        e.shared.plan.transport.latency (findFeature e.shared.plan.items) =
          (.pausing (e.shared.clock + e.shared.plan.transport.latency), none) :=
      if_neg immediate
    have move : lookupMove e.shared .resting =
        some ({ e.shared with
          lookup := some (launchedCall,
            .pausing (e.shared.clock + e.shared.plan.transport.latency)) }, .resting) := by
      simp only [lookupMove, call, ran]
      rfl
    exact h.to_reply (.pausing _) move (free _) (by decide : (3 : Nat) < 4) rfl rfl h.loop
      ⟨[], (List.append_nil _).symm, rfl⟩

theorem pausing_due {wake : Nat} (h : Fetches plan (.pausing wake) e)
    (due : wake ≤ e.shared.clock) : Advances plan (.pausing wake) e := by
  have call : e.shared.lookup = some (launchedCall, .pausing wake) := h.call
  obtain rfl : e.shared.plan = plan := h.planned
  exact h.answers (by simp) rfl call (if_pos due) rfl (by decide : (2 : Nat) < 3)

theorem completing_due (h : Fetches plan .completing e) : Advances plan .completing e := by
  obtain ⟨free, -⟩ := h.awaits.free (by simp)
  have call : e.shared.lookup = some (launchedCall, .done) := h.call
  have answered : (launchedCall.complete (findFeature plan.items)).answer = true := by
    cases findFeature plan.items <;> rfl
  have silent : told (launchedCall.complete (findFeature plan.items)).lines = [] := by
    cases findFeature plan.items
    · exact told_debug ..
    · rfl
  have move : lookupMove e.shared (.completing (findFeature plan.items)) =
      some ({ e.shared with
        lookup := some ((launchedCall.complete (findFeature plan.items)).state, .done) }.say
          (launchedCall.complete (findFeature plan.items)).lines, .telling) := by
    simp only [lookupMove, call, answered, if_true]
  exact h.to_reply .telling move (free _) (by decide) rfl rfl h.loop ⟨_, rfl, silent⟩

theorem telling_due (h : Fetches plan .telling e) : Advances plan .telling e := by
  obtain ⟨free, apart⟩ := h.awaits.free (by simp)
  obtain ⟨loop, lines, notified, queued, silent⟩ :=
    h.loop.notify doneEvent .lookup lookupId lookupTarget
  have move : lookupMove e.shared .telling =
      some ({ e.shared with loop, lines := e.shared.lines ++ lines }, .resting) := by
    rw [lookupMove, notified]
  refine h.to_reply .told move (free _) (by decide) rfl h.call ?_ ⟨lines, rfl, silent⟩
  rw [apart] at queued ⊢
  exact queued

theorem lookup_due (h : Fetches plan reply e) (due : reply.Due e.shared.clock) :
    Advances plan reply e := by
  cases reply with
  | fresh => exact h.fresh_due
  | pausing wake => exact h.pausing_due due
  | completing => exact h.completing_due
  | telling => exact h.telling_due
  | told => exact due.elim

theorem lookup_step (h : Fetches plan reply e) (hs : e.step .lookup = some e') :
    Before plan (fetchRank reply e.desk) e' := by
  by_cases due : reply.Due e.shared.clock
  · exact (h.lookup_due due).before hs
  · obtain ⟨⟨s', post'⟩, moved, -⟩ := Option.map_eq_some_iff.mp hs
    obtain ⟨s, desk, post, lookupPost⟩ := e
    have call : s.lookup = some (reply.call plan.items, reply.task) := h.call
    obtain rfl : lookupPost = reply.post plan.items := h.post
    dsimp only at moved due
    cases reply with
    | fresh | completing | telling => exact absurd trivial due
    | pausing wake =>
        have ran : (UnaryTask.pausing wake).run (viewOf s launchedCall.cell)
            s.plan.transport.latency (findFeature s.plan.items) = (.pausing wake, none) :=
          if_neg due
        simp only [lookupMove, Reply.post, call, Reply.call, Reply.task, ran] at moved
        cases moved
    | told =>
        have ran : UnaryTask.done.run (viewOf s (Reply.told.call plan.items).cell)
            s.plan.transport.latency (findFeature s.plan.items) = (.done, none) := rfl
        simp only [lookupMove, Reply.post, call, Reply.task, ran] at moved
        cases moved

theorem listing_waits (h : Fetches plan reply e) : e.step .listing = none :=
  step_of_done h.served h.resting

theorem tick (h : Fetches plan reply e) (n : Nat) : Fetches plan reply (e.tick n) := { h with }

theorem goes_on (h : Fetches plan reply e) : e.CanGoOn := by
  obtain ⟨s, desk, post, lookupPost⟩ := e
  have awaits : Awaits reply desk := h.awaits
  cases awaits with
  | registering | settling | holding => exact canGoOn_of_desk (by simp) (by simp) (by simp)
  | ready =>
      cases reply with
      | told => exact Streams.ready_goes h.loop
      | pausing wake =>
          have due : wake ≤ s.clock + wake := Nat.le_add_left ..
          obtain ⟨e', goes, -⟩ := (h.tick wake).lookup_due due
          exact ⟨wake, .lookup, rfl, by rw [goes]; rfl⟩
      | _ => exact (h.lookup_due trivial).canGoOn

end Fetches

namespace Closes

open Ensemble

variable {plan : Plan} {e e' : Ensemble}

/-- The main thread, which is alone now, comes to its end. -/
theorem main_step (h : Closes plan e) (hs : e.step .main = some e') :
    Closes plan e' ∧ e'.desk.left < e.desk.left := by
  obtain ⟨⟨s', desk'⟩, moved, rfl⟩ := Option.map_eq_some_iff.mp hs
  obtain ⟨s, desk, post, lookupPost⟩ := e
  have closing : Closing desk := h.closing
  dsimp only at moved ⊢
  cases closing with
  | settling =>
      cases moved
      exact ⟨{ h with closing := .ready, stops := fun _ => h.stops (.inl rfl) }, by decide⟩
  | ready =>
      have stops : s.loop.turn.2 = .stop := h.stops (.inr rfl)
      simp only [mainMove, stops] at moved
      cases moved
      exact ⟨{ h with closing := .leaving, stops := by simp }, by decide⟩
  | leaving =>
      cases moved
      exact ⟨{ h with
        closing := .concluding, stops := by simp
        lines := h.lines.quiet (told_debug ..) }, by decide⟩
  | concluding =>
      have register : s.register = cleared := h.register
      have concluded : conclude s = { s with
          lines := s.lines ++ [⟨.info, target, "Demo finished (0 call(s) still live)"⟩] } := by
        have idle : s.register.liveCalls = [] := register ▸ liveCalls_cleared
        have nothing : cancelLive s = s := by
          simp only [cancelLive, idle, List.not_mem_nil, if_false]
          split <;> simp [Admission.Register.cancelAllLines, idle]
        simp only [conclude, nothing, idle]
        rfl
      simp only [mainMove, concluded] at moved
      cases moved
      refine ⟨{ h with closing := .done, stops := by simp, lines := ?_ }, by decide⟩
      exact h.lines.next (account_epilogue plan.items 3) (told_info ..)
  | done => cases moved

theorem listing_waits (h : Closes plan e) : e.step .listing = none :=
  step_of_done h.served h.resting

theorem lookup_waits (h : Closes plan e) : e.step .lookup = none := by
  obtain ⟨call, answered⟩ := h.answered
  simp [step, lookupMove, h.told, answered, UnaryTask.run]

theorem tick (h : Closes plan e) (n : Nat) : Closes plan (e.tick n) := { h with }

theorem goes_on (h : Closes plan e) (going : ∀ result, e.desk ≠ .done result) : e.CanGoOn := by
  obtain ⟨s, desk, post, lookupPost⟩ := e
  have closing : Closing desk := h.closing
  cases closing with
  | settling | leaving | concluding => exact canGoOn_of_desk (by simp) (by simp) (by simp)
  | ready =>
      have stops : s.loop.turn.2 = .stop := h.stops (.inr rfl)
      exact .of_step (m := .main) rfl (by simp [step, mainMove, stops])
  | done => exact absurd rfl (going _)

end Closes

end CallBridge.Demo
