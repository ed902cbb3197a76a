import CallBridge.Proofs.Demo.Account
import CallBridge.Proofs.Demo.Turns

/-!
# The demonstration while its stream goes on

The stream goes round by round. In round `k` the task answers the read request with the number `k`,
and the main thread, which has reported `k` items, takes the answer and thereby makes the next
request. Meanwhile the main thread may still be starting, or reporting the item before.

`Leg` says how far the task is in its round, and `Grip` how much of the round's event and item the
main thread has got hold of. The two and the round determine the stream, the lane and the queue,
`Streams` says that an ensemble is as they determine.
-/

namespace CallBridge.Demo

open Loopback (StreamTask UnaryTask Report)

/-! ## The parts of a round -/

/-- How far the stream's task is in its round. -/
inductive Leg where
  | unborn
  /-- It has no lane yet; its task may have begun. -/
  | called (begun : Bool)
  | asked (begun : Bool)
  | pausing (wake : Nat)
  | admitting
  | publishing
  | inspecting
  | unlocking
  | offered
  | closing
  | closed
  | ending
  | telling
  | finished

/-- What the main thread has of the round's event and item. -/
inductive Grip where
  | apart
  | event
  | claim
  | item

def Desk.grip : Desk → Grip
  | .holding _ => .event
  | .extracting => .claim
  | .resuming _ => .item
  | _ => .apart

def rest (n k : Nat) : List Feature := (listFeatures n).drop k

theorem rest_of_lt {n k : Nat} (h : k < n) : rest n k = (k + 1) :: rest n (k + 1) := by
  have item : k < (listFeatures n).length := by simpa [listFeatures] using h
  rw [rest, List.drop_eq_getElem_cons item]
  simp [rest, listFeatures]

theorem rest_self (n : Nat) : rest n n = [] := by
  simp [rest, listFeatures]

namespace Leg

def task (n k : Nat) : Leg → StreamTask Feature
  | unborn => .fresh
  | called begun | asked begun => if begun then .waiting (rest n k) else .fresh
  | pausing wake => .pausing (rest n k) wake
  | admitting | publishing | inspecting | unlocking | offered => .waiting (rest n (k + 1))
  | closing | closed => .closing
  | ending | telling | finished => .done

def post (k : Nat) : Leg → ListingPost
  | admitting => .admitting (k + 1)
  | publishing => .publishing (k + 1)
  | inspecting => .inspecting
  | unlocking => .unlocking
  | closing => .closing
  | ending => .ending .success
  | telling => .telling
  | unborn | called _ | asked _ | pausing _ | offered | closed | finished => .resting

def asks (k : Nat) : Leg → Nat
  | unborn | called _ => 0
  | _ => k + 1

def takes (k : Nat) : Leg → Nat
  | unborn | called _ | asked _ => k
  | _ => k + 1

def phase : Leg → Phase
  | unborn | called _ => .idle
  | asked _ | pausing _ | admitting | closing | closed | ending => .reading 0
  | publishing | inspecting | unlocking | offered => .held 0
  | telling | finished => .ended

def item (k : Nat) : Leg → Grip → Option Feature
  | inspecting, _ => some (k + 1)
  | unlocking, .item | offered, .item => none
  | unlocking, _ | offered, _ => some (k + 1)
  | _, _ => none

def ready : Leg → Grip → Bool
  | inspecting, _ => true
  | unlocking, .apart | unlocking, .event | offered, .apart | offered, .event => true
  | _, _ => false

def inspector : Leg → Option Nat
  | inspecting | unlocking => some (Thread.main.serial + 1)
  | _ => none

def status : Leg → Option Status
  | telling | finished => some .success
  | _ => none

def terminated : Leg → Bool
  | closed | ending | telling | finished => true
  | _ => false

def started : Leg → Bool
  | unborn => false
  | _ => true

def items (k : Nat) : Leg → Nat
  | publishing | inspecting | unlocking | offered => k + 1
  | _ => k

def cell (k : Nat) (leg : Leg) (grip : Grip) : Cell Feature where
  id := listingId
  item := leg.item k grip
  ready := leg.ready grip
  inspector := leg.inspector
  status := leg.status
  terminated := leg.terminated

def stream (k : Nat) (leg : Leg) (grip : Grip) : Stream Feature where
  cell := leg.cell k grip
  phase := leg.phase
  started := leg.started
  items := leg.items k
  fetches := leg.asks k
  resumes := k

end Leg

def itemNotice : Event Source :=
  { name := itemEvent, payload := some .listing, call := some listingId }

def endNotice : Event Source :=
  { name := endEvent, payload := some .listing, call := some listingId }

/-- The queue between the stream's task and the main thread. -/
def Leg.queue : Leg → Grip → List (Message Source)
  | .unlocking, .apart | .offered, .apart => [.event itemNotice]
  | .finished, .apart => [.event endNotice]
  | _, _ => []

/-- The leg belongs to round `k` of `n` items. -/
def Leg.In (n k : Nat) : Leg → Prop
  | .unborn | .called _ => False
  | .asked begun => k ≤ n ∧ (begun = false → k = 0)
  | .pausing _ => k ≤ n
  | .admitting | .publishing | .inspecting | .unlocking | .offered => k < n
  | .closing | .closed | .ending | .telling | .finished => k = n

theorem Leg.In.le {n k : Nat} {leg : Leg} (h : leg.In n k) : k ≤ n := by
  cases leg with
  | unborn | called => exact h.elim
  | asked => exact h.1
  | pausing => exact h
  | admitting | publishing | inspecting | unlocking | offered => exact Nat.le_of_lt h
  | closing | closed | ending | telling | finished => exact Nat.le_of_eq h

def Leg.Due (clock : Nat) : Leg → Prop
  | .unborn | .called _ | .offered | .finished => False
  | .pausing wake => wake ≤ clock
  | _ => True

/-! ## The main thread -/

/-- The main thread has not come to round `k` yet: it starts, reports the item before, or takes a
turn. -/
inductive Apart : Nat → Desk → Prop where
  | occupying : Apart 0 .occupying
  | announcing : Apart 0 .announcing
  | claiming : Apart 0 .claiming
  | beginning : Apart 0 .beginning
  | reporting (k : Nat) : Apart (k + 1) (.reporting (some (k + 1)))
  | settling (k : Nat) : Apart k (.settling (.ok ()))
  | ready (k : Nat) : Apart k .ready

theorem Apart.grip {k : Nat} {desk : Desk} (h : Apart k desk) : desk.grip = .apart := by
  cases h <;> rfl

/-- Where the main thread can be while the task is in the given leg. -/
inductive Meets (n : Nat) : Nat → Leg → Desk → Prop where
  | unborn : Meets n 0 .unborn .launching
  | called (begun : Bool) : Meets n 0 (.called begun) .attaching
  | apart {k : Nat} {leg : Leg} {desk : Desk} (apart : Apart k desk) (fits : leg.In n k) :
      Meets n k leg desk
  | event {k : Nat} {leg : Leg} (more : k < n) (shown : leg = .unlocking ∨ leg = .offered) :
      Meets n k leg (.holding itemNotice)
  | claim {k : Nat} {leg : Leg} (more : k < n) (shown : leg = .unlocking ∨ leg = .offered) :
      Meets n k leg .extracting
  | item {k : Nat} (more : k < n) : Meets n k .offered (.resuming (some (k + 1)))
  | ended : Meets n n .finished (.holding endNotice)

def reservedListing : Admission.Register := (({} : Admission.Register).reserve listingKey).state

def liveListing : Admission.Register := (reservedListing.occupy listingKey listingId).state

namespace Desk

def running : Desk → Bool
  | launching | attaching | occupying | announcing | claiming => false
  | _ => true

def register : Desk → Admission.Register
  | launching | attaching | occupying => reservedListing
  | _ => liveListing

/-- Items reported before round `k`. -/
def received (k : Nat) : Desk → Nat
  | reporting _ => k - 1
  | _ => k

/-- Lines told before round `k`. -/
def page (k : Nat) : Desk → Nat
  | launching | attaching | occupying | announcing => 0
  | reporting _ => k
  | _ => k + 1

end Desk

/-- The event loop before it is asked to stop. -/
structure LoopAt (plan : Plan) (running : Bool) (queue : List (Message Source))
    (l : EventLoop Source) : Prop where
  policy : l.policy = plan.policy
  queued : l.queue = queue
  active : l.running = running
  unasked : l.haltRequested = false
  epoch : l.epoch = running.toNat
  receiver : l.receiver = if running then .away else .home

namespace LoopAt

variable {plan : Plan} {running : Bool} {queue : List (Message Source)} {l : EventLoop Source}

theorem isOpen (h : LoopAt plan running queue l) : l.isOpen = true := by
  rw [EventLoop.isOpen, h.receiver]
  cases running <;> rfl

theorem claim (h : LoopAt plan false queue l) :
    ∃ l', l.claim = .ok l' ∧ LoopAt plan true queue l' := by
  have home : l.receiver = .home := h.receiver
  refine ⟨{ l with receiver := .away, running := true, haltRequested := false, epoch := 1 }, ?_,
    ⟨h.policy, h.queued, rfl, rfl, rfl, rfl⟩⟩
  simp [EventLoop.claim, EventLoop.takeReceiver, h.active, home, EventLoop.clearHalt,
    EventLoop.nextEpoch, h.epoch, Except.map]

theorem turn_nil (h : LoopAt plan running [] l) : l.turn = (l, .wait) := by
  simp [EventLoop.turn, EventLoop.receive, h.unasked, h.queued]

theorem turn_event {e : Event Source} (h : LoopAt plan running [.event e] l) :
    ∃ l', l.turn = (l', .dispatch e) ∧ LoopAt plan running [] l' := by
  refine ⟨{ l with queue := [], pending := l.pending - 1 }, ?_,
    ⟨h.policy, rfl, h.active, h.unasked, h.epoch, h.receiver⟩⟩
  simp [EventLoop.turn, EventLoop.receive, EventLoop.countDown, h.unasked, h.queued]

/-- What a callback enqueues comes to the end of the queue. -/
theorem notify {s : State} (h : LoopAt plan running queue s.loop) (name : String) (source : Source)
    (call : CallId) (logTarget : String) :
    ∃ loop lines, s.notify name source call logTarget = { s with loop, lines := s.lines ++ lines } ∧
      LoopAt plan running
        (queue ++ [.event { name, payload := some source, call := some call }]) loop ∧
      told lines = [] := by
  have isOpen : s.loop.announce.isOpen = true := h.isOpen
  simp only [State.notify, EventLoop.enqueue, EventLoop.send, isOpen, if_true]
  refine ⟨_, _, rfl, ⟨h.policy, ?_, h.active, h.unasked, h.epoch, h.receiver⟩, told_trace ..⟩
  rw [← h.queued]
  rfl

end LoopAt

/-- The ensemble is in round `k` of its stream and the task in the given leg. -/
structure Streams (plan : Plan) (k : Nat) (leg : Leg) (e : Ensemble) : Prop where
  planned : e.shared.plan = plan
  meets : Meets plan.items k leg e.desk
  stream : e.shared.listing = leg.stream k e.desk.grip
  task : e.shared.listingTask = leg.task plan.items k
  post : e.listing = leg.post k
  asked : e.shared.asked = leg.asks k
  taken : e.shared.taken = leg.takes k
  loop : LoopAt plan e.desk.running (leg.queue e.desk.grip) e.shared.loop
  register : e.shared.register = e.desk.register
  received : e.shared.received = e.desk.received k
  lines : UpTo plan.items (e.desk.page k) e.shared.lines
  unborn : e.shared.lookup = none
  resting : e.lookup = .resting

/-! ## What is left to do -/

/-- Moves of the task up to the end of its round. -/
def Leg.left : Leg → Nat
  | unborn | called false | asked false => 7
  | called true | asked true => 6
  | pausing _ => 5
  | admitting | closing => 4
  | publishing | closed => 3
  | inspecting | ending => 2
  | unlocking | telling => 1
  | offered | finished => 0

def Desk.left : Desk → Nat
  | launching => 9
  | attaching => 8
  | occupying => 7
  | announcing => 6
  | claiming => 5
  | registering | reporting _ => 5
  | beginning | settling _ => 4
  | ready => 3
  | holding _ | leaving _ => 2
  | extracting | concluding => 1
  | resuming _ | done _ => 0

/-- A bound of the moves that are left in round `k`. -/
def streamRank (n k : Nat) (leg : Leg) (desk : Desk) : Nat :=
  12 * (n - k) + desk.left + leg.left + 11

namespace Streams

open Ensemble

variable {plan : Plan} {k : Nat} {leg : Leg} {e e' : Ensemble}

def Before (plan : Plan) (rank : Nat) (e : Ensemble) : Prop :=
  ∃ k leg, Streams plan k leg e ∧ streamRank plan.items k leg e.desk < rank

section Main

variable {s s' : State} {desk' : Desk} {post : ListingPost} {lookup : LookupPost}

theorem main_occupying (h : Streams plan 0 leg ⟨s, .occupying, post, lookup⟩)
    (fits : leg.In plan.items 0) (moved : mainMove s .occupying = some (s', desk')) :
    Before plan (streamRank plan.items 0 leg .occupying) ⟨s', desk', post, lookup⟩ := by
  cases moved
  have occupied : s.register.occupy listingKey listingId =
      reservedListing.occupy listingKey listingId := by
    rw [show s.register = reservedListing from h.register]
  refine ⟨0, leg, { h with meets := .apart .announcing fits, register := ?_, lines := ?_ }, ?_⟩
  · exact congrArg Outcome.state occupied
  · exact h.lines.quiet (by rw [occupied]; exact told_debug ..)
  · simp [streamRank, Desk.left]

theorem main_claiming (h : Streams plan 0 leg ⟨s, .claiming, post, lookup⟩)
    (fits : leg.In plan.items 0) (moved : mainMove s .claiming = some (s', desk')) :
    Before plan (streamRank plan.items 0 leg .claiming) ⟨s', desk', post, lookup⟩ := by
  obtain ⟨loop, claimed, begun⟩ := h.loop.claim
  simp only [mainMove, claimed] at moved
  cases moved
  refine ⟨0, leg, { h with meets := .apart .beginning fits, loop := begun }, ?_⟩
  simp [streamRank, Desk.left]

theorem main_reporting (h : Streams plan (k + 1) leg ⟨s, .reporting (some (k + 1)), post, lookup⟩)
    (fits : leg.In plan.items (k + 1)) (kept : plan.cancel = false ∨ plan.items < 2)
    (moved : mainMove s (.reporting (some (k + 1))) = some (s', desk')) :
    Before plan (streamRank plan.items (k + 1) leg (.reporting (some (k + 1))))
      ⟨s', desk', post, lookup⟩ := by
  have received : s.received = k := h.received
  have planned : s.plan = plan := h.planned
  -- Only a second item cancels the stream.
  have goesOn : ¬(plan.cancel = true ∧ k + 1 = 2) := by
    rintro ⟨cancels, second⟩
    have bound := fits.le
    rcases kept with not | few
    · rw [not] at cancels
      cases cancels
    · omega
  have reported : reportItem s (some (k + 1)) =
      { s with received := k + 1, lines := s.lines ++ [receivedLine plan.items (k + 1)] } := by
    simp only [reportItem, State.say, received, planned, goesOn, if_false]
    rfl
  simp only [mainMove, reported] at moved
  cases moved
  refine ⟨k + 1, leg, { h with
    meets := .apart (.settling (k + 1)) fits, received := rfl, lines := ?_ }, ?_⟩
  · exact h.lines.next (account_received fits.le) (told_info ..)
  · simp [streamRank, Desk.left]

/-- A turn of the event loop: the queue is empty, or has the event of this round, or that of the
end. -/
theorem main_ready (h : Streams plan k leg ⟨s, .ready, post, lookup⟩) (fits : leg.In plan.items k)
    (moved : mainMove s .ready = some (s', desk')) :
    Before plan (streamRank plan.items k leg .ready) ⟨s', desk', post, lookup⟩ := by
  have queued : leg.queue .apart = [] ∨
      (leg = .unlocking ∨ leg = .offered) ∧ leg.queue .apart = [.event itemNotice] ∨
      leg = .finished ∧ leg.queue .apart = [.event endNotice] := by
    cases leg <;> simp [Leg.queue]
  rcases queued with empty | ⟨shown, item⟩ | ⟨finished, ended⟩
  · have waits : s.loop.turn = (s.loop, .wait) := (empty ▸ h.loop).turn_nil
    simp [mainMove, waits] at moved
  · obtain ⟨loop, taken, left⟩ := (item ▸ h.loop : LoopAt plan true _ s.loop).turn_event
    simp only [mainMove, taken] at moved
    cases moved
    have more : k < plan.items := by
      rcases shown with rfl | rfl <;> exact fits
    refine ⟨k, leg, { h with meets := .event more shown, stream := ?_, loop := ?_ }, ?_⟩
    · rw [show s.listing = _ from h.stream]
      rcases shown with rfl | rfl <;> rfl
    · rcases shown with rfl | rfl <;> exact left
    · simp [streamRank, Desk.left]
  · obtain ⟨loop, taken, left⟩ := (ended ▸ h.loop : LoopAt plan true _ s.loop).turn_event
    simp only [mainMove, taken] at moved
    cases moved
    subst finished
    obtain rfl : k = plan.items := fits
    refine ⟨plan.items, .finished, { h with meets := .ended, loop := left }, ?_⟩
    simp [streamRank, Desk.left]

end Main

/-- What the main thread does before it has come to the round. -/
theorem main_apart (h : Streams plan k leg e) (apart : Apart k e.desk) (fits : leg.In plan.items k)
    (kept : plan.cancel = false ∨ plan.items < 2) (hs : e.step .main = some e') :
    Before plan (streamRank plan.items k leg e.desk) e' := by
  obtain ⟨⟨s', desk'⟩, moved, rfl⟩ := Option.map_eq_some_iff.mp hs
  obtain ⟨s, desk, post, lookupPost⟩ := e
  dsimp only at apart moved ⊢
  cases apart with
  | occupying => exact h.main_occupying fits moved
  | announcing =>
      cases moved
      refine ⟨0, leg, { h with meets := .apart .claiming fits, lines := ?_ }, ?_⟩
      · exact h.lines.next rfl (told_info ..)
      · simp [streamRank, Desk.left]
  | claiming => exact h.main_claiming fits moved
  | beginning =>
      cases moved
      refine ⟨0, leg, { h with
        meets := .apart (.ready 0) fits, loop := ?_, lines := h.lines.quiet (told_debug ..) }, ?_⟩
      · exact ⟨h.loop.policy, h.loop.queued, h.loop.active, h.loop.unasked, h.loop.epoch,
          h.loop.receiver⟩
      · simp [streamRank, Desk.left]
  | reporting k => exact h.main_reporting fits kept moved
  | settling =>
      cases moved
      refine ⟨k, leg, { h with meets := .apart (.ready k) fits }, ?_⟩
      simp [streamRank, Desk.left]
  | ready => exact h.main_ready fits moved

/-- What the main thread does, unless the stream is over for it. -/
theorem main_step (h : Streams plan k leg e)
    (going : leg = .finished → e.desk ≠ .holding endNotice)
    (kept : plan.cancel = false ∨ plan.items < 2) (hs : e.step .main = some e') :
    Before plan (streamRank plan.items k leg e.desk) e' := by
  obtain ⟨⟨s', desk'⟩, moved, rfl⟩ := Option.map_eq_some_iff.mp hs
  obtain ⟨s, desk, post, lookupPost⟩ := e
  have meets : Meets plan.items k leg desk := h.meets
  have stream : s.listing = leg.stream k desk.grip := h.stream
  dsimp only at moved going ⊢
  cases meets with
  | apart apart fits => exact h.main_apart apart fits kept hs
  | unborn =>
      simp only [mainMove, stream] at moved
      cases moved
      refine ⟨0, .called false, { h with
        meets := .called false, stream := rfl, lines := h.lines.quiet (told_debug ..) }, ?_⟩
      simp [streamRank, Desk.left, Leg.left]
  | called begun =>
      simp only [mainMove, stream] at moved
      cases moved
      refine ⟨0, .asked begun, { h with
        meets := .apart .occupying ⟨Nat.zero_le _, fun _ => rfl⟩, stream := rfl, asked := ?_ }, ?_⟩
      · exact congrArg (· + 1) h.asked
      · cases begun <;> simp [streamRank, Desk.left, Leg.left]
  | event more shown =>
      have claimed : s.listing.cell.claim = some (leg.cell k .claim) := by
        rw [stream]
        rcases shown with rfl | rfl <;> rfl
      have free : s.listing.cell.inspector ≠ some Thread.main.serial := by
        rw [stream]
        rcases shown with rfl | rfl <;> simp [Leg.stream, Leg.cell, Leg.inspector]
      have named : itemNotice.name = itemEvent := rfl
      simp only [mainMove, dispatch, named, if_true, if_neg free, claimed] at moved
      cases moved
      refine ⟨k, leg, { h with meets := .claim more shown, stream := ?_, loop := ?_ }, ?_⟩
      · rw [stream]
        rcases shown with rfl | rfl <;> rfl
      · rcases shown with rfl | rfl <;> exact h.loop
      · simp [streamRank, Desk.left]
  | claim more shown =>
      rcases shown with rfl | rfl
      · simp only [mainMove, stream] at moved
        cases moved
      · simp only [mainMove, stream] at moved
        cases moved
        refine ⟨k, .offered, { h with
          meets := .item more, stream := rfl, lines := h.lines.quiet rfl }, ?_⟩
        simp [streamRank, Desk.left]
  | item more =>
      simp only [mainMove, stream] at moved
      cases moved
      refine ⟨k + 1, .asked true, { h with
        meets := .apart (.reporting k) ⟨more, by simp⟩, stream := rfl, asked := ?_ }, ?_⟩
      · exact congrArg (· + 1) h.asked
      · simp [streamRank, Desk.left, Leg.left]
        omega
  | ended => exact absurd rfl (going rfl)

/-- The stream's task goes on, and there is less to do afterwards. -/
def Advances (plan : Plan) (k : Nat) (leg : Leg) (e : Ensemble) : Prop :=
  ∃ e', e.step .listing = some e' ∧ Before plan (streamRank plan.items k leg e.desk) e'

theorem Advances.before (h : Advances plan k leg e) (hs : e.step .listing = some e') :
    Before plan (streamRank plan.items k leg e.desk) e' := by
  obtain ⟨e'', goes, before⟩ := h
  exact Option.some.inj (hs.symm.trans goes) ▸ before

theorem Advances.canGoOn (h : Advances plan k leg e) : e.CanGoOn := by
  obtain ⟨e', goes, -⟩ := h
  exact .of_step (m := .listing) rfl (by rw [goes]; rfl)

/-- What has to be shown of a move of the stream's task that leads to another leg. -/
theorem to_leg {s' : State} (leg' : Leg) (h : Streams plan k leg e)
    (move : listingMove e.shared e.desk (leg.post k) = some (s', leg'.post k))
    (meets : Meets plan.items k leg' e.desk)
    (fewer : leg'.left < leg.left) (asks : leg'.asks k = leg.asks k)
    (frame : s' = { e.shared with
      listing := s'.listing, listingTask := s'.listingTask, taken := s'.taken, loop := s'.loop
      lines := s'.lines })
    (stream : s'.listing = leg'.stream k e.desk.grip)
    (task : s'.listingTask = leg'.task plan.items k) (taken : s'.taken = leg'.takes k)
    (loop : LoopAt plan e.desk.running (leg'.queue e.desk.grip) s'.loop)
    (lines : ∃ more, s'.lines = e.shared.lines ++ more ∧ told more = []) :
    Advances plan k leg e := by
  obtain ⟨more, lines, silent⟩ := lines
  refine ⟨{ e with shared := s', listing := leg'.post k }, ?_, k, leg', ?_, ?_⟩
  · rw [step, h.post, move]
    rfl
  · rw [frame]
    exact { h with
      meets, stream, task, taken, loop
      post := rfl
      asked := h.asked.trans asks.symm
      lines := by simpa only [lines] using h.lines.quiet silent }
  · simp only [streamRank]
    omega

theorem listingMove_eq (h : Streams plan k leg e) (started : leg.started = true)
    (resting : leg.post k = .resting) :
    listingMove e.shared e.desk (leg.post k) =
      (nextTurn e.shared (reads e.shared e.desk)).map fun turn =>
        (afterTurn e.shared turn, .ofReport turn.report) := by
  have launched : e.shared.listing.started = true := by
    rw [h.stream]
    exact started
  rw [resting, listingMove_resting launched]

/-- A turn of the task leads to another leg. It leaves the stream and the queue as they are. -/
theorem turn_to {turn : StreamTask.Turn Feature} (leg' : Leg) (h : Streams plan k leg e)
    (started : leg.started = true) (resting : leg.post k = .resting)
    (next : nextTurn e.shared (reads e.shared e.desk) = some turn)
    (meets : Meets plan.items k leg' e.desk)
    (fewer : leg'.left < leg.left) (asks : leg'.asks k = leg.asks k)
    (reported : ListingPost.ofReport turn.report = leg'.post k)
    (stream : leg.stream k e.desk.grip = leg'.stream k e.desk.grip)
    (task : turn.task = leg'.task plan.items k)
    (takes : leg.takes k + turn.takes.toNat = leg'.takes k)
    (queue : leg.queue e.desk.grip = leg'.queue e.desk.grip) : Advances plan k leg e := by
  have move : listingMove e.shared e.desk (leg.post k) =
      some (afterTurn e.shared turn, leg'.post k) := by
    rw [h.listingMove_eq started resting, next, ← reported]
    rfl
  exact h.to_leg leg' move meets fewer asks rfl (h.stream.trans stream) task
    ((congrArg (· + turn.takes.toNat) h.taken).trans takes) (queue ▸ h.loop)
    ⟨[], (List.append_nil _).symm, rfl⟩

/-! Where the task waits. -/

theorem waits (h : Streams plan k leg e) (started : leg.started = true)
    (resting : leg.post k = .resting)
    (stuck : nextTurn e.shared (reads e.shared e.desk) = none) : e.step .listing = none := by
  rw [step, h.post, h.listingMove_eq started resting, stuck]
  rfl

theorem called_waits (h : Streams plan 0 (.called true) e) (attaching : e.desk = .attaching) :
    e.step .listing = none := by
  have asked : e.shared.asked = 0 := h.asked
  have idle : ¬0 < (reads e.shared e.desk).waiting := by
    simp [reads, readsOf, asked]
  have laneOpen : (reads e.shared e.desk).laneOpen = true := by
    simp [reads, attaching]
  apply h.waits rfl rfl
  rw [nextTurn, h.task, h.stream]
  exact (if_neg idle).trans (if_pos laneOpen)

theorem offered_waits (h : Streams plan k .offered e) : e.step .listing = none := by
  have asked : e.shared.asked = k + 1 := h.asked
  have taken : e.shared.taken = k + 1 := h.taken
  have idle : ¬0 < (reads e.shared e.desk).waiting := by
    simp [reads, readsOf, asked, taken]
  have laneOpen : (reads e.shared e.desk).laneOpen = true := by
    simp [reads, h.stream, Leg.stream, Leg.phase, Phase.lane?]
  apply h.waits rfl rfl
  rw [nextTurn, h.task, h.stream]
  exact (if_neg idle).trans (if_pos laneOpen)

theorem pausing_waits {wake : Nat} (h : Streams plan k (.pausing wake) e)
    (early : ¬wake ≤ e.shared.clock) : e.step .listing = none := by
  apply h.waits rfl rfl
  rw [nextTurn, h.task, h.stream]
  exact if_neg early

theorem finished_waits (h : Streams plan k .finished e) : e.step .listing = none :=
  step_of_done h.task h.post

/-! The legs of a round, one after the other. -/

theorem called_due (h : Streams plan 0 (.called false) e) (attaching : e.desk = .attaching) :
    Advances plan 0 (.called false) e := by
  have next : nextTurn e.shared (reads e.shared e.desk) =
      some { task := .waiting (rest plan.items 0) } := by
    rw [nextTurn, h.task, h.stream, h.planned]
    rfl
  have meets : Meets plan.items 0 (.called true) e.desk := by
    rw [attaching]
    exact .called true
  exact h.turn_to (.called true) rfl rfl next meets (by decide) rfl rfl rfl rfl rfl rfl

theorem asked_due {begun : Bool} (h : Streams plan k (.asked begun) e) (apart : Apart k e.desk)
    (fits : (Leg.asked begun).In plan.items k) : Advances plan k (.asked begun) e := by
  cases begun with
  | false =>
      obtain rfl := fits.2 rfl
      have next : nextTurn e.shared (reads e.shared e.desk) =
          some { task := .waiting (rest plan.items 0) } := by
        rw [nextTurn, h.task, h.stream, h.planned]
        rfl
      exact h.turn_to (.asked true) rfl rfl next (.apart apart ⟨fits.1, by simp⟩) (by decide)
        rfl rfl rfl rfl rfl rfl
  | true =>
      have asked : e.shared.asked = k + 1 := h.asked
      have taken : e.shared.taken = k := h.taken
      have requested : 0 < (reads e.shared e.desk).waiting := by
        simp [reads, readsOf, asked, taken]
      have next : nextTurn e.shared (reads e.shared e.desk) = some
          { task := .pausing (rest plan.items k) (e.shared.clock + plan.transport.latency)
            takes := true } := by
        rw [nextTurn, h.task, h.stream, h.planned]
        exact if_pos requested
      exact h.turn_to (.pausing _) rfl rfl next (.apart apart fits.1) (by decide : (5 : Nat) < 6)
        rfl rfl rfl rfl rfl rfl

/-- When its pause is over, the task answers with the next item, or closes when none is left. -/
theorem pausing_due {wake : Nat} (h : Streams plan k (.pausing wake) e) (apart : Apart k e.desk)
    (fits : k ≤ plan.items) (due : wake ≤ e.shared.clock) : Advances plan k (.pausing wake) e := by
  have next : nextTurn e.shared (reads e.shared e.desk) = some
      { task := (StreamTask.answer (rest plan.items k)).1
        report := (StreamTask.answer (rest plan.items k)).2 } := by
    rw [nextTurn, h.task, h.stream, h.planned]
    exact if_pos due
  rcases Nat.lt_or_eq_of_le fits with more | rfl
  · rw [rest_of_lt more] at next
    exact h.turn_to .admitting rfl rfl next (.apart apart more) (by decide : (4 : Nat) < 5)
      rfl rfl rfl rfl rfl rfl
  · rw [rest_self] at next
    exact h.turn_to .closing rfl rfl next (.apart apart rfl) (by decide : (4 : Nat) < 5)
      rfl rfl rfl rfl rfl rfl

theorem admitting_due (h : Streams plan k .admitting e) (apart : Apart k e.desk)
    (more : k < plan.items) : Advances plan k .admitting e := by
  have move : listingMove e.shared e.desk (.admitting (k + 1)) =
      some (e.shared.onListing { state := Leg.publishing.stream k .apart, answer := true },
        .publishing (k + 1)) := by
    rw [listingMove, h.stream, apart.grip]
    rfl
  exact h.to_leg .publishing move (.apart apart more) (by decide) rfl rfl
    (by rw [apart.grip]; rfl) h.task h.taken h.loop ⟨[], rfl, rfl⟩

theorem publishing_due (h : Streams plan k .publishing e) (apart : Apart k e.desk)
    (more : k < plan.items) : Advances plan k .publishing e := by
  have move : listingMove e.shared e.desk (.publishing (k + 1)) =
      some (e.shared.onListing { state := Leg.inspecting.stream k .apart, answer := () },
        .inspecting) := by
    rw [listingMove, h.stream, apart.grip]
    rfl
  exact h.to_leg .inspecting move (.apart apart more) (by decide) rfl rfl
    (by rw [apart.grip]; rfl) h.task h.taken h.loop ⟨[], rfl, rfl⟩

theorem inspecting_due (h : Streams plan k .inspecting e) (apart : Apart k e.desk)
    (more : k < plan.items) : Advances plan k .inspecting e := by
  obtain ⟨loop, lines, notified, queued, silent⟩ :=
    h.loop.notify itemEvent .listing listingId listingTarget
  have move : listingMove e.shared e.desk .inspecting =
      some ({ e.shared with loop, lines := e.shared.lines ++ lines }, .unlocking) := by
    rw [listingMove, notified]
  refine h.to_leg .unlocking move (.apart apart more) (by decide) rfl rfl ?_ h.task h.taken ?_
    ⟨lines, rfl, silent⟩
  · rw [apart.grip, show e.shared.listing = _ from h.stream, apart.grip]
    rfl
  · rw [apart.grip] at queued ⊢
    exact queued

/-- The place is unlocked, whatever the main thread has got hold of. -/
theorem unlock (h : Streams plan k .unlocking e) (meets : Meets plan.items k .offered e.desk) :
    Advances plan k .unlocking e := by
  have move : listingMove e.shared e.desk .unlocking =
      some ({ e.shared with listing := e.shared.listing.endInspection false }, .resting) := rfl
  refine h.to_leg .offered move meets (by decide) rfl rfl ?_ h.task h.taken ?_
    ⟨[], (List.append_nil _).symm, rfl⟩
  · rw [h.stream]
    cases e.desk.grip <;> rfl
  · have same : Leg.offered.queue e.desk.grip = Leg.unlocking.queue e.desk.grip := by
      cases e.desk.grip <;> rfl
    exact same ▸ h.loop

theorem closing_due (h : Streams plan k .closing e) (apart : Apart k e.desk)
    (last : k = plan.items) : Advances plan k .closing e := by
  refine h.to_leg .closed rfl (.apart apart last) (by decide) rfl rfl ?_ h.task h.taken h.loop
    ⟨_, rfl, told_trace ..⟩
  rw [h.stream]
  rfl

theorem closed_due (h : Streams plan k .closed e) (apart : Apart k e.desk)
    (last : k = plan.items) : Advances plan k .closed e := by
  have next : nextTurn e.shared (reads e.shared e.desk) = some
      { task := .done, report := some (.finish .success) } := by
    rw [nextTurn, h.task]
    rfl
  exact h.turn_to .ending rfl rfl next (.apart apart last) (by decide) rfl rfl rfl rfl rfl rfl

theorem ending_due (h : Streams plan k .ending e) (apart : Apart k e.desk)
    (last : k = plan.items) : Advances plan k .ending e := by
  have move : listingMove e.shared e.desk (.ending .success) =
      some ((e.shared.say [Loopback.endLine listingId .success]).onListing
        { state := Leg.telling.stream k .apart, answer := true }, .telling) := by
    rw [listingMove]
    simp only [State.say, h.stream, apart.grip]
    rfl
  exact h.to_leg .telling move (.apart apart last) (by decide) rfl rfl
    (by rw [apart.grip]; rfl) h.task h.taken h.loop ⟨_, List.append_assoc .., told_debug ..⟩

theorem telling_due (h : Streams plan k .telling e) (apart : Apart k e.desk)
    (last : k = plan.items) : Advances plan k .telling e := by
  obtain ⟨loop, lines, notified, queued, silent⟩ :=
    h.loop.notify endEvent .listing listingId listingTarget
  have move : listingMove e.shared e.desk .telling =
      some ({ e.shared with loop, lines := e.shared.lines ++ lines }, .resting) := by
    rw [listingMove, notified]
  refine h.to_leg .finished move (.apart apart last) (by decide) rfl rfl h.stream h.task h.taken ?_
    ⟨lines, rfl, silent⟩
  rw [apart.grip] at queued ⊢
  exact queued

/-- The task goes on to its next leg, if its time has come, while the main thread is apart from its
round. -/
theorem listing_due (h : Streams plan k leg e) (apart : Apart k e.desk) (fits : leg.In plan.items k)
    (due : leg.Due e.shared.clock) : Advances plan k leg e := by
  cases leg with
  | unborn | called => exact fits.elim
  | offered | finished => exact due.elim
  | asked begun => exact h.asked_due apart fits
  | pausing wake => exact h.pausing_due apart fits due
  | admitting => exact h.admitting_due apart fits
  | publishing => exact h.publishing_due apart fits
  | inspecting => exact h.inspecting_due apart fits
  | unlocking => exact h.unlock (.apart apart fits)
  | closing => exact h.closing_due apart fits
  | closed => exact h.closed_due apart fits
  | ending => exact h.ending_due apart fits
  | telling => exact h.telling_due apart fits

/-- What the stream's task does while the main thread is apart from its round. -/
theorem listing_apart (h : Streams plan k leg e) (apart : Apart k e.desk)
    (fits : leg.In plan.items k) (hs : e.step .listing = some e') :
    Before plan (streamRank plan.items k leg e.desk) e' := by
  by_cases due : leg.Due e.shared.clock
  · exact (h.listing_due apart fits due).before hs
  · cases leg with
    | unborn | called => exact fits.elim
    | offered => exact absurd hs (by simp [h.offered_waits])
    | finished => exact absurd hs (by simp [h.finished_waits])
    | pausing wake => exact absurd hs (by simp [h.pausing_waits due])
    | _ => exact absurd trivial due

theorem listing_step (h : Streams plan k leg e) (hs : e.step .listing = some e') :
    Before plan (streamRank plan.items k leg e.desk) e' := by
  obtain ⟨⟨s', post'⟩, moved, rfl⟩ := Option.map_eq_some_iff.mp hs
  obtain ⟨s, desk, post, lookupPost⟩ := e
  have meets : Meets plan.items k leg desk := h.meets
  have stream : s.listing = leg.stream k desk.grip := h.stream
  dsimp only at moved ⊢
  cases meets with
  | apart apart fits => exact h.listing_apart apart fits hs
  | unborn =>
      obtain rfl : post = .resting := h.post
      simp [listingMove, stream, Leg.stream, Leg.started] at moved
  | called begun =>
      cases begun with
      | false => exact (h.called_due rfl).before hs
      | true => exact absurd hs (by simp [h.called_waits rfl])
  | event more shown =>
      rcases shown with rfl | rfl
      · exact (h.unlock (.event more (.inr rfl))).before hs
      · exact absurd hs (by simp [h.offered_waits])
  | claim more shown =>
      rcases shown with rfl | rfl
      · exact (h.unlock (.claim more (.inr rfl))).before hs
      · exact absurd hs (by simp [h.offered_waits])
  | item more => exact absurd hs (by simp [h.offered_waits])
  | ended => exact absurd hs (by simp [h.finished_waits])

theorem lookup_waits (h : Streams plan k leg e) : e.step .lookup = none := by
  simp [step, lookupMove, h.resting, h.unborn]

theorem tick (h : Streams plan k leg e) (n : Nat) : Streams plan k leg (e.tick n) := { h with }

theorem begin (plan : Plan) : Streams plan 0 .unborn (Ensemble.begin plan) where
  planned := rfl
  meets := .unborn
  stream := rfl
  task := rfl
  post := rfl
  asked := rfl
  taken := rfl
  loop := ⟨rfl, rfl, rfl, rfl, rfl, rfl⟩
  register := rfl
  received := rfl
  lines := by
    show told [⟨.debug, _, _⟩, ⟨.debug, _, _⟩, ⟨.debug, _, _⟩, ⟨.debug, _, _⟩] = []
    simp
  unborn := rfl
  resting := rfl

theorem ready_goes {e : Event Source} {s : State} {post : ListingPost} {lookup : LookupPost}
    (loop : LoopAt plan true [.event e] s.loop) : CanGoOn ⟨s, .ready, post, lookup⟩ := by
  obtain ⟨loop', taken, -⟩ := loop.turn_event
  exact .of_step (m := .main) rfl (by simp [step, mainMove, taken])

theorem goes_on (h : Streams plan k leg e) : e.CanGoOn := by
  obtain ⟨s, desk, post, lookupPost⟩ := e
  have meets : Meets plan.items k leg desk := h.meets
  -- The main thread waits for a lock that is about to be opened, or for an event to come.
  cases meets with
  | unborn | called | event | item | ended => exact canGoOn_of_desk (by simp) (by simp) (by simp)
  | claim more shown =>
      rcases shown with rfl | rfl
      · exact (h.unlock (.claim more (.inr rfl))).canGoOn
      · refine .of_step (m := .main) rfl ?_
        have stream : s.listing = Leg.offered.stream k .claim := h.stream
        simp [step, mainMove, stream, Leg.stream, Leg.cell, Leg.inspector]
  | apart apart fits =>
      cases apart with
      | occupying | announcing | claiming | beginning | reporting | settling =>
          exact canGoOn_of_desk (by simp) (by simp) (by simp)
      | ready =>
          cases leg with
          | unborn | called => exact fits.elim
          | unlocking | offered | finished => exact ready_goes h.loop
          | pausing wake =>
              have due : wake ≤ s.clock + wake := Nat.le_add_left ..
              obtain ⟨e', goes, -⟩ := (h.tick wake).listing_due (.ready k) fits due
              exact ⟨wake, .listing, rfl, by rw [goes]; rfl⟩
          | _ => exact (h.listing_due (.ready k) fits trivial).canGoOn

theorem round_of_finished (h : Streams plan k .finished e) : k = plan.items := by
  obtain ⟨s, desk, post, lookupPost⟩ := e
  have meets : Meets plan.items k .finished desk := h.meets
  cases meets with
  | apart apart fits => exact fits
  | event more shown | claim more shown => rcases shown with shown | shown <;> cases shown
  | ended => rfl

end Streams

end CallBridge.Demo
