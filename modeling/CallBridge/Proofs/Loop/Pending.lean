import CallBridge.Proofs.Loop.Conservation
import CallBridge.Proofs.Loop.Hiring

/-!
# What the pending count counts

An event that comes or goes touches the pending count and the queue one after the other: an enqueue
counts its event before it sends it, and the consumer takes an event off the queue before it counts
it down. So the count is ahead of the queue, by the enqueues that have counted and are not over yet
and by the event that was received and still counts; stop markers are queued and never counted. Who
takes from the count has a share in it, so nothing is ever taken from an empty count.

A queue can be destroyed with events in it: when a start gets no thread (`Hiring`), or when the loop
is dropped while others can still send to it. Nobody counts these events down. They stay pending
for good, as events that were enqueued and are never dispatched.
-/

namespace CallBridge

namespace Station

variable {π : Type}

/-- What an enqueue has in the count: it has yet to send its event, or to take it back. -/
def Errand.share : Errand π → Nat
  | counted _ | bounced _ => 1
  | sawRun | raised => 0

def Post.uncounted : Post π → List (Event π)
  | received _ e => [e]
  | _ => []

/-- How many enqueues have counted their event and are not over yet. -/
def enqueues (s : Station π) : Nat := s.errands.total Errand.share

/-- All that is to be counted while the queue is there. -/
def tally (s : Station π) : Nat :=
  (EventLoop.events s.loop.queue).length + s.enqueues + s.post.uncounted.length

variable {s : Station π} {p : Station π × List (Notice π)} {n : Nat}

theorem uncounted_of_inHand {post : Post π} (free : post.inHand = []) : post.uncounted = [] := by
  cases post with
  | received => cases free
  | _ => rfl

/-- Whoever is in the middle of an enqueue has its share in the count. -/
theorem share_le_enqueues {q : Nat} {x : Errand π} (found : s.errands.find? q = some x) :
    x.share ≤ s.enqueues := by
  have total := s.errands.total_erase q Errand.share
  simp only [found, Option.map_some, Option.getD_some] at total
  rw [enqueues, ← total]
  exact Nat.le_add_left _ _

/-! ## One access -/

/-- The count is what there is to be counted and, besides, a number that nobody takes back. -/
def Counts (s : Station π) (n : Nat) : Prop := s.loop.pending = s.tally + n

theorem Counts.insert {l : EventLoop π} {q : Nat} {x : Errand π} (h : s.Counts n) (before : Nat)
    (found : ((s.errands.find? q).map Errand.share).getD 0 = before)
    (queue : EventLoop.events l.queue = EventLoop.events s.loop.queue)
    (pending : l.pending + before = s.loop.pending + x.share) :
    Counts { s with loop := l, errands := s.errands.insert q x } n := by
  have total := s.errands.total_insert q x Errand.share
  simp only [Counts, tally, enqueues, queue] at h ⊢
  omega

theorem Counts.erase {l : EventLoop π} {q : Nat} {x : Errand π} (h : s.Counts n)
    (found : s.errands.find? q = some x)
    (moved : l.pending + (EventLoop.events s.loop.queue).length + x.share =
      s.loop.pending + (EventLoop.events l.queue).length) :
    Counts { s with loop := l, errands := s.errands.erase q } n := by
  have total := s.errands.total_erase q Errand.share
  simp only [found, Option.map_some, Option.getD_some] at total
  simp only [Counts, tally, enqueues] at h ⊢
  omega

theorem Counts.goOn {l : EventLoop π} {post : Post π} (h : s.Counts n)
    (moved : l.pending + (EventLoop.events s.loop.queue).length + s.post.uncounted.length =
      s.loop.pending + (EventLoop.events l.queue).length + post.uncounted.length) :
    Counts { s with loop := l, post := post } n := by
  simp only [Counts, tally, enqueues] at h ⊢
  omega

theorem Counts.dispatch {t : Station π} {m : Nat} {e : Event π} (h : s.Counts n)
    (loop : t.loop = s.loop) (errands : t.errands = s.errands) (hand : t.post.inHand = [])
    (post : s.post = .holding m e ∨ s.post = .handling m e) : t.Counts n := by
  have before : s.post.uncounted = [] := by rcases post with post | post <;> rw [post] <;> rfl
  have after := uncounted_of_inHand hand
  simpa only [Counts, tally, enqueues, loop, errands, before, after] using h

theorem counts_accessed (manned : s.Manned) (h : s.Counts n) (ha : Accessed s p) :
    p.1.Counts n := by
  cases ha with
  | announced q e free =>
      exact h.insert 0 (by simp [free]) rfl (by simp [EventLoop.announce, Errand.share])
  | sent counted =>
      refine h.erase counted ?_
      simp [Errand.share]
      omega
  | @bounced q e counted gone =>
      exact h.insert 1 (by simp [counted, Errand.share]) rfl rfl
  | @withdrawn q e bounced =>
      -- The share of this very enqueue is still in the count.
      have share : 1 ≤ s.enqueues := share_le_enqueues bounced
      have counted : 1 ≤ s.loop.pending := by
        rw [h, tally]
        omega
      refine h.erase bounced ?_
      simp [EventLoop.withdraw, Errand.share]
      omega
  | sawRun q free => exact h.insert 0 (by simp [free]) rfl rfl
  | raised saw => exact h.insert 0 (by simp [saw, Errand.share]) rfl rfl
  | raisedAgain saw => exact h.erase (l := s.loop) saw (by simp [Errand.share])
  | marked raised => exact h.erase raised (by simp [Errand.share])
  | markedNothing raised => exact h.erase (l := s.loop) raised (by simp [Errand.share])
  | took idle =>
      have vacant : s.post = .vacant := manned idle
      exact h.goOn (by simp [vacant, Post.uncounted])
  | received post head =>
      refine h.goOn ?_
      simp [post, head, Post.uncounted]
      omega
  | countedDown post =>
      have counted : 1 ≤ s.loop.pending := by
        rw [h, tally, post]
        simp only [Post.uncounted, List.length_singleton]
        omega
      refine h.goOn ?_
      simp [post, EventLoop.countDown, Post.uncounted]
      omega
  | met post head | skipped post head => exact h.goOn (by simp [post, head, Post.uncounted])
  | @dispatched m e post =>
      obtain ⟨loop, errands, hand, -⟩ := s.dispatch_quiet m e
      exact h.dispatch loop errands hand (.inl post)
  | @settled m e v post =>
      obtain ⟨loop, errands, hand, -⟩ := s.settle_quiet m e v
      exact h.dispatch loop errands hand (.inr post)
  | lowered post | numbered post | begun thread post | lookedUp post | looked post
  | signedOff post | handedBack post | cleared post | rested post =>
      refine h.goOn ?_
      simp [post, Post.uncounted, EventLoop.clearHalt, EventLoop.nextEpoch, EventLoop.begin]
  | sawNoRun | registered | registeredTwice | refused => exact h

/-! ## What an access adds and takes -/

/-- Only an enqueue that begins adds to the count. -/
def Access.added : Access π → Nat
  | thread _ (.announce _) => 1
  | _ => 0

/-- An enqueue that was rejected takes its event back, and the consumer counts one down. -/
def Access.taken : Access π → Nat
  | thread _ .withdraw | consumer .countDown => 1
  | _ => 0

@[simp] theorem pending_send (s : Station π) (q : Nat) (e : Event π) :
    (s.send q e).1.loop.pending = s.loop.pending := by
  unfold send EventLoop.send
  cases s.loop.isOpen <;> rfl

@[simp] theorem pending_askHalt (s : Station π) (q : Nat) :
    (s.askHalt q).1.loop.pending = s.loop.pending := by
  unfold askHalt
  cases s.loop.running <;> rfl

@[simp] theorem pending_raiseFlag (s : Station π) (q : Nat) :
    (s.raiseFlag q).1.loop.pending = s.loop.pending := by
  unfold raiseFlag EventLoop.requestHalt
  cases s.loop.haltRequested <;> rfl

@[simp] theorem pending_sendMarker (s : Station π) (q : Nat) :
    (s.sendMarker q).1.loop.pending = s.loop.pending := by
  unfold sendMarker EventLoop.sendHalt EventLoop.send
  cases s.loop.isOpen <;> rfl

@[simp] theorem pending_register (s : Station π) (name : String) :
    (s.register name).1.loop.pending = s.loop.pending := by
  rcases s.register_cases name with ⟨-, same⟩ | ⟨-, same⟩ <;> rw [same]

@[simp] theorem pending_takeReceiver (s : Station π) :
    s.takeReceiver.1.loop.pending = s.loop.pending := by
  unfold takeReceiver
  rcases takeReceiver_cases s.loop with ⟨-, -, taken⟩ | ⟨f, refused⟩
  · rw [taken]
  · rw [refused]

@[simp] theorem pending_look (s : Station π) (m : Nat) :
    (s.look m).loop.pending = s.loop.pending := by
  unfold look
  split <;> rfl

/-- Neither an event nor a marker, of whatever run, is counted down by being received. -/
theorem pending_receive {t : Station π} {m : Nat} (h : s.receive m = some t) :
    t.loop.pending = s.loop.pending := by
  unfold receive EventLoop.receive at h
  cases head : s.loop.queue with
  | nil => simp [head] at h
  | cons x q =>
      cases x with
      | event e | halt k =>
          simp only [head, Option.some.injEq] at h
          rw [← h]

theorem pending_of_chore {q : Nat} {x : Option (Errand π)} {c : Chore π}
    (h : s.chore q x c = some p) :
    p.1.loop.pending =
      s.loop.pending - (Access.thread q c).taken + (Access.thread q c).added := by
  unfold chore at h
  split at h
  · exact Option.some.inj h ▸ rfl
  · exact Option.some.inj h ▸ s.pending_send q _
  · exact Option.some.inj h ▸ rfl
  · exact Option.some.inj h ▸ s.pending_askHalt q
  · exact Option.some.inj h ▸ s.pending_raiseFlag q
  · exact Option.some.inj h ▸ s.pending_sendMarker q
  · cases h

theorem pending_of_beat {x : Post π} {b : Beat} (h : s.beat x b = some p) :
    p.1.loop.pending = s.loop.pending - (Access.consumer b : Access π).taken := by
  unfold beat at h
  split at h
  · exact Option.some.inj h ▸ rfl
  · exact Option.some.inj h ▸ rfl
  · exact Option.some.inj h ▸ rfl
  · exact Option.some.inj h ▸ s.pending_look _
  · obtain ⟨t, received, rfl⟩ := Option.map_eq_some_iff.mp h
    exact pending_receive received
  · exact Option.some.inj h ▸ rfl
  · next m e => exact Option.some.inj h ▸ congrArg EventLoop.pending (s.dispatch_quiet m e).1
  · next m e v => exact Option.some.inj h ▸ congrArg EventLoop.pending (s.settle_quiet m e v).1
  · exact Option.some.inj h ▸ rfl
  · exact Option.some.inj h ▸ rfl
  · exact Option.some.inj h ▸ rfl
  · exact Option.some.inj h ▸ rfl
  · cases h

/-- The count changes by what the access adds and takes, and by nothing else. -/
theorem pending_of_step {a : Access π} (h : s.step a = some p) :
    p.1.loop.pending = s.loop.pending - a.taken + a.added := by
  cases a with
  | thread q c => exact pending_of_chore h
  | register name => exact Option.some.inj h ▸ s.pending_register name
  | takeReceiver => exact Option.some.inj h ▸ s.pending_takeReceiver
  | consumer b => exact pending_of_beat h

/-- Whoever takes from the count has a share in it. -/
theorem taken_le_of_step {a : Access π} (h : s.Counts n) (hstep : s.step a = some p) :
    a.taken ≤ s.loop.pending := by
  cases a with
  | register | takeReceiver => exact Nat.zero_le _
  | thread q c =>
      cases c with
      | announce | send | askHalt | raise | sendMarker => exact Nat.zero_le _
      | withdraw =>
          simp only [step] at hstep
          cases found : s.errands.find? q with
          | none => simp [found, chore] at hstep
          | some x =>
              cases x with
              | bounced e =>
                  have share : 1 ≤ s.enqueues := share_le_enqueues found
                  rw [h, tally]
                  simp only [Access.taken]
                  omega
              | counted | sawRun | raised => simp [found, chore] at hstep
  | consumer b =>
      cases b with
      | countDown =>
          simp only [step] at hstep
          cases post : s.post with
          | received m e =>
              rw [h, tally, post]
              simp only [Access.taken, Post.uncounted, List.length_singleton]
              omega
          | _ => simp [post, beat] at hstep
      | _ => exact Nat.zero_le _

end Station

namespace Closing

open Hiring (Moved)
open Station (Access Notice Open Gone accepted dispatched)

variable {π : Type}

inductive Move (π : Type) where
  | hiring (m : Hiring.Move π)
  /-- Nobody refers to the loop any more except who sends events to it. -/
  | drop
deriving DecidableEq, Repr

abbrev Move.access (a : Access π) : Move π := .hiring (.access a)

def step (s : Hiring π) : Move π → Option (Hiring π × List (Hiring.Event π))
  | .hiring m => s.step m
  | .drop =>
    match s.station.post, s.failing with
    | .vacant, none => some ({ s with station := s.unhired }, [])
    | _, _ => none

def run (s : Hiring π) (ms : List (Move π)) : Option (Hiring π × List (Hiring.Event π)) :=
  runWith step s ms

def seen (log : List (Hiring.Event π)) : List (Notice π) :=
  log.filterMap fun
    | .seen n => some n
    | _ => none

@[simp] theorem seen_append (log log' : List (Hiring.Event π)) :
    seen (log ++ log') = seen log ++ seen log' := List.filterMap_append

@[simp] theorem seen_map (es : List (Notice π)) : seen (es.map .seen) = es := by
  rw [seen, List.filterMap_map]
  exact List.filterMap_some

def Move.added : Move π → Nat
  | hiring (.access a) => a.added
  | _ => 0

def Move.taken : Move π → Nat
  | hiring (.access a) => a.taken
  | _ => 0

def total (f : Move π → Nat) (ms : List (Move π)) : Nat := ms.foldr (fun m n => f m + n) 0

@[simp] theorem total_nil (f : Move π → Nat) : total f [] = 0 := rfl

@[simp] theorem total_cons (f : Move π → Nat) (m : Move π) (ms : List (Move π)) :
    total f (m :: ms) = f m + total f ms := rfl

@[simp] theorem total_append (f : Move π → Nat) (ms ms' : List (Move π)) :
    total f (ms ++ ms') = total f ms + total f ms' := by
  induction ms with
  | nil => simp
  | cons m ms ih =>
      rw [List.cons_append, total_cons, total_cons, ih]
      omega

/-! ## What an accepted event comes to -/

/-- Accepted events were dispatched, were lost with the queue, or are on their way; and the lost
ones are what the count has beside the tally. -/
structure Accounted (s : Hiring π) (log : List (Hiring.Event π)) (lost : List (Event π)) :
    Prop where
  conserved : (accepted (seen log)).map Prod.snd =
    dispatched (seen log) ++ lost ++ s.station.underway
  counts : s.station.Counts lost.length
  place : Open s.station ∧ s.failing = none ∧ lost = [] ∨ Gone s.station

variable {s t : Hiring π} {log es : List (Hiring.Event π)} {lost : List (Event π)}

theorem accounted_fresh (policy : LoopPolicy) : Accounted (.fresh policy : Hiring π) [] [] where
  conserved := rfl
  counts := rfl
  place := .inl ⟨⟨rfl, rfl⟩, rfl, rfl⟩

theorem Accounted.manned (h : Accounted s log lost) : s.station.Manned := by
  intro idle
  rcases h.place with ⟨there, -, -⟩ | gone
  · have busy := there.running
    cases post : s.station.post with
    | vacant => rfl
    | _ => simp [idle, post] at busy
  · exact gone.post

theorem accepted_of_idle {ns : List (Notice π)} (idle : ∀ n ∈ ns, n.isWork = false) :
    accepted ns = [] := by
  rw [accepted, List.filterMap_eq_nil_iff]
  intro n mem
  have still := idle n mem
  cases n <;> first | rfl | cases still

theorem underway_of_gone {s : Station π} (gone : Gone s) : s.underway = [] := by
  simp [Station.underway, gone.post, gone.queue, Station.Post.inHand]

theorem Accounted.access {q : Station π × List (Notice π)} (h : Accounted s log lost)
    (ha : Station.Accessed s.station q) :
    Accounted { s with station := q.1 } (log ++ q.2.map .seen) lost where
  conserved := by
    have moved := Station.conserved_accessed h.manned ha
    rw [seen_append, seen_map, Station.accepted_append, Station.dispatched_append, List.map_append,
      h.conserved]
    rcases h.place with ⟨-, -, rfl⟩ | gone
    · simp only [List.append_nil, List.append_assoc]
      rw [← moved]
    · have rests := Station.gone_accessed gone ha
      have silent := accepted_of_idle rests.idle
      have empty : dispatched q.2 = [] := by
        simpa [silent, underway_of_gone gone, underway_of_gone rests.gone] using moved
      simp [silent, empty, underway_of_gone gone, underway_of_gone rests.gone]
  counts := Station.counts_accessed h.manned h.counts ha
  place := by
    rcases h.place with ⟨there, failing, nothing⟩ | gone
    · exact .inl ⟨Station.open_accessed there ha, failing, nothing⟩
    · exact .inr (Station.gone_accessed gone ha).gone

/-- The receiver is destroyed while the consumer has nothing in its hand: what is queued is lost. -/
theorem Accounted.lose {failing : Option String} (h : Accounted s log lost)
    (free : s.station.post.inHand = []) (silent : seen es = []) :
    Accounted { station := s.unhired, failing } (log ++ es)
      (lost ++ EventLoop.events s.station.loop.queue) where
  conserved := by
    have queued : s.station.underway = EventLoop.events s.station.loop.queue := by
      rw [Station.underway, free, List.nil_append]
    rw [seen_append, silent, List.append_nil, h.conserved, queued,
      underway_of_gone s.gone_unhired, List.append_nil, List.append_assoc]
  counts := by
    have counts := h.counts
    have before := Station.uncounted_of_inHand free
    have after : (Station.Post.vacant : Station.Post π).uncounted = [] := rfl
    simp only [Station.Counts, Station.tally, Station.enqueues, before, after, Hiring.unhired,
      EventLoop.lose, EventLoop.events_nil, List.length_append, List.length_nil] at counts ⊢
    omega
  place := .inr s.gone_unhired

theorem accounted_moved {q : Hiring π × List (Hiring.Event π)} (h : Accounted s log lost)
    (hm : Moved s q) : ∃ lost', Accounted q.1 (log ++ q.2) lost' := by
  cases hm with
  | accessed ha => exact ⟨lost, h.access ha⟩
  | lacked message post => exact ⟨_, h.lose (by rw [post]; rfl) rfl⟩
  | panicked p post => exact ⟨_, h.lose (by rw [post]; rfl) rfl⟩
  | @gaveUp message failing =>
      -- Who gives up has lost the receiver before.
      have gone : Gone s.station := h.place.resolve_left fun there => by
        rw [there.2.1] at failing
        cases failing
      have silent : seen [(.failed (.io message) : Hiring.Event π)] = [] := rfl
      refine ⟨lost, ?_, h.counts, .inr ⟨gone.receiver, gone.queue, gone.post⟩⟩
      rw [seen_append, silent, List.append_nil]
      exact h.conserved

theorem accounted_step {m : Move π} {q : Hiring π × List (Hiring.Event π)}
    (h : Accounted s log lost) (hstep : step s m = some q) :
    ∃ lost', Accounted q.1 (log ++ q.2) lost' := by
  cases m with
  | hiring m => exact accounted_moved h (Hiring.moved_of_step hstep)
  | drop =>
      simp only [step] at hstep
      split at hstep
      · next post failing =>
          obtain rfl := Option.some.inj hstep
          exact ⟨_, h.lose (by rw [post]; rfl) rfl⟩
      · cases hstep

theorem accounted_run {ms : List (Move π)} {log' : List (Hiring.Event π)}
    (h : Accounted s log lost) (hrun : run s ms = some (t, log')) :
    ∃ lost', Accounted t (log ++ log') lost' := by
  refine runWith_invariant (P := fun s log => ∃ lost, Accounted s log lost) ?_ hrun ⟨lost, h⟩
  rintro s before m t es ⟨lost, h⟩ hstep
  exact accounted_step h hstep

/-! ## Counting -/

theorem pending_of_step {m : Move π} (h : Accounted s log lost) (hstep : step s m = some (t, es)) :
    m.taken ≤ s.station.loop.pending ∧
      t.station.loop.pending = s.station.loop.pending - m.taken + m.added := by
  cases m with
  | hiring m =>
      cases m with
      | access a =>
          obtain ⟨q, hq, same⟩ := Option.map_eq_some_iff.mp hstep
          obtain ⟨rfl, -⟩ := Prod.mk.inj same
          exact ⟨Station.taken_le_of_step h.counts hq, Station.pending_of_step hq⟩
      | lack message | panic =>
          refine ⟨Nat.zero_le _, ?_⟩
          simp only [step, Hiring.step] at hstep
          split at hstep
          · obtain ⟨rfl, -⟩ := Prod.mk.inj (Option.some.inj hstep)
            rfl
          · cases hstep
      | giveUp =>
          refine ⟨Nat.zero_le _, ?_⟩
          obtain ⟨message, -, same⟩ := Option.map_eq_some_iff.mp hstep
          obtain ⟨rfl, -⟩ := Prod.mk.inj same
          rfl
  | drop =>
      refine ⟨Nat.zero_le _, ?_⟩
      simp only [step] at hstep
      split at hstep
      · obtain ⟨rfl, -⟩ := Prod.mk.inj (Option.some.inj hstep)
        rfl
      · cases hstep

/-- Over a run the count changes by what its moves add and take. -/
theorem pending_of_run {ms : List (Move π)} (h : Accounted s log lost)
    (hrun : run s ms = some (t, es)) :
    t.station.loop.pending + total Move.taken ms =
      s.station.loop.pending + total Move.added ms := by
  induction ms generalizing s log lost es with
  | nil =>
      cases hrun
      rfl
  | cons m ms ih =>
      obtain ⟨u, first, rest, hstep, hrest, rfl⟩ := runWith_cons hrun
      obtain ⟨lost', later⟩ : ∃ lost', Accounted u (log ++ first) lost' := accounted_step h hstep
      obtain ⟨enough, changed⟩ := pending_of_step h hstep
      have counted := ih later hrest
      simp only [total_cons]
      omega

/-- A rejected enqueue takes back what it has added, whatever happens meanwhile. -/
theorem pending_of_rejected {q : Nat} {e : Event π} {between : List (Move π)}
    (h : Accounted s log lost)
    (hrun : run s (.access (.thread q (.announce e)) :: between ++
      [.access (.thread q .withdraw)]) = some (t, es)) :
    t.station.loop.pending + total Move.taken between =
      s.station.loop.pending + total Move.added between := by
  have changed := pending_of_run h hrun
  simp only [List.cons_append, total_cons, total_append, total_nil, Move.added, Move.taken,
    Access.added, Access.taken] at changed
  omega

theorem isOpen_of_gone {s : Station π} (gone : Gone s) : s.loop.isOpen = false := by
  rw [EventLoop.isOpen, gone.receiver]
  rfl

/-- **What is pending.** However the accesses of the threads and of the consumers interleave, over
any number of runs, with starts that get no thread and with senders that outlive the loop: the
pending count is the number of events that are queued, of enqueues that have counted and are not
over, and of events that were received and still count, and of those that were lost with the queue,
which is nobody as long as the queue is there. So nothing is ever taken from an empty count; sending
a stop marker or receiving one, of whatever run, leaves the count alone; an enqueue that is rejected
leaves it to what the others do meanwhile; and where nobody is in the middle of an enqueue and the
consumer has no event in its hand, the events that are pending are those that were accepted and not
dispatched. -/
theorem pending_counts {policy : LoopPolicy} {ms : List (Move π)}
    (h : run (.fresh policy) ms = some (s, log)) :
    (∃ lost : List (Event π),
      (accepted (seen log)).map Prod.snd = dispatched (seen log) ++ lost ++
        (s.station.post.inHand ++ EventLoop.events s.station.loop.queue) ∧
      (s.station.loop.isOpen = true → lost = []) ∧
      s.station.loop.pending = (EventLoop.events s.station.loop.queue).length +
        s.station.enqueues + s.station.post.uncounted.length + lost.length) ∧
    (∀ m t es, step s m = some (t, es) → m.taken ≤ s.station.loop.pending ∧
      t.station.loop.pending = s.station.loop.pending - m.taken + m.added) ∧
    (∀ q t es, step s (.access (.thread q .sendMarker)) = some (t, es) →
      t.station.loop.pending = s.station.loop.pending) ∧
    (∀ n rest t es, s.station.loop.queue = .halt n :: rest →
      step s (.access (.consumer .receive)) = some (t, es) →
      t.station.loop.pending = s.station.loop.pending) ∧
    (∀ q e between t es, run s (.access (.thread q (.announce e)) :: between ++
        [.access (.thread q .withdraw)]) = some (t, es) →
      t.station.loop.pending + total Move.taken between =
        s.station.loop.pending + total Move.added between) ∧
    (s.station.enqueues = 0 → s.station.post.inHand = [] →
      s.station.loop.pending + (dispatched (seen log)).length = (accepted (seen log)).length) := by
  obtain ⟨lost, accounted⟩ : ∃ lost, Accounted s ([] ++ log) lost :=
    accounted_run (accounted_fresh policy) h
  have conserved := accounted.conserved
  have counts := accounted.counts
  rw [List.nil_append] at conserved
  refine ⟨⟨lost, conserved, ?_, counts⟩, ?_, ?_, ?_, ?_, ?_⟩
  · intro there
    rcases accounted.place with ⟨-, -, nothing⟩ | gone
    · exact nothing
    · rw [isOpen_of_gone gone] at there
      cases there
  · exact fun m t es hstep => pending_of_step accounted hstep
  · exact fun q t es hstep => (pending_of_step accounted hstep).2
  · exact fun n rest t es _ hstep => (pending_of_step accounted hstep).2
  · exact fun q e between t es hrun => pending_of_rejected accounted hrun
  · intro nobody free
    have all := congrArg List.length conserved
    have nothing := Station.uncounted_of_inHand free
    simp only [Station.Counts, Station.tally, nobody, nothing, List.length_nil] at counts
    simp only [List.length_map, List.length_append, Station.underway, free, List.nil_append] at all
    omega

/-- Two threads enqueue, one of them only in part, and a run takes the first event off the queue. -/
def halfway : List (Move Nat) :=
  [.access (.thread 1 (.announce { name := "a" })), .access (.thread 2 (.announce { name := "b" })),
    .access (.thread 2 .send), .access .takeReceiver, .access (.consumer .lowerFlag),
    .access (.consumer .takeNumber), .access (.consumer (.begin Thread.main)),
    .access (.consumer .look), .access (.consumer .receive)]

/-- A marker is sent, the run is ended by a failure, and the loop is dropped with the marker and an
event in its queue while a third thread enqueues. -/
def abandoned : List (Move Nat) :=
  [.access (.thread 3 .askHalt), .access (.thread 3 .raise), .access (.thread 1 .send),
    .access (.thread 3 .sendMarker), .access (.consumer .countDown), .access (.consumer .dispatch),
    .access (.consumer .signOff), .access (.consumer .handBack), .access (.consumer .clear),
    .access (.consumer .rest), .access (.thread 4 (.announce { name := "c" })), .drop,
    .access (.thread 4 .send), .access (.thread 4 .withdraw)]

theorem pending_counts_abandoned :
    (∃ s log, run (.fresh { onFailure := .propagate }) halfway = some (s, log) ∧
      s.station.loop.pending = 2 ∧ s.station.loop.queue = [] ∧ s.station.enqueues = 1 ∧
      s.station.post.uncounted = [{ name := "b" }]) ∧
    ∃ s log, run (.fresh { onFailure := .propagate }) (halfway ++ abandoned) = some (s, log) ∧
      dispatched (seen log) = [{ name := "b" }] ∧
      accepted (seen log) = [(2, { name := "b" }), (1, { name := "a" })] ∧
      s.station.loop.pending + 1 = 2 := by
  have h : run (.fresh { onFailure := .propagate }) (halfway ++ abandoned) = some (_, _) := rfl
  obtain ⟨-, -, -, -, -, settled⟩ := pending_counts h
  exact ⟨⟨_, _, rfl, rfl, rfl, rfl, rfl⟩, _, _, h, rfl, rfl, settled rfl rfl⟩

/-- An event that is queued when the queue is destroyed stays pending, although nothing is queued
any more, nobody enqueues and nothing was received: after a start whose thread can have no such
name, and after the loop was dropped. -/
theorem lost_events_stay_pending :
    (∃ s log, run (.fresh { threadName := "a\x00b" } : Hiring Nat)
        [.access (.thread 1 (.announce { name := "Done" })), .access (.thread 1 .send),
          .access .takeReceiver, .access (.consumer .lowerFlag), .access (.consumer .takeNumber),
          .hiring .panic] = some (s, log) ∧
      s.station.loop.queue = [] ∧ s.station.enqueues = 0 ∧ s.station.post.uncounted = [] ∧
      s.station.loop.pending = 1) ∧
    ∃ s log, run (.fresh {} : Hiring Nat)
        [.access (.thread 1 (.announce { name := "Done" })), .access (.thread 1 .send), .drop] =
          some (s, log) ∧
      s.station.loop.queue = [] ∧ s.station.enqueues = 0 ∧ s.station.post.uncounted = [] ∧
      s.station.loop.pending = 1 :=
  ⟨⟨_, _, rfl, rfl, rfl, rfl, rfl⟩, _, _, rfl, rfl, rfl, rfl, rfl⟩

end Closing

end CallBridge
