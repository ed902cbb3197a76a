import CallBridge.Proofs.Loop.Station
import CallBridge.Script.Perform.Calls
import CallBridge.Settings.Basic

/-!
# Background runs that get no thread

A background run claims the loop and hands the receiver to the consumer before the thread of the
consumer is made. When the thread cannot be made, the consumer is dropped unused, and the receiver
and the queue go with it. The system tells the start what was wrong, and the start lowers the flag
of its run and fails. A name that no thread can have is told by a panic instead, after which nobody
lowers the flag.

What a start that fails leaves behind is a loop that nobody can run again: it refuses runs and
events, and it has no run to stop (`failed_start_closes`). From the moment in which the receiver is
gone nothing is accepted and nothing dispatched, whoever is in the middle of what; that is `Gone`,
and it is kept by every access.
-/

namespace CallBridge

namespace Station

variable {π : Type}

/-! ## Loops whose receiver is gone -/

/-- Where the receiver is while the consumer is this far. -/
@[simp] def Post.place : Post π → Receiver
  | vacant | handedBack _ | cleared _ => .home
  | _ => .away

@[simp] def Post.isBusy : Post π → Bool
  | vacant => false
  | _ => true

/-- The loop can be run, or is run. -/
structure Open (s : Station π) : Prop where
  receiver : s.loop.receiver = s.post.place
  running : s.loop.running = s.post.isBusy

/-- The receiver is gone, and the queue with it. -/
structure Gone (s : Station π) : Prop where
  receiver : s.loop.receiver = .lost
  queue : s.loop.queue = []
  post : s.post = .vacant

/-- Signs that a loop is at work: it accepts events, begins runs, dispatches events, ends runs. -/
@[simp] def Notice.isWork : Notice π → Bool
  | accepted _ _ | started _ | dispatched _ | failed _ _ | ended _ => true
  | _ => false

variable {s t : Station π} {q : Station π × List (Notice π)}

theorem Open.goesOn (h : Open s) {before after : Post π} (was : s.post = before)
    (receiver : t.loop.receiver = s.loop.receiver) (running : t.loop.running = s.loop.running)
    (is : t.post = after) (place : after.place = before.place)
    (busy : after.isBusy = before.isBusy) : Open t := by
  constructor
  · rw [receiver, h.receiver, was, is, place]
  · rw [running, h.running, was, is, busy]

theorem fail_place (s : Station π) (n : Nat) (e : Event π) (f : Fault) :
    (s.fail n e f).1.post.place = .away ∧ (s.fail n e f).1.post.isBusy = true := by
  unfold fail
  split <;> exact ⟨rfl, rfl⟩

theorem dispatch_place (s : Station π) (n : Nat) (e : Event π) :
    (s.dispatch n e).1.post.place = .away ∧ (s.dispatch n e).1.post.isBusy = true := by
  unfold dispatch
  split
  · exact ⟨rfl, rfl⟩
  · exact s.fail_place n e _

theorem settle_place (s : Station π) (n : Nat) (e : Event π) (v : Verdict) :
    (s.settle n e v).1.post.place = .away ∧ (s.settle n e v).1.post.isBusy = true := by
  unfold settle
  split
  · exact ⟨rfl, rfl⟩
  · exact s.fail_place n e _

theorem open_accessed (h : Open s) (ha : Accessed s q) : Open q.1 := by
  cases ha with
  | took => exact ⟨rfl, rfl⟩
  | handedBack post =>
      constructor
      · rfl
      · exact h.running.trans (by rw [post]; rfl)
  | rested post =>
      constructor
      · exact h.receiver.trans (by rw [post]; rfl)
      · rfl
  | @dispatched n e post =>
      obtain ⟨loop, -⟩ := s.dispatch_quiet n e
      obtain ⟨place, busy⟩ := s.dispatch_place n e
      exact h.goesOn post (by rw [loop]) (by rw [loop]) rfl place busy
  | @settled n e v post =>
      obtain ⟨loop, -⟩ := s.settle_quiet n e v
      obtain ⟨place, busy⟩ := s.settle_place n e v
      exact h.goesOn post (by rw [loop]) (by rw [loop]) rfl place busy
  | lowered post | numbered post | begun thread post | lookedUp post | looked post | met post
  | skipped post | received post | countedDown post | signedOff post | cleared post =>
      exact h.goesOn post rfl rfl rfl rfl rfl
  | announced | sent | bounced | withdrawn | sawNoRun | sawRun | raised | raisedAgain | marked
  | markedNothing | registered | registeredTwice | refused =>
      exact h.goesOn rfl rfl rfl rfl rfl rfl

theorem policy_accessed (ha : Accessed s q) : q.1.loop.policy = s.loop.policy := by
  cases ha with
  | @dispatched n e => rw [(s.dispatch_quiet n e).1]
  | @settled n e v => rw [(s.settle_quiet n e v).1]
  | _ => rfl

/-- What an access of a loop whose receiver is gone leaves as it is. -/
structure Rests (s : Station π) (q : Station π × List (Notice π)) : Prop where
  gone : Gone q.1
  running : q.1.loop.running = s.loop.running
  policy : q.1.loop.policy = s.loop.policy
  handlers : s.loop.handlers <+: q.1.loop.handlers
  idle : ∀ n ∈ q.2, n.isWork = false

theorem gone_accessed (h : Gone s) (ha : Accessed s q) : Rests s q := by
  obtain ⟨receiver, queue, vacant⟩ := h
  have shut : s.loop.isOpen = false := by
    rw [EventLoop.isOpen, receiver]
    rfl
  cases ha with
  | sent _ there | marked _ there => simp [shut] at there
  | took _ home => simp [receiver] at home
  | registered name missing =>
      exact ⟨⟨receiver, queue, vacant⟩, rfl, rfl, List.prefix_append _ _, by simp⟩
  | announced | bounced | withdrawn | sawNoRun | sawRun | raised | raisedAgain | markedNothing
  | registeredTwice | refused =>
      exact ⟨⟨receiver, queue, vacant⟩, rfl, rfl, List.prefix_rfl, by simp⟩
  | lowered post | numbered post | begun thread post | lookedUp post | looked post | met post
  | skipped post | received post | countedDown post | dispatched post | settled v post
  | signedOff post | handedBack post | cleared post | rested post => simp [vacant] at post

end Station

namespace Hiring

inductive Move (π : Type) where
  | access (a : Station.Access π)
  | lack (message : String)
  /-- The start that got no thread lowers the flag of its run and fails. -/
  | giveUp
  /-- The system refuses the name of the thread. -/
  | panic
deriving DecidableEq, Repr

inductive Event (π : Type) where
  | seen (n : Station.Notice π)
  | failed (fault : Fault)
  | panicked (p : Script.Panic)

end Hiring

/-- A station whose background runs may get no thread. -/
structure Hiring (π : Type) where
  station : Station π
  failing : Option String := none

namespace Hiring

open Station (Access Accessed Notice Open Gone Rests)
open Script (threadNameFault?)

variable {π : Type}

def fresh (policy : LoopPolicy) : Hiring π := { station := .fresh policy }

/-! ## Moves and runs -/

/-- The consumer that was to run is dropped, and the receiver with it. -/
def unhired (s : Hiring π) : Station π :=
  { s.station with loop := s.station.loop.lose, post := .vacant }

/-- What is wrong with the name of the consumer's thread. -/
def nameFault? (s : Hiring π) : Option Script.Panic :=
  threadNameFault? s.station.loop.policy.threadName

def step (s : Hiring π) : Move π → Option (Hiring π × List (Event π))
  | .access a => (s.station.step a).map fun q => ({ s with station := q.1 }, q.2.map .seen)
  | .lack message =>
    match s.station.post, s.nameFault? with
    | .numbered _, none => some ({ station := s.unhired, failing := some message }, [])
    | _, _ => none
  | .panic =>
    match s.station.post, s.nameFault? with
    | .numbered _, some p => some ({ s with station := s.unhired }, [.panicked p])
    | _, _ => none
  | .giveUp =>
    s.failing.map fun message =>
      ({ station := { s.station with loop := { s.station.loop with running := false } } },
        [.failed (.io message)])

def run (s : Hiring π) (ms : List (Move π)) : Option (Hiring π × List (Event π)) :=
  runWith step s ms

inductive Moved (s : Hiring π) : Hiring π × List (Event π) → Prop where
  | accessed {q : Station π × List (Notice π)} (accessed : Accessed s.station q) :
      Moved s ({ s with station := q.1 }, q.2.map .seen)
  | lacked {n : Nat} (message : String) (post : s.station.post = .numbered n) :
      Moved s ({ station := s.unhired, failing := some message }, [])
  | panicked {n : Nat} (p : Script.Panic) (post : s.station.post = .numbered n) :
      Moved s ({ s with station := s.unhired }, [.panicked p])
  | gaveUp {message : String} (failing : s.failing = some message) :
      Moved s
        ({ station := { s.station with loop := { s.station.loop with running := false } } },
          [.failed (.io message)])

theorem moved_of_step {s : Hiring π} {m : Move π} {q : Hiring π × List (Event π)}
    (h : s.step m = some q) : Moved s q := by
  cases m with
  | access a =>
      obtain ⟨q', hq, rfl⟩ := Option.map_eq_some_iff.mp h
      exact .accessed (Station.accessed_of_step hq)
  | lack message =>
      simp only [step] at h
      split at h
      · next post named => exact Option.some.inj h ▸ .lacked message post
      · cases h
  | panic =>
      simp only [step] at h
      split at h
      · next post named => exact Option.some.inj h ▸ .panicked _ post
      · cases h
  | giveUp =>
      obtain ⟨message, failing, rfl⟩ := Option.map_eq_some_iff.mp h
      exact .gaveUp failing

/-! ## What every run comes to -/

/-- How a loop stands, by the starts that got no thread: there was none, one has yet to lower the
flag of its run, all have, or one has broken off before. -/
inductive Standing (s : Hiring π) (log : List (Event π)) : Prop where
  | usable (there : Open s.station) (failing : s.failing = none) (unfailed : ∀ f, .failed f ∉ log)
  | failing (message : String) (gone : Gone s.station) (running : s.station.loop.running = true)
      (failing : s.failing = some message) (unfailed : ∀ f, .failed f ∉ log)
  | shut (gone : Gone s.station) (idle : s.station.loop.running = false)
      (failing : s.failing = none)
  | abandoned (gone : Gone s.station) (running : s.station.loop.running = true)
      (failing : s.failing = none) (unfailed : ∀ f, .failed f ∉ log)

theorem standing_fresh (policy : LoopPolicy) : Standing (fresh policy : Hiring π) [] :=
  .usable ⟨rfl, rfl⟩ rfl nofun

theorem gone_unhired (s : Hiring π) : Gone s.unhired := ⟨rfl, rfl, rfl⟩

theorem unfailed_append {log : List (Event π)} (before : ∀ f, .failed f ∉ log)
    (es : List (Notice π)) : ∀ f, Event.failed f ∉ log ++ es.map .seen := by
  intro f mem
  rcases List.mem_append.mp mem with mem | mem
  · exact before f mem
  · simp at mem

theorem standing_moved {s : Hiring π} {log : List (Event π)} {q : Hiring π × List (Event π)}
    (h : Standing s log) (hm : Moved s q) : Standing q.1 (log ++ q.2) := by
  cases h with
  | usable there failing unfailed =>
      cases hm with
      | accessed ha =>
          exact .usable (Station.open_accessed there ha) failing (unfailed_append unfailed _)
      | lacked message post =>
          have running : s.station.loop.running = true := there.running.trans (by rw [post]; rfl)
          exact .failing message s.gone_unhired running rfl (by simpa using unfailed)
      | panicked p post =>
          have running : s.station.loop.running = true := there.running.trans (by rw [post]; rfl)
          exact .abandoned s.gone_unhired running failing (by simpa using unfailed)
      | gaveUp gives => simp [failing] at gives
  | failing message gone running failing unfailed =>
      cases hm with
      | accessed ha =>
          have rests := Station.gone_accessed gone ha
          exact .failing message rests.gone (rests.running.trans running) failing
            (unfailed_append unfailed _)
      | lacked _ post | panicked _ post => simp [gone.post] at post
      | gaveUp _ => exact .shut ⟨gone.receiver, gone.queue, gone.post⟩ rfl rfl
  | shut gone idle failing =>
      cases hm with
      | accessed ha =>
          have rests := Station.gone_accessed gone ha
          exact .shut rests.gone (rests.running.trans idle) failing
      | lacked _ post | panicked _ post => simp [gone.post] at post
      | gaveUp gives => simp [failing] at gives
  | abandoned gone running failing unfailed =>
      cases hm with
      | accessed ha =>
          have rests := Station.gone_accessed gone ha
          exact .abandoned rests.gone (rests.running.trans running) failing
            (unfailed_append unfailed _)
      | lacked _ post | panicked _ post => simp [gone.post] at post
      | gaveUp gives => simp [failing] at gives

theorem standing_run {s t : Hiring π} {before log : List (Event π)} {ms : List (Move π)}
    (h : s.run ms = some (t, log)) (hs : Standing s before) : Standing t (before ++ log) := by
  refine runWith_invariant (P := Standing) ?_ h hs
  intro u before m v es hu hstep
  exact standing_moved hu (moved_of_step hstep)

theorem policy_moved {s : Hiring π} {q : Hiring π × List (Event π)} (hm : Moved s q) :
    q.1.station.loop.policy = s.station.loop.policy := by
  cases hm with
  | accessed ha => exact Station.policy_accessed ha
  | lacked | panicked | gaveUp => rfl

theorem policy_run {s t : Hiring π} {log : List (Event π)} {ms : List (Move π)}
    (h : s.run ms = some (t, log)) : t.station.loop.policy = s.station.loop.policy := by
  refine runWith_keeps (P := fun u => u.station.loop.policy = s.station.loop.policy) ?_ h rfl
  intro u m v es hu hstep
  exact (policy_moved (moved_of_step hstep)).trans hu

/-! ## A start that fails -/

/-- A background run that nobody interferes with and that gets no thread. -/
def start (message : String) : List (Move π) :=
  [.access .takeReceiver, .access (.consumer .lowerFlag), .access (.consumer .takeNumber),
    .lack message, .giveUp]

/-- The receiver and the queue are lost; of the rest only the number of the run shows that there was
one. -/
def afterFailure (l : EventLoop π) : EventLoop π :=
  { l with receiver := .lost, queue := [], haltRequested := false, epoch := l.epoch + 1 }

theorem run_start {s : Hiring π} (idle : s.station.loop.running = false)
    (home : s.station.loop.receiver = .home) (named : s.nameFault? = none) (message : String) :
    s.run (start message) = some
      ({ station := { s.station with loop := afterFailure s.station.loop, post := .vacant } },
        [.seen (.started (s.station.loop.epoch + 1)), .failed (.io message)]) := by
  have name : threadNameFault? s.station.loop.policy.threadName = none := named
  have claims : s.station.loop.takeReceiver =
      .ok { s.station.loop with receiver := .away, running := true } := by
    simp [EventLoop.takeReceiver, idle, home]
  simp [run, runWith, start, step, Station.step, Station.takeReceiver, claims, Station.beat,
    nameFault?, EventLoop.clearHalt, EventLoop.nextEpoch, name, unhired, EventLoop.lose,
    afterFailure, idle]

/-- A loop that is closed for good. Its threads' operations are told how things are, and change
nothing. -/
structure Shut (s : Hiring π) : Prop where
  idle : s.station.loop.running = false
  gone : Gone s.station
  refuses : s.step (.access .takeReceiver) = some (s, [.seen (.refused .closed)])
  deaf : ∀ p, s.station.errands.find? p = none →
    s.step (.access (.thread p .askHalt)) = some (s, [.seen (.halted false)])
  rejects : ∀ p e, s.station.errands.find? p = none → ∃ t,
    s.run [.access (.thread p (.announce e)), .access (.thread p .send),
        .access (.thread p .withdraw)] =
      some (t, [.seen (.enqueueing p e), .seen (.rejected p e)]) ∧
    t.station.loop = s.station.loop

theorem shut_of_gone {s : Hiring π} (gone : Gone s.station)
    (idle : s.station.loop.running = false) : Shut s := by
  have lost := gone.receiver
  refine ⟨idle, gone, ?_, ?_, ?_⟩
  · simp [step, Station.step, Station.takeReceiver, EventLoop.takeReceiver, idle, lost]
  · intro p free
    simp [step, Station.step, free, Station.chore, Station.askHalt, idle]
  · intro p e free
    simp [run, runWith, step, Station.step, free, Station.chore, Station.send, EventLoop.send,
      EventLoop.isOpen, EventLoop.announce, EventLoop.withdraw, lost]
    rw [← lost]

/-- Of a loop that is closed nothing more is seen than that it is. -/
structure Stays (s t : Hiring π) (log : List (Event π)) : Prop where
  shut : Shut t
  handlers : s.station.loop.handlers <+: t.station.loop.handlers
  idle : ∀ e ∈ log, ∃ n, e = .seen n ∧ n.isWork = false

theorem stays_run {s t : Hiring π} {ms : List (Move π)} {log : List (Event π)}
    (h : s.run ms = some (t, log)) (gone : Gone s.station)
    (idle : s.station.loop.running = false) (failing : s.failing = none) : Stays s t log := by
  have kept : Stays s t ([] ++ log) ∧ t.failing = none := by
    refine runWith_invariant (P := fun t log => Stays s t log ∧ t.failing = none) ?_ h
      ⟨⟨shut_of_gone gone idle, List.prefix_rfl, nofun⟩, failing⟩
    rintro u before m v es ⟨⟨shut, handlers, silent⟩, failing⟩ hstep
    cases moved_of_step hstep with
    | accessed ha =>
        have rests := Station.gone_accessed shut.gone ha
        refine ⟨⟨?_, handlers.trans rests.handlers, ?_⟩, failing⟩
        · exact shut_of_gone rests.gone (rests.running.trans shut.idle)
        · intro e mem
          rcases List.mem_append.mp mem with mem | mem
          · exact silent e mem
          · obtain ⟨n, seen, rfl⟩ := List.mem_map.mp mem
            exact ⟨n, rfl, rests.idle n seen⟩
    | lacked _ post | panicked _ post => simp [shut.gone.post] at post
    | gaveUp gives => simp [failing] at gives
  simpa using kept.1

/-- A loop that can be run is not yet closed, and the other way round. -/
theorem Standing.idle {s : Hiring π} {log : List (Event π)} (h : Standing s log)
    (idle : s.station.loop.running = false) :
    s.failing = none ∧ (Gone s.station ∨ s.station.loop.receiver = .home) := by
  cases h with
  | usable there failing =>
      refine ⟨failing, .inr ?_⟩
      have running := there.running
      cases post : s.station.post with
      | vacant => exact there.receiver.trans (by rw [post]; rfl)
      | _ => simp [idle, post] at running
  | failing _ _ running | abandoned _ running => simp [idle] at running
  | shut gone _ failing => exact ⟨failing, .inl gone⟩

theorem Standing.failed {s : Hiring π} {log : List (Event π)} {f : Fault} (h : Standing s log)
    (failed : .failed f ∈ log) : Gone s.station ∧ s.station.loop.running = false := by
  cases h with
  | usable _ _ unfailed | failing _ _ _ _ unfailed | abandoned _ _ _ unfailed =>
      exact absurd failed (unfailed f)
  | shut gone idle => exact ⟨gone, idle⟩

/-- A start in the background that fails, in any run of a loop of any policy. A loop that nobody
runs is either closed already, and then the start is refused and changes nothing; or its receiver is
in its place, and then a start that gets no thread takes the receiver and the queue with it, and
leaves the handlers, the policy and the count of the pending events as they are. Either way, and
also if other threads come in between, the loop is closed once a start has failed, and it stays so:
nothing is ever dispatched again, and nothing runs. -/
theorem failed_start_closes {policy : LoopPolicy} {ms : List (Move π)} {s : Hiring π}
    {log : List (Event π)} (h : (fresh policy : Hiring π).run ms = some (s, log)) :
    (s.station.loop.running = false →
      s.Shut ∨
      (s.station.loop.receiver = .home ∧
        (threadNameFault? policy.threadName = none → ∀ message, ∃ t,
          s.run (start message) = some
            (t, [.seen (.started (s.station.loop.epoch + 1)), .failed (.io message)]) ∧
          t.station.loop = afterFailure s.station.loop ∧
          t.station.errands = s.station.errands))) ∧
    ((∃ f, .failed f ∈ log) → s.Shut) ∧
    (s.Shut → ∀ ms' t log', s.run ms' = some (t, log') → Stays s t log') := by
  have standing : Standing s ([] ++ log) := standing_run h (standing_fresh policy)
  refine ⟨?_, ?_, ?_⟩
  · intro idle
    obtain ⟨-, gone | home⟩ := standing.idle idle
    · exact .inl (shut_of_gone gone idle)
    · refine .inr ⟨home, ?_⟩
      intro named message
      have nameless : s.nameFault? = none := by
        rw [nameFault?, policy_run h]
        exact named
      exact ⟨_, run_start idle home nameless message, rfl, rfl⟩
  · rintro ⟨f, failed⟩
    obtain ⟨gone, idle⟩ := standing.failed failed
    exact shut_of_gone gone idle
  · intro shut ms' t log' later
    obtain ⟨failing, -⟩ := standing.idle shut.idle
    exact stays_run later shut.gone shut.idle failing

/-- An event waits; the run gets no thread while another event is being enqueued. -/
def unlucky : List (Move Nat) :=
  [.access (.register "Done"), .access (.thread 1 (.announce ⟨"Done", none, none⟩)),
    .access (.thread 1 .send), .access .takeReceiver, .access (.consumer .lowerFlag),
    .access (.thread 2 (.announce ⟨"Late", none, none⟩)), .access (.consumer .takeNumber),
    .lack "out of threads", .access (.thread 2 .send), .giveUp, .access (.thread 2 .withdraw)]

theorem failed_start_closes_unlucky : ∃ s log,
    (fresh {} : Hiring Nat).run unlucky = some (s, log) ∧ s.Shut ∧ s.station.loop.pending = 1 ∧
      ∀ ms' t log', s.run ms' = some (t, log') → Stays s t log' := by
  have h : (fresh {} : Hiring Nat).run unlucky = some (_, _) := rfl
  obtain ⟨-, shut, stays⟩ := failed_start_closes h
  have closed := shut ⟨.io "out of threads", by simp⟩
  exact ⟨_, _, h, closed, rfl, stays closed⟩

def waiting (e : CallBridge.Event Nat) : List (Move Nat) :=
  [.access (.thread 1 (.announce e)), .access (.thread 1 .send)]

/-- Settings that are valid do not keep a start from failing, and a start that fails does not leave
the loop as it was: the event that waited is gone, and nobody can run the loop again. With a name
that no thread can have, the loop even counts as running. -/
theorem failed_start_loses_events :
    (∃ (settings : Settings) (s t : Hiring Nat),
      settings.validate = .ok () ∧ threadNameFault? settings.scheduler.threadName = none ∧
      (fresh settings.scheduler).run (waiting ⟨"Done", none, none⟩) =
        some (s, [.seen (.enqueueing 1 ⟨"Done", none, none⟩),
          .seen (.accepted 1 ⟨"Done", none, none⟩)]) ∧
      s.station.loop.running = false ∧ s.station.loop.queue = [.event ⟨"Done", none, none⟩] ∧
      s.run (start "out of threads") =
        some (t, [.seen (.started 1), .failed (.io "out of threads")]) ∧
      t.station.loop.queue = [] ∧ t.station.loop.receiver = .lost ∧
      t.step (.access .takeReceiver) = some (t, [.seen (.refused .closed)])) ∧
    (∃ (settings : Settings) (p : Script.Panic) (s t : Hiring Nat),
      settings.validate = .ok () ∧ threadNameFault? settings.scheduler.threadName = some p ∧
      (fresh settings.scheduler).run (waiting ⟨"Done", none, none⟩) =
        some (s, [.seen (.enqueueing 1 ⟨"Done", none, none⟩),
          .seen (.accepted 1 ⟨"Done", none, none⟩)]) ∧
      s.station.loop.running = false ∧ s.station.loop.queue = [.event ⟨"Done", none, none⟩] ∧
      s.run [.access .takeReceiver, .access (.consumer .lowerFlag),
          .access (.consumer .takeNumber), .panic] =
        some (t, [.seen (.started 1), .panicked p]) ∧
      t.station.loop.running = true ∧ t.station.loop.queue = [] ∧
      t.step (.access .takeReceiver) = some (t, [.seen (.refused .alreadyRunning)])) := by
  constructor
  · exact ⟨{}, _, _, rfl, rfl, rfl, rfl, rfl, rfl, rfl, rfl, rfl⟩
  · exact ⟨{ scheduler := { threadName := "a\x00b" } }, _, _, _, rfl, rfl, rfl, rfl, rfl, rfl, rfl,
      rfl, rfl⟩

end Hiring

end CallBridge
