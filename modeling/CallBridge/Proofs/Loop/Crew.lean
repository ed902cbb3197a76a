import CallBridge.Proofs.Loop.Station

/-!
# Crews: a loop, the threads that use it and those that are made for it

A run consumes events on the thread that asked for it, which then waits until the run is over, or
on a worker, a thread made for this run alone. Whoever starts a worker puts its handle down, and the
next thread that joins, starts a worker of its own or drops the loop takes the handle up and waits
for the worker's outcome. A handler runs on the thread of its consumer and may do whatever any
thread may do, so that a thread can be in the middle of several things at once, the innermost first.

An operation takes effect at one moment unless it has to wait for somebody or has the handle for a
while: a background run claims the loop, takes up the handle of the run before it, waits for that
worker and makes a worker of its own, and puts the new handle down; a worker that joins takes up its
own handle and puts it back; and anything may come in between. A worker can always be made. What may
come between the accesses of a claim, a halt or the end of a run is in `Station`.
-/

namespace CallBridge

namespace Crew

open Station (Verdict)

/-- A thread of the application, or the one made for a background run. -/
inductive Who where
  | caller (p : Nat)
  | worker (run : Nat)
deriving DecidableEq, Repr

/-- Where a run consumes: on the thread that asks for it, or on a worker. -/
inductive Mode where
  | blocking
  | background
deriving DecidableEq, Repr

inductive Stage (π : Type) where
  | fresh
  | ready
  | holding (e : Event π)
  | handling (e : Event π)

/-- One of the things that a thread is in the middle of. -/
inductive Frame (π : Type) where
  | consuming (run : Nat) (stage : Stage π)
  | claimed (run : Nat)
  | starting (run : Nat) (previous : Option Nat)
  | leaving (run : Nat)
  | joining (run : Nat)
  /-- A worker that joins has found its own handle, and puts it back. -/
  | returning (run : Nat)
  | dropping (run : Nat)

inductive Owner where
  | kept
  | going
  | gone
deriving DecidableEq, Repr

inductive Request where
  | halt
  | register (name : String)
  | run (mode : Mode)
  | join
  | drop
deriving DecidableEq, Repr

inductive Beat where
  | takeHandle
  | spawn
  | putHandle
  | awake
  | begin (thread : Thread)
  | turn
  | call
  | settle (v : Verdict)
deriving DecidableEq, Repr

inductive Move (π : Type) where
  | enqueue (who : Who) (e : Event π)
  | ask (who : Who) (r : Request)
  | advance (who : Who) (b : Beat)
deriving DecidableEq, Repr

inductive Notice (π : Type) where
  | enqueued (who : Who) (e : Event π) (answer : Except Fault Unit)
  | halted (who : Who) (answer : Bool)
  | registered (who : Who) (name : String) (answer : Except Fault Unit)
  | refused (who : Who) (fault : Fault)
  | started (who : Who) (mode : Mode) (run : Nat)
  /-- A later background run has waited for the worker and forgets its outcome. -/
  | reaped (run : Nat) (result : Except Fault Unit)
  | spawned (run : Nat)
  /-- Another handle was put down in the place of this one. -/
  | replaced (run : Nat)
  | launched (who : Who) (run : Nat)
  | dispatched (e : Event π)
  | failed (e : Event π) (fault : Fault)
  | ended (who : Who) (run : Nat) (result : Except Fault Unit)
  | joined (who : Who) (run : Option Nat) (result : Except Fault Unit)
  | dropped (who : Who) (run : Option Nat) (lines : List Line)
  /-- The loop is dropped on the thread of this worker, which nobody waits for any more. -/
  | detached (run : Nat)

end Crew

/-- A loop with everything that its threads are in the middle of. -/
structure Crew (π : Type) where
  loop : EventLoop π
  /-- The handle that lies ready, by the run of its worker. -/
  handle : Option Nat := none
  threads : Table Crew.Who (List (Crew.Frame π)) := {}
  outcomes : Table Nat (Except Fault Unit) := {}
  owner : Crew.Owner := .kept

namespace Crew

open Station (Verdict)

variable {π : Type}

def fresh (policy : LoopPolicy) : Crew π where
  loop := { policy }

def stack (s : Crew π) (who : Who) : List (Frame π) := (s.threads.find? who).getD []

def put (s : Crew π) (who : Who) (fs : List (Frame π)) : Crew π :=
  { s with threads := s.threads.insert who fs }

/-- A thread of the application in the middle of nothing, or any thread that runs a handler. -/
def free (s : Crew π) (who : Who) : Bool :=
  match who, s.stack who with
  | .caller _, [] => true
  | _, .consuming _ (.handling _) :: _ => true
  | _, _ => false

/-- No thread is in the middle of an operation on the loop; workers may consume. -/
def quiet (s : Crew π) : Bool :=
  s.threads.bindings.all fun
    | (_, []) => true
    | (.worker _, [.consuming _ _]) => true
    | _ => false

/-! ## What a thread at liberty does -/

def enqueue (s : Crew π) (who : Who) (e : Event π) : Crew π × List (Notice π) :=
  let o := s.loop.enqueue e
  ({ s with loop := o.state }, [.enqueued who e o.answer])

def halt (s : Crew π) (who : Who) : Crew π × List (Notice π) :=
  let o := s.loop.halt
  ({ s with loop := o.state }, [.halted who o.answer])

def register (s : Crew π) (who : Who) (name : String) : Crew π × List (Notice π) :=
  let o := s.loop.register name
  ({ s with loop := o.state }, [.registered who name o.answer])

/-- What the thread that has claimed a run goes on with. -/
def Mode.frame (n : Nat) : Mode → Frame π
  | .blocking => .consuming n .fresh
  | .background => .claimed n

def claim (s : Crew π) (who : Who) (mode : Mode) : Crew π × List (Notice π) :=
  match s.loop.claim with
  | .ok loop =>
    ({ s with loop }.put who (mode.frame loop.epoch :: s.stack who), [.started who mode loop.epoch])
  | .error f => (s, [.refused who f])

/-- A thread that takes the handle up waits for the worker, unless it is the worker itself. -/
def Who.waits (who : Who) (n : Nat) : Frame π :=
  if who = .worker n then .returning n else .joining n

def join (s : Crew π) (who : Who) : Crew π × List (Notice π) :=
  match s.handle with
  | none => (s, [.joined who none (.ok ())])
  | some n => ({ s with handle := none }.put who (who.waits n :: s.stack who), [])

/-- Nobody refers to the loop any more, but a worker that still consumes does. -/
def leaveBehind (s : Crew π) : Crew π :=
  { s with owner := .gone, loop := if s.loop.running then s.loop else s.loop.lose }

@[simp] theorem leaveBehind_running (s : Crew π) :
    s.leaveBehind.loop.running = s.loop.running := by
  unfold leaveBehind
  split <;> rfl

@[simp] theorem leaveBehind_epoch (s : Crew π) : s.leaveBehind.loop.epoch = s.loop.epoch := by
  unfold leaveBehind
  split <;> rfl

@[simp] theorem leaveBehind_haltRequested (s : Crew π) :
    s.leaveBehind.loop.haltRequested = s.loop.haltRequested := by
  unfold leaveBehind
  split <;> rfl

/-- The loop is asked to stop, and its worker is waited for unless it is the thread itself. -/
def drop (s : Crew π) (who : Who) : Crew π × List (Notice π) :=
  let asked := { s with loop := s.loop.halt.state, handle := none }
  match s.handle with
  | none => (asked.leaveBehind, [.dropped who none []])
  | some n =>
    if who = .worker n then (asked.leaveBehind, [.dropped who none [], .detached n])
    else ({ asked with owner := .going }.put who (.dropping n :: s.stack who), [])

def answer (s : Crew π) (who : Who) : Request → Option (Crew π × List (Notice π))
  | .halt => some (s.halt who)
  | .register name => some (s.register who name)
  | .run mode => some (s.claim who mode)
  | .join => some (s.join who)
  | .drop => if s.quiet then some (s.drop who) else none

/-! ## How a thread gets on -/

def spawn (s : Crew π) (who : Who) (rest : List (Frame π)) (n : Nat) : Crew π :=
  (s.put who (.leaving n :: rest)).put (.worker n) [.consuming n .fresh]

def putHandle (s : Crew π) (who : Who) (rest : List (Frame π)) (n : Nat) (returned : Notice π) :
    Crew π × List (Notice π) :=
  ({ s with handle := some n }.put who rest, (s.handle.map Notice.replaced).toList ++ [returned])

/-- What is reported of a worker's outcome when the loop is dropped. -/
def warning : Except Fault Unit → List Line
  | .ok () => []
  | .error f => [EventLoop.unreported f]

/-- A run that is over leaves the loop. -/
def finish (s : Crew π) (who : Who) (rest : List (Frame π)) (n : Nat) (result : Except Fault Unit) :
    Crew π × List (Notice π) :=
  let loop := s.loop.finish.state
  ({ s with
      loop := if s.owner = Owner.gone then loop.lose else loop
      outcomes :=
        match who with
        | .caller _ => s.outcomes
        | .worker _ => s.outcomes.insert n result }.put who rest,
    [.ended who n result])

def turn (s : Crew π) (who : Who) (rest : List (Frame π)) (n : Nat) : Crew π × List (Notice π) :=
  match s.loop.turn with
  | (loop, .stop) => { s with loop }.finish who rest n (.ok ())
  | (loop, .wait) | (loop, .skip) => ({ s with loop }, [])
  | (loop, .dispatch e) =>
    ({ s with loop }.put who (.consuming n (.holding e) :: rest), [.dispatched e])

def giveUp (s : Crew π) (who : Who) (rest : List (Frame π)) (n : Nat) (e : Event π) (f : Fault) :
    Crew π × List (Notice π) :=
  match (s.loop.afterFailure f).1 with
  | some f' =>
    let ended := s.finish who rest n (.error f')
    (ended.1, .failed e f :: ended.2)
  | none => (s.put who (.consuming n .ready :: rest), [.failed e f])

def call (s : Crew π) (who : Who) (rest : List (Frame π)) (n : Nat) (e : Event π) :
    Crew π × List (Notice π) :=
  if s.loop.hasHandler e.name then (s.put who (.consuming n (.handling e) :: rest), [])
  else s.giveUp who rest n e (.unknownEvent e.name)

def settle (s : Crew π) (who : Who) (rest : List (Frame π)) (n : Nat) (e : Event π) (v : Verdict) :
    Crew π × List (Notice π) :=
  match v.fault? e.name with
  | none => (s.put who (.consuming n .ready :: rest), [])
  | some f => s.giveUp who rest n e f

def advance (s : Crew π) (who : Who) (rest : List (Frame π)) :
    Frame π → Beat → Option (Crew π × List (Notice π))
  | .claimed n, .takeHandle =>
    some ({ s with handle := none }.put who (.starting n s.handle :: rest), [])
  | .starting n none, .spawn => some (s.spawn who rest n, [.spawned n])
  | .starting n (some m), .spawn =>
    (s.outcomes.find? m).map fun r => (s.spawn who rest n, [.reaped m r, .spawned n])
  | .leaving n, .putHandle => some (s.putHandle who rest n (.launched who n))
  | .returning n, .putHandle => some (s.putHandle who rest n (.joined who none (.ok ())))
  | .joining n, .awake =>
    (s.outcomes.find? n).map fun r => (s.put who rest, [.joined who (some n) r])
  | .dropping n, .awake =>
    (s.outcomes.find? n).map fun r =>
      ((s.put who rest).leaveBehind, [.dropped who (some n) (warning r)])
  | .consuming n .fresh, .begin thread =>
    some ({ s with loop := (s.loop.begin thread).state }.put who (.consuming n .ready :: rest), [])
  | .consuming n .ready, .turn => some (s.turn who rest n)
  | .consuming n (.holding e), .call => some (s.call who rest n e)
  | .consuming n (.handling e), .settle v => some (s.settle who rest n e v)
  | _, _ => none

/-- One move and what can be seen of it; nothing when it does not fit. Events can be enqueued even
when the loop is gone. -/
def step (s : Crew π) : Move π → Option (Crew π × List (Notice π))
  | .enqueue who e => if s.free who then some (s.enqueue who e) else none
  | .ask who r => if s.free who ∧ s.owner = .kept then s.answer who r else none
  | .advance who b =>
    match s.stack who with
    | [] => none
    | f :: rest => s.advance who rest f b

def run (s : Crew π) (ms : List (Move π)) : Option (Crew π × List (Notice π)) := runWith step s ms

/-! ## What a move can come to -/

inductive Fails (s : Crew π) (who : Who) (rest : List (Frame π)) (n : Nat) (e : Event π) :
    Fault → Prop where
  | unknown (top : s.stack who = .consuming n (.holding e) :: rest)
      (missing : s.loop.hasHandler e.name = false) : Fails s who rest n e (.unknownEvent e.name)
  | handler {f : Fault} (v : Verdict) (top : s.stack who = .consuming n (.handling e) :: rest)
      (fault : v.fault? e.name = some f) : Fails s who rest n e f

theorem Fails.top {s : Crew π} {who : Who} {rest : List (Frame π)} {n : Nat} {e : Event π}
    {f : Fault} (h : Fails s who rest n e f) :
    ∃ stage, s.stack who = .consuming n stage :: rest := by
  cases h with
  | unknown top => exact ⟨_, top⟩
  | handler v top => exact ⟨_, top⟩

inductive Moved (s : Crew π) : Crew π × List (Notice π) → Prop where
  | enqueued (who : Who) (e : Event π) : Moved s (s.enqueue who e)
  | halted (who : Who) : Moved s (s.halt who)
  | registered (who : Who) (name : String) : Moved s (s.register who name)
  | refused (who : Who) (f : Fault) (why : s.loop.claim = .error f) :
      Moved s (s, [.refused who f])
  | claimed {who : Who} (mode : Mode) (free : s.free who = true) (kept : s.owner = .kept)
      (idle : s.loop.running = false) :
      Moved s
        ({ s with loop := { s.loop with
              receiver := .away, running := true, haltRequested := false
              epoch := s.loop.epoch + 1 } }.put who
            (mode.frame (s.loop.epoch + 1) :: s.stack who),
          [.started who mode (s.loop.epoch + 1)])
  | handleTaken {who : Who} {n : Nat} {rest : List (Frame π)}
      (top : s.stack who = .claimed n :: rest) :
      Moved s ({ s with handle := none }.put who (.starting n s.handle :: rest), [])
  | spawned {who : Who} {n : Nat} {rest : List (Frame π)}
      (top : s.stack who = .starting n none :: rest) : Moved s (s.spawn who rest n, [.spawned n])
  | reaped {who : Who} {n m : Nat} {rest : List (Frame π)} {r : Except Fault Unit}
      (top : s.stack who = .starting n (some m) :: rest) (known : s.outcomes.find? m = some r) :
      Moved s (s.spawn who rest n, [.reaped m r, .spawned n])
  | left {who : Who} {n : Nat} {rest : List (Frame π)} (top : s.stack who = .leaving n :: rest) :
      Moved s (s.putHandle who rest n (.launched who n))
  | returned {who : Who} {n : Nat} {rest : List (Frame π)}
      (top : s.stack who = .returning n :: rest) :
      Moved s (s.putHandle who rest n (.joined who none (.ok ())))
  | joinedNobody (who : Who) : Moved s (s, [.joined who none (.ok ())])
  | joining {who : Who} {n : Nat} (free : s.free who = true) (handle : s.handle = some n) :
      Moved s ({ s with handle := none }.put who (who.waits n :: s.stack who), [])
  | joined {who : Who} {n : Nat} {rest : List (Frame π)} {r : Except Fault Unit}
      (top : s.stack who = .joining n :: rest) (known : s.outcomes.find? n = some r) :
      Moved s (s.put who rest, [.joined who (some n) r])
  | droppedNobody (who : Who) (nobody : s.handle = none) :
      Moved s
        ({ s with loop := s.loop.halt.state, handle := none }.leaveBehind, [.dropped who none []])
  | droppedSelf {n : Nat} (handle : s.handle = some n) :
      Moved s
        ({ s with loop := s.loop.halt.state, handle := none }.leaveBehind,
          [.dropped (.worker n) none [], .detached n])
  | dropping {who : Who} {n : Nat} (free : s.free who = true) (kept : s.owner = .kept)
      (handle : s.handle = some n) :
      Moved s
        ({ s with loop := s.loop.halt.state, handle := none, owner := .going }.put who
            (.dropping n :: s.stack who), [])
  | dropped {who : Who} {n : Nat} {rest : List (Frame π)} {r : Except Fault Unit}
      (top : s.stack who = .dropping n :: rest) (known : s.outcomes.find? n = some r) :
      Moved s ((s.put who rest).leaveBehind, [.dropped who (some n) (warning r)])
  | begun {who : Who} {n : Nat} {rest : List (Frame π)} (thread : Thread)
      (top : s.stack who = .consuming n .fresh :: rest) :
      Moved s
        ({ s with loop := (s.loop.begin thread).state }.put who (.consuming n .ready :: rest), [])
  | stopped {who : Who} {n : Nat} {rest : List (Frame π)}
      (top : s.stack who = .consuming n .ready :: rest) (policy : s.loop.policy.onHalt = .abandon)
      (asked : s.loop.haltRequested = true) : Moved s (s.finish who rest n (.ok ()))
  | met {who : Who} {n : Nat} {rest : List (Frame π)} {q : List (Message π)}
      (top : s.stack who = .consuming n .ready :: rest)
      (head : s.loop.queue = .halt s.loop.epoch :: q) :
      Moved s ({ s with loop := { s.loop with queue := q } }.finish who rest n (.ok ()))
  | waiting : Moved s (s, [])
  | skipped {m : Nat} {q : List (Message π)} (head : s.loop.queue = .halt m :: q) :
      Moved s ({ s with loop := { s.loop with queue := q } }, [])
  | taken {who : Who} {n : Nat} {rest : List (Frame π)} {e : Event π} {q : List (Message π)}
      (top : s.stack who = .consuming n .ready :: rest) (head : s.loop.queue = .event e :: q) :
      Moved s
        ({ s with loop := { s.loop with queue := q, pending := s.loop.pending - 1 } }.put who
            (.consuming n (.holding e) :: rest), [.dispatched e])
  | called {who : Who} {n : Nat} {rest : List (Frame π)} {e : Event π}
      (top : s.stack who = .consuming n (.holding e) :: rest)
      (known : s.loop.hasHandler e.name = true) :
      Moved s (s.put who (.consuming n (.handling e) :: rest), [])
  | succeeded {who : Who} {n : Nat} {rest : List (Frame π)} {e : Event π}
      (top : s.stack who = .consuming n (.handling e) :: rest) :
      Moved s (s.put who (.consuming n .ready :: rest), [])
  | reported {who : Who} {n : Nat} {rest : List (Frame π)} {e : Event π} {f : Fault}
      (fails : Fails s who rest n e f) :
      Moved s (s.put who (.consuming n .ready :: rest), [.failed e f])
  | propagated {who : Who} {n : Nat} {rest : List (Frame π)} {e : Event π} {f : Fault}
      (fails : Fails s who rest n e f) (policy : s.loop.policy.onFailure = .propagate) :
      Moved s ((s.finish who rest n (.error f)).1, [.failed e f, .ended who n (.error f)])

theorem claim_idle {s : Crew π} (idle : s.loop.running = false) (home : s.loop.receiver = .home)
    (who : Who) (mode : Mode) :
    s.claim who mode =
      ({ s with loop := { s.loop with
            receiver := .away, running := true, haltRequested := false
            epoch := s.loop.epoch + 1 } }.put who
          (mode.frame (s.loop.epoch + 1) :: s.stack who),
        [.started who mode (s.loop.epoch + 1)]) := by
  unfold claim EventLoop.claim EventLoop.takeReceiver
  rw [idle, home]
  rfl

theorem moved_claim {s : Crew π} {who : Who} (free : s.free who = true) (kept : s.owner = .kept)
    (mode : Mode) : Moved s (s.claim who mode) := by
  rcases Station.takeReceiver_cases s.loop with ⟨idle, home, -⟩ | ⟨f, refused⟩
  · rw [claim_idle idle home]
    exact .claimed mode free kept idle
  · have claimed : s.loop.claim = .error f := by
      rw [EventLoop.claim, refused]
      rfl
    rw [claim, claimed]
    exact .refused who f claimed

theorem moved_join {s : Crew π} {who : Who} (free : s.free who = true) : Moved s (s.join who) := by
  unfold join
  cases handle : s.handle with
  | none => exact .joinedNobody who
  | some n => exact .joining free handle

theorem moved_drop {s : Crew π} {who : Who} (free : s.free who = true) (kept : s.owner = .kept) :
    Moved s (s.drop who) := by
  unfold drop
  cases handle : s.handle with
  | none => exact .droppedNobody who handle
  | some n =>
      by_cases self : who = .worker n
      · simp only [self, if_true]
        exact .droppedSelf handle
      · simp only [self, if_false]
        exact .dropping free kept handle

theorem moved_answer {s : Crew π} {who : Who} {r : Request} {p : Crew π × List (Notice π)}
    (free : s.free who = true) (kept : s.owner = .kept) (h : s.answer who r = some p) :
    Moved s p := by
  cases r with
  | halt => exact Option.some.inj h ▸ .halted who
  | register name => exact Option.some.inj h ▸ .registered who name
  | run mode => exact Option.some.inj h ▸ moved_claim free kept mode
  | join => exact Option.some.inj h ▸ moved_join free
  | drop =>
      rw [answer] at h
      split at h
      · exact Option.some.inj h ▸ moved_drop free kept
      · cases h

theorem moved_turn {s : Crew π} {who : Who} {n : Nat} {rest : List (Frame π)}
    (top : s.stack who = .consuming n .ready :: rest) : Moved s (s.turn who rest n) := by
  unfold turn EventLoop.turn EventLoop.receive
  -- A turn looks at the flag first, then at the queue.
  by_cases stop : s.loop.policy.onHalt = .abandon ∧ s.loop.haltRequested = true
  · rw [if_pos stop]
    exact .stopped top stop.1 stop.2
  · rw [if_neg stop]
    cases head : s.loop.queue with
    | nil => exact .waiting
    | cons m q =>
        cases m with
        | event e => exact .taken top head
        | halt k =>
            by_cases own : k = s.loop.epoch
            · simp only [own, if_true]
              exact .met top (own ▸ head)
            · simp only [own, if_false]
              exact .skipped head

theorem moved_giveUp {s : Crew π} {who : Who} {n : Nat} {rest : List (Frame π)} {e : Event π}
    {f : Fault} (fails : Fails s who rest n e f) : Moved s (s.giveUp who rest n e f) := by
  unfold giveUp EventLoop.afterFailure
  cases policy : s.loop.policy.onFailure with
  | reportAndContinue => exact .reported fails
  | propagate => exact .propagated fails policy

theorem moved_call {s : Crew π} {who : Who} {n : Nat} {rest : List (Frame π)} {e : Event π}
    (top : s.stack who = .consuming n (.holding e) :: rest) : Moved s (s.call who rest n e) := by
  unfold call
  cases known : s.loop.hasHandler e.name with
  | true => exact .called top known
  | false => exact moved_giveUp (.unknown top known)

theorem moved_settle {s : Crew π} {who : Who} {n : Nat} {rest : List (Frame π)} {e : Event π}
    (top : s.stack who = .consuming n (.handling e) :: rest) (v : Verdict) :
    Moved s (s.settle who rest n e v) := by
  unfold settle
  cases fault : v.fault? e.name with
  | none => exact .succeeded top
  | some f => exact moved_giveUp (.handler v top fault)

theorem moved_advance {s : Crew π} {who : Who} {f : Frame π} {rest : List (Frame π)} {b : Beat}
    {p : Crew π × List (Notice π)} (top : s.stack who = f :: rest)
    (h : s.advance who rest f b = some p) : Moved s p := by
  unfold advance at h
  -- One case for each beat that fits a frame.
  split at h
  · exact Option.some.inj h ▸ .handleTaken top
  · exact Option.some.inj h ▸ .spawned top
  · obtain ⟨r, known, rfl⟩ := Option.map_eq_some_iff.mp h
    exact .reaped top known
  · exact Option.some.inj h ▸ .left top
  · exact Option.some.inj h ▸ .returned top
  · obtain ⟨r, known, rfl⟩ := Option.map_eq_some_iff.mp h
    exact .joined top known
  · obtain ⟨r, known, rfl⟩ := Option.map_eq_some_iff.mp h
    exact .dropped top known
  · next n thread => exact Option.some.inj h ▸ .begun thread top
  · exact Option.some.inj h ▸ moved_turn top
  · exact Option.some.inj h ▸ moved_call top
  · next n e v => exact Option.some.inj h ▸ moved_settle top v
  · cases h

theorem moved_of_step {s : Crew π} {m : Move π} {p : Crew π × List (Notice π)}
    (h : s.step m = some p) : Moved s p := by
  cases m with
  | enqueue who e =>
      rw [step] at h
      split at h
      · exact Option.some.inj h ▸ .enqueued who e
      · cases h
  | ask who r =>
      rw [step] at h
      split at h
      · next may => exact moved_answer may.1 may.2 h
      · cases h
  | advance who b =>
      rw [step] at h
      split at h
      · cases h
      · next top => exact moved_advance top h

theorem run_invariant {P : Crew π → List (Notice π) → Prop}
    (keep : ∀ {s before p}, P s before → Moved s p → P p.1 (before ++ p.2))
    {ms : List (Move π)} {s t : Crew π} {before log : List (Notice π)}
    (h : s.run ms = some (t, log)) (hs : P s before) : P t (before ++ log) := by
  refine runWith_invariant (P := P) ?_ h hs
  intro u before m v es hu hstep
  exact keep hu (moved_of_step hstep)

/-! ## What the threads are in the middle of, together -/

/-- A measure of frames summed over one thread. -/
def load (w : Frame π → Nat) (fs : List (Frame π)) : Nat := fs.foldr (fun f n => w f + n) 0

/-- A measure of frames summed over all threads. -/
def weight (w : Frame π → Nat) (s : Crew π) : Nat := s.threads.total (load w)

section

variable {s : Crew π} {who : Who} {f g : Frame π} {fs : List (Frame π)} (w : Frame π → Nat)

@[simp] theorem stack_put_self : (s.put who fs).stack who = fs := by
  simp [stack, put]

@[simp] theorem stack_put_of_ne {other : Who} (h : other ≠ who) :
    (s.put who fs).stack other = s.stack other := by
  simp [stack, put, h]

theorem load_cons : load w (f :: fs) = w f + load w fs := rfl

theorem weight_put (s : Crew π) (who : Who) (fs : List (Frame π)) :
    (s.put who fs).weight w + load w (s.stack who) = s.weight w + load w fs := by
  have swap := s.threads.total_insert who fs (load w)
  have old : ((s.threads.find? who).map (load w)).getD 0 = load w (s.stack who) := by
    unfold stack
    cases s.threads.find? who <;> rfl
  rw [old] at swap
  exact swap

theorem weight_push (top : s.stack who = fs) :
    (s.put who (f :: fs)).weight w = s.weight w + w f := by
  have swap := weight_put w s who (f :: fs)
  rw [top, load_cons] at swap
  omega

theorem weight_swap (top : s.stack who = f :: fs) :
    (s.put who (g :: fs)).weight w + w f = s.weight w + w g := by
  have swap := weight_put w s who (g :: fs)
  rw [top, load_cons, load_cons] at swap
  omega

theorem weight_pop (top : s.stack who = f :: fs) :
    (s.put who fs).weight w + w f = s.weight w := by
  have swap := weight_put w s who fs
  rw [top, load_cons] at swap
  omega

end

end Crew

end CallBridge
