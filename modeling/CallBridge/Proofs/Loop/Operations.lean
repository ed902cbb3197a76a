import CallBridge.Proofs.Loop.Conservation

/-!
# Whole operations

Seen from outside, an operation of a thread takes effect at one moment. So does a turn of the
consumer, in which it looks whether it is to stop, takes the next message and, when the run is over,
leaves the loop. The handler of an event is looked up and called at another moment, and while it
runs any operations may come, its own and those of other threads. An event counts as dispatched from
the turn that took it.

The station is the one of single accesses, only that nothing comes between the accesses of an
operation. What each operation can come to is one relation, and what every case of it keeps, every
run keeps.
-/

namespace CallBridge

namespace Station

variable {π : Type}

/-- One whole operation of a thread, or what the consumer does at one moment. -/
inductive Operation (π : Type) where
  | enqueue (thread : Nat) (e : Event π)
  | halt
  | register (name : String)
  | run
  | begin (thread : Thread)
  | turn
  | call
  | settle (v : Verdict)
deriving DecidableEq, Repr

def enqueue (s : Station π) (thread : Nat) (e : Event π) : Station π × List (Notice π) :=
  let o := s.loop.enqueue e
  ({ s with loop := o.state },
    [.enqueueing thread e,
      match o.answer with
      | .ok () => .accepted thread e
      | .error _ => .rejected thread e])

def halt (s : Station π) : Station π × List (Notice π) :=
  let o := s.loop.halt
  ({ s with loop := o.state }, [.halted o.answer])

def start (s : Station π) : Station π × List (Notice π) :=
  match s.loop.claim with
  | .ok loop => ({ s with loop, post := .numbered loop.epoch }, [.started loop.epoch])
  | .error f => (s, [.refused f])

/-- A run that is over leaves the loop at once. -/
def leave (s : Station π) (result : Except Fault Unit) : Station π × List (Notice π) :=
  ({ s with loop := s.loop.finish.state, post := .vacant }, [.ended result])

def turn (s : Station π) (run : Nat) : Station π × List (Notice π) :=
  match s.loop.turn with
  | (loop, .stop) => { s with loop }.leave (.ok ())
  | (loop, .wait) | (loop, .skip) => ({ s with loop }, [])
  | (loop, .dispatch e) => ({ s with loop, post := .holding run e }, [.dispatched e])

def giveUp (s : Station π) (run : Nat) (e : Event π) (f : Fault) :
    Station π × List (Notice π) :=
  match (s.loop.afterFailure f).1 with
  | some f' => ((s.leave (.error f')).1, .failed e f :: (s.leave (.error f')).2)
  | none => ({ s with post := .ready run }, [.failed e f])

/-- An event without a handler fails. -/
def call (s : Station π) (run : Nat) (e : Event π) : Station π × List (Notice π) :=
  if s.loop.hasHandler e.name then ({ s with post := .handling run e }, [])
  else s.giveUp run e (.unknownEvent e.name)

def comeBack (s : Station π) (run : Nat) (e : Event π) (v : Verdict) :
    Station π × List (Notice π) :=
  match v.fault? e.name with
  | none => ({ s with post := .ready run }, [])
  | some f => s.giveUp run e f

/-- One operation and what can be seen of it; nothing when it does not fit. -/
def operate (s : Station π) (o : Operation π) : Option (Station π × List (Notice π)) :=
  match o, s.post with
  | .enqueue p e, _ => some (s.enqueue p e)
  | .halt, _ => some s.halt
  | .register name, _ => some (s.register name)
  | .run, _ => some s.start
  | .begin thread, .numbered n =>
    some ({ s with loop := (s.loop.begin thread).state, post := .ready n }, [])
  | .turn, .ready n => some (s.turn n)
  | .call, .holding n e => some (s.call n e)
  | .settle v, .handling n e => some (s.comeBack n e v)
  | _, _ => none

def operations (s : Station π) (os : List (Operation π)) : Option (Station π × List (Notice π)) :=
  runWith operate s os

/-- The station after a message was taken. -/
def after (s : Station π) (q : List (Message π)) : Station π :=
  { s with loop := { s.loop with queue := q } }

/-! ## What an operation can come to -/

inductive Fails (s : Station π) (n : Nat) (e : Event π) : Fault → Prop where
  | unknown (post : s.post = .holding n e) (missing : s.loop.hasHandler e.name = false) :
      Fails s n e (.unknownEvent e.name)
  | handler {f : Fault} (v : Verdict) (post : s.post = .handling n e)
      (fault : v.fault? e.name = some f) : Fails s n e f

inductive Operated (s : Station π) : Station π × List (Notice π) → Prop where
  | enqueued (p : Nat) (e : Event π) (there : s.loop.isOpen = true) :
      Operated s
        ({ s with loop := { s.loop with
            queue := s.loop.queue ++ [.event e], pending := s.loop.pending + 1 } },
          [.enqueueing p e, .accepted p e])
  | rejected (p : Nat) (e : Event π) (gone : s.loop.isOpen = false) :
      Operated s (s, [.enqueueing p e, .rejected p e])
  | haltedNothing (idle : s.loop.running = false) : Operated s (s, [.halted false])
  | halted (running : s.loop.running = true) (first : s.loop.haltRequested = false)
      (there : s.loop.isOpen = true) :
      Operated s
        ({ s with loop := { s.loop with
            haltRequested := true, queue := s.loop.queue ++ [.halt s.loop.epoch] } },
          [.halted true])
  | haltedLost (running : s.loop.running = true) (first : s.loop.haltRequested = false)
      (gone : s.loop.isOpen = false) :
      Operated s ({ s with loop := { s.loop with haltRequested := true } }, [.halted false])
  | haltedAgain (running : s.loop.running = true) (again : s.loop.haltRequested = true) :
      Operated s (s, [.halted true])
  | registered (name : String) (missing : s.loop.hasHandler name = false) :
      Operated s
        ({ s with loop := { s.loop with handlers := s.loop.handlers ++ [name] } },
          [.registered name (.ok ())])
  | registeredTwice (name : String) (known : s.loop.hasHandler name = true) :
      Operated s (s, [.registered name (.error (.duplicateHandler name))])
  | refused (f : Fault) (why : s.loop.claim = .error f) : Operated s (s, [.refused f])
  | started (idle : s.loop.running = false) (home : s.loop.receiver = .home) :
      Operated s
        ({ s with
            loop := { s.loop with
              receiver := .away, running := true, haltRequested := false
              epoch := s.loop.epoch + 1 }
            post := .numbered (s.loop.epoch + 1) },
          [.started (s.loop.epoch + 1)])
  | begun {n : Nat} (thread : Thread) (post : s.post = .numbered n) :
      Operated s ({ s with loop := (s.loop.begin thread).state, post := .ready n }, [])
  | abandoned {n : Nat} (post : s.post = .ready n) (policy : s.loop.policy.onHalt = .abandon)
      (asked : s.loop.haltRequested = true) : Operated s (s.leave (.ok ()))
  | waiting {n : Nat} (post : s.post = .ready n) (empty : s.loop.queue = []) : Operated s (s, [])
  | met {n : Nat} {q : List (Message π)} (post : s.post = .ready n)
      (head : s.loop.queue = .halt s.loop.epoch :: q) : Operated s ((s.after q).leave (.ok ()))
  | skipped {n m : Nat} {q : List (Message π)} (post : s.post = .ready n)
      (head : s.loop.queue = .halt m :: q) (other : m ≠ s.loop.epoch) :
      Operated s (s.after q, [])
  | taken {n : Nat} {e : Event π} {q : List (Message π)} (post : s.post = .ready n)
      (go : ¬(s.loop.policy.onHalt = .abandon ∧ s.loop.haltRequested = true))
      (head : s.loop.queue = .event e :: q) :
      Operated s
        ({ s with
            loop := { s.loop with queue := q, pending := s.loop.pending - 1 }
            post := .holding n e },
          [.dispatched e])
  | called {n : Nat} {e : Event π} (post : s.post = .holding n e)
      (known : s.loop.hasHandler e.name = true) :
      Operated s ({ s with post := .handling n e }, [])
  | succeeded {n : Nat} {e : Event π} (post : s.post = .handling n e) :
      Operated s ({ s with post := .ready n }, [])
  | reported {n : Nat} {e : Event π} {f : Fault} (fails : Fails s n e f)
      (policy : s.loop.policy.onFailure = .reportAndContinue) :
      Operated s ({ s with post := .ready n }, [.failed e f])
  | propagated {n : Nat} {e : Event π} {f : Fault} (fails : Fails s n e f)
      (policy : s.loop.policy.onFailure = .propagate) :
      Operated s ((s.leave (.error f)).1, [.failed e f, .ended (.error f)])

theorem operated_enqueue (s : Station π) (p : Nat) (e : Event π) : Operated s (s.enqueue p e) := by
  unfold enqueue EventLoop.enqueue EventLoop.send
  cases there : s.loop.isOpen with
  | true =>
      have present : s.loop.announce.isOpen = true := there
      simp only [present, if_true]
      exact .enqueued p e there
  | false =>
      have gone : s.loop.announce.isOpen = false := there
      have same : s.loop.announce.withdraw = s.loop := rfl
      simp only [gone, Bool.false_eq_true, if_false, same]
      exact .rejected p e there

theorem halt_idle {s : Station π} (idle : s.loop.running = false) : s.halt = (s, [.halted false]) := by
  unfold halt EventLoop.halt
  rw [if_pos idle]

theorem halt_again {s : Station π} (running : s.loop.running = true)
    (again : s.loop.haltRequested = true) : s.halt = (s, [.halted true]) := by
  have same : s.loop.requestHalt = (s.loop, false) := by
    unfold EventLoop.requestHalt
    rw [again, Bool.not_true, ← again]
  unfold halt EventLoop.halt
  rw [if_neg (by simp [running]), same]
  rfl

theorem operated_halt (s : Station π) : Operated s s.halt := by
  cases running : s.loop.running with
  | false =>
      rw [halt_idle running]
      exact .haltedNothing running
  | true =>
      by_cases again : s.loop.haltRequested = true
      · rw [halt_again running again]
        exact .haltedAgain running again
      · have first : s.loop.haltRequested = false := by simpa using again
        have flagged : s.loop.requestHalt = ({ s.loop with haltRequested := true }, true) := by
          unfold EventLoop.requestHalt
          rw [first, Bool.not_false]
        unfold halt EventLoop.halt
        rw [if_neg (by simp [running]), flagged]
        simp only [if_true, EventLoop.sendHalt, EventLoop.send]
        by_cases there : s.loop.isOpen = true
        · have present : ({ s.loop with haltRequested := true } : EventLoop π).isOpen = true :=
            there
          simp only [present, if_true]
          exact .halted running first there
        · have gone : ¬({ s.loop with haltRequested := true } : EventLoop π).isOpen = true := there
          simp only [gone]
          exact .haltedLost running first (by simpa using there)

theorem operated_register (s : Station π) (name : String) : Operated s (s.register name) := by
  rcases s.register_cases name with ⟨missing, same⟩ | ⟨known, same⟩
  · rw [same]
    exact .registered name missing
  · rw [same]
    exact .registeredTwice name known

theorem start_idle {s : Station π} (idle : s.loop.running = false)
    (home : s.loop.receiver = .home) :
    s.start =
      ({ s with
          loop := { s.loop with
            receiver := .away, running := true, haltRequested := false
            epoch := s.loop.epoch + 1 }
          post := .numbered (s.loop.epoch + 1) },
        [.started (s.loop.epoch + 1)]) := by
  unfold start EventLoop.claim EventLoop.takeReceiver
  rw [idle, home]
  rfl

theorem operated_start (s : Station π) : Operated s s.start := by
  rcases takeReceiver_cases s.loop with ⟨idle, home, -⟩ | ⟨f, refused⟩
  · rw [start_idle idle home]
    exact .started idle home
  · have claimed : s.loop.claim = .error f := by
      rw [EventLoop.claim, refused]
      rfl
    rw [start, claimed]
    exact .refused f claimed

theorem operated_turn {s : Station π} {n : Nat} (post : s.post = .ready n) :
    Operated s (s.turn n) := by
  unfold turn EventLoop.turn EventLoop.receive
  by_cases stop : s.loop.policy.onHalt = .abandon ∧ s.loop.haltRequested = true
  · rw [if_pos stop]
    exact .abandoned post stop.1 stop.2
  · rw [if_neg stop]
    cases head : s.loop.queue with
    | nil => exact .waiting post head
    | cons m q =>
        cases m with
        | event e => exact .taken post stop head
        | halt k =>
            by_cases own : k = s.loop.epoch
            · simp only [own, if_true]
              exact .met post (own ▸ head)
            · simp only [own, if_false]
              exact .skipped post head own

theorem operated_giveUp {s : Station π} {n : Nat} {e : Event π} {f : Fault} (fails : Fails s n e f) :
    Operated s (s.giveUp n e f) := by
  unfold giveUp EventLoop.afterFailure
  cases policy : s.loop.policy.onFailure with
  | reportAndContinue => exact .reported fails policy
  | propagate => exact .propagated fails policy

theorem operated_call {s : Station π} {n : Nat} {e : Event π} (post : s.post = .holding n e) :
    Operated s (s.call n e) := by
  unfold call
  cases known : s.loop.hasHandler e.name with
  | true => exact .called post known
  | false => exact operated_giveUp (.unknown post known)

theorem operated_comeBack {s : Station π} {n : Nat} {e : Event π} (post : s.post = .handling n e)
    (v : Verdict) : Operated s (s.comeBack n e v) := by
  unfold comeBack
  cases fault : v.fault? e.name with
  | none => exact .succeeded post
  | some f => exact operated_giveUp (.handler v post fault)

theorem operated_of_operate {s : Station π} {o : Operation π} {p : Station π × List (Notice π)}
    (h : s.operate o = some p) : Operated s p := by
  unfold operate at h
  split at h
  · next q e => exact Option.some.inj h ▸ operated_enqueue s q e
  · exact Option.some.inj h ▸ operated_halt s
  · next name => exact Option.some.inj h ▸ operated_register s name
  · exact Option.some.inj h ▸ operated_start s
  · next thread n post => exact Option.some.inj h ▸ .begun thread post
  · next n post => exact Option.some.inj h ▸ operated_turn post
  · next n e post => exact Option.some.inj h ▸ operated_call post
  · next v n e post => exact Option.some.inj h ▸ operated_comeBack post v
  · cases h

theorem operations_invariant {P : Station π → List (Notice π) → Prop}
    (keep : ∀ {s before p}, P s before → Operated s p → P p.1 (before ++ p.2))
    {os : List (Operation π)} {s t : Station π} {before log : List (Notice π)}
    (h : s.operations os = some (t, log)) (hs : P s before) : P t (before ++ log) := by
  refine runWith_invariant (P := P) ?_ h hs
  intro u before o v es hu hstep
  exact keep hu (operated_of_operate hstep)

end Station

end CallBridge
