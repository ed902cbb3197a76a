import CallBridge.EventLoop
import CallBridge.Proofs.Run
import CallBridge.Table

/-!
# Stations: a loop, its consumer and the threads around it

Any number of threads enqueue events, ask for a stop, register handlers and try to start a run; one
consumer at a time takes turns. What they do together is a list of accesses to the state of the
loop, in the order in which these take effect: an operation that takes several accesses may be
interrupted between any two of them.

A station is a loop with what each thread is in the middle of and how far the consumer is. What a
handler does is not described by anything: while it runs any access may come, also one of the
consumer's own thread, and it comes back in any way. A run is taken to find its consumer, whether
that is the thread that asked for the run or one of its own.
-/

namespace CallBridge

namespace Station

/-- How a handler comes back. -/
inductive Verdict where
  | succeeded
  | failed (message : String)
  | panicked (text : Option String)
deriving DecidableEq, Repr

/-- The failure of the handler of `event`, if it failed. -/
def Verdict.fault? (event : String) : Verdict → Option Fault
  | succeeded => none
  | failed message => some (.handlerFailed event message)
  | panicked text => some (.handlerFailed event ("panicked: " ++ text.getD "unknown panic"))

inductive Errand (π : Type) where
  | counted (e : Event π)
  | bounced (e : Event π)
  | sawRun
  | raised
deriving DecidableEq, Repr

/-- How far the consumer is. It knows the number of its run. -/
inductive Post (π : Type) where
  | vacant
  | taken
  | lowered
  /-- The run has its number; its consumer has yet to begin. -/
  | numbered (run : Nat)
  | ready (run : Nat)
  | looked (run : Nat)
  /-- An event was taken off the queue and still counts as pending. -/
  | received (run : Nat) (e : Event π)
  | holding (run : Nat) (e : Event π)
  | handling (run : Nat) (e : Event π)
  | ending (result : Except Fault Unit)
  | signedOff (result : Except Fault Unit)
  | handedBack (result : Except Fault Unit)
  | cleared (result : Except Fault Unit)

namespace Post

variable {π : Type}

/-- The event that was taken off the queue and not dispatched yet. -/
def inHand : Post π → List (Event π)
  | received _ e | holding _ e => [e]
  | _ => []

/-- The number of the run that has begun or is about to, until it is over. -/
def run? : Post π → Option Nat
  | numbered n | ready n | looked n | received n _ | holding n _ | handling n _ => some n
  | vacant | taken | lowered | ending _ | signedOff _ | handedBack _ | cleared _ => none

end Post

/-- One access that belongs to an operation of some thread. -/
inductive Chore (π : Type) where
  | announce (e : Event π)
  | send
  | withdraw
  | askHalt
  | raise
  | sendMarker
deriving DecidableEq, Repr

/-- One access of the consumer, or of the thread that has taken the receiver for it. -/
inductive Beat where
  | lowerFlag
  | takeNumber
  | begin (thread : Thread)
  | look
  | receive
  | countDown
  | dispatch
  | settle (v : Verdict)
  | signOff
  | handBack
  | clear
  | rest
deriving DecidableEq, Repr

inductive Access (π : Type) where
  | thread (p : Nat) (c : Chore π)
  | register (name : String)
  | takeReceiver
  | consumer (b : Beat)
deriving DecidableEq, Repr

/-- What can be seen of a station: calls and answers of the threads' operations, events that are
dispatched, handlers that fail, and runs that begin and end. -/
inductive Notice (π : Type) where
  | enqueueing (thread : Nat) (e : Event π)
  | accepted (thread : Nat) (e : Event π)
  | rejected (thread : Nat) (e : Event π)
  | halted (answer : Bool)
  | registered (name : String) (answer : Except Fault Unit)
  | started (run : Nat)
  | refused (fault : Fault)
  | dispatched (e : Event π)
  | failed (e : Event π) (fault : Fault)
  | ended (result : Except Fault Unit)

end Station

/-- A loop, how far its consumer is, and what each thread is in the middle of. -/
structure Station (π : Type) where
  loop : EventLoop π
  post : Station.Post π := .vacant
  errands : Table Nat (Station.Errand π) := {}

namespace Station

variable {π : Type}

/-- A loop that nobody has used yet. -/
def fresh (policy : LoopPolicy) : Station π where
  loop := { policy }

/-! ## Accesses of any thread -/

def send (s : Station π) (thread : Nat) (e : Event π) : Station π × List (Notice π) :=
  match s.loop.send (.event e) with
  | some loop => ({ s with loop, errands := s.errands.erase thread }, [.accepted thread e])
  | none => ({ s with errands := s.errands.insert thread (.bounced e) }, [])

def askHalt (s : Station π) (thread : Nat) : Station π × List (Notice π) :=
  if s.loop.running then ({ s with errands := s.errands.insert thread .sawRun }, [])
  else (s, [.halted false])

/-- A request that is not the first one of its run is answered at once. -/
def raiseFlag (s : Station π) (thread : Nat) : Station π × List (Notice π) :=
  let (loop, first) := s.loop.requestHalt
  if first then ({ s with loop, errands := s.errands.insert thread .raised }, [])
  else ({ s with loop, errands := s.errands.erase thread }, [.halted true])

def sendMarker (s : Station π) (thread : Nat) : Station π × List (Notice π) :=
  let (loop, sent) := s.loop.sendHalt
  ({ s with loop, errands := s.errands.erase thread }, [.halted sent])

def register (s : Station π) (name : String) : Station π × List (Notice π) :=
  let o := s.loop.register name
  ({ s with loop := o.state }, [.registered name o.answer])

def takeReceiver (s : Station π) : Station π × List (Notice π) :=
  match s.loop.takeReceiver with
  | .ok loop => ({ s with loop, post := .taken }, [])
  | .error f => (s, [.refused f])

/-! ## Accesses of the consumer -/

/-- The first access of a turn: only under the abandon policy does the flag end the run. -/
def look (s : Station π) (run : Nat) : Station π :=
  if s.loop.policy.onHalt = .abandon ∧ s.loop.haltRequested = true then
    { s with post := .ending (.ok ()) }
  else { s with post := .looked run }

/-- The second access of a turn, unless the queue is empty. -/
def receive (s : Station π) (run : Nat) : Option (Station π) :=
  match s.loop.receive with
  | none => none
  | some (.halt n, loop) =>
    some { s with loop, post := if n = run then .ending (.ok ()) else .ready run }
  | some (.event e, loop) => some { s with loop, post := .received run e }

/-- What follows a failed dispatch. -/
def fail (s : Station π) (run : Nat) (e : Event π) (f : Fault) : Station π × List (Notice π) :=
  match (s.loop.afterFailure f).1 with
  | some f' => ({ s with post := .ending (.error f') }, [.failed e f])
  | none => ({ s with post := .ready run }, [.failed e f])

def dispatch (s : Station π) (run : Nat) (e : Event π) : Station π × List (Notice π) :=
  if s.loop.hasHandler e.name then ({ s with post := .handling run e }, [.dispatched e])
  else
    let o := s.fail run e (.unknownEvent e.name)
    (o.1, .dispatched e :: o.2)

def settle (s : Station π) (run : Nat) (e : Event π) (v : Verdict) :
    Station π × List (Notice π) :=
  match v.fault? e.name with
  | none => ({ s with post := .ready run }, [])
  | some f => s.fail run e f

/-! ## Accesses one after another -/

def chore (s : Station π) (p : Nat) :
    Option (Errand π) → Chore π → Option (Station π × List (Notice π))
  | none, .announce e => some
      ({ s with loop := s.loop.announce, errands := s.errands.insert p (.counted e) },
        [.enqueueing p e])
  | some (.counted e), .send => some (s.send p e)
  | some (.bounced e), .withdraw => some
      ({ s with loop := s.loop.withdraw, errands := s.errands.erase p }, [.rejected p e])
  | none, .askHalt => some (s.askHalt p)
  | some .sawRun, .raise => some (s.raiseFlag p)
  | some .raised, .sendMarker => some (s.sendMarker p)
  | _, _ => none

def beat (s : Station π) : Post π → Beat → Option (Station π × List (Notice π))
  | .taken, .lowerFlag => some ({ s with loop := s.loop.clearHalt, post := .lowered }, [])
  | .lowered, .takeNumber =>
    let loop := s.loop.nextEpoch
    some ({ s with loop, post := .numbered loop.epoch }, [.started loop.epoch])
  | .numbered n, .begin thread =>
    some ({ s with loop := (s.loop.begin thread).state, post := .ready n }, [])
  | .ready n, .look => some (s.look n, [])
  | .looked n, .receive => (s.receive n).map (·, [])
  | .received n e, .countDown =>
    some ({ s with loop := s.loop.countDown, post := .holding n e }, [])
  | .holding n e, .dispatch => some (s.dispatch n e)
  | .handling n e, .settle v => some (s.settle n e v)
  | .ending r, .signOff =>
    some ({ s with loop := { s.loop with consumer := none }, post := .signedOff r }, [])
  | .signedOff r, .handBack =>
    some ({ s with loop := { s.loop with receiver := .home }, post := .handedBack r }, [])
  | .handedBack r, .clear => some ({ s with loop := s.loop.clearHalt, post := .cleared r }, [])
  | .cleared r, .rest =>
    some ({ s with loop := { s.loop with running := false }, post := .vacant }, [.ended r])
  | _, _ => none

def step (s : Station π) : Access π → Option (Station π × List (Notice π))
  | .thread p c => s.chore p (s.errands.find? p) c
  | .register name => some (s.register name)
  | .takeReceiver => some s.takeReceiver
  | .consumer b => s.beat s.post b

def run (s : Station π) (as : List (Access π)) : Option (Station π × List (Notice π)) :=
  runWith step s as

/-! ## What an access can come to -/

inductive Accessed (s : Station π) : Station π × List (Notice π) → Prop where
  | announced (p : Nat) (e : Event π) (free : s.errands.find? p = none) :
      Accessed s
        ({ s with loop := s.loop.announce, errands := s.errands.insert p (.counted e) },
          [.enqueueing p e])
  | sent {p : Nat} {e : Event π} (counted : s.errands.find? p = some (.counted e))
      (there : s.loop.isOpen = true) :
      Accessed s
        ({ s with
            loop := { s.loop with queue := s.loop.queue ++ [.event e] }
            errands := s.errands.erase p },
          [.accepted p e])
  | bounced {p : Nat} {e : Event π} (counted : s.errands.find? p = some (.counted e))
      (gone : s.loop.isOpen = false) :
      Accessed s ({ s with errands := s.errands.insert p (.bounced e) }, [])
  | withdrawn {p : Nat} {e : Event π} (bounced : s.errands.find? p = some (.bounced e)) :
      Accessed s
        ({ s with loop := s.loop.withdraw, errands := s.errands.erase p }, [.rejected p e])
  | sawNoRun (p : Nat) (free : s.errands.find? p = none) (idle : s.loop.running = false) :
      Accessed s (s, [.halted false])
  | sawRun (p : Nat) (free : s.errands.find? p = none) (running : s.loop.running = true) :
      Accessed s ({ s with errands := s.errands.insert p .sawRun }, [])
  | raised {p : Nat} (saw : s.errands.find? p = some .sawRun)
      (first : s.loop.haltRequested = false) :
      Accessed s
        ({ s with
            loop := { s.loop with haltRequested := true }
            errands := s.errands.insert p .raised },
          [])
  | raisedAgain {p : Nat} (saw : s.errands.find? p = some .sawRun)
      (again : s.loop.haltRequested = true) :
      Accessed s ({ s with errands := s.errands.erase p }, [.halted true])
  | marked {p : Nat} (raised : s.errands.find? p = some .raised)
      (there : s.loop.isOpen = true) :
      Accessed s
        ({ s with
            loop := { s.loop with queue := s.loop.queue ++ [.halt s.loop.epoch] }
            errands := s.errands.erase p },
          [.halted true])
  | markedNothing {p : Nat} (raised : s.errands.find? p = some .raised)
      (gone : s.loop.isOpen = false) :
      Accessed s ({ s with errands := s.errands.erase p }, [.halted false])
  | registered (name : String) (missing : s.loop.hasHandler name = false) :
      Accessed s
        ({ s with loop := { s.loop with handlers := s.loop.handlers ++ [name] } },
          [.registered name (.ok ())])
  | registeredTwice (name : String) (known : s.loop.hasHandler name = true) :
      Accessed s (s, [.registered name (.error (.duplicateHandler name))])
  | refused (f : Fault) (why : s.loop.takeReceiver = .error f) : Accessed s (s, [.refused f])
  | took (idle : s.loop.running = false) (home : s.loop.receiver = .home) :
      Accessed s
        ({ s with loop := { s.loop with receiver := .away, running := true }, post := .taken }, [])
  | lowered (post : s.post = .taken) :
      Accessed s ({ s with loop := s.loop.clearHalt, post := .lowered }, [])
  | numbered (post : s.post = .lowered) :
      Accessed s
        ({ s with loop := s.loop.nextEpoch, post := .numbered (s.loop.epoch + 1) },
          [.started (s.loop.epoch + 1)])
  | begun {n : Nat} (thread : Thread) (post : s.post = .numbered n) :
      Accessed s ({ s with loop := (s.loop.begin thread).state, post := .ready n }, [])
  | lookedUp {n : Nat} (post : s.post = .ready n)
      (abandon : s.loop.policy.onHalt = .abandon) (asked : s.loop.haltRequested = true) :
      Accessed s ({ s with post := .ending (.ok ()) }, [])
  | looked {n : Nat} (post : s.post = .ready n)
      (go : ¬(s.loop.policy.onHalt = .abandon ∧ s.loop.haltRequested = true)) :
      Accessed s ({ s with post := .looked n }, [])
  | met {n : Nat} {q : List (Message π)} (post : s.post = .looked n)
      (head : s.loop.queue = .halt n :: q) :
      Accessed s ({ s with loop := { s.loop with queue := q }, post := .ending (.ok ()) }, [])
  | skipped {n m : Nat} {q : List (Message π)} (post : s.post = .looked n)
      (head : s.loop.queue = .halt m :: q) (other : m ≠ n) :
      Accessed s ({ s with loop := { s.loop with queue := q }, post := .ready n }, [])
  | received {n : Nat} {e : Event π} {q : List (Message π)} (post : s.post = .looked n)
      (head : s.loop.queue = .event e :: q) :
      Accessed s ({ s with loop := { s.loop with queue := q }, post := .received n e }, [])
  | countedDown {n : Nat} {e : Event π} (post : s.post = .received n e) :
      Accessed s ({ s with loop := s.loop.countDown, post := .holding n e }, [])
  | dispatched {n : Nat} {e : Event π} (post : s.post = .holding n e) :
      Accessed s (s.dispatch n e)
  | settled {n : Nat} {e : Event π} (v : Verdict) (post : s.post = .handling n e) :
      Accessed s (s.settle n e v)
  | signedOff {r : Except Fault Unit} (post : s.post = .ending r) :
      Accessed s ({ s with loop := { s.loop with consumer := none }, post := .signedOff r }, [])
  | handedBack {r : Except Fault Unit} (post : s.post = .signedOff r) :
      Accessed s ({ s with loop := { s.loop with receiver := .home }, post := .handedBack r }, [])
  | cleared {r : Except Fault Unit} (post : s.post = .handedBack r) :
      Accessed s ({ s with loop := s.loop.clearHalt, post := .cleared r }, [])
  | rested {r : Except Fault Unit} (post : s.post = .cleared r) :
      Accessed s ({ s with loop := { s.loop with running := false }, post := .vacant }, [.ended r])

theorem accessed_send {s : Station π} {p : Nat} {e : Event π}
    (counted : s.errands.find? p = some (.counted e)) : Accessed s (s.send p e) := by
  unfold send EventLoop.send
  cases there : s.loop.isOpen with
  | true => exact .sent counted there
  | false => exact .bounced counted there

theorem accessed_askHalt {s : Station π} {p : Nat} (free : s.errands.find? p = none) :
    Accessed s (s.askHalt p) := by
  unfold askHalt
  cases running : s.loop.running with
  | true => exact .sawRun p free running
  | false => exact .sawNoRun p free running

theorem accessed_raiseFlag {s : Station π} {p : Nat} (saw : s.errands.find? p = some .sawRun) :
    Accessed s (s.raiseFlag p) := by
  unfold raiseFlag EventLoop.requestHalt
  cases asked : s.loop.haltRequested with
  | false => exact .raised saw asked
  | true =>
      have same : { s.loop with haltRequested := true } = s.loop := by rw [← asked]
      simp only [Bool.not_true, Bool.false_eq_true, if_false, same]
      exact .raisedAgain saw asked

theorem accessed_sendMarker {s : Station π} {p : Nat} (raised : s.errands.find? p = some .raised) :
    Accessed s (s.sendMarker p) := by
  unfold sendMarker EventLoop.sendHalt EventLoop.send
  cases there : s.loop.isOpen with
  | true => exact .marked raised there
  | false => exact .markedNothing raised there

theorem register_cases (s : Station π) (name : String) :
    (s.loop.hasHandler name = false ∧ s.register name =
      ({ s with loop := { s.loop with handlers := s.loop.handlers ++ [name] } },
        [.registered name (.ok ())])) ∨
    (s.loop.hasHandler name = true ∧ s.register name =
      (s, [.registered name (.error (.duplicateHandler name))])) := by
  unfold register EventLoop.register
  cases known : s.loop.hasHandler name with
  | true => exact .inr ⟨rfl, rfl⟩
  | false => exact .inl ⟨rfl, rfl⟩

theorem accessed_register (s : Station π) (name : String) : Accessed s (s.register name) := by
  rcases s.register_cases name with ⟨missing, same⟩ | ⟨known, same⟩
  · rw [same]
    exact .registered name missing
  · rw [same]
    exact .registeredTwice name known

/-- The receiver is taken when it is in its place and nobody runs the loop. -/
theorem takeReceiver_cases (l : EventLoop π) :
    (l.running = false ∧ l.receiver = .home ∧
      l.takeReceiver = .ok { l with receiver := .away, running := true }) ∨
    ∃ f, l.takeReceiver = .error f := by
  unfold EventLoop.takeReceiver
  by_cases running : l.running = true
  · rw [if_pos running]
    exact .inr ⟨_, rfl⟩
  · rw [if_neg running]
    cases receiver : l.receiver with
    | home => exact .inl ⟨by simpa using running, rfl, rfl⟩
    | away | lost => exact .inr ⟨_, rfl⟩

theorem accessed_takeReceiver (s : Station π) : Accessed s s.takeReceiver := by
  rcases takeReceiver_cases s.loop with ⟨idle, home, taken⟩ | ⟨f, refused⟩
  · rw [takeReceiver, taken]
    exact .took idle home
  · rw [takeReceiver, refused]
    exact .refused f refused

theorem accessed_look {s : Station π} {n : Nat} (post : s.post = .ready n) :
    Accessed s (s.look n, []) := by
  unfold look
  split
  · next stop => exact .lookedUp post stop.1 stop.2
  · next go => exact .looked post go

theorem accessed_receive {s t : Station π} {n : Nat} (post : s.post = .looked n)
    (h : s.receive n = some t) : Accessed s (t, []) := by
  unfold receive EventLoop.receive at h
  cases head : s.loop.queue with
  | nil => simp [head] at h
  | cons m q =>
      cases m with
      | event e =>
          have same : t = { s with loop := { s.loop with queue := q }, post := .received n e } := by
            simpa [head] using h.symm
          rw [same]
          exact .received post head
      | halt k =>
          have same : t = { s with
              loop := { s.loop with queue := q }
              post := if k = n then .ending (.ok ()) else .ready n } := by
            simpa [head] using h.symm
          rw [same]
          by_cases own : k = n
          · rw [if_pos own]
            exact .met post (own ▸ head)
          · rw [if_neg own]
            exact .skipped post head own

theorem accessed_chore {s : Station π} {q : Nat} {c : Chore π} {x : Option (Errand π)}
    {p : Station π × List (Notice π)} (found : s.errands.find? q = x)
    (h : s.chore q x c = some p) : Accessed s p := by
  unfold chore at h
  split at h
  · next e => exact Option.some.inj h ▸ .announced q e found
  · next e => exact Option.some.inj h ▸ accessed_send found
  · next e => exact Option.some.inj h ▸ .withdrawn found
  · exact Option.some.inj h ▸ accessed_askHalt found
  · exact Option.some.inj h ▸ accessed_raiseFlag found
  · exact Option.some.inj h ▸ accessed_sendMarker found
  · cases h

theorem accessed_beat {s : Station π} {b : Beat} {x : Post π} {p : Station π × List (Notice π)}
    (post : s.post = x) (h : s.beat x b = some p) : Accessed s p := by
  unfold beat at h
  split at h
  · exact Option.some.inj h ▸ .lowered post
  · exact Option.some.inj h ▸ .numbered post
  · next thread => exact Option.some.inj h ▸ .begun thread post
  · exact Option.some.inj h ▸ accessed_look post
  · obtain ⟨t, received, rfl⟩ := Option.map_eq_some_iff.mp h
    exact accessed_receive post received
  · exact Option.some.inj h ▸ .countedDown post
  · exact Option.some.inj h ▸ .dispatched post
  · next v => exact Option.some.inj h ▸ .settled v post
  · exact Option.some.inj h ▸ .signedOff post
  · exact Option.some.inj h ▸ .handedBack post
  · exact Option.some.inj h ▸ .cleared post
  · exact Option.some.inj h ▸ .rested post
  · cases h

theorem accessed_of_step {s : Station π} {a : Access π} {p : Station π × List (Notice π)}
    (h : s.step a = some p) : Accessed s p := by
  cases a with
  | thread q c => exact accessed_chore rfl h
  | register name => exact Option.some.inj h ▸ accessed_register s name
  | takeReceiver => exact Option.some.inj h ▸ accessed_takeReceiver s
  | consumer b => exact accessed_beat rfl h

theorem run_invariant {P : Station π → List (Notice π) → Prop}
    (keep : ∀ {s before p}, P s before → Accessed s p → P p.1 (before ++ p.2))
    {as : List (Access π)} {s t : Station π} {before log : List (Notice π)}
    (h : s.run as = some (t, log)) (hs : P s before) : P t (before ++ log) := by
  refine runWith_invariant (P := P) ?_ h hs
  intro u before a v es hu hstep
  exact keep hu (accessed_of_step hstep)

/-! ## What is touched by the end of a dispatch -/

theorem fail_quiet (s : Station π) (n : Nat) (e : Event π) (f : Fault) :
    (s.fail n e f).1.loop = s.loop ∧ (s.fail n e f).1.errands = s.errands ∧
      (s.fail n e f).1.post.inHand = [] ∧ (s.fail n e f).2 = [.failed e f] := by
  unfold fail
  split <;> exact ⟨rfl, rfl, rfl, rfl⟩

theorem dispatch_quiet (s : Station π) (n : Nat) (e : Event π) :
    (s.dispatch n e).1.loop = s.loop ∧ (s.dispatch n e).1.errands = s.errands ∧
      (s.dispatch n e).1.post.inHand = [] ∧
      ((s.dispatch n e).2 = [.dispatched e] ∨
        (s.dispatch n e).2 = [.dispatched e, .failed e (.unknownEvent e.name)]) := by
  unfold dispatch
  split
  · exact ⟨rfl, rfl, rfl, .inl rfl⟩
  · obtain ⟨loop, errands, hand, es⟩ := s.fail_quiet n e (.unknownEvent e.name)
    exact ⟨loop, errands, hand, .inr (congrArg (Notice.dispatched e :: ·) es)⟩

theorem settle_quiet (s : Station π) (n : Nat) (e : Event π) (v : Verdict) :
    (s.settle n e v).1.loop = s.loop ∧ (s.settle n e v).1.errands = s.errands ∧
      (s.settle n e v).1.post.inHand = [] ∧
      ((s.settle n e v).2 = [] ∨ ∃ f, (s.settle n e v).2 = [.failed e f]) := by
  unfold settle
  split
  · exact ⟨rfl, rfl, rfl, .inl rfl⟩
  · next f _ =>
      obtain ⟨loop, errands, hand, es⟩ := s.fail_quiet n e f
      exact ⟨loop, errands, hand, .inr ⟨f, es⟩⟩

/-! ## One consumer at a time -/

/-- A consumer is at work only while the loop counts as running. -/
def Manned (s : Station π) : Prop := s.loop.running = false → s.post = .vacant

theorem manned_fresh (policy : LoopPolicy) : Manned (fresh policy : Station π) := fun _ => rfl

theorem manned_accessed {s : Station π} {p : Station π × List (Notice π)} (h : s.Manned)
    (ha : Accessed s p) : p.1.Manned := by
  have busy : s.post ≠ .vacant → ¬s.loop.running = false := by
    intro other idle
    exact other (h idle)
  cases ha with
  | took => exact fun idle => nomatch idle
  | rested => exact fun _ => rfl
  | @dispatched n e post =>
      obtain ⟨loop, -⟩ := s.dispatch_quiet n e
      intro idle
      rw [loop] at idle
      exact absurd idle (busy (by simp [post]))
  | @settled n e v post =>
      obtain ⟨loop, -⟩ := s.settle_quiet n e v
      intro idle
      rw [loop] at idle
      exact absurd idle (busy (by simp [post]))
  | lowered post | numbered post | begun thread post | lookedUp post | looked post | met post
  | skipped post | received post | countedDown post | signedOff post | handedBack post
  | cleared post => exact fun idle => absurd idle (busy (by simp [post]))
  | announced | sent | bounced | withdrawn | sawNoRun | sawRun | raised | raisedAgain | marked
  | markedNothing | registered | registeredTwice | refused => exact h

end Station

end CallBridge
