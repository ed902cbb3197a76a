import CallBridge.Proofs.Loop.Operations

/-!
# Solo runs

When nobody but its own handlers touches a loop, a run goes one way only. The queue it begins with
and what the handlers do decide every turn, as long as what a handler does depends on nothing but
the event and what the same handler was called with before.

A solo run takes one turn after another until it is over; a turn that meets an empty queue changes
nothing, and so does every later one. It is a run of the station in which the operations of the
consumer and of its handlers are the only ones.
-/

namespace CallBridge

namespace Solo

variable {π : Type}

/-- What a handler can do to the loop that calls it. -/
inductive Deed (π : Type) where
  | enqueue (e : Event π)
  | halt
deriving DecidableEq, Repr

/-- One invocation of a handler: what it does, and how it comes back. -/
structure Reaction (π : Type) where
  deeds : List (Deed π) := []
  verdict : Station.Verdict := .succeeded
deriving DecidableEq, Repr

/-- The handlers by name. Each is given the events it was called with before, and the next one. -/
abbrev Repertoire (π : Type) := String → Option (List (Event π) → Event π → Reaction π)

/-- What can be seen of a run: what is dispatched, what handlers do, what fails, the lines that the
loop logs, and the end. -/
inductive Sight (π : Type) where
  | refused (fault : Fault)
  | dispatched (e : Event π)
  | enqueued (e : Event π) (answer : Except Fault Unit)
  | halted (answer : Bool)
  | failed (e : Event π) (fault : Fault)
  | logged (line : Line)
  | ended (result : Except Fault Unit)

namespace Repertoire

def reaction? (h : Repertoire π) (past : List (Event π)) (e : Event π) : Option (Reaction π) :=
  (h e.name).map fun handler => handler (past.filter (·.name = e.name)) e

/-- What the dispatch of an event does to the loop. Without a handler that is nothing. -/
def deeds (h : Repertoire π) (past : List (Event π)) (e : Event π) : List (Deed π) :=
  ((h.reaction? past e).map Reaction.deeds).getD []

def fault? (h : Repertoire π) (past : List (Event π)) (e : Event π) : Option Fault :=
  match h.reaction? past e with
  | some r => r.verdict.fault? e.name
  | none => some (.unknownEvent e.name)

end Repertoire

def Deed.perform (l : EventLoop π) : Deed π → EventLoop π × List (Sight π)
  | .enqueue e =>
    let o := l.enqueue e
    (o.state, .enqueued e o.answer :: o.lines.map .logged)
  | .halt =>
    let o := l.halt
    (o.state, .halted o.answer :: o.lines.map .logged)

def performAll (l : EventLoop π) : List (Deed π) → EventLoop π × List (Sight π)
  | [] => (l, [])
  | d :: ds =>
    let (l, seen) := d.perform l
    let (l, more) := performAll l ds
    (l, seen ++ more)

end Solo

/-- A run that only its handlers touch. -/
structure Solo (π : Type) where
  loop : EventLoop π
  past : List (Event π) := []
  result : Option (Except Fault Unit) := none

namespace Solo

variable {π : Type}

/-! ## Turns -/

def leave (s : Solo π) (result : Except Fault Unit) : Solo π × List (Sight π) :=
  let o := s.loop.finish
  ({ s with loop := o.state, result := some result }, o.lines.map .logged ++ [.ended result])

def call (h : Repertoire π) (s : Solo π) (e : Event π) : Solo π × List (Sight π) :=
  let (loop, seen) := performAll s.loop (h.deeds s.past e)
  ({ s with loop, past := s.past ++ [e] }, .dispatched e :: seen)

def settle (s : Solo π) (e : Event π) : Option Fault → Solo π × List (Sight π)
  | none => (s, [])
  | some f =>
    let (stop, lines) := s.loop.afterFailure f
    match stop with
    | none => (s, .failed e f :: lines.map .logged)
    | some f' =>
      ((s.leave (.error f')).1, .failed e f :: lines.map .logged ++ (s.leave (.error f')).2)

def dispatch (h : Repertoire π) (s : Solo π) (e : Event π) : Solo π × List (Sight π) :=
  let (t, seen) := s.call h e
  let (u, more) := t.settle e (h.fault? s.past e)
  (u, seen ++ more)

/-- The consumer looks whether it is to stop, takes the next message and, if that is an event,
dispatches it. -/
def turn (h : Repertoire π) (s : Solo π) : Solo π × List (Sight π) :=
  match s.loop.turn with
  | (loop, .stop) => { s with loop }.leave (.ok ())
  | (loop, .wait) | (loop, .skip) => ({ s with loop }, [])
  | (loop, .dispatch e) => { s with loop }.dispatch h e

def round (h : Repertoire π) (s : Solo π) : Solo π × List (Sight π) :=
  if s.result.isSome then (s, []) else s.turn h

def rounds (h : Repertoire π) (s : Solo π) : Nat → Solo π × List (Sight π)
  | 0 => (s, [])
  | n + 1 =>
    let (t, log) := s.rounds h n
    let (u, more) := t.round h
    (u, log ++ more)

theorem rounds_succ (h : Repertoire π) (s : Solo π) (n : Nat) :
    s.rounds h (n + 1) = (((s.rounds h n).1.round h).1,
      (s.rounds h n).2 ++ ((s.rounds h n).1.round h).2) :=
  rfl

/-- A run of the loop on a thread, observed for so many turns. -/
def run (h : Repertoire π) (thread : Thread) (l : EventLoop π) (n : Nat) :
    Solo π × List (Sight π) :=
  match l.claim with
  | .error f => ({ loop := l, result := some (.error f) }, [.refused f])
  | .ok l =>
    let o := l.begin thread
    let (s, log) := ({ loop := o.state } : Solo π).rounds h n
    (s, o.lines.map .logged ++ log)

/-! ## What is seen -/

namespace Sight

def dispatched? : Sight π → Option (Event π)
  | dispatched e => some e
  | _ => none

def failed? : Sight π → Option (Event π × Fault)
  | failed e f => some (e, f)
  | _ => none

def errorLine? : Sight π → Option String
  | logged ⟨.error, _, message⟩ => some message
  | _ => none

end Sight

def dispatched (log : List (Sight π)) : List (Event π) := log.filterMap Sight.dispatched?

def failures (log : List (Sight π)) : List (Event π × Fault) := log.filterMap Sight.failed?

def errorLines (log : List (Sight π)) : List String := log.filterMap Sight.errorLine?

@[simp] theorem dispatched_append (log more : List (Sight π)) :
    dispatched (log ++ more) = dispatched log ++ dispatched more :=
  List.filterMap_append

@[simp] theorem failures_append (log more : List (Sight π)) :
    failures (log ++ more) = failures log ++ failures more :=
  List.filterMap_append

@[simp] theorem errorLines_append (log more : List (Sight π)) :
    errorLines (log ++ more) = errorLines log ++ errorLines more :=
  List.filterMap_append

/-- Nothing is dispatched in these, nothing fails, and no error is logged. -/
def Quiet (log : List (Sight π)) : Prop :=
  dispatched log = [] ∧ failures log = [] ∧ errorLines log = []

theorem Quiet.append {log more : List (Sight π)} (h : Quiet log) (h' : Quiet more) :
    Quiet (log ++ more) := by
  obtain ⟨events, faults, lines⟩ := h
  obtain ⟨events', faults', lines'⟩ := h'
  refine ⟨?_, ?_, ?_⟩
  · rw [dispatched_append, events, events', List.append_nil]
  · rw [failures_append, faults, faults', List.append_nil]
  · rw [errorLines_append, lines, lines', List.append_nil]

theorem quiet_leave (s : Solo π) (result : Except Fault Unit) : Quiet (s.leave result).2 :=
  ⟨rfl, rfl, rfl⟩

end Solo

namespace EventLoop

variable {π : Type}

def under (l : EventLoop π) (p : FailurePolicy) : EventLoop π :=
  { l with policy := { l.policy with onFailure := p } }

end EventLoop

namespace Solo

variable {π : Type}

def under (s : Solo π) (p : FailurePolicy) : Solo π := { s with loop := s.loop.under p }

theorem handlers_turn (l : EventLoop π) : l.turn.1.handlers = l.handlers := by
  unfold EventLoop.turn EventLoop.receive
  split
  · rfl
  · match l.queue with
    | [] => rfl
    | .event _ :: _ => rfl
    | .halt _ :: _ => rfl

theorem handlers_send {l l' : EventLoop π} {m : Message π} (sent : l.send m = some l') :
    l'.handlers = l.handlers := by
  unfold EventLoop.send at sent
  split at sent
  · cases sent
    rfl
  · cases sent

theorem handlers_perform (l : EventLoop π) (d : Deed π) :
    (d.perform l).1.handlers = l.handlers := by
  cases d with
  | enqueue e =>
      show (l.enqueue e).state.handlers = l.handlers
      unfold EventLoop.enqueue
      dsimp only
      split
      · next l' sent => exact handlers_send (l := l.announce) sent
      · rfl
  | halt =>
      show l.halt.state.handlers = l.handlers
      have marked : ∀ l : EventLoop π, l.sendHalt.1.handlers = l.handlers := by
        intro l
        unfold EventLoop.sendHalt
        split
        · next l' sent => exact handlers_send sent
        · rfl
      unfold EventLoop.halt
      split
      · rfl
      · dsimp only
        split
        · exact marked _
        · rfl

theorem handlers_performAll (l : EventLoop π) (ds : List (Deed π)) :
    (performAll l ds).1.handlers = l.handlers := by
  induction ds generalizing l with
  | nil => rfl
  | cons d ds ih => exact (ih _).trans (handlers_perform l d)

theorem handlers_settle (s : Solo π) (e : Event π) (fault : Option Fault) :
    (s.settle e fault).1.loop.handlers = s.loop.handlers := by
  cases fault with
  | none => rfl
  | some f =>
      unfold settle EventLoop.afterFailure
      cases s.loop.policy.onFailure <;> rfl

theorem handlers_round (h : Repertoire π) (s : Solo π) :
    (s.round h).1.loop.handlers = s.loop.handlers := by
  have before := handlers_turn s.loop
  unfold round turn
  split
  · rfl
  · match met : s.loop.turn with
    | (loop, .stop) | (loop, .wait) | (loop, .skip) =>
        rw [met] at before
        exact before
    | (loop, .dispatch e) =>
        rw [met] at before
        exact (handlers_settle _ _ _).trans ((handlers_performAll _ _).trans before)

theorem handlers_rounds (h : Repertoire π) (s : Solo π) (n : Nat) :
    (s.rounds h n).1.loop.handlers = s.loop.handlers := by
  induction n with
  | zero => rfl
  | succ n ih => exact (handlers_round h _).trans ih

/-! ## A solo run is a run of the station -/

/-- What is noticed at a station where the given thread consumes. Lines are not. -/
def Sight.notices (thread : Nat) : Sight π → List (Station.Notice π)
  | refused f => [.refused f]
  | dispatched e => [.dispatched e]
  | enqueued e answer =>
    [.enqueueing thread e,
      match answer with
      | .ok () => .accepted thread e
      | .error _ => .rejected thread e]
  | halted answer => [.halted answer]
  | failed e f => [.failed e f]
  | logged _ => []
  | ended r => [.ended r]

def notices (thread : Nat) (log : List (Sight π)) : List (Station.Notice π) :=
  log.flatMap (Sight.notices thread)

@[simp] theorem notices_append (thread : Nat) (log more : List (Sight π)) :
    notices thread (log ++ more) = notices thread log ++ notices thread more :=
  List.flatMap_append

def Deed.operation (thread : Nat) : Deed π → Station.Operation π
  | .enqueue e => .enqueue thread e
  | .halt => .halt

/-- The station at which nobody but the consumer of the given run is at work. -/
def station (s : Solo π) (run : Nat) : Station π where
  loop := s.loop
  post := if s.result.isSome then .vacant else .ready run

/-- The handlers are those that are registered with the loop. -/
def Repertoire.Registered (h : Repertoire π) (l : EventLoop π) : Prop :=
  ∀ name, l.hasHandler name = (h name).isSome

theorem Repertoire.Registered.of_handlers {h : Repertoire π} {l l' : EventLoop π}
    (registered : h.Registered l) (same : l'.handlers = l.handlers) : h.Registered l' := by
  intro name
  rw [← registered name, EventLoop.hasHandler, EventLoop.hasHandler, same]

theorem notices_lines (thread : Nat) (lines : List Line) :
    notices thread (lines.map Sight.logged : List (Sight π)) = [] := by
  simp [notices, Sight.notices]

theorem operate_deed (thread : Nat) (st : Station π) (d : Deed π) :
    st.operate (d.operation thread) =
      some ({ st with loop := (d.perform st.loop).1 }, notices thread (d.perform st.loop).2) := by
  cases d with
  | enqueue e =>
      have seen : notices thread (Deed.perform st.loop (.enqueue e)).2 =
          (Sight.enqueued e (st.loop.enqueue e).answer).notices thread := by
        simp only [Deed.perform, notices, List.flatMap_cons]
        exact (congrArg _ (notices_lines thread _)).trans (List.append_nil _)
      rw [seen]
      rfl
  | halt =>
      have seen : notices thread (Deed.perform st.loop .halt).2 =
          [.halted st.loop.halt.answer] := by
        simp only [Deed.perform, notices, List.flatMap_cons]
        exact (congrArg _ (notices_lines thread _)).trans (List.append_nil _)
      rw [seen]
      rfl

theorem operations_deeds (thread : Nat) (st : Station π) (ds : List (Deed π)) :
    st.operations (ds.map (·.operation thread)) =
      some ({ st with loop := (performAll st.loop ds).1 },
        notices thread (performAll st.loop ds).2) := by
  induction ds generalizing st with
  | nil => rfl
  | cons d ds ih =>
      have rest := ih { st with loop := (d.perform st.loop).1 }
      simp only [Station.operations, List.map_cons, runWith, operate_deed, Option.bind_eq_bind,
        Option.bind_some] at rest ⊢
      rw [rest]
      simp [performAll]

/-- After a failure the station does what the solo run does. -/
theorem giveUp_station (thread run : Nat) (s : Solo π) (live : s.result = none)
    (post : Station.Post π) (e : Event π) (f : Fault) :
    ({ loop := s.loop, post } : Station π).giveUp run e f =
      ((s.settle e (some f)).1.station run, notices thread (s.settle e (some f)).2) := by
  unfold Station.giveUp settle EventLoop.afterFailure
  cases s.loop.policy.onFailure with
  | reportAndContinue => simp [station, live, notices, Sight.notices]
  | propagate => simp [station, leave, Station.leave, EventLoop.finish, notices, Sight.notices]

theorem comeBack_station (thread run : Nat) (s : Solo π) (live : s.result = none)
    (post : Station.Post π) (e : Event π) (v : Station.Verdict) :
    ({ loop := s.loop, post } : Station π).comeBack run e v =
      ((s.settle e (v.fault? e.name)).1.station run,
        notices thread (s.settle e (v.fault? e.name)).2) := by
  unfold Station.comeBack
  cases v.fault? e.name with
  | none => simp [settle, station, live, notices]
  | some f => exact giveUp_station thread run s live post e f

/-- An event that was taken: its handler is called, does what it does and comes back. -/
theorem operations_called {h : Repertoire π} {s : Solo π} (registered : h.Registered s.loop)
    (live : s.result = none) (thread run : Nat) (e : Event π) :
    ∃ os, ({ loop := s.loop, post := .holding run e } : Station π).operations os =
      some (((s.call h e).1.settle e (h.fault? s.past e)).1.station run,
        notices thread (performAll s.loop (h.deeds s.past e)).2 ++
          notices thread ((s.call h e).1.settle e (h.fault? s.past e)).2) := by
  have known := registered e.name
  cases handler : h e.name with
  | none =>
      have deeds : h.deeds s.past e = [] := by
        simp [Repertoire.deeds, Repertoire.reaction?, handler]
      have fault : h.fault? s.past e = some (.unknownEvent e.name) := by
        simp [Repertoire.fault?, Repertoire.reaction?, handler]
      have called : (s.call h e).1 = { s with past := s.past ++ [e] } := by
        rw [call, deeds]
        rfl
      have operated : ({ loop := s.loop, post := .holding run e } : Station π).operate .call =
          some (({ loop := s.loop, post := .holding run e } : Station π).giveUp run e
            (.unknownEvent e.name)) :=
        congrArg some (if_neg (by simp [known, handler]))
      refine ⟨[.call], ?_⟩
      rw [deeds, fault, called, Station.operations, runWith, operated,
        giveUp_station thread run { s with past := s.past ++ [e] } live]
      exact congrArg (fun log => some (_, log)) (List.append_nil _)
  | some handle =>
      let r := handle (s.past.filter (·.name = e.name)) e
      have deeds : h.deeds s.past e = r.deeds := by
        simp [Repertoire.deeds, Repertoire.reaction?, handler, r]
      have fault : h.fault? s.past e = r.verdict.fault? e.name := by
        simp [Repertoire.fault?, Repertoire.reaction?, handler, r]
      have operated : ({ loop := s.loop, post := .holding run e } : Station π).operate .call =
          some ({ loop := s.loop, post := .handling run e }, []) :=
        congrArg some (if_pos (by simp [known, handler]))
      have loop : (s.call h e).1.loop = (performAll s.loop r.deeds).1 := by
        rw [call, deeds]
      have did := operations_deeds thread ({ loop := s.loop, post := .handling run e } : Station π)
        r.deeds
      have back : ({ loop := (performAll s.loop r.deeds).1, post := .handling run e } :
          Station π).operate (.settle r.verdict) = some
            (((s.call h e).1.settle e (r.verdict.fault? e.name)).1.station run,
              notices thread ((s.call h e).1.settle e (r.verdict.fault? e.name)).2) := by
        rw [← loop]
        exact congrArg some (comeBack_station thread run (s.call h e).1 live _ e r.verdict)
      refine ⟨.call :: (r.deeds.map (·.operation thread) ++ [.settle r.verdict]), ?_⟩
      rw [deeds, fault]
      exact runWith_append (runWith_one operated) (runWith_append did (runWith_one back))

theorem notices_dispatch (h : Repertoire π) (s : Solo π) (thread : Nat) (e : Event π) :
    notices thread (s.dispatch h e).2 = .dispatched e ::
      (notices thread (performAll s.loop (h.deeds s.past e)).2 ++
        notices thread ((s.call h e).1.settle e (h.fault? s.past e)).2) := by
  rw [dispatch, notices_append]
  rfl

/-- A turn of the run is a run of operations of the consumer and of its handlers. -/
theorem operations_turn {h : Repertoire π} {s : Solo π} (registered : h.Registered s.loop)
    (live : s.result = none) (thread run : Nat) :
    ∃ os, (s.station run).operations os =
      some ((s.turn h).1.station run, notices thread (s.turn h).2) := by
  have ready : s.station run = { loop := s.loop, post := .ready run } := by
    simp [station, live]
  have operated : (s.station run).operate .turn = some ((s.station run).turn run) := by
    rw [ready]
    rfl
  match met : s.loop.turn with
  | (loop, .stop) =>
      refine ⟨[.turn], runWith_one ?_⟩
      rw [operated, turn, ready, Station.turn, met]
      rfl
  | (loop, .wait) =>
      refine ⟨[.turn], runWith_one ?_⟩
      rw [operated, turn, ready, Station.turn, met]
      simp [station, live, notices]
  | (loop, .skip) =>
      refine ⟨[.turn], runWith_one ?_⟩
      rw [operated, turn, ready, Station.turn, met]
      simp [station, live, notices]
  | (loop, .dispatch e) =>
      have same : h.Registered loop := registered.of_handlers (by rw [← handlers_turn s.loop, met])
      have taken : (s.station run).operate .turn =
          some ({ loop, post := .holding run e }, [.dispatched e]) := by
        rw [operated, ready, Station.turn, met]
      obtain ⟨os, called⟩ := operations_called (s := { s with loop }) same live thread run e
      refine ⟨.turn :: os, ?_⟩
      rw [turn, met]
      dsimp only
      rw [notices_dispatch]
      exact runWith_append (runWith_one taken) called

/-- **A solo run is a run of the station**, in which nobody but the consumer and its handlers does
anything. -/
theorem operations_rounds {h : Repertoire π} {s : Solo π} (registered : h.Registered s.loop)
    (thread run n : Nat) :
    ∃ os, (s.station run).operations os =
      some ((s.rounds h n).1.station run, notices thread (s.rounds h n).2) := by
  induction n with
  | zero => exact ⟨[], rfl⟩
  | succ n ih =>
      obtain ⟨os, earlier⟩ := ih
      by_cases finished : (s.rounds h n).1.result.isSome = true
      · have still : (s.rounds h n).1.round h = ((s.rounds h n).1, []) := if_pos finished
        refine ⟨os, ?_⟩
        rw [rounds_succ, still]
        simpa using earlier
      · have live : (s.rounds h n).1.result = none := by simpa using finished
        have next : (s.rounds h n).1.round h = (s.rounds h n).1.turn h := if_neg finished
        have there := registered.of_handlers (handlers_rounds h s n)
        obtain ⟨more, later⟩ := operations_turn there live thread run
        refine ⟨os ++ more, ?_⟩
        rw [rounds_succ, next, notices_append]
        exact runWith_append earlier later

end Solo

end CallBridge
