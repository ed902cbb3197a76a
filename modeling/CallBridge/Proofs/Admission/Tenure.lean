import CallBridge.Call.Stream
import CallBridge.Call.Unary
import CallBridge.Proofs.Admission.Desk
import CallBridge.Proofs.Loop.Course

/-!
# One call's tenure of its key

A caller wins a key, starts its call and then registers the call with its slot. From the start on
the transport may end the call; the callback of the end enqueues an event, and the handler of that
event releases the key in the name of the call. So five things happen, and the only one that nothing
orders is the registration: it may come before the end of the call, between the end and the release,
or after the release.

In the first two orders the release finds the live call and clears the key. In the third it finds a
reservation, which it leaves alone, and the registration that follows makes a finished call the
holder of the key, with nobody left to release it.
-/

namespace CallBridge

namespace Admission

inductive AnyCall (α : Type) where
  | unary (u : Unary α)
  | stream (s : Stream α)

namespace AnyCall

variable {α : Type}

def id : AnyCall α → CallId
  | unary u => u.cell.id
  | stream s => s.cell.id

def started : AnyCall α → Bool
  | unary u => u.started
  | stream s => s.started

/-- The call has ended: whatever the transport still reports is ignored. -/
def isOver : AnyCall α → Bool
  | unary u => u.cell.terminated
  | stream s => s.cell.status.isSome

def launch : AnyCall α → AnyCall α × Except Fault Unit
  | unary u => (unary u.launch.state, u.launch.answer)
  | stream s => (stream s.launch.state, s.launch.answer)

/-- The transport reports the end: a response or a status for a unary call, a status for a stream.
The answer tells whether the callback of the end is due. -/
def finish : AnyCall α → Except Status α → Option (AnyCall α × Bool)
  | unary u, result => some (unary (u.complete result).state, (u.complete result).answer)
  | stream s, .error status => some (stream (s.finish status).state, (s.finish status).answer)
  | stream _, .ok _ => none

theorem launch_first {c : AnyCall α} (first : c.started = false) :
    ∃ c', c.launch = (c', .ok ()) ∧ c'.started = true ∧ c'.isOver = c.isOver := by
  cases c with
  | unary u =>
      have fresh : ¬u.started = true := by simpa [started] using first
      refine ⟨unary { u with started := true }, ?_, rfl, rfl⟩
      rw [launch, Unary.launch, if_neg fresh]
  | stream s =>
      have fresh : ¬s.started = true := by simpa [started] using first
      refine ⟨stream { s with started := true }, ?_, rfl, rfl⟩
      rw [launch, Stream.launch, if_neg fresh]

theorem finish_cases {c c' : AnyCall α} {result : Except Status α} {due : Bool}
    (h : c.finish result = some (c', due)) :
    c'.started = c.started ∧
      ((c.isOver = false ∧ due = true ∧ c'.isOver = true) ∨
        (c.isOver = true ∧ due = false ∧ c' = c)) := by
  cases c with
  | unary u =>
      obtain ⟨rfl, rfl⟩ := Prod.mk.inj (Option.some.inj h)
      cases ended : u.cell.terminated with
      | false =>
          unfold Unary.complete
          rw [if_neg (by simp [ended])]
          cases result with
          | ok x => exact ⟨rfl, .inl ⟨ended, rfl, rfl⟩⟩
          | error status => exact ⟨rfl, .inl ⟨ended, rfl, rfl⟩⟩
      | true =>
          unfold Unary.complete
          rw [if_pos ended]
          exact ⟨rfl, .inr ⟨ended, rfl, rfl⟩⟩
  | stream s =>
      cases result with
      | ok x => cases h
      | error status =>
          obtain ⟨rfl, rfl⟩ := Prod.mk.inj (Option.some.inj h)
          cases ended : s.cell.status.isSome with
          | false =>
              unfold Stream.finish
              rw [if_neg (by simp [ended])]
              refine ⟨rfl, .inl ⟨ended, rfl, ?_⟩⟩
              simp [isOver, Cell.settle, Cell.terminate]
          | true =>
              unfold Stream.finish
              rw [if_pos ended]
              exact ⟨rfl, .inr ⟨ended, rfl, rfl⟩⟩

end AnyCall

namespace Tenure

/-- The key, the call, and the event that is to tell of the call's end. -/
structure Terms (π : Type) where
  key : Key
  call : CallId
  event : String
  payload : Option π := none

def Terms.report {π : Type} (c : Terms π) : Event π :=
  { name := c.event, payload := c.payload, call := some c.call }

inductive Stage where
  | outside
  | admitted
  | started
  | occupied
deriving DecidableEq, Repr

inductive Move (π α : Type) where
  | reserve
  | launch
  | occupy
  | finish (thread : Nat) (result : Except Status α)
  | release
  | loop (o : Station.Operation π)
  | others (m : Desk.Move)

/-- The five things that happen to a tenure. -/
inductive Sight where
  | admitted
  | started
  | occupied
  | ended
  | released (answer : Bool)
deriving DecidableEq, Repr

def key? : Desk.Move → Option Key
  | .reserve k | .occupy k _ | .abandon k | .release k | .releaseCall k _ => some k
  | .cancelAll => none

end Tenure

/-- A call with the register it is admitted by and the loop that is to hear of its end. -/
structure Tenure (π α : Type) where
  desk : Desk := {}
  station : Station π
  call : AnyCall α
  stage : Tenure.Stage := .outside
  answer : Option Bool := none

namespace Tenure

variable {π α : Type}

/-- Whoever holds the key is refused to the caller, who may try again. -/
def reserve (c : Terms π) (v : Tenure π α) : Tenure π α × List Sight :=
  let (desk, es) := v.desk.reserve c.key
  if es = [.won c.key] then ({ v with desk, stage := .admitted }, [.admitted])
  else ({ v with desk }, [])

def launch (v : Tenure π α) : Tenure π α × List Sight :=
  match v.call.launch with
  | (call, .ok ()) => ({ v with call, stage := .started }, [.started])
  | (call, .error _) => ({ v with call }, [])

def occupy (c : Terms π) (v : Tenure π α) : Tenure π α × List Sight :=
  ({ v with desk := (v.desk.occupy c.key c.call).1, stage := .occupied }, [.occupied])

def finish (c : Terms π) (v : Tenure π α) (thread : Nat) (result : Except Status α) :
    Option (Tenure π α × List Sight) :=
  match v.call.finish result with
  | some (call, true) =>
    some ({ v with call, station := (v.station.enqueue thread c.report).1 }, [.ended])
  | some (call, false) => some ({ v with call }, [])
  | none => none

def release (c : Terms π) (v : Tenure π α) : Tenure π α × List Sight :=
  let o := v.desk.register.releaseCall c.key c.call
  ({ v with desk := { v.desk with register := o.state }, answer := some o.answer },
    [.released o.answer])

/-- One move and which of the five things it was; nothing when it does not fit. The transport
reports only on a call that was started, the handler releases once and while it runs, and nobody
else enqueues an event of this call or uses its key. -/
def step (c : Terms π) (v : Tenure π α) : Move π α → Option (Tenure π α × List Sight)
  | .reserve => if v.stage = .outside then some (v.reserve c) else none
  | .launch => if v.stage = .admitted then some v.launch else none
  | .occupy => if v.stage = .started then some (v.occupy c) else none
  | .finish thread result => if v.call.started then v.finish c thread result else none
  | .release =>
    match v.station.post with
    | .handling _ e =>
      if e.call = some c.call ∧ e.name = c.event ∧ v.answer = none then some (v.release c)
      else none
    | _ => none
  | .loop o => do
    let (station, es) ← v.station.operate o
    if ∀ e ∈ Station.sent es, e.call ≠ some c.call then some ({ v with station }, []) else none
  | .others m => do
    let (desk, _) ← v.desk.step m
    if key? m = some c.key then none else some ({ v with desk }, [])

def run (c : Terms π) (v : Tenure π α) (ms : List (Move π α)) :
    Option (Tenure π α × List Sight) :=
  runWith (step c) v ms

/-! ## What a move can come to -/

inductive Stepped (c : Terms π) (v : Tenure π α) : Tenure π α × List Sight → Prop where
  | admitted {desk : Desk} (stage : v.stage = .outside)
      (entry : desk.register.entry? c.key = some .reserved) :
      Stepped c v ({ v with desk, stage := .admitted }, [.admitted])
  | started {call : AnyCall α} (stage : v.stage = .admitted) (started : call.started = true)
      (ended : call.isOver = v.call.isOver) :
      Stepped c v ({ v with call, stage := .started }, [.started])
  | occupied {desk : Desk} (stage : v.stage = .started)
      (entry : v.desk.register.entry? c.key = some .reserved →
        desk.register.entry? c.key = some (.live c.call)) :
      Stepped c v ({ v with desk, stage := .occupied }, [.occupied])
  | ended {call : AnyCall α} (thread : Nat) (started : v.call.started = true)
      (same : call.started = v.call.started) (first : v.call.isOver = false)
      (ended : call.isOver = true) :
      Stepped c v
        ({ v with call, station := (v.station.enqueue thread c.report).1 }, [.ended])
  | released {n : Nat} {e : Event π} {desk : Desk} (post : v.station.post = .handling n e)
      (mine : e.call = some c.call) (first : v.answer = none)
      (live : v.desk.register.entry? c.key = some (.live c.call))
      (entry : desk.register.entry? c.key = none) :
      Stepped c v ({ v with desk, answer := some true }, [.released true])
  | releasedNothing {n : Nat} {e : Event π} (post : v.station.post = .handling n e)
      (mine : e.call = some c.call) (first : v.answer = none)
      (other : v.desk.register.entry? c.key ≠ some (.live c.call)) :
      Stepped c v ({ v with answer := some false }, [.released false])
  | looped {station : Station π} {es : List (Station.Notice π)}
      (op : Station.Operated v.station (station, es))
      (foreign : ∀ e ∈ Station.sent es, e.call ≠ some c.call) :
      Stepped c v ({ v with station }, [])
  | aside {desk : Desk} (entry : desk.register.entry? c.key = v.desk.register.entry? c.key) :
      Stepped c v ({ v with desk }, [])

theorem stepped_reserve {c : Terms π} {v : Tenure π α} (stage : v.stage = .outside) :
    Stepped c v (v.reserve c) := by
  unfold reserve Desk.reserve
  rcases v.desk.register.reserve_cases c.key with ⟨-, ha, hs⟩ | ⟨e, -, ha, hs⟩
  · simp only [ha, hs, if_true]
    exact .admitted stage (Register.entry?_insert_self _ _ _)
  · simp only [ha, hs]
    exact .aside rfl

theorem stepped_launch {c : Terms π} {v : Tenure π α} (stage : v.stage = .admitted)
    (first : v.call.started = false) : Stepped c v v.launch := by
  obtain ⟨call, launched, started, ended⟩ := AnyCall.launch_first first
  rw [launch, launched]
  exact .started stage started ended

theorem stepped_occupy {c : Terms π} {v : Tenure π α} (stage : v.stage = .started) :
    Stepped c v (v.occupy c) := by
  refine .occupied stage ?_
  intro reserved
  unfold Desk.occupy
  rcases v.desk.register.occupy_cases c.key c.call with ⟨-, ha, hs⟩ | ⟨gone, -, -⟩
  · simp only [ha, hs, if_true]
    exact Register.entry?_insert_self _ _ _
  · exact absurd reserved gone

theorem stepped_finish {c : Terms π} {v : Tenure π α} {thread : Nat} {result : Except Status α}
    {p : Tenure π α × List Sight} (started : v.call.started = true)
    (h : v.finish c thread result = some p) : Stepped c v p := by
  unfold finish at h
  split at h
  · next call finished =>
      obtain ⟨same, ⟨first, -, ended⟩ | ⟨-, due, -⟩⟩ := AnyCall.finish_cases finished
      · exact Option.some.inj h ▸ .ended thread started same first ended
      · cases due
  · next call finished =>
      obtain ⟨-, ⟨-, due, -⟩ | ⟨-, -, rfl⟩⟩ := AnyCall.finish_cases finished
      · cases due
      · exact Option.some.inj h ▸ .aside rfl
  · cases h

theorem stepped_release {c : Terms π} {v : Tenure π α} {n : Nat} {e : Event π}
    (post : v.station.post = .handling n e) (mine : e.call = some c.call)
    (first : v.answer = none) : Stepped c v (v.release c) := by
  unfold release
  rcases v.desk.register.releaseCall_cases c.key c.call with ⟨live, ha, hs⟩ | ⟨other, ha, hs⟩
  · simp only [ha, hs]
    exact .released post mine first live (Register.entry?_erase_self _ _)
  · simp only [ha, hs]
    exact .releasedNothing post mine first other

theorem stepped_of_step {c : Terms π} {v : Tenure π α} {m : Move π α}
    {p : Tenure π α × List Sight} (unstarted : v.stage = .admitted → v.call.started = false)
    (h : step c v m = some p) : Stepped c v p := by
  cases m with
  | reserve =>
      obtain ⟨stage, h⟩ := Option.ite_none_right_eq_some.mp h
      exact Option.some.inj h ▸ stepped_reserve stage
  | launch =>
      obtain ⟨stage, h⟩ := Option.ite_none_right_eq_some.mp h
      exact Option.some.inj h ▸ stepped_launch stage (unstarted stage)
  | occupy =>
      obtain ⟨stage, h⟩ := Option.ite_none_right_eq_some.mp h
      exact Option.some.inj h ▸ stepped_occupy stage
  | finish thread result =>
      obtain ⟨started, h⟩ := Option.ite_none_right_eq_some.mp h
      exact stepped_finish started h
  | release =>
      simp only [step] at h
      split at h
      · next n e post =>
          obtain ⟨⟨mine, -, first⟩, h⟩ := Option.ite_none_right_eq_some.mp h
          exact Option.some.inj h ▸ stepped_release post mine first
      · cases h
  | loop o =>
      obtain ⟨⟨station, es⟩, operated, h⟩ := Option.bind_eq_some_iff.mp h
      obtain ⟨foreign, h⟩ := Option.ite_none_right_eq_some.mp h
      exact Option.some.inj h ▸ .looped (Station.operated_of_operate operated) foreign
  | others m =>
      obtain ⟨⟨desk, es⟩, moved, h⟩ := Option.bind_eq_some_iff.mp h
      obtain ⟨other, h⟩ := Option.ite_none_left_eq_some.mp h
      exact Option.some.inj h ▸ .aside (Desk.entry?_of_step moved other)

/-! ## Where a tenure stands -/

/-- What happened, how far the caller is, whether the call is over, how the release was answered,
and what stands under the key: the situations that the five things can lead to. -/
inductive Standing (call : CallId) :
    List Sight → Stage → Bool → Option Bool → Option Entry → Prop where
  | outside : Standing call [] .outside false none none
  | admitted : Standing call [.admitted] .admitted false none (some .reserved)
  | started : Standing call [.admitted, .started] .started false none (some .reserved)
  | occupied : Standing call [.admitted, .started, .occupied] .occupied false none
      (some (.live call))
  | ended : Standing call [.admitted, .started, .ended] .started true none (some .reserved)
  | occupiedEnded : Standing call [.admitted, .started, .occupied, .ended] .occupied true none
      (some (.live call))
  | endedOccupied : Standing call [.admitted, .started, .ended, .occupied] .occupied true none
      (some (.live call))
  | released : Standing call [.admitted, .started, .occupied, .ended, .released true] .occupied true
      (some true) none
  | releasedLate : Standing call [.admitted, .started, .ended, .occupied, .released true] .occupied
      true (some true) none
  | releasedEarly : Standing call [.admitted, .started, .ended, .released false] .started true
      (some false) (some .reserved)
  | stranded : Standing call [.admitted, .started, .ended, .released false, .occupied] .occupied true
      (some false) (some (.live call))

namespace Standing

variable {call : CallId} {log : List Sight} {stage : Stage} {ended : Bool} {answer : Option Bool}
  {entry : Option Entry}

theorem reserve (h : Standing call log .outside ended answer entry) :
    Standing call (log ++ [.admitted]) .admitted ended answer (some .reserved) := by
  cases h
  exact .admitted

theorem start (h : Standing call log .admitted ended answer entry) :
    Standing call (log ++ [.started]) .started ended answer entry := by
  cases h
  exact .started

theorem occupy (h : Standing call log .started ended answer entry) :
    entry = some .reserved ∧
      Standing call (log ++ [.occupied]) .occupied ended answer (some (.live call)) := by
  cases h with
  | started => exact ⟨rfl, .occupied⟩
  | ended => exact ⟨rfl, .endedOccupied⟩
  | releasedEarly => exact ⟨rfl, .stranded⟩

theorem finish (h : Standing call log stage false answer entry)
    (launched : stage = .started ∨ stage = .occupied) :
    Standing call (log ++ [.ended]) stage true answer entry := by
  cases h with
  | outside | admitted => simp at launched
  | started => exact .ended
  | occupied => exact .occupiedEnded

theorem release (h : Standing call log stage true none (some (.live call))) :
    Standing call (log ++ [.released true]) stage true (some true) none := by
  cases h with
  | occupiedEnded => exact .released
  | endedOccupied => exact .releasedLate

theorem releaseNothing (h : Standing call log stage true none entry)
    (other : entry ≠ some (.live call)) :
    Standing call (log ++ [.released false]) stage true (some false) entry := by
  cases h with
  | ended => exact .releasedEarly
  | occupiedEnded | endedOccupied => exact absurd rfl other

theorem complete {a : Bool} (h : Standing call log stage ended answer entry)
    (occupied : .occupied ∈ log) (released : .released a ∈ log) :
    ((log = [.admitted, .started, .occupied, .ended, .released true] ∨
        log = [.admitted, .started, .ended, .occupied, .released true]) ∧ entry = none) ∨
      log = [.admitted, .started, .ended, .released false, .occupied] := by
  cases h with
  | released => exact .inl ⟨.inl rfl, rfl⟩
  | releasedLate => exact .inl ⟨.inr rfl, rfl⟩
  | stranded => exact .inr rfl
  | releasedEarly => simp at occupied
  | _ => simp at released

/-- After a release that came too early nothing frees the key. -/
theorem stays {rest : List Sight} (h : Standing call log stage ended answer entry)
    (early : log = [.admitted, .started, .ended, .released false, .occupied] ++ rest) :
    ended = true ∧ entry = some (.live call) := by
  cases h with
  | stranded => exact ⟨rfl, rfl⟩
  | _ => simp at early

end Standing

/-- An event that is queued, or whose handler is being looked up or is running. -/
def Aware (s : Station π) (e : Event π) : Prop :=
  e ∈ EventLoop.events s.loop.queue ∨ s.post.dispatching? = some e

theorem aware_operated {s : Station π} {p : Station π × List (Station.Notice π)} {e : Event π}
    (ho : Station.Operated s p) (h : Aware p.1 e) : Aware s e ∨ e ∈ Station.sent p.2 := by
  cases ho with
  | enqueued q e' =>
      rcases h with queued | current
      · rcases List.mem_append.mp (EventLoop.events_append _ _ ▸ queued) with old | new
        · exact .inl (.inl old)
        · exact .inr new
      · exact .inl (.inr current)
  | halted =>
      rcases h with queued | current
      · exact .inl (.inl (by simpa using queued))
      · exact .inl (.inr current)
  | skipped _ head =>
      rcases h with queued | current
      · refine .inl (.inl ?_)
        rw [head]
        exact queued
      · exact .inl (.inr current)
  | met _ head =>
      rcases h with queued | current
      · refine .inl (.inl ?_)
        rw [head]
        exact queued
      · cases current
  | taken _ _ head =>
      refine .inl (.inl ?_)
      rw [head]
      rcases h with queued | current
      · exact List.mem_cons_of_mem _ queued
      · exact Option.some.inj current ▸ List.mem_cons_self
  | called post =>
      rcases h with queued | current
      · exact .inl (.inl queued)
      · refine .inl (.inr ?_)
        rw [post]
        exact current
  | started | begun | abandoned | succeeded | reported | propagated =>
      rcases h with queued | current
      · exact .inl (.inl queued)
      · cases current
  | rejected | haltedNothing | haltedLost | haltedAgain | registered | registeredTwice | refused
  | waiting => exact .inl h

/-- Nothing has happened to the tenure yet: the key is vacant, the call is not started, and no event
speaks of it. -/
structure Untouched (c : Terms π) (v : Tenure π α) : Prop where
  named : v.call.id = c.call
  outside : v.stage = .outside
  unanswered : v.answer = none
  vacant : v.desk.register.entry? c.key = none
  unstarted : v.call.started = false
  going : v.call.isOver = false
  untold : ∀ e, Aware v.station e → e.call ≠ some c.call

/-- Where a tenure stands follows from what happened to it, and an event of the call tells that it
is over. -/
structure Kept (c : Terms π) (v : Tenure π α) (log : List Sight) : Prop where
  standing : Standing c.call log v.stage v.call.isOver v.answer (v.desk.register.entry? c.key)
  launched : v.call.started = true ↔ v.stage = .started ∨ v.stage = .occupied
  told : ∀ e, Aware v.station e → e.call = some c.call → v.call.isOver = true

variable {c : Terms π} {v w : Tenure π α} {log : List Sight}

theorem Untouched.kept (h : Untouched c v) : Kept c v [] where
  standing := by
    rw [h.outside, h.unanswered, h.vacant, h.going]
    exact .outside
  launched := by
    rw [h.unstarted, h.outside]
    simp
  told := fun e aware mine => absurd mine (h.untold e aware)

theorem Kept.ended {n : Nat} {e : Event π} (h : Kept c v log)
    (post : v.station.post = .handling n e) (mine : e.call = some c.call) :
    v.call.isOver = true :=
  h.told e (.inr (congrArg Station.Post.dispatching? post)) mine

theorem kept_stepped {p : Tenure π α × List Sight} (h : Kept c v log) (hs : Stepped c v p) :
    Kept c p.1 (log ++ p.2) := by
  have standing := h.standing
  cases hs with
  | admitted stage entry =>
      rw [stage] at standing
      refine ⟨?_, ?_, h.told⟩
      · rw [entry]
        exact standing.reserve
      · simp [h.launched, stage]
  | started stage started ended =>
      rw [stage] at standing
      refine ⟨?_, ?_, ?_⟩
      · rw [ended]
        exact standing.start
      · simp [started]
      · rw [ended]
        exact h.told
  | occupied stage entry =>
      rw [stage] at standing
      obtain ⟨reserved, standing⟩ := standing.occupy
      refine ⟨?_, ?_, h.told⟩
      · rw [entry reserved]
        exact standing
      · simp [h.launched, stage]
  | ended thread started same first ended =>
      rw [first] at standing
      refine ⟨?_, ?_, fun _ _ _ => ended⟩
      · rw [ended]
        exact standing.finish (h.launched.mp started)
      · rw [same]
        exact h.launched
  | @released n e desk post mine first live entry =>
      have ended : v.call.isOver = true := h.ended post mine
      rw [ended, first, live] at standing
      refine ⟨?_, h.launched, h.told⟩
      rw [entry, ended]
      exact standing.release
  | @releasedNothing n e post mine first other =>
      have ended : v.call.isOver = true := h.ended post mine
      rw [ended, first] at standing
      refine ⟨?_, h.launched, h.told⟩
      rw [ended]
      exact standing.releaseNothing other
  | looped op foreign =>
      refine ⟨by simpa using standing, h.launched, ?_⟩
      intro e aware mine
      rcases aware_operated op aware with before | new
      · exact h.told e before mine
      · exact absurd mine (foreign e new)
  | aside entry =>
      refine ⟨?_, h.launched, h.told⟩
      rw [entry, List.append_nil]
      exact standing

theorem kept_run {ms : List (Move π α)} {before : List Sight} (h : Kept c v before)
    (hr : run c v ms = some (w, log)) : Kept c w (before ++ log) := by
  refine runWith_invariant (P := Kept c) ?_ hr h
  intro u seen m t es kept hstep
  refine kept_stepped kept (stepped_of_step ?_ hstep)
  intro stage
  have unlaunched : ¬u.call.started = true := by simp [kept.launched, stage]
  simpa using unlaunched

/-- **The key is vacant again unless the release came before the registration.** There are three
orders in which the five things can happen. In two of them the release finds the registered call:
it succeeds, and the key can be won again. In the third it finds a reservation and fails, the
registration comes after it, and whatever happens then, the key stays with the finished call. -/
theorem vacant_unless_released_early {ms : List (Move π α)} (untouched : Untouched c v)
    (h : run c v ms = some (w, log)) (occupied : .occupied ∈ log)
    (released : ∃ answer, .released answer ∈ log) :
    ((log = [.admitted, .started, .occupied, .ended, .released true] ∨
        log = [.admitted, .started, .ended, .occupied, .released true]) ∧
      w.desk.register.entry? c.key = none ∧
      (w.desk.register.reserve c.key).answer = .ok ()) ∨
    (log = [.admitted, .started, .ended, .released false, .occupied] ∧
      ∀ {ms' : List (Move π α)} {w' : Tenure π α} {log' : List Sight},
        run c w ms' = some (w', log') → w'.call.isOver = true ∧
          w'.desk.register.entry? c.key = some (.live c.call) ∧
          (w'.desk.register.reserve c.key).answer = .error (.busy c.key.shape (some c.call))) := by
  have kept : Kept c w log := kept_run untouched.kept h
  obtain ⟨answer, released⟩ := released
  rcases kept.standing.complete occupied released with ⟨orders, vacant⟩ | early
  · refine .inl ⟨orders, vacant, ?_⟩
    rcases w.desk.register.reserve_cases c.key with ⟨-, ok, -⟩ | ⟨e, taken, -⟩
    · exact ok
    · exact absurd (vacant.symm.trans taken) nofun
  · refine .inr ⟨early, ?_⟩
    intro ms' w' log' h'
    have standing := (kept_run kept h').standing
    obtain ⟨ended, live⟩ := standing.stays (congrArg (· ++ log') early)
    refine ⟨ended, live, ?_⟩
    rcases w'.desk.register.reserve_cases c.key with ⟨vacant, -⟩ | ⟨e, taken, busy, -⟩
    · exact absurd (live.symm.trans vacant) nofun
    · rw [live] at taken
      rw [busy, ← Option.some.inj taken]
      rfl

def listing : Terms Nat where
  key := .text "list"
  call := ⟨7⟩
  event := "done"

def beforehand (call : AnyCall Nat) : Tenure Nat Nat where
  station := { loop := { policy := {}, handlers := ["done"] } }
  call

theorem untouched_beforehand (call : AnyCall Nat) (named : call.id = ⟨7⟩)
    (unstarted : call.started = false) (going : call.isOver = false) :
    Untouched listing (beforehand call) where
  named := named
  outside := rfl
  unanswered := rfl
  vacant := rfl
  unstarted := unstarted
  going := going
  untold := by
    rintro e (queued | current)
    · cases queued
    · cases current

private def callHandler : List (Move Nat Nat) :=
  [.loop .run, .loop (.begin Thread.main), .loop .turn, .loop .call]

/-- A stream that ends before it is registered, and whose handler comes after. -/
def lateReleaseMoves : List (Move Nat Nat) :=
  [.reserve, .launch, .finish 3 (.error .success), .others (.reserve (.number 1)), .occupy] ++
    callHandler ++ [.release, .loop (.settle .succeeded)]

theorem vacant_unless_released_early_late : ∃ w log,
    run listing (beforehand (.stream (.create ⟨7⟩ none))) lateReleaseMoves = some (w, log) ∧
    log = [.admitted, .started, .ended, .occupied, .released true] ∧
    (w.desk.register.reserve listing.key).answer = .ok () := by
  have h : run listing (beforehand (.stream (.create ⟨7⟩ none))) lateReleaseMoves =
      some (_, [.admitted, .started, .ended, .occupied, .released true]) := rfl
  have untouched := untouched_beforehand (.stream (.create ⟨7⟩ none)) rfl rfl rfl
  rcases vacant_unless_released_early untouched h (by decide) ⟨true, by decide⟩ with
    ⟨-, -, again⟩ | ⟨early, -⟩
  · exact ⟨_, _, h, rfl, again⟩
  · cases early

/-- A unary call whose handler runs before the caller has come to register it. -/
def earlyReleaseMoves : List (Move Nat Nat) :=
  [.reserve, .launch, .finish 3 (.ok 5)] ++ callHandler ++
    [.release, .loop (.settle .succeeded), .occupy]

/-- A finished call can stay registered: every step of the protocol was taken, in an order that the
protocol allows, and the key is busy with a call that is over. -/
theorem finished_call_stays : ∃ w,
    Untouched listing (beforehand (.unary (.create ⟨7⟩ none))) ∧
    run listing (beforehand (.unary (.create ⟨7⟩ none))) earlyReleaseMoves =
      some (w, [.admitted, .started, .ended, .released false, .occupied]) ∧
    w.call.isOver = true ∧ w.desk.register.isBusy listing.key = true ∧
    (w.desk.register.reserve listing.key).answer =
      .error (.busy listing.key.shape (some listing.call)) :=
  ⟨_, untouched_beforehand _ rfl rfl rfl, rfl, rfl, rfl, rfl⟩

end Tenure

end Admission

end CallBridge
