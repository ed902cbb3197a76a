import CallBridge.Loopback
import CallBridge.Proofs.Stream.Pacing

/-!
# Links: a stream and the task that serves it

A link is a stream together with its task of the loopback transport. The task is the only one to
deliver items, to close and to end. Everything else goes on around it: the channel returns,
callbacks decide, other threads take and cancel, time passes.

The task runs from one wait to the next. At each wait it looks at the world anew, for another thread
may have cancelled the call between two waits of one poll. That `StreamTask.run`, which looks once
for a whole poll, is a succession of such turns is `run_turn`.
-/

namespace CallBridge

namespace Loopback.StreamTask

variable {α : Type}

/-- What a task comes to at one wait. -/
structure Turn (α : Type) where
  task : StreamTask α
  takes : Bool := false
  report : Option (Report α) := none

def turn (t : StreamTask α) (v : View) (r : Reads) (latency : Nat)
    (serve : Except Status (List α)) : Option (Turn α) :=
  match t with
  | done => none
  | closing => some { task := done, report := some (.finish .success) }
  | fresh =>
    match v.stop?, serve with
    | some s, _ => some { task := done, report := some (.finish s) }
    | none, .error s => some { task := done, report := some (.finish s) }
    | none, .ok items => some { task := waiting items }
  | waiting items =>
    match v.stop? with
    | some s => some { task := done, report := some (.finish s) }
    | none =>
      if 0 < r.waiting then some { task := pausing items (v.now + latency), takes := true }
      else if r.laneOpen then none
      else some { task := done, report := some (.finish laneReleased) }
  | pausing items wake =>
    match v.stop? with
    | some s => some { task := done, report := some (.finish s) }
    | none =>
      if wake ≤ v.now then some { task := (answer items).1, report := (answer items).2 }
      else none

/-- A poll of the task is one turn, and another poll unless there is something to report. -/
theorem run_turn (t : StreamTask α) (v : View) (r : Reads) (latency : Nat)
    (serve : Except Status (List α)) :
    t.run v r latency serve =
      match t.turn v r latency serve with
      | none => (t, none)
      | some ⟨t', _, some report⟩ => (t', some report)
      | some ⟨t', takes, none⟩ =>
        t'.run v { r with waiting := r.waiting - takes.toNat } latency serve := by
  cases t with
  | done | closing => rfl
  | fresh =>
      cases stop : v.stop? with
      | some s => simp [run, turn, stop]
      | none => cases serve <;> simp [run, turn, stop]
  | waiting items =>
      cases stop : v.stop? with
      | some s => simp [run, turn, await, stop]
      | none =>
          by_cases asked : 0 < r.waiting
          · simp [run, turn, await, stop, asked]
          · cases laneOpen : r.laneOpen <;> simp [run, turn, await, stop, asked, laneOpen]
  | pausing items wake =>
      cases stop : v.stop? with
      | some s => simp [run, turn, pause, stop]
      | none =>
          by_cases finished : wake ≤ v.now
          · cases items <;> simp [run, turn, pause, stop, finished, answer]
          · simp [run, turn, pause, stop, finished]

/-- A task that is over takes no turn, and the one that gets it there reports an end. -/
theorem turn_cases {t : StreamTask α} {v : View} {r : Reads} {latency : Nat}
    {serve : Except Status (List α)} {turn : Turn α} (h : t.turn v r latency serve = some turn) :
    t ≠ done ∧
      ((∃ status, turn.report = some (.finish status) ∧ turn.task = done) ∨
        (∃ x, turn.report = some (.item x)) ∧ turn.task ≠ done ∨
        turn.report = some .closeReads ∧ turn.task ≠ done ∨
        turn.report = none ∧ turn.task ≠ done) := by
  cases t with
  | done => cases h
  | closing =>
      cases h
      exact ⟨nofun, .inl ⟨_, rfl, rfl⟩⟩
  | fresh =>
      refine ⟨nofun, ?_⟩
      simp only [StreamTask.turn] at h
      split at h <;> cases h
      · exact .inl ⟨_, rfl, rfl⟩
      · exact .inl ⟨_, rfl, rfl⟩
      · exact .inr (.inr (.inr ⟨rfl, nofun⟩))
  | waiting items =>
      refine ⟨nofun, ?_⟩
      simp only [StreamTask.turn] at h
      split at h
      · cases h
        exact .inl ⟨_, rfl, rfl⟩
      · split at h
        · cases h
          exact .inr (.inr (.inr ⟨rfl, nofun⟩))
        · split at h <;> cases h
          exact .inl ⟨_, rfl, rfl⟩
  | pausing items wake =>
      refine ⟨nofun, ?_⟩
      simp only [StreamTask.turn] at h
      split at h
      · cases h
        exact .inl ⟨_, rfl, rfl⟩
      · split at h <;> cases h
        cases items with
        | nil => exact .inr (.inr (.inl ⟨rfl, nofun⟩))
        | cons x rest => exact .inr (.inl ⟨⟨x, rfl⟩, nofun⟩)

/-- The next turn of a task that is told to stop is its last, if its end is not decided yet. -/
theorem turn_of_stop {t : StreamTask α} {v : View} {r : Reads} {latency : Nat}
    {serve : Except Status (List α)} {status : Status} (stop : v.stop? = some status)
    (going : t ≠ done) (undecided : t ≠ closing) :
    t.turn v r latency serve = some { task := done, report := some (.finish status) } := by
  cases t with
  | done => exact absurd rfl going
  | closing => exact absurd rfl undecided
  | fresh | waiting | pausing => simp only [turn, stop]

end Loopback.StreamTask

namespace Link

open Loopback (StreamTask Report View)

/-- What a service answers, and how long the transport waits before each item. -/
structure Service (α : Type) where
  latency : Nat
  serve : Except Status (List α)

inductive Move (α : Type) where
  | launch
  | poll (thread : Nat)
  | back
  | tick (n : Nat)
  | beside (m : Exchange.Move α)
deriving DecidableEq, Repr

end Link

/-- A stream, its task, and the lane between them. -/
structure Link (α : Type) where
  exchange : Exchange α
  task : Loopback.StreamTask α := .fresh
  taken : Nat := 0
  served : Bool := false
  /-- The callback of a close or of an end is running. -/
  calling : Bool := false
  now : Nat := 0
  deadline : Option Nat := none
  /-- The start has broken off over a deadline that no clock can show. -/
  overflowed : Bool := false
deriving Repr

namespace Link

open Loopback (StreamTask Report View)
open Session (Ending)

variable {α : Type}

def fresh (id : CallId) (timeout : Option Nat) : Link α := { exchange := .fresh id timeout }

def view (s : Link α) : View where
  now := s.now
  cancelled := s.exchange.stream.cell.cancelled
  deadline := s.deadline

/-- The lane as the task sees it. The stream keeps it in the phases that have one, and a start that
waits for its channel is about to get it. -/
def reads (s : Link α) : StreamTask.Reads where
  waiting := s.exchange.stream.fetches - s.taken
  laneOpen := s.exchange.opening || s.exchange.stream.phase.lane?.isSome

def lift (s : Link α) (q : Option (Exchange α × List (Exchange.Event α))) :
    Option (Link α × List (Exchange.Event α)) :=
  q.map fun q => ({ s with exchange := q.1 }, q.2)

def report (s : Link α) (thread : Nat) : Report α → Option (Link α × List (Exchange.Event α))
  | .item x => s.lift (s.exchange.step (.accept thread x))
  | .closeReads => { s with calling := true }.lift (s.exchange.step .closeReads)
  | .finish status => { s with calling := true }.lift (s.exchange.step (.finish status))

/-- The start has handed the stream to the channel, upon which the task exists. -/
def hasTask (s : Link α) : Bool := s.exchange.stream.started && !s.overflowed

/-- The start breaks off before it has come to the channel. -/
def overflow (s : Link α) : Link α :=
  { s with
    exchange := { s.exchange with stream := s.exchange.stream.overflow }
    overflowed := true }

/-- The task can be run: it exists and is not inside a report. -/
def runnable (s : Link α) (thread : Nat) : Bool :=
  s.hasTask && s.exchange.delivery.isNone && !s.calling && s.exchange.free thread

/-- The turn asks the service. -/
def serves (s : Link α) : Bool := s.task matches .fresh && s.view.stop?.isNone

def poll (c : Service α) (s : Link α) (thread : Nat) : Option (Link α × List (Exchange.Event α)) :=
  match s.task.turn s.view s.reads c.latency c.serve with
  | none => some (s, [])
  | some turn =>
    let s' := { s with
      task := turn.task, taken := s.taken + turn.takes.toNat
      served := s.served || s.serves }
    match turn.report with
    | none => some (s', [])
    | some r => s'.report thread r

/-- What goes on around the task, except for the launch. Callbacks of items decide and do not break
off. -/
def isBeside (m : Exchange.Move α) : Bool :=
  m.isAround && !(m matches .launch | .leave .brokenOff)

def step (c : Service α) (s : Link α) : Move α → Option (Link α × List (Exchange.Event α))
  | .launch =>
    if s.exchange.stream.started then s.lift (s.exchange.step .launch)
    else
      match Loopback.deadline? s.now s.exchange.stream.timeout with
      | some deadline => { s with deadline }.lift (s.exchange.step .launch)
      | none => some (s.overflow, [])
  | .poll thread => if s.runnable thread then s.poll c thread else none
  | .back => if s.calling then some ({ s with calling := false }, []) else none
  | .tick n => some ({ s with now := s.now + n }, [])
  | .beside m => if isBeside m then s.lift (s.exchange.step m) else none

def run (c : Service α) (s : Link α) (ms : List (Move α)) :
    Option (Link α × List (Exchange.Event α)) :=
  runWith (step c) s ms

/-! ## What a move can come to -/

/-- A launch calls the channel or is refused, unless no clock can show the deadline. -/
theorem launch_cases {c : Service α} {s : Link α} {q : Link α × List (Exchange.Event α)}
    (h : s.step c .launch = some q) :
    (∃ deadline, { s with deadline }.lift (s.exchange.step .launch) = some q) ∨
      (s.exchange.stream.started = false ∧
        Loopback.deadline? s.now s.exchange.stream.timeout = none ∧ q = (s.overflow, [])) := by
  simp only [step] at h
  split at h
  · exact .inl ⟨s.deadline, h⟩
  · next first =>
      split at h
      · next deadline _ => exact .inl ⟨deadline, h⟩
      · next unshown => exact .inr ⟨by simpa using first, unshown, (Option.some.inj h).symm⟩

/-- A move that is not the task's leaves the task and the lane alone. -/
inductive Moved (c : Service α) (s : Link α) : Link α × List (Exchange.Event α) → Prop where
  | aside {m : Exchange.Move α} {q : Exchange α × List (Exchange.Event α)} (deadline : Option Nat)
      (moved : Exchange.Moved s.exchange m q) (around : m.isAround = true)
      (unbroken : m ≠ .leave .brokenOff) : Moved c s ({ s with exchange := q.1, deadline }, q.2)
  | polled (thread : Nat) {q : Link α × List (Exchange.Event α)}
      (runnable : s.runnable thread = true) (poll : s.poll c thread = some q) : Moved c s q
  | overflowed (first : s.exchange.stream.started = false) : Moved c s (s.overflow, [])
  | returned : Moved c s ({ s with calling := false }, [])
  | ticked (n : Nat) : Moved c s ({ s with now := s.now + n }, [])

theorem moved_of_step {c : Service α} {s : Link α} {m : Move α}
    {q : Link α × List (Exchange.Event α)} (h : s.step c m = some q) : Moved c s q := by
  cases m with
  | launch =>
      rcases launch_cases h with ⟨deadline, h⟩ | ⟨first, -, rfl⟩
      · obtain ⟨q', hq, rfl⟩ := Option.map_eq_some_iff.mp h
        exact .aside deadline (Exchange.moved_of_step hq) rfl nofun
      · exact .overflowed first
  | poll thread =>
      obtain ⟨runnable, h⟩ := Option.ite_none_right_eq_some.mp h
      exact .polled thread runnable h
  | back =>
      obtain ⟨-, h⟩ := Option.ite_none_right_eq_some.mp h
      exact Option.some.inj h ▸ .returned
  | tick n => exact Option.some.inj h ▸ .ticked n
  | beside m =>
      obtain ⟨beside, h⟩ := Option.ite_none_right_eq_some.mp h
      obtain ⟨q', hq, rfl⟩ := Option.map_eq_some_iff.mp h
      refine .aside s.deadline (Exchange.moved_of_step hq) (Bool.and_eq_true_iff.mp beside).1 ?_
      rintro rfl
      simp [isBeside] at beside

/-- What a poll can come to, by what the stream is told. -/
inductive Polled (s : Link α) (thread : Nat) : Link α × List (Exchange.Event α) → Prop where
  | quiet {t : Link α} (exchange : t.exchange = s.exchange)
      (goes : t.task = .done ↔ s.task = .done) : Polled s thread (t, [])
  | reported {m : Exchange.Move α} {t : Link α} {es : List (Exchange.Event α)}
      (moved : Exchange.Moved s.exchange m (t.exchange, es))
      (report : (∃ x, m = .accept thread x) ∨ m = .closeReads)
      (goes : s.task ≠ .done ∧ t.task ≠ .done) : Polled s thread (t, es)
  | ended (status : Status) {t : Link α} {es : List (Exchange.Event α)}
      (moved : Exchange.Moved s.exchange (.finish status) (t.exchange, es))
      (goes : s.task ≠ .done) (finished : t.task = .done) : Polled s thread (t, es)

theorem polled_of_poll {c : Service α} {s : Link α} {thread : Nat}
    {q : Link α × List (Exchange.Event α)} (h : s.poll c thread = some q) : Polled s thread q := by
  unfold poll at h
  split at h
  · exact Option.some.inj h ▸ .quiet rfl Iff.rfl
  · next turn took =>
      obtain ⟨goes, told⟩ := StreamTask.turn_cases took
      rcases told with ⟨status, told, finished⟩ | ⟨⟨x, told⟩, on⟩ | ⟨told, on⟩ | ⟨told, on⟩
      · simp only [told, report, lift] at h
        obtain ⟨x, hx, rfl⟩ := Option.map_eq_some_iff.mp h
        exact .ended status (Exchange.moved_of_step hx) goes finished
      · simp only [told, report, lift] at h
        obtain ⟨y, hy, rfl⟩ := Option.map_eq_some_iff.mp h
        exact .reported (Exchange.moved_of_step hy) (.inl ⟨x, rfl⟩) ⟨goes, on⟩
      · simp only [told, report, lift] at h
        obtain ⟨x, hx, rfl⟩ := Option.map_eq_some_iff.mp h
        exact .reported (Exchange.moved_of_step hx) (.inr rfl) ⟨goes, on⟩
      · simp only [told] at h
        have still : turn.task = .done ↔ s.task = .done :=
          ⟨fun finished => absurd finished on, fun finished => absurd finished goes⟩
        exact Option.some.inj h ▸ .quiet rfl still

theorem overflowed_of_report {s : Link α} {thread : Nat} {r : Report α}
    {q : Link α × List (Exchange.Event α)} (h : s.report thread r = some q) :
    q.1.overflowed = s.overflowed := by
  cases r with
  | item | closeReads | finish =>
      simp only [report, lift] at h
      obtain ⟨x, -, rfl⟩ := Option.map_eq_some_iff.mp h
      rfl

theorem overflowed_of_poll {c : Service α} {s : Link α} {thread : Nat}
    {q : Link α × List (Exchange.Event α)} (h : s.poll c thread = some q) :
    q.1.overflowed = s.overflowed := by
  simp only [poll] at h
  split at h
  · exact Option.some.inj h ▸ rfl
  · split at h
    · exact Option.some.inj h ▸ rfl
    · have told := overflowed_of_report h
      exact told

theorem run_invariant {c : Service α} {P : Link α → List (Exchange.Event α) → Prop}
    (keep : ∀ {s before q}, P s before → Moved c s q → P q.1 (before ++ q.2))
    {ms : List (Move α)} {s t : Link α} {before log : List (Exchange.Event α)}
    (h : s.run c ms = some (t, log)) (hs : P s before) : P t (before ++ log) := by
  refine runWith_invariant (P := P) ?_ h hs
  intro u before m v es hu hstep
  exact keep hu (moved_of_step hstep)

end Link

end CallBridge
