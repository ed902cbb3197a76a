import CallBridge.Proofs.Stream.Audience

/-!
# Tainted places

A callback that breaks off while it looks at an item taints the place of the item for good. All that
a taint does is that each later lock of the place is logged: no operation answers anything else or
moves the stream anywhere else for it. Streams that are the same but for the taint stay the same,
whatever happens to them.

So the taint also shows which operations lock the place: those that would log it.
-/

namespace CallBridge

/-- The line tells of a lock that was recovered from a taint. -/
def Line.isRecovery (l : Line) : Bool := l.target == "rpc_reactor::lock_recovery"

/-- The lines that do not depend on a taint. -/
def plain (ls : List Line) : List Line := ls.filter fun l => !l.isRecovery

@[simp] theorem plain_append (ls ls' : List Line) : plain (ls ++ ls') = plain ls ++ plain ls' :=
  List.filter_append ..

/-- The outcomes are the same but for what `f` does to the state and for recovered locks. -/
structure Outcome.Like {σ β : Type} (f : σ → σ) (o o' : Outcome σ β) : Prop where
  state : o'.state = f o.state
  answer : o'.answer = o.answer
  lines : plain o'.lines = plain o.lines

namespace Cell

variable {α : Type} (c : Cell α) (t : Bool)

/-- The same cell, tainted or not. -/
def taint : Cell α := { c with tainted := t }

@[simp] theorem plain_lockLines (context : String) : plain (c.lockLines context) = [] := by
  unfold lockLines
  split <;> rfl

theorem like_beginInspection (thread : Nat) (x : α) :
    (c.beginInspection thread x).Like (·.taint t) ((c.taint t).beginInspection thread x) :=
  ⟨rfl, rfl, by simp [beginInspection]⟩

theorem like_extract : c.extract.Like (·.taint t) (c.taint t).extract :=
  ⟨rfl, rfl, by simp [extract]⟩

theorem like_take (thread : Nat) : (c.take thread).Like (·.taint t) ((c.taint t).take thread) := by
  have inspector : (c.taint t).inspector = c.inspector := rfl
  have claim : (c.taint t).claim = c.claim.map (·.taint t) := by
    cases ready : c.ready <;> simp [Cell.claim, taint, ready]
  unfold take
  rw [inspector, claim]
  split
  · exact ⟨rfl, rfl, rfl⟩
  · cases c.claim with
    | none => exact ⟨rfl, rfl, rfl⟩
    | some claimed => exact claimed.like_extract t

end Cell

namespace Stream

variable {α : Type} (s : Stream α) (t : Bool)

def taint : Stream α := { s with cell := s.cell.taint t }

@[simp] theorem taint_phase : (s.taint t).phase = s.phase := rfl

@[simp] theorem taint_terminated : (s.taint t).cell.terminated = s.cell.terminated := rfl

theorem like_launch : s.launch.Like (·.taint t) (s.taint t).launch := by
  have started : (s.taint t).started = s.started := rfl
  unfold launch
  rw [started]
  split <;> exact ⟨rfl, rfl, rfl⟩

theorem attach_taint (lane : Nat) :
    (s.taint t).attach lane = ((s.attach lane).1.taint t, (s.attach lane).2) := by
  unfold attach
  rw [taint_phase, taint_terminated]
  split <;> rfl

theorem refetch_taint : (s.taint t).refetch = (s.refetch.1.taint t, s.refetch.2) := by
  unfold refetch
  rw [taint_phase, taint_terminated]
  split <;> rfl

theorem resume_taint : (s.taint t).resume = (s.resume.1.taint t, s.resume.2) := by
  unfold resume
  rw [taint_phase, taint_terminated]
  split <;> rfl

theorem like_accept : s.accept.Like (·.taint t) (s.taint t).accept := by
  unfold accept
  rw [taint_phase, taint_terminated]
  split <;> exact ⟨rfl, rfl, rfl⟩

theorem like_beginInspection (thread : Nat) (x : α) :
    (s.beginInspection thread x).Like (·.taint t) ((s.taint t).beginInspection thread x) :=
  ⟨rfl, rfl, (s.cell.like_beginInspection t thread x).lines⟩

theorem like_deliver (thread : Nat) (x : α) :
    (s.deliver thread x).Like (·.taint t) ((s.taint t).deliver thread x) := by
  obtain ⟨state, answer, lines⟩ := s.like_accept t
  have shown := s.accept.state.like_beginInspection t thread x
  unfold deliver
  simp only [answer, state]
  split
  · exact ⟨shown.state, rfl, by simp only [plain_append, lines, shown.lines]⟩
  · exact ⟨state, answer, lines⟩

theorem like_afterTake {o o' : Outcome (Cell α) (Option α)} (h : o.Like (·.taint t) o') :
    (s.afterTake o).Like (·.taint t) ((s.taint t).afterTake o') := by
  have same : { s.taint t with cell := o'.state } = { s with cell := o.state }.taint t := by
    simp [taint, h.state]
  unfold afterTake
  rw [h.answer, same]
  cases o.answer with
  | none => exact ⟨rfl, rfl, h.lines⟩
  | some x =>
      have resumed := resume_taint { s with cell := o.state } t
      exact ⟨congrArg Prod.fst resumed, congrArg (fun r => (some x, r.2)) resumed, h.lines⟩

theorem like_take (thread : Nat) : (s.take thread).Like (·.taint t) ((s.taint t).take thread) :=
  s.like_afterTake t (s.cell.like_take t thread)

theorem like_completeTake : s.completeTake.Like (·.taint t) (s.taint t).completeTake :=
  s.like_afterTake t (s.cell.like_extract t)

theorem like_discard (thread : Nat) :
    (s.discard thread).Like (·.taint t) ((s.taint t).discard thread) := by
  obtain ⟨state, -, lines⟩ := s.cell.like_take t thread
  exact ⟨by simp [discard, taint, state], rfl, lines⟩

theorem like_readOn (thread : Nat) :
    (s.readOn thread).Like (·.taint t) ((s.taint t).readOn thread) := by
  obtain ⟨state, -, lines⟩ := s.like_discard t thread
  constructor
  · simp only [readOn, state, refetch_taint]
  · simp only [readOn, state, refetch_taint]
  · exact lines

theorem like_closeReads : s.closeReads.Like (·.taint t) (s.taint t).closeReads := ⟨rfl, rfl, rfl⟩

theorem like_finish (status : Status) :
    (s.finish status).Like (·.taint t) ((s.taint t).finish status) := by
  have settled : (s.taint t).cell.status = s.cell.status := rfl
  unfold finish
  rw [settled]
  split <;> exact ⟨rfl, rfl, rfl⟩

theorem like_cancel : s.cancel.Like (·.taint t) (s.taint t).cancel := ⟨rfl, rfl, rfl⟩

end Stream

namespace Session

variable {α : Type} (s : Session α) (t : Bool)

def taint : Session α := { s with stream := s.stream.taint t }

/-- The same move of a session whose place is tainted or not. -/
def mark (p : Session α × List (Event α)) : Session α × List (Event α) := (p.1.taint t, p.2)

theorem start_taint : (s.taint t).start = mark t s.start := by
  obtain ⟨state, answer, -⟩ := s.stream.like_launch t
  have stream : (s.taint t).stream = s.stream.taint t := rfl
  unfold start
  simp only [stream, answer, state]
  cases s.stream.launch.answer <;> rfl

theorem deliver_taint (x : α) : (s.taint t).deliver x = mark t (s.deliver x) := by
  obtain ⟨state, answer, -⟩ := s.stream.like_deliver t s.thread x
  have stream : (s.taint t).stream = s.stream.taint t := rfl
  have thread : (s.taint t).thread = s.thread := rfl
  unfold deliver
  simp only [stream, thread, answer, state]
  split <;> rfl

theorem finish_taint (status : Status) : (s.taint t).finish status = mark t (s.finish status) := by
  obtain ⟨state, answer, -⟩ := s.stream.like_finish t status
  have stream : (s.taint t).stream = s.stream.taint t := rfl
  unfold finish
  simp only [stream, answer, state]
  split <;> rfl

theorem take_taint : (s.taint t).take = mark t s.take := by
  obtain ⟨state, answer, -⟩ := s.stream.like_take t s.thread
  have stream : (s.taint t).stream = s.stream.taint t := rfl
  have thread : (s.taint t).thread = s.thread := rfl
  unfold take
  simp only [stream, thread, answer, state]
  rfl

theorem takeAside_taint : (s.taint t).takeAside = mark t s.takeAside := by
  have inspector : (s.taint t).stream.cell.inspector = s.stream.cell.inspector := rfl
  unfold takeAside
  rw [inspector, take_taint]
  split
  · rfl
  · cases ready : s.stream.cell.ready <;>
      simp [Cell.claim, mark, taint, Stream.taint, Cell.taint, ready]

theorem attach_taint (lane : Nat) : (s.taint t).attach lane = mark t (s.attach lane) := by
  have stream : (s.taint t).stream = s.stream.taint t := rfl
  unfold attach
  rw [stream, Stream.attach_taint]
  rfl

/-- A move that ends no callback of an item. -/
theorem step_taint {m : Move α} (kept : ∀ d, m ≠ .decide d)
    (whole : m = .panic → ∀ x rest, s.frames ≠ .inspecting x :: rest) :
    (s.taint t).step m = (s.step m).map (mark t) := by
  have frames : (s.taint t).frames = s.frames := rfl
  cases m with
  | start => exact congrArg some (s.start_taint t)
  | deliver x => exact congrArg some (s.deliver_taint t x)
  | finish status => exact congrArg some (s.finish_taint t status)
  | take => exact congrArg some (s.take_taint t)
  | takeAside => exact congrArg some (s.takeAside_taint t)
  | closeReads | cancel => rfl
  | decide d => exact absurd rfl (kept d)
  | switch thread =>
      cases top : s.frames with
      | nil | cons =>
          simp only [step, frames, top]
          rfl
  | opened lane =>
      cases top : s.frames with
      | nil =>
          simp only [step, frames, top]
          rfl
      | cons f rest =>
          simp only [step, frames, top]
          cases f with
          | opening => exact congrArg some ({ s with frames := rest }.attach_taint t lane)
          | inspecting | closing | ending => rfl
  | back =>
      cases top : s.frames with
      | nil =>
          simp only [step, frames, top]
          rfl
      | cons f rest =>
          simp only [step, frames, top]
          cases f <;> rfl
  | panic =>
      cases top : s.frames with
      | nil =>
          simp only [step, frames, top]
          rfl
      | cons f rest =>
          simp only [step, frames, top]
          cases f with
          | inspecting x => exact absurd top (whole rfl x rest)
          | opening | closing | ending => rfl

end Session

namespace Audience

variable {α : Type} (a : Audience α) (t : Bool)

def taint : Audience α := { a with stream := a.stream.taint t }

/-- Up to the taint a move does the same, be the place tainted before or not. -/
theorem step_taint (m : Move α) :
    ∃ t', (a.taint t).step m = (a.step m).map fun p => (p.1.taint t', p.2) := by
  have stream : (a.taint t).stream = a.stream.taint t := rfl
  have consuming : (a.taint t).consuming = a.consuming := rfl
  cases m with
  | act m =>
      refine ⟨t, ?_⟩
      have ends : (a.taint t).ends m = a.ends m := rfl
      have session : (a.taint t).session = a.session.taint t := rfl
      simp only [step, consuming, ends, session]
      split
      · rfl
      · next fits =>
          obtain ⟨-, stays⟩ : a.consuming = false ∧ a.ends m = false := by simpa using fits
          have kept : ∀ d, m ≠ .decide d := by
            rintro d rfl
            simp [Audience.ends] at stays
          have whole : m = .panic → ∀ x rest, a.session.frames ≠ .inspecting x :: rest := by
            rintro rfl x rest top
            have top : a.frames = .inspecting x :: rest := top
            simp [Audience.ends, top] at stays
          rw [a.session.step_taint t kept whole, Option.map_map, Option.map_map]
          rfl
  | leave e =>
      have frames : (a.taint t).frames = a.frames := rfl
      refine ⟨t || e.cutShort, ?_⟩
      simp only [step, consuming, frames]
      split <;> rfl
  | readOn =>
      obtain ⟨state, answer, -⟩ := a.stream.like_readOn t a.thread
      have thread : (a.taint t).thread = a.thread := rfl
      refine ⟨t, ?_⟩
      simp only [step, consuming, stream, thread, state, answer]
      split <;> rfl
  | goOn =>
      obtain ⟨state, answer, -⟩ := a.stream.like_completeTake t
      have waiting : (a.taint t).waiting = a.waiting := rfl
      have inspector : (a.stream.taint t).cell.inspector = a.stream.cell.inspector := rfl
      refine ⟨t, ?_⟩
      simp only [step, waiting, stream, inspector, state, answer]
      split <;> rfl

theorem lines_taint (m : Move α) : plain ((a.taint t).lines m) = plain (a.lines m) := by
  match m with
  | .act .start => exact (a.stream.like_launch t).lines
  | .act (.deliver x) => exact (a.stream.like_deliver t a.thread x).lines
  | .act .closeReads => exact (a.stream.like_closeReads t).lines
  | .act (.finish status) => exact (a.stream.like_finish t status).lines
  | .act .take => exact (a.stream.like_take t a.thread).lines
  | .act .takeAside =>
      have inspector : (a.taint t).stream.cell.inspector = a.stream.cell.inspector := rfl
      simp only [lines, inspector]
      split
      · exact (a.stream.like_take t a.thread).lines
      · rfl
  | .act .cancel => exact (a.stream.like_cancel t).lines
  | .act (.switch _) | .act (.opened _) | .act (.decide _) | .act .back | .act .panic
  | .leave _ => rfl
  | .readOn => exact (a.stream.like_readOn t a.thread).lines
  | .goOn => exact (a.stream.like_completeTake t).lines

/-! ## Audiences that differ in the taint -/

variable {a} {b : Audience α}

/-- The two differ in nothing but the taint. -/
def Alike (a b : Audience α) : Prop := ∃ t, b = a.taint t

/-- Two outcomes of a run that cannot be told apart. -/
def Matches (p q : Audience α × List (Session.Event α)) : Prop := Alike p.1 q.1 ∧ p.2 = q.2

theorem run_cons {m : Move α} {p : Audience α × List (Session.Event α)} (h : a.step m = some p)
    (ms : List (Move α)) : a.run (m :: ms) = (p.1.run ms).map fun q => (q.1, p.2 ++ q.2) := by
  cases ht : runWith step p.1 ms <;> simp [run, runWith, h, ht]

theorem matches_after (es : List (Session.Event α))
    {r r' : Option (Audience α × List (Session.Event α))} (h : Option.Rel Matches r r') :
    Option.Rel Matches (r.map fun q => (q.1, es ++ q.2)) (r'.map fun q => (q.1, es ++ q.2)) := by
  cases h with
  | none => exact .none
  | some same => exact .some ⟨same.1, congrArg (es ++ ·) same.2⟩

/-- The same runs fit, and nothing but recovered locks tells them apart. -/
theorem alike_run (h : Alike a b) (ms : List (Move α)) :
    Option.Rel Matches (a.run ms) (b.run ms) ∧ plain (a.report ms) = plain (b.report ms) := by
  induction ms generalizing a b with
  | nil => exact ⟨.some ⟨h, rfl⟩, rfl⟩
  | cons m ms ih =>
      obtain ⟨t, rfl⟩ := h
      obtain ⟨t', same⟩ := a.step_taint t m
      cases ha : a.step m with
      | none =>
          have hb : (a.taint t).step m = none := by rw [same, ha, Option.map_none]
          simp [run, runWith, report, ha, hb]
      | some p =>
          have hb : (a.taint t).step m = some (p.1.taint t', p.2) := by
            rw [same, ha, Option.map_some]
          obtain ⟨runs, reports⟩ := ih (a := p.1) ⟨t', rfl⟩
          rw [run_cons ha, run_cons hb]
          exact ⟨matches_after p.2 runs,
            by simp only [report, ha, hb, plain_append, lines_taint, reports]⟩

end Audience

/-! ## Locks -/

/-- Some line tells of a recovered lock. -/
def Recovers (ls : List Line) : Prop := ∃ l ∈ ls, l.isRecovery = true

@[simp] theorem not_recovers_nil : ¬Recovers [] := by simp [Recovers]

@[simp] theorem not_recovers_call (level : Level) (message : String) :
    ¬Recovers [⟨level, callTarget, message⟩] := by
  simp [Recovers, Line.isRecovery, callTarget]

theorem recovers_append {ls ls' : List Line} :
    Recovers (ls ++ ls') ↔ Recovers ls ∨ Recovers ls' := by
  simp only [Recovers, List.mem_append, or_and_right, exists_or]

namespace Cell

variable {α : Type} (c : Cell α)

theorem recovers_lockLines (context : String) :
    Recovers ((c.taint true).lockLines context) := by
  simp [Recovers, lockLines, taint, Line.isRecovery]

theorem recovers_extract : Recovers (c.taint true).extract.lines := c.recovers_lockLines _

/-- A take locks the place only when it finds an item on offer that its thread is not looking at. -/
theorem recovers_take (thread : Nat) :
    Recovers ((c.taint true).take thread).lines ↔ c.inspector ≠ some thread ∧ c.ready = true := by
  have inspector : (c.taint true).inspector = c.inspector := rfl
  unfold take
  rw [inspector]
  split
  · next inside => simp [inside]
  · next outside =>
      cases ready : c.ready with
      | false =>
          have claim : (c.taint true).claim = none := by simp [Cell.claim, taint, ready]
          simp [claim]
      | true =>
          have claim : (c.taint true).claim = some ({ c with ready := false }.taint true) := by
            simp [Cell.claim, taint, ready]
          rw [claim]
          exact iff_of_true { c with ready := false }.recovers_extract ⟨outside, rfl⟩

end Cell

namespace Stream

variable {α : Type} (s : Stream α)

theorem not_recovers_accept : ¬Recovers s.accept.lines := by
  unfold accept
  split <;> simp

/-- A delivery locks the place when it is accepted. -/
theorem recovers_deliver (thread : Nat) (x : α) :
    Recovers ((s.taint true).deliver thread x).lines ↔ s.accept.answer = true := by
  obtain ⟨state, answer, -⟩ := s.like_accept true
  unfold deliver
  simp only [answer, state]
  split
  · next accepted =>
      have locked : Recovers ((s.accept.state.cell.taint true).lockLines
          "CallHandle::publish_and_inspect") := Cell.recovers_lockLines _ _
      exact iff_of_true (recovers_append.mpr (.inr locked)) accepted
  · next rejected => exact iff_of_false (not_recovers_accept _) rejected

theorem not_recovers_launch : ¬Recovers s.launch.lines := by
  unfold launch
  split <;> simp

theorem not_recovers_finish (status : Status) : ¬Recovers (s.finish status).lines := by
  unfold finish
  split
  · simp
  · cases s.phase <;> simp [Phase.isHeld]

theorem not_recovers_cancel : ¬Recovers s.cancel.lines := by
  cases cancelled : s.cell.cancelled <;> simp [cancel, Cell.cancel, cancelled]

end Stream

namespace Audience

variable {α : Type} {a : Audience α}

/-- The move locks the place: it would log a recovered lock, were the place tainted. -/
def Locks (a : Audience α) (m : Move α) : Prop := Recovers ((a.taint true).lines m)

/-- The place is locked by a delivery that is accepted and by whatever moves the item out: a take
that finds it on offer, one that goes on, and a callback that drops it. -/
theorem locks_iff (m : Move α) :
    a.Locks m ↔
      match m with
      | .act (.deliver _) => a.stream.accept.answer = true
      | .act .take | .readOn =>
        a.stream.cell.inspector ≠ some a.thread ∧ a.stream.cell.ready = true
      | .act .takeAside => a.stream.cell.inspector = none ∧ a.stream.cell.ready = true
      | .goOn => True
      | _ => False := by
  have taken : Recovers ((a.stream.taint true).take a.thread).lines ↔
      a.stream.cell.inspector ≠ some a.thread ∧ a.stream.cell.ready = true := by
    rw [Stream.take, Stream.afterTake_lines]
    exact a.stream.cell.recovers_take a.thread
  cases m with
  | readOn => exact a.stream.cell.recovers_take a.thread
  | goOn =>
      refine iff_of_true ?_ trivial
      show Recovers (a.taint true).stream.completeTake.lines
      rw [Stream.completeTake, Stream.afterTake_lines]
      exact a.stream.cell.recovers_extract
  | leave => exact iff_of_false not_recovers_nil id
  | act m =>
      cases m with
      | deliver x => exact a.stream.recovers_deliver a.thread x
      | take => exact taken
      | takeAside =>
          have inspector : (a.taint true).stream.cell.inspector = a.stream.cell.inspector := rfl
          simp only [Locks, lines, inspector]
          split
          · next free =>
              have free : a.stream.cell.inspector = none := Option.isNone_iff_eq_none.mp free
              exact taken.trans (by simp [free])
          · next window =>
              exact iff_of_false not_recovers_nil fun free => window (by simp [free.1])
      | start => exact iff_of_false (a.stream.taint true).not_recovers_launch id
      | finish status => exact iff_of_false ((a.stream.taint true).not_recovers_finish status) id
      | cancel => exact iff_of_false (a.stream.taint true).not_recovers_cancel id
      | closeReads => exact iff_of_false (not_recovers_call _ _) id
      | switch | opened | decide | back | panic => exact iff_of_false not_recovers_nil id

end Audience

end CallBridge
