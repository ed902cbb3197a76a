import CallBridge.Proofs.Stream.Audience
import CallBridge.Proofs.Unary.Inquiry

/-!
# Requests to stop, as the calls see them

A request to stop sets a flag of the call and does nothing else. No operation of a call reads the
flag, except the request itself, which is logged once. So an operation on the same call with another
flag is the same operation: it answers the same, logs the same, and leaves the same state behind but
for the flag. Here this is shown of every transition, and from there of every move of a unary call
and of a stream.
-/

namespace CallBridge

namespace Cell

variable {α : Type} (c : Cell α) (b : Bool)

/-- The same cell, asked to stop or not. -/
def flag : Cell α := { c with cancelled := b }

@[simp] theorem extract_flag : (c.flag b).extract = c.extract.within (·.flag b) := rfl

@[simp] theorem claim_flag : (c.flag b).claim = c.claim.map (·.flag b) := by
  cases ready : c.ready <;> simp [claim, flag, ready]

@[simp] theorem take_flag (thread : Nat) :
    (c.flag b).take thread = (c.take thread).within (·.flag b) := by
  have inspector : (c.flag b).inspector = c.inspector := rfl
  unfold take
  rw [inspector, claim_flag]
  split
  · rfl
  · cases c.claim <;> rfl

end Cell

namespace Stream

variable {α : Type} (s : Stream α) (b : Bool)

def flag : Stream α := { s with cell := s.cell.flag b }

@[simp] theorem flag_phase : (s.flag b).phase = s.phase := rfl

@[simp] theorem flag_terminated : (s.flag b).cell.terminated = s.cell.terminated := rfl

@[simp] theorem launch_flag : (s.flag b).launch = s.launch.within (·.flag b) := by
  have started : (s.flag b).started = s.started := rfl
  unfold launch
  rw [started]
  split <;> rfl

@[simp] theorem attach_flag (lane : Nat) :
    (s.flag b).attach lane = ((s.attach lane).1.flag b, (s.attach lane).2) := by
  unfold attach
  rw [flag_phase, flag_terminated]
  split <;> rfl

@[simp] theorem refetch_flag : (s.flag b).refetch = (s.refetch.1.flag b, s.refetch.2) := by
  unfold refetch
  rw [flag_phase, flag_terminated]
  split <;> rfl

@[simp] theorem resume_flag : (s.flag b).resume = (s.resume.1.flag b, s.resume.2) := by
  unfold resume
  rw [flag_phase, flag_terminated]
  split <;> rfl

@[simp] theorem deliver_flag (thread : Nat) (x : α) :
    (s.flag b).deliver thread x = (s.deliver thread x).within (·.flag b) := by
  have accept : (s.flag b).accept = s.accept.within (·.flag b) := by
    unfold accept
    rw [flag_phase, flag_terminated]
    split <;> rfl
  unfold deliver
  simp only [accept, Outcome.within_answer]
  split <;> rfl

theorem afterTake_flag (o : Outcome (Cell α) (Option α)) :
    (s.flag b).afterTake (o.within (·.flag b)) = (s.afterTake o).within (·.flag b) := by
  unfold afterTake
  cases taken : o.answer with
  | none =>
      simp only [Outcome.within_answer, taken]
      rfl
  | some x =>
      have resumed := resume_flag { s with cell := o.state } b
      have same : { s.flag b with cell := (o.within (·.flag b)).state } =
          { s with cell := o.state }.flag b := rfl
      simp only [Outcome.within_answer, taken, same, resumed]
      rfl

@[simp] theorem take_flag (thread : Nat) :
    (s.flag b).take thread = (s.take thread).within (·.flag b) := by
  have cell : (s.flag b).cell = s.cell.flag b := rfl
  rw [take, cell, Cell.take_flag, afterTake_flag]
  rfl

@[simp] theorem completeTake_flag :
    (s.flag b).completeTake = s.completeTake.within (·.flag b) := by
  have cell : (s.flag b).cell = s.cell.flag b := rfl
  rw [completeTake, cell, Cell.extract_flag, afterTake_flag]
  rfl

@[simp] theorem readOn_flag (thread : Nat) :
    (s.flag b).readOn thread = (s.readOn thread).within (·.flag b) := by
  have cell : (s.flag b).cell = s.cell.flag b := rfl
  have discard : ((s.flag b).discard thread) = (s.discard thread).within (·.flag b) := by
    simp only [Stream.discard, cell, Cell.take_flag]
    rfl
  simp only [readOn, discard, Outcome.within_state, refetch_flag]
  rfl

@[simp] theorem finish_flag (status : Status) :
    (s.flag b).finish status = (s.finish status).within (·.flag b) := by
  have settled : (s.flag b).cell.status = s.cell.status := rfl
  unfold finish
  rw [settled]
  split <;> rfl

end Stream

namespace Session

variable {α : Type} (s : Session α) (b : Bool)

def flag : Session α := { s with stream := s.stream.flag b }

/-- What a move comes to if the stream was asked to stop or not. -/
def flagged (p : Session α × List (Event α)) : Session α × List (Event α) := (p.1.flag b, p.2)

theorem start_flag : (s.flag b).start = flagged b s.start := by
  have stream : (s.flag b).stream = s.stream.flag b := rfl
  simp only [start, stream, Stream.launch_flag, Outcome.within_answer, Outcome.within_state]
  cases s.stream.launch.answer <;> rfl

theorem deliver_flag (x : α) : (s.flag b).deliver x = flagged b (s.deliver x) := by
  have stream : (s.flag b).stream = s.stream.flag b := rfl
  have thread : (s.flag b).thread = s.thread := rfl
  simp only [deliver, stream, thread, Stream.deliver_flag, Outcome.within_answer,
    Outcome.within_state]
  split <;> rfl

theorem finish_flag (status : Status) : (s.flag b).finish status = flagged b (s.finish status) := by
  have stream : (s.flag b).stream = s.stream.flag b := rfl
  simp only [finish, stream, Stream.finish_flag, Outcome.within_answer, Outcome.within_state]
  split <;> rfl

theorem take_flag : (s.flag b).take = flagged b s.take := by
  have stream : (s.flag b).stream = s.stream.flag b := rfl
  have thread : (s.flag b).thread = s.thread := rfl
  simp only [take, stream, thread, Stream.take_flag, Outcome.within_answer, Outcome.within_state]
  rfl

theorem takeAside_flag : (s.flag b).takeAside = flagged b s.takeAside := by
  have inspector : (s.flag b).stream.cell.inspector = s.stream.cell.inspector := rfl
  unfold takeAside
  rw [inspector, take_flag]
  split
  · rfl
  · have cell : (s.flag b).stream.cell = s.stream.cell.flag b := rfl
    rw [cell, Cell.claim_flag]
    cases s.stream.cell.claim <;> rfl

theorem attach_flag (lane : Nat) : (s.flag b).attach lane = flagged b (s.attach lane) := by
  have stream : (s.flag b).stream = s.stream.flag b := rfl
  simp only [attach, stream, Stream.attach_flag]
  rfl

theorem completeTake_flag : (s.flag b).completeTake = flagged b s.completeTake := by
  have stream : (s.flag b).stream = s.stream.flag b := rfl
  have claimed : (s.flag b).claimed = s.claimed := rfl
  simp only [completeTake, stream, claimed, Stream.completeTake_flag, Outcome.within_answer,
    Outcome.within_state]
  split <;> rfl

theorem readOn_flag (e : Ending) : (s.flag b).readOn e = flagged b (s.readOn e) := by
  have stream : (s.flag b).stream = s.stream.flag b := rfl
  have thread : (s.flag b).thread = s.thread := rfl
  simp only [readOn, stream, thread, Stream.readOn_flag, Outcome.within_answer,
    Outcome.within_state]
  split <;> rfl

theorem leave_flag (e : Ending) : (s.flag b).leave e = flagged b (s.leave e) := by
  have ended : { s.flag b with stream := (s.flag b).stream.endInspection e.cutShort } =
      { s with stream := s.stream.endInspection e.cutShort }.flag b := rfl
  simp only [leave, ended, completeTake_flag, flagged, readOn_flag]

theorem pop_flag (frames : List (Frame α)) :
    { s.flag b with frames } = { s with frames }.flag b :=
  rfl

theorem step_flag {m : Move α} (other : m ≠ .cancel) :
    (s.flag b).step m = (s.step m).map (flagged b) := by
  have frames : (s.flag b).frames = s.frames := rfl
  cases m with
  | start => exact congrArg some (s.start_flag b)
  | deliver x => exact congrArg some (s.deliver_flag b x)
  | finish status => exact congrArg some (s.finish_flag b status)
  | take => exact congrArg some (s.take_flag b)
  | takeAside => exact congrArg some (s.takeAside_flag b)
  | closeReads => rfl
  | cancel => exact absurd rfl other
  | switch thread =>
      simp only [step, frames]
      split <;> simp_all [flagged, flag]
  | opened lane =>
      cases top : s.frames with
      | nil => simp [step, frames, top]
      | cons f rest =>
          cases f with
          | opening =>
              have popped := s.pop_flag b rest
              simp [step, frames, top, popped, attach_flag]
          | inspecting | closing | ending => simp [step, frames, top]
  | decide d =>
      cases top : s.frames with
      | nil => simp [step, frames, top]
      | cons f rest =>
          cases f with
          | inspecting x =>
              have popped := s.pop_flag b rest
              simp [step, frames, top, popped, leave_flag]
          | opening | closing | ending => simp [step, frames, top]
  | back =>
      cases top : s.frames with
      | nil => simp [step, frames, top]
      | cons f rest => cases f <;> simp [step, top, flagged, flag]
  | panic =>
      cases top : s.frames with
      | nil => simp [step, frames, top]
      | cons f rest =>
          cases f with
          | inspecting x =>
              have popped := s.pop_flag b rest
              simp [step, frames, top, popped, leave_flag]
          | opening | closing | ending => simp [step, top, flagged, flag]

end Session

namespace Audience

variable {α : Type} (a : Audience α) (b : Bool)

def flag : Audience α := { a with stream := a.stream.flag b }

def Move.isRequest : Move α → Bool
  | .act .cancel => true
  | _ => false

/-- A move that is not a request to stop does the same, whether there has been one or not. -/
theorem step_flag {m : Move α} (other : m.isRequest = false) :
    (a.flag b).step m = (a.step m).map fun p => (p.1.flag b, p.2) := by
  have stream : (a.flag b).stream = a.stream.flag b := rfl
  have consuming : (a.flag b).consuming = a.consuming := rfl
  cases m with
  | act m =>
      have ends : (a.flag b).ends m = a.ends m := rfl
      have session : (a.flag b).session = a.session.flag b := rfl
      have unasking : m ≠ .cancel := by
        rintro rfl
        cases other
      simp only [step, consuming, ends, session]
      split
      · rfl
      · rw [a.session.step_flag b unasking, Option.map_map, Option.map_map]
        rfl
  | leave e =>
      have frames : (a.flag b).frames = a.frames := rfl
      simp only [step, consuming, frames]
      split <;> rfl
  | readOn =>
      have thread : (a.flag b).thread = a.thread := rfl
      simp only [step, consuming, stream, thread, Stream.readOn_flag, Outcome.within_state,
        Outcome.within_answer]
      split <;> rfl
  | goOn =>
      have waiting : (a.flag b).waiting = a.waiting := rfl
      have inspector : (a.stream.flag b).cell.inspector = a.stream.cell.inspector := rfl
      simp only [step, waiting, stream, inspector, Stream.completeTake_flag, Outcome.within_state,
        Outcome.within_answer]
      split <;> rfl

theorem lines_flag {m : Move α} (other : m.isRequest = false) : (a.flag b).lines m = a.lines m := by
  have stream : (a.flag b).stream = a.stream.flag b := rfl
  have thread : (a.flag b).thread = a.thread := rfl
  have inspector : (a.stream.flag b).cell.inspector = a.stream.cell.inspector := rfl
  cases m with
  | act m =>
      cases m with
      | start => simp only [lines, stream, Stream.launch_flag, Outcome.within_lines]
      | deliver x => simp only [lines, stream, thread, Stream.deliver_flag, Outcome.within_lines]
      | finish status => simp only [lines, stream, Stream.finish_flag, Outcome.within_lines]
      | take => simp only [lines, stream, thread, Stream.take_flag, Outcome.within_lines]
      | takeAside =>
          simp only [lines, stream, thread, inspector, Stream.take_flag, Outcome.within_lines]
      | cancel => cases other
      | closeReads | switch | opened | decide | back | panic => rfl
  | leave e => rfl
  | readOn => simp only [lines, stream, thread, Stream.readOn_flag, Outcome.within_lines]
  | goOn => simp only [lines, stream, Stream.completeTake_flag, Outcome.within_lines]

/-- The flag is kept by what does not depend on it. -/
theorem cancelled_of_step {a : Audience α} {m : Move α}
    {p : Audience α × List (Session.Event α)} (h : a.step m = some p)
    (other : m.isRequest = false) : p.1.stream.cell.cancelled = a.stream.cell.cancelled := by
  have same : a.step m = (a.step m).map fun p => (p.1.flag a.stream.cell.cancelled, p.2) :=
    a.step_flag a.stream.cell.cancelled other
  rw [h] at same
  have kept : p.1 = p.1.flag a.stream.cell.cancelled := congrArg Prod.fst (Option.some.inj same)
  rw [kept]
  rfl

end Audience

namespace Unary

variable {α : Type} (u : Unary α) (b : Bool)

def flag : Unary α := { u with cell := u.cell.flag b }

@[simp] theorem launch_flag : (u.flag b).launch = u.launch.within (·.flag b) := by
  have started : (u.flag b).started = u.started := rfl
  unfold launch
  rw [started]
  split <;> rfl

theorem complete_flag (result : Except Status α) :
    (u.flag b).complete result = (u.complete result).within (·.flag b) := by
  have terminated : (u.flag b).cell.terminated = u.cell.terminated := rfl
  unfold complete
  rw [terminated]
  split
  · rfl
  · cases result <;> rfl

@[simp] theorem take_flag (thread : Nat) :
    (u.flag b).take thread = (u.take thread).within (·.flag b) := by
  have cell : (u.flag b).cell = u.cell.flag b := rfl
  simp only [take, cell, Cell.take_flag]
  rfl

end Unary

namespace Inquiry

variable {α : Type} (s : Inquiry α) (b : Bool)

def flag : Inquiry α := { s with unary := s.unary.flag b }

def Move.isRequest : Move α → Bool
  | .act _ .cancel => true
  | _ => false

/-- What a move logs. Code outside the bridge may log more. A failure is logged when its status is
recorded, and a take locks the place when it moves the response out. -/
def lines (s : Inquiry α) : Move α → List Line
  | .act _ .start => s.unary.launch.lines
  | .act _ (.complete r) => if s.unary.cell.terminated then (s.unary.complete r).lines else []
  | .act p .take => if s.unary.cell.inspector = some p then (s.unary.take p).lines else []
  | .act _ .cancel => s.unary.cancel.lines
  | .act _ .back | .act _ .panic => []
  | .proceed =>
    match s.report with
    | some (_, .recording (.error status)) => (s.unary.complete (.error status)).lines
    | some (_, .publishing x) => (s.unary.cell.publish x).lines
    | _ => []
  | .extract _ => s.unary.completeTake.lines

theorem act_flag (p : Nat) {o : Operation α} (other : (Move.act p o).isRequest = false) :
    (s.flag b).act p o = (s.act p o).map fun q => (q.1.flag b, q.2) := by
  have unary : (s.flag b).unary = s.unary.flag b := rfl
  cases o with
  | start =>
      simp only [act, unary, Unary.launch_flag, Outcome.within_answer, Outcome.within_state]
      cases s.unary.launch.answer <;> rfl
  | complete r =>
      have report : (s.flag b).report = s.report := rfl
      have terminated : (s.unary.flag b).cell.terminated = s.unary.cell.terminated := rfl
      simp only [act, report, unary, terminated]
      split
      · rfl
      · split <;> rfl
  | take =>
      have inspector : (s.unary.flag b).cell.inspector = s.unary.cell.inspector := rfl
      simp only [act, unary, inspector]
      split
      · rfl
      · have cell : (s.unary.flag b).cell = s.unary.cell.flag b := rfl
        rw [cell, Cell.claim_flag]
        cases s.unary.cell.claim <;> rfl
  | cancel => cases other
  | back | panic =>
      have frames : (s.flag b).frames p = s.frames p := rfl
      simp only [act, frames]
      cases s.frames p <;> rfl

theorem step_flag {m : Move α} (other : m.isRequest = false) :
    (s.flag b).step m = (s.step m).map fun q => (q.1.flag b, q.2) := by
  cases m with
  | act p o =>
      have free : (s.flag b).free p = s.free p := rfl
      simp only [step, free]
      split
      · exact s.act_flag b p other
      · rfl
  | proceed =>
      have report : (s.flag b).report = s.report := rfl
      simp only [step, proceed, report]
      split <;> rfl
  | extract p =>
      have claims : (s.flag b).claims = s.claims := rfl
      simp only [step, claims]
      split <;> rfl

theorem lines_flag {m : Move α} (other : m.isRequest = false) : (s.flag b).lines m = s.lines m := by
  have unary : (s.flag b).unary = s.unary.flag b := rfl
  cases m with
  | act p o =>
      cases o with
      | start => simp only [lines, unary, Unary.launch_flag, Outcome.within_lines]
      | complete r =>
          have terminated : (s.unary.flag b).cell.terminated = s.unary.cell.terminated := rfl
          simp only [lines, unary, terminated, Unary.complete_flag, Outcome.within_lines]
      | take =>
          have inspector : (s.unary.flag b).cell.inspector = s.unary.cell.inspector := rfl
          simp only [lines, unary, inspector, Unary.take_flag, Outcome.within_lines]
      | cancel => cases other
      | back | panic => rfl
  | proceed =>
      have report : (s.flag b).report = s.report := rfl
      simp only [lines, report, unary, Unary.complete_flag, Outcome.within_lines]
      split <;> rfl
  | extract p => rfl

theorem cancelled_of_step {s : Inquiry α} {m : Move α}
    {p : Inquiry α × List (Inquiry.Event α)} (h : s.step m = some p)
    (other : m.isRequest = false) : p.1.unary.cell.cancelled = s.unary.cell.cancelled := by
  have same : s.step m = (s.step m).map fun p => (p.1.flag s.unary.cell.cancelled, p.2) :=
    s.step_flag s.unary.cell.cancelled other
  rw [h] at same
  have kept : p.1 = p.1.flag s.unary.cell.cancelled := congrArg Prod.fst (Option.some.inj same)
  rw [kept]
  rfl

end Inquiry

end CallBridge
