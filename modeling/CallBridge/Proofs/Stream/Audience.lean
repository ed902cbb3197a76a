import CallBridge.Proofs.Stream.HeldItem

/-!
# Audiences: takes that wait for a callback

While the callback of an item runs, a take of another thread can claim the item and then has to wait
for the callback to be over. In a session such a take goes on as soon as the callback is over, and
so before a callback that consumed its item reads on. A thread that waits is woken when it is, so
here the waiting takes go on whenever the place is free: at once, after the delivery has read on, or
not until further items have come.

An audience is a stream with the operations under way on it and the number of takes that wait. Its
moves are those of a session, but for the end of an item's callback, which is cut where a waiting
take can come between. The parts put together are the whole end again (`run_leave`), so whatever a
session can do, an audience can (`run_of_session`).
-/

namespace CallBridge

/-- One stream, the operations under way on it, and the takes of other threads that wait. -/
structure Audience (α : Type) where
  stream : Stream α
  thread : Nat := 0
  frames : List (Session.Frame α) := []
  /-- The takes that have claimed an item and have not gone on since. -/
  waiting : Nat := 0
  /-- A delivery whose callback has consumed the item is still to drop it and to read on. -/
  consuming : Bool := false
deriving DecidableEq, Repr

namespace Audience

open Session (Ending Frame asks running)

/-- One move of an audience. -/
inductive Move (α : Type) where
  | act (m : Session.Move α)
  | leave (e : Ending)
  | readOn
  | goOn
deriving DecidableEq, Repr

variable {α : Type}

def fresh (id : CallId) (timeout : Option Nat) (thread : Nat) : Audience α where
  stream := .create id timeout
  thread := thread

/-- The stream and what is under way on it, without the takes that wait. -/
def session (a : Audience α) : Session α :=
  { stream := a.stream, thread := a.thread, frames := a.frames }

/-- Go on as the session has gone on. A take that has claimed the item there waits here. -/
def follow (a : Audience α) (p : Session α × List (Session.Event α)) :
    Audience α × List (Session.Event α) :=
  ({ a with
      stream := p.1.stream
      thread := p.1.thread
      frames := p.1.frames
      waiting := a.waiting + p.1.claimed.toNat },
    p.2)

/-- A move of the session that ends the callback of an item. -/
def ends (a : Audience α) : Session.Move α → Bool
  | .decide _ => true
  | .panic => a.frames.head?.any fun | .inspecting _ => true | _ => false
  | _ => false

/-! ## Moves and runs -/

/-- One move and what can be seen of it; nothing when the move does not fit. Between the end of a
callback and the read that follows, only takes that wait go on. -/
def step (a : Audience α) : Move α → Option (Audience α × List (Session.Event α))
  | .act m => if a.consuming || a.ends m then none else (a.session.step m).map a.follow
  | .leave e =>
    match a.consuming, a.frames with
    | false, .inspecting _ :: rest =>
      some
        ({ a with
            stream := a.stream.endInspection e.cutShort
            frames := rest
            consuming := e.consumes },
          [.left e])
    | _, _ => none
  | .readOn =>
    if a.consuming then
      let o := a.stream.readOn a.thread
      some ({ a with stream := o.state, consuming := false }, asks .continued o.answer)
    else none
  | .goOn =>
    if 0 < a.waiting ∧ a.stream.cell.inspector = none then
      let o := a.stream.completeTake
      some
        ({ a with stream := o.state, waiting := a.waiting - 1 },
          .tookLate o.answer.1 :: asks .resumed o.answer.2)
    else none

theorem step_act {a : Audience α} {m : Session.Move α} (calm : a.consuming = false)
    (stays : a.ends m = false) : a.step (.act m) = (a.session.step m).map a.follow := by
  simp [step, calm, stays]

def run (a : Audience α) (ms : List (Move α)) : Option (Audience α × List (Session.Event α)) :=
  runWith step a ms

/-- What a move logs. Code outside the bridge may log more. -/
def lines (a : Audience α) : Move α → List Line
  | .act .start => a.stream.launch.lines
  | .act (.deliver x) => (a.stream.deliver a.thread x).lines
  | .act .closeReads => a.stream.closeReads.lines
  | .act (.finish status) => (a.stream.finish status).lines
  | .act .take => (a.stream.take a.thread).lines
  | .act .takeAside =>
    if a.stream.cell.inspector.isNone then (a.stream.take a.thread).lines else []
  | .act .cancel => a.stream.cancel.lines
  | .act (.switch _) | .act (.opened _) | .act (.decide _) | .act .back | .act .panic => []
  | .leave _ => []
  | .readOn => (a.stream.readOn a.thread).lines
  | .goOn => a.stream.completeTake.lines

/-- What a run logs, as far as its moves fit. -/
def report (a : Audience α) : List (Move α) → List Line
  | [] => []
  | m :: ms =>
    match a.step m with
    | some (b, _) => a.lines m ++ b.report ms
    | none => []

/-! ## What a move can come to -/

inductive Moved (a : Audience α) : Audience α × List (Session.Event α) → Prop where
  | acted {p : Session α × List (Session.Event α)} (calm : a.consuming = false)
      (moved : Session.Moved a.session p) (unclaimed : p.1.claimed = false)
      (stays : ∀ e, .left e ∉ p.2) : Moved a (a.follow p)
  | claimed (calm : a.consuming = false) (window : a.stream.cell.inspector.isSome)
      (ready : a.stream.cell.ready = true) :
      Moved a
        ({ a with
            stream := { a.stream with cell := { a.stream.cell with ready := false } }
            waiting := a.waiting + 1 },
          [.claimed])
  | left (e : Ending) {x : α} {rest : List (Frame α)} (calm : a.consuming = false)
      (top : a.frames = .inspecting x :: rest) :
      Moved a
        ({ a with
            stream := a.stream.endInspection e.cutShort
            frames := rest
            consuming := e.consumes },
          [.left e])
  | readOn (consuming : a.consuming = true) :
      Moved a
        ({ a with stream := (a.stream.readOn a.thread).state, consuming := false },
          asks .continued (a.stream.readOn a.thread).answer)
  | wentOn (due : 0 < a.waiting) (free : a.stream.cell.inspector = none) :
      Moved a
        ({ a with stream := a.stream.completeTake.state, waiting := a.waiting - 1 },
          .tookLate a.stream.completeTake.answer.1 ::
            asks .resumed a.stream.completeTake.answer.2)

variable {a b : Audience α} {m : Move α} {p : Audience α × List (Session.Event α)}

theorem left_not_mem_of_step {m : Session.Move α} {p : Session α × List (Session.Event α)}
    {e : Ending} (h : a.session.step m = some p) (stays : a.ends m = false) : .left e ∉ p.2 := by
  intro told
  obtain ⟨x, rest, shown, -⟩ := Session.eq_leave_of_left (Session.moved_of_step h) told
  have top : a.frames = .inspecting x :: rest := shown
  cases m with
  | decide d => exact nomatch stays
  | panic => simp [ends, top] at stays
  | start =>
      obtain rfl := Option.some.inj h
      rcases a.stream.launch_cases with ⟨-, ha, -⟩ | ⟨-, ha, -⟩ <;>
        simp [Session.start, session, ha] at told
  | deliver y =>
      obtain rfl := Option.some.inj h
      rcases a.stream.deliver_cases a.thread y with ⟨lane, -, -, ha, -⟩ | ⟨-, ha, -⟩ <;>
        simp [Session.deliver, session, ha] at told
  | finish status =>
      obtain rfl := Option.some.inj h
      rcases a.stream.finish_cases status with ⟨-, ha, -⟩ | ⟨-, ha, -⟩ <;>
        simp [Session.finish, session, ha] at told
  | take =>
      obtain rfl := Option.some.inj h
      simp [Session.take, Session.left_not_mem_asks] at told
  | takeAside =>
      obtain rfl := Option.some.inj h
      unfold Session.takeAside at told
      split at told
      · simp [Session.take, Session.left_not_mem_asks] at told
      · split at told <;> simp at told
  | closeReads | cancel =>
      obtain rfl := Option.some.inj h
      simp [Session.closeReads] at told
  | switch thread | opened lane | back => simp [Session.step, shown] at h

/-- Among the moves that end no callback of an item, only that of another thread's take claims. -/
theorem moved_follow {m : Session.Move α} {p : Session α × List (Session.Event α)}
    (h : a.session.step m = some p) (calm : a.consuming = false) (stays : a.ends m = false) :
    Moved a (a.follow p) := by
  have silent : ∀ e, .left e ∉ p.2 := fun _ => left_not_mem_of_step h stays
  have moved : Session.Moved a.session p := Session.moved_of_step h
  cases claimed : p.1.claimed with
  | false => exact .acted calm moved claimed silent
  | true =>
      cases moved with
      | claimed window ready => exact .claimed calm window ready
      | left e top => exact absurd (Session.left_mem_leave.mpr rfl) (silent e)
      | switched | launched | refused | attached | accepted | rejected | closed | ended | ignored
      | returned | took | tookNothing | cancelled => exact nomatch claimed

theorem moved_of_step (h : a.step m = some p) : Moved a p := by
  cases m with
  | act m =>
      simp only [step] at h
      split at h
      · exact nomatch h
      · next fits =>
          obtain ⟨calm, stays⟩ : a.consuming = false ∧ a.ends m = false := by simpa using fits
          obtain ⟨q, hq, rfl⟩ := Option.map_eq_some_iff.mp h
          exact moved_follow hq calm stays
  | leave e =>
      simp only [step] at h
      split at h
      · next calm top => exact Option.some.inj h ▸ .left e calm top
      · exact nomatch h
  | readOn =>
      simp only [step] at h
      split at h
      · next consuming => exact Option.some.inj h ▸ .readOn consuming
      · exact nomatch h
  | goOn =>
      simp only [step] at h
      split at h
      · next fits => exact Option.some.inj h ▸ .wentOn fits.1 fits.2
      · exact nomatch h

theorem run_invariant {P : Audience α → List (Session.Event α) → Prop}
    (keep : ∀ {a log p}, P a log → Moved a p → P p.1 (log ++ p.2))
    {ms : List (Move α)} {log : List (Session.Event α)} (h : a.run ms = some (b, log))
    (ha : P a []) : P b log := by
  refine runWith_invariant (P := P) ?_ h ha
  intro u before m v es hu hstep
  exact keep hu (moved_of_step hstep)

/-! ## Sessions -/

/-- The session as an audience: a take that has claimed the item waits. -/
def ofSession (s : Session α) : Audience α :=
  { stream := s.stream, thread := s.thread, frames := s.frames, waiting := s.claimed.toNat }

/-- The moves that make up the whole end of a callback, when a take that has claimed the item goes
on at once. -/
def leaveMoves (claimed : Bool) (e : Ending) : List (Move α) :=
  .leave e :: ((if claimed then [.goOn] else []) ++ if e.consumes then [.readOn] else [])

/-- Put together, the parts are the whole end as sessions have it. -/
theorem run_leave {s : Session α} {x : α} {rest : List (Frame α)} (e : Ending)
    (top : s.frames = .inspecting x :: rest) :
    (ofSession s).run (leaveMoves s.claimed e) =
      some (ofSession ({ s with frames := rest }.leave e).1, ({ s with frames := rest }.leave e).2)
    := by
  cases claimed : s.claimed <;> cases consumes : e.consumes <;>
    simp [leaveMoves, run, runWith, step, ofSession, top, claimed, consumes, Session.leave,
      Session.completeTake, Session.readOn, Stream.endInspection, Cell.endInspection]

/-- A claim does not matter to the moves that end no callback of an item. -/
theorem step_ofSession {s : Session α} {m : Session.Move α}
    {p : Session α × List (Session.Event α)} (h : s.step m = some p)
    (stays : (ofSession s).ends m = false)
    (offered : s.stream.cell.ready = true → s.claimed = false) :
    (ofSession s).step (.act m) = some (ofSession p.1, p.2) := by
  rw [step_act rfl stays]
  have stream : (ofSession s).session.stream = s.stream := rfl
  have thread : (ofSession s).session.thread = s.thread := rfl
  have frames : (ofSession s).session.frames = s.frames := rfl
  cases m with
  | start =>
      obtain rfl := Option.some.inj h
      simp only [Session.step, Session.start, stream]
      cases s.stream.launch.answer <;> rfl
  | deliver x =>
      obtain rfl := Option.some.inj h
      simp only [Session.step, Session.deliver, stream, thread]
      split <;> rfl
  | finish status =>
      obtain rfl := Option.some.inj h
      simp only [Session.step, Session.finish, stream]
      split <;> rfl
  | closeReads | take | cancel =>
      obtain rfl := Option.some.inj h
      rfl
  | takeAside =>
      obtain rfl := Option.some.inj h
      simp only [Session.step, Session.takeAside, stream]
      split
      · rfl
      · cases ready : s.stream.cell.ready with
        | true =>
            have unclaimed := offered ready
            simp [Cell.claim, ready, follow, ofSession, session, unclaimed]
        | false =>
            simp only [Cell.claim, ready]
            rfl
  | decide d => exact Bool.noConfusion stays
  | switch thread =>
      cases top : s.frames with
      | nil =>
          simp only [Session.step, top, Option.some.injEq] at h
          simp only [Session.step, frames, top, ← h]
          rfl
      | cons f rest => simp [Session.step, top] at h
  | opened lane =>
      cases top : s.frames with
      | nil => simp [Session.step, top] at h
      | cons f rest =>
          cases f with
          | opening =>
              simp only [Session.step, top, Option.some.injEq] at h
              simp only [Session.step, frames, top, ← h]
              rfl
          | inspecting | closing | ending => simp [Session.step, top] at h
  | back =>
      cases top : s.frames with
      | nil => simp [Session.step, top] at h
      | cons f rest =>
          cases f with
          | closing | ending =>
              simp only [Session.step, top, Option.some.injEq] at h
              simp only [Session.step, frames, top, ← h]
              rfl
          | opening | inspecting => simp [Session.step, top] at h
  | panic =>
      cases top : s.frames with
      | nil => simp [Session.step, top] at h
      | cons f rest =>
          cases f with
          | opening | closing | ending =>
              simp only [Session.step, top, Option.some.injEq] at h
              simp only [Session.step, frames, top, ← h]
              rfl
          | inspecting x => simp [ends, ofSession, top] at stays

theorem leave_of_ends {s : Session α} {m : Session.Move α} {p : Session α × List (Session.Event α)}
    (h : s.step m = some p) (ended : (ofSession s).ends m = true) :
    ∃ e x rest, s.frames = .inspecting x :: rest ∧ p = { s with frames := rest }.leave e := by
  cases top : s.frames with
  | nil => cases m <;> simp [ends, ofSession, Session.step, top] at ended h
  | cons f rest =>
      cases f with
      | opening | closing | ending =>
          cases m <;> simp [ends, ofSession, Session.step, top] at ended h
      | inspecting x =>
          cases m with
          | decide d =>
              simp only [Session.step, top, Option.some.injEq] at h
              exact ⟨.decided d, x, rest, rfl, h.symm⟩
          | panic =>
              simp only [Session.step, top, Option.some.injEq] at h
              exact ⟨.brokenOff, x, rest, rfl, h.symm⟩
          | _ => simp [ends] at ended

/-- What a session can do in one move, an audience can. -/
theorem run_of_step {s t : Session α} {l : Session.Ledger α} (hand : Session.Hand s l)
    {m : Session.Move α} {es : List (Session.Event α)} (h : s.step m = some (t, es)) :
    ∃ ms', (ofSession s).run ms' = some (ofSession t, es) := by
  cases stays : (ofSession s).ends m with
  | false =>
      have acts := step_ofSession h stays hand.unclaimed
      exact ⟨[.act m], by simp [run, runWith, acts]⟩
  | true =>
      obtain ⟨e, x, rest, top, heq⟩ := leave_of_ends h stays
      have leaves := run_leave e top
      rw [← heq] at leaves
      exact ⟨leaveMoves s.claimed e, leaves⟩

/-- Whatever a session can do, an audience can. -/
theorem run_of_session {id : CallId} {timeout : Option Nat} {thread : Nat}
    {ms : List (Session.Move α)} {s : Session α} {log : List (Session.Event α)}
    (h : (Session.fresh id timeout thread).run ms = some (s, log)) :
    ∃ ms', (fresh id timeout thread).run ms' = some (ofSession s, log) := by
  -- Along with the run goes what tells that nothing on offer has been claimed.
  have both : (∃ l, Session.Hand s l) ∧
      ∃ ms', (fresh id timeout thread).run ms' = some (ofSession s, [] ++ log) := by
    refine runWith_invariant (P := fun s log => (∃ l, Session.Hand s l) ∧
      ∃ ms', (fresh id timeout thread).run ms' = some (ofSession s, log)) ?_ h
      ⟨⟨[], Session.hand_fresh id timeout thread⟩, [], rfl⟩
    rintro s before m t es ⟨⟨l, hand⟩, ms', run⟩ hstep
    obtain ⟨l', -, hand'⟩ := Session.hand_moved hand (Session.moved_of_step hstep)
    obtain ⟨more, later⟩ := run_of_step hand hstep
    exact ⟨⟨l', hand'⟩, ms' ++ more, runWith_append run later⟩
  exact both.2

end Audience

end CallBridge
