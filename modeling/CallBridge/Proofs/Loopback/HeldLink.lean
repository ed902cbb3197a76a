import CallBridge.Proofs.Loopback.Brittle

/-!
# Links and those who hold them

The application holds a call by references: names of its own, entries of registers, payloads of
queued events, events in the hands of handlers. A reference can be copied by anybody who has one and
can pass from one holder to the next, and when the last one goes the call goes with it and asks to
be stopped.

The task of a stream holds no reference while it waits. Only to report something it looks for the
call, and keeps it until the report is over, callbacks included. So between two reports the call can
go, and then the report finds nobody to tell: the task ends on its own account, with the status that
it has come to by then. Here a poll of a task is cut in two: it goes past its wait, and it tells the
call, if there still is one.
-/

namespace CallBridge

/-- Who has a reference to a call. -/
inductive Holder where
  | name
  | entry
  | queued
  | handled
deriving DecidableEq, Repr

namespace Holder

inductive Move where
  | copy (target : Holder)
  | pass (source target : Holder)
  | drop (h : Holder)
deriving DecidableEq, Repr

/-- The holders after a move; nothing when it does not fit. Code that the transport calls is lent
the reference of the transport. -/
def step (lent : Bool) (hs : List Holder) : Move → Option (List Holder)
  | .copy target => if hs.isEmpty && !lent then none else some (target :: hs)
  | .pass source target => if source ∈ hs then some (target :: hs.erase source) else none
  | .drop h => if h ∈ hs then some (hs.erase h) else none

/-- A reference that is gone for all does not come back. -/
@[simp] theorem step_nil (m : Move) : step false [] m = none := by
  cases m <;> simp [step]

end Holder

/-- A stream with its task, and those who hold the stream. -/
structure HeldLink (α : Type) where
  link : Link α
  /-- Everybody who has a reference, except for the transport and the operations under way. -/
  holders : List Holder := [.name]
  /-- What the task is about to tell the call. -/
  due : Option (Loopback.Report α) := none
  gone : Bool := false

namespace HeldLink

open Loopback (StreamTask Report View)
open Link (Service)

variable {α : Type}

def fresh (id : CallId) (timeout : Option Nat) : HeldLink α := { link := .fresh id timeout }

inductive Move (α : Type) where
  | hold (m : Holder.Move)
  | act (m : Brittle.Move α)
  | tell (thread : Nat)

/-- What can be seen: of the call, and that its task ends with nobody to tell. -/
inductive Event (α : Type) where
  | call (e : Exchange.Event α)
  | dropped (status : Status)
deriving DecidableEq, Repr

/-- The status of a task that had an answer and found nobody to give it to. -/
def released : Status := ⟨.cancelled, "stream released"⟩

/-- The transport is inside a report, and has a reference for as long. -/
def lent (s : HeldLink α) : Bool := s.link.exchange.delivery.isSome || s.link.calling

/-- Somebody is in the middle of a start or of a take, and so has a reference. -/
def underway (s : HeldLink α) : Bool := s.link.exchange.opening || s.link.exchange.taking

def unheld (s : HeldLink α) : Bool := s.holders.isEmpty && !s.lent && !s.underway

def cancelled (s : HeldLink α) : Bool := s.link.exchange.stream.cell.cancelled

def cancel (s : HeldLink α) : HeldLink α :=
  { s with link := { s.link with exchange :=
      { s.link.exchange with stream := s.link.exchange.stream.cancel.state } } }

/-- The call goes when its last reference is gone. -/
def settle (s : HeldLink α) : HeldLink α := if s.unheld then { s.cancel with gone := true } else s

/-! ## Moves and runs -/

def begins : Brittle.Move α → Bool
  | .link .launch | .link (.beside (.claim _)) | .link (.beside .cancel) => true
  | .closeReads | .finish _ => true
  | _ => false

/-- The task goes past one wait. -/
def poll (c : Service α) (s : HeldLink α) : HeldLink α :=
  match s.link.task.turn s.link.view s.link.reads c.latency c.serve with
  | none => s
  | some turn =>
    { s with
      link := { s.link with
        task := turn.task, taken := s.link.taken + turn.takes.toNat
        served := s.link.served || s.link.serves }
      due := turn.report }

/-- The status of a task that finds nobody to tell. An end has been decided before. -/
def untold : Report α → Status
  | .finish status => status
  | .item _ | .closeReads => released

/-- The task looks for the call and tells it what is due. -/
def tell (s : HeldLink α) (thread : Nat) (r : Report α) : Option (HeldLink α × List (Event α)) :=
  if s.gone then
    some ({ s with link := { s.link with task := .done }, due := none }, [.dropped (untold r)])
  else
    (s.link.report thread r).map fun q => ({ s with link := q.1, due := none }, q.2.map .call)

/-- One move, without what becomes of the call when nobody holds it any more. -/
def move (c : Service α) (s : HeldLink α) : Move α → Option (HeldLink α × List (Event α))
  | .hold m => (Holder.step s.lent s.holders m).map fun hs => ({ s with holders := hs }, [])
  | .act (.link (.poll thread)) =>
    if s.due.isNone && s.link.runnable thread then some (s.poll c, []) else none
  | .act (.link (.tick n)) => some ({ s with link := { s.link with now := s.link.now + n } }, [])
  | .act m =>
    if s.gone || begins m && s.holders.isEmpty && !s.lent then none
    else (Brittle.step c { link := s.link } m).map fun q =>
      ({ s with link := q.1.link }, q.2.map .call)
  | .tell thread =>
    match s.due with
    | some r => if s.link.runnable thread then s.tell thread r else none
    | none => none

def step (c : Service α) (s : HeldLink α) (m : Move α) : Option (HeldLink α × List (Event α)) :=
  (s.move c m).map fun q => (q.1.settle, q.2)

def run (c : Service α) (s : HeldLink α) (ms : List (Move α)) :
    Option (HeldLink α × List (Event α)) :=
  runWith (step c) s ms

/-! ## The last reference -/

variable {c : Service α} {s : HeldLink α} {q : HeldLink α × List (Event α)}

theorem unheld_iff : s.unheld = true ↔ s.holders = [] ∧ s.lent = false ∧ s.underway = false := by
  simp [unheld, and_assoc]

theorem cancel_of_cancelled (h : s.cancelled = true) : s.cancel = s := by
  obtain ⟨⟨⟨⟨⟨⟩⟩⟩⟩⟩ := s
  cases h
  rfl

/-- A call is gone exactly if nobody holds it, and then it was asked to stop. -/
structure Sound (s : HeldLink α) : Prop where
  gone : s.gone = s.unheld
  cancelled : s.gone = true → s.cancelled = true

theorem sound_fresh (id : CallId) (timeout : Option Nat) : Sound (fresh id timeout : HeldLink α) :=
  ⟨rfl, nofun⟩

theorem sound_settle (h : s.gone = true → s.unheld = true ∧ s.cancelled = true) :
    Sound s.settle := by
  unfold settle
  cases held : s.unheld with
  | true => exact ⟨held.symm, fun _ => rfl⟩
  | false =>
      have there : s.gone = false := by
        cases gone : s.gone with
        | false => rfl
        | true => exact absurd (h gone).1 (by simp [held])
      exact ⟨there.trans held.symm, fun gone => absurd gone (by simp [there])⟩

theorem Sound.settle_eq (h : Sound s) : s.settle = s := by
  unfold settle
  cases held : s.unheld with
  | false => rfl
  | true =>
      have gone : s.gone = true := h.gone.trans held
      rw [if_pos rfl, cancel_of_cancelled (h.cancelled gone), ← gone]

/-! ## What a move can come to -/

/-- Everything that one move can do before the references are looked at. -/
inductive Moved (c : Service α) (s : HeldLink α) : HeldLink α × List (Event α) → Prop where
  | held {m : Holder.Move} {hs : List Holder} (fits : Holder.step s.lent s.holders m = some hs) :
      Moved c s ({ s with holders := hs }, [])
  | polled (idle : s.due = none) : Moved c s (s.poll c, [])
  | ticked (n : Nat) : Moved c s ({ s with link := { s.link with now := s.link.now + n } }, [])
  | acted (link : Link α) (es : List (Exchange.Event α)) (there : s.gone = false) :
      Moved c s ({ s with link }, es.map .call)
  | told (link : Link α) (es : List (Exchange.Event α)) (there : s.gone = false) :
      Moved c s ({ s with link, due := none }, es.map .call)
  | dropped (r : Report α) (due : s.due = some r) :
      Moved c s
        ({ s with link := { s.link with task := .done }, due := none }, [.dropped (untold r)])

theorem moved_of_act {m : Brittle.Move α} (h : s.move c (.act m) = some q) : Moved c s q := by
  have present {r : Option (HeldLink α × List (Event α))}
      (h : (if s.gone || begins m && s.holders.isEmpty && !s.lent then none else r) = some q) :
      s.gone = false ∧ r = some q := by
    obtain ⟨fits, h⟩ := Option.ite_none_left_eq_some.mp h
    rw [Bool.or_eq_true, not_or] at fits
    exact ⟨by simpa using fits.1, h⟩
  cases m with
  | link m =>
      cases m with
      | poll thread =>
          obtain ⟨fits, h⟩ := Option.ite_none_right_eq_some.mp h
          obtain rfl := Option.some.inj h
          exact .polled (by simpa using (Bool.and_eq_true_iff.mp fits).1)
      | tick n => exact Option.some.inj h ▸ .ticked n
      | launch | back | beside m =>
          obtain ⟨there, h⟩ := present h
          obtain ⟨x, -, rfl⟩ := Option.map_eq_some_iff.mp h
          exact .acted x.1.link x.2 there
  | breakOff | closeReads | finish =>
      obtain ⟨there, h⟩ := present h
      obtain ⟨x, -, rfl⟩ := Option.map_eq_some_iff.mp h
      exact .acted x.1.link x.2 there

theorem moved_of_tell {thread : Nat} {r : Report α} (due : s.due = some r)
    (h : s.tell thread r = some q) : Moved c s q := by
  unfold tell at h
  split at h
  · obtain rfl := Option.some.inj h
    exact .dropped r due
  · next there =>
      obtain ⟨x, -, rfl⟩ := Option.map_eq_some_iff.mp h
      exact .told x.1 x.2 (by simpa using there)

theorem moved_of_move {m : Move α} (h : s.move c m = some q) : Moved c s q := by
  cases m with
  | hold m =>
      obtain ⟨hs, fits, rfl⟩ := Option.map_eq_some_iff.mp h
      exact .held fits
  | act m => exact moved_of_act h
  | tell thread =>
      cases due : s.due with
      | none => simp [move, due] at h
      | some r =>
          simp only [move, due] at h
          obtain ⟨-, h⟩ := Option.ite_none_right_eq_some.mp h
          exact moved_of_tell due h

theorem poll_exchange (c : Service α) (s : HeldLink α) :
    (s.poll c).link.exchange = s.link.exchange ∧ (s.poll c).link.calling = s.link.calling ∧
      (s.poll c).holders = s.holders ∧ (s.poll c).gone = s.gone := by
  unfold poll
  split <;> exact ⟨rfl, rfl, rfl, rfl⟩

theorem poll_hasTask (c : Service α) (s : HeldLink α) :
    (s.poll c).link.hasTask = s.link.hasTask := by
  unfold poll
  split <;> rfl

/-- No move undoes that the call is gone, or makes it gone before its references are looked at. -/
theorem gone_of_move {m : Move α} (h : s.move c m = some q) : q.1.gone = s.gone := by
  cases moved_of_move h with
  | polled idle => exact (poll_exchange c s).2.2.2
  | held | ticked | acted | told | dropped => rfl

/-! ## A call that is gone -/

/-- What can still happen: time passes, and the task goes on without the call. -/
inductive Adrift (c : Service α) (s : HeldLink α) : HeldLink α × List (Event α) → Prop where
  | ticked (n : Nat) : Adrift c s ({ s with link := { s.link with now := s.link.now + n } }, [])
  | polled (idle : s.due = none) : Adrift c s (s.poll c, [])
  | ended (r : Report α) (due : s.due = some r) :
      Adrift c s
        ({ s with link := { s.link with task := .done }, due := none }, [.dropped (untold r)])

theorem adrift_of_move {m : Move α} (h : s.move c m = some q) (gone : s.gone = true)
    (unheld : s.unheld = true) : Adrift c s q := by
  obtain ⟨empty, alone, -⟩ := unheld_iff.mp unheld
  cases moved_of_move h with
  | held fits => simp [empty, alone] at fits
  | polled idle => exact .polled idle
  | ticked n => exact .ticked n
  | acted link es there | told link es there => exact absurd gone (by simp [there])
  | dropped r due => exact .ended r due

/-- None of this brings the call back. -/
theorem Adrift.keeps (h : Adrift c s q) :
    q.1.gone = s.gone ∧ q.1.unheld = s.unheld ∧ q.1.cancelled = s.cancelled ∧
      q.1.holders = s.holders := by
  cases h with
  | ticked n => exact ⟨rfl, rfl, rfl, rfl⟩
  | ended r due => exact ⟨rfl, rfl, rfl, rfl⟩
  | polled idle =>
      obtain ⟨exchange, calling, holders, gone⟩ := poll_exchange c s
      simp [unheld, lent, underway, cancelled, exchange, calling, holders, gone]

theorem sound_step {m : Move α} (sound : Sound s) (h : s.step c m = some q) : Sound q.1 := by
  obtain ⟨p, hp, rfl⟩ := Option.map_eq_some_iff.mp h
  apply sound_settle
  intro gone
  have before : s.gone = true := (gone_of_move hp).symm.trans gone
  have unheld : s.unheld = true := sound.gone.symm.trans before
  obtain ⟨-, still, asked, -⟩ := (adrift_of_move hp before unheld).keeps
  exact ⟨still.trans unheld, asked.trans (sound.cancelled before)⟩

/-- There is nothing left to do for a call that is gone already. -/
theorem step_of_move {m : Move α} (sound : Sound s) (gone : s.gone = true)
    (h : s.move c m = some q) : s.step c m = some q := by
  have adrift : Adrift c s q := adrift_of_move h gone (sound.gone.symm.trans gone)
  obtain ⟨same, still, asked, -⟩ := adrift.keeps
  have after : Sound q.1 :=
    ⟨by rw [same, still, sound.gone], fun _ => asked.trans (sound.cancelled gone)⟩
  rw [step, h, Option.map_some, after.settle_eq]

theorem adrift_of_step {m : Move α} (sound : Sound s) (gone : s.gone = true)
    (h : s.step c m = some q) : Adrift c s q := by
  obtain ⟨p, hp, -⟩ := Option.map_eq_some_iff.mp h
  rw [step_of_move sound gone hp] at h
  obtain rfl := Option.some.inj h
  exact adrift_of_move hp gone (sound.gone.symm.trans gone)

/-! ## What the task comes to without the call -/

/-- The status with which the task of a call that is gone ends. -/
def verdict (s : HeldLink α) : Status :=
  match s.due, s.link.task with
  | some r, _ => untold r
  | none, .closing => .success
  | none, _ => Loopback.cancelledByClient

theorem verdict_of_due {r : Report α} (due : s.due = some r) : s.verdict = untold r := by
  simp only [verdict, due]

theorem verdict_of_closing (idle : s.due = none) (decided : s.link.task = .closing) :
    s.verdict = .success := by
  simp only [verdict, idle, decided]

theorem verdict_of_undecided (idle : s.due = none) (undecided : s.link.task ≠ .closing) :
    s.verdict = Loopback.cancelledByClient := by
  cases task : s.link.task with
  | closing => exact absurd task undecided
  | fresh | waiting | pausing | done => simp only [verdict, idle, task]

theorem stop_of_cancelled (h : s.cancelled = true) :
    s.link.view.stop? = some Loopback.cancelledByClient := by
  have seen : s.link.view.cancelled = true := h
  simp [View.stop?, seen]

theorem poll_of_turn {turn : StreamTask.Turn α}
    (h : s.link.task.turn s.link.view s.link.reads c.latency c.serve = some turn) :
    (s.poll c).link.task = turn.task ∧ (s.poll c).due = turn.report := by
  simp only [poll, h, and_self]

/-- The next poll ends the task of a call that was asked to stop. -/
theorem poll_cancelled (h : s.cancelled = true) (idle : s.due = none) :
    (s.link.task = .done ∧ s.poll c = s) ∨
      (s.link.task ≠ .done ∧ (s.poll c).link.task = .done ∧
        (s.poll c).due = some (.finish s.verdict)) := by
  by_cases going : s.link.task = .done
  · have rests : s.link.task.turn s.link.view s.link.reads c.latency c.serve = none := by
      rw [going]
      rfl
    exact .inl ⟨going, by simp only [poll, rests]⟩
  · refine .inr ⟨going, ?_⟩
    by_cases decided : s.link.task = .closing
    · have last : s.link.task.turn s.link.view s.link.reads c.latency c.serve =
          some { task := .done, report := some (.finish .success) } := by
        rw [decided]
        rfl
      rw [verdict_of_closing idle decided]
      exact poll_of_turn last
    · rw [verdict_of_undecided idle decided]
      exact poll_of_turn (StreamTask.turn_of_stop (stop_of_cancelled h) going decided)

def finished (s : HeldLink α) : Prop := s.link.task = .done ∧ s.due = none

/-- How far the task of a call that is gone has come. -/
inductive Course (status : Status) (s : HeldLink α) : List (Event α) → Prop where
  | going (verdict : s.verdict = status) : Course status s []
  | ended (finished : s.finished) : Course status s [.dropped status]

theorem course_adrift {status : Status} {log : List (Event α)} (h : Course status s log)
    (asked : s.cancelled = true) (adrift : Adrift c s q) : Course status q.1 (log ++ q.2) := by
  cases adrift with
  | ticked n =>
      rw [List.append_nil]
      cases h with
      | going verdict => exact .going verdict
      | ended finished => exact .ended finished
  | polled idle =>
      rw [List.append_nil]
      rcases poll_cancelled (c := c) asked idle with ⟨-, same⟩ | ⟨on, -, due⟩
      · rw [same]
        exact h
      · cases h with
        | going verdict =>
            apply Course.going
            exact (verdict_of_due due).trans verdict
        | ended finished => exact absurd finished.1 on
  | ended r due =>
      cases h with
      | going verdict =>
          have told : untold r = status := by
            rw [← verdict, verdict_of_due due]
          rw [told]
          exact .ended ⟨rfl, rfl⟩
      | ended finished => exact absurd finished.2 (by simp [due])

/-! ## Runs -/

theorem sound_run {id : CallId} {timeout : Option Nat} {ms : List (Move α)} {s : HeldLink α}
    {log : List (Event α)} (h : (fresh id timeout).run c ms = some (s, log)) : Sound s :=
  runWith_keeps sound_step h (sound_fresh id timeout)

/-- What a call has come to that was gone: as before, and what was seen since. -/
structure Gone (status : Status) (s : HeldLink α) (log : List (Event α)) : Prop where
  sound : Sound s
  gone : s.gone = true
  course : Course status s log

theorem gone_step {status : Status} {log : List (Event α)} {m : Move α} (h : Gone status s log)
    (hstep : s.step c m = some q) : Gone status q.1 (log ++ q.2) := by
  have adrift : Adrift c s q := adrift_of_step h.sound h.gone hstep
  refine ⟨sound_step h.sound hstep, ?_, ?_⟩
  · rw [adrift.keeps.1]
    exact h.gone
  · exact course_adrift h.course (h.sound.cancelled h.gone) adrift

theorem gone_run {ms : List (Move α)} {t : HeldLink α} {log : List (Event α)} (sound : Sound s)
    (gone : s.gone = true) (h : s.run c ms = some (t, log)) : Gone s.verdict t log :=
  runWith_invariant (P := Gone s.verdict) gone_step h ⟨sound, gone, .going rfl⟩

/-- A worker that runs the task of a call that is gone is not kept waiting. -/
theorem runnable_of_unheld (h : s.unheld = true) (running : s.link.hasTask = true) (p : Nat) :
    s.link.runnable p = true := by
  obtain ⟨-, alone, idle⟩ := unheld_iff.mp h
  simp only [lent, Bool.or_eq_false_iff] at alone
  simp only [underway, Exchange.taking, Bool.or_eq_false_iff] at idle
  have delivery : s.link.exchange.delivery = none := by simpa using alone.1
  have claims : s.link.exchange.claims = [] := by simpa using idle.2.1
  have resuming : s.link.exchange.resuming = [] := by simpa using idle.2.2
  simp [Link.runnable, Exchange.free, running, delivery, alone.2, claims, resuming]

/-- What brings the task to its end: a poll, unless something is due already, and the report. -/
def lastTurns (s : HeldLink α) (p : Nat) : List (Move α) :=
  if s.due.isSome then [.tell p] else [.act (.link (.poll p)), .tell p]

theorem tell_gone (sound : Sound s) (gone : s.gone = true) (running : s.link.hasTask = true)
    {r : Report α} (due : s.due = some r) (p : Nat) : s.step c (.tell p) = some
      ({ s with link := { s.link with task := .done }, due := none }, [.dropped (untold r)]) := by
  apply step_of_move sound gone
  have runnable := runnable_of_unheld (sound.gone.symm.trans gone) running p
  simp only [move, due, runnable, if_true]
  rw [tell, if_pos gone]

/-- The task of a call that is gone ends as soon as it is run. -/
theorem lastTurns_run (sound : Sound s) (gone : s.gone = true)
    (running : s.link.hasTask = true) (unfinished : ¬s.finished) (p : Nat) :
    ∃ t, s.run c (s.lastTurns p) = some (t, [.dropped s.verdict]) ∧ t.finished := by
  cases due : s.due with
  | some r =>
      have told := tell_gone (c := c) sound gone running due p
      have turns : s.lastTurns p = [.tell p] := by simp [lastTurns, due]
      rw [verdict_of_due due, turns]
      exact ⟨_, runWith_one told, rfl, rfl⟩
  | none =>
      have runnable := runnable_of_unheld (sound.gone.symm.trans gone) running p
      have polled : s.step c (.act (.link (.poll p))) = some (s.poll c, []) := by
        apply step_of_move sound gone
        simp [move, due, runnable]
      rcases poll_cancelled (c := c) (sound.cancelled gone) due with ⟨stopped, -⟩ | ⟨-, -, next⟩
      · exact absurd ⟨stopped, due⟩ unfinished
      · have still : (s.poll c).gone = true := (poll_exchange c s).2.2.2.trans gone
        have told := tell_gone (c := c) (sound_step sound polled) still
          ((poll_hasTask c s).trans running) next p
        have turns : s.lastTurns p = [.act (.link (.poll p)), .tell p] := by simp [lastTurns, due]
        rw [turns]
        exact ⟨_, runWith_pair polled told, rfl, rfl⟩

end HeldLink

end CallBridge
