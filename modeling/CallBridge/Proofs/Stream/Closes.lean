import CallBridge.Proofs.Stream.Lifecycle

/-!
# Closes and ends as the transport reports them

A stream is told by the transport that its read side has closed, and that it has ended. Its two
callbacks follow these reports in different ways. Of the ends only the first counts; any later one
is ignored. Closes are all the same: each one begins the callback, be it a repeated one or one that
comes after the end. So the closes and ends in a log are those that were reported, less the repeated
ends; and the callback of the close begins once and before that of the end exactly if the transport
reports it so.
-/

namespace CallBridge

namespace Session

variable {α : Type}

/-! ## Reports -/

/-- What the transport reports of the end of a stream. -/
def Move.report? : Move α → Option (Event α)
  | .closeReads => some .closed
  | .finish status => some (.ended status)
  | _ => none

/-- The closes and ends that are reported in a run. -/
def reported (ms : List (Move α)) : List (Event α) := ms.filterMap Move.report?

namespace Event

def isClosed : Event α → Bool
  | closed => true
  | _ => false

end Event

/-- All closes, and of the ends the first one. -/
def firstEnd : List (Event α) → List (Event α)
  | [] => []
  | .ended status :: es => .ended status :: es.filter Event.isClosed
  | e :: es => e :: firstEnd es

/-- The read side closes at most once, and not after the end. -/
def ClosesOnce (es : List (Event α)) : Prop :=
  es.countP Event.isClosed ≤ 1 ∧ ∀ status, ¬[.ended status, .closed].Sublist es

theorem countP_marks (es : List (Event α)) :
    (es.filter Event.isMark).countP Event.isClosed = es.countP Event.isClosed := by
  rw [List.countP_filter]
  refine List.countP_congr fun e _ => ?_
  cases e <;> simp [Event.isClosed, Event.isMark]

theorem closesOnce_marks (es : List (Event α)) :
    ClosesOnce (es.filter Event.isMark) ↔ ClosesOnce es := by
  have order : ∀ status, [.ended status, .closed].Sublist (es.filter Event.isMark) ↔
      [.ended status, .closed].Sublist es := by
    intro status
    exact ⟨fun h => h.trans List.filter_sublist, fun h => h.filter Event.isMark⟩
  simp only [ClosesOnce, countP_marks, order]

theorem countP_firstEnd (es : List (Event α)) :
    (firstEnd es).countP Event.isClosed = es.countP Event.isClosed := by
  induction es with
  | nil => rfl
  | cons e es ih =>
      cases e with
      | ended status =>
          rw [firstEnd, List.countP_cons, List.countP_cons, List.countP_filter]
          simp
      | _ => simp [firstEnd, List.countP_cons, ih]

/-- Whatever closes after the first event, which is an end, closes after an end. -/
theorem closed_after_end {first : Status} {es : List (Event α)} :
    (∃ status, [.ended status, .closed].Sublist (.ended first :: es)) ↔ .closed ∈ es := by
  constructor
  · rintro ⟨status, h⟩
    rcases List.sublist_cons_iff.mp h with h | ⟨r, heq, h⟩
    · exact h.subset (by simp)
    · obtain ⟨-, rfl⟩ := List.cons.inj heq
      exact List.singleton_sublist.mp h
  · intro closed
    exact ⟨first, (List.singleton_sublist.mpr closed).cons_cons _⟩

/-- A close comes after an end if and only if it comes after the first one. -/
theorem closed_after_firstEnd (es : List (Event α)) :
    (∃ status, [.ended status, .closed].Sublist (firstEnd es)) ↔
      ∃ status, [.ended status, .closed].Sublist es := by
  induction es with
  | nil => rfl
  | cons e es ih =>
      cases e with
      | ended first =>
          rw [firstEnd, closed_after_end, closed_after_end]
          simp [Event.isClosed]
      | _ => simp [firstEnd, List.sublist_cons_iff, ih]

theorem closesOnce_firstEnd (es : List (Event α)) : ClosesOnce (firstEnd es) ↔ ClosesOnce es := by
  simp only [ClosesOnce, countP_firstEnd, ← not_exists, closed_after_firstEnd]

/-! ## Steps -/

variable {s t : Session α} {es : List (Event α)}

/-- Nothing is told of an end, and no status is given. -/
def Quiet (s : Session α) (p : Session α × List (Event α)) : Prop :=
  (∀ e ∈ p.2, e.isMark = false) ∧ p.1.stream.cell.status = s.stream.cell.status

theorem quiet_nil {u : Session α} (h : u.stream.cell.status = s.stream.cell.status) :
    Quiet s (u, []) := ⟨nofun, h⟩

theorem quiet_take : Quiet s s.take := by
  refine ⟨?_, by simp [take, Stream.take]⟩
  rw [take, List.forall_mem_cons]
  exact ⟨rfl, fun _ => isMark_of_mem_asks⟩

theorem quiet_takeAside : Quiet s s.takeAside := by
  unfold takeAside
  split
  · exact quiet_take
  · cases ready : s.stream.cell.ready <;> simp [Cell.claim, ready, Quiet, Event.isMark]

theorem quiet_leave (rest : List (Frame α)) (e : Ending) :
    Quiet s ({ s with frames := rest }.leave e) := by
  have taken : ∀ u : Session α, u.completeTake.1.stream.cell.status = u.stream.cell.status := by
    intro u
    unfold completeTake
    split <;> simp [Stream.completeTake, Cell.extract]
  have gone : ∀ u : Session α, (u.readOn e).1.stream.cell.status = u.stream.cell.status := by
    intro u
    unfold readOn
    split <;> simp
  exact ⟨fun _ => isMark_of_mem_leave, (gone _).trans (taken _)⟩

/-- Only what the transport reports is told of the end. -/
theorem quiet_of_step {m : Move α} {p : Session α × List (Event α)} (h : s.step m = some p)
    (silent : m.report? = none) : Quiet s p := by
  match m, top : s.frames with
  | .closeReads, _ | .finish _, _ => nomatch silent
  | .start, _ =>
      obtain rfl := Option.some.inj h
      unfold start
      rcases s.stream.launch_cases with ⟨-, ha, hs⟩ | ⟨-, ha, hs⟩ <;>
        simp [ha, hs, Quiet, Event.isMark]
  | .deliver x, _ =>
      obtain rfl := Option.some.inj h
      unfold deliver
      rcases s.stream.deliver_cases s.thread x with ⟨lane, -, -, ha, hs⟩ | ⟨-, ha, hs⟩ <;>
        simp [ha, hs, Quiet, Event.isMark, Cell.beginInspection]
  | .take, _ => exact Option.some.inj h ▸ quiet_take
  | .takeAside, _ => exact Option.some.inj h ▸ quiet_takeAside
  | .cancel, _ => exact Option.some.inj h ▸ quiet_nil rfl
  | .switch thread, [] =>
      have heq : p = ({ s with thread }, []) := by simpa [step, top] using h.symm
      exact heq ▸ quiet_nil rfl
  | .opened lane, .opening :: rest =>
      have heq : { s with frames := rest }.attach lane = p := by simpa [step, top] using h
      exact heq ▸ ⟨fun _ => isMark_of_mem_asks, by simp [attach]⟩
  | .decide d, .inspecting x :: rest =>
      have heq : { s with frames := rest }.leave (.decided d) = p := by simpa [step, top] using h
      exact heq ▸ quiet_leave rest _
  | .panic, .inspecting x :: rest =>
      have heq : { s with frames := rest }.leave .brokenOff = p := by simpa [step, top] using h
      exact heq ▸ quiet_leave rest _
  | .back, .closing :: rest | .back, .ending :: rest | .panic, .opening :: rest
  | .panic, .closing :: rest | .panic, .ending :: rest =>
      have heq : ({ s with frames := rest }, []) = p := by simpa [step, top] using h
      exact heq ▸ quiet_nil rfl
  | .switch _, _ :: _ | .opened _, [] | .opened _, .inspecting _ :: _ | .opened _, .closing :: _
  | .opened _, .ending :: _ | .decide _, [] | .decide _, .opening :: _ | .decide _, .closing :: _
  | .decide _, .ending :: _ | .back, [] | .back, .opening :: _ | .back, .inspecting _ :: _
  | .panic, [] => simp [step, top] at h

/-- A close is told each time it is reported, an end while there is no status. -/
theorem marks_of_step {m : Move α} {p : Session α × List (Event α)} (h : s.step m = some p) :
    p.2.filter Event.isMark =
        (if s.stream.cell.status.isSome then m.report?.toList.filter Event.isClosed
          else m.report?.toList) ∧
      p.1.stream.cell.status.isSome =
        (s.stream.cell.status.isSome || m.report?.any fun e => !e.isClosed) := by
  cases m with
  | closeReads =>
      obtain rfl := Option.some.inj h
      refine ⟨?_, by simp [closeReads, Stream.closeReads, Cell.terminate, Move.report?,
        Event.isClosed]⟩
      split <;> rfl
  | finish status =>
      obtain rfl := Option.some.inj h
      unfold finish
      rcases s.stream.finish_cases status with ⟨first, ha, hs⟩ | ⟨again, ha, hs⟩
      · simp [ha, hs, first, Cell.settle, Cell.terminate, Move.report?, Event.isMark,
          Event.isClosed]
      · simp [ha, hs, again, Move.report?, Event.isClosed]
  | _ =>
      obtain ⟨unmarked, status⟩ := quiet_of_step h rfl
      have none : p.2.filter Event.isMark = [] := by simpa using unmarked
      simp [none, status, Move.report?]

/-! ## Runs -/

/-- From a stream that has a status only closes are told, from any other one the first end too. -/
theorem marks_of_run {ms : List (Move α)} {log : List (Event α)} (h : s.run ms = some (t, log)) :
    log.filter Event.isMark =
      if s.stream.cell.status.isSome then (reported ms).filter Event.isClosed
      else firstEnd (reported ms) := by
  induction ms generalizing s log with
  | nil =>
      cases h
      simp [reported, firstEnd]
  | cons m ms ih =>
      obtain ⟨u, es, rest, hstep, hrun, rfl⟩ := runWith_cons h
      obtain ⟨marks, status⟩ := marks_of_step hstep
      rw [List.filter_append, marks, ih hrun, status]
      have split : reported (m :: ms) = m.report?.toList ++ reported ms := by
        cases m <;> rfl
      rw [split]
      cases s.stream.cell.status.isSome with
      | true => simp
      | false => cases m <;> simp [Move.report?, firstEnd, Event.isClosed]

/-- **Closes and ends are told as they are reported.** After any run, wherever closes and ends were
reported from: the callbacks that have begun are one for each close and one for the first end, in
the order of the reports. So the callback of the close has begun at most once and never after that
of the end if and only if the transport reported at most one close, and none after an end. -/
theorem closes_as_reported {id : CallId} {timeout : Option Nat} {thread : Nat}
    {ms : List (Move α)} {log : List (Event α)}
    (h : (fresh id timeout thread).run ms = some (s, log)) :
    log.filter Event.isMark = firstEnd (reported ms) ∧
    log.countP Event.isClosed = (reported ms).countP Event.isClosed ∧
    (ClosesOnce log ↔ ClosesOnce (reported ms)) := by
  have marks : log.filter Event.isMark = firstEnd (reported ms) := marks_of_run h
  refine ⟨marks, ?_, ?_⟩
  · rw [← countP_marks, marks, countP_firstEnd]
  · rw [← closesOnce_marks, marks, closesOnce_firstEnd]

/-- The transport closes once, inside the callback of an item, and ends the call twice, once inside
the callback of the close. -/
def nestedCloseMoves : List (Move Nat) :=
  [.start, .opened 0, .deliver 1, .closeReads, .finish .success, .back, .back, .decide .hold,
    .finish ⟨.aborted, "again"⟩]

theorem closes_as_reported_nested : ∃ s log,
    (fresh ⟨1⟩ none 0).run nestedCloseMoves = some (s, log) ∧
      log.filter Event.isMark = [.closed, .ended .success] ∧ ClosesOnce log := by
  have reports : ClosesOnce (reported nestedCloseMoves) := by
    refine ⟨by decide, fun status late => ?_⟩
    have said : reported nestedCloseMoves =
        [.closed, .ended .success, .ended ⟨.aborted, "again"⟩] := rfl
    simp only [said, List.sublist_cons_iff, List.sublist_nil] at late
    grind
  have h : (fresh ⟨1⟩ none 0).run nestedCloseMoves = some (_, _) := rfl
  obtain ⟨marks, -, once⟩ := closes_as_reported h
  exact ⟨_, _, h, marks, once.mpr reports⟩

/-- A second close begins the callback a second time, and a close after the end begins it after
that of the end. -/
theorem closes_told_again :
    (∃ s log, (fresh ⟨1⟩ none 0 : Session Nat).run
        [.start, .opened 0, .closeReads, .back, .closeReads] = some (s, log) ∧
      log.countP Event.isClosed = 2) ∧
    (∃ s log, (fresh ⟨1⟩ none 0 : Session Nat).run
        [.start, .opened 0, .finish .success, .back, .closeReads] = some (s, log) ∧
      [.ended .success, .closed].Sublist log) :=
  ⟨⟨_, _, rfl, rfl⟩, ⟨_, _, rfl, by decide⟩⟩

end Session

end CallBridge
