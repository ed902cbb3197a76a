import CallBridge.Proofs.Stream.Handover
import CallBridge.Proofs.Stream.Lifecycle

/-!
# What the end of the phases says of the call

An accepted end moves a stream to its last phase and records the status. One other transition leads
to that phase: a take that finds its stream held and terminated gives up the hold, and a stream can
be held and terminated without having ended, because a close of the read side terminates it too.
So a stream is in its last phase if an end was accepted, or if an item was taken after a close. In
the second case it has no status, and its end may still come.

A callback that continues meets the same stream and leaves it held.
-/

namespace CallBridge

namespace Session

variable {α : Type}

/-- An end was accepted. -/
def EndTold (log : List (Event α)) : Prop := ∃ st, .ended st ∈ log

/-- An item was taken after the read side was closed. -/
def TakenLate (log : List (Event α)) : Prop :=
  ∃ e x, e.answer? = some (some x) ∧ [.closed, e].Sublist log

/-- No close, no end, and no take that was answered with an item. -/
def Event.isPlain (e : Event α) : Prop := e.isMark = false ∧ ∀ x, e.answer? ≠ some (some x)

theorem endTold_append {log es : List (Event α)} :
    EndTold (log ++ es) ↔ EndTold log ∨ EndTold es := by
  simp [EndTold, exists_or]

/-- Of two events that follow each other in a log, each is in one of its parts. -/
theorem pair_sublist_append {log es : List (Event α)} {a b : Event α} :
    [a, b].Sublist (log ++ es) ↔
      [a, b].Sublist log ∨ (a ∈ log ∧ b ∈ es) ∨ [a, b].Sublist es := by
  rw [List.sublist_append_iff]
  constructor
  · rintro ⟨l₁, l₂, heq, h₁, h₂⟩
    match l₁ with
    | [] => exact .inr (.inr (by simpa [heq] using h₂))
    | [c] =>
        obtain ⟨rfl, rfl⟩ : a = c ∧ [b] = l₂ := by simpa using heq
        exact .inr (.inl ⟨List.singleton_sublist.mp h₁, List.singleton_sublist.mp h₂⟩)
    | c :: d :: l =>
        obtain ⟨rfl, rfl, rfl, -⟩ : a = c ∧ b = d ∧ l = [] ∧ l₂ = [] := by simpa using heq
        exact .inl h₁
  · rintro (h | ⟨ha, hb⟩ | h)
    · exact ⟨[a, b], [], by simp, h, by simp⟩
    · exact ⟨[a], [b], rfl, List.singleton_sublist.mpr ha, List.singleton_sublist.mpr hb⟩
    · exact ⟨[], [a, b], rfl, by simp, h⟩

theorem takenLate_append {log es : List (Event α)} :
    TakenLate (log ++ es) ↔
      TakenLate log ∨ (.closed ∈ log ∧ ∃ e ∈ es, ∃ x, e.answer? = some (some x)) ∨
        TakenLate es := by
  constructor
  · rintro ⟨e, x, item, h⟩
    rcases pair_sublist_append.mp h with h | ⟨closed, he⟩ | h
    · exact .inl ⟨e, x, item, h⟩
    · exact .inr (.inl ⟨closed, e, he, x, item⟩)
    · exact .inr (.inr ⟨e, x, item, h⟩)
  · rintro (⟨e, x, item, h⟩ | ⟨closed, e, he, x, item⟩ | ⟨e, x, item, h⟩)
    · exact ⟨e, x, item, pair_sublist_append.mpr (.inl h)⟩
    · exact ⟨e, x, item, pair_sublist_append.mpr (.inr (.inl ⟨closed, he⟩))⟩
    · exact ⟨e, x, item, pair_sublist_append.mpr (.inr (.inr h))⟩

theorem not_takenLate_singleton (e : Event α) : ¬TakenLate [e] := by
  rintro ⟨e', x, -, h⟩
  exact absurd h.length_le (by simp)

/-! ## A stream and what its log tells of its end -/

/-- The flag, the status and the last phase, each by what the log has of closes, ends and takes. -/
structure Closing (s : Stream α) (log : List (Event α)) : Prop where
  terminated : s.cell.terminated = true ↔ .closed ∈ log ∨ EndTold log
  status : s.cell.status.isSome = true ↔ EndTold log
  phase : s.phase = .ended ↔ EndTold log ∨ TakenLate log

variable {s t : Stream α} {log es : List (Event α)}

theorem closing_create (id : CallId) (timeout : Option Nat) :
    Closing (.create id timeout : Stream α) [] where
  terminated := by simp [Stream.create, EndTold]
  status := by simp [Stream.create, EndTold]
  phase := by simp [Stream.create, EndTold, TakenLate]

theorem Closing.plain (h : Closing s log) (plain : ∀ e ∈ es, e.isPlain)
    (terminated : t.cell.terminated = s.cell.terminated) (status : t.cell.status = s.cell.status)
    (phase : t.phase = .ended ↔ s.phase = .ended) : Closing t (log ++ es) := by
  have open_ : .closed ∉ es := fun closed => nomatch (plain _ closed).1
  have untold : ¬EndTold es := fun ⟨_, ended⟩ => nomatch (plain _ ended).1
  have untaken : ¬∃ e ∈ es, ∃ x, e.answer? = some (some x) :=
    fun ⟨e, he, x, item⟩ => (plain e he).2 x item
  have early : ¬TakenLate es := fun ⟨_, _, _, late⟩ => open_ (late.subset (by simp))
  constructor
  · simp [terminated, h.terminated, endTold_append, open_, untold]
  · simp [status, h.status, endTold_append, untold]
  · simp [phase, h.phase, endTold_append, takenLate_append, untold, untaken, early]

theorem isPlain_of_mem_asks {why : Cause} {lane : Option Nat} {e : Event α}
    (h : e ∈ asks why lane) : e.isPlain := by
  obtain ⟨l, -, rfl⟩ := List.mem_map.mp h
  exact ⟨rfl, nofun⟩

/-- A stream without room for an item is in its last phase after a take if it was before, or if it
is terminated. -/
theorem resume_ended (full : s.phase.isFull = true) :
    s.resume.1.phase = .ended ↔ s.phase = .ended ∨ s.cell.terminated = true := by
  rcases s.resume_cases with ⟨lane, held, live, heq⟩ | ⟨lane, held, gone, heq⟩ | ⟨other, heq⟩
  · simp [heq, held, live]
  · simp [heq, gone]
  · rw [heq]
    -- What is full and not held has ended.
    have ended : s.phase = .ended := by
      cases phase : s.phase with
      | held lane => exact absurd phase (other lane)
      | ended => rfl
      | idle | reading lane => simp [phase, Phase.isFull] at full
    simp [ended]

theorem isMark_of_answer {e : Event α} {a : Option α} (answer : e.answer? = some a) :
    e.isMark = false := by
  cases e with
  | took | tookLate => rfl
  | launched | refused | asked | accepted | rejected | shown | left | claimed | closed | ended =>
      exact nomatch answer

theorem Closing.gift (h : Closing s log) {e : Event α} {x : α} (item : e.answer? = some (some x))
    (full : s.phase.isFull = true) : Closing s.resume.1 (log ++ [e]) := by
  have unmarked : e.isMark = false := isMark_of_answer item
  have open_ : .closed ∉ [e] := by
    rw [List.mem_singleton]
    rintro rfl
    exact nomatch unmarked
  have untold : ¬EndTold [e] := by
    rintro ⟨st, told⟩
    rw [← List.mem_singleton.mp told] at unmarked
    exact nomatch unmarked
  constructor
  · rw [Stream.resume_cell, h.terminated, endTold_append, List.mem_append]
    simp only [untold, open_, or_false]
  · rw [Stream.resume_cell, h.status, endTold_append]
    simp only [untold, or_false]
  · rw [resume_ended full, h.phase, h.terminated, endTold_append, takenLate_append]
    simp only [untold, not_takenLate_singleton, List.mem_singleton, exists_eq_left, item,
      Option.some.injEq, exists_eq', and_true, or_false]
    grind

/-- What follows the cell's part of a take. The place has an item only while the stream is full. -/
theorem Closing.afterTake (h : Closing s log) {taken : Outcome (Cell α) (Option α)} {e : Event α}
    (terminated : taken.state.terminated = s.cell.terminated)
    (status : taken.state.status = s.cell.status) (answer : e.answer? = some taken.answer)
    (full : taken.answer.isSome → s.phase.isFull = true) :
    Closing (s.afterTake taken).state
      (log ++ e :: asks .resumed (s.afterTake taken).answer.2) := by
  have emptied : Closing { s with cell := taken.state } log := by
    simpa using h.plain (t := { s with cell := taken.state }) (List.forall_mem_nil _) terminated
      status Iff.rfl
  rcases s.afterTake_cases taken with ⟨nothing, ha, hs⟩ | ⟨x, item, ha, hs⟩ <;> rw [ha, hs]
  · have plain : e.isPlain := ⟨isMark_of_answer answer, by simp [answer, nothing]⟩
    exact emptied.plain (by simpa [asks] using plain) rfl rfl Iff.rfl
  · have taken := emptied.gift (item ▸ answer) (full (by simp [item]))
    rw [List.append_cons]
    exact taken.plain (fun e => isPlain_of_mem_asks) rfl rfl Iff.rfl

/-! ## Moves and runs -/

variable {s : Session α} {l : Ledger α}

/-- An item is on offer, or due to a take, only while the stream has no room for another. -/
theorem Hand.full (h : Hand s l) (some_item : s.stream.cell.ready = true ∨ s.claimed = true) :
    s.stream.phase.isFull = true := by
  cases h with
  | rest unlocked ready => simp [ready, unlocked.claimed] at some_item
  | waiting _ _ _ full => exact full
  | inspected locked | claimed locked => exact locked.full

theorem closing_take (h : Closing s.stream log) (hand : Hand s l) :
    Closing s.take.1.stream (log ++ s.take.2) := by
  refine h.afterTake (by simp) (by simp) (congrArg some (Stream.afterTake_item _ _)) ?_
  intro item
  rcases s.stream.cell.take_cases s.thread with ⟨-, -, nothing⟩ | ⟨-, ready, -, -⟩
  · simp [nothing] at item
  · exact hand.full (.inl ready)

theorem closing_completeTake (h : Closing s.stream log)
    (full : s.claimed = true → s.stream.phase.isFull = true) :
    Closing s.completeTake.1.stream (log ++ s.completeTake.2) := by
  unfold completeTake
  split
  · next claimed =>
      exact h.afterTake rfl rfl (congrArg some (Stream.afterTake_item _ _)) fun _ => full claimed
  · simpa using h

theorem closing_readOn (h : Closing s.stream log) (e : Ending) :
    Closing (s.readOn e).1.stream (log ++ (s.readOn e).2) := by
  unfold readOn
  split
  · refine h.plain (fun e => isPlain_of_mem_asks) (by simp) (by simp) ?_
    -- Here the hold of a terminated stream stays.
    rcases (s.stream.discard s.thread).state.refetch_cases with ⟨lane, held, -, heq⟩ | heq
    · have held : s.stream.phase = .held lane := held
      simp [Stream.readOn, heq, held]
    · rw [Stream.readOn, heq]
      rfl
  · simpa using h

theorem closing_leave (h : Closing s.stream log)
    (full : s.claimed = true → s.stream.phase.isFull = true) (e : Ending) :
    Closing (s.leave e).1.stream (log ++ (s.leave e).2) := by
  have left : Closing (s.stream.endInspection e.cutShort) (log ++ [.left e]) :=
    h.plain (by simp [Event.isPlain, Event.isMark, Event.answer?]) rfl rfl Iff.rfl
  have taken := closing_completeTake (s := { s with stream := _ }) left full
  have final := closing_readOn taken e
  rw [List.append_assoc, List.append_assoc] at final
  exact final

theorem closing_moved {p : Session α × List (Event α)} (h : Closing s.stream log)
    (hand : Hand s l) (hm : Moved s p) : Closing p.1.stream (log ++ p.2) := by
  cases hm with
  | @attached lane rest =>
      refine h.plain (fun e => isPlain_of_mem_asks) (by simp [attach]) (by simp [attach]) ?_
      rcases s.stream.attach_cases lane with ⟨idle, -, heq⟩ | heq
      · simp [attach, heq, idle]
      · simp [attach, heq]
  | accepted x reading live =>
      exact h.plain (by simp [Event.isPlain, Event.isMark, Event.answer?]) rfl rfl
        (by simp [reading])
  | @left e x rest =>
      exact closing_leave (s := { s with frames := rest }) h
        (fun claimed => hand.full (.inr claimed)) e
  | took => exact closing_take h hand
  | closed =>
      have untold : ¬EndTold [(.closed : Event α)] := by simp [EndTold]
      constructor
      · simp [Cell.terminate]
      · simp [Cell.terminate, h.status, endTold_append, untold]
      · simp [h.phase, endTold_append, untold, takenLate_append, not_takenLate_singleton,
          Event.answer?]
  | ended status first =>
      have told : EndTold (log ++ [.ended status]) := ⟨status, by simp⟩
      have settled : ((s.stream.cell.settle status).terminate).status.isSome = true := by
        simp [Cell.terminate, Cell.settle, first]
      exact ⟨iff_of_true rfl (.inr told), iff_of_true settled told, iff_of_true rfl (.inl told)⟩
  | switched | launched | refused | rejected | ignored | returned | claimed | tookNothing
  | cancelled =>
      exact h.plain (by simp [Event.isPlain, Event.isMark, Event.answer?]) rfl rfl Iff.rfl

theorem closing_of_run {id : CallId} {timeout : Option Nat} {thread : Nat} {ms : List (Move α)}
    (h : (fresh id timeout thread).run ms = some (s, log)) : Closing s.stream log := by
  have both : (∃ l, Hand s l) ∧ Closing s.stream log := by
    refine run_invariant (P := fun s log => (∃ l, Hand s l) ∧ Closing s.stream log) ?_ h
      ⟨⟨[], hand_fresh id timeout thread⟩, closing_create id timeout⟩
    rintro s before p ⟨⟨l, hand⟩, closing⟩ hm
    obtain ⟨l', -, hand'⟩ := hand_moved hand hm
    exact ⟨⟨l', hand'⟩, closing_moved closing hand hm⟩
  exact both.2

theorem not_endTold_of_run {id : CallId} {timeout : Option Nat} {thread : Nat} {ms : List (Move α)}
    (h : (fresh id timeout thread).run ms = some (s, log)) (pending : s.stream.cell.status = none) :
    ¬EndTold log := by
  intro told
  have settled := (closing_of_run h).status.mpr told
  simp [pending] at settled

/-- **The last phase means an end or a late take.** After every run the status is there if and only
if an end was accepted. The stream is in its last phase if and only if an end was accepted or an
item was taken after the read side had been closed. So a stream of which no item is taken late is in
its last phase exactly if it has ended. -/
theorem ended_iff_told_or_taken_late {id : CallId} {timeout : Option Nat} {thread : Nat}
    {ms : List (Move α)} (h : (fresh id timeout thread).run ms = some (s, log)) :
    (s.stream.cell.status.isSome = true ↔ EndTold log) ∧
      (s.stream.phase = .ended ↔ EndTold log ∨ TakenLate log) ∧
      (¬TakenLate log → (s.stream.phase = .ended ↔ s.stream.cell.status.isSome = true)) := by
  obtain ⟨-, status, phase⟩ := closing_of_run h
  refine ⟨status, phase, fun early => ?_⟩
  rw [phase, status]
  exact or_iff_left early

/-- An item is taken before the close, the next one is held across it, and the end comes while the
hold stands. -/
def heldAcrossCloseMoves : List (Move Nat) :=
  [.start, .opened 0, .deliver 1, .decide .hold, .take, .deliver 2, .closeReads, .back,
    .decide .hold, .finish .success, .back]

theorem ended_iff_told_or_taken_late_held : ∃ s log,
    (fresh ⟨1⟩ none 0).run heldAcrossCloseMoves = some (s, log) ∧ EndTold log ∧
      s.stream.phase = .ended ∧ s.stream.cell.status.isSome = true := by
  have h : (fresh ⟨1⟩ none 0).run heldAcrossCloseMoves = some (_, _) := rfl
  obtain ⟨status, phase, -⟩ := ended_iff_told_or_taken_late h
  have told := status.mp rfl
  exact ⟨_, _, h, told, phase.mpr (.inl told), status.mpr told⟩

/-- An item that is held when the read side is closed, and what happens to it then. -/
def closedWhileHeld (last : List (Move Nat)) : List (Move Nat) :=
  [.start, .opened 0, .deliver 1, .closeReads, .back] ++ last

/-- A late take puts a stream that has not ended into its last phase. A callback that continues
leaves the stream of the same history held. -/
theorem late_take_ends_early :
    (∃ s log, (fresh ⟨1⟩ none 0).run (closedWhileHeld [.decide .hold, .take]) = some (s, log) ∧
      s.stream.phase = .ended ∧ ¬EndTold log ∧ s.stream.cell.status = none) ∧
    (∃ s log, (fresh ⟨1⟩ none 0).run (closedWhileHeld [.decide .proceed]) = some (s, log) ∧
      s.stream.phase = .held 0 ∧ ¬EndTold log ∧ s.stream.cell.status = none) := by
  constructor
  · have h : (fresh ⟨1⟩ none 0).run (closedWhileHeld [.decide .hold, .take]) = some (_, _) := rfl
    exact ⟨_, _, h, rfl, not_endTold_of_run h rfl, rfl⟩
  · have h : (fresh ⟨1⟩ none 0).run (closedWhileHeld [.decide .proceed]) = some (_, _) := rfl
    exact ⟨_, _, h, rfl, not_endTold_of_run h rfl, rfl⟩

end Session

end CallBridge
