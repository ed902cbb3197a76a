import CallBridge.Proofs.Stream.Session

/-!
# The lifecycle of a stream only goes forward

A close of the read side and an end both terminate the call. From then on the stream fades: takes
may empty it and give up its hold, but no read is asked for, no item is accepted or shown, and no
counter moves, whatever is still under way when the stream is terminated. An accepted end is final:
status and phase stay, and no second final callback begins.

Each place that could ask for a read tests the end of the call on its own, so there is one lemma
for each of them. `Fades` is what they have in common, and it composes along a run.
-/

namespace CallBridge

namespace Session

variable {α : Type}

/-- What only a stream does that is not over: ask for a read, accept an item and show it. -/
def Event.isLive : Event α → Bool
  | asked _ _ | accepted _ | shown _ => true
  | _ => false

/-- What may become of a terminated stream. -/
structure Fades (s t : Stream α) (es : List (Event α)) : Prop where
  quiet : ∀ e ∈ es, e.isLive = false
  items : t.items = s.items
  fetches : t.fetches = s.fetches
  resumes : t.resumes = s.resumes
  terminated : t.cell.terminated = true
  phase : s.phase = .ended → t.phase = .ended
  status : ∀ st, s.cell.status = some st →
    t.cell.status = some st ∧ ∀ st', .ended st' ∉ es
  ready : t.cell.ready = true → s.cell.ready = true

variable {s t u : Stream α} {es es' : List (Event α)}

theorem Fades.refl (h : s.cell.terminated = true) : Fades s s [] where
  quiet := by simp
  items := rfl
  fetches := rfl
  resumes := rfl
  terminated := h
  phase := id
  status := fun st hs => ⟨hs, by simp⟩
  ready := id

theorem Fades.trans (h : Fades s t es) (h' : Fades t u es') : Fades s u (es ++ es') where
  quiet := by
    intro e he
    rcases List.mem_append.mp he with he | he
    · exact h.quiet e he
    · exact h'.quiet e he
  items := h'.items.trans h.items
  fetches := h'.fetches.trans h.fetches
  resumes := h'.resumes.trans h.resumes
  terminated := h'.terminated
  phase := fun hs => h'.phase (h.phase hs)
  status := by
    intro st hs
    obtain ⟨ht, first⟩ := h.status st hs
    obtain ⟨hu, later⟩ := h'.status st ht
    refine ⟨hu, fun st' he => ?_⟩
    rcases List.mem_append.mp he with he | he
    · exact first st' he
    · exact later st' he
  ready := fun hu => h.ready (h'.ready hu)

theorem Fades.still (items : t.items = s.items) (fetches : t.fetches = s.fetches)
    (resumes : t.resumes = s.resumes) (phase : t.phase = s.phase)
    (dead : t.cell.terminated = true) (status : t.cell.status = s.cell.status)
    (ready : t.cell.ready = true → s.cell.ready = true)
    (quiet : ∀ e ∈ es, e.isLive = false ∧ ∀ st, e ≠ .ended st) : Fades s t es where
  quiet := fun e he => (quiet e he).1
  items := items
  fetches := fetches
  resumes := resumes
  terminated := dead
  phase := phase.trans
  status := fun _ hs => ⟨status.trans hs, fun st he => (quiet _ he).2 st rfl⟩
  ready := ready

/-! ## Each place that could ask for a read -/

theorem attach_of_terminated (h : s.cell.terminated = true) (lane : Nat) :
    s.attach lane = (s, none) := by
  rcases s.attach_cases lane with ⟨-, live, -⟩ | heq
  · simp [h] at live
  · exact heq

theorem refetch_of_terminated (h : s.cell.terminated = true) : s.refetch = (s, none) := by
  rcases s.refetch_cases with ⟨lane, -, live, -⟩ | heq
  · simp [h] at live
  · exact heq

/-- A hold on a call that is over is given up without a read. -/
theorem fades_resume (h : s.cell.terminated = true) :
    Fades s s.resume.1 (asks .resumed s.resume.2) := by
  rcases s.resume_cases with ⟨lane, -, live, -⟩ | ⟨lane, held, -, heq⟩ | ⟨-, heq⟩
  · simp [h] at live
  · rw [heq]
    exact { Fades.refl h with phase := fun _ => rfl }
  · rw [heq]
    exact Fades.refl h

theorem fades_afterTake {taken : Outcome (Cell α) (Option α)} {e : Event α}
    (dead : taken.state.terminated = true) (status : taken.state.status = s.cell.status)
    (ready : taken.state.ready = true → s.cell.ready = true)
    (quiet : e.isLive = false ∧ ∀ st, e ≠ .ended st) :
    Fades s (s.afterTake taken).state (e :: asks .resumed (s.afterTake taken).answer.2) := by
  have moved : Fades s { s with cell := taken.state } [e] :=
    Fades.still rfl rfl rfl rfl dead status ready (by simpa using quiet)
  rcases s.afterTake_cases taken with ⟨-, ha, hs⟩ | ⟨x, -, ha, hs⟩ <;> rw [ha, hs]
  · exact moved
  · exact moved.trans (fades_resume dead)

/-! ## Moves -/

variable {s : Session α}

theorem fades_take (h : s.stream.cell.terminated = true) :
    Fades s.stream s.take.1.stream s.take.2 :=
  fades_afterTake (by simpa using h) (by simp) Cell.ready_of_take (by simp [Event.isLive])

theorem fades_completeTake (h : s.stream.cell.terminated = true) :
    Fades s.stream s.completeTake.1.stream s.completeTake.2 := by
  unfold completeTake
  split
  · exact fades_afterTake h rfl id (by simp [Event.isLive])
  · exact Fades.refl h

theorem fades_readOn (h : s.stream.cell.terminated = true) (e : Ending) :
    Fades s.stream (s.readOn e).1.stream (s.readOn e).2 := by
  unfold readOn
  split
  · have dropped : Fades s.stream (s.stream.discard s.thread).state [] :=
      Fades.still rfl rfl rfl rfl (by simpa [Stream.discard] using h) (by simp [Stream.discard])
        Cell.ready_of_take (by simp)
    have heq := refetch_of_terminated dropped.terminated
    simpa [Stream.readOn, heq, asks] using dropped
  · exact Fades.refl h

theorem fades_leave (h : s.stream.cell.terminated = true) (e : Ending) :
    Fades s.stream (s.leave e).1.stream (s.leave e).2 := by
  have dead : Fades s.stream (s.stream.endInspection e.cutShort) [.left e] :=
    Fades.still rfl rfl rfl rfl h rfl id (by simp [Event.isLive])
  have taken := fades_completeTake (s := { s with stream := _ }) dead.terminated
  exact dead.trans (taken.trans (fades_readOn taken.terminated e))

theorem fades_moved {p : Session α × List (Event α)} (h : s.stream.cell.terminated = true)
    (hm : Moved s p) : Fades s.stream p.1.stream p.2 := by
  cases hm with
  | @attached lane rest =>
      have heq := attach_of_terminated h lane
      simpa [attach, heq, asks] using Fades.refl h
  | accepted x reading live => simp [h] at live
  -- The callback began before the end and may still continue: this is where it asks for nothing.
  | @left e x rest => exact fades_leave (s := { s with frames := rest }) h e
  | ended status first =>
      exact {
        quiet := by simp [Event.isLive]
        items := rfl
        fetches := rfl
        resumes := rfl
        terminated := rfl
        phase := fun _ => rfl
        status := fun st hs => by simp [hs] at first
        ready := id }
  | took => exact fades_take h
  | closed => exact Fades.still rfl rfl rfl rfl rfl rfl id (by simp [Event.isLive])
  | claimed =>
      exact Fades.still rfl rfl rfl rfl h rfl (fun hr => nomatch hr) (by simp [Event.isLive])
  | switched | launched | refused | rejected | ignored | returned | tookNothing | cancelled =>
      exact Fades.still rfl rfl rfl rfl h rfl id (by simp [Event.isLive])

/-! ## What the log tells of the end -/

/-- Closes and accepted ends. -/
def Event.isMark : Event α → Bool
  | closed | ended _ => true
  | _ => false

theorem isMark_of_mem_asks {why : Cause} {lane : Option Nat} {e : Event α}
    (h : e ∈ asks why lane) : e.isMark = false := by
  obtain ⟨l, -, rfl⟩ := List.mem_map.mp h
  rfl

theorem isMark_of_mem_completeTake {e : Event α} (h : e ∈ s.completeTake.2) :
    e.isMark = false := by
  unfold completeTake at h
  split at h
  · rcases List.mem_cons.mp h with rfl | h
    · rfl
    · exact isMark_of_mem_asks h
  · simp at h

theorem isMark_of_mem_leave {e : Event α} {how : Ending} (h : e ∈ (s.leave how).2) :
    e.isMark = false := by
  rcases List.mem_cons.mp h with rfl | h
  · rfl
  · rcases List.mem_append.mp h with h | h
    · exact isMark_of_mem_completeTake h
    · unfold readOn at h
      split at h
      · exact isMark_of_mem_asks h
      · simp at h

/-- A stream whose log has a close or an end is over, and the end it was given is the one it
keeps. -/
structure Told (s : Stream α) (log : List (Event α)) : Prop where
  closed : .closed ∈ log → s.cell.terminated = true
  ended : ∀ st, .ended st ∈ log →
    s.cell.terminated = true ∧ s.cell.status = some st ∧ s.phase = .ended

theorem told_create (id : CallId) (timeout : Option Nat) :
    Told (.create id timeout : Stream α) [] := ⟨by simp, by simp⟩

theorem told_of_moved {p : Session α × List (Event α)} (hm : Moved s p) :
    Told p.1.stream p.2 := by
  have silent : (∀ e ∈ p.2, e.isMark = false) → Told p.1.stream p.2 := by
    intro h
    exact ⟨fun he => (nomatch h _ he), fun st he => (nomatch h _ he)⟩
  -- Two moves tell of an end; all others say nothing that could be untrue.
  cases hm with
  | attached lane => exact silent fun e => isMark_of_mem_asks
  | left e => exact silent fun e => isMark_of_mem_leave
  | took =>
      refine silent fun e he => ?_
      rcases List.mem_cons.mp he with rfl | he
      · rfl
      · exact isMark_of_mem_asks he
  | closed => exact ⟨fun _ => rfl, fun st he => by simp at he⟩
  | ended status first =>
      refine ⟨fun he => by simp at he, fun st he => ?_⟩
      have : st = status := by simpa using he
      exact ⟨rfl, by simp [Cell.settle, Cell.terminate, first, this], rfl⟩
  | switched | launched | refused | accepted | rejected | ignored | returned | claimed
  | tookNothing | cancelled => exact silent (by simp [Event.isMark])

theorem told_moved {log : List (Event α)} {p : Session α × List (Event α)}
    (h : Told s.stream log) (hm : Moved s p) : Told p.1.stream (log ++ p.2) where
  closed := by
    intro he
    rcases List.mem_append.mp he with he | he
    · exact (fades_moved (h.closed he) hm).terminated
    · exact (told_of_moved hm).closed he
  ended := by
    intro st he
    rcases List.mem_append.mp he with he | he
    · obtain ⟨dead, status, phase⟩ := h.ended st he
      have fades := fades_moved dead hm
      exact ⟨fades.terminated, (fades.status st status).1, fades.phase phase⟩
    · exact (told_of_moved hm).ended st he

/-! ## Runs -/

/-- A terminated stream fades along every run. -/
theorem fades_run {s t : Session α} {ms : List (Move α)} {log : List (Event α)}
    (h : s.run ms = some (t, log)) (dead : s.stream.cell.terminated = true) :
    Fades s.stream t.stream log :=
  run_invariant (P := fun t log => Fades s.stream t.stream log)
    (fun fades hm => fades.trans (fades_moved fades.terminated hm)) h (Fades.refl dead)

/-- **The lifecycle goes forward only.** Take any run, and any run that continues it. If the read
side was closed or an end was accepted in the first, then in the second no read is asked for, no
callback of an item begins, and no counter moves. If an end was accepted in the first, then it
stands after the second: same status, same phase, terminated, no second final callback, and
nothing is offered that was not offered before. -/
theorem forward_only {id : CallId} {timeout : Option Nat} {thread : Nat}
    {ms ms' : List (Move α)} {s t : Session α} {log later : List (Event α)}
    (h : (fresh id timeout thread).run ms = some (s, log)) (h' : s.run ms' = some (t, later)) :
    ((.closed ∈ log ∨ ∃ st, .ended st ∈ log) →
      (∀ why lane, .asked why lane ∉ later) ∧ (∀ x, .accepted x ∉ later ∧ .shown x ∉ later) ∧
      t.stream.items = s.stream.items ∧ t.stream.fetches = s.stream.fetches ∧
      t.stream.resumes = s.stream.resumes) ∧
    (∀ st, .ended st ∈ log →
      s.stream.cell.status = some st ∧ t.stream.cell.status = some st ∧
      s.stream.phase = .ended ∧ t.stream.phase = .ended ∧
      t.stream.cell.terminated = true ∧ (∀ st', .ended st' ∉ later) ∧
      (t.stream.cell.ready = true → s.stream.cell.ready = true)) := by
  have told : Told s.stream log :=
    run_invariant (P := fun s log => Told s.stream log) told_moved h (told_create id timeout)
  constructor
  · intro mark
    have dead : s.stream.cell.terminated = true := by
      rcases mark with closed | ⟨st, ended⟩
      · exact told.closed closed
      · exact (told.ended st ended).1
    have fades := fades_run h' dead
    exact ⟨fun why lane he => (nomatch fades.quiet _ he),
      fun x => ⟨fun he => (nomatch fades.quiet _ he), fun he => (nomatch fades.quiet _ he)⟩,
      fades.items, fades.fetches, fades.resumes⟩
  · intro st ended
    obtain ⟨dead, status, phase⟩ := told.ended st ended
    have fades := fades_run h' dead
    obtain ⟨kept, once⟩ := fades.status st status
    exact ⟨status, kept, phase, fades.phase phase, fades.terminated, once, fades.ready⟩

/-- An end inside the callback of an item, -/
def endingMoves : List (Move Nat) :=
  [.start, .opened 0, .deliver 1, .finish ⟨.cancelled, "gone"⟩]

/-- and what is tried after it: the callback continues, a take, an item, a close and a second
end. -/
def laterMoves : List (Move Nat) :=
  [.back, .decide .proceed, .take, .deliver 2, .closeReads, .back, .finish .success]

theorem forward_only_moves : ∃ s log t later,
    (fresh ⟨1⟩ none 0).run endingMoves = some (s, log) ∧ s.run laterMoves = some (t, later) ∧
    .ended ⟨.cancelled, "gone"⟩ ∈ log ∧ (∀ why lane, .asked why lane ∉ later) ∧
    t.stream.fetches = s.stream.fetches ∧ t.stream.cell.status = some ⟨.cancelled, "gone"⟩ ∧
    ∀ st, .ended st ∉ later := by
  have h : (fresh ⟨1⟩ none 0).run endingMoves = some (_, _) := rfl
  obtain ⟨live, final⟩ := @forward_only _ _ _ _ _ laterMoves _ _ _ _ h rfl
  obtain ⟨-, status, -, -, -, once, -⟩ := final ⟨.cancelled, "gone"⟩ (by simp)
  obtain ⟨no_read, -, -, fetches, -⟩ := live (.inr ⟨⟨.cancelled, "gone"⟩, by simp⟩)
  exact ⟨_, _, _, _, h, rfl, by simp, no_read, fetches, status, once⟩

end Session

end CallBridge
