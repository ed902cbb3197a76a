import CallBridge.Proofs.Stream.Session

/-!
# Exchanges: the transport and the consumers of one stream, step by step

A session lets one thread act at a time and gives other threads whole operations. Here the
operations are cut where threads can come between them.

* A take claims the item, which lowers `ready`; it empties the place, for which it waits while
  the place is locked; and it resumes the stream, for which it needs the stream's own lock. Any
  number of takes may be under way, each as far as it likes.
* A delivery admits the item, publishes it with the place locked, and shows it to its callback.
  After a callback that consumed its item the delivery drops the item and asks for the next one.

What callbacks do is nothing special: while a delivery is at its callback, its thread may do what
any other may. Nothing is said of when the transport delivers, closes or ends, except that it
delivers one item at a time.
-/

namespace CallBridge

namespace Exchange

open Session (Cause Ending)

/-- How far a delivery is. -/
inductive Stage (α : Type) where
  | admitted (x : α)
  | showing
  | discarding
  | refetching
deriving DecidableEq, Repr

/-- What can be seen of a stream and of the place its items go through. -/
inductive Event (α : Type) where
  | launched
  | refused (fault : Fault)
  | asked (why : Cause) (lane : Nat)
  | accepted (x : α)
  | rejected (x : α)
  /-- An item is published in a place that held this before; its callback begins. -/
  | published (x : α) (lost : Option α)
  | left (e : Ending)
  | overtook
  | claimed (thread : Nat)
  | missed (thread : Nat)
  /-- A take that claimed the item `due` has emptied the place and found this there. -/
  | took (thread : Nat) (due found : Option α)
  | closed
  | ended (status : Status)
deriving DecidableEq, Repr

inductive Move (α : Type) where
  | launch
  | attach (lane : Nat)
  | accept (thread : Nat) (x : α)
  | publish
  | leave (e : Ending)
  | discard
  | refetch
  | closeReads
  | finish (status : Status)
  | claim (thread : Nat)
  | extract (thread : Nat)
  | resume (thread : Nat)
  | cancel
deriving DecidableEq, Repr

end Exchange

/-- One stream, the delivery that is under way on it, and the takes. -/
structure Exchange (α : Type) where
  stream : Stream α
  opening : Bool := false
  delivery : Option (Nat × Exchange.Stage α) := none
  /-- The item published last. No operation reads it. -/
  current : Option α := none
  /-- The takes that have claimed the item, which is told beside the thread, and not emptied the
  place yet. -/
  claims : List (Nat × Option α) := []
  /-- The takes that have got an item and not resumed the stream yet. -/
  resuming : List Nat := []
deriving DecidableEq, Repr

namespace Exchange

open Session (Cause Ending)

variable {α : Type}

def fresh (id : CallId) (timeout : Option Nat) : Exchange α := { stream := .create id timeout }

def taking (s : Exchange α) : Bool := !s.claims.isEmpty || !s.resuming.isEmpty

/-- A thread in the middle of a take, or of a delivery that is not at its callback, does nothing
else. -/
def free (s : Exchange α) (p : Nat) : Bool :=
  s.claims.all (fun c => c.1 ≠ p) && !s.resuming.contains p &&
    match s.delivery with
    | none | some (_, .showing) => true
    | some (q, _) => q ≠ p

@[simp] def setCell (s : Exchange α) (cell : Cell α) : Exchange α :=
  { s with stream := { s.stream with cell } }

/-- The read that the answer of a transition asks for, if any. -/
def asks (why : Cause) (lane : Option Nat) : List (Event α) := lane.toList.map (Event.asked why)

/-! ## Moves and runs -/

def claim (s : Exchange α) (p : Nat) : Exchange α × List (Event α) :=
  if s.stream.cell.inspector = some p then (s, [.missed p])
  else
    match s.stream.cell.claim with
    | some cell => ({ s.setCell cell with claims := (p, s.current) :: s.claims }, [.claimed p])
    | none => (s, [.missed p])

def extract (s : Exchange α) (p : Nat) (due : Option α) : Exchange α × List (Event α) :=
  let o := s.stream.cell.extract
  ({ s.setCell o.state with
      claims := s.claims.eraseP (fun c => c.1 = p)
      resuming := if o.answer.isSome then p :: s.resuming else s.resuming },
    [.took p due o.answer])

def resume (s : Exchange α) (p : Nat) : Exchange α × List (Event α) :=
  let o := s.stream.resume
  ({ s with stream := o.1, resuming := s.resuming.erase p }, asks .resumed o.2)

def step (s : Exchange α) : Move α → Option (Exchange α × List (Event α))
  | .launch =>
    let o := s.stream.launch
    match o.answer with
    | .ok () => some ({ s with stream := o.state, opening := true }, [.launched])
    | .error f => some ({ s with stream := o.state }, [.refused f])
  | .attach lane =>
    if s.opening then
      let o := s.stream.attach lane
      some ({ s with stream := o.1, opening := false }, asks .opened o.2)
    else none
  | .accept p x =>
    if s.delivery.isNone && s.free p then
      let o := s.stream.accept
      if o.answer then
        some ({ s with stream := o.state, delivery := some (p, .admitted x) }, [.accepted x])
      else some ({ s with stream := o.state }, [.rejected x])
    else none
  | .publish =>
    match s.delivery with
    | some (p, .admitted x) =>
      some ({ s with
          stream := (s.stream.beginInspection p x).state
          delivery := some (p, .showing), current := some x },
        [.published x s.stream.cell.item])
    | _ => none
  | .leave e =>
    match s.delivery with
    | some (p, .showing) =>
      some ({ s with
          stream := s.stream.endInspection e.cutShort
          delivery := if e.consumes then some (p, .discarding) else none },
        [.left e])
    | _ => none
  | .discard =>
    match s.delivery with
    | some (p, .discarding) =>
      some ({ s with
          stream := (s.stream.discard p).state, delivery := some (p, .refetching) }, [])
    | _ => none
  | .refetch =>
    match s.delivery with
    | some (_, .refetching) =>
      let o := s.stream.refetch
      some ({ s with stream := o.1, delivery := none },
        asks .continued o.2 ++ if o.2.isSome && s.taking then [.overtook] else [])
    | _ => none
  | .closeReads => some ({ s with stream := s.stream.closeReads.state }, [.closed])
  | .finish status =>
    let o := s.stream.finish status
    if o.answer then some ({ s with stream := o.state }, [.ended status])
    else some ({ s with stream := o.state }, [])
  | .claim p => if s.free p then some (s.claim p) else none
  | .extract p =>
    match s.claims.find? (fun c => c.1 = p) with
    | some c => if s.stream.cell.inspector.isNone then some (s.extract p c.2) else none
    | none => none
  | .resume p => if s.resuming.contains p then some (s.resume p) else none
  | .cancel => some ({ s with stream := s.stream.cancel.state }, [])

def run (s : Exchange α) (ms : List (Move α)) : Option (Exchange α × List (Event α)) :=
  runWith step s ms

/-! ## What a move can come to -/

inductive Moved (s : Exchange α) : Move α → Exchange α × List (Event α) → Prop where
  | launched (first : s.stream.started = false) :
      Moved s .launch
        ({ s with stream := { s.stream with started := true }, opening := true }, [.launched])
  | refused (again : s.stream.started = true) :
      Moved s .launch (s, [.refused (.alreadyStarted s.stream.cell.id)])
  | attached (lane : Nat) (opening : s.opening = true) :
      Moved s (.attach lane)
        ({ s with stream := (s.stream.attach lane).1, opening := false },
          asks .opened (s.stream.attach lane).2)
  | accepted (p : Nat) (x : α) {lane : Nat} (idle : s.delivery = none)
      (reading : s.stream.phase = .reading lane) (live : s.stream.cell.terminated = false) :
      Moved s (.accept p x)
        ({ s with
            stream := { s.stream with phase := .held lane, items := s.stream.items + 1 }
            delivery := some (p, .admitted x) },
          [.accepted x])
  | rejected (p : Nat) (x : α) (idle : s.delivery = none)
      (unwanted : (∀ lane, s.stream.phase ≠ .reading lane) ∨ s.stream.cell.terminated = true) :
      Moved s (.accept p x) (s, [.rejected x])
  | published (p : Nat) (x : α) (stage : s.delivery = some (p, .admitted x)) :
      Moved s .publish
        ({ s.setCell { s.stream.cell with
              item := some x, ready := true, inspector := some p } with
            delivery := some (p, .showing), current := some x },
          [.published x s.stream.cell.item])
  | left (p : Nat) (e : Ending) (stage : s.delivery = some (p, .showing)) :
      Moved s (.leave e)
        ({ s.setCell (s.stream.cell.endInspection e.cutShort) with
            delivery := if e.consumes then some (p, .discarding) else none },
          [.left e])
  | discarded (p : Nat) (stage : s.delivery = some (p, .discarding)) :
      Moved s .discard
        ({ s.setCell (s.stream.cell.take p).state with delivery := some (p, .refetching) }, [])
  | refetched (p : Nat) (stage : s.delivery = some (p, .refetching)) :
      Moved s .refetch
        ({ s with stream := s.stream.refetch.1, delivery := none },
          asks .continued s.stream.refetch.2 ++
            if s.stream.refetch.2.isSome && s.taking then [.overtook] else [])
  | closed : Moved s .closeReads (s.setCell s.stream.cell.terminate, [.closed])
  | ended (status : Status) (first : s.stream.cell.status = none) :
      Moved s (.finish status)
        ({ s with
            stream := { s.stream with
              cell := (s.stream.cell.settle status).terminate, phase := .ended } },
          [.ended status])
  | ignored (status : Status) (again : s.stream.cell.status.isSome) :
      Moved s (.finish status) (s, [])
  | claimed (p : Nat) (outside : s.stream.cell.inspector ≠ some p)
      (ready : s.stream.cell.ready = true) :
      Moved s (.claim p)
        ({ s.setCell { s.stream.cell with ready := false } with
            claims := (p, s.current) :: s.claims },
          [.claimed p])
  | missed (p : Nat)
      (nothing : s.stream.cell.inspector = some p ∨ s.stream.cell.ready = false) :
      Moved s (.claim p) (s, [.missed p])
  | took (p : Nat) (due : Option α) (claim : (p, due) ∈ s.claims)
      (unlocked : s.stream.cell.inspector = none) :
      Moved s (.extract p)
        ({ s.setCell { s.stream.cell with item := none } with
            claims := s.claims.eraseP (fun c => c.1 = p)
            resuming := if s.stream.cell.item.isSome then p :: s.resuming else s.resuming },
          [.took p due s.stream.cell.item])
  | resumed (p : Nat) (got : p ∈ s.resuming) :
      Moved s (.resume p)
        ({ s with stream := s.stream.resume.1, resuming := s.resuming.erase p },
          asks .resumed s.stream.resume.2)
  | cancelled : Moved s .cancel (s.setCell { s.stream.cell with cancelled := true }, [])

variable {s : Exchange α} {q : Exchange α × List (Event α)}

theorem moved_launch (h : s.step .launch = some q) : Moved s .launch q := by
  unfold step at h
  rcases s.stream.launch_cases with ⟨first, ha, hs⟩ | ⟨again, ha, hs⟩ <;>
    simp only [ha, hs, Option.some.injEq] at h
  · exact h ▸ .launched first
  · exact h ▸ .refused again

theorem moved_accept {p : Nat} {x : α} (h : s.step (.accept p x) = some q) :
    Moved s (.accept p x) q := by
  obtain ⟨fits, h⟩ := Option.ite_none_right_eq_some.mp h
  have idle : s.delivery = none := by
    simpa using (Bool.and_eq_true_iff.mp fits).1
  rcases s.stream.accept_cases with ⟨lane, reading, live, ha, hs⟩ | ⟨unwanted, ha, hs⟩ <;>
    simp only [ha, hs, if_true, Bool.false_eq_true, if_false, Option.some.injEq] at h
  · exact h ▸ .accepted p x idle reading live
  · exact h ▸ .rejected p x idle unwanted

/-- The parts of a delivery after its acceptance come in their order. -/
theorem moved_deliver {m : Move α} (h : s.step m = some q)
    (hm : m = .publish ∨ (∃ e, m = .leave e) ∨ m = .discard ∨ m = .refetch) : Moved s m q := by
  match stage : s.delivery with
  | none =>
      rcases hm with rfl | ⟨e, rfl⟩ | rfl | rfl <;> simp [step, stage] at h
  | some (p, .admitted x) =>
      rcases hm with rfl | ⟨e, rfl⟩ | rfl | rfl <;>
        simp only [step, stage, Option.some.injEq, reduceCtorEq] at h
      exact h ▸ .published p x stage
  | some (p, .showing) =>
      rcases hm with rfl | ⟨e, rfl⟩ | rfl | rfl <;>
        simp only [step, stage, Option.some.injEq, reduceCtorEq] at h
      exact h ▸ .left p e stage
  | some (p, .discarding) =>
      rcases hm with rfl | ⟨e, rfl⟩ | rfl | rfl <;>
        simp only [step, stage, Option.some.injEq, reduceCtorEq] at h
      exact h ▸ .discarded p stage
  | some (p, .refetching) =>
      rcases hm with rfl | ⟨e, rfl⟩ | rfl | rfl <;>
        simp only [step, stage, Option.some.injEq, reduceCtorEq] at h
      exact h ▸ .refetched p stage

theorem moved_finish {status : Status} (h : s.step (.finish status) = some q) :
    Moved s (.finish status) q := by
  unfold step at h
  rcases s.stream.finish_cases status with ⟨first, ha, hs⟩ | ⟨again, ha, hs⟩ <;>
    simp only [ha, hs, if_true, Bool.false_eq_true, if_false, Option.some.injEq] at h
  · exact h ▸ .ended status first
  · exact h ▸ .ignored status again

theorem moved_claim (s : Exchange α) (p : Nat) : Moved s (.claim p) (s.claim p) := by
  unfold claim
  by_cases inside : s.stream.cell.inspector = some p
  · rw [if_pos inside]
    exact .missed p (.inl inside)
  · rw [if_neg inside]
    cases ready : s.stream.cell.ready with
    | true => simpa [Cell.claim, ready] using Moved.claimed p inside ready
    | false => simpa [Cell.claim, ready] using Moved.missed p (.inr ready)

theorem moved_extract {p : Nat} (h : s.step (.extract p) = some q) :
    Moved s (.extract p) q := by
  unfold step at h
  cases found : s.claims.find? (fun c => c.1 = p) with
  | none => simp [found] at h
  | some c =>
      simp only [found] at h
      obtain ⟨unlocked, h⟩ := Option.ite_none_right_eq_some.mp h
      have whose : c.1 = p := by simpa using List.find?_some found
      have claim : (p, c.2) ∈ s.claims := whose ▸ List.mem_of_find?_eq_some found
      exact Option.some.inj h ▸ .took p c.2 claim (by simpa using unlocked)

theorem moved_of_step {m : Move α} (h : s.step m = some q) : Moved s m q := by
  cases m with
  | launch => exact moved_launch h
  | attach lane =>
      obtain ⟨opening, h⟩ := Option.ite_none_right_eq_some.mp h
      exact Option.some.inj h ▸ .attached lane opening
  | accept p x => exact moved_accept h
  | publish => exact moved_deliver h (.inl rfl)
  | leave e => exact moved_deliver h (.inr (.inl ⟨e, rfl⟩))
  | discard => exact moved_deliver h (.inr (.inr (.inl rfl)))
  | refetch => exact moved_deliver h (.inr (.inr (.inr rfl)))
  | closeReads => exact Option.some.inj h ▸ .closed
  | finish status => exact moved_finish h
  | claim p =>
      obtain ⟨-, h⟩ := Option.ite_none_right_eq_some.mp h
      exact Option.some.inj h ▸ moved_claim s p
  | extract p => exact moved_extract h
  | resume p =>
      obtain ⟨got, h⟩ := Option.ite_none_right_eq_some.mp h
      exact Option.some.inj h ▸ .resumed p (List.contains_iff_mem.mp got)
  | cancel => exact Option.some.inj h ▸ .cancelled

theorem run_invariant {P : Exchange α → List (Event α) → Prop}
    (keep : ∀ {s before m q}, P s before → Moved s m q → P q.1 (before ++ q.2))
    {ms : List (Move α)} {s t : Exchange α} {before log : List (Event α)}
    (h : s.run ms = some (t, log)) (hs : P s before) : P t (before ++ log) := by
  refine runWith_invariant (P := P) ?_ h hs
  intro u before m v es hu hstep
  exact keep hu (moved_of_step hstep)

/-! ## The parts together

Moves that nothing comes between are the operations of a stream. -/

variable {p : Nat}

theorem run_deliver {x : α} {lane : Nat} (idle : s.delivery = none) (free : s.free p)
    (reading : s.stream.phase = .reading lane) (live : s.stream.cell.terminated = false) :
    ∃ t log, s.run [.accept p x, .publish] = some (t, log) ∧
      t.stream = (s.stream.deliver p x).state := by
  have wanted : s.stream.accept =
      { state := { s.stream with phase := .held lane, items := s.stream.items + 1 }
        answer := true } := by
    simp [Stream.accept, reading, live]
  refine ⟨_, _, by simp [run, runWith, step, idle, free, wanted]; exact ⟨rfl, rfl⟩, ?_⟩
  simp [Stream.deliver, wanted]

theorem run_readOn (stage : s.delivery = some (p, .discarding)) :
    ∃ t log, s.run [.discard, .refetch] = some (t, log) ∧
      t.stream = (s.stream.readOn p).state :=
  ⟨_, _, by simp [run, runWith, step, stage]; exact ⟨rfl, rfl⟩, rfl⟩

theorem resume_extract_claim {due : Option α} {x : α} (outside : s.stream.cell.inspector ≠ some p)
    (ready : s.stream.cell.ready = true) (item : s.stream.cell.item = some x) :
    (((s.claim p).1.extract p due).1.resume p).1.stream = (s.stream.take p).state ∧
      ((s.claim p).1.extract p due).2 = [.took p due (s.stream.take p).answer.1] := by
  simp [claim, outside, Cell.claim, ready, extract, Cell.extract, resume, Stream.take,
    Stream.afterTake, Cell.take, item]

theorem claim_nothing
    (nothing : s.stream.cell.inspector = some p ∨ s.stream.cell.ready = false) :
    s.claim p = (s, [.missed p]) ∧ (s.stream.take p).state = s.stream ∧
      (s.stream.take p).answer = (none, none) := by
  by_cases inside : s.stream.cell.inspector = some p
  · simp [claim, inside, Stream.take, Stream.afterTake, Cell.take]
  · have empty : s.stream.cell.ready = false := nothing.resolve_left inside
    simp [claim, inside, Stream.take, Stream.afterTake, Cell.take, Cell.claim, empty]

end Exchange

end CallBridge
