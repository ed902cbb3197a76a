import CallBridge.Proofs.Loop.Operations

/-!
# Stop markers and their runs

The flag of a loop, the number of its run and the markers in its queue speak of the same request. A
run may end without meeting its own marker, which then stays in the queue for the next one: what
keeps it harmless is that every marker carries the number of the run it was sent in, and that the
flag tells whether the current run has sent one.
-/

namespace CallBridge

namespace Station

variable {π : Type}

/-- The numbers on the stop markers of a queue, in order. -/
def markers (q : List (Message π)) : List Nat :=
  q.filterMap fun
    | .halt n => some n
    | .event _ => none

section

variable (q q' : List (Message π)) (e : Event π) (n : Nat)

@[simp] theorem markers_append : markers (q ++ q') = markers q ++ markers q' :=
  List.filterMap_append

@[simp] theorem markers_nil : markers ([] : List (Message π)) = [] := rfl
@[simp] theorem markers_cons_event : markers (.event e :: q) = markers q := rfl
@[simp] theorem markers_cons_halt : markers (.halt n :: q) = n :: markers q := rfl

theorem mem_markers : n ∈ markers q ↔ Message.halt n ∈ q := by
  rw [markers, List.mem_filterMap]
  constructor
  · rintro ⟨m, hm, same⟩
    cases m with
    | event e => cases same
    | halt k => exact Option.some.inj same ▸ hm
  · intro h
    exact ⟨.halt n, h, rfl⟩

theorem mem_markers_of_tail {m : Message π} {n : Nat} (head : q = m :: q') (hn : n ∈ markers q') :
    n ∈ markers q := by
  rw [mem_markers] at hn ⊢
  rw [head]
  exact List.mem_cons_of_mem _ hn

end

/-! ## The three representations agree -/

/-- Where a run is active its consumer is at work, and the flag is up if and only if the marker of
this very run is queued. Without a run the flag is down. -/
structure Dated (s : Station π) : Prop where
  there : s.loop.isOpen = true
  past : ∀ n ∈ markers s.loop.queue, n ≤ s.loop.epoch
  active : s.loop.running = true → s.post.run? = some s.loop.epoch
  own : s.loop.running = true →
    (s.loop.haltRequested = true ↔ s.loop.epoch ∈ markers s.loop.queue)
  idle : s.loop.running = false → s.post = .vacant ∧ s.loop.haltRequested = false

variable {s t : Station π} {log es : List (Notice π)}

theorem dated_fresh (policy : LoopPolicy) : Dated (fresh policy : Station π) where
  there := rfl
  past := by simp [fresh]
  active := nofun
  own := nofun
  idle := fun _ => ⟨rfl, rfl⟩

theorem Dated.running_of_run {n : Nat} (h : Dated s) (run : s.post.run? = some n) :
    s.loop.running = true ∧ n = s.loop.epoch := by
  cases running : s.loop.running with
  | false =>
      rw [(h.idle running).1] at run
      cases run
  | true =>
      rw [h.active running] at run
      exact ⟨rfl, (Option.some.inj run).symm⟩

/-- A queue that some run begins with: its markers are all of earlier runs. -/
theorem dated_started {s : Station π} (past : ∀ n ∈ markers s.loop.queue, n ≤ s.loop.epoch) :
    Dated { s with
      loop := { s.loop with
        receiver := .away, running := true, haltRequested := false, epoch := s.loop.epoch + 1 }
      post := .numbered (s.loop.epoch + 1) } where
  there := rfl
  past := fun n hn => Nat.le_succ_of_le (past n hn)
  active := fun _ => rfl
  own := by
    intro _
    constructor
    · exact nofun
    · intro own
      exact absurd (past _ own) (Nat.not_succ_le_self _)
  idle := nofun

theorem dated_leave (past : ∀ n ∈ markers s.loop.queue, n ≤ s.loop.epoch)
    (result : Except Fault Unit) : Dated (s.leave result).1 where
  there := rfl
  past := past
  active := nofun
  own := nofun
  idle := fun _ => ⟨rfl, rfl⟩

theorem Dated.advance {n : Nat} {post : Post π} {q : List (Message π)} {pending : Nat}
    {consumer : Option Nat} (h : Dated s) (run : s.post.run? = some n) (next : post.run? = some n)
    (older : ∀ m ∈ markers q, m ∈ markers s.loop.queue)
    (own : s.loop.epoch ∈ markers s.loop.queue → s.loop.epoch ∈ markers q) :
    Dated { s with loop := { s.loop with queue := q, pending, consumer }, post } := by
  obtain ⟨running, rfl⟩ := h.running_of_run run
  refine ⟨h.there, fun m hm => h.past m (older m hm), fun _ => next, fun _ => ?_, ?_⟩
  · rw [h.own running]
    exact ⟨own, older _⟩
  · intro idle
    rw [running] at idle
    cases idle

theorem Dated.post {n : Nat} {post : Post π} (h : Dated s) (run : s.post.run? = some n)
    (next : post.run? = some n) : Dated { s with post } :=
  h.advance run next (fun _ => id) id

theorem Fails.run? {n : Nat} {e : Event π} {f : Fault} (h : Fails s n e f) :
    s.post.run? = some n := by
  cases h with
  | unknown post => exact congrArg Post.run? post
  | handler v post => exact congrArg Post.run? post

theorem dated_operated {p : Station π × List (Notice π)} (h : Dated s) (ho : Operated s p) :
    Dated p.1 := by
  cases ho with
  | rejected | haltedNothing | haltedAgain | registeredTwice | refused | waiting => exact h
  | registered => exact ⟨h.there, h.past, h.active, h.own, h.idle⟩
  | enqueued p e there =>
      have same : markers (s.loop.queue ++ [.event e]) = markers s.loop.queue := by simp
      exact ⟨there, same ▸ h.past, h.active, same ▸ h.own, h.idle⟩
  | halted running first there =>
      refine ⟨there, ?_, h.active, ?_, ?_⟩
      · intro n hn
        rcases List.mem_append.mp (markers_append _ _ ▸ hn) with old | new
        · exact h.past n old
        · exact Nat.le_of_eq (List.mem_singleton.mp new)
      · intro _
        simp
      · intro idle
        exact absurd (running.symm.trans idle) nofun
  | haltedLost _ _ gone => exact absurd (h.there.symm.trans gone) nofun
  | started => exact dated_started h.past
  | begun thread post => exact h.advance (congrArg Post.run? post) rfl (fun _ => id) id
  | abandoned => exact dated_leave h.past _
  | @propagated n e f => exact dated_leave h.past (.error f)
  | @met _ q post head =>
      refine dated_leave (s := s.after q) ?_ _
      exact fun n hn => h.past n (mem_markers_of_tail _ _ head hn)
  | skipped post head other =>
      have here : s.post.run? = some _ := congrArg Post.run? post
      refine h.advance here here ?_ ?_
      · exact fun n hn => mem_markers_of_tail _ _ head hn
      · intro own
        rw [head] at own
        exact (List.mem_cons.mp own).resolve_left (Ne.symm other)
  | taken post go head =>
      have same : markers s.loop.queue = markers _ := congrArg markers head
      exact h.advance (congrArg Post.run? post) rfl (fun n hn => same ▸ hn) (fun own => same ▸ own)
  | called post => exact h.post (congrArg Post.run? post) rfl
  | succeeded post => exact h.post (congrArg Post.run? post) rfl
  | reported fails => exact h.post fails.run? rfl

/-! ## One marker for each run -/

theorem distinct_operated {p : Station π × List (Notice π)} (h : Dated s)
    (distinct : (markers s.loop.queue).Nodup) (ho : Operated s p) :
    (markers p.1.loop.queue).Nodup := by
  cases ho with
  | rejected | haltedNothing | haltedAgain | haltedLost | registered | registeredTwice | refused
  | started | begun | abandoned | waiting | called | succeeded | reported | propagated =>
      exact distinct
  | enqueued => simpa using distinct
  | halted running first there =>
      have absent : s.loop.epoch ∉ markers s.loop.queue := by
        rw [← h.own running, first]
        exact Bool.false_ne_true
      rw [markers_append]
      refine List.nodup_append.mpr ⟨distinct, by simp, ?_⟩
      intro n hn m hm same
      rw [List.mem_singleton.mp hm] at same
      exact absent (same ▸ hn)
  | met post head | skipped post head other | taken post go head =>
      rw [head] at distinct
      simp only [markers_cons_halt, markers_cons_event, List.nodup_cons] at distinct
      first
      | exact distinct
      | exact distinct.2

/-! ## What was seen of a run -/

/-- A notice that can be seen within a run. -/
def Notice.isWithin : Notice π → Bool
  | .started _ | .ended _ => false
  | _ => true

/-- While a run is active, the flag tells whether a halt was accepted since its start. -/
def Told (s : Station π) (log : List (Notice π)) : Prop :=
  s.loop.running = true → ∃ before after, log = before ++ .started s.loop.epoch :: after ∧
    (∀ x ∈ after, x.isWithin = true) ∧
    (s.loop.haltRequested = true ↔ .halted true ∈ after)

theorem told_idle (idle : s.loop.running = false) : Told s log := by
  intro running
  rw [idle] at running
  cases running

theorem Told.go (h : Told s log) (running : t.loop.running = s.loop.running)
    (epoch : t.loop.epoch = s.loop.epoch)
    (flag : t.loop.haltRequested = true ↔ s.loop.haltRequested = true ∨ .halted true ∈ es)
    (within : ∀ x ∈ es, x.isWithin = true) : Told t (log ++ es) := by
  intro active
  obtain ⟨before, after, rfl, inside, told⟩ := h (running ▸ active)
  refine ⟨before, after ++ es, ?_, ?_, ?_⟩
  · rw [epoch, List.append_assoc, List.cons_append]
  · intro x hx
    exact (List.mem_append.mp hx).elim (inside x) (within x)
  · rw [flag, told, List.mem_append]

theorem told_operated {p : Station π × List (Notice π)} (d : Dated s) (h : Told s log)
    (ho : Operated s p) : Told p.1 (log ++ p.2) := by
  cases ho with
  | haltedNothing idle => exact told_idle idle
  | haltedLost _ _ gone => exact absurd (d.there.symm.trans gone) nofun
  | abandoned | met | propagated => exact told_idle rfl
  | started =>
      intro _
      exact ⟨log, [], rfl, List.forall_mem_nil _, by simp⟩
  | halted running first =>
      exact h.go rfl rfl (by simp) (by simp [Notice.isWithin])
  | haltedAgain running again =>
      exact h.go rfl rfl (by simp [again]) (by simp [Notice.isWithin])
  | enqueued | rejected | registered | registeredTwice | refused | taken | reported =>
      exact h.go rfl rfl (by simp) (by simp [Notice.isWithin])
  | begun | waiting | skipped | called | succeeded =>
      exact h.go rfl rfl (by simp [after, EventLoop.begin]) (List.forall_mem_nil _)

/-! ## What a turn meets -/

theorem queue_of_wait {l : EventLoop π} (h : l.turn.2 = .wait) : l.queue = [] := by
  unfold EventLoop.turn EventLoop.receive at h
  split at h
  · cases h
  · cases queue : l.queue with
    | nil => rfl
    | cons m q =>
        rw [queue] at h
        cases m with
        | event e => cases h
        | halt n =>
            simp only at h
            split at h <;> cases h

theorem asked_of_stop {l : EventLoop π} (h : l.turn.2 = .stop) :
    l.haltRequested = true ∨ l.epoch ∈ markers l.queue := by
  unfold EventLoop.turn EventLoop.receive at h
  split at h
  · next stop => exact .inl stop.2
  · cases queue : l.queue with
    | nil =>
        rw [queue] at h
        cases h
    | cons m q =>
        rw [queue] at h
        cases m with
        | event e => cases h
        | halt n =>
            simp only at h
            split at h
            · next own => exact .inr (own ▸ List.mem_cons_self)
            · cases h

/-- **A halt belongs to the run it was accepted in.** The markers in the queue are of different runs
and of none to come. While a run is active, the flag is up if and only if a halt was accepted since
its start; then the marker of this run is queued, the consumer has something to do, and another halt
changes nothing. Only then can a turn end the run, so a marker that an earlier run has left ends
none. Without a run the flag is down and a halt changes nothing. -/
theorem halts_belong_to_runs {policy : LoopPolicy} {os : List (Operation π)}
    (h : (fresh policy).operations os = some (s, log)) :
    (∀ n ∈ markers s.loop.queue, n ≤ s.loop.epoch) ∧ (markers s.loop.queue).Nodup ∧
    (s.loop.running = true → s.post.run? = some s.loop.epoch ∧
      ∃ before after, log = before ++ .started s.loop.epoch :: after ∧
        (∀ x ∈ after, x.isWithin = true) ∧
        (s.loop.haltRequested = true ↔ .halted true ∈ after) ∧
        (.halted true ∈ after → .halt s.loop.epoch ∈ s.loop.queue ∧ s.loop.turn.2 ≠ .wait ∧
          s.operate .halt = some (s, [.halted true])) ∧
        (s.loop.turn.2 = .stop → .halted true ∈ after)) ∧
    (s.loop.running = false → s.post = .vacant ∧ s.loop.haltRequested = false ∧
      s.operate .halt = some (s, [.halted false])) := by
  obtain ⟨dated, distinct, told⟩ :
      Dated s ∧ (markers s.loop.queue).Nodup ∧ Told s ([] ++ log) := by
    refine operations_invariant
      (P := fun s log => Dated s ∧ (markers s.loop.queue).Nodup ∧ Told s log) ?_ h ?_
    · rintro u before p ⟨dated, distinct, told⟩ ho
      exact ⟨dated_operated dated ho, distinct_operated dated distinct ho,
        told_operated dated told ho⟩
    · exact ⟨dated_fresh policy, List.nodup_nil, told_idle rfl⟩
  refine ⟨dated.past, distinct, ?_, ?_⟩
  · intro running
    obtain ⟨before, after, split, within, flag⟩ := told running
    refine ⟨dated.active running, before, after, split, within, flag, ?_, ?_⟩
    · intro accepted
      have asked := flag.mpr accepted
      have queued := (dated.own running).mp asked
      refine ⟨(mem_markers _ _).mp queued, ?_, congrArg some (halt_again running asked)⟩
      intro wait
      rw [queue_of_wait wait] at queued
      cases queued
    · intro stop
      apply flag.mp
      rcases asked_of_stop stop with asked | queued
      · exact asked
      · exact (dated.own running).mpr queued
  · intro idle
    obtain ⟨vacant, down⟩ := dated.idle idle
    exact ⟨vacant, down, congrArg some (halt_idle idle)⟩

/-- A run that a failure ends after it was asked twice to stop, and a second run that has dropped
the first one's marker and is asked to stop in its turn. -/
def staleMarkerOperations : List (Operation Nat) :=
  [.enqueue 1 { name := "a" }, .run, .begin Thread.main, .halt, .halt, .turn, .call, .halt,
    .run, .begin Thread.main, .turn, .turn, .halt]

theorem halts_belong_to_runs_stale : ∃ s log,
    (fresh { onFailure := .propagate }).operations staleMarkerOperations = some (s, log) ∧
    s.loop.queue = [.halt 2] ∧ s.loop.epoch = 2 ∧
    s.operate .halt = some (s, [.halted true]) ∧
    ∃ before after, log = before ++ .started 2 :: after ∧ .halted true ∈ after := by
  have h : (fresh { onFailure := .propagate }).operations staleMarkerOperations = some (_, _) := rfl
  obtain ⟨-, -, active, -⟩ := halts_belong_to_runs h
  obtain ⟨-, before, after, split, -, flag, asked, -⟩ := active rfl
  have accepted := flag.mp rfl
  obtain ⟨-, -, again⟩ := asked accepted
  exact ⟨_, _, h, rfl, rfl, again, before, after, split, accepted⟩

end Station

end CallBridge
