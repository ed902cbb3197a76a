import CallBridge.Proofs.Loop.Markers

/-!
# Halts at the start of a run

A run becomes visible before it has lowered the flag and taken its number. A halt that comes in
between can answer that it was accepted although its marker carries the number of the run before,
which the consumer drops. When the flag is raised after it was lowered, it stays up without a marker
of this run, and from then on no halt does anything. As long as no halt is answered between the two
steps, the flag of an active run has its marker, queued or about to be sent.
-/

namespace CallBridge

namespace Station

variable {π : Type}

/-- Somebody has raised the flag and is about to send the marker. -/
def MarkerComing (s : Station π) : Prop := ∃ p, s.errands.find? p = some .raised

/-- The run with the given number is bound to meet its marker. -/
def Effective (s : Station π) (n : Nat) : Prop :=
  Message.halt n ∈ s.loop.queue ∨ s.MarkerComing

variable {s t : Station π} {log es : List (Notice π)} {p : Station π × List (Notice π)}

/-! ## The number of the active run -/

/-- The queue is there, and who is at work has the number of the loop. -/
structure Numbered (s : Station π) : Prop where
  there : s.loop.isOpen = true
  manned : s.Manned
  number : ∀ n, s.post.run? = some n → n = s.loop.epoch

theorem numbered_fresh (policy : LoopPolicy) : Numbered (fresh policy : Station π) where
  there := rfl
  manned := manned_fresh policy
  number := nofun

theorem fail_run? (s : Station π) (n : Nat) (e : Event π) (f : Fault) :
    (s.fail n e f).1.post.run? = some n ∨ (s.fail n e f).1.post.run? = none := by
  unfold fail
  split
  · exact .inr rfl
  · exact .inl rfl

theorem dispatch_run? (s : Station π) (n : Nat) (e : Event π) :
    (s.dispatch n e).1.post.run? = some n ∨ (s.dispatch n e).1.post.run? = none := by
  unfold dispatch
  split
  · exact .inl rfl
  · exact s.fail_run? n e _

theorem settle_run? (s : Station π) (n : Nat) (e : Event π) (v : Verdict) :
    (s.settle n e v).1.post.run? = some n ∨ (s.settle n e v).1.post.run? = none := by
  unfold settle
  split
  · exact .inl rfl
  · exact s.fail_run? n e _

theorem numbered_accessed (h : Numbered s) (ha : Accessed s p) : Numbered p.1 := by
  refine ⟨?_, manned_accessed h.manned ha, ?_⟩
  · cases ha with
    | @dispatched n e => exact (s.dispatch_quiet n e).1 ▸ h.there
    | @settled n e v => exact (s.settle_quiet n e v).1 ▸ h.there
    | took | handedBack => rfl
    | _ => exact h.there
  · intro n run
    cases ha with
    | numbered => exact (Option.some.inj run).symm
    | begun thread post | looked post | skipped post | received post | countedDown post =>
        exact h.number n ((congrArg Post.run? post).trans run)
    | @dispatched m e post =>
        rw [(s.dispatch_quiet m e).1]
        rcases s.dispatch_run? m e with same | none
        · exact h.number n ((congrArg Post.run? post).trans (same.symm.trans run))
        · exact nomatch none.symm.trans run
    | @settled m e v post =>
        rw [(s.settle_quiet m e v).1]
        rcases s.settle_run? m e v with same | none
        · exact h.number n ((congrArg Post.run? post).trans (same.symm.trans run))
        · exact nomatch none.symm.trans run
    | took | lowered | lookedUp | met | signedOff | handedBack | cleared | rested => cases run
    | _ => exact h.number n run

/-! ## Markers that are coming -/

theorem MarkerComing.insert {q : Nat} {x : Errand π} (h : MarkerComing s)
    (other : s.errands.find? q ≠ some .raised) :
    MarkerComing { s with errands := s.errands.insert q x } := by
  obtain ⟨p, raised⟩ := h
  have differ : p ≠ q := by
    rintro rfl
    exact other raised
  exact ⟨p, (Table.find?_insert_of_ne _ _ differ).trans raised⟩

theorem MarkerComing.erase {q : Nat} (h : MarkerComing s)
    (other : s.errands.find? q ≠ some .raised) :
    MarkerComing { s with errands := s.errands.erase q } := by
  obtain ⟨p, raised⟩ := h
  have differ : p ≠ q := by
    rintro rfl
    exact other raised
  exact ⟨p, (Table.find?_erase_of_ne _ differ).trans raised⟩

theorem markerComing_raised (s : Station π) (q : Nat) :
    MarkerComing { s with errands := s.errands.insert q .raised } :=
  ⟨q, Table.find?_insert_self _ _ _⟩

/-! ## Until the run has its number -/

/-- As long as no halt is answered, whoever has raised the flag has yet to send the marker. -/
def Unanswered (s : Station π) (log : List (Notice π)) : Prop :=
  .halted true ∉ log → s.loop.haltRequested = true → s.MarkerComing

theorem Unanswered.go (h : Unanswered s log) (flag : t.loop.haltRequested = s.loop.haltRequested)
    (errands : t.errands = s.errands) : Unanswered t (log ++ es) := by
  intro calm up
  have coming := h (fun answered => calm (List.mem_append_left _ answered)) (flag ▸ up)
  unfold MarkerComing at *
  rwa [errands]

theorem Unanswered.insert {q : Nat} {x : Errand π} {l : EventLoop π} (h : Unanswered s log)
    (flag : l.haltRequested = s.loop.haltRequested)
    (other : s.errands.find? q ≠ some .raised) :
    Unanswered { s with loop := l, errands := s.errands.insert q x } (log ++ es) := by
  intro calm up
  have coming := h (fun answered => calm (List.mem_append_left _ answered)) (flag ▸ up)
  exact coming.insert other

theorem Unanswered.erase {q : Nat} {l : EventLoop π} (h : Unanswered s log)
    (flag : l.haltRequested = s.loop.haltRequested)
    (other : s.errands.find? q ≠ some .raised) :
    Unanswered { s with loop := l, errands := s.errands.erase q } (log ++ es) := by
  intro calm up
  have coming := h (fun answered => calm (List.mem_append_left _ answered)) (flag ▸ up)
  exact coming.erase other

theorem unanswered_accessed (numbered : Numbered s) (h : Unanswered s log) (ha : Accessed s p) :
    Unanswered p.1 (log ++ p.2) := by
  -- The flag goes up with a marker to come, and whoever sends that marker is answered.
  cases ha with
  | announced q e free => exact h.insert rfl (by simp [free])
  | sent counted => exact h.erase rfl (by simp [counted])
  | bounced counted => exact h.insert (l := s.loop) rfl (by simp [counted])
  | withdrawn bounced => exact h.erase rfl (by simp [bounced])
  | sawRun q free => exact h.insert (l := s.loop) rfl (by simp [free])
  | raised saw first => exact fun _ _ => markerComing_raised _ _
  | raisedAgain | marked => exact fun calm _ => absurd (by simp) calm
  | markedNothing raised gone => exact absurd (numbered.there.symm.trans gone) (by decide)
  | lowered | cleared => exact fun _ up => absurd up Bool.false_ne_true
  | @dispatched n e =>
      obtain ⟨loop, errands, -⟩ := s.dispatch_quiet n e
      exact h.go (congrArg EventLoop.haltRequested loop) errands
  | @settled n e v =>
      obtain ⟨loop, errands, -⟩ := s.settle_quiet n e v
      exact h.go (congrArg EventLoop.haltRequested loop) errands
  | _ => exact h.go rfl rfl

/-! ## While the run is active -/

/-- Once the flag is up, or a halt was answered since the run had its number, the run is bound to
meet its marker. -/
structure Answered (n : Nat) (s : Station π) (log : List (Notice π)) : Prop where
  numbered : Numbered s
  reached : n ≤ s.loop.epoch
  effective : s.post.run? = some n → s.loop.haltRequested = true ∨ .halted true ∈ log →
    Effective s n

theorem epoch_accessed (ha : Accessed s p) : s.loop.epoch ≤ p.1.loop.epoch := by
  cases ha with
  | numbered => exact Nat.le_succ _
  | @dispatched n e => exact Nat.le_of_eq (congrArg EventLoop.epoch (s.dispatch_quiet n e).1.symm)
  | @settled n e v => exact Nat.le_of_eq (congrArg EventLoop.epoch (s.settle_quiet n e v).1.symm)
  | _ => exact Nat.le_refl _

theorem Effective.map {n : Nat} (h : Effective s n)
    (queue : Message.halt n ∈ s.loop.queue → Message.halt n ∈ t.loop.queue)
    (coming : s.MarkerComing → t.MarkerComing) : Effective t n :=
  h.imp queue coming

theorem Answered.go {n : Nat} (h : Answered n s log) (ha : Accessed s (t, es))
    (run : t.post.run? = some n → s.post.run? = some n)
    (flag : t.loop.haltRequested = s.loop.haltRequested) (calm : .halted true ∉ es)
    (queue : s.post.run? = some n → Message.halt n ∈ s.loop.queue → Message.halt n ∈ t.loop.queue)
    (coming : s.MarkerComing → t.MarkerComing) : Answered n t (log ++ es) where
  numbered := numbered_accessed h.numbered ha
  reached := Nat.le_trans h.reached (epoch_accessed ha)
  effective := fun active asked => by
    have before : s.loop.haltRequested = true ∨ .halted true ∈ log := by
      rcases asked with up | answered
      · exact .inl (flag ▸ up)
      · exact .inr ((List.mem_append.mp answered).resolve_right calm)
    exact (h.effective (run active) before).map (queue (run active)) coming

theorem Answered.inactive {n : Nat} (numbered : Numbered t) (reached : n ≤ t.loop.epoch)
    (nobody : t.post.run? = none) : Answered n t log :=
  ⟨numbered, reached, fun active => absurd (nobody.symm.trans active) (Option.some_ne_none n).symm⟩

theorem Answered.dispatch {n m : Nat} (h : Answered n s log) (ha : Accessed s p)
    (here : s.post.run? = some m) (loop : p.1.loop = s.loop) (errands : p.1.errands = s.errands)
    (next : p.1.post.run? = some m ∨ p.1.post.run? = none) (calm : .halted true ∉ p.2) :
    Answered n p.1 (log ++ p.2) := by
  refine h.go ha ?_ (by rw [loop]) calm (fun _ queued => loop ▸ queued) ?_
  · intro active
    rcases next with same | none
    · exact here.trans (same.symm.trans active)
    · exact nomatch none.symm.trans active
  · unfold MarkerComing
    rw [errands]
    exact id

theorem answered_accessed {n : Nat} (h : Answered n s log) (ha : Accessed s p) :
    Answered n p.1 (log ++ p.2) := by
  have numbered := numbered_accessed h.numbered ha
  have reached := Nat.le_trans h.reached (epoch_accessed ha)
  cases ha with
  | announced q e free =>
      exact h.go (.announced q e free) id rfl (by simp) (fun _ => id) (·.insert (by simp [free]))
  | sent counted there =>
      exact h.go (.sent counted there) id rfl (by simp) (fun _ => List.mem_append_left _)
        (·.erase (by simp [counted]))
  | bounced counted gone =>
      exact h.go (.bounced counted gone) id rfl (by simp) (fun _ => id)
        (·.insert (by simp [counted]))
  | withdrawn bounced =>
      exact h.go (.withdrawn bounced) id rfl (by simp) (fun _ => id) (·.erase (by simp [bounced]))
  | sawNoRun q free idle =>
      exact h.go (.sawNoRun q free idle) id rfl (by simp) (fun _ => id) id
  | sawRun q free running =>
      exact h.go (.sawRun q free running) id rfl (by simp) (fun _ => id) (·.insert (by simp [free]))
  | raised saw first => exact ⟨numbered, reached, fun _ _ => .inr (markerComing_raised _ _)⟩
  | raisedAgain saw again =>
      refine ⟨numbered, reached, fun active _ => ?_⟩
      exact (h.effective active (.inl again)).map id (·.erase (by simp [saw]))
  | marked raised there =>
      refine ⟨numbered, reached, fun active _ => .inl ?_⟩
      -- The marker carries the number of the loop, which is that of the active run.
      rw [h.numbered.number n active]
      exact List.mem_append_right _ List.mem_cons_self
  | markedNothing raised gone => exact absurd (h.numbered.there.symm.trans gone) (by decide)
  | numbered post =>
      refine ⟨numbered, reached, fun active _ => ?_⟩
      -- This run has had its number for a while.
      have new : s.loop.epoch + 1 = n := Option.some.inj active
      exact absurd h.reached (by omega)
  | begun thread post =>
      exact h.go (.begun thread post) (congrArg Post.run? post).trans rfl (by simp) (fun _ => id) id
  | took | lowered | lookedUp | met | signedOff | handedBack | cleared | rested =>
      exact .inactive numbered reached rfl
  | looked post go =>
      exact h.go (.looked post go) (congrArg Post.run? post).trans rfl (by simp) (fun _ => id) id
  | skipped post head other =>
      refine h.go (.skipped post head other) (congrArg Post.run? post).trans rfl (by simp) ?_ id
      -- The marker of another run is the only one that is dropped.
      intro active queued
      have own : _ = n := Option.some.inj ((congrArg Post.run? post).symm.trans active)
      rw [head] at queued
      refine (List.mem_cons.mp queued).resolve_left fun same => ?_
      exact other (own ▸ (Message.halt.inj same).symm)
  | received post head =>
      refine h.go (.received post head) (congrArg Post.run? post).trans rfl (by simp) ?_ id
      intro _ queued
      rw [head] at queued
      exact (List.mem_cons.mp queued).resolve_left (by simp)
  | countedDown post =>
      exact h.go (.countedDown post) (congrArg Post.run? post).trans rfl (by simp) (fun _ => id) id
  | @dispatched m e post =>
      obtain ⟨loop, errands, -, notices⟩ := s.dispatch_quiet m e
      refine h.dispatch (.dispatched post) (congrArg Post.run? post) loop errands
        (s.dispatch_run? m e) ?_
      rcases notices with same | same <;> simp [same]
  | @settled m e v post =>
      obtain ⟨loop, errands, -, notices⟩ := s.settle_quiet m e v
      refine h.dispatch (.settled v post) (congrArg Post.run? post) loop errands
        (s.settle_run? m e v) ?_
      rcases notices with same | ⟨f, same⟩ <;> simp [same]
  | registered name missing =>
      exact h.go (.registered name missing) id rfl (by simp) (fun _ => id) id
  | registeredTwice name known =>
      exact h.go (.registeredTwice name known) id rfl (by simp) (fun _ => id) id
  | refused f why => exact h.go (.refused f why) id rfl (by simp) (fun _ => id) id

/-! ## The start of a run -/

theorem numbered_run {as : List (Access π)} (h : s.run as = some (t, log)) (numbered : Numbered s) :
    Numbered t := by
  refine @run_invariant π (fun s _ => Numbered s) ?_ as s t [] log h numbered
  exact fun numbered accessed => numbered_accessed numbered accessed

theorem lowered_of_step (h : s.step (.consumer .lowerFlag) = some p) :
    p = ({ s with loop := s.loop.clearHalt, post := .lowered }, []) := by
  cases post : s.post with
  | taken => simpa [step, beat, post] using h.symm
  | _ => simp [step, beat, post] at h

theorem numbered_of_step (h : s.step (.consumer .takeNumber) = some p) :
    p = ({ s with loop := s.loop.nextEpoch, post := .numbered (s.loop.epoch + 1) },
      [.started (s.loop.epoch + 1)]) := by
  cases post : s.post with
  | lowered =>
      rw [step, post] at h
      exact (Option.some.inj h).symm
  | _ => simp [step, beat, post] at h

theorem step_sendMarker {q : Nat} (raised : s.errands.find? q = some .raised)
    (there : s.loop.isOpen = true) :
    s.step (.thread q .sendMarker) =
      some ({ s with
          loop := { s.loop with queue := s.loop.queue ++ [.halt s.loop.epoch] }
          errands := s.errands.erase q },
        [.halted true]) := by
  simp [step, chore, raised, sendMarker, EventLoop.sendHalt, EventLoop.send, there]

/-- Once the flag is lowered, it goes up again only with a marker to come, as long as no halt is
answered. -/
theorem unanswered_run {as : List (Access π)}
    (h : s.run (.consumer .lowerFlag :: as) = some (t, log)) (numbered : Numbered s) :
    Numbered t ∧ Unanswered t log := by
  obtain ⟨u, es, rest, lower, run, rfl⟩ := runWith_cons h
  cases lowered_of_step lower
  refine run_invariant (P := fun s log => Numbered s ∧ Unanswered s log) ?_ run
    ⟨numbered_accessed numbered (accessed_of_step lower), fun _ up => nomatch up⟩
  rintro v before p ⟨numbered, unanswered⟩ accessed
  exact ⟨numbered_accessed numbered accessed, unanswered_accessed numbered unanswered accessed⟩

/-- **A halt reaches the run, unless it comes too early.** When no halt is answered between the step
in which a run lowers the flag and the one in which it takes its number, every halt answered later
reaches the run: as long as it is active, and the flag is up or a halt was answered since, its
marker is queued, or a thread is about to send it and then it is. -/
theorem halt_reaches_unless_early {policy : LoopPolicy} {as as₁ as₂ : List (Access π)}
    {s₀ s₁ s : Station π} {before early log : List (Notice π)}
    (h₀ : (fresh policy).run as = some (s₀, before))
    (h₁ : s₀.run (.consumer .lowerFlag :: as₁) = some (s₁, early)) (calm : .halted true ∉ early)
    (h₂ : s₁.run (.consumer .takeNumber :: as₂) = some (s, log))
    (active : s.post.run? = some (s₁.loop.epoch + 1))
    (asked : s.loop.haltRequested = true ∨ .halted true ∈ log) :
    .halt (s₁.loop.epoch + 1) ∈ s.loop.queue ∨
      ∃ p t, s.step (.thread p .sendMarker) = some (t, [.halted true]) ∧
        .halt (s₁.loop.epoch + 1) ∈ t.loop.queue := by
  obtain ⟨numbered, unanswered⟩ := unanswered_run h₁ (numbered_run h₀ (numbered_fresh policy))
  obtain ⟨u, es, rest, taken, run, rfl⟩ := runWith_cons h₂
  have accessed := accessed_of_step taken
  cases numbered_of_step taken
  have begun : Answered (s₁.loop.epoch + 1)
      { s₁ with loop := s₁.loop.nextEpoch, post := .numbered (s₁.loop.epoch + 1) }
      [.started (s₁.loop.epoch + 1)] := by
    refine ⟨numbered_accessed numbered accessed, Nat.le_refl _, fun _ asked => .inr ?_⟩
    exact unanswered calm (asked.resolve_right (by simp))
  have answered : Answered (s₁.loop.epoch + 1) s _ :=
    run_invariant (fun answered accessed => answered_accessed answered accessed) run begun
  rcases answered.effective active asked with queued | ⟨p, raised⟩
  · exact .inl queued
  · refine .inr ⟨p, _, step_sendMarker raised answered.numbered.there, ?_⟩
    rw [answered.numbered.number _ active]
    exact List.mem_append_right _ List.mem_cons_self

def claiming : Station Nat where
  loop := { policy := {}, receiver := .away, running := true }
  post := .taken

/-- It has lowered the flag, and thread 1 has raised it again. -/
def claimingAsked : Station Nat where
  loop := { policy := {}, receiver := .away, running := true, haltRequested := true }
  post := .lowered
  errands := Table.insert {} 1 .raised

/-- A halt between the two steps whose marker is sent after the second one. -/
theorem halt_reaches_unless_early_raised : ∃ s,
    (fresh {}).run [.takeReceiver] = some (claiming, []) ∧
    claiming.run [.consumer .lowerFlag, .thread 1 .askHalt, .thread 1 .raise] =
      some (claimingAsked, []) ∧
    claimingAsked.run [.consumer .takeNumber, .thread 2 .askHalt, .thread 2 .raise] =
      some (s, [.started 1, .halted true]) ∧
    (.halt 1 ∈ s.loop.queue ∨ ∃ p t, s.step (.thread p .sendMarker) = some (t, [.halted true]) ∧
      .halt 1 ∈ t.loop.queue) := by
  have h₀ : (fresh {}).run [.takeReceiver] = some (claiming, []) := rfl
  have h₁ : claiming.run [.consumer .lowerFlag, .thread 1 .askHalt, .thread 1 .raise] =
      some (claimingAsked, []) := rfl
  have h₂ : claimingAsked.run [.consumer .takeNumber, .thread 2 .askHalt, .thread 2 .raise] =
      some (_, [.started 1, .halted true]) := rfl
  exact ⟨_, h₀, h₁, h₂, halt_reaches_unless_early h₀ h₁ nofun h₂ rfl (.inl rfl)⟩

/-! ## A halt that comes too early -/

/-- The given run goes on for ever: its flag is up, no marker of it is queued or to come, and
neither the flag nor a failure ends it. -/
structure Deaf (n : Nat) (s : Station π) : Prop where
  numbered : Numbered s
  drains : s.loop.policy.onHalt = .drain
  reports : s.loop.policy.onFailure = .reportAndContinue
  running : s.loop.running = true
  active : s.post.run? = some n
  flag : s.loop.haltRequested = true
  unmarked : Message.halt n ∉ s.loop.queue
  uncoming : ∀ p, s.errands.find? p ≠ some .raised

variable {n : Nat}

theorem Deaf.stay {x y : Post π} (h : Deaf n s) (post : s.post = x) (same : x.run? = y.run?) :
    y.run? = some n := by
  rw [← same, ← post]
  exact h.active

theorem Deaf.busy (h : Deaf n s) {x : Post π} (post : s.post = x) (idle : x.run? = none) :
    False := by
  have active := h.active
  rw [post, idle] at active
  cases active

theorem Deaf.go {post : Post π} {q : List (Message π)} {pending : Nat} {consumer : Option Nat}
    {handlers : List String} {errands : Table Nat (Errand π)} (h : Deaf n s)
    (numbered : Numbered { s with
      loop := { s.loop with queue := q, pending, consumer, handlers }, post, errands })
    (active : post.run? = some n)
    (older : Message.halt n ∈ q → Message.halt n ∈ s.loop.queue)
    (uncoming : ∀ p, errands.find? p ≠ some .raised) :
    Deaf n
      { s with loop := { s.loop with queue := q, pending, consumer, handlers }, post, errands } :=
  ⟨numbered, h.drains, h.reports, h.running, active, h.flag, mt older h.unmarked, uncoming⟩

theorem Deaf.insert (h : Deaf n s) (q : Nat) {x : Errand π} (other : x ≠ .raised) :
    ∀ p, (s.errands.insert q x).find? p ≠ some .raised := by
  intro p
  by_cases same : p = q
  · rw [same, Table.find?_insert_self]
    exact fun raised => other (Option.some.inj raised)
  · rw [Table.find?_insert_of_ne _ _ same]
    exact h.uncoming p

theorem Deaf.erase (h : Deaf n s) (q : Nat) : ∀ p, (s.errands.erase q).find? p ≠ some .raised := by
  intro p
  by_cases same : p = q
  · rw [same, Table.find?_erase_self]
    nofun
  · rw [Table.find?_erase_of_ne _ same]
    exact h.uncoming p

theorem fail_reported (reports : s.loop.policy.onFailure = .reportAndContinue) (n : Nat)
    (e : Event π) (f : Fault) : s.fail n e f = ({ s with post := .ready n }, [.failed e f]) := by
  unfold fail EventLoop.afterFailure
  rw [reports]

theorem deaf_accessed (h : Deaf n s) (ha : Accessed s p) :
    Deaf n p.1 ∧ ∀ r, Notice.ended r ∉ p.2 := by
  have numbered := numbered_accessed h.numbered ha
  -- The flag is up, so nobody is the first to raise it, and no marker can come.
  cases ha with
  | announced q e => exact ⟨h.go numbered h.active id (h.insert q nofun), by simp⟩
  | sent => exact ⟨h.go numbered h.active (by simp) (h.erase _), by simp⟩
  | bounced => exact ⟨h.go numbered h.active id (h.insert _ nofun), by simp⟩
  | withdrawn => exact ⟨h.go numbered h.active id (h.erase _), by simp⟩
  | sawNoRun | registeredTwice | refused => exact ⟨h, by simp⟩
  | registered => exact ⟨h.go numbered h.active id h.uncoming, by simp⟩
  | sawRun q => exact ⟨h.go numbered h.active id (h.insert q nofun), by simp⟩
  | raised _ first => exact absurd (h.flag.symm.trans first) nofun
  | raisedAgain => exact ⟨h.go numbered h.active id (h.erase _), by simp⟩
  | marked raised => exact absurd raised (h.uncoming _)
  | markedNothing raised => exact absurd raised (h.uncoming _)
  | took idle => exact absurd (h.running.symm.trans idle) nofun
  | lowered post | numbered post | signedOff post | handedBack post | cleared post
  | rested post => exact (h.busy post rfl).elim
  | begun thread post => exact ⟨h.go numbered (h.stay post rfl) id h.uncoming, by simp⟩
  | lookedUp _ abandon => exact absurd (h.drains.symm.trans abandon) nofun
  | looked post => exact ⟨h.go numbered (h.stay post rfl) id h.uncoming, by simp⟩
  | met post head =>
      have own := Option.some.inj (h.stay (y := .looked _) post rfl)
      exact absurd (head ▸ own ▸ List.mem_cons_self) h.unmarked
  | skipped post head =>
      refine ⟨h.go numbered (h.stay post rfl) (fun queued => ?_) h.uncoming, by simp⟩
      exact head ▸ List.mem_cons_of_mem _ queued
  | received post head =>
      refine ⟨h.go numbered (h.stay post rfl) (fun queued => ?_) h.uncoming, by simp⟩
      exact head ▸ List.mem_cons_of_mem _ queued
  | countedDown post => exact ⟨h.go numbered (h.stay post rfl) id h.uncoming, by simp⟩
  | @dispatched m e post =>
      simp only [dispatch, fail_reported h.reports] at numbered ⊢
      split at numbered
      · next known =>
          rw [if_pos known]
          exact ⟨h.go numbered (h.stay post rfl) id h.uncoming, by simp⟩
      · next missing =>
          rw [if_neg missing]
          exact ⟨h.go numbered (h.stay post rfl) id h.uncoming, by simp⟩
  | @settled m e v post =>
      simp only [settle, fail_reported h.reports] at numbered ⊢
      cases fault : v.fault? e.name <;> simp only [fault] at numbered ⊢ <;>
        exact ⟨h.go numbered (h.stay post rfl) id h.uncoming, by simp⟩

/-- Whatever happens, a deaf run goes on. -/
theorem deaf_run {as : List (Access π)} (h : s.run as = some (t, log)) (deaf : Deaf n s) :
    Deaf n t ∧ ∀ r, Notice.ended r ∉ log := by
  have start : Deaf n s ∧ ∀ r, Notice.ended r ∉ ([] : List (Notice π)) := ⟨deaf, by simp⟩
  refine @run_invariant π (fun s log => Deaf n s ∧ ∀ r, Notice.ended r ∉ log) ?_
    as s t [] log h start
  rintro u before p ⟨deaf, goes⟩ accessed
  obtain ⟨deaf', goes'⟩ := deaf_accessed deaf accessed
  refine ⟨deaf', fun r ended => ?_⟩
  exact (List.mem_append.mp ended).elim (goes r) (goes' r)

/-- Whoever halts it is told that the run was asked to stop, and nothing happens. -/
theorem Deaf.halt (h : Deaf n s) {q : Nat} (free : s.errands.find? q = none) :
    ∃ u, s.run [.thread q .askHalt, .thread q .raise] = some (u, [.halted true]) ∧
      u.loop = s.loop := by
  have asked : s.step (.thread q .askHalt) =
      some ({ s with errands := s.errands.insert q .sawRun }, []) := by
    simp [step, chore, free, askHalt, h.running]
  -- The flag stays as it is.
  have same : s.loop.requestHalt = (s.loop, false) := by
    unfold EventLoop.requestHalt
    rw [h.flag, Bool.not_true, ← h.flag]
  have raised : { s with errands := s.errands.insert q .sawRun }.step (.thread q .raise) =
      some ({ s with errands := (s.errands.insert q .sawRun).erase q }, [.halted true]) := by
    simp [step, chore, raiseFlag, same]
  exact ⟨_, runWith_pair asked raised, rfl⟩

/-- A halt that raises the flag after it was lowered and reads the number before it is taken; then
the consumer drops its marker. -/
def earlyHaltAccesses : List (Access Nat) :=
  [.takeReceiver, .consumer .lowerFlag, .thread 1 .askHalt, .thread 1 .raise,
    .thread 1 .sendMarker, .consumer .takeNumber, .consumer (.begin Thread.main), .consumer .look,
    .consumer .receive]

/-- The run that the halt has seen and that was not stopped. -/
def deafened : Station Nat where
  loop := { policy := {}, receiver := .away, running := true, haltRequested := true, epoch := 1
            consumer := some 0 }
  post := .ready 1

theorem deaf_deafened : Deaf 1 deafened where
  numbered := ⟨rfl, nofun, fun _ run => (Option.some.inj run).symm⟩
  drains := rfl
  reports := rfl
  running := rfl
  active := rfl
  flag := rfl
  unmarked := nofun
  uncoming := fun _ => nofun

/-- The halt was accepted, and the run never ends, however often it is asked to: no later halt sends
a marker. A loop whose consumer could not be made answers in the same way: the second of two halts
is accepted although nobody consumes and no marker is queued. -/
theorem early_halt_is_lost :
    ((fresh {}).run earlyHaltAccesses = some (deafened, [.halted true, .started 1]) ∧
      ∀ as t log, deafened.run as = some (t, log) → t.post.run? = some 1 ∧ t.loop.running = true ∧
        .halt 1 ∉ t.loop.queue ∧ (∀ r, .ended r ∉ log) ∧ t.loop.haltRequested = true ∧
        ∀ q, t.errands.find? q = none → ∃ u,
          t.run [.thread q .askHalt, .thread q .raise] = some (u, [.halted true]) ∧
            u.loop = t.loop) ∧
    ∃ l : EventLoop Nat, ({ policy := {} } : EventLoop Nat).claim = .ok l ∧
      l.lose.halt.answer = false ∧ l.lose.halt.state.halt.answer = true ∧
      l.lose.halt.state.halt.state.running = true ∧ l.lose.halt.state.halt.state.queue = [] := by
  refine ⟨⟨rfl, fun as t log later => ?_⟩, _, rfl, rfl, rfl, rfl, rfl⟩
  obtain ⟨deaf, goes⟩ := deaf_run later deaf_deafened
  exact ⟨deaf.active, deaf.running, deaf.unmarked, goes, deaf.flag, fun q free => deaf.halt free⟩

end Station

end CallBridge
