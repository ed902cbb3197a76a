import CallBridge.Proofs.Loop.Crew

/-!
# One consumer at a time

A run owns the receiver from its claim until it leaves the loop, wherever it consumes: the thread
that has claimed it, and then the consumer. What carries the proofs is a count, over everything that
all threads are in the middle of, of what owns the receiver of a run.
-/

namespace CallBridge

namespace Crew

variable {π : Type}

def Frame.prepares (n : Nat) : Frame π → Nat
  | claimed m | starting m _ => if m = n then 1 else 0
  | consuming _ _ | leaving _ | joining _ | returning _ | dropping _ => 0

def Frame.consumes (n : Nat) : Frame π → Nat
  | consuming m _ => if m = n then 1 else 0
  | claimed _ | starting _ _ | leaving _ | joining _ | returning _ | dropping _ => 0

@[simp] theorem waits_prepares (who : Who) (m n : Nat) :
    (who.waits m : Frame π).prepares n = 0 := by
  unfold Who.waits
  split <;> rfl

@[simp] theorem waits_consumes (who : Who) (m n : Nat) :
    (who.waits m : Frame π).consumes n = 0 := by
  unfold Who.waits
  split <;> rfl

def preparing (s : Crew π) (n : Nat) : Nat := s.weight (Frame.prepares n)

def consuming (s : Crew π) (n : Nat) : Nat := s.weight (Frame.consumes n)

/-- How many owners the receiver of the given run has. -/
def owners (s : Crew π) (n : Nat) : Nat := s.preparing n + s.consuming n

/-! ## What threads do to a loop that they do not run -/

/-- The run of a loop goes on, and the count of its events with it. -/
structure Undisturbed (l l' : EventLoop π) : Prop where
  running : l'.running = l.running
  receiver : l'.receiver = l.receiver
  epoch : l'.epoch = l.epoch
  down : l.running = false → l'.haltRequested = l.haltRequested
  balance : l.pending = (EventLoop.events l.queue).length →
    l'.pending = (EventLoop.events l'.queue).length

theorem undisturbed_self (l : EventLoop π) : Undisturbed l l :=
  ⟨rfl, rfl, rfl, fun _ => rfl, id⟩

theorem undisturbed_enqueue (l : EventLoop π) (e : Event π) :
    Undisturbed l (l.enqueue e).state := by
  unfold EventLoop.enqueue EventLoop.send
  split
  · next l' sent =>
      have same : l' = { l.announce with queue := l.queue ++ [.event e] } := by
        split at sent
        · exact (Option.some.inj sent).symm
        · cases sent
      rw [same]
      exact ⟨rfl, rfl, rfl, fun _ => rfl, fun h => by simp [EventLoop.announce, h]⟩
  · exact undisturbed_self l

theorem undisturbed_halt (l : EventLoop π) : Undisturbed l l.halt.state := by
  unfold EventLoop.halt
  split
  · exact undisturbed_self l
  · next running =>
      have flagged : Undisturbed l l.requestHalt.1 :=
        ⟨rfl, rfl, rfl, fun idle => absurd idle running, id⟩
      dsimp only
      split
      · unfold EventLoop.sendHalt EventLoop.send
        split
        · next l' sent =>
            split at sent
            · have same := (Option.some.inj sent).symm
              subst same
              exact ⟨rfl, rfl, rfl, fun idle => absurd idle running, fun h => by
                simpa [EventLoop.requestHalt] using h⟩
            · cases sent
        · exact flagged
      · exact flagged

theorem undisturbed_register (l : EventLoop π) (name : String) :
    Undisturbed l (l.register name).state := by
  unfold EventLoop.register
  split
  · exact undisturbed_self l
  · exact ⟨rfl, rfl, rfl, fun _ => rfl, id⟩

theorem undisturbed_begin (l : EventLoop π) (thread : Thread) :
    Undisturbed l (l.begin thread).state :=
  ⟨rfl, rfl, rfl, fun _ => rfl, id⟩

theorem undisturbed_marker {l : EventLoop π} {n : Nat} {q : List (Message π)}
    (head : l.queue = .halt n :: q) : Undisturbed l { l with queue := q } :=
  ⟨rfl, rfl, rfl, fun _ => rfl, fun h => by simpa [head] using h⟩

theorem undisturbed_event {l : EventLoop π} {e : Event π} {q : List (Message π)}
    (head : l.queue = .event e :: q) :
    Undisturbed l { l with queue := q, pending := l.pending - 1 } :=
  ⟨rfl, rfl, rfl, fun _ => rfl, fun h => by simp [head, h]⟩

/-! ## What holds of every crew -/

variable {s t : Crew π} {log : List (Notice π)} {who : Who}

/-- The run that is active has one owner and no other run has any; a worker that is still to be made
does not exist; and while the loop is in use, its receiver is away and its flag can be up only
because of a run. -/
structure Lawful (s : Crew π) : Prop where
  owned : ∀ n, s.owners n = if s.loop.running = true ∧ n = s.loop.epoch then 1 else 0
  unborn : ∀ n, 0 < s.preparing n → s.threads.find? (.worker n) = none
  born : ∀ n, s.threads.find? (.worker n) ≠ none → n ≤ s.loop.epoch
  receiver : s.owner ≠ .gone → s.loop.receiver = if s.loop.running then .away else .home
  balance : s.owner ≠ .gone → s.loop.pending = (EventLoop.events s.loop.queue).length
  down : s.loop.running = false → s.loop.haltRequested = false

theorem lawful_fresh (policy : LoopPolicy) : Lawful (fresh policy : Crew π) where
  owned := fun _ => rfl
  unborn := fun _ _ => rfl
  born := fun _ h => absurd rfl h
  receiver := fun _ => rfl
  balance := fun _ => rfl
  down := fun _ => rfl

theorem used_of_kept (kept : s.owner = .kept) : s.owner ≠ .gone := by
  rw [kept]
  nofun

/-- A worker that acts was made. -/
def Exists (s : Crew π) (who : Who) : Prop := ∀ n, who = .worker n → s.threads.find? who ≠ none

theorem exists_of_top {f : Frame π} {rest : List (Frame π)} (top : s.stack who = f :: rest) :
    s.Exists who := by
  intro n _ none
  rw [stack, none] at top
  cases top

theorem exists_of_free (free : s.free who = true) : s.Exists who := by
  rintro n rfl none
  have nothing : s.stack (.worker n) = [] := by rw [stack, none]; rfl
  unfold Crew.free at free
  rw [nothing] at free
  cases free

theorem find?_put (there : s.Exists who) (fs : List (Frame π)) (n : Nat) :
    (s.put who fs).threads.find? (.worker n) = none ↔ s.threads.find? (.worker n) = none := by
  unfold put
  by_cases same : Who.worker n = who
  · subst same
    simp [there n rfl]
  · rw [Table.find?_insert_of_ne _ _ same]

theorem Lawful.active {n : Nat} (h : Lawful s) (owner : 0 < s.owners n) :
    s.loop.running = true ∧ n = s.loop.epoch := by
  by_cases active : s.loop.running = true ∧ n = s.loop.epoch
  · exact active
  · rw [h.owned, if_neg active] at owner
    cases owner

theorem owners_of_top {f : Frame π} {rest : List (Frame π)} {n : Nat}
    (top : s.stack who = f :: rest) (owns : 0 < f.prepares n + f.consumes n) : 0 < s.owners n := by
  have prepares := weight_pop (Frame.prepares n) top
  have consumes := weight_pop (Frame.consumes n) top
  unfold owners preparing consuming
  omega

theorem Lawful.consumer {n : Nat} {stage : Stage π} {rest : List (Frame π)} (h : Lawful s)
    (top : s.stack who = .consuming n stage :: rest) :
    s.loop.running = true ∧ n = s.loop.epoch :=
  h.active (owners_of_top top (by simp [Frame.prepares, Frame.consumes]))

theorem Lawful.go (h : Lawful s) (loop : Undisturbed s.loop t.loop)
    (owner : t.owner ≠ .gone → s.owner ≠ .gone) (preparing : ∀ n, t.preparing n = s.preparing n)
    (consuming : ∀ n, t.consuming n = s.consuming n)
    (workers : ∀ n, t.threads.find? (.worker n) = none ↔ s.threads.find? (.worker n) = none) :
    Lawful t where
  owned := fun n => by
    have same : t.owners n = s.owners n := by rw [owners, preparing, consuming, owners]
    rw [same, loop.running, loop.epoch, h.owned]
  unborn := fun n prepared => (workers n).mpr (h.unborn n (preparing n ▸ prepared))
  born := fun n made => loop.epoch ▸ h.born n (mt (workers n).mpr made)
  receiver := fun kept => by rw [loop.receiver, loop.running, h.receiver (owner kept)]
  balance := fun kept => loop.balance (h.balance (owner kept))
  down := fun idle => by
    have before := loop.running ▸ idle
    rw [loop.down before, h.down before]

theorem Lawful.serve {l : EventLoop π} (h : Lawful s) (loop : Undisturbed s.loop l) :
    Lawful { s with loop := l } :=
  h.go loop id (fun _ => rfl) (fun _ => rfl) (fun _ => Iff.rfl)

theorem Lawful.swap {f g : Frame π} {rest : List (Frame π)} (h : Lawful s)
    (top : s.stack who = f :: rest) (prepares : ∀ n, g.prepares n = f.prepares n)
    (consumes : ∀ n, g.consumes n = f.consumes n) : Lawful (s.put who (g :: rest)) := by
  refine h.go (undisturbed_self _) id ?_ ?_ (find?_put (exists_of_top top) _)
  · intro n
    have swap := weight_swap (g := g) (Frame.prepares n) top
    rw [prepares] at swap
    exact Nat.add_right_cancel swap
  · intro n
    have swap := weight_swap (g := g) (Frame.consumes n) top
    rw [consumes] at swap
    exact Nat.add_right_cancel swap

theorem Lawful.stage {n : Nat} {before after : Stage π} {rest : List (Frame π)} (h : Lawful s)
    (top : s.stack who = .consuming n before :: rest) :
    Lawful (s.put who (.consuming n after :: rest)) :=
  h.swap top (fun _ => rfl) (fun _ => rfl)

theorem Lawful.push {f : Frame π} (h : Lawful s) (there : s.Exists who)
    (prepares : ∀ n, f.prepares n = 0) (consumes : ∀ n, f.consumes n = 0) :
    Lawful (s.put who (f :: s.stack who)) := by
  refine h.go (undisturbed_self _) id ?_ ?_ (find?_put there _)
  · intro n
    have push := weight_push (f := f) (Frame.prepares n) (rfl : s.stack who = s.stack who)
    rwa [prepares] at push
  · intro n
    have push := weight_push (f := f) (Frame.consumes n) (rfl : s.stack who = s.stack who)
    rwa [consumes] at push

theorem Lawful.pop {f : Frame π} {rest : List (Frame π)} (h : Lawful s)
    (top : s.stack who = f :: rest) (prepares : ∀ n, f.prepares n = 0)
    (consumes : ∀ n, f.consumes n = 0) : Lawful (s.put who rest) := by
  refine h.go (undisturbed_self _) id ?_ ?_ (find?_put (exists_of_top top) _)
  · intro n
    have pop := weight_pop (Frame.prepares n) top
    rwa [prepares] at pop
  · intro n
    have pop := weight_pop (Frame.consumes n) top
    rwa [consumes] at pop

/-- The slot of the handle, and what the workers came to, have nothing to do with it. -/
theorem Lawful.handle (h : Lawful s) (handle : Option Nat) : Lawful { s with handle } :=
  h.go (undisturbed_self _) id (fun _ => rfl) (fun _ => rfl) (fun _ => Iff.rfl)

/-- When the loop is gone nothing is said of its receiver and its queue. -/
theorem Lawful.leaveBehind (h : Lawful s) : Lawful s.leaveBehind where
  owned := fun n => by
    rw [leaveBehind_running, leaveBehind_epoch]
    exact h.owned n
  unborn := h.unborn
  born := fun n made => by
    rw [leaveBehind_epoch]
    exact h.born n made
  receiver := fun kept => absurd rfl kept
  balance := fun kept => absurd rfl kept
  down := by
    rw [leaveBehind_running, leaveBehind_haltRequested]
    exact h.down

/-- A run that is claimed is the only one. -/
theorem Lawful.claim (h : Lawful s) (mode : Mode) (idle : s.loop.running = false)
    (there : s.Exists who) (kept : s.owner ≠ .gone) :
    Lawful ({ s with loop := { s.loop with
      receiver := .away, running := true, haltRequested := false
      epoch := s.loop.epoch + 1 } }.put who
        (mode.frame (s.loop.epoch + 1) :: s.stack who)) := by
  have prepares (n : Nat) := weight_push (s := s) (f := mode.frame (s.loop.epoch + 1))
    (Frame.prepares n) (rfl : s.stack who = s.stack who)
  have consumes (n : Nat) := weight_push (s := s) (f := mode.frame (s.loop.epoch + 1))
    (Frame.consumes n) (rfl : s.stack who = s.stack who)
  -- While the loop is idle nobody owns a receiver.
  have nobody (n : Nat) : s.weight (Frame.prepares n) + s.weight (Frame.consumes n) = 0 := by
    have owned := h.owned n
    rwa [if_neg (by simp [idle])] at owned
  have owner (n : Nat) : (mode.frame (s.loop.epoch + 1) : Frame π).prepares n +
      (mode.frame (s.loop.epoch + 1) : Frame π).consumes n =
        if n = s.loop.epoch + 1 then 1 else 0 := by
    cases mode <;> simp [Mode.frame, Frame.prepares, Frame.consumes, eq_comm]
  refine ⟨fun n => ?_, fun n prepared => ?_, fun n made => ?_, fun _ => rfl,
    fun _ => h.balance kept, fun idle => absurd idle.symm Bool.false_ne_true⟩
  · refine (congr (congrArg HAdd.hAdd (prepares n)) (consumes n)).trans ?_
    simp only [put, true_and, ← owner n]
    have := nobody n
    omega
  · -- The number of the new run is greater than that of any worker.
    refine (find?_put (s := s) there _ n).mpr ?_
    have new : n = s.loop.epoch + 1 := by
      have total := prepares n
      have frame := owner n
      have := nobody n
      have prepared : 0 < (s.put who (mode.frame (s.loop.epoch + 1) :: s.stack who)).weight
        (Frame.prepares n) := prepared
      by_cases new : n = s.loop.epoch + 1
      · exact new
      · rw [if_neg new] at frame
        omega
    cases made : s.threads.find? (.worker n) with
    | none => rfl
    | some fs =>
        have old := h.born n (by simp [made])
        omega
  · exact Nat.le_succ_of_le (h.born n (mt (find?_put (s := s) there _ n).mpr made))

theorem Lawful.unmade {n : Nat} {previous : Option Nat} {rest : List (Frame π)} (h : Lawful s)
    (top : s.stack who = .starting n previous :: rest) : s.threads.find? (.worker n) = none := by
  refine h.unborn n ?_
  have pop := weight_pop (Frame.prepares n) top
  rw [Frame.prepares, if_pos rfl] at pop
  exact Nat.lt_of_lt_of_eq (Nat.succ_pos _) pop

/-- What the threads are in the middle of when the worker of a run is made. -/
theorem weight_spawn {n : Nat} {previous : Option Nat} {rest : List (Frame π)} (h : Lawful s)
    (top : s.stack who = .starting n previous :: rest) (w : Frame π → Nat) :
    (s.spawn who rest n).weight w + w (.starting n previous) =
      s.weight w + w (.leaving n) + w (.consuming n .fresh) := by
  have unborn := h.unmade top
  have other : Who.worker n ≠ who := by
    rintro rfl
    rw [stack, unborn] at top
    cases top
  have newborn : (s.put who (.leaving n :: rest)).stack (.worker n) = [] := by
    rw [stack_put_of_ne other, stack, unborn]
    rfl
  have swap := weight_swap (g := .leaving n) w top
  have push := weight_push (f := .consuming n .fresh) w newborn
  rw [Crew.spawn, push]
  omega

theorem find?_spawn {n : Nat} {f : Frame π} {rest : List (Frame π)} (top : s.stack who = f :: rest)
    {k : Nat} (other : k ≠ n) : (s.spawn who rest n).threads.find? (.worker k) = none ↔
      s.threads.find? (.worker k) = none := by
  have differ : Who.worker k ≠ .worker n := fun same => other (Who.worker.inj same)
  rw [← find?_put (exists_of_top top) (.leaving n :: rest)]
  exact iff_of_eq (congrArg (· = none) (Table.find?_insert_of_ne _ _ differ))

theorem Lawful.spawn {n : Nat} {previous : Option Nat} {rest : List (Frame π)} (h : Lawful s)
    (top : s.stack who = .starting n previous :: rest) : Lawful (s.spawn who rest n) := by
  have owner : 0 < s.owners n := owners_of_top top (by simp [Frame.prepares, Frame.consumes])
  obtain ⟨running, epoch⟩ := h.active owner
  have prepares (k : Nat) := weight_spawn h top (Frame.prepares k)
  have consumes (k : Nat) := weight_spawn h top (Frame.consumes k)
  simp only [Frame.prepares, Frame.consumes, Nat.add_zero] at prepares consumes
  refine ⟨fun k => ?_, fun k prepared => ?_, fun k some => ?_, h.receiver, h.balance, h.down⟩
  · refine Eq.trans ?_ (h.owned k)
    have := prepares k
    have := consumes k
    unfold owners preparing consuming
    omega
  · -- Nobody prepares a run any more: the one that was prepared had a single owner.
    have one := h.owned n
    rw [if_pos ⟨running, epoch⟩] at one
    unfold owners preparing consuming at one
    have before := prepares k
    unfold preparing at prepared
    by_cases same : n = k
    · subst same
      rw [if_pos rfl] at before
      omega
    · rw [if_neg same] at before
      refine (find?_spawn top (Ne.symm same)).mpr (h.unborn k ?_)
      unfold preparing
      omega
  · by_cases same : k = n
    · exact Nat.le_of_eq (same.trans epoch)
    · exact h.born k (mt (find?_spawn top same).mpr some)

/-- What the end of a run leaves of the loop. -/
theorem finish_loop (s : Crew π) (who : Who) (rest : List (Frame π)) (n : Nat)
    (result : Except Fault Unit) :
    (s.finish who rest n result).1.loop.running = false ∧
      (s.finish who rest n result).1.loop.epoch = s.loop.epoch ∧
      (s.finish who rest n result).1.loop.haltRequested = false ∧
      (s.owner ≠ .gone → (s.finish who rest n result).1.loop = s.loop.finish.state) := by
  simp only [Crew.finish, put]
  split
  · next gone => exact ⟨rfl, rfl, rfl, fun kept => absurd gone kept⟩
  · exact ⟨rfl, rfl, rfl, fun _ => rfl⟩

/-- The end of a run: nobody owns the receiver of any. -/
theorem Lawful.finish {n : Nat} {stage : Stage π} {rest : List (Frame π)} (h : Lawful s)
    (top : s.stack who = .consuming n stage :: rest) (result : Except Fault Unit) :
    Lawful (s.finish who rest n result).1 := by
  obtain ⟨running, epoch⟩ := h.consumer top
  obtain ⟨idle, same, down, there⟩ := finish_loop s who rest n result
  have workers := find?_put (exists_of_top top) rest
  -- The consumer that leaves is the only owner of its run, and no other run has any.
  have nobody (k : Nat) : (s.put who rest).owners k = 0 := by
    have prepares := weight_pop (Frame.prepares k) top
    have consumes := weight_pop (Frame.consumes k) top
    have owned := h.owned k
    simp only [owners, preparing, consuming, Frame.prepares, Frame.consumes] at *
    by_cases this : n = k
    · rw [if_pos this] at consumes
      rw [if_pos ⟨running, this ▸ epoch⟩] at owned
      omega
    · rw [if_neg (fun active => this (epoch.trans active.2.symm))] at owned
      omega
  refine ⟨fun k => ?_, fun k prepared => ?_, fun k made => ?_, fun kept => ?_, fun kept => ?_,
    fun _ => down⟩
  · rw [idle, if_neg (fun active => Bool.false_ne_true active.1)]
    exact nobody k
  · have none : (s.put who rest).preparing k = 0 := (Nat.add_eq_zero_iff.mp (nobody k)).1
    exact absurd (none ▸ prepared : 0 < 0) (Nat.lt_irrefl 0)
  · rw [same]
    exact h.born k (mt (workers k).mpr made)
  · rw [there kept]
    rfl
  · rw [there kept]
    exact h.balance kept

/-! ## Every move keeps it -/

theorem lawful_moved {p : Crew π × List (Notice π)} (h : Lawful s) (hm : Moved s p) :
    Lawful p.1 := by
  -- Owners change with a claim, a new worker and the end of a run; the rest is quiet.
  cases hm with
  | refused | joinedNobody | waiting => exact h
  | enqueued who e => exact h.serve (undisturbed_enqueue _ e)
  | halted who => exact h.serve (undisturbed_halt _)
  | registered who name => exact h.serve (undisturbed_register _ name)
  | claimed mode free kept idle =>
      exact h.claim mode idle (exists_of_free free) (used_of_kept kept)
  | handleTaken top => exact (h.handle none).swap top (fun _ => rfl) (fun _ => rfl)
  | spawned top => exact h.spawn top
  | reaped top => exact h.spawn top
  | left top | returned top => exact (h.handle (some _)).pop top (fun _ => rfl) (fun _ => rfl)
  | joining free handle =>
      exact (h.handle none).push (exists_of_free free) (waits_prepares _ _) (waits_consumes _ _)
  | joined top => exact h.pop top (fun _ => rfl) (fun _ => rfl)
  | droppedNobody | droppedSelf =>
      exact ((h.serve (undisturbed_halt _)).handle none).leaveBehind
  | dropping free kept handle =>
      have asked : Lawful { s with loop := s.loop.halt.state, handle := none, owner := .going } :=
        h.go (undisturbed_halt _) (fun _ => used_of_kept kept) (fun _ => rfl) (fun _ => rfl)
          (fun _ => Iff.rfl)
      exact asked.push (exists_of_free free) (fun _ => rfl) (fun _ => rfl)
  | dropped top => exact (h.pop top (fun _ => rfl) (fun _ => rfl)).leaveBehind
  | begun thread top => exact (h.serve (undisturbed_begin _ thread)).stage top
  | stopped top => exact h.finish top _
  | met top head => exact (h.serve (undisturbed_marker head)).finish top _
  | skipped head => exact h.serve (undisturbed_marker head)
  | taken top head => exact (h.serve (undisturbed_event head)).stage top
  | called top => exact h.stage top
  | succeeded top => exact h.stage top
  | reported fails =>
      obtain ⟨stage, top⟩ := fails.top
      exact h.stage top
  | propagated fails =>
      obtain ⟨stage, top⟩ := fails.top
      exact h.finish top _

theorem lawful_run {policy : LoopPolicy} {ms : List (Move π)}
    (h : (fresh policy).run ms = some (s, log)) : Lawful s := by
  refine @run_invariant π (fun s _ => Lawful s) ?_ ms _ s [] log h (lawful_fresh policy)
  exact fun lawful moved => lawful_moved lawful moved

/-! ## Runs that are refused, that are accepted, and that are over -/

/-- Whoever asks for a run is refused, in either mode, and nothing changes. -/
def Refuses (s : Crew π) : Prop :=
  ∀ who mode, s.free who = true →
    s.step (.ask who (.run mode)) = some (s, [.refused who .alreadyRunning])

/-- Whoever asks for a run, in either mode, is its only owner and finds what the loop was left. -/
def Accepts (s : Crew π) : Prop :=
  ∀ who mode, s.free who = true →
    ∃ t, s.step (.ask who (.run mode)) = some (t, [.started who mode (s.loop.epoch + 1)]) ∧
      t.owners (s.loop.epoch + 1) = 1 ∧ t.loop.running = true ∧ t.loop.queue = s.loop.queue ∧
      t.loop.pending = s.loop.pending ∧ t.loop.handlers = s.loop.handlers

/-- The run with the given number is over and has left the loop as it found it, but for its own
marker. -/
structure Restored (s t : Crew π) (n : Nat) : Prop where
  number : n = s.loop.epoch
  idle : t.loop.running = false
  receiver : t.loop.receiver = .home
  flag : t.loop.haltRequested = false
  queue : t.loop.queue = s.loop.queue ∨ s.loop.queue = .halt n :: t.loop.queue
  pending : t.loop.pending = s.loop.pending
  handlers : t.loop.handlers = s.loop.handlers
  owner : t.owner = .kept

theorem refuses_of_running (running : s.loop.running = true) (kept : s.owner = .kept) :
    Refuses s := by
  intro who mode free
  have refused : s.loop.claim = .error .alreadyRunning := by
    simp [EventLoop.claim, EventLoop.takeReceiver, running, Except.map]
  rw [step, if_pos ⟨free, kept⟩]
  simp only [answer, Crew.claim, refused]

theorem Lawful.accepts (h : Lawful s) (idle : s.loop.running = false) (kept : s.owner = .kept) :
    Accepts s := by
  intro who mode free
  have home : s.loop.receiver = .home := by
    rw [h.receiver (used_of_kept kept), idle]
    rfl
  have claimed := h.claim mode idle (exists_of_free free) (used_of_kept kept)
  refine ⟨_, (if_pos ⟨free, kept⟩).trans (congrArg some (claim_idle idle home who mode)), ?_,
    rfl, rfl, rfl, rfl⟩
  rw [claimed.owned, if_pos ⟨rfl, rfl⟩]

theorem restored_finish {n : Nat} {stage : Stage π} {rest : List (Frame π)} {q : List (Message π)}
    (h : Lawful s) (top : s.stack who = .consuming n stage :: rest) (kept : s.owner = .kept)
    (queue : q = s.loop.queue ∨ s.loop.queue = .halt n :: q) (result : Except Fault Unit) :
    Restored s ({ s with loop := { s.loop with queue := q } }.finish who rest n result).1 n := by
  obtain ⟨idle, -, down, there⟩ :=
    finish_loop { s with loop := { s.loop with queue := q } } who rest n result
  have loop := there (used_of_kept kept)
  refine ⟨(h.consumer top).2, idle, ?_, down, ?_, ?_, ?_, kept⟩ <;> rw [loop]
  · rfl
  · exact queue
  · rfl
  · rfl

/-- However a run ends, it leaves the loop to the next one. -/
theorem restored_moved {p : Crew π × List (Notice π)} {n : Nat} {r : Except Fault Unit}
    (h : Lawful s) (kept : s.owner = .kept) (hm : Moved s p) (ended : .ended who n r ∈ p.2) :
    Restored s p.1 n := by
  -- A run ends by the flag, by its marker or by a failure.
  cases hm with
  | stopped top =>
      obtain ⟨-, rfl, -⟩ := Notice.ended.inj (List.mem_singleton.mp ended)
      exact restored_finish h top kept (.inl rfl) _
  | met top head =>
      obtain ⟨-, rfl, -⟩ := Notice.ended.inj (List.mem_singleton.mp ended)
      exact restored_finish h top kept (.inr ((h.consumer top).2 ▸ head)) _
  | propagated fails =>
      obtain ⟨stage, top⟩ := fails.top
      simp only [List.mem_cons, reduceCtorEq, Notice.ended.injEq, List.not_mem_nil, or_false,
        false_or] at ended
      obtain ⟨-, rfl, -⟩ := ended
      exact restored_finish h top kept (.inl rfl) _
  | left | returned => simp [putHandle] at ended
  | enqueued | halted | registered => simp [enqueue, halt, register] at ended
  | _ => simp at ended

/-- **A loop runs exactly while one consumer owns its receiver.** The run with the current number
has one owner while the loop counts as running, and no other run has any; the receiver is in its
place without a run and only then. Meanwhile every run is refused, whoever asks for it, also a
handler, and in either mode. However a run ends, it leaves nothing behind but what was queued: the
loop does not count as running, the receiver is in its place, the flag is down, and queue, count and
handlers are what they were, so that the next run is accepted. -/
theorem one_consumer_while_running {policy : LoopPolicy} {ms : List (Move π)}
    (h : (fresh policy).run ms = some (s, log)) (kept : s.owner = .kept) :
    (∀ n, s.owners n = if s.loop.running = true ∧ n = s.loop.epoch then 1 else 0) ∧
    s.loop.receiver = (if s.loop.running then .away else .home) ∧
    s.loop.pending = (EventLoop.events s.loop.queue).length ∧
    (s.loop.running = true → Refuses s) ∧
    (s.loop.running = false → s.loop.haltRequested = false ∧ Accepts s) ∧
    ∀ m t es who n r, s.step m = some (t, es) → .ended who n r ∈ es →
      Restored s t n ∧ Accepts t := by
  have lawful := lawful_run h
  have used := used_of_kept kept
  refine ⟨lawful.owned, lawful.receiver used, lawful.balance used, ?_, ?_, ?_⟩
  · exact fun running => refuses_of_running running kept
  · exact fun idle => ⟨lawful.down idle, lawful.accepts idle kept⟩
  · intro m t es who n r stepped ended
    have moved := moved_of_step stepped
    have restored := restored_moved lawful kept moved ended
    exact ⟨restored, (lawful_moved lawful moved).accepts restored.idle restored.owner⟩

/-- A background run whose handler asks for runs, enqueues an event, registers a handler and joins
its own run, while another thread asks for a run as well. -/
def busyHandlerMoves : List (Move Nat) :=
  [.ask (.caller 1) (.register "a"), .enqueue (.caller 1) { name := "a" },
    .ask (.caller 1) (.run .background), .advance (.caller 1) .takeHandle,
    .advance (.caller 1) .spawn, .advance (.caller 1) .putHandle,
    .advance (.worker 1) (.begin Thread.main), .advance (.worker 1) .turn,
    .advance (.worker 1) .call, .ask (.worker 1) (.run .blocking),
    .ask (.worker 1) (.run .background), .enqueue (.worker 1) { name := "b" },
    .ask (.worker 1) (.register "b"), .ask (.worker 1) .join, .advance (.worker 1) .putHandle,
    .ask (.caller 2) (.run .blocking)]

/-- The handler panics, and the event that it has enqueued is left for the next run. -/
theorem one_consumer_while_running_panicked : ∃ s t log es,
    (fresh { onFailure := .propagate }).run busyHandlerMoves = some (s, log) ∧
    s.owners 1 = 1 ∧ Refuses s ∧
    s.step (.advance (.worker 1) (.settle (.panicked (some "boom")))) = some (t, es) ∧
    Restored s t 1 ∧ Accepts t ∧ t.loop.queue = [.event { name := "b" }] := by
  have h : (fresh { onFailure := .propagate }).run busyHandlerMoves = some (_, _) := rfl
  obtain ⟨owned, -, -, refuses, -, ends⟩ := one_consumer_while_running h rfl
  obtain ⟨restored, accepts⟩ := ends (.advance (.worker 1) (.settle (.panicked (some "boom")))) _ _
    (.worker 1) 1 _ rfl (List.mem_cons_of_mem _ List.mem_cons_self)
  exact ⟨_, _, _, _, h, owned 1, refuses rfl, rfl, restored, accepts, rfl⟩

end Crew

end CallBridge
