import CallBridge.Proofs.Loop.Ownership

/-!
# What becomes of the outcome of a background run

The outcome of a worker is known to whoever waits for it with its handle. There is one handle for
each worker, and it is put down, taken up and used up like any other thing: at every moment it is in
one place, or its use can be seen. So a failure is told at most once, and it is told unless the
handle was used up without anybody asking: by a background run that has waited for the worker, by
another handle in its place, or by a loop that is dropped on the worker's own thread.
-/

namespace CallBridge

namespace Crew

variable {π : Type}

def Frame.holds (n : Nat) : Frame π → Nat
  | starting _ previous => if previous = some n then 1 else 0
  | leaving m | joining m | returning m | dropping m => if m = n then 1 else 0
  | consuming _ _ | claimed _ => 0

@[simp] theorem waits_holds (who : Who) (m n : Nat) :
    (who.waits m : Frame π).holds n = if m = n then 1 else 0 := by
  unfold Who.waits
  split <;> rfl

/-- In how many places the handle of the given run is. -/
def places (s : Crew π) (n : Nat) : Nat :=
  s.weight (Frame.holds n) + if s.handle = some n then 1 else 0

def made (s : Crew π) (n : Nat) : Nat := if (s.threads.find? (.worker n)).isNone then 0 else 1

def Notice.settles (n : Nat) : Notice π → Bool
  | joined _ (some m) _ | dropped _ (some m) _ | reaped m _ | replaced m | detached m => m = n
  | _ => false

def uses (n : Nat) (log : List (Notice π)) : Nat := log.countP (Notice.settles n)

@[simp] theorem uses_nil (n : Nat) : uses n ([] : List (Notice π)) = 0 := rfl

@[simp] theorem uses_cons (n : Nat) (x : Notice π) (log : List (Notice π)) :
    uses n (x :: log) = (if x.settles n then 1 else 0) + uses n log := by
  rw [uses, List.countP_cons, Nat.add_comm, uses]

@[simp] theorem uses_append (n : Nat) (log log' : List (Notice π)) :
    uses n (log ++ log') = uses n log + uses n log' := List.countP_append

/-! ## Where a handle goes -/

variable {s t : Crew π} {log : List (Notice π)} {who : Who}

theorem made_put (there : s.Exists who) (fs : List (Frame π)) (n : Nat) :
    (s.put who fs).made n = s.made n := by
  simp only [made, Option.isNone_iff_eq_none, find?_put there fs n]

section

variable {f g : Frame π} {rest : List (Frame π)} (n : Nat)

theorem places_push (who : Who) :
    (s.put who (f :: s.stack who)).places n = s.places n + f.holds n := by
  have push := weight_push (f := f) (Frame.holds n) (rfl : s.stack who = s.stack who)
  unfold places
  rw [push]
  exact Nat.add_right_comm _ _ _

theorem places_swap (top : s.stack who = f :: rest) :
    (s.put who (g :: rest)).places n + f.holds n = s.places n + g.holds n := by
  have swap := weight_swap (g := g) (Frame.holds n) top
  have same : (s.put who (g :: rest)).handle = s.handle := rfl
  unfold places
  rw [same]
  omega

theorem places_pop (top : s.stack who = f :: rest) :
    (s.put who rest).places n + f.holds n = s.places n := by
  have pop := weight_pop (Frame.holds n) top
  have same : (s.put who rest).handle = s.handle := rfl
  unfold places
  rw [same]
  omega

theorem places_empty :
    { s with handle := none }.places n + (if s.handle = some n then 1 else 0) = s.places n := rfl

theorem places_filled (k : Nat) :
    { s with handle := some k }.places n + (if s.handle = some n then 1 else 0) =
      s.places n + if k = n then 1 else 0 := by
  simp only [places, Option.some.injEq]
  exact Nat.add_right_comm _ _ _

end

theorem handles_stage {m : Nat} {before : Stage π} {rest fs : List (Frame π)} (n : Nat)
    (top : s.stack who = .consuming m before :: rest)
    (fs_eq : fs = rest ∨ ∃ after, fs = .consuming m after :: rest) :
    (s.put who fs).places n + s.made n = s.places n + (s.put who fs).made n := by
  rw [made_put (exists_of_top top)]
  rcases fs_eq with rfl | ⟨after, rfl⟩
  · exact congrArg (· + s.made n) (places_pop n top)
  · exact congrArg (· + s.made n) (places_swap (g := .consuming m after) n top)

theorem handles_spawn {k : Nat} {previous : Option Nat} {rest : List (Frame π)} (h : Lawful s)
    (top : s.stack who = .starting k previous :: rest) (n : Nat) :
    (s.spawn who rest k).places n + (if previous = some n then 1 else 0) + s.made n =
      s.places n + (s.spawn who rest k).made n := by
  have weight := weight_spawn h top (Frame.holds n)
  have unmade := h.unmade top
  have slot : (s.spawn who rest k).handle = s.handle := rfl
  simp only [Frame.holds, Nat.add_zero] at weight
  unfold places
  rw [slot]
  by_cases same : k = n
  · subst same
    have fresh : s.made k = 0 := by simp [made, unmade]
    have made : (s.spawn who rest k).made k = 1 := by simp [made, Crew.spawn, put]
    rw [if_pos rfl] at weight
    omega
  · have made : (s.spawn who rest k).made n = s.made n := by
      simp only [made, Option.isNone_iff_eq_none, find?_spawn top (Ne.symm same)]
    rw [if_neg same] at weight
    omega

theorem handles_take {f : Frame π} (there : s.Exists who) (n : Nat)
    (holds : f.holds n = if s.handle = some n then 1 else 0) :
    ({ s with handle := none }.put who (f :: s.stack who)).places n + s.made n =
      s.places n + ({ s with handle := none }.put who (f :: s.stack who)).made n := by
  have push := places_push (s := { s with handle := none }) (f := f) n who
  have same := made_put (s := { s with handle := none }) there (f :: s.stack who) n
  rw [holds] at push
  exact congr (congrArg HAdd.hAdd (push.trans (places_empty n))) same.symm

theorem handles_settle {f : Frame π} {rest : List (Frame π)} (top : s.stack who = f :: rest)
    (n : Nat) : (s.put who rest).places n + f.holds n + s.made n =
      s.places n + (s.put who rest).made n := by
  rw [places_pop n top, made_put (exists_of_top top)]

theorem handles_put {f : Frame π} {rest : List (Frame π)} {k : Nat} {returned : Notice π}
    (top : s.stack who = f :: rest) (n : Nat) (holds : ∀ n, f.holds n = if k = n then 1 else 0)
    (other : returned.settles n = false) :
    (s.putHandle who rest k returned).1.places n + uses n (s.putHandle who rest k returned).2 +
      s.made n = s.places n + (s.putHandle who rest k returned).1.made n := by
  have filled := places_filled (s := s) n k
  have settled := handles_settle (s := { s with handle := some k }) top n
  have replaced : uses n (s.putHandle who rest k returned).2 =
      if s.handle = some n then 1 else 0 := by
    have last : uses n [returned] = 0 := by simp [other]
    simp only [putHandle, uses_append, last, Nat.add_zero]
    cases s.handle <;> simp [Notice.settles]
  have same : { s with handle := some k }.made n = s.made n := rfl
  rw [replaced]
  simp only [holds, same] at settled
  simp only [putHandle]
  omega

/-- A handle is made with its worker, and gets from one place to another until it is used up. -/
theorem handles_moved {p : Crew π × List (Notice π)} (h : Lawful s) (hm : Moved s p) (n : Nat) :
    p.1.places n + uses n p.2 + s.made n = s.places n + p.1.made n := by
  -- A worker comes with its handle; any other move hands one on or uses it up.
  cases hm with
  | refused | joinedNobody | waiting | enqueued | halted | registered | skipped => rfl
  | @claimed who mode free kept idle =>
      have push := places_push (s := s) (f := mode.frame (s.loop.epoch + 1)) n who
      have same := made_put (exists_of_free free) (mode.frame (s.loop.epoch + 1) :: s.stack who) n
      have holds : (mode.frame (s.loop.epoch + 1) : Frame π).holds n = 0 := by cases mode <;> rfl
      rw [holds] at push
      exact congr (congrArg HAdd.hAdd push) same.symm
  | @handleTaken who k rest top =>
      have swap := places_swap (s := { s with handle := none }) (g := .starting k s.handle) n top
      have same := made_put (s := { s with handle := none }) (exists_of_top top)
        (.starting k s.handle :: rest) n
      exact congr (congrArg HAdd.hAdd (swap.trans (places_empty n))) same.symm
  | spawned top => exact handles_spawn h top n
  | reaped top =>
      have spawn := handles_spawn h top n
      simpa [Notice.settles] using spawn
  | left top => exact handles_put top n (fun _ => rfl) rfl
  | returned top => exact handles_put top n (fun _ => rfl) rfl
  | @joining who k free handle =>
      exact handles_take (exists_of_free free) n (by simp [handle])
  | joined top =>
      have settled := handles_settle top n
      simpa [Notice.settles, Frame.holds] using settled
  | droppedNobody who nobody =>
      have empty := places_empty (s := s) n
      rw [nobody, if_neg nofun] at empty
      exact congrArg (· + s.made n) empty
  | @droppedSelf k handle =>
      have empty := places_empty (s := s) n
      have used : uses n ([.dropped (.worker k) none [], .detached k] : List (Notice π)) =
          if s.handle = some n then 1 else 0 := by simp [Notice.settles, handle]
      rw [used]
      exact congrArg (· + s.made n) empty
  | @dropping who k free kept handle =>
      exact handles_take (s := { s with loop := s.loop.halt.state, owner := .going })
        (exists_of_free free) n (by simp [Frame.holds, handle])
  | @dropped who k rest r top known =>
      have settled := handles_settle top n
      have used : uses n ([.dropped who (some k) (warning r)] : List (Notice π)) =
          (Frame.dropping k : Frame π).holds n := by simp [Notice.settles, Frame.holds]
      rw [used]
      exact settled
  | begun thread top =>
      exact handles_stage (s := { s with loop := (s.loop.begin thread).state }) n top
        (.inr ⟨_, rfl⟩)
  | taken top head =>
      exact handles_stage n top (.inr ⟨_, rfl⟩)
  | called top | succeeded top => exact handles_stage n top (.inr ⟨_, rfl⟩)
  | reported fails =>
      obtain ⟨stage, top⟩ := fails.top
      exact handles_stage n top (.inr ⟨_, rfl⟩)
  | stopped top => exact handles_stage n top (.inl rfl)
  | met top head => exact handles_stage n top (.inl rfl)
  | propagated fails =>
      obtain ⟨stage, top⟩ := fails.top
      exact handles_stage n top (.inl rfl)

/-! ## A worker's outcome is its own -/

/-- A worker consumes the run it was made for. -/
def Faithful (s : Crew π) : Prop :=
  ∀ m n stage, .consuming n stage ∈ s.stack (.worker m) → n = m

theorem Faithful.put {fs : List (Frame π)} (h : Faithful s)
    (older : ∀ m n stage, who = .worker m → .consuming n stage ∈ fs → n = m) :
    Faithful (s.put who fs) := by
  intro m n stage consuming
  by_cases same : Who.worker m = who
  · rw [same, stack_put_self] at consuming
    exact older m n stage same.symm consuming
  · rw [stack_put_of_ne same] at consuming
    exact h m n stage consuming

theorem Faithful.rest {f : Frame π} {rest : List (Frame π)} (h : Faithful s)
    (top : s.stack who = f :: rest) : Faithful (s.put who rest) := by
  refine h.put ?_
  rintro m n stage rfl consuming
  exact h m n stage (top ▸ List.mem_cons_of_mem _ consuming)

theorem Faithful.cons {f : Frame π} {fs : List (Frame π)} (h : Faithful (s.put who fs))
    (own : ∀ m n stage, who = .worker m → f = .consuming n stage → n = m) :
    Faithful (s.put who (f :: fs)) := by
  have again : s.put who (f :: fs) = (s.put who fs).put who (f :: fs) := by
    simp [Crew.put]
  rw [again]
  refine h.put ?_
  rintro m n stage rfl consuming
  rcases List.mem_cons.mp consuming with same | old
  · exact own m n stage rfl same.symm
  · exact h m n stage (by rw [stack_put_self]; exact old)

theorem Faithful.swap {f g : Frame π} {rest : List (Frame π)} (h : Faithful s)
    (top : s.stack who = f :: rest)
    (own : ∀ m n stage, who = .worker m → g = .consuming n stage → n = m) :
    Faithful (s.put who (g :: rest)) :=
  (h.rest top).cons own

theorem Faithful.stage {n : Nat} {before after : Stage π} {rest : List (Frame π)}
    (h : Faithful s) (top : s.stack who = .consuming n before :: rest) :
    Faithful (s.put who (.consuming n after :: rest)) := by
  refine h.swap top ?_
  rintro m k stage rfl same
  obtain ⟨rfl, -⟩ := Frame.consuming.inj same
  exact h m n before (top ▸ List.mem_cons_self)

theorem Faithful.push {f : Frame π} (h : Faithful s)
    (other : ∀ n stage, f ≠ .consuming n stage) : Faithful (s.put who (f :: s.stack who)) := by
  refine Faithful.cons (h.put ?_) (fun _ n stage _ same => absurd same (other n stage))
  rintro m n stage rfl consuming
  exact h m n stage consuming

theorem Faithful.spawn {k : Nat} {f : Frame π} {rest : List (Frame π)} (h : Faithful s)
    (top : s.stack who = f :: rest) : Faithful (s.spawn who rest k) := by
  refine Faithful.put (h.swap (g := .leaving k) top nofun) ?_
  intro m n stage same consuming
  obtain ⟨rfl, -⟩ := Frame.consuming.inj (List.mem_singleton.mp consuming)
  exact Who.worker.inj same

theorem waits_ne_consuming {m : Nat} (n : Nat) (stage : Stage π) :
    who.waits m ≠ .consuming n stage := by
  unfold Who.waits
  split <;> nofun

/-- Workers that are free run a handler, so that the loop is running. -/
theorem Lawful.running_of_free {n : Nat} (h : Lawful s) (free : s.free (.worker n) = true) :
    s.loop.running = true := by
  cases top : s.stack (.worker n) with
  | nil => simp [Crew.free, top] at free
  | cons f rest =>
      cases f with
      | consuming m stage => exact (h.consumer top).1
      | _ => simp [Crew.free, top] at free

theorem faithful_moved {p : Crew π × List (Notice π)} (h : Lawful s) (f : Faithful s)
    (hm : Moved s p) : Faithful p.1 := by
  cases hm with
  | refused | joinedNobody | waiting | enqueued | halted | registered | skipped => exact f
  | droppedNobody | droppedSelf => exact f
  | claimed mode free kept idle =>
      refine Faithful.cons (f.put ?_) ?_
      · rintro m n stage rfl consuming
        exact f m n stage consuming
      · rintro m n stage rfl -
        -- A worker that is free consumes, so that no run can be claimed.
        exact absurd ((h.running_of_free free).symm.trans idle) nofun
  | handleTaken top => exact f.swap (g := .starting _ _) top nofun
  | spawned top | reaped top => exact f.spawn top
  | left top | returned top | joined top | dropped top => exact f.rest top
  | joining => exact Faithful.push f waits_ne_consuming
  | dropping => exact Faithful.push f nofun
  | begun thread top => exact f.stage top
  | taken top | called top | succeeded top => exact f.stage top
  | reported fails =>
      obtain ⟨stage, top⟩ := fails.top
      exact f.stage top
  | stopped top | met top => exact f.rest top
  | propagated fails =>
      obtain ⟨stage, top⟩ := fails.top
      exact f.rest top

/-! ## What is told of an outcome -/

/-- What a notice says of the outcome of a background run is what the worker came to. -/
def Notice.Agrees (outcomes : Table Nat (Except Fault Unit)) : Notice π → Prop
  | ended (.worker m) n r => n = m ∧ outcomes.find? m = some r
  | joined _ (some n) r | reaped n r => outcomes.find? n = some r
  | dropped _ (some n) lines => ∃ r, outcomes.find? n = some r ∧ lines = warning r
  | _ => True

theorem Notice.Agrees.grow {o o' : Table Nat (Except Fault Unit)} {x : Notice π} (h : x.Agrees o)
    (grow : ∀ n r, o.find? n = some r → o'.find? n = some r) : x.Agrees o' := by
  unfold Agrees at h ⊢
  split
  · exact ⟨h.1, grow _ _ h.2⟩
  · exact grow _ _ h
  · exact grow _ _ h
  · obtain ⟨r, known, same⟩ := h
    exact ⟨r, grow _ _ known, same⟩
  · trivial

theorem workers_moved {p : Crew π × List (Notice π)} (hm : Moved s p) {n : Nat}
    (made : s.threads.find? (.worker n) ≠ none) : p.1.threads.find? (.worker n) ≠ none := by
  have stay {who : Who} (there : s.Exists who) (fs : List (Frame π)) :
      (s.put who fs).threads.find? (.worker n) ≠ none :=
    mt (find?_put there fs n).mp made
  have spawn {who : Who} {k : Nat} {f : Frame π} {rest : List (Frame π)}
      (top : s.stack who = f :: rest) : (s.spawn who rest k).threads.find? (.worker n) ≠ none := by
    by_cases same : n = k
    · rw [same, Crew.spawn, put, Table.find?_insert_self]
      exact Option.some_ne_none _
    · exact mt (find?_spawn top same).mp made
  cases hm with
  | refused | joinedNobody | waiting | enqueued | halted | registered | skipped => exact made
  | droppedNobody | droppedSelf => exact made
  | claimed mode free => exact stay (exists_of_free free) _
  | joining free | dropping free => exact stay (exists_of_free free) _
  | spawned top | reaped top => exact spawn top
  | handleTaken top | left top | returned top | joined top | dropped top =>
      exact stay (exists_of_top top) _
  | begun thread top => exact stay (exists_of_top top) _
  | taken top | called top | succeeded top | stopped top | met top =>
      exact stay (exists_of_top top) _
  | reported fails | propagated fails =>
      obtain ⟨stage, top⟩ := fails.top
      exact stay (exists_of_top top) _

theorem runs_moved {p : Crew π × List (Notice π)} (hm : Moved s p) :
    (p.1.loop.running = s.loop.running ∧ p.1.loop.epoch = s.loop.epoch) ∨
      p.1.loop.running = false ∨ p.1.loop.epoch = s.loop.epoch + 1 := by
  have stay {l : EventLoop π} (undisturbed : Undisturbed s.loop l) :
      l.running = s.loop.running ∧ l.epoch = s.loop.epoch :=
    ⟨undisturbed.running, undisturbed.epoch⟩
  cases hm with
  | claimed => exact .inr (.inr rfl)
  | @stopped who n rest => exact .inr (.inl (finish_loop s who rest n _).1)
  | @met who n rest => exact .inr (.inl (finish_loop _ who rest n _).1)
  | @propagated who n rest => exact .inr (.inl (finish_loop s who rest n _).1)
  | enqueued who e => exact .inl (stay (undisturbed_enqueue _ e))
  | halted | dropping => exact .inl (stay (undisturbed_halt _))
  | registered who name => exact .inl (stay (undisturbed_register _ name))
  | droppedNobody | droppedSelf =>
      simp only [leaveBehind_running, leaveBehind_epoch]
      exact .inl (stay (undisturbed_halt _))
  | dropped => exact .inl ⟨leaveBehind_running _, leaveBehind_epoch _⟩
  | _ => exact .inl ⟨rfl, rfl⟩

/-- Every handle is in one place or was used up once, and every outcome is told as it is. -/
structure Accounted (s : Crew π) (log : List (Notice π)) : Prop where
  lawful : Lawful s
  faithful : Faithful s
  handles : ∀ n, s.places n + uses n log = s.made n
  finished : ∀ n, s.outcomes.find? n ≠ none →
    s.threads.find? (.worker n) ≠ none ∧ ¬(s.loop.running = true ∧ n = s.loop.epoch)
  told : ∀ x ∈ log, x.Agrees s.outcomes

/-- A move leaves the outcomes that are known, and adds one only when it ends the run of its worker;
what it tells agrees with them. -/
structure Grown (s : Crew π) (p : Crew π × List (Notice π)) : Prop where
  grow : ∀ n r, s.outcomes.find? n = some r → p.1.outcomes.find? n = some r
  new : ∀ n, p.1.outcomes.find? n ≠ none →
    s.outcomes.find? n ≠ none ∨ s.threads.find? (.worker n) ≠ none ∧ p.1.loop.running = false
  told : ∀ x ∈ p.2, x.Agrees p.1.outcomes

theorem grown_same {p : Crew π × List (Notice π)} (same : p.1.outcomes = s.outcomes)
    (told : ∀ x ∈ p.2, x.Agrees s.outcomes) : Grown s p where
  grow := fun _ _ known => same ▸ known
  new := fun _ known => .inl (same ▸ known)
  told := same ▸ told

/-- The end of a run on a thread of the application is no worker's outcome, and a worker's is the
first of its run. -/
theorem Accounted.finish {n : Nat} {stage : Stage π} {rest : List (Frame π)} {l : EventLoop π}
    (h : Accounted s log) (top : s.stack who = .consuming n stage :: rest)
    (r : Except Fault Unit) : Grown s ({ s with loop := l }.finish who rest n r) := by
  have idle := (finish_loop { s with loop := l } who rest n r).1
  cases who with
  | caller p => exact grown_same rfl (by simp [Crew.finish, Notice.Agrees])
  | worker m =>
      have own : n = m := h.faithful m n stage (top ▸ List.mem_cons_self)
      subst own
      have outcomes : ({ s with loop := l }.finish (.worker n) rest n r).1.outcomes =
          s.outcomes.insert n r := rfl
      -- The run was active until now, so that its worker had no outcome yet.
      have first : s.outcomes.find? n = none := by
        cases known : s.outcomes.find? n with
        | none => rfl
        | some r' => exact absurd (h.lawful.consumer top) (h.finished n (by simp [known])).2
      refine ⟨fun k r' known => ?_, fun k known => ?_, ?_⟩
      · have other : k ≠ n := by
          rintro rfl
          rw [first] at known
          cases known
        rw [outcomes, Table.find?_insert_of_ne _ _ other]
        exact known
      · by_cases same : k = n
        · exact .inr ⟨same ▸ exists_of_top top n rfl, idle⟩
        · rw [outcomes, Table.find?_insert_of_ne _ _ same] at known
          exact .inl known
      · rw [outcomes]
        simp [Crew.finish, Notice.Agrees]

theorem grown_moved {p : Crew π × List (Notice π)} (h : Accounted s log) (hm : Moved s p) :
    Grown s p := by
  cases hm with
  | stopped top => exact h.finish top _
  | met top head => exact h.finish top _
  | @propagated who n rest e f fails =>
      obtain ⟨stage, top⟩ := fails.top
      have finished := h.finish (l := s.loop) top (.error f)
      refine ⟨finished.grow, finished.new, ?_⟩
      simpa [Notice.Agrees, Crew.finish] using finished.told
  | reaped top known => exact grown_same rfl (by simp [Notice.Agrees, known])
  | joined top known => exact grown_same rfl (by simp [Notice.Agrees, known])
  | dropped top known => exact grown_same rfl (by simp [Notice.Agrees, known])
  | left | returned =>
      refine grown_same rfl ?_
      cases handle : s.handle <;> simp [putHandle, handle, Notice.Agrees]
  | enqueued | halted | registered =>
      exact grown_same rfl (by simp [enqueue, halt, register, Notice.Agrees])
  | _ => exact grown_same rfl (by simp [Notice.Agrees])

theorem accounted_moved {p : Crew π × List (Notice π)} (h : Accounted s log) (hm : Moved s p) :
    Accounted p.1 (log ++ p.2) := by
  have grown := grown_moved h hm
  refine ⟨lawful_moved h.lawful hm, faithful_moved h.lawful h.faithful hm, fun n => ?_,
    fun n known => ?_, fun x hx => ?_⟩
  · have moved := handles_moved h.lawful hm n
    have before := h.handles n
    rw [uses_append]
    omega
  · rcases grown.new n known with old | ⟨made, idle⟩
    · obtain ⟨made, inactive⟩ := h.finished n old
      refine ⟨workers_moved hm made, ?_⟩
      -- A run that is over does not become active again, for numbers only grow.
      rintro ⟨running, current⟩
      rcases runs_moved hm with ⟨same, epoch⟩ | idle | epoch
      · exact inactive ⟨same ▸ running, epoch ▸ current⟩
      · exact absurd (running.symm.trans idle) nofun
      · have := h.lawful.born n made
        omega
    · exact ⟨workers_moved hm made, fun active => absurd (active.1.symm.trans idle) nofun⟩
  · rcases List.mem_append.mp hx with old | new
    · exact (h.told x old).grow grown.grow
    · exact grown.told x new

theorem accounted_run {policy : LoopPolicy} {ms : List (Move π)}
    (h : (fresh policy).run ms = some (s, log)) : Accounted s log := by
  have start : Accounted (fresh policy : Crew π) [] :=
    ⟨lawful_fresh policy, fun _ _ _ consuming => (nomatch consuming), fun _ => rfl,
      fun _ known => absurd rfl known, List.forall_mem_nil _⟩
  exact run_invariant (fun accounted moved => accounted_moved accounted moved) h start

/-! ## Failures -/

/-- The failure of the given run is told. -/
inductive Tells (n : Nat) (f : Fault) : Notice π → Prop where
  | joined (who : Who) : Tells n f (.joined who (some n) (.error f))
  | warned (who : Who) : Tells n f (.dropped who (some n) [EventLoop.unreported f])

/-- The handle of the given run is used up, and nobody is told of its failure. -/
inductive Discards (n : Nat) (f : Fault) : Notice π → Prop where
  | reaped : Discards n f (.reaped n (.error f))
  | replaced : Discards n f (.replaced n)
  | detached : Discards n f (.detached n)

/-- Whoever waits for the worker of the given run is told of its failure, and so is whoever takes up
its handle to join the run or to drop the loop. -/
structure Due (s : Crew π) (n : Nat) (f : Fault) : Prop where
  joining : ∀ who rest, s.stack who = .joining n :: rest →
    ∃ t, s.step (.advance who .awake) = some (t, [.joined who (some n) (.error f)])
  dropping : ∀ who rest, s.stack who = .dropping n :: rest →
    ∃ t, s.step (.advance who .awake) =
      some (t, [.dropped who (some n) [EventLoop.unreported f]])
  join : s.handle = some n → s.owner = .kept → ∀ p, s.stack (.caller p) = [] →
    ∃ t, s.run [.ask (.caller p) .join, .advance (.caller p) .awake] =
      some (t, [.joined (.caller p) (some n) (.error f)])
  drop : s.handle = some n → s.owner = .kept → s.quiet = true → ∀ p, s.stack (.caller p) = [] →
    ∃ t, s.run [.ask (.caller p) .drop, .advance (.caller p) .awake] =
      some (t, [.dropped (.caller p) (some n) [EventLoop.unreported f]])

theorem free_caller {p : Nat} (nothing : s.stack (.caller p) = []) :
    s.free (.caller p) = true := by
  unfold Crew.free
  rw [nothing]

theorem awake_joining {n : Nat} {r : Except Fault Unit} {rest : List (Frame π)}
    (known : s.outcomes.find? n = some r) (top : s.stack who = .joining n :: rest) :
    s.step (.advance who .awake) = some (s.put who rest, [.joined who (some n) r]) := by
  simp only [step, top, advance, known, Option.map_some]

theorem awake_dropping {n : Nat} {r : Except Fault Unit} {rest : List (Frame π)}
    (known : s.outcomes.find? n = some r) (top : s.stack who = .dropping n :: rest) :
    s.step (.advance who .awake) =
      some ((s.put who rest).leaveBehind, [.dropped who (some n) (warning r)]) := by
  simp only [step, top, advance, known, Option.map_some]

theorem due_of_known {n : Nat} {f : Fault} (known : s.outcomes.find? n = some (.error f)) :
    Due s n f where
  joining := fun _ _ top => ⟨_, awake_joining known top⟩
  dropping := fun _ _ top => ⟨_, awake_dropping known top⟩
  join := fun handle kept p nothing => by
    have asked : s.step (.ask (.caller p) .join) =
        some ({ s with handle := none }.put (.caller p) (.joining n :: s.stack (.caller p)),
          []) := by
      simp [step, free_caller nothing, kept, answer, Crew.join, handle, Who.waits]
    exact ⟨_, runWith_pair asked (awake_joining known stack_put_self)⟩
  drop := fun handle kept quiet p nothing => by
    have asked : s.step (.ask (.caller p) .drop) =
        some ({ s with loop := s.loop.halt.state, handle := none, owner := .going }.put (.caller p)
          (.dropping n :: s.stack (.caller p)), []) := by
      simp [step, free_caller nothing, kept, answer, quiet, Crew.drop, handle]
    exact ⟨_, runWith_pair asked (awake_dropping (r := .error f) known stack_put_self)⟩

/-- What uses up the handle of a run that has failed tells of its failure or discards it. -/
theorem tells_or_discards {n : Nat} {f : Fault} {x : Notice π} {o : Table Nat (Except Fault Unit)}
    (agrees : x.Agrees o) (known : o.find? n = some (.error f)) (settles : x.settles n = true) :
    Tells n f x ∨ Discards n f x := by
  -- One case for each notice that uses a handle up.
  unfold Notice.settles at settles
  split at settles
  · next who m r =>
      cases of_decide_eq_true settles
      have same : r = .error f := Option.some.inj (Eq.trans (Eq.symm agrees) known)
      exact .inl (same ▸ .joined who)
  · next who m lines =>
      cases of_decide_eq_true settles
      obtain ⟨r, told, rfl⟩ := agrees
      have same : r = .error f := Option.some.inj (told.symm.trans known)
      exact .inl (same ▸ .warned who)
  · next m r =>
      cases of_decide_eq_true settles
      have same : r = .error f := Option.some.inj (Eq.trans (Eq.symm agrees) known)
      exact .inr (same ▸ .reaped)
  · cases of_decide_eq_true settles
    exact .inr .replaced
  · cases of_decide_eq_true settles
    exact .inr .detached
  · cases settles

/-- **The failure of a background run is told once, or its handle is discarded.** Once the worker
has failed, its handle is in one place or was used up once. As long as it is somewhere, whoever
waits for the worker or takes the handle up is told of the failure, by a join or by the warning of a
loop that is dropped. What has used it up has told of the failure in one of these ways, or else is a
later background run that has reaped the worker, another handle put down in its place, or a drop on
the worker's own thread. -/
theorem failure_told_or_discarded {policy : LoopPolicy} {ms : List (Move π)}
    (h : (fresh policy).run ms = some (s, log)) {n k : Nat} {f : Fault}
    (failed : .ended (.worker n) k (.error f) ∈ log) :
    s.places n + uses n log = 1 ∧ Due s n f ∧
      ∀ x ∈ log, x.settles n = true → Tells n f x ∨ Discards n f x := by
  have accounted := accounted_run h
  obtain ⟨-, known⟩ : k = n ∧ s.outcomes.find? n = some (.error f) := accounted.told _ failed
  have made : s.made n = 1 := by
    have there := (accounted.finished n (by simp [known])).1
    rw [made, if_neg (by rwa [Option.isNone_iff_eq_none])]
  refine ⟨made ▸ accounted.handles n, due_of_known known, fun x hx settles => ?_⟩
  exact tells_or_discards (accounted.told x hx) known settles

/-- A background run that fails because nobody handles its event. -/
def unhandledMoves : List (Move Nat) :=
  [.enqueue (.caller 1) { name := "nobody" }, .ask (.caller 1) (.run .background),
    .advance (.caller 1) .takeHandle, .advance (.caller 1) .spawn, .advance (.caller 1) .putHandle,
    .advance (.worker 1) (.begin Thread.main), .advance (.worker 1) .turn,
    .advance (.worker 1) .call]

def unhandledLog : List (Notice Nat) :=
  [.enqueued (.caller 1) { name := "nobody" } (.ok ()), .started (.caller 1) .background 1,
    .spawned 1, .launched (.caller 1) 1, .dispatched { name := "nobody" },
    .failed { name := "nobody" } (.unknownEvent "nobody"),
    .ended (.worker 1) 1 (.error (.unknownEvent "nobody"))]

/-- The next join returns the failure. -/
theorem failure_told_or_discarded_waiting : ∃ s t,
    (fresh { onFailure := .propagate }).run unhandledMoves = some (s, unhandledLog) ∧
    s.places 1 + uses 1 unhandledLog = 1 ∧
    s.run [.ask (.caller 1) .join, .advance (.caller 1) .awake] =
      some (t, [.joined (.caller 1) (some 1) (.error (.unknownEvent "nobody"))]) := by
  have h : (fresh { onFailure := .propagate }).run unhandledMoves = some (_, unhandledLog) := rfl
  obtain ⟨once, due, -⟩ := failure_told_or_discarded (n := 1) (k := 1)
    (f := .unknownEvent "nobody") h (by simp [unhandledLog])
  obtain ⟨t, told⟩ := due.join rfl rfl 1 rfl
  exact ⟨_, t, h, once, told⟩

/-- A second background run instead, which is stopped and joined. -/
def forgetfulMoves : List (Move Nat) :=
  unhandledMoves ++
    [.ask (.caller 1) (.run .background), .advance (.caller 1) .takeHandle,
      .advance (.caller 1) .spawn, .advance (.caller 1) .putHandle,
      .advance (.worker 2) (.begin Thread.main), .ask (.caller 1) .halt,
      .advance (.worker 2) .turn, .ask (.caller 1) .join, .advance (.caller 1) .awake]

def forgetfulLog : List (Notice Nat) :=
  unhandledLog ++
    [.started (.caller 1) .background 2, .reaped 1 (.error (.unknownEvent "nobody")), .spawned 2,
      .launched (.caller 1) 2, .halted (.caller 1) true, .ended (.worker 2) 2 (.ok ()),
      .joined (.caller 1) (some 2) (.ok ())]

theorem Tells.settles {n : Nat} {f : Fault} {x : Notice π} (h : Tells n f x) :
    x.settles n = true := by
  cases h <;> exact decide_eq_true rfl

/-- What has used up a handle is the last that is seen of it. -/
theorem not_settles_again {policy : LoopPolicy} {ms more : List (Move π)} {later : List (Notice π)}
    {n : Nat} (h : (fresh policy).run ms = some (s, log)) (used : 0 < uses n log)
    (continued : s.run more = some (t, later)) : ∀ x ∈ later, ¬x.settles n = true := by
  have handles := (accounted_run (runWith_append h continued)).handles n
  have once : t.made n ≤ 1 := by
    unfold made
    split <;> decide
  rw [uses_append] at handles
  exact List.countP_eq_zero.mp (by unfold uses at *; omega)

/-- The second run has reaped the worker of the first one: every operation has returned without a
failure, and nobody will be told of it any more. -/
theorem failure_discarded_by_next_run : ∃ s,
    (fresh { onFailure := .propagate }).run forgetfulMoves = some (s, forgetfulLog) ∧
    .ended (.worker 1) 1 (.error (.unknownEvent "nobody")) ∈ forgetfulLog ∧
    (∀ x ∈ forgetfulLog, ¬Tells 1 (.unknownEvent "nobody") x) ∧
    ∀ more t later, s.run more = some (t, later) →
      ∀ x ∈ later, ¬Tells 1 (.unknownEvent "nobody") x := by
  have h : (fresh { onFailure := .propagate }).run forgetfulMoves = some (_, forgetfulLog) := rfl
  refine ⟨_, h, by simp [forgetfulLog, unhandledLog], ?_, ?_⟩
  · intro x hx tells
    cases tells <;> simp [forgetfulLog, unhandledLog] at hx
  · -- The handle was used up by the second run, which happens once.
    intro more t later continued x hx tells
    exact not_settles_again h (by decide) continued x hx tells.settles

end Crew

end CallBridge
