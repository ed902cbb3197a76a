import CallBridge.Proofs.Loop.Markers

/-!
# What one run dispatches

A run begins with whatever its queue holds, events and markers of earlier runs in any order, and its
handlers may do anything. Its own marker is sent by the first accepted halt and by no other, so it
parts the queue: what stands behind it was sent after that halt. Under the drain policy the run is
over when it meets the marker, under the abandon policy at the next turn; a failure that is to be
propagated ends it in the middle of either.
-/

namespace CallBridge

namespace Station

variable {π : Type}

def sent (log : List (Notice π)) : List (Event π) := (accepted log).map Prod.snd

@[simp] theorem sent_append (log log' : List (Notice π)) :
    sent (log ++ log') = sent log ++ sent log' := by
  rw [sent, accepted_append, List.map_append]
  rfl

/-- What was seen before and after the first accepted halt. -/
structure FirstHalt (log before after : List (Notice π)) : Prop where
  split : log = before ++ .halted true :: after
  first : .halted true ∉ before

def Post.dispatching? : Post π → Option (Event π)
  | .holding _ e | .handling _ e => some e
  | _ => none

/-- The failure is one of the ways in which the dispatch of the event can fail. -/
def FaultOf (e : Event π) (f : Fault) : Prop :=
  f = .unknownEvent e.name ∨ ∃ v : Verdict, v.fault? e.name = some f

/-- What a run comes to that began with the loop `l`, given what was seen of it, its result and the
events that it left in the queue. It dispatches from the front; it stops at the first accepted halt,
at once or after what was queued before; and a failure ends it only where failures propagate. -/
structure Completed (l : EventLoop π) (seen : List (Notice π)) (result : Except Fault Unit)
    (left : List (Event π)) : Prop where
  conserved : dispatched seen ++ left = EventLoop.events l.queue ++ sent seen
  drained : l.policy.onHalt = .drain → ∀ {before after}, FirstHalt seen before after →
    dispatched seen <+: EventLoop.events l.queue ++ sent before ∧
    (result = .ok () →
      dispatched seen = EventLoop.events l.queue ++ sent before ∧ left = sent after)
  abandoned : l.policy.onHalt = .abandon → ∀ {before after}, FirstHalt seen before after →
    dispatched after = []
  halted : result = .ok () → ∃ before after, FirstHalt seen before after
  reported : l.policy.onFailure = .reportAndContinue → result = .ok ()
  unfailed : l.policy.onFailure = .propagate → result = .ok () → ∀ e f, .failed e f ∉ seen
  propagated : ∀ f, result = .error f → l.policy.onFailure = .propagate ∧
    ∃ before e done, seen = before ++ [.failed e f] ∧ (∀ e' f', .failed e' f' ∉ before) ∧
      dispatched seen = done ++ [e] ∧ FaultOf e f

/-! ## The place of the marker -/

theorem FirstHalt.see {log before after : List (Notice π)} (h : FirstHalt log before after)
    (es : List (Notice π)) : FirstHalt (log ++ es) before (after ++ es) where
  split := by rw [h.split, List.append_assoc, List.cons_append]
  first := h.first

theorem FirstHalt.mem {log before after : List (Notice π)} (h : FirstHalt log before after) :
    .halted true ∈ log := by
  rw [h.split]
  exact List.mem_append_right _ List.mem_cons_self

theorem FirstHalt.unique {log before after before' after' : List (Notice π)}
    (h : FirstHalt log before after) (h' : FirstHalt log before' after') :
    before = before' ∧ after = after' := by
  have same : before ++ .halted true :: after = before' ++ .halted true :: after' :=
    h.split.symm.trans h'.split
  rcases List.append_eq_append_iff.mp same with ⟨mid, hb, ha⟩ | ⟨mid, hb, ha⟩
  · cases mid with
    | nil =>
        simp only [List.append_nil, List.nil_append, List.cons.injEq, true_and] at hb ha
        exact ⟨hb.symm, ha⟩
    | cons x mid =>
        obtain ⟨rfl, -⟩ := List.cons.inj ha
        exact absurd (hb ▸ List.mem_append_right _ List.mem_cons_self) h'.first
  · cases mid with
    | nil =>
        simp only [List.append_nil, List.nil_append, List.cons.injEq, true_and] at hb ha
        exact ⟨hb, ha.symm⟩
    | cons x mid =>
        obtain ⟨rfl, -⟩ := List.cons.inj ha
        exact absurd (hb ▸ List.mem_append_right _ List.mem_cons_self) h.first

/-- The run was asked to stop: its marker parts the queue into what was there before the first
accepted halt and what was sent after it. -/
def Parted (l : EventLoop π) (run : Nat) (queue : List (Message π)) (log : List (Notice π)) :
    Prop :=
  ∃ before after ahead behind, FirstHalt log before after ∧
    queue = ahead ++ .halt run :: behind ∧ run ∉ markers ahead ∧
    EventLoop.events behind = sent after ∧
    (l.policy.onHalt = .abandon → dispatched after = [])

variable {l : EventLoop π} {run : Nat} {queue : List (Message π)} {s : Station π}
  {log es : List (Notice π)}

theorem parted_halt (absent : run ∉ markers queue) (first : .halted true ∉ log) :
    Parted l run (queue ++ [.halt run]) (log ++ [.halted true]) :=
  ⟨log, [], queue, [], ⟨rfl, first⟩, rfl, absent, rfl, fun _ => rfl⟩

theorem Parted.see (h : Parted l run queue log) (unsent : sent es = [])
    (still : l.policy.onHalt = .abandon → dispatched es = []) :
    Parted l run queue (log ++ es) := by
  obtain ⟨before, after, ahead, behind, first, place, absent, later, stopped⟩ := h
  refine ⟨before, after ++ es, ahead, behind, first.see es, place, absent, ?_, ?_⟩
  · rw [sent_append, unsent, List.append_nil, later]
  · intro abandon
    rw [dispatched_append, stopped abandon, still abandon, List.append_nil]

theorem Parted.enqueue (h : Parted l run queue log) (p : Nat) (e : Event π) :
    Parted l run (queue ++ [.event e]) (log ++ [.enqueueing p e, .accepted p e]) := by
  obtain ⟨before, after, ahead, behind, first, place, absent, later, stopped⟩ := h
  refine ⟨before, _, ahead, behind ++ [.event e], first.see _, ?_, absent, ?_, ?_⟩
  · rw [place, List.append_assoc, List.cons_append]
  · rw [EventLoop.events_append, later, sent_append]
    rfl
  · intro abandon
    rw [dispatched_append, stopped abandon]
    rfl

theorem Parted.behead {m : Message π} (h : Parted l run (m :: queue) log) (other : m ≠ .halt run) :
    Parted l run queue log := by
  obtain ⟨before, after, ahead, behind, first, place, absent, later, stopped⟩ := h
  cases ahead with
  | nil => exact absurd (List.cons.inj place).1 other
  | cons x ahead =>
      obtain ⟨rfl, rest⟩ := List.cons.inj place
      refine ⟨before, after, ahead, behind, first, rest, ?_, later, stopped⟩
      intro own
      rw [mem_markers] at own absent
      exact absent (List.mem_cons_of_mem _ own)

/-- While the flag is down no halt was accepted; once it is up the queue is parted. -/
structure Placed (l : EventLoop π) (s : Station π) (log : List (Notice π)) : Prop where
  calm : s.loop.haltRequested = false → .halted true ∉ log
  parted : s.loop.haltRequested = true → Parted l s.loop.epoch s.loop.queue log

theorem Placed.go {t : Station π} (h : Placed l s log)
    (flag : t.loop.haltRequested = s.loop.haltRequested) (epoch : t.loop.epoch = s.loop.epoch)
    (queue : t.loop.queue = s.loop.queue) (unsent : sent es = []) (still : dispatched es = [])
    (calm : s.loop.haltRequested = false → .halted true ∉ es) : Placed l t (log ++ es) where
  calm := by
    intro down found
    rw [flag] at down
    exact (List.mem_append.mp found).elim (h.calm down) (calm down)
  parted := by
    intro up
    rw [epoch, queue]
    exact (h.parted (flag ▸ up)).see unsent fun _ => still

theorem Placed.behead {t : Station π} {m : Message π} (h : Placed l s log)
    (flag : t.loop.haltRequested = s.loop.haltRequested) (epoch : t.loop.epoch = s.loop.epoch)
    (head : s.loop.queue = m :: t.loop.queue) (other : m ≠ .halt s.loop.epoch)
    (unsent : sent es = []) (calm : .halted true ∉ es)
    (go : l.policy.onHalt = .abandon → s.loop.haltRequested = true → dispatched es = []) :
    Placed l t (log ++ es) where
  calm := by
    intro down found
    rw [flag] at down
    exact (List.mem_append.mp found).elim (h.calm down) calm
  parted := by
    intro up
    rw [flag] at up
    rw [epoch]
    exact ((head ▸ h.parted up).behead other).see unsent fun abandon => go abandon up

theorem placed_operated {p : Station π × List (Notice π)} (dated : Dated s)
    (policy : s.loop.policy = l.policy) (h : Placed l s log) (running : s.loop.running = true)
    (ho : Operated s p) (goes : ∀ r, .ended r ∉ p.2) : Placed l p.1 (log ++ p.2) := by
  cases ho with
  | rejected _ _ gone | haltedLost _ _ gone => exact absurd (dated.there.symm.trans gone) nofun
  | haltedNothing idle | started idle => exact absurd (running.symm.trans idle) nofun
  | abandoned | met | propagated => exact absurd (List.mem_of_mem_getLast? rfl) (goes _)
  | enqueued p e =>
      refine ⟨?_, fun up => (h.parted up).enqueue p e⟩
      intro down found
      exact (List.mem_append.mp found).elim (h.calm down) (by simp)
  | halted _ first =>
      have absent : s.loop.epoch ∉ markers s.loop.queue := by
        rw [← dated.own running, first]
        exact Bool.false_ne_true
      exact ⟨nofun, fun _ => parted_halt absent (h.calm first)⟩
  | haltedAgain _ again =>
      refine h.go rfl rfl rfl rfl rfl ?_
      intro down
      exact absurd (again.symm.trans down) nofun
  | registered | registeredTwice | refused | begun | waiting | called | succeeded | reported =>
      exact h.go rfl rfl rfl rfl rfl nofun
  | skipped _ head other =>
      exact h.behead rfl rfl head (fun same => other (Message.halt.inj same)) rfl nofun
        fun _ _ => rfl
  | taken _ go head =>
      refine h.behead rfl rfl head nofun rfl nofun ?_
      intro abandon up
      exact absurd ⟨policy ▸ abandon, up⟩ go

/-! ## What else an operation keeps -/

theorem policy_operated {p : Station π × List (Notice π)} (ho : Operated s p) :
    p.1.loop.policy = s.loop.policy := by
  cases ho <;> rfl

theorem conserved_operated {p : Station π × List (Notice π)} (ho : Operated s p) :
    dispatched p.2 ++ EventLoop.events p.1.loop.queue =
      EventLoop.events s.loop.queue ++ sent p.2 := by
  cases ho with
  | enqueued => simp [dispatched, sent, accepted]
  | halted => simp [dispatched, sent, accepted]
  | met _ head | skipped _ head | taken _ _ head =>
      simp [dispatched, sent, accepted, head, after, leave, EventLoop.finish]
  | rejected | haltedNothing | haltedLost | haltedAgain | registered | registeredTwice | refused
  | started | begun | abandoned | waiting | called | succeeded | reported | propagated =>
      simp [dispatched, sent, accepted, leave, EventLoop.finish, EventLoop.begin]

/-- The event whose dispatch is under way is the latest one. -/
def Handed (s : Station π) (log : List (Notice π)) : Prop :=
  ∀ e, s.post.dispatching? = some e → ∃ done, dispatched log = done ++ [e]

theorem Handed.go {t : Station π} (h : Handed s log) (still : dispatched es = [])
    (post : ∀ e, t.post.dispatching? = some e → s.post.dispatching? = some e) :
    Handed t (log ++ es) := by
  intro e at'
  obtain ⟨done, last⟩ := h e (post e at')
  exact ⟨done, by rw [dispatched_append, still, List.append_nil, last]⟩

theorem handed_operated {p : Station π × List (Notice π)} (h : Handed s log)
    (ho : Operated s p) : Handed p.1 (log ++ p.2) := by
  cases ho with
  | @taken n e =>
      intro e' at'
      rw [dispatched_append, ← Option.some.inj at']
      exact ⟨dispatched log, rfl⟩
  | called post =>
      refine h.go rfl ?_
      rw [post]
      exact fun _ => id
  | enqueued | rejected | haltedNothing | halted | haltedLost | haltedAgain | registered
  | registeredTwice | refused | waiting | skipped => exact h.go rfl fun _ => id
  | started | begun | abandoned | met | succeeded | reported | propagated => exact h.go rfl nofun

/-! ## A run on its course -/

/-- A run that began with the loop `l` and is not over. -/
structure Course (l : EventLoop π) (s : Station π) (log : List (Notice π)) : Prop where
  dated : Dated s
  policy : s.loop.policy = l.policy
  running : s.loop.running = true
  conserved : dispatched log ++ EventLoop.events s.loop.queue = EventLoop.events l.queue ++ sent log
  placed : Placed l s log
  handed : Handed s log
  unfailed : l.policy.onFailure = .propagate → ∀ e f, .failed e f ∉ log

theorem Course.conserve {p : Station π × List (Notice π)} (h : Course l s log)
    (ho : Operated s p) :
    dispatched (log ++ p.2) ++ EventLoop.events p.1.loop.queue =
      EventLoop.events l.queue ++ sent (log ++ p.2) := by
  rw [dispatched_append, List.append_assoc, conserved_operated ho, ← List.append_assoc,
    h.conserved, List.append_assoc, sent_append]

theorem course_operated {p : Station π × List (Notice π)} (h : Course l s log)
    (ho : Operated s p) (goes : ∀ r, .ended r ∉ p.2) : Course l p.1 (log ++ p.2) where
  dated := dated_operated h.dated ho
  policy := (policy_operated ho).trans h.policy
  running := by
    cases ho with
    | abandoned | met | propagated => exact absurd (List.mem_of_mem_getLast? rfl) (goes _)
    | started => rfl
    | _ => exact h.running
  conserved := h.conserve ho
  placed := placed_operated h.dated h.policy h.placed h.running ho goes
  handed := handed_operated h.handed ho
  unfailed := by
    intro propagate e f found
    rcases List.mem_append.mp found with old | new
    · exact h.unfailed propagate e f old
    · cases ho with
      | reported fails policy =>
          rw [← h.policy, policy] at propagate
          cases propagate
      | propagated => exact goes _ (List.mem_of_mem_getLast? rfl)
      | _ => simp [leave] at new

theorem course_started (stale : ∀ n, .halt n ∈ l.queue → n ≤ l.epoch) :
    Course l
      { loop := { l with
          receiver := .away, running := true, haltRequested := false, epoch := l.epoch + 1 }
        post := .numbered (l.epoch + 1) } [] where
  dated := dated_started (s := { loop := l }) fun n hn => stale n ((mem_markers _ _).mp hn)
  policy := rfl
  running := rfl
  conserved := (List.append_nil _).symm
  placed := ⟨fun _ => nofun, nofun⟩
  handed := nofun
  unfailed := fun _ _ _ => nofun

/-! ## The end of a run -/

/-- What stands ahead of the marker is what is left of the events before the first halt. -/
theorem Course.ahead {before after : List (Notice π)} {ahead behind : List (Message π)}
    (h : Course l s log) (first : FirstHalt log before after)
    (place : s.loop.queue = ahead ++ .halt run :: behind)
    (later : EventLoop.events behind = sent after) :
    dispatched log ++ EventLoop.events ahead = EventLoop.events l.queue ++ sent before := by
  have parts : sent log = sent before ++ sent after := by
    rw [first.split, sent_append]
    rfl
  have law : (dispatched log ++ EventLoop.events ahead) ++ sent after =
      (EventLoop.events l.queue ++ sent before) ++ sent after := by
    rw [List.append_assoc, List.append_assoc, ← parts, ← h.conserved, place,
      EventLoop.events_append, ← later]
    rfl
  exact List.append_cancel_right law

theorem ended_inj {seen : List (Notice π)} {r result : Except Fault Unit}
    (h : seen ++ [.ended r] = es ++ [.ended result]) : es = seen ∧ result = r := by
  obtain ⟨same, last⟩ := List.append_inj' h rfl
  exact ⟨same.symm, by simpa using last.symm⟩

theorem ended_operated {p : Station π × List (Notice π)} {result : Except Fault Unit}
    (ho : Operated s p) (last : p.2 = es ++ [.ended result]) :
    (s.loop.policy.onHalt = .abandon ∧ s.loop.haltRequested = true ∧ es = [] ∧
      result = .ok ()) ∨
    (s.loop.queue = .halt s.loop.epoch :: p.1.loop.queue ∧ es = [] ∧ result = .ok ()) ∨
    (∃ n e f, Fails s n e f ∧ s.loop.policy.onFailure = .propagate ∧ es = [.failed e f] ∧
      result = .error f) := by
  have found : .ended result ∈ p.2 := by
    rw [last]
    exact List.mem_append_right _ List.mem_cons_self
  cases ho with
  | abandoned _ policy asked =>
      have split : [] ++ [.ended (.ok ())] = es ++ [.ended result] := last
      obtain ⟨rfl, rfl⟩ := ended_inj split
      exact .inl ⟨policy, asked, rfl, rfl⟩
  | met _ head =>
      have split : [] ++ [.ended (.ok ())] = es ++ [.ended result] := last
      obtain ⟨rfl, rfl⟩ := ended_inj split
      exact .inr (.inl ⟨head, rfl, rfl⟩)
  | @propagated n e f fails policy =>
      have split : [.failed e f] ++ [.ended (.error f)] = es ++ [.ended result] := last
      obtain ⟨rfl, rfl⟩ := ended_inj split
      exact .inr (.inr ⟨n, e, f, fails, policy, rfl, rfl⟩)
  | _ => simp at found

theorem Course.stop {left : List (Event π)} (h : Course l s log)
    (asked : s.loop.haltRequested = true)
    (conserved : dispatched log ++ left = EventLoop.events l.queue ++ sent log)
    (drained : l.policy.onHalt = .drain → ∀ {before after}, FirstHalt log before after →
      dispatched log = EventLoop.events l.queue ++ sent before ∧ left = sent after) :
    Completed l log (.ok ()) left := by
  obtain ⟨before, after, -, -, first, -, -, -, still⟩ := h.placed.parted asked
  exact {
    conserved
    drained := by
      intro drain b a hb
      obtain ⟨all, rest⟩ := drained drain hb
      exact ⟨all ▸ List.prefix_rfl, fun _ => ⟨all, rest⟩⟩
    abandoned := by
      intro abandon b a hb
      obtain ⟨-, rfl⟩ := first.unique hb
      exact still abandon
    halted := fun _ => ⟨before, after, first⟩
    reported := fun _ => rfl
    unfailed := fun propagate _ => h.unfailed propagate
    propagated := nofun }

theorem Fails.faultOf {n : Nat} {e : Event π} {f : Fault} (h : Fails s n e f) : FaultOf e f := by
  cases h with
  | unknown => exact .inl rfl
  | handler v _ fault => exact .inr ⟨v, fault⟩

theorem Fails.dispatching {n : Nat} {e : Event π} {f : Fault} (h : Fails s n e f) :
    s.post.dispatching? = some e := by
  cases h with
  | unknown post => exact congrArg Post.dispatching? post
  | handler v post => exact congrArg Post.dispatching? post

theorem Course.fail {n : Nat} {e : Event π} {f : Fault} {left : List (Event π)}
    (h : Course l s log) (fails : Fails s n e f) (propagate : l.policy.onFailure = .propagate)
    (conserved : dispatched (log ++ [.failed e f]) ++ left =
      EventLoop.events l.queue ++ sent (log ++ [.failed e f])) :
    Completed l (log ++ [.failed e f]) (.error f) left := by
  have same : dispatched (log ++ [.failed e f]) = dispatched log := by simp [dispatched]
  have parted : ∀ {b a}, FirstHalt (log ++ [.failed e f]) b a →
      ∃ after ahead behind, FirstHalt log b after ∧ a = after ++ [.failed e f] ∧
        s.loop.queue = ahead ++ .halt s.loop.epoch :: behind ∧
        EventLoop.events behind = sent after ∧
        (l.policy.onHalt = .abandon → dispatched after = []) := by
    intro b a hb
    have heard : .halted true ∈ log := by
      have found := hb.mem
      simpa using found
    have asked : s.loop.haltRequested = true := by
      cases flag : s.loop.haltRequested with
      | false => exact absurd heard (h.placed.calm flag)
      | true => rfl
    obtain ⟨before, after, ahead, behind, first, place, -, later, still⟩ := h.placed.parted asked
    obtain ⟨rfl, rfl⟩ := (first.see [.failed e f]).unique hb
    exact ⟨after, ahead, behind, first, rfl, place, later, still⟩
  exact {
    conserved
    drained := by
      intro _ b a hb
      obtain ⟨after, ahead, behind, first, -, place, later, -⟩ := parted hb
      refine ⟨?_, ?_⟩
      · rw [same, ← h.ahead first place later]
        exact List.prefix_append _ _
      · rintro ⟨⟩
    abandoned := by
      intro abandon b a hb
      obtain ⟨after, ahead, behind, first, rfl, place, later, still⟩ := parted hb
      rw [dispatched_append, still abandon]
      rfl
    halted := by
      rintro ⟨⟩
    reported := by
      intro report
      rw [report] at propagate
      cases propagate
    unfailed := by
      rintro _ ⟨⟩
    propagated := by
      rintro _ ⟨⟩
      obtain ⟨done, lastOne⟩ := h.handed e fails.dispatching
      exact ⟨propagate, log, e, done, rfl, h.unfailed propagate, same.trans lastOne,
        fails.faultOf⟩ }

theorem completed_operated {p : Station π × List (Notice π)} {result : Except Fault Unit}
    (h : Course l s log) (ho : Operated s p) (last : p.2 = es ++ [.ended result]) :
    Completed l (log ++ es) result (EventLoop.events p.1.loop.queue) := by
  have conserved : dispatched (log ++ es) ++ EventLoop.events p.1.loop.queue =
      EventLoop.events l.queue ++ sent (log ++ es) := by
    have law := h.conserve ho
    rw [last, ← List.append_assoc, dispatched_append _ [.ended result],
      sent_append _ [.ended result]] at law
    simpa [dispatched, sent, accepted] using law
  rcases ended_operated ho last with
    ⟨abandon, asked, rfl, rfl⟩ | ⟨head, rfl, rfl⟩ | ⟨n, e, f, fails, propagate, rfl, rfl⟩
  · rw [List.append_nil] at conserved ⊢
    refine h.stop asked conserved ?_
    intro drain
    rw [← h.policy, abandon] at drain
    cases drain
  · have asked : s.loop.haltRequested = true := by
      rw [h.dated.own h.running, head]
      exact List.mem_cons_self
    rw [List.append_nil] at conserved ⊢
    refine h.stop asked conserved ?_
    intro _ b a hb
    obtain ⟨before, after, ahead, behind, first, place, absent, later, -⟩ :=
      h.placed.parted asked
    obtain ⟨rfl, rfl⟩ := first.unique hb
    -- The marker that the turn met is the one that parts the queue.
    cases ahead with
    | nil =>
        have rest : p.1.loop.queue = behind := (List.cons.inj (head.symm.trans place)).2
        have all := h.ahead first place later
        rw [EventLoop.events_nil, List.append_nil] at all
        exact ⟨all, by rw [rest, later]⟩
    | cons x ahead =>
        obtain ⟨rfl, -⟩ := List.cons.inj (head.symm.trans place)
        exact absurd List.mem_cons_self absent
  · exact h.fail fails (h.policy ▸ propagate) conserved

/-- **What one run dispatches.** A run begins with any queue whose markers are of earlier runs; what
its handlers do, and the other threads meanwhile, is any list of operations, up to the one that ends
the run. Then the events that the run dispatched are from the front of what was queued and what was
accepted during it: under the drain policy all that came before the first accepted halt, under the
abandon policy none after that halt, in both cases up to a failure that is to be propagated, which
is then the result. -/
theorem run_dispatches {l : EventLoop π} {os : List (Operation π)} {o : Operation π}
    {s t : Station π} {log es : List (Notice π)} {result : Except Fault Unit}
    (idle : l.running = false) (home : l.receiver = .home)
    (stale : ∀ n, .halt n ∈ l.queue → n ≤ l.epoch)
    (h : ({ loop := l } : Station π).operations (.run :: os) =
      some (s, .started (l.epoch + 1) :: log))
    (goes : ∀ r, .ended r ∉ log) (last : s.operate o = some (t, es ++ [.ended result])) :
    Completed l (log ++ es) result (EventLoop.events t.loop.queue) := by
  obtain ⟨u, seen, rest, hstart, hrun, split⟩ := runWith_cons h
  have began := Option.some.inj hstart
  rw [start_idle idle home] at began
  obtain ⟨rfl, rfl⟩ := Prod.mk.inj began
  obtain ⟨-, rfl⟩ := List.cons.inj split
  have course : (∀ r, .ended r ∉ [] ++ log) → Course l s ([] ++ log) := by
    refine operations_invariant (P := fun s log => (∀ r, .ended r ∉ log) → Course l s log)
      ?_ hrun ?_
    · intro v before p ih ho still
      refine course_operated (ih ?_) ho ?_
      · exact fun r found => still r (List.mem_append_left _ found)
      · exact fun r found => still r (List.mem_append_right _ found)
    · exact fun _ => course_started stale
  exact completed_operated (course goes) (operated_of_operate last) rfl

/-- A queue with a marker of an earlier run ahead of two events. -/
def crowdedLoop : EventLoop Nat where
  policy := {}
  queue := [.halt 1, .event { name := "a" }, .event { name := "b" }]
  pending := 2
  epoch := 1
  handlers := ["a"]

/-- The handler of the first event enqueues another one, asks twice to stop, enqueues a last one and
fails; the other two events have no handlers. -/
def crowdedOperations : List (Operation Nat) :=
  [.run, .begin Thread.main, .turn, .turn, .call, .enqueue 1 { name := "c" }, .halt, .halt,
    .enqueue 1 { name := "d" }, .settle (.failed "no"), .turn, .call, .turn, .call]

/-- What is seen of that run before its last turn. -/
def crowdedSights : List (Notice Nat) :=
  [.dispatched { name := "a" }, .enqueueing 1 { name := "c" }, .accepted 1 { name := "c" },
    .halted true, .halted true, .enqueueing 1 { name := "d" }, .accepted 1 { name := "d" },
    .failed { name := "a" } (.handlerFailed "a" "no"), .dispatched { name := "b" },
    .failed { name := "b" } (.unknownEvent "b"), .dispatched { name := "c" },
    .failed { name := "c" } (.unknownEvent "c")]

/-- The station before the last turn, at which the marker of the run is next. -/
def crowdedStation : Station Nat where
  loop := { crowdedLoop with
    queue := [.halt 2, .event { name := "d" }]
    pending := 1
    receiver := .away
    running := true
    haltRequested := true
    epoch := 2
    consumer := some Thread.main.serial }
  post := .ready 2

theorem run_dispatches_crowded : ∃ t,
    ({ loop := crowdedLoop } : Station Nat).operations crowdedOperations =
      some (crowdedStation, .started 2 :: crowdedSights) ∧
    crowdedStation.operate .turn = some (t, [.ended (.ok ())]) ∧
    dispatched crowdedSights = [{ name := "a" }, { name := "b" }, { name := "c" }] ∧
    EventLoop.events t.loop.queue = [{ name := "d" }] := by
  have h : ({ loop := crowdedLoop } : Station Nat).operations crowdedOperations =
      some (crowdedStation, .started 2 :: crowdedSights) := rfl
  have stale : ∀ n, .halt n ∈ crowdedLoop.queue → n ≤ crowdedLoop.epoch := by
    intro n hn
    have own : n = 1 := by simpa [crowdedLoop] using hn
    exact Nat.le_of_eq own
  have goes : ∀ r, .ended r ∉ crowdedSights := by simp [crowdedSights]
  have last : crowdedStation.operate .turn = some (_, [] ++ [.ended (.ok ())]) := rfl
  have done := run_dispatches rfl rfl stale h goes last
  have first : FirstHalt (crowdedSights ++ []) (crowdedSights.take 3) (crowdedSights.drop 4) :=
    ⟨rfl, by simp [crowdedSights]⟩
  obtain ⟨-, exactly⟩ := done.drained rfl first
  obtain ⟨all, rest⟩ := exactly rfl
  exact ⟨_, h, last, all, rest⟩

end Station

end CallBridge
