import CallBridge.Proofs.Loop.Station

/-!
# No event is lost, repeated or overtaken

What is on its way through a loop is the event in the consumer's hand and the events that are
queued. An accepted enqueue puts its event at the end, a dispatch takes the one at the front, and
nothing else touches the order: neither stop markers, nor the end of a run, nor the beginning of the
next. So over any number of runs, what was dispatched followed by what is on its way is what was
accepted.
-/

namespace CallBridge

namespace Station

variable {π : Type}

/-! ## What a log says of events -/

def dispatched (log : List (Notice π)) : List (Event π) :=
  log.filterMap fun
    | .dispatched e => some e
    | _ => none

/-- The events whose enqueue was accepted, with the threads that sent them, in the order in which
the sends took effect. -/
def accepted (log : List (Notice π)) : List (Nat × Event π) :=
  log.filterMap fun
    | .accepted p e => some (p, e)
    | _ => none

def begun (p : Nat) (log : List (Notice π)) : List (Event π) :=
  log.filterMap fun
    | .enqueueing q e => if q = p then some e else none
    | _ => none

def sentBy (p : Nat) (xs : List (Nat × Event π)) : List (Event π) :=
  (xs.filter fun x => x.1 = p).map Prod.snd

def inProgress : Option (Errand π) → List (Event π)
  | some (.counted e) => [e]
  | _ => []

/-- What was accepted and is yet to be dispatched. -/
def underway (s : Station π) : List (Event π) := s.post.inHand ++ EventLoop.events s.loop.queue

section

variable (log log' : List (Notice π))

@[simp] theorem dispatched_append :
    dispatched (log ++ log') = dispatched log ++ dispatched log' := List.filterMap_append

@[simp] theorem accepted_append : accepted (log ++ log') = accepted log ++ accepted log' :=
  List.filterMap_append

@[simp] theorem begun_append (p : Nat) :
    begun p (log ++ log') = begun p log ++ begun p log' := List.filterMap_append

@[simp] theorem sentBy_append (p : Nat) (xs ys : List (Nat × Event π)) :
    sentBy p (xs ++ ys) = sentBy p xs ++ sentBy p ys := by
  rw [sentBy, List.filter_append, List.map_append]
  rfl

end

variable {s : Station π} {log : List (Notice π)}

/-! ## The order of events -/

/-- One access: an accepted event goes to the end, a dispatched one leaves at the front. -/
theorem conserved_accessed {p : Station π × List (Notice π)} (manned : s.Manned)
    (h : Accessed s p) :
    dispatched p.2 ++ p.1.underway = s.underway ++ (accepted p.2).map Prod.snd := by
  cases h with
  | sent => simp [dispatched, accepted, underway]
  | marked => simp [dispatched, accepted, underway]
  | took idle =>
      -- A consumer that still had an event in its hand would count as running.
      have vacant : s.post = .vacant := manned idle
      simp [dispatched, accepted, underway, vacant, Post.inHand]
  | met post head | skipped post head other | received post head =>
      simp [dispatched, accepted, underway, post, head, Post.inHand]
  | @dispatched n e post =>
      obtain ⟨loop, -, hand, es⟩ := s.dispatch_quiet n e
      rw [underway, underway, loop, hand, post]
      rcases es with es | es <;> simp [es, dispatched, accepted, Post.inHand]
  | @settled n e v post =>
      obtain ⟨loop, -, hand, es⟩ := s.settle_quiet n e v
      rw [underway, underway, loop, hand, post]
      rcases es with es | ⟨f, es⟩ <;> simp [es, dispatched, accepted, Post.inHand]
  | lowered post | numbered post | begun thread post | lookedUp post | looked post
  | countedDown post | signedOff post | handedBack post | cleared post | rested post =>
      simp [dispatched, accepted, underway, post, Post.inHand, EventLoop.clearHalt,
        EventLoop.nextEpoch, EventLoop.begin, EventLoop.countDown]
  | announced | bounced | withdrawn | sawNoRun | sawRun | raised | raisedAgain | markedNothing
  | registered | registeredTwice | refused =>
      simp [dispatched, accepted, underway, EventLoop.announce, EventLoop.withdraw]

theorem conserved_run {as : List (Access π)} {t : Station π} (manned : s.Manned)
    (h : s.run as = some (t, log)) :
    dispatched log ++ t.underway = s.underway ++ (accepted log).map Prod.snd := by
  have inv : t.Manned ∧
      dispatched ([] ++ log) ++ t.underway =
        s.underway ++ (accepted ([] ++ log)).map Prod.snd := by
    refine run_invariant
      (P := fun t log => t.Manned ∧
        dispatched log ++ t.underway = s.underway ++ (accepted log).map Prod.snd) ?_ h ?_
    · rintro u before p ⟨manned, conserved⟩ ha
      refine ⟨manned_accessed manned ha, ?_⟩
      rw [dispatched_append, accepted_append, List.append_assoc,
        conserved_accessed manned ha, ← List.append_assoc, conserved, List.append_assoc,
        ← List.map_append]
    · refine ⟨manned, ?_⟩
      simp [dispatched, accepted]
  simpa using inv.2

/-! ## The order of each thread -/

/-- A notice that no enqueue has a part in. -/
def Notice.isAside : Notice π → Bool
  | .enqueueing .. | .accepted .. | .rejected .. => false
  | _ => true

theorem begun_of_aside {es : List (Notice π)} (aside : ∀ x ∈ es, x.isAside = true) (p : Nat) :
    begun p es = [] := by
  rw [begun, List.filterMap_eq_nil_iff]
  intro x hx
  have other := aside x hx
  cases x <;> first | rfl | cases other

theorem accepted_of_aside {es : List (Notice π)} (aside : ∀ x ∈ es, x.isAside = true) :
    accepted es = [] := by
  rw [accepted, List.filterMap_eq_nil_iff]
  intro x hx
  have other := aside x hx
  cases x <;> first | rfl | cases other

/-- The queue is there, so no enqueue is rejected; and what a thread began to enqueue is what was
accepted from it and then what it is about to send. -/
structure Ordered (s : Station π) (log : List (Notice π)) : Prop where
  there : s.loop.isOpen = true
  noBounce : ∀ p e, s.errands.find? p ≠ some (.bounced e)
  noReject : ∀ p e, .rejected p e ∉ log
  order : ∀ p, begun p log = sentBy p (accepted log) ++ inProgress (s.errands.find? p)

theorem ordered_fresh (policy : LoopPolicy) : Ordered (fresh policy : Station π) [] where
  there := rfl
  noBounce := by simp [fresh]
  noReject := by simp
  order := by simp [fresh, begun, accepted, sentBy, inProgress]

theorem Ordered.aside {t : Station π} {es : List (Notice π)} (h : Ordered s log)
    (there : t.loop.isOpen = true) (noBounce : ∀ p e, t.errands.find? p ≠ some (.bounced e))
    (same : ∀ p, inProgress (t.errands.find? p) = inProgress (s.errands.find? p))
    (aside : ∀ x ∈ es, x.isAside = true) : Ordered t (log ++ es) where
  there := there
  noBounce := noBounce
  noReject := by
    intro p e found
    rcases List.mem_append.mp found with found | found
    · exact h.noReject p e found
    · exact nomatch aside _ found
  order := by
    intro p
    rw [begun_append, accepted_append, begun_of_aside aside, accepted_of_aside aside,
      List.append_nil, List.append_nil, same]
    exact h.order p

theorem Ordered.quiet {t : Station π} {es : List (Notice π)} (h : Ordered s log)
    (there : t.loop.isOpen = true) (errands : t.errands = s.errands)
    (aside : ∀ x ∈ es, x.isAside = true) : Ordered t (log ++ es) :=
  h.aside there (errands ▸ h.noBounce) (fun p => by rw [errands]) aside

theorem Ordered.insert {loop : EventLoop π} {p : Nat} {x : Errand π} {es : List (Notice π)}
    (h : Ordered s log) (there : loop.isOpen = true)
    (idle : inProgress (s.errands.find? p) = []) (other : inProgress (some x) = [])
    (noBounce : ∀ e, x ≠ .bounced e) (aside : ∀ x ∈ es, x.isAside = true) :
    Ordered { s with loop, errands := s.errands.insert p x } (log ++ es) := by
  refine h.aside there ?_ ?_ aside
  · intro q e
    by_cases hq : q = p
    · rw [hq, Table.find?_insert_self]
      intro same
      exact noBounce e (Option.some.inj same)
    · rw [Table.find?_insert_of_ne _ _ hq]
      exact h.noBounce q e
  · intro q
    by_cases hq : q = p
    · rw [hq, Table.find?_insert_self, idle, other]
    · rw [Table.find?_insert_of_ne _ _ hq]

theorem noBounce_erase (h : Ordered s log) (p : Nat) :
    ∀ q e, (s.errands.erase p).find? q ≠ some (.bounced e) := by
  intro q e
  by_cases hq : q = p
  · rw [hq, Table.find?_erase_self]
    exact nofun
  · rw [Table.find?_erase_of_ne _ hq]
    exact h.noBounce q e

theorem Ordered.erase {loop : EventLoop π} {p : Nat} {es : List (Notice π)} (h : Ordered s log)
    (there : loop.isOpen = true) (idle : inProgress (s.errands.find? p) = [])
    (aside : ∀ x ∈ es, x.isAside = true) :
    Ordered { s with loop, errands := s.errands.erase p } (log ++ es) := by
  refine h.aside there (noBounce_erase h p) ?_ aside
  intro q
  by_cases hq : q = p
  · rw [hq, Table.find?_erase_self, idle]
    rfl
  · rw [Table.find?_erase_of_ne _ hq]

theorem Ordered.announce {p : Nat} (h : Ordered s log) (free : s.errands.find? p = none)
    (e : Event π) :
    Ordered { s with loop := s.loop.announce, errands := s.errands.insert p (.counted e) }
      (log ++ [.enqueueing p e]) where
  there := h.there
  noBounce := by
    intro q e'
    by_cases hq : q = p
    · rw [hq, Table.find?_insert_self]
      exact nofun
    · rw [Table.find?_insert_of_ne _ _ hq]
      exact h.noBounce q e'
  noReject := by
    intro q e' found
    rcases List.mem_append.mp found with found | found
    · exact h.noReject q e' found
    · simp at found
  order := by
    intro q
    rw [begun_append, accepted_append, h.order q]
    by_cases hq : q = p
    · rw [hq, free, Table.find?_insert_self]
      simp [begun, accepted, inProgress]
    · rw [Table.find?_insert_of_ne _ _ hq]
      simp [begun, accepted, Ne.symm hq]

theorem Ordered.send {loop : EventLoop π} {p : Nat} {e : Event π} (h : Ordered s log)
    (there : loop.isOpen = true) (counted : s.errands.find? p = some (.counted e)) :
    Ordered { s with loop, errands := s.errands.erase p } (log ++ [.accepted p e]) where
  there := there
  noBounce := noBounce_erase h p
  noReject := by
    intro q e' found
    rcases List.mem_append.mp found with found | found
    · exact h.noReject q e' found
    · simp at found
  order := by
    intro q
    rw [begun_append, accepted_append, sentBy_append, h.order q]
    by_cases hq : q = p
    · rw [hq, counted, Table.find?_erase_self]
      simp [begun, accepted, sentBy, inProgress]
    · rw [Table.find?_erase_of_ne _ hq]
      simp [begun, accepted, sentBy, Ne.symm hq]

theorem ordered_accessed {p : Station π × List (Notice π)} (h : Ordered s log)
    (ha : Accessed s p) : Ordered p.1 (log ++ p.2) := by
  have there := h.there
  cases ha with
  | announced q e free => exact h.announce free e
  | sent counted => exact h.send there counted
  | bounced counted gone => simp [there] at gone
  | withdrawn bounced => exact absurd bounced (h.noBounce _ _)
  | sawRun q free =>
      exact h.insert there (by simp [free, inProgress]) rfl nofun (List.forall_mem_nil _)
  | raised saw =>
      exact h.insert there (by simp [saw, inProgress]) rfl nofun (List.forall_mem_nil _)
  | raisedAgain saw => exact h.erase there (by simp [saw, inProgress]) (by simp [Notice.isAside])
  | marked raised =>
      exact h.erase there (by simp [raised, inProgress]) (by simp [Notice.isAside])
  | markedNothing raised =>
      exact h.erase there (by simp [raised, inProgress]) (by simp [Notice.isAside])
  | @dispatched n e post =>
      obtain ⟨loop, errands, -, es⟩ := s.dispatch_quiet n e
      refine h.quiet (loop ▸ there) errands ?_
      rcases es with es | es <;> simp [es, Notice.isAside]
  | @settled n e v post =>
      obtain ⟨loop, errands, -, es⟩ := s.settle_quiet n e v
      refine h.quiet (loop ▸ there) errands ?_
      rcases es with es | ⟨f, es⟩ <;> simp [es, Notice.isAside]
  | took | handedBack => exact h.quiet rfl rfl (List.forall_mem_nil _)
  | lowered | begun | lookedUp | looked | met | skipped | received | countedDown | signedOff
  | cleared => exact h.quiet there rfl (List.forall_mem_nil _)
  | sawNoRun | registered | registeredTwice | refused | numbered | rested =>
      exact h.quiet there rfl (by simp [Notice.isAside])

/-- **No event is lost, repeated or overtaken.** However the accesses of the threads and of the
consumer interleave, over any number of runs and however these end: the dispatched events, then the
one in the consumer's hand, then the queued ones are the accepted events in the order of their
sends. So the accepted events fall into those that are gone and those that wait, and of each thread
they are all that it began to enqueue, in its own order, but for the one it is about to send. -/
theorem dispatched_in_order {policy : LoopPolicy} {as : List (Access π)}
    (h : (fresh policy).run as = some (s, log)) :
    dispatched log ++ (s.post.inHand ++ EventLoop.events s.loop.queue) =
      (accepted log).map Prod.snd ∧
    (∀ p e, .rejected p e ∉ log) ∧
    ∃ gone waiting, accepted log = gone ++ waiting ∧
      dispatched log = gone.map Prod.snd ∧
      s.post.inHand ++ EventLoop.events s.loop.queue = waiting.map Prod.snd ∧
      ∀ p, begun p log =
        sentBy p gone ++ sentBy p waiting ++ inProgress (s.errands.find? p) := by
  have conserved : dispatched log ++ s.underway = (accepted log).map Prod.snd := by
    have law := conserved_run (manned_fresh policy) h
    simpa [fresh, underway, Post.inHand] using law
  have ordered : Ordered s log :=
    run_invariant (P := Ordered) ordered_accessed h (ordered_fresh policy)
  refine ⟨conserved, ordered.noReject, ?_⟩
  obtain ⟨gone, waiting, split, hgone, hwaiting⟩ := List.map_eq_append_iff.mp conserved.symm
  refine ⟨gone, waiting, split, hgone.symm, hwaiting.symm, ?_⟩
  intro p
  rw [ordered.order p, split, sentBy_append]

/-- The accesses that start a run and take it to its first message. -/
private def startAccesses : List (Access Nat) :=
  [.takeReceiver, .consumer .lowerFlag, .consumer .takeNumber, .consumer (.begin Thread.main),
    .consumer .look, .consumer .receive]

/-- Two threads whose sends overtake each other, a run that a failure ends while a third thread
enqueues, and a second run that has an event in its hand. -/
def crossedAccesses : List (Access Nat) :=
  [.thread 1 (.announce { name := "a" }), .thread 2 (.announce { name := "b" }),
    .thread 2 .send, .thread 1 .send] ++
  startAccesses ++
  [.consumer .countDown, .consumer .dispatch, .thread 3 (.announce { name := "c" }),
    .consumer .signOff, .consumer .handBack, .consumer .clear, .consumer .rest,
    .thread 3 .send] ++
  startAccesses

theorem dispatched_in_order_crossed : ∃ s log,
    (fresh { onFailure := .propagate }).run crossedAccesses = some (s, log) ∧
    dispatched log = [{ name := "b" }] ∧ s.post.inHand = [{ name := "a" }] ∧
    EventLoop.events s.loop.queue = [{ name := "c" }] ∧
    (accepted log).map Prod.snd = [{ name := "b" }, { name := "a" }, { name := "c" }] := by
  have h : (fresh { onFailure := .propagate }).run crossedAccesses = some (_, _) := rfl
  obtain ⟨conserved, -⟩ := dispatched_in_order h
  exact ⟨_, _, h, rfl, rfl, rfl, conserved.symm⟩

end Station

end CallBridge
