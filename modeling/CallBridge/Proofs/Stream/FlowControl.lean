import CallBridge.Proofs.Stream.Session

/-!
# Flow control: reads, items and phases

A stream counts the items it accepts and the reads it asks for. The two counters and the phase are
moved by different operations, and each operation tests the phase and the end of the call on its
own; this module ties them together. In every state of every run

* each read that was counted was asked for, and each that was asked for was counted;
* no read is outstanding while the stream is idle or holds an item, one is while it reads, and at
  most one is left behind when it has ended;
* reads come from three places: at most one from the start, one from each hold that a take
  released, and one from each callback that consumed its item and found the hold still there.

The invariant is `Flows`; what preserves it is one lemma for each transition of a stream.
-/

namespace CallBridge

namespace Session

variable {α : Type}

/-! ## Counting reads in a log -/

namespace Event

def isAsk : Event α → Bool
  | asked _ _ => true
  | _ => false

def asksFor (why : Cause) : Event α → Bool
  | asked w _ => w = why
  | _ => false

end Event

def reads (log : List (Event α)) : Nat := log.countP Event.isAsk

/-- Reads asked for at one of the three places. -/
def readsFor (why : Cause) (log : List (Event α)) : Nat := log.countP (Event.asksFor why)

@[simp] theorem reads_append (log es : List (Event α)) :
    reads (log ++ es) = reads log + reads es := List.countP_append

@[simp] theorem readsFor_append (why : Cause) (log es : List (Event α)) :
    readsFor why (log ++ es) = readsFor why log + readsFor why es := List.countP_append

@[simp] theorem reads_asks (why : Cause) (lane : Option Nat) :
    reads (asks why lane : List (Event α)) = if lane.isSome then 1 else 0 := by
  cases lane <;> rfl

@[simp] theorem readsFor_asks (why w : Cause) (lane : Option Nat) :
    readsFor why (asks w lane : List (Event α)) = if lane.isSome ∧ w = why then 1 else 0 := by
  cases lane <;> simp [readsFor, asks, Event.asksFor, List.countP_cons]

/-- Every read comes from one of the three places. -/
theorem reads_eq_sum (log : List (Event α)) :
    reads log = readsFor .opened log + readsFor .resumed log + readsFor .continued log := by
  induction log with
  | nil => rfl
  | cons e log ih =>
      simp only [reads, readsFor, List.countP_cons] at ih ⊢
      cases e with
      | asked why lane => cases why <;> simp [Event.isAsk, Event.asksFor] <;> omega
      | _ => simpa [Event.isAsk, Event.asksFor] using ih

/-- Events among which no read is asked for. -/
def Silent (es : List (Event α)) : Prop := ∀ e ∈ es, e.isAsk = false

theorem Silent.reads_eq {es : List (Event α)} (h : Silent es) : reads es = 0 := by
  simpa [reads, Silent] using h

theorem Silent.readsFor_eq {es : List (Event α)} (h : Silent es) (why : Cause) :
    readsFor why es = 0 := by
  rw [readsFor, List.countP_eq_zero]
  intro e he
  have := h e he
  cases e <;> simp_all [Event.isAsk, Event.asksFor]

/-! ## The invariant -/

/-- Reads and items against the phase. -/
def Balanced (p : Phase) (items fetches : Nat) : Prop :=
  match p with
  | .idle | .held _ => fetches = items
  | .reading _ => fetches = items + 1
  | .ended => fetches = items ∨ fetches = items + 1

/-- What the counters of a stream say about the log so far. -/
structure Flows (s : Stream α) (log : List (Event α)) : Prop where
  counted : reads log = s.fetches
  resumed : readsFor .resumed log = s.resumes
  opened : readsFor .opened log ≤ if s.phase = .idle then 0 else 1
  balanced : Balanced s.phase s.items s.fetches

variable {s t : Stream α} {log : List (Event α)}

theorem flows_create (id : CallId) (timeout : Option Nat) :
    Flows (.create id timeout : Stream α) [] := by
  refine ⟨rfl, rfl, ?_, rfl⟩
  simp [Stream.create, readsFor]

/-- A transition that asks for nothing only has to keep the balance. -/
theorem Flows.silent (h : Flows s log) {es : List (Event α)} (silent : Silent es)
    (hp : t.phase = .idle → s.phase = .idle) (hf : t.fetches = s.fetches)
    (hr : t.resumes = s.resumes) (balanced : Balanced t.phase t.items t.fetches) :
    Flows t (log ++ es) where
  counted := by rw [reads_append, silent.reads_eq, hf]; exact h.counted
  resumed := by rw [readsFor_append, silent.readsFor_eq, hr]; exact h.resumed
  opened := by
    rw [readsFor_append, silent.readsFor_eq]
    apply Nat.le_trans h.opened
    by_cases ht : t.phase = .idle
    · simp [ht, hp ht]
    · rw [if_neg ht]
      split <;> omega
  balanced := balanced

theorem Flows.cell (h : Flows s log) (cell : Cell α) {es : List (Event α)} (silent : Silent es) :
    Flows { s with cell } (log ++ es) :=
  h.silent silent id rfl rfl h.balanced

/-- Asking for a read while none is outstanding: a stream that did so is reading. -/
theorem Flows.ask (h : Flows s log) {why : Cause} {lane : Nat} (even : s.fetches = s.items)
    (first : why = .opened → s.phase = .idle) (hp : t.phase = .reading lane)
    (hi : t.items = s.items) (hf : t.fetches = s.fetches + 1)
    (hr : t.resumes = s.resumes + if why = .resumed then 1 else 0) :
    Flows t (log ++ asks why (some lane)) where
  counted := by simp [h.counted, hf]
  resumed := by simp [h.resumed, hr]
  opened := by
    have bound := h.opened
    rw [hp, readsFor_append, readsFor_asks]
    by_cases hw : why = .opened
    · rw [if_pos (first hw)] at bound
      simpa [hw] using bound
    · have : readsFor .opened log ≤ 1 := Nat.le_trans bound (by split <;> omega)
      simpa [hw] using this
  balanced := by simp [hp, hi, hf, Balanced, even]

/-! ## Each transition preserves it -/

theorem Flows.attach (h : Flows s log) (lane : Nat) :
    Flows (s.attach lane).1 (log ++ asks .opened (s.attach lane).2) := by
  rcases s.attach_cases lane with ⟨idle, -, heq⟩ | heq <;> rw [heq]
  · have even : s.fetches = s.items := by simpa [Balanced, idle] using h.balanced
    exact h.ask even (fun _ => idle) rfl rfl rfl rfl
  · exact h.silent (by simp [Silent, asks]) id rfl rfl h.balanced

theorem Flows.refetch (h : Flows s log) :
    Flows s.refetch.1 (log ++ asks .continued s.refetch.2) := by
  rcases s.refetch_cases with ⟨lane, held, -, heq⟩ | heq <;> rw [heq]
  · have even : s.fetches = s.items := by simpa [Balanced, held] using h.balanced
    exact h.ask even (fun hw => nomatch hw) rfl rfl rfl rfl
  · exact h.silent (by simp [Silent, asks]) id rfl rfl h.balanced

/-- An end leaves at most one read behind. -/
theorem Balanced.ended {p : Phase} {items fetches : Nat} (h : Balanced p items fetches) :
    Balanced .ended items fetches := by
  cases p with
  | idle | held lane => exact .inl h
  | reading lane => exact .inr h
  | ended => exact h

theorem Flows.resume (h : Flows s log) :
    Flows s.resume.1 (log ++ asks .resumed s.resume.2) := by
  rcases s.resume_cases with ⟨lane, held, -, heq⟩ | ⟨lane, -, -, heq⟩ | ⟨-, heq⟩ <;> rw [heq]
  · have even : s.fetches = s.items := by simpa [Balanced, held] using h.balanced
    exact h.ask even (fun hw => nomatch hw) rfl rfl rfl rfl
  · exact h.silent (by simp [Silent, asks]) (fun hp => nomatch hp) rfl rfl h.balanced.ended
  · exact h.silent (by simp [Silent, asks]) id rfl rfl h.balanced

theorem Flows.afterTake (h : Flows s log) (taken : Outcome (Cell α) (Option α)) {e : Event α}
    (silent : e.isAsk = false) :
    Flows (s.afterTake taken).state
      (log ++ e :: asks .resumed (s.afterTake taken).answer.2) := by
  have cell : Flows { s with cell := taken.state } (log ++ [e]) :=
    h.cell taken.state (by simpa [Silent] using silent)
  rcases s.afterTake_cases taken with ⟨-, ha, hs⟩ | ⟨x, -, ha, hs⟩
  · rw [ha, hs]
    exact cell
  · rw [ha, hs]
    simpa using cell.resume

/-! ## Moves -/

variable {s : Session α}

theorem flows_take (h : Flows s.stream log) : Flows s.take.1.stream (log ++ s.take.2) :=
  h.afterTake _ rfl

theorem flows_completeTake (h : Flows s.stream log) :
    Flows s.completeTake.1.stream (log ++ s.completeTake.2) := by
  unfold completeTake
  split
  · exact h.afterTake _ rfl
  · simpa using h

theorem flows_readOn (h : Flows s.stream log) (e : Ending) :
    Flows (s.readOn e).1.stream (log ++ (s.readOn e).2) := by
  unfold readOn
  split
  · have dropped : Flows (s.stream.discard s.thread).state (log ++ []) :=
      h.cell _ (by simp [Silent])
    rw [List.append_nil] at dropped
    exact dropped.refetch
  · simpa using h

/-- The end of a window in its three parts: the callback is over, the take that waits for it goes
on, the delivery goes on. -/
theorem flows_leave (h : Flows s.stream log) (e : Ending) :
    Flows (s.leave e).1.stream (log ++ (s.leave e).2) := by
  have freed : Flows (s.stream.endInspection e.cutShort) (log ++ [.left e]) :=
    h.cell _ (by simp [Silent, Event.isAsk])
  have taken := flows_completeTake (s := { s with stream := _ }) freed
  have gone := flows_readOn taken e
  rw [List.append_assoc, List.append_assoc] at gone
  exact gone

theorem flows_moved {p : Session α × List (Event α)} (h : Flows s.stream log)
    (hm : Moved s p) : Flows p.1.stream (log ++ p.2) := by
  cases hm with
  | attached lane => exact h.attach lane
  | accepted x reading =>
      have ahead : s.stream.fetches = s.stream.items + 1 := by
        simpa [Balanced, reading] using h.balanced
      exact h.silent (by simp [Silent, Event.isAsk]) (fun hp => nomatch hp) rfl rfl ahead
  | @left e x rest => exact flows_leave (s := { s with frames := rest }) h e
  | ended =>
      exact h.silent (by simp [Silent, Event.isAsk]) (fun hp => nomatch hp) rfl rfl
        h.balanced.ended
  | took => exact flows_take h
  | switched | launched | refused | rejected | closed | ignored | returned | claimed
  | tookNothing | cancelled =>
      exact h.silent (by simp [Silent, Event.isAsk]) id rfl rfl h.balanced

/-- What is asked for at most once was asked for or not. -/
theorem readsFor_eq_ite {why : Cause} {log : List (Event α)} (h : readsFor why log ≤ 1) :
    readsFor why log = if log.any (Event.asksFor why) then 1 else 0 := by
  split
  · next some =>
      obtain ⟨e, he, ask⟩ := List.any_eq_true.mp some
      have pos : 0 < readsFor why log := List.countP_pos_iff.mpr ⟨e, he, ask⟩
      omega
  · next none =>
      rw [readsFor, List.countP_eq_zero]
      intro e he ask
      exact none (List.any_eq_true.mpr ⟨e, he, ask⟩)

theorem flows_of_run {id : CallId} {timeout : Option Nat} {thread : Nat} {s : Session α}
    {ms : List (Move α)} (h : (fresh id timeout thread).run ms = some (s, log)) :
    Flows s.stream log :=
  run_invariant (P := fun s log => Flows s.stream log) flows_moved h (flows_create id timeout)

/-- **Flow control.** Whatever happens to a stream, and wherever inside its channel or its callbacks
one looks: the reads asked for are those that are counted, their lead over the items is fixed by
the phase, and each comes from the start, from a hold that a take released, or from a callback
that continued. -/
theorem reads_follow_phase {id : CallId} {timeout : Option Nat} {thread : Nat}
    {ms : List (Move α)} (h : (fresh id timeout thread).run ms = some (s, log)) :
    reads log = s.stream.fetches ∧
    (match s.stream.phase with
      | .idle | .held _ => s.stream.fetches = s.stream.items
      | .reading _ => s.stream.fetches = s.stream.items + 1
      | .ended =>
          s.stream.fetches = s.stream.items ∨ s.stream.fetches = s.stream.items + 1) ∧
    s.stream.fetches =
      (if log.any (Event.asksFor .opened) then 1 else 0) + s.stream.resumes +
        readsFor .continued log := by
  have inv := flows_of_run h
  refine ⟨inv.counted, inv.balanced, ?_⟩
  have once : readsFor .opened log ≤ 1 := Nat.le_trans inv.opened (by split <;> omega)
  rw [← inv.counted, ← inv.resumed, ← readsFor_eq_ite once]
  exact reads_eq_sum log

/-- A hold, a take inside the next callback, a callback that continues, and a close before the last
one returns. -/
def flowMoves : List (Move Nat) :=
  [.start, .opened 0, .deliver 1, .decide .hold, .take, .deliver 2, .take, .decide .proceed,
    .deliver 3, .closeReads, .back, .decide .proceed]

theorem reads_follow_phase_moves : ∃ s log, (fresh ⟨1⟩ none 0).run flowMoves = some (s, log) ∧
    reads log = 3 ∧ s.stream.fetches = 3 ∧ s.stream.items = 3 ∧ s.stream.phase = .held 0 ∧
    3 = 1 + s.stream.resumes + readsFor .continued log := by
  have h : (fresh ⟨1⟩ none 0).run flowMoves = some (_, _) := rfl
  obtain ⟨counted, -, places⟩ := reads_follow_phase h
  exact ⟨_, _, h, counted, rfl, rfl, rfl, places⟩

end Session

end CallBridge
