import CallBridge.Proofs.Stream.FlowControl
import CallBridge.Proofs.Stream.Overtaking

/-!
# Pacing: the counters of a stream while threads interleave

The counters of a stream and its phase stay together also when deliveries and takes are cut into
their parts. That is what a transport can rely on: a read that was asked for and not answered means
that the stream is reading, or is over.

The moves of an exchange fall into two classes. The transport accepts, closes and ends; all the rest
goes on around it and cannot end the call.
-/

namespace CallBridge

namespace Exchange

open Session (Cause Ending)

variable {α : Type} {s t : Exchange α} {log : List (Event α)} {m : Move α}
  {q : Exchange α × List (Event α)}

/-! ## Reads, items and phases -/

@[simp] def Event.isAsk : Event α → Bool
  | asked _ _ => true
  | _ => false

def reads (log : List (Event α)) : Nat := log.countP Event.isAsk

@[simp] theorem reads_append (log es : List (Event α)) :
    reads (log ++ es) = reads log + reads es := List.countP_append

@[simp] theorem reads_asks (why : Cause) (lane : Option Nat) :
    reads (asks why lane : List (Event α)) = if lane.isSome then 1 else 0 := by
  cases lane <;> rfl

/-- The counters of the stream are right. -/
structure Counted (s : Exchange α) (log : List (Event α)) : Prop where
  reads : reads log = s.stream.fetches
  items : (accepted log).length = s.stream.items
  balanced : Session.Balanced s.stream.phase s.stream.items s.stream.fetches

theorem Counted.same (h : Counted s log) {es : List (Event α)} (asks : Exchange.reads es = 0)
    (accepts : accepted es = []) (fetches : t.stream.fetches = s.stream.fetches)
    (items : t.stream.items = s.stream.items)
    (phase : t.stream.phase = s.stream.phase ∨ t.stream.phase = .ended) :
    Counted t (log ++ es) := by
  constructor
  · rw [reads_append, asks, fetches]
    exact h.reads
  · rw [accepted_append, accepts, List.append_nil, items]
    exact h.items
  · rw [items, fetches]
    rcases phase with phase | phase <;> rw [phase]
    · exact h.balanced
    · exact h.balanced.ended

theorem Counted.ask (h : Counted s log) {es : List (Event α)} {lane : Nat}
    (asks : Exchange.reads es = 1) (accepts : accepted es = [])
    (even : s.stream.fetches = s.stream.items) (fetches : t.stream.fetches = s.stream.fetches + 1)
    (items : t.stream.items = s.stream.items) (reading : t.stream.phase = .reading lane) :
    Counted t (log ++ es) := by
  constructor
  · rw [reads_append, asks, fetches, h.reads]
  · rw [accepted_append, accepts, List.append_nil, items]
    exact h.items
  · simp [reading, items, fetches, Session.Balanced, even]

theorem Counted.even (h : Counted s log)
    (waits : s.stream.phase = .idle ∨ ∃ lane, s.stream.phase = .held lane) :
    s.stream.fetches = s.stream.items := by
  have balanced := h.balanced
  rcases waits with idle | ⟨lane, held⟩
  · simpa [idle, Session.Balanced] using balanced
  · simpa [held, Session.Balanced] using balanced

/-- No item comes without a read. -/
theorem Counted.items_le (h : Counted s log) : s.stream.items ≤ s.stream.fetches := by
  have balanced := h.balanced
  cases phase : s.stream.phase <;> simp only [phase, Session.Balanced] at balanced <;> omega

theorem counted_attached (h : Counted s log) (lane : Nat) :
    Counted { s with stream := (s.stream.attach lane).1, opening := false }
      (log ++ asks .opened (s.stream.attach lane).2) := by
  rcases s.stream.attach_cases lane with ⟨idle, live, heq⟩ | heq
  · rw [heq]
    exact h.ask (by simp) (by simp) (h.even (.inl idle)) rfl rfl rfl
  · rw [heq]
    exact h.same (by simp) (by simp) rfl rfl (.inl rfl)

theorem counted_accepted (h : Counted s log) (p : Nat) (x : α) {lane : Nat}
    (reading : s.stream.phase = .reading lane) :
    Counted { s with
        stream := { s.stream with phase := .held lane, items := s.stream.items + 1 }
        delivery := some (p, .admitted x) } (log ++ [.accepted x]) := by
  have ahead : s.stream.fetches = s.stream.items + 1 := by
    simpa [reading, Session.Balanced] using h.balanced
  refine ⟨?_, ?_, ahead⟩
  · simpa [reads] using h.reads
  · simpa using h.items

theorem counted_refetched (h : Counted s log) {es : List (Event α)} (asks : reads es = 0)
    (accepts : accepted es = []) :
    Counted { s with stream := s.stream.refetch.1, delivery := none }
      (log ++ (Exchange.asks .continued s.stream.refetch.2 ++ es)) := by
  rcases s.stream.refetch_cases with ⟨lane, held, -, heq⟩ | heq <;> rw [heq]
  · exact h.ask (by simp [asks]) (by simp [accepts]) (h.even (.inr ⟨lane, held⟩)) rfl rfl rfl
  · exact h.same (by simp [asks]) (by simp [accepts]) rfl rfl (.inl rfl)

theorem counted_resumed (h : Counted s log) (p : Nat) :
    Counted { s with stream := s.stream.resume.1, resuming := s.resuming.erase p }
      (log ++ asks .resumed s.stream.resume.2) := by
  rcases s.stream.resume_cases with ⟨lane, held, -, heq⟩ | ⟨lane, -, -, heq⟩ | ⟨-, heq⟩ <;> rw [heq]
  · exact h.ask (by simp) (by simp) (h.even (.inr ⟨lane, held⟩)) rfl rfl rfl
  · exact h.same (by simp) (by simp) rfl rfl (.inr rfl)
  · exact h.same (by simp) (by simp) rfl rfl (.inl rfl)

theorem counted_moved (h : Counted s log) (hm : Moved s m q) : Counted q.1 (log ++ q.2) := by
  cases hm with
  | attached lane => exact counted_attached h lane
  | accepted p x idle reading => exact counted_accepted h p x reading
  | refetched p stage =>
      refine counted_refetched h ?_ ?_ <;> split <;> rfl
  | ended => exact h.same rfl rfl rfl rfl (.inr rfl)
  | resumed p => exact counted_resumed h p
  | launched | refused | rejected | published | left | discarded | closed | ignored | claimed
  | missed | took | cancelled =>
      exact h.same rfl rfl rfl rfl (.inl rfl)

/-- Once the call is started its stream is not idle, unless the channel has not returned yet or the
transport was done before. -/
def Opened (s : Exchange α) : Prop :=
  s.stream.started = true →
    s.opening = true ∨ s.stream.phase ≠ .idle ∨ s.stream.cell.terminated = true

theorem Opened.same (h : Opened s) (started : t.stream.started = s.stream.started)
    (opening : t.opening = s.opening)
    (phase : s.stream.phase ≠ .idle → t.stream.phase ≠ .idle)
    (terminated : s.stream.cell.terminated = true → t.stream.cell.terminated = true) :
    Opened t := by
  intro begun
  rcases h (started ▸ begun) with waits | busy | finished
  · exact .inl (opening ▸ waits)
  · exact .inr (.inl (phase busy))
  · exact .inr (.inr (terminated finished))

theorem opened_attached (s : Exchange α) (lane : Nat) :
    Opened { s with stream := (s.stream.attach lane).1, opening := false } := by
  intro _
  right
  unfold Stream.attach
  split
  · exact .inl nofun
  · next unfit =>
      by_cases idle : s.stream.phase = .idle
      · exact .inr (by simpa [idle] using unfit)
      · exact .inl idle

theorem opened_moved (h : Opened s) (hm : Moved s m q) : Opened q.1 := by
  cases hm with
  | launched => exact fun _ => .inl rfl
  | attached lane => exact opened_attached s lane
  | accepted | ended => exact fun _ => .inr (.inl nofun)
  | refetched p stage =>
      rcases s.stream.refetch_cases with ⟨lane, -, -, heq⟩ | heq <;> rw [heq]
      · exact fun _ => .inr (.inl nofun)
      · exact h.same rfl rfl id id
  | resumed p =>
      rcases s.stream.resume_cases with ⟨lane, -, -, heq⟩ | ⟨lane, -, -, heq⟩ | ⟨-, heq⟩ <;>
        rw [heq]
      · exact fun _ => .inr (.inl nofun)
      · exact fun _ => .inr (.inl nofun)
      · exact h.same rfl rfl id id
  | discarded p => exact h.same rfl rfl id fun ended => by simpa using ended
  | closed => exact fun _ => .inr (.inr rfl)
  | refused | rejected | published | left | ignored | claimed | missed | took | cancelled =>
      exact h.same rfl rfl id id

/-! ## Callbacks, and what goes on around the transport -/

/-- What the stream tells the application. -/
inductive Callback (α : Type) where
  | item (x : α)
  | closed
  | ended (status : Status)
deriving DecidableEq, Repr

@[simp] def Event.callback? : Event α → Option (Callback α)
  | published x _ => some (.item x)
  | closed => some .closed
  | ended status => some (.ended status)
  | _ => none

/-- The callbacks that have begun. -/
def callbacks (log : List (Event α)) : List (Callback α) := log.filterMap Event.callback?

@[simp] theorem callbacks_append (log es : List (Event α)) :
    callbacks (log ++ es) = callbacks log ++ callbacks es := List.filterMap_append

@[simp] theorem callbacks_singleton (e : Event α) : callbacks [e] = e.callback?.toList := by
  cases e <;> rfl

@[simp] theorem callbacks_asks (why : Cause) (lane : Option Nat) :
    callbacks (asks why lane : List (Event α)) = [] := by
  cases lane <;> rfl

/-- Moves that are not the transport's. -/
def Move.isAround : Move α → Bool
  | .accept _ _ | .closeReads | .finish _ => false
  | _ => true

/-- What goes on around the transport does not end the call and accepts nothing. The callback of an
accepted item begins once. -/
structure Aside (s : Exchange α) (q : Exchange α × List (Event α)) : Prop where
  terminated : q.1.stream.cell.terminated = s.stream.cell.terminated
  status : q.1.stream.cell.status = s.stream.cell.status
  started : s.stream.started = true → q.1.stream.started = true
  items : q.1.stream.items = s.stream.items
  fetches : s.stream.fetches ≤ q.1.stream.fetches
  phase : q.1.stream.phase = .ended → s.stream.phase = .ended ∨ s.stream.cell.terminated = true
  accepts : accepted q.2 = []
  rejects : ∀ x, .rejected x ∉ q.2
  shown : callbacks q.2 ++ q.1.pending.map .item = s.pending.map .item

theorem Aside.still (terminated : q.1.stream.cell.terminated = s.stream.cell.terminated)
    (status : q.1.stream.cell.status = s.stream.cell.status)
    (started : s.stream.started = true → q.1.stream.started = true)
    (items : q.1.stream.items = s.stream.items) (fetches : q.1.stream.fetches = s.stream.fetches)
    (phase : q.1.stream.phase = s.stream.phase) (accepts : accepted q.2 = [])
    (rejects : ∀ x, .rejected x ∉ q.2)
    (shown : callbacks q.2 ++ q.1.pending.map .item = s.pending.map .item) : Aside s q :=
  ⟨terminated, status, started, items, fetches ▸ Nat.le_refl _, fun ended => .inl (phase ▸ ended),
    accepts, rejects, shown⟩

theorem Aside.refl (s : Exchange α) : Aside s (s, []) :=
  .still rfl rfl id rfl rfl rfl rfl nofun rfl

/-- A start that breaks off. -/
theorem aside_overflow (s : Exchange α) : Aside s ({ s with stream := s.stream.overflow }, []) :=
  .still rfl rfl (fun _ => rfl) rfl rfl rfl rfl nofun rfl

theorem aside_attached (s : Exchange α) (lane : Nat) :
    Aside s ({ s with stream := (s.stream.attach lane).1, opening := false },
      asks .opened (s.stream.attach lane).2) := by
  rcases s.stream.attach_cases lane with ⟨-, -, heq⟩ | heq <;> rw [heq]
  · exact ⟨rfl, rfl, id, rfl, Nat.le_succ _, nofun, by simp, by simp [asks], by simp [pending]⟩
  · exact .still rfl rfl id rfl rfl rfl (by simp) (by simp [asks]) (by simp [pending])

theorem aside_refetched {p : Nat} (stage : s.delivery = some (p, .refetching))
    {es : List (Event α)} (accepts : accepted es = []) (rejects : ∀ x, .rejected x ∉ es)
    (silent : callbacks es = []) :
    Aside s ({ s with stream := s.stream.refetch.1, delivery := none },
      asks .continued s.stream.refetch.2 ++ es) := by
  have shown : callbacks (asks .continued s.stream.refetch.2 ++ es) = s.pending.map .item := by
    simp [silent, pending, stage]
  rcases s.stream.refetch_cases with ⟨lane, -, -, heq⟩ | heq <;> rw [heq] at shown ⊢
  · refine ⟨rfl, rfl, id, rfl, Nat.le_succ _, ?_, by simp [accepts], ?_, ?_⟩
    · rintro ⟨⟩
    · simp [asks, rejects]
    · simpa [pending] using shown
  · refine .still rfl rfl id rfl rfl rfl (by simp [accepts]) ?_ ?_
    · simp [asks, rejects]
    · simpa [pending] using shown

theorem aside_resumed (s : Exchange α) (p : Nat) :
    Aside s ({ s with stream := s.stream.resume.1, resuming := s.resuming.erase p },
      asks .resumed s.stream.resume.2) := by
  rcases s.stream.resume_cases with ⟨lane, -, -, heq⟩ | ⟨lane, -, gone, heq⟩ | ⟨-, heq⟩ <;> rw [heq]
  · exact ⟨rfl, rfl, id, rfl, Nat.le_succ _, nofun, by simp, by simp [asks], by simp [pending]⟩
  · exact ⟨rfl, rfl, id, rfl, Nat.le_refl _, fun _ => .inr gone, by simp, by simp [asks],
      by simp [pending]⟩
  · exact .still rfl rfl id rfl rfl rfl (by simp) (by simp [asks]) (by simp [pending])

theorem aside_moved (hm : Moved s m q) (around : m.isAround = true) : Aside s q := by
  cases hm with
  | launched => exact .still rfl rfl (fun _ => rfl) rfl rfl rfl rfl (by simp) rfl
  | attached lane => exact aside_attached s lane
  | published p x stage =>
      exact .still rfl rfl id rfl rfl rfl rfl (by simp) (by simp [pending, stage])
  | left p e stage =>
      refine .still rfl rfl id rfl rfl rfl rfl (by simp) ?_
      cases consumes : e.consumes <;> simp [pending, stage]
  | discarded p stage =>
      exact .still (by simp) (by simp) id rfl rfl rfl rfl (by simp)
        (by simp [pending, stage, callbacks])
  | refetched p stage =>
      refine aside_refetched stage ?_ ?_ ?_
      · split <;> rfl
      · intro x
        split <;> simp
      · split <;> rfl
  | resumed p => exact aside_resumed s p
  | refused | claimed | missed | took =>
      exact .still rfl rfl id rfl rfl rfl rfl (by simp) rfl
  | cancelled => exact .still rfl rfl id rfl rfl rfl rfl (by simp) rfl
  | accepted | rejected | closed | ended | ignored => simp [Move.isAround] at around

end Exchange

end CallBridge
