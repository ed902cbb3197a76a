import CallBridge.Proofs.Stream.Ledger

/-!
# Items are handed over exactly once and in order

The slot of the cell, its flag, the thread that inspects, the phase of the stream and the callbacks
under way are moved by different operations. `Hand` says which combinations of them occur, and what
the ledger says then: only the newest item can be anywhere but in the hands of the application or
dropped, and where it is can be read off the stream.

A stream can do nothing that the ledger refuses, so what the rules of the ledger imply holds of
every run.
-/

namespace CallBridge

/-- There is no room for another item. -/
def Phase.isFull : Phase → Bool
  | held _ | ended => true
  | idle | reading _ => false

namespace Session

variable {α : Type}

/-- The items whose callbacks are running, innermost first. -/
def running (frames : List (Frame α)) : List α :=
  frames.filterMap fun | .inspecting x => some x | _ => none

/-- No callback of an item is running. -/
structure Unlocked (s : Session α) : Prop where
  frames : running s.frames = []
  inspector : s.stream.cell.inspector = none
  claimed : s.claimed = false

/-- The callback of this item is running, on the thread that acts. -/
structure Locked (s : Session α) (x : α) : Prop where
  frames : running s.frames = [x]
  inspector : s.stream.cell.inspector = some s.thread
  item : s.stream.cell.item = some x
  full : s.stream.phase.isFull = true

/-- How a stream, the operations under way and a ledger fit together. -/
inductive Hand (s : Session α) : Ledger α → Prop where
  | rest {l : Ledger α} (unlocked : Unlocked s) (ready : s.stream.cell.ready = false)
      (older : l.Settled) : Hand s l
  | waiting {x : α} {l : Ledger α} (unlocked : Unlocked s) (ready : s.stream.cell.ready = true)
      (item : s.stream.cell.item = some x) (full : s.stream.phase.isFull = true)
      (older : l.Settled) : Hand s ((x, .waiting) :: l)
  | inspected {x : α} {l : Ledger α} (locked : Locked s x) (ready : s.stream.cell.ready = true)
      (unclaimed : s.claimed = false) (older : l.Settled) : Hand s ((x, .inspected) :: l)
  | claimed {x : α} {l : Ledger α} (locked : Locked s x) (ready : s.stream.cell.ready = false)
      (claimed : s.claimed = true) (older : l.Settled) : Hand s ((x, .claimed) :: l)

/-- What a move from a stream that fits a ledger has to come to. -/
def Hands (l : Ledger α) (p : Session α × List (Event α)) : Prop :=
  ∃ l', Ledger.Books l p.2 l' ∧ Hand p.1 l'

variable {s t : Session α} {l l' : Ledger α} {es es' : List (Event α)}

theorem hand_fresh (id : CallId) (timeout : Option Nat) (thread : Nat) :
    Hand (fresh id timeout thread : Session α) [] :=
  .rest ⟨rfl, rfl, rfl⟩ rfl Ledger.settled_nil

theorem Hand.aside (h : Hand t l) (aside : ∀ e ∈ es, e.isAside = true) : Hands l (t, es) :=
  ⟨l, Ledger.books_of_aside aside, h⟩

theorem Hand.quiet (h : Hand t l) : Hands l (t, []) := ⟨l, .nil, h⟩

theorem Hand.said {e : Event α} (h : Hand t l) (aside : e.isAside = true) : Hands l (t, [e]) :=
  ⟨l, (Ledger.Enters.aside aside).books, h⟩

/-- What follows is entered in the ledger as it stands by then. -/
theorem Hands.after (books : Ledger.Books l es l') (h : Hands l' (t, es')) :
    Hands l (t, es ++ es') := by
  obtain ⟨l'', rest, hand⟩ := h
  exact ⟨l'', books.append rest, hand⟩

theorem isAside_asks {why : Cause} {lane : Option Nat} :
    ∀ e ∈ (asks why lane : List (Event α)), e.isAside = true := by
  intro e he
  obtain ⟨l, -, rfl⟩ := List.mem_map.mp he
  rfl

/-- What matters of a stream is where its item is, who looks at it, and whether there is room. -/
theorem Hand.keep (h : Hand s l) (frames : running t.frames = running s.frames)
    (thread : s.frames = [] ∨ t.thread = s.thread) (claimed : t.claimed = s.claimed)
    (item : t.stream.cell.item = s.stream.cell.item)
    (ready : t.stream.cell.ready = s.stream.cell.ready)
    (inspector : t.stream.cell.inspector = s.stream.cell.inspector)
    (full : s.stream.phase.isFull = true → t.stream.phase.isFull = true) : Hand t l := by
  have unlocked : Unlocked s → Unlocked t := fun u =>
    ⟨frames.trans u.frames, inspector.trans u.inspector, claimed.trans u.claimed⟩
  have locked : ∀ {x}, Locked s x → Locked t x := by
    intro x k
    have same : t.thread = s.thread := by
      refine thread.resolve_left fun empty => ?_
      have := k.frames
      simp [empty, running] at this
    exact ⟨frames.trans k.frames, by rw [inspector, k.inspector, same], item.trans k.item,
      full k.full⟩
  cases h with
  | rest u r older => exact .rest (unlocked u) (ready.trans r) older
  | waiting u r i f older =>
      exact .waiting (unlocked u) (ready.trans r) (item.trans i) (full f) older
  | inspected k r c older => exact .inspected (locked k) (ready.trans r) (claimed.trans c) older
  | claimed k r c older => exact .claimed (locked k) (ready.trans r) (claimed.trans c) older

/-! ## Takes -/

/-- A take that finds nothing, where the ledger keeps nothing for it. -/
theorem Hand.tookNone (h : Hand s l) (nothing : l.having Fate.isKept = []) :
    Hands l (s, [.took none]) :=
  ⟨l, (Ledger.Enters.tookNone nothing).books, h⟩

theorem having_isKept_of_settled (h : l.Settled) : l.having Fate.isKept = [] := by
  refine Ledger.having_of_settled h fun f final => ?_
  cases f <;> simp [Fate.isKept, Fate.isFinal] at final ⊢

theorem take_of_nothing
    (nothing : s.stream.cell.inspector = some s.thread ∨ s.stream.cell.ready = false) :
    s.take = (s, [.took none]) := by
  rcases s.stream.cell.take_cases s.thread with ⟨-, hs, ha⟩ | ⟨other, ready, -, -⟩
  · simp [take, Stream.take, Stream.afterTake, hs, ha, asks]
  · rcases nothing with locked | empty
    · exact absurd locked other
    · simp [ready] at empty

/-- What follows the cell's part of a take, when that has emptied the cell. -/
theorem afterTake_empties {o : Outcome (Cell α) (Option α)}
    (unlocked : Unlocked { s with stream := { s.stream with cell := o.state } })
    (ready : o.state.ready = false) :
    Unlocked { s with stream := (s.stream.afterTake o).state } ∧
      (s.stream.afterTake o).state.cell.ready = false := by
  refine ⟨⟨unlocked.frames, ?_, unlocked.claimed⟩, ?_⟩
  · simpa using unlocked.inspector
  · simpa using ready

theorem hand_take (h : Hand s l) : Hands l s.take := by
  cases h with
  | rest unlocked ready older =>
      rw [take_of_nothing (.inr ready)]
      exact (Hand.rest unlocked ready older).tookNone (having_isKept_of_settled older)
  | @waiting x l unlocked ready item full older =>
      rcases s.stream.cell.take_cases s.thread with ⟨nothing, -, -⟩ | ⟨-, -, hs, ha⟩
      · simp [unlocked.inspector, ready] at nothing
      · have answer : (s.stream.take s.thread).answer.1 = some x :=
          (Stream.afterTake_item _ _).trans (ha.trans item)
        obtain ⟨free, empty⟩ := afterTake_empties (s := s) (o := s.stream.cell.take s.thread)
          ⟨unlocked.frames, by simpa using unlocked.inspector, unlocked.claimed⟩ (by rw [hs])
        refine ⟨(x, .returned) :: l, ?_, .rest free empty (by simp [older, Fate.isFinal])⟩
        rw [take, answer]
        exact .cons .took (Ledger.books_of_aside isAside_asks)
  | inspected locked ready unclaimed older =>
      rw [take_of_nothing (.inl locked.inspector)]
      refine (Hand.inspected locked ready unclaimed older).tookNone ?_
      simpa [Fate.isKept] using having_isKept_of_settled older
  | claimed locked ready claimed older =>
      rw [take_of_nothing (.inl locked.inspector)]
      refine (Hand.claimed locked ready claimed older).tookNone ?_
      simpa [Fate.isKept] using having_isKept_of_settled older

/-! ## The end of a callback -/

/-- A callback that consumed its item leaves nothing on offer, whether the item was still there or a
take was faster. -/
theorem hand_readOn (unlocked : Unlocked s) {e : Ending}
    (offered : e.consumes = false → s.stream.cell.ready = false) (settled : l.Settled) :
    Hands l (s.readOn e) := by
  unfold readOn
  split
  · have other : s.stream.cell.inspector ≠ some s.thread := by simp [unlocked.inspector]
    have empty : Hand { s with stream := (s.stream.readOn s.thread).state } l := by
      refine .rest ⟨unlocked.frames, ?_, unlocked.claimed⟩ ?_ settled
      · simpa using unlocked.inspector
      · simpa using Cell.ready_take other
    exact empty.aside isAside_asks
  · next keeps =>
      have empty : s.stream.cell.ready = false := offered (by simpa using keeps)
      exact (Hand.rest unlocked empty settled).quiet

/-- Nobody has claimed the item: its callback has consumed it, or it waits. -/
theorem hand_leave_unclaimed {x : α} (idle : running s.frames = []) (unclaimed : s.claimed = false)
    (ready : s.stream.cell.ready = true) (item : s.stream.cell.item = some x)
    (full : s.stream.phase.isFull = true) (older : l.Settled) (e : Ending) :
    Hands ((x, .inspected) :: l) (s.leave e) := by
  -- What a callback leaves behind does not depend on how the cell is tainted by a panic.
  let freed : Session α := { s with stream := s.stream.endInspection e.cutShort }
  have unlocked : Unlocked freed := ⟨idle, rfl, unclaimed⟩
  have leave : s.leave e = ((freed.readOn e).1, [.left e] ++ (freed.readOn e).2) := by
    simp [Session.leave, completeTake, unclaimed, freed]
  rw [leave]
  cases consumes : e.consumes with
  | true =>
      have dropped : Ledger.Settled ((x, .dropped) :: l) := by simp [older, Fate.isFinal]
      refine Hands.after (Ledger.Enters.consumed consumes).books ?_
      exact hand_readOn unlocked (by simp [consumes]) dropped
  | false =>
      have stays : freed.readOn e = (freed, []) := by simp [readOn, consumes]
      rw [stays]
      refine Hands.after (Ledger.Enters.kept consumes).books (Hand.quiet ?_)
      exact .waiting unlocked ready item full older

theorem completeTake_of_claimed (h : s.claimed = true) :
    s.completeTake =
      ({ s with stream := (s.stream.afterTake s.stream.cell.extract).state, claimed := false },
        .tookLate (s.stream.afterTake s.stream.cell.extract).answer.1 ::
          asks .resumed (s.stream.afterTake s.stream.cell.extract).answer.2) := by
  simp [completeTake, h, Stream.completeTake]

/-- A take has claimed the item before: it gets it, however the callback ends. -/
theorem hand_leave_claimed {x : α} (idle : running s.frames = []) (claimed : s.claimed = true)
    (ready : s.stream.cell.ready = false) (item : s.stream.cell.item = some x)
    (older : l.Settled) (e : Ending) : Hands ((x, .claimed) :: l) (s.leave e) := by
  let freed : Session α := { s with stream := s.stream.endInspection e.cutShort }
  have answer : (freed.stream.afterTake freed.stream.cell.extract).answer.1 = some x :=
    (Stream.afterTake_item _ _).trans item
  obtain ⟨free, empty⟩ := afterTake_empties (s := { freed with claimed := false })
    (o := freed.stream.cell.extract) ⟨idle, rfl, rfl⟩ ready
  have taken := completeTake_of_claimed (s := freed) claimed
  have books : Ledger.Books ((x, .due) :: l) freed.completeTake.2 ((x, .returned) :: l) := by
    rw [taken, answer]
    exact .cons .tookLate (Ledger.books_of_aside isAside_asks)
  -- The item goes to the take before a callback that consumed it could drop it.
  refine Hands.after (Ledger.Enters.finished (e := e)).books (Hands.after books ?_)
  have returned : Ledger.Settled ((x, .returned) :: l) := by simp [older, Fate.isFinal]
  refine hand_readOn ?_ (fun _ => ?_) returned
  · rw [taken]
    exact free
  · rw [taken]
    exact empty

theorem hand_leave {x : α} {rest : List (Frame α)} (h : Hand s l)
    (top : s.frames = .inspecting x :: rest) (e : Ending) :
    Hands l ({ s with frames := rest }.leave e) := by
  have frames : running s.frames = x :: running rest := by simp [top, running]
  cases h with
  | rest unlocked | waiting unlocked =>
      have := unlocked.frames
      simp [frames] at this
  | inspected locked ready unclaimed older =>
      have idle : running rest = [] := (List.cons.inj (frames.symm.trans locked.frames)).2
      exact hand_leave_unclaimed (s := { s with frames := rest }) idle unclaimed ready locked.item
        locked.full older e
  | claimed locked ready claimed older =>
      have idle : running rest = [] := (List.cons.inj (frames.symm.trans locked.frames)).2
      exact hand_leave_claimed (s := { s with frames := rest }) idle claimed ready locked.item
        older e

/-! ## Moves and runs -/

theorem running_cons_of_other {f : Frame α} {frames : List (Frame α)}
    (other : ∀ x, f ≠ .inspecting x) : running (f :: frames) = running frames := by
  cases f with
  | inspecting x => exact absurd rfl (other x)
  | opening | closing | ending => rfl

theorem hand_moved {p : Session α × List (Event α)} (h : Hand s l) (hm : Moved s p) :
    Hands l p := by
  cases hm with
  | switched thread idle =>
      exact Hand.quiet (h.keep rfl (.inl idle) rfl rfl rfl rfl id)
  | launched => exact Hand.said (h.keep rfl (.inr rfl) rfl rfl rfl rfl id) rfl
  | @attached lane rest top =>
      have frames : running rest = running s.frames := by
        rw [top, running_cons_of_other (by simp)]
      have full : s.stream.phase.isFull = true → (s.stream.attach lane).1.phase.isFull = true := by
        intro full
        rcases s.stream.attach_cases lane with ⟨idle, -, -⟩ | heq
        · simp [idle, Phase.isFull] at full
        · rwa [heq]
      refine Hand.aside (t := { s with frames := rest, stream := (s.stream.attach lane).1 }) ?_
        isAside_asks
      exact h.keep frames (.inr rfl) rfl (by simp) (by simp) (by simp) full
  | @accepted x lane reading live =>
      -- While the stream reads there is room, so the ledger has nothing open.
      have room : s.stream.phase.isFull = false := by simp [reading, Phase.isFull]
      cases h with
      | rest unlocked ready older =>
          refine ⟨_, .cons (.accepted x older) (.cons .shown .nil), ?_⟩
          exact .inspected ⟨by simpa [running] using unlocked.frames, rfl, rfl, rfl⟩ rfl
            unlocked.claimed older
      | waiting _ _ _ full => simp [room] at full
      | inspected locked | claimed locked => exact absurd locked.full (by simp [room])
  | left e top => exact hand_leave h top e
  | closed => exact Hand.said (h.keep rfl (.inr rfl) rfl rfl rfl rfl id) rfl
  | ended status first =>
      exact Hand.said (h.keep rfl (.inr rfl) rfl rfl rfl rfl (fun _ => rfl)) rfl
  | returned top other =>
      have frames := congrArg running top
      rw [running_cons_of_other other] at frames
      exact Hand.quiet (h.keep frames.symm (.inr rfl) rfl rfl rfl rfl id)
  | took => exact hand_take h
  | claimed window ready =>
      cases h with
      | rest unlocked | waiting unlocked => simp [unlocked.inspector] at window
      | inspected locked _ unclaimed older =>
          refine ⟨_, Ledger.Enters.claimed.books, ?_⟩
          exact .claimed ⟨locked.frames, locked.inspector, locked.item, locked.full⟩ rfl rfl older
      | claimed _ empty => simp [ready] at empty
  | tookNothing window empty =>
      refine h.tookNone ?_
      cases h with
      | rest unlocked | waiting unlocked => simp [unlocked.inspector] at window
      | inspected _ _ _ older | claimed _ _ _ older =>
          simpa [Fate.isKept] using having_isKept_of_settled older
  | cancelled => exact Hand.quiet (h.keep rfl (.inr rfl) rfl rfl rfl rfl id)
  | refused | rejected => exact h.said rfl
  | ignored => exact h.quiet

/-- After any run the stream fits the one ledger that its log makes. -/
theorem hand_of_run {id : CallId} {timeout : Option Nat} {thread : Nat} {ms : List (Move α)}
    {log : List (Event α)} (h : (fresh id timeout thread).run ms = some (s, log)) :
    ∃ l, Ledger.Books [] log l ∧ Hand s l := by
  refine run_invariant (P := fun s log => ∃ l, Ledger.Books [] log l ∧ Hand s l) ?_ h
    ⟨[], .nil, hand_fresh id timeout thread⟩
  rintro s before p ⟨l, books, hand⟩ hm
  obtain ⟨l', entered, hand'⟩ := hand_moved hand hm
  exact ⟨l', books.append entered, hand'⟩

/-- What the log of a stream tells of its items, and where the stream has them now. There is no
other account of them. -/
structure HandedOver (s : Session α) (log : List (Event α)) (l : Ledger α) : Prop where
  books : Ledger.Books [] log l
  only : ∀ l', Ledger.Books [] log l' → l' = l
  entries : l.items = accepts log
  shown : shows log = accepts log
  returned : returns log = l.having (· = .returned)
  inOrder : (returns log).Sublist (accepts log)
  older : Ledger.Settled l.tail
  settled : ∀ e ∈ l, e.2 ≠ .arrived ∧ e.2 ≠ .due
  running : l.having Fate.isShown = running s.frames
  offered : s.stream.cell.ready = true ↔
    ∃ x f l', l = (x, f) :: l' ∧ (f = .waiting ∨ f = .inspected)

/-- Every item of the ledger has been shown, and its callback is the one that is running or over. -/
theorem Hand.between_moves (h : Hand s l) : ∀ e ∈ l, e.2 ≠ .arrived ∧ e.2 ≠ .due := by
  have old : ∀ {l : Ledger α}, l.Settled → ∀ e ∈ l, e.2 ≠ .arrived ∧ e.2 ≠ .due := by
    intro l older e he
    have final := older e he
    constructor <;> intro hf <;> simp [hf, Fate.isFinal] at final
  cases h with
  | rest _ _ older => exact old older
  | waiting _ _ _ _ older | inspected _ _ _ older | claimed _ _ _ older =>
      exact List.forall_mem_cons.mpr ⟨by simp, old older⟩

theorem Hand.running_eq (h : Hand s l) : l.having Fate.isShown = running s.frames := by
  have old : ∀ {l : Ledger α}, l.Settled → l.having Fate.isShown = [] := by
    intro l older
    refine Ledger.having_of_settled older fun f final => ?_
    cases f <;> simp [Fate.isShown, Fate.isFinal] at final ⊢
  cases h with
  | rest unlocked _ older => rw [old older, unlocked.frames]
  | waiting unlocked _ _ _ older =>
      rw [Ledger.having_cons, old older, unlocked.frames]
      rfl
  | inspected locked _ _ older | claimed locked _ _ older =>
      rw [Ledger.having_cons, old older, locked.frames]
      rfl

theorem Hand.ready_iff (h : Hand s l) :
    s.stream.cell.ready = true ↔ ∃ x f l', l = (x, f) :: l' ∧ (f = .waiting ∨ f = .inspected) := by
  cases h with
  | rest _ ready older =>
      rw [ready]
      refine ⟨fun h => (nomatch h), ?_⟩
      rintro ⟨x, f, l', rfl, rfl | rfl⟩ <;> simp [Fate.isFinal] at older
  | waiting _ ready => exact iff_of_true ready ⟨_, _, _, rfl, .inl rfl⟩
  | inspected _ ready => exact iff_of_true ready ⟨_, _, _, rfl, .inr rfl⟩
  | claimed _ ready => simp [ready]

theorem Hand.unclaimed (h : Hand s l) (ready : s.stream.cell.ready = true) : s.claimed = false := by
  cases h with
  | rest unlocked _ | waiting unlocked => exact unlocked.claimed
  | inspected _ _ unclaimed => exact unclaimed
  | claimed _ empty => simp [ready] at empty

theorem Hand.all_shown (h : Hand s l) : l.having Fate.wasShown = l.items := by
  have all : l.filter (fun e => e.2.wasShown) = l := by
    rw [List.filter_eq_self]
    intro e he
    have arrived := (h.between_moves e he).1
    cases hf : e.2 <;> simp [hf, Fate.wasShown] at arrived ⊢
  rw [Ledger.having, all]

theorem handedOver_of_hand {log : List (Event α)} (h : Hand s l) (books : Ledger.Books [] log l) :
    HandedOver s log l := by
  have agrees := books.agrees
  have entries : l.items = accepts log := agrees.accepts
  have returned : returns log = l.having (· = .returned) := agrees.returns.symm
  exact {
    books := books
    only := fun l' books' => books'.unique books
    entries := entries
    shown := by rw [← entries, ← h.all_shown]; exact agrees.shows.symm
    returned := returned
    inOrder := by rw [returned, ← entries]; exact Ledger.having_sublist _ l
    older := books.older Ledger.settled_nil
    settled := h.between_moves
    running := h.running_eq
    offered := h.ready_iff }

theorem accepted_mem_deliver {x : α} : .accepted x ∈ (s.deliver x).2 ↔
    (∃ lane, s.stream.phase = .reading lane) ∧ s.stream.cell.terminated = false := by
  unfold deliver
  rcases s.stream.deliver_cases s.thread x with ⟨lane, reading, live, ha, -⟩ | ⟨unwanted, ha, -⟩
  · simp [ha, reading, live]
  · have no : ¬((∃ lane, s.stream.phase = .reading lane) ∧ s.stream.cell.terminated = false) := by
      rintro ⟨⟨lane, reading⟩, live⟩
      rcases unwanted with other | dead
      · exact other lane reading
      · simp [live] at dead
    simp [ha, no]

/-- **Items are handed over exactly once and in order.** After any run there is one account of the
items: each accepted one was shown to one callback, and then it was dropped by that callback, or
returned by one take, or it waits, which at most the newest does. The take that returns an item is
the first that is answered after the callback has ended with a hold or a panic. The next item is
accepted if and only if the stream reads and is not over. -/
theorem handed_over_once {id : CallId} {timeout : Option Nat} {thread : Nat}
    {ms : List (Move α)} {log : List (Event α)}
    (h : (fresh id timeout thread).run ms = some (s, log)) :
    (∃ l, HandedOver s log l) ∧
    (∀ pre e mid t a post, log = pre ++ .left e :: (mid ++ t :: post) → e.consumes = false →
      (∀ m ∈ mid, m.answer? = none) → t.answer? = some a → a = (shows pre).getLast?) ∧
    (∀ x, .accepted x ∈ (s.deliver x).2 ↔
      (∃ lane, s.stream.phase = .reading lane) ∧ s.stream.cell.terminated = false) := by
  obtain ⟨l, books, hand⟩ := hand_of_run h
  refine ⟨⟨l, handedOver_of_hand hand books⟩, ?_, fun x => accepted_mem_deliver⟩
  rintro pre e mid t a post rfl keeps no_take answered
  exact books.first_take keeps no_take answered

/-- A take inside a callback, a panic, an item out of turn, a callback that consumes its item, and
an end inside the last callback. -/
def handoverMoves : List (Move Nat) :=
  [.start, .opened 0, .deliver 1, .take, .decide .hold, .take, .deliver 2, .panic, .deliver 9,
    .take, .deliver 3, .decide .proceed, .deliver 4, .finish .success, .back, .decide .hold, .take]

theorem handed_over_once_moves : ∃ s log, (fresh ⟨1⟩ none 0).run handoverMoves = some (s, log) ∧
    accepts log = [1, 2, 3, 4] ∧ shows log = [1, 2, 3, 4] ∧ returns log = [1, 2, 4] ∧
    (returns log).Sublist (accepts log) := by
  have h : (fresh ⟨1⟩ none 0).run handoverMoves = some (_, _) := rfl
  obtain ⟨⟨l, handed⟩, -, -⟩ := handed_over_once h
  exact ⟨_, _, h, rfl, handed.shown, rfl, handed.inOrder⟩

end Session

end CallBridge
