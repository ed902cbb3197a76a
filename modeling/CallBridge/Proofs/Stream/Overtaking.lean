import CallBridge.Proofs.Stream.Exchange

/-!
# Overtaking: a read that goes past a take

The place of a stream is written by deliveries and emptied by takes, and it is meant to change
hands: an item is published only in an empty place, and a take that has claimed an item finds it
there. What keeps the two apart is the phase. A claimed item leaves the stream held until its take
resumes it, and no item is accepted meanwhile.

The exception is a callback that consumes its item while another thread has claimed it. The delivery
finds nothing to drop, and asks for the next item all the same; it should not have, for the hold is
the take's to release. If the next item is published before the take has emptied the place, the
claimed item is lost, the take gets the next one, and that one stays on offer in an empty place.

`Orderly` is the invariant of runs in which no read overtakes a take. What holds of all runs is that
every item leaves the place at most once.
-/

namespace CallBridge

namespace Exchange

open Session (Cause Ending)

variable {α : Type}

/-! ## Views of a log -/

namespace Event

@[simp] def accepted? : Event α → Option α
  | accepted x => some x
  | _ => none

@[simp] def found? : Event α → Option α
  | took _ _ found => found
  | _ => none

end Event

def accepted (log : List (Event α)) : List α := log.filterMap Event.accepted?

def taken (log : List (Event α)) : List α := log.filterMap Event.found?

@[simp] theorem accepted_append (log es : List (Event α)) :
    accepted (log ++ es) = accepted log ++ accepted es := List.filterMap_append

@[simp] theorem taken_append (log es : List (Event α)) :
    taken (log ++ es) = taken log ++ taken es := List.filterMap_append

@[simp] theorem accepted_singleton (e : Event α) : accepted [e] = e.accepted?.toList := by
  cases e <;> rfl

@[simp] theorem taken_singleton (e : Event α) : taken [e] = e.found?.toList := by
  cases e with
  | took p due found => cases found <;> rfl
  | _ => rfl

@[simp] theorem accepted_asks (why : Cause) (lane : Option Nat) :
    accepted (asks why lane : List (Event α)) = [] := by
  cases lane <;> rfl

@[simp] theorem taken_asks (why : Cause) (lane : Option Nat) :
    taken (asks why lane : List (Event α)) = [] := by
  cases lane <;> rfl

variable {s : Exchange α} {log : List (Event α)} {m : Move α}
  {q : Exchange α × List (Event α)}

/-! ## No item leaves twice -/

/-- The item of a delivery that has not published it. -/
def pending (s : Exchange α) : List α :=
  match s.delivery with
  | some (_, .admitted x) => [x]
  | _ => []

/-- What has left the place, followed by what is in it, is among the accepted items, in their order,
and an item that is yet to be published comes after all of them. -/
def Ledger (s : Exchange α) (log : List (Event α)) : Prop :=
  ∃ published, accepted log = published ++ s.pending ∧
    (taken log ++ s.stream.cell.item.toList).Sublist published

theorem Ledger.same (h : Ledger s log) {t : Exchange α} {es : List (Event α)}
    (pending : t.pending = s.pending) (item : t.stream.cell.item = s.stream.cell.item)
    (accepts : accepted es = []) (takes : taken es = []) : Ledger t (log ++ es) := by
  obtain ⟨published, all, left⟩ := h
  refine ⟨published, ?_, ?_⟩
  · rw [accepted_append, accepts, List.append_nil, pending]
    exact all
  · rw [taken_append, takes, List.append_nil, item]
    exact left

theorem ledger_moved (h : Ledger s log) (hm : Moved s m q) : Ledger q.1 (log ++ q.2) := by
  cases hm with
  | accepted p x idle =>
      obtain ⟨published, all, left⟩ := h
      have nothing_pending : s.pending = [] := by simp [pending, idle]
      refine ⟨published, ?_, by simpa using left⟩
      rw [accepted_append, all, nothing_pending, List.append_nil]
      rfl
  | published p x stage =>
      obtain ⟨published, all, left⟩ := h
      have this_pending : s.pending = [x] := by simp [pending, stage]
      have before : (taken log).Sublist published := (List.sublist_append_left _ _).trans left
      refine ⟨published ++ [x], ?_, ?_⟩
      · rw [accepted_append, all, this_pending]
        rfl
      · simpa using before.append (List.Sublist.refl [x])
  | discarded p stage =>
      obtain ⟨published, all, left⟩ := h
      have nothing_pending : s.pending = [] := by simp [pending, stage]
      refine ⟨published, ?_, ?_⟩
      · rw [List.append_nil, all, nothing_pending]
        rfl
      · rw [List.append_nil]
        refine List.Sublist.trans ?_ left
        rcases s.stream.cell.take_cases p with ⟨-, hs, -⟩ | ⟨-, -, hs, -⟩ <;> simp [hs]
  | took p due claim =>
      obtain ⟨published, all, left⟩ := h
      refine ⟨published, ?_, ?_⟩
      · rw [accepted_append, all]
        exact List.append_nil _
      · simpa using left
  | attached lane | resumed p =>
      exact h.same rfl (by simp) (by simp) (by simp)
  | left p e stage =>
      refine h.same ?_ rfl rfl rfl
      cases e with
      | decided d => cases d <;> simp [pending, stage, Ending.consumes]
      | brokenOff => simp [pending, stage, Ending.consumes]
  | refetched p stage =>
      refine h.same (by simp [pending, stage]) (by simp) ?_ ?_
      · rw [accepted_append, accepted_asks]
        split <;> rfl
      · rw [taken_append, taken_asks]
        split <;> rfl
  | launched | refused | rejected | closed | ended | ignored | claimed | missed | cancelled =>
      exact h.same rfl rfl rfl rfl

/-! ## The place of an orderly stream -/

/-- No item is accepted before the hold is released. -/
def paused : Phase → Bool
  | .held _ | .ended => true
  | .idle | .reading _ => false

/-- Where the item is. Unless the place is vacant and no take is under way, the stream is paused and
no item is about to be published. -/
inductive Place (s : Exchange α) : Prop where
  | vacant (ready : s.stream.cell.ready = false) (item : s.stream.cell.item = none)
      (claims : s.claims = []) (resuming : s.resuming = [])
  | offered (x : α) (ready : s.stream.cell.ready = true) (item : s.stream.cell.item = some x)
      (claims : s.claims = []) (resuming : s.resuming = [])
      (current : s.current = some x) (paused : paused s.stream.phase = true)
      (published : s.pending = [])
  | claimed (p : Nat) (x : α) (ready : s.stream.cell.ready = false)
      (item : s.stream.cell.item = some x)
      (claims : s.claims = [(p, some x)]) (resuming : s.resuming = [])
      (paused : paused s.stream.phase = true) (published : s.pending = [])
  | moved (p : Nat) (ready : s.stream.cell.ready = false) (item : s.stream.cell.item = none)
      (claims : s.claims = []) (resuming : s.resuming = [p])
      (paused : paused s.stream.phase = true) (published : s.pending = [])

/-- What holds while no read has overtaken a take. -/
structure Orderly (s : Exchange α) : Prop where
  place : Place s
  locked : s.stream.cell.inspector =
    match s.delivery with
    | some (p, .showing) => some p
    | _ => none
  admitted : s.pending ≠ [] → paused s.stream.phase = true
  dropped : ∀ p, s.delivery = some (p, .refetching) → s.stream.cell.ready = false

variable {t : Exchange α}

theorem Place.stays (h : Place s) (ready : t.stream.cell.ready = s.stream.cell.ready)
    (item : t.stream.cell.item = s.stream.cell.item) (claims : t.claims = s.claims)
    (resuming : t.resuming = s.resuming) (current : t.current = s.current)
    (pause : paused s.stream.phase = true → paused t.stream.phase = true)
    (pending : s.pending = [] → t.pending = []) : Place t := by
  cases h with
  | vacant hr hi hc hm => exact .vacant (ready ▸ hr) (item ▸ hi) (claims ▸ hc) (resuming ▸ hm)
  | offered x hr hi hc hm hx hp hn =>
      exact .offered x (ready ▸ hr) (item ▸ hi) (claims ▸ hc) (resuming ▸ hm) (current ▸ hx)
        (pause hp) (pending hn)
  | claimed p x hr hi hc hm hp hn =>
      exact .claimed p x (ready ▸ hr) (item ▸ hi) (claims ▸ hc) (resuming ▸ hm) (pause hp)
        (pending hn)
  | moved p hr hi hc hm hp hn =>
      exact .moved p (ready ▸ hr) (item ▸ hi) (claims ▸ hc) (resuming ▸ hm) (pause hp)
        (pending hn)

/-- While the stream is not paused, the place is vacant and no take is under way. -/
theorem Place.vacant_of_not_paused (h : Place s) (running : paused s.stream.phase = false) :
    s.stream.cell.ready = false ∧ s.stream.cell.item = none ∧ s.claims = [] ∧ s.resuming = [] := by
  cases h with
  | vacant ready item claims resuming => exact ⟨ready, item, claims, resuming⟩
  | offered _ _ _ _ _ _ pause | claimed _ _ _ _ _ _ pause | moved _ _ _ _ _ pause =>
      simp [running] at pause

theorem Place.vacant_of_pending (h : Place s) (waits : s.pending ≠ []) :
    s.stream.cell.ready = false ∧ s.stream.cell.item = none ∧ s.claims = [] ∧ s.resuming = [] := by
  cases h with
  | vacant ready item claims resuming => exact ⟨ready, item, claims, resuming⟩
  | offered _ _ _ _ _ _ _ published | claimed _ _ _ _ _ _ _ published
  | moved _ _ _ _ _ _ published => exact absurd published waits

theorem Place.vacant_of_not_taking (h : Place s) (ready : s.stream.cell.ready = false)
    (untaken : s.taking = false) :
    s.stream.cell.item = none ∧ s.claims = [] ∧ s.resuming = [] := by
  cases h with
  | vacant _ item claims resuming => exact ⟨item, claims, resuming⟩
  | offered x offered => simp [ready] at offered
  | claimed p x _ _ claims => simp [taking, claims] at untaken
  | moved p _ _ _ resuming => simp [taking, resuming] at untaken

theorem Orderly.quiet (h : Orderly s) (ready : t.stream.cell.ready = s.stream.cell.ready)
    (item : t.stream.cell.item = s.stream.cell.item)
    (inspector : t.stream.cell.inspector = s.stream.cell.inspector)
    (claims : t.claims = s.claims) (resuming : t.resuming = s.resuming)
    (current : t.current = s.current) (delivery : t.delivery = s.delivery)
    (pause : paused s.stream.phase = true → paused t.stream.phase = true) : Orderly t := by
  have pending : t.pending = s.pending := by rw [pending, pending, delivery]
  constructor
  · exact h.place.stays ready item claims resuming current pause fun hn => pending ▸ hn
  · rw [inspector, delivery]
    exact h.locked
  · intro waits
    exact pause (h.admitted (pending ▸ waits))
  · intro p stage
    exact ready ▸ h.dropped p (delivery ▸ stage)

theorem orderly_attached (h : Orderly s) (lane : Nat) :
    Orderly { s with stream := (s.stream.attach lane).1, opening := false } := by
  rcases s.stream.attach_cases lane with ⟨idle, -, heq⟩ | heq <;> rw [heq]
  · have running : paused s.stream.phase = false := by rw [idle]; rfl
    obtain ⟨ready, item, claims, resuming⟩ := h.place.vacant_of_not_paused running
    refine ⟨.vacant ready item claims resuming, h.locked, ?_, h.dropped⟩
    intro waits
    exact absurd (h.admitted waits) (by simp [running])
  · exact h.quiet rfl rfl rfl rfl rfl rfl rfl id

theorem orderly_accepted (h : Orderly s) (p : Nat) (x : α) {lane : Nat} (idle : s.delivery = none)
    (reading : s.stream.phase = .reading lane) :
    Orderly { s with
      stream := { s.stream with phase := .held lane, items := s.stream.items + 1 }
      delivery := some (p, .admitted x) } := by
  have running : paused s.stream.phase = false := by rw [reading]; rfl
  obtain ⟨ready, item, claims, resuming⟩ := h.place.vacant_of_not_paused running
  refine ⟨.vacant ready item claims resuming, ?_, fun _ => rfl, ?_⟩
  · simpa [idle] using h.locked
  · rintro p' ⟨⟩

theorem orderly_published (h : Orderly s) (p : Nat) (x : α)
    (stage : s.delivery = some (p, .admitted x)) :
    Orderly { s.setCell { s.stream.cell with
        item := some x, ready := true, inspector := some p } with
      delivery := some (p, .showing), current := some x } := by
  have waits : s.pending ≠ [] := by simp [pending, stage]
  obtain ⟨-, -, claims, resuming⟩ := h.place.vacant_of_pending waits
  refine ⟨.offered x rfl rfl claims resuming rfl (h.admitted waits) rfl, rfl, ?_, ?_⟩
  · intro waits'
    exact absurd rfl waits'
  · rintro p' ⟨⟩

theorem orderly_left (h : Orderly s) (p : Nat) (e : Ending) :
    Orderly { s.setCell (s.stream.cell.endInspection e.cutShort) with
      delivery := if e.consumes then some (p, .discarding) else none } := by
  cases consumes : e.consumes with
  | true =>
      refine ⟨h.place.stays rfl rfl rfl rfl rfl id fun _ => rfl, rfl, ?_, ?_⟩
      · intro waits
        exact absurd rfl waits
      · rintro p' ⟨⟩
  | false =>
      refine ⟨h.place.stays rfl rfl rfl rfl rfl id fun _ => rfl, rfl, ?_, ?_⟩
      · intro waits
        exact absurd rfl waits
      · rintro p' ⟨⟩

theorem orderly_discarded (h : Orderly s) (p : Nat)
    (stage : s.delivery = some (p, .discarding)) :
    Orderly { s.setCell (s.stream.cell.take p).state with
      delivery := some (p, .refetching) } := by
  have unlocked : s.stream.cell.inspector = none := by
    rw [h.locked, stage]
  have outside : s.stream.cell.inspector ≠ some p := by simp [unlocked]
  refine ⟨?_, ?_, ?_, ?_⟩
  · rcases s.stream.cell.take_cases p with ⟨-, hs, -⟩ | ⟨-, ready, hs, -⟩
    · exact h.place.stays (by simp [hs]) (by simp [hs]) rfl rfl rfl id fun _ => rfl
    · cases h.place with
      | offered x _ _ claims resuming =>
          exact .vacant (by simp [hs]) (by simp [hs]) claims resuming
      | vacant lowered | claimed _ _ lowered | moved _ lowered => simp [ready] at lowered
  · simpa using unlocked
  · intro waits
    exact absurd rfl waits
  · intro _ _
    exact Cell.ready_take outside

theorem orderly_refetched (h : Orderly s) (p : Nat) (stage : s.delivery = some (p, .refetching))
    (orderly : (s.stream.refetch.2.isSome && s.taking) = false) :
    Orderly { s with stream := s.stream.refetch.1, delivery := none } := by
  have unlocked : s.stream.cell.inspector = none := by
    rw [h.locked, stage]
  have ready := h.dropped p stage
  rcases s.stream.refetch_cases with ⟨lane, -, -, heq⟩ | heq <;> rw [heq] at orderly ⊢
  · have untaken : s.taking = false := by simpa using orderly
    obtain ⟨item, claims, resuming⟩ := h.place.vacant_of_not_taking ready untaken
    refine ⟨.vacant ready item claims resuming, unlocked, ?_, ?_⟩
    · intro waits
      exact absurd rfl waits
    · rintro p' ⟨⟩
  · refine ⟨h.place.stays rfl rfl rfl rfl rfl id fun _ => rfl, unlocked, ?_, ?_⟩
    · intro waits
      exact absurd rfl waits
    · rintro p' ⟨⟩

theorem orderly_claimed (h : Orderly s) (p : Nat) (ready : s.stream.cell.ready = true) :
    Orderly { s.setCell { s.stream.cell with ready := false } with
      claims := (p, s.current) :: s.claims } := by
  refine ⟨?_, h.locked, h.admitted, fun _ _ => rfl⟩
  cases h.place with
  | offered x _ item claims resuming current pause published =>
      exact .claimed p x rfl item (by rw [claims, current]) resuming pause published
  | vacant lowered | claimed _ _ lowered | moved _ lowered => simp [ready] at lowered

theorem Place.found (h : Place s) {p : Nat} {due : Option α} (claim : (p, due) ∈ s.claims) :
    ∃ x, due = some x ∧ s.stream.cell.item = some x ∧ s.claims = [(p, some x)] ∧
      s.resuming = [] ∧ s.stream.cell.ready = false ∧ paused s.stream.phase = true ∧
      s.pending = [] := by
  cases h with
  | claimed p' x ready item claims resuming pause published =>
      obtain ⟨rfl, rfl⟩ : p = p' ∧ due = some x := by simpa [claims] using claim
      exact ⟨x, rfl, item, claims, resuming, ready, pause, published⟩
  | vacant _ _ claims | offered _ _ _ claims | moved _ _ _ claims => simp [claims] at claim

theorem orderly_took (h : Orderly s) {p : Nat} {due : Option α} (claim : (p, due) ∈ s.claims) :
    Orderly { s.setCell { s.stream.cell with item := none } with
      claims := s.claims.eraseP (fun c => c.1 = p)
      resuming := if s.stream.cell.item.isSome then p :: s.resuming else s.resuming } := by
  obtain ⟨x, -, item, claims, resuming, ready, pause, published⟩ := h.place.found claim
  refine ⟨?_, h.locked, h.admitted, h.dropped⟩
  exact .moved p ready rfl (by simp [claims]) (by simp [item, resuming]) pause published

theorem orderly_resumed (h : Orderly s) {p : Nat} (got : p ∈ s.resuming) :
    Orderly { s with stream := s.stream.resume.1, resuming := s.resuming.erase p } := by
  cases h.place with
  | moved p' ready item claims resuming pause published =>
      obtain rfl : p = p' := by simpa [resuming] using got
      refine ⟨.vacant ?_ ?_ claims (by simp [resuming]), ?_, ?_, ?_⟩
      · simpa using ready
      · simpa using item
      · simpa using h.locked
      · intro waits
        exact absurd published waits
      · intro p' stage
        simpa using h.dropped p' stage
  | vacant _ _ _ resuming | offered _ _ _ _ resuming | claimed _ _ _ _ _ resuming =>
      simp [resuming] at got

theorem orderly_moved (h : Orderly s) (hm : Moved s m q) (orderly : .overtook ∉ q.2) :
    Orderly q.1 := by
  cases hm with
  | attached lane => exact orderly_attached h lane
  | accepted p x idle reading => exact orderly_accepted h p x idle reading
  | published p x stage => exact orderly_published h p x stage
  | left p e => exact orderly_left h p e
  | discarded p stage => exact orderly_discarded h p stage
  | refetched p stage =>
      refine orderly_refetched h p stage ?_
      cases overtaken : s.stream.refetch.2.isSome && s.taking with
      | true => simp [overtaken] at orderly
      | false => rfl
  | ended => exact h.quiet rfl rfl rfl rfl rfl rfl rfl fun _ => rfl
  | claimed p _ ready => exact orderly_claimed h p ready
  | took p due claim => exact orderly_took h claim
  | resumed p got => exact orderly_resumed h got
  | launched | refused | rejected | closed | ignored | missed | cancelled =>
      exact h.quiet rfl rfl rfl rfl rfl rfl rfl id

/-! ## Runs -/

/-- What an event of an orderly run may be. -/
def Event.exact : Event α → Prop
  | published _ lost => lost = none
  | took _ due found => found = due ∧ due.isSome
  | _ => True

theorem exact_moved (h : Orderly s) (hm : Moved s m q) : ∀ e ∈ q.2, e.exact := by
  cases hm with
  | published p x stage =>
      have waits : s.pending ≠ [] := by simp [pending, stage]
      obtain ⟨-, item, -, -⟩ := h.place.vacant_of_pending waits
      simp [Event.exact, item]
  | took p due claim =>
      obtain ⟨x, rfl, item, -⟩ := h.place.found claim
      simp [Event.exact, item]
  | attached lane | resumed p =>
      intro e he
      obtain ⟨lane, -, rfl⟩ := List.mem_map.mp he
      trivial
  | refetched p stage =>
      intro e he
      rcases List.mem_append.mp he with asked | overtook
      · obtain ⟨lane, -, rfl⟩ := List.mem_map.mp asked
        trivial
      · split at overtook
        · obtain rfl := List.mem_singleton.mp overtook
          trivial
        · cases overtook
  | discarded | ignored | cancelled =>
      rintro e ⟨⟩
  | launched | refused | accepted | rejected | left | closed | ended | claimed | missed =>
      intro e he
      obtain rfl := List.mem_singleton.mp he
      trivial

theorem orderly_of_run {id : CallId} {timeout : Option Nat} {ms : List (Move α)}
    (h : (fresh id timeout).run ms = some (s, log)) (orderly : .overtook ∉ log) :
    Orderly s ∧ ∀ e ∈ log, e.exact := by
  refine (?_ : .overtook ∉ [] ++ log → Orderly s ∧ ∀ e ∈ [] ++ log, Event.exact e) orderly
  refine run_invariant
    (P := fun s log => .overtook ∉ log → Orderly s ∧ ∀ e ∈ log, Event.exact e) ?_ h ?_
  · intro s before m q hs hm orderly
    rw [List.mem_append, not_or] at orderly
    obtain ⟨inv, exact_before⟩ := hs orderly.1
    refine ⟨orderly_moved inv hm orderly.2, ?_⟩
    intro e he
    rcases List.mem_append.mp he with he | he
    · exact exact_before e he
    · exact exact_moved inv hm e he
  · intro _
    refine ⟨⟨.vacant rfl rfl rfl rfl, rfl, ?_, ?_⟩, ?_⟩
    · intro waits
      exact absurd rfl waits
    · rintro p ⟨⟩
    · rintro e ⟨⟩

/-- **Exact handover, unless a read overtakes a take.** However deliveries and takes are
interleaved, items leave the place in the order in which they were accepted and each at most once.
And as long as no read was asked for past a take under way, every item was published in an empty
place, every take that claimed an item got that item, and whenever an item is on offer the place
holds the item published last. -/
theorem exact_unless_overtaken {id : CallId} {timeout : Option Nat} {ms : List (Move α)}
    (h : (fresh id timeout).run ms = some (s, log)) :
    (taken log).Sublist (accepted log) ∧
    (.overtook ∉ log →
      (∀ x lost, .published x lost ∈ log → lost = none) ∧
      (∀ p due found, .took p due found ∈ log → found = due ∧ due.isSome) ∧
      (s.stream.cell.ready = true → s.stream.cell.item = s.current ∧ s.current.isSome)) := by
  refine ⟨?_, ?_⟩
  · have inv : Ledger s ([] ++ log) :=
      run_invariant (P := Ledger) ledger_moved h ⟨[], rfl, .slnil⟩
    obtain ⟨published, all, left⟩ := inv
    rw [List.nil_append] at all left
    rw [all]
    exact ((List.sublist_append_left _ _).trans left).trans (List.sublist_append_left _ _)
  · intro orderly
    obtain ⟨inv, exact⟩ := orderly_of_run h orderly
    refine ⟨fun x lost he => exact _ he, fun p due found he => exact _ he, ?_⟩
    intro ready
    cases inv.place with
    | offered x _ item _ _ current => simp [item, current]
    | vacant lowered | claimed _ _ lowered | moved _ lowered => simp [ready] at lowered

/-- One item is claimed while its callback runs and taken after it; the callback of the other
consumes it, and a take comes too late for that one. -/
def orderlyMoves : List (Move Nat) :=
  [.launch, .attach 0, .accept 9 1, .publish, .claim 1, .leave (.decided .hold), .extract 1,
    .resume 1, .accept 9 2, .publish, .leave (.decided .proceed), .discard, .claim 1, .refetch]

def orderlyLog : List (Event Nat) :=
  [.launched, .asked .opened 0, .accepted 1, .published 1 none, .claimed 1, .left (.decided .hold),
    .took 1 (some 1) (some 1), .asked .resumed 0, .accepted 2, .published 2 none,
    .left (.decided .proceed), .missed 1, .asked .continued 0]

theorem exact_unless_overtaken_moves : ∃ s,
    (fresh ⟨1⟩ none).run orderlyMoves = some (s, orderlyLog) ∧ .overtook ∉ orderlyLog ∧
      (taken orderlyLog).Sublist (accepted orderlyLog) ∧
      ∀ p due found, .took p due found ∈ orderlyLog → found = due ∧ due.isSome := by
  have h : (fresh ⟨1⟩ none).run orderlyMoves = some (_, orderlyLog) := rfl
  have orderly : .overtook ∉ orderlyLog := by decide
  obtain ⟨once, exact⟩ := exact_unless_overtaken h
  exact ⟨_, h, orderly, once, (exact orderly).2.1⟩

/-- At no time more items were delivered than reads were asked for. -/
def paced (log : List (Event α)) : Bool :=
  (List.range (log.length + 1)).all fun n =>
    (log.take n).countP (fun e => e matches .accepted _ | .rejected _) ≤
      (log.take n).countP (fun e => e matches .asked _ _)

/-- Item 1 is claimed by thread 1 while its callback runs. The callback consumes it, and the
delivery of item 2 is faster than the take. -/
def overtakingMoves : List (Move Nat) :=
  [.launch, .attach 0, .accept 9 1, .publish, .claim 1, .leave (.decided .proceed), .discard,
    .refetch, .accept 9 2, .publish, .leave (.decided .hold), .extract 1, .resume 1]

def overtakingLog : List (Event Nat) :=
  [.launched, .asked .opened 0, .accepted 1, .published 1 none, .claimed 1,
    .left (.decided .proceed), .asked .continued 0, .overtook, .accepted 2, .published 2 (some 1),
    .left (.decided .hold), .took 1 (some 1) (some 2), .asked .resumed 0]

/-- A read can overtake a take, with a transport that delivers one item for each read: item 1 is
overwritten before it is taken, the take that claimed it gets item 2, and that one is still on
offer, in an empty place. -/
theorem overtaken_take_gets_next : ∃ s,
    (fresh ⟨1⟩ none).run overtakingMoves = some (s, overtakingLog) ∧
      paced overtakingLog = true ∧
      .published 2 (some 1) ∈ overtakingLog ∧ .took 1 (some 1) (some 2) ∈ overtakingLog ∧
      s.stream.cell.ready = true ∧ s.stream.cell.item = none :=
  ⟨_, rfl, by decide, by decide, by decide, rfl, rfl⟩

end Exchange

end CallBridge
