import CallBridge.Proofs.Loopback.Pipeline

/-!
# From the service to the handlers

Every item of a stream becomes an event, every event gets its handler, and the handlers find their
items one after another, whatever the transport, the loop and the application do meanwhile, and
also when the call is cancelled while an item is held and its event still queued.

Two equations carry this. The stream's events, in the order in which their handlers began, then
those under way, then the one that a callback is about to enqueue, are one for each published item,
and that of the end behind them. And the handlers of items that have begun are as many as the items
taken, but for the one that is before or in the middle of its take.
-/

namespace CallBridge

namespace Pipeline

open Exchange (accepted taken)

variable {π α : Type}

/-! ## Views of a log -/

def streamed (log : List (Notice π α)) : List (Exchange.Event α) :=
  log.filterMap fun
    | .stream e => some e
    | .handling _ => none

def handled (log : List (Notice π α)) : List (Event π) :=
  log.filterMap fun
    | .stream _ => none
    | .handling e => some e

section

variable (log log' : List (Notice π α))

@[simp] theorem streamed_append : streamed (log ++ log') = streamed log ++ streamed log' :=
  List.filterMap_append

@[simp] theorem handled_append : handled (log ++ log') = handled log ++ handled log' :=
  List.filterMap_append

@[simp] theorem streamed_nil : streamed ([] : List (Notice π α)) = [] := rfl

@[simp] theorem handled_nil : handled ([] : List (Notice π α)) = [] := rfl

@[simp] theorem streamed_stream (es : List (Exchange.Event α)) :
    streamed (es.map .stream : List (Notice π α)) = es := by
  rw [streamed, List.filterMap_map]
  exact List.filterMap_some

@[simp] theorem handled_stream (es : List (Exchange.Event α)) :
    handled (es.map .stream : List (Notice π α)) = [] := by
  simp [handled, List.filterMap_map]

@[simp] theorem streamed_handling (es : List (Event π)) :
    streamed (es.map .handling : List (Notice π α)) = [] := by
  simp [streamed, List.filterMap_map]

@[simp] theorem handled_handling (es : List (Event π)) :
    handled (es.map .handling : List (Notice π α)) = es := by
  rw [handled, List.filterMap_map]
  exact List.filterMap_some

end

/-! ## The invariant -/

/-- The items that were published: those taken and the one in the place. -/
def published (x : Exchange α) (log : List (Exchange.Event α)) : Nat :=
  (taken log).length + x.stream.cell.item.toList.length

/-- The events of the end that the task of the stream has brought about. -/
def ending (w : Wiring π) : Loopback.StreamTask α → List (Event π)
  | .done => [w.lastEvent]
  | _ => []

/-- What holds in every pipeline, by what was seen of the stream and which handlers have begun. -/
structure Passing (w : Wiring π) (c : Link.Service α) (s : Pipeline π α)
    (seen : List (Exchange.Event α)) (begun : List (Event π)) : Prop where
  kept : Link.Kept c s.link seen
  held : Exchange.Held s.link.exchange seen
  dated : Station.Dated s.station
  known : ∀ e, w.owns e = true → s.station.loop.hasHandler e.name = true
  apart : apart s.link.exchange s.station = true
  flow : (begun ++ (s.station.underway ++ s.owed.toList)).filter w.owns =
    .replicate (published s.link.exchange seen) w.itemEvent ++ ending w s.link.task
  count : begun.countP w.isItem =
    (taken seen).length + s.link.exchange.claims.length + s.due.toNat
  fruitful : ∀ e ∈ seen, e.isMiss = false
  owes : s.link.exchange.pending ≠ [] → s.owed = none
  due : s.due = true → s.link.exchange.taking = false
  latest : s.busy = true → s.station.post.isHandling = true ∧
    ∃ before e, begun = before ++ [e] ∧ w.isItem e = true

variable {w : Wiring π} {c : Link.Service α} {s : Pipeline π α}
  {seen : List (Exchange.Event α)} {begun : List (Event π)}

/-- No more handlers of items have begun than items were published. -/
theorem Passing.begun_le (h : Passing w c s seen begun) :
    begun.countP w.isItem ≤ published s.link.exchange seen := by
  have flow := congrArg (List.countP w.isItem) h.flow
  have ends : (ending w s.link.task).countP w.isItem = 0 := by
    unfold ending
    split <;> simp
  rw [w.countP_filter_owns, List.countP_append, List.countP_append, List.countP_append, ends,
    List.countP_replicate] at flow
  simp only [Wiring.isItem_itemEvent, if_true] at flow
  omega

/-! ## Moves of the stream and the transport -/

theorem pending_of_over {l : Link α} (h : Link.Kept c l seen) (finished : l.task = .done) :
    l.exchange.pending = [] := by
  cases h.course with
  | finished _ _ _ _ published => exact published
  | fresh task | waiting _ task | pausing _ _ task | closing task => simp [task] at finished

theorem unsettled_of_going {l : Link α} (h : Link.Kept c l seen) (goes : l.task ≠ .done) :
    l.exchange.stream.cell.status = none := by
  cases h.course with
  | finished _ _ task => exact absurd task goes
  | fresh _ _ _ _ _ live | waiting _ _ _ _ _ live | pausing _ _ _ _ _ _ live => exact live.status
  | closing _ _ _ _ status => exact status

theorem ending_of_going (w : Wiring π) {t : Loopback.StreamTask α} (goes : t ≠ .done) :
    ending w t = [] := by
  unfold ending
  split
  · exact absurd rfl goes
  · rfl

/-- A move that leaves the place and the takes alone, and owes the loop some new event at most. -/
theorem Passing.elsewhere (h : Passing w c s seen begun) {l : Link α}
    {es : List (Exchange.Event α)} (owed : Option (Event π)) (new : List (Event π))
    (kept : Link.Moved c s.link (l, es))
    (held : Exchange.Held l.exchange (seen ++ es))
    (apart : Pipeline.apart l.exchange s.station = true)
    (same : Exchange.Untouched s.link.exchange (l.exchange, es))
    (owed_new : owed.toList = s.owed.toList ++ new) (own : new.filter w.owns = new)
    (ends : ending w l.task = ending w s.link.task ++ new)
    (owes : l.exchange.pending ≠ [] → owed = none) :
    Passing w c { s with link := l, owed } (seen ++ es) begun := by
  have item : l.exchange.stream.cell.item = s.link.exchange.stream.cell.item := same.item
  have claims : l.exchange.claims = s.link.exchange.claims := same.claims
  have taking : l.exchange.taking = s.link.exchange.taking := by
    rw [Exchange.taking, claims, same.resuming]
    rfl
  refine ⟨Link.kept_moved h.kept kept, held, h.dated, h.known, apart, ?_, ?_, ?_, owes, ?_, ?_⟩
  · have count : published l.exchange (seen ++ es) = published s.link.exchange seen := by
      simp [published, same.takes, item]
    rw [count, ends]
    calc
      _ = (begun ++ (s.station.underway ++ s.owed.toList)).filter w.owns ++ new := by
        simp [owed_new, own]
      _ = _ := by rw [h.flow, List.append_assoc]
  · rw [Exchange.taken_append, same.takes, List.append_nil, claims]
    exact h.count
  · intro e he
    exact (List.mem_append.mp he).elim (h.fruitful e) (same.misses e)
  · intro due
    rw [taking]
    exact h.due due
  · intro busy
    refine h.latest ?_
    simpa [Pipeline.busy, taking] using busy

/-- The callback of an item is to enqueue its event, which comes after all the others. -/
theorem passing_published (h : Passing w c s seen begun)
    {q : Exchange α × List (Exchange.Event α)}
    (moved : Exchange.Moved s.link.exchange .publish q) :
    Passing w c { s with link := { s.link with exchange := q.1 }, owed := some w.itemEvent }
      (seen ++ q.2) begun := by
  have kept := Link.kept_aside h.kept moved rfl s.link.deadline
  have held := Exchange.held_moved h.held moved nofun
  cases moved with
  | published p x stage =>
      have waits : s.link.exchange.pending ≠ [] := by simp [Exchange.pending, stage]
      obtain ⟨-, item, -, -⟩ := h.held.orderly.place.vacant_of_pending waits
      have going : s.link.task ≠ .done := fun finished => waits (pending_of_over h.kept finished)
      refine ⟨kept, held, h.dated, h.known, ?_, ?_, ?_, ?_, ?_, h.due, h.latest⟩
      · simpa [Pipeline.apart, stage] using h.apart
      · have before : published s.link.exchange seen = (taken seen).length := by
          simp [published, item]
        have flow := h.flow
        rw [h.owes waits, ending_of_going w going, before] at flow
        rw [ending_of_going w going]
        calc
          _ = (begun ++ (s.station.underway ++ [])).filter w.owns ++ [w.itemEvent] := by simp
          _ = .replicate (taken seen).length w.itemEvent ++ [w.itemEvent] := by
            rw [← List.append_nil (List.replicate _ _)]
            exact congrArg (· ++ _) flow
          _ = _ := by simp [published, List.replicate_succ']
      · simpa using h.count
      · simpa [or_imp, forall_and] using h.fruitful
      · intro waits'
        exact absurd rfl waits'

/-- A move that leaves the delivery alone too, and the events that are owed. -/
theorem Passing.aside (h : Passing w c s seen begun) {l : Link α}
    {es : List (Exchange.Event α)} (kept : Link.Moved c s.link (l, es))
    (held : Exchange.Held l.exchange (seen ++ es))
    (same : Exchange.Untouched s.link.exchange (l.exchange, es))
    (delivery : l.exchange.delivery = s.link.exchange.delivery)
    (goes : l.task = s.link.task) : Passing w c { s with link := l } (seen ++ es) begun := by
  refine h.elsewhere s.owed [] kept held ?_ same (by simp) rfl (by simp [goes]) ?_
  · rw [Pipeline.apart, delivery]
    exact h.apart
  · rw [Exchange.pending, delivery]
    exact h.owes

theorem passing_around (h : Passing w c s seen begun) {m : Exchange.Move α}
    {q : Exchange α × List (Exchange.Event α)} (deadline : Option Nat)
    (moved : Exchange.Moved s.link.exchange m q)
    (idle : m = .launch ∨ (∃ lane, m = .attach lane) ∨ m = .cancel) :
    Passing w c { s with link := { s.link with exchange := q.1, deadline } } (seen ++ q.2)
      begun := by
  have holds : m.Holds := by
    rintro e rfl
    simp at idle
  have outside : m.isAround = true ∧ m.isElsewhere = true := by
    rcases idle with rfl | ⟨lane, rfl⟩ | rfl <;> exact ⟨rfl, rfl⟩
  have unbroken : m ≠ .leave .brokenOff := by
    rintro rfl
    simp at idle
  have delivery : q.1.delivery = s.link.exchange.delivery := by
    rcases idle with rfl | ⟨lane, rfl⟩ | rfl <;> cases moved <;> rfl
  exact h.aside (.aside deadline moved outside.1 unbroken) (Exchange.held_moved h.held moved holds)
    (Exchange.untouched_moved moved outside.2) delivery rfl

theorem unended_of_moved {x : Exchange α} {m : Exchange.Move α}
    {q : Exchange α × List (Exchange.Event α)} (moved : Exchange.Moved x m q)
    (goes : ∀ status, m ≠ .finish status) : q.2.any (fun e => e matches .ended _) = false := by
  cases moved with
  | ended status => exact absurd rfl (goes status)
  | attached | resumed => simp [Exchange.asks]
  | refetched =>
      rw [List.any_append]
      split <;> simp [Exchange.asks]
  | _ => rfl

theorem ended_of_finish {x : Exchange α} {status : Status}
    {q : Exchange α × List (Exchange.Event α)} (moved : Exchange.Moved x (.finish status) q)
    (first : x.stream.cell.status = none) : q.2.any (fun e => e matches .ended _) = true := by
  cases moved with
  | ended => rfl
  | ignored _ again => simp [first] at again

theorem passing_polled (h : Passing w c s seen begun) {p : Nat}
    {q : Link α × List (Exchange.Event α)} (clear : s.owed = none)
    (runnable : s.link.runnable p = true) (poll : s.link.poll c p = some q)
    (apart : Pipeline.apart q.1.exchange s.station = true) :
    Passing w c { s with
        link := q.1
        owed := if q.2.any (fun e => e matches .ended _) then some w.lastEvent else none }
      (seen ++ q.2) begun := by
  have kept : Link.Moved c s.link q := .polled p runnable poll
  cases Link.polled_of_poll poll with
  | @quiet l exchange goes =>
      have same : Exchange.Untouched s.link.exchange (l.exchange, []) := by
        rw [exchange]
        exact ⟨rfl, rfl, rfl, rfl, nofun⟩
      refine h.elsewhere none [] kept ?_ apart same (by simp [clear]) rfl ?_ (fun _ => rfl)
      · rw [List.append_nil, exchange]
        exact h.held
      · by_cases finished : s.link.task = .done
        · rw [goes.mpr finished, finished, List.append_nil]
        · have going : l.task ≠ .done := fun now => finished (goes.mp now)
          rw [ending_of_going w finished, ending_of_going w going]
          rfl
  | @reported m l es moved report goes =>
      have holds : m.Holds := by
        rintro e rfl
        simp at report
      have elsewhere : m.isElsewhere = true := by
        rcases report with ⟨x, rfl⟩ | rfl <;> rfl
      have unended : es.any (fun e => e matches .ended _) = false := by
        refine unended_of_moved moved ?_
        rintro status rfl
        simp at report
      have ends : ending w l.task = ending w s.link.task ++ [] := by
        rw [ending_of_going w goes.1, ending_of_going w goes.2]
        rfl
      rw [unended]
      exact h.elsewhere none [] kept (Exchange.held_moved h.held moved holds) apart
        (Exchange.untouched_moved moved elsewhere) (by simp [clear]) rfl ends fun _ => rfl
  | @ended status l es moved goes finished =>
      have ended : es.any (fun e => e matches .ended _) = true :=
        ended_of_finish moved (unsettled_of_going h.kept goes)
      have ends : ending w l.task = ending w s.link.task ++ [w.lastEvent] := by
        rw [ending_of_going w goes, finished]
        rfl
      rw [ended]
      refine h.elsewhere (some w.lastEvent) [w.lastEvent] kept
        (Exchange.held_moved h.held moved nofun) apart
        (Exchange.untouched_moved moved rfl) (by simp [clear]) (by simp) ends ?_
      intro waits
      exact absurd (pending_of_over (Link.kept_moved h.kept kept) finished) waits

theorem passing_held (h : Passing w c s seen begun) {q : Exchange α × List (Exchange.Event α)}
    (moved : Exchange.Moved s.link.exchange (.leave (.decided .hold)) q) :
    Passing w c { s with link := { s.link with exchange := q.1 } } (seen ++ q.2) begun := by
  have holds : (Exchange.Move.leave (.decided .hold) : Exchange.Move α).Holds := by
    rintro e ⟨⟩
    rfl
  have kept : Link.Moved c s.link ({ s.link with exchange := q.1 }, q.2) :=
    .aside s.link.deadline moved rfl nofun
  have held := Exchange.held_moved h.held moved holds
  cases moved with
  | left p e stage =>
      refine h.elsewhere s.owed [] kept held ?_ ?_ (by simp) rfl (by simp) ?_
      · simp [Pipeline.apart, Session.Ending.consumes]
      · exact ⟨rfl, rfl, rfl, rfl, by simp⟩
      · intro waits
        simp [Exchange.pending, Session.Ending.consumes] at waits

theorem passing_told (h : Passing w c s seen begun) (p : Nat) {e : Event π}
    (owes : s.owed = some e) :
    Passing w c { s with station := (s.station.enqueue p e).1, owed := none } seen begun := by
  have dated := Station.dated_operated h.dated (Station.operated_enqueue s.station p e)
  rw [Station.enqueue_there h.dated.there] at dated ⊢
  refine ⟨h.kept, h.held, dated, h.known, h.apart, ?_, h.count, h.fruitful, fun _ => rfl, h.due,
    h.latest⟩
  rw [← h.flow, owes]
  simp [Station.underway]

/-! ## The take of a handler -/

/-- A take that is due finds the item on offer. -/
theorem Passing.offered (h : Passing w c s seen begun) (due : s.due = true) :
    s.link.exchange.stream.cell.ready = true ∧ s.link.exchange.claims = [] := by
  have untaken := h.due due
  have le := h.begun_le
  rw [h.count, due, published] at le
  cases h.held.orderly.place with
  | offered x ready item claims => exact ⟨ready, claims⟩
  | claimed p x ready item claims => simp [Exchange.taking, claims] at untaken
  | vacant ready item | moved p ready item =>
      simp only [item, Option.toList_none, List.length_nil, Bool.toNat_true] at le
      omega

theorem Passing.undue (h : Passing w c s seen begun) (taking : s.link.exchange.taking = true) :
    s.due = false := by
  cases due : s.due with
  | false => rfl
  | true => exact absurd (taking.symm.trans (h.due due)) nofun

/-- The thread that consumes is not the one whose callback has the item. -/
theorem Passing.outside (h : Passing w c s seen begun) {p : Nat}
    (consumer : s.station.loop.consumer = some p) :
    s.link.exchange.stream.cell.inspector ≠ some p := by
  intro inside
  have apart := h.apart
  rw [Pipeline.apart, consumer, Option.all_some] at apart
  rw [h.held.orderly.locked] at inside
  split at inside
  · next p' stage =>
      rw [stage, ← Option.some.inj inside] at apart
      simp at apart
  · cases inside

theorem passing_claimed (h : Passing w c s seen begun) {p : Nat}
    {q : Exchange α × List (Exchange.Event α)} (consumer : s.station.loop.consumer = some p)
    (due : s.due = true) (moved : Exchange.Moved s.link.exchange (.claim p) q) :
    Passing w c { s with link := { s.link with exchange := q.1 }, due := false }
      (seen ++ q.2) begun := by
  obtain ⟨ready, untaken⟩ := h.offered due
  have latest := h.latest (by simp [busy, due])
  have outside := h.outside consumer
  have kept := Link.kept_aside h.kept moved rfl s.link.deadline
  have held := Exchange.held_moved h.held moved nofun
  cases moved with
  | claimed =>
      refine ⟨kept, held, h.dated, h.known, h.apart, ?_, ?_, ?_, h.owes, nofun, fun _ => latest⟩
      · simpa [published] using h.flow
      · have count := h.count
        rw [due, untaken] at count
        simpa [untaken] using count
      · simpa [or_imp, forall_and] using h.fruitful
  | missed _ nothing => simp [outside, ready] at nothing

theorem passing_took (h : Passing w c s seen begun) {p : Nat}
    {q : Exchange α × List (Exchange.Event α)}
    (moved : Exchange.Moved s.link.exchange (.extract p) q) :
    Passing w c { s with link := { s.link with exchange := q.1 } } (seen ++ q.2) begun := by
  have kept := Link.kept_aside h.kept moved rfl s.link.deadline
  have held := Exchange.held_moved h.held moved nofun
  cases moved with
  | took _ due claim =>
      obtain ⟨x, rfl, item, claims, resuming, -⟩ := h.held.orderly.place.found claim
      have taking : s.link.exchange.taking = true := by simp [Exchange.taking, claims]
      have undue := h.undue taking
      refine ⟨kept, held, h.dated, h.known, h.apart, ?_, ?_, ?_, h.owes, ?_, ?_⟩
      · simpa [published, item] using h.flow
      · simpa [item, claims] using h.count
      · simpa [item, or_imp, forall_and] using h.fruitful
      · simp [undue]
      · intro _
        exact h.latest (by simp [busy, taking])

theorem passing_resumed (h : Passing w c s seen begun) {p : Nat}
    {q : Exchange α × List (Exchange.Event α)}
    (moved : Exchange.Moved s.link.exchange (.resume p) q) :
    Passing w c { s with link := { s.link with exchange := q.1 } } (seen ++ q.2) begun := by
  have kept := Link.kept_aside h.kept moved rfl s.link.deadline
  have held := Exchange.held_moved h.held moved nofun
  cases moved with
  | resumed _ got =>
      have taking : s.link.exchange.taking = true := by
        simp [Exchange.taking, List.ne_nil_of_mem got]
      have undue := h.undue taking
      refine ⟨kept, held, h.dated, h.known, h.apart, ?_, ?_, ?_, h.owes, ?_, ?_⟩
      · simpa [published] using h.flow
      · simpa using h.count
      · simpa [Exchange.asks, or_imp, forall_and] using h.fruitful
      · simp [undue]
      · intro _
        exact h.latest (by simp [busy, taking])

/-! ## The loop -/

/-- What the loop takes of the stream's events goes to their handlers. -/
theorem Passing.passed (h : Passing w c s seen begun) {p : Station π × List (Station.Notice π)}
    (ho : Station.Operated s.station p) (foreign : ∀ e ∈ Station.sent p.2, w.owns e = false) :
    s.station.underway.filter w.owns =
      (s.station.post.begins p.1.post).toList.filter w.owns ++ p.1.underway.filter w.owns := by
  obtain ⟨gone, through, left⟩ := Station.underway_operated h.dated ho
  have unsent : (Station.sent p.2).filter w.owns = [] := by
    simpa [List.filter_eq_nil_iff] using foreign
  have all := congrArg (List.filter w.owns) through
  rw [List.filter_append, List.filter_append, unsent, List.append_nil] at all
  rw [all]
  rcases left with rfl | ⟨unbegun, e, rfl, unknown⟩
  · rfl
  · have other : ¬w.owns e = true := fun own => absurd (unknown.symm.trans (h.known e own)) nofun
    simp [unbegun, other]

/-- Where a handler begins there was none before and no take under way. -/
theorem Passing.idle_of_begins (h : Passing w c s seen begun) {post : Station.Post π} {e : Event π}
    (begins : s.station.post.begins post = some e) :
    s.due = false ∧ s.link.exchange.taking = false := by
  have idle : s.busy = false := by
    cases busy : s.busy with
    | false => rfl
    | true =>
        have handling := (h.latest busy).1
        rw [Station.Post.begins_of_handling handling] at begins
        cases begins
  simpa [busy] using idle

/-- What is done with the loop or by it leaves the order of the stream's events alone. The handler
of an item that begins is the only one. -/
theorem passing_operated (h : Passing w c s seen begun)
    {p : Station π × List (Station.Notice π)} (ho : Station.Operated s.station p)
    (foreign : ∀ e ∈ Station.sent p.2, w.owns e = false)
    (stays : s.busy = true → p.1.post.isHandling = true)
    (apart : Pipeline.apart s.link.exchange p.1 = true) :
    Passing w c { s with
        station := p.1
        due := s.due || (s.station.post.begins p.1.post).any w.isItem }
      seen (begun ++ (s.station.post.begins p.1.post).toList) := by
  have dated := Station.dated_operated h.dated ho
  have known : ∀ e, w.owns e = true → p.1.loop.hasHandler e.name = true :=
    fun e own => Station.hasHandler_operated ho (h.known e own)
  have flow : (begun ++ (s.station.post.begins p.1.post).toList ++
      (p.1.underway ++ s.owed.toList)).filter w.owns =
        .replicate (published s.link.exchange seen) w.itemEvent ++ ending w s.link.task := by
    rw [← h.flow]
    simp [h.passed ho foreign]
  cases begins : s.station.post.begins p.1.post with
  | none =>
      rw [begins] at flow
      refine ⟨h.kept, h.held, dated, known, apart, flow, ?_, h.fruitful, h.owes, ?_, ?_⟩
      · simpa using h.count
      · simpa using h.due
      · intro busy
        have before : s.busy = true := by simpa [Pipeline.busy] using busy
        refine ⟨stays before, ?_⟩
        simpa using (h.latest before).2
  | some e =>
      rw [begins] at flow
      have idle := h.idle_of_begins begins
      refine ⟨h.kept, h.held, dated, known, apart, flow, ?_, h.fruitful, h.owes, ?_, ?_⟩
      · have count := h.count
        rw [idle.1] at count
        cases item : w.isItem e <;> simp [item, count, idle.1]
      · exact fun _ => idle.2
      · intro busy
        have item : w.isItem e = true := by simpa [Pipeline.busy, idle.1, idle.2] using busy
        exact ⟨Station.Post.handling_of_begins begins, begun, e, rfl, item⟩

theorem passing_moved (h : Passing w c s seen begun)
    {q : Pipeline π α × List (Notice π α)} (hm : Moved w c s q) :
    Passing w c q.1 (seen ++ streamed q.2) (begun ++ handled q.2) := by
  cases hm with
  | around deadline moved idle => simpa using passing_around h deadline moved idle
  | overflowed first =>
      have held : Exchange.Held s.link.overflow.exchange seen := h.held.overflow
      simpa using h.aside (.overflowed first) (by simpa using held)
        ⟨rfl, rfl, rfl, rfl, nofun⟩ rfl rfl
  | ticked n =>
      simpa using h.aside (.ticked n) (by simpa using h.held) ⟨rfl, rfl, rfl, rfl, nofun⟩ rfl rfl
  | returned =>
      simpa using h.aside .returned (by simpa using h.held) ⟨rfl, rfl, rfl, rfl, nofun⟩ rfl rfl
  | polled p clear runnable poll apart =>
      simp only [streamed_stream, handled_stream, List.append_nil]
      exact passing_polled h clear runnable poll apart
  | published moved => simpa using passing_published h moved
  | told p owes => simpa using passing_told h p owes
  | held clear moved => simpa using passing_held h moved
  | claimed consumer due moved => simpa using passing_claimed h consumer due moved
  | took moved => simpa using passing_took h moved
  | resumed moved => simpa using passing_resumed h moved
  | operated ho foreign stays apart => simpa using passing_operated h ho foreign stays apart

/-! ## Runs -/

/-- The loop has the handlers of the stream and no event of it yet. -/
structure Ready (w : Wiring π) (station : Station π) : Prop where
  item : station.loop.hasHandler w.item = true
  last : station.loop.hasHandler w.last = true
  unused : ∀ e ∈ station.underway, w.owns e = false

theorem Ready.known {station : Station π} (h : Ready w station) {e : Event π}
    (own : w.owns e = true) : station.loop.hasHandler e.name = true := by
  simp only [Wiring.owns, Wiring.isItem, Wiring.isLast, Bool.or_eq_true, decide_eq_true_eq] at own
  rcases own with ⟨-, name⟩ | ⟨-, name⟩
  · exact name ▸ h.item
  · exact name ▸ h.last

theorem passing_of_run {policy : LoopPolicy} {os : List (Station.Operation π)}
    {station : Station π} {past : List (Station.Notice π)}
    (used : (Station.fresh policy).operations os = some (station, past)) (ready : Ready w station)
    {timeout : Option Nat} {ms : List (Move π)} {log : List (Notice π α)}
    (h : (fresh w timeout station).run w c ms = some (s, log)) :
    Passing w c s (streamed log) (handled log) := by
  have dated : Station.Dated station :=
    @Station.operations_invariant π (fun s _ => Station.Dated s)
      (fun dated ho => Station.dated_operated dated ho) os _ _ [] past used
      (Station.dated_fresh policy)
  show Passing w c s (streamed ([] ++ log)) (handled ([] ++ log))
  refine run_invariant (P := fun s log => Passing w c s (streamed log) (handled log)) ?_ h ?_
  · intro s before q hs hm
    rw [streamed_append, handled_append]
    exact passing_moved hs hm
  · refine ⟨Link.kept_fresh c _ _, Exchange.held_fresh _ _, dated, fun _ => ready.known, ?_, ?_,
      rfl, nofun, fun _ => rfl, nofun, nofun⟩
    · simp [Pipeline.apart, fresh, Link.fresh, Exchange.fresh]
    · show ([] ++ (station.underway ++ [])).filter w.owns = []
      rw [List.nil_append, List.append_nil]
      simpa [List.filter_eq_nil_iff] using ready.unused

/-- The handlers of items begin before that of the end, which is the last and finds nothing left. -/
theorem Passing.order (h : Passing w c s seen begun) :
    (∃ n, begun.filter w.owns = .replicate n w.itemEvent) ∨
      begun.filter w.owns =
        .replicate (published s.link.exchange seen) w.itemEvent ++ [w.lastEvent] ∧
        (s.station.underway ++ s.owed.toList).filter w.owns = [] ∧ s.link.task = .done := by
  have flow := h.flow
  rw [List.filter_append] at flow
  rcases List.append_eq_append_iff.mp flow with ⟨rest, items, -⟩ | ⟨more, split, last⟩
  · exact .inl ⟨_, (List.append_eq_replicate_iff.mp items.symm).2.1⟩
  · by_cases finished : s.link.task = .done
    · rw [finished] at last
      rcases List.singleton_eq_append_iff.mp last with ⟨rfl, -⟩ | ⟨rfl, left⟩
      · exact .inl ⟨_, by rw [split, List.append_nil]⟩
      · exact .inr ⟨split, left, finished⟩
    · rw [ending_of_going w finished] at last
      obtain ⟨rfl, -⟩ := List.nil_eq_append_iff.mp last
      exact .inl ⟨_, by rw [split, List.append_nil]⟩

/-- When the handler of the end has begun, all that was accepted has been taken. -/
theorem Passing.emptied (h : Passing w c s seen begun) (last : w.lastEvent ∈ begun) :
    s.busy = false ∧ s.link.exchange.stream.cell.ready = false ∧
      s.link.exchange.stream.cell.item = none ∧ accepted seen = taken seen ∧
      ∀ e ∈ s.station.underway, w.owns e = false := by
  rcases h.order with ⟨n, items⟩ | ⟨all, left, finished⟩
  · have found : w.lastEvent ∈ begun.filter w.owns := List.mem_filter.mpr ⟨last, by simp⟩
    rw [items] at found
    have other := congrArg w.isItem (List.eq_of_mem_replicate found)
    simp at other
  · have idle : s.busy = false := by
      cases busy : s.busy with
      | false => rfl
      | true =>
          obtain ⟨-, before, e, rfl, item⟩ := h.latest busy
          have tail : [e].filter w.owns = [e] := by simp [w.owns_of_isItem item]
          rw [List.filter_append, tail] at all
          have same : e = w.lastEvent := by simpa using List.append_inj_right' all rfl
          simp [same] at item
    obtain ⟨undue, untaken⟩ : s.due = false ∧ s.link.exchange.taking = false := by
      simpa [busy] using idle
    have balance := h.held.nothing_lost
    rw [pending_of_over h.kept finished, List.append_nil] at balance
    have unclaimed : ∀ e ∈ s.station.underway, w.owns e = false := by
      intro e he
      simpa using List.filter_eq_nil_iff.mp left e (List.mem_append_left _ he)
    cases h.held.orderly.place with
    | vacant ready item =>
        refine ⟨idle, ready, item, ?_, unclaimed⟩
        rw [balance, item]
        exact List.append_nil _
    | offered x ready item claims =>
        -- The handlers that have begun have taken one item less than there are.
        have items : begun.countP w.isItem = published s.link.exchange seen := by
          rw [← w.countP_filter_owns, all]
          simp [List.countP_replicate]
        have count := h.count
        rw [items, undue, claims, published, item] at count
        simp at count
    | claimed p x ready item claims => simp [Exchange.taking, claims] at untaken
    | moved p ready item claims resuming => simp [Exchange.taking, resuming] at untaken

/-- **The handlers take what the service gives.** Whatever goes on in the stream, its transport and
the loop, and whenever the call is cancelled or its deadline passes: no take of a handler is
answered with nothing, and each handler of an item takes one item; what they take are the first
items of the service's list; the handler of the end begins once at the most, and after those of all
items; and when it has begun, what was taken are as many items as the stream has received, none is
left in the place, and no event of the stream is under way. -/
theorem handled_before_end {policy : LoopPolicy} {os : List (Station.Operation π)}
    {station : Station π} {past : List (Station.Notice π)}
    (used : (Station.fresh policy).operations os = some (station, past)) (ready : Ready w station)
    {timeout : Option Nat} {ms : List (Move π)} {log : List (Notice π α)}
    (h : (fresh w timeout station).run w c ms = some (s, log)) :
    (∀ e, .stream e ∈ log → e.isMiss = false) ∧
    (s.busy = false → (handled log).countP w.isItem = (taken (streamed log)).length) ∧
    (∃ n, (handled log).filter w.owns = .replicate n w.itemEvent ∨
      (handled log).filter w.owns = .replicate n w.itemEvent ++ [w.lastEvent]) ∧
    ∀ items, c.serve = .ok items →
      taken (streamed log) <+: items ∧
      (w.lastEvent ∈ handled log →
        taken (streamed log) = items.take s.link.exchange.stream.items ∧
        s.busy = false ∧ s.link.exchange.stream.cell.ready = false ∧
        s.link.exchange.stream.cell.item = none ∧ ∀ e ∈ s.station.underway, w.owns e = false) := by
  have passing := passing_of_run used ready h
  refine ⟨?_, ?_, ?_, ?_⟩
  · intro e he
    exact passing.fruitful e (List.mem_filterMap.mpr ⟨_, he, rfl⟩)
  · intro idle
    obtain ⟨undue, untaken⟩ : s.due = false ∧ s.link.exchange.taking = false := by
      simpa [busy] using idle
    have unclaimed : s.link.exchange.claims = [] := by
      simp only [Exchange.taking, Bool.or_eq_false_iff] at untaken
      simpa using untaken.1
    rw [passing.count, undue, unclaimed]
    rfl
  · rcases passing.order with ⟨n, items⟩ | ⟨all, -, -⟩
    · exact ⟨n, .inl items⟩
    · exact ⟨_, .inr all⟩
  · intro items serve
    have given : accepted (streamed log) <+: items := passing.kept.given.1 items serve
    have balance := passing.held.nothing_lost
    refine ⟨?_, ?_⟩
    · rw [balance, List.append_assoc] at given
      exact (List.prefix_append _ _).trans given
    · intro last
      obtain ⟨idle, lowered, empty, all, unused⟩ := passing.emptied last
      refine ⟨?_, idle, lowered, empty, unused⟩
      rw [← all, ← passing.kept.counted.items]
      exact List.prefix_iff_eq_take.mp given

def exampleWiring : Wiring Unit where
  call := ⟨1⟩
  payload := ()
  item := "ListOnItem"
  last := "ListOnEnd"
  distinct := by decide

/-- The handlers are registered, and the loop has met an event of something else. -/
def earlierOperations : List (Station.Operation Unit) :=
  [.register "ListOnItem", .register "ListOnEnd", .enqueue 3 { name := "Other" }, .run,
    .begin Thread.main, .turn, .call]

def usedStation : Station Unit where
  loop :=
    { policy := {}, receiver := .away, running := true, epoch := 1
      consumer := some Thread.main.serial, handlers := ["ListOnItem", "ListOnEnd"] }
  post := .ready 1

/-- The handler of the first item begins while the callback is still running. The call is cancelled
while the second item is held and its event is queued. -/
def cancelledMoves : List (Move Unit) :=
  [.launch, .poll 9, .attach 0, .poll 9, .poll 9, .publish, .tell 9, .loop .turn, .loop .call,
    .claim, .hold, .extract, .resume, .loop (.settle .succeeded), .poll 9, .poll 9, .publish,
    .tell 9, .hold, .cancel, .poll 9, .tell 9, .back, .loop .turn, .loop .call, .claim, .extract,
    .resume, .loop (.settle .succeeded), .loop .turn, .loop .call]

theorem handled_before_end_cancelled : ∃ past s log,
    (Station.fresh {}).operations earlierOperations = some (usedStation, past) ∧
    Ready exampleWiring usedStation ∧
    (fresh exampleWiring none usedStation).run exampleWiring ⟨0, .ok [1, 2, 3]⟩ cancelledMoves =
      some (s, log) ∧
    exampleWiring.lastEvent ∈ handled log ∧ s.link.exchange.stream.items = 2 ∧
    taken (streamed log) = [1, 2, 3].take 2 ∧ s.busy = false := by
  have used : (Station.fresh {}).operations earlierOperations = some (usedStation, _) := rfl
  have ready : Ready exampleWiring usedStation := ⟨by decide, by decide, by decide⟩
  have h : (fresh exampleWiring none usedStation).run exampleWiring ⟨0, .ok [1, 2, 3]⟩
    cancelledMoves = some (_, _) := rfl
  obtain ⟨-, -, -, items⟩ := handled_before_end used ready h
  have last : exampleWiring.lastEvent ∈
    [exampleWiring.itemEvent, exampleWiring.itemEvent, exampleWiring.lastEvent] := by simp
  obtain ⟨all, idle, -⟩ := (items _ rfl).2 last
  exact ⟨_, _, _, used, ready, h, last, rfl, all, idle⟩

end Pipeline

end CallBridge
