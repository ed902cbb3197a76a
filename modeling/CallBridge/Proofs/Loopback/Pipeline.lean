import CallBridge.Proofs.Loop.Handlers
import CallBridge.Proofs.Loopback.Contract
import CallBridge.Proofs.Stream.Holding

/-!
# Pipelines: a stream whose items are taken on an event loop

The application ties a stream to a loop by its callbacks. That of an item enqueues an event and
holds the stream; that of the end enqueues another event. The handler of the first event takes the
item, in the three parts that a take has, and nothing else takes any.

What else goes on is left open. The call is cancelled at any time; the loop is run, stopped and run
again, and it has other events to dispatch, before and after the stream's and in between. Only two
things are excluded: that somebody else enqueues the stream's events, and that a thread consumes
events while it is inside a delivery.
-/

namespace CallBridge

/-- How the application ties a stream to a loop. -/
structure Wiring (π : Type) where
  call : CallId
  payload : π
  item : String
  last : String
  distinct : item ≠ last

namespace Wiring

variable {π : Type}

def itemEvent (w : Wiring π) : Event π :=
  { name := w.item, payload := some w.payload, call := some w.call }

def lastEvent (w : Wiring π) : Event π :=
  { name := w.last, payload := some w.payload, call := some w.call }

/-- The event is for the handler of items, and of this stream. -/
def isItem (w : Wiring π) (e : Event π) : Bool := e.call = some w.call ∧ e.name = w.item

def isLast (w : Wiring π) (e : Event π) : Bool := e.call = some w.call ∧ e.name = w.last

def owns (w : Wiring π) (e : Event π) : Bool := w.isItem e || w.isLast e

variable (w : Wiring π)

@[simp] theorem isItem_itemEvent : w.isItem w.itemEvent = true := by simp [isItem, itemEvent]

@[simp] theorem isLast_lastEvent : w.isLast w.lastEvent = true := by simp [isLast, lastEvent]

@[simp] theorem isItem_lastEvent : w.isItem w.lastEvent = false := by
  simpa [isItem, lastEvent] using w.distinct.symm

@[simp] theorem owns_itemEvent : w.owns w.itemEvent = true := by simp [owns]

@[simp] theorem owns_lastEvent : w.owns w.lastEvent = true := by simp [owns]

theorem owns_of_isItem {e : Event π} (item : w.isItem e = true) : w.owns e = true := by
  simp [owns, item]

theorem countP_filter_owns (es : List (Event π)) :
    (es.filter w.owns).countP w.isItem = es.countP w.isItem := by
  rw [List.countP_filter]
  refine List.countP_congr fun e _ => ?_
  simp +contextual [w.owns_of_isItem]

end Wiring

namespace Pipeline

inductive Move (π : Type) where
  | launch
  | attach (lane : Nat)
  | cancel
  | tick (n : Nat)
  | poll (thread : Nat)
  | publish
  | tell (thread : Nat)
  | hold
  | back
  | claim
  | extract
  | resume
  | loop (o : Station.Operation π)
deriving DecidableEq, Repr

inductive Notice (π α : Type) where
  | stream (e : Exchange.Event α)
  | handling (e : Event π)

end Pipeline

/-- A stream with its transport, and the loop on which its items are taken. -/
structure Pipeline (π α : Type) where
  link : Link α
  station : Station π
  /-- What the callback under way has yet to enqueue. -/
  owed : Option (Event π) := none
  /-- The handler of an item is running and has its take before it. -/
  due : Bool := false

namespace Pipeline

variable {π α : Type}

/-- A stream that nobody has touched yet, and a loop that may have been used before. -/
def fresh (w : Wiring π) (timeout : Option Nat) (station : Station π) : Pipeline π α :=
  { link := .fresh w.call timeout, station }

/-- The handler of an item is running and not done with its take. -/
def busy (s : Pipeline π α) : Bool := s.due || s.link.exchange.taking

/-- No thread consumes events inside a delivery. -/
def apart (x : Exchange α) (station : Station π) : Bool :=
  station.loop.consumer.all fun p => x.delivery.all fun d => d.1 ≠ p

def lift (s : Pipeline π α) (q : Option (Link α × List (Exchange.Event α))) :
    Option (Pipeline π α × List (Notice π α)) :=
  q.map fun q => ({ s with link := q.1 }, q.2.map .stream)

/-- The callback of an end is to enqueue its event. -/
def poll (w : Wiring π) (c : Link.Service α) (s : Pipeline π α) (thread : Nat) :
    Option (Pipeline π α × List (Notice π α)) :=
  match s.link.step c (.poll thread) with
  | none => none
  | some (link, es) =>
    let ended := es.any fun e => e matches .ended _
    if apart link.exchange s.station then
      some ({ s with link, owed := if ended then some w.lastEvent else none }, es.map .stream)
    else none

/-- Something is done with the loop or by it. The handler of an item does not come back before its
take is done. -/
def operate (w : Wiring π) (s : Pipeline π α) (o : Station.Operation π) :
    Option (Pipeline π α × List (Notice π α)) :=
  match s.station.operate o with
  | none => none
  | some (station, ns) =>
    let begun := s.station.post.begins station.post
    if (Station.sent ns).all (fun e => !w.owns e) && (!s.busy || station.post.isHandling) &&
        apart s.link.exchange station then
      some ({ s with station, due := s.due || begun.any w.isItem }, begun.toList.map .handling)
    else none

def step (w : Wiring π) (c : Link.Service α) (s : Pipeline π α) :
    Move π → Option (Pipeline π α × List (Notice π α))
  | .launch => s.lift (s.link.step c .launch)
  | .attach lane => s.lift (s.link.step c (.beside (.attach lane)))
  | .cancel => s.lift (s.link.step c (.beside .cancel))
  | .tick n => s.lift (s.link.step c (.tick n))
  | .poll thread => if s.owed.isNone then s.poll w c thread else none
  | .publish => { s with owed := some w.itemEvent }.lift (s.link.step c (.beside .publish))
  | .tell thread =>
    s.owed.map fun e => ({ s with station := (s.station.enqueue thread e).1, owed := none }, [])
  | .hold =>
    if s.owed.isNone then s.lift (s.link.step c (.beside (.leave (.decided .hold)))) else none
  | .back => if s.owed.isNone then s.lift (s.link.step c .back) else none
  | .claim =>
    match s.station.loop.consumer with
    | some p =>
      if s.due then { s with due := false }.lift (s.link.step c (.beside (.claim p))) else none
    | none => none
  | .extract =>
    match s.station.loop.consumer with
    | some p => s.lift (s.link.step c (.beside (.extract p)))
    | none => none
  | .resume =>
    match s.station.loop.consumer with
    | some p => s.lift (s.link.step c (.beside (.resume p)))
    | none => none
  | .loop o => s.operate w o

def run (w : Wiring π) (c : Link.Service α) (s : Pipeline π α) (ms : List (Move π)) :
    Option (Pipeline π α × List (Notice π α)) :=
  runWith (step w c) s ms

/-! ## What a move can come to -/

/-- Everything that one move can do, by what it comes to in the stream, the transport or the loop.
-/
inductive Moved (w : Wiring π) (c : Link.Service α) (s : Pipeline π α) :
    Pipeline π α × List (Notice π α) → Prop where
  | around {m : Exchange.Move α} {q : Exchange α × List (Exchange.Event α)} (deadline : Option Nat)
      (moved : Exchange.Moved s.link.exchange m q)
      (idle : m = .launch ∨ (∃ lane, m = .attach lane) ∨ m = .cancel) :
      Moved w c s ({ s with link := { s.link with exchange := q.1, deadline } }, q.2.map .stream)
  | overflowed (first : s.link.exchange.stream.started = false) :
      Moved w c s ({ s with link := s.link.overflow }, [])
  | ticked (n : Nat) : Moved w c s ({ s with link := { s.link with now := s.link.now + n } }, [])
  | returned : Moved w c s ({ s with link := { s.link with calling := false } }, [])
  | polled (p : Nat) {q : Link α × List (Exchange.Event α)} (clear : s.owed = none)
      (runnable : s.link.runnable p = true) (poll : s.link.poll c p = some q)
      (apart : apart q.1.exchange s.station = true) :
      Moved w c s
        ({ s with
            link := q.1
            owed := if q.2.any (fun e => e matches .ended _) then some w.lastEvent else none },
          q.2.map .stream)
  | published {q : Exchange α × List (Exchange.Event α)}
      (moved : Exchange.Moved s.link.exchange .publish q) :
      Moved w c s
        ({ s with link := { s.link with exchange := q.1 }, owed := some w.itemEvent },
          q.2.map .stream)
  | told (p : Nat) {e : Event π} (owes : s.owed = some e) :
      Moved w c s ({ s with station := (s.station.enqueue p e).1, owed := none }, [])
  | held {q : Exchange α × List (Exchange.Event α)} (clear : s.owed = none)
      (moved : Exchange.Moved s.link.exchange (.leave (.decided .hold)) q) :
      Moved w c s ({ s with link := { s.link with exchange := q.1 } }, q.2.map .stream)
  | claimed {p : Nat} {q : Exchange α × List (Exchange.Event α)}
      (consumer : s.station.loop.consumer = some p) (due : s.due = true)
      (moved : Exchange.Moved s.link.exchange (.claim p) q) :
      Moved w c s
        ({ s with link := { s.link with exchange := q.1 }, due := false }, q.2.map .stream)
  | took {p : Nat} {q : Exchange α × List (Exchange.Event α)}
      (moved : Exchange.Moved s.link.exchange (.extract p) q) :
      Moved w c s ({ s with link := { s.link with exchange := q.1 } }, q.2.map .stream)
  | resumed {p : Nat} {q : Exchange α × List (Exchange.Event α)}
      (moved : Exchange.Moved s.link.exchange (.resume p) q) :
      Moved w c s ({ s with link := { s.link with exchange := q.1 } }, q.2.map .stream)
  | operated {p : Station π × List (Station.Notice π)} (ho : Station.Operated s.station p)
      (foreign : ∀ e ∈ Station.sent p.2, w.owns e = false)
      (stays : s.busy = true → p.1.post.isHandling = true)
      (apart : apart s.link.exchange p.1 = true) :
      Moved w c s
        ({ s with
            station := p.1
            due := s.due || (s.station.post.begins p.1.post).any w.isItem },
          (s.station.post.begins p.1.post).toList.map .handling)

variable {w : Wiring π} {c : Link.Service α} {s : Pipeline π α}
  {q : Pipeline π α × List (Notice π α)}

theorem moved_of_beside {t : Pipeline π α} {m : Exchange.Move α}
    (h : t.lift (s.link.step c (.beside m)) = some q) :
    ∃ q' : Exchange α × List (Exchange.Event α), Exchange.Moved s.link.exchange m q' ∧
      q = ({ t with link := { s.link with exchange := q'.1 } }, q'.2.map .stream) := by
  obtain ⟨l, hl, rfl⟩ := Option.map_eq_some_iff.mp h
  obtain ⟨-, hl⟩ := Option.ite_none_right_eq_some.mp hl
  obtain ⟨q', hq, rfl⟩ := Option.map_eq_some_iff.mp hl
  exact ⟨q', Exchange.moved_of_step hq, rfl⟩

theorem moved_poll {p : Nat} (h : s.step w c (.poll p) = some q) : Moved w c s q := by
  obtain ⟨clear, h⟩ := Option.ite_none_right_eq_some.mp h
  unfold poll at h
  split at h
  · cases h
  · next link es hl =>
      obtain ⟨apart, h⟩ := Option.ite_none_right_eq_some.mp h
      obtain ⟨runnable, hl⟩ := Option.ite_none_right_eq_some.mp hl
      exact Option.some.inj h ▸ .polled p (Option.isNone_iff_eq_none.mp clear) runnable hl apart

/-- Parts of the take are made by the thread that consumes. -/
theorem moved_take {m : Move π} (h : s.step w c m = some q)
    (hm : m = .claim ∨ m = .extract ∨ m = .resume) : Moved w c s q := by
  cases consumer : s.station.loop.consumer with
  | none => rcases hm with rfl | rfl | rfl <;> simp [step, consumer] at h
  | some p =>
      rcases hm with rfl | rfl | rfl <;> simp only [step, consumer] at h
      · obtain ⟨due, h⟩ := Option.ite_none_right_eq_some.mp h
        obtain ⟨q', moved, rfl⟩ := moved_of_beside h
        exact .claimed consumer due moved
      · obtain ⟨q', moved, rfl⟩ := moved_of_beside h
        exact .took moved
      · obtain ⟨q', moved, rfl⟩ := moved_of_beside h
        exact .resumed moved

theorem moved_operate {o : Station.Operation π} (h : s.operate w o = some q) : Moved w c s q := by
  unfold operate at h
  split at h
  · cases h
  · next station ns ho =>
      obtain ⟨fits, h⟩ := Option.ite_none_right_eq_some.mp h
      simp only [Bool.and_eq_true, Bool.or_eq_true, List.all_eq_true, Bool.not_eq_true'] at fits
      obtain ⟨⟨foreign, stays⟩, apart⟩ := fits
      refine Option.some.inj h ▸ .operated (Station.operated_of_operate ho) foreign ?_ apart
      intro busy
      exact stays.resolve_left (by simp [busy])

theorem moved_of_step {m : Move π} (h : s.step w c m = some q) : Moved w c s q := by
  cases m with
  | launch =>
      obtain ⟨l, hl, rfl⟩ := Option.map_eq_some_iff.mp h
      rcases Link.launch_cases hl with ⟨deadline, hl⟩ | ⟨first, -, rfl⟩
      · obtain ⟨q', hq, rfl⟩ := Option.map_eq_some_iff.mp hl
        exact .around deadline (Exchange.moved_of_step hq) (.inl rfl)
      · exact .overflowed first
  | attach lane =>
      obtain ⟨q', moved, rfl⟩ := moved_of_beside h
      exact .around s.link.deadline moved (.inr (.inl ⟨lane, rfl⟩))
  | cancel =>
      obtain ⟨q', moved, rfl⟩ := moved_of_beside h
      exact .around s.link.deadline moved (.inr (.inr rfl))
  | tick n => exact Option.some.inj h ▸ .ticked n
  | poll p => exact moved_poll h
  | publish =>
      obtain ⟨q', moved, rfl⟩ := moved_of_beside h
      exact .published moved
  | tell p =>
      obtain ⟨e, owes, rfl⟩ := Option.map_eq_some_iff.mp h
      exact .told p owes
  | hold =>
      obtain ⟨clear, h⟩ := Option.ite_none_right_eq_some.mp h
      obtain ⟨q', moved, rfl⟩ := moved_of_beside h
      exact .held (Option.isNone_iff_eq_none.mp clear) moved
  | back =>
      obtain ⟨-, h⟩ := Option.ite_none_right_eq_some.mp h
      obtain ⟨l, hl, rfl⟩ := Option.map_eq_some_iff.mp h
      obtain ⟨-, hl⟩ := Option.ite_none_right_eq_some.mp hl
      exact Option.some.inj hl ▸ .returned
  | claim => exact moved_take h (.inl rfl)
  | extract => exact moved_take h (.inr (.inl rfl))
  | resume => exact moved_take h (.inr (.inr rfl))
  | loop o => exact moved_operate h

theorem run_invariant {P : Pipeline π α → List (Notice π α) → Prop}
    (keep : ∀ {s before q}, P s before → Moved w c s q → P q.1 (before ++ q.2))
    {ms : List (Move π)} {s t : Pipeline π α} {before log : List (Notice π α)}
    (h : s.run w c ms = some (t, log)) (hs : P s before) : P t (before ++ log) := by
  refine runWith_invariant (P := P) ?_ h hs
  intro u before m v es hu hstep
  exact keep hu (moved_of_step hstep)

end Pipeline

end CallBridge
