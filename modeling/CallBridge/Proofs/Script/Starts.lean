import CallBridge.Proofs.Script.Deliveries
import CallBridge.Script.Perform

/-!
# Starts are moves of a session

A start is two moves, one before the channel's steps and one after them.
-/

namespace CallBridge.Script

open Session (Frame)

variable {F : Nest} {th : Nat} {calls : Table CallId Member} {id : CallId} {name : String}
  {s : Stream Datum} {hooks : StreamHooks} {takes : List AsideTake} {lanes : Table Nat Lane}
  {channels : Table String Channel} {runners : Table Nat Runner} {w : World} {e : Engine}

/-! ## Starts -/

theorem Sessions.channel {via : String} {c : Channel}
    (h : Sessions F th calls takes lanes channels runners)
    (prompt : ∀ r, c = .recorder r → ∀ s ∈ r.onStart, s.Prompt) :
    Sessions F th calls takes lanes (channels.insert via c) runners where
  numbered := h.numbered
  prompt := h.prompt
  nested := h.nested
  answered := h.answered
  reached := h.reached
  handlers := h.handlers
  served := h.served
  recorders := by
    intro name r found
    by_cases same : name = via
    · rw [same, Table.find?_insert_self, Option.some.injEq] at found
      exact prompt r found
    · rw [Table.find?_insert_of_ne _ _ same] at found
      exact h.recorders name r found

theorem sessions_pushTask {transport latency : Nat} {service : Service} {request : Datum}
    {deadline lane : Option Nat} (h : w.Sessions F th) :
    w.Ensures (pushTask id transport service latency request deadline lane)
      fun _ w' => w'.Sessions F th := by
  simp only [pushTask, ensures_bind, ensures_get, ensures_known]
  intro tr _
  split
  · simpa [freshThread, setTask] using h
  · simpa using h

theorem sessions_recordStart {ctx : Context} {via : String} {r : Recorder} {request : Datum}
    {deadline lane : Option Nat} (nested : NestedKeep e th) (here : ctx.thread.serial = th)
    (prompt : ∀ s ∈ r.onStart, s.Prompt) (h : w.Sessions F th) :
    w.Ensures (e.recordStart ctx via r id request deadline lane) fun _ w' => w'.Sessions F th := by
  simp only [Engine.recordStart, ensures_bind, ensures_modify]
  have noted : Script.Sessions F th w.calls w.takes w.lanes
      (w.channels.insert via (.recorder { r with
        starts := r.starts ++ [(id, request, deadline)], lanes := r.lanes ++ lane.toList }))
      w.runners := by
    refine h.channel fun r' same => ?_
    cases same
    exact prompt
  split
  · rw [ensures_bind]
    refine ensures_mono (ensures_mapM (I := fun w => w.Sessions F th) ?_ noted) ?_
    · exact fun s hs w hw => nested { thread := ctx.thread } s F w here (prompt s hs) hw
    · intro _ w' h'
      simpa using h'
  · rw [ensures_pure]
    exact noted

theorem sessions_attachLane_none (h : w.Sessions F th) :
    w.Ensures (attachLane id none) fun _ w' => w'.Sessions F th := by
  simp only [attachLane, ensures_bind, ensures_member, ensures_pure]
  exact fun _ _ => h

/-- A start has opened a lane. -/
def Nest.withLane (F : Nest) (lane : Nat) (id : CallId) : Nest :=
  { F with opened := (lane, id) :: F.opened }

theorem Sessions.open (h : Sessions F th calls takes lanes channels runners) (id : CallId) :
    Sessions (F.withLane lanes.size id) th calls takes
      (lanes.insert lanes.size { call := id }) channels runners where
  numbered := h.numbered
  prompt := h.prompt
  recorders := h.recorders
  handlers := h.handlers
  nested := h.nested
  answered := h.answered
  reached := h.reached
  served := h.served.open id

theorem sessions_attachLane {lane : Nat}
    (h : w.Sessions ((F.push id .opening).withLane lane id) th) :
    w.Ensures (attachLane id (some lane)) fun _ w' => w'.Sessions F th := by
  obtain ⟨name, s, hooks, found⟩ := h.nested id (by simp [Nest.withLane])
  simp only [attachLane, ensures_bind, ensures_member, found, Option.some.injEq, forall_eq',
    ensures_setBody, ensures_askRead]
  intro lanes' asked
  have moved : (sessionOf ((F.push id .opening).withLane lane id) th id s).step
      (.opened lane) = some ({ sessionOf F th id s with stream := (s.attach lane).1 },
        Session.asks .opened (s.attach lane).2) := by
    simp [Session.step, Session.attach, sessionOf, Nest.withLane]
  exact h.move (G := F) found moved rfl rfl (.silent (by simp)) rfl
    (fun j hj => (push_of_ne _ hj).symm) (h.served.attach found asked) rfl

theorem sessions_openOn_unary {ctx : Context} {via : String} {channel : Channel} {request : Datum}
    {deadline : Option Nat} {u : Unary Datum} {onDone : Reaction} (nested : NestedKeep e th)
    (here : ctx.thread.serial = th) (known : w.channels.find? via = some channel)
    (found : w.calls.find? id = some ⟨name, .unary u onDone⟩) (h : w.Sessions F th) :
    w.Ensures (e.openOn ctx id via channel request deadline) fun _ w' => w'.Sessions F th := by
  simp only [Engine.openOn, openLane, ensures_bind, ensures_member, found, Option.some.injEq,
    forall_eq', Body.isStream, Bool.false_eq_true, if_false, ensures_pure]
  cases channel with
  | recorder r =>
      rw [ensures_bind]
      exact ensures_mono (sessions_recordStart nested here (h.recorders via r known) h)
        fun _ w' h' => sessions_attachLane_none h'
  | service =>
      rw [ensures_bind]
      exact ensures_mono (sessions_pushTask h) fun _ w' h' => sessions_attachLane_none h'

theorem sessions_openOn_stream {ctx : Context} {via : String} {channel : Channel} {request : Datum}
    {deadline : Option Nat} (nested : NestedKeep e th)
    (here : ctx.thread.serial = th) (known : w.channels.find? via = some channel)
    (h : w.Sessions (F.push id .opening) th) :
    w.Ensures (e.openOn ctx id via channel request deadline) fun _ w' => w'.Sessions F th := by
  obtain ⟨name, s, hooks, found⟩ := h.nested id (by simp)
  simp only [Engine.openOn, openLane, ensures_bind, ensures_member, found, Option.some.injEq,
    forall_eq', Body.isStream, if_true, ensures_get, ensures_modify, ensures_pure]
  have opened := h.open id
  cases channel with
  | recorder r =>
      rw [ensures_bind]
      exact ensures_mono (sessions_recordStart nested here (h.recorders via r known) opened)
        fun _ w' h' => sessions_attachLane h'
  | service =>
      rw [ensures_bind]
      exact ensures_mono (sessions_pushTask opened) fun _ w' h' => sessions_attachLane h'

/-- The first start of a stream gets as far as the channel. -/
theorem step_start (first : s.started = false) :
    (sessionOf F th id s).step .start =
      some ({ sessionOf F th id s with
        stream := s.overflow, frames := .opening :: F.frames id }, [.launched]) := by
  simp [Session.step, Session.start, sessionOf, Stream.launch, Stream.overflow, first]

theorem begun_start (h : Sessions F th calls takes lanes channels runners)
    (found : calls.find? id = some ⟨name, .stream s hooks⟩) (first : s.started = false) :
    Sessions (F.push id .opening) th (calls.insert id ⟨name, .stream s.overflow hooks⟩) takes lanes
      channels runners :=
  h.begin_move found (step_start first) rfl rfl (.of_same rfl fun _ hi => hi)

/-- A start that breaks off before the channel is called is one out of which a panic comes. -/
theorem Sessions.overflow {m : Member} (h : Sessions F th calls takes lanes channels runners)
    (found : calls.find? id = some m) (first : m.body.started = false) :
    Sessions F th (calls.insert id { m with body := m.body.overflow }) takes lanes channels
      runners := by
  obtain ⟨name, body⟩ := m
  cases body with
  | unary u onDone => exact h.unary found
  | stream s hooks => exact (begun_start h found first).pop (m := .panic) fun _ => rfl

theorem sessions_startOn {ctx : Context} {via : String} {channel : Channel} {request : Datum}
    (nested : NestedKeep e th) (here : ctx.thread.serial = th)
    (known : w.channels.find? via = some channel) (h : w.Sessions F th) :
    w.Ensures (e.startOn ctx id via channel request) fun _ w' => w'.Sessions F th := by
  simp only [Engine.startOn, launch, ensures_pinned, ensures_bind, ensures_member, ensures_get]
  intro m found
  rw [ensures_ite]
  refine ⟨fun unshown => ?_, fun _ => ?_⟩
  · have first : m.body.started = false := by simpa using (Bool.and_eq_true_iff.mp unshown).2
    simp only [ensures_bind, ensures_setBody, found, Option.some.injEq, forall_eq', ensures_pure]
    exact h.overflow found first
  · obtain ⟨name, body⟩ := m
    simp only [ensures_bind, ensures_advanceCall, found, Option.some.injEq, forall_eq']
    cases body with
    | unary u onDone =>
        simp only [Body.launch, Outcome.within_answer, Outcome.within_state]
        cases u.launch.answer with
        | error f =>
            simp only [ensures_pure]
            exact h.unary found
        | ok =>
            simp only [ensures_bind, ensures_pure]
            exact sessions_openOn_unary nested here known (Table.find?_insert_self _ _ _)
              (h.unary found)
    | stream s hooks =>
        simp only [Body.launch, Outcome.within_answer, Outcome.within_state]
        -- Only a start that is won gets as far as the channel.
        rcases s.launch_cases with ⟨first, won, after⟩ | ⟨-, lost, after⟩
        · simp only [won, after, ensures_bind, ensures_pure]
          exact sessions_openOn_stream nested here known (begun_start h found first)
        · simp only [lost, after, ensures_pure]
          rw [Table.insert_of_find? found]
          exact h

end CallBridge.Script
