import CallBridge.Proofs.Script.Prompt
import CallBridge.Script.Run

/-!
# Other threads, between operations

While no operation of a stream is under way, any thread may go on with any of them. That is so
whenever a thread waits, since callbacks do not: the tasks of transports and the consumers of event
loops act on streams that are at rest.
-/

namespace CallBridge.Script

open Session (Frame)

variable {α β : Type} {th th' : Nat} {calls : Table CallId Member} {takes : List AsideTake}
  {lanes : Table Nat Lane} {channels : Table String Channel} {runners : Table Nat Runner}
  {w : World} {e : Engine} {thread : Thread} {i : Nat}

/-- Nothing is under way on any stream. -/
def Nest.rest : Nest where
  frames := fun _ => []

theorem Sessions.switch (h : Sessions .rest th calls takes lanes channels runners) :
    Sessions .rest th' calls takes lanes channels runners where
  numbered := h.numbered
  prompt := h.prompt
  recorders := h.recorders
  handlers := h.handlers
  nested := h.nested
  answered := h.answered
  reached := by
    intro id name s hooks found
    have moved : (sessionOf .rest th id s).step (.switch th') =
      some (sessionOf .rest th' id s, []) := rfl
    exact (h.reached id name s hooks found).step moved (.silent rfl)
  served := h.served

/-- No operation is under way, and every stream is where a session can be. -/
abbrev World.Idle (w : World) : Prop := ∀ th, w.Sessions .rest th

/-- After the action no operation is under way if none was before. -/
def KeepsIdle (act : Act α) : Prop :=
  ∀ w : World, w.Idle → w.Ensures act fun _ w' => w'.Idle

/-! ## Putting actions together -/

theorem KeepsIdle.bind {x : Act β} {f : β → Act α} (hx : KeepsIdle x)
    (hf : ∀ b, KeepsIdle (f b)) : KeepsIdle (x >>= f) := by
  intro w h
  rw [ensures_bind]
  exact ensures_mono (hx w h) fun b w' h' => hf b w' h'

theorem keepsIdle_pure (a : α) : KeepsIdle (pure a : Act α) :=
  fun _ h => (ensures_pure a).mpr h

theorem keepsIdle_failure : KeepsIdle (failure : Act α) := fun _ _ => ensures_failure

theorem keepsIdle_known {x : Option α} : KeepsIdle (known x) :=
  fun _ h => ensures_known.mpr fun _ _ => h

theorem keepsIdle_get : KeepsIdle (get : Act World) := fun _ h => ensures_get.mpr h

theorem keepsIdle_report {lines : List Line} : KeepsIdle (report lines) :=
  fun _ h => (ensures_report lines).mpr h

theorem KeepsIdle.elsewhere {act : Act α} (h : KeepsIdle act) : KeepsIdle (elsewhere act) :=
  fun _ hw => ensures_elsewhere.mpr (h _ hw)

theorem KeepsIdle.pinned {act : Act α} {id : CallId} (h : KeepsIdle act) :
    KeepsIdle (pinned id act) :=
  fun _ hw => (ensures_pinned id).mpr (h _ hw)

theorem KeepsIdle.ite {c : Prop} [Decidable c] {x y : Act α} (hx : KeepsIdle x)
    (hy : KeepsIdle y) : KeepsIdle (if c then x else y) :=
  fun w hw => ensures_ite.mpr ⟨fun _ => hx w hw, fun _ => hy w hw⟩

/-- What keeps the sessions for the thread that acts keeps them for all threads. -/
theorem KeepsIdle.of_sessions {act : Act α} (th : Nat)
    (keep : ∀ w : World, w.Sessions .rest th → w.Ensures act fun _ w' => w'.Sessions .rest th) :
    KeepsIdle act :=
  fun w h => ensures_mono (keep w (h th)) fun _ _ h' _ => h'.switch

/-- Steps of an engine keep what they have to, inside callbacks and outside. -/
structure Engine.Sound (e : Engine) : Prop where
  prompt : ∀ th, NestedKeep e th
  calm : ∀ (ctx : Context) (s : Step), s.Calm → KeepsIdle (e.nested ctx s)

/-! ## Consumers of event loops -/

theorem World.Idle.same_handlers {r r' : Runner} (h : w.Idle) (found : w.runners.find? i = some r)
    (same : r'.handlers = r.handlers) : { w with runners := w.runners.insert i r' }.Idle :=
  fun th => (h th).same_handlers found same

theorem keepsIdle_runner : KeepsIdle (runner i) := fun _ h => ensures_runner.mpr fun _ _ => h

theorem keepsIdle_advanceLoop {f : EventLoop Payload → Outcome (EventLoop Payload) α} :
    KeepsIdle (advanceLoop i f) :=
  .of_sessions 0 fun _ => sessions_advanceLoop

theorem keepsIdle_atRunner {act : Runner → Act α}
    (keep : ∀ r (w : World), w.Idle → w.runners.find? i = some r →
      w.Ensures (act r) fun _ w' => w'.Idle) :
    KeepsIdle (runner i >>= act) := by
  intro w h
  rw [ensures_bind, ensures_runner]
  exact fun r found => keep r w h found

theorem idle_setRunner {r r' : Runner} (h : w.Idle) (found : w.runners.find? i = some r)
    (same : r'.handlers = r.handlers) : w.Ensures (setRunner i r') fun _ w' => w'.Idle :=
  ensures_setRunner.mpr (h.same_handlers found same)

theorem KeepsIdle.setRunner {r r' : Runner} {act : Act α} (next : KeepsIdle act) (h : w.Idle)
    (found : w.runners.find? i = some r) (same : r'.handlers = r.handlers) :
    w.Ensures (do setRunner i r'; act) fun _ w' => w'.Idle :=
  ensures_bind.mpr (ensures_mono (idle_setRunner h found same) fun _ v hv => next v hv)

theorem keepsIdle_setConsumer {f : Consumer → Consumer} : KeepsIdle (setConsumer i f) :=
  keepsIdle_atRunner fun _ _ h found => idle_setRunner h found rfl

theorem keepsIdle_finishRun : KeepsIdle (finishRun i) := by
  refine keepsIdle_advanceLoop.bind fun _ => keepsIdle_atRunner fun r w h found => ?_
  rw [ensures_ite]
  exact ⟨fun _ => idle_setRunner h found rfl, fun _ => keepsIdle_pure _ w h⟩

theorem KeepsIdle.holding {ev : Event Payload} {act : Act α} (h : KeepsIdle act) :
    KeepsIdle (holding ev act) := by
  unfold Script.holding
  split
  · exact h.pinned
  · exact h

theorem keepsIdle_dispatch {ev : Event Payload} (sound : e.Sound) :
    KeepsIdle (e.dispatch thread i ev) := by
  refine keepsIdle_atRunner fun r w h found => ?_
  have calm := (h 0).handlers i r found
  split
  · exact keepsIdle_pure _ w h
  · next reaction n handled =>
    refine KeepsIdle.holding (fun v hv => ?_) w h
    simp only [ensures_bind, ensures_setRunner, ensures_get]
    -- The invocation is counted before the handler's steps; the handler stays the same.
    have counted : { v with runners := (v.runners.insert i
        { r with handlers := r.handlers.insert ev.name (reaction, n + 1) }) }.Idle := by
      refine fun th => (hv th).runner fun event p hp => ?_
      by_cases same : event = ev.name
      · rw [same, Table.find?_insert_self, Option.some.injEq] at hp
        rw [← hp]
        exact calm ev.name (reaction, n) handled
      · rw [Table.find?_insert_of_ne _ _ same] at hp
        exact calm event p hp
    refine ensures_mono (ensures_mapM (I := World.Idle) (fun st hs v hv => ?_) counted) ?_
    · exact sound.calm _ st (calm ev.name _ handled st (mem_steps_of_pick hs)) v hv
    · intro _ w' h'
      simpa using h'

theorem keepsIdle_turn (sound : e.Sound) : KeepsIdle (e.turn thread i) := by
  refine keepsIdle_atRunner fun r w h found => ?_
  refine KeepsIdle.setRunner ?_ h found rfl
  split
  · exact keepsIdle_pure _
  · exact keepsIdle_pure _
  · exact keepsIdle_pure _
  · refine (keepsIdle_dispatch sound).bind fun failure => ?_
    cases failure with
    | none => exact keepsIdle_pure _
    | some f =>
        refine keepsIdle_report.bind fun _ => ?_
        split <;> exact keepsIdle_pure _

theorem keepsIdle_pumpConsumer (sound : e.Sound) : KeepsIdle (e.pumpConsumer i) := by
  refine keepsIdle_runner.bind fun r => ?_
  split
  · exact keepsIdle_pure _
  · next c _ =>
    refine (keepsIdle_pure _).ite (KeepsIdle.elsewhere (KeepsIdle.ite ?_ ?_))
    · refine keepsIdle_setConsumer.bind fun _ => ?_
      exact keepsIdle_advanceLoop.bind fun _ => keepsIdle_pure _
    · refine keepsIdle_setConsumer.bind fun _ => (keepsIdle_turn sound).bind fun course => ?_
      refine keepsIdle_setConsumer.bind fun _ => ?_
      cases course with
      | waiting | going => exact keepsIdle_pure _
      | ended result =>
          refine keepsIdle_finishRun.bind fun _ => ?_
          exact keepsIdle_setConsumer.bind fun _ => keepsIdle_pure _

/-! ## Tasks of transports -/

theorem keepsIdle_setTask {t : Task} : KeepsIdle (setTask i t) := by
  intro w h
  simpa [setTask] using h

theorem keepsIdle_endBusy {panic : Option Panic} : KeepsIdle (endBusy i panic) :=
  keepsIdle_get.bind fun _ => keepsIdle_known.bind fun _ => keepsIdle_setTask

theorem keepsIdle_deliverReport {t : Task} {report : Loopback.Report Datum} (sound : e.Sound) :
    KeepsIdle (e.deliverReport t report) := by
  cases report with
  | item x =>
      exact .of_sessions t.thread.serial fun _ => sessions_deliverItem (sound.prompt _) rfl
  | closeReads =>
      exact .of_sessions t.thread.serial fun _ => sessions_deliverClose (sound.prompt _) rfl
  | finish status =>
      refine keepsIdle_get.bind fun w => KeepsIdle.ite (KeepsIdle.pinned ?_) ?_
      · refine keepsIdle_report.bind fun _ => ?_
        exact .of_sessions t.thread.serial fun _ => sessions_deliverEnd (sound.prompt _) rfl
      · exact keepsIdle_report.bind fun _ => keepsIdle_pure _

/-- The task takes a read request off its lane. -/
theorem World.Idle.takeRead {l : Lane} (h : w.Idle) (found : w.lanes.find? i = some l) :
    { w with lanes := w.lanes.insert i { l with taken := l.taken + 1 } }.Idle := by
  have same : ({ l with taken := l.taken + 1 } : Lane).call = l.call := rfl
  intro th
  refine { h th with
    served := (h th).served.congr (owner_insert_of_same found same) ?_ fun id => ?_ }
  · simp [Table.size_insert, found]
  · exact Nat.add_right_cancel (askedOf_insert_of_same found same id)

theorem keepsIdle_runTask (sound : e.Sound) : KeepsIdle (e.runTask i) := by
  intro w h
  simp only [Engine.runTask, ensures_bind, ensures_get, ensures_known]
  intro t _
  split
  · split
    · exact keepsIdle_setTask w h
    · refine KeepsIdle.pinned (keepsIdle_setTask.bind fun _ => ?_) w h
      refine KeepsIdle.bind (KeepsIdle.elsewhere ?_) fun _ => keepsIdle_endBusy
      refine keepsIdle_report.bind fun _ => ?_
      exact .of_sessions t.thread.serial fun _ => sessions_deliverOutcome (sound.prompt _) rfl
  · next state outcome lane _ =>
    have reported : ∀ (serving : Serving) (r : Loopback.Report Datum), KeepsIdle (do
        setTask i { t with serving, busy := true }
        endBusy i =<< elsewhere (e.deliverReport t r)) := by
      intro serving r
      refine keepsIdle_setTask.bind fun _ => ?_
      exact (keepsIdle_deliverReport sound).elsewhere.bind fun _ => keepsIdle_endBusy
    -- The task may take a read request off its lane before it reports.
    split
    · simp only [ensures_bind, ensures_known, ensures_modify]
      intro l found
      split
      · exact keepsIdle_setTask _ (h.takeRead found)
      · simpa using reported _ _ _ (h.takeRead found)
    · split
      · exact keepsIdle_setTask w h
      · exact reported _ _ w h

/-! ## Turns of other threads -/

theorem keepsIdle_anyM {f : β → Act Bool} {l : List β} (keep : ∀ b, KeepsIdle (f b)) :
    KeepsIdle (l.anyM f) := by
  induction l with
  | nil => exact keepsIdle_pure _
  | cons b l ih =>
      rw [List.anyM]
      refine (keep b).bind fun r => ?_
      cases r with
      | true => exact keepsIdle_pure _
      | false => exact ih

theorem keepsIdle_completeTakes : KeepsIdle completeTakes := by
  intro w h
  refine ensures_mono (ensures_completeTakes (h 0).answered) fun _ w' => ?_
  rintro rfl
  exact h

theorem keepsIdle_progress {waits : Bool} (sound : e.Sound) : KeepsIdle (e.progress waits) := by
  refine keepsIdle_get.bind fun w => ?_
  refine (keepsIdle_anyM fun i => keepsIdle_pumpConsumer sound).bind fun pumped => ?_
  refine (keepsIdle_pure _).ite fun w h => ?_
  rw [ensures_bind, ensures_get, ensures_ite]
  refine ⟨fun _ => (keepsIdle_completeTakes.bind fun _ => keepsIdle_pure _) w h, fun _ => ?_⟩
  split
  · exact keepsIdle_pure _ w h
  · rw [ensures_ite]
    refine ⟨fun _ => ?_, fun _ => keepsIdle_pure _ w h⟩
    rw [ensures_bind, ensures_set, ensures_bind]
    refine ensures_mono (keepsIdle_runTask sound _ h) fun _ w' h' => ?_
    exact keepsIdle_pure _ w' h'

theorem keepsIdle_settle (sound : e.Sound) : KeepsIdle e.settle := by
  have turns : ∀ n, KeepsIdle (Engine.settle.go e n) := by
    intro n
    induction n with
    | zero => exact keepsIdle_failure
    | succ n ih => exact (keepsIdle_progress sound).bind fun _ => ih.ite (keepsIdle_pure _)
  exact turns e.patience

theorem keepsIdle_await {done : World → Bool} (sound : e.Sound) : KeepsIdle (e.await done) := by
  have turns : ∀ n, KeepsIdle (Engine.await.go e done n) := by
    intro n
    induction n with
    | zero => exact keepsIdle_failure
    | succ n ih =>
        refine keepsIdle_get.bind fun w => (keepsIdle_pure _).ite ?_
        exact (keepsIdle_progress sound).bind fun _ => ih.ite keepsIdle_failure
  exact turns e.patience

/-! ## Runs of event loops -/

theorem keepsIdle_consume (sound : e.Sound) : KeepsIdle (e.consume thread i) := by
  have turns : ∀ n, KeepsIdle (Engine.consume.go e thread i n) := by
    intro n
    induction n with
    | zero => exact keepsIdle_failure
    | succ n ih =>
        refine (keepsIdle_turn sound).bind fun course => ?_
        cases course with
        | ended result => exact keepsIdle_finishRun.bind fun _ => keepsIdle_pure _
        | going => exact ih
        | waiting => exact (keepsIdle_progress sound).bind fun _ => ih.ite keepsIdle_failure
  exact turns e.patience

theorem keepsIdle_runHere (sound : e.Sound) : KeepsIdle (e.runHere thread i) := by
  refine keepsIdle_atRunner fun r w h found => ?_
  split
  · exact keepsIdle_pure _ w h
  · refine KeepsIdle.setRunner ?_ h found rfl
    exact keepsIdle_advanceLoop.bind fun _ => keepsIdle_consume sound

theorem keepsIdle_join (sound : e.Sound) : KeepsIdle (e.join thread i) := by
  refine keepsIdle_runner.bind fun r => ?_
  split
  · exact keepsIdle_pure _
  · refine (keepsIdle_pure _).ite (keepsIdle_setConsumer.bind fun _ => ?_)
    refine (keepsIdle_await sound).bind fun _ => keepsIdle_get.bind fun w => ?_
    refine keepsIdle_known.bind fun result => keepsIdle_atRunner fun r w h found => ?_
    exact (keepsIdle_pure _).setRunner h found rfl

theorem keepsIdle_noteJoined : KeepsIdle (noteJoined i) := by
  intro w h
  simpa [noteJoined] using h

theorem keepsIdle_retire (sound : e.Sound) : KeepsIdle (e.retire thread i) := by
  have leave : KeepsIdle (do
      let r ← runner i
      if (r.consumer.map fun c => c.result.isNone).getD false then
        setRunner i { r with doomed := true }
      else
        setRunner i { r with loop := r.loop.lose }) := by
    refine keepsIdle_atRunner fun r w h found => ?_
    rw [ensures_ite]
    exact ⟨fun _ => idle_setRunner h found rfl, fun _ => idle_setRunner h found rfl⟩
  refine keepsIdle_noteJoined.bind fun _ => keepsIdle_advanceLoop.bind fun _ => ?_
  refine (keepsIdle_join sound).bind fun r => ?_
  cases r with
  | ok => exact leave
  | error f => exact keepsIdle_report.bind fun _ => leave

theorem keepsIdle_retireIfUnused (sound : e.Sound) : KeepsIdle (e.retireIfUnused thread i) :=
  keepsIdle_runner.bind fun _ => keepsIdle_get.bind fun _ =>
    (keepsIdle_retire sound).ite (keepsIdle_pure _)

theorem keepsIdle_during {act : Act α} (sound : e.Sound) (h : KeepsIdle act) :
    KeepsIdle (e.during thread i act) := by
  refine keepsIdle_atRunner fun r w hw found => ?_
  refine KeepsIdle.setRunner (h.bind fun a => ?_) hw found rfl
  refine keepsIdle_atRunner fun r w hw found => ?_
  refine KeepsIdle.setRunner ?_ hw found rfl
  exact (keepsIdle_retireIfUnused sound).bind fun _ => keepsIdle_pure _

end CallBridge.Script
