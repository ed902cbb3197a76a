import CallBridge.Proofs.Script.Starts
import CallBridge.Script.Perform

/-!
# Steps that wait for nobody

Every step that may be taken inside a callback is a run of moves on each stream.
-/

namespace CallBridge.Script

open Session (Frame)

variable {α β : Type} {F : Nest} {th : Nat} {calls : Table CallId Member}
  {takes : List AsideTake} {lanes : Table Nat Lane} {channels : Table String Channel}
  {runners : Table Nat Runner} {w : World}

/-- Whatever the step comes to, every stream is where a session can be, as it was before. -/
def StepAct.Keeps (x : StepAct α) (F : Nest) (th : Nat) : Prop :=
  ∀ w : World, w.Sessions F th →
    w.Yields x (fun w' => w'.Sessions F th) fun _ w' => w'.Sessions F th

/-! ## Putting steps together -/

theorem StepAct.Keeps.bind {x : StepAct β} {f : β → StepAct α} (hx : x.Keeps F th)
    (hf : ∀ b, (f b).Keeps F th) : (x >>= f).Keeps F th := by
  intro w h
  rw [yields_bind]
  exact yields_mono (hx w h) fun b w' h' => hf b w' h'

theorem keeps_pure (a : α) : (pure a : StepAct α).Keeps F th :=
  fun _ h => (yields_pure a).mpr h

theorem keeps_stop (r : Result) : (StepAct.stop r : StepAct α).Keeps F th :=
  fun _ h => (yields_stop r).mpr h

theorem keeps_lift {act : Act α}
    (keep : ∀ w : World, w.Sessions F th → w.Ensures act fun _ w' => w'.Sessions F th) :
    (liftM act : StepAct α).Keeps F th :=
  fun w h => (yields_lift act).mpr (keep w h)

theorem keeps_allow {r : Except Fault α} : (allow r).Keeps F th := by
  cases r with
  | ok a => exact keeps_pure a
  | error f => exact keeps_stop _

theorem keeps_conclude {r : Except Result Unit} : (conclude r).Keeps F th := by
  cases r with
  | ok => exact keeps_pure _
  | error r => exact keeps_stop r

theorem keeps_unwind {panic : Option Panic} : (unwind panic).Keeps F th := by
  cases panic with
  | none => exact keeps_pure _
  | some p => exact keeps_stop _

theorem keeps_namedCall {name : String} : (namedCall name).Keeps F th := by
  intro w h
  simp [h]

theorem keeps_namedCallOf {streams : Bool} {name : String} :
    (namedCallOf streams name).Keeps F th := by
  intro w h
  simp [namedCallOf, h]

/-! ## New calls -/

theorem keeps_newCall {name : String} {body : CallId → Body}
    (fresh : ∀ id s hooks, body id = .stream s hooks →
      ∃ timeout, s = .create id timeout ∧ hooks.counts = (0, 0))
    (prompt : ∀ id, ∀ s ∈ (body id).steps, s.Prompt) : (newCall name body).Keeps F th := by
  intro w h
  simp only [newCall, yields_bind, yields_get, yields_modify, yields_pure]
  -- The number is above all others, so nothing is known of the call and nothing under way on it.
  have unknown : w.calls.find? ⟨w.calls.size + 1⟩ = none := by
    cases found : w.calls.find? ⟨w.calls.size + 1⟩ with
    | none => rfl
    | some m =>
        have numbered := h.numbered _ m found
        dsimp only at numbered
        omega
  have nothing : F.frames ⟨w.calls.size + 1⟩ = [] := by
    by_contra under_way
    obtain ⟨_, _, _, found⟩ := h.nested _ under_way
    simp [unknown] at found
  have served : Served F.opened
      (w.calls.insert ⟨w.calls.size + 1⟩ ⟨name, body ⟨w.calls.size + 1⟩⟩) w.lanes := by
    refine h.served.insert (fun _ => rfl) rfl (fun _ _ => rfl) ?_ fun _ hp => hp
    intro name' s hooks hm
    rw [Member.mk.injEq] at hm
    obtain ⟨timeout, rfl, -⟩ := fresh _ s hooks hm.2
    exact ⟨h.served.fresh _ unknown, by simp [Stream.create, Phase.lane?]⟩
  refine h.insert (fun _ _ => rfl) served ?_ (prompt _)
    (fun ne => absurd nothing ne) ?_
  · simp [Table.size_insert, unknown]
  · intro name' s hooks hm
    rw [Member.mk.injEq] at hm
    obtain ⟨timeout, rfl, counts⟩ := fresh _ s hooks hm.2
    refine ⟨timeout, th, [], [], ?_, counts⟩
    simp [sessionOf, nothing, Session.fresh, Session.run, runWith]

/-! ## Transports and channels -/

theorem sessions_killTransport {i : Nat} (h : w.Sessions F th) :
    w.Ensures (killTransport i) fun _ w' => w'.Sessions F th := by
  simp only [killTransport, ensures_bind, ensures_get, ensures_known, ensures_modify]
  intro tr _
  have each : ∀ (p : Nat × Task) (v : World), v.Sessions F th →
      v.Ensures (if p.2.transport = i then do
          setTask p.1 { p.2 with serving := p.2.serving.stopped }
          pure (ForInStep.yield ())
        else pure (ForInStep.yield ())) fun _ v' => v'.Sessions F th := by
    intro p v hv
    simp [setTask, hv]
  refine ensures_mono (ensures_forIn (fun p v hv => each p v hv) h) fun _ w' h' => ?_
  exact (ensures_pure _).mpr h'

theorem keeps_newTransport {as : String} {config : Loopback.Config} :
    (newTransport as config).Keeps F th := by
  intro w h
  simp only [newTransport, yields_bind, yields_unwind, yields_lift, ensures_report, yields_get,
    yields_modify]
  refine ⟨fun _ => ?_, fun _ _ => h⟩
  split
  · simp only [yields_bind, yields_lift, yields_pure]
    exact sessions_killTransport h
  · simpa using h

theorem keeps_dropTransport {name : String} : (dropTransport name).Keeps F th := by
  intro w h
  simp only [dropTransport, yields_bind, yields_get]
  split
  · simpa using h
  · simp only [yields_bind, yields_modify, yields_lift, yields_pure]
    exact sessions_killTransport h

theorem keeps_newService {as transport : String} {service : Service} {streams : Bool}
    {latency : Option Nat} : (newService as transport service streams latency).Keeps F th := by
  intro w h
  have added : ∀ c : Channel, (∀ r, c ≠ .recorder r) →
      Script.Sessions F th w.calls w.takes w.lanes (w.channels.insert as c) w.runners :=
    fun c other => h.channel fun r same => absurd same (other r)
  simp [newService, added, h]

theorem keeps_newRecorder {as : String} {onStart : List Step} (prompt : ∀ s ∈ onStart, s.Prompt) :
    (newRecorder as onStart).Keeps F th := by
  intro w h
  simp only [newRecorder, yields_bind, yields_modify, yields_pure]
  refine h.channel fun r same => ?_
  cases same
  exact prompt

theorem keeps_recordedOf {name : String} : (recordedOf name).Keeps F th := by
  intro w h
  simp only [recordedOf, yields_bind, yields_get, yields_named]
  refine ⟨fun c _ => ?_, fun _ => h⟩
  cases c <;> simpa using h

/-! ## Registers -/

theorem keeps_reserve {register as : String} {key : Key} :
    (reserve register key as).Keeps F th := by
  intro w h
  simp only [reserve, namedRegister, yields_bind, yields_get, yields_named, yields_lift,
    ensures_known, yields_pure, ensures_advanceRegister, yields_allow]
  refine ⟨fun i _ r _ r' _ => ⟨fun _ _ => ?_, fun _ _ => h⟩, fun _ => h⟩
  split <;> simp [h]

theorem keeps_abandon {reservation : String} : (abandon reservation).Keeps F th := by
  intro w h
  simp only [abandon, yields_bind, yields_get]
  split <;> simp [h]

theorem keeps_release {register : String} {key : Key} : (release register key).Keeps F th := by
  intro w h
  simp only [release, namedRegister, yields_bind, yields_get, yields_named, yields_lift,
    ensures_known, yields_pure, ensures_advanceRegister]
  refine ⟨fun i _ r _ r' _ => ?_, fun _ => h⟩
  split <;> simpa using h

/-- A call that cannot be admitted is asked to stop. -/
theorem keeps_occupy {reservation call : String} : (occupy reservation call).Keeps F th := by
  intro w h
  simp only [occupy, yields_bind, yields_get, yields_named, yields_namedCall, yields_modify,
    yields_lift, ensures_advanceRegister, yields_ite, yields_pure]
  exact ⟨fun p _ => ⟨fun c _ r _ => ⟨fun _ => sessions_cancelCall h, fun _ => h⟩, fun _ => h⟩,
    fun _ => h⟩

theorem keeps_specifiedCall {ctx : Context} {call : CallSpec} :
    (specifiedCall ctx call).Keeps F th := by
  intro w h
  cases call <;> simp [specifiedCall, h]

theorem keeps_namedRegister {name : String} : (namedRegister name).Keeps F th := by
  intro w h
  simp [namedRegister, h]

theorem keeps_releaseCall {ctx : Context} {register : String} {key : Key} {call : CallSpec} :
    (releaseCall ctx register key call).Keeps F th := by
  refine keeps_namedRegister.bind fun r => keeps_specifiedCall.bind fun id => ?_
  intro w h
  simp [h]

theorem keeps_isCurrent {ctx : Context} {register : String} {key : Key} {call : CallSpec} :
    (isCurrent ctx register key call).Keeps F th :=
  keeps_namedRegister.bind fun _ => keeps_specifiedCall.bind fun _ => keeps_pure _

theorem keeps_cancelAll {register : String} : (cancelAll register).Keeps F th := by
  intro w h
  simp only [cancelAll, namedRegister, yields_bind, yields_get, yields_named, yields_lift,
    ensures_known, yields_pure]
  refine ⟨fun i _ r _ => ?_, fun _ => h⟩
  refine yields_mono (yields_forIn (I := fun w => w.Sessions F th) (fun c v hv => ?_) h) ?_
  · simp only [yields_bind, yields_lift, yields_pure]
    exact sessions_cancelCall hv
  · intro _ w' h'
    simpa using h'

/-! ## Event loops -/

theorem Sessions.runner {i : Nat} {r : Runner}
    (h : Sessions F th calls takes lanes channels runners)
    (calm : ∀ event p, r.handlers.find? event = some p → ∀ s ∈ Reaction.steps p.1, s.Calm) :
    Sessions F th calls takes lanes channels (runners.insert i r) where
  numbered := h.numbered
  prompt := h.prompt
  recorders := h.recorders
  nested := h.nested
  answered := h.answered
  reached := h.reached
  served := h.served
  handlers := by
    intro j r' found
    by_cases same : j = i
    · rw [same, Table.find?_insert_self, Option.some.injEq] at found
      rw [← found]
      exact calm
    · rw [Table.find?_insert_of_ne _ _ same] at found
      exact h.handlers j r' found

theorem Sessions.same_handlers {i : Nat} {r r' : Runner}
    (h : Sessions F th calls takes lanes channels runners) (found : runners.find? i = some r)
    (same : r'.handlers = r.handlers) :
    Sessions F th calls takes lanes channels (runners.insert i r') :=
  h.runner (same ▸ h.handlers i r found)

theorem sessions_advanceLoop {i : Nat} {f : EventLoop Payload → Outcome (EventLoop Payload) α}
    (h : w.Sessions F th) : w.Ensures (advanceLoop i f) fun _ w' => w'.Sessions F th := by
  rw [ensures_advanceLoop]
  exact fun r found => h.same_handlers found rfl

theorem keeps_namedLoop {name : String} : (namedLoop name).Keeps F th := by
  intro w h
  simp [namedLoop, h]

theorem keeps_namedOutlet {name : String} : (namedOutlet name).Keeps F th := by
  intro w h
  simp [namedOutlet, h]

theorem keeps_newEvent {as : String} {ev : Event Payload} : (newEvent as ev).Keeps F th := by
  intro w h
  simp [newEvent, h]

theorem keeps_enqueueOn {i : Nat} {ev : Event Payload} : (enqueueOn i ev).Keeps F th := by
  intro w h
  simp only [enqueueOn, yields_bind, yields_lift, yields_allow, yields_pure]
  exact ensures_mono (sessions_advanceLoop h) fun _ w' h' => ⟨fun _ _ => h', fun _ _ => h'⟩

theorem keeps_specifiedPayload {payload : PayloadSpec} :
    (specifiedPayload payload).Keeps F th := by
  intro w h
  cases payload <;> simp [specifiedPayload, h]

theorem keeps_callEvent {name call : String} : (callEvent name call).Keeps F th := by
  intro w h
  simp [callEvent, h]

theorem keeps_register {loop name : String} {handler : Reaction}
    (calm : ∀ s ∈ Reaction.steps handler, s.Calm) : (register loop name handler).Keeps F th := by
  intro w h
  simp only [register, namedLoop, yields_bind, yields_get, yields_named, yields_lift,
    ensures_runner, ensures_setRunner, yields_allow, yields_pure]
  refine ⟨fun i _ => ?_, fun _ => h⟩
  refine ensures_mono (sessions_advanceLoop h) fun _ w' h' => ⟨fun _ _ r found => ?_, fun _ _ => h'⟩
  refine h'.runner fun event p hp => ?_
  by_cases same : event = name
  · rw [same, Table.find?_insert_self, Option.some.injEq] at hp
    rw [← hp]
    exact calm
  · rw [Table.find?_insert_of_ne _ _ same] at hp
    exact h'.handlers i r found event p hp

theorem keeps_takePayload {ctx : Context} (here : ctx.thread.serial = th) :
    (takePayload ctx).Keeps F th := by
  intro w h
  unfold takePayload
  split
  · simp only [yields_bind, yields_lift, yields_pure]
    exact sessions_takeFrom h (.inl here)
  · simpa using h

theorem keeps_payloadStatus {ctx : Context} : (payloadStatus ctx).Keeps F th := by
  intro w h
  unfold payloadStatus
  split
  · simp only [yields_bind, yields_lift, ensures_member]
    intro m _
    split <;> simpa using h
  · simpa using h

theorem keeps_runAside {name : String} : (Engine.runAside name).Keeps F th := by
  intro w h
  simp only [Engine.runAside, namedLoop, yields_bind, yields_get, yields_named, yields_lift,
    ensures_runner, yields_allow]
  refine ⟨fun i _ r found => ⟨fun loop _ => ?_, fun _ _ => h⟩, fun _ => h⟩
  split
  · simp only [yields_bind, yields_lift, ensures_setRunner, yields_stop]
    exact h.same_handlers found rfl
  · simp only [yields_bind, yields_lift, ensures_freshThread, ensures_setRunner, yields_modify,
      yields_pure]
    exact h.same_handlers found rfl

/-! ## Takes of other threads -/

theorem yields_mapM_known {f : β → Option α} {l : List β} {P : World → Prop} :
    w.Yields (l.mapM fun b => liftM (known (f b))) P fun _ w' => w' = w ∧ ∀ b ∈ l, f b ≠ none := by
  induction l with
  | nil => simp
  | cons b l ih =>
      rw [List.mapM_cons, yields_bind, yields_lift, ensures_known]
      intro a ha
      rw [yields_bind]
      refine yields_mono ih fun as w' => ?_
      rintro ⟨rfl, rest⟩
      rw [yields_pure]
      exact ⟨rfl, List.forall_mem_cons.mpr ⟨by simp [ha], rest⟩⟩

theorem keeps_joinTakes : joinTakes.Keeps F th := by
  intro w h
  simp only [joinTakes, yields_bind, yields_lift, yields_get, yields_modify, yields_pure]
  refine ensures_mono (ensures_completeTakes h.answered) fun _ w' => ?_
  rintro rfl
  refine yields_mono yields_mapM_known fun _ w' => ?_
  rintro ⟨rfl, -⟩
  exact h.of_takes (by simp)

end CallBridge.Script
