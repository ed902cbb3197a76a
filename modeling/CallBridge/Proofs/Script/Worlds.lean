import CallBridge.Proofs.Script.Idle
import CallBridge.Proofs.Stream.FlowControl

/-!
# The streams of a script are sessions

Whatever a script does, each of its streams is where its session can be, and its callbacks were run
as often as they begin in the session's log. The only condition is that no callback waits for other
threads, which could then act in the middle of an operation, and none starts a take on one, which
could go on in the middle of the next.
-/

namespace CallBridge.Script

open Session (Frame)

variable {α β : Type} {e : Engine} {ctx : Context}

/-! ## Steps that wait -/

/-- After the step no operation is under way if none was before. -/
def StepAct.KeepsIdle (x : StepAct α) : Prop := Script.KeepsIdle x.attempt

theorem StepAct.KeepsIdle.bind {x : StepAct β} {f : β → StepAct α} (hx : x.KeepsIdle)
    (hf : ∀ b, (f b).KeepsIdle) : (x >>= f).KeepsIdle := by
  unfold StepAct.KeepsIdle
  rw [attempt_bind]
  refine Script.KeepsIdle.bind hx fun r => ?_
  cases r with
  | ok b => exact hf b
  | error r => exact keepsIdle_pure _

theorem KeepsIdle.lift {act : Act α} (h : KeepsIdle act) : (liftM act : StepAct α).KeepsIdle :=
  KeepsIdle.bind h fun _ => keepsIdle_pure _

theorem StepAct.KeepsIdle.of_yields {x : StepAct α}
    (h : ∀ w : World, w.Idle → w.Yields x World.Idle fun _ => World.Idle) : x.KeepsIdle := by
  refine fun w hw => ensures_mono (h w hw) fun r w' h' => ?_
  cases r <;> exact h'

theorem StepAct.KeepsIdle.of_keeps {x : StepAct α} (th : Nat) (h : x.Keeps .rest th) :
    x.KeepsIdle := by
  refine Script.KeepsIdle.of_sessions th fun w hw => ensures_mono (h w hw) fun r w' h' => ?_
  cases r <;> exact h'

theorem keepsIdle_reply (r : Reply) : (pure r : StepAct Reply).KeepsIdle := keepsIdle_pure _

theorem keepsIdle_namedLoop {name : String} : (namedLoop name).KeepsIdle :=
  .of_keeps 0 keeps_namedLoop

theorem keepsIdle_newLoop {as : String} {policy : LoopPolicy} (sound : e.Sound) :
    (e.newLoop ctx as policy).KeepsIdle := by
  refine .of_yields fun w h => ?_
  simp only [Engine.newLoop, yields_bind, yields_get, yields_set]
  have added : { w with
      runners := w.runners.insert w.runners.size { name := as, loop := { policy } }
      loopNames := w.loopNames.insert as w.runners.size }.Idle :=
    fun th => (h th).runner fun event p hp => by simp at hp
  split
  · simp only [yields_bind, yields_lift, yields_pure]
    exact keepsIdle_retireIfUnused sound _ added
  · simpa using added

theorem keepsIdle_dropLoop {name : String} (sound : e.Sound) :
    (e.dropLoop ctx name).KeepsIdle := by
  refine StepAct.KeepsIdle.bind keepsIdle_get.lift fun w => ?_
  split
  · exact keepsIdle_reply _
  · refine StepAct.KeepsIdle.bind (KeepsIdle.lift fun v hv => ?_) fun _ => ?_
    · exact (ensures_modify _).mpr hv
    · exact keepsIdle_noteJoined.lift.bind fun _ =>
        (keepsIdle_retireIfUnused sound).lift.bind fun _ => keepsIdle_reply _

theorem keepsIdle_run {name : String} (sound : e.Sound) : (e.run ctx name).KeepsIdle := by
  refine keepsIdle_namedLoop.bind fun i => ?_
  refine (keepsIdle_during sound (keepsIdle_runHere sound)).lift.bind fun _ => ?_
  exact .of_keeps 0 (keeps_allow.bind fun _ => keeps_pure _)

theorem keepsIdle_joinRun {name : String} (sound : e.Sound) :
    (e.joinRun ctx name).KeepsIdle := by
  have ended : ∀ r : Except Fault Unit, (do allow r; pure Reply.okay : StepAct Reply).KeepsIdle :=
    fun r => .of_keeps 0 (keeps_allow.bind fun _ => keeps_pure _)
  refine keepsIdle_namedLoop.bind fun i => keepsIdle_runner.lift.bind fun r => ?_
  refine (keepsIdle_during sound (keepsIdle_join sound)).lift.bind fun result => ?_
  dsimp only
  split
  · exact keepsIdle_noteJoined.lift.bind fun _ => ended result
  · exact ended result

theorem keepsIdle_awaitStopped {name : String} (sound : e.Sound) :
    (e.awaitStopped ctx name).KeepsIdle := by
  refine keepsIdle_namedLoop.bind fun i => ?_
  refine (keepsIdle_during sound (keepsIdle_await sound)).lift.bind fun _ => ?_
  exact keepsIdle_runner.lift.bind fun _ => keepsIdle_reply _

theorem keepsIdle_awaitEnd {on : String} (sound : e.Sound) : (e.awaitEnd on).KeepsIdle := by
  refine StepAct.KeepsIdle.bind (.of_keeps 0 keeps_namedCall) fun id => ?_
  exact (keepsIdle_await sound).lift.bind fun _ => keepsIdle_reply _

theorem World.Idle.uninspected {w : World} {id : CallId} {m : Member} (h : w.Idle)
    (found : w.calls.find? id = some m) : m.body.isInspected = false := by
  obtain ⟨name, body⟩ := m
  cases body with
  | unary => rfl
  | stream s hooks =>
      obtain ⟨_, _, _, _, run, -⟩ := (h 0).reached id name s hooks found
      obtain ⟨l, -, hand⟩ := Session.hand_of_run run
      have free : s.cell.inspector = none := by
        cases hand with
        | rest unlocked | waiting unlocked => exact unlocked.inspector
        | inspected locked | claimed locked => exact absurd locked.frames nofun
      simp [Body.isInspected, free]

theorem keepsIdle_takeFrom {thread : Thread} {id : CallId} : KeepsIdle (takeFrom thread id) :=
  .of_sessions thread.serial fun _ h => sessions_takeFrom h (.inl rfl)

theorem keepsIdle_takeAside {on : String} : (takeAside on).KeepsIdle := by
  refine .of_yields fun w h => ?_
  simp only [takeAside, yields_bind, yields_namedCall, yields_lift, ensures_freshThread,
    ensures_member]
  refine ⟨fun named _ m found => ?_, fun _ => h⟩
  simp only [h.uninspected found, Bool.false_eq_true, if_false, yields_bind, yields_lift,
    yields_modify, yields_pure, ensures_elsewhere, ensures_member]
  refine ensures_mono (keepsIdle_takeFrom _ h) fun x w' h' m' _ th => ?_
  refine (h' th).of_takes fun t ht => ?_
  rcases List.mem_append.mp ht with old | new
  · exact (h' th).answered t old
  · simp [List.mem_singleton.mp new]

/-! ## All steps -/

theorem keepsIdle_perform {s : Step} (sound : e.Sound) (calm : s.Calm) :
    (e.perform ctx s).KeepsIdle := by
  -- Most steps are of the thread that acts; those that involve others are taken one by one.
  cases waits : s.waits with
  | false =>
      exact .of_keeps ctx.thread.serial (keeps_perform (sound.prompt _) rfl ⟨waits, calm⟩)
  | true =>
      cases s with
      | takeAside => exact keepsIdle_takeAside
      | awaitEnd => exact keepsIdle_awaitEnd sound
      | newLoop => exact keepsIdle_newLoop sound
      | run => exact keepsIdle_run sound
      | join => exact keepsIdle_joinRun sound
      | awaitStopped => exact keepsIdle_awaitStopped sound
      | dropLoop => exact keepsIdle_dropLoop sound
      | _ => simp [Step.waits] at waits

theorem keepsIdle_carryOut {s : Step} (sound : e.Sound) (calm : s.Calm) :
    KeepsIdle (e.carryOut ctx s) := by
  refine KeepsIdle.bind (fun w h => ?_) fun r => ?_
  · exact ensures_collect.mpr (keepsIdle_perform sound calm _ h)
  · dsimp only
    split <;> exact keepsIdle_pure _

theorem sound_ofFuel (n : Nat) : (Engine.ofFuel n).Sound := by
  induction n with
  | zero => exact ⟨nestedKeep_ofFuel 0, fun _ _ _ => keepsIdle_failure⟩
  | succ n ih => exact ⟨nestedKeep_ofFuel (n + 1), fun _ _ calm => keepsIdle_carryOut ih calm⟩

theorem keepsIdle_runTop {s : Step} {watch : Watch} (sound : e.Sound) (calm : s.Calm) :
    KeepsIdle (e.runTop s watch) := by
  refine (keepsIdle_carryOut sound calm).bind fun answer => ?_
  refine (keepsIdle_settle sound).bind fun _ => ?_
  intro w h
  simp only [ensures_bind, ensures_get]
  split
  · simpa using h
  · simpa using h

/-! ## Whole scripts -/

/-- Worlds between the top-level steps of scripts whose callbacks do not wait. -/
inductive World.Reachable : World → Prop where
  | fresh (verbosity : Option Level) : Reachable { verbosity }
  | step {w w' : World} {s : Step} {watch : Watch} {answer : TopAnswer} (before : w.Reachable)
      (calm : s.Calm) (ran : (Engine.ofFuel fuel).runTop s watch w = some (answer, w')) :
      w'.Reachable

theorem idle_fresh (verbosity : Option Level) : World.Idle { verbosity } := by
  intro th
  constructor <;> simp [Nest.rest, served_empty]

theorem World.Reachable.idle {w : World} (h : w.Reachable) : w.Idle := by
  induction h with
  | fresh verbosity => exact idle_fresh verbosity
  | step _ calm ran ih => exact keepsIdle_runTop (sound_ofFuel fuel) calm _ ih _ _ ran

/-- Each stream of a script is the stream of a session that has come to rest. Its callbacks of items
and of closes were run as often as they begin in the session's log, and as many reads have reached
the transport as the log asks for. -/
theorem streams_are_sessions {w : World} (h : w.Reachable) {id : CallId} {name : String}
    {s : Stream Datum} {hooks : StreamHooks}
    (found : w.calls.find? id = some ⟨name, .stream s hooks⟩) :
    ∃ timeout thread ms t log, (Session.fresh id timeout thread).run ms = some (t, log) ∧
      t.stream = s ∧ t.frames = [] ∧ (hooks.shown, hooks.closed) = Session.begins log ∧
      askedOf w.lanes id = Session.reads log := by
  have idle := h.idle 0
  obtain ⟨timeout, thread, ms, log, run, counts⟩ := idle.reached id name s hooks found
  have counted : askedOf w.lanes id = s.fetches := idle.served.counted id name s hooks found
  have flows := Session.flows_of_run run
  exact ⟨timeout, thread, ms, _, log, run, rfl, rfl, counts, counted.trans flows.counted.symm⟩

end CallBridge.Script
