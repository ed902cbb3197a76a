import CallBridge.Proofs.Calls.Rounds
import CallBridge.Proofs.Script.Act

/-!
# A round in a world

The step that carries a round out asks one call after the other, in the order of their numbers. In a
world it comes to what `Hall.Round` says of a round at a desk: the calls that are live in the named
register are asked to stop, each as often as it is live, and but for them and for what is reported
the world is as it was.
-/

namespace CallBridge.Script

/-- The same call, asked to stop. -/
def Member.asked (m : Member) : Member :=
  { m with body := m.body.withCell m.body.cell.cancel.state }

@[simp] theorem Member.asked_cell (m : Member) : m.asked.body.cell = m.body.cell.flag true := by
  obtain ⟨name, body⟩ := m
  cases body <;> rfl

@[simp] theorem Member.asked_asked (m : Member) : m.asked.asked = m.asked := by
  obtain ⟨name, body⟩ := m
  cases body <;> rfl

variable {w v u : World} {id : CallId} {ids ids' : List CallId} {m : Member}

/-- The calls among `ids` were asked to stop, and but for what was reported nothing else changed. -/
structure World.Asked (w w' : World) (ids : List CallId) : Prop where
  calls : ∀ id, w'.call? id = if id ∈ ids then (w.call? id).map Member.asked else w.call? id
  others : w' = { w with calls := w'.calls, trace := w'.trace }

theorem asked_nil (w : World) : w.Asked w [] where
  calls id := by simp
  others := rfl

theorem World.Asked.trans (first : w.Asked v ids) (second : v.Asked u ids') :
    w.Asked u (ids ++ ids') where
  calls id := by
    rw [second.calls, first.calls]
    by_cases here : id ∈ ids
    · by_cases there : id ∈ ids'
      · simp [here, there, Function.comp_def]
      · simp [here, there]
    · simp [here]
  others := by
    rw [second.others, first.others]

theorem World.Asked.isSome (asked : w.Asked v ids) (known : (w.call? id).isSome) :
    (v.call? id).isSome := by
  rw [asked.calls]
  split
  · rwa [Option.isSome_map]
  · exact known

theorem World.Asked.cancelled (asked : w.Asked v ids) (among : id ∈ ids)
    (found : v.call? id = some m) : m.body.cell.cancelled = true := by
  rw [asked.calls, if_pos among] at found
  obtain ⟨before, -, rfl⟩ := Option.map_eq_some_iff.mp found
  rw [Member.asked_cell]
  rfl

/-- The order of the requests makes no difference, nor does what is reported. -/
theorem World.Asked.reported (asked : w.Asked v ids) (same : ∀ id, id ∈ ids ↔ id ∈ ids')
    (trace : Array Entry) : w.Asked { v with trace } ids' where
  calls id := by
    have before := asked.calls id
    simp only [same id] at before
    exact before
  others := by
    rw [asked.others]

theorem World.Asked.again (first : w.Asked v ids) (second : v.Asked u ids) (id : CallId) :
    u.call? id = v.call? id := by
  rw [second.calls, first.calls]
  split
  · simp [Function.comp_def]
  · rfl

def World.ask (w : World) (id : CallId) (m : Member) : World :=
  { w with
    calls := w.calls.insert id m.asked
    trace := w.trace ++ ((m.body.cell.cancel.lines.filter w.keeps).map Entry.line).toArray }

theorem asked_ask (found : w.call? id = some m) : w.Asked (w.ask id m) [id] where
  calls j := by
    by_cases same : j = id
    · rw [same, found, if_pos (List.mem_singleton.mpr rfl)]
      exact Table.find?_insert_self _ _ _
    · rw [if_neg (mt List.mem_singleton.mp same)]
      exact Table.find?_insert_of_ne _ _ same
  others := rfl

/-! ## The step -/

section

variable {α β : Type} {x : StepAct β} {b : β}

theorem attempt_of_bind {f : β → StepAct α} (first : x.attempt w = some (.ok b, v)) :
    (x >>= f).attempt w = (f b).attempt v := by
  rw [attempt_bind]
  simp only [bind, StateT.bind, first, Option.bind_some]

theorem attempt_of_lift {act : Act β} (done : act w = some (b, v)) :
    (liftM act : StepAct β).attempt w = some (.ok b, v) := by
  have lifted : (liftM act : StepAct β).attempt w =
      (act w).bind fun r => some (.ok r.1, r.2) := rfl
  rw [lifted, done, Option.bind_some]

end

theorem run_cancelCall (found : w.call? id = some m) :
    cancelCall id w = some ((), w.ask id m) := by
  have first : member id w = some (m, w) := by
    have here : member id w = (known (w.call? id) : Act Member) w := rfl
    rw [here, found]
    rfl
  simp only [cancelCall, advanceCall, setBody, bind, StateT.bind, first, Option.bind_some]
  rfl

/-- The requests of a round, one after the other. -/
theorem run_requests (known : ∀ id ∈ ids, (w.call? id).isSome) : ∃ w',
    (forIn ids () fun id _ => do
      cancelCall id
      pure (ForInStep.yield ()) : StepAct Unit).attempt w = some (.ok (), w') ∧
    w.Asked w' ids := by
  induction ids generalizing w with
  | nil => exact ⟨w, rfl, asked_nil w⟩
  | cons id ids ih =>
      obtain ⟨m, found⟩ := Option.isSome_iff_exists.mp (known id List.mem_cons_self)
      -- A call that stands in the list again is asked again, in the world after its first request.
      have first := asked_ask found
      obtain ⟨w', rest, later⟩ := @ih (w.ask id m) fun j mem =>
        first.isSome (known j (List.mem_cons_of_mem id mem))
      refine ⟨w', ?_, first.trans later⟩
      have request := attempt_of_lift (run_cancelCall found)
      rw [List.forIn_cons, attempt_of_bind (attempt_of_bind request)]
      exact rest

theorem attempt_namedRegister {name : String} {i : Nat} {r : Admission.Register}
    (named : w.registerNames.find? name = some i) (found : w.registers.find? i = some r) :
    (namedRegister name).attempt w = some (.ok (i, r), w) := by
  have world : (get : StepAct World).attempt w = some (.ok w, w) := rfl
  have number : (Script.named w.registerNames name).attempt w = some (.ok i, w) := by
    rw [Script.named, named]
    rfl
  have register : (liftM (known (w.registers.find? i)) : StepAct Admission.Register).attempt w =
      some (.ok r, w) := by
    rw [found]
    rfl
  rw [namedRegister, attempt_of_bind world, attempt_of_bind number, attempt_of_bind world,
    attempt_of_bind register]
  rfl

section

variable {name : String} {i : Nat} {r : Admission.Register}

theorem attempt_cancelAll (named : w.registerNames.find? name = some i)
    (found : w.registers.find? i = some r) (known : ∀ id ∈ r.liveCalls, (w.call? id).isSome) :
    ∃ w', (cancelAll name).attempt w = some (.ok (.count r.liveCalls.length), w') ∧
      w.Asked w' r.liveCalls := by
  have there : ∀ id ∈ r.liveCalls.mergeSort fun a b => a.serial ≤ b.serial,
      (w.call? id).isSome := fun id mem => known id (List.mem_mergeSort.mp mem)
  obtain ⟨v, requests, asked⟩ := run_requests there
  obtain ⟨trace, sum⟩ : ∃ trace, report r.cancelAllLines v = some ((), { v with trace }) :=
    ⟨_, rfl⟩
  refine ⟨{ v with trace }, ?_, asked.reported (fun _ => List.mem_mergeSort) trace⟩
  rw [cancelAll, attempt_of_bind (attempt_namedRegister named found), attempt_of_bind requests,
    attempt_of_bind (attempt_of_lift sum)]
  rfl

/-- **The step that carries a round out.** In any world that has the calls that are live in the
named register, the step asks each of them to stop, is answered with the number of live entries, and
leaves everything else as it was, all registers and reservations included. Carried out again at
once it is answered with the same number and changes no call. -/
theorem cancelAll_asks (named : w.registerNames.find? name = some i)
    (found : w.registers.find? i = some r) (known : ∀ id ∈ r.liveCalls, (w.call? id).isSome) :
    ∃ w', (cancelAll name).attempt w = some (.ok (.count r.liveKeys.length), w') ∧
      w.Asked w' r.liveCalls ∧
      (∀ k id m, r.live? k = some id → w'.call? id = some m → m.body.cell.cancelled = true) ∧
      ∃ w'', (cancelAll name).attempt w' = some (.ok (.count r.liveKeys.length), w'') ∧
        ∀ id, w''.call? id = w'.call? id := by
  rw [← r.length_liveCalls]
  obtain ⟨w', first, asked⟩ := attempt_cancelAll named found known
  have same := asked.others
  have named' : w'.registerNames.find? name = some i := by rw [same]; exact named
  have found' : w'.registers.find? i = some r := by rw [same]; exact found
  obtain ⟨w'', second, askedAgain⟩ := attempt_cancelAll named' found' fun id mem =>
    asked.isSome (known id mem)
  refine ⟨w', first, asked, ?_, w'', second, asked.again askedAgain⟩
  intro k id m live there
  exact asked.cancelled (Admission.Register.mem_liveCalls.mpr ⟨k, live⟩) there

end

end CallBridge.Script
