import CallBridge.Script.Perform

/-!
# What an action comes to

Rules for what holds after an action on the world, whatever it comes to. An action that runs out of
patience comes to nothing. The rules take an action apart along its definition, so that a statement
about it turns into one about the worlds it goes through.
-/

namespace CallBridge.Script

variable {α β : Type}

/-- Whatever the action comes to in the world `w`, `Q` holds of it. -/
def World.Ensures (w : World) (act : Act α) (Q : α → World → Prop) : Prop :=
  ∀ a w', act w = some (a, w') → Q a w'

variable {w : World} {Q R : α → World → Prop}

theorem ensures_mono {act : Act α} (h : w.Ensures act Q) (weaker : ∀ a w', Q a w' → R a w') :
    w.Ensures act R :=
  fun a w' ha => weaker a w' (h a w' ha)

@[simp] theorem ensures_pure (a : α) : w.Ensures (pure a) Q ↔ Q a w := by
  constructor
  · exact fun h => h a w rfl
  · rintro h _ _ ⟨⟩
    exact h

@[simp] theorem ensures_bind {x : Act β} {f : β → Act α} :
    w.Ensures (x >>= f) Q ↔ w.Ensures x fun b w' => w'.Ensures (f b) Q := by
  constructor
  · intro h b w' hx a w'' hf
    refine h a w'' ?_
    simp only [bind, StateT.bind]
    rw [hx]
    exact hf
  · intro h a w'' hxf
    simp only [bind, StateT.bind, Option.bind_eq_some_iff] at hxf
    obtain ⟨⟨b, w'⟩, hx, hf⟩ := hxf
    exact h b w' hx a w'' hf

@[simp] theorem ensures_map {x : Act β} {f : β → α} :
    w.Ensures (f <$> x) Q ↔ w.Ensures x fun b => Q (f b) := by
  rw [← bind_pure_comp, ensures_bind]
  simp only [ensures_pure]

@[simp] theorem ensures_failure : w.Ensures (failure : Act α) Q := by
  intro a w' h
  cases h

@[simp] theorem ensures_get {Q : World → World → Prop} : w.Ensures get Q ↔ Q w w := by
  constructor
  · exact fun h => h w w rfl
  · rintro h _ _ ⟨⟩
    exact h

@[simp] theorem ensures_modify {Q : Unit → World → Prop} (f : World → World) :
    w.Ensures (modify f) Q ↔ Q () (f w) := by
  constructor
  · exact fun h => h () (f w) rfl
  · rintro h _ _ ⟨⟩
    exact h

@[simp] theorem ensures_known {x : Option α} :
    w.Ensures (known x) Q ↔ ∀ a, x = some a → Q a w := by
  cases x <;> simp [known]

theorem ensures_mapM {I : World → Prop} {f : β → Act α} {l : List β}
    (keep : ∀ b ∈ l, ∀ w : World, I w → w.Ensures (f b) fun _ => I) (h : I w) :
    w.Ensures (l.mapM f) fun _ => I := by
  induction l generalizing w with
  | nil => simpa using h
  | cons b l ih =>
      rw [List.mapM_cons, ensures_bind]
      refine ensures_mono (keep b List.mem_cons_self w h) fun a w' hw' => ?_
      rw [ensures_bind]
      have rest := ih (fun b' hb' => keep b' (List.mem_cons_of_mem b hb')) hw'
      exact ensures_mono rest fun as w'' hw'' => by simpa using hw''

/-! ## Actions that many others are made of -/

@[simp] theorem ensures_record {Q : Unit → World → Prop} (es : List Entry) :
    w.Ensures (record es) Q ↔ Q () { w with trace := w.trace ++ es.toArray } := by
  simp [record]

@[simp] theorem ensures_report {Q : Unit → World → Prop} (lines : List Line) :
    w.Ensures (report lines) Q ↔
      Q () { w with trace := w.trace ++ ((lines.filter w.keeps).map Entry.line).toArray } := by
  simp [report]

@[simp] theorem ensures_collect {act : Act α} {Q : α × List Entry → World → Prop} :
    w.Ensures (collect act) Q ↔
      { w with trace := #[] }.Ensures act fun a w' =>
        Q (a, w'.trace.toList) { w' with trace := w.trace } := by
  simp [collect]

@[simp] theorem ensures_elsewhere {act : Act α} :
    w.Ensures (elsewhere act) Q ↔
      { w with trace := #[] }.Ensures act fun a w' => Q a
        { w' with trace := w.trace, background := w'.background ++ w'.trace } := by
  simp [elsewhere]

@[simp] theorem ensures_pinned {act : Act α} (id : CallId) :
    w.Ensures (pinned id act) Q ↔
      { w with pins := id :: w.pins }.Ensures act fun a w' =>
        Q a { w' with pins := w'.pins.erase id } := by
  simp [pinned]

@[simp] theorem ensures_member {Q : Member → World → Prop} (id : CallId) :
    w.Ensures (member id) Q ↔ ∀ m, w.calls.find? id = some m → Q m w := by
  simp [member, World.call?]

@[simp] theorem ensures_setBody {Q : Unit → World → Prop} {id : CallId} {body : Body} :
    w.Ensures (setBody id body) Q ↔ ∀ m, w.calls.find? id = some m →
      Q () { w with calls := w.calls.insert id { m with body } } := by
  simp [setBody]

@[simp] theorem ensures_advanceCall {id : CallId} {o : Outcome Body α} :
    w.Ensures (advanceCall id o) Q ↔ ∀ m, w.calls.find? id = some m →
      Q o.answer { w with
        calls := w.calls.insert id { m with body := o.state }
        trace := w.trace ++ ((o.lines.filter w.keeps).map Entry.line).toArray } := by
  simp only [advanceCall, ensures_bind, ensures_setBody, ensures_report, ensures_pure]
  exact Iff.rfl

@[simp] theorem ensures_set {Q : Unit → World → Prop} (v : World) :
    w.Ensures (set v) Q ↔ Q () v := by
  constructor
  · exact fun h => h () v rfl
  · rintro h _ _ ⟨⟩
    exact h

@[simp] theorem ensures_ite {c : Prop} [Decidable c] {x y : Act α} :
    w.Ensures (if c then x else y) Q ↔ (c → w.Ensures x Q) ∧ (¬c → w.Ensures y Q) := by
  split <;> simp [*]

/-- What each round of a loop keeps, the loop keeps. -/
theorem ensures_forIn {I : World → Prop} {f : β → Unit → Act (ForInStep Unit)} {l : List β}
    (keep : ∀ b w, I w → w.Ensures (f b ()) fun _ => I) (h : I w) :
    w.Ensures (forIn l () f) fun _ => I := by
  induction l generalizing w with
  | nil => simpa using h
  | cons b l ih =>
      rw [List.forIn_cons, ensures_bind]
      refine ensures_mono (keep b w h) fun r w' hw' => ?_
      cases r with
      | done => simpa using hw'
      | yield => exact ih hw'

@[simp] theorem ensures_freshThread {Q : Thread → World → Prop} {name : Option String} :
    w.Ensures (freshThread name) Q ↔
      Q { serial := w.threads, name } { w with threads := w.threads + 1 } := by
  simp [freshThread]

@[simp] theorem ensures_runner {Q : Runner → World → Prop} {i : Nat} :
    w.Ensures (runner i) Q ↔ ∀ r, w.runners.find? i = some r → Q r w := by
  simp [runner]

@[simp] theorem ensures_setRunner {Q : Unit → World → Prop} {i : Nat} {r : Runner} :
    w.Ensures (setRunner i r) Q ↔ Q () { w with runners := w.runners.insert i r } := by
  simp [setRunner]

@[simp] theorem ensures_advanceLoop {i : Nat}
    {f : EventLoop Payload → Outcome (EventLoop Payload) α} :
    w.Ensures (advanceLoop i f) Q ↔ ∀ r, w.runners.find? i = some r →
      Q (f r.loop).answer { w with
        runners := w.runners.insert i { r with loop := (f r.loop).state }
        trace := w.trace ++ (((f r.loop).lines.filter w.keeps).map Entry.line).toArray } := by
  simp only [advanceLoop, ensures_bind, ensures_runner, ensures_setRunner, ensures_report,
    ensures_pure]
  exact Iff.rfl

@[simp] theorem ensures_advanceRegister {i : Nat}
    {f : Admission.Register → Outcome Admission.Register α} :
    w.Ensures (advanceRegister i f) Q ↔ ∀ r, w.registers.find? i = some r →
      Q (f r).answer { w with
        registers := w.registers.insert i (f r).state
        trace := w.trace ++ (((f r).lines.filter w.keeps).map Entry.line).toArray } := by
  simp only [advanceRegister, ensures_bind, ensures_get, ensures_known, ensures_modify,
    ensures_report, ensures_pure]
  exact Iff.rfl

/-! ## Steps that may end early -/

theorem attempt_bind (x : StepAct β) (f : β → StepAct α) :
    (x >>= f).attempt = x.attempt >>= fun
      | .ok b => (f b).attempt
      | .error r => pure (.error r) := rfl

instance : LawfulMonad StepAct := by
  refine LawfulMonad.mk' StepAct ?_ ?_ ?_
  · intro α x
    ext1
    -- A step that has ended early is passed on as it is.
    calc (id <$> x).attempt = x.attempt >>= pure := by
          refine (attempt_bind x _).trans (congrArg _ ?_)
          funext r
          cases r <;> rfl
      _ = x.attempt := bind_pure _
  · intro α β a f
    ext1
    rw [attempt_bind]
    exact pure_bind _ _
  · intro α β γ x f g
    ext1
    rw [attempt_bind, attempt_bind, attempt_bind, bind_assoc]
    refine congrArg _ ?_
    funext r
    cases r with
    | ok b => rfl
    | error r => exact pure_bind _ _

/-- Whatever the step comes to in the world `w`, `Q` holds of it; when it ends early, `P` does. -/
def World.Yields (w : World) (x : StepAct α) (P : World → Prop) (Q : α → World → Prop) : Prop :=
  w.Ensures x.attempt fun r w' =>
    match r with
    | .ok a => Q a w'
    | .error _ => P w'

section

variable {P : World → Prop}

theorem yields_mono {x : StepAct α} (h : w.Yields x P Q) (weaker : ∀ a w', Q a w' → R a w') :
    w.Yields x P R := by
  refine ensures_mono h fun r w' hr => ?_
  cases r with
  | ok a => exact weaker a w' hr
  | error r => exact hr

@[simp] theorem yields_pure (a : α) : w.Yields (pure a) P Q ↔ Q a w := ensures_pure _

@[simp] theorem yields_stop (r : Result) : w.Yields (StepAct.stop r) P Q ↔ P w := ensures_pure _

@[simp] theorem yields_lift (act : Act α) : w.Yields (liftM act) P Q ↔ w.Ensures act Q := by
  simp [World.Yields, liftM, monadLift, MonadLift.monadLift]

@[simp] theorem yields_bind {x : StepAct β} {f : β → StepAct α} :
    w.Yields (x >>= f) P Q ↔ w.Yields x P fun b w' => w'.Yields (f b) P Q := by
  rw [World.Yields, attempt_bind]
  constructor
  · intro h r w' hx
    have after := (ensures_bind.mp h) r w' hx
    cases r with
    | ok b => exact after
    | error r => exact (ensures_pure _).mp after
  · refine fun h => ensures_bind.mpr (ensures_mono h fun r w' hr => ?_)
    cases r with
    | ok b => exact hr
    | error r => exact (ensures_pure _).mpr hr

@[simp] theorem yields_map {x : StepAct β} {f : β → α} :
    w.Yields (f <$> x) P Q ↔ w.Yields x P fun b => Q (f b) := by
  rw [← bind_pure_comp, yields_bind]
  simp only [yields_pure]

@[simp] theorem yields_ite {c : Prop} [Decidable c] {x y : StepAct α} :
    w.Yields (if c then x else y) P Q ↔ (c → w.Yields x P Q) ∧ (¬c → w.Yields y P Q) := by
  split <;> simp [*]

@[simp] theorem yields_get {Q : World → World → Prop} : w.Yields get P Q ↔ Q w w :=
  (yields_lift (get : Act World)).trans ensures_get

@[simp] theorem yields_modify {Q : Unit → World → Prop} (f : World → World) :
    w.Yields (modify f) P Q ↔ Q () (f w) :=
  (yields_lift (modify f : Act Unit)).trans (ensures_modify f)

@[simp] theorem yields_set {Q : Unit → World → Prop} (v : World) :
    w.Yields (set v) P Q ↔ Q () v :=
  (yields_lift (set v : Act Unit)).trans (ensures_set v)

theorem yields_forIn {I : World → Prop} {f : β → Unit → StepAct (ForInStep Unit)} {l : List β}
    (keep : ∀ b w, I w → w.Yields (f b ()) I fun _ => I) (h : I w) :
    w.Yields (forIn l () f) I fun _ => I := by
  induction l generalizing w with
  | nil =>
      rw [List.forIn_nil, yields_pure]
      exact h
  | cons b l ih =>
      rw [List.forIn_cons, yields_bind]
      refine yields_mono (keep b w h) fun r w' hw' => ?_
      cases r with
      | done => exact (yields_pure _).mpr hw'
      | yield => exact ih hw'

@[simp] theorem yields_named {t : Table String α} {name : String} :
    w.Yields (named t name) P Q ↔
      (∀ a, t.find? name = some a → Q a w) ∧ (t.find? name = none → P w) := by
  cases h : t.find? name <;> simp [named, h]

@[simp] theorem yields_namedCall {Q : CallId → World → Prop} {name : String} :
    w.Yields (namedCall name) P Q ↔
      (∀ h, w.callNames.find? name = some h → Q h.call w) ∧
        (w.callNames.find? name = none → P w) := by
  simp [namedCall]

@[simp] theorem yields_allow {r : Except Fault α} :
    w.Yields (allow r) P Q ↔ (∀ a, r = .ok a → Q a w) ∧ (∀ f, r = .error f → P w) := by
  cases r <;> simp [allow]

@[simp] theorem yields_unwind {Q : Reply → World → Prop} {panic : Option Panic} :
    w.Yields (unwind panic) P Q ↔ (panic = none → Q .nothing w) ∧ (∀ p, panic = some p → P w) := by
  cases panic <;> simp [unwind]

end

end CallBridge.Script
