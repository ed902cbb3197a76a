import CallBridge.Proofs.Script.Streams

/-!
# Deliveries are moves of a session

What is done to a call and what the transport reports to it keep every stream where a session can
be, as long as the steps of callbacks do.
-/

namespace CallBridge.Script

open Session (Frame)

variable {F : Nest} {th : Nat} {calls : Table CallId Member} {id : CallId} {name : String}
  {s : Stream Datum} {hooks : StreamHooks} {takes : List AsideTake} {lanes : Table Nat Lane}
  {channels : Table String Channel} {runners : Table Nat Runner}

/-! ## Actions on calls -/

variable {w : World}

/-- Every stream of a world is where a session can be. -/
abbrev World.Sessions (w : World) (F : Nest) (th : Nat) : Prop :=
  Script.Sessions F th w.calls w.takes w.lanes w.channels w.runners

theorem take_of_unlocked {c : Cell Datum} (h : c.inspector = none) (a b : Nat) :
    c.take a = c.take b := by simp [Cell.take, h]

theorem sessions_takeFrom {thread : Thread} (h : w.Sessions F th)
    (same : thread.serial = th ∨ ∀ m, w.calls.find? id = some m → m.body.isInspected = false) :
    w.Ensures (takeFrom thread id) fun _ w' => w'.Sessions F th := by
  simp only [takeFrom, ensures_bind, ensures_member]
  rintro ⟨name, body⟩ found
  cases body with
  | unary u onDone =>
      simp only [ensures_advanceCall, found, Option.some.injEq, forall_eq']
      exact h.unary found
  | stream s hooks =>
      have take : s.take thread.serial = s.take th := by
        rcases same with rfl | unlocked
        · rfl
        · have free : s.cell.inspector = none := by
            simpa [Body.isInspected] using unlocked _ found
          simp only [Stream.take, take_of_unlocked free _ th]
      simp only [ensures_bind, ensures_advanceCall, found, Option.some.injEq, forall_eq', take,
        ensures_askRead, ensures_pure]
      intro lanes' asked
      have moved : (sessionOf F th id s).step .take =
        some (sessionOf F th id s).take := rfl
      have silent : Session.begins (sessionOf F th id s).take.2 = (0, 0) := by
        simp [Session.take]
      exact h.read_move found moved rfl rfl rfl silent (s.readsOn_afterTake _) asked

theorem sessions_cancelCall (h : w.Sessions F th) :
    w.Ensures (cancelCall id) fun _ w' => w'.Sessions F th := by
  simp only [cancelCall, ensures_bind, ensures_member]
  rintro ⟨name, body⟩ found
  simp only [ensures_advanceCall, found, Option.some.injEq, forall_eq']
  cases body with
  | unary u onDone => exact h.unary found
  | stream s hooks =>
      have moved : (sessionOf F th id s).step .cancel =
        some ({ sessionOf F th id s with stream := s.cancel.state }, []) := rfl
      exact h.quiet_move found moved rfl (.of_same rfl fun _ hi => hi)

theorem ensures_completeTakes (answered : ∀ t ∈ w.takes, t.result ≠ none) :
    w.Ensures completeTakes fun _ w' => w' = w := by
  have still : ∀ ts : List AsideTake, (∀ t ∈ ts, t.result ≠ none) →
      w.Ensures (ts.mapM completeTake) fun done w' => done = ts ∧ w' = w := by
    intro ts hts
    induction ts with
    | nil => exact (ensures_pure _).mpr ⟨rfl, rfl⟩
    | cons t ts ih =>
        obtain ⟨head, tail⟩ := List.forall_mem_cons.mp hts
        have through : w.canComplete t = false := by
          simp [World.canComplete, head]
        rw [List.mapM_cons, ensures_bind, completeTake, ensures_bind, ensures_get, through]
        simp only [Bool.false_eq_true, if_false, ensures_pure, ensures_bind]
        refine ensures_mono (ih tail) fun done w' => ?_
        rintro ⟨rfl, rfl⟩
        exact ⟨rfl, rfl⟩
  simp only [completeTakes, ensures_bind, ensures_get]
  refine ensures_mono (still _ answered) fun done w' => ?_
  rintro ⟨rfl, rfl⟩
  simp

theorem ensures_readOn (thread : Thread) {opened : List (Nat × CallId)}
    (made : w.calls = calls.insert id ⟨name, .stream s hooks⟩)
    (served : Served opened w.calls w.lanes) :
    w.Ensures (readOn thread id) fun _ w' =>
      w'.calls = calls.insert id ⟨name, .stream (s.readOn thread.serial).state hooks⟩ ∧
      Served opened w'.calls w'.lanes ∧ w'.takes = w.takes ∧ w'.channels = w.channels ∧
      w'.runners = w.runners := by
  have found : w.calls.find? id = some ⟨name, .stream s hooks⟩ := by simp [made]
  simp only [readOn, ensures_bind, ensures_member, found, Option.some.injEq, forall_eq',
    ensures_advanceCall, ensures_askRead]
  intro lanes' asked
  refine ⟨?_, served.advance found (s.readsOn_readOn _) asked fun _ hp => hp, trivial, trivial,
    trivial⟩
  rw [made, Table.insert_insert]
  rfl

def endingOf (panic : Option Panic) (decision : Decision) : Session.Ending :=
  if panic.isSome then .brokenOff else .decided decision

@[simp] theorem cutShort_endingOf (panic : Option Panic) (decision : Decision) :
    (endingOf panic decision).cutShort = panic.isSome := by
  cases panic <;> rfl

theorem consumes_endingOf (panic : Option Panic) (decision : Decision) :
    (endingOf panic decision).consumes = decide (panic.isNone ∧ decision = .proceed) := by
  cases panic <;> cases decision <;> rfl

def leaveStream (s : Stream Datum) (th : Nat) (e : Session.Ending) : Stream Datum :=
  let freed := s.endInspection e.cutShort
  if e.consumes then (freed.readOn th).state else freed

theorem leave_eq (t : Session Datum) (e : Session.Ending) (unclaimed : t.claimed = false) :
    ∃ es, t.leave e = ({ t with stream := leaveStream t.stream t.thread e }, es) ∧
      Session.begins es = (0, 0) := by
  refine ⟨(t.leave e).2, Prod.ext ?_ rfl, ?_⟩ <;>
    unfold Session.leave Session.completeTake Session.readOn
  · unfold leaveStream
    cases he : e.consumes <;> simp [unclaimed]
  · cases he : e.consumes <;> simp [unclaimed]

theorem step_leave {x : Datum} (panic : Option Panic) (decision : Decision) :
    ∃ m es, (sessionOf (F.push id (.inspecting x)) th id s).step m =
        some ({ sessionOf F th id s with
          stream := leaveStream s th (endingOf panic decision) }, es) ∧
      Session.begins es = (0, 0) := by
  obtain ⟨es, left, silent⟩ := leave_eq (sessionOf F th id s) (endingOf panic decision) rfl
  rw [sessionOf_push]
  cases panic with
  | none => exact ⟨.decide decision, es, congrArg some left, silent⟩
  | some p => exact ⟨.panic, es, congrArg some left, silent⟩

theorem sessions_endInspection {thread : Thread} {x : Datum} {panic : Option Panic}
    {decision : Decision} (h : w.Sessions (F.push id (.inspecting x)) th)
    (here : thread.serial = th) :
    w.Ensures (endInspection thread id panic decision) fun _ w' => w'.Sessions F th := by
  simp only [endInspection, ensures_bind, ensures_member]
  rintro ⟨name, body⟩ found
  cases body with
  | unary u onDone => exact ensures_failure
  | stream s hooks =>
      simp only [ensures_bind, ensures_setBody, found, Option.some.injEq, forall_eq']
      have freed : Served F.opened
          (w.calls.insert id ⟨name, .stream (s.endInspection panic.isSome) hooks⟩) w.lanes :=
        h.served.quiet found (.of_same rfl fun _ hi => hi) fun _ hp => hp
      -- The operation is over when the stream has read on, if it does.
      have final : ∀ lanes, Served F.opened (w.calls.insert id
          ⟨name, .stream (leaveStream s th (endingOf panic decision)) hooks⟩) lanes →
          Script.Sessions F th (w.calls.insert id
            ⟨name, .stream (leaveStream s th (endingOf panic decision)) hooks⟩) w.takes lanes
            w.channels w.runners := by
        intro lanes served
        obtain ⟨m, es, moved, silent⟩ := step_leave (F := F) (s := s) (x := x) panic decision
        exact h.move (G := F) found moved rfl rfl (.silent silent) rfl
          (fun j hj => (push_of_ne _ hj).symm) served rfl
      rw [leaveStream, cutShort_endingOf, consumes_endingOf] at final
      split
      · next consumes =>
          have on := ensures_readOn thread (w := { w with
            calls := w.calls.insert id ⟨name, .stream (s.endInspection panic.isSome) hooks⟩ })
            rfl freed
          refine ensures_mono on fun _ w₂ => ?_
          rintro ⟨hcalls, hserved, htakes, hchannels, hrunners⟩
          rw [decide_eq_true consumes] at final
          rw [World.Sessions, htakes, hchannels, hrunners]
          rw [hcalls, here] at hserved ⊢
          simpa using final w₂.lanes (by simpa using hserved)
      · next keeps =>
          rw [decide_eq_false keeps] at final
          rw [ensures_pure, World.Sessions]
          simpa using final w.lanes (by simpa using freed)

/-! ## Deliveries, with all that their callbacks do -/

/-- Steps inside others keep every stream where a session can be. -/
def NestedKeep (e : Engine) (th : Nat) : Prop :=
  ∀ (ctx : Context) (s : Step) (F : Nest) (w : World), ctx.thread.serial = th → s.Prompt →
    w.Sessions F th → w.Ensures (e.nested ctx s) fun _ w' => w'.Sessions F th

variable {e : Engine} {thread : Thread}

theorem sessions_callback {kind : Callback} {b : Behaviour} (nested : NestedKeep e th)
    (here : thread.serial = th) (h : w.Sessions F th) (prompt : ∀ s ∈ b.steps, s.Prompt) :
    w.Ensures (e.callback thread id kind b) fun _ w' => w'.Sessions F th := by
  simp only [Engine.callback, ensures_bind, ensures_member, ensures_record, ensures_modify,
    ensures_pure]
  have steps : w.Ensures (b.steps.mapM (e.nested { thread })) fun _ w' => w'.Sessions F th :=
    ensures_mapM (I := fun w => w.Sessions F th)
      (fun s hs w hw => nested { thread } s F w here (prompt s hs) hw) h
  exact ensures_mono steps fun _ w' h' m _ => h'

/-- The steps of a callback are those of its call. -/
theorem Sessions.prompt_pick {m : Member} {r : Reaction} {n : Nat} {st : Step}
    (h : Sessions F th calls takes lanes channels runners) (found : calls.find? id = some m)
    (part : ∀ s ∈ Reaction.steps r, s ∈ m.body.steps) (hs : st ∈ (Reaction.pick r n).steps) :
    st.Prompt :=
  h.prompt id m found st (part st (mem_steps_of_pick hs))

theorem sessions_deliverOutcome {result : Except Status Datum} (nested : NestedKeep e th)
    (here : thread.serial = th) (h : w.Sessions F th) :
    w.Ensures (e.deliverOutcome thread id result) fun _ w' => w'.Sessions F th := by
  simp only [Engine.deliverOutcome, ensures_pinned, ensures_bind, ensures_member]
  rintro ⟨name, body⟩ found
  cases body with
  | unary u onDone =>
      simp only [ensures_bind, ensures_advanceCall, found, Option.some.injEq, forall_eq']
      split
      · have completed : Script.Sessions F th
            (w.calls.insert id ⟨name, .unary (u.complete result).state onDone⟩) w.takes w.lanes
            w.channels w.runners :=
          h.unary found
        refine ensures_mono (sessions_callback nested here completed fun st hs => ?_)
          fun _ w' h' => h'
        refine h.prompt_pick found (fun s hs => ?_) hs
        simpa [Body.steps] using hs
      · rw [ensures_pure]
        exact h.unary found
  | stream s hooks => exact ensures_failure

theorem sessions_deliverClose (nested : NestedKeep e th) (here : thread.serial = th)
    (h : w.Sessions F th) :
    w.Ensures (e.deliverClose thread id) fun _ w' => w'.Sessions F th := by
  simp only [Engine.deliverClose, ensures_pinned, ensures_bind, ensures_member]
  rintro ⟨name, body⟩ found
  cases body with
  | unary u onDone => exact ensures_failure
  | stream s hooks =>
      simp only [ensures_bind, ensures_advanceCall, found, Option.some.injEq, forall_eq']
      have moved : (sessionOf F th id s).step .closeReads =
        some (sessionOf F th id s).closeReads := rfl
      have begun : Script.Sessions (F.push id .closing) th (w.calls.insert id
          ⟨name, .stream s.closeReads.state { hooks with closed := hooks.closed + 1 }⟩)
          w.takes w.lanes w.channels w.runners :=
        h.begin_move found moved rfl rfl (.of_same rfl fun _ hi => hi)
      split
      · next r closed =>
          refine ensures_mono (sessions_callback nested here begun fun st hs => ?_)
            fun _ w' h' => h'.back (.inl rfl)
          refine h.prompt_pick found (fun s hs => ?_) hs
          simp [Body.steps, closed, hs]
      · rw [ensures_pure]
        exact begun.back (.inl rfl)

theorem sessions_deliverEnd {status : Status} (nested : NestedKeep e th)
    (here : thread.serial = th) (h : w.Sessions F th) :
    w.Ensures (e.deliverEnd thread id status) fun _ w' => w'.Sessions F th := by
  simp only [Engine.deliverEnd, ensures_pinned, ensures_bind, ensures_member]
  rintro ⟨name, body⟩ found
  cases body with
  | unary u onDone => exact ensures_failure
  | stream s hooks =>
      simp only [ensures_bind, ensures_advanceCall, found, Option.some.injEq, forall_eq']
      have moved : (sessionOf F th id s).step (.finish status) =
        some ((sessionOf F th id s).finish status) := rfl
      cases accepted : (s.finish status).answer with
      | true =>
          have same : (sessionOf F th id s).finish status =
              ({ sessionOf F th id s with
                  stream := (s.finish status).state, frames := .ending :: F.frames id },
                [.ended status]) := by
            simp [Session.finish, sessionOf, accepted]
          have begun := h.begin_move found (moved.trans (congrArg some same)) rfl rfl
            (s.readsOn_finish status)
          simp only [Outcome.within_answer, accepted, if_true]
          refine ensures_mono (sessions_callback nested here begun fun st hs => ?_)
            fun _ w' h' => h'.back (.inr rfl)
          refine h.prompt_pick found (fun s hs => ?_) hs
          simp [Body.steps, hs]
      | false =>
          simp only [Outcome.within_answer, accepted, Bool.false_eq_true, if_false, ensures_pure]
          have same : (sessionOf F th id s).finish status =
              ({ sessionOf F th id s with stream := (s.finish status).state }, []) := by
            simp [Session.finish, sessionOf, accepted]
          exact h.quiet_move found (moved.trans (congrArg some same)) rfl (s.readsOn_finish status)

theorem sessions_deliverItem {x : Datum} (nested : NestedKeep e th)
    (here : thread.serial = th) (h : w.Sessions F th) :
    w.Ensures (e.deliverItem thread id x) fun _ w' => w'.Sessions F th := by
  simp only [Engine.deliverItem, ensures_pinned, ensures_bind, ensures_member]
  rintro ⟨name, body⟩ found
  cases body with
  | unary u onDone => exact ensures_failure
  | stream s hooks =>
      simp only [ensures_bind, ensures_advanceCall, found, Option.some.injEq, forall_eq', here]
      have moved : (sessionOf F th id s).step (.deliver x) =
        some ((sessionOf F th id s).deliver x) := rfl
      rcases s.deliver_cases th x with ⟨lane, -, -, accepted, after⟩ | ⟨-, rejected, after⟩
      · have same : (sessionOf F th id s).deliver x =
            ({ sessionOf F th id s with
                stream := (s.deliver th x).state, frames := .inspecting x :: F.frames id },
              [.accepted x, .shown x]) := by
          simp [Session.deliver, sessionOf, accepted, after, Cell.beginInspection]
        have begun : Script.Sessions (F.push id (.inspecting x)) th (w.calls.insert id
            ⟨name, .stream (s.deliver th x).state { hooks with shown := hooks.shown + 1 }⟩)
            w.takes w.lanes w.channels w.runners :=
          h.begin_move found (moved.trans (congrArg some same)) rfl rfl (s.readsOn_deliver th x)
        simp only [Outcome.within_answer, accepted, if_true, ensures_bind]
        refine ensures_mono (sessions_callback nested here begun fun st hs => ?_) fun p w' h' => ?_
        · refine h.prompt_pick found (fun s hs => ?_) hs
          simp [Body.steps, hs]
        · refine ensures_mono (sessions_endInspection h' here) fun _ w'' h'' => ?_
          rw [ensures_pure]
          exact h''
      · simp only [Outcome.within_answer, rejected, Bool.false_eq_true, if_false, ensures_pure]
        have same : (sessionOf F th id s).deliver x =
            ({ sessionOf F th id s with stream := (s.deliver th x).state },
              [.rejected x]) := by
          simp [Session.deliver, sessionOf, rejected]
        exact h.quiet_move found (moved.trans (congrArg some same)) rfl (s.readsOn_deliver th x)

end CallBridge.Script
