import CallBridge.Proofs.Unary.Inquiry

/-!
# Single shots: one launch, one completion, one response

Three flags make a unary call single-shot: `started` lets one start through to the channel,
`terminated` one completion to the callback, and `ready` one take to the response. This module
shows that they do so together, whoever uses the call and however the uses are nested.

There are two invariants. `Told` has the status, the end of the call and the callbacks as functions
of the completions so far. `Handing` follows the response from its publication through the take that
claims it to the answer of that take; before the publication, and for a call that failed, `Nothing`
holds.
-/

namespace CallBridge

namespace Inquiry

variable {α : Type}

/-! ## Views of a log -/

namespace Event

@[simp] def isLaunch : Event α → Bool
  | launched => true
  | _ => false

@[simp] def report? : Event α → Option (Except Status α)
  | reported r | ignored r => some r
  | _ => none

@[simp] def notice? : Event α → Option (Except Status α)
  | notified r => some r
  | _ => none

@[simp] def winner? : Event α → Option Nat
  | claimed p => some p
  | _ => none

@[simp] def answer? : Event α → Option (Nat × Option α)
  | took p x => some (p, x)
  | _ => none

end Event

def launches (log : List (Event α)) : Nat := log.countP Event.isLaunch

/-- All completions, ignored ones too. -/
def reports (log : List (Event α)) : List (Except Status α) := log.filterMap Event.report?

def notices (log : List (Event α)) : List (Except Status α) := log.filterMap Event.notice?

/-- The threads whose take has claimed the response. -/
def winners (log : List (Event α)) : List Nat := log.filterMap Event.winner?

/-- The answers of takes that had claimed the response. Every other take is answered with nothing
at once. -/
def answers (log : List (Event α)) : List (Nat × Option α) := log.filterMap Event.answer?

@[simp] theorem launches_append (log es : List (Event α)) :
    launches (log ++ es) = launches log + launches es := List.countP_append

@[simp] theorem reports_append (log es : List (Event α)) :
    reports (log ++ es) = reports log ++ reports es := List.filterMap_append

@[simp] theorem notices_append (log es : List (Event α)) :
    notices (log ++ es) = notices log ++ notices es := List.filterMap_append

@[simp] theorem winners_append (log es : List (Event α)) :
    winners (log ++ es) = winners log ++ winners es := List.filterMap_append

@[simp] theorem answers_append (log es : List (Event α)) :
    answers (log ++ es) = answers log ++ answers es := List.filterMap_append

@[simp] theorem launches_singleton (e : Event α) :
    launches [e] = if e.isLaunch then 1 else 0 := by
  simp [launches, List.countP_cons]

@[simp] theorem reports_singleton (e : Event α) : reports [e] = e.report?.toList := by
  cases e <;> rfl

@[simp] theorem notices_singleton (e : Event α) : notices [e] = e.notice?.toList := by
  cases e <;> rfl

@[simp] theorem winners_singleton (e : Event α) : winners [e] = e.winner?.toList := by
  cases e <;> rfl

@[simp] theorem answers_singleton (e : Event α) : answers [e] = e.answer?.toList := by
  cases e <;> rfl

/-- Later completions do not change which one was the first. -/
theorem first_report_stays {log : List (Event α)} (h : reports log ≠ []) (es : List (Event α)) :
    (reports (log ++ es)).head? = (reports log).head? := by
  rw [reports_append, List.head?_append, Option.or_of_isSome]
  simpa using h

/-! ## The launch -/

/-- The channel was called as often as the flag says. -/
structure Launched (id : CallId) (s : Inquiry α) (log : List (Event α)) : Prop where
  identity : s.unary.cell.id = id
  counted : launches log = if s.unary.started then 1 else 0

theorem launched_moved {id : CallId} {s : Inquiry α} {log : List (Event α)}
    {q : Inquiry α × List (Event α)} (h : Launched id s log) (hm : Moved s q) :
    Launched id q.1 (log ++ q.2) := by
  obtain ⟨identity, counted⟩ := h
  refine ⟨by cases hm <;> exact identity, ?_⟩
  rw [launches_append, counted]
  cases hm with
  | launched p first =>
      rw [first]
      rfl
  | _ => rfl

/-! ## The completion -/

/-- The completion under way has not recorded its status. -/
def unrecorded (s : Inquiry α) : Bool :=
  match s.report with
  | some (_, .recording _) => true
  | _ => false

/-- What the completions so far have told the call and its callback. -/
structure Told (s : Inquiry α) (log : List (Event α)) : Prop where
  first : ∀ p stage, s.report = some (p, stage) → reports log = [stage.result]
  terminated : s.unary.cell.terminated = (s.report.isNone && !(reports log).isEmpty)
  status : s.unary.cell.status =
    if s.unrecorded then none else (reports log).head?.map outcome
  notified : notices log = if s.report.isNone then (reports log).head?.toList else []

variable {s t : Inquiry α} {log : List (Event α)}

theorem Told.silent (h : Told s log) {es : List (Event α)} (silent : reports es = [])
    (quiet : notices es = []) (report : t.report = s.report)
    (terminated : t.unary.cell.terminated = s.unary.cell.terminated)
    (status : t.unary.cell.status = s.unary.cell.status) : Told t (log ++ es) := by
  constructor
  · intro p stage under
    rw [reports_append, silent, List.append_nil]
    exact h.first p stage (report ▸ under)
  · rw [reports_append, silent, List.append_nil, terminated, report]
    exact h.terminated
  · rw [reports_append, silent, List.append_nil, status, unrecorded, report]
    exact h.status
  · rw [reports_append, notices_append, silent, quiet, List.append_nil, List.append_nil, report]
    exact h.notified

theorem told_moved {q : Inquiry α × List (Event α)} (h : Told s log) (hm : Moved s q) :
    Told q.1 (log ++ q.2) := by
  cases hm with
  | reported p r idle live =>
      have before : reports log = [] := by
        simpa [idle, live] using h.terminated
      have status : s.unary.cell.status = none := by
        simpa [unrecorded, idle, before] using h.status
      have quiet : notices log = [] := by
        simpa [idle, before] using h.notified
      constructor
      · rintro p' stage ⟨rfl, rfl⟩
        simp [before, Stage.result]
      · simpa using live
      · simpa [unrecorded] using status
      · simpa using quiet
  | ignored r idle finished =>
      have before : reports log ≠ [] := by
        simpa [idle, finished] using h.terminated
      have same := first_report_stays before [.ignored r]
      constructor
      · intro p stage under
        exact absurd under (by simp [idle])
      · simp [idle, finished]
      · rw [same]
        exact h.status
      · rw [same, notices_append]
        simpa using h.notified
  | recorded p r stage =>
      have reported : reports log = [r] := h.first p _ stage
      have status : s.unary.cell.status = none := by
        simpa [unrecorded, stage] using h.status
      have live : s.unary.cell.terminated = false := by
        simpa [stage] using h.terminated
      have quiet : notices log = [] := by
        simpa [stage] using h.notified
      constructor
      · rintro p' stage' ⟨rfl, rfl⟩
        simpa using reported
      · simpa [setCell, Cell.settle] using live
      · cases r <;> simp [setCell, Cell.settle, status, reported, unrecorded, Stage.afterRecording]
      · simpa using quiet
  | published p x stage =>
      have reported : reports log = [.ok x] := h.first p _ stage
      constructor
      · rintro p' stage' ⟨rfl, rfl⟩
        simpa [Stage.result] using reported
      · simpa [setCell, stage] using h.terminated
      · simpa [setCell, stage, unrecorded] using h.status
      · simpa [stage] using h.notified
  | notified p r stage =>
      have reported : reports log = [r] := h.first p _ stage
      have quiet : notices log = [] := by
        simpa [stage] using h.notified
      constructor
      · intro p' stage' under
        exact absurd under (by simp [setFrames])
      · simp [setFrames, setCell, Cell.terminate, reported]
      · simpa [setFrames, setCell, Cell.terminate, stage, unrecorded] using h.status
      · simp [setFrames, quiet, reported]
  | launched | refused | claimed | missed | cancelled | returned | took =>
      exact h.silent rfl rfl rfl rfl rfl

/-! ## The response -/

/-- The response that has been published so far. -/
def offer (s : Inquiry α) (log : List (Event α)) : Option α :=
  match s.report, (reports log).head? with
  | some (_, .recording _), _ | some (_, .publishing _), _ => none
  | _, some (.ok x) => some x
  | _, _ => none

/-- No take has found anything, and none will for now. -/
structure Nothing (s : Inquiry α) (log : List (Event α)) : Prop where
  ready : s.unary.cell.ready = false
  claims : s.claims = []
  winners : winners log = []
  answers : answers log = []

/-- How far a published response has come. -/
inductive Handing (x : α) (s : Inquiry α) (log : List (Event α)) : Prop where
  | offered (ready : s.unary.cell.ready = true) (item : s.unary.cell.item = some x)
      (claims : s.claims = []) (winners : winners log = []) (answers : answers log = [])
  | claimed (p : Nat) (ready : s.unary.cell.ready = false) (item : s.unary.cell.item = some x)
      (claims : s.claims = [p]) (winners : winners log = [p]) (answers : answers log = [])
  | gone (p : Nat) (ready : s.unary.cell.ready = false) (claims : s.claims = [])
      (winners : winners log = [p]) (answers : answers log = [(p, some x)])

/-- What holds of the response, published or not. -/
structure Offered (s : Inquiry α) (log : List (Event α)) : Prop where
  inspector : s.unary.cell.inspector = none
  nothing : s.offer log = none → Nothing s log
  handing : ∀ x, s.offer log = some x → Handing x s log

theorem Offered.same (h : Offered s log) {es : List (Event α)}
    (offer : t.offer (log ++ es) = s.offer log)
    (inspector : t.unary.cell.inspector = s.unary.cell.inspector)
    (ready : t.unary.cell.ready = s.unary.cell.ready)
    (item : t.unary.cell.item = s.unary.cell.item) (claims : t.claims = s.claims)
    (winners : winners es = []) (answers : answers es = []) : Offered t (log ++ es) := by
  have won : Inquiry.winners (log ++ es) = Inquiry.winners log := by simp [winners]
  have answered : Inquiry.answers (log ++ es) = Inquiry.answers log := by simp [answers]
  constructor
  · rw [inspector]
    exact h.inspector
  · intro unpublished
    obtain ⟨hr, hc, hw, ha⟩ := h.nothing (offer ▸ unpublished)
    exact ⟨ready ▸ hr, claims ▸ hc, won ▸ hw, answered ▸ ha⟩
  · intro x published
    cases h.handing x (offer ▸ published) with
    | offered hr hi hc hw ha =>
        exact .offered (ready ▸ hr) (item ▸ hi) (claims ▸ hc) (won ▸ hw) (answered ▸ ha)
    | claimed p hr hi hc hw ha =>
        exact .claimed p (ready ▸ hr) (item ▸ hi) (claims ▸ hc) (won ▸ hw) (answered ▸ ha)
    | gone p hr hc hw ha =>
        exact .gone p (ready ▸ hr) (claims ▸ hc) (won ▸ hw) (answered ▸ ha)

/-- A move that neither reports nor is part of a completion offers nothing new. -/
theorem offer_eq {es : List (Event α)} (report : t.report = s.report) (silent : reports es = []) :
    t.offer (log ++ es) = s.offer log := by
  rw [offer, offer, report, reports_append, silent, List.append_nil]

/-- Of a response, only a take that finds it ready can claim it. -/
theorem offered_claimed (h : Offered s log) (p : Nat) (ready : s.unary.cell.ready = true) :
    Offered { s.setCell { s.unary.cell with ready := false } with claims := p :: s.claims }
      (log ++ [.claimed p]) := by
  refine ⟨h.inspector, ?_, ?_⟩
  · intro unpublished
    have before : s.offer log = none := (offer_eq rfl rfl).symm.trans unpublished
    exact absurd (h.nothing before).ready (by simp [ready])
  · intro x published
    have before : s.offer log = some x := (offer_eq rfl rfl).symm.trans published
    cases h.handing x before with
    | offered _ item claims winners answers =>
        exact .claimed p rfl item (by simp [claims]) (by simp [winners]) (by simp [answers])
    | claimed _ lowered | gone _ lowered => simp [ready] at lowered

/-- The take that has claimed the response gets it. -/
theorem offered_took (h : Offered s log) (p : Nat) (claim : p ∈ s.claims) :
    Offered { s.setCell { s.unary.cell with item := none } with claims := s.claims.erase p }
      (log ++ [.took p s.unary.cell.item]) := by
  refine ⟨h.inspector, ?_, ?_⟩
  · intro unpublished
    have before : s.offer log = none := (offer_eq rfl rfl).symm.trans unpublished
    exact absurd claim (by simp [(h.nothing before).claims])
  · intro x published
    have before : s.offer log = some x := (offer_eq rfl rfl).symm.trans published
    cases h.handing x before with
    | claimed p' ready item claims winners answers =>
        obtain rfl : p = p' := by simpa [claims] using claim
        exact .gone p ready (by simp [claims]) (by simp [winners]) (by simp [answers, item])
    | offered _ _ claims | gone _ _ claims => simp [claims] at claim

theorem offered_moved {q : Inquiry α × List (Event α)} (told : Told s log) (h : Offered s log)
    (hm : Moved s q) : Offered q.1 (log ++ q.2) := by
  cases hm with
  | reported p r idle live =>
      have before : reports log = [] := by
        simpa [idle, live] using told.terminated
      exact h.same (by simp [offer, idle, before]) rfl rfl rfl rfl rfl rfl
  | ignored r idle finished =>
      have before : reports log ≠ [] := by
        simpa [idle, finished] using told.terminated
      have same := first_report_stays before [.ignored r]
      exact h.same (by rw [offer, offer, same]) rfl rfl rfl rfl rfl rfl
  | recorded p r stage =>
      have reported : reports log = [r] := told.first p _ stage
      refine h.same ?_ rfl rfl rfl rfl rfl rfl
      cases r <;> simp [offer, stage, reported, Stage.afterRecording]
  | published p x stage =>
      have reported : reports log = [.ok x] := told.first p _ stage
      have before : s.offer log = none := by simp [offer, stage]
      obtain ⟨-, claims, winners, answers⟩ := h.nothing before
      refine ⟨h.inspector, ?_, ?_⟩
      · intro unpublished
        simp [offer, reported] at unpublished
      · intro y published
        obtain rfl : x = y := by simpa [offer, reported] using published
        exact .offered rfl rfl claims (by simpa using winners) (by simpa using answers)
  | notified p r stage =>
      have reported : reports log = [r] := told.first p _ stage
      refine h.same ?_ rfl rfl rfl rfl rfl rfl
      cases r <;> simp [offer, stage, reported, setFrames]
  | claimed p ready => exact offered_claimed h p ready
  | took p claim => exact offered_took h p claim
  | launched | refused | missed | cancelled | returned =>
      exact h.same (offer_eq rfl rfl) rfl rfl rfl rfl rfl rfl

/-! ## Runs -/

/-- All three at once. -/
structure SingleShot (id : CallId) (s : Inquiry α) (log : List (Event α)) : Prop where
  launched : Launched id s log
  told : Told s log
  offered : Offered s log

theorem singleShot_of_run {id : CallId} {timeout : Option Nat} {ms : List (Move α)}
    (h : (fresh id timeout).run ms = some (s, log)) : SingleShot id s log := by
  show SingleShot id s ([] ++ log)
  refine run_invariant (P := SingleShot id) ?_ h ?_
  · rintro s before q ⟨launched, told, offered⟩ hm
    exact ⟨launched_moved launched hm, told_moved told hm, offered_moved told offered hm⟩
  · refine ⟨⟨rfl, rfl⟩, ⟨?_, rfl, rfl, rfl⟩, ⟨rfl, ?_, ?_⟩⟩
    · rintro p stage ⟨⟩
    · intro _
      exact ⟨rfl, rfl, rfl, rfl⟩
    · rintro x ⟨⟩

theorem status_of_run {ms : List (Move α)} {es : List (Event α)} {e : Status}
    (h : s.run ms = some (t, es)) (hs : s.unary.cell.status = some e) :
    t.unary.cell.status = some e := by
  refine @run_invariant α (fun s _ => s.unary.cell.status = some e) ?_ ms s t [] es h hs
  intro s before q hs hm
  cases hm with
  | recorded p r stage => simp [setCell, Cell.settle, hs]
  | _ => exact hs

/-- How many steps the completion under way is from its callback. -/
def distance (s : Inquiry α) : Nat :=
  match s.report with
  | none => 0
  | some (_, .recording (.ok _)) => 3
  | some (_, .recording (.error _)) | some (_, .publishing _) => 2
  | some (_, .terminating _) => 1

/-- A completion under way can go on, and gets nearer to its callback. -/
theorem proceed_nearer (h : s.report.isSome) :
    ∃ t es, s.step .proceed = some (t, es) ∧ t.distance < s.distance := by
  match stage : s.report with
  | none => simp [stage] at h
  | some (p, .recording (.ok x)) =>
      exact ⟨_, _, by rw [step, proceed, stage], by simp [distance, stage, Stage.afterRecording]⟩
  | some (p, .recording (.error status)) =>
      exact ⟨_, _, by rw [step, proceed, stage], by simp [distance, stage, Stage.afterRecording]⟩
  | some (p, .publishing x) =>
      exact ⟨_, _, by rw [step, proceed, stage], by simp [distance, stage]⟩
  | some (p, .terminating r) =>
      exact ⟨_, _, by rw [step, proceed, stage], by simp [distance, stage, setFrames]⟩

/-- Left to itself, a completion under way gets to its callback. -/
theorem run_proceed (s : Inquiry α) :
    ∃ n t es, s.run (.replicate n .proceed) = some (t, es) ∧ t.report = none := by
  by_cases under : s.report.isSome
  · obtain ⟨u, es, hstep, nearer⟩ := proceed_nearer under
    obtain ⟨n, t, es', hrun, finished⟩ := run_proceed u
    have joined : s.run ([.proceed] ++ .replicate n .proceed) = some (t, es ++ [] ++ es') :=
      runWith_append (by simp [runWith, hstep]) hrun
    exact ⟨n + 1, t, _, joined, finished⟩
  · exact ⟨0, s, [], rfl, by simpa using under⟩
termination_by s.distance

/-- A completion that nothing comes between is the whole of `complete`. -/
theorem run_complete {p : Nat} (r : Except Status α) (free : s.free p) (idle : s.report = none)
    (live : s.unary.cell.terminated = false) :
    ∃ n t, s.run (.act p (.complete r) :: .replicate n .proceed) =
        some (t, [.reported r, .notified r]) ∧
      t.unary = (s.unary.complete r).state ∧ t.report = none := by
  have due : ¬s.unary.cell.terminated = true := by simp [live]
  unfold Unary.complete
  rw [if_neg due]
  cases r with
  | ok x =>
      refine ⟨3, _, by simp [run, runWith, step, act, proceed, free, idle, live]; rfl, ?_, rfl⟩
      rfl
  | error status =>
      refine ⟨2, _, by simp [run, runWith, step, act, proceed, free, idle, live]; rfl, ?_, rfl⟩
      rfl

/-- A take that nothing comes between is the whole of `take`. -/
theorem run_take {p : Nat} (free : s.free p) :
    (s.run [.act p .take] = some (s, [.missed p]) ∧ (s.unary.take p).state = s.unary ∧
      (s.unary.take p).answer = none) ∨
    ∃ t, s.run [.act p .take, .extract p] =
        some (t, [.claimed p, .took p (s.unary.take p).answer]) ∧
      t.unary = (s.unary.take p).state ∧ t.claims = s.claims := by
  unfold Unary.take
  rcases s.unary.cell.take_cases p with ⟨nothing, hs, ha⟩ | ⟨outside, ready, hs, ha⟩
  · refine .inl ⟨?_, by simp [hs], by simp [ha]⟩
    rcases nothing with inside | empty
    · simp [run, runWith, step, act, free, inside]
    · simp [run, runWith, step, act, free, empty, Cell.claim]
  · refine .inr ⟨s.setCell { s.unary.cell with ready := false, item := none }, ?_, ?_, rfl⟩
    · simp [run, runWith, step, act, free, outside, ready, ha, Cell.claim, extract,
        Unary.completeTake, Cell.extract, setCell]
    · simp [hs, setCell]

/-! ## Starting, completing and taking -/

/-- What takes come to once a completion has reported the response `x`: from the callback on the
first take that tries claims it, and every other take is answered with nothing. -/
structure TakenOnce (x : α) (s : Inquiry α) (log : List (Event α)) : Prop where
  single : (winners log).length ≤ 1
  answered : answers log = [] ∨ ∃ p, winners log = [p] ∧ answers log = [(p, some x)]
  first : s.report = none → winners log = [] →
    ∀ p t es, s.step (.act p .take) = some (t, es) → es = [.claimed p]
  later : winners log ≠ [] →
    ∀ p t es, s.step (.act p .take) = some (t, es) → t = s ∧ es = [.missed p]
  owed : ∀ p, winners log = [p] → answers log = [] →
    ∃ t, s.step (.extract p) = some (t, [.took p (some x)])

theorem step_start_again {p : Nat} {es : List (Event α)} (again : s.unary.started = true)
    (h : s.step (.act p .start) = some (t, es)) :
    t = s ∧ es = [.refused (.alreadyStarted s.unary.cell.id)] := by
  obtain ⟨-, h⟩ := Option.ite_none_right_eq_some.mp h
  simp only [act, Unary.launch, again, if_true, Option.some.injEq, Prod.mk.injEq] at h
  exact ⟨h.1.symm, h.2.symm⟩

theorem step_complete_again {p : Nat} {r : Except Status α} {es : List (Event α)}
    (told : Told s log) (again : reports log ≠ [])
    (h : s.step (.act p (.complete r)) = some (t, es)) : t = s ∧ es = [.ignored r] := by
  obtain ⟨-, h⟩ := Option.ite_none_right_eq_some.mp h
  cases idle : s.report with
  | some stage => simp [act, idle] at h
  | none =>
      have finished : s.unary.cell.terminated = true := by
        rw [told.terminated, idle]
        simpa using again
      simp only [act, idle, finished, Option.isSome_none, Bool.false_eq_true, if_false, if_true,
        Option.some.injEq, Prod.mk.injEq] at h
      exact ⟨h.1.symm, h.2.symm⟩

theorem step_take_first {p : Nat} {es : List (Event α)} (unlocked : s.unary.cell.inspector = none)
    (ready : s.unary.cell.ready = true) (h : s.step (.act p .take) = some (t, es)) :
    es = [.claimed p] := by
  obtain ⟨-, h⟩ := Option.ite_none_right_eq_some.mp h
  simp only [act, unlocked, reduceCtorEq, if_false, Cell.claim, ready, if_true, Option.some.injEq,
    Prod.mk.injEq] at h
  exact h.2.symm

theorem step_take_again {p : Nat} {es : List (Event α)} (empty : s.unary.cell.ready = false)
    (h : s.step (.act p .take) = some (t, es)) : t = s ∧ es = [.missed p] := by
  obtain ⟨-, h⟩ := Option.ite_none_right_eq_some.mp h
  simp only [act, Cell.claim, empty, Bool.false_eq_true, if_false, ite_self, Option.some.injEq,
    Prod.mk.injEq] at h
  exact ⟨h.1.symm, h.2.symm⟩

/-- What is on offer is the response that was reported first. -/
theorem first_of_offer {x : α} (published : s.offer log = some x) :
    (reports log).head? = some (.ok x) := by
  unfold offer at published
  split at published <;> simp_all

/-- Where the first completion is no response, takes come to nothing. -/
theorem Offered.untaken (h : Offered s log) (failed : ∀ x, (reports log).head? ≠ some (.ok x)) :
    winners log = [] ∧ answers log = [] := by
  cases published : s.offer log with
  | none => exact ⟨(h.nothing published).winners, (h.nothing published).answers⟩
  | some x => exact absurd (first_of_offer published) (failed x)

/-- Published or not, the response goes to one take. -/
theorem Offered.takenOnce (h : Offered s log) {x : α}
    (first : (reports log).head? = some (.ok x)) : TakenOnce x s log := by
  match published : s.offer log with
  | none =>
      obtain ⟨-, -, winners, answers⟩ := h.nothing published
      refine ⟨by simp [winners], .inl answers, ?_, fun won => absurd winners won, ?_⟩
      · intro finished
        simp [offer, finished, first] at published
      · intro p won
        simp [winners] at won
  | some y =>
      obtain rfl : x = y := by simpa [first] using first_of_offer published
      cases h.handing x published with
      | offered ready item claims winners answers =>
          refine ⟨by simp [winners], .inl answers, ?_, fun won => absurd winners won, ?_⟩
          · intro _ _ p t es htake
            exact step_take_first h.inspector ready htake
          · intro p won
            simp [winners] at won
      | claimed p ready item claims winners answers =>
          refine ⟨by simp [winners], .inl answers, ?_, ?_, ?_⟩
          · intro _ unclaimed
            simp [winners] at unclaimed
          · intro _ p' t es htake
            exact step_take_again ready htake
          · intro p' won _
            obtain rfl : p = p' := by simpa [winners] using won
            refine ⟨(s.extract p).1, ?_⟩
            simp [step, claims, extract, Unary.completeTake, Cell.extract, item]
      | gone p ready claims winners answers =>
          refine ⟨by simp [winners], .inr ⟨p, winners, answers⟩, ?_, ?_, ?_⟩
          · intro _ unclaimed
            simp [winners] at unclaimed
          · intro _ p' t es htake
            exact step_take_again ready htake
          · intro p' _ unanswered
            simp [answers] at unanswered

/-- **One launch, one completion, one response.** In every run of a unary call, wherever one looks:
the channel was called at most once, and once it was, a start is refused and changes nothing; the
callback has begun for the first completion and for no other, or that completion is on its way to it
and gets there, and any further completion changes nothing; the status is that of the first
completion from the moment it was recorded and never changes; and the response of that completion is
claimed by the first take that tries and given to it alone. A call that failed, or has not been
completed, gives no take anything. -/
theorem answered_once {id : CallId} {timeout : Option Nat} {ms : List (Move α)}
    (h : (fresh id timeout).run ms = some (s, log)) :
    (launches log ≤ 1 ∧
      (launches log = 1 → ∀ p t es, s.step (.act p .start) = some (t, es) →
        t = s ∧ es = [.refused (.alreadyStarted id)])) ∧
    (notices log = (if s.report.isNone then (reports log).head?.toList else []) ∧
      (∃ n t es, s.run (.replicate n .proceed) = some (t, es) ∧ t.report = none) ∧
      (reports log ≠ [] → ∀ p r t es, s.step (.act p (.complete r)) = some (t, es) →
        t = s ∧ es = [.ignored r])) ∧
    (s.unary.cell.status = (if s.unrecorded then none else (reports log).head?.map outcome) ∧
      ∀ e ms' t es, s.unary.cell.status = some e → s.run ms' = some (t, es) →
        t.unary.cell.status = some e) ∧
    (match (reports log).head? with
      | some (.ok x) => TakenOnce x s log
      | some (.error _) | none => winners log = [] ∧ answers log = []) := by
  obtain ⟨⟨identity, counted⟩, told, offered⟩ := singleShot_of_run h
  refine ⟨⟨?_, ?_⟩, ⟨told.notified, run_proceed s, ?_⟩, ⟨told.status, ?_⟩, ?_⟩
  · rw [counted]
    split <;> omega
  · intro once p t es hstart
    have started : s.unary.started = true := by simpa [counted] using once
    exact identity ▸ step_start_again started hstart
  · intro again p r t es hcomplete
    exact step_complete_again told again hcomplete
  · intro e ms' t es recorded later
    exact status_of_run later recorded
  · match first : (reports log).head? with
    | some (.ok x) => exact offered.takenOnce first
    | some (.error status) => exact offered.untaken (by simp [first])
    | none => exact offered.untaken (by simp [first])

/-- Thread 0 starts the call. Inside the channel it starts it again, and thread 7 completes it; the
callback takes the response in competition with thread 3, reports a failure, and breaks off. -/
def nestedMoves : List (Move Nat) :=
  [.act 0 .start, .act 0 .start, .act 7 (.complete (.ok 5)), .proceed, .act 3 .take, .proceed,
    .proceed, .act 7 .take, .act 3 .take, .extract 7, .act 7 (.complete (.error ⟨.aborted, ""⟩)),
    .act 0 .cancel, .act 7 .panic, .act 0 .back]

theorem answered_once_nested : ∃ s log,
    (fresh ⟨1⟩ none).run nestedMoves = some (s, log) ∧ launches log = 1 ∧
      notices log = [.ok 5] ∧ s.unary.cell.status = some .success ∧
      winners log = [7] ∧ answers log = [(7, some 5)] := by
  have h : (fresh ⟨1⟩ none).run nestedMoves = some (_, _) := rfl
  obtain ⟨-, ⟨notified, -, -⟩, ⟨status, -⟩, taken⟩ := answered_once h
  exact ⟨_, _, h, rfl, notified, status, rfl, rfl⟩

end Inquiry

end CallBridge
