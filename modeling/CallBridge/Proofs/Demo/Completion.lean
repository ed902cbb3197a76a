import CallBridge.Proofs.Demo.Fetching

/-!
# A demonstration completes

Whatever the order in which the parties go on, each of their moves leaves less to do, and until the
main thread is done somebody can go on. So every run completes, and what has been told by then is
the account of its items. `Demo.run` is one of the runs, and its bound on the turns is enough.
-/

namespace CallBridge.Demo

open Loopback (StreamTask UnaryTask)

namespace Ensemble

/-- The ensemble is on its way, with so many moves left at most. -/
inductive Stands (plan : Plan) (e : Ensemble) : Nat → Prop where
  | streams {k : Nat} {leg : Leg} (h : Streams plan k leg e) :
      Stands plan e (streamRank plan.items k leg e.desk)
  | fetches {reply : Reply} (h : Fetches plan reply e) : Stands plan e (fetchRank reply e.desk)
  | closes (h : Closes plan e) : Stands plan e e.desk.left

namespace Stands

variable {plan : Plan} {e e' : Ensemble} {r : Nat}

theorem begin (plan : Plan) : Stands plan (Ensemble.begin plan) (12 * plan.items + 27) :=
  .streams (.begin plan)

theorem busy_step (h : Stands plan e r) (kept : plan.cancel = false ∨ plan.items < 2) {m : Move}
    (busy : m.isBusy) (hs : e.step m = some e') : ∃ r' < r, Stands plan e' r' := by
  cases h with
  | @streams k leg h =>
      have before (g : Streams.Before plan (streamRank plan.items k leg e.desk) e') :
          ∃ r' < streamRank plan.items k leg e.desk, Stands plan e' r' := by
        obtain ⟨k', leg', h', less⟩ := g
        exact ⟨_, less, .streams h'⟩
      cases m with
      | main =>
          -- The handler of the end leads on to the second call.
          by_cases ended : leg = .finished ∧ e.desk = .holding endNotice
          · obtain ⟨rfl, held⟩ := ended
            obtain rfl := h.round_of_finished
            obtain ⟨h', less⟩ := main_ended h held hs
            exact ⟨_, less, .fetches h'⟩
          · exact before (h.main_step (fun finished held => ended ⟨finished, held⟩) kept hs)
      | listing => exact before (h.listing_step hs)
      | lookup => exact absurd hs (by simp [h.lookup_waits])
      | tick => cases busy
  | @fetches reply h =>
      have before (g : Fetches.Before plan (fetchRank reply e.desk) e') :
          ∃ r' < fetchRank reply e.desk, Stands plan e' r' := by
        obtain ⟨reply', h', less⟩ := g
        exact ⟨_, less, .fetches h'⟩
      cases m with
      | main =>
          -- The handler of the answer leads on to the end.
          by_cases answered : e.desk = .holding doneNotice
          · obtain ⟨h', less⟩ := h.main_answered answered hs
            exact ⟨_, less, .closes h'⟩
          · exact before (h.main_step answered hs)
      | listing => exact absurd hs (by simp [h.listing_waits])
      | lookup => exact before (h.lookup_step hs)
      | tick => cases busy
  | closes h =>
      cases m with
      | main =>
          obtain ⟨h', less⟩ := h.main_step hs
          exact ⟨_, less, .closes h'⟩
      | listing => exact absurd hs (by simp [h.listing_waits])
      | lookup => exact absurd hs (by simp [h.lookup_waits])
      | tick => cases busy

theorem tick (h : Stands plan e r) (n : Nat) : Stands plan (e.tick n) r := by
  cases h with
  | streams h => exact .streams (h.tick n)
  | fetches h => exact .fetches (h.tick n)
  | closes h => exact .closes (h.tick n)

/-- A run uses up what is left to do. -/
theorem run (h : Stands plan e r) (kept : plan.cancel = false ∨ plan.items < 2) {ms : List Move}
    (hr : e.run ms = some e') : ∃ r', Stands plan e' r' ∧ r' + ms.countP Move.isBusy ≤ r := by
  induction ms generalizing e r with
  | nil =>
      cases hr
      exact ⟨r, h, Nat.le_refl r⟩
  | cons m ms ih =>
      obtain ⟨u, hs, hr⟩ := Option.bind_eq_some_iff.mp hr
      by_cases busy : m.isBusy
      · obtain ⟨r₁, less, h₁⟩ := h.busy_step kept busy hs
        obtain ⟨r', h', left⟩ := ih h₁ hr
        refine ⟨r', h', ?_⟩
        rw [List.countP_cons_of_pos busy]
        omega
      · cases m with
        | tick n =>
            cases hs
            obtain ⟨r', h', left⟩ := ih (h.tick n) hr
            exact ⟨r', h', by rwa [List.countP_cons_of_neg busy]⟩
        | main | listing | lookup => exact absurd rfl busy

theorem isPrefix (h : Stands plan e r) : told e.shared.lines <+: account plan.items := by
  cases h with
  | streams h => exact h.lines.isPrefix
  | fetches h => exact h.lines.isPrefix
  | closes h => exact h.lines.isPrefix

/-- When the main thread is done it has succeeded, and everything has been told. -/
theorem of_done (h : Stands plan e r) {result : Except Fault Unit} (done : e.desk = .done result) :
    result = .ok () ∧ told e.shared.lines = account plan.items := by
  obtain ⟨s, desk, post, lookupPost⟩ := e
  obtain rfl : desk = .done result := done
  cases h with
  | @streams k leg h =>
      have meets : Meets plan.items k leg (.done result) := h.meets
      cases meets with
      | apart apart => cases apart
  | @fetches reply h =>
      have awaits : Awaits reply (.done result) := h.awaits
      cases awaits
  | closes h =>
      have closing : Closing (.done result) := h.closing
      cases closing
      exact ⟨rfl, h.lines.whole⟩

/-- Until the main thread is done somebody can go on. -/
theorem goes_on (h : Stands plan e r) (going : ∀ result, e.desk ≠ .done result) : e.CanGoOn := by
  cases h with
  | streams h => exact h.goes_on
  | fetches h => exact h.goes_on
  | closes h => exact h.goes_on going

theorem reaches (h : Stands plan e r) (kept : plan.cancel = false ∨ plan.items < 2)
    (reach : Reaches e e') : ∃ r' < r, Stands plan e' r' := by
  obtain ⟨ms, someBusy, hr⟩ := reach
  obtain ⟨r', h', left⟩ := h.run kept hr
  have moved : 0 < ms.countP Move.isBusy := List.countP_pos_iff.mpr someBusy
  exact ⟨r', by omega, h'⟩

end Stands

/-! ## The consumer's turns -/

/-- What can be left between two turns of `Demo.run`. -/
def AtRest (r : Nat) : Prop := r = 3 ∨ 12 ≤ r ∧ r % 12 = 2 ∨ 5 ≤ r % 12

def turnsFor (r : Nat) : Nat := 8 * (r / 12) + (r % 12 - 4)

theorem turnsFor_lt {r r' : Nat} (h : AtRest r) (h' : AtRest r') (less : r' < r) :
    turnsFor r' < turnsFor r := by
  unfold AtRest at h h'
  unfold turnsFor
  omega

namespace Stands

variable {plan : Plan} {s : State} {r : Nat}

theorem atRest (h : Stands plan { shared := s } r) : AtRest r := by
  cases h with
  | @streams k leg h =>
      have meets : Meets plan.items k leg .ready := h.meets
      have post : .resting = leg.post k := h.post
      cases meets with
      | apart apart fits =>
          cases leg with
          | asked begun => cases begun <;> simp [AtRest, streamRank, Desk.left, Leg.left] <;> omega
          | pausing | closed => simp [AtRest, streamRank, Desk.left, Leg.left]; omega
          | offered | finished => simp [AtRest, streamRank, Desk.left, Leg.left]; omega
          | unborn | called => exact fits.elim
          | _ => cases post
  | @fetches reply h =>
      have post : .resting = reply.post plan.items := h.post
      cases reply with
      | fresh | pausing | told => simp [AtRest, fetchRank, Desk.left, Reply.left]
      | _ => cases post
  | closes h => exact .inl rfl

theorem unlocked (h : Stands plan { shared := s } r) : s.listing.cell.inspector = none := by
  cases h with
  | @streams k leg h =>
      have post : .resting = leg.post k := h.post
      rw [show s.listing = _ from h.stream]
      cases leg <;> first | rfl | cases post
  | fetches h => exact h.unlocked
  | closes h => exact h.unlocked

theorem launched (h : Stands plan { shared := s } r) : s.listing.started = true := by
  cases h with
  | @streams k leg h =>
      have meets : Meets plan.items k leg .ready := h.meets
      rw [show s.listing = _ from h.stream]
      cases meets with
      | apart apart fits => cases leg <;> first | rfl | exact fits.elim
  | fetches h => exact h.launched
  | closes h => exact h.launched

/-- `Demo.run` gets to the end of the consumer's run. -/
theorem demo_run (h : Stands plan { shared := s } r) (kept : plan.cancel = false ∨ plan.items < 2)
    {n : Nat} (enough : turnsFor r < n) :
    ∃ t r', Demo.run n s = (t, .ok ()) ∧ Stands plan { shared := t, desk := .concluding } r' := by
  induction n generalizing s r with
  | zero => exact absurd enough (Nat.not_lt_zero _)
  | succ n ih =>
      -- One turn of the loop is used up, and what is left needs fewer of them.
      have on {t : State} (reach : Reaches { shared := s } { shared := t }) :
          ∃ u r', Demo.run n t = (u, .ok ()) ∧
            Stands plan { shared := u, desk := .concluding } r' := by
        obtain ⟨r₁, less, h₁⟩ := h.reaches kept reach
        have fewer := turnsFor_lt h.atRest h₁.atRest less
        exact ih h₁ (by omega)
      rw [Demo.run]
      have takes := takes_turn h.unlocked
      generalize consumerTurn s = course at takes ⊢
      cases takes with
      | going reach => exact on reach
      | waiting waits =>
          cases next : transportStep s with
          | some t => simpa only [next] using on (reaches_of_transport h.launched next)
          | none => exact absurd (h.goes_on nofun) (not_canGoOn waits next)
      | @ended t result reach =>
          obtain ⟨r', -, h'⟩ := h.reaches kept reach
          cases result with
          | ok => exact ⟨t, r', rfl, h'⟩
          | error f => cases (h'.of_done rfl).1

end Stands

/-! ## The whole -/

theorem run_start (plan : Plan) :
    (begin plan).run (List.replicate 6 .main) = some { shared := start plan } := rfl

theorem perform_ok {plan : Plan} (kept : plan.cancel = false ∨ plan.items < 2) :
    ∃ lines, perform plan = (lines, .ok ()) ∧ told lines = account plan.items := by
  obtain ⟨r, h, left⟩ := (Stands.begin plan).run kept (run_start plan)
  have enough : turnsFor r < turns plan := by
    unfold turnsFor turns
    omega
  obtain ⟨t, r', ran, h'⟩ := h.demo_run kept enough
  obtain ⟨r'', -, done⟩ := h'.busy_step kept (m := .main) rfl rfl
  refine ⟨(conclude t).lines, ?_, (done.of_done rfl).2⟩
  rw [perform_eq, ran]

/-- **A demonstration tells the account of its items.** Unless it is to cancel its stream after the
second item, and there is one, the demonstration succeeds: with the filter *info* the program tells
the account, line by line, and exits with zero. This does not depend on the order in which the main
thread and the tasks of the transport go on. Whatever they do, they tell the account from its
beginning; they make a bounded number of moves; somebody can go on until the main thread is done;
and when it is, it has succeeded and the whole account has been told. -/
theorem every_run_tells_account (plan : Plan) (kept : plan.cancel = false ∨ plan.items < 2) :
    Command.demoExit plan "info" =
      { code := 0, stderr := (account plan.items).map Log.lineText } ∧
    ∀ ms e, (begin plan).run ms = some e →
      told e.shared.lines <+: account plan.items ∧
      ms.countP Move.isBusy ≤ 12 * plan.items + 27 ∧
      (¬e.CanGoOn → ∃ result, e.desk = .done result) ∧
      ∀ result, e.desk = .done result →
        result = .ok () ∧ told e.shared.lines = account plan.items := by
  constructor
  · obtain ⟨lines, performed, complete⟩ := perform_ok kept
    have silent : (Log.Filter.ofText "info").2 = [] := by rw [Log.Filter.ofText_info]
    simp only [Command.demoExit, performed, silent, List.nil_append]
    rw [← complete, told]
  · intro ms e hr
    obtain ⟨r, h, left⟩ := (Stands.begin plan).run kept hr
    refine ⟨h.isPrefix, by omega, ?_, fun result done => h.of_done done⟩
    intro stuck
    apply Classical.byContradiction
    intro going
    exact stuck (h.goes_on fun result done => going ⟨result, done⟩)

def singlePlan : Plan :=
  { items := 1, cancel := true, policy := { onFailure := .propagate, onHalt := .abandon }
    transport := { latency := 3 } }

/-- The transport runs ahead of the main thread wherever it can. -/
def singleRun : List Move :=
  [.main, .listing, .main, .listing, .tick 3, .listing, .listing, .listing, .listing,
    .main, .main, .main, .main, .main, .main, .listing, .main, .main, .listing, .tick 3,
    .listing, .listing, .listing, .listing, .listing, .main, .main, .main, .main, .main,
    .lookup, .tick 3, .lookup, .lookup, .lookup, .main, .main, .main, .main, .main, .main, .main]

theorem every_run_tells_account_single :
    (singlePlan.cancel = false ∨ singlePlan.items < 2) ∧
    (Command.demoExit singlePlan "info").stderr = (account 1).map Log.lineText ∧
    ∃ e, (begin singlePlan).run singleRun = some e ∧ e.desk = .done (.ok ()) ∧
      told e.shared.lines = account 1 := by
  have kept : singlePlan.cancel = false ∨ singlePlan.items < 2 := .inr (by decide)
  obtain ⟨exit, runs⟩ := every_run_tells_account singlePlan kept
  refine ⟨kept, by rw [exit]; rfl, ?_⟩
  have completes : ((begin singlePlan).run singleRun).map desk = some (.done (.ok ())) := rfl
  obtain ⟨e, hr, done⟩ := Option.map_eq_some_iff.mp completes
  exact ⟨e, hr, done, ((runs singleRun e hr).2.2.2 _ done).2⟩

end Ensemble

end CallBridge.Demo
