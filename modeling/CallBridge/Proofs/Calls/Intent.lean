import CallBridge.Proofs.Calls.Requests

/-!
# Requests to stop signal intent

A request to stop tells the transport that nobody waits for the call any more; what becomes of the
call is for the transport to say. So a run with requests and the same run without them, or with
others in other places, come to the same: every start and every take is answered the same, the same
callbacks see the same items, and the calls and the register end up the same. Only the flags differ,
the answers of the rounds of cancelling, and the lines that tell of requests.

What has to be shown is that no move but a request reads a flag (`Flags`), which makes one move of
two boards that differ in the flags the same move, and a request the same as no move at all. The
rest is an induction over the run with the requests. A flag that is raised stays up, and since only
the request that raises it is logged, each call's line appears at most once (`Requests`).
-/

namespace CallBridge

namespace Board

open Admission (Desk)

variable {α : Type} {b b' : Board α} {m : Move α}

/-! ## Boards that differ in the flags -/

/-- The same calls under the same keys, except that other calls were asked to stop. -/
structure Alike (b b' : Board α) : Prop where
  calls : ∀ id, ∃ f, b'.calls id = (b.calls id).flag f
  register : b'.desk.register = b.desk.register
  slots : b'.desk.slots = b.desk.slots

theorem Alike.refl (b : Board α) : Alike b b where
  calls id := ⟨(b.calls id).cell.cancelled, by simp⟩
  register := rfl
  slots := rfl

theorem Alike.symm (h : Alike b b') : Alike b' b where
  calls id := by
    obtain ⟨f, same⟩ := h.calls id
    exact ⟨(b.calls id).cell.cancelled, by simp [same]⟩
  register := h.register.symm
  slots := h.slots.symm

theorem Alike.trans {c : Board α} (h : Alike b b') (h' : Alike b' c) : Alike b c where
  calls id := by
    obtain ⟨f, same⟩ := h.calls id
    obtain ⟨f', same'⟩ := h'.calls id
    exact ⟨f', by rw [same', same, Member.flag_flag]⟩
  register := h'.register.trans h.register
  slots := h'.slots.trans h.slots

theorem Alike.set (h : Alike b b') (id : CallId) (x : Member α) (f : Bool) :
    Alike (b.set id x) (b'.set id (x.flag f)) where
  calls j := by
    by_cases same : j = id
    · exact ⟨f, by simp [Board.set, same]⟩
    · simpa [Board.set, same] using h.calls j
  register := h.register
  slots := h.slots

/-- Requests make no other difference. -/
theorem alike_cancelEach (b : Board α) (ids : List CallId) : Alike b (b.cancelEach ids).state where
  calls j := by
    by_cases among : j ∈ ids
    · exact ⟨true, by simp [among]⟩
    · exact ⟨(b.calls j).cell.cancelled, by simp [among]⟩
  register := by simp
  slots := by simp

theorem alike_cancel (b : Board α) (id : CallId) : Alike b (b.cancel id).state :=
  b.alike_cancelEach [id]

/-! ## One move -/

/-- What is seen but for the answers of rounds of cancelling. -/
def plain (es : List (Event α)) : List (Event α) := es.filter fun e => !e.isRound

@[simp] theorem plain_append (es es' : List (Event α)) :
    plain (es ++ es') = plain es ++ plain es' :=
  List.filter_append ..

/-- Two outcomes that only flags and rounds of cancelling tell apart. -/
structure Matches (p q : Board α × List (Event α)) : Prop where
  board : Alike p.1 q.1
  events : plain p.2 = plain q.2

theorem step_desk {d d' : Desk} (register : d'.register = d.register) (slots : d'.slots = d.slots)
    (m : Desk.Move) :
    Option.Rel (fun p q : Desk × List Desk.Event =>
      q.1.register = p.1.register ∧ q.1.slots = p.1.slots ∧ q.2 = p.2) (d.step m) (d'.step m) := by
  cases m with
  | reserve k =>
      simp only [Desk.step, Desk.reserve, register, slots]
      split <;> exact .some ⟨rfl, rfl, rfl⟩
  | occupy k call =>
      simp only [Desk.step, Desk.occupy, register, slots]
      split
      · split <;> exact .some ⟨rfl, rfl, rfl⟩
      · exact .none
  | abandon k =>
      simp only [Desk.step, register, slots]
      split
      · exact .some ⟨rfl, rfl, rfl⟩
      · exact .none
  | release k | releaseCall k call | cancelAll =>
      simp only [Desk.step, register]
      exact .some ⟨rfl, slots, rfl⟩

/-- A move that is not a request fits in both cases or in neither, and does the same. -/
theorem step_alike (h : Alike b b') (other : m.isRequest = false) :
    Option.Rel Matches (b.step m) (b'.step m) := by
  cases m with
  | cancel id => cases other
  | unary id m =>
      obtain ⟨f, same⟩ := h.calls id
      cases call : b.calls id with
      | stream a =>
          simp only [step, same, call, Member.flag_stream]
          exact .none
      | unary s =>
          cases request : m.isRequest with
          | true =>
              simp only [step, same, call, request, Member.flag_unary]
              exact .none
          | false =>
              simp only [step, same, call, request, Member.flag_unary, s.step_flag f request]
              cases s.step m with
              | none => exact .none
              | some q => exact .some ⟨h.set id (.unary q.1) f, rfl⟩
  | stream id m =>
      obtain ⟨f, same⟩ := h.calls id
      cases call : b.calls id with
      | unary s =>
          simp only [step, same, call, Member.flag_unary]
          exact .none
      | stream a =>
          cases request : m.isRequest with
          | true =>
              simp only [step, same, call, request, Member.flag_stream]
              exact .none
          | false =>
              simp only [step, same, call, request, Member.flag_stream, a.step_flag f request]
              cases a.step m with
              | none => exact .none
              | some q => exact .some ⟨h.set id (.stream q.1) f, rfl⟩
  | desk m =>
      have both := step_desk h.register h.slots m
      simp only [step]
      revert both
      generalize b.desk.step m = o
      generalize b'.desk.step m = o'
      rintro (⟨register, slots, events⟩ | -)
      · refine .some ⟨⟨?_, register, slots⟩, by simp [events]⟩
        exact (((b.alike_cancelEach _).symm.trans h).trans (b'.alike_cancelEach _)).calls
      · exact .none

/-- A request always fits. It is seen in the flags and the answers of rounds only. -/
theorem step_request (b : Board α) (request : m.isRequest = true) :
    ∃ t es, b.step m = some (t, es) ∧ Alike b t ∧ plain es = [] := by
  cases m with
  | unary | stream => cases request
  | cancel id => exact ⟨_, _, rfl, b.alike_cancel id, rfl⟩
  | desk m =>
      cases m with
      | cancelAll =>
          refine ⟨_, _, rfl, ⟨(b.alike_cancelEach _).calls, rfl, rfl⟩, rfl⟩
      | reserve | occupy | abandon | release | releaseCall => cases request

/-! ## What one move logs -/

def isSummary (l : Line) : Bool := l.level = .info && l.target = Admission.target

/-- The lines that tell of no request and sum up no round. -/
def unprompted (ls : List Line) : List Line := ls.filter fun l => !l.tellsRequest && !isSummary l

@[simp] theorem unprompted_append (ls ls' : List Line) :
    unprompted (ls ++ ls') = unprompted ls ++ unprompted ls' :=
  List.filter_append ..

@[simp] theorem unprompted_cancel (b : Board α) (id : CallId) :
    unprompted (b.cancel id).lines = [] := by
  have lines : (b.cancel id).lines = (b.calls id).cell.cancel.lines := (b.calls id).cancel_lines
  rw [lines, Cell.lines_cancel]
  split <;> simp [unprompted]

@[simp] theorem unprompted_cancelEach (b : Board α) (ids : List CallId) :
    unprompted (b.cancelEach ids).lines = [] := by
  induction ids generalizing b with
  | nil => rfl
  | cons id ids ih => simp [cancelEach, ih]

theorem lines_request (b : Board α) (request : m.isRequest = true) :
    unprompted (b.lines m) = [] := by
  cases m with
  | unary | stream => cases request
  | cancel id => exact b.unprompted_cancel id
  | desk m =>
      cases m with
      | cancelAll =>
          have summary : unprompted b.desk.register.cancelAllLines = [] := by
            simp only [Admission.Register.cancelAllLines]
            split
            · rfl
            · simp [unprompted, isSummary]
          simp [lines, deskLines, summary]
      | reserve | occupy | abandon | release | releaseCall => cases request

theorem lines_alike (h : Alike b b') (other : m.isRequest = false)
    {p : Board α × List (Event α)} (fits : b.step m = some p) :
    unprompted (b.lines m) = unprompted (b'.lines m) := by
  cases m with
  | cancel id => cases other
  | unary id m =>
      obtain ⟨f, same⟩ := h.calls id
      cases call : b.calls id with
      | stream a => simp only [lines, same, call, Member.flag_stream]
      | unary s =>
          cases request : m.isRequest with
          | true => simp only [step, call, request, reduceCtorEq] at fits
          | false => simp only [lines, same, call, Member.flag_unary, s.lines_flag f request]
  | stream id m =>
      obtain ⟨f, same⟩ := h.calls id
      cases call : b.calls id with
      | unary s => simp only [lines, same, call, Member.flag_unary]
      | stream a =>
          cases request : m.isRequest with
          | true => simp only [step, call, request, reduceCtorEq] at fits
          | false => simp only [lines, same, call, Member.flag_stream, a.lines_flag f request]
  | desk m =>
      cases m with
      | cancelAll => cases other
      | occupy k call =>
          simp only [lines, deskLines, h.register, unprompted_append]
          split
          · rfl
          · rw [unprompted_cancel, unprompted_cancel]
      | reserve | abandon | release | releaseCall => simp only [lines, deskLines, h.register]

/-! ## Runs -/

def calm (ms : List (Move α)) : List (Move α) := ms.filter fun m => !m.isRequest

theorem calm_request {ms : List (Move α)} (request : m.isRequest = true) :
    calm (m :: ms) = calm ms :=
  List.filter_cons_of_neg (by simp [request])

theorem calm_other {ms : List (Move α)} (other : m.isRequest = false) :
    calm (m :: ms) = m :: calm ms :=
  List.filter_cons_of_pos (by simp [other])

theorem Matches.symm {p q : Board α × List (Event α)} (h : Matches p q) : Matches q p :=
  ⟨h.board.symm, h.events.symm⟩

theorem Matches.trans {p q r : Board α × List (Event α)} (h : Matches p q) (h' : Matches q r) :
    Matches p r :=
  ⟨h.board.trans h'.board, h.events.trans h'.events⟩

theorem rel_symm {o o' : Option (Board α × List (Event α))} (h : Option.Rel Matches o o') :
    Option.Rel Matches o' o := by
  cases h with
  | some same => exact .some same.symm
  | none => exact .none

theorem rel_trans {o o' o'' : Option (Board α × List (Event α))} (h : Option.Rel Matches o o')
    (h' : Option.Rel Matches o' o'') : Option.Rel Matches o o'' := by
  cases h with
  | some same =>
      cases h' with
      | some same' => exact .some (same.trans same')
  | none => exact h'

/-- What was seen before a run is seen before what the run shows. -/
theorem rel_before {o o' : Option (Board α × List (Event α))} {es es' : List (Event α)}
    (before : plain es = plain es') (h : Option.Rel Matches o o') :
    Option.Rel Matches (o.map fun q => (q.1, es ++ q.2)) (o'.map fun q => (q.1, es' ++ q.2)) := by
  cases h with
  | some same => exact .some ⟨same.board, by simp [before, same.events]⟩
  | none => exact .none

/-- A move that is not a request fits two boards alike, or neither. -/
theorem step_both (h : Alike b b') (other : m.isRequest = false) :
    (b.step m = none ∧ b'.step m = none) ∨
      ∃ p q, b.step m = some p ∧ b'.step m = some q ∧ Matches p q := by
  have both := step_alike h other
  generalize b.step m = o at *
  generalize b'.step m = o' at *
  cases both with
  | none => exact .inl ⟨rfl, rfl⟩
  | some same => exact .inr ⟨_, _, rfl, rfl, same⟩

/-- A run comes to the same without its requests. -/
theorem run_calm (h : Alike b b') (ms : List (Move α)) :
    Option.Rel Matches (b.run ms) (b'.run (calm ms)) := by
  induction ms generalizing b b' with
  | nil => exact .some ⟨h, rfl⟩
  | cons m ms ih =>
      cases request : m.isRequest with
      | true =>
          obtain ⟨t, es, fits, alike, quiet⟩ := b.step_request request
          have later : Option.Rel Matches (t.run ms) (b'.run (calm ms)) := ih (alike.symm.trans h)
          have silent : plain es = plain [] := quiet
          have shown := rel_before silent later
          rw [calm_request request, run, runWith_of_step fits]
          simpa [run] using shown
      | false =>
          rw [calm_other request, run, run]
          rcases step_both h request with ⟨stuck, stuck'⟩ | ⟨p, q, fits, fits', same⟩
          · rw [runWith_of_stuck stuck, runWith_of_stuck stuck']
            exact .none
          · rw [runWith_of_step fits, runWith_of_step fits']
            exact rel_before same.events (ih same.board)

theorem report_of_step {p : Board α × List (Event α)} (fits : b.step m = some p)
    (ms : List (Move α)) : b.report (m :: ms) = b.lines m ++ p.1.report ms := by
  simp only [report, fits]

theorem report_of_stuck (stuck : b.step m = none) (ms : List (Move α)) :
    b.report (m :: ms) = [] := by
  simp only [report, stuck]

/-- And besides the lines of its requests it logs the same. -/
theorem report_calm (h : Alike b b') (ms : List (Move α)) :
    unprompted (b.report ms) = unprompted (b'.report (calm ms)) := by
  induction ms generalizing b b' with
  | nil => rfl
  | cons m ms ih =>
      cases request : m.isRequest with
      | true =>
          obtain ⟨t, es, fits, alike, -⟩ := b.step_request request
          rw [calm_request request, report_of_step fits, unprompted_append,
            b.lines_request request, List.nil_append]
          exact ih (alike.symm.trans h)
      | false =>
          rw [calm_other request]
          rcases step_both h request with ⟨stuck, stuck'⟩ | ⟨p, q, fits, fits', same⟩
          · rw [report_of_stuck stuck, report_of_stuck stuck']
          · rw [report_of_step fits, report_of_step fits', unprompted_append, unprompted_append,
              lines_alike h request fits, ih same.board]

/-! ## The two runs -/

/-- Two runs that differ in their requests only, wherever these stand, come to the same: if one gets
through so does the other, the same is seen but for the answers of the rounds, and calls and
register end up the same but for the flags; and besides requests and their sums the same is logged.
In each of them no flag goes back, and no call's line is logged twice. -/
theorem requests_only_signal (kinds : CallId → Member.Kind) {ms ms' : List (Move α)}
    (same : calm ms = calm ms') :
    Option.Rel Matches ((fresh kinds).run ms) ((fresh kinds).run ms') ∧
      unprompted ((fresh kinds).report ms) = unprompted ((fresh kinds).report ms') ∧
      (∀ id, ((fresh kinds).report ms).count (requestLine id) ≤ 1) ∧
      ∀ {before after t u log log'}, ms = before ++ after →
        (fresh kinds).run before = some (t, log) → t.run after = some (u, log') →
          ∀ id, (t.calls id).cell.cancelled = true → (u.calls id).cell.cancelled = true := by
  have named : Named (fresh kinds : Board α) := named_fresh kinds
  refine ⟨?_, ?_, count_report_le named ms, ?_⟩
  · have left := run_calm (.refl (fresh kinds)) ms
    have right := run_calm (.refl (fresh kinds)) ms'
    rw [← same] at right
    exact rel_trans left (rel_symm right)
  · rw [report_calm (.refl _) ms, report_calm (.refl _) ms', same]
  · intro before after t u log log' _ first later id raised
    exact cancelled_run (named_run named first) later raised

/-- Calls with odd numbers are unary. -/
def oddUnary (id : CallId) : Member.Kind :=
  if id.serial % 2 = 1 then .unary none else .stream none 0

/-- A stream shows its item, and before its callback returns a registered call is answered. Code
in the callback of the item may ask for something, and so may code in that of the answer. -/
def answeredInside (first second : List (Move Nat)) : List (Move Nat) :=
  [.desk (.reserve (.number 7)), .unary ⟨1⟩ (.act 0 .start), .unary ⟨1⟩ (.act 0 .back),
      .desk (.occupy (.number 7) ⟨1⟩), .stream ⟨2⟩ (.act .start), .stream ⟨2⟩ (.act (.opened 0)),
      .stream ⟨2⟩ (.act (.deliver 5))] ++ first ++
    [.unary ⟨1⟩ (.act 1 (.complete (.ok 8))), .unary ⟨1⟩ .proceed, .unary ⟨1⟩ .proceed,
      .unary ⟨1⟩ .proceed] ++ second ++
    [.unary ⟨1⟩ (.act 1 .take), .unary ⟨1⟩ (.extract 1), .unary ⟨1⟩ (.act 1 .back),
      .stream ⟨2⟩ (.leave (.decided .proceed)), .stream ⟨2⟩ .readOn]

/-- The same with requests in both callbacks. -/
def askedInside : List (Move Nat) :=
  answeredInside [.cancel ⟨2⟩, .desk .cancelAll] [.cancel ⟨2⟩, .cancel ⟨1⟩]

theorem requests_only_signal_inside :
    calm askedInside = calm (answeredInside [] []) ∧
      Option.Rel Matches ((fresh oddUnary).run askedInside)
        ((fresh oddUnary).run (answeredInside [] [])) ∧
      ((fresh oddUnary).run (answeredInside [] [])).map (·.2) =
        some [.desk (.won (.number 7)), .unary ⟨1⟩ .launched, .desk (.registered (.number 7) ⟨1⟩),
          .stream ⟨2⟩ .launched, .stream ⟨2⟩ (.asked .opened 0), .stream ⟨2⟩ (.accepted 5),
          .stream ⟨2⟩ (.shown 5), .unary ⟨1⟩ (.reported (.ok 8)), .unary ⟨1⟩ (.notified (.ok 8)),
          .unary ⟨1⟩ (.claimed 1), .unary ⟨1⟩ (.took 1 (some 8)),
          .stream ⟨2⟩ (.left (.decided .proceed)), .stream ⟨2⟩ (.asked .continued 0)] ∧
      ((fresh oddUnary).report askedInside).filter Line.tellsRequest =
        [requestLine ⟨2⟩, requestLine ⟨1⟩] := by
  have same : calm askedInside = calm (answeredInside [] []) := rfl
  exact ⟨same, (requests_only_signal oddUnary same).1, rfl, by decide⟩

end Board

end CallBridge
