import CallBridge.Proofs.Calls.Board

/-!
# The lines that tell of requests

The first request of a call is logged with the number of the call. No other move logs a line of this
form, and later requests log nothing, so the lines of a run can be counted against the flags: a
move logs the line of a call exactly when it raises its flag. A call keeps its number, and two calls
on a board have different ones.
-/

namespace CallBridge

variable {α : Type}

def requestText : String := "Cancel requested for call "

/-- The line that tells of a call's first request. -/
def requestLine (id : CallId) : Line := ⟨.debug, callTarget, requestText ++ id.text⟩

/-- Lines of this form tell of requests. -/
def Line.tellsRequest (l : Line) : Bool :=
  l.level = .debug && l.target = callTarget && requestText.toList.isPrefixOf l.message.toList

@[simp] theorem tellsRequest_requestLine (id : CallId) : (requestLine id).tellsRequest = true := by
  simp [Line.tellsRequest, requestLine, requestText]

@[simp] theorem requestLine_inj {i j : CallId} : requestLine i = requestLine j ↔ i = j := by
  constructor
  · intro h
    obtain ⟨m⟩ := i
    obtain ⟨n⟩ := j
    simp only [requestLine, Line.mk.injEq, String.append_right_inj, CallId.text, true_and] at h
    have read := congrArg (fun text : String => Nat.ofDigitChars 10 text.toList 0) h
    simpa [Nat.toString_eq_repr, Nat.repr_eq_ofList_toDigits, Nat.ofDigitChars_toDigits] using read
  · rintro rfl
    rfl

theorem Cell.lines_cancel (c : Cell α) :
    c.cancel.lines = if c.cancelled then [] else [requestLine c.id] :=
  rfl

/-! ## Other lines -/

/-- Lines among which none tells of a request. -/
def Untold (ls : List Line) : Prop := ∀ l ∈ ls, l.tellsRequest = false

theorem Untold.nil : Untold [] := by
  intro l mem
  cases mem

theorem Untold.one {l : Line} (h : l.tellsRequest = false) : Untold [l] := by
  intro l' mem
  rwa [List.mem_singleton.mp mem]

theorem Untold.of_level {l : Line} (h : l.level ≠ .debug) : Untold [l] :=
  .one (by simp [Line.tellsRequest, h])

theorem Untold.of_target {l : Line} (h : l.target ≠ callTarget) : Untold [l] :=
  .one (by simp [Line.tellsRequest, h])

theorem Untold.append {ls ls' : List Line} (h : Untold ls) (h' : Untold ls') :
    Untold (ls ++ ls') := by
  intro l mem
  rcases List.mem_append.mp mem with first | later
  · exact h l first
  · exact h' l later

theorem Untold.count {ls : List Line} (h : Untold ls) (id : CallId) :
    ls.count (requestLine id) = 0 := by
  apply List.count_eq_zero.mpr
  intro mem
  have told : (requestLine id).tellsRequest = false := h _ mem
  simp at told

namespace Cell

theorem untold_lock (c : Cell α) (context : String) : Untold (c.lockLines context) := by
  unfold lockLines
  split
  · exact .of_level nofun
  · exact .nil

theorem untold_take (c : Cell α) (thread : Nat) : Untold (c.take thread).lines := by
  unfold take
  split
  · exact .of_level nofun
  · cases c.claim with
    | none => exact .nil
    | some claimed => exact claimed.untold_lock _

end Cell

namespace Stream

variable (s : Stream α)

theorem untold_launch : Untold s.launch.lines := by
  unfold launch
  split
  · exact .nil
  · exact .one (by simp [Line.tellsRequest, requestText, List.isPrefixOf])

theorem untold_deliver (thread : Nat) (x : α) : Untold (s.deliver thread x).lines := by
  have accept : Untold s.accept.lines := by
    unfold Stream.accept
    split
    · exact .nil
    · exact .of_level nofun
  unfold deliver
  simp only
  split
  · exact accept.append (Cell.untold_lock _ _)
  · exact accept

theorem untold_take (thread : Nat) : Untold (s.take thread).lines := by
  rw [take, afterTake_lines]
  exact s.cell.untold_take thread

theorem untold_completeTake : Untold s.completeTake.lines := by
  rw [completeTake, afterTake_lines]
  exact s.cell.untold_lock _

theorem untold_finish (status : Status) : Untold (s.finish status).lines := by
  unfold finish
  split
  · exact .of_level nofun
  · simp only
    split
    · exact .one (by simp [Line.tellsRequest, requestText, List.isPrefixOf])
    · exact .nil

end Stream

theorem Audience.untold (a : Audience α) {m : Move α} (other : m.isRequest = false) :
    Untold (a.lines m) := by
  cases m with
  | act m =>
      cases m with
      | start => exact a.stream.untold_launch
      | deliver x => exact a.stream.untold_deliver a.thread x
      | closeReads => exact .of_level nofun
      | finish status => exact a.stream.untold_finish status
      | take => exact a.stream.untold_take a.thread
      | takeAside =>
          simp only [lines]
          split
          · exact a.stream.untold_take a.thread
          · exact .nil
      | cancel => cases other
      | switch | opened | decide | back | panic => exact .nil
  | leave e => exact .nil
  | readOn => exact a.stream.cell.untold_take a.thread
  | goOn => exact a.stream.untold_completeTake

namespace Unary

variable (u : Unary α)

theorem untold_launch : Untold u.launch.lines := by
  unfold launch
  split
  · exact .nil
  · exact .one (by simp [Line.tellsRequest, requestText, List.isPrefixOf])

theorem untold_complete (result : Except Status α) : Untold (u.complete result).lines := by
  unfold complete
  split
  · exact .of_level nofun
  · cases result with
    | ok response => exact Cell.untold_lock _ _
    | error status => exact .one (by simp [Line.tellsRequest, requestText, List.isPrefixOf])

end Unary

theorem Inquiry.untold (s : Inquiry α) {m : Move α} (other : m.isRequest = false) :
    Untold (s.lines m) := by
  cases m with
  | act p o =>
      cases o with
      | start => exact s.unary.untold_launch
      | complete r =>
          simp only [lines]
          split
          · exact s.unary.untold_complete r
          · exact .nil
      | take =>
          simp only [lines]
          split
          · exact s.unary.cell.untold_take p
          · exact .nil
      | cancel => cases other
      | back | panic => exact .nil
  | proceed =>
      simp only [lines]
      split
      · exact s.unary.untold_complete _
      · exact s.unary.cell.untold_lock _
      · exact .nil
  | extract p => exact s.unary.cell.untold_lock _

namespace Admission

theorem elsewhere : target ≠ callTarget := by decide

namespace Register

variable (r : Register) (k : Key)

theorem untold_reserve : Untold (r.reserve k).lines := by
  unfold reserve
  split
  · exact .of_target elsewhere
  · exact .nil

theorem untold_occupy (call : CallId) : Untold (r.occupy k call).lines := by
  unfold occupy
  split <;> exact .of_target elsewhere

theorem untold_release : Untold (r.release k).lines := by
  unfold release
  split
  · exact .of_target elsewhere
  · exact .nil

theorem untold_releaseCall (call : CallId) : Untold (r.releaseCall k call).lines := by
  unfold releaseCall
  split <;> exact .of_target elsewhere

theorem untold_cancelAll : Untold r.cancelAllLines := by
  simp only [cancelAllLines]
  split
  · exact .nil
  · exact .of_target elsewhere

end Register

end Admission

/-! ## Numbers -/

theorem Session.id_moved {s : Session α} {p : Session α × List (Session.Event α)}
    (h : s.Moved p) : p.1.stream.cell.id = s.stream.cell.id := by
  cases h with
  | attached lane top => simp [Session.attach]
  | took => simp [Session.take, Stream.take]
  | left e top =>
      unfold Session.leave Session.completeTake Session.readOn
      cases e.consumes <;> cases s.claimed <;>
        simp [Stream.completeTake, Stream.endInspection, Cell.endInspection, Cell.extract]
  | _ => rfl

theorem Audience.id_moved {a : Audience α} {p : Audience α × List (Session.Event α)}
    (h : a.Moved p) : p.1.stream.cell.id = a.stream.cell.id := by
  cases h with
  | acted calm moved unclaimed stays => exact Session.id_moved moved
  | readOn consuming => simp
  | wentOn due free => simp [Stream.completeTake, Cell.extract]
  | _ => rfl

theorem Inquiry.id_moved {s : Inquiry α} {p : Inquiry α × List (Inquiry.Event α)}
    (h : s.Moved p) : p.1.unary.cell.id = s.unary.cell.id := by
  cases h <;> rfl

/-! ## Counting -/

namespace Board

open Admission (Desk)

variable {b : Board α}

/-- Every call bears its number. -/
def Named (b : Board α) : Prop := ∀ id, (b.calls id).cell.id = id

theorem named_fresh (kinds : CallId → Member.Kind) : Named (fresh kinds : Board α) := by
  intro id
  cases kind : kinds id <;> simp [fresh, kind, Member.fresh] <;> rfl

/-- One move adds the line of a call to the log exactly when it raises its flag. -/
structure Counted (b t : Board α) (ls : List Line) : Prop where
  named : Named b → Named t
  lines : Named b → ∀ id, ls.count (requestLine id) + (b.calls id).cell.cancelled.toNat =
    (t.calls id).cell.cancelled.toNat

theorem Counted.quiet {ls : List Line} (untold : Untold ls) : Counted b b ls where
  named := id
  lines _ id := by rw [untold.count, Nat.zero_add]

theorem Counted.trans {t u : Board α} {ls ls' : List Line} (h : Counted b t ls)
    (h' : Counted t u ls') : Counted b u (ls ++ ls') where
  named := h'.named ∘ h.named
  lines named id := by
    rw [List.count_append, ← h'.lines (h.named named) id, ← h.lines named id]
    omega

/-- A move that logs no request and leaves the flag of its call. -/
theorem Counted.set {id : CallId} {x : Member α} {ls : List Line}
    (identity : x.cell.id = (b.calls id).cell.id)
    (flag : x.cell.cancelled = (b.calls id).cell.cancelled) (untold : Untold ls) :
    Counted b (b.set id x) ls where
  named named j := by
    by_cases same : j = id
    · subst same
      simpa [Board.set, identity] using named j
    · simpa [Board.set, same] using named j
  lines named j := by
    rw [untold.count, Nat.zero_add]
    by_cases same : j = id
    · subst same
      simp [Board.set, flag]
    · simp [Board.set, same]

theorem counted_cancel (b : Board α) (id : CallId) :
    Counted b (b.cancel id).state (b.cancel id).lines where
  named named j := by
    by_cases same : j = id
    · simpa [same, Cell.flag] using named id
    · simpa [same] using named j
  lines named j := by
    have logged : (b.cancel id).lines = (b.calls id).cell.cancel.lines := (b.calls id).cancel_lines
    rw [logged, Cell.lines_cancel, named id]
    by_cases same : j = id
    · subst same
      cases (b.calls j).cell.cancelled <;> simp [Cell.flag]
    · have other : ¬ id = j := fun h => same h.symm
      cases (b.calls id).cell.cancelled <;> simp [same, other]

theorem counted_cancelEach (b : Board α) (ids : List CallId) :
    Counted b (b.cancelEach ids).state (b.cancelEach ids).lines := by
  induction ids generalizing b with
  | nil => exact .quiet .nil
  | cons id ids ih => exact (b.counted_cancel id).trans (ih _)

theorem counted_desk (b : Board α) {m : Desk.Move} {q : Desk × List Desk.Event}
    (h : b.desk.step m = some q) :
    Counted b (b.cancelEach (q.2.flatMap asked)).state (b.deskLines m) := by
  cases m with
  | cancelAll =>
      obtain rfl := Option.some.inj h
      have calls : [Desk.Event.cancelled b.desk.register.liveCalls].flatMap asked =
          b.desk.register.liveCalls := List.append_nil _
      rw [calls]
      exact (b.counted_cancelEach _).trans (.quiet b.desk.register.untold_cancelAll)
  | occupy k call =>
      obtain ⟨-, h⟩ := Option.ite_none_right_eq_some.mp h
      obtain rfl := Option.some.inj h
      have told : Untold (b.desk.register.occupy k call).lines :=
        b.desk.register.untold_occupy k call
      simp only [Desk.occupy, deskLines]
      split
      · exact .quiet (told.append .nil)
      · exact (Counted.quiet told).trans (b.counted_cancel call)
  | reserve k =>
      obtain rfl := Option.some.inj h
      simp only [Desk.reserve]
      split <;> exact .quiet (b.desk.register.untold_reserve k)
  | abandon k =>
      obtain ⟨-, h⟩ := Option.ite_none_right_eq_some.mp h
      obtain rfl := Option.some.inj h
      exact .quiet (.of_target Admission.elsewhere)
  | release k =>
      obtain rfl := Option.some.inj h
      exact .quiet (b.desk.register.untold_release k)
  | releaseCall k call =>
      obtain rfl := Option.some.inj h
      exact .quiet (b.desk.register.untold_releaseCall k call)

theorem counted_step {m : Move α} {p : Board α × List (Event α)} (h : b.step m = some p) :
    Counted b p.1 (b.lines m) := by
  cases m with
  | unary id m =>
      simp only [step] at h
      split at h
      · next s call request =>
          obtain ⟨q, hq, rfl⟩ := Option.map_eq_some_iff.mp h
          simp only [lines, call]
          apply Counted.set
          · simpa [call] using Inquiry.id_moved (Inquiry.moved_of_step hq)
          · simpa [call] using Inquiry.cancelled_of_step hq request
          · exact s.untold request
      · exact nomatch h
  | stream id m =>
      simp only [step] at h
      split at h
      · next a call request =>
          obtain ⟨q, hq, rfl⟩ := Option.map_eq_some_iff.mp h
          simp only [lines, call]
          apply Counted.set
          · simpa [call] using Audience.id_moved (Audience.moved_of_step hq)
          · simpa [call] using Audience.cancelled_of_step hq request
          · exact a.untold request
      · exact nomatch h
  | cancel id =>
      obtain rfl := Option.some.inj h
      exact b.counted_cancel id
  | desk m =>
      obtain ⟨q, hq, rfl⟩ := Option.map_eq_some_iff.mp h
      obtain ⟨named, lines⟩ := b.counted_desk hq
      exact ⟨named, lines⟩

/-- What a run logs is counted against the flags that it raises, as far as its moves fit. -/
theorem counted_report (b : Board α) (ms : List (Move α)) : ∃ t, Counted b t (b.report ms) := by
  induction ms generalizing b with
  | nil => exact ⟨b, .quiet .nil⟩
  | cons m ms ih =>
      cases fits : b.step m with
      | none => exact ⟨b, by simpa [report, fits] using Counted.quiet .nil⟩
      | some p =>
          obtain ⟨t, counted⟩ := ih p.1
          exact ⟨t, by simpa [report, fits] using (counted_step fits).trans counted⟩

/-- The line of a call appears at most once. -/
theorem count_report_le (named : Named b) (ms : List (Move α)) (id : CallId) :
    (b.report ms).count (requestLine id) ≤ 1 := by
  obtain ⟨t, -, lines⟩ := b.counted_report ms
  calc (b.report ms).count (requestLine id)
      ≤ (b.report ms).count (requestLine id) + (b.calls id).cell.cancelled.toNat :=
        Nat.le_add_right _ _
    _ = (t.calls id).cell.cancelled.toNat := lines named id
    _ ≤ 1 := Bool.toNat_le _

theorem named_run (named : Named b) {ms : List (Move α)} {t : Board α} {log : List (Event α)}
    (h : b.run ms = some (t, log)) : Named t :=
  runWith_keeps (fun named hstep => (counted_step hstep).named named) h named

theorem cancelled_run (named : Named b) {ms : List (Move α)} {t : Board α}
    {log : List (Event α)} (h : b.run ms = some (t, log)) {id : CallId}
    (raised : (b.calls id).cell.cancelled = true) : (t.calls id).cell.cancelled = true := by
  refine (runWith_keeps (P := fun b => Named b ∧ (b.calls id).cell.cancelled = true) ?_ h
    ⟨named, raised⟩).2
  rintro u m v es ⟨named, raised⟩ hstep
  have counted := counted_step hstep
  refine ⟨counted.named named, ?_⟩
  have lines := counted.lines named id
  cases later : (v.calls id).cell.cancelled with
  | true => rfl
  | false => simp [raised, later] at lines

end Board

end CallBridge
