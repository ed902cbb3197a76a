import CallBridge.Proofs.Calls.Board
import Mathlib.Data.List.Basic

/-!
# Rounds of cancelling

A round at a register collects the calls that are live under its keys and asks each of them to stop.
A call that is live under several keys is collected once for each, and the order in which the keys
are visited is nobody's business. What the round has reached does not depend on either: the flag of
a call is up after the round if it was before or if the call is live under some key, and nothing
else has changed.

An application may have several registers, and a call may be live in several of them. A hall is all
calls and any number of desks; a round at one desk leaves the calls of the others alone.
-/

namespace CallBridge

namespace Admission

namespace Register

variable {r : Register} {k : Key} {id : CallId}

theorem mem_keys_of_live? (live : r.live? k = some id) : k ∈ r.entries.keys := by
  obtain ⟨e, found, -⟩ := Option.bind_eq_some_iff.mp live
  exact Table.mem_keys_iff.mpr ⟨e, found⟩

theorem liveCalls_eq (r : Register) : r.liveCalls = r.entries.keys.filterMap r.live? := by
  unfold liveCalls Table.values Table.keys
  rw [List.filterMap_map, List.filterMap_map]
  apply List.filterMap_congr
  intro b found
  simp [live?, entry?, Table.find?_of_mem found]

theorem mem_liveCalls : id ∈ r.liveCalls ↔ ∃ k, r.live? k = some id := by
  rw [liveCalls_eq, List.mem_filterMap]
  constructor
  · rintro ⟨k, -, live⟩
    exact ⟨k, live⟩
  · rintro ⟨k, live⟩
    exact ⟨k, mem_keys_of_live? live, live⟩

def liveKeys (r : Register) : List Key := r.entries.keys.filter fun k => (r.live? k).isSome

theorem mem_liveKeys : k ∈ r.liveKeys ↔ ∃ id, r.live? k = some id := by
  simp only [liveKeys, List.mem_filter, Option.isSome_iff_exists]
  constructor
  · exact And.right
  · rintro ⟨id, live⟩
    exact ⟨mem_keys_of_live? live, id, live⟩

theorem nodup_liveKeys (r : Register) : r.liveKeys.Nodup := r.entries.distinct.filter _

/-- A call is collected once for each of its keys. -/
theorem length_liveCalls (r : Register) : r.liveCalls.length = r.liveKeys.length := by
  rw [liveCalls_eq, List.length_filterMap_eq_countP, liveKeys, List.countP_eq_length_filter]

end Register

end Admission

namespace Board

open Admission (Desk)

variable {α : Type} {b : Board α}

theorem cancelled_of_step {m : Move α} {p : Board α × List (Event α)} (h : b.step m = some p)
    {id : CallId} (raised : (b.calls id).cell.cancelled = true) :
    (p.1.calls id).cell.cancelled = true := by
  cases m with
  | unary j m =>
      simp only [step] at h
      split at h
      · next s call request =>
          obtain ⟨q, hq, rfl⟩ := Option.map_eq_some_iff.mp h
          by_cases same : id = j
          · subst same
            have kept := Inquiry.cancelled_of_step hq request
            simp only [call, Member.cell_unary] at raised
            simp [set, kept, raised]
          · simp [set, same, raised]
      · cases h
  | stream j m =>
      simp only [step] at h
      split at h
      · next a call request =>
          obtain ⟨q, hq, rfl⟩ := Option.map_eq_some_iff.mp h
          by_cases same : id = j
          · subst same
            have kept := Audience.cancelled_of_step hq request
            simp only [call, Member.cell_stream] at raised
            simp [set, kept, raised]
          · simp [set, same, raised]
      · cases h
  | cancel j =>
      obtain rfl := Option.some.inj h
      by_cases same : id = j
      · simp [same, Cell.flag]
      · simp [same, raised]
  | desk m =>
      obtain ⟨q, -, rfl⟩ := Option.map_eq_some_iff.mp h
      by_cases among : id ∈ q.2.flatMap asked
      · simp only [cancelEach_calls, among, if_true, Member.cell_flag, Cell.flag]
      · simp only [cancelEach_calls, among, if_false, raised]

theorem cancelEach_lines {ids : List CallId}
    (raised : ∀ id ∈ ids, (b.calls id).cell.cancelled = true) : (b.cancelEach ids).lines = [] := by
  induction ids generalizing b with
  | nil => rfl
  | cons id ids ih =>
      have first : (b.cancel id).lines = [] := by
        have told : (b.cancel id).lines = (b.calls id).cell.cancel.lines :=
          (b.calls id).cancel_lines
        rw [told, Cell.cancel, raised id List.mem_cons_self]
        rfl
      have rest : ((b.cancel id).state.cancelEach ids).lines = [] := by
        refine ih fun j mem => ?_
        have before := raised j (List.mem_cons_of_mem id mem)
        by_cases same : j = id
        · simp [same, Cell.flag]
        · simp [same, before]
      rw [cancelEach]
      simp only [first, rest, List.append_nil]

end Board

/-- All calls and any number of desks. -/
structure Hall (α : Type) where
  calls : CallId → Member α
  desks : Nat → Admission.Desk := fun _ => {}

namespace Hall

variable {α : Type}

def fresh (kinds : CallId → Member.Kind) : Hall α := { calls := fun id => .fresh id (kinds id) }

def board (h : Hall α) (i : Nat) : Board α := ⟨h.calls, h.desks i⟩

def put (h : Hall α) (i : Nat) (b : Board α) : Hall α where
  calls := b.calls
  desks := fun j => if j = i then b.desk else h.desks j

/-- One move at a desk. The move of a call is the same at any of them. -/
def step (h : Hall α) (m : Nat × Board.Move α) : Option (Hall α × List (Board.Event α)) :=
  ((h.board m.1).step m.2).map fun q => (h.put m.1 q.1, q.2)

def run (h : Hall α) (ms : List (Nat × Board.Move α)) : Option (Hall α × List (Board.Event α)) :=
  runWith step h ms

def register (h : Hall α) (i : Nat) : Admission.Register := (h.desks i).register

/-! ## One round -/

/-- The hall after a round at desk `i`. -/
def after (h : Hall α) (i : Nat) : Hall α :=
  h.put i { ((h.board i).cancelEach (h.register i).liveCalls).state with
    desk := { h.desks i with
      cancelled := (h.register i).liveCalls ++ (h.desks i).cancelled } }

theorem step_round (h : Hall α) (i : Nat) :
    h.step (i, .desk .cancelAll) =
      some (h.after i, [.desk (.cancelled (h.register i).liveCalls)]) := by
  have calls : [Admission.Desk.Event.cancelled (h.register i).liveCalls].flatMap Board.asked =
      (h.register i).liveCalls := List.append_nil _
  simp only [step, Board.step, Admission.Desk.step, board, register, Option.map_some,
    List.map_cons, List.map_nil, after] at calls ⊢
  rw [calls]

theorem after_calls (h : Hall α) (i : Nat) (id : CallId) :
    (h.after i).calls id =
      if id ∈ (h.register i).liveCalls then (h.calls id).flag true else h.calls id :=
  (h.board i).cancelEach_calls _ id

@[simp] theorem after_register (h : Hall α) (i j : Nat) :
    (h.after i).register j = h.register j := by
  by_cases here : j = i
  · simp [register, after, put, here]
  · simp [register, after, put, here]

@[simp] theorem after_slots (h : Hall α) (i j : Nat) :
    ((h.after i).desks j).slots = (h.desks j).slots := by
  by_cases here : j = i
  · simp [after, put, here]
  · simp [after, put, here]

/-- A second round finds every flag up that it would raise. -/
theorem after_after_calls (h : Hall α) (i : Nat) :
    ((h.after i).after i).calls = (h.after i).calls := by
  funext id
  rw [after_calls, after_register, after_calls]
  split
  · rw [Member.flag_flag]
  · rfl

/-! ## Requests one by one -/

theorem put_board (h : Hall α) (i : Nat) (b : Board α) (same : b.desk = h.desks i) :
    h.put i b = { h with calls := b.calls } := by
  have desks : (fun j => if j = i then b.desk else h.desks j) = h.desks := by
    funext j
    by_cases here : j = i
    · rw [if_pos here, same, here]
    · rw [if_neg here]
  rw [put, desks]

/-- Requests to one call after the other come to what is asked of all of them. -/
theorem run_requests (h : Hall α) (i : Nat) (ids : List CallId) :
    h.run (ids.map fun id => (i, .cancel id)) =
      some ({ h with calls := ((h.board i).cancelEach ids).state.calls }, []) := by
  induction ids generalizing h with
  | nil => rfl
  | cons id ids ih =>
      have first : h.step (i, .cancel id) =
          some ({ h with calls := ((h.board i).cancel id).state.calls }, []) := by
        simp only [step, Board.step, Option.map_some]
        rw [put_board h i _ rfl]
      rw [List.map_cons, run, runWith_of_step first]
      have rest := ih { h with calls := ((h.board i).cancel id).state.calls }
      rw [run] at rest
      rw [rest]
      rfl

/-- The order of the requests makes no difference. -/
theorem cancelEach_perm (b : Board α) {ids ids' : List CallId} (same : ids.Perm ids') :
    (b.cancelEach ids).state.calls = (b.cancelEach ids').state.calls := by
  funext id
  simp only [Board.cancelEach_calls, same.mem_iff]

/-! ## Afterwards -/

theorem cancelled_of_run {h t : Hall α} {ms : List (Nat × Board.Move α)}
    {log : List (Board.Event α)} (run : h.run ms = some (t, log)) {id : CallId}
    (raised : (h.calls id).cell.cancelled = true) : (t.calls id).cell.cancelled = true := by
  refine runWith_keeps (P := fun h => (h.calls id).cell.cancelled = true) ?_ run raised
  intro h m t es raised hstep
  obtain ⟨q, hq, same⟩ := Option.map_eq_some_iff.mp hstep
  obtain ⟨rfl, -⟩ := Prod.mk.inj same
  exact Board.cancelled_of_step hq raised

/-! ## What a round comes to -/

/-- What a round at desk `i` has done that was answered with `n`. -/
structure Round (h t : Hall α) (i n : Nat) : Prop where
  reached : ∀ k id, (h.register i).live? k = some id →
    t.calls id = (h.calls id).flag true ∧ (t.calls id).cell.cancelled = true
  spared : ∀ id, (∀ k, (h.register i).live? k ≠ some id) → t.calls id = h.calls id
  counted : ∃ keys : List Key, keys.Nodup ∧
    (∀ k, k ∈ keys ↔ ∃ id, (h.register i).live? k = some id) ∧ n = keys.length
  registers : ∀ j, t.register j = h.register j ∧ (t.desks j).slots = (h.desks j).slots

theorem round_after (h : Hall α) (i : Nat) :
    Round h (h.after i) i (h.register i).liveCalls.length where
  reached k id live := by
    have among : id ∈ (h.register i).liveCalls := Admission.Register.mem_liveCalls.mpr ⟨k, live⟩
    have asked : (h.after i).calls id = (h.calls id).flag true := by
      rw [after_calls, if_pos among]
    refine ⟨asked, ?_⟩
    rw [asked, Member.cell_flag]
    rfl
  spared id idle := by
    have absent : id ∉ (h.register i).liveCalls := by
      intro among
      obtain ⟨k, live⟩ := Admission.Register.mem_liveCalls.mp among
      exact idle k live
    rw [after_calls, if_neg absent]
  counted := ⟨(h.register i).liveKeys, (h.register i).nodup_liveKeys,
    fun _ => Admission.Register.mem_liveKeys, (h.register i).length_liveCalls⟩
  registers j := ⟨h.after_register i j, h.after_slots i j⟩

/-- **A round reaches exactly the live calls.** Whatever has happened before at any desk and to any
call: a round at a register asks every call to stop that is live there, touches no other call, is
answered with the number of live entries, and leaves all registers and reservations as they are. It
does not matter in which order the entries are visited, and the requests may as well be made one by
one. A second round at once is answered with the same number and finds nothing to change or to tell
of but its sum; and whatever happens later, the calls that were reached stay asked to stop. -/
theorem round_reaches_live (h : Hall α) (i : Nat) : ∃ t calls,
    h.step (i, .desk .cancelAll) = some (t, [.desk (.cancelled calls)]) ∧
    Round h t i calls.length ∧
    (∀ order : List CallId, order.Perm calls →
      h.run (order.map fun id => (i, .cancel id)) = some ({ h with calls := t.calls }, [])) ∧
    (∃ u, t.step (i, .desk .cancelAll) = some (u, [.desk (.cancelled calls)]) ∧
      u.calls = t.calls ∧
      (∀ j, u.register j = t.register j ∧ (u.desks j).slots = (t.desks j).slots) ∧
      (t.board i).lines (.desk .cancelAll) = (t.register i).cancelAllLines) ∧
    ∀ ms v log, t.run ms = some (v, log) → ∀ k id,
      (h.register i).live? k = some id → (v.calls id).cell.cancelled = true := by
  have reached := round_after h i
  refine ⟨h.after i, (h.register i).liveCalls, h.step_round i, reached, ?_, ?_, ?_⟩
  · intro order same
    rw [run_requests, cancelEach_perm _ same]
    rfl
  · have again := (h.after i).step_round i
    rw [after_register] at again
    refine ⟨(h.after i).after i, again, h.after_after_calls i, ?_, ?_⟩
    · exact fun j => ⟨(h.after i).after_register i j, (h.after i).after_slots i j⟩
    · -- Every call that is live now was live before, and has been asked.
      have raised : ∀ id ∈ ((h.after i).register i).liveCalls,
          ((h.after i).calls id).cell.cancelled = true := by
        intro id among
        rw [after_register] at among
        obtain ⟨k, live⟩ := Admission.Register.mem_liveCalls.mp among
        exact (reached.reached k id live).2
      have silent := Board.cancelEach_lines (b := (h.after i).board i) raised
      exact (congrArg (· ++ _) silent).trans (List.nil_append _)
  · intro ms v log later k id live
    exact cancelled_of_run later (reached.reached k id live).2

/-- A call that is live under two keys of one register, and one that is live in another. -/
example : ((fresh (α := Nat) fun _ => .unary none).run
    [(0, .desk (.reserve (.number 1))), (0, .desk (.occupy (.number 1) ⟨7⟩)),
      (0, .desk (.reserve (.text "b"))), (0, .desk (.occupy (.text "b") ⟨7⟩)),
      (1, .desk (.reserve (.number 1))), (1, .desk (.occupy (.number 1) ⟨8⟩)),
      (0, .desk .cancelAll)]).map (fun p => [7, 8].map fun n => (p.1.calls ⟨n⟩).cell.cancelled) =
    some [true, false] := rfl

end Hall

end CallBridge
