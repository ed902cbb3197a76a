import CallBridge.Proofs.Admission.Desk

/-!
# A reservation and its slot go together

Six operations touch an entry, each under a condition of its own. Together they keep one equation:
for every key, the clients hold one slot if the key is reserved and none if it is not. So whoever
has a slot finds its reservation, and an occupy never meets a vacant key or a live call.
-/

namespace CallBridge

namespace Admission

namespace Desk

/-- Slots and reservations correspond, key by key. -/
def Matched (d : Desk) : Prop :=
  ∀ k, d.slots.count k = if d.register.entry? k = some .reserved then 1 else 0

variable {d : Desk} {k : Key}

theorem matched_empty : Matched {} := by
  intro k
  simp [Register.entry?]

theorem Matched.reserved_iff (h : d.Matched) :
    d.register.entry? k = some .reserved ↔ d.slots.count k = 1 := by
  rw [h k]
  split <;> simp_all

theorem Matched.mem_iff (h : d.Matched) : k ∈ d.slots ↔ d.register.entry? k = some .reserved := by
  rw [← List.count_pos_iff, h k]
  split <;> simp_all

theorem Matched.of_key {r : Register} {slots : List Key} (h : d.Matched)
    (others : ∀ j, j ≠ k → r.entry? j = d.register.entry? j ∧ slots.count j = d.slots.count j)
    (this : slots.count k = if r.entry? k = some .reserved then 1 else 0)
    (cancelled : List CallId) : Matched ⟨r, slots, cancelled⟩ := by
  intro j
  by_cases hj : j = k
  · rw [hj]
    exact this
  · obtain ⟨entry, count⟩ := others j hj
    rw [entry, count]
    exact h j

theorem Matched.erase_live {call : CallId} (h : d.Matched)
    (live : d.register.entry? k = some (.live call)) :
    Matched { d with register := ⟨d.register.entries.erase k⟩ } := by
  refine h.of_key (k := k) (fun j hj => ⟨Register.entry?_erase_of_ne _ hj, rfl⟩) ?_ _
  rw [h k, live]
  simp

theorem Matched.use_slot {r : Register} (h : d.Matched)
    (reserved : d.register.entry? k = some .reserved)
    (others : ∀ j, j ≠ k → r.entry? j = d.register.entry? j)
    (after : r.entry? k ≠ some .reserved) :
    Matched { d with register := r, slots := d.slots.erase k } := by
  refine h.of_key (fun j hj => ⟨others j hj, List.count_erase_of_ne hj⟩) ?_ _
  rw [List.count_erase_self, h k, if_pos reserved, if_neg after]

theorem matched_moved {p : Desk × List Event} (h : d.Matched) (hm : Moved d p) :
    p.1.Matched ∧ ∀ k call, .lost k call ∉ p.2 := by
  cases hm with
  | won k vacant =>
      refine ⟨?_, by simp⟩
      refine h.of_key (k := k) (fun j hj => ⟨Register.entry?_insert_of_ne _ _ hj,
        List.count_cons_of_ne hj.symm⟩) ?_ _
      rw [List.count_cons_self, h k, vacant]
      simp
  | registered k call slot reserved =>
      refine ⟨?_, by simp⟩
      exact h.use_slot reserved (fun j hj => Register.entry?_insert_of_ne _ _ hj) (by simp)
  | lost k call slot gone => exact absurd (h.mem_iff.mp slot) gone
  | abandoned k slot reserved =>
      refine ⟨?_, by simp⟩
      exact h.use_slot reserved (fun j hj => Register.entry?_erase_of_ne _ hj) (by simp)
  | abandonedLate k slot gone => exact absurd (h.mem_iff.mp slot) gone
  | released k live | releasedCall k call live => exact ⟨h.erase_live live, by simp⟩
  | refused | releasedNothing | stale | cancelled => exact ⟨h, by simp⟩

theorem Matched.occupy {call : CallId} (h : d.Matched) (slot : k ∈ d.slots) :
    d.occupy k call = ({ d with
      register := ⟨d.register.entries.insert k (.live call)⟩, slots := d.slots.erase k },
      [.registered k call]) := by
  unfold Desk.occupy
  rcases d.register.occupy_cases k call with ⟨-, ha, hs⟩ | ⟨gone, -, -⟩
  · simp [ha, hs]
  · exact absurd (h.mem_iff.mp slot) gone

/-- **Reservations and slots correspond.** However the operations of the clients interleave, a key
is reserved if and only if one slot for it is neither occupied nor dropped, and a key that is vacant
or live has none. So every occupy turns its own reservation into the live entry of its call: no
reservation is ever lost, no call is cancelled by an occupy, and no live entry is overwritten. -/
theorem reserved_iff_slot {ms : List Move} {log : List Event}
    (h : run {} ms = some (d, log)) :
    (∀ k, d.register.entry? k = some .reserved ↔ d.slots.count k = 1) ∧
    (∀ k, (d.register.entry? k = none ∨ ∃ call, d.register.entry? k = some (.live call)) →
      d.slots.count k = 0) ∧
    (∀ k call, k ∈ d.slots → ∃ d', d.step (.occupy k call) = some (d', [.registered k call]) ∧
      d'.register.entry? k = some (.live call) ∧ d'.cancelled = d.cancelled ∧
      (∀ j, j ≠ k → d'.register.entry? j = d.register.entry? j) ∧
      ∀ j other, d.register.entry? j = some (.live other) →
        d'.register.entry? j = some (.live other)) ∧
    (∀ k call, .lost k call ∉ log) := by
  have inv : d.Matched ∧ ∀ k call, .lost k call ∉ log := by
    refine run_invariant (P := fun d log => d.Matched ∧ ∀ k call, .lost k call ∉ log) ?_ h
      ⟨matched_empty, fun _ _ => List.not_mem_nil⟩
    rintro d before p ⟨matched, found⟩ hm
    obtain ⟨matched', found'⟩ := matched_moved matched hm
    refine ⟨matched', fun k call he => ?_⟩
    rcases List.mem_append.mp he with he | he
    · exact found k call he
    · exact found' k call he
  obtain ⟨matched, found⟩ := inv
  refine ⟨fun k => matched.reserved_iff, ?_, ?_, found⟩
  · intro k free
    refine List.count_eq_zero.mpr fun slot => ?_
    have reserved := matched.mem_iff.mp slot
    rcases free with vacant | ⟨call, live⟩
    · simp [reserved] at vacant
    · simp [reserved] at live
  · intro k call slot
    have others : ∀ j, j ≠ k →
        Register.entry? ⟨d.register.entries.insert k (.live call)⟩ j = d.register.entry? j :=
      fun j hj => Register.entry?_insert_of_ne _ _ hj
    refine ⟨⟨⟨d.register.entries.insert k (.live call)⟩, d.slots.erase k, d.cancelled⟩, ?_,
      Register.entry?_insert_self _ _ _, rfl, others, ?_⟩
    · rw [step, if_pos slot, matched.occupy slot]
    · intro j other live
      -- The key of a slot is reserved, so it is not the one that is live.
      have hj : j ≠ k := by
        rintro rfl
        rw [matched.mem_iff.mp slot] at live
        simp at live
      rw [others j hj]
      exact live

/-- A release during a reservation, a second client, and a slot that is dropped after its key has
been released by someone else. -/
def reservationMoves : List Move :=
  [.reserve (.number 1), .release (.number 1), .reserve (.number 1), .occupy (.number 1) ⟨7⟩,
    .release (.number 1), .reserve (.number 1), .reserve (.text "b"), .releaseCall (.number 1) ⟨7⟩]

theorem reserved_iff_slot_moves : ∃ d log, run {} reservationMoves = some (d, log) ∧
    d.register.entry? (.number 1) = some .reserved ∧ d.slots.count (.number 1) = 1 ∧
    ∃ d', d.step (.occupy (.number 1) ⟨8⟩) = some (d', [.registered (.number 1) ⟨8⟩]) ∧
      d'.register.entry? (.number 1) = some (.live ⟨8⟩) := by
  have h : run {} reservationMoves = some (_, _) := rfl
  obtain ⟨reserved, -, occupies, -⟩ := reserved_iff_slot h
  obtain ⟨d', hstep, hlive, -⟩ := occupies (.number 1) ⟨8⟩ (by decide)
  exact ⟨_, _, h, rfl, (reserved _).mp rfl, d', hstep, hlive⟩

end Desk

end Admission

end CallBridge
