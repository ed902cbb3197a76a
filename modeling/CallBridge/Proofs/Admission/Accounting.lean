import CallBridge.Proofs.Admission.Reservation

/-!
# Every admission is given back once

A key is won by a reserve. It is given back when its slot is dropped unused or its live call is
released, and by nothing else: a release that finds nothing to release gives nothing back, and the
slot of a reservation that has become a live call is used up. So the answers of the register tell
whether a key is busy: it is if it was won once more often than it was given back, and there is no
third possibility.

That a dropped slot always gives its key back is not the register's doing alone. It rests on
`Matched`: whoever holds a slot finds its reservation.
-/

namespace CallBridge

namespace Admission

namespace Desk

/-! ## What the answers say of one key -/

namespace Event

/-- The key was won. -/
def admits (k : Key) : Event → Bool
  | won j => j = k
  | _ => false

/-- The key was given back: its slot was dropped unused, or its live call was released. -/
def frees (k : Key) : Event → Bool
  | abandoned j => j = k
  | released j (some _) => j = k
  | releasedCall j _ true => j = k
  | _ => false

end Event

def admissions (k : Key) (log : List Event) : Nat := log.countP (Event.admits k)

def clearances (k : Key) (log : List Event) : Nat := log.countP (Event.frees k)

@[simp] theorem admissions_append (k : Key) (log es : List Event) :
    admissions k (log ++ es) = admissions k log + admissions k es := List.countP_append

@[simp] theorem clearances_append (k : Key) (log es : List Event) :
    clearances k (log ++ es) = clearances k log + clearances k es := List.countP_append

@[simp] theorem admissions_singleton (k : Key) (e : Event) :
    admissions k [e] = (e.admits k).toNat := by
  cases h : e.admits k <;> simp [admissions, h]

@[simp] theorem clearances_singleton (k : Key) (e : Event) :
    clearances k [e] = (e.frees k).toNat := by
  cases h : e.frees k <;> simp [clearances, h]

/-! ## One operation -/

variable {d : Desk} {k : Key}

theorem isBusy_of_entry {r r' : Register} (h : r'.entry? k = r.entry? k) :
    r'.isBusy k = r.isBusy k := by
  rw [Register.isBusy, Register.isBusy, h]

/-- What an operation takes from a key and gives to it is the difference that it makes. -/
def Settles (d : Desk) (p : Desk × List Event) (k : Key) : Prop :=
  (d.register.isBusy k).toNat + admissions k p.2 =
    (p.1.register.isBusy k).toNat + clearances k p.2

theorem settles_erase {d' : Desk} {j : Key} {e : Event} (register : d'.register =
    ⟨d.register.entries.erase j⟩) (taken : (d.register.entry? j).isSome)
    (admits : e.admits k = false) (frees : e.frees k = decide (j = k)) :
    Settles d (d', [e]) k := by
  simp only [Settles, admissions_singleton, clearances_singleton, admits, frees, register]
  by_cases this : j = k
  · subst this
    simp [Register.isBusy, taken]
  · rw [isBusy_of_entry (Register.entry?_erase_of_ne _ (Ne.symm this))]
    simp [this]

theorem settles_moved {p : Desk × List Event} (matched : d.Matched) (hm : Moved d p) (k : Key) :
    Settles d p k := by
  cases hm with
  | won j vacant =>
      simp only [Settles, admissions_singleton, clearances_singleton, Event.admits, Event.frees]
      by_cases this : j = k
      · subst this
        simp [Register.isBusy, vacant]
      · rw [isBusy_of_entry (Register.entry?_insert_of_ne _ _ (Ne.symm this))]
        simp [this]
  | registered j call slot reserved =>
      simp only [Settles, admissions_singleton, clearances_singleton, Event.admits, Event.frees]
      by_cases this : j = k
      · subst this
        simp [Register.isBusy, reserved]
      · rw [isBusy_of_entry (Register.entry?_insert_of_ne _ _ (Ne.symm this))]
  | lost j call slot gone | abandonedLate j slot gone => exact absurd (matched.mem_iff.mp slot) gone
  | abandoned j slot reserved => exact settles_erase rfl (by simp [reserved]) rfl rfl
  | released j live | releasedCall j call live => exact settles_erase rfl (by simp [live]) rfl rfl
  | refused | releasedNothing | stale | cancelled =>
      simp [Settles, Event.admits, Event.frees]

theorem step_reserve_busy (busy : d.register.isBusy k = true) :
    d.step (.reserve k) =
      some (d, [.refused k (.busy k.shape (d.register.live? k))]) := by
  obtain ⟨e, taken⟩ := Option.isSome_iff_exists.mp busy
  rcases d.register.reserve_cases k with ⟨vacant, -, -⟩ | ⟨e', taken', ha, hs⟩
  · simp [taken] at vacant
  · simp [step, reserve, ha, hs, Register.live?, taken']

theorem step_reserve_vacant (vacant : d.register.isBusy k = false) :
    ∃ d', d.step (.reserve k) = some (d', [.won k]) ∧
      d'.register.entry? k = some .reserved := by
  rcases d.register.reserve_cases k with ⟨-, ha, hs⟩ | ⟨e, taken, -, -⟩
  · exact ⟨{ d with register := ⟨d.register.entries.insert k .reserved⟩, slots := k :: d.slots },
      by simp [step, reserve, ha, hs], by simp⟩
  · simp [Register.isBusy, taken] at vacant

/-! ## Runs -/

/-- The answers so far add up to the entry of each key. -/
structure Accounted (d : Desk) (log : List Event) : Prop where
  matched : d.Matched
  balance : ∀ k, admissions k log = (d.register.isBusy k).toNat + clearances k log

theorem accounted_moved {log : List Event} {p : Desk × List Event} (h : Accounted d log)
    (hm : Moved d p) : Accounted p.1 (log ++ p.2) where
  matched := (matched_moved h.matched hm).1
  balance k := by
    have settles := settles_moved h.matched hm k
    have balance := h.balance k
    rw [Settles] at settles
    rw [admissions_append, clearances_append]
    omega

theorem accounted_of_run {ms : List Move} {log : List Event} (h : run {} ms = some (d, log)) :
    Accounted d log := by
  show Accounted d ([] ++ log)
  refine run_invariant (P := Accounted) accounted_moved h ⟨matched_empty, fun k => ?_⟩
  simp [Register.isBusy, Register.entry?, admissions, clearances]

/-- **Admissions add up.** However the operations of the clients interleave: a busy key was won once
more often than it was given back, and a key that is not busy as often as it was given back. A
reserve of a busy key is refused with the call that is live under it, or with none while it is only
reserved, and leaves everything as it is; any other reserve wins its key. No operation changes the
entry of another key. -/
theorem admissions_balance {ms : List Move} {log : List Event} (h : run {} ms = some (d, log)) :
    (∀ k, (admissions k log : Int) - clearances k log =
      if d.register.isBusy k then 1 else 0) ∧
    (∀ k, d.register.isBusy k = true → d.step (.reserve k) =
      some (d, [.refused k (.busy k.shape (d.register.live? k))])) ∧
    (∀ k, d.register.isBusy k = false → ∃ d', d.step (.reserve k) = some (d', [.won k]) ∧
      d'.register.entry? k = some .reserved) ∧
    (∀ m d' es, d.step m = some (d', es) →
      ∀ k, m.key? ≠ some k → d'.register.entry? k = d.register.entry? k) := by
  have accounted := accounted_of_run h
  refine ⟨fun k => ?_, fun k => step_reserve_busy, fun k => step_reserve_vacant,
    fun m d' es hstep k => entry?_of_step hstep⟩
  rw [accounted.balance k]
  cases d.register.isBusy k <;> simp

/-- Key 1 is won three times: its first slot is dropped, its second call released by name after a
stale release, and its third call is live. Key "b" is reserved. -/
def accountingMoves : List Move :=
  [.reserve (.number 1), .release (.number 1), .abandon (.number 1), .reserve (.number 1),
    .reserve (.number 1), .occupy (.number 1) ⟨7⟩, .releaseCall (.number 1) ⟨6⟩,
    .releaseCall (.number 1) ⟨7⟩, .releaseCall (.number 1) ⟨7⟩, .reserve (.number 1),
    .reserve (.text "b"), .occupy (.number 1) ⟨8⟩, .cancelAll]

theorem admissions_balance_moves : ∃ d log, run {} accountingMoves = some (d, log) ∧
    admissions (.number 1) log = 3 ∧
    (admissions (.number 1) log : Int) - clearances (.number 1) log = 1 ∧
    d.step (.reserve (.number 1)) =
      some (d, [.refused (.number 1) (.busy (Key.number 1).shape (some ⟨8⟩))]) ∧
    d.step (.reserve (.text "b")) =
      some (d, [.refused (.text "b") (.busy (Key.text "b").shape none)]) := by
  have h : run {} accountingMoves = some (_, _) := rfl
  obtain ⟨balance, busy, -, -⟩ := admissions_balance h
  exact ⟨_, _, h, rfl, balance (.number 1), busy (.number 1) rfl, busy (.text "b") rfl⟩

end Desk

end Admission

end CallBridge
