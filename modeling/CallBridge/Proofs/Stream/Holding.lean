import CallBridge.Proofs.Stream.Overtaking

/-!
# Streams that hold every item

A stream whose callbacks hold all of its items waits for a take after each of them. No delivery
drops an item or reads on by itself, so no read overtakes a take and nothing is lost: what was
accepted has been taken, but for the one item that is in the place or about to get there.
-/

namespace CallBridge

namespace Exchange

open Session (Ending)

variable {α : Type} {s : Exchange α} {log : List (Event α)} {m : Move α}
  {q : Exchange α × List (Event α)}

/-- The move is not the end of a callback that consumes its item. -/
def Move.Holds (m : Move α) : Prop := ∀ e, m = .leave e → e.consumes = false

/-- What every callback that holds its item keeps. -/
structure Held (s : Exchange α) (log : List (Event α)) : Prop where
  orderly : Orderly s
  stops : ∀ p, s.delivery ≠ some (p, .discarding) ∧ s.delivery ≠ some (p, .refetching)
  nothing_lost : accepted log = taken log ++ s.stream.cell.item.toList ++ s.pending

theorem held_fresh (id : CallId) (timeout : Option Nat) : Held (fresh id timeout : Exchange α) [] :=
  ⟨⟨.vacant rfl rfl rfl rfl, rfl, nofun, nofun⟩, fun _ => ⟨nofun, nofun⟩, rfl⟩

/-- Only a delivery that reads on overtakes. -/
theorem orderly_of_held (h : Held s log) (hm : Moved s m q) (holds : m.Holds) : Orderly q.1 := by
  refine orderly_moved h.orderly hm ?_
  cases hm with
  | refetched p stage => exact absurd stage (h.stops p).2
  | attached | resumed => simp [asks]
  | _ => simp

theorem stops_of_held (h : Held s log) (hm : Moved s m q) (holds : m.Holds) :
    ∀ p, q.1.delivery ≠ some (p, .discarding) ∧ q.1.delivery ≠ some (p, .refetching) := by
  cases hm with
  | accepted | published => exact fun _ => ⟨nofun, nofun⟩
  | left p e =>
      have stops := holds e rfl
      intro p'
      simp [stops]
  | discarded p stage => exact absurd stage (h.stops p).1
  | refetched p stage => exact absurd stage (h.stops p).2
  | _ => exact h.stops

theorem Held.balance (h : Held s log) (item : q.1.stream.cell.item = s.stream.cell.item)
    (pending : q.1.pending = s.pending) (accepts : accepted q.2 = []) (takes : taken q.2 = []) :
    accepted (log ++ q.2) =
      taken (log ++ q.2) ++ q.1.stream.cell.item.toList ++ q.1.pending := by
  rw [accepted_append, taken_append, accepts, takes, List.append_nil, List.append_nil, item,
    pending]
  exact h.nothing_lost

theorem nothing_lost_of_held (h : Held s log) (hm : Moved s m q) (holds : m.Holds) :
    accepted (log ++ q.2) =
      taken (log ++ q.2) ++ q.1.stream.cell.item.toList ++ q.1.pending := by
  have balance := h.nothing_lost
  cases hm with
  | accepted p x idle =>
      simp [balance, pending, idle]
  | published p x stage =>
      have waits : s.pending ≠ [] := by simp [pending, stage]
      obtain ⟨-, item, -, -⟩ := h.orderly.place.vacant_of_pending waits
      simp [balance, item, pending, stage]
  | left p e stage =>
      have stops := holds e rfl
      exact h.balance rfl (by simp [pending, stage, stops]) rfl rfl
  | discarded p stage => exact absurd stage (h.stops p).1
  | refetched p stage => exact absurd stage (h.stops p).2
  | took p due claim =>
      simp [balance, pending]
  | attached | resumed => exact h.balance (by simp) rfl (by simp) (by simp)
  | launched | refused | rejected | closed | ended | ignored | claimed | missed | cancelled =>
      exact h.balance rfl rfl rfl rfl

theorem held_moved (h : Held s log) (hm : Moved s m q) (holds : m.Holds) :
    Held q.1 (log ++ q.2) :=
  ⟨orderly_of_held h hm holds, stops_of_held h hm holds, nothing_lost_of_held h hm holds⟩

/-- A start that breaks off leaves the item and the takes alone. -/
theorem Held.overflow (h : Held s log) : Held { s with stream := s.stream.overflow } log :=
  ⟨h.orderly.quiet rfl rfl rfl rfl rfl rfl rfl id, h.stops, h.nothing_lost⟩

/-! ## The place is the takes' -/

/-- A take that is answered with nothing. -/
@[simp] def Event.isMiss : Event α → Bool
  | missed _ | took _ _ none => true
  | _ => false

/-- The place of the item and the takes stay as they are. -/
structure Untouched (s : Exchange α) (q : Exchange α × List (Event α)) : Prop where
  item : q.1.stream.cell.item = s.stream.cell.item
  claims : q.1.claims = s.claims
  resuming : q.1.resuming = s.resuming
  takes : taken q.2 = []
  misses : ∀ e ∈ q.2, e.isMiss = false

/-- Moves that are neither part of a take nor of a delivery under way. -/
def Move.isElsewhere : Move α → Bool
  | .launch | .attach _ | .accept _ _ | .closeReads | .finish _ | .cancel => true
  | _ => false

theorem untouched_moved (hm : Moved s m q) (elsewhere : m.isElsewhere = true) : Untouched s q := by
  cases hm with
  | attached => exact ⟨by simp, rfl, rfl, by simp, by simp [asks]⟩
  | launched | refused | accepted | rejected | closed | ended | ignored | cancelled =>
      exact ⟨rfl, rfl, rfl, rfl, by simp⟩
  | published | left | discarded | refetched | claimed | missed | took | resumed =>
      simp [Move.isElsewhere] at elsewhere

end Exchange

end CallBridge
