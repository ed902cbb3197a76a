import CallBridge.Proofs.Stream.Session

/-!
# What becomes of each item, told from a log alone

A ledger has one entry for each accepted item, the newest first, with what has become of it. It is
kept by rules that know nothing of cells, flags and phases: an item is accepted when nothing is
open, and shown to its callback; it is dropped when that callback consumes it, and waits when the
callback holds it or breaks off; the first take after that returns it. A take of another thread may
claim an item that its callback still sees, and then returns it when the callback is over.

The rules refuse every event that does not fit: a second callback for an item, an item out of turn,
a take that comes back with something else or empty-handed when an item waits. That the log of a
stream can always be entered is shown in `CallBridge.Proofs.Stream.Handover`. What is drawn from the
rules here holds of any log that can be.
-/

namespace CallBridge

namespace Session

variable {α : Type}

/-- What has become of an accepted item. -/
inductive Fate where
  | arrived
  | inspected
  | claimed
  /-- Its callback is over, and the take that has waited for that goes on next. -/
  | due
  | waiting
  | returned
  | dropped
deriving DecidableEq, Repr

namespace Fate

/-- Nothing more will become of the item. -/
def isFinal : Fate → Bool
  | returned | dropped => true
  | arrived | inspected | claimed | due | waiting => false

/-- The callback of the item is running. -/
def isShown : Fate → Bool
  | inspected | claimed => true
  | arrived | due | waiting | returned | dropped => false

/-- A callback has begun with the item. -/
def wasShown : Fate → Bool
  | arrived => false
  | _ => true

/-- A take is to return the item. -/
def isKept : Fate → Bool
  | waiting | due => true
  | _ => false

end Fate

namespace Event

/-- Events that are about no item. -/
def isAside : Event α → Bool
  | launched | refused _ | asked _ _ | rejected _ | closed | ended _ => true
  | accepted _ | shown _ | left _ | claimed | took _ | tookLate _ => false

/-- What a take was answered. -/
def answer? : Event α → Option (Option α)
  | took a | tookLate a => some a
  | _ => none

end Event

/-- Accepted items and their fates, the newest first. -/
abbrev Ledger (α : Type) := List (α × Fate)

namespace Ledger

def items (l : Ledger α) : List α := (l.map Prod.fst).reverse

/-- Those with a fate of some kind, in the same order. -/
def having (p : Fate → Bool) (l : Ledger α) : List α := items (l.filter fun e => p e.2)

/-- All that was ever accepted is returned or dropped. -/
def Settled (l : Ledger α) : Prop := ∀ e ∈ l, e.2.isFinal = true

variable {l : Ledger α} {x : α} {f : Fate} {p : Fate → Bool}

@[simp] theorem items_cons : items ((x, f) :: l) = l.items ++ [x] := by simp [items]

@[simp] theorem having_cons :
    having p ((x, f) :: l) = l.having p ++ if p f then [x] else [] := by
  cases hp : p f <;> simp [having, items, hp]

theorem having_sublist (p : Fate → Bool) (l : Ledger α) : (l.having p).Sublist l.items :=
  (List.filter_sublist.map Prod.fst).reverse

theorem settled_nil : Settled ([] : Ledger α) := by simp [Settled]

@[simp] theorem settled_cons : Settled ((x, f) :: l) ↔ f.isFinal = true ∧ l.Settled := by
  simp [Settled]

theorem having_of_settled (h : l.Settled) (hp : ∀ f, f.isFinal = true → p f = false) :
    l.having p = [] := by
  induction l with
  | nil => rfl
  | cons e l ih =>
      obtain ⟨final, older⟩ := settled_cons.mp h
      rw [having_cons, ih older, hp _ final]
      rfl

/-- What an event does to the ledger. -/
inductive Enters : Ledger α → Event α → Ledger α → Prop where
  | accepted {l : Ledger α} (x : α) (older : l.Settled) :
      Enters l (.accepted x) ((x, .arrived) :: l)
  | shown {l : Ledger α} {x : α} : Enters ((x, .arrived) :: l) (.shown x) ((x, .inspected) :: l)
  | claimed {l : Ledger α} {x : α} : Enters ((x, .inspected) :: l) .claimed ((x, .claimed) :: l)
  | consumed {l : Ledger α} {x : α} {e : Ending} (consumes : e.consumes = true) :
      Enters ((x, .inspected) :: l) (.left e) ((x, .dropped) :: l)
  | kept {l : Ledger α} {x : α} {e : Ending} (keeps : e.consumes = false) :
      Enters ((x, .inspected) :: l) (.left e) ((x, .waiting) :: l)
  | finished {l : Ledger α} {x : α} {e : Ending} :
      Enters ((x, .claimed) :: l) (.left e) ((x, .due) :: l)
  | took {l : Ledger α} {x : α} :
      Enters ((x, .waiting) :: l) (.took (some x)) ((x, .returned) :: l)
  | tookLate {l : Ledger α} {x : α} :
      Enters ((x, .due) :: l) (.tookLate (some x)) ((x, .returned) :: l)
  | tookNone {l : Ledger α} (nothing : l.having Fate.isKept = []) : Enters l (.took none) l
  | aside {l : Ledger α} {e : Event α} (aside : e.isAside = true) : Enters l e l

/-- What a log does to the ledger. -/
inductive Books : Ledger α → List (Event α) → Ledger α → Prop where
  | nil {l : Ledger α} : Books l [] l
  | cons {l l' l'' : Ledger α} {e : Event α} {es : List (Event α)} (first : Enters l e l')
      (rest : Books l' es l'') : Books l (e :: es) l''

theorem Enters.books {l' : Ledger α} {e : Event α} (h : Enters l e l') : Books l [e] l' :=
  .cons h .nil

theorem Books.append {l' l'' : Ledger α} {es es' : List (Event α)} (h : Books l es l')
    (h' : Books l' es' l'') : Books l (es ++ es') l'' := by
  induction h with
  | nil => exact h'
  | cons first _ ih => exact .cons first (ih h')

theorem Books.split {l'' : Ledger α} {es es' : List (Event α)} (h : Books l (es ++ es') l'') :
    ∃ l', Books l es l' ∧ Books l' es' l'' := by
  induction es generalizing l with
  | nil => exact ⟨l, .nil, h⟩
  | cons e es ih =>
      cases h with
      | cons first rest =>
          obtain ⟨l', before, after⟩ := ih rest
          exact ⟨l', .cons first before, after⟩

theorem books_of_aside {es : List (Event α)} (h : ∀ e ∈ es, e.isAside = true) : Books l es l := by
  induction es with
  | nil => exact .nil
  | cons e es ih =>
      obtain ⟨he, hes⟩ := List.forall_mem_cons.mp h
      exact .cons (.aside he) (ih hes)

theorem Enters.unique {l' l'' : Ledger α} {e : Event α} (h : Enters l e l')
    (h' : Enters l e l'') : l' = l'' := by
  cases h <;> cases h' <;> simp_all [Event.isAside]

theorem Books.unique {l' l'' : Ledger α} {es : List (Event α)} (h : Books l es l')
    (h' : Books l es l'') : l' = l'' := by
  induction h with
  | nil =>
      cases h'
      rfl
  | cons first _ ih =>
      cases h' with
      | cons first' rest' =>
          obtain rfl := first.unique first'
          exact ih rest'

end Ledger

/-! ## Items in a log -/

def accepts (log : List (Event α)) : List α :=
  log.filterMap fun | .accepted x => some x | _ => none

def shows (log : List (Event α)) : List α :=
  log.filterMap fun | .shown x => some x | _ => none

def returns (log : List (Event α)) : List α :=
  log.filterMap fun | .took a | .tookLate a => a | _ => none

namespace Ledger

variable {l l' l'' : Ledger α} {e : Event α} {es es' : List (Event α)}

/-- What a ledger says of the items that have come into a log since another ledger. -/
structure Agrees (l l' : Ledger α) (es : List (Event α)) : Prop where
  accepts : l'.items = l.items ++ accepts es
  shows : l'.having Fate.wasShown = l.having Fate.wasShown ++ shows es
  returns : l'.having (· = .returned) = l.having (· = .returned) ++ returns es

theorem Enters.agrees (h : Enters l e l') : Agrees l l' [e] := by
  cases h with
  | aside aside =>
      cases e with
      | launched | refused | asked | rejected | closed | ended =>
          exact ⟨by simp [Session.accepts], by simp [Session.shows], by simp [Session.returns]⟩
      | accepted | shown | left | claimed | took | tookLate => simp [Event.isAside] at aside
  | accepted | shown | claimed | consumed | kept | finished | took | tookLate | tookNone =>
      exact ⟨by simp [Session.accepts], by simp [Session.shows, Fate.wasShown],
        by simp [Session.returns]⟩

theorem Agrees.trans (h : Agrees l l' es) (h' : Agrees l' l'' es') : Agrees l l'' (es ++ es') where
  accepts := by simp [h'.accepts, h.accepts, Session.accepts]
  shows := by simp [h'.shows, h.shows, Session.shows]
  returns := by simp [h'.returns, h.returns, Session.returns]

theorem Books.agrees (h : Books l es l') : Agrees l l' es := by
  induction h with
  | nil => exact ⟨by simp [Session.accepts], by simp [Session.shows], by simp [Session.returns]⟩
  | cons first _ ih => exact first.agrees.trans ih

/-! ## Consequences of the rules -/

/-- Only the newest item can be open. -/
theorem Enters.older (h : Enters l e l') (older : Settled l.tail) : Settled l'.tail := by
  cases h with
  | accepted x settled => exact settled
  | shown | claimed | consumed | kept | finished | took | tookLate | tookNone | aside => exact older

theorem Books.older (h : Books l es l') (older : Settled l.tail) : Settled l'.tail := by
  induction h with
  | nil => exact older
  | cons first _ ih => exact ih (first.older older)

/-- While an item is kept for a take, nothing moves the ledger until a take is answered. -/
theorem Enters.keeps {x : α} {f : Fate} (h : Enters ((x, f) :: l) e l') (kept : f.isKept = true)
    (no_take : e.answer? = none) : l' = (x, f) :: l := by
  cases h with
  -- Nothing is accepted while an item is open, so an item that is kept blocks the next one.
  | accepted y settled =>
      have final : f.isFinal = true := (settled_cons.mp settled).1
      cases f <;> simp [Fate.isKept, Fate.isFinal] at kept final
  | shown | claimed | consumed | kept | finished => simp [Fate.isKept] at kept
  | took | tookLate | tookNone => simp [Event.answer?] at no_take
  | aside => rfl

theorem Books.keeps {x : α} {f : Fate} (h : Books ((x, f) :: l) es l') (kept : f.isKept = true)
    (no_take : ∀ e ∈ es, e.answer? = none) : l' = (x, f) :: l := by
  induction es generalizing l' with
  | nil =>
      cases h
      rfl
  | cons e es ih =>
      obtain ⟨he, hes⟩ := List.forall_mem_cons.mp no_take
      cases h with
      | cons first rest =>
          obtain rfl := first.keeps kept he
          exact ih rest hes

/-- The take that is answered then returns the item. -/
theorem Books.next_take {x : α} {f : Fate} {mid post : List (Event α)} {t : Event α}
    {a : Option α} (h : Books ((x, f) :: l) (mid ++ t :: post) l') (kept : f.isKept = true)
    (no_take : ∀ m ∈ mid, m.answer? = none) (answered : t.answer? = some a) : a = some x := by
  obtain ⟨l₁, during, after⟩ := h.split
  obtain rfl := during.keeps kept no_take
  cases after with
  | cons take _ =>
      cases take with
      | took | tookLate => simpa [Event.answer?] using answered.symm
      | tookNone nothing => simp [kept] at nothing
      | aside aside => cases t <;> simp [Event.isAside, Event.answer?] at aside answered
      | accepted | shown | claimed | consumed | kept | finished => simp [Event.answer?] at answered

/-- **The first take returns what was kept.** When a callback has ended with a hold or a panic, the
first take that is answered after that returns the item that the callback has seen. -/
theorem Books.first_take {pre mid post : List (Event α)} {e : Ending} {t : Event α} {a : Option α}
    (h : Books [] (pre ++ .left e :: (mid ++ t :: post)) l) (keeps : e.consumes = false)
    (no_take : ∀ m ∈ mid, m.answer? = none) (answered : t.answer? = some a) :
    a = (shows pre).getLast? := by
  obtain ⟨l₁, before, rest⟩ := h.split
  cases rest with
  | cons left rest =>
      have seen : l₁.having Fate.wasShown = shows pre := before.agrees.shows
      -- The callback that has ended was that of the newest item, which is the last one shown.
      cases left with
      | consumed consumes => simp [keeps] at consumes
      | kept | finished =>
          rw [rest.next_take rfl no_take answered, ← seen]
          simp [Fate.wasShown]
      | aside aside => simp [Event.isAside] at aside

end Ledger

end Session

end CallBridge
