import CallBridge.Admission
import CallBridge.Proofs.Run

/-!
# The desk: a register and its clients

Any number of clients use one register at the same time. Each operation takes effect at one moment,
so what they do together is a list of operations in some order. A client that won a key has a slot
for it, which it occupies or drops, once; what it does in between is not described by anything.

A desk is a register with the keys of the slots that were neither occupied nor dropped, and the
calls that were asked to stop.
-/

namespace CallBridge

namespace Admission

namespace Desk

inductive Move where
  | reserve (key : Key)
  | occupy (key : Key) (call : CallId)
  | abandon (key : Key)
  | release (key : Key)
  | releaseCall (key : Key) (call : CallId)
  | cancelAll
deriving DecidableEq, Repr

inductive Event where
  | won (key : Key)
  | refused (key : Key) (fault : Fault)
  | registered (key : Key) (call : CallId)
  /-- The reservation was gone; the call is asked to stop. -/
  | lost (key : Key) (call : CallId)
  | abandoned (key : Key)
  | released (key : Key) (call : Option CallId)
  | releasedCall (key : Key) (call : CallId) (done : Bool)
  | cancelled (calls : List CallId)
deriving DecidableEq, Repr

end Desk

/-- A register, the slots its clients hold, and the calls that were asked to stop. -/
structure Desk where
  register : Register := {}
  /-- The keys of the slots that were neither occupied nor dropped. -/
  slots : List Key := []
  cancelled : List CallId := []

namespace Desk

def reserve (d : Desk) (k : Key) : Desk × List Event :=
  let o := d.register.reserve k
  match o.answer with
  | .ok () => ({ d with register := o.state, slots := k :: d.slots }, [.won k])
  | .error f => ({ d with register := o.state }, [.refused k f])

/-- The slot is used up either way. -/
def occupy (d : Desk) (k : Key) (call : CallId) : Desk × List Event :=
  let o := d.register.occupy k call
  let d := { d with register := o.state, slots := d.slots.erase k }
  if o.answer then (d, [.registered k call])
  else ({ d with cancelled := call :: d.cancelled }, [.lost k call])

/-- One operation and how it was answered; nothing when it needs a slot that nobody holds. -/
def step (d : Desk) : Move → Option (Desk × List Event)
  | .reserve k => some (d.reserve k)
  | .occupy k call => if k ∈ d.slots then some (d.occupy k call) else none
  | .abandon k =>
    if k ∈ d.slots then
      some ({ d with register := (d.register.abandon k).state, slots := d.slots.erase k },
        [.abandoned k])
    else none
  | .release k =>
    let o := d.register.release k
    some ({ d with register := o.state }, [.released k o.answer])
  | .releaseCall k call =>
    let o := d.register.releaseCall k call
    some ({ d with register := o.state }, [.releasedCall k call o.answer])
  | .cancelAll =>
    some ({ d with cancelled := d.register.liveCalls ++ d.cancelled },
      [.cancelled d.register.liveCalls])

def run (d : Desk) (ms : List Move) : Option (Desk × List Event) := runWith step d ms

/-! ## What an operation can come to -/

inductive Moved (d : Desk) : Desk × List Event → Prop where
  | won (k : Key) (vacant : d.register.entry? k = none) :
      Moved d ({ d with
        register := ⟨d.register.entries.insert k .reserved⟩, slots := k :: d.slots }, [.won k])
  | refused (k : Key) {e : Entry} (taken : d.register.entry? k = some e) :
      Moved d (d, [.refused k (.busy k.shape e.call?)])
  | registered (k : Key) (call : CallId) (slot : k ∈ d.slots)
      (reserved : d.register.entry? k = some .reserved) :
      Moved d ({ d with
        register := ⟨d.register.entries.insert k (.live call)⟩, slots := d.slots.erase k },
        [.registered k call])
  | lost (k : Key) (call : CallId) (slot : k ∈ d.slots)
      (gone : d.register.entry? k ≠ some .reserved) :
      Moved d ({ d with slots := d.slots.erase k, cancelled := call :: d.cancelled },
        [.lost k call])
  | abandoned (k : Key) (slot : k ∈ d.slots) (reserved : d.register.entry? k = some .reserved) :
      Moved d ({ d with
        register := ⟨d.register.entries.erase k⟩, slots := d.slots.erase k }, [.abandoned k])
  | abandonedLate (k : Key) (slot : k ∈ d.slots)
      (gone : d.register.entry? k ≠ some .reserved) :
      Moved d ({ d with slots := d.slots.erase k }, [.abandoned k])
  | released (k : Key) {call : CallId} (live : d.register.entry? k = some (.live call)) :
      Moved d ({ d with register := ⟨d.register.entries.erase k⟩ }, [.released k (some call)])
  | releasedNothing (k : Key) (idle : ∀ call, d.register.entry? k ≠ some (.live call)) :
      Moved d (d, [.released k none])
  | releasedCall (k : Key) (call : CallId) (live : d.register.entry? k = some (.live call)) :
      Moved d ({ d with register := ⟨d.register.entries.erase k⟩ }, [.releasedCall k call true])
  | stale (k : Key) (call : CallId) (other : d.register.entry? k ≠ some (.live call)) :
      Moved d (d, [.releasedCall k call false])
  | cancelled :
      Moved d ({ d with cancelled := d.register.liveCalls ++ d.cancelled },
        [.cancelled d.register.liveCalls])

theorem moved_reserve (d : Desk) (k : Key) : Moved d (d.reserve k) := by
  unfold reserve
  rcases d.register.reserve_cases k with ⟨vacant, ha, hs⟩ | ⟨e, taken, ha, hs⟩ <;>
    simp only [ha, hs]
  · exact .won k vacant
  · exact .refused k taken

theorem moved_occupy {d : Desk} {k : Key} (slot : k ∈ d.slots) (call : CallId) :
    Moved d (d.occupy k call) := by
  unfold occupy
  rcases d.register.occupy_cases k call with ⟨reserved, ha, hs⟩ | ⟨gone, ha, hs⟩
  · simp only [ha, hs, if_true]
    exact .registered k call slot reserved
  · simp only [ha, hs, Bool.false_eq_true, if_false]
    exact .lost k call slot gone

theorem moved_of_step {d : Desk} {m : Move} {p : Desk × List Event} (h : d.step m = some p) :
    Moved d p := by
  cases m with
  | reserve k => exact Option.some.inj h ▸ moved_reserve d k
  | occupy k call =>
      obtain ⟨slot, h⟩ := Option.ite_none_right_eq_some.mp h
      obtain rfl := Option.some.inj h
      exact moved_occupy slot call
  | abandon k =>
      obtain ⟨slot, h⟩ := Option.ite_none_right_eq_some.mp h
      obtain rfl := Option.some.inj h
      rcases d.register.abandon_cases k with ⟨reserved, hs⟩ | ⟨gone, hs⟩ <;> rw [hs]
      · exact .abandoned k slot reserved
      · exact .abandonedLate k slot gone
  | release k =>
      obtain rfl := Option.some.inj h
      rcases d.register.release_cases k with ⟨call, live, ha, hs⟩ | ⟨idle, ha, hs⟩ <;> rw [ha, hs]
      · exact .released k live
      · exact .releasedNothing k idle
  | releaseCall k call =>
      obtain rfl := Option.some.inj h
      rcases d.register.releaseCall_cases k call with ⟨live, ha, hs⟩ | ⟨other, ha, hs⟩ <;>
        rw [ha, hs]
      · exact .releasedCall k call live
      · exact .stale k call other
  | cancelAll => exact Option.some.inj h ▸ .cancelled

theorem run_invariant {P : Desk → List Event → Prop}
    (keep : ∀ {d before p}, P d before → Moved d p → P p.1 (before ++ p.2))
    {ms : List Move} {d d' : Desk} {before log : List Event} (h : d.run ms = some (d', log))
    (hd : P d before) : P d' (before ++ log) := by
  refine runWith_invariant (P := P) ?_ h hd
  intro u before m v es hu hstep
  exact keep hu (moved_of_step hstep)

/-! ## Other keys -/

namespace Move

/-- The key that an operation is about. A round of cancelling is about none. -/
def key? : Move → Option Key
  | reserve k | occupy k _ | abandon k | release k | releaseCall k _ => some k
  | cancelAll => none

end Move

theorem entry?_of_step {d d' : Desk} {k : Key} {m : Move} {es : List Event}
    (h : d.step m = some (d', es)) (other : m.key? ≠ some k) :
    d'.register.entry? k = d.register.entry? k := by
  have apart : ∀ j, m.key? = some j → k ≠ j := by
    rintro j about rfl
    exact other about
  cases m with
  | reserve j =>
      have reserved : (d.reserve j).1 = d' := congrArg Prod.fst (Option.some.inj h)
      rw [← reserved, Desk.reserve]
      rcases d.register.reserve_cases j with ⟨-, ha, hs⟩ | ⟨e, -, ha, hs⟩ <;> simp only [ha, hs]
      exact Register.entry?_insert_of_ne _ _ (apart j rfl)
  | occupy j call =>
      obtain ⟨-, h⟩ := Option.ite_none_right_eq_some.mp h
      have occupied : (d.occupy j call).1 = d' := congrArg Prod.fst (Option.some.inj h)
      rw [← occupied, Desk.occupy]
      rcases d.register.occupy_cases j call with ⟨-, ha, hs⟩ | ⟨-, ha, hs⟩
      · simp only [ha, hs, if_true]
        exact Register.entry?_insert_of_ne _ _ (apart j rfl)
      · simp only [ha, hs, Bool.false_eq_true, if_false]
  | abandon j =>
      obtain ⟨-, h⟩ := Option.ite_none_right_eq_some.mp h
      obtain ⟨rfl, -⟩ := Prod.mk.inj (Option.some.inj h)
      rcases d.register.abandon_cases j with ⟨-, hs⟩ | ⟨-, hs⟩ <;> simp only [hs]
      exact Register.entry?_erase_of_ne _ (apart j rfl)
  | release j =>
      obtain ⟨rfl, -⟩ := Prod.mk.inj (Option.some.inj h)
      rcases d.register.release_cases j with ⟨call, -, -, hs⟩ | ⟨-, -, hs⟩ <;> simp only [hs]
      exact Register.entry?_erase_of_ne _ (apart j rfl)
  | releaseCall j call =>
      obtain ⟨rfl, -⟩ := Prod.mk.inj (Option.some.inj h)
      rcases d.register.releaseCall_cases j call with ⟨-, -, hs⟩ | ⟨-, -, hs⟩ <;> simp only [hs]
      exact Register.entry?_erase_of_ne _ (apart j rfl)
  | cancelAll =>
      obtain ⟨rfl, -⟩ := Prod.mk.inj (Option.some.inj h)
      rfl

end Desk

end Admission

end CallBridge
