import CallBridge.Proofs.Admission.Desk
import CallBridge.Proofs.Calls.Flags

/-!
# Boards: all calls of an application and its register

A board has every call there can be, each with what is under way on it, and the desk at which calls
are registered under keys. What happens to the calls is a list of moves: those of one call, the
operations at the desk, and requests to stop. A request is one move, whoever makes it and wherever,
inside a callback or not; a round of cancelling asks every registered call to stop, one after the
other, and the desk asks a call to stop that lost its reservation.

Which calls are unary and which are streams is given beforehand. A call that no move mentions is one
that nobody has made.
-/

namespace CallBridge

/-- A call of either kind, and what is under way on it. -/
inductive Member (α : Type) where
  | unary (s : Inquiry α)
  | stream (a : Audience α)

namespace Member

inductive Kind where
  | unary (timeout : Option Nat)
  | stream (timeout : Option Nat) (thread : Nat)
deriving DecidableEq, Repr

variable {α : Type}

def fresh (id : CallId) : Kind → Member α
  | .unary timeout => .unary (.fresh id timeout)
  | .stream timeout thread => .stream (.fresh id timeout thread)

def cell : Member α → Cell α
  | unary s => s.unary.cell
  | stream a => a.stream.cell

@[simp] theorem cell_unary (s : Inquiry α) : (unary s).cell = s.unary.cell := rfl

@[simp] theorem cell_stream (a : Audience α) : (stream a).cell = a.stream.cell := rfl

/-- The same call, asked to stop or not. -/
def flag : Member α → Bool → Member α
  | unary s, b => unary (s.flag b)
  | stream a, b => stream (a.flag b)

@[simp] theorem flag_unary (s : Inquiry α) (b : Bool) : (unary s).flag b = unary (s.flag b) := rfl

@[simp] theorem flag_stream (a : Audience α) (b : Bool) : (stream a).flag b = stream (a.flag b) :=
  rfl

def cancel : Member α → Outcome (Member α) Unit
  | unary s => s.unary.cancel.within fun u => unary { s with unary := u }
  | stream a => a.stream.cancel.within fun t => stream { a with stream := t }

@[simp] theorem cancel_state (x : Member α) : x.cancel.state = x.flag true := by
  cases x <;> rfl

@[simp] theorem cancel_lines (x : Member α) : x.cancel.lines = x.cell.cancel.lines := by
  cases x <;> rfl

@[simp] theorem flag_flag (x : Member α) (b c : Bool) : (x.flag b).flag c = x.flag c := by
  cases x <;> rfl

@[simp] theorem cell_flag (x : Member α) (b : Bool) : (x.flag b).cell = x.cell.flag b := by
  cases x <;> rfl

@[simp] theorem flag_self (x : Member α) : x.flag x.cell.cancelled = x := by
  cases x <;> rfl

end Member

namespace Board

inductive Move (α : Type) where
  | unary (id : CallId) (m : Inquiry.Move α)
  | stream (id : CallId) (m : Audience.Move α)
  | cancel (id : CallId)
  | desk (m : Admission.Desk.Move)

inductive Event (α : Type) where
  | unary (id : CallId) (e : Inquiry.Event α)
  | stream (id : CallId) (e : Session.Event α)
  | desk (e : Admission.Desk.Event)

/-- The calls that the desk asks to stop. -/
def asked : Admission.Desk.Event → List CallId
  | .lost _ call => [call]
  | .cancelled calls => calls
  | _ => []

end Board

/-- All calls and the desk. -/
structure Board (α : Type) where
  calls : CallId → Member α
  desk : Admission.Desk := {}

namespace Board

open Admission (Desk)

variable {α : Type}

def fresh (kinds : CallId → Member.Kind) : Board α := { calls := fun id => .fresh id (kinds id) }

def set (b : Board α) (id : CallId) (x : Member α) : Board α :=
  { b with calls := fun j => if j = id then x else b.calls j }

def cancel (b : Board α) (id : CallId) : Outcome (Board α) Unit :=
  (b.calls id).cancel.within (b.set id)

def cancelEach (b : Board α) : List CallId → Outcome (Board α) Unit
  | [] => { state := b, answer := () }
  | id :: ids =>
    let o := b.cancel id
    let p := o.state.cancelEach ids
    { state := p.state, answer := (), lines := o.lines ++ p.lines }

/-! ## Moves and runs -/

/-- One move and what can be seen of it; nothing when the move does not fit. -/
def step (b : Board α) : Move α → Option (Board α × List (Event α))
  | .unary id m =>
    match b.calls id, m.isRequest with
    | .unary s, false => (s.step m).map fun q => (b.set id (.unary q.1), q.2.map (.unary id))
    | _, _ => none
  | .stream id m =>
    match b.calls id, m.isRequest with
    | .stream a, false => (a.step m).map fun q => (b.set id (.stream q.1), q.2.map (.stream id))
    | _, _ => none
  | .cancel id => some ((b.cancel id).state, [])
  | .desk m =>
    (b.desk.step m).map fun q =>
      ({ (b.cancelEach (q.2.flatMap asked)).state with desk := q.1 }, q.2.map .desk)

def run (b : Board α) (ms : List (Move α)) : Option (Board α × List (Event α)) :=
  runWith step b ms

/-- What an operation at the desk logs, with the requests that it makes. -/
def deskLines (b : Board α) : Desk.Move → List Line
  | .reserve k => (b.desk.register.reserve k).lines
  | .occupy k call =>
    let o := b.desk.register.occupy k call
    o.lines ++ if o.answer then [] else (b.cancel call).lines
  | .abandon k => (b.desk.register.abandon k).lines
  | .release k => (b.desk.register.release k).lines
  | .releaseCall k call => (b.desk.register.releaseCall k call).lines
  | .cancelAll =>
    (b.cancelEach b.desk.register.liveCalls).lines ++ b.desk.register.cancelAllLines

/-- What a move logs. Code outside the bridge may log more. -/
def lines (b : Board α) : Move α → List Line
  | .unary id m =>
    match b.calls id with
    | .unary s => s.lines m
    | .stream _ => []
  | .stream id m =>
    match b.calls id with
    | .stream a => a.lines m
    | .unary _ => []
  | .cancel id => (b.cancel id).lines
  | .desk m => b.deskLines m

/-- What a run logs, as far as its moves fit. -/
def report (b : Board α) : List (Move α) → List Line
  | [] => []
  | m :: ms =>
    match b.step m with
    | some (t, _) => b.lines m ++ t.report ms
    | none => []

def Move.isRequest : Move α → Bool
  | .cancel _ | .desk .cancelAll => true
  | _ => false

/-- How many calls a round of cancelling has asked to stop. -/
@[simp] def Event.isRound : Event α → Bool
  | .desk (.cancelled _) => true
  | _ => false

/-! ## Requests -/

@[simp] theorem cancel_calls (b : Board α) (id j : CallId) :
    (b.cancel id).state.calls j = if j = id then (b.calls j).flag true else b.calls j := by
  by_cases same : j = id
  · subst same
    simp [cancel, set]
  · simp [cancel, set, same]

@[simp] theorem cancel_desk (b : Board α) (id : CallId) : (b.cancel id).state.desk = b.desk := rfl

@[simp] theorem cancelEach_desk (b : Board α) (ids : List CallId) :
    (b.cancelEach ids).state.desk = b.desk := by
  induction ids generalizing b with
  | nil => rfl
  | cons id ids ih => exact ih _

@[simp] theorem cancelEach_calls (b : Board α) (ids : List CallId) (j : CallId) :
    (b.cancelEach ids).state.calls j = if j ∈ ids then (b.calls j).flag true else b.calls j := by
  induction ids generalizing b with
  | nil => simp [cancelEach]
  | cons id ids ih =>
      rw [cancelEach, ih, cancel_calls]
      by_cases here : j = id
      · simp [here]
      · simp [here]

end Board

end CallBridge
