import CallBridge.Call.Cell

/-!
# Calls with a single response

A unary call is launched once, completed once by the transport, and its response is taken once.
Each of the three is enforced by a flag of its own: `started`, `terminated` and the cell's
`ready`. The completion callback runs after `complete` has moved the call, so it already sees the
status and may take the response.
-/

namespace CallBridge

/-- One call that is answered by one response or one failure. -/
structure Unary (α : Type) where
  cell : Cell α
  started : Bool := false
  /-- Milliseconds after which the transport is to give up, counted from the launch. -/
  timeout : Option Nat := none
deriving DecidableEq, Repr

namespace Unary

variable {α : Type}

def create (id : CallId) (timeout : Option Nat) : Unary α := { cell := { id }, timeout }

def launch (u : Unary α) : Outcome (Unary α) (Except Fault Unit) :=
  if u.started then
    { state := u, answer := .error (.alreadyStarted u.cell.id) }
  else
    { state := { u with started := true }
      answer := .ok ()
      lines := [⟨.debug, callTarget, "Starting unary call " ++ u.cell.id.text⟩] }

/-- A start that breaks off before it has come to the channel. The right to start is used up. -/
def overflow (u : Unary α) : Unary α := { u with started := true }

/-- The transport's one report. The answer tells whether the completion callback is due; a
repeated report moves nothing. -/
def complete (u : Unary α) (result : Except Status α) : Outcome (Unary α) Bool :=
  if u.cell.terminated then
    { state := u
      answer := false
      lines := [⟨.warn, callTarget, "Ignoring repeated completion for call " ++ u.cell.id.text⟩] }
  else
    match result with
    | .ok response =>
      let published := (u.cell.settle .success).publish response
      { state := { u with cell := published.state.terminate }
        answer := true
        lines := published.lines }
    | .error status =>
      { state := { u with cell := (u.cell.settle status).terminate }
        answer := true
        lines := [⟨.debug, callTarget,
          "Unary call " ++ u.cell.id.text ++ " failed: " ++ status.text⟩] }

def take (u : Unary α) (thread : Nat) : Outcome (Unary α) (Option α) :=
  (u.cell.take thread).within fun cell => { u with cell }

def completeTake (u : Unary α) : Outcome (Unary α) (Option α) :=
  u.cell.extract.within fun cell => { u with cell }

def cancel (u : Unary α) : Outcome (Unary α) Unit :=
  u.cell.cancel.within fun cell => { u with cell }

end Unary

end CallBridge
