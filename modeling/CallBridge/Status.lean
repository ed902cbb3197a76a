import CallBridge.Text.Shape

/-!
# Terminal outcome of a call

A status is a code and a message for people. A call receives at most one, at its end.
-/

namespace CallBridge

inductive Code where
  | ok
  | cancelled
  | unknown
  | invalidArgument
  | deadlineExceeded
  | notFound
  | aborted
  | unavailable
  | internal
deriving DecidableEq, Repr, Inhabited

namespace Code

def all : List Code :=
  [ok, cancelled, unknown, invalidArgument, deadlineExceeded, notFound, aborted, unavailable,
    internal]

/-- The code's name in upper case, as callers of the remote procedure know it. -/
def text : Code → String
  | ok => "OK"
  | cancelled => "CANCELLED"
  | unknown => "UNKNOWN"
  | invalidArgument => "INVALID_ARGUMENT"
  | deadlineExceeded => "DEADLINE_EXCEEDED"
  | notFound => "NOT_FOUND"
  | aborted => "ABORTED"
  | unavailable => "UNAVAILABLE"
  | internal => "INTERNAL"

def shape : Code → String
  | ok => "Ok"
  | cancelled => "Cancelled"
  | unknown => "Unknown"
  | invalidArgument => "InvalidArgument"
  | deadlineExceeded => "DeadlineExceeded"
  | notFound => "NotFound"
  | aborted => "Aborted"
  | unavailable => "Unavailable"
  | internal => "Internal"

def ofText? (s : String) : Option Code := all.find? (·.text == s)

@[simp] theorem ofText?_text (c : Code) : ofText? c.text = some c := by
  cases c <;> decide +kernel

end Code

structure Status where
  code : Code
  message : String := ""
deriving DecidableEq, Repr, Inhabited

namespace Status

def success : Status := ⟨.ok, ""⟩

def isOk (s : Status) : Bool := s.code == .ok

/-- Cancellation is an expected outcome, not a failure of the bridge. -/
def isCancelled (s : Status) : Bool := s.code == .cancelled

/-- The code alone, or the code and the message when there is one. -/
def text (s : Status) : String :=
  if s.message = "" then s.code.text else s.code.text ++ ": " ++ s.message

def shape (s : Status) : String :=
  Text.shapeRecord "Status" [("code", s.code.shape), ("message", Text.quote s.message)]

@[simp] theorem isOk_success : success.isOk = true := rfl

end Status

end CallBridge
