import CallBridge.Text.Shape

/-!
# Identity of calls

Calls are numbered from one in the order of their creation and numbers are never reused, so an
event that carries a number can be told from one of a later call under the same key.
-/

namespace CallBridge

/-- Identity of one call; zero names no call. -/
structure CallId where
  serial : Nat
deriving DecidableEq, Repr, Inhabited, Ord

namespace CallId

def text (i : CallId) : String := "#" ++ toString i.serial

def shape (i : CallId) : String := "CallId(" ++ toString i.serial ++ ")"

/-- Ascending, each number once. -/
def sorted (ids : List CallId) : List CallId :=
  (ids.mergeSort fun a b => a.serial ≤ b.serial).eraseDups

end CallId

end CallBridge
