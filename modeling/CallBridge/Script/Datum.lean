/-!
# Data that calls carry

Requests, responses and stream items are plain data. The bridge passes them on unread; only the
services of a transport look inside.
-/

namespace CallBridge.Script

inductive Datum where
  | null
  | bool (b : Bool)
  | number (n : Int)
  | text (s : String)
  | list (xs : List Datum)
  | record (fields : List (String × Datum))
deriving Repr, Inhabited

namespace Datum

/-- A datum as a count; whatever is no natural number counts as zero. -/
def asCount : Datum → Nat
  | number n => n.toNat
  | _ => 0

def ofNat (n : Nat) : Datum := number n

end Datum

end CallBridge.Script
