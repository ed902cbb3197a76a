import CallBridge.Call.Cell
import CallBridge.Table

/-!
# Admission: at most one live call per key

A register maps an operation's key to the call that holds it. Starting an operation whose key is
taken is refused, never queued. Admission has two steps, so that a call is built and launched only
after its key was won: `reserve` wins the key, `occupy` turns the reservation into the entry of a
live call; `abandon` gives an unused reservation back.

Each operation has its own condition on the entry that it may touch: `release` and `releaseCall`
only touch live entries, `occupy` and `abandon` only reservations.
-/

namespace CallBridge

/-- What an operation is admitted under. A number and its decimal text are different keys. -/
inductive Key where
  | number (n : Int)
  | text (s : String)
deriving DecidableEq, Repr, Inhabited

namespace Key

/-- A number stands bare, a text in quotes. -/
def shape : Key → String
  | number n => toString n
  | text s => Text.quote s

def le : Key → Key → Bool
  | number a, number b => a ≤ b
  | number _, text _ => true
  | text _, number _ => false
  | text a, text b => a < b || a == b

end Key

namespace Admission

inductive Entry where
  | reserved
  | live (call : CallId)
deriving DecidableEq, Repr

namespace Entry

def call? : Entry → Option CallId
  | reserved => none
  | live call => some call

end Entry

def target : String := "rpc_reactor::registry"

private def note (message : String) : Line := ⟨.debug, target, message⟩

/-- The keys that are taken. -/
structure Register where
  entries : Table Key Entry := {}

instance : Inhabited Register := ⟨{}⟩

namespace Register

def entry? (r : Register) (k : Key) : Option Entry := r.entries.find? k

def isBusy (r : Register) (k : Key) : Bool := (r.entry? k).isSome

def live? (r : Register) (k : Key) : Option CallId := (r.entry? k).bind Entry.call?

def isCurrent (r : Register) (k : Key) (call : CallId) : Bool := r.live? k == some call

/-- Every live entry's call, one occurrence for each key it holds. -/
def liveCalls (r : Register) : List CallId := r.entries.values.filterMap Entry.call?

/-- Win `k` if nobody holds it. A refusal names the call in the way and changes nothing. -/
def reserve (r : Register) (k : Key) : Outcome Register (Except Fault Unit) :=
  match r.entry? k with
  | some e =>
    { state := r
      answer := .error (.busy k.shape e.call?)
      lines := [note ("Rejecting " ++ k.shape ++ ": call " ++
        Text.shapeOption CallId.shape e.call? ++ " in flight")] }
  | none => { state := ⟨r.entries.insert k .reserved⟩, answer := .ok () }

/-- Turn the reservation of `k` into the entry of a live call. When the reservation is gone the
entry stays and the answer is `false`: the caller has to cancel the call. -/
def occupy (r : Register) (k : Key) (call : CallId) : Outcome Register Bool :=
  match r.entry? k with
  | some .reserved =>
    { state := ⟨r.entries.insert k (.live call)⟩
      answer := true
      lines := [note (k.shape ++ " now held by call " ++ call.text)] }
  | _ =>
    { state := r
      answer := false
      lines := [⟨.warn, target, "Reservation of " ++ k.shape ++ " lost before call " ++
        call.text ++ " was registered; cancelling it"⟩] }

def abandon (r : Register) (k : Key) : Outcome Register Unit where
  state := if r.entry? k = some .reserved then ⟨r.entries.erase k⟩ else r
  answer := ()
  lines := [note ("Reservation of " ++ k.shape ++ " abandoned")]

/-- Clear the live call under `k`, whichever it is. A reservation is left alone. -/
def release (r : Register) (k : Key) : Outcome Register (Option CallId) :=
  match r.entry? k with
  | some (.live call) =>
    { state := ⟨r.entries.erase k⟩
      answer := some call
      lines := [note ("Released " ++ k.shape ++ " (call " ++ call.text ++ ")")] }
  | _ => { state := r, answer := none }

/-- Clear `k` only while it holds `call`: an event of a call that was replaced must not release
its successor. -/
def releaseCall (r : Register) (k : Key) (call : CallId) : Outcome Register Bool :=
  if r.entry? k = some (.live call) then
    { state := ⟨r.entries.erase k⟩
      answer := true
      lines := [note ("Released " ++ k.shape ++ " (call " ++ call.text ++ ")")] }
  else
    { state := r
      answer := false
      lines := [note ("Stale release of " ++ k.shape ++ " by call " ++ call.text)] }

/-- The summary that closes a round of cancelling every live call; silent when there was none. -/
def cancelAllLines (r : Register) : List Line :=
  let n := r.liveCalls.length
  if n = 0 then [] else [⟨.info, target, "Cancelled " ++ toString n ++ " live call(s)"⟩]

/-- The register with its keys, each key's own text quoted once more. -/
def shape (r : Register) : String :=
  Text.shapeRecord "CallRegistry"
    [("keys", Text.shapeList (fun k : Key => Text.quote k.shape) r.entries.keys)]

def reservationShape (r : Register) (k : Key) : String :=
  Text.shapeRecord "Slot" [("registry", r.shape), ("key", Text.shapeOption Key.shape (some k))]

/-! ## What each operation can come to -/

@[simp] theorem entry?_insert_self (t : Table Key Entry) (k : Key) (e : Entry) :
    entry? ⟨t.insert k e⟩ k = some e := Table.find?_insert_self t k e

@[simp] theorem entry?_insert_of_ne (r : Register) {k j : Key} (e : Entry) (h : j ≠ k) :
    entry? ⟨r.entries.insert k e⟩ j = r.entry? j := Table.find?_insert_of_ne _ e h

@[simp] theorem entry?_erase_self (t : Table Key Entry) (k : Key) :
    entry? ⟨t.erase k⟩ k = none := Table.find?_erase_self t k

@[simp] theorem entry?_erase_of_ne (r : Register) {k j : Key} (h : j ≠ k) :
    entry? ⟨r.entries.erase k⟩ j = r.entry? j := Table.find?_erase_of_ne _ h

theorem reserve_cases (r : Register) (k : Key) :
    (r.entry? k = none ∧ (r.reserve k).answer = .ok () ∧
      (r.reserve k).state = ⟨r.entries.insert k .reserved⟩) ∨
    (∃ e, r.entry? k = some e ∧ (r.reserve k).answer = .error (.busy k.shape e.call?) ∧
      (r.reserve k).state = r) := by
  unfold reserve
  split
  · next e taken => exact .inr ⟨e, taken, rfl, rfl⟩
  · next vacant => exact .inl ⟨vacant, rfl, rfl⟩

theorem occupy_cases (r : Register) (k : Key) (call : CallId) :
    (r.entry? k = some .reserved ∧ (r.occupy k call).answer = true ∧
      (r.occupy k call).state = ⟨r.entries.insert k (.live call)⟩) ∨
    (r.entry? k ≠ some .reserved ∧ (r.occupy k call).answer = false ∧
      (r.occupy k call).state = r) := by
  unfold occupy
  split
  · next reserved => exact .inl ⟨reserved, rfl, rfl⟩
  · next gone => exact .inr ⟨gone, rfl, rfl⟩

theorem abandon_cases (r : Register) (k : Key) :
    (r.entry? k = some .reserved ∧ (r.abandon k).state = ⟨r.entries.erase k⟩) ∨
    (r.entry? k ≠ some .reserved ∧ (r.abandon k).state = r) := by
  unfold abandon
  by_cases reserved : r.entry? k = some .reserved
  · exact .inl ⟨reserved, by simp [reserved]⟩
  · exact .inr ⟨reserved, by simp [reserved]⟩

theorem release_cases (r : Register) (k : Key) :
    (∃ call, r.entry? k = some (.live call) ∧ (r.release k).answer = some call ∧
      (r.release k).state = ⟨r.entries.erase k⟩) ∨
    ((∀ call, r.entry? k ≠ some (.live call)) ∧ (r.release k).answer = none ∧
      (r.release k).state = r) := by
  unfold release
  split
  · next call live => exact .inl ⟨call, live, rfl, rfl⟩
  · next idle => exact .inr ⟨idle, rfl, rfl⟩

theorem releaseCall_cases (r : Register) (k : Key) (call : CallId) :
    (r.entry? k = some (.live call) ∧ (r.releaseCall k call).answer = true ∧
      (r.releaseCall k call).state = ⟨r.entries.erase k⟩) ∨
    (r.entry? k ≠ some (.live call) ∧ (r.releaseCall k call).answer = false ∧
      (r.releaseCall k call).state = r) := by
  unfold releaseCall
  split
  · next live => exact .inl ⟨live, rfl, rfl⟩
  · next other => exact .inr ⟨other, rfl, rfl⟩

end Register

end Admission

end CallBridge
