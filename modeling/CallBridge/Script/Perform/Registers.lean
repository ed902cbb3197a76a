import CallBridge.Script.Perform.Calls

/-!
# Steps on registers and reservations

A reservation is a name of its own. Taking a new reservation under a name that has one gives the
old one back, after the new one was won.
-/

namespace CallBridge.Script

/-- The call that a step means; an event without a call means none. -/
def specifiedCall (ctx : Context) : CallSpec → StepAct CallId
  | .id n => pure ⟨n⟩
  | .object name => namedCall name
  | .current => pure ((ctx.event.bind Event.call).getD ⟨0⟩)

def newRegister (as : String) : StepAct Reply := do
  let i := (← get).registers.size
  modify fun w => { w with
    registers := w.registers.insert i {}
    registerNames := w.registerNames.insert as i }
  pure .nothing

def namedRegister (name : String) : StepAct (Nat × Admission.Register) := do
  let i ← named (← get).registerNames name
  let r ← known ((← get).registers.find? i)
  pure (i, r)

def reserve (register : String) (key : Key) (as : String) : StepAct Reply := do
  let (i, _) ← namedRegister register
  allow (← advanceRegister i (·.reserve key))
  if let some (j, old) := (← get).reservations.find? as then
    advanceRegister j (·.abandon old)
  modify fun w => { w with reservations := w.reservations.insert as (i, key) }
  pure .okay

def reservedKey (reservation : String) : StepAct Reply := do
  let (_, key) ← named (← get).reservations reservation
  pure (.key key)

def shapeOfReservation (reservation : String) : StepAct Reply := do
  let (i, key) ← named (← get).reservations reservation
  let r ← known ((← get).registers.find? i)
  pure (.text (r.reservationShape key))

/-- Use a reservation up for a call. Without its entry the call is cancelled. -/
def occupy (reservation call : String) : StepAct Reply := do
  let (i, key) ← named (← get).reservations reservation
  let id ← namedCall call
  modify fun w => { w with reservations := w.reservations.erase reservation }
  if !(← advanceRegister i (·.occupy key id)) then
    cancelCall id
  pure (.count id.serial)

def abandon (reservation : String) : StepAct Reply := do
  match (← get).reservations.find? reservation with
  | none => pure (.flag false)
  | some (i, key) =>
    modify fun w => { w with reservations := w.reservations.erase reservation }
    advanceRegister i (·.abandon key)
    pure (.flag true)

def release (register : String) (key : Key) : StepAct Reply := do
  let (i, _) ← namedRegister register
  match ← advanceRegister i (·.release key) with
  | some id => pure (.count id.serial)
  | none => pure .nothing

def releaseCall (ctx : Context) (register : String) (key : Key) (call : CallSpec) :
    StepAct Reply := do
  let (i, _) ← namedRegister register
  let id ← specifiedCall ctx call
  return .flag (← advanceRegister i (·.releaseCall key id))

def isCurrent (ctx : Context) (register : String) (key : Key) (call : CallSpec) :
    StepAct Reply := do
  let (_, r) ← namedRegister register
  return .flag (r.isCurrent key (← specifiedCall ctx call))

def isBusy (register : String) (key : Key) : StepAct Reply := do
  let (_, r) ← namedRegister register
  pure (.flag (r.isBusy key))

def liveUnder (register : String) (key : Key) : StepAct Reply := do
  let (_, r) ← namedRegister register
  pure (.liveCall ((r.live? key).bind (← get).snapshot?))

def sizeOfRegister (register : String) : StepAct Reply := do
  let (_, r) ← namedRegister register
  pure (.size r.entries.size)

def cancelAll (register : String) : StepAct Reply := do
  let (_, r) ← namedRegister register
  for id in r.liveCalls.mergeSort fun a b => a.serial ≤ b.serial do
    cancelCall id
  report r.cancelAllLines
  pure (.count r.liveCalls.length)

/-- The order of a register's keys is nobody's business, so two keys or more are not shown. -/
def shapeOfRegister (register : String) : StepAct Reply := do
  let (_, r) ← namedRegister register
  if 2 ≤ r.entries.size then pure .nothing else pure (.text r.shape)

end CallBridge.Script
