import CallBridge.Script.Perform

/-!
# Running a script

The top-level steps are carried out one after the other on the main thread. After each of them
everything that can go on in the background does, before anybody looks: so what a step is answered
does not depend on how fast other threads are. While a background run has not been joined, nothing
is told of other threads and of the watched objects.
-/

namespace CallBridge.Script

/-- What other threads have reported, by owner; entries of one owner stay in order. -/
def filed (es : List Entry) : List Entry := es.mergeSort fun a b => a.owner ≤ b.owner

def watched (w : World) (watch : Watch) (answer : Answer) : TopAnswer where
  answer := answer
  background := filed w.background.toList
  call := watch.call.map fun name => (w.callNames.find? name).bind fun h => w.snapshot? h.call
  register := watch.register.map w.registerView?
  loop := watch.loop.map (w.loopView? Thread.main)
  unsettled := w.isRestless

def Engine.runTop (e : Engine) (s : Step) (watch : Watch) : Act TopAnswer := do
  let answer ← e.carryOut { thread := Thread.main } s
  e.settle
  let w ← get
  if w.active.isEmpty then
    set { w with background := #[] }
    pure (watched w watch answer)
  else pure { answer }

/-- More turns than any script takes that ends. -/
def fuel : Nat := 1000000

/-- Run a script. It stops early only at a step that would wait for ever. -/
def run (verbosity : Option Level) (steps : List (Step × Watch)) : List TopAnswer :=
  go { verbosity } steps
where
  go (w : World) : List (Step × Watch) → List TopAnswer
    | [] => []
    | (s, watch) :: rest =>
      match ((Engine.ofFuel fuel).runTop s watch).run w with
      | some (answer, w') => answer :: go w' rest
      | none => []

end CallBridge.Script
