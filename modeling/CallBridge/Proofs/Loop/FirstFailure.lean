import CallBridge.Proofs.Loop.Solo

/-!
# Failure policies up to the first failure

Two solo runs of the same loop with the same handlers, of which one reports failures and goes on and
the other ends with the first one, walk abreast as long as nothing fails. What becomes of a failure
is decided after the dispatch is over: the turn itself, and what the handler does in it, are the
same. So at the first failure the runs have dispatched the same events, and then the one is over and
the other goes on. For the same reason a run that goes on after failures does what it would have
done if nothing had failed.
-/

namespace CallBridge

namespace Solo

variable {π : Type}

/-- The second handlers do what the first do. They may come back in other ways, and an event that
nobody handles may get a handler that does nothing. -/
def Repertoire.SameDeeds (h h' : Repertoire π) : Prop :=
  ∀ past e, h'.deeds past e = h.deeds past e

theorem Repertoire.SameDeeds.refl (h : Repertoire π) : h.SameDeeds h := fun _ _ => rfl

/-- What a run that goes on tells of the outcome of a dispatch. -/
def told (e : Event π) : Option Fault → List (Sight π)
  | none => []
  | some f => [.failed e f, .logged ⟨.error, loopTarget, f.text⟩]

/-- The line that the loop logs at the end of a run. -/
def stopped (s : Solo π) : Line :=
  ⟨.debug, loopTarget, "Consumer stopped (run " ++ toString s.loop.epoch ++ ")"⟩

/-- A handler that fails, one that panics, and one that stops the run; nobody handles the rest. -/
def drill : Repertoire Nat
  | "fail" => some fun _ _ => { verdict := .failed "boom" }
  | "panic" => some fun _ _ => { verdict := .panicked (some "handler panicked") }
  | "stop" => some fun _ _ => { deeds := [.halt] }
  | _ => none

def drillLoop : EventLoop Nat where
  policy := {}
  queue := ["stop", "fail", "panic", "unknown"].map fun name => .event { name }
  pending := 4

-- The run drains, and the marker of its stop is behind everything.
example : (dispatched (run drill Thread.main drillLoop 9).2).map Event.name =
      ["stop", "fail", "panic", "unknown"] ∧
    errorLines (run drill Thread.main drillLoop 9).2 =
      ["Handler for event fail failed: boom",
        "Handler for event panic failed: panicked: handler panicked",
        "No handler registered for event: unknown"] ∧
    (run drill Thread.main drillLoop 9).1.result = some (.ok ()) :=
  ⟨rfl, by decide, rfl⟩

example : (dispatched (run drill Thread.main (drillLoop.under .propagate) 9).2).map Event.name =
      ["stop", "fail"] ∧
    (run drill Thread.main (drillLoop.under .propagate) 9).1.result =
      some (.error (.handlerFailed "fail" "boom")) :=
  ⟨rfl, rfl⟩

end Solo

end CallBridge
