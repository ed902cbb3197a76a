/-!
# Log lines and outcomes of transitions

A transition of an object is a pure function; what it reports is part of its result, in order.
-/

namespace CallBridge

inductive Level where
  | error
  | warn
  | info
  | debug
  | trace
deriving DecidableEq, Repr, Inhabited

namespace Level

def all : List Level := [error, warn, info, debug, trace]

def rank : Level → Nat
  | error => 1
  | warn => 2
  | info => 3
  | debug => 4
  | trace => 5

def text : Level → String
  | error => "ERROR"
  | warn => "WARN"
  | info => "INFO"
  | debug => "DEBUG"
  | trace => "TRACE"

end Level

structure Line where
  level : Level
  target : String
  message : String
deriving DecidableEq, Repr, Inhabited

/-- What a transition leaves behind: the next state, its answer, and the lines it reports. -/
structure Outcome (σ α : Type) where
  state : σ
  answer : α
  lines : List Line := []
deriving Repr

namespace Outcome

variable {σ τ α : Type}

/-- The same outcome for a larger state around the one that moved. -/
def within (f : σ → τ) (o : Outcome σ α) : Outcome τ α := ⟨f o.state, o.answer, o.lines⟩

@[simp] theorem within_state (f : σ → τ) (o : Outcome σ α) : (o.within f).state = f o.state := rfl
@[simp] theorem within_answer (f : σ → τ) (o : Outcome σ α) : (o.within f).answer = o.answer := rfl
@[simp] theorem within_lines (f : σ → τ) (o : Outcome σ α) : (o.within f).lines = o.lines := rfl

end Outcome

/-- Threads are told apart by a number; zero is the application's main thread. -/
structure Thread where
  serial : Nat
  name : Option String
deriving DecidableEq, Repr, Inhabited

namespace Thread

def main : Thread := ⟨0, some "main"⟩

def isMain (t : Thread) : Bool := t.serial == 0

end Thread

end CallBridge
