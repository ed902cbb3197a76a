import CallBridge.EventLoop
import CallBridge.Loopback
import CallBridge.Text.Blank

/-!
# Settings

Everything that can be configured, with defaults for all of it, and what no component can run
with.
-/

namespace CallBridge

namespace FailurePolicy

def all : List FailurePolicy := [reportAndContinue, propagate]

def text : FailurePolicy → String
  | reportAndContinue => "log_and_continue"
  | propagate => "propagate"

end FailurePolicy

namespace HaltPolicy

def all : List HaltPolicy := [drain, abandon]

def text : HaltPolicy → String
  | drain => "drain"
  | abandon => "abandon"

end HaltPolicy

structure Settings where
  scheduler : LoopPolicy := {}
  transport : Loopback.Config := {}
  filter : String := "info"
deriving DecidableEq, Repr, Inhabited

namespace Settings

/-- Threads need a name that shows, and a transport needs a worker. -/
def validate (s : Settings) : Except Fault Unit :=
  if Text.allBlank s.scheduler.threadName then
    .error (.badSettings "scheduler.thread_name must not be empty")
  else if s.transport.workers = 0 then
    .error (.badSettings "transport.worker_threads must be at least 1")
  else if Text.allBlank s.transport.threadName then
    .error (.badSettings "transport.thread_name must not be empty")
  else .ok ()

end Settings

end CallBridge
