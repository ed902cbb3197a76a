import CallBridge.Call.Id

/-!
# Faults of the bridge

What the bridge itself can refuse: admission conflicts, misuse of the event loop and bad
configuration. A call that fails remotely is no fault; it carries a status.
-/

namespace CallBridge

inductive Fault where
  /-- The key is taken; the call is known unless the key is only reserved. -/
  | busy (key : String) (call : Option CallId)
  | duplicateHandler (event : String)
  | unknownEvent (event : String)
  | alreadyRunning
  | alreadyStarted (call : CallId)
  | closed
  | handlerFailed (event : String) (message : String)
  | badSettings (message : String)
  | io (message : String)
deriving DecidableEq, Repr, Inhabited

namespace Fault

def text : Fault → String
  | busy key _ => "Operation " ++ key ++ " is busy"
  | duplicateHandler event => "Handler already registered for event: " ++ event
  | unknownEvent event => "No handler registered for event: " ++ event
  | alreadyRunning => "Scheduler is already running"
  | alreadyStarted call => "Call " ++ call.text ++ " was already started"
  | closed => "Scheduler is closed"
  | handlerFailed event message => "Handler for event " ++ event ++ " failed: " ++ message
  | badSettings message => "Invalid configuration: " ++ message
  | io message => "IO error: " ++ message

/-- The fault by its structure; a fault of the operating system has none of its own. -/
def shape? : Fault → Option String
  | busy key call => some <| Text.shapeRecord "Busy"
      [("key", Text.quote key), ("call_id", Text.shapeOption CallId.shape call)]
  | duplicateHandler event => some <| Text.shapeRecord "DuplicateHandler" [("name", Text.quote event)]
  | unknownEvent event => some <| Text.shapeRecord "UnknownEvent" [("name", Text.quote event)]
  | alreadyRunning => some "AlreadyRunning"
  | alreadyStarted call => some <| Text.shapeRecord "AlreadyStarted" [("call_id", call.shape)]
  | closed => some "SchedulerClosed"
  | handlerFailed event message => some <| Text.shapeRecord "Handler"
      [("name", Text.quote event), ("message", Text.quote message)]
  | badSettings message => some <| Text.shapeRecord "Config" [("message", Text.quote message)]
  | io _ => none

/-- Whether the fault is an admission conflict, which the caller may retry. -/
def isBusy : Fault → Bool
  | busy .. => true
  | _ => false

end Fault

end CallBridge
