import CallBridge.Settings.Basic
import CallBridge.Toml.Written

/-!
# Settings as a document

Sections and fields stand in the order of their declaration, with a blank line between sections.
-/

namespace CallBridge.Settings

open Toml (writeString)

def assignLine (key : String) (value : List Char) : List Char :=
  key.toList ++ " = ".toList ++ value ++ ['\n']

def headerLine (name : String) : List Char := '[' :: name.toList ++ [']', '\n']

def writeText (s : String) : List Char := writeString s.toList

def writeCount (n : Nat) : List Char := Nat.toDigits 10 n

/-- The settings as a document that gives every field. -/
def renderChars (s : Settings) : List Char :=
  headerLine "scheduler" ++
    assignLine "thread_name" (writeText s.scheduler.threadName) ++
    assignLine "error_policy" (writeText s.scheduler.onFailure.text) ++
    assignLine "halt_policy" (writeText s.scheduler.onHalt.text) ++ ['\n'] ++
  headerLine "transport" ++
    assignLine "worker_threads" (writeCount s.transport.workers) ++
    assignLine "thread_name" (writeText s.transport.threadName) ++
    assignLine "latency_ms" (writeCount s.transport.latency) ++ ['\n'] ++
  headerLine "logging" ++
    assignLine "filter" (writeText s.filter)

def render (s : Settings) : String := String.ofList s.renderChars

end CallBridge.Settings
