import CallBridge.Settings.Decode

/-!
# Where settings come from

Settings are read from one file: the one that is asked for, or the user's own. A user without a
file gets the defaults, and so does whoever asks for a file that does not exist, unless it has to.
-/

namespace CallBridge.Settings

inductive Stored where
  | missing
  | directory
  | file (bytes : ByteArray)

def notFound : Fault := .io "No such file or directory (os error 2)"

def isDirectory : Fault := .io "Is a directory (os error 21)"

def notText : Fault := .io "stream did not contain valid UTF-8"

def load : Stored → Except Refusal Settings
  | .missing => .error (.fault notFound)
  | .directory => .error (.fault isDirectory)
  | .file bytes =>
    match String.fromUTF8? bytes with
    | some text => ofText text
    | none => .error (.fault notText)

/-- Settings from a file that may be missing. -/
def loadOrDefault : Stored → Except Refusal Settings
  | .missing => .ok {}
  | stored => load stored

/-- The path of the user's own file below the directory for configuration, if that is set. -/
def userPath (base : Option String) : Option String :=
  match base with
  | none => none
  | some dir =>
    if dir = "" then none
    else some (dir ++ (if dir.endsWith "/" then "" else "/") ++ "rpc-reactor/rpc-reactor.toml")

end CallBridge.Settings
