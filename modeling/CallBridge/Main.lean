import CallBridge.Command

/-!
# The program

Reads the arguments, the environment and the settings file, and prints what the command gives.
-/

open CallBridge

def lookUp (path : String) : IO Settings.Stored := do
  try
    return .file (← IO.FS.readBinFile path)
  catch e =>
    match e with
    | .noFileOrDirectory .. => return .missing
    | _ => return .directory

def main (args : List String) : IO UInt32 := do
  let exit ← match Command.ofArgs? args with
    | none => pure Command.usageExit
    | some c => do
      let base ← IO.getEnv "XDG_CONFIG_HOME"
      let stored ← (c.settingsPath base).mapM lookUp
      pure (c.perform stored (← IO.getEnv "RUST_LOG"))
  IO.print exit.stdout
  for line in exit.stderr do
    IO.eprintln line
  return exit.code.toUInt32
