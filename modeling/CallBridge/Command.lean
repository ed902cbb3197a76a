import CallBridge.Demo
import CallBridge.Log.Filter
import CallBridge.Settings.Render
import CallBridge.Settings.Source

/-!
# The command line

Two commands: a demonstration, and a print of the settings in effect. A command is read from the
arguments first; then the settings file is looked up, and what the program prints and how it exits
is a function of the two and of the environment.
-/

namespace CallBridge

inductive Command where
  | demo (items : Nat) (latency : Option Nat) (cancel : Bool) (config : Option String)
  | printConfig (config : Option String)
  | version
  | help (command : Option String)
deriving DecidableEq, Repr

namespace Command

/-! ## Reading the arguments -/

/-- A decimal number below a bound, perhaps with a plus in front. -/
def boundedNat? (bound : Nat) (s : String) : Option Nat :=
  let digits :=
    match s.toList with
    | '+' :: ds => ds
    | ds => ds
  if digits.isEmpty ∨ !digits.all Char.isDigit then none
  else
    let n := Nat.ofDigitChars 10 digits 0
    if n < bound then some n else none

structure Options where
  items : Option Nat := none
  latency : Option Nat := none
  cancel : Bool := false
  config : Option String := none

/-- An option with a value: how the value is put in. An option is given at most once, and its
value must be one that it can have. -/
abbrev ValueOption := String × (Options → String → Option Options)

def itemsOption : ValueOption :=
  ("--items", fun o v =>
    if o.items.isSome then none
    else (boundedNat? 0x100000000 v).map fun n => { o with items := some n })

def latencyOption : ValueOption :=
  ("--latency-ms", fun o v =>
    if o.latency.isSome then none
    else (boundedNat? 0x10000000000000000 v).map fun n => { o with latency := some n })

def configOption : ValueOption :=
  ("--config", fun o v =>
    if o.config.isSome ∨ v = "" then none else some { o with config := some v })

inductive Reading where
  | options (o : Options)
  | help
  | wrong

/-- An argument that is not the value of the option in front of it. -/
def looksLikeOption (s : String) : Bool := s.startsWith "-" && s != "-"

def splitAssigned (arg : String) : String × Option String :=
  match arg.splitOn "=" with
  | name :: value :: more => (name, some ("=".intercalate (value :: more)))
  | _ => (arg, none)

def readOptions (valued : List ValueOption) (canCancel : Bool) : Options → List String → Reading
  | o, [] => .options o
  | o, arg :: rest =>
    if arg = "--help" ∨ arg = "-h" then .help
    else if arg = "--" then (if rest.isEmpty then .options o else .wrong)
    else if arg = "--cancel" ∧ canCancel then
      if o.cancel then .wrong else readOptions valued canCancel { o with cancel := true } rest
    else
      match valued.find? fun v => v.1 == (splitAssigned arg).1 with
      | none => .wrong
      | some (_, put) =>
        match (splitAssigned arg).2, rest with
        | some value, rest =>
          match put o value with
          | some o => readOptions valued canCancel o rest
          | none => .wrong
        | none, value :: rest =>
          if looksLikeOption value then .wrong
          else
            match put o value with
            | some o => readOptions valued canCancel o rest
            | none => .wrong
        | none, [] => .wrong

/-- The command of the arguments; `none` when they make none. -/
def ofArgs? : List String → Option Command
  | "--version" :: _ | "-V" :: _ => some version
  | "--help" :: _ | "-h" :: _ | ["help"] => some (help none)
  | ["help", "demo"] => some (help (some "demo"))
  | ["help", "print-config"] => some (help (some "print-config"))
  | "demo" :: rest =>
    match readOptions [itemsOption, latencyOption, configOption] true {} rest with
    | .options o => some (demo (o.items.getD 5) o.latency o.cancel o.config)
    | .help => some (help (some "demo"))
    | .wrong => none
  | "print-config" :: rest =>
    match readOptions [configOption] false {} rest with
    | .options o => some (printConfig o.config)
    | .help => some (help (some "print-config"))
    | .wrong => none
  | _ => none

/-! ## Carrying a command out -/

structure Exit where
  code : Nat
  stdout : String := ""
  stderr : List String := []
deriving Repr

def versionText : String := "rpc-reactor 0.1.0\n"

def about : String := "Drive reactor-based RPC calls through a single-threaded scheduler"

def demoAbout : String :=
  "Stream features one at a time, then fetch the last one with a unary call"

def configHelp : String :=
  "Settings file (default: $XDG_CONFIG_HOME/rpc-reactor/rpc-reactor.toml)"

def helpText : Option String → String
  | none => "\n".intercalate
      [about, "", "Usage: rpc-reactor <COMMAND>", "", "Commands:",
        "  demo          " ++ demoAbout,
        "  print-config  Print the effective settings as TOML",
        "  help          Print this message or the help of the given subcommand(s)", "",
        "Options:", "  -h, --help     Print help", "  -V, --version  Print version", ""]
  | some "demo" => "\n".intercalate
      [demoAbout, "", "Usage: rpc-reactor demo [OPTIONS]", "", "Options:",
        "      --items <ITEMS>            Number of features the stream produces [default: 5]",
        "      --latency-ms <LATENCY_MS>  Transport latency per response, overriding the settings file",
        "      --cancel                   Cancel the stream after the second feature",
        "      --config <CONFIG>          " ++ configHelp,
        "  -h, --help                     Print help", ""]
  | some _ => "\n".intercalate
      ["Print the effective settings as TOML", "",
        "Usage: rpc-reactor print-config [OPTIONS]", "", "Options:",
        "      --config <CONFIG>  " ++ configHelp,
        "  -h, --help             Print help", ""]

def usageExit : Exit :=
  { code := 2, stderr := ["error: invalid arguments", "Usage: rpc-reactor <COMMAND>"] }

def settingsPath (base : Option String) : Command → Option String
  | demo _ _ _ config => config <|> Settings.userPath base
  | printConfig config => config <|> Settings.userPath base
  | version | help _ => none

def refusalText : Settings.Refusal → String
  | .syntactic | .misfit .. => (Fault.badSettings "failed to parse settings").text
  | .fault f => f.text

def failure (message : String) : Exit := { code := 1, stderr := ["Error: " ++ message] }

def demoExit (plan : Demo.Plan) (filterText : String) : Exit :=
  let (filter, warnings) := Log.Filter.ofText filterText
  let (lines, result) := Demo.perform plan
  let told := warnings ++ (lines.filter filter.tells).map Log.lineText
  match result with
  | .ok () => { code := 0, stderr := told }
  | .error f => { failure f.text with stderr := told ++ (failure f.text).stderr }

/-- Carry a command out. `stored` is what stands at the path of the settings file, if there is
one; `filterText` overrides the filter of the settings. -/
def perform (c : Command) (stored : Option Settings.Stored) (filterText : Option String) : Exit :=
  let settings := (stored.map Settings.loadOrDefault).getD (.ok {})
  match c with
  | version => { code := 0, stdout := versionText }
  | help command => { code := 0, stdout := helpText command }
  | printConfig _ =>
    match settings with
    | .error e => failure (refusalText e)
    | .ok s => { code := 0, stdout := s.render }
  | demo items latency cancel _ =>
    match settings with
    | .error e => failure (refusalText e)
    | .ok s =>
      let transport := { s.transport with latency := latency.getD s.transport.latency }
      demoExit { items, cancel, policy := s.scheduler, transport } (filterText.getD s.filter)

end Command

end CallBridge
