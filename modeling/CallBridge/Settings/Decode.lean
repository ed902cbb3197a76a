import CallBridge.Settings.Basic
import CallBridge.Toml.Document

/-!
# Settings from a document

A document fits the settings when it has no unknown keys and every value is of its field's kind.
Tables are walked in the ascending order of their keys, and the first misfit met is the one told.
A section may also be an array, which gives its fields in the order of their declaration.
-/

namespace CallBridge.Settings

open Toml (Mark Value Entries)

inductive Cause where
  | unknownField (name : String) (known : List String)
  | unknownVariant (name : String) (known : List String)
  | wrongKind (found expected : String)
  | negative (n : Int) (expected : String)
  /-- A policy is a name, or a table with a name as its only key. -/
  | noPolicy
  | noVariant
  | severalVariants
  /-- What belongs to a policy's name in a table has to be empty. -/
  | notEmpty (expected : String)
  | noTable (found : String)
deriving DecidableEq, Repr

structure Misfit where
  mark : Mark
  cause : Cause
deriving DecidableEq, Repr

def ticked (s : String) : String := "\x60" ++ s ++ "\x60"

def choiceText : List String → String
  | [a] => "expected " ++ ticked a
  | [a, b] => "expected " ++ ticked a ++ " or " ++ ticked b
  | names => "expected one of " ++ ", ".intercalate (names.map ticked)

namespace Cause

def text : Cause → String
  | unknownField name known => "unknown field " ++ ticked name ++ ", " ++ choiceText known
  | unknownVariant name known => "unknown variant " ++ ticked name ++ ", " ++ choiceText known
  | wrongKind found expected => "invalid type: " ++ found ++ ", expected " ++ expected
  | negative n expected =>
    "invalid value: integer " ++ ticked (toString n) ++ ", expected " ++ expected
  | noPolicy => "wanted string or table"
  | noVariant => "wanted exactly 1 element, found 0 elements"
  | severalVariants => "wanted exactly 1 element, more than 1 element"
  | notEmpty expected => "expected empty " ++ expected
  | noTable found => "expected table, found " ++ found

end Cause

def describe : Value → String
  | .text s => "string " ++ Text.quote s
  | .integer n => "integer " ++ ticked (toString n)
  | .float t => "floating point " ++ ticked t
  | .boolean b => "boolean " ++ ticked (Text.shapeBool b)
  | .array .. => "sequence"
  | .moment | .table .. => "map"

def kindText : Value → String
  | .text _ => "string"
  | .integer _ => "integer"
  | .float _ => "float"
  | .boolean _ => "boolean"
  | .moment => "datetime"
  | .array .. => "array"
  | .table .. => "table"

/-! ## Values of single fields -/

def textOf (m : Mark) : Value → Except Misfit String
  | .text s => .ok s
  | v => .error ⟨m, .wrongKind (describe v) "a string"⟩

/-- A count; `expected` names its type. -/
def countOf (expected : String) (m : Mark) : Value → Except Misfit Nat
  | .integer n => if 0 ≤ n then .ok n.toNat else .error ⟨m, .negative n expected⟩
  | v => .error ⟨m, .wrongKind (describe v) expected⟩

def variantOf {α : Type} (all : List α) (text : α → String) (m : Mark) (name : String) :
    Except Misfit α :=
  match all.find? fun a => text a == name with
  | some a => .ok a
  | none => .error ⟨m, .unknownVariant name (all.map text)⟩

def checkEmpty (m : Mark) : Value → Except Misfit Unit
  | .table _ [] => .ok ()
  | .array _ [] => .ok ()
  | .table .. => .error ⟨m, .notEmpty "table"⟩
  | .array .. => .error ⟨m, .notEmpty "array"⟩
  | v => .error ⟨m, .noTable (kindText v)⟩

def policyOf {α : Type} (all : List α) (text : α → String) (m : Mark) : Value → Except Misfit α
  | .text s => variantOf all text m s
  | .table _ [] => .error ⟨m, .noVariant⟩
  | .table _ [(k, vm, v)] => do
    let a ← variantOf all text k.mark k.name
    checkEmpty vm v
    pure a
  | .table .. => .error ⟨m, .severalVariants⟩
  | _ => .error ⟨m, .noPolicy⟩

/-! ## Sections -/

structure Field (σ : Type) where
  name : String
  put : Mark → Value → σ → Except Misfit σ

def ascending (es : Entries) : Entries :=
  List.mergeSort es fun a b => a.1.name < b.1.name || a.1.name == b.1.name

def ofEntries {σ : Type} (fields : List (Field σ)) (es : Entries) (s : σ) : Except Misfit σ :=
  (ascending es).foldlM
    (fun s (k, m, v) =>
      match fields.find? fun f => f.name == k.name with
      | some f => f.put m v s
      | none => .error ⟨k.mark, .unknownField k.name (fields.map Field.name)⟩)
    s

/-- Put the items of an array into a section, one field after the other. -/
def ofItems {σ : Type} (fields : List (Field σ)) (items : List (Mark × Value)) (s : σ) :
    Except Misfit σ :=
  (fields.zip items).foldlM (fun s (f, m, v) => f.put m v s) s

/-- The only key under which a date or time could be read as a table. -/
def momentKey : String := "$__toml_private_datetime"

/-- A whole section; `expected` names its type. -/
def sectionOf {σ : Type} (expected : String) (fields : List (Field σ)) (m : Mark) (v : Value)
    (s : σ) : Except Misfit σ :=
  match v with
  | .table _ es => ofEntries fields es s
  | .array _ items => ofItems fields items s
  | .moment => .error ⟨m, .unknownField momentKey (fields.map Field.name)⟩
  | v => .error ⟨m, .wrongKind (describe v) expected⟩

def schedulerFields : List (Field LoopPolicy) :=
  [⟨"thread_name", fun m v s => do pure { s with threadName := ← textOf m v }⟩,
   ⟨"error_policy", fun m v s => do
      pure { s with onFailure := ← policyOf FailurePolicy.all FailurePolicy.text m v }⟩,
   ⟨"halt_policy", fun m v s => do
      pure { s with onHalt := ← policyOf HaltPolicy.all HaltPolicy.text m v }⟩]

def transportFields : List (Field Loopback.Config) :=
  [⟨"worker_threads", fun m v s => do pure { s with workers := ← countOf "usize" m v }⟩,
   ⟨"thread_name", fun m v s => do pure { s with threadName := ← textOf m v }⟩,
   ⟨"latency_ms", fun m v s => do pure { s with latency := ← countOf "u64" m v }⟩]

def loggingFields : List (Field String) := [⟨"filter", fun m v _ => textOf m v⟩]

def sections : List (Field Settings) :=
  [⟨"scheduler", fun m v s => do
      let scheduler ← sectionOf "struct SchedulerConfig" schedulerFields m v s.scheduler
      pure { s with scheduler }⟩,
   ⟨"transport", fun m v s => do
      let transport ← sectionOf "struct TransportConfig" transportFields m v s.transport
      pure { s with transport }⟩,
   ⟨"logging", fun m v s => do
      let filter ← sectionOf "struct LoggingConfig" loggingFields m v s.filter
      pure { s with filter }⟩]

/-- The settings of a document, defaults for whatever it does not give. -/
def decode (document : Entries) : Except Misfit Settings := ofEntries sections document {}

/-! ## Reading a text -/

inductive Refusal where
  | syntactic
  | misfit (line column : Nat) (cause : Cause)
  /-- The settings fit but nothing can run with them, or the text could not be read at all. -/
  | fault (f : Fault)
deriving DecidableEq, Repr

def ofText (text : String) : Except Refusal Settings :=
  match Toml.document? text.toList with
  | none => .error .syntactic
  | some document =>
    match decode document with
    | .error e =>
      let (line, column) := Toml.position text.toList e.mark
      .error (.misfit line column e.cause)
    | .ok s =>
      match s.validate with
      | .error f => .error (.fault f)
      | .ok () => .ok s

end CallBridge.Settings
