import CallBridge.Log
import CallBridge.Text.Blank

/-!
# Which log lines are told

A filter is written as directives between commas. A directive is a level for all targets, a target
for all its levels, or both with an equals sign between them. For a line the directive with the
longest matching target decides. Behind a slash may stand a text that a line's message has to
contain.
-/

namespace CallBridge.Log

/-- The lowest level told of the targets with a given beginning; `none` tells nothing. -/
structure Directive where
  target : Option String
  lowest : Option Level
deriving DecidableEq, Repr

structure Filter where
  directives : List Directive := []
  needle : Option String := none
deriving DecidableEq, Repr

def level? (s : String) : Option (Option Level) :=
  let name := s.map Char.toUpper
  if name = "OFF" then some none
  else (Level.all.find? fun l => l.text == name).map some

/-- A directive, or the part of it that cannot be understood. -/
def directive? (s : String) : Except String Directive :=
  match s.splitOn "=" with
  | [one] =>
    match level? one with
    | some lowest => .ok ⟨none, lowest⟩
    | none => .ok ⟨some one, some .trace⟩
  | [target, level] =>
    let level := Text.trim level
    if level = "" then .ok ⟨some target, some .trace⟩
    else
      match level? level with
      | some lowest => .ok ⟨some target, lowest⟩
      | none => .error level
  | _ => .error s

def addDirective (ds : List Directive) (d : Directive) : List Directive :=
  if ds.any fun e => e.target == d.target then
    ds.map fun e => if e.target == d.target then d else e
  else ds ++ [d]

def warning (what : String) : String :=
  "warning: invalid logging spec '" ++ what ++ "', ignoring it"

/-- Directives between commas, with a warning for each that cannot be understood. -/
def readDirectives (s : String) : List Directive × List String :=
  ((s.splitOn ",").map Text.trim).foldl
    (fun (ds, warnings) d =>
      if d = "" then (ds, warnings)
      else
        match directive? d with
        | .ok d => (addDirective ds d, warnings)
        | .error what => (ds, warnings ++ [warning what]))
    ([], [])

namespace Filter

def ofText (s : String) : Filter × List String :=
  match s.splitOn "/" with
  | [all] =>
    let (directives, warnings) := readDirectives all
    ({ directives }, warnings)
  | [all, needle] =>
    let (directives, warnings) := readDirectives all
    ({ directives, needle := some needle }, warnings)
  | _ => ({}, ["warning: invalid logging spec '" ++ s ++ "' (too many '/'s), ignoring it"])

/-- The length of a directive's target, which tells how specific it is. -/
def specificity (d : Directive) : Nat := (d.target.map String.utf8ByteSize).getD 0

def appliesTo (target : String) (d : Directive) : Bool :=
  match d.target with
  | some t => target.startsWith t
  | none => true

/-- The lowest level told of a target. Of directives that are equally specific the last one
decides; a filter without directives tells errors only. -/
def lowest (f : Filter) (target : String) : Option Level :=
  if f.directives.isEmpty then some .error
  else
    let sorted := f.directives.mergeSort fun a b => specificity a ≤ specificity b
    (sorted.reverse.find? (appliesTo target)).bind Directive.lowest

def tells (f : Filter) (l : Line) : Bool :=
  (match f.lowest l.target with
    | some v => l.level.rank ≤ v.rank
    | none => false) &&
  (match f.needle with
    | some n => (l.message.splitOn n).length != 1 || n == ""
    | none => true)

end Filter

/-- A line as it is told, its level in five columns. -/
def lineText (l : Line) : String :=
  "[" ++ String.ofList (l.level.text.toList.rightpad 5 ' ') ++ " " ++ l.target ++ "] " ++ l.message

end CallBridge.Log
