import CallBridge.Toml.Quoted
import CallBridge.Toml.Scalar
import CallBridge.Toml.Table

/-!
# Keys and values

Arrays and inline tables nest to a bounded depth. Inside them a comma behind the last item is
allowed, and newlines and comments between any two parts.
-/

namespace CallBridge.Toml

/-! ## Keys -/

def isBareKeyChar (c : Char) : Bool := c.isAlphanum || c == '_' || c == '-'

/-- One part of a key; strings of several lines are no keys. -/
def readKeyPart : List Char → Option (Key × List Char)
  | '"' :: '"' :: '"' :: _ => none
  | '\'' :: '\'' :: '\'' :: _ => none
  | '"' :: s => (readBasic s).map fun (cs, r) => (⟨String.ofList cs, s.length + 1⟩, r)
  | '\'' :: s => (readLiteral s).map fun (cs, r) => (⟨String.ofList cs, s.length + 1⟩, r)
  | s =>
    let name := s.takeWhile isBareKeyChar
    if name.isEmpty then none
    else some (⟨String.ofList name, s.length⟩, s.dropWhile isBareKeyChar)

/-- The parts of a dotted key in front of the last one, and the last one. -/
def readPath (fuel : Nat) (s : List Char) : Option ((List Key × Key) × List Char) :=
  match fuel with
  | 0 => none
  | fuel + 1 => do
    let (k, r) ← readKeyPart s
    match dropBlanks r with
    | '.' :: r => do
      let ((path, last), r) ← readPath fuel (dropBlanks r)
      some ((k :: path, last), r)
    | r => some (([], k), r)

/-- A dotted key; it has fewer parts than the text has characters. -/
def readKey (s : List Char) : Option ((List Key × Key) × List Char) := readPath (s.length + 1) s

/-! ## Lists of items -/

/-- Items up to the closing bracket, which is at most as far away as `fuel` says. -/
def readItems {α : Type} (close : Char) (item : Reader α) (fuel : Nat) (s : List Char) :
    Option (List α × List Char) :=
  match fuel with
  | 0 => none
  | fuel + 1 =>
    match dropGap s with
    | [] => none
    | c :: r =>
      if c = close then some ([], r)
      else do
        let (a, r) ← item (c :: r)
        match dropGap r with
        | ',' :: r => do
          let (as, r) ← readItems close item fuel r
          some (a :: as, r)
        | d :: r => if d = close then some ([a], r) else none
        | [] => none

abbrev Assignment := List Key × Key × Mark × Value

def readAssignment (between : List Char → List Char) (value : Reader Value) (s : List Char) :
    Option (Assignment × List Char) := do
  let ((path, k), r) ← readKey s
  let '=' :: r := between r | none
  let r := between r
  let (v, rest) ← value r
  some ((path, k, r.length, v), rest)

def inlineTable? (assignments : List Assignment) : Option Table :=
  assignments.foldlM (fun t (path, k, mark, v) => t.assign path k mark v)
    { form := Form.header }

/-- A value in which arrays and inline tables nest at most `depth` deep. -/
def readNested (depth : Nat) (s : List Char) : Option (Value × List Char) :=
  match depth, s with
  | depth + 1, '[' :: r => do
    let item (s : List Char) : Option ((Mark × Value) × List Char) :=
      (readNested depth s).map fun (v, r) => ((s.length, v), r)
    let (items, r) ← readItems ']' item (r.length + 1) r
    some (.array false items, r)
  | depth + 1, '{' :: r => do
    let (assignments, r) ← readItems '}' (readAssignment dropGap (readNested depth)) (r.length + 1) r
    let t ← inlineTable? assignments
    some (.table .inline t.entries, r)
  | _, s =>
    match s with
    | '"' :: _ | '\'' :: _ => (readString s).map fun (cs, r) => (.text (String.ofList cs), r)
    | _ => readScalar s

def maxDepth : Nat := 80

def readValue (s : List Char) : Option (Value × List Char) := readNested maxDepth s

end CallBridge.Toml
