import CallBridge.Toml.Expression

/-!
# Documents

A document is a sequence of statements, one a line: headers, which open a table, and assignments,
which add to the table that was opened last. Reading goes in two stages, from the text to the
statements and from those to the table of the whole document.
-/

namespace CallBridge.Toml

inductive Statement where
  | table (path : List Key) (key : Key) (mark : Mark)
  /-- A header in double brackets. -/
  | element (path : List Key) (key : Key) (mark : Mark)
  | assign (a : Assignment)
deriving Repr

def readHeader (mark : Mark) (s : List Char) : Option (Statement × List Char) :=
  match s with
  | '[' :: s => do
    let ((path, k), r) ← readKey (dropBlanks s)
    let ']' :: ']' :: r := dropBlanks r | none
    some (.element path k mark, r)
  | s => do
    let ((path, k), r) ← readKey (dropBlanks s)
    let ']' :: r := dropBlanks r | none
    some (.table path k mark, r)

def readStatement (s : List Char) : Option (Statement × List Char) :=
  match s with
  | '[' :: r => readHeader s.length r
  | s => (readAssignment dropBlanks readValue s).map fun (a, r) => (.assign a, r)

/-- The statements of a text with fewer lines than `fuel`. -/
def readStatements (fuel : Nat) (s : List Char) : Option (List Statement) :=
  match fuel with
  | 0 => none
  | fuel + 1 =>
    match dropBlanks s with
    | [] => some []
    | '#' :: r => do readStatements fuel (← endLine? ('#' :: r))
    | r =>
      match newline? r with
      | some r => readStatements fuel r
      | none => do
        let (statement, r) ← readStatement r
        let rest ← readStatements fuel (← endLine? r)
        some (statement :: rest)

/-- A byte-order mark in front of a text is skipped. -/
def dropByteOrderMark : List Char → List Char
  | '\uFEFF' :: s => s
  | s => s

def statements? (s : List Char) : Option (List Statement) :=
  readStatements (s.length + 1) (dropByteOrderMark s)

/-- A document in the making: its table, and the path to the table that was opened last. -/
structure Draft where
  root : Table := { form := .header }
  opened : List Key := []

def Draft.add (d : Draft) : Statement → Option Draft
  | .table path k mark => do
    some { root := ← d.root.openTable path k mark, opened := path ++ [k] }
  | .element path k mark => do
    some { root := ← d.root.openElement path k mark, opened := path ++ [k] }
  | .assign (path, k, mark, v) => do
    some { d with root := ← d.root.alter false (·.assign path k mark v) d.opened }

/-- The entries of a whole document; `none` when the text is no valid document. -/
def document? (s : List Char) : Option Entries := do
  let d ← (← statements? s).foldlM Draft.add {}
  some d.root.entries

end CallBridge.Toml
