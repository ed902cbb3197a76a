/-!
# TOML values

The tree that a TOML document stands for. Keys and values remember where they stand in the text,
and tables how they came about, which decides who may add to them.
-/

namespace CallBridge.Toml

/-- A place in a text, told by the number of characters from there to the end. -/
abbrev Mark := Nat

structure Key where
  name : String
  mark : Mark
deriving DecidableEq, Repr, Inhabited

inductive Form where
  | inline
  | header
  /-- Implied by a longer header. -/
  | implied
  /-- Implied by a dotted key. -/
  | dotted
deriving DecidableEq, Repr, Inhabited

/-- A value. An array `ofTables` was opened by double-bracketed headers. -/
inductive Value where
  | text (s : String)
  | integer (n : Int)
  /-- A floating-point number by its shortest decimal text. -/
  | float (digits : String)
  | boolean (b : Bool)
  /-- A date, a time, or both. -/
  | moment
  | array (ofTables : Bool) (items : List (Mark × Value))
  | table (form : Form) (entries : List (Key × Mark × Value))
deriving Repr, Inhabited

/-- The entries of a table: each key with the place of its value and the value. -/
abbrev Entries := List (Key × Mark × Value)

/-- A reader takes what it reads off the front of a text. -/
abbrev Reader (α : Type) := List Char → Option (α × List Char)

/-- Line and column of a mark, both counted from one; columns count characters. -/
def position (text : List Char) (m : Mark) : Nat × Nat :=
  let before := text.take (text.length - m)
  (before.count '\n' + 1, (before.reverse.takeWhile (· != '\n')).length + 1)

end CallBridge.Toml
