import CallBridge.Text.Quoted

/-!
# Structural text

The one-line rendering of a value by its structure: a record is its name with named fields in
braces, an optional value is `None` or `Some(…)`, a list stands in brackets.
-/

namespace CallBridge.Text

def shapeOption {α : Type} (shape : α → String) : Option α → String
  | none => "None"
  | some a => "Some(" ++ shape a ++ ")"

def shapeList {α : Type} (shape : α → String) (xs : List α) : String :=
  "[" ++ ", ".intercalate (xs.map shape) ++ "]"

/-- A record: its name, then `field: value` pairs in braces. -/
def shapeRecord (name : String) (fields : List (String × String)) : String :=
  name ++ " \x7b " ++ ", ".intercalate (fields.map fun f => f.1 ++ ": " ++ f.2) ++ " \x7d"

/-- A record that shows only some of its fields and says so with two dots. -/
def shapePartial (name : String) (fields : List (String × String)) : String :=
  name ++ " \x7b " ++ ", ".intercalate (fields.map fun f => f.1 ++ ": " ++ f.2) ++ ", .. \x7d"

def shapeBool (b : Bool) : String := if b then "true" else "false"

end CallBridge.Text
