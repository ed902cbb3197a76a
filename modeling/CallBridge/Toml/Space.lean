/-!
# White space and comments

Blanks separate the parts of a line, newlines end it, and a comment runs to the end of its line.
-/

namespace CallBridge.Toml

def isBlank (c : Char) : Bool := c == ' ' || c == '\t'

/-- Characters that comments and strings may hold as they are: no control but the tabulator. -/
def isPlain (c : Char) : Bool := c == '\t' || (0x20 ≤ c.toNat && c.toNat != 0x7F)

def dropBlanks (s : List Char) : List Char := s.dropWhile isBlank

/-- A line feed, or a carriage return followed by one. -/
def newline? : List Char → Option (List Char)
  | '\n' :: s => some s
  | '\r' :: '\n' :: s => some s
  | _ => none

def dropComment : List Char → List Char
  | '#' :: s => s.dropWhile isPlain
  | s => s

theorem dropWhile_length_le (p : Char → Bool) (s : List Char) :
    (s.dropWhile p).length ≤ s.length :=
  (List.dropWhile_sublist p).length_le

/-- Skip whatever may stand between the items of an array: blanks, newlines and comments. -/
def dropGap : List Char → List Char
  | ' ' :: s => dropGap s
  | '\t' :: s => dropGap s
  | '\n' :: s => dropGap s
  | '\r' :: '\n' :: s => dropGap s
  | '#' :: s => dropGap (s.dropWhile isPlain)
  | s => s
termination_by s => s.length
decreasing_by
  · simp
  · simp
  · simp
  · simp only [List.length_cons]
    omega
  · have := dropWhile_length_le isPlain s
    simp only [List.length_cons]
    omega

/-- What is left of a line after its statement: blanks and a comment, then its end. -/
def endLine? (s : List Char) : Option (List Char) :=
  match dropComment (dropBlanks s) with
  | [] => some []
  | s => newline? s

end CallBridge.Toml
