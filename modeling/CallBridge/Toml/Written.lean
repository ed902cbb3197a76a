import CallBridge.Toml.Quoted

/-!
# Writing strings

A string is written in the plainest form that can hold it: the basic form, unless another form
gets by without escapes. Characters that only escapes can express leave no choice but a basic
form.
-/

namespace CallBridge.Toml

inductive StringForm where
  | basic
  | literal
  | longBasic
  | longLiteral
deriving DecidableEq, Repr

/-- A control that no form can hold as it is. -/
def needsEscape (c : Char) : Bool :=
  (c.toNat < 0x20 && c != '\t' && c != '\n') || c.toNat == 0x7F

def longestRun (q : Char) (s : List Char) : Nat :=
  (s.foldl (fun (run, best) c => if c = q then (run + 1, max best (run + 1)) else (0, best))
    (0, 0)).2

def formOf (s : List Char) : StringForm :=
  let controls := s.any needsEscape
  let backslash := s.contains '\\'
  let newline := s.contains '\n'
  let double := longestRun '"' s
  let single := longestRun '\'' s
  if !controls && !backslash && double == 0 && !newline then .basic
  else if !controls && single == 0 && !newline then .literal
  else if !controls && !backslash && double ≤ 2 then .longBasic
  else if !controls && single ≤ 2 then .longLiteral
  else if newline then .longBasic
  else .basic

def hexFour (n : Nat) : List Char :=
  let ds := (Nat.toDigits 16 n).map Char.toUpper
  List.replicate (4 - ds.length) '0' ++ ds

def controlEscape (c : Char) : List Char :=
  match c with
  | '\x08' => ['\\', 'b']
  | '\t' => ['\\', 't']
  | '\n' => ['\\', 'n']
  | '\x0c' => ['\\', 'f']
  | '\r' => ['\\', 'r']
  | c => ['\\', 'u'] ++ hexFour c.toNat

def writeBasic (s : List Char) : List Char :=
  s.flatMap fun c =>
    if c = '"' ∨ c = '\\' then ['\\', c]
    else if needsEscape c ∨ c = '\t' ∨ c = '\n' then controlEscape c
    else [c]

/-- The contents of a basic string with three quotes; of three quotes in a row the third is
escaped. `run` counts the quotes just written. -/
def writeLongBasic (run : Nat) : List Char → List Char
  | [] => []
  | c :: s =>
    if c = '"' then
      if run = 2 then '\\' :: '"' :: writeLongBasic 0 s else '"' :: writeLongBasic (run + 1) s
    else if c = '\\' then '\\' :: '\\' :: writeLongBasic 0 s
    else if needsEscape c ∨ c = '\t' then controlEscape c ++ writeLongBasic 0 s
    else c :: writeLongBasic 0 s

/-- A string that contains a newline starts on a line of its own. -/
def firstNewline (s : List Char) : List Char := if s.contains '\n' then ['\n'] else []

def writeString (s : List Char) : List Char :=
  match formOf s with
  | .basic => ['"'] ++ writeBasic s ++ ['"']
  | .literal => ['\''] ++ s ++ ['\'']
  | .longBasic => ['"', '"', '"'] ++ firstNewline s ++ writeLongBasic 0 s ++ ['"', '"', '"']
  | .longLiteral => ['\'', '\'', '\''] ++ firstNewline s ++ s ++ ['\'', '\'', '\'']

end CallBridge.Toml
