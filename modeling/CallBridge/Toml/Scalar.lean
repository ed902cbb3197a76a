import CallBridge.Decimal.Shortest
import CallBridge.Toml.Value

/-!
# Scalars without quotes

A scalar is first taken as a whole, up to the first character that cannot belong to one, and then
read as one of: a truth value, an integer, a floating-point number, or a date or time.
-/

namespace CallBridge.Toml

def isScalarChar (c : Char) : Bool :=
  c.isAlphanum || c == '+' || c == '-' || c == '.' || c == ':' || c == '_'

/-! ## Integers -/

/-- Digits with single underscores between them, without the underscores. -/
def ungroup? (isDigit : Char → Bool) : List Char → Option (List Char)
  | [] => none
  | [c] => if isDigit c then some [c] else none
  | c :: '_' :: s => if isDigit c then (ungroup? isDigit s).map (c :: ·) else none
  | c :: s => if isDigit c then (ungroup? isDigit s).map (c :: ·) else none

def digitValue (c : Char) : Nat :=
  if c.isDigit then c.toNat - '0'.toNat else c.toLower.toNat - 'a'.toNat + 10

def natOfDigits (base : Nat) (cs : List Char) : Nat :=
  cs.foldl (fun n c => n * base + digitValue c) 0

/-- Decimal digits without a needless zero in front. -/
def decimal? (s : List Char) : Option Nat := do
  let ds ← ungroup? Char.isDigit s
  if ds.length = 1 ∨ ds.head? ≠ some '0' then some (natOfDigits 10 ds) else none

def isHexDigit (c : Char) : Bool := c.isDigit || ('a' ≤ c && c ≤ 'f') || ('A' ≤ c && c ≤ 'F')
def isOctalDigit (c : Char) : Bool := '0' ≤ c && c ≤ '7'
def isBinaryDigit (c : Char) : Bool := c == '0' || c == '1'

def sign : List Char → Bool × List Char
  | '-' :: s => (true, s)
  | '+' :: s => (false, s)
  | s => (false, s)

def withSign (negative : Bool) (n : Nat) : Int := if negative then -(n : Int) else n

/-- An integer, decimal or with a base in front. -/
def integer? : List Char → Option Int
  | '0' :: 'x' :: s => (ungroup? isHexDigit s).map fun ds => (natOfDigits 16 ds : Int)
  | '0' :: 'o' :: s => (ungroup? isOctalDigit s).map fun ds => (natOfDigits 8 ds : Int)
  | '0' :: 'b' :: s => (ungroup? isBinaryDigit s).map fun ds => (natOfDigits 2 ds : Int)
  | s => (decimal? (sign s).2).map (withSign (sign s).1)

/-- The integers that a document may hold: those of 64 bits, with a sign or without. -/
def isWord (n : Int) : Bool := -0x8000000000000000 ≤ n && n < 0x10000000000000000

/-! ## Floating-point numbers -/

/-- The part of a number before the first of the given characters, and the part behind it. -/
def splitAt? (isMark : Char → Bool) (s : List Char) : List Char × Option (List Char) :=
  match s.dropWhile fun c => !isMark c with
  | [] => (s, none)
  | _ :: r => (s.takeWhile fun c => !isMark c, some r)

def unsignedFloat? (s : List Char) : Option String := do
  let (front, power) := splitAt? (fun c => c == 'e' || c == 'E') s
  let (whole, fraction) := splitAt? (· == '.') front
  if power.isNone ∧ fraction.isNone then none
  else
    let whole ← decimal? whole
    let fraction ← match fraction with
      | none => some []
      | some f => ungroup? Char.isDigit f
    let power ← match power with
      | none => some 0
      | some p => (ungroup? Char.isDigit (sign p).2).map fun ds =>
          withSign (sign p).1 (natOfDigits 10 ds)
    Decimal.shortestText? (whole * Nat.pow 10 fraction.length + natOfDigits 10 fraction)
      (power - fraction.length)

/-- The text of a floating-point number; a number that is no number has no sign. -/
def float? (s : List Char) : Option String :=
  let (negative, body) := sign s
  match body with
  | ['n', 'a', 'n'] => some "NaN"
  | ['i', 'n', 'f'] => some (if negative then "-inf" else "inf")
  | body => (unsignedFloat? body).map fun t => if negative then "-" ++ t else t

/-! ## Dates and times -/

def fixedDigits? (n : Nat) (s : List Char) : Option (Nat × List Char) :=
  if n ≤ s.length ∧ (s.take n).all Char.isDigit then some (natOfDigits 10 (s.take n), s.drop n)
  else none

def isLeapYear (y : Nat) : Bool := y % 4 == 0 && (y % 100 != 0 || y % 400 == 0)

def daysInMonth (y m : Nat) : Nat :=
  if m = 2 then (if isLeapYear y then 29 else 28)
  else if m ∈ [4, 6, 9, 11] then 30
  else 31

/-- Year, month and day: what follows them. -/
def dropDate? (s : List Char) : Option (List Char) := do
  let (y, s) ← fixedDigits? 4 s
  let '-' :: s := s | none
  let (m, s) ← fixedDigits? 2 s
  let '-' :: s := s | none
  let (d, s) ← fixedDigits? 2 s
  if 1 ≤ m ∧ m ≤ 12 ∧ 1 ≤ d ∧ d ≤ daysInMonth y m then some s else none

def dropFraction? : List Char → Option (List Char)
  | '.' :: s =>
    if (s.takeWhile Char.isDigit).isEmpty then none else some (s.dropWhile Char.isDigit)
  | s => some s

/-- Seconds, if there are any; the last minute of a day may have a leap second. -/
def dropSeconds? : List Char → Option (List Char)
  | ':' :: s => do
    let (sec, s) ← fixedDigits? 2 s
    if sec ≤ 60 then dropFraction? s else none
  | s => some s

/-- Hour and minute, and perhaps seconds: what follows them. -/
def dropTime? (s : List Char) : Option (List Char) := do
  let (h, s) ← fixedDigits? 2 s
  let ':' :: s := s | none
  let (m, s) ← fixedDigits? 2 s
  if h ≤ 23 ∧ m ≤ 59 then dropSeconds? s else none

/-- A distance from universal time, or nothing, up to the end. -/
def isOffset : List Char → Bool
  | [] => true
  | ['Z'] => true
  | ['z'] => true
  | c :: s =>
    (c == '+' || c == '-') &&
      (do
        let (h, s) ← fixedDigits? 2 s
        let ':' :: s := s | none
        let (m, s) ← fixedDigits? 2 s
        pure (h ≤ 23 && m ≤ 59 && s.isEmpty)) == some true

/-- Behind a date: the end, or a time of that day with its offset. -/
def isDayTime : List Char → Bool
  | [] => true
  | c :: s => (c == 'T' || c == 't' || c == ' ') && ((dropTime? s).map isOffset).getD false

def isMoment (s : List Char) : Bool :=
  match dropDate? s with
  | some r => isDayTime r
  | none => dropTime? s == some []

/-! ## Any scalar -/

def scalar? (s : List Char) : Option Value :=
  if s = "true".toList then some (.boolean true)
  else if s = "false".toList then some (.boolean false)
  else
    match integer? s with
    | some n => if isWord n then some (.integer n) else none
    | none =>
      match float? s with
      | some t => some (.float t)
      | none => if isMoment s then some .moment else none

def timeFollows : List Char → Bool
  | ' ' :: c :: _ => c.isDigit
  | _ => false

/-- A scalar at the front of a text. A single blank may stand between a date and a time. -/
def readScalar (s : List Char) : Option (Value × List Char) :=
  let token := s.takeWhile isScalarChar
  let rest := s.dropWhile isScalarChar
  if dropDate? token = some [] ∧ timeFollows rest then
    let time := (rest.drop 1).takeWhile isScalarChar
    (scalar? (token ++ ' ' :: time)).map fun v => (v, (rest.drop 1).dropWhile isScalarChar)
  else (scalar? token).map fun v => (v, rest)

end CallBridge.Toml
