/-!
# Shortest decimal text of a binary floating-point number

A decimal number is rounded to the nearest number of the form `m · 2^q` with 53 bits, ties to the
even `m`. Such a number is written with the fewest decimal digits that round back to it, and with
those nearest to it among all texts of that length.
-/

namespace CallBridge.Decimal

/-- A finite non-negative binary number `m · 2^q`. -/
structure Binary where
  m : Nat
  q : Int
deriving DecidableEq, Repr

/-- The quotient rounded to the nearest integer, ties to even. -/
def roundDiv (num den : Nat) : Nat :=
  let d := num / den
  let r := num % den
  if 2 * r < den then d
  else if den < 2 * r then d + 1
  else if d % 2 = 0 then d else d + 1

/-- `num / den · 10^e` as a quotient of natural numbers. -/
def scale (base : Nat) (num den : Nat) (e : Int) : Nat × Nat :=
  if 0 ≤ e then (num * Nat.pow base e.toNat, den) else (num, den * Nat.pow base (-e).toNat)

/-- Round a positive quotient to 53 bits; `none` when it is too large for the format. -/
def round (num den : Nat) : Option Binary :=
  let estimate : Int := Int.ofNat (Nat.log2 num) - Int.ofNat (Nat.log2 den)
  let mantissa (q : Int) : Nat :=
    let (n, d) := scale 2 num den (-q)
    roundDiv n d
  let start := max (estimate - 53) (-1074)
  let q := if mantissa start < 0x20000000000000 then start else start + 1
  let m := mantissa q
  let found : Binary := if m = 0x20000000000000 then ⟨0x10000000000000, q + 1⟩ else ⟨m, q⟩
  if 971 < found.q then none else some found

def digitCount (n : Nat) : Nat := (Nat.toDigits 10 n).length

/-- The exponent of the first significant decimal digit of a positive quotient. -/
def leadingExponent (num den : Nat) : Int :=
  if den ≤ num then Int.ofNat (digitCount (num / den)) - 1
  else -Int.ofNat (digitCount ((den - 1) / num))

/-- The decimal digits `d · 10^p` with `n` digits that round to `b` and are nearest to it. -/
def onGrid? (b : Binary) (n : Nat) : Option (Nat × Int) :=
  let (num, den) := scale 2 b.m 1 b.q
  let p := leadingExponent num den - n + 1
  let (gridNum, gridDen) := scale 10 num den (-p)
  let below := gridNum / gridDen
  let fits (d : Nat) : Bool :=
    let (dn, dd) := scale 10 d 1 p
    d != 0 && round dn dd == some b
  let nearBelow := 2 * (gridNum % gridDen) ≤ gridDen
  if fits below && (nearBelow || !fits (below + 1)) then some (below, p)
  else if fits (below + 1) then some (below + 1, p)
  else none

/-- The shortest digits of a positive number; seventeen always suffice. -/
def shortest (b : Binary) : Nat × Int :=
  ((List.range 17).findSome? fun n => onGrid? b (n + 1)).getD (b.m, 0)

/-- Digits `d · 10^p` in positional notation with a point and a digit on either side of it. -/
def positional (d : Nat) (p : Int) : String :=
  let ds := Nat.toDigits 10 d
  if 0 ≤ p then String.ofList (ds ++ List.replicate p.toNat '0') ++ ".0"
  else
    let k := (-p).toNat
    let padded := List.replicate (k + 1 - ds.length) '0' ++ ds
    let whole := padded.take (padded.length - k)
    let fraction := padded.drop (padded.length - k)
    String.ofList whole ++ "." ++ String.ofList fraction

/-- A decimal number `digits · 10^e` in the shortest text of the nearest binary number; `none` when
it is too large for the format. Exponents beyond any use are cut short. -/
def shortestText? (digits : Nat) (e : Int) : Option String :=
  let magnitude := Int.ofNat (digitCount digits) + e
  if digits = 0 ∨ magnitude < -400 then some "0.0"
  else if 400 < magnitude then none
  else
    let (num, den) := scale 10 digits 1 e
    match round num den with
    | none => none
    | some b => if b.m = 0 then some "0.0" else some (positional (shortest b).1 (shortest b).2)

end CallBridge.Decimal
