import CallBridge.Toml.Space
import CallBridge.Toml.Value

/-!
# Reading strings

There are four forms. Basic strings stand in double quotes and know escapes, literal strings stand
in single quotes and know none; both exist with three quotes, and may then run over several lines.
The readers here start behind the opening quotes.
-/

namespace CallBridge.Toml

def hexValue? (c : Char) : Option Nat :=
  if '0' ≤ c ∧ c ≤ '9' then some (c.toNat - '0'.toNat)
  else if 'a' ≤ c ∧ c ≤ 'f' then some (c.toNat - 'a'.toNat + 10)
  else if 'A' ≤ c ∧ c ≤ 'F' then some (c.toNat - 'A'.toNat + 10)
  else none

def charOfHex? (digits : List Char) : Option Char := do
  let n ← digits.foldlM (fun n d => (hexValue? d).map (n * 16 + ·)) 0
  if Nat.isValidChar n then some (Char.ofNat n) else none

/-- Escapes that are followed by a number: the count of its digits. -/
def hexLength? : Char → Option Nat
  | 'x' => some 2
  | 'u' => some 4
  | 'U' => some 8
  | _ => none

def escapeLetter? : Char → Option Char
  | 'b' => some '\x08'
  | 'e' => some '\x1b'
  | 'f' => some '\x0c'
  | 'n' => some '\n'
  | 'r' => some '\r'
  | 't' => some '\t'
  | '"' => some '"'
  | '\\' => some '\\'
  | _ => none

def unescape? : Reader Char
  | [] => none
  | c :: s =>
    match escapeLetter? c with
    | some d => some (d, s)
    | none => do
      let n ← hexLength? c
      if n ≤ s.length then
        let d ← charOfHex? (s.take n)
        some (d, s.drop n)
      else none

theorem unescape?_length {s r : List Char} {c : Char} (h : unescape? s = some (c, r)) :
    r.length < s.length := by
  cases s with
  | nil => simp [unescape?] at h
  | cons d s =>
    simp only [unescape?] at h
    split at h
    · simp only [Option.some.injEq, Prod.mk.injEq] at h
      simp [h.2]
    · cases hn : hexLength? d with
      | none => simp [hn] at h
      | some n =>
        simp only [hn, Option.bind_eq_bind, Option.bind_some] at h
        split at h
        · cases hc : charOfHex? (s.take n) with
          | none => simp [hc] at h
          | some e =>
            simp only [hc, Option.bind_some, Option.some.injEq, Prod.mk.injEq] at h
            rw [← h.2]
            simp only [List.length_drop, List.length_cons]
            omega
        · simp at h

def withFront (c : Char) (r : Option (List Char × List Char)) : Option (List Char × List Char) :=
  r.map fun (cs, rest) => (c :: cs, rest)

def readBasic (s : List Char) : Option (List Char × List Char) :=
  match s with
  | [] => none
  | '"' :: r => some ([], r)
  | '\\' :: r =>
    match _ : unescape? r with
    | some (c, r') => withFront c (readBasic r')
    | none => none
  | c :: r => if isPlain c then withFront c (readBasic r) else none
termination_by s.length
decreasing_by
  · have := unescape?_length (by assumption)
    simp only [List.length_cons]
    omega
  · simp

def readLiteral : List Char → Option (List Char × List Char)
  | [] => none
  | '\'' :: r => some ([], r)
  | c :: r => if isPlain c then withFront c (readLiteral r) else none

/-- A newline right behind three opening quotes is no part of the string. -/
def dropFirstNewline (s : List Char) : List Char := (newline? s).getD s

/-- The end of a string with three quotes: up to two quotes more belong to the string. -/
def closing? (q : Char) (s : List Char) : Option (List Char × List Char) :=
  let n := (s.takeWhile (· == q)).length
  if n < 3 then none
  else
    let kept := min n 5
    some (List.replicate (kept - 3) q, s.drop kept)

theorem newline?_length {s r : List Char} (h : newline? s = some r) : r.length < s.length := by
  unfold newline? at h
  split at h
  · cases h
    simp
  · cases h
    simp only [List.length_cons]
    omega
  · cases h

def dropLines : List Char → List Char
  | ' ' :: s => dropLines s
  | '\t' :: s => dropLines s
  | '\n' :: s => dropLines s
  | '\r' :: '\n' :: s => dropLines s
  | s => s

theorem dropLines_length_le (s : List Char) : (dropLines s).length ≤ s.length := by
  fun_induction dropLines s <;> simp_all <;> omega

/-- Behind a backslash at the end of a line: skip to the next character that is neither blank nor
a newline. -/
def dropLineEnd? (s : List Char) : Option (List Char) := (newline? (dropBlanks s)).map dropLines

theorem dropLineEnd?_length {s r : List Char} (h : dropLineEnd? s = some r) :
    r.length < s.length := by
  obtain ⟨t, ht, rfl⟩ := Option.map_eq_some_iff.1 h
  have h₁ := newline?_length ht
  have h₂ := dropWhile_length_le isBlank s
  have h₃ := dropLines_length_le t
  simp only [dropBlanks] at h₁
  omega

def readLongBasic (s : List Char) : Option (List Char × List Char) :=
  match closing? '"' s with
  | some found => some found
  | none =>
    match s with
    | [] => none
    | '\\' :: r =>
      match _ : unescape? r with
      | some (c, r') => withFront c (readLongBasic r')
      | none =>
        match _ : dropLineEnd? r with
        | some r' => readLongBasic r'
        | none => none
    | '\n' :: r => withFront '\n' (readLongBasic r)
    | '\r' :: '\n' :: r => withFront '\r' (withFront '\n' (readLongBasic r))
    | c :: r => if isPlain c then withFront c (readLongBasic r) else none
termination_by s.length
decreasing_by
  · have := unescape?_length (by assumption)
    simp only [List.length_cons]
    omega
  · have := dropLineEnd?_length (by assumption)
    simp only [List.length_cons]
    omega
  · simp
  · simp only [List.length_cons]
    omega
  · simp

def readLongLiteral (s : List Char) : Option (List Char × List Char) :=
  match closing? '\'' s with
  | some found => some found
  | none =>
    match s with
    | [] => none
    | '\n' :: r => withFront '\n' (readLongLiteral r)
    | '\r' :: '\n' :: r => withFront '\r' (withFront '\n' (readLongLiteral r))
    | c :: r => if isPlain c then withFront c (readLongLiteral r) else none

def readString : List Char → Option (List Char × List Char)
  | '"' :: '"' :: '"' :: s => readLongBasic (dropFirstNewline s)
  | '\'' :: '\'' :: '\'' :: s => readLongLiteral (dropFirstNewline s)
  | '"' :: s => readBasic s
  | '\'' :: s => readLiteral s
  | _ => none

end CallBridge.Toml
