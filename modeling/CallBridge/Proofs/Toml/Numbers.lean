import CallBridge.Toml.Scalar

/-!
# Decimal numbers are read as they were written

A number without sign is written in decimal digits, none of them in vain. Such a text could be
nothing else: no truth value, no number to another base, and no date, which has dashes. The main
statement is `readScalar_toDigits`.
-/

namespace CallBridge.Toml

variable {ds : List Char}

theorem isScalarChar_of_isDigit {c : Char} (h : c.isDigit = true) : isScalarChar c = true := by
  simp [isScalarChar, Char.isAlphanum, h]

/-! ## The digits of a number -/

theorem ungroup?_digits (some_digits : ds ≠ []) (h : ∀ c ∈ ds, c.isDigit = true) :
    ungroup? Char.isDigit ds = some ds := by
  fun_induction ungroup? Char.isDigit ds with
  | case1 => exact absurd rfl some_digits
  | case2 c digit => rfl
  | case3 c digit => exact absurd (h c (by simp)) digit
  | case4 c s => exact absurd (h '_' (by simp)) (by decide)
  | case5 c s => exact absurd (h '_' (by simp)) (by decide)
  | case6 c s more _ digit ih =>
      rw [ih (by simpa using more) fun d hd => h d (by simp [hd])]
      rfl
  | case7 c s _ _ digit => exact absurd (h c (by simp)) digit

theorem natOfDigits_digits (h : ∀ c ∈ ds, c.isDigit = true) :
    natOfDigits 10 ds = Nat.ofDigitChars 10 ds 0 := by
  rw [natOfDigits, Nat.ofDigitChars_eq_foldl]
  have digits (init : Nat) :
      ds.foldl (fun n c => n * 10 + digitValue c) init =
        ds.foldl (fun n c => 10 * n + (c.toNat - '0'.toNat)) init := by
    induction ds generalizing init with
    | nil => rfl
    | cons c ds ih =>
        have digit : digitValue c = c.toNat - '0'.toNat := if_pos (h c (by simp))
        rw [List.foldl_cons, List.foldl_cons, digit, Nat.mul_comm]
        exact ih (fun d hd => h d (by simp [hd])) _
  exact digits 0

theorem head_toDigits {n : Nat} (h : 0 < n) : (Nat.toDigits 10 n).head? ≠ some '0' := by
  induction n using Nat.strongRecOn with
  | _ n ih =>
      by_cases single : n < 10
      · rw [Nat.toDigits_of_lt_base single]
        have digits : ∀ n < 10, 0 < n → [Nat.digitChar n].head? ≠ some '0' := by decide
        exact digits n single h
      · rw [Nat.toDigits_of_base_le (by omega) (by omega), List.head?_append,
          Option.or_of_isSome (by simp)]
        exact ih (n / 10) (by omega) (by omega)

theorem isDigit_toDigits (n : Nat) : ∀ c ∈ Nat.toDigits 10 n, c.isDigit = true :=
  fun _ hc => Nat.isDigit_of_mem_toDigits (by decide) (by decide) hc

theorem decimal?_toDigits (n : Nat) : decimal? (Nat.toDigits 10 n) = some n := by
  have lean : (Nat.toDigits 10 n).length = 1 ∨ (Nat.toDigits 10 n).head? ≠ some '0' := by
    cases n with
    | zero => exact .inl (by simp)
    | succ n => exact .inr (head_toDigits (Nat.succ_pos n))
  have digits := isDigit_toDigits n
  simp [decimal?, ungroup?_digits Nat.toDigits_ne_nil digits, lean, natOfDigits_digits digits]

/-! ## What digits are not -/

theorem sign_digits (h : ∀ c ∈ ds, c.isDigit = true) : sign ds = (false, ds) := by
  unfold sign
  split
  · exact absurd (h '-' (by simp)) (by decide)
  · exact absurd (h '+' (by simp)) (by decide)
  · rfl

theorem integer?_digits (h : ∀ c ∈ ds, c.isDigit = true) :
    integer? ds = (decimal? ds).map (withSign false) := by
  unfold integer?
  split
  · exact absurd (h 'x' (by simp)) (by decide)
  · exact absurd (h 'o' (by simp)) (by decide)
  · exact absurd (h 'b' (by simp)) (by decide)
  · rw [sign_digits h]

/-- A date has a dash behind its year. -/
theorem dropDate?_digits (h : ∀ c ∈ ds, c.isDigit = true) : dropDate? ds = none := by
  unfold dropDate? fixedDigits?
  split
  · simp only [Option.bind_eq_bind, Option.bind_some]
    split
    · next dash =>
        have dashed : '-' ∈ ds.drop 4 := by simp [dash]
        exact absurd (h '-' (List.mem_of_mem_drop dashed)) (by decide)
    · rfl
  · rfl

theorem scalar?_toDigits {n : Nat} (h : n < 0x10000000000000000) :
    scalar? (Nat.toDigits 10 n) = some (.integer n) := by
  have digits := isDigit_toDigits n
  have no_true : Nat.toDigits 10 n ≠ "true".toList := fun is =>
    absurd (digits 't' (is ▸ by decide)) (by decide)
  have no_false : Nat.toDigits 10 n ≠ "false".toList := fun is =>
    absurd (digits 'f' (is ▸ by decide)) (by decide)
  have word : isWord (n : Int) = true := by
    simp only [isWord, Bool.and_eq_true, decide_eq_true_eq]
    omega
  rw [scalar?, if_neg no_true, if_neg no_false, integer?_digits digits, decimal?_toDigits]
  simp [withSign, word]

/-- **A number of 64 bits is read as it was written**, up to the first character that belongs to no
scalar. -/
theorem readScalar_toDigits {n : Nat} (h : n < 0x10000000000000000) {d : Char}
    (ends : isScalarChar d = false) (rest : List Char) :
    readScalar (Nat.toDigits 10 n ++ d :: rest) = some (.integer n, d :: rest) := by
  have digits := isDigit_toDigits n
  have token : ∀ c ∈ Nat.toDigits 10 n, isScalarChar c = true :=
    fun c hc => isScalarChar_of_isDigit (digits c hc)
  have taken : (Nat.toDigits 10 n ++ d :: rest).takeWhile isScalarChar = Nat.toDigits 10 n := by
    rw [List.takeWhile_append_of_pos token]
    simp [ends]
  have dropped : (Nat.toDigits 10 n ++ d :: rest).dropWhile isScalarChar = d :: rest := by
    rw [List.dropWhile_append_of_pos token]
    simp [ends]
  simp [readScalar, taken, dropped, dropDate?_digits digits, scalar?_toDigits h]

end CallBridge.Toml
