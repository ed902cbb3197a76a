import CallBridge.Toml.Written

/-!
# Strings are read as they were written

The writer picks one of four forms by what the string contains, and the reader finds out from the
opening quotes which one it was. The main statement is `readString_writeString`: whatever the form,
the string comes back, and reading stops behind its closing quotes.

Forms without escapes can hold only some strings, and `formOf` chooses them only for those. In the
forms with three quotes the end is found by counting quotes, which the writer has to keep apart:
wherever a string goes on, at most two quotes stand in a row. What is counted is `leading`.
-/

namespace CallBridge.Toml

@[simp] theorem withFront_some (c : Char) (s rest : List Char) :
    withFront c (some (s, rest)) = some (c :: s, rest) := rfl

/-! ## What stands in front -/

/-- How many quotes stand in front. -/
def leading (q : Char) (s : List Char) : Nat := (s.takeWhile (· == q)).length

@[simp] theorem leading_cons_self (q : Char) (s : List Char) :
    leading q (q :: s) = leading q s + 1 := by
  simp [leading]

theorem leading_cons_ne {q c : Char} (h : c ≠ q) (s : List Char) : leading q (c :: s) = 0 := by
  simp [leading, h]

theorem leading_replicate_append (q : Char) (n : Nat) (s : List Char) :
    leading q (List.replicate n q ++ s) = n + leading q s := by
  induction n with
  | zero => simp
  | succ n ih =>
      rw [List.replicate_succ, List.cons_append, leading_cons_self, ih]
      omega

/-- What follows counts only if the string has nothing but quotes. -/
theorem leading_append (q : Char) (s tail : List Char) :
    s = List.replicate (leading q s) q ∨ leading q (s ++ tail) = leading q s := by
  induction s with
  | nil => exact .inl rfl
  | cons c s ih =>
      by_cases same : c = q
      · subst same
        rw [List.cons_append, leading_cons_self, leading_cons_self]
        rcases ih with quotes | short
        · exact .inl (by rw [List.replicate_succ, ← quotes])
        · exact .inr (by rw [short])
      · exact .inr (by rw [List.cons_append, leading_cons_ne same, leading_cons_ne same])

theorem newline?_cons {c : Char} (line : c ≠ '\n') (return_ : c ≠ '\r') (s : List Char) :
    newline? (c :: s) = none := by
  unfold newline?
  split
  · next heq => exact absurd (List.cons.inj heq).1 line
  · next heq => exact absurd (List.cons.inj heq).1 return_
  · rfl

/-! ## Characters and their escapes -/

theorem isPlain_of_needsEscape {c : Char} (h : needsEscape c = false) (line : c ≠ '\n') :
    isPlain c = true := by
  simp only [needsEscape, isPlain, Bool.or_eq_false_iff, Bool.and_eq_false_imp, Bool.or_eq_true,
    Bool.and_eq_true, decide_eq_true_eq, bne_iff_ne, beq_iff_eq, beq_eq_false_iff_ne] at h ⊢
  by_cases tab : c = '\t'
  · exact .inl tab
  · have low : ¬c.toNat < 0x20 := fun low => by simpa [line] using h.1 ⟨low, tab⟩
    exact .inr ⟨by omega, h.2⟩

/-- The number of a control is written with four digits, from which it is read back. -/
theorem charOfHex?_hexFour :
    ∀ n < 128, (hexFour n).length = 4 ∧ charOfHex? (hexFour n) = some (Char.ofNat n) := by
  decide +kernel

/-- The escape of a control character, of a tabulator or of a newline is one that stands for it. -/
theorem unescape?_controlEscape {c : Char} (h : needsEscape c = true ∨ c = '\t' ∨ c = '\n')
    (r : List Char) : ∃ e, controlEscape c ++ r = '\\' :: e ∧ unescape? e = some (c, r) := by
  unfold controlEscape
  split
  · exact ⟨_, rfl, rfl⟩
  · exact ⟨_, rfl, rfl⟩
  · exact ⟨_, rfl, rfl⟩
  · exact ⟨_, rfl, rfl⟩
  · exact ⟨_, rfl, rfl⟩
  · refine ⟨'u' :: (hexFour c.toNat ++ r), by simp, ?_⟩
    have low : c.toNat < 128 := by
      rcases h with h | rfl | rfl
      · simp only [needsEscape, Bool.or_eq_true, Bool.and_eq_true, decide_eq_true_eq,
          beq_iff_eq] at h
        omega
      · decide
      · decide
    obtain ⟨four, read⟩ := charOfHex?_hexFour c.toNat low
    simp [unescape?, escapeLetter?, hexLength?, List.take_left' four, List.drop_left' four, four,
      read]

/-- How one character stands in front of a text, where escapes are known: as an escape that stands
for it, or as it is, if it fits. -/
inductive Stands (fits : Char → Bool) (c : Char) (next text : List Char) : Prop where
  | escaped (e : List Char) (written : text = '\\' :: e) (read : unescape? e = some (c, next))
  | raw (quote : c ≠ '"') (backslash : c ≠ '\\') (fits : fits c = true)
      (written : text = c :: next)

section

variable {fits : Char → Bool} {c : Char} {next text : List Char}

theorem Stands.leading (h : Stands fits c next text) : leading '"' text = 0 := by
  cases h with
  | escaped e written =>
      rw [written]
      exact leading_cons_ne (by decide) _
  | raw quote _ _ written =>
      rw [written]
      exact leading_cons_ne quote _

theorem Stands.newline? (h : Stands fits c next text) (return_ : fits '\r' = false)
    (line : c ≠ '\n') : newline? text = none := by
  cases h with
  | escaped e written => exact written ▸ newline?_cons (by decide) (by decide) e
  | raw _ _ fits written =>
      refine written ▸ newline?_cons line ?_ next
      rintro rfl
      simp [return_] at fits

end

/-! ## Strings on one line -/

theorem readBasic_stands {c : Char} {next text : List Char} (h : Stands isPlain c next text) :
    readBasic text = withFront c (readBasic next) := by
  cases h with
  | escaped e written read =>
      rw [written, readBasic]
      split
      · next heq =>
          cases read.symm.trans heq
          rfl
      · next heq => cases read.symm.trans heq
  | raw quote backslash plain written =>
      rw [written, readBasic, if_pos plain]
      · exact fun h => quote h
      · exact fun h => backslash h

theorem stands_writeBasic (c : Char) (s tail : List Char) :
    Stands isPlain c (writeBasic s ++ tail) (writeBasic (c :: s) ++ tail) := by
  have text : writeBasic (c :: s) ++ tail =
      (if c = '"' ∨ c = '\\' then ['\\', c]
        else if needsEscape c ∨ c = '\t' ∨ c = '\n' then controlEscape c else [c]) ++
      (writeBasic s ++ tail) := by
    simp [writeBasic]
  rw [text]
  split
  · next marked => exact .escaped _ rfl (by rcases marked with rfl | rfl <;> rfl)
  · next unmarked =>
      rw [not_or] at unmarked
      split
      · next control =>
          obtain ⟨e, written, read⟩ := unescape?_controlEscape control (writeBasic s ++ tail)
          exact .escaped e written read
      · next plain =>
          simp only [not_or, Bool.not_eq_true] at plain
          exact .raw unmarked.1 unmarked.2 (isPlain_of_needsEscape plain.1 plain.2.2) rfl

theorem readBasic_writeBasic (s rest : List Char) :
    readBasic (writeBasic s ++ '"' :: rest) = some (s, rest) := by
  induction s with
  | nil => simp [writeBasic, readBasic]
  | cons c s ih => rw [readBasic_stands (stands_writeBasic c s _), ih, withFront_some]

theorem readLiteral_append {s : List Char}
    (h : ∀ c ∈ s, isPlain c = true ∧ c ≠ '\'') (rest : List Char) :
    readLiteral (s ++ '\'' :: rest) = some (s, rest) := by
  induction s with
  | nil => rfl
  | cons c s ih =>
      obtain ⟨plain, quote⟩ := h c (by simp)
      rw [List.cons_append, readLiteral, if_pos plain, ih fun d hd => h d (by simp [hd]),
        withFront_some]
      exact fun h => quote h

/-! ## The end of a string with three quotes -/

theorem closing?_eq (q : Char) (s : List Char) :
    closing? q s =
      if leading q s < 3 then none
      else some (List.replicate (min (leading q s) 5 - 3) q, s.drop (min (leading q s) 5)) := rfl

theorem closing?_eq_none {q : Char} {s : List Char} (h : leading q s < 3) :
    closing? q s = none := if_pos h

/-- Up to two quotes in front of the closing ones belong to the string. -/
theorem closing?_replicate {q : Char} {n : Nat} {rest : List Char} (few : n ≤ 2)
    (behind : leading q rest = 0) :
    closing? q (List.replicate n q ++ q :: q :: q :: rest) = some (List.replicate n q, rest) := by
  have joined : List.replicate n q ++ q :: q :: q :: rest = List.replicate (n + 3) q ++ rest := by
    rw [← List.replicate_append_replicate, List.append_assoc]
    rfl
  have counted : leading q (List.replicate (n + 3) q ++ rest) = n + 3 := by
    rw [leading_replicate_append, behind]
  have kept : min (n + 3) 5 = n + 3 := by omega
  rw [joined, closing?_eq, counted, kept, if_neg (by omega), Nat.add_sub_cancel,
    List.drop_left' (by simp)]

/-! ## Basic strings with three quotes -/

/-- What stands as it is in a basic string with three quotes. -/
def isPlainOrLine (c : Char) : Bool := isPlain c || c == '\n'

theorem readLongBasic_closing {r s rest : List Char} (h : closing? '"' r = some (s, rest)) :
    readLongBasic r = some (s, rest) := by
  rw [readLongBasic.eq_def, h]

theorem readLongBasic_plain {c : Char} {r : List Char} (plain : isPlain c = true)
    (backslash : c ≠ '\\') (open_ : closing? '"' (c :: r) = none) :
    readLongBasic (c :: r) = withFront c (readLongBasic r) := by
  rw [readLongBasic, open_]
  · exact if_pos plain
  · exact fun h => backslash h
  -- Neither a newline nor a carriage return is plain.
  · rintro rfl
    exact absurd plain (by decide)
  · rintro _ rfl
    exact absurd plain (by decide)

theorem readLongBasic_stands {c : Char} {next text : List Char}
    (h : Stands isPlainOrLine c next text) :
    readLongBasic text = withFront c (readLongBasic next) := by
  have open_ : closing? '"' text = none := closing?_eq_none (by simp [h.leading])
  cases h with
  | escaped e written read =>
      rw [written] at open_ ⊢
      rw [readLongBasic, open_]
      split
      · next heq => cases heq
      · split
        · next heq =>
            cases read.symm.trans heq
            rfl
        · next heq => cases read.symm.trans heq
  | raw quote backslash fits written =>
      rw [written] at open_ ⊢
      rcases Bool.or_eq_true_iff.mp fits with plain | line
      · exact readLongBasic_plain plain backslash open_
      · obtain rfl := eq_of_beq line
        rw [readLongBasic, open_]

/-- One character of a basic string with three quotes: a quote that may stand as it is, or anything
else. -/
theorem writeLongBasic_cons (run : Nat) (c : Char) (s tail : List Char) :
    (c = '"' ∧ run ≠ 2 ∧ writeLongBasic run (c :: s) = c :: writeLongBasic (run + 1) s) ∨
      Stands isPlainOrLine c (writeLongBasic 0 s ++ tail)
        (writeLongBasic run (c :: s) ++ tail) := by
  by_cases quote : c = '"'
  · subst quote
    by_cases full : run = 2
    · exact .inr (.escaped _ (by rw [writeLongBasic, if_pos rfl, if_pos full]; rfl) rfl)
    · exact .inl ⟨rfl, full, by rw [writeLongBasic, if_pos rfl, if_neg full]⟩
  · refine .inr ?_
    rw [writeLongBasic, if_neg quote]
    split
    · next backslash =>
        subst backslash
        exact .escaped _ rfl rfl
    · next backslash =>
        split
        · next control =>
            obtain ⟨e, written, read⟩ := unescape?_controlEscape (control.imp_right .inl)
              (writeLongBasic 0 s ++ tail)
            exact .escaped e (by rw [List.append_assoc, written]) read
        · next plain =>
            simp only [not_or, Bool.not_eq_true] at plain
            refine .raw quote backslash ?_ rfl
            by_cases line : c = '\n'
            · simp [isPlainOrLine, line]
            · simp [isPlainOrLine, isPlain_of_needsEscape plain.1 line]

/-- What is left of a string is a few quotes that are written as they are, or it begins with fewer
quotes than would close it. -/
theorem writeLongBasic_cases (s : List Char) {run : Nat} (few : run ≤ 2) (tail : List Char) :
    (∃ n, s = List.replicate n '"' ∧ n + run ≤ 2 ∧ writeLongBasic run s = s) ∨
      leading '"' (writeLongBasic run s ++ tail) + run ≤ 2 := by
  induction s generalizing run with
  | nil => exact .inl ⟨0, rfl, by omega, rfl⟩
  | cons c s ih =>
      rcases writeLongBasic_cons run c s tail with ⟨rfl, below, written⟩ | stands
      · rw [written, List.cons_append, leading_cons_self]
        have few' : run + 1 ≤ 2 := by omega
        rcases ih few' with ⟨n, rfl, le, same⟩ | short
        · exact .inl ⟨n + 1, rfl, by omega, by rw [same]⟩
        · exact .inr (by omega)
      · rw [stands.leading]
        exact .inr (by omega)

theorem readLongBasic_writeLongBasic (s : List Char) {run : Nat} (few : run ≤ 2)
    {rest : List Char} (behind : leading '"' rest = 0) :
    readLongBasic (writeLongBasic run s ++ '"' :: '"' :: '"' :: rest) = some (s, rest) := by
  induction s generalizing run with
  | nil => exact readLongBasic_closing (closing?_replicate (n := 0) (by omega) behind)
  | cons c s ih =>
      rcases writeLongBasic_cases (c :: s) few ('"' :: '"' :: '"' :: rest) with
        ⟨n, quotes, le, same⟩ | short
      · rw [same, quotes]
        exact readLongBasic_closing (closing?_replicate (by omega) behind)
      · rcases writeLongBasic_cons run c s ('"' :: '"' :: '"' :: rest) with
          ⟨rfl, below, written⟩ | stands
        · have open_ := closing?_eq_none (Nat.lt_succ_of_le (Nat.le_of_add_right_le short))
          rw [written, List.cons_append] at open_ ⊢
          rw [readLongBasic_plain rfl (by decide) open_, ih (by omega), withFront_some]
        · rw [readLongBasic_stands stands, ih (Nat.zero_le _), withFront_some]

/-! ## Runs of quotes -/

/-- The run that a character continues or breaks, and the longest one so far. -/
def runStep (q : Char) : Nat × Nat → Char → Nat × Nat := fun (run, best) c =>
  if c = q then (run + 1, max best (run + 1)) else (0, best)

theorem longestRun_eq (q : Char) (s : List Char) :
    longestRun q s = (s.foldl (runStep q) (0, 0)).2 := rfl

theorem runStep_self (q : Char) (run best : Nat) :
    runStep q (run, best) q = (run + 1, max best (run + 1)) := if_pos rfl

theorem runStep_ne {q c : Char} (h : c ≠ q) (run best : Nat) :
    runStep q (run, best) c = (0, best) := if_neg h

theorem le_foldl_runStep (q : Char) (s : List Char) {run best : Nat} (le : run ≤ best) :
    best ≤ (s.foldl (runStep q) (run, best)).2 ∧
      run + leading q s ≤ (s.foldl (runStep q) (run, best)).2 := by
  induction s generalizing run best with
  | nil => exact ⟨Nat.le_refl _, le⟩
  | cons c s ih =>
      rw [List.foldl_cons]
      by_cases same : c = q
      · subst same
        obtain ⟨most, longest⟩ := ih (Nat.le_max_right best (run + 1))
        rw [runStep_self, leading_cons_self]
        omega
      · obtain ⟨most, -⟩ := ih (Nat.zero_le best)
        rw [runStep_ne same, leading_cons_ne same]
        omega

theorem leading_le_longestRun (q : Char) (s : List Char) : leading q s ≤ longestRun q s := by
  simpa [longestRun_eq] using (le_foldl_runStep q s (Nat.le_refl 0)).2

theorem foldl_runStep_mono (q : Char) (s : List Char) {run best run' best' : Nat}
    (runs : run ≤ run') (bests : best ≤ best') :
    (s.foldl (runStep q) (run, best)).2 ≤ (s.foldl (runStep q) (run', best')).2 := by
  induction s generalizing run best run' best' with
  | nil => exact bests
  | cons c s ih =>
      rw [List.foldl_cons, List.foldl_cons]
      by_cases same : c = q
      · rw [same, runStep_self, runStep_self]
        exact ih (by omega) (by omega)
      · rw [runStep_ne same, runStep_ne same]
        exact ih (Nat.le_refl _) bests

theorem longestRun_tail (q c : Char) (s : List Char) : longestRun q s ≤ longestRun q (c :: s) := by
  rw [longestRun_eq, longestRun_eq, List.foldl_cons]
  exact foldl_runStep_mono q s (Nat.zero_le _) (Nat.zero_le _)

theorem not_mem_of_longestRun {q : Char} {s : List Char} (h : longestRun q s = 0) : q ∉ s := by
  induction s with
  | nil => simp
  | cons c s ih =>
      have tail := longestRun_tail q c s
      have front := leading_le_longestRun q (c :: s)
      rw [List.mem_cons, not_or]
      refine ⟨?_, ih (by omega)⟩
      rintro rfl
      rw [leading_cons_self] at front
      omega

/-! ## Literal strings with three quotes -/

theorem readLongLiteral_closing {r s rest : List Char} (h : closing? '\'' r = some (s, rest)) :
    readLongLiteral r = some (s, rest) := by
  rw [readLongLiteral.eq_def, h]

theorem readLongLiteral_newline (r : List Char) :
    readLongLiteral ('\n' :: r) = withFront '\n' (readLongLiteral r) := by
  rw [readLongLiteral, closing?_eq_none (by simp [leading_cons_ne])]

theorem readLongLiteral_plain {c : Char} {r : List Char} (plain : isPlain c = true)
    (open_ : closing? '\'' (c :: r) = none) :
    readLongLiteral (c :: r) = withFront c (readLongLiteral r) := by
  rw [readLongLiteral, open_]
  · exact if_pos plain
  · rintro rfl
    exact absurd plain (by decide)
  · rintro _ rfl
    exact absurd plain (by decide)

theorem readLongLiteral_append {s : List Char} (h : ∀ c ∈ s, needsEscape c = false)
    (few : longestRun '\'' s ≤ 2) {rest : List Char} (behind : leading '\'' rest = 0) :
    readLongLiteral (s ++ '\'' :: '\'' :: '\'' :: rest) = some (s, rest) := by
  induction s with
  | nil => exact readLongLiteral_closing (closing?_replicate (n := 0) (by omega) behind)
  | cons c s ih =>
      have front := leading_le_longestRun '\'' (c :: s)
      rcases leading_append '\'' (c :: s) ('\'' :: '\'' :: '\'' :: rest) with quotes | short
      · rw [quotes]
        exact readLongLiteral_closing (closing?_replicate (by omega) behind)
      · have open_ := closing?_eq_none (q := '\'') (s := c :: s ++ '\'' :: '\'' :: '\'' :: rest)
          (by omega)
        have tail := ih (fun d hd => h d (by simp [hd]))
          (Nat.le_trans (longestRun_tail _ c s) few)
        rw [List.cons_append] at open_ ⊢
        by_cases line : c = '\n'
        · rw [line, readLongLiteral_newline, tail, withFront_some]
        · have plain := isPlain_of_needsEscape (h c (by simp)) line
          rw [readLongLiteral_plain plain open_, tail, withFront_some]

/-! ## The newline behind the opening quotes -/

/-- The first newline of a string is kept: one more stands in front of the string. -/
theorem dropFirstNewline_append {s body : List Char} (h : '\n' ∉ s → newline? body = none) :
    dropFirstNewline (firstNewline s ++ body) = body := by
  unfold firstNewline
  split
  · rfl
  · next none => simp [dropFirstNewline, h (by simpa using none)]

theorem newline?_writeLongBasic {s : List Char} (h : '\n' ∉ s) (tail : List Char) :
    newline? (writeLongBasic 0 s ++ '"' :: tail) = none := by
  cases s with
  | nil => rfl
  | cons c s =>
      rcases writeLongBasic_cons 0 c s ('"' :: tail) with ⟨rfl, -, written⟩ | stands
      · rw [written]
        rfl
      · exact stands.newline? rfl fun line => h (by simp [line])

theorem newline?_literal {s : List Char} (h : ∀ c ∈ s, needsEscape c = false) (line : '\n' ∉ s)
    (tail : List Char) : newline? (s ++ '\'' :: tail) = none := by
  cases s with
  | nil => rfl
  | cons c s =>
      have return_ : c ≠ '\r' := by
        rintro rfl
        exact absurd (h '\r' (by simp)) (by decide)
      exact newline?_cons (fun is => line (by simp [is])) return_ _

/-! ## Strings of any form -/

/-- What the forms without escapes are chosen for. -/
theorem fits_formOf (s : List Char) :
    (formOf s = .literal →
      (∀ c ∈ s, needsEscape c = false) ∧ longestRun '\'' s = 0 ∧ '\n' ∉ s) ∧
    (formOf s = .longLiteral → (∀ c ∈ s, needsEscape c = false) ∧ longestRun '\'' s ≤ 2) := by
  unfold formOf
  simp only
  split
  · exact ⟨nofun, nofun⟩
  · split
    · next fits => exact ⟨fun _ => by simpa [and_assoc] using fits, nofun⟩
    · split
      · exact ⟨nofun, nofun⟩
      · split
        · next fits => exact ⟨nofun, fun _ => by simpa using fits⟩
        · split <;> exact ⟨nofun, nofun⟩

theorem plain_of_formOf {s : List Char} (h : formOf s = .literal) :
    ∀ c ∈ s, isPlain c = true ∧ c ≠ '\'' := by
  obtain ⟨plain, single, line⟩ := (fits_formOf s).1 h
  intro c hc
  exact ⟨isPlain_of_needsEscape (plain c hc) (ne_of_mem_of_not_mem hc line),
    ne_of_mem_of_not_mem hc (not_mem_of_longestRun single)⟩

theorem readString_double {r : List Char} (h : leading '"' r ≤ 1) :
    readString ('"' :: r) = readBasic r := by
  unfold readString
  split
  · next heq =>
      cases heq
      simp at h
  · next heq => cases heq
  · next heq => cases heq; rfl
  · next heq => cases heq
  · next none _ => exact (none _ rfl).elim

theorem readString_single {r : List Char} (h : leading '\'' r ≤ 1) :
    readString ('\'' :: r) = readLiteral r := by
  unfold readString
  split
  · next heq => cases heq
  · next heq =>
      cases heq
      simp at h
  · next heq => cases heq
  · next heq => cases heq; rfl
  · next none => exact (none _ rfl).elim

theorem leading_writeBasic (s : List Char) {rest : List Char} (behind : leading '"' rest = 0) :
    leading '"' (writeBasic s ++ '"' :: rest) ≤ 1 := by
  cases s with
  | nil => simp [writeBasic, behind]
  | cons c s =>
      rw [(stands_writeBasic c s _).leading]
      exact Nat.zero_le _

theorem leading_literal {s : List Char} (h : ∀ c ∈ s, isPlain c = true ∧ c ≠ '\'')
    {rest : List Char} (behind : leading '\'' rest = 0) :
    leading '\'' (s ++ '\'' :: rest) ≤ 1 := by
  cases s with
  | nil => simp [behind]
  | cons c s =>
      rw [List.cons_append, leading_cons_ne (h c (by simp)).2]
      exact Nat.zero_le _

/-- **A string is read as it was written**, whatever it contains, and what follows its closing
quotes is left, provided that this is not another quote. -/
theorem readString_writeString (s : List Char) {rest : List Char} (double : leading '"' rest = 0)
    (single : leading '\'' rest = 0) : readString (writeString s ++ rest) = some (s, rest) := by
  unfold writeString
  split
  · simp only [List.append_assoc, List.cons_append, List.nil_append]
    rw [readString_double (leading_writeBasic s double), readBasic_writeBasic]
  · next form =>
      have plain := plain_of_formOf form
      simp only [List.append_assoc, List.cons_append, List.nil_append]
      rw [readString_single (leading_literal plain single), readLiteral_append plain]
  · simp only [List.append_assoc, List.cons_append, List.nil_append, readString]
    rw [dropFirstNewline_append fun line => newline?_writeLongBasic line _,
      readLongBasic_writeLongBasic s (Nat.zero_le _) double]
  · next form =>
      obtain ⟨plain, few⟩ := (fits_formOf s).2 form
      simp only [List.append_assoc, List.cons_append, List.nil_append, readString]
      rw [dropFirstNewline_append fun line => newline?_literal plain line _,
        readLongLiteral_append plain few single]

end CallBridge.Toml
