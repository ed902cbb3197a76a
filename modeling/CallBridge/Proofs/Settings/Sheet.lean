import CallBridge.Proofs.Toml.Numbers
import CallBridge.Proofs.Toml.Strings
import CallBridge.Settings.Render
import CallBridge.Toml.Document

/-!
# Sheets: documents of plain sections

A sheet is a document that consists of sections, each with a header and its assignments, with an
empty line between any two. Names and keys are bare, and values are strings and numbers. Settings
are written as a sheet. The main statement is `document?_sheetChars`: a sheet is read as the
sections that it was written from.

`Builds` says what a reader makes of a text and of the draft that it has so far. It has one rule for
each kind of line, and the sheet follows from those.
-/

namespace CallBridge.Settings

open Toml

/-! ## Keys -/

/-- A name that needs no quotes. -/
def Bare (name : String) : Prop := name.toList ≠ [] ∧ name.toList.all isBareKeyChar = true

instance (name : String) : Decidable (Bare name) := inferInstanceAs (Decidable (_ ∧ _))

theorem other_of_isBareKeyChar {c : Char} (h : isBareKeyChar c = true) :
    isBlank c = false ∧ c ≠ '#' ∧ c ≠ '\n' ∧ c ≠ '\r' ∧ c ≠ '[' ∧ c ≠ '"' ∧ c ≠ '\'' := by
  refine ⟨Bool.eq_false_iff.mpr fun blank => ?_, ?_, ?_, ?_, ?_, ?_, ?_⟩
  · simp only [isBlank, Bool.or_eq_true, beq_iff_eq] at blank
    rcases blank with rfl | rfl <;> exact absurd h (by decide)
  all_goals
    rintro rfl
    exact absurd h (by decide)

theorem Bare.cons {name : String} (bare : Bare name) :
    ∃ c cs, name.toList = c :: cs ∧ isBareKeyChar c = true := by
  obtain ⟨some_chars, all⟩ := bare
  obtain ⟨c, cs, chars⟩ := List.exists_cons_of_ne_nil some_chars
  exact ⟨c, cs, chars, List.all_eq_true.mp all c (by simp [chars])⟩

theorem readKeyPart_bare {name : String} (bare : Bare name) {d : Char}
    (ends : isBareKeyChar d = false) (r : List Char) :
    readKeyPart (name.toList ++ d :: r) =
      some (⟨name, (name.toList ++ d :: r).length⟩, d :: r) := by
  have front : (name.toList ++ d :: r).takeWhile isBareKeyChar = name.toList := by
    rw [List.takeWhile_append_of_pos (List.all_eq_true.mp bare.2)]
    simp [ends]
  have back : (name.toList ++ d :: r).dropWhile isBareKeyChar = d :: r := by
    rw [List.dropWhile_append_of_pos (List.all_eq_true.mp bare.2)]
    simp [ends]
  have named : (name.toList).isEmpty = false := by simpa using bare.1
  obtain ⟨c, cs, chars, first⟩ := bare.cons
  obtain ⟨-, -, -, -, -, double, single⟩ := other_of_isBareKeyChar first
  have unquoted {q : Char} (quote : c ≠ q) (t : List Char) : name.toList ++ d :: r ≠ q :: t := by
    rw [chars]
    exact fun heq => quote (List.cons.inj heq).1
  unfold readKeyPart
  split
  · next heq => exact absurd heq (unquoted double _)
  · next heq => exact absurd heq (unquoted single _)
  · next heq => exact absurd heq (unquoted double _)
  · next heq => exact absurd heq (unquoted single _)
  · simp only [front, back, named, String.ofList_toList]
    rfl

/-- A bare part of a key is read with the blanks behind it; without a dot there it is the last. -/
theorem readPath_bare {name : String} (bare : Bare name) (fuel : Nat) {d : Char}
    (ends : isBareKeyChar d = false) {r : List Char}
    (undotted : ∀ t, dropBlanks (d :: r) ≠ '.' :: t) :
    ∃ k, k.name = name ∧
      readPath (fuel + 1) (name.toList ++ d :: r) = some (([], k), dropBlanks (d :: r)) := by
  refine ⟨⟨name, (name.toList ++ d :: r).length⟩, rfl, ?_⟩
  rw [readPath, readKeyPart_bare bare ends]
  simp only [Option.bind_eq_bind, Option.bind_some]

theorem readKey_bare {name : String} (bare : Bare name) {d : Char}
    (ends : isBareKeyChar d = false) {r : List Char}
    (undotted : ∀ t, dropBlanks (d :: r) ≠ '.' :: t) :
    ∃ k, k.name = name ∧
      readKey (name.toList ++ d :: r) = some (([], k), dropBlanks (d :: r)) :=
  readPath_bare bare _ ends undotted

/-! ## Values -/

/-- A character that ends whatever is written without quotes, and is no quote. -/
structure Ends (d : Char) : Prop where
  unscalar : isScalarChar d = false
  undouble : d ≠ '"'
  unsingle : d ≠ '\''

theorem ends_newline : Ends '\n' := ⟨by decide, by decide, by decide⟩

/-- A character that is not skipped in front of a value. -/
structure Begins (c : Char) : Prop where
  unblank : isBlank c = false
  unbroken : c ≠ '\n' ∧ c ≠ '\r'
  uncommented : c ≠ '#'

/-- How a value is written: it is read at any depth, up to a character that ends it, and nothing
that is skipped stands in front. -/
structure Writes (w : List Char) (v : Value) : Prop where
  first : ∃ c cs, w = c :: cs ∧ Begins c
  read : ∀ depth {d : Char}, Ends d → ∀ rest,
    readNested depth (w ++ d :: rest) = some (v, d :: rest)

theorem dropBlanks_cons {c : Char} (h : isBlank c = false) (r : List Char) :
    dropBlanks (c :: r) = c :: r := by
  simp [dropBlanks, h]

theorem Writes.unblank {w : List Char} {v : Value} (writes : Writes w v) (rest : List Char) :
    dropBlanks (w ++ rest) = w ++ rest := by
  obtain ⟨c, cs, rfl, begins⟩ := writes.first
  exact dropBlanks_cons begins.unblank _

theorem writeString_cons (s : List Char) :
    ∃ q r, writeString s = q :: r ∧ (q = '"' ∨ q = '\'') := by
  unfold writeString
  split
  · exact ⟨_, _, rfl, .inl rfl⟩
  · exact ⟨_, _, rfl, .inr rfl⟩
  · exact ⟨_, _, rfl, .inl rfl⟩
  · exact ⟨_, _, rfl, .inr rfl⟩

theorem readNested_quote (depth : Nat) {q : Char} (quote : q = '"' ∨ q = '\'') (r : List Char) :
    readNested depth (q :: r) =
      (readString (q :: r)).map fun (cs, r) => (.text (String.ofList cs), r) := by
  rcases quote with rfl | rfl <;> cases depth <;> rfl

theorem writes_text (s : String) : Writes (writeText s) (.text s) := by
  obtain ⟨q, r, written, quote⟩ := writeString_cons s.toList
  constructor
  · refine ⟨q, r, written, ?_⟩
    rcases quote with rfl | rfl <;> exact ⟨by decide, by decide, by decide⟩
  · intro depth d ends rest
    have unquoted {q : Char} (h : d ≠ q) : leading q (d :: rest) = 0 := leading_cons_ne h rest
    have read := readString_writeString s.toList (unquoted ends.undouble) (unquoted ends.unsingle)
    rw [written] at read
    rw [writeText, written, List.cons_append, readNested_quote depth quote, ← List.cons_append,
      read]
    simp

theorem readNested_digit (depth : Nat) {c : Char} (digit : c.isDigit = true) (r : List Char) :
    readNested depth (c :: r) = readScalar (c :: r) := by
  have other {d : Char} (h : d.isDigit = false) : c ≠ d := by
    rintro rfl
    simp [digit] at h
  unfold readNested
  split
  · next bracket => exact absurd (List.cons.inj bracket).1 (other rfl)
  · next brace => exact absurd (List.cons.inj brace).1 (other rfl)
  · split
    · next quote => exact absurd (List.cons.inj quote).1 (other rfl)
    · next quote => exact absurd (List.cons.inj quote).1 (other rfl)
    · rfl

theorem begins_of_isDigit {c : Char} (digit : c.isDigit = true) : Begins c := by
  refine ⟨Bool.eq_false_iff.mpr fun blank => ?_, ⟨?_, ?_⟩, ?_⟩
  · simp only [isBlank, Bool.or_eq_true, beq_iff_eq] at blank
    rcases blank with rfl | rfl <;> exact absurd digit (by decide)
  all_goals
    rintro rfl
    exact absurd digit (by decide)

theorem writes_count {n : Nat} (h : n < 0x10000000000000000) :
    Writes (writeCount n) (.integer n) := by
  obtain ⟨c, cs, written⟩ := List.exists_cons_of_ne_nil (Nat.toDigits_ne_nil (b := 10) (n := n))
  have digit : c.isDigit = true := isDigit_toDigits n c (by simp [written])
  constructor
  · exact ⟨c, cs, written, begins_of_isDigit digit⟩
  · intro depth d ends rest
    rw [writeCount, written, List.cons_append, readNested_digit depth digit, ← List.cons_append,
      ← written, readScalar_toDigits h ends.unscalar]

/-! ## Statements -/

theorem readStatement_header {name : String} (bare : Bare name) (rest : List Char) :
    ∃ k m, k.name = name ∧
      readStatement ('[' :: (name.toList ++ ']' :: rest)) = some (.table [] k m, rest) := by
  obtain ⟨c, cs, chars, first⟩ := bare.cons
  obtain ⟨unblank, -, -, -, bracket, -⟩ := other_of_isBareKeyChar first
  have plain : dropBlanks (name.toList ++ ']' :: rest) = name.toList ++ ']' :: rest := by
    rw [chars, List.cons_append, dropBlanks_cons unblank]
  obtain ⟨k, named, read⟩ := readKey_bare bare (d := ']') (by decide) (r := rest) (by
    intro t dotted
    rw [dropBlanks_cons (by decide)] at dotted
    exact absurd (List.cons.inj dotted).1 (by decide))
  refine ⟨k, (name.toList ++ ']' :: rest).length + 1, named, ?_⟩
  have header : readHeader ((name.toList ++ ']' :: rest).length + 1) (name.toList ++ ']' :: rest) =
      some (.table [] k ((name.toList ++ ']' :: rest).length + 1), rest) := by
    unfold readHeader
    split
    · next element =>
        rw [chars] at element
        exact absurd (List.cons.inj element).1 bracket
    · rw [plain, read]
      rfl
  exact header

/-- An assignment is read when its key and its value are. `w` is the text from the value on. -/
theorem readAssignment_of (between : List Char → List Char) {value : Reader Value}
    {s w r : List Char} {path : List Toml.Key} {k : Toml.Key} {v : Value}
    (key : readKey s = some ((path, k), '=' :: ' ' :: w))
    (equals : between ('=' :: ' ' :: w) = '=' :: ' ' :: w) (gap : between (' ' :: w) = w)
    (read : value w = some (v, r)) :
    readAssignment between value s = some ((path, k, w.length, v), r) := by
  simp only [readAssignment, key, equals, Option.bind_eq_bind, Option.bind_some, gap, read]

theorem readStatement_bare {c : Char} (first : isBareKeyChar c = true) (cs : List Char) :
    readStatement (c :: cs) =
      (readAssignment dropBlanks readValue (c :: cs)).map fun (a, r) => (.assign a, r) := by
  obtain ⟨-, -, -, -, bracket, -⟩ := other_of_isBareKeyChar first
  unfold readStatement
  split
  · next header => exact absurd (List.cons.inj header).1 bracket
  · rfl

theorem readPath_equals {key : String} (bare : Bare key) (fuel : Nat) (r : List Char) :
    ∃ k, k.name = key ∧
      readPath (fuel + 1) (key.toList ++ ' ' :: '=' :: r) = some (([], k), '=' :: r) := by
  refine readPath_bare bare fuel (d := ' ') (by decide) ?_
  intro t dotted
  exact absurd (List.cons.inj dotted).1 (by decide)

theorem readStatement_assign {key : String} (bare : Bare key) {w : List Char} {v : Value}
    (writes : Writes w v) (rest : List Char) :
    ∃ k m, k.name = key ∧
      readStatement (key.toList ++ ' ' :: '=' :: ' ' :: (w ++ '\n' :: rest)) =
        some (.assign ([], k, m, v), '\n' :: rest) := by
  obtain ⟨c, cs, chars, first⟩ := bare.cons
  obtain ⟨k, named, key_read⟩ := readPath_equals bare _ (' ' :: (w ++ '\n' :: rest))
  have assigned := readAssignment_of dropBlanks key_read rfl (writes.unblank _)
    (writes.read maxDepth ends_newline rest)
  rw [chars, List.cons_append] at assigned ⊢
  refine ⟨k, (w ++ '\n' :: rest).length, named, ?_⟩
  rw [readStatement_bare first]
  exact congrArg _ assigned

/-! ## Lines -/

/-- The reader carries out all statements of a text on one draft and gets another. -/
def Builds (s : List Char) (d d' : Draft) : Prop :=
  ∀ fuel, s.length < fuel →
    ((readStatements fuel s).bind fun sts => sts.foldlM Draft.add d) = some d'

theorem builds_nil (d : Draft) : Builds [] d d := by
  rintro (_ | fuel) enough
  · cases enough
  · rfl

theorem builds_newline {s : List Char} {d d' : Draft} (h : Builds s d d') :
    Builds ('\n' :: s) d d' := by
  rintro (_ | fuel) enough
  · cases enough
  · exact h fuel (Nat.lt_of_succ_lt_succ enough)

/-- A line with a statement that begins with a bracket or a bare key. -/
theorem builds_statement {c : Char} {cs s : List Char} {st : Statement} {d d₁ d' : Draft}
    (first : c = '[' ∨ isBareKeyChar c = true)
    (read : readStatement (c :: (cs ++ '\n' :: s)) = some (st, '\n' :: s))
    (add : d.add st = some d₁) (h : Builds s d₁ d') : Builds (c :: (cs ++ '\n' :: s)) d d' := by
  have other : isBlank c = false ∧ c ≠ '#' ∧ c ≠ '\n' ∧ c ≠ '\r' := by
    rcases first with rfl | bare
    · decide
    · obtain ⟨blank, comment, line, return_, -⟩ := other_of_isBareKeyChar bare
      exact ⟨blank, comment, line, return_⟩
  obtain ⟨blank, comment, line, return_⟩ := other
  have unblank := dropBlanks_cons blank (cs ++ '\n' :: s)
  have goes_on := newline?_cons line return_ (cs ++ '\n' :: s)
  rintro (_ | fuel) enough
  · cases enough
  · have rest := h fuel (by simp at enough; omega)
    have ended : endLine? ('\n' :: s) = some s := rfl
    obtain ⟨sts, statements, built⟩ := Option.bind_eq_some_iff.mp rest
    rw [readStatements, unblank]
    split
    · next heq => cases heq
    · next heq => exact absurd (List.cons.inj heq).1 comment
    · simp [goes_on, read, ended, statements, add, built]

/-! ## Drafts -/

def New (name : String) (es : Entries) : Prop := ∀ e ∈ es, e.1.name ≠ name

theorem new_nil (name : String) : New name [] := nofun

theorem find?_new {name : String} {es : Entries} (h : New name es) :
    Entries.find? es name = none := by
  simpa [Entries.find?, New] using h

theorem find?_last {k : Toml.Key} {es : Entries} {m : Mark} {v : Value} {name : String}
    (h : New name es) (named : k.name = name) :
    Entries.find? (es ++ [(k, m, v)]) name = some (k, m, v) := by
  have none := find?_new h
  unfold Entries.find? at none ⊢
  simp [List.find?_append, none, named]

theorem replace_last {k : Toml.Key} {es : Entries} {m : Mark} {v v' : Value} {name : String}
    (h : New name es) (named : k.name = name) :
    Entries.replace (es ++ [(k, m, v)]) name v' = es ++ [(k, m, v')] := by
  have same : es.map (fun e => if e.1.name == name then (e.1, e.2.1, v') else e) = es.map id :=
    List.map_congr_left fun e he => if_neg (by simpa using h e he)
  rw [Entries.replace, List.map_append, same]
  simp [named]

theorem add_header {d : Draft} {k : Toml.Key} (m : Mark) (h : New k.name d.root.entries) :
    d.add (.table [] k m) =
      some { root := { d.root with entries := d.root.entries ++ [(k, m, .table .header [])] }
             opened := [k] } := by
  simp [Draft.add, Table.openTable, Table.alter, find?_new h, Table.add]

/-- The draft in which the table `sk` was opened last, with the entries `fs` so far. -/
def draft (es : Entries) (sk : Toml.Key) (sm : Mark) (fs : Entries) : Draft where
  root := { form := .header, entries := es ++ [(sk, sm, .table .header fs)] }
  opened := [sk]

theorem add_assign {es fs : Entries} {k sk : Toml.Key} (m sm : Mark) (v : Value)
    (section_ : New sk.name es) (key : New k.name fs) :
    (draft es sk sm fs).add (.assign ([], k, m, v)) =
      some (draft es sk sm (fs ++ [(k, m, v)])) := by
  simp [draft, Draft.add, Table.alter, find?_last section_, replace_last section_, passes,
    Table.assign, Table.add, find?_new key]

/-! ## Sections -/

/-- One assignment of a section, with its value as it is written. -/
structure Row where
  key : String
  written : List Char
  value : Value

/-- A header and its assignments. -/
structure Section where
  name : String
  rows : List Row

def Row.chars (r : Row) : List Char := assignLine r.key r.written

def Section.chars (s : Section) : List Char := headerLine s.name ++ s.rows.flatMap Row.chars

/-- Sections with an empty line between any two. -/
def sheetChars : List Section → List Char
  | [] => []
  | [s] => s.chars
  | s :: rest => s.chars ++ '\n' :: sheetChars rest

/-- The key is bare, and the value is written in one of its ways. -/
structure Row.Fits (r : Row) : Prop where
  bare : Bare r.key
  writes : Writes r.written r.value

structure Section.Fits (s : Section) : Prop where
  bare : Bare s.name
  rows : ∀ r ∈ s.rows, r.Fits
  distinct : (s.rows.map Row.key).Nodup

/-- What entries say, without the places where they stand. -/
def outline (es : Entries) : List (String × Value) := es.map fun e => (e.1.name, e.2.2)

/-- What an entry says of a section. -/
def sectionOutline? : Toml.Key × Mark × Value → Option (String × List (String × Value))
  | (k, _, .table .header fs) => some (k.name, outline fs)
  | _ => none

def Section.outline (s : Section) : String × List (String × Value) :=
  (s.name, s.rows.map fun r => (r.key, r.value))

theorem new_append {name : String} {es fs : Entries} :
    New name (es ++ fs) ↔ New name es ∧ New name fs := by
  simp [New, or_imp, forall_and]

/-- The keys behind the first one are still new when that is there. -/
theorem new_behind {r : Row} {rows : List Row} (distinct : ((r :: rows).map Row.key).Nodup)
    {fs : Entries} (new : ∀ r' ∈ r :: rows, New r'.key fs) {k : Toml.Key} (named : k.name = r.key)
    (m : Mark) (v : Value) : ∀ r' ∈ rows, New r'.key (fs ++ [(k, m, v)]) := by
  intro r' hr'
  refine new_append.mpr ⟨new r' (by simp [hr']), ?_⟩
  rw [List.map_cons, List.nodup_cons] at distinct
  have other : r.key ≠ r'.key := fun same => distinct.1 (same ▸ List.mem_map_of_mem hr')
  simpa [New, named] using other

theorem builds_rows {rows : List Row} (fits : ∀ r ∈ rows, r.Fits)
    (distinct : (rows.map Row.key).Nodup) {es fs : Entries} {sk : Toml.Key} (sm : Mark)
    (section_ : New sk.name es) (new : ∀ r ∈ rows, New r.key fs) (s : List Char) :
    ∃ gs, Settings.outline gs = rows.map (fun r => (r.key, r.value)) ∧
      ∀ d', Builds s (draft es sk sm (fs ++ gs)) d' →
        Builds (rows.flatMap Row.chars ++ s) (draft es sk sm fs) d' := by
  induction rows generalizing fs with
  | nil => exact ⟨[], rfl, fun d' h => by simpa using h⟩
  | cons r rows ih =>
      obtain ⟨bare, writes⟩ := fits r (by simp)
      obtain ⟨c, cs, chars, first⟩ := bare.cons
      obtain ⟨k, m, named, read⟩ := readStatement_assign bare writes (rows.flatMap Row.chars ++ s)
      have later := new_behind distinct new named m r.value
      rw [List.map_cons, List.nodup_cons] at distinct
      obtain ⟨gs, outlined, builds⟩ := ih (fun r' hr' => fits r' (by simp [hr'])) distinct.2 later
      refine ⟨(k, m, r.value) :: gs, ?_, fun d' h => ?_⟩
      · simp [Settings.outline, named] at outlined ⊢
        exact outlined
      · have rest := builds d' (by simpa using h)
        have key : New k.name fs := named ▸ new r (by simp)
        have text : (r :: rows).flatMap Row.chars ++ s =
            c :: ((cs ++ ' ' :: '=' :: ' ' :: r.written) ++
              '\n' :: (rows.flatMap Row.chars ++ s)) := by
          simp [Row.chars, assignLine, chars]
        rw [text]
        refine builds_statement (.inr first) ?_ (add_assign m sm r.value section_ key) rest
        simpa [chars] using read

/-- A section is one more entry, which says what the section does. -/
theorem builds_section {p : Section} (fits : p.Fits) {es : Entries} (new : New p.name es)
    (opened : List Toml.Key) (s : List Char) :
    ∃ e opened', sectionOutline? e = some p.outline ∧
      ∀ d', Builds s ⟨⟨.header, es ++ [e]⟩, opened'⟩ d' →
        Builds (p.chars ++ s) ⟨⟨.header, es⟩, opened⟩ d' := by
  obtain ⟨k, m, named, read⟩ :=
    readStatement_header fits.bare ('\n' :: (p.rows.flatMap Row.chars ++ s))
  have section_ : New k.name es := named ▸ new
  obtain ⟨gs, outlined, builds⟩ := builds_rows fits.rows fits.distinct m section_
    (fun r _ => new_nil r.key) s
  refine ⟨(k, m, .table .header gs), [k], ?_, fun d' h => ?_⟩
  · simp [sectionOutline?, named, Section.outline, outlined]
  · have text : p.chars ++ s =
        '[' :: ((p.name.toList ++ [']']) ++ '\n' :: (p.rows.flatMap Row.chars ++ s)) := by
      simp [Section.chars, headerLine]
    rw [text]
    refine builds_statement (.inl rfl) ?_ (add_header m section_) (builds d' h)
    simpa using read

theorem name_of_sectionOutline {e : Toml.Key × Mark × Value} {p : Section}
    (h : sectionOutline? e = some p.outline) : e.1.name = p.name := by
  unfold sectionOutline? at h
  split at h
  · exact congrArg Prod.fst (Option.some.inj h)
  · cases h

theorem builds_sheet {sheet : List Section} (fits : ∀ p ∈ sheet, p.Fits)
    (distinct : (sheet.map Section.name).Nodup) {es : Entries}
    (new : ∀ p ∈ sheet, New p.name es) (opened : List Toml.Key) :
    ∃ gs opened', gs.map sectionOutline? = sheet.map (fun p => some p.outline) ∧
      Builds (sheetChars sheet) ⟨⟨.header, es⟩, opened⟩ ⟨⟨.header, es ++ gs⟩, opened'⟩ := by
  induction sheet using sheetChars.induct generalizing es opened with
  | case1 => exact ⟨[], opened, rfl, by simpa [sheetChars] using builds_nil _⟩
  | case2 p =>
      obtain ⟨e, opened', outlined, builds⟩ :=
        builds_section (fits p (by simp)) (new p (by simp)) opened []
      refine ⟨[e], opened', by simp [outlined], ?_⟩
      simpa [sheetChars] using builds _ (builds_nil _)
  | case3 p rest more ih =>
      obtain ⟨e, opened', outlined, builds⟩ :=
        builds_section (fits p (by simp)) (new p (by simp)) opened ('\n' :: sheetChars rest)
      rw [List.map_cons, List.nodup_cons] at distinct
      have later : ∀ p' ∈ rest, New p'.name (es ++ [e]) := by
        intro p' hp'
        refine new_append.mpr ⟨new p' (by simp [hp']), ?_⟩
        have other : p.name ≠ p'.name := fun same => distinct.1 (same ▸ List.mem_map_of_mem hp')
        simpa [New, name_of_sectionOutline outlined] using other
      obtain ⟨gs, opened'', outlined', builds'⟩ :=
        ih (fun p' hp' => fits p' (by simp [hp'])) distinct.2 later opened'
      refine ⟨e :: gs, opened'', by simp [outlined, outlined'], ?_⟩
      rw [sheetChars]
      · exact builds _ (builds_newline (by simpa using builds'))
      · exact more

theorem dropByteOrderMark_sheetChars (sheet : List Section) :
    dropByteOrderMark (sheetChars sheet) = sheetChars sheet := by
  match sheet with
  | [] => rfl
  | [_] => rfl
  | _ :: _ :: _ => rfl

/-- **A sheet is read as the sections that it was written from.** -/
theorem document?_sheetChars {sheet : List Section} (fits : ∀ p ∈ sheet, p.Fits)
    (distinct : (sheet.map Section.name).Nodup) :
    ∃ es, document? (sheetChars sheet) = some es ∧
      es.map sectionOutline? = sheet.map (fun p => some p.outline) := by
  obtain ⟨es, opened, outlined, builds⟩ :=
    builds_sheet fits distinct (fun p _ => new_nil p.name) []
  refine ⟨es, ?_, outlined⟩
  have built := builds _ (Nat.lt_succ_self _)
  obtain ⟨sts, statements, drafted⟩ := Option.bind_eq_some_iff.mp built
  simp [document?, statements?, dropByteOrderMark_sheetChars, statements, drafted]

end CallBridge.Settings
