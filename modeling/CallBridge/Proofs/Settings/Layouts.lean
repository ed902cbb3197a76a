import CallBridge.Proofs.Settings.Sections

/-!
# Three ways to write a section

A section can be written below a header, as an inline table behind its name, or as assignments to
dotted keys. Headers come last in a document, for what follows one belongs to its table. Whichever
way is chosen for each section, the document has one table for each, with the fields of the section.
-/

namespace CallBridge.Settings

open Toml

/-! ## Inline tables -/

theorem begins_of_isBareKeyChar {c : Char} (h : isBareKeyChar c = true) : Begins c := by
  obtain ⟨blank, comment, line, return_, -⟩ := other_of_isBareKeyChar h
  exact ⟨blank, ⟨line, return_⟩, comment⟩

theorem dropGap_blank (s : List Char) : dropGap (' ' :: s) = dropGap s := by
  rw [dropGap]

theorem dropGap_begins {c : Char} (h : Begins c) (s : List Char) : dropGap (c :: s) = c :: s := by
  obtain ⟨blank, ⟨line, return_⟩, comment⟩ := h
  unfold dropGap
  split
  · next heq =>
      cases heq
      cases blank
  · next heq =>
      cases heq
      cases blank
  · next heq => exact absurd (List.cons.inj heq).1 line
  · next heq => exact absurd (List.cons.inj heq).1 return_
  · next heq => exact absurd (List.cons.inj heq).1 comment
  · rfl

theorem Writes.ungap {w : List Char} {v : Value} (writes : Writes w v) (rest : List Char) :
    dropGap (' ' :: (w ++ rest)) = w ++ rest := by
  obtain ⟨c, cs, rfl, begins⟩ := writes.first
  rw [dropGap_blank]
  exact dropGap_begins begins _

/-- A key and its value, as they are written between braces. -/
def Row.pair (r : Row) : List Char := r.key.toList ++ ' ' :: '=' :: ' ' :: r.written

/-- Pairs with commas between them, and the closing brace. -/
def pairsChars : List Row → List Char
  | [] => ['}']
  | [r] => r.pair ++ [' ', '}']
  | r :: rows => r.pair ++ ',' :: ' ' :: pairsChars rows

theorem readAssignment_pair {r : Row} (fits : r.Fits) (depth : Nat) {d : Char} (ends : Ends d)
    (rest : List Char) :
    ∃ k m, k.name = r.key ∧ readAssignment dropGap (readNested depth) (r.pair ++ d :: rest) =
      some (([], k, m, r.value), d :: rest) := by
  obtain ⟨k, named, key⟩ := readPath_equals fits.bare _ (' ' :: (r.written ++ d :: rest))
  have equals : dropGap ('=' :: ' ' :: (r.written ++ d :: rest)) = _ :=
    dropGap_begins ⟨by decide, by decide, by decide⟩ _
  have read := readAssignment_of dropGap key equals (fits.writes.ungap _)
    (fits.writes.read depth ends rest)
  refine ⟨k, (r.written ++ d :: rest).length, named, ?_⟩
  simpa [Row.pair] using read

theorem Row.pair_cons {r : Row} (fits : r.Fits) :
    ∃ c cs, r.pair = c :: cs ∧ isBareKeyChar c = true := by
  obtain ⟨c, cs, chars, first⟩ := fits.bare.cons
  exact ⟨c, _, by rw [Row.pair, chars]; rfl, first⟩

/-- What assignments to keys without dots say. -/
def Say (as : List Assignment) (rows : List Row) : Prop :=
  as.map (fun a => (a.1, a.2.1.name, a.2.2.2)) = rows.map fun r => ([], r.key, r.value)

theorem readItems_pair {r : Row} (fits : r.Fits) (depth fuel : Nat) {d : Char} (ends : Ends d)
    (rest : List Char) :
    ∃ k m, k.name = r.key ∧
      readItems '}' (readAssignment dropGap (readNested depth)) (fuel + 1)
          (' ' :: (r.pair ++ d :: rest)) =
        match dropGap (d :: rest) with
        | ',' :: s => do
          let (as, s) ← readItems '}' (readAssignment dropGap (readNested depth)) fuel s
          some (([], k, m, r.value) :: as, s)
        | c :: s => if c = '}' then some ([([], k, m, r.value)], s) else none
        | [] => none := by
  obtain ⟨c, cs, chars, first⟩ := Row.pair_cons fits
  obtain ⟨k, m, named, read⟩ := readAssignment_pair fits depth ends rest
  have begins := dropGap_begins (begins_of_isBareKeyChar first) (cs ++ d :: rest)
  have open_ : c ≠ '}' := by
    rintro rfl
    exact absurd first (by decide)
  refine ⟨k, m, named, ?_⟩
  rw [chars, List.cons_append] at read ⊢
  rw [readItems, dropGap_blank, begins]
  dsimp only
  rw [if_neg open_, read]
  rfl

theorem readItems_pairs {rows : List Row} (fits : ∀ r ∈ rows, r.Fits) (depth fuel : Nat)
    (enough : rows.length < fuel) (rest : List Char) :
    ∃ as, Say as rows ∧
      readItems '}' (readAssignment dropGap (readNested depth)) fuel
        (' ' :: (pairsChars rows ++ rest)) = some (as, rest) := by
  have closing : Begins '}' := ⟨by decide, by decide, by decide⟩
  have comma : Begins ',' := ⟨by decide, by decide, by decide⟩
  induction rows using pairsChars.induct generalizing fuel with
  | case1 =>
      obtain ⟨fuel, rfl⟩ : ∃ n, fuel = n + 1 := ⟨fuel - 1, by omega⟩
      refine ⟨[], rfl, ?_⟩
      have gap : dropGap (' ' :: (pairsChars [] ++ rest)) = '}' :: rest := by
        rw [dropGap_blank]
        exact dropGap_begins closing rest
      rw [readItems, gap]
      rfl
  | case2 r =>
      obtain ⟨fuel, rfl⟩ : ∃ n, fuel = n + 1 := ⟨fuel - 1, by omega⟩
      have blank : Ends ' ' := ⟨by decide, by decide, by decide⟩
      obtain ⟨k, m, named, read⟩ := readItems_pair (fits r (by simp)) depth fuel blank ('}' :: rest)
      refine ⟨[([], k, m, r.value)], by simp [Say, named], ?_⟩
      have text : pairsChars [r] ++ rest = r.pair ++ ' ' :: '}' :: rest := by simp [pairsChars]
      rw [text, read, dropGap_blank, dropGap_begins closing]
      rfl
  | case3 r rows more ih =>
      obtain ⟨fuel, rfl⟩ : ∃ n, fuel = n + 1 := ⟨fuel - 1, by omega⟩
      have ends : Ends ',' := ⟨by decide, by decide, by decide⟩
      have rest_fits : ∀ r ∈ rows, r.Fits := fun r hr => fits r (by simp [hr])
      obtain ⟨as, say, others⟩ := ih rest_fits fuel (by simpa using enough)
      obtain ⟨k, m, named, read⟩ := readItems_pair (fits r (by simp)) depth fuel ends
        (' ' :: (pairsChars rows ++ rest))
      refine ⟨([], k, m, r.value) :: as, ?_, ?_⟩
      · simp only [Say, List.map_cons, named] at say ⊢
        rw [say]
      · have text : pairsChars (r :: rows) ++ rest =
            r.pair ++ ',' :: ' ' :: (pairsChars rows ++ rest) := by
          rw [pairsChars]
          · simp
          · exact more
        rw [text, read, dropGap_begins comma]
        simp only [others]
        rfl

/-- What rows say: their keys and values. -/
def content (rows : List Row) : List (String × Value) := rows.map fun r => (r.key, r.value)

theorem assign_plain {fs : Entries} {k : Toml.Key} (m : Mark) (v : Value) (new : New k.name fs) :
    Table.assign ⟨.header, fs⟩ [] k m v = some ⟨.header, fs ++ [(k, m, v)]⟩ := by
  simp [Table.assign, Table.alter, Table.add, find?_new new]

theorem assignments_plain {rows : List Row} (distinct : (rows.map Row.key).Nodup)
    {as : List Assignment} (say : Say as rows) {fs : Entries} (new : ∀ r ∈ rows, New r.key fs) :
    ∃ gs, outline gs = content rows ∧
      as.foldlM (fun (t : Toml.Table) (path, k, m, v) => t.assign path k m v) ⟨.header, fs⟩ =
        some ⟨.header, fs ++ gs⟩ := by
  induction rows generalizing as fs with
  | nil =>
      obtain rfl := List.map_eq_nil_iff.mp say
      exact ⟨[], rfl, by simp⟩
  | cons r rows ih =>
      obtain ⟨⟨path, k, m, v⟩, rest, rfl, same, others⟩ := List.map_eq_cons_iff.mp say
      obtain ⟨rfl, named, rfl⟩ : path = [] ∧ k.name = r.key ∧ v = r.value := by simpa using same
      have key : New k.name fs := named ▸ new r (by simp)
      have later := new_behind distinct new named m r.value
      rw [List.map_cons, List.nodup_cons] at distinct
      obtain ⟨gs, outlined, assigned⟩ := ih distinct.2 others later
      refine ⟨(k, m, r.value) :: gs, ?_, ?_⟩
      · simp only [outline, content, List.map_cons, named] at outlined ⊢
        rw [outlined]
      · rw [List.foldlM_cons]
        dsimp only
        rw [assign_plain m r.value key]
        simpa using assigned

theorem length_le_pairsChars (rows : List Row) : rows.length ≤ (pairsChars rows).length := by
  induction rows using pairsChars.induct with
  | case1 => simp
  | case2 r => simp [pairsChars]
  | case3 r rows more ih =>
      rw [pairsChars]
      · simp
        omega
      · exact more

def Section.inlineChars (p : Section) : List Char := '{' :: ' ' :: pairsChars p.rows

theorem readValue_inline {p : Section} (fits : p.Fits) (rest : List Char) :
    ∃ fs, outline fs = content p.rows ∧
      readValue (p.inlineChars ++ rest) = some (.table .inline fs, rest) := by
  have enough : p.rows.length < (' ' :: (pairsChars p.rows ++ rest)).length + 1 := by
    have some_chars := length_le_pairsChars p.rows
    simp
    omega
  obtain ⟨as, say, items⟩ := readItems_pairs fits.rows 79 _ enough rest
  obtain ⟨fs, outlined, assigned⟩ := assignments_plain fits.distinct say (fun r _ => new_nil r.key)
  refine ⟨fs, outlined, ?_⟩
  show readNested (79 + 1) ('{' :: ' ' :: (pairsChars p.rows ++ rest)) = _
  rw [readNested]
  simp only [items, Option.bind_eq_bind, Option.bind_some, inlineTable?]
  rw [assigned]
  rfl

/-! ## Dotted keys -/

/-- A key of two bare parts with the equals sign behind it. -/
theorem readKey_dotted {name key : String} (bare : Bare name) (bare' : Bare key) (r : List Char) :
    ∃ sk k, sk.name = name ∧ k.name = key ∧
      readKey (name.toList ++ '.' :: (key.toList ++ ' ' :: '=' :: r)) =
        some (([sk], k), '=' :: r) := by
  obtain ⟨c, cs, chars, first⟩ := bare'.cons
  have unblank : dropBlanks (key.toList ++ ' ' :: '=' :: r) = key.toList ++ ' ' :: '=' :: r := by
    rw [chars]
    exact dropBlanks_cons (other_of_isBareKeyChar first).1 _
  have dot : dropBlanks ('.' :: (key.toList ++ ' ' :: '=' :: r)) = _ :=
    dropBlanks_cons (by decide) _
  obtain ⟨fuel, length⟩ : ∃ fuel,
      (name.toList ++ '.' :: (key.toList ++ ' ' :: '=' :: r)).length = fuel + 1 :=
    ⟨_, by simp; rfl⟩
  obtain ⟨k, named, last⟩ := readPath_equals bare' fuel r
  refine ⟨⟨name, fuel + 1⟩, k, rfl, named, ?_⟩
  rw [readKey, readPath, readKeyPart_bare bare (by decide), length]
  simp only [Option.bind_eq_bind, Option.bind_some, dot, unblank, last]

def dottedLine (name : String) (r : Row) : List Char := name.toList ++ '.' :: r.chars

def Section.dottedChars (p : Section) : List Char := p.rows.flatMap (dottedLine p.name)

theorem readStatement_dotted {name : String} (bare : Bare name) {r : Row} (fits : r.Fits)
    (rest : List Char) :
    ∃ sk k m, sk.name = name ∧ k.name = r.key ∧
      readStatement (dottedLine name r ++ rest) =
        some (.assign ([sk], k, m, r.value), '\n' :: rest) := by
  obtain ⟨c, cs, chars, first⟩ := bare.cons
  obtain ⟨sk, k, section_, named, key⟩ := readKey_dotted bare fits.bare
    (' ' :: (r.written ++ '\n' :: rest))
  have assigned := readAssignment_of dropBlanks key rfl (fits.writes.unblank _)
    (fits.writes.read maxDepth ends_newline rest)
  have text : dottedLine name r ++ rest =
      name.toList ++ '.' :: (r.key.toList ++ ' ' :: '=' :: ' ' :: (r.written ++ '\n' :: rest)) := by
    simp [dottedLine, Row.chars, assignLine]
  refine ⟨sk, k, (r.written ++ '\n' :: rest).length, section_, named, ?_⟩
  rw [text]
  rw [chars, List.cons_append] at assigned ⊢
  rw [readStatement_bare first]
  exact congrArg _ assigned

/-! ## Drafts at the root -/

/-- A draft in which no table was opened yet. -/
def rootDraft (es : Entries) : Draft := { root := { form := .header, entries := es } }

theorem add_root {es : Entries} {k : Toml.Key} (m : Mark) (v : Value) (new : New k.name es) :
    (rootDraft es).add (.assign ([], k, m, v)) = some (rootDraft (es ++ [(k, m, v)])) := by
  simp [rootDraft, Draft.add, Table.alter, Table.assign, Table.add, find?_new new]

theorem add_dotted_first {es : Entries} {sk k : Toml.Key} (m : Mark) (v : Value)
    (new : New sk.name es) :
    (rootDraft es).add (.assign ([sk], k, m, v)) =
      some (rootDraft (es ++ [(sk, sk.mark, .table .dotted [(k, m, v)])])) := by
  simp [rootDraft, Draft.add, Table.alter, Table.assign, Table.add, find?_new new,
    find?_new (new_nil k.name)]

theorem add_dotted_next {es fs : Entries} {sk sk' k : Toml.Key} (same : sk'.name = sk.name)
    (sm m : Mark) (v : Value) (section_ : New sk.name es) (key : New k.name fs) :
    (rootDraft (es ++ [(sk, sm, .table .dotted fs)])).add (.assign ([sk'], k, m, v)) =
      some (rootDraft (es ++ [(sk, sm, .table .dotted (fs ++ [(k, m, v)]))])) := by
  simp [rootDraft, Draft.add, Table.alter, Table.assign, Table.add, same, find?_last section_,
    replace_last section_, passes, find?_new key]

/-! ## Sections in front of all headers -/

/-- What a table says, however it was written. -/
def tableOutline? : Toml.Key × Mark × Value → Option (String × List (String × Value))
  | (k, _, .table _ fs) => some (k.name, outline fs)
  | _ => none

/-- What is added to the entries of a root draft by a text in front of another. -/
def Adds (text s : List Char) (es gs : Entries) : Prop :=
  ∀ d', Builds s (rootDraft (es ++ gs)) d' → Builds (text ++ s) (rootDraft es) d'

theorem adds_nothing (s : List Char) (es : Entries) : Adds [] s es [] :=
  fun d' h => by simpa using h

theorem Adds.append {text more s : List Char} {es gs hs : Entries} (h : Adds text (more ++ s) es gs)
    (h' : Adds more s (es ++ gs) hs) : Adds (text ++ more) s es (gs ++ hs) := by
  intro d' later
  rw [List.append_assoc]
  exact h d' (h' d' (by simpa using later))

theorem adds_inline {p : Section} (fits : p.Fits) {es : Entries} (new : New p.name es)
    (s : List Char) :
    ∃ e, tableOutline? e = some p.outline ∧
      Adds (assignLine p.name p.inlineChars) s es [e] := by
  obtain ⟨c, cs, chars, first⟩ := fits.bare.cons
  obtain ⟨fs, outlined, value⟩ := readValue_inline fits ('\n' :: s)
  obtain ⟨k, named, key⟩ := readPath_equals fits.bare _ (' ' :: (p.inlineChars ++ '\n' :: s))
  have assigned := readAssignment_of dropBlanks key rfl rfl value
  refine ⟨(k, (p.inlineChars ++ '\n' :: s).length, .table .inline fs), ?_, fun d' h => ?_⟩
  · simp [tableOutline?, named, Section.outline, outlined, content]
  · have text : assignLine p.name p.inlineChars ++ s =
        c :: ((cs ++ ' ' :: '=' :: ' ' :: p.inlineChars) ++ '\n' :: s) := by
      simp [assignLine, chars]
    rw [text]
    refine builds_statement (.inr first) ?_ (add_root _ _ (named ▸ new)) h
    rw [readStatement_bare first]
    rw [chars] at assigned
    simpa using assigned

theorem builds_dottedLine {name : String} (bare : Bare name) {r : Row} (fits : r.Fits)
    (s : List Char) :
    ∃ sk k m, sk.name = name ∧ k.name = r.key ∧
      ∀ d d₁ d', d.add (.assign ([sk], k, m, r.value)) = some d₁ → Builds s d₁ d' →
        Builds (dottedLine name r ++ s) d d' := by
  obtain ⟨c, cs, chars, first⟩ := bare.cons
  obtain ⟨sk, k, m, section_, named, read⟩ := readStatement_dotted bare fits s
  have text : dottedLine name r ++ s =
      c :: ((cs ++ '.' :: (r.key.toList ++ ' ' :: '=' :: ' ' :: r.written)) ++ '\n' :: s) := by
    simp [dottedLine, Row.chars, assignLine, chars]
  refine ⟨sk, k, m, section_, named, fun d d₁ d' add later => ?_⟩
  rw [text] at read ⊢
  exact builds_statement (.inr first) read add later

theorem builds_dottedLines {name : String} (bare : Bare name) {rows : List Row}
    (fits : ∀ r ∈ rows, r.Fits) (distinct : (rows.map Row.key).Nodup) {es fs : Entries}
    {sk : Toml.Key} (named : sk.name = name) (sm : Mark) (section_ : New name es)
    (new : ∀ r ∈ rows, New r.key fs) (s : List Char) :
    ∃ gs, outline gs = content rows ∧
      ∀ d', Builds s (rootDraft (es ++ [(sk, sm, .table .dotted (fs ++ gs))])) d' →
        Builds (rows.flatMap (dottedLine name) ++ s)
          (rootDraft (es ++ [(sk, sm, .table .dotted fs)])) d' := by
  induction rows generalizing fs with
  | nil => exact ⟨[], rfl, fun d' h => by simpa using h⟩
  | cons r rows ih =>
      obtain ⟨sk', k, m, same, key, line⟩ :=
        builds_dottedLine bare (fits r (by simp)) (rows.flatMap (dottedLine name) ++ s)
      have later := new_behind distinct new key m r.value
      rw [List.map_cons, List.nodup_cons] at distinct
      obtain ⟨gs, outlined, others⟩ := ih (fun r hr => fits r (by simp [hr])) distinct.2 later
      refine ⟨(k, m, r.value) :: gs, ?_, fun d' h => ?_⟩
      · simp only [outline, content, List.map_cons, key] at outlined ⊢
        rw [outlined]
      · rw [List.flatMap_cons, List.append_assoc]
        have add := add_dotted_next (same.trans named.symm) sm m r.value (named ▸ section_)
          (key ▸ new r (by simp))
        exact line _ _ _ add (others d' (by simpa using h))

theorem adds_dotted {p : Section} (fits : p.Fits) (some_rows : p.rows ≠ []) {es : Entries}
    (new : New p.name es) (s : List Char) :
    ∃ e, tableOutline? e = some p.outline ∧ Adds p.dottedChars s es [e] := by
  obtain ⟨r, rows, split⟩ := List.exists_cons_of_ne_nil some_rows
  have rowFits := fits.rows
  have distinct := fits.distinct
  rw [split] at rowFits distinct
  obtain ⟨sk, k, m, named, key, line⟩ :=
    builds_dottedLine fits.bare (rowFits r (by simp)) (rows.flatMap (dottedLine p.name) ++ s)
  have later := new_behind distinct (fun r' _ => new_nil r'.key) key m r.value
  rw [List.map_cons, List.nodup_cons] at distinct
  obtain ⟨gs, outlined, others⟩ := builds_dottedLines fits.bare
    (fun r hr => rowFits r (by simp [hr])) distinct.2 named sk.mark new later s
  refine ⟨(sk, sk.mark, .table .dotted ((k, m, r.value) :: gs)), ?_, fun d' h => ?_⟩
  · simp only [outline, content, tableOutline?, Section.outline, split, List.map_cons, named, key]
      at outlined ⊢
    rw [outlined]
  · rw [Section.dottedChars, split, List.flatMap_cons, List.append_assoc]
    exact line _ _ _ (add_dotted_first m r.value (named ▸ new)) (others d' (by simpa using h))

/-! ## Layouts -/

/-- How a section is written in front of all headers. -/
inductive Manner where
  | inline
  | dotted
deriving DecidableEq, Repr

def Manner.chars (p : Section) : Manner → List Char
  | inline => assignLine p.name p.inlineChars
  | dotted => p.dottedChars

/-- Sections written inline or with dotted keys, and behind them sections with headers. -/
structure Layout where
  front : List (Manner × Section)
  back : List Section

namespace Layout

def sections (l : Layout) : List Section := l.front.map (·.2) ++ l.back

def frontChars (front : List (Manner × Section)) : List Char :=
  front.flatMap fun (m, p) => m.chars p

def chars (l : Layout) : List Char := frontChars l.front ++ sheetChars l.back

/-- Sections have different names and can be written; a section without keys is not written with
dotted keys, for these would not name it. -/
structure Fits (l : Layout) : Prop where
  each : ∀ p ∈ l.sections, p.Fits
  distinct : (l.sections.map Section.name).Nodup
  dotted : ∀ p, (Manner.dotted, p) ∈ l.front → p.rows ≠ []

end Layout

theorem name_of_tableOutline {e : Toml.Key × Mark × Value} {p : Section}
    (h : tableOutline? e = some p.outline) : e.1.name = p.name := by
  unfold tableOutline? at h
  split at h
  · exact congrArg Prod.fst (Option.some.inj h)
  · cases h

theorem adds_front {front : List (Manner × Section)} (fits : ∀ x ∈ front, x.2.Fits)
    (distinct : (front.map fun x => x.2.name).Nodup)
    (dotted : ∀ p, (Manner.dotted, p) ∈ front → p.rows ≠ []) {es : Entries}
    (new : ∀ x ∈ front, New x.2.name es) (s : List Char) :
    ∃ gs, gs.map tableOutline? = front.map (fun x => some x.2.outline) ∧
      Adds (Layout.frontChars front) s es gs := by
  induction front generalizing es with
  | nil => exact ⟨[], rfl, adds_nothing s es⟩
  | cons x front ih =>
      obtain ⟨manner, p⟩ := x
      have first := fits _ List.mem_cons_self
      have name := new _ List.mem_cons_self
      obtain ⟨e, outlined, adds⟩ : ∃ e, tableOutline? e = some p.outline ∧
          Adds (manner.chars p) (Layout.frontChars front ++ s) es [e] := by
        cases manner with
        | inline => exact adds_inline first name _
        | dotted => exact adds_dotted first (dotted p List.mem_cons_self) name _
      rw [List.map_cons, List.nodup_cons] at distinct
      have later : ∀ x ∈ front, New x.2.name (es ++ [e]) := by
        intro x hx
        refine new_append.mpr ⟨new x (List.mem_cons_of_mem _ hx), ?_⟩
        have other : p.name ≠ x.2.name := fun same =>
          distinct.1 (same ▸ List.mem_map_of_mem hx)
        simpa [New, name_of_tableOutline outlined] using other
      obtain ⟨gs, outlined', adds'⟩ := ih (fun x hx => fits x (List.mem_cons_of_mem _ hx))
        distinct.2 (fun p hp => dotted p (List.mem_cons_of_mem _ hp)) later
      exact ⟨e :: gs, by simp [outlined, outlined'], adds.append adds'⟩

theorem tableOutline_of_sectionOutline {e : Toml.Key × Mark × Value}
    {o : String × List (String × Value)} (h : sectionOutline? e = some o) :
    tableOutline? e = some o := by
  unfold sectionOutline? at h
  split at h
  · exact h
  · cases h

theorem tables_of_sections {es : Entries} {ps : List Section}
    (outlined : es.map sectionOutline? = ps.map fun p => some p.outline) :
    es.map tableOutline? = ps.map fun p => some p.outline := by
  refine (List.map_congr_left fun e he => ?_).trans outlined
  have said : sectionOutline? e ∈ ps.map fun p => some p.outline :=
    outlined ▸ List.mem_map_of_mem he
  obtain ⟨p, -, section_⟩ := List.mem_map.mp said
  rw [← section_]
  exact tableOutline_of_sectionOutline section_.symm

theorem Manner.chars_cons {manner : Manner} {p : Section} (bare : Bare p.name)
    (dotted : manner = .dotted → p.rows ≠ []) :
    ∃ c cs, manner.chars p = c :: cs ∧ isBareKeyChar c = true := by
  obtain ⟨c, cs, chars, first⟩ := bare.cons
  cases manner with
  | inline =>
      refine ⟨c, cs ++ " = ".toList ++ p.inlineChars ++ ['\n'], ?_, first⟩
      simp [Manner.chars, assignLine, chars]
  | dotted =>
      obtain ⟨r, rows, split⟩ := List.exists_cons_of_ne_nil (dotted rfl)
      refine ⟨c, cs ++ '.' :: (r.chars ++ rows.flatMap (dottedLine p.name)), ?_, first⟩
      simp [Manner.chars, Section.dottedChars, split, dottedLine, chars]

theorem dropByteOrderMark_bare {c : Char} (first : isBareKeyChar c = true) (cs : List Char) :
    dropByteOrderMark (c :: cs) = c :: cs := by
  unfold dropByteOrderMark
  split
  · next heq =>
      cases heq
      exact absurd first (by decide)
  · rfl

theorem dropByteOrderMark_layout {l : Layout} (fits : l.Fits) :
    dropByteOrderMark l.chars = l.chars := by
  match split : l.front with
  | [] =>
      have text : l.chars = sheetChars l.back := by simp [Layout.chars, Layout.frontChars, split]
      rw [text]
      exact dropByteOrderMark_sheetChars l.back
  | (manner, p) :: rest =>
      have there : (manner, p) ∈ l.front := by simp [split]
      have bare : Bare p.name := (fits.each p (by simp [Layout.sections, split])).bare
      obtain ⟨c, cs, chars, first⟩ := Manner.chars_cons bare
        (fun dotted => fits.dotted p (dotted ▸ there))
      have text : l.chars = c :: (cs ++ (Layout.frontChars rest ++ sheetChars l.back)) := by
        simp [Layout.chars, Layout.frontChars, split, chars]
      rw [text]
      exact dropByteOrderMark_bare first _

/-- **Whichever way each section is written, the document has a table for it** that says what the
section says, and nothing else. -/
theorem document?_layout {l : Layout} (fits : l.Fits) :
    ∃ es, document? l.chars = some es ∧
      es.map tableOutline? = l.sections.map (fun p => some p.outline) := by
  have each := fits.each
  have distinct := fits.distinct
  rw [Layout.sections, List.map_append, List.map_map, List.nodup_append] at distinct
  simp only [Layout.sections, List.mem_append, List.mem_map] at each
  obtain ⟨gs, outlined, front⟩ : ∃ gs,
      gs.map tableOutline? = l.front.map (fun x => some x.2.outline) ∧
        Adds (Layout.frontChars l.front) (sheetChars l.back) [] gs :=
    adds_front (fun x hx => each x.2 (.inl ⟨x, hx, rfl⟩)) distinct.1 fits.dotted
      (fun x _ => new_nil _) _
  have new : ∀ p ∈ l.back, New p.name gs := by
    intro p hp e he
    have said : tableOutline? e ∈ l.front.map (fun x => some x.2.outline) :=
      outlined ▸ List.mem_map_of_mem he
    obtain ⟨x, hx, same⟩ := List.mem_map.mp said
    rw [name_of_tableOutline same.symm]
    exact distinct.2.2 _ (List.mem_map_of_mem hx) _ (List.mem_map_of_mem hp)
  obtain ⟨hs, opened, outlined', back⟩ :=
    builds_sheet (fun p hp => each p (.inr hp)) distinct.2.1 new []
  have built := front _ back _ (Nat.lt_succ_self _)
  obtain ⟨sts, statements, drafted⟩ := Option.bind_eq_some_iff.mp built
  refine ⟨gs ++ hs, ?_, ?_⟩
  · have text : statements? l.chars = some sts := by
      rw [statements?, dropByteOrderMark_layout fits]
      exact statements
    rw [document?, text]
    exact Option.bind_eq_some_iff.mpr ⟨sts, rfl, Option.bind_eq_some_iff.mpr ⟨_, drafted, rfl⟩⟩
  · simp [outlined, tables_of_sections outlined', Layout.sections]

end CallBridge.Settings
