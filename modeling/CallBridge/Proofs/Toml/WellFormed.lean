import CallBridge.Toml.Document

/-!
# What is read is well-formed

In a document every table, at whatever depth, names each of its keys once, and every integer is one
of 64 bits. Tables get their entries in two ways: statements and the assignments between two braces
are carried out on a table one after the other, and both go through `Table.alter`. So what the
additions at the end of a path keep, every statement keeps.
-/

namespace CallBridge.Toml

/-- No two entries have the same name. -/
def Entries.Distinct (es : Entries) : Prop := List.Pairwise (fun a b => a.1.name ≠ b.1.name) es

/-- Integers are of 64 bits, and tables name each key once, at every depth. -/
inductive Value.WellFormed : Value → Prop where
  | text (s : String) : WellFormed (.text s)
  | integer {n : Int} (word : isWord n = true) : WellFormed (.integer n)
  | float (digits : String) : WellFormed (.float digits)
  | boolean (b : Bool) : WellFormed (.boolean b)
  | moment : WellFormed .moment
  | array {ofTables : Bool} {items : List (Mark × Value)} (each : ∀ i ∈ items, i.2.WellFormed) :
      WellFormed (.array ofTables items)
  | table {form : Form} {entries : Entries} (distinct : Entries.Distinct entries)
      (each : ∀ e ∈ entries, e.2.2.WellFormed) : WellFormed (.table form entries)

structure Entries.WellFormed (es : Entries) : Prop where
  distinct : Entries.Distinct es
  each : ∀ e ∈ es, e.2.2.WellFormed

namespace Entries

theorem wellFormed_nil : WellFormed [] := ⟨.nil, nofun⟩

theorem WellFormed.table {es : Entries} (h : WellFormed es) (form : Form) :
    (Value.table form es).WellFormed :=
  .table h.distinct h.each

theorem WellFormed.of_table {form : Form} {es : Entries} (h : (Value.table form es).WellFormed) :
    WellFormed es := by
  cases h with
  | table distinct each => exact ⟨distinct, each⟩

theorem mem_of_find? {es : Entries} {name : String} {e : Key × Mark × Value}
    (found : find? es name = some e) : e ∈ es ∧ e.1.name = name := by
  refine ⟨List.mem_of_find?_eq_some found, ?_⟩
  simpa using List.find?_some found

theorem find?_eq_none {es : Entries} {name : String} :
    find? es name = none ↔ ∀ e ∈ es, e.1.name ≠ name := by
  simp [find?]

/-- An entry with a new name comes at the end. -/
theorem WellFormed.append {es : Entries} (h : WellFormed es) {k : Key} {m : Mark} {v : Value}
    (new : find? es k.name = none) (value : v.WellFormed) : WellFormed (es ++ [(k, m, v)]) := by
  constructor
  · refine List.pairwise_append.mpr ⟨h.distinct, List.pairwise_singleton _ _, ?_⟩
    intro e he f hf
    obtain rfl := List.mem_singleton.mp hf
    exact find?_eq_none.mp new e he
  · intro e he
    rcases List.mem_append.mp he with old | last
    · exact h.each e old
    · obtain rfl := List.mem_singleton.mp last
      exact value

theorem WellFormed.replace {es : Entries} (h : WellFormed es) (name : String) {v : Value}
    (value : v.WellFormed) : WellFormed (replace es name v) := by
  have name_kept (e : Key × Mark × Value) :
      (if e.1.name == name then (e.1, e.2.1, v) else e).1.name = e.1.name := by
    split <;> rfl
  constructor
  · refine List.pairwise_map.mpr (h.distinct.imp ?_)
    intro a b apart
    rwa [name_kept, name_kept]
  · intro e he
    obtain ⟨old, member, rfl⟩ := List.mem_map.mp he
    split
    · exact value
    · exact h.each old member

theorem WellFormed.erase {es : Entries} (h : WellFormed es) (name : String) :
    WellFormed (erase es name) :=
  ⟨h.distinct.filter _, fun e he => h.each e (List.mem_filter.mp he).1⟩

end Entries

/-! ## Tables -/

/-- A step that keeps tables well-formed. -/
def Keeps (f : Table → Option Table) : Prop :=
  ∀ t t', Entries.WellFormed t.entries → f t = some t' → Entries.WellFormed t'.entries

/-- What keeps tables well-formed at the end of a path does so at its start. -/
theorem keeps_alter (dotted : Bool) {f : Table → Option Table} (keeps : Keeps f) (path : List Key) :
    Keeps (Table.alter dotted f path) := by
  induction path with
  | nil => exact keeps
  | cons k path ih =>
      intro t t' h altered
      rw [Table.alter] at altered
      -- What stands at the first part of the path is made, goes on or blocks the way.
      split at altered
      · next new =>
          obtain ⟨child, made, result⟩ := Option.bind_eq_some_iff.mp altered
          obtain rfl := Option.some.inj result
          have whole := ih _ _ Entries.wellFormed_nil made
          exact h.append new (whole.table _)
      · next form entries found =>
          split at altered
          · obtain ⟨child, changed, result⟩ := Option.bind_eq_some_iff.mp altered
            obtain rfl := Option.some.inj result
            have before := h.each _ (Entries.mem_of_find? found).1
            have whole := ih _ _ (Entries.WellFormed.of_table before) changed
            exact h.replace _ (whole.table _)
          · cases altered
      · next items found =>
          have before := h.each _ (Entries.mem_of_find? found).1
          split at altered
          · next mark form entries last =>
              obtain ⟨child, changed, result⟩ := Option.bind_eq_some_iff.mp altered
              obtain rfl := Option.some.inj result
              cases before with
              | array each =>
                  have element := each _ (List.mem_of_getLast? last)
                  have whole := ih _ _ (Entries.WellFormed.of_table element) changed
                  refine h.replace _ (.array fun i hi => ?_)
                  rcases List.mem_append.mp hi with old | new
                  · exact each i (List.dropLast_subset _ old)
                  · obtain rfl := List.mem_singleton.mp new
                    exact whole.table _
          · cases altered
      · cases altered

theorem keeps_add {v : Value} (value : v.WellFormed) (k : Key) (m : Mark) :
    Keeps fun t => t.add k m v := by
  intro t t' h added
  simp only [Table.add] at added
  split at added
  · cases added
  · next new =>
      obtain rfl := Option.some.inj added
      exact h.append new value

theorem keeps_assign {v : Value} (value : v.WellFormed) (path : List Key) (k : Key) (m : Mark) :
    Keeps fun t => t.assign path k m v := by
  refine keeps_alter _ ?_ path
  intro t t' h assigned
  dsimp only at assigned
  split at assigned
  · exact keeps_add value k m t t' h assigned
  · cases assigned

theorem keeps_openTable (path : List Key) (k : Key) (m : Mark) :
    Keeps fun t => t.openTable path k m := by
  have empty : (Value.table .header []).WellFormed := Entries.wellFormed_nil.table _
  refine keeps_alter _ ?_ path
  intro t t' h opened
  dsimp only at opened
  split at opened
  · exact keeps_add empty k m t t' h opened
  · next entries found =>
      -- The table was implied: it gives way to one with a header and the same entries.
      have before := h.each _ (Entries.mem_of_find? found).1
      have whole := Entries.WellFormed.of_table before
      exact keeps_add (whole.table .header) k m _ t' (h.erase _) opened
  · cases opened

theorem keeps_openElement (path : List Key) (k : Key) (m : Mark) :
    Keeps fun t => t.openElement path k m := by
  have empty : (Value.table .header []).WellFormed := Entries.wellFormed_nil.table _
  refine keeps_alter _ ?_ path
  intro t t' h opened
  dsimp only at opened
  split at opened
  · refine keeps_add (.array fun i hi => ?_) k m t t' h opened
    obtain rfl := List.mem_singleton.mp hi
    exact empty
  · next items found =>
      obtain rfl := Option.some.inj opened
      cases h.each _ (Entries.mem_of_find? found).1 with
      | array each =>
          refine h.replace _ (.array fun i hi => ?_)
          rcases List.mem_append.mp hi with old | new
          · exact each i old
          · obtain rfl := List.mem_singleton.mp new
            exact empty
  · cases opened

/-- What every step keeps, a sequence of steps keeps. -/
theorem wellFormed_foldlM {α : Type} {f : Table → α → Option Table} {xs : List α}
    (keeps : ∀ x ∈ xs, Keeps fun t => f t x) : Keeps fun t => xs.foldlM f t := by
  induction xs with
  | nil =>
      intro t t' h done
      exact Option.some.inj done ▸ h
  | cons x xs ih =>
      intro t t' h done
      simp only [List.foldlM_cons] at done
      obtain ⟨u, first, rest⟩ := Option.bind_eq_some_iff.mp done
      have next := keeps x (by simp) t u h first
      exact ih (fun y hy => keeps y (by simp [hy])) u t' next rest

/-! ## Values -/

/-- Whatever the reader reads has the property. -/
def Reads {α : Type} (P : α → Prop) (reader : Reader α) : Prop :=
  ∀ s a r, reader s = some (a, r) → P a

theorem reads_items {α : Type} {P : α → Prop} {close : Char} {item : Reader α}
    (reads : Reads P item) (fuel : Nat) :
    Reads (fun as => ∀ a ∈ as, P a) (readItems close item fuel) := by
  induction fuel with
  | zero => exact nofun
  | succ fuel ih =>
      intro s as r read
      rw [readItems] at read
      split at read
      · cases read
      · split at read
        · cases read
          exact nofun
        · obtain ⟨⟨a, rest⟩, first, more⟩ := Option.bind_eq_some_iff.mp read
          have head := reads _ _ _ first
          dsimp only at more
          split at more
          · obtain ⟨⟨tail, r'⟩, others, result⟩ := Option.bind_eq_some_iff.mp more
            cases result
            exact List.forall_mem_cons.mpr ⟨head, ih _ _ _ others⟩
          · split at more
            · cases more
              exact List.forall_mem_singleton.mpr head
            · cases more
          · cases more

theorem reads_assignment {P : Value → Prop} {between : List Char → List Char}
    {value : Reader Value} (reads : Reads P value) :
    Reads (fun a : Assignment => P a.2.2.2) (readAssignment between value) := by
  intro s a r read
  obtain ⟨⟨⟨path, k⟩, r₁⟩, -, read⟩ := Option.bind_eq_some_iff.mp read
  dsimp only at read
  split at read
  · obtain ⟨⟨v, rest⟩, first, result⟩ := Option.bind_eq_some_iff.mp read
    cases result
    exact reads _ _ _ first
  · cases read

theorem wellFormed_scalar {s : List Char} {v : Value} (read : scalar? s = some v) :
    v.WellFormed := by
  unfold scalar? at read
  split at read
  · cases read
    exact .boolean true
  · split at read
    · cases read
      exact .boolean false
    · split at read
      · split at read
        · next word =>
            cases read
            exact .integer word
        · cases read
      · split at read
        · next t _ =>
            cases read
            exact .float t
        · split at read
          · cases read
            exact .moment
          · cases read

theorem reads_scalar : Reads Value.WellFormed readScalar := by
  intro s v r read
  unfold readScalar at read
  dsimp only at read
  split at read
  all_goals
    obtain ⟨w, scalar, same⟩ := Option.map_eq_some_iff.mp read
    cases same
    exact wellFormed_scalar scalar

/-- The table of the assignments between two braces. -/
theorem wellFormed_inlineTable {as : List Assignment} {t : Table}
    (each : ∀ a ∈ as, a.2.2.2.WellFormed) (table : inlineTable? as = some t) :
    Entries.WellFormed t.entries :=
  wellFormed_foldlM (fun (path, k, m, _) ha => keeps_assign (each _ ha) path k m) _ _
    Entries.wellFormed_nil table

theorem reads_text :
    Reads Value.WellFormed fun s =>
      (readString s).map fun (cs, r) => (.text (String.ofList cs), r) := by
  intro s v r read
  obtain ⟨⟨cs, rest⟩, -, same⟩ := Option.map_eq_some_iff.mp read
  cases same
  exact .text _

theorem reads_nested (depth : Nat) : Reads Value.WellFormed (readNested depth) := by
  induction depth with
  | zero =>
      intro s v r read
      unfold readNested at read
      split at read
      · exact reads_text _ _ _ read
      · exact reads_text _ _ _ read
      · exact reads_scalar _ _ _ read
  | succ depth ih =>
      intro s v r read
      unfold readNested at read
      split at read
      · next inner rest nested =>
          obtain rfl : depth = inner := Nat.succ.inj nested
          obtain ⟨⟨items, rest⟩, each, same⟩ := Option.bind_eq_some_iff.mp read
          cases same
          refine .array (reads_items (P := fun i : Mark × Value => i.2.WellFormed) ?_ _ _ _ _ each)
          intro s i r item
          obtain ⟨⟨w, rest⟩, first, same⟩ := Option.map_eq_some_iff.mp item
          cases same
          exact ih _ _ _ first
      · next inner rest nested =>
          obtain rfl : depth = inner := Nat.succ.inj nested
          obtain ⟨⟨assignments, rest⟩, each, read⟩ := Option.bind_eq_some_iff.mp read
          obtain ⟨t, table, same⟩ := Option.bind_eq_some_iff.mp read
          cases same
          have assigned : Reads (fun a : Assignment => a.2.2.2.WellFormed)
              (readAssignment dropGap (readNested depth)) := reads_assignment ih
          have values := reads_items assigned _ _ _ _ each
          exact (wellFormed_inlineTable values table).table _
      · split at read
        · exact reads_text _ _ _ read
        · exact reads_text _ _ _ read
        · exact reads_scalar _ _ _ read

/-! ## Documents -/

def Statement.WellFormed : Statement → Prop
  | .table .. | .element .. => True
  | .assign a => a.2.2.2.WellFormed

theorem reads_header (mark : Mark) : Reads Statement.WellFormed (readHeader mark) := by
  intro s st r read
  unfold readHeader at read
  split at read
  all_goals
    obtain ⟨⟨⟨path, k⟩, r₁⟩, -, read⟩ := Option.bind_eq_some_iff.mp read
    dsimp only at read
    split at read
    · cases read
      trivial
    · cases read

theorem reads_statement : Reads Statement.WellFormed readStatement := by
  intro s st r read
  unfold readStatement at read
  split at read
  · exact reads_header _ _ _ _ read
  · obtain ⟨⟨a, rest⟩, first, same⟩ := Option.map_eq_some_iff.mp read
    cases same
    exact reads_assignment (reads_nested maxDepth) _ _ _ first

theorem wellFormed_statements {fuel : Nat} {s : List Char} {sts : List Statement}
    (read : readStatements fuel s = some sts) : ∀ st ∈ sts, st.WellFormed := by
  induction fuel generalizing s sts with
  | zero => cases read
  | succ fuel ih =>
      rw [readStatements] at read
      split at read
      · cases read
        exact nofun
      · obtain ⟨r, -, rest⟩ := Option.bind_eq_some_iff.mp read
        exact ih rest
      · split at read
        · exact ih read
        · obtain ⟨⟨st, r⟩, first, read⟩ := Option.bind_eq_some_iff.mp read
          obtain ⟨r', -, read⟩ := Option.bind_eq_some_iff.mp read
          obtain ⟨rest, others, same⟩ := Option.bind_eq_some_iff.mp read
          cases same
          exact List.forall_mem_cons.mpr ⟨reads_statement _ _ _ first, ih others⟩

theorem wellFormed_add {d d' : Draft} {st : Statement} (h : Entries.WellFormed d.root.entries)
    (statement : st.WellFormed) (added : d.add st = some d') :
    Entries.WellFormed d'.root.entries := by
  cases st with
  | table path k mark =>
      obtain ⟨root, opened, same⟩ := Option.bind_eq_some_iff.mp added
      cases same
      exact keeps_openTable path k mark _ _ h opened
  | element path k mark =>
      obtain ⟨root, opened, same⟩ := Option.bind_eq_some_iff.mp added
      cases same
      exact keeps_openElement path k mark _ _ h opened
  | assign a =>
      obtain ⟨root, assigned, same⟩ := Option.bind_eq_some_iff.mp added
      cases same
      exact keeps_alter false (keeps_assign statement a.1 a.2.1 a.2.2.1) d.opened _ _ h assigned

/-- **Documents are well-formed**: every table names each of its keys once, and every integer is
one of 64 bits. -/
theorem wellFormed_document {s : List Char} {es : Entries} (read : document? s = some es) :
    Entries.WellFormed es := by
  obtain ⟨sts, statements, built⟩ := Option.bind_eq_some_iff.mp read
  obtain ⟨d, drafted, same⟩ := Option.bind_eq_some_iff.mp built
  cases same
  have each := wellFormed_statements statements
  clear read statements built
  -- What one statement keeps, all of them keep, from the empty draft on.
  have start : Entries.WellFormed ({} : Draft).root.entries := Entries.wellFormed_nil
  generalize ({} : Draft) = d₀ at drafted start
  induction sts generalizing d₀ with
  | nil => exact Option.some.inj drafted ▸ start
  | cons st sts ih =>
      rw [List.foldlM_cons] at drafted
      obtain ⟨d₁, first, rest⟩ := Option.bind_eq_some_iff.mp drafted
      rw [List.forall_mem_cons] at each
      exact ih each.2 d₁ rest (wellFormed_add start each.1 first)

end CallBridge.Toml
