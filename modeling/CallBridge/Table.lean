/-!
# Finite tables

A table is a list of bindings in which every key occurs at most once. `insert` keeps the place of
a key that is already bound and appends a new one, so a table remembers the order in which its
keys first came. The lemmas describe each operation through `find?`.
-/

namespace CallBridge

/-- A finite map with remembered order. -/
structure Table (κ υ : Type) where
  bindings : List (κ × υ)
  distinct : (bindings.map Prod.fst).Nodup

namespace Table

variable {κ υ : Type}

def empty : Table κ υ := ⟨[], List.Pairwise.nil⟩

instance : EmptyCollection (Table κ υ) := ⟨empty⟩

instance : Inhabited (Table κ υ) := ⟨empty⟩

def size (t : Table κ υ) : Nat := t.bindings.length
def keys (t : Table κ υ) : List κ := t.bindings.map Prod.fst
def values (t : Table κ υ) : List υ := t.bindings.map Prod.snd

def total (t : Table κ υ) (f : υ → Nat) : Nat := t.bindings.foldr (fun b n => f b.2 + n) 0

variable [DecidableEq κ]

def find? (t : Table κ υ) (k : κ) : Option υ :=
  (t.bindings.find? fun b => decide (b.1 = k)).map Prod.snd

def contains (t : Table κ υ) (k : κ) : Bool := (t.find? k).isSome

private def replace (k : κ) (v : υ) : List (κ × υ) → List (κ × υ)
  | [] => [(k, v)]
  | b :: bs => if b.1 = k then (k, v) :: bs else b :: replace k v bs

private theorem keys_replace (k : κ) (v : υ) (bs : List (κ × υ)) :
    (replace k v bs).map Prod.fst =
      if k ∈ bs.map Prod.fst then bs.map Prod.fst else bs.map Prod.fst ++ [k] := by
  induction bs with
  | nil => simp [replace]
  | cons b bs ih =>
    by_cases h : b.1 = k
    · simp [replace, h]
    · by_cases hm : k ∈ bs.map Prod.fst
      · rw [if_pos hm] at ih
        simp [replace, h, ih]
        grind
      · rw [if_neg hm] at ih
        simp [replace, h, ih]
        grind

private theorem nodup_replace {k : κ} {v : υ} {bs : List (κ × υ)}
    (h : (bs.map Prod.fst).Nodup) : ((replace k v bs).map Prod.fst).Nodup := by
  rw [keys_replace]
  split
  · exact h
  · rename_i hk
    simp only [List.nodup_append, h, true_and]
    grind

def insert (t : Table κ υ) (k : κ) (v : υ) : Table κ υ :=
  ⟨replace k v t.bindings, nodup_replace t.distinct⟩

def erase (t : Table κ υ) (k : κ) : Table κ υ where
  bindings := t.bindings.filter fun b => !decide (b.1 = k)
  distinct := t.distinct.sublist (List.filter_sublist.map Prod.fst)

theorem keys_insert (t : Table κ υ) (k : κ) (v : υ) :
    (t.insert k v).keys = if k ∈ t.keys then t.keys else t.keys ++ [k] :=
  keys_replace k v t.bindings

theorem mem_keys_iff {t : Table κ υ} {k : κ} : k ∈ t.keys ↔ ∃ v, t.find? k = some v := by
  simp only [keys, List.mem_map, find?, Option.map_eq_some_iff]
  constructor
  · rintro ⟨b, hb, rfl⟩
    cases h : t.bindings.find? fun c => decide (c.1 = b.1) with
    | none => exact absurd (List.find?_eq_none.mp h b hb) (by simp)
    | some c => exact ⟨c.2, c, rfl, rfl⟩
  · rintro ⟨v, b, hb, -⟩
    exact ⟨b, List.mem_of_find?_eq_some hb, by simpa using List.find?_some hb⟩

theorem find?_of_mem {t : Table κ υ} {b : κ × υ} (h : b ∈ t.bindings) :
    t.find? b.1 = some b.2 := by
  obtain ⟨bs, distinct⟩ := t
  simp only [find?, Option.map_eq_some_iff]
  induction bs with
  | nil => cases h
  | cons c bs ih =>
    rw [List.map_cons, List.nodup_cons] at distinct
    rcases List.mem_cons.mp h with rfl | later
    · exact ⟨b, by simp, rfl⟩
    · have other : c.1 ≠ b.1 := fun same => distinct.1 (same ▸ List.mem_map_of_mem later)
      simpa [other] using ih distinct.2 later

theorem mem_values_of_find? {t : Table κ υ} {k : κ} {v : υ} (h : t.find? k = some v) :
    v ∈ t.values := by
  obtain ⟨b, hb, rfl⟩ := Option.map_eq_some_iff.mp h
  exact List.mem_map_of_mem (List.mem_of_find?_eq_some hb)

theorem size_insert (t : Table κ υ) (k : κ) (v : υ) :
    (t.insert k v).size = if (t.find? k).isSome then t.size else t.size + 1 := by
  have length : ∀ t : Table κ υ, t.size = t.keys.length := fun t => (List.length_map _).symm
  have bound : (t.find? k).isSome = true ↔ k ∈ t.keys := by
    rw [mem_keys_iff, Option.isSome_iff_exists]
  rw [length, length, keys_insert]
  by_cases h : k ∈ t.keys
  · rw [if_pos h, if_pos (bound.mpr h)]
  · rw [if_neg h, if_neg (mt bound.mp h)]
    simp

@[simp] theorem find?_empty (k : κ) : ({} : Table κ υ).find? k = none := rfl

@[simp] theorem find?_insert_self (t : Table κ υ) (k : κ) (v : υ) :
    (t.insert k v).find? k = some v := by
  simp only [find?, insert]
  induction t.bindings with
  | nil => simp [replace]
  | cons b bs ih =>
    by_cases h : b.1 = k
    · simp [replace, h]
    · simp [replace, h, ih]

@[simp] theorem find?_insert_of_ne (t : Table κ υ) {k j : κ} (v : υ) (h : j ≠ k) :
    (t.insert k v).find? j = t.find? j := by
  simp only [find?, insert]
  induction t.bindings with
  | nil => simp [replace, h.symm]
  | cons b bs ih =>
    by_cases hb : b.1 = k
    · subst hb
      simp [replace, h.symm]
    · by_cases hj : b.1 = j
      · subst hj
        simp [replace, hb]
      · simp [replace, hb, hj, ih]

theorem insert_of_find? {t : Table κ υ} {k : κ} {v : υ} (h : t.find? k = some v) :
    t.insert k v = t := by
  have same : ∀ bs : List (κ × υ),
      (bs.find? fun b => decide (b.1 = k)).map Prod.snd = some v → replace k v bs = bs := by
    intro bs hb
    induction bs with
    | nil => simp at hb
    | cons b bs ih =>
      by_cases hk : b.1 = k
      · have hv : b.2 = v := by simpa [hk] using hb
        rw [replace, if_pos hk, ← hk, ← hv]
      · rw [replace, if_neg hk, ih (by simpa [hk] using hb)]
  cases t with
  | mk bs distinct => simp only [insert, same bs h]

@[simp] theorem insert_insert (t : Table κ υ) (k : κ) (v v' : υ) :
    (t.insert k v).insert k v' = t.insert k v' := by
  have twice : ∀ bs : List (κ × υ), replace k v' (replace k v bs) = replace k v' bs := by
    intro bs
    induction bs with
    | nil => simp [replace]
    | cons b bs ih => by_cases h : b.1 = k <;> simp [replace, h, ih]
  simp only [insert, twice]

theorem total_insert (t : Table κ υ) (k : κ) (v : υ) (f : υ → Nat) :
    (t.insert k v).total f + ((t.find? k).map f).getD 0 = t.total f + f v := by
  simp only [total, find?, insert]
  induction t.bindings with
  | nil => simp [replace]
  | cons b bs ih =>
    by_cases h : b.1 = k
    · simp [replace, h]
      omega
    · simp [replace, h] at ih ⊢
      omega

@[simp] theorem find?_erase_self (t : Table κ υ) (k : κ) : (t.erase k).find? k = none := by
  simp [find?, erase]

@[simp] theorem find?_erase_of_ne (t : Table κ υ) {k j : κ} (h : j ≠ k) :
    (t.erase k).find? j = t.find? j := by
  have same : (fun b : κ × υ => !decide (b.1 = k) && decide (b.1 = j)) =
      fun b => decide (b.1 = j) := by
    funext b
    by_cases hj : b.1 = j
    · simp [hj, h]
    · simp [hj]
  simp [find?, erase, List.find?_filter, same]

theorem total_erase (t : Table κ υ) (k : κ) (f : υ → Nat) :
    (t.erase k).total f + ((t.find? k).map f).getD 0 = t.total f := by
  obtain ⟨bs, distinct⟩ := t
  simp only [total, find?, erase]
  induction bs with
  | nil => simp
  | cons b bs ih =>
    rw [List.map_cons, List.nodup_cons] at distinct
    have rest := ih distinct.2
    by_cases h : b.1 = k
    · -- No other binding has this key, so the rest loses nothing.
      have alone : bs.filter (fun c => !decide (c.1 = k)) = bs := by
        rw [List.filter_eq_self]
        intro c hc
        have other : c.1 ≠ k := fun same => distinct.1 (h ▸ same ▸ List.mem_map_of_mem hc)
        simp [other]
      simp [h, alone]
      omega
    · simp [h] at rest ⊢
      omega

end Table

end CallBridge
