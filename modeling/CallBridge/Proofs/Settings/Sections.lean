import CallBridge.Proofs.Settings.RoundTrip
import CallBridge.Proofs.Toml.WellFormed

/-!
# Sections are read field by field

The entries of a section are put into it in the ascending order of their names, and the first misfit
ends that. When every name is one of a field, this is the same as going through the fields in the
order of their names and putting in what the entries give for each. So a section can be told by
what it makes of each field alone: it is read exactly if every entry is of a field and fits it, and
then each field that is given is replaced.
-/

namespace CallBridge.Settings

open Toml

/-! ## What entries give -/

/-- The value that entries give for a name. -/
def given (es : Entries) (name : String) : Option Value :=
  (Entries.find? es name).map fun e => e.2.2

theorem mem_of_given {es : Entries} {name : String} {v : Value} (there : given es name = some v) :
    ∃ e ∈ es, e.1.name = name ∧ e.2.2 = v := by
  obtain ⟨e, found, value⟩ := Option.map_eq_some_iff.mp there
  obtain ⟨member, named⟩ := Entries.mem_of_find? found
  exact ⟨e, member, named, value⟩

theorem find?_name {α : Type} {name : α → String} {xs : List α}
    (apart : xs.Pairwise fun a b => name a ≠ name b) {x : α} (member : x ∈ xs) :
    (xs.find? fun a => name a == name x) = some x := by
  induction xs with
  | nil => cases member
  | cons y xs ih =>
      obtain ⟨other, apart⟩ := List.pairwise_cons.mp apart
      rcases List.mem_cons.mp member with rfl | later
      · exact List.find?_cons_of_pos (beq_self_eq_true _)
      · have different : ¬(name y == name x) = true := by simpa using other x later
        rw [List.find?_cons_of_neg (p := fun a => name a == name x) different]
        exact ih apart later

theorem find?_of_mem {es : Entries} (distinct : Entries.Distinct es) {e : Toml.Key × Mark × Value}
    (member : e ∈ es) : Entries.find? es e.1.name = some e :=
  find?_name distinct member

theorem given_eq_some {es : Entries} (distinct : Entries.Distinct es) {name : String} {v : Value} :
    given es name = some v ↔ (name, v) ∈ outline es := by
  unfold given outline
  rw [Option.map_eq_some_iff, List.mem_map]
  constructor
  · rintro ⟨e, found, rfl⟩
    obtain ⟨there, named⟩ := Entries.mem_of_find? found
    exact ⟨e, there, by rw [named]⟩
  · rintro ⟨e, there, same⟩
    obtain ⟨rfl, rfl⟩ := Prod.mk.inj same
    exact ⟨e, find?_of_mem distinct there, rfl⟩

/-- What entries give does not depend on their order or on where they stand. -/
theorem given_of_perm {es es' : Entries} (distinct : Entries.Distinct es)
    (distinct' : Entries.Distinct es') (same : (outline es).Perm (outline es')) (name : String) :
    given es name = given es' name := by
  refine Option.ext fun v => ?_
  rw [given_eq_some distinct, given_eq_some distinct', same.mem_iff]

/-! ## The order of the fields -/

/-- Entries whose names are all known are walked in the order of the names. -/
theorem ascending_eq_filterMap {es : Entries} (distinct : Entries.Distinct es)
    {names : List String} (rising : names.Pairwise (· < ·))
    (known : ∀ e ∈ es, e.1.name ∈ names) :
    ascending es = names.filterMap (Entries.find? es) := by
  have sorted : (names.filterMap (Entries.find? es)).Pairwise fun a b => a.1.name < b.1.name := by
    refine List.pairwise_filterMap.mpr (rising.imp ?_)
    intro a b less e he f hf
    rwa [(Entries.mem_of_find? he).2, (Entries.mem_of_find? hf).2]
  refine ascending_eq ?_ sorted
  have once : es.Nodup := by
    refine distinct.imp ?_
    rintro a b apart rfl
    exact apart rfl
  have once' : (names.filterMap (Entries.find? es)).Nodup := by
    refine sorted.imp ?_
    rintro a b less rfl
    exact String.lt_irrefl _ less
  refine (List.perm_ext_iff_of_nodup once once').mpr fun e => ?_
  rw [List.mem_filterMap]
  constructor
  · intro member
    exact ⟨e.1.name, known e member, find?_of_mem distinct member⟩
  · rintro ⟨name, -, found⟩
    exact (Entries.mem_of_find? found).1

/-- Put what entries give for a field into a section. -/
def putGiven {σ : Type} (es : Entries) (s : σ) (f : Field σ) : Except Misfit σ :=
  match Entries.find? es f.name with
  | none => .ok s
  | some (_, m, v) => f.put m v s

variable {σ : Type} {fields order : List (Field σ)} {es : Entries}

/-- Going through the entries is going through the fields in the order of their names. -/
theorem ofEntries_eq (distinct : Entries.Distinct es) (perm : order.Perm fields)
    (rising : order.Pairwise fun f g => f.name < g.name)
    (known : ∀ e ∈ es, e.1.name ∈ fields.map Field.name) (s : σ) :
    ofEntries fields es s = order.foldlM (putGiven es) s := by
  have walked : ascending es = (order.map Field.name).filterMap (Entries.find? es) :=
    ascending_eq_filterMap distinct (List.pairwise_map.mpr rising)
      fun e he => (perm.map Field.name).mem_iff.mpr (known e he)
  have apart : fields.Pairwise fun f g => f.name ≠ g.name :=
    (perm.pairwise_iff Ne.symm).mp (rising.imp Std.ne_of_lt)
  have field : ∀ f ∈ order, (fields.find? fun g => g.name == f.name) = some f :=
    fun f hf => find?_name apart (perm.mem_iff.mp hf)
  rw [ofEntries, walked]
  clear walked known rising perm
  induction order generalizing s with
  | nil => rfl
  | cons f fs ih =>
      have first := field f (by simp)
      have rest := fun s => ih s fun g hg => field g (by simp [hg])
      rw [List.foldlM_cons, List.map_cons, putGiven]
      cases found : Entries.find? es f.name with
      | none =>
          rw [List.filterMap_cons_none found]
          exact rest s
      | some e =>
          have named := (Entries.mem_of_find? found).2
          rw [List.filterMap_cons_some found, List.foldlM_cons]
          simp only [named, first]
          exact congrArg _ (funext rest)

theorem bind_eq_ok {ε α β : Type} {x : Except ε α} {f : α → Except ε β} {b : β} :
    x >>= f = .ok b ↔ ∃ a, x = .ok a ∧ f a = .ok b := by
  cases x with
  | error e => exact ⟨nofun, fun ⟨a, wrong, _⟩ => nomatch wrong⟩
  | ok a => exact ⟨fun done => ⟨a, rfl, done⟩, fun ⟨_, rfl, done⟩ => done⟩

/-- One entry that fits nowhere spoils the section. -/
theorem known_of_ofEntries {s t : σ} (done : ofEntries fields es s = .ok t) :
    ∀ e ∈ es, e.1.name ∈ fields.map Field.name := by
  have walked : ∀ e ∈ ascending es, e.1.name ∈ fields.map Field.name := by
    unfold ofEntries at done
    generalize ascending es = walk at done
    induction walk generalizing s with
    | nil => exact nofun
    | cons e walk ih =>
        rw [List.foldlM_cons] at done
        obtain ⟨u, first, rest⟩ := bind_eq_ok.mp done
        refine List.forall_mem_cons.mpr ⟨?_, ih rest⟩
        dsimp only at first
        split at first
        · next f found =>
            have named := List.find?_some found
            rw [← beq_iff_eq.mp named]
            exact List.mem_map_of_mem (List.mem_of_find?_eq_some found)
        · cases first
  intro e he
  exact walked e ((List.mergeSort_perm es _).mem_iff.mpr he)

theorem known_iff {names : List String} :
    (∀ e ∈ es, e.1.name ∈ names) ↔ ∀ name v, given es name = some v → name ∈ names := by
  constructor
  · intro known name v there
    obtain ⟨e, member, rfl, -⟩ := mem_of_given there
    exact known e member
  · intro known e he
    cases found : Entries.find? es e.1.name with
    | none => exact absurd rfl (Entries.find?_eq_none.mp found e he)
    | some f => exact known e.1.name f.2.2 (by rw [given, found]; rfl)

/-- A section is read exactly if all its entries are known and each field takes what is given for
it. -/
theorem ofEntries_eq_ok (distinct : Entries.Distinct es) (perm : order.Perm fields)
    (rising : order.Pairwise fun f g => f.name < g.name) {s t : σ} :
    ofEntries fields es s = .ok t ↔
      (∀ name v, given es name = some v → name ∈ fields.map Field.name) ∧
        order.foldlM (putGiven es) s = .ok t := by
  rw [← known_iff]
  constructor
  · intro done
    have known := known_of_ofEntries done
    exact ⟨known, ofEntries_eq distinct perm rising known s ▸ done⟩
  · rintro ⟨known, done⟩
    rwa [ofEntries_eq distinct perm rising known]

/-! ## Kinds of fields -/

def text? : Value → Option String
  | .text s => some s
  | _ => none

def count? : Value → Option Nat
  | .integer n => if 0 ≤ n then some n.toNat else none
  | _ => none

/-- The variant of a policy that a string names. -/
def policy? {α : Type} (all : List α) (text : α → String) : Value → Option α
  | .text s => all.find? fun a => text a == s
  | _ => none

theorem textOf_eq_ok {m : Mark} {v : Value} {s : String} :
    textOf m v = .ok s ↔ text? v = some s := by
  cases v <;> simp [textOf, text?]

theorem countOf_eq_ok {expected : String} {m : Mark} {v : Value} {n : Nat} :
    countOf expected m v = .ok n ↔ count? v = some n := by
  cases v with
  | integer k =>
      simp only [countOf, count?]
      split <;> simp
  | _ => simp [countOf, count?]

theorem policyOf_eq_ok {α : Type} {all : List α} {text : α → String} {m : Mark} {v : Value} {a : α}
    (untabled : ∀ form fs, v ≠ .table form fs) :
    policyOf all text m v = .ok a ↔ policy? all text v = some a := by
  cases v with
  | text s =>
      simp only [policyOf, policy?, variantOf]
      cases all.find? fun a => text a == s <;> simp
  | table form fs => exact absurd rfl (untabled form fs)
  | _ => simp [policyOf, policy?]

def IsText (v : Value) : Prop := ∃ s, v = .text s

/-- A number that fits 64 bits. -/
def IsCount (v : Value) : Prop := ∃ n : Nat, n < 0x10000000000000000 ∧ v = .integer n

/-- The name of a variant of a policy. -/
def Names {α : Type} (text : α → String) (v : Value) : Prop := ∃ a, v = .text (text a)

theorem isText_iff {v : Value} : (text? v).isSome ↔ IsText v := by
  cases v <;> simp [text?, IsText]

theorem isCount_iff {v : Value} (h : v.WellFormed) : (count? v).isSome ↔ IsCount v := by
  cases h with
  | @integer n word =>
      simp only [isWord, Bool.and_eq_true, decide_eq_true_eq] at word
      simp only [count?, IsCount, Value.integer.injEq]
      constructor
      · intro taken
        split at taken
        · exact ⟨n.toNat, by omega, by omega⟩
        · cases taken
      · rintro ⟨k, -, rfl⟩
        simp
  | _ => simp [count?, IsCount]

theorem names_iff {α : Type} {all : List α} (complete : ∀ a, a ∈ all) {text : α → String}
    {v : Value} : (policy? all text v).isSome ↔ Names text v := by
  cases v with
  | text s =>
      simp only [policy?, List.find?_isSome, beq_iff_eq]
      constructor
      · rintro ⟨a, -, rfl⟩
        exact ⟨a, rfl⟩
      · rintro ⟨a, same⟩
        cases same
        exact ⟨a, complete a, rfl⟩
  | _ => simp [policy?, Names]

/-! ## What a field makes of what is given -/

/-- What a field becomes when the given values replace it. -/
def replaced {α : Type} (es : Entries) (name : String) (value? : Value → Option α) (old : α) : α :=
  ((given es name).bind value?).getD old

def Given (es : Entries) (name : String) (P : Value → Prop) : Prop :=
  ∀ v, given es name = some v → P v

theorem wellFormed_given (h : Entries.WellFormed es) {name : String} {v : Value}
    (there : given es name = some v) : v.WellFormed := by
  obtain ⟨e, member, -, rfl⟩ := mem_of_given there
  exact h.each e member

theorem map_eq_bind {ε α β : Type} (x : Except ε α) (g : α → β) :
    (x >>= fun a => pure (g a)) = x.map g := by
  cases x <;> rfl

variable {f : Field σ}

theorem putGiven_eq_ok {α : Type} {read : Mark → Value → Except Misfit α}
    {value? : Value → Option α} (get : σ → α) (set : σ → α → σ)
    (puts : ∀ m v s, f.put m v s = (read m v).map (set s)) (same : ∀ s, set s (get s) = s)
    (reads : Given es f.name fun v => ∀ m a, read m v = .ok a ↔ value? v = some a) {s t : σ} :
    putGiven es s f = .ok t ↔
      Given es f.name (fun v => (value? v).isSome) ∧
        t = set s (replaced es f.name value? (get s)) := by
  unfold putGiven Given replaced given at *
  cases found : Entries.find? es f.name with
  | none =>
      constructor
      · intro done
        exact ⟨nofun, (Except.ok.inj done).symm.trans (same s).symm⟩
      · rintro ⟨-, rfl⟩
        exact congrArg Except.ok (same s).symm
  | some e =>
      obtain ⟨k, m, v⟩ := e
      have exactly := reads v (by rw [found]; rfl) m
      constructor
      · intro done
        simp only [puts] at done
        cases answer : read m v with
        | error r =>
            rw [answer] at done
            cases done
        | ok a =>
            rw [answer] at done
            have value := (exactly a).mp answer
            refine ⟨?_, by simpa [value] using (Except.ok.inj done).symm⟩
            rintro w there
            cases there
            rw [value]
            rfl
      · rintro ⟨taken, rfl⟩
        obtain ⟨a, value⟩ := Option.isSome_iff_exists.mp (taken v rfl)
        simp [puts, (exactly a).mpr value, value, Except.map]

theorem putGiven_text (get : σ → String) (set : σ → String → σ)
    (puts : ∀ m v s, f.put m v s = (textOf m v).map (set s)) (same : ∀ s, set s (get s) = s)
    {s t : σ} :
    putGiven es s f = .ok t ↔
      Given es f.name IsText ∧ t = set s (replaced es f.name text? (get s)) := by
  rw [putGiven_eq_ok get set puts same fun v _ m a => textOf_eq_ok]
  simp only [isText_iff]

theorem putGiven_count {expected : String} (get : σ → Nat) (set : σ → Nat → σ)
    (puts : ∀ m v s, f.put m v s = (countOf expected m v).map (set s))
    (same : ∀ s, set s (get s) = s) (h : Entries.WellFormed es) {s t : σ} :
    putGiven es s f = .ok t ↔
      Given es f.name IsCount ∧ t = set s (replaced es f.name count? (get s)) := by
  rw [putGiven_eq_ok get set puts same fun v _ m a => countOf_eq_ok]
  refine and_congr_left' ⟨fun taken v there => ?_, fun counts v there => ?_⟩
  · exact (isCount_iff (wellFormed_given h there)).mp (taken v there)
  · exact (isCount_iff (wellFormed_given h there)).mpr (counts v there)

theorem putGiven_policy {α : Type} {all : List α} (complete : ∀ a, a ∈ all) {text : α → String}
    (get : σ → α) (set : σ → α → σ)
    (puts : ∀ m v s, f.put m v s = (policyOf all text m v).map (set s))
    (same : ∀ s, set s (get s) = s)
    (untabled : Given es f.name fun v => ∀ form fs, v ≠ .table form fs) {s t : σ} :
    putGiven es s f = .ok t ↔
      Given es f.name (Names text) ∧
        t = set s (replaced es f.name (policy? all text) (get s)) := by
  rw [putGiven_eq_ok get set puts same fun v there m a => policyOf_eq_ok (untabled v there)]
  simp only [names_iff complete]

end CallBridge.Settings
