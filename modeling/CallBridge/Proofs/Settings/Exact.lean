import CallBridge.Proofs.Settings.Layouts

/-!
# Settings are decoded exactly

What the settings of a document are can be said without saying how they are read. Each of the three
sections is the defaults with the given fields replaced, provided that it gives nothing else and
that every field fits, and the document is accepted if each of its sections is. All of this is
about what entries give for a name. So it is the same for two documents that give the same fields in
the same sections, in whatever order and however the tables are written.

Two things are left out. A section may also be read from an array that lists its fields in order,
and a policy from a table that names it, and a document may use neither here.
-/

namespace CallBridge.Settings

open Toml (Mark Value Entries Form)

/-! ## The three sections -/

/-- What a section gives if it can be read as the scheduler: fields of the scheduler only, each of
its kind. -/
structure SchedulerFits (fs : Entries) : Prop where
  known : ∀ name v, given fs name = some v → name ∈ ["thread_name", "error_policy", "halt_policy"]
  threadName : Given fs "thread_name" IsText
  errorPolicy : Given fs "error_policy" (Names FailurePolicy.text)
  haltPolicy : Given fs "halt_policy" (Names HaltPolicy.text)

structure TransportFits (fs : Entries) : Prop where
  known : ∀ name v, given fs name = some v →
    name ∈ ["worker_threads", "thread_name", "latency_ms"]
  workers : Given fs "worker_threads" IsCount
  threadName : Given fs "thread_name" IsText
  latency : Given fs "latency_ms" IsCount

structure LoggingFits (fs : Entries) : Prop where
  known : ∀ name v, given fs name = some v → name ∈ ["filter"]
  filter : Given fs "filter" IsText

/-- No policy is written as a table. -/
def Untabled (fs : Entries) : Prop :=
  ∀ name ∈ ["error_policy", "halt_policy"], Given fs name fun v => ∀ form gs, v ≠ .table form gs

def schedulerOf (fs : Entries) (p : LoopPolicy) : LoopPolicy where
  threadName := replaced fs "thread_name" text? p.threadName
  onFailure := replaced fs "error_policy" (policy? FailurePolicy.all FailurePolicy.text) p.onFailure
  onHalt := replaced fs "halt_policy" (policy? HaltPolicy.all HaltPolicy.text) p.onHalt

def transportOf (fs : Entries) (c : Loopback.Config) : Loopback.Config where
  workers := replaced fs "worker_threads" count? c.workers
  threadName := replaced fs "thread_name" text? c.threadName
  latency := replaced fs "latency_ms" count? c.latency

theorem ofEntries_scheduler_eq_ok {fs : Entries} (h : Entries.WellFormed fs)
    (untabled : Untabled fs) {p q : LoopPolicy} :
    ofEntries schedulerFields fs p = .ok q ↔ SchedulerFits fs ∧ q = schedulerOf fs p := by
  have perm : [schedulerFields[1], schedulerFields[2], schedulerFields[0]].Perm schedulerFields :=
    (List.perm_append_comm : ([_, _] ++ [_]).Perm _)
  have failure {s t : LoopPolicy} : putGiven fs s schedulerFields[1] = .ok t ↔ _ :=
    putGiven_policy (fun p => by cases p <;> decide) LoopPolicy.onFailure
      (fun s onFailure => { s with onFailure }) (fun m v s => map_eq_bind _ _) (fun _ => rfl)
      (untabled "error_policy" (by simp))
  have halt {s t : LoopPolicy} : putGiven fs s schedulerFields[2] = .ok t ↔ _ :=
    putGiven_policy (fun p => by cases p <;> decide) LoopPolicy.onHalt
      (fun s onHalt => { s with onHalt }) (fun m v s => map_eq_bind _ _) (fun _ => rfl)
      (untabled "halt_policy" (by simp))
  have name {s t : LoopPolicy} : putGiven fs s schedulerFields[0] = .ok t ↔ _ :=
    putGiven_text LoopPolicy.threadName (fun s threadName => { s with threadName })
      (fun m v s => map_eq_bind _ _) (fun _ => rfl)
  rw [ofEntries_eq_ok h.distinct perm (by decide)]
  simp only [List.foldlM_cons, List.foldlM_nil, bind_eq_ok, failure, halt, name]
  constructor
  · rintro ⟨known, s₁, ⟨onFailure, rfl⟩, s₂, ⟨onHalt, rfl⟩, s₃, ⟨threadName, rfl⟩, done⟩
    exact ⟨⟨known, threadName, onFailure, onHalt⟩, (Except.ok.inj done).symm⟩
  · rintro ⟨⟨known, threadName, onFailure, onHalt⟩, rfl⟩
    exact ⟨known, _, ⟨onFailure, rfl⟩, _, ⟨onHalt, rfl⟩, _, ⟨threadName, rfl⟩, rfl⟩

theorem ofEntries_transport_eq_ok {fs : Entries} (h : Entries.WellFormed fs)
    {c d : Loopback.Config} :
    ofEntries transportFields fs c = .ok d ↔ TransportFits fs ∧ d = transportOf fs c := by
  have perm : [transportFields[2], transportFields[1], transportFields[0]].Perm transportFields :=
    List.reverse_perm [_, _, _]
  have latency {s t : Loopback.Config} : putGiven fs s transportFields[2] = .ok t ↔ _ :=
    putGiven_count Loopback.Config.latency (fun s latency => { s with latency })
      (fun m v s => map_eq_bind _ _) (fun _ => rfl) h
  have name {s t : Loopback.Config} : putGiven fs s transportFields[1] = .ok t ↔ _ :=
    putGiven_text Loopback.Config.threadName (fun s threadName => { s with threadName })
      (fun m v s => map_eq_bind _ _) (fun _ => rfl)
  have workers {s t : Loopback.Config} : putGiven fs s transportFields[0] = .ok t ↔ _ :=
    putGiven_count Loopback.Config.workers (fun s workers => { s with workers })
      (fun m v s => map_eq_bind _ _) (fun _ => rfl) h
  rw [ofEntries_eq_ok h.distinct perm (by decide)]
  simp only [List.foldlM_cons, List.foldlM_nil, bind_eq_ok, latency, name, workers]
  constructor
  · rintro ⟨known, s₁, ⟨latency, rfl⟩, s₂, ⟨threadName, rfl⟩, s₃, ⟨workers, rfl⟩, done⟩
    exact ⟨⟨known, workers, threadName, latency⟩, (Except.ok.inj done).symm⟩
  · rintro ⟨⟨known, workers, threadName, latency⟩, rfl⟩
    exact ⟨known, _, ⟨latency, rfl⟩, _, ⟨threadName, rfl⟩, _, ⟨workers, rfl⟩, rfl⟩

theorem ofEntries_logging_eq_ok {fs : Entries} (h : Entries.WellFormed fs) {s t : String} :
    ofEntries loggingFields fs s = .ok t ↔
      LoggingFits fs ∧ t = replaced fs "filter" text? s := by
  have perm : [loggingFields[0]].Perm loggingFields := .refl _
  have filter {s t : String} : putGiven fs s loggingFields[0] = .ok t ↔ _ :=
    putGiven_text id (fun _ filter => filter)
      (fun m v s => by
        show textOf m v = _
        cases textOf m v <;> rfl)
      (fun _ => rfl)
  rw [ofEntries_eq_ok h.distinct perm (by decide)]
  simp only [List.foldlM_cons, List.foldlM_nil, bind_eq_ok, filter]
  constructor
  · rintro ⟨known, s₁, ⟨text, rfl⟩, done⟩
    exact ⟨⟨known, text⟩, (Except.ok.inj done).symm⟩
  · rintro ⟨⟨known, text⟩, rfl⟩
    exact ⟨known, _, ⟨text, rfl⟩, rfl⟩

/-! ## The whole document -/

def IsTable (v : Value) : Prop := ∃ form fs, v = .table form fs

/-- What a document says in a section: nothing if it does not have the section as a table. -/
def fieldsOf (es : Entries) (name : String) : Entries :=
  match given es name with
  | some (.table _ fs) => fs
  | _ => []

theorem wellFormed_fieldsOf {es : Entries} (h : Entries.WellFormed es) (name : String) :
    Entries.WellFormed (fieldsOf es name) := by
  unfold fieldsOf
  split
  · next there => exact Entries.WellFormed.of_table (wellFormed_given h there)
  · exact Entries.wellFormed_nil

/-- No section is written as an array. -/
def Unlisted (es : Entries) : Prop :=
  ∀ name ∈ ["scheduler", "transport", "logging"],
    Given es name fun v => ∀ ofTables items, v ≠ .array ofTables items

theorem putGiven_section {σ τ : Type} {f : Field σ} {fields : List (Field τ)} {expected : String}
    {es : Entries} (get : σ → τ) (set : σ → τ → σ)
    (puts : ∀ m v s, f.put m v s = (sectionOf expected fields m v (get s)).map (set s))
    (same : ∀ s, set s (get s) = s)
    (unlisted : Given es f.name fun v => ∀ ofTables items, v ≠ .array ofTables items) {s t : σ} :
    putGiven es s f = .ok t ↔
      Given es f.name IsTable ∧
        ∃ x, ofEntries fields (fieldsOf es f.name) (get s) = .ok x ∧ t = set s x := by
  unfold putGiven Given fieldsOf given at *
  cases found : Entries.find? es f.name with
  | none =>
      have nothing : ofEntries fields [] (get s) = .ok (get s) := by
        simp only [ofEntries, ascending, List.mergeSort_nil]
        rfl
      constructor
      · intro done
        cases done
        refine ⟨?_, _, nothing, (same s).symm⟩
        intro v there
        cases there
      · rintro ⟨-, x, read, rfl⟩
        obtain rfl : get s = x := Except.ok.inj (nothing.symm.trans read)
        exact congrArg Except.ok (same s).symm
  | some e =>
      obtain ⟨k, m, v⟩ := e
      have array := unlisted v (by rw [found]; rfl)
      simp only [puts]
      cases v with
      | table form fs =>
          simp only [sectionOf, Option.map_some, Option.some.injEq, forall_eq', IsTable]
          cases ofEntries fields fs (get s) with
          | error r => simp [Except.map]
          | ok x => simp [Except.map, eq_comm]
      | array ofTables items => exact absurd rfl (array ofTables items)
      | _ => simp [sectionOf, Except.map, IsTable]

/-- What the settings become when a document replaces what it gives. -/
def overlay (es : Entries) (s : Settings) : Settings where
  scheduler := schedulerOf (fieldsOf es "scheduler") s.scheduler
  transport := transportOf (fieldsOf es "transport") s.transport
  filter := replaced (fieldsOf es "logging") "filter" text? s.filter

/-- A document has no sections but the three, each of them a table with fields of its own that are
of the right kinds. -/
structure Shaped (es : Entries) : Prop where
  known : ∀ name v, given es name = some v → name ∈ ["scheduler", "transport", "logging"]
  tables : ∀ name v, given es name = some v → IsTable v
  scheduler : SchedulerFits (fieldsOf es "scheduler")
  transport : TransportFits (fieldsOf es "transport")
  logging : LoggingFits (fieldsOf es "logging")

theorem decode_eq_ok {es : Entries} (h : Entries.WellFormed es) (unlisted : Unlisted es)
    (untabled : Untabled (fieldsOf es "scheduler")) {s : Settings} :
    decode es = .ok s ↔ Shaped es ∧ s = overlay es {} := by
  have perm : [sections[2], sections[0], sections[1]].Perm sections :=
    (List.perm_append_comm : ([_] ++ [_, _]).Perm _)
  have logging {s t : Settings} : putGiven es s sections[2] = .ok t ↔ _ :=
    putGiven_section Settings.filter (fun s filter => { s with filter })
      (fun m v s => map_eq_bind _ _) (fun _ => rfl) (unlisted "logging" (by simp))
  have scheduler {s t : Settings} : putGiven es s sections[0] = .ok t ↔ _ :=
    putGiven_section Settings.scheduler (fun s scheduler => { s with scheduler })
      (fun m v s => map_eq_bind _ _) (fun _ => rfl) (unlisted "scheduler" (by simp))
  have transport {s t : Settings} : putGiven es s sections[1] = .ok t ↔ _ :=
    putGiven_section Settings.transport (fun s transport => { s with transport })
      (fun m v s => map_eq_bind _ _) (fun _ => rfl) (unlisted "transport" (by simp))
  have fields := wellFormed_fieldsOf h
  rw [decode, ofEntries_eq_ok h.distinct perm (by decide)]
  simp only [List.foldlM_cons, List.foldlM_nil, bind_eq_ok, logging, scheduler, transport]
  constructor
  · rintro ⟨known, s₁, ⟨table₁, f, read₁, rfl⟩, s₂, ⟨table₂, p, read₂, rfl⟩, s₃,
      ⟨table₃, c, read₃, rfl⟩, done⟩
    obtain ⟨fits₁, rfl⟩ := (ofEntries_logging_eq_ok (fields _)).mp read₁
    obtain ⟨fits₂, rfl⟩ := (ofEntries_scheduler_eq_ok (fields _) untabled).mp read₂
    obtain ⟨fits₃, rfl⟩ := (ofEntries_transport_eq_ok (fields _)).mp read₃
    refine ⟨⟨known, ?_, fits₂, fits₃, fits₁⟩, (Except.ok.inj done).symm⟩
    intro name v there
    have one := known name v there
    simp only [sections, List.map_cons, List.map_nil, List.mem_cons, List.not_mem_nil,
      or_false] at one
    rcases one with rfl | rfl | rfl
    · exact table₂ v there
    · exact table₃ v there
    · exact table₁ v there
  · rintro ⟨⟨known, tables, fits₂, fits₃, fits₁⟩, rfl⟩
    refine ⟨known, _, ⟨tables _, _, ?logging, rfl⟩, _, ⟨tables _, _, ?scheduler, rfl⟩, _,
      ⟨tables _, _, ?transport, rfl⟩, rfl⟩
    case logging => exact (ofEntries_logging_eq_ok (fields _)).mpr ⟨fits₁, rfl⟩
    case scheduler => exact (ofEntries_scheduler_eq_ok (fields _) untabled).mpr ⟨fits₂, rfl⟩
    case transport => exact (ofEntries_transport_eq_ok (fields _)).mpr ⟨fits₃, rfl⟩

/-! ## Validation and refusals -/

/-- Some character shows. -/
def Shows (name : String) : Prop := ∃ c ∈ name.toList, Text.isBlank c = false

theorem shows_iff {name : String} : Text.allBlank name = false ↔ Shows name := by
  simp [Text.allBlank, Shows]

/-- What the settings have to be for threads to run with them. -/
structure Runs (s : Settings) : Prop where
  workers : 1 ≤ s.transport.workers
  schedulerName : Shows s.scheduler.threadName
  transportName : Shows s.transport.threadName

theorem validate_eq_ok {s : Settings} : s.validate = .ok () ↔ Runs s := by
  unfold validate
  constructor
  · intro valid
    split at valid
    · cases valid
    · next scheduler =>
        split at valid
        · cases valid
        · next workers =>
            split at valid
            · cases valid
            · next transport =>
                exact ⟨Nat.pos_of_ne_zero workers, shows_iff.mp (by simpa using scheduler),
                  shows_iff.mp (by simpa using transport)⟩
  · rintro ⟨workers, scheduler, transport⟩
    rw [if_neg (by simp [shows_iff.mpr scheduler]), if_neg (Nat.ne_of_gt workers),
      if_neg (by simp [shows_iff.mpr transport])]

/-- A refusal because of what was configured: everything but a fault of another kind. -/
inductive IsConfig : Refusal → Prop where
  | syntactic : IsConfig .syntactic
  | misfit (line column : Nat) (cause : Cause) : IsConfig (.misfit line column cause)
  | invalid (message : String) : IsConfig (.fault (.badSettings message))

theorem isConfig_of_validate {s : Settings} {f : Fault} (refused : s.validate = .error f) :
    IsConfig (.fault f) := by
  unfold validate at refused
  split at refused
  · cases refused
    exact .invalid _
  · split at refused
    · cases refused
      exact .invalid _
    · split at refused
      · cases refused
        exact .invalid _
      · cases refused

theorem isConfig_of_ofText {text : String} {r : Refusal} (refused : ofText text = .error r) :
    IsConfig r := by
  unfold ofText at refused
  split at refused
  · cases refused
    exact .syntactic
  · split at refused
    · cases refused
      exact .misfit _ _ _
    · split at refused
      · next f invalid =>
          cases refused
          exact isConfig_of_validate invalid
      · cases refused

theorem ofText_eq_ok {text : String} {es : Entries} (valid : Toml.document? text.toList = some es)
    {s : Settings} : ofText text = .ok s ↔ decode es = .ok s ∧ s.validate = .ok () := by
  simp only [ofText, valid]
  cases decode es with
  | error e => simp
  | ok t =>
      cases checked : t.validate with
      | error f =>
          simp only [checked, reduceCtorEq, Except.ok.injEq, false_iff, not_and]
          rintro rfl runs
          rw [checked] at runs
          cases runs
      | ok u =>
          simp only [checked, Except.ok.injEq, iff_self_and]
          rintro rfl
          exact checked

/-! ## Documents that say the same -/

/-- Two values that stand for the same section: the same value, or tables with the same fields in
any order, written in any way. -/
inductive SameSection : Value → Value → Prop where
  | table {form form' : Form} {fs gs : Entries} (same : (outline fs).Perm (outline gs)) :
      SameSection (.table form fs) (.table form' gs)
  | refl (v : Value) : SameSection v v

theorem SameSection.symm {v w : Value} (h : SameSection v w) : SameSection w v := by
  cases h with
  | table same => exact .table same.symm
  | refl => exact .refl v

/-- The same sections in any order, each with the same fields in any order. Where things stand does
not matter, nor how a table was written. -/
def Rearranged (es es' : Entries) : Prop :=
  ∀ name, Option.Rel SameSection (given es name) (given es' name)

theorem Rearranged.symm {es es' : Entries} (h : Rearranged es es') : Rearranged es' es := by
  intro name
  have rel := h name
  generalize given es name = o at rel ⊢
  generalize given es' name = o' at rel ⊢
  cases rel with
  | none => exact .none
  | some same => exact .some same.symm

theorem Rearranged.some {es es' : Entries} (h : Rearranged es es') {name : String} {w : Value}
    (there : given es' name = some w) : ∃ v, given es name = some v ∧ SameSection v w := by
  have rel := h name
  rw [there] at rel
  generalize given es name = o at rel ⊢
  cases rel with
  | some same => exact ⟨_, rfl, same⟩

theorem given_fieldsOf {es es' : Entries} (h : Entries.WellFormed es)
    (h' : Entries.WellFormed es') (same : Rearranged es es') (name : String) :
    given (fieldsOf es name) = given (fieldsOf es' name) := by
  have fields := (wellFormed_fieldsOf h name).distinct
  have fields' := (wellFormed_fieldsOf h' name).distinct
  unfold fieldsOf at *
  have rel := same name
  generalize given es name = o at rel fields ⊢
  generalize given es' name = o' at rel fields' ⊢
  cases rel with
  | none => rfl
  | some section_ =>
      cases section_ with
      | table same => exact funext (given_of_perm fields fields' same)
      | refl => rfl

variable {fs gs : Entries}

theorem Given.of_eq (same : given fs = given gs) {name : String} {P : Value → Prop}
    (h : Given fs name P) : Given gs name P :=
  fun v there => h v (same ▸ there)

theorem replaced_of_eq (same : given fs = given gs) {α : Type} (name : String)
    (value? : Value → Option α) (old : α) :
    replaced fs name value? old = replaced gs name value? old := by
  unfold replaced
  rw [same]

theorem SchedulerFits.of_eq (same : given fs = given gs) (h : SchedulerFits fs) :
    SchedulerFits gs :=
  ⟨same ▸ h.known, h.threadName.of_eq same, h.errorPolicy.of_eq same, h.haltPolicy.of_eq same⟩

theorem TransportFits.of_eq (same : given fs = given gs) (h : TransportFits fs) :
    TransportFits gs :=
  ⟨same ▸ h.known, h.workers.of_eq same, h.threadName.of_eq same, h.latency.of_eq same⟩

theorem LoggingFits.of_eq (same : given fs = given gs) (h : LoggingFits fs) : LoggingFits gs :=
  ⟨same ▸ h.known, h.filter.of_eq same⟩

theorem Shaped.of_rearranged {es es' : Entries} (h : Entries.WellFormed es)
    (h' : Entries.WellFormed es') (same : Rearranged es es') (shaped : Shaped es) : Shaped es' := by
  have fields := given_fieldsOf h h' same
  refine ⟨?_, ?_, shaped.scheduler.of_eq (fields _), shaped.transport.of_eq (fields _),
    shaped.logging.of_eq (fields _)⟩
  · intro name w there
    obtain ⟨v, before, -⟩ := same.some there
    exact shaped.known name v before
  · intro name w there
    obtain ⟨v, before, section_⟩ := same.some there
    cases section_ with
    | table => exact ⟨_, _, rfl⟩
    | refl => exact shaped.tables name _ before

theorem overlay_of_rearranged {es es' : Entries} (h : Entries.WellFormed es)
    (h' : Entries.WellFormed es') (same : Rearranged es es') (s : Settings) :
    overlay es' s = overlay es s := by
  have fields := given_fieldsOf h h' same
  simp only [overlay, schedulerOf, transportOf, replaced_of_eq (fields _)]

/-! ## The same sections, written in different ways -/

/-- Each section of one is a section of the other, with its rows in some order. -/
def Layout.Same (l l' : Layout) : Prop :=
  (∀ p ∈ l.sections, ∃ q ∈ l'.sections, p.name = q.name ∧ p.rows.Perm q.rows) ∧
    ∀ q ∈ l'.sections, ∃ p ∈ l.sections, p.name = q.name ∧ p.rows.Perm q.rows

theorem tableOutline_eq_some {e : Toml.Key × Mark × Value} {p : Section}
    (h : tableOutline? e = some p.outline) :
    ∃ form fs, e.1.name = p.name ∧ e.2.2 = .table form fs ∧ outline fs = content p.rows := by
  unfold tableOutline? at h
  split at h
  · next k m form fs =>
      obtain ⟨named, outlined⟩ := Prod.mk.inj (Option.some.inj h)
      exact ⟨form, fs, named, rfl, outlined⟩
  · cases h

/-- A document that says what some sections say. -/
structure Tells (es : Entries) (ps : List Section) : Prop where
  distinct : Entries.Distinct es
  outlined : es.map tableOutline? = ps.map fun p => some p.outline

theorem Tells.given {es : Entries} {ps : List Section} (h : Tells es ps) {p : Section}
    (member : p ∈ ps) :
    ∃ form fs, given es p.name = some (.table form fs) ∧ outline fs = content p.rows := by
  have said : some p.outline ∈ es.map tableOutline? := h.outlined ▸ List.mem_map_of_mem member
  obtain ⟨e, there, outlined⟩ := List.mem_map.mp said
  obtain ⟨form, fs, named, value, fields⟩ := tableOutline_eq_some outlined
  refine ⟨form, fs, ?_, fields⟩
  rw [Settings.given, ← named, find?_of_mem h.distinct there, Option.map_some, value]

theorem Tells.section {es : Entries} {ps : List Section} (h : Tells es ps) {name : String}
    {v : Value} (there : Settings.given es name = some v) : ∃ p ∈ ps, p.name = name := by
  obtain ⟨e, member, rfl, -⟩ := mem_of_given there
  have said : tableOutline? e ∈ ps.map fun p => some p.outline :=
    h.outlined ▸ List.mem_map_of_mem member
  obtain ⟨p, hp, outlined⟩ := List.mem_map.mp said
  exact ⟨p, hp, (name_of_tableOutline outlined.symm).symm⟩

theorem rearranged_of_same {l l' : Layout} (same : l.Same l') {es es' : Entries}
    (h : Tells es l.sections) (h' : Tells es' l'.sections) : Rearranged es es' := by
  intro name
  cases before : given es name with
  | none =>
      cases behind : given es' name with
      | none => exact .none
      | some w =>
          obtain ⟨q, hq, rfl⟩ := h'.section behind
          obtain ⟨p, hp, named, -⟩ := same.2 q hq
          obtain ⟨form, fs, there, -⟩ := h.given hp
          rw [named, before] at there
          cases there
  | some v =>
      obtain ⟨p, hp, rfl⟩ := h.section before
      obtain ⟨q, hq, named, rows⟩ := same.1 p hp
      obtain ⟨form, fs, there, fields⟩ := h.given hp
      obtain ⟨form', gs, there', fields'⟩ := h'.given hq
      rw [before] at there
      cases there
      rw [named, there']
      refine .some (.table ?_)
      rw [fields, fields']
      exact rows.map _

/-- Two ways to write the same sections give documents that say the same. -/
theorem rearranged_layouts {l l' : Layout} (fits : l.Fits) (fits' : l'.Fits) (same : l.Same l')
    {es : Entries} (read : Toml.document? l.chars = some es) :
    ∃ es', Toml.document? l'.chars = some es' ∧ Rearranged es es' := by
  obtain ⟨fs, read₁, outlined⟩ := document?_layout fits
  obtain ⟨es', read', outlined'⟩ := document?_layout fits'
  obtain rfl : es = fs := Option.some.inj (read.symm.trans read₁)
  have distinct := (Toml.wellFormed_document read).distinct
  have distinct' := (Toml.wellFormed_document read').distinct
  exact ⟨es', read', rearranged_of_same same ⟨distinct, outlined⟩ ⟨distinct', outlined'⟩⟩

/-! ## The settings of a document -/

/-- No section is written as an array, and no policy as a table. -/
structure Plain (es : Entries) : Prop where
  unlisted : Unlisted es
  untabled : Untabled (fieldsOf es "scheduler")

/-- The document has the right shape, and threads can run with what it makes of the defaults. -/
structure Fits (es : Entries) : Prop where
  shaped : Shaped es
  runs : Runs (overlay es {})

theorem Plain.of_rearranged {es es' : Entries} (h : Entries.WellFormed es)
    (h' : Entries.WellFormed es') (same : Rearranged es es') (plain : Plain es) : Plain es' := by
  constructor
  · intro name section_ w there ofTables items array
    obtain ⟨v, before, value⟩ := same.some there
    subst array
    cases value with
    | refl => exact plain.unlisted name section_ _ before _ _ rfl
  · intro name policy
    exact (plain.untabled name policy).of_eq (given_fieldsOf h h' same "scheduler")

theorem Fits.of_rearranged {es es' : Entries} (h : Entries.WellFormed es)
    (h' : Entries.WellFormed es') (same : Rearranged es es') (fits : Fits es) : Fits es' :=
  ⟨fits.shaped.of_rearranged h h' same, overlay_of_rearranged h h' same {} ▸ fits.runs⟩

theorem ofText_eq_ok_iff {text : String} {es : Entries}
    (valid : Toml.document? text.toList = some es) (plain : Plain es) {s : Settings} :
    ofText text = .ok s ↔ Fits es ∧ s = overlay es {} := by
  rw [ofText_eq_ok valid, validate_eq_ok,
    decode_eq_ok (Toml.wellFormed_document valid) plain.unlisted plain.untabled]
  constructor
  · rintro ⟨⟨shaped, rfl⟩, runs⟩
    exact ⟨⟨shaped, runs⟩, rfl⟩
  · rintro ⟨⟨shaped, runs⟩, rfl⟩
    exact ⟨⟨shaped, rfl⟩, runs⟩

/-- Documents that say the same are accepted with the same settings. -/
theorem ofText_of_rearranged {text text' : String} {es es' : Entries}
    (valid : Toml.document? text.toList = some es)
    (valid' : Toml.document? text'.toList = some es') (same : Rearranged es es')
    (plain : Plain es) {s : Settings} : ofText text' = .ok s ↔ ofText text = .ok s := by
  have h := Toml.wellFormed_document valid
  have h' := Toml.wellFormed_document valid'
  rw [ofText_eq_ok_iff valid plain, ofText_eq_ok_iff valid' (plain.of_rearranged h h' same)]
  rw [overlay_of_rearranged h h' same]
  refine and_congr_left' ⟨?_, ?_⟩
  · exact Fits.of_rearranged h' h same.symm
  · exact Fits.of_rearranged h h' same

/-- **Settings are decoded exactly.** Take a valid document that writes no section as an array and
no policy as a table. It is accepted exactly if it has no sections but the three, each of them a
table with fields of its own that are of the right kinds, and if threads can run with the outcome:
that is the defaults, with exactly the given fields replaced by their values. In every other case
the answer is that the configuration is bad. The answer does not depend on the order of sections and
keys or on how tables are written: any document that says the same is accepted with the same
settings. In particular, sections can be written inline, with dotted keys, or below headers, each in
a way of its own. -/
theorem settings_decoded_exactly {text : String} {es : Entries}
    (valid : Toml.document? text.toList = some es) (plain : Plain es) :
    (∀ s, ofText text = .ok s ↔ Fits es ∧ s = overlay es {}) ∧
    (¬Fits es → ∃ r, ofText text = .error r ∧ IsConfig r) ∧
    (∀ text' es', Toml.document? text'.toList = some es' → Rearranged es es' →
      ∀ s, ofText text' = .ok s ↔ ofText text = .ok s) ∧
    ∀ l l' : Layout, l.Fits → l'.Fits → l.Same l' → text.toList = l.chars →
      ∃ es', Toml.document? l'.chars = some es' ∧ Rearranged es es' ∧
        ∀ s, ofText (String.ofList l'.chars) = .ok s ↔ ofText text = .ok s := by
  have exactly := fun s => ofText_eq_ok_iff valid plain (s := s)
  refine ⟨exactly, ?_, fun text' es' valid' same s => ?_, ?_⟩
  · intro misfit
    cases answer : ofText text with
    | error r => exact ⟨r, rfl, isConfig_of_ofText answer⟩
    | ok s => exact absurd ((exactly s).mp answer).1 misfit
  · exact ofText_of_rearranged valid valid' same plain
  · intro l l' fits fits' same written
    obtain ⟨es', read, rearranged⟩ := rearranged_layouts fits fits' same (written ▸ valid)
    have valid' : Toml.document? (String.ofList l'.chars).toList = some es' := by
      rw [String.toList_ofList]
      exact read
    exact ⟨es', read, rearranged, fun s => ofText_of_rearranged valid valid' rearranged plain⟩

/-- A document that gives two fields, in two ways. -/
def partialText : String :=
  "transport.latency_ms = 25\n[scheduler]\nerror_policy = 'propagate'\n"

def partialEntries : Entries :=
  [(⟨"transport", 65⟩, 65, .table .dotted [(⟨"latency_ms", 55⟩, 42, .integer 25)]),
    (⟨"scheduler", 38⟩, 39, .table .header [(⟨"error_policy", 27⟩, 12, .text "propagate")])]

theorem plain_partial : Plain partialEntries := by
  constructor
  · intro name section_ v there ofTables items
    simp only [List.mem_cons, List.not_mem_nil, or_false] at section_
    rcases section_ with rfl | rfl | rfl <;> cases there <;> exact nofun
  · intro name policy v there form gs
    simp only [List.mem_cons, List.not_mem_nil, or_false] at policy
    rcases policy with rfl | rfl <;> cases there
    exact nofun

theorem fits_partial : Fits partialEntries := by
  have scheduler : SchedulerFits (fieldsOf partialEntries "scheduler") := by
    refine ⟨known_iff.mp (by decide), ?_, ?_, ?_⟩
    all_goals
      intro v there
      cases there
    exact ⟨.propagate, rfl⟩
  have transport : TransportFits (fieldsOf partialEntries "transport") := by
    refine ⟨known_iff.mp (by decide), ?_, ?_, ?_⟩
    all_goals
      intro v there
      cases there
    exact ⟨25, by decide, rfl⟩
  have logging : LoggingFits (fieldsOf partialEntries "logging") := by
    refine ⟨known_iff.mp (by decide), ?_⟩
    intro v there
    cases there
  refine ⟨⟨known_iff.mp (by decide), ?_, scheduler, transport, logging⟩, ?_⟩
  · intro name v there
    obtain ⟨e, member, -, rfl⟩ := mem_of_given there
    simp only [partialEntries, List.mem_cons, List.not_mem_nil, or_false] at member
    rcases member with rfl | rfl <;> exact ⟨_, _, rfl⟩
  · exact ⟨by decide, shows_iff.mp rfl, shows_iff.mp rfl⟩

theorem settings_decoded_exactly_partial :
    Toml.document? partialText.toList = some partialEntries ∧ Plain partialEntries ∧
      ofText partialText =
        .ok { scheduler := { onFailure := .propagate }, transport := { latency := 25 } } := by
  have valid : Toml.document? partialText.toList = some partialEntries := rfl
  have exactly := (settings_decoded_exactly valid plain_partial).1
  exact ⟨valid, plain_partial, (exactly _).mpr ⟨fits_partial, rfl⟩⟩

end CallBridge.Settings
