import CallBridge.Command
import CallBridge.Proofs.Settings.Sheet

/-!
# Settings are read as they were written

The settings are written as a sheet of three sections that gives every field. Read as a document it
gives the sections back, and decoded it gives the settings back, whatever their texts contain. So
what reading makes of written settings depends on nothing but their validation, and printing the
settings in effect is a fixed point: the print, taken as the settings file, is printed again.
-/

namespace CallBridge.Settings

open Toml

/-! ## Settings as a sheet -/

def textRow (key value : String) : Row := ⟨key, writeText value, .text value⟩

def countRow (key : String) (n : Nat) : Row := ⟨key, writeCount n, .integer n⟩

def sheet (s : Settings) : List Section :=
  [⟨"scheduler",
      [textRow "thread_name" s.scheduler.threadName,
        textRow "error_policy" s.scheduler.onFailure.text,
        textRow "halt_policy" s.scheduler.onHalt.text]⟩,
    ⟨"transport",
      [countRow "worker_threads" s.transport.workers,
        textRow "thread_name" s.transport.threadName,
        countRow "latency_ms" s.transport.latency]⟩,
    ⟨"logging", [textRow "filter" s.filter]⟩]

theorem renderChars_eq (s : Settings) : s.renderChars = sheetChars s.sheet := by
  simp [renderChars, sheet, sheetChars, Section.chars, Row.chars, textRow, countRow]

/-- The numbers of the settings are numbers of 64 bits. -/
structure InRange (s : Settings) : Prop where
  workers : s.transport.workers < 0x10000000000000000
  latency : s.transport.latency < 0x10000000000000000

theorem sheet_fits {s : Settings} (range : s.InRange) : ∀ p ∈ s.sheet, p.Fits := by
  have text {key : String} (bare : Bare key) (value : String) : (textRow key value).Fits :=
    ⟨bare, writes_text value⟩
  have count {key : String} (bare : Bare key) {n : Nat} (fits : n < 0x10000000000000000) :
      (countRow key n).Fits := ⟨bare, writes_count fits⟩
  intro p hp
  simp only [sheet, List.mem_cons, List.not_mem_nil, or_false] at hp
  rcases hp with rfl | rfl | rfl
  · have section_ : Bare "scheduler" := by decide
    have thread_name : Bare "thread_name" := by decide
    have error_policy : Bare "error_policy" := by decide
    have halt_policy : Bare "halt_policy" := by decide
    refine ⟨section_, ?_, by simp [textRow]⟩
    simp [text thread_name, text error_policy, text halt_policy]
  · have section_ : Bare "transport" := by decide
    have worker_threads : Bare "worker_threads" := by decide
    have thread_name : Bare "thread_name" := by decide
    have latency_ms : Bare "latency_ms" := by decide
    refine ⟨section_, ?_, by simp [textRow, countRow]⟩
    simp [count worker_threads range.workers, text thread_name, count latency_ms range.latency]
  · have section_ : Bare "logging" := by decide
    have filter : Bare "filter" := by decide
    refine ⟨section_, ?_, by simp [textRow]⟩
    simp [text filter]

/-! ## Decoding -/

theorem variantOf_failure (p : FailurePolicy) (m : Mark) :
    variantOf FailurePolicy.all FailurePolicy.text m p.text = .ok p := by
  cases p <;> rfl

theorem variantOf_halt (p : HaltPolicy) (m : Mark) :
    variantOf HaltPolicy.all HaltPolicy.text m p.text = .ok p := by
  cases p <;> rfl

theorem outline_eq_cons {fs : Entries} {name : String} {v : Value} {rest : List (String × Value)}
    (h : outline fs = (name, v) :: rest) :
    ∃ k m gs, fs = (k, m, v) :: gs ∧ k.name = name ∧ outline gs = rest := by
  obtain ⟨⟨k, m, v'⟩, gs, rfl, heq, outlined⟩ := List.map_eq_cons_iff.mp h
  cases heq
  exact ⟨k, m, gs, rfl, rfl, outlined⟩

theorem outline_eq_nil {fs : Entries} (h : outline fs = []) : fs = [] := List.map_eq_nil_iff.mp h

/-- Entries are walked in the one order in which their names ascend. -/
theorem ascending_eq {es fs : Entries} (perm : es.Perm fs)
    (sorted : fs.Pairwise fun a b => a.1.name < b.1.name) : ascending es = fs := by
  have le_iff (a b : String) : (decide (a < b) || a == b) = true ↔ a ≤ b := by
    rw [Std.le_iff_lt_or_eq, Bool.or_eq_true, decide_eq_true_eq, beq_iff_eq]
  have walked : (ascending es).Perm fs := (List.mergeSort_perm es _).trans perm
  have rises : (ascending es).Pairwise fun a b => a.1.name ≤ b.1.name := by
    refine (List.pairwise_mergeSort ?_ ?_ es).imp fun h => (le_iff _ _).mp h
    · intro a b c
      rw [le_iff, le_iff, le_iff]
      exact String.le_trans
    · intro a b
      rw [Bool.or_eq_true, le_iff, le_iff]
      exact String.le_total _ _
  have apart : (ascending es).Pairwise fun a b => a.1.name ≠ b.1.name :=
    (walked.pairwise_iff Ne.symm).mpr (sorted.imp Std.ne_of_lt)
  have strictly : (ascending es).Pairwise fun a b => a.1.name < b.1.name :=
    (rises.and apart).imp fun h => Std.lt_of_le_of_ne h.1 h.2
  exact walked.eq_of_pairwise (fun _ _ _ _ ab ba => absurd ba (String.lt_asymm ab)) strictly sorted

theorem ascending_three {es : Entries} {a b c : Toml.Key × Mark × Value}
    (perm : es.Perm [a, b, c]) (ab : a.1.name < b.1.name) (bc : b.1.name < c.1.name) :
    ascending es = [a, b, c] := by
  refine ascending_eq perm (.cons ?_ (List.pairwise_pair.mpr bc))
  exact List.forall_mem_cons.mpr ⟨ab, List.forall_mem_singleton.mpr (String.lt_trans ab bc)⟩

theorem ofEntries_scheduler {fs : Entries} {p : LoopPolicy}
    (h : outline fs = [("thread_name", .text p.threadName),
      ("error_policy", .text p.onFailure.text), ("halt_policy", .text p.onHalt.text)])
    (q : LoopPolicy) :
    ofEntries schedulerFields fs q = .ok p := by
  obtain ⟨name, m₁, fs₁, rfl, n₁, h₁⟩ := outline_eq_cons h
  obtain ⟨failure, m₂, fs₂, rfl, n₂, h₂⟩ := outline_eq_cons h₁
  obtain ⟨halt, m₃, fs₃, rfl, n₃, h₃⟩ := outline_eq_cons h₂
  obtain rfl := outline_eq_nil h₃
  have failure_halt : failure.name < halt.name := by
    rw [n₂, n₃]
    decide
  have halt_name : halt.name < name.name := by
    rw [n₃, n₁]
    decide
  have sorted (v₁ v₂ v₃ : Value) : ascending [(name, m₁, v₁), (failure, m₂, v₂), (halt, m₃, v₃)] =
      [(failure, m₂, v₂), (halt, m₃, v₃), (name, m₁, v₁)] :=
    ascending_three (List.perm_append_comm : ([_] ++ [_, _]).Perm _) failure_halt halt_name
  rw [ofEntries, sorted]
  simp only [schedulerFields, List.foldlM_cons, List.foldlM_nil, List.find?_cons, n₁, n₂, n₃]
  simp [textOf, policyOf, variantOf_failure, variantOf_halt]
  rfl

theorem ofEntries_transport {fs : Entries} {c : Loopback.Config}
    (h : outline fs = [("worker_threads", .integer c.workers), ("thread_name", .text c.threadName),
      ("latency_ms", .integer c.latency)]) (d : Loopback.Config) :
    ofEntries transportFields fs d = .ok c := by
  obtain ⟨workers, m₁, fs₁, rfl, n₁, h₁⟩ := outline_eq_cons h
  obtain ⟨name, m₂, fs₂, rfl, n₂, h₂⟩ := outline_eq_cons h₁
  obtain ⟨latency, m₃, fs₃, rfl, n₃, h₃⟩ := outline_eq_cons h₂
  obtain rfl := outline_eq_nil h₃
  have latency_name : latency.name < name.name := by
    rw [n₃, n₂]
    decide
  have name_workers : name.name < workers.name := by
    rw [n₂, n₁]
    decide
  have sorted (v₁ v₂ v₃ : Value) :
      ascending [(workers, m₁, v₁), (name, m₂, v₂), (latency, m₃, v₃)] =
        [(latency, m₃, v₃), (name, m₂, v₂), (workers, m₁, v₁)] :=
    ascending_three (List.reverse_perm [_, _, _]) latency_name name_workers
  rw [ofEntries, sorted]
  simp only [transportFields, List.foldlM_cons, List.foldlM_nil, List.find?_cons, n₁, n₂, n₃]
  simp [textOf, countOf]
  rfl

theorem ofEntries_logging {fs : Entries} {t : String}
    (h : outline fs = [("filter", .text t)]) (u : String) :
    ofEntries loggingFields fs u = .ok t := by
  obtain ⟨k, m, fs', rfl, named, nothing⟩ := outline_eq_cons h
  obtain rfl := outline_eq_nil nothing
  simp [ofEntries, ascending, loggingFields, named, textOf]

theorem sectionOutline_eq_some {e : Toml.Key × Mark × Value} {name : String}
    {rows : List (String × Value)} (h : sectionOutline? e = some (name, rows)) :
    ∃ k m fs, e = (k, m, .table .header fs) ∧ k.name = name ∧ outline fs = rows := by
  unfold sectionOutline? at h
  split at h
  · next k m fs =>
      cases h
      exact ⟨k, m, fs, rfl, rfl, rfl⟩
  · cases h

/-- The entries of a sheet are decoded to the settings that it was written from. -/
theorem decode_sheet {s : Settings} {es : Entries}
    (h : es.map sectionOutline? = s.sheet.map fun p => some p.outline) : decode es = .ok s := by
  simp only [sheet, List.map_cons, List.map_nil, Section.outline, textRow, countRow] at h
  obtain ⟨e₁, es₁, rfl, h₁, rest⟩ := List.map_eq_cons_iff.mp h
  obtain ⟨e₂, es₂, rfl, h₂, rest⟩ := List.map_eq_cons_iff.mp rest
  obtain ⟨e₃, es₃, rfl, h₃, rest⟩ := List.map_eq_cons_iff.mp rest
  obtain rfl := List.map_eq_nil_iff.mp rest
  obtain ⟨k₁, m₁, fs₁, rfl, n₁, rows₁⟩ := sectionOutline_eq_some h₁
  obtain ⟨k₂, m₂, fs₂, rfl, n₂, rows₂⟩ := sectionOutline_eq_some h₂
  obtain ⟨k₃, m₃, fs₃, rfl, n₃, rows₃⟩ := sectionOutline_eq_some h₃
  have logging_scheduler : k₃.name < k₁.name := by
    rw [n₃, n₁]
    decide
  have scheduler_transport : k₁.name < k₂.name := by
    rw [n₁, n₂]
    decide
  have sorted (v₁ v₂ v₃ : Value) : ascending [(k₁, m₁, v₁), (k₂, m₂, v₂), (k₃, m₃, v₃)] =
      [(k₃, m₃, v₃), (k₁, m₁, v₁), (k₂, m₂, v₂)] :=
    ascending_three (List.perm_append_comm : ([_, _] ++ [_]).Perm _) logging_scheduler
      scheduler_transport
  rw [decode, ofEntries, sorted]
  simp only [sections, List.foldlM_cons, List.foldlM_nil, List.find?_cons, n₁, n₂, n₃]
  simp [sectionOf, ofEntries_scheduler rows₁, ofEntries_transport rows₂, ofEntries_logging rows₃]
  rfl

/-! ## Reading what was written -/

theorem ofText_render_of_inRange {s : Settings} (range : s.InRange) :
    ofText s.render =
      match s.validate with
      | .ok () => .ok s
      | .error f => .error (.fault f) := by
  obtain ⟨es, read, outlined⟩ := document?_sheetChars (sheet_fits range) (by simp [sheet])
  simp only [ofText, render, String.toList_ofList, renderChars_eq, read, decode_sheet outlined]
  cases s.validate <;> rfl

theorem validate_of_ofText {text : String} {s : Settings} (h : ofText text = .ok s) :
    s.validate = .ok () := by
  unfold ofText at h
  split at h
  · cases h
  · split at h
    · cases h
    · split at h
      · cases h
      · next valid => exact Except.ok.inj h ▸ valid

theorem loadOrDefault_file (text : String) :
    loadOrDefault (.file text.toByteArray) = ofText text := by
  have utf8 : String.fromUTF8? text.toByteArray = some text := dif_pos text.isValidUTF8
  simp only [loadOrDefault, load, utf8]

/-- The settings in effect are printed as they are written. -/
theorem perform_printConfig {text : String} {s : Settings} (h : ofText text = .ok s)
    (config filter : Option String) :
    Command.perform (.printConfig config) (some (.file text.toByteArray)) filter =
      { code := 0, stdout := s.render } := by
  simp only [Command.perform, Option.map_some, Option.getD_some, loadOrDefault_file, h]

/-- **Settings are read as they were written.** For all settings with numbers of 64 bits and any
texts, reading what they are written as gives them back if they are valid, and else the fault that
their validation finds. Settings that some text was read as are read again from what they are
written as; and what is printed for such a text is printed again when it is the settings file
itself. -/
theorem ofText_render {s : Settings} (range : s.InRange) :
    (ofText s.render =
      match s.validate with
      | .ok () => .ok s
      | .error f => .error (.fault f)) ∧
    ∀ text, ofText text = .ok s →
      ofText s.render = .ok s ∧
      ∀ config filter,
        let printed := Command.perform (.printConfig config) (some (.file text.toByteArray)) filter
        printed = { code := 0, stdout := s.render } ∧
          Command.perform (.printConfig config) (some (.file printed.stdout.toByteArray)) filter =
            printed := by
  have read := ofText_render_of_inRange range
  refine ⟨read, fun text accepted => ?_⟩
  have again : ofText s.render = .ok s := by
    rw [read, validate_of_ofText accepted]
  refine ⟨again, fun config filter => ?_⟩
  simp only [perform_printConfig accepted, perform_printConfig again, and_self]

/-- Settings whose texts are written in three ways that the defaults do not need. -/
def quotedSettings : Settings where
  scheduler := { threadName := "\"C:\\temp\"" }
  transport := { workers := 0x7fffffffffffffff, threadName := "\"\"\"\n'''\\\r\x07" }
  filter := "it's\n\\ ''\n"

theorem ofText_render_quoted :
    quotedSettings.InRange ∧ ofText quotedSettings.render = .ok quotedSettings ∧
      ∀ config filter,
        Command.perform (.printConfig config)
            (some (.file quotedSettings.render.toByteArray)) filter =
          { code := 0, stdout := quotedSettings.render } := by
  have range : quotedSettings.InRange := ⟨by decide, by decide⟩
  obtain ⟨read, again⟩ := ofText_render range
  have valid : quotedSettings.validate = .ok () := rfl
  have accepted : ofText quotedSettings.render = .ok quotedSettings := by
    rw [read, valid]
  exact ⟨range, accepted, fun config filter => ((again _ accepted).2 config filter).1⟩

end CallBridge.Settings
