/-!
# Runs

A machine makes one move at a time; a move fits a state or it does not, and what can be seen of it
is a list of events. A run is a list of moves that fit one after another, and its log is all that
can be seen of them. What every move preserves, every run does; the property may speak of the log
so far.
-/

namespace CallBridge

variable {σ μ ε : Type}

/-- A list of moves, and all that can be seen of them; nothing when a move does not fit. -/
def runWith (step : σ → μ → Option (σ × List ε)) (s : σ) : List μ → Option (σ × List ε)
  | [] => some (s, [])
  | m :: ms => do
    let (t, es) ← step s m
    let (u, log) ← runWith step t ms
    return (u, es ++ log)

variable {step : σ → μ → Option (σ × List ε)}

theorem runWith_cons {s u : σ} {m : μ} {ms : List μ} {log : List ε}
    (h : runWith step s (m :: ms) = some (u, log)) :
    ∃ t es rest, step s m = some (t, es) ∧ runWith step t ms = some (u, rest) ∧
      log = es ++ rest := by
  simp only [runWith, Option.bind_eq_bind, Option.bind_eq_some_iff, Prod.exists] at h
  obtain ⟨t, es, hstep, t', rest, hrun, heq⟩ := h
  cases heq
  exact ⟨t, es, rest, hstep, hrun, rfl⟩

theorem runWith_of_step {s t : σ} {m : μ} {es : List ε} (h : step s m = some (t, es))
    (ms : List μ) :
    runWith step s (m :: ms) = (runWith step t ms).map fun q => (q.1, es ++ q.2) := by
  cases later : runWith step t ms <;> simp [runWith, h, later]

theorem runWith_of_stuck {s : σ} {m : μ} (h : step s m = none) (ms : List μ) :
    runWith step s (m :: ms) = none := by
  simp [runWith, h]

theorem runWith_append {s t u : σ} {ms ms' : List μ} {log log' : List ε}
    (h : runWith step s ms = some (t, log)) (h' : runWith step t ms' = some (u, log')) :
    runWith step s (ms ++ ms') = some (u, log ++ log') := by
  induction ms generalizing s log with
  | nil =>
      cases h
      exact h'
  | cons m ms ih =>
      obtain ⟨v, es, rest, hstep, hrun, rfl⟩ := runWith_cons h
      simp [runWith, hstep, ih hrun]

theorem runWith_one {s t : σ} {m : μ} {es : List ε} (h : step s m = some (t, es)) :
    runWith step s [m] = some (t, es) := by
  simp [runWith, h]

theorem runWith_pair {s t u : σ} {m m' : μ} {es : List ε} (first : step s m = some (t, []))
    (second : step t m' = some (u, es)) : runWith step s [m, m'] = some (u, es) := by
  simp [runWith, first, second]

/-- What holds before a run and is kept by every move holds after it. -/
theorem runWith_invariant {P : σ → List ε → Prop}
    (keep : ∀ {s before m t es}, P s before → step s m = some (t, es) → P t (before ++ es))
    {ms : List μ} {s t : σ} {before log : List ε} (h : runWith step s ms = some (t, log))
    (hs : P s before) : P t (before ++ log) := by
  induction ms generalizing s before log with
  | nil =>
      cases h
      simpa using hs
  | cons m ms ih =>
      obtain ⟨u, es, rest, hstep, hrun, rfl⟩ := runWith_cons h
      rw [← List.append_assoc]
      exact ih hrun (keep hs hstep)

theorem runWith_invariant_of_mem {P : σ → List ε → Prop} {ms : List μ}
    (keep : ∀ {s before m t es}, m ∈ ms → P s before → step s m = some (t, es) →
      P t (before ++ es))
    {s t : σ} {before log : List ε} (h : runWith step s ms = some (t, log)) (hs : P s before) :
    P t (before ++ log) := by
  induction ms generalizing s before log with
  | nil =>
      cases h
      simpa using hs
  | cons m ms ih =>
      obtain ⟨u, es, rest, hstep, hrun, rfl⟩ := runWith_cons h
      rw [← List.append_assoc]
      apply ih _ hrun (keep List.mem_cons_self hs hstep)
      intro s before m' t es mem
      exact keep (List.mem_cons_of_mem m mem)

theorem runWith_keeps {P : σ → Prop}
    (keep : ∀ {s m t es}, P s → step s m = some (t, es) → P t) {ms : List μ} {s t : σ}
    {log : List ε} (h : runWith step s ms = some (t, log)) (hs : P s) : P t :=
  @runWith_invariant _ _ _ step (fun s _ => P s) keep ms s t [] log h hs

/-- What one of its moves brings about, and every move keeps, holds after a run. -/
theorem runWith_of_mem {P : σ → Prop} {m : μ} {ms : List μ}
    (brings : ∀ {s t es}, step s m = some (t, es) → P t)
    (keep : ∀ {s m t es}, P s → step s m = some (t, es) → P t)
    {s t : σ} {log : List ε} (h : runWith step s ms = some (t, log)) (mem : m ∈ ms) : P t := by
  induction ms generalizing s log with
  | nil => cases mem
  | cons m' ms ih =>
      obtain ⟨u, es, rest, hstep, hrun, rfl⟩ := runWith_cons h
      rcases List.mem_cons.mp mem with rfl | later
      · have held : P u := brings hstep
        exact runWith_keeps keep hrun held
      · exact ih hrun later

theorem runWith_split {s u : σ} {ms ms' : List μ} {log : List ε}
    (h : runWith step s (ms ++ ms') = some (u, log)) :
    ∃ t first rest, runWith step s ms = some (t, first) ∧
      runWith step t ms' = some (u, rest) ∧ log = first ++ rest := by
  induction ms generalizing s log with
  | nil => exact ⟨s, [], log, rfl, h, rfl⟩
  | cons m ms ih =>
      obtain ⟨v, es, rest, hstep, hrun, rfl⟩ := runWith_cons h
      obtain ⟨t, first, last, hfirst, hlast, rfl⟩ := ih hrun
      refine ⟨t, es ++ first, last, ?_, hlast, ?_⟩
      · simp [runWith, hstep, hfirst]
      · rw [List.append_assoc]

end CallBridge
