import CallBridge.Proofs.Script.Lanes
import CallBridge.Proofs.Stream.Handover
import Mathlib.Logic.Function.Basic

/-!
# The streams of a script are sessions

A script acts on many calls at once: callbacks of one operate on others, and a start runs the steps
of its channel. For each single stream all that is a run of its session. `Sessions` says so of a
world, given the operations that are under way on each stream; every step keeps it, as long as no
callback has to do with other threads: none waits for one, and none starts a take on one.
-/

namespace CallBridge

namespace Session

variable {α : Type}

/-- How many callbacks of items and of closes begin. -/
def begins (log : List (Event α)) : Nat × Nat :=
  ((shows log).length, log.countP fun e => e matches .closed)

@[simp] theorem begins_nil : begins ([] : List (Event α)) = (0, 0) := rfl

@[simp] theorem begins_append (log es : List (Event α)) :
    begins (log ++ es) = ((begins log).1 + (begins es).1, (begins log).2 + (begins es).2) := by
  simp [begins, shows]

@[simp] theorem begins_left (e : Ending) (es : List (Event α)) :
    begins (.left e :: es) = begins es := rfl

@[simp] theorem begins_took (a : Option α) (es : List (Event α)) :
    begins (.took a :: es) = begins es := rfl

@[simp] theorem begins_tookLate (a : Option α) (es : List (Event α)) :
    begins (.tookLate a :: es) = begins es := rfl

@[simp] theorem begins_asks (why : Cause) (lane : Option Nat) :
    begins (asks why lane : List (Event α)) = (0, 0) := by
  cases lane <;> rfl

end Session

namespace Script

open Session (Frame)

/-! ## Steps that wait for nobody -/

def Reaction.steps (r : Reaction) : List Step := r.flatMap Behaviour.steps

/-- The step may wait, and then other threads go on, or it starts one. -/
def Step.waits : Step → Bool
  | takeAside _ | awaitEnd _ | newLoop .. | run _ | join _ | awaitStopped _ | dropLoop _ => true
  | _ => false

/-- The steps that a step hands to callbacks of calls and to a channel. -/
def Step.later : Step → List Step
  | newUnary _ onDone _ => Reaction.steps onDone
  | newStream _ onItem onEnd onClosed _ =>
    Reaction.steps onItem ++ Reaction.steps onEnd ++ Reaction.steps (onClosed.getD [])
  | newRecorder _ onStart => onStart
  | _ => []

/-- The steps that a step hands to handlers of events. -/
def Step.handled : Step → List Step
  | register _ _ handler => Reaction.steps handler
  | _ => []

/-- The step may wait, and so may handlers, but no callback does. -/
inductive Step.Calm : Step → Prop where
  | mk {s : Step} (now : ∀ t ∈ s.later, t.waits = false) (later : ∀ t ∈ s.later, t.Calm)
      (handled : ∀ t ∈ s.handled, t.Calm) : s.Calm

/-- A step that may be taken inside a callback. -/
structure Step.Prompt (s : Step) : Prop where
  now : s.waits = false
  calm : s.Calm

theorem Step.Calm.prompt {s : Step} (h : s.Calm) : ∀ t ∈ s.later, t.Prompt := by
  cases h with
  | mk now later => exact fun t ht => ⟨now t ht, later t ht⟩

theorem Step.Calm.of_handled {s : Step} (h : s.Calm) : ∀ t ∈ s.handled, t.Calm := by
  cases h with
  | mk _ _ handled => exact handled

def Body.steps : Body → List Step
  | unary _ onDone => Reaction.steps onDone
  | stream _ hooks =>
    Reaction.steps hooks.onItem ++ Reaction.steps hooks.onEnd ++
      Reaction.steps (hooks.onClosed.getD [])

theorem mem_steps_of_pick {r : Reaction} {n : Nat} {s : Step} (h : s ∈ (Reaction.pick r n).steps) :
    s ∈ Reaction.steps r := by
  -- Past the last behaviour the last one repeats; without any, nothing is done.
  have chosen : ∀ b, (r[n]? <|> r.getLast?) = some b → b ∈ r := by
    intro b hb
    rw [Option.orElse_eq_orElse, Option.orElse_eq_or, Option.or_eq_some_iff] at hb
    rcases hb with hb | ⟨-, hb⟩
    · exact List.mem_of_getElem? hb
    · exact List.mem_of_getLast? hb
  unfold Reaction.pick at h
  cases hb : (r[n]? <|> r.getLast?) with
  | none => simp [hb, Behaviour.idle, Behaviour.steps] at h
  | some b =>
      rw [hb] at h
      exact List.mem_flatMap.mpr ⟨b, chosen b hb, h⟩

/-! ## Streams and sessions -/

/-- What is under way. -/
structure Nest where
  frames : CallId → List (Frame Datum)
  /-- The lanes that starts under way have opened, each with its call. -/
  opened : List (Nat × CallId) := []

/-- The session of a stream. -/
def sessionOf (F : Nest) (thread : Nat) (id : CallId) (s : Stream Datum) : Session Datum where
  stream := s
  thread := thread
  frames := F.frames id

/-- How often the callbacks of items and of closes were run. -/
def StreamHooks.counts (hooks : StreamHooks) : Nat × Nat := (hooks.shown, hooks.closed)

/-- A session that began with a fresh call has come this far, and its callbacks were run as often
as the hooks say. -/
def Reached (id : CallId) (s : Session Datum) (hooks : StreamHooks) : Prop :=
  ∃ timeout thread ms log, (Session.fresh id timeout thread).run ms = some (s, log) ∧
    hooks.counts = Session.begins log

/-- The hooks count the callbacks that begin. -/
def Counted (hooks : StreamHooks) (es : List (Session.Event Datum)) (hooks' : StreamHooks) : Prop :=
  hooks'.counts = (hooks.shown + (Session.begins es).1, hooks.closed + (Session.begins es).2)

theorem Counted.silent {hooks : StreamHooks} {es : List (Session.Event Datum)}
    (silent : Session.begins es = (0, 0)) : Counted hooks es hooks := by
  rw [Counted, silent]
  rfl

theorem Reached.step {id : CallId} {s t : Session Datum} {hooks hooks' : StreamHooks}
    {m : Session.Move Datum} {es : List (Session.Event Datum)} (h : Reached id s hooks)
    (moved : s.step m = some (t, es)) (counts : Counted hooks es hooks') : Reached id t hooks' := by
  obtain ⟨timeout, thread, ms, log, run, before⟩ := h
  have once : runWith Session.step s [m] = some (t, es) := by simp [runWith, moved]
  refine ⟨timeout, thread, ms ++ [m], log ++ es, runWith_append run once, ?_⟩
  rw [Session.begins_append, ← before, counts]
  rfl

/-- Every stream is where a session can be. -/
structure Sessions (F : Nest) (thread : Nat) (calls : Table CallId Member)
    (takes : List AsideTake) (lanes : Table Nat Lane) (channels : Table String Channel)
    (runners : Table Nat Runner) : Prop where
  numbered : ∀ id m, calls.find? id = some m → id.serial ≤ calls.size
  prompt : ∀ id m, calls.find? id = some m → ∀ s ∈ m.body.steps, s.Prompt
  recorders : ∀ name r, channels.find? name = some (.recorder r) → ∀ s ∈ r.onStart, s.Prompt
  handlers : ∀ i r, runners.find? i = some r → ∀ event p, r.handlers.find? event = some p →
    ∀ s ∈ Reaction.steps p.1, s.Calm
  nested : ∀ id, F.frames id ≠ [] → ∃ name s hooks, calls.find? id = some ⟨name, .stream s hooks⟩
  answered : ∀ t ∈ takes, t.result ≠ none
  reached : ∀ id name s hooks, calls.find? id = some ⟨name, .stream s hooks⟩ →
    Reached id (sessionOf F thread id s) hooks
  served : Served F.opened calls lanes

variable {F G : Nest} {th : Nat} {calls : Table CallId Member} {takes takes' : List AsideTake}
  {lanes lanes' : Table Nat Lane} {channels : Table String Channel} {runners : Table Nat Runner}
  {id : CallId} {name : String} {s : Stream Datum} {hooks hooks' : StreamHooks}

/-- One call is made or gets another body; nothing changes for the others. -/
theorem Sessions.insert {m : Member} (h : Sessions F th calls takes lanes channels runners)
    (frames : ∀ j, j ≠ id → G.frames j = F.frames j)
    (served : Served G.opened (calls.insert id m) lanes')
    (numbered : id.serial ≤ (calls.insert id m).size)
    (prompt : ∀ s ∈ m.body.steps, s.Prompt)
    (nested : G.frames id ≠ [] → ∃ name s hooks, m = ⟨name, .stream s hooks⟩)
    (reached : ∀ name s hooks, m = ⟨name, .stream s hooks⟩ →
      Reached id (sessionOf G th id s) hooks) :
    Sessions G th (calls.insert id m) takes lanes' channels runners := by
  have new : (calls.insert id m).find? id = some m := Table.find?_insert_self calls _ _
  have old : ∀ {j}, j ≠ id → (calls.insert id m).find? j = calls.find? j :=
    fun hj => Table.find?_insert_of_ne calls _ hj
  have size : calls.size ≤ (calls.insert id m).size := by
    rw [Table.size_insert]
    split <;> omega
  -- Every clause splits on whether it speaks of this call.
  constructor
  case numbered =>
    intro j m' hm
    by_cases hj : j = id
    · rw [hj]
      exact numbered
    · rw [old hj] at hm
      exact Nat.le_trans (h.numbered j m' hm) size
  case prompt =>
    intro j m' hm
    by_cases hj : j = id
    · rw [hj, new, Option.some.injEq] at hm
      rw [← hm]
      exact prompt
    · rw [old hj] at hm
      exact h.prompt j m' hm
  case recorders => exact h.recorders
  case handlers => exact h.handlers
  case served => exact served
  case nested =>
    intro j hne
    by_cases hj : j = id
    · rw [hj] at hne ⊢
      obtain ⟨name, s, hooks, rfl⟩ := nested hne
      exact ⟨_, _, _, new⟩
    · rw [old hj]
      exact h.nested j (frames j hj ▸ hne)
  case answered => exact h.answered
  case reached =>
    intro j name s hooks hm
    by_cases hj : j = id
    · rw [hj] at hm ⊢
      rw [new, Option.some.injEq] at hm
      exact reached name s hooks hm
    · rw [old hj] at hm
      rw [sessionOf, frames j hj]
      exact h.reached j name s hooks hm

/-- One stream makes a move of its session. -/
theorem Sessions.move {m : Session.Move Datum} {t : Session Datum}
    {es : List (Session.Event Datum)} (h : Sessions F th calls takes lanes channels runners)
    (found : calls.find? id = some ⟨name, .stream s hooks⟩)
    (moved : (sessionOf F th id s).step m = some (t, es)) (thread : t.thread = th)
    (steps : (Body.stream t.stream hooks').steps = (Body.stream s hooks).steps)
    (counts : Counted hooks es hooks') (mine : G.frames id = t.frames)
    (frames : ∀ j, j ≠ id → G.frames j = F.frames j)
    (served : Served G.opened (calls.insert id ⟨name, .stream t.stream hooks'⟩) lanes')
    (claimed : t.claimed = false) :
    Sessions G th (calls.insert id ⟨name, .stream t.stream hooks'⟩) takes lanes' channels
      runners := by
  refine h.insert frames served ?_ ?_ (fun _ => ⟨_, _, _, rfl⟩) ?_
  · simpa [Table.size_insert, found] using h.numbered id _ found
  · rw [steps]
    exact h.prompt id _ found
  · intro name' s' hooks'' hm
    rw [Member.mk.injEq, Body.stream.injEq] at hm
    obtain ⟨rfl, rfl, rfl⟩ := hm
    -- The new state of the world is the session that the move comes to, field by field.
    have same : sessionOf G th id t.stream = t := by
      rw [sessionOf, mine, ← claimed, ← thread]
    rw [same]
    exact (h.reached id _ _ _ found).step moved counts

/-- A move that begins and ends nothing and is seen by no callback, but may ask for a read. -/
theorem Sessions.read_move {m : Session.Move Datum} {t : Session Datum}
    {es : List (Session.Event Datum)} {lane : Option Nat}
    (h : Sessions F th calls takes lanes channels runners)
    (found : calls.find? id = some ⟨name, .stream s hooks⟩)
    (moved : (sessionOf F th id s).step m = some (t, es)) (thread : t.thread = th)
    (frames : t.frames = F.frames id) (claimed : t.claimed = false)
    (silent : Session.begins es = (0, 0)) (reads : s.ReadsOn lane t.stream)
    (asked : Asked lanes lane lanes') :
    Sessions F th (calls.insert id ⟨name, .stream t.stream hooks⟩) takes lanes' channels runners :=
  h.move found moved thread rfl (.silent silent) frames.symm (fun _ _ => rfl)
    (h.served.advance found reads asked fun _ hp => hp) claimed

/-- A move that nobody notices. -/
theorem Sessions.quiet_move {m : Session.Move Datum} {s' : Stream Datum}
    {es : List (Session.Event Datum)} (h : Sessions F th calls takes lanes channels runners)
    (found : calls.find? id = some ⟨name, .stream s hooks⟩)
    (moved : (sessionOf F th id s).step m =
      some ({ sessionOf F th id s with stream := s' }, es))
    (silent : Session.begins es = (0, 0)) (reads : s.ReadsOn none s') :
    Sessions F th (calls.insert id ⟨name, .stream s' hooks⟩) takes lanes channels runners :=
  h.read_move found moved rfl rfl rfl silent reads rfl

def Nest.push (F : Nest) (id : CallId) (f : Frame Datum) : Nest :=
  { F with frames := Function.update F.frames id (f :: F.frames id) }

theorem push_of_ne (f : Frame Datum) {j : CallId} (h : j ≠ id) :
    (F.push id f).frames j = F.frames j :=
  Function.update_of_ne h _ _

@[simp] theorem push_self (f : Frame Datum) : (F.push id f).frames id = f :: F.frames id :=
  Function.update_self _ _ _

theorem sessionOf_push (f : Frame Datum) : sessionOf (F.push id f) th id s =
    { sessionOf F th id s with frames := f :: F.frames id } := by
  simp [sessionOf]

theorem Sessions.begin_move {m : Session.Move Datum} {s' : Stream Datum} {f : Frame Datum}
    {es : List (Session.Event Datum)} (h : Sessions F th calls takes lanes channels runners)
    (found : calls.find? id = some ⟨name, .stream s hooks⟩)
    (moved : (sessionOf F th id s).step m =
      some ({ sessionOf F th id s with stream := s', frames := f :: F.frames id }, es))
    (steps : (Body.stream s' hooks').steps = (Body.stream s hooks).steps)
    (counts : Counted hooks es hooks') (reads : s.ReadsOn none s') :
    Sessions (F.push id f) th (calls.insert id ⟨name, .stream s' hooks'⟩) takes lanes channels
      runners :=
  h.move found moved rfl steps counts (push_self f) (fun _ hj => push_of_ne f hj)
    (h.served.quiet found reads fun _ hp => hp) rfl

theorem Sessions.pop {f : Frame Datum} {m : Session.Move Datum}
    (h : Sessions (F.push id f) th calls takes lanes channels runners)
    (pops : ∀ t : Session Datum,
      { t with frames := f :: F.frames id }.step m = some ({ t with frames := F.frames id }, [])) :
    Sessions F th calls takes lanes channels runners := by
  obtain ⟨name, s, hooks, found⟩ := h.nested id (by simp)
  have moved : (sessionOf (F.push id f) th id s).step m =
      some ({ sessionOf F th id s with stream := s }, []) := by
    rw [sessionOf_push]
    exact pops (sessionOf F th id s)
  have served : Served F.opened (calls.insert id ⟨name, .stream s hooks⟩) lanes :=
    h.served.quiet found (.refl s) fun _ hp => hp
  rw [← Table.insert_of_find? found]
  exact h.move (G := F) found moved rfl rfl (.silent rfl) rfl
    (fun _ hj => (push_of_ne f hj).symm) served rfl

theorem Sessions.back {f : Frame Datum}
    (h : Sessions (F.push id f) th calls takes lanes channels runners)
    (outer : f = .closing ∨ f = .ending) : Sessions F th calls takes lanes channels runners := by
  refine h.pop (m := .back) fun t => ?_
  rcases outer with rfl | rfl <;> rfl

theorem Sessions.unary {u u' : Unary Datum} {onDone : Reaction}
    (h : Sessions F th calls takes lanes channels runners)
    (found : calls.find? id = some ⟨name, .unary u onDone⟩) :
    Sessions F th (calls.insert id ⟨name, .unary u' onDone⟩) takes lanes channels runners := by
  have served : Served F.opened (calls.insert id ⟨name, .unary u' onDone⟩) lanes :=
    h.served.insert (fun _ => rfl) rfl (fun _ _ => rfl) (by simp) fun _ hp => hp
  refine h.insert (fun _ _ => rfl) served ?_ ?_ ?_ ?_
  · simpa [Table.size_insert, found] using h.numbered id _ found
  · intro s hs
    exact h.prompt id _ found s hs
  · intro under_way
    obtain ⟨_, _, _, stream⟩ := h.nested id under_way
    simp [found] at stream
  · intro name' s hooks hm
    simp at hm

/-- Only takes that wait would matter. -/
theorem Sessions.of_takes (h : Sessions F th calls takes lanes channels runners)
    (answered : ∀ t ∈ takes', t.result ≠ none) :
    Sessions F th calls takes' lanes channels runners :=
  { h with answered }

end Script

end CallBridge
