import CallBridge.Proofs.Stream.Taint
import CallBridge.Proofs.Unary.Inquiry

/-!
# Callbacks that break off

A callback that panics unwinds the operation that called it and, when nobody catches the panic
before, the callbacks that this operation was called by, one after the other. What these operations
had still to do is not done. Compare this with the same callbacks returning, those of items with a
hold: then the rest of each operation is done, but there is nothing in it to do. A delivery whose
callback holds its item is over; so are a close, an end and the completion of a unary call; and a
start inside which a callback was called finds the call closed or ended, and asks for nothing.

So both ways lead to the same state, but for the taint of a place whose lock was held, and nothing
that happens later tells them apart (`alike_run`).
-/

namespace CallBridge

/-! ## Unary calls -/

namespace Inquiry

variable {α : Type} {s : Inquiry α} {p : Nat}

theorem setFrames_self {frames : List Frame} (h : s.frames p = frames) :
    s.setFrames p frames = s := by
  have same : (fun q => if q = p then frames else s.frames q) = s.frames := by
    funext q
    split
    · next here => rw [here, h]
    · rfl
  rw [setFrames, same]

theorem setFrames_setFrames (first last : List Frame) :
    (s.setFrames p first).setFrames p last = s.setFrames p last := by
  have same : (fun q => if q = p then last else (s.setFrames p first).frames q) =
      fun q => if q = p then last else s.frames q := by
    funext q
    split
    · rfl
    · next elsewhere => simp [setFrames, elsewhere]
  simp only [setFrames] at same ⊢
  rw [same]

/-- However the code ends that a thread waits for, nothing follows it. -/
theorem run_return {o : Operation α} (returns : o = .back ∨ o = .panic) {gs rest : List Frame}
    (free : s.free p = true) (frames : s.frames p = gs ++ rest) :
    s.run (gs.map fun _ => .act p o) = some (s.setFrames p rest, []) := by
  induction gs generalizing s with
  | nil =>
      have same : s.setFrames p rest = s := setFrames_self frames
      rw [same]
      rfl
  | cons g gs ih =>
      have first : runWith step s [.act p o] = some (s.setFrames p (gs ++ rest), []) := by
        rcases returns with rfl | rfl <;> simp [runWith, step, act, free, frames]
      have later := ih (s := s.setFrames p (gs ++ rest)) free (by simp [setFrames])
      rw [setFrames_setFrames] at later
      exact runWith_append first later

end Inquiry

namespace Audience

open Session (Ending Frame asks)

variable {α : Type} {a b : Audience α} {p : Audience α × List (Session.Event α)}
  {log : List (Session.Event α)}

/-! ## Callbacks inside a start -/

def isOpening : Frame α → Bool
  | .opening => true
  | _ => false

/-- What is called while a start waits for its channel. -/
structure Starting (s : Stream α) (frames : List (Frame α)) : Prop where
  once : frames.countP isOpening ≤ s.started.toNat
  shut : .opening ∈ frames ∨ s.started = false → s.phase.lane? = none
  dead : ∀ f rest, frames = f :: rest → .opening ∈ rest → s.cell.terminated = true

variable {s t : Stream α} {f : Frame α} {frames rest : List (Frame α)}

theorem Starting.pop (h : Starting s (f :: rest)) : Starting s rest where
  once := Nat.le_trans (List.sublist_cons_self f rest).countP_le h.once
  shut := fun waits => h.shut (waits.imp_left (List.mem_cons_of_mem f))
  dead := fun g _ heq waits => h.dead f rest rfl (heq ▸ List.mem_cons_of_mem g waits)

theorem Starting.push (h : Starting s frames) (other : isOpening f = false)
    (dead : .opening ∈ frames → s.cell.terminated = true) : Starting s (f :: frames) where
  once := by
    rw [List.countP_cons, other]
    exact h.once
  shut := by
    rintro (waits | fresh)
    · rcases List.mem_cons.mp waits with rfl | waits
      · exact nomatch other
      · exact h.shut (.inl waits)
    · exact h.shut (.inr fresh)
  dead := by
    rintro g rest heq waits
    obtain ⟨-, rfl⟩ := List.cons.inj heq
    exact dead waits

/-- What a stream does without opening a lane that was shut. -/
structure Rests (s t : Stream α) : Prop where
  started : t.started = s.started
  shut : s.phase.lane? = none → t.phase.lane? = none
  dead : s.cell.terminated = true → t.cell.terminated = true

theorem Starting.rests (h : Starting s frames) (rests : Rests s t) : Starting t frames where
  once := rests.started ▸ h.once
  shut := fun waits => rests.shut (h.shut (rests.started ▸ waits))
  dead := fun f rest heq waits => rests.dead (h.dead f rest heq waits)

theorem rests_resume : Rests s s.resume.1 := by
  rcases s.resume_cases with ⟨lane, held, -, heq⟩ | ⟨lane, held, -, heq⟩ | ⟨-, heq⟩ <;> rw [heq]
  · exact ⟨rfl, by simp [held, Phase.lane?], id⟩
  · exact ⟨rfl, fun _ => rfl, id⟩
  · exact ⟨rfl, id, id⟩

theorem rests_afterTake {taken : Outcome (Cell α) (Option α)}
    (dead : taken.state.terminated = s.cell.terminated) : Rests s (s.afterTake taken).state := by
  have emptied : Rests s { s with cell := taken.state } := ⟨rfl, id, dead.trans⟩
  rcases s.afterTake_cases taken with ⟨-, -, hs⟩ | ⟨x, -, -, hs⟩ <;> rw [hs]
  · exact emptied
  · have resumed := rests_resume (s := { s with cell := taken.state })
    exact ⟨resumed.started.trans emptied.started, fun shut => resumed.shut shut,
      fun gone => resumed.dead (emptied.dead gone)⟩

theorem rests_readOn (thread : Nat) : Rests s (s.readOn thread).state := by
  have dropped : Rests s (s.discard thread).state := ⟨rfl, id, by simp [Stream.discard]⟩
  rcases (s.discard thread).state.refetch_cases with ⟨lane, held, -, heq⟩ | heq <;>
    rw [Stream.readOn, heq]
  · have held : s.phase = .held lane := held
    exact ⟨rfl, by simp [held, Phase.lane?], dropped.dead⟩
  · exact dropped

theorem Starting.not_mem (h : Starting s (.opening :: rest)) : .opening ∉ rest := by
  intro again
  have two : 0 < rest.countP isOpening := List.countP_pos_iff.mpr ⟨_, again, rfl⟩
  have one : (Frame.opening :: rest).countP isOpening = rest.countP isOpening + 1 :=
    List.countP_cons_of_pos rfl
  have most : s.started.toNat ≤ 1 := Bool.toNat_le _
  have := h.once
  omega

theorem Starting.started (h : Starting s frames) (waits : .opening ∈ frames) :
    s.started = true := by
  have one : 0 < frames.countP isOpening := List.countP_pos_iff.mpr ⟨_, waits, rfl⟩
  cases begun : s.started with
  | true => rfl
  | false => simpa [begun] using Nat.lt_of_lt_of_le one h.once

theorem Starting.launch (h : Starting s frames) (first : s.started = false) :
    Starting { s with started := true } (.opening :: frames) where
  once := by
    have none : frames.countP isOpening = 0 := by simpa [first] using h.once
    rw [List.countP_cons_of_pos rfl, none]
    exact Nat.le_refl _
  shut := fun _ => h.shut (.inr first)
  dead := by
    rintro g rest heq waits
    obtain ⟨-, rfl⟩ := List.cons.inj heq
    exact nomatch first.symm.trans (h.started waits)

theorem Starting.attach (h : Starting s (.opening :: rest)) (lane : Nat) :
    Starting (s.attach lane).1 rest := by
  have started : s.started = true := h.started (.head _)
  have gone : .opening ∉ rest := h.not_mem
  have same : (s.attach lane).1.started = s.started := by
    rcases s.attach_cases lane with ⟨-, -, heq⟩ | heq <;> rw [heq]
  refine ⟨same ▸ h.pop.once, ?_, fun f rest' heq waits => ?_⟩
  · rintro (waits | fresh)
    · exact absurd waits gone
    · simp [same, started] at fresh
  · exact absurd (heq ▸ List.mem_cons_of_mem f waits) gone

theorem starting_acted (h : Starting a.stream a.frames) {q : Session α × List (Session.Event α)}
    (hm : Session.Moved a.session q) (silent : ∀ e, .left e ∉ q.2) :
    Starting q.1.stream q.1.frames := by
  have closed : Rests a.stream { a.stream with cell := a.stream.cell.terminate } :=
    ⟨rfl, id, fun _ => rfl⟩
  cases hm with
  | launched first => exact h.launch first
  | attached lane top =>
      have top : a.frames = .opening :: _ := top
      exact (top ▸ h).attach lane
  | @accepted x lane reading =>
      have reading : a.stream.phase = .reading lane := reading
      have free : .opening ∉ a.frames := fun waits => by
        simpa [reading, Phase.lane?] using h.shut (.inl waits)
      have open_ : a.stream.phase.lane? ≠ none := by simp [reading, Phase.lane?]
      exact Starting.push (h.rests ⟨rfl, fun shut => absurd shut open_, id⟩) rfl
        fun waits => absurd waits free
  | left e top => exact absurd (Session.left_mem_leave.mpr rfl) (silent e)
  | closed => exact (h.rests closed).push rfl fun _ => rfl
  | ended status =>
      exact Starting.push (h.rests ⟨rfl, fun _ => rfl, fun _ => rfl⟩) rfl fun _ => rfl
  | returned top other =>
      have top : a.frames = _ :: _ := top
      exact (top ▸ h).pop
  | took => exact h.rests (rests_afterTake (by simp [session]))
  | switched | refused | rejected | ignored | claimed | tookNothing | cancelled =>
      exact h.rests ⟨rfl, id, id⟩

theorem starting_moved (h : Starting a.stream a.frames) (hm : Moved a p) :
    Starting p.1.stream p.1.frames := by
  cases hm with
  | acted _ moved _ silent => exact starting_acted h moved silent
  | claimed => exact h.rests ⟨rfl, id, id⟩
  | left e calm top => exact (top ▸ h).pop.rests ⟨rfl, id, id⟩
  | readOn => exact h.rests (rests_readOn a.thread)
  | wentOn => exact h.rests (rests_afterTake rfl)

theorem starting_of_run {id : CallId} {timeout : Option Nat} {thread : Nat} {ms : List (Move α)}
    (h : (fresh id timeout thread).run ms = some (a, log)) : Starting a.stream a.frames := by
  refine run_invariant (P := fun a _ => Starting a.stream a.frames) ?_ h ?_
  · intro u before p hu hm
    exact starting_moved hu hm
  · exact ⟨Nat.le_refl _, fun _ => rfl, fun _ _ => nofun⟩

/-! ## Two ways out -/

/-- The code that an operation waits for breaks off. -/
def breakOff : Frame α → Move α
  | .inspecting _ => .leave .brokenOff
  | .opening | .closing | .ending => .act .panic

/-- The code that an operation waits for returns: the callback of an item with a hold, a channel
with this lane. -/
def giveBack (lane : Nat) : Frame α → Move α
  | .inspecting _ => .leave (.decided .hold)
  | .opening => .act (.opened lane)
  | .closing | .ending => .act .back

/-- What can be seen of a callback that ends like this. -/
def told (e : Ending) : Frame α → List (Session.Event α)
  | .inspecting _ => [.left e]
  | .opening | .closing | .ending => []

theorem step_leave {x : α} (calm : a.consuming = false) (top : a.frames = .inspecting x :: rest)
    (e : Ending) :
    a.step (.leave e) = some
      ({ a with
          stream := a.stream.endInspection e.cutShort
          frames := rest
          consuming := e.consumes },
        [.left e]) := by
  simp [step, calm, top]

/-- Nothing follows the code that a start, a close or an end has called, if it breaks off. -/
theorem step_panic (calm : a.consuming = false) (top : a.frames = f :: rest)
    (other : ∀ x, f ≠ .inspecting x) :
    a.step (.act .panic) = some ({ a with frames := rest }, []) := by
  cases f with
  | inspecting x => exact absurd rfl (other x)
  | opening | closing | ending =>
      rw [step_act calm (by simp [ends, top])]
      simp [Session.step, session, top, follow]

/-- Nor if it returns, as long as the channel returns to a call that is over. -/
theorem step_giveBack (calm : a.consuming = false) (top : a.frames = f :: rest)
    (other : ∀ x, f ≠ .inspecting x) (dead : f = .opening → a.stream.cell.terminated = true)
    (lane : Nat) : a.step (giveBack lane f) = some ({ a with frames := rest }, []) := by
  cases f with
  | inspecting x => exact absurd rfl (other x)
  | opening =>
      have shut := Session.attach_of_terminated (dead rfl) lane
      rw [giveBack, step_act calm rfl]
      simp [Session.step, Session.attach, session, top, follow, shut, asks]
  | closing | ending =>
      rw [giveBack, step_act calm rfl]
      simp [Session.step, session, top, follow]

/-- The innermost operation is over, and the two ways have come to the same. -/
theorem unwind_one (alike : Alike a b) (top : a.frames = f :: rest) (calm : a.consuming = false)
    (dead : f = .opening → a.stream.cell.terminated = true) (lane : Nat) :
    ∃ a' b', a.step (breakOff f) = some (a', told .brokenOff f) ∧
      b.step (giveBack lane f) = some (b', told (.decided .hold) f) ∧ Alike a' b' ∧
      a'.frames = rest ∧ a'.consuming = false ∧
      a'.stream.cell.terminated = a.stream.cell.terminated := by
  obtain ⟨t, rfl⟩ := alike
  cases f with
  | inspecting x =>
      exact ⟨_, _, step_leave calm top .brokenOff,
        step_leave (a := a.taint t) calm top (.decided .hold), ⟨t || false, rfl⟩, rfl, rfl, rfl⟩
  | opening | closing | ending =>
      exact ⟨_, _, step_panic calm top nofun,
        step_giveBack (a := a.taint t) calm top nofun dead lane, ⟨t, rfl⟩, rfl, calm, rfl⟩

/-- So are all the operations that a panic gets through. -/
theorem unwind {gs : List (Frame α)} (alike : Alike a b) (frames : a.frames = gs ++ rest)
    (calm : a.consuming = false) (dead : .opening ∈ gs → a.stream.cell.terminated = true)
    (lane : Nat) :
    ∃ a' b', a.run (gs.map breakOff) = some (a', gs.flatMap (told .brokenOff)) ∧
      b.run (gs.map (giveBack lane)) = some (b', gs.flatMap (told (.decided .hold))) ∧
      Alike a' b' ∧ a'.frames = rest ∧ a.report (gs.map breakOff) = [] ∧
      b.report (gs.map (giveBack lane)) = [] := by
  induction gs generalizing a b with
  | nil => exact ⟨a, b, rfl, rfl, alike, frames, rfl, rfl⟩
  | cons f gs ih =>
      obtain ⟨u, v, hu, hv, alike, frames, calm, same⟩ :=
        unwind_one alike frames calm (fun opening => dead (opening ▸ .head _)) lane
      obtain ⟨a', b', ha, hb, alike, left, silent, silent'⟩ :=
        ih alike frames calm fun waits => same.trans (dead (.tail _ waits))
      refine ⟨a', b', ?_, ?_, alike, left, ?_, ?_⟩
      · rw [List.map_cons, run_cons hu, ha]
        rfl
      · rw [List.map_cons, run_cons hv, hb]
        rfl
      · simp only [List.map_cons, report, hu, silent]
        cases f <;> rfl
      · simp only [List.map_cons, report, hv, silent']
        cases f <;> rfl

/-- **A callback that breaks off is like one that returns.** Take any stream after any run, a
callback `f` that has been called last, after whatever it has done, and the operations `fs` that a
panic gets through. Breaking off and returning, with a hold if an item is looked at, lead to states
that differ in nothing but the taint; on the way nothing is seen but how the callbacks of items end,
and nothing is logged. Of any later moves the same ones fit, with the same answers and callbacks,
and the same is logged but for recovered locks. For a unary call both ways lead to one and the same
state. -/
theorem broken_off_like_held {id : CallId} {timeout : Option Nat} {thread : Nat}
    {before : List (Move α)} {past : List (Session.Event α)} {f : Frame α}
    {fs rest : List (Frame α)}
    (reached : (fresh id timeout thread).run before = some (a, past))
    (frames : a.frames = f :: fs ++ rest) (callback : f ≠ .opening) (calm : a.consuming = false)
    (lane : Nat) :
    (∃ b c, a.run ((f :: fs).map breakOff) = some (b, (f :: fs).flatMap (told .brokenOff)) ∧
      a.run ((f :: fs).map (giveBack lane)) =
        some (c, (f :: fs).flatMap (told (.decided .hold))) ∧
      a.report ((f :: fs).map breakOff) = [] ∧ a.report ((f :: fs).map (giveBack lane)) = [] ∧
      Alike b c ∧
      ∀ later, Option.Rel Matches (b.run later) (c.run later) ∧
        plain (b.report later) = plain (c.report later)) ∧
    ∀ (u : Inquiry α) (p : Nat) (gs left : List Inquiry.Frame), u.free p = true →
      u.frames p = gs ++ left →
      u.run (gs.map fun _ => .act p .panic) = some (u.setFrames p left, []) ∧
        u.run (gs.map fun _ => .act p .back) = some (u.setFrames p left, []) := by
  refine ⟨?_, fun u p gs left free waits =>
    ⟨Inquiry.run_return (.inr rfl) free waits, Inquiry.run_return (.inl rfl) free waits⟩⟩
  -- A start that is unwound finds the call over, for the callback was that of a close or an end.
  have dead : .opening ∈ f :: fs → a.stream.cell.terminated = true := by
    intro waits
    have below : .opening ∈ fs := (List.mem_cons.mp waits).resolve_left callback.symm
    exact (starting_of_run reached).dead f (fs ++ rest) frames (List.mem_append_left _ below)
  have same : Alike a a := ⟨a.stream.cell.tainted, rfl⟩
  obtain ⟨b, c, broke, held, alike, -, silent, silent'⟩ := unwind same frames calm dead lane
  exact ⟨b, c, broke, held, silent, silent', alike, alike_run alike⟩

/-- In the callback of an item the stream is closed, and the callback of the close ends it and is
about to break off. -/
def brokenOffMoves : List (Move Nat) :=
  [.act .start, .act (.opened 0), .act (.deliver 1), .act .take, .act .closeReads,
    .act (.finish .success), .act .back]

theorem broken_off_like_held_nested : ∃ a past b c,
    (fresh ⟨1⟩ none 0).run brokenOffMoves = some (a, past) ∧
      a.frames = [.closing, .inspecting 1] ∧
      a.run [.act .panic, .leave .brokenOff] = some (b, [.left .brokenOff]) ∧
      a.run [.act .back, .leave (.decided .hold)] = some (c, [.left (.decided .hold)]) ∧
      b.stream.cell.tainted = true ∧ c.stream.cell.tainted = false ∧ Alike b c ∧
      ∀ later, Option.Rel Matches (b.run later) (c.run later) := by
  have reached : (fresh ⟨1⟩ none 0).run brokenOffMoves = some (_, _) := rfl
  obtain ⟨⟨b, c, broke, held, -, -, alike, later⟩, -⟩ :=
    broken_off_like_held reached (show _ = .closing :: [.inspecting 1] ++ [] from rfl) nofun rfl 0
  have tainted : b.stream.cell.tainted = true := by
    obtain ⟨rfl, -⟩ := Prod.mk.inj (Option.some.inj broke)
    rfl
  have clean : c.stream.cell.tainted = false := by
    obtain ⟨rfl, -⟩ := Prod.mk.inj (Option.some.inj held)
    rfl
  exact ⟨_, _, b, c, reached, rfl, broke, held, tainted, clean, alike, fun ms => (later ms).1⟩

end Audience

end CallBridge
