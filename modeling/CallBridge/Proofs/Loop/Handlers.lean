import CallBridge.Proofs.Loop.Course

/-!
# Events and their handlers

An accepted event is under way until its handler begins. It can leave in no other way, unless there
is no handler for it: then its dispatch fails.
-/

namespace CallBridge

namespace Station

variable {π : Type}

namespace Post

def isHandling : Post π → Bool
  | handling _ _ => true
  | _ => false

/-- The event whose handler begins when the consumer gets from one place to the other. -/
def begins : Post π → Post π → Option (Event π)
  | holding _ _, handling _ e => some e
  | _, _ => none

@[simp] theorem begins_self (x : Post π) : x.begins x = none := by
  cases x <;> rfl

theorem begins_of_handling {x : Post π} (busy : x.isHandling = true) (y : Post π) :
    x.begins y = none := by
  cases x with
  | handling => rfl
  | _ => cases busy

theorem handling_of_begins {x y : Post π} {e : Event π} (begins : x.begins y = some e) :
    y.isHandling = true := by
  unfold Post.begins at begins
  split at begins
  · rfl
  · cases begins

end Post

variable {s : Station π} {p : Station π × List (Notice π)}

/-- What leaves at the front begins its handler, or has none. -/
def Leaves (s : Station π) (p : Station π × List (Notice π)) (gone : List (Event π)) : Prop :=
  s.underway ++ sent p.2 = gone ++ p.1.underway ∧
    (gone = (s.post.begins p.1.post).toList ∨
      s.post.begins p.1.post = none ∧ ∃ e, gone = [e] ∧ s.loop.hasHandler e.name = false)

theorem leaves_nothing (same : s.underway ++ sent p.2 = p.1.underway)
    (unbegun : s.post.begins p.1.post = none) : Leaves s p [] :=
  ⟨same, .inl (by rw [unbegun]; rfl)⟩

theorem leaves_unknown {e : Event π} (front : s.underway ++ sent p.2 = e :: p.1.underway)
    (unbegun : s.post.begins p.1.post = none) (unknown : s.loop.hasHandler e.name = false) :
    Leaves s p [e] :=
  ⟨front, .inr ⟨unbegun, e, rfl, unknown⟩⟩

theorem underway_operated (dated : Dated s) (ho : Operated s p) : ∃ gone, Leaves s p gone := by
  cases ho with
  | enqueued | halted =>
      exact ⟨[], leaves_nothing (by simp [underway, sent, accepted]) (by simp)⟩
  | rejected | haltedNothing | haltedLost | haltedAgain | registered | registeredTwice | refused
  | waiting =>
      exact ⟨[], leaves_nothing (by simp [underway, sent, accepted]) (by simp)⟩
  | skipped post head =>
      refine ⟨[], leaves_nothing ?_ (by simp [after])⟩
      simp [underway, sent, accepted, after, head]
  | started idle =>
      have vacant := (dated.idle idle).1
      refine ⟨[], leaves_nothing ?_ (by rw [vacant]; rfl)⟩
      simp [underway, sent, accepted, vacant, Post.inHand]
  | begun thread post =>
      refine ⟨[], leaves_nothing ?_ (by rw [post]; rfl)⟩
      simp [underway, sent, accepted, post, Post.inHand, EventLoop.begin]
  | abandoned post =>
      refine ⟨[], leaves_nothing ?_ (by rw [post]; rfl)⟩
      simp [underway, sent, accepted, post, Post.inHand, leave, EventLoop.finish]
  | met post head =>
      refine ⟨[], leaves_nothing ?_ (by rw [post]; rfl)⟩
      simp [underway, sent, accepted, post, head, Post.inHand, after, leave, EventLoop.finish]
  | taken post go head =>
      refine ⟨[], leaves_nothing ?_ (by rw [post]; rfl)⟩
      simp [underway, sent, accepted, post, head, Post.inHand]
  | @called n e post =>
      -- The one place where a handler begins.
      exact ⟨[e], by simp [underway, sent, accepted, post, Post.inHand], .inl (by rw [post]; rfl)⟩
  | succeeded post =>
      refine ⟨[], leaves_nothing ?_ (by rw [post]; rfl)⟩
      simp [underway, sent, accepted, post, Post.inHand]
  | @reported n e f fails =>
      cases fails with
      | unknown post missing =>
          refine ⟨[e], leaves_unknown ?_ (by rw [post]; rfl) missing⟩
          simp [underway, sent, accepted, post, Post.inHand]
      | handler v post =>
          refine ⟨[], leaves_nothing ?_ (by rw [post]; rfl)⟩
          simp [underway, sent, accepted, post, Post.inHand]
  | @propagated n e f fails =>
      cases fails with
      | unknown post missing =>
          refine ⟨[e], leaves_unknown ?_ (by rw [post]; rfl) missing⟩
          simp [underway, sent, accepted, post, Post.inHand, leave, EventLoop.finish]
      | handler v post =>
          refine ⟨[], leaves_nothing ?_ (by rw [post]; rfl)⟩
          simp [underway, sent, accepted, post, Post.inHand, leave, EventLoop.finish]

theorem hasHandler_operated {name : String} (ho : Operated s p)
    (known : s.loop.hasHandler name = true) : p.1.loop.hasHandler name = true := by
  cases ho with
  | registered other missing =>
      rw [EventLoop.hasHandler, decide_eq_true_eq] at known ⊢
      exact List.mem_append_left _ known
  | _ => exact known

/-- While the queue is there, an enqueue appends its event and does nothing else. -/
theorem enqueue_there (there : s.loop.isOpen = true) (thread : Nat) (e : Event π) :
    (s.enqueue thread e).1 = { s with loop := { s.loop with
      queue := s.loop.queue ++ [.event e], pending := s.loop.pending + 1 } } := by
  have present : s.loop.announce.isOpen = true := there
  unfold enqueue EventLoop.enqueue EventLoop.send
  simp only [present, if_true]
  rfl

end Station

end CallBridge
