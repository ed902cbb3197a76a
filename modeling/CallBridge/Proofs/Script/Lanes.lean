import CallBridge.Proofs.Script.Act

/-!
# Lanes and the streams that read on them

A stream counts the reads it asks for; the transport counts, lane by lane, those that reach it.
`Served` says that the two agree: a stream only ever reads on the lane that its start has opened,
and every read that it counts gets there.
-/

namespace CallBridge

namespace Stream

variable {α : Type}

/-- Going on from `s` to `s'` a stream keeps to its lane, and the reads that it counts are those
that are asked for, at most one, on that lane. -/
structure ReadsOn (s : Stream α) (lane : Option Nat) (s' : Stream α) : Prop where
  counted : s'.fetches = s.fetches + lane.toList.length
  asked : ∀ i, lane = some i → s.phase.lane? = some i
  kept : ∀ i, s'.phase.lane? = some i → s.phase.lane? = some i

variable {s s' : Stream α}

theorem ReadsOn.of_same (fetches : s'.fetches = s.fetches)
    (phase : ∀ i, s'.phase.lane? = some i → s.phase.lane? = some i) : s.ReadsOn none s' :=
  ⟨fetches, (fun _ h => nomatch h), phase⟩

theorem ReadsOn.refl (s : Stream α) : s.ReadsOn none s := .of_same rfl fun _ h => h

theorem readsOn_resume (s : Stream α) : s.ReadsOn s.resume.2 s.resume.1 := by
  rcases s.resume_cases with ⟨lane, held, -, heq⟩ | ⟨lane, held, -, heq⟩ | ⟨-, heq⟩
  · rw [heq]
    exact ⟨rfl, by simp [held, Phase.lane?], by simp [held, Phase.lane?]⟩
  · rw [heq]
    exact .of_same rfl (by simp [Phase.lane?])
  · rw [heq]
    exact .refl s

theorem readsOn_refetch (s : Stream α) : s.ReadsOn s.refetch.2 s.refetch.1 := by
  rcases s.refetch_cases with ⟨lane, held, -, heq⟩ | heq
  · rw [heq]
    exact ⟨rfl, by simp [held, Phase.lane?], by simp [held, Phase.lane?]⟩
  · rw [heq]
    exact .refl s

theorem readsOn_afterTake (s : Stream α) (taken : Outcome (Cell α) (Option α)) :
    s.ReadsOn (s.afterTake taken).answer.2 (s.afterTake taken).state := by
  rcases s.afterTake_cases taken with ⟨-, answer, state⟩ | ⟨x, -, answer, state⟩
  · rw [answer, state]
    exact .of_same rfl fun _ h => h
  · have resumed := readsOn_resume { s with cell := taken.state }
    rw [answer, state]
    exact ⟨resumed.counted, resumed.asked, resumed.kept⟩

theorem readsOn_readOn (s : Stream α) (thread : Nat) :
    s.ReadsOn (s.readOn thread).answer (s.readOn thread).state := by
  have refetched := readsOn_refetch (s.discard thread).state
  exact ⟨refetched.counted, refetched.asked, refetched.kept⟩

theorem readsOn_deliver (s : Stream α) (thread : Nat) (x : α) :
    s.ReadsOn none (s.deliver thread x).state := by
  rcases s.deliver_cases thread x with ⟨lane, reading, -, -, state⟩ | ⟨-, -, state⟩
  · rw [state]
    exact .of_same rfl (by simp [reading, Phase.lane?])
  · rw [state]
    exact .refl s

theorem readsOn_finish (s : Stream α) (status : Status) :
    s.ReadsOn none (s.finish status).state := by
  rcases s.finish_cases status with ⟨-, -, state⟩ | ⟨-, -, state⟩
  · rw [state]
    exact .of_same rfl (by simp [Phase.lane?])
  · rw [state]
    exact .refl s

end Stream

namespace Script

variable {calls : Table CallId Member} {lanes lanes' : Table Nat Lane} {i : Nat} {id : CallId}
  {opened opened' : List (Nat × CallId)} {name : String} {s s' : Stream Datum}
  {hooks hooks' : StreamHooks} {l l' : Lane}

/-- The reads that have reached the lanes of a call. -/
def askedOf (lanes : Table Nat Lane) (id : CallId) : Nat :=
  lanes.total fun l => if l.call = id then l.asked else 0

/-- The call whose lane it is. -/
def owner (lanes : Table Nat Lane) (i : Nat) : Option CallId := (lanes.find? i).map Lane.call

theorem owner_insert_of_same (found : lanes.find? i = some l) (same : l'.call = l.call) (j : Nat) :
    owner (lanes.insert i l') j = owner lanes j := by
  unfold owner
  by_cases hj : j = i
  · rw [hj, Table.find?_insert_self, found, Option.map_some, Option.map_some, same]
  · rw [Table.find?_insert_of_ne _ _ hj]

theorem askedOf_insert_of_same (found : lanes.find? i = some l) (same : l'.call = l.call)
    (id : CallId) :
    askedOf (lanes.insert i l') id + (if l.call = id then l.asked else 0) =
      askedOf lanes id + if l.call = id then l'.asked else 0 := by
  have total := lanes.total_insert i l' fun l => if l.call = id then l.asked else 0
  rw [found, same] at total
  exact total

theorem askedOf_insert_of_new (new : lanes.find? i = none) (unused : l.asked = 0) (id : CallId) :
    askedOf (lanes.insert i l) id = askedOf lanes id := by
  have total := lanes.total_insert i l fun l => if l.call = id then l.asked else 0
  simpa [askedOf, new, unused] using total

/-- What becomes of the lanes when a read is asked for. -/
def Asked (lanes : Table Nat Lane) (lane : Option Nat) (lanes' : Table Nat Lane) : Prop :=
  match lane with
  | none => lanes' = lanes
  | some i => ∃ l, lanes.find? i = some l ∧ lanes' = lanes.insert i { l with asked := l.asked + 1 }

theorem Asked.owner_eq {lane : Option Nat} (h : Asked lanes lane lanes') (j : Nat) :
    owner lanes' j = owner lanes j := by
  cases lane with
  | none =>
      obtain rfl : lanes' = lanes := h
      rfl
  | some i =>
      obtain ⟨l, found, rfl⟩ := h
      have same : ({ l with asked := l.asked + 1 } : Lane).call = l.call := rfl
      exact owner_insert_of_same found same j

theorem Asked.size_eq {lane : Option Nat} (h : Asked lanes lane lanes') :
    lanes'.size = lanes.size := by
  cases lane with
  | none =>
      obtain rfl : lanes' = lanes := h
      rfl
  | some i =>
      obtain ⟨l, found, rfl⟩ := h
      simp [Table.size_insert, found]

/-- A read reaches the lane of the stream that asks for it, and counts for no other. -/
theorem Asked.count {lane : Option Nat} (h : Asked lanes lane lanes')
    (mine : ∀ i, lane = some i → owner lanes i = some id) (j : CallId) :
    askedOf lanes' j = askedOf lanes j + if j = id then lane.toList.length else 0 := by
  cases lane with
  | none =>
      obtain rfl : lanes' = lanes := h
      simp
  | some i =>
      obtain ⟨l, found, rfl⟩ := h
      have call : l.call = id := by simpa [owner, found] using mine i rfl
      have same : ({ l with asked := l.asked + 1 } : Lane).call = l.call := rfl
      have count := askedOf_insert_of_same found same j
      by_cases hj : j = id
      · rw [if_pos (by rw [call, hj]), if_pos (by rw [call, hj])] at count
        rw [if_pos hj]
        simp only [Option.toList_some, List.length_singleton] at count ⊢
        omega
      · have other : l.call ≠ j := fun same => hj (same.symm.trans call)
        rw [if_neg other, if_neg other] at count
        rw [if_neg hj]
        exact count

@[simp] theorem ensures_askRead {w : World} {Q : Unit → World → Prop} {lane : Option Nat} :
    w.Ensures (askRead lane) Q ↔
      ∀ lanes', Asked w.lanes lane lanes' → Q () { w with lanes := lanes' } := by
  cases lane with
  | none => simp [askRead, Asked]
  | some i =>
      simp only [askRead, ensures_bind, ensures_get, ensures_known, ensures_modify, Asked]
      constructor
      · rintro h _ ⟨l, found, rfl⟩
        exact h l found
      · exact fun h l found => h _ ⟨l, found, rfl⟩

/-! ## Streams and their lanes -/

/-- Streams and lanes fit together, those lanes included that starts under way have opened. -/
structure Served (opened : List (Nat × CallId)) (calls : Table CallId Member)
    (lanes : Table Nat Lane) : Prop where
  numbered : ∀ i c, owner lanes i = some c → i < lanes.size
  fresh : ∀ id, calls.find? id = none → askedOf lanes id = 0
  opened : ∀ p ∈ opened, owner lanes p.1 = some p.2
  counted : ∀ id name s hooks, calls.find? id = some ⟨name, .stream s hooks⟩ →
    askedOf lanes id = s.fetches
  mine : ∀ id name s hooks, calls.find? id = some ⟨name, .stream s hooks⟩ →
    ∀ i, s.phase.lane? = some i → owner lanes i = some id

theorem served_empty : Served [] {} {} where
  numbered := by simp [owner]
  fresh := fun _ _ => rfl
  opened := by simp
  counted := by simp
  mine := by simp

/-- Only who owns which lane and how many reads were asked for matters. -/
theorem Served.congr (h : Served opened calls lanes) (owners : ∀ i, owner lanes' i = owner lanes i)
    (size : lanes'.size = lanes.size) (counts : ∀ id, askedOf lanes' id = askedOf lanes id) :
    Served opened calls lanes' where
  numbered := fun i c hc => size ▸ h.numbered i c (owners i ▸ hc)
  fresh := fun id hid => (counts id).trans (h.fresh id hid)
  opened := fun p hp => (owners p.1).trans (h.opened p hp)
  counted := fun id name s hooks found => (counts id).trans (h.counted id name s hooks found)
  mine := fun id name s hooks found i hi => (owners i).trans (h.mine id name s hooks found i hi)

/-- A call is made or changes. Nothing changes for the others, and if it is a stream, it counts the
reads on its lanes. -/
theorem Served.insert {m : Member} (h : Served opened calls lanes)
    (owners : ∀ i, owner lanes' i = owner lanes i) (size : lanes'.size = lanes.size)
    (others : ∀ j, j ≠ id → askedOf lanes' j = askedOf lanes j)
    (stream : ∀ name s hooks, m = ⟨name, .stream s hooks⟩ → askedOf lanes' id = s.fetches ∧
      ∀ i, s.phase.lane? = some i → owner lanes i = some id)
    (forget : ∀ p ∈ opened', p ∈ opened) : Served opened' (calls.insert id m) lanes' where
  numbered := fun i c hc => size ▸ h.numbered i c (owners i ▸ hc)
  opened := fun p hp => (owners p.1).trans (h.opened p (forget p hp))
  fresh := by
    intro j unknown
    have hj : j ≠ id := by
      rintro rfl
      simp at unknown
    rw [Table.find?_insert_of_ne _ _ hj] at unknown
    exact (others j hj).trans (h.fresh j unknown)
  counted := by
    intro j name s hooks found
    by_cases hj : j = id
    · rw [hj] at found ⊢
      rw [Table.find?_insert_self, Option.some.injEq] at found
      exact (stream name s hooks found).1
    · rw [Table.find?_insert_of_ne _ _ hj] at found
      exact (others j hj).trans (h.counted j name s hooks found)
  mine := by
    intro j name s hooks found i hi
    by_cases hj : j = id
    · rw [hj] at found ⊢
      rw [Table.find?_insert_self, Option.some.injEq] at found
      exact (owners i).trans ((stream name s hooks found).2 i hi)
    · rw [Table.find?_insert_of_ne _ _ hj] at found
      exact (owners i).trans (h.mine j name s hooks found i hi)

theorem Served.advance {lane : Option Nat} (h : Served opened calls lanes)
    (found : calls.find? id = some ⟨name, .stream s hooks⟩) (reads : s.ReadsOn lane s')
    (asked : Asked lanes lane lanes') (forget : ∀ p ∈ opened', p ∈ opened) :
    Served opened' (calls.insert id ⟨name, .stream s' hooks'⟩) lanes' := by
  have own := h.mine id name s hooks found
  have count := asked.count fun i hi => own i (reads.asked i hi)
  refine h.insert asked.owner_eq asked.size_eq (fun j hj => ?_) ?_ forget
  · rw [count j, if_neg hj, Nat.add_zero]
  · intro name' t hooks'' same
    rw [Member.mk.injEq, Body.stream.injEq] at same
    obtain ⟨-, rfl, -⟩ := same
    refine ⟨?_, fun i hi => own i (reads.kept i hi)⟩
    rw [count id, if_pos rfl, h.counted id name s hooks found, reads.counted]

theorem Served.quiet (h : Served opened calls lanes)
    (found : calls.find? id = some ⟨name, .stream s hooks⟩) (reads : s.ReadsOn none s')
    (forget : ∀ p ∈ opened', p ∈ opened) :
    Served opened' (calls.insert id ⟨name, .stream s' hooks'⟩) lanes :=
  h.advance found reads rfl forget

theorem Served.attach (h : Served ((i, id) :: opened) calls lanes)
    (found : calls.find? id = some ⟨name, .stream s hooks⟩)
    (asked : Asked lanes (s.attach i).2 lanes') :
    Served opened (calls.insert id ⟨name, .stream (s.attach i).1 hooks'⟩) lanes' := by
  have forget : ∀ p ∈ opened, p ∈ (i, id) :: opened := fun _ => List.mem_cons_of_mem _
  -- The start has kept the lane, whatever its channel has done meanwhile.
  have own : owner lanes i = some id := h.opened (i, id) List.mem_cons_self
  rcases s.attach_cases i with ⟨-, -, heq⟩ | heq
  · rw [heq] at asked ⊢
    have mine : ∀ j, some i = some j → owner lanes j = some id := fun j hj =>
      Option.some.inj hj ▸ own
    have count := asked.count mine
    refine h.insert asked.owner_eq asked.size_eq (fun j hj => ?_) ?_ forget
    · rw [count j, if_neg hj, Nat.add_zero]
    · intro name' t hooks'' same
      rw [Member.mk.injEq, Body.stream.injEq] at same
      obtain ⟨-, rfl, -⟩ := same
      refine ⟨?_, fun j hj => Option.some.inj hj ▸ own⟩
      rw [count id, if_pos rfl, h.counted id name s hooks found]
      rfl
  · rw [heq] at asked ⊢
    exact h.advance found (.refl s) asked forget

theorem Served.unbound (h : Served opened calls lanes) : lanes.find? lanes.size = none := by
  cases found : lanes.find? lanes.size with
  | none => rfl
  | some l =>
      have bound := h.numbered lanes.size l.call (by simp [owner, found])
      omega

theorem Served.open (h : Served opened calls lanes) (id : CallId) :
    Served ((lanes.size, id) :: opened) calls (lanes.insert lanes.size { call := id }) := by
  -- The new lane comes after all others, so it is nobody's, and nothing was asked for on it.
  have counts : ∀ j, askedOf (lanes.insert lanes.size { call := id }) j = askedOf lanes j :=
    askedOf_insert_of_new h.unbound rfl
  have new : owner (lanes.insert lanes.size { call := id }) lanes.size = some id := by
    simp [owner]
  have old : ∀ {i}, i ≠ lanes.size →
      owner (lanes.insert lanes.size { call := id }) i = owner lanes i := by
    intro i hi
    rw [owner, Table.find?_insert_of_ne _ _ hi, owner]
  have kept : ∀ {i c}, owner lanes i = some c →
      owner (lanes.insert lanes.size { call := id }) i = some c := by
    intro i c hc
    exact (old (Nat.ne_of_lt (h.numbered i c hc))).trans hc
  constructor
  case numbered =>
    intro i c hc
    have size : (lanes.insert lanes.size { call := id }).size = lanes.size + 1 := by
      simp [Table.size_insert, h.unbound]
    rw [size]
    by_cases hi : i = lanes.size
    · omega
    · rw [old hi] at hc
      exact Nat.lt_succ_of_lt (h.numbered i c hc)
  case fresh => exact fun j unknown => (counts j).trans (h.fresh j unknown)
  case opened =>
    intro p hp
    rcases List.mem_cons.mp hp with rfl | hp
    · exact new
    · exact kept (h.opened p hp)
  case counted =>
    intro j name s hooks found
    exact (counts j).trans (h.counted j name s hooks found)
  case mine =>
    intro j name s hooks found i hi
    exact kept (h.mine j name s hooks found i hi)

end Script

end CallBridge
