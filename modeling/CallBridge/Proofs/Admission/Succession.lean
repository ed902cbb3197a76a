import CallBridge.Proofs.Admission.Desk

/-!
# Calls that succeed one another under a key

Events of a call may come late, when its key has been released and won again, any number of times.
They name the call by its number. Numbers come from a counter of 64 bits, so as long as there are
fewer calls than that, and none of them is registered twice, a number stands for one registration: a
call that has left its key does not come back to it, and whoever releases the key in its name finds
somebody else or nobody and changes nothing.

A succession is a desk at which calls get their numbers as they are made. Clients register calls
that exist; a release may name any number at all.
-/

namespace CallBridge

namespace Admission

/-- The number of a call, given how many were made before it. The counter begins with one and has
64 bits. -/
def numbered (n : Nat) : CallId := ⟨(n + 1) % 0x10000000000000000⟩

/-- The counter does not come round. -/
theorem numbered_eq {n : Nat} (few : n + 1 < 0x10000000000000000) : numbered n = ⟨n + 1⟩ := by
  rw [numbered, Nat.mod_eq_of_lt few]

theorem numbered_inj {m n made : Nat} (few : made < 0x10000000000000000) (hm : m < made)
    (hn : n < made) (same : numbered m = numbered n) : m = n := by
  rw [numbered_eq (by omega), numbered_eq (by omega)] at same
  exact Nat.succ.inj (congrArg CallId.serial same)

/-- A desk, how many calls were made, and which of them were given to a slot. -/
structure Succession where
  desk : Desk := {}
  made : Nat := 0
  /-- The latest first; a call that was given to two slots stands here twice. -/
  used : List Nat := []

namespace Succession

inductive Move where
  | make
  | occupy (key : Key) (n : Nat)
  | desk (m : Desk.Move)
deriving DecidableEq, Repr

def registers : Desk.Move → Bool
  | .occupy _ _ => true
  | _ => false

/-- One operation and how it was answered; nothing when it needs a slot or a call that is not
there. -/
def step (s : Succession) : Move → Option (Succession × List Desk.Event)
  | .make => some ({ s with made := s.made + 1 }, [])
  | .occupy k n =>
    if n < s.made then
      (s.desk.step (.occupy k (numbered n))).map fun (desk, es) =>
        ({ s with desk, used := n :: s.used }, es)
    else none
  | .desk m =>
    if registers m then none
    else (s.desk.step m).map fun (desk, es) => ({ s with desk }, es)

def run (s : Succession) (ms : List Move) : Option (Succession × List Desk.Event) :=
  runWith step s ms

variable {s s' : Succession} {k : Key} {call : CallId} {n : Nat}

def entry? (s : Succession) (k : Key) : Option Entry := s.desk.register.entry? k

/-! ## How a call comes to be live -/

theorem live_of_moved {d : Desk} {p : Desk × List Desk.Event} (h : Desk.Moved d p)
    (live : p.1.register.entry? k = some (.live call)) :
    d.register.entry? k = some (.live call) ∨ p.2 = [.registered k call] := by
  cases h with
  | registered j c =>
      by_cases this : k = j
      · subst this
        have now := (Register.entry?_insert_self _ _ _).symm.trans live
        cases now
        exact .inr rfl
      · exact .inl ((Register.entry?_insert_of_ne _ _ this).symm.trans live)
  | won j =>
      by_cases this : k = j
      · subst this
        exact nomatch (Register.entry?_insert_self _ _ _).symm.trans live
      · exact .inl ((Register.entry?_insert_of_ne _ _ this).symm.trans live)
  | abandoned j | released j | releasedCall j =>
      by_cases this : k = j
      · subst this
        exact nomatch (Register.entry?_erase_self _ _).symm.trans live
      · exact .inl ((Register.entry?_erase_of_ne _ this).symm.trans live)
  | refused | lost | abandonedLate | releasedNothing | stale | cancelled => exact .inl live

/-- Only an occupy is answered by a registration, of the call that it gives to the slot. -/
theorem of_registered {d d' : Desk} {m : Desk.Move}
    (h : d.step m = some (d', [.registered k call])) : m = .occupy k call := by
  cases m with
  | occupy j c =>
      obtain ⟨-, h⟩ := Option.ite_none_right_eq_some.mp h
      have answer := congrArg Prod.snd (Option.some.inj h)
      rw [Desk.occupy] at answer
      split at answer <;> cases answer
      rfl
  | reserve j =>
      have answer := congrArg Prod.snd (Option.some.inj h)
      rw [Desk.reserve] at answer
      split at answer <;> cases answer
  | abandon j =>
      obtain ⟨-, h⟩ := Option.ite_none_right_eq_some.mp h
      cases congrArg Prod.snd (Option.some.inj h)
  | release j | releaseCall j c | cancelAll => cases congrArg Prod.snd (Option.some.inj h)

/-! ## What an operation can come to -/

inductive Stepped (s : Succession) : Succession → Prop where
  | made : Stepped s { s with made := s.made + 1 }
  | used {desk : Desk} {j : Key} (n : Nat) (exists_ : n < s.made)
      (live : ∀ {k call}, desk.register.entry? k = some (.live call) →
        s.entry? k = some (.live call) ∨ (k = j ∧ call = numbered n)) :
      Stepped s { s with desk, used := n :: s.used }
  | other {desk : Desk}
      (live : ∀ {k call}, desk.register.entry? k = some (.live call) →
        s.entry? k = some (.live call)) :
      Stepped s { s with desk }

theorem stepped_of_step {m : Move} {es : List Desk.Event} (h : s.step m = some (s', es)) :
    Stepped s s' := by
  cases m with
  | make =>
      cases h
      exact .made
  | occupy j n =>
      obtain ⟨exists_, h⟩ := Option.ite_none_right_eq_some.mp h
      obtain ⟨⟨desk, es'⟩, moved, h⟩ := Option.map_eq_some_iff.mp h
      cases h
      refine .used n exists_ (j := j) ?_
      intro k call live
      rcases live_of_moved (Desk.moved_of_step moved) live with before | registered
      · exact .inl before
      · cases registered
        cases of_registered moved
        exact .inr ⟨rfl, rfl⟩
  | desk m =>
      obtain ⟨other, h⟩ := Option.ite_none_left_eq_some.mp h
      obtain ⟨⟨desk, es'⟩, moved, h⟩ := Option.map_eq_some_iff.mp h
      cases h
      refine .other ?_
      intro k call live
      rcases live_of_moved (Desk.moved_of_step moved) live with before | registered
      · exact before
      · cases registered
        cases of_registered moved
        exact absurd rfl other

theorem run_invariant {P : Succession → Prop} (keep : ∀ {s s'}, P s → Stepped s s' → P s')
    {ms : List Move} {log : List Desk.Event} (h : s.run ms = some (s', log)) (hs : P s) :
    P s' := by
  refine @runWith_invariant _ _ _ step (fun s _ => P s) ?_ ms s s' [] log h hs
  intro s before m s' es hs hstep
  exact keep hs (stepped_of_step hstep)

/-! ## Where live calls come from -/

/-- Only calls that exist were given to slots, and only those are live. -/
structure Grounded (s : Succession) : Prop where
  exist : ∀ n ∈ s.used, n < s.made
  live : ∀ {k call}, s.entry? k = some (.live call) → ∃ n ∈ s.used, call = numbered n

theorem grounded_stepped (h : Grounded s) (hs : Stepped s s') : Grounded s' := by
  cases hs with
  | made =>
      refine ⟨?_, h.live⟩
      intro n hn
      exact Nat.lt_succ_of_lt (h.exist n hn)
  | used n exists_ live =>
      constructor
      · intro m hm
        rcases List.mem_cons.mp hm with rfl | hm
        · exact exists_
        · exact h.exist m hm
      · intro k call now
        rcases live now with before | ⟨-, rfl⟩
        · obtain ⟨m, hm, named⟩ := h.live before
          exact ⟨m, List.mem_cons_of_mem n hm, named⟩
        · exact ⟨n, List.mem_cons_self, rfl⟩
  | other live =>
      refine ⟨h.exist, ?_⟩
      intro k call now
      exact h.live (live now)

theorem grounded_of_run {ms : List Move} {log : List Desk.Event}
    (h : run {} ms = some (s, log)) : Grounded s :=
  run_invariant grounded_stepped h ⟨nofun, nofun⟩

/-! ## A call that has left its key -/

/-- The call was given to a slot before, and it is not live under the key: not as long as no call
was given to two slots and the counter has not come round. -/
structure Left (k : Key) (n : Nat) (s : Succession) : Prop where
  exist : ∀ m ∈ s.used, m < s.made
  used : n ∈ s.used
  gone : s.used.Nodup → s.made < 0x10000000000000000 → s.entry? k ≠ some (.live (numbered n))

theorem left_stepped (h : Left k n s) (hs : Stepped s s') : Left k n s' := by
  cases hs with
  | made =>
      refine ⟨?_, h.used, ?_⟩
      · intro m hm
        exact Nat.lt_succ_of_lt (h.exist m hm)
      · intro once few
        exact h.gone once (Nat.lt_of_succ_lt few)
  | used m exists_ live =>
      refine ⟨?_, List.mem_cons_of_mem m h.used, ?_⟩
      · intro i hi
        rcases List.mem_cons.mp hi with rfl | hi
        · exact exists_
        · exact h.exist i hi
      · intro once few now
        obtain ⟨new, once⟩ := List.nodup_cons.mp once
        rcases live now with before | ⟨-, same⟩
        · exact h.gone once few before
        · -- The call that is registered now would have to be the one that was registered before.
          have back : n = m := numbered_inj few (h.exist n h.used) exists_ same
          exact new (back ▸ h.used)
  | other live =>
      refine ⟨h.exist, h.used, ?_⟩
      intro once few now
      exact h.gone once few (live now)

/-! ## Releases by name -/

/-- What a release in the name of a call comes to. -/
structure ReleasedByName (s : Succession) (k : Key) (call : CallId) (done : Bool)
    (s' : Succession) : Prop where
  exact_ : done = true ↔ s.entry? k = some (.live call)
  cleared : done = true → s'.entry? k = none
  untouched : done = false → s' = s
  others : ∀ j, j ≠ k → s'.entry? j = s.entry? j
  slots : s'.desk.slots = s.desk.slots
  cancelled : s'.desk.cancelled = s.desk.cancelled

theorem step_releaseCall (s : Succession) (k : Key) (call : CallId) :
    ∃ s' done, s.step (.desk (.releaseCall k call)) = some (s', [.releasedCall k call done]) ∧
      ReleasedByName s k call done s' := by
  rcases s.desk.register.releaseCall_cases k call with ⟨live, ha, hs⟩ | ⟨other, ha, hs⟩
  · refine ⟨{ s with desk := { s.desk with register := ⟨s.desk.register.entries.erase k⟩ } }, true,
      by simp [step, registers, Desk.step, ha, hs], ⟨by simp [live, entry?], ?_, nofun, ?_, rfl,
        rfl⟩⟩
    · intro _
      exact Register.entry?_erase_self _ _
    · intro j hj
      exact Register.entry?_erase_of_ne _ hj
  · exact ⟨s, false, by simp [step, registers, Desk.step, ha, hs],
      ⟨by simp [other, entry?], nofun, fun _ => rfl, fun _ _ => rfl, rfl, rfl⟩⟩

/-- Without the call being live a release in its name does nothing at all. -/
theorem step_releaseCall_stale (stale : s.entry? k ≠ some (.live call)) :
    s.step (.desk (.releaseCall k call)) = some (s, [.releasedCall k call false]) := by
  obtain ⟨s', done, h, released⟩ := step_releaseCall s k call
  cases done with
  | true => exact absurd (released.exact_.mp rfl) stale
  | false => rw [h, released.untouched rfl]

theorem isCurrent_iff :
    s.desk.register.isCurrent k call = true ↔ s.entry? k = some (.live call) := by
  rw [Register.isCurrent, beq_iff_eq, Register.live?]
  show (s.entry? k).bind Entry.call? = some call ↔ _
  cases s.entry? k with
  | none => simp
  | some e => cases e <;> simp [Entry.call?]

/-- **Stale events touch no successor.** However the operations of the clients interleave: a release
in the name of a call succeeds exactly if that call is live under the key, and then it clears this
entry and touches nothing else; otherwise it changes nothing. And where no call was registered twice
and there were fewer than 2^64 calls, a call that was live under a key and is so no longer never is
again: whatever calls and reservations the key has seen since, it is not the current one, and a
release in its name fails and changes nothing. -/
theorem stale_release_touches_nothing {ms : List Move} {log : List Desk.Event}
    (h : run {} ms = some (s, log)) :
    (∀ k call, ∃ s' done,
      s.step (.desk (.releaseCall k call)) = some (s', [.releasedCall k call done]) ∧
        ReleasedByName s k call done s') ∧
    ∀ k call, s.entry? k = some (.live call) →
      ∀ ms' t log', s.run ms' = some (t, log') → t.entry? k ≠ some (.live call) →
        ∀ ms'' u log'', t.run ms'' = some (u, log'') →
          u.used.Nodup → u.made < 0x10000000000000000 →
          u.desk.register.isCurrent k call = false ∧
            u.step (.desk (.releaseCall k call)) = some (u, [.releasedCall k call false]) := by
  refine ⟨step_releaseCall s, ?_⟩
  intro k call live ms' t log' run' left ms'' u log'' run'' once few
  obtain ⟨n, used, rfl⟩ := (grounded_of_run h).live live
  have grounded : Grounded t := run_invariant grounded_stepped run' (grounded_of_run h)
  have still : n ∈ t.used := by
    refine run_invariant (P := fun s => n ∈ s.used) ?_ run' used
    rintro s s' hn (_ | ⟨m⟩ | _)
    · exact hn
    · exact List.mem_cons_of_mem m hn
    · exact hn
  have gone : Left k n u :=
    run_invariant left_stepped run'' ⟨grounded.exist, still, fun _ _ => left⟩
  have stale : u.entry? k ≠ some (.live (numbered n)) := gone.gone once few
  refine ⟨?_, step_releaseCall_stale stale⟩
  rw [Bool.eq_false_iff]
  exact fun current => stale (isCurrent_iff.mp current)

def firstMoves : List Move :=
  [.make, .make, .desk (.reserve (.text "k")), .occupy (.text "k") 0]

def successorMoves : List Move :=
  [.desk (.release (.text "k")), .desk (.reserve (.text "k")),
    .desk (.releaseCall (.text "k") ⟨1⟩), .occupy (.text "k") 1]

/-- The handler of the second call's event releases it, and a third client wins the key. -/
def laterMoves : List Move :=
  [.desk (.releaseCall (.text "k") ⟨1⟩), .make, .desk (.releaseCall (.text "k") ⟨2⟩),
    .desk (.reserve (.text "k"))]

theorem stale_release_touches_nothing_reserved : ∃ s t u log log' log'',
    run {} firstMoves = some (s, log) ∧ s.run successorMoves = some (t, log') ∧
      t.run laterMoves = some (u, log'') ∧
      s.entry? (.text "k") = some (.live ⟨1⟩) ∧ t.entry? (.text "k") = some (.live ⟨2⟩) ∧
      u.entry? (.text "k") = some .reserved ∧ u.used.Nodup ∧ u.made < 0x10000000000000000 ∧
      u.step (.desk (.releaseCall (.text "k") ⟨1⟩)) =
        some (u, [.releasedCall (.text "k") ⟨1⟩ false]) := by
  have first : run {} firstMoves = some (_, _) := rfl
  have succeeded := (stale_release_touches_nothing first).2 (.text "k") ⟨1⟩ rfl
  have later := succeeded successorMoves _ _ rfl (by decide)
  obtain ⟨-, released⟩ := later laterMoves _ _ rfl (by decide) (by decide)
  exact ⟨_, _, _, _, _, _, first, rfl, rfl, rfl, rfl, rfl, by decide, by decide, released⟩

end Succession

end Admission

end CallBridge
