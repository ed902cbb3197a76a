import CallBridge.Command

/-!
# What a demonstration tells

With the filter *info* a demonstration tells a start, one line for each item, the end of the
stream, a refusal, what was fetched, and a summary. `account` has the lines of the whole, and
`UpTo` says how many of them have been told.
-/

namespace CallBridge

namespace Log

/-! ## The filter -/

theorem level?_info : level? "info" = some (some .info) := by decide +kernel

/-- The text has no separator in it. -/
theorem splitOn_info {sep : String} (separator : sep = "," ∨ sep = "/" ∨ sep = "=") :
    "info".splitOn sep = ["info"] := by
  have on (b i j r) := String.splitOnAux.eq_def "info" sep b i j r
  -- Character by character, and then the end of the text.
  rcases separator with rfl | rfl | rfl <;>
    rw [String.splitOn, if_neg (by decide),
      on, if_neg (by decide), if_neg (by decide), on, if_neg (by decide), if_neg (by decide),
      on, if_neg (by decide), if_neg (by decide), on, if_neg (by decide), if_neg (by decide),
      on, if_pos (by decide)] <;>
    decide

theorem directive?_info : directive? "info" = .ok ⟨none, some .info⟩ := by
  have whole := splitOn_info (.inr (.inr (rfl : "=" = "=")))
  simp [directive?, whole, level?_info]

theorem readDirectives_info : readDirectives "info" = ([⟨none, some .info⟩], []) := by
  have whole := splitOn_info (.inl (rfl : "," = ","))
  have bare : Text.trim "info" = "info" := by decide +kernel
  simp [readDirectives, whole, bare, directive?_info, addDirective]

namespace Filter

theorem ofText_info : ofText "info" = ({ directives := [⟨none, some .info⟩] }, []) := by
  have whole := splitOn_info (.inr (.inl (rfl : "/" = "/")))
  simp [ofText, whole, readDirectives_info]

/-- The filter *info* asks for the level alone. -/
theorem tells_info (l : Line) :
    (ofText "info").1.tells l = decide (l.level.rank ≤ Level.info.rank) := by
  simp [ofText_info, tells, lowest, appliesTo]

end Filter

end Log

namespace Demo

/-- The lines that are told with the filter *info*. -/
def told (lines : List Line) : List Line := lines.filter (Log.Filter.ofText "info").1.tells

@[simp] theorem told_nil : told [] = [] := rfl

@[simp] theorem told_append (a b : List Line) : told (a ++ b) = told a ++ told b :=
  List.filter_append ..

theorem told_cons (l : Line) (ls : List Line) :
    told (l :: ls) = if l.level.rank ≤ Level.info.rank then l :: told ls else told ls := by
  simp [told, List.filter_cons, Log.Filter.tells_info]

@[simp] theorem told_info (target message : String) (ls : List Line) :
    told (⟨.info, target, message⟩ :: ls) = ⟨.info, target, message⟩ :: told ls := told_cons ..

@[simp] theorem told_debug (target message : String) (ls : List Line) :
    told (⟨.debug, target, message⟩ :: ls) = told ls := told_cons ..

@[simp] theorem told_trace (target message : String) (ls : List Line) :
    told (⟨.trace, target, message⟩ :: ls) = told ls := told_cons ..

/-! ## The account -/

def receivedLine (n : Nat) (f : Feature) : Line :=
  ⟨.info, "rpc_reactor::demo::list_features",
    "Received feature-" ++ toString f ++ " (" ++ toString f ++ "/" ++ toString n ++ ")"⟩

/-- The last feature, or that there is none. -/
def fetchedLine (n : Nat) : Line :=
  if n = 0 then
    ⟨.warn, "rpc_reactor::demo::get_feature",
      "Fetch failed: NOT_FOUND: feature 0 does not exist"⟩
  else ⟨.info, "rpc_reactor::demo::get_feature", "Fetched " ++ Feature.shape n⟩

theorem told_fetchedLine (n : Nat) : told [fetchedLine n] = [fetchedLine n] := by
  unfold fetchedLine
  split <;> exact told_cons ..

/-- The lines after those of the items. -/
def epilogue (n : Nat) : List Line :=
  [⟨.info, "rpc_reactor::demo::list_features", "Stream finished: OK"⟩,
    ⟨.info, "rpc_reactor::demo::get_feature",
      "Second request rejected: Operation \"GetFeature\" is busy"⟩,
    fetchedLine n,
    ⟨.info, "rpc_reactor::demo", "Demo finished (0 call(s) still live)"⟩]

/-- All that is told of a demonstration with `n` items. -/
def account (n : Nat) : List Line :=
  ⟨.info, "rpc_reactor::demo", "Started ListFeatures as call #1"⟩ ::
    (listFeatures n).map (receivedLine n) ++ epilogue n

@[simp] theorem account_length (n : Nat) : (account n).length = n + 5 := by
  simp [account, listFeatures, epilogue]

theorem account_received {n k : Nat} (h : k < n) :
    (account n)[k + 1]? = some (receivedLine n (k + 1)) := by
  simp [account, List.getElem?_append_left, listFeatures, h]

theorem account_epilogue (n i : Nat) : (account n)[n + 1 + i]? = (epilogue n)[i]? := by
  rw [account, List.getElem?_append_right (by simp [listFeatures])]
  simp [listFeatures]

/-- Of the account of `n` items the first `m` lines have been told, and nothing else. -/
def UpTo (n m : Nat) (lines : List Line) : Prop := told lines = (account n).take m

namespace UpTo

variable {n m : Nat} {lines : List Line}

theorem quiet (h : UpTo n m lines) {more : List Line} (silent : told more = []) :
    UpTo n m (lines ++ more) := by
  rw [UpTo, told_append, silent, List.append_nil]
  exact h

theorem next (h : UpTo n m lines) {l : Line} (line : (account n)[m]? = some l)
    (loud : told [l] = [l]) : UpTo n (m + 1) (lines ++ [l]) := by
  rw [UpTo, told_append, h, loud, List.take_add_one, line]
  rfl

theorem isPrefix (h : UpTo n m lines) : told lines <+: account n := by
  rw [h]
  exact List.take_prefix ..

theorem whole (h : UpTo n (n + 5) lines) : told lines = account n := by
  rw [h, List.take_of_length_le (by simp)]

end UpTo

end Demo

end CallBridge
