import UbqGateway.Chat.CallLog

/-!
# The moves of an event

What `handleCalls` does with an event is a list of moves, one for each call that the event names.  A
move opens a call or extends it, and announces it, shows a fragment of its arguments, or shows
nothing.
-/

namespace UbqGateway.Chat

open Responses ChatStream ChatFunctionCallAccumulator

/-! ### Names -/

def callKey (event : Json) (item : Option Json) : Option String :=
  if isFunctionCall item = true then keyOf event item else none

/-- The keys of the calls that an event names, in order. -/
def namedCalls (event : ResponsesStreamEvent) : List String :=
  if event.type = "response.output_item.added" ∨ event.type = "response.output_item.done" then
    (callKey event.value (event.value.get "item")).toList
  else if event.type = "response.function_call_arguments.delta" ∨
      event.type = "response.function_call_arguments.done" then
    (keyOf event.value none).toList
  else if event.type = "response.output" ∨ event.type = "response.completed" then
    ((Json.items? (eventOutput event)).getD []).filterMap fun item =>
      callKey event.value (some item)
  else []

/-- Whether the arguments of the calls that an event names are done with it. -/
def finalizesCalls (event : ResponsesStreamEvent) : Bool :=
  decide (event.type = "response.function_call_arguments.done" ∨
    event.type = "response.output_item.done" ∨ event.type = "response.output" ∨
    event.type = "response.completed")

/-! ### Moves -/

/-- What is shown of a change: a call whose index is new is announced, another one shows a fragment
or nothing. -/
inductive Emits (beforeCount : ℕ) (change : CallChange) : List ChatToolCall → Prop
  | announces (hfr : beforeCount ≤ change.call.index) :
    Emits beforeCount change [chatToolCallDelta change.call true (some change.suffix)]
  | fragment (hold : change.call.index < beforeCount) :
    Emits beforeCount change [chatToolCallDelta change.call false (some change.suffix)]
  | nothing (hold : change.call.index < beforeCount) (hsfx : change.suffix = "") :
    Emits beforeCount change []

structure Move (event : ResponsesStreamEvent) (beforeCount : ℕ)
    (calls calls' : ChatFunctionCallAccumulator) (change : CallChange)
      (deltas : List ChatToolCall) :
    Prop where
  step : CallStep calls calls' change
  emits : Emits beforeCount change deltas
  done : change.call.argumentsDone = (calls.wasFinal change || finalizesCalls event)
  quiet : calls.wasFinal change = true → change.call.index < beforeCount →
    event.type = "response.output_item.added" ∨ deltas = []

/-- What an event does to the calls that it names. -/
inductive Moves (event : ResponsesStreamEvent) (beforeCount : ℕ) :
    ChatFunctionCallAccumulator → List String → List ChatToolCall → ChatFunctionCallAccumulator →
      Prop
  | nil (calls : ChatFunctionCallAccumulator) : Moves event beforeCount calls [] [] calls
  | cons {calls mid calls' : ChatFunctionCallAccumulator} {change : CallChange} {keys : List String}
      {deltas rest : List ChatToolCall} (hmove : Move event beforeCount calls mid change deltas)
      (hmvs : Moves event beforeCount mid keys rest calls') :
      Moves event beforeCount calls (change.call.key :: keys) (deltas ++ rest) calls'

variable {calls calls' : ChatFunctionCallAccumulator}

theorem Moves.single (hmove : Move event beforeCount calls calls' change deltas) :
    Moves event beforeCount calls [change.call.key] deltas calls' := by
  have hmvs := Moves.cons hmove (.nil calls')
  rw [List.append_nil] at hmvs
  exact hmvs

theorem emits_callDelta (hfr : includeIdentity = true ↔ beforeCount ≤ change.call.index) :
    Emits beforeCount change (toolCallsOf (callDelta includeIdentity change)) := by
  unfold callDelta
  cases includeIdentity with
  | true =>
    rw [if_pos (.inl rfl)]
    exact .announces (hfr.mp rfl)
  | false =>
    have hold : change.call.index < beforeCount := by
      by_contra hnew
      exact Bool.false_ne_true (hfr.mpr (Nat.not_lt.mp hnew))
    by_cases hnth : change.suffix = ""
    · rw [if_neg (by simp [hnth])]
      exact .nothing hold hnth
    · rw [if_pos (.inr hnth)]
      exact .fragment hold

theorem callDelta_quiet (hsfx : change.suffix = "") :
    toolCallsOf (callDelta false change) = [] := by
  unfold callDelta
  rw [if_neg (by simp [hsfx])]
  rfl

/-! ### The moves of each event -/

theorem opens_eq_false (hnum : calls.Numbered) (hstep : CallStep calls calls' change)
    (hkn : calls.opens change = false) : change.call.index < calls.entries.length := by
  by_contra hnew
  have hop := (hstep.opens_iff hnum).mpr (Nat.not_lt.mp hnew)
  rw [hkn] at hop
  cases hop

theorem move_of_output (beforeCount : ℕ) (hnum : calls.Numbered)
    (hfnz : finalizesCalls event = true)
    (h : calls.reconcileItem event.value item = .ok (calls', changed)) :
    (changed = none ∧ calls' = calls ∧ callKey event.value item = none) ∨
      ∃ change, changed = some change ∧ callKey event.value item = some change.call.key ∧
        Move event beforeCount calls calls' change
          (toolCallsOf (callDelta (decide (beforeCount ≤ change.call.index)) change)) := by
  unfold callKey
  rcases reconcileItem_step hnum h with ⟨rfl, rfl, hcall⟩ | ⟨change, rfl, hcall, hstep, hkyd,
    hdone, hfin⟩
  · left
    rw [hcall]
    exact ⟨rfl, rfl, if_neg Bool.false_ne_true⟩
  · right
    rw [if_pos hcall]
    refine ⟨change, rfl, hkyd, ⟨hstep, emits_callDelta decide_eq_true_iff, ?_, ?_⟩⟩
    · rw [hdone, hfnz, Bool.or_true]
    · intro hwasFinal hold
      right
      rw [decide_eq_false (Nat.not_le.mpr hold)]
      exact callDelta_quiet (hfin hwasFinal)

section

variable (hnum : calls.Numbered)

include hnum

theorem moves_of_output (hfnz : finalizesCalls event = true)
    (h : reconcileItems event.value calls reconciled items = .ok (calls', reconciled')) :
    ∃ changes, reconciled' = reconciled ++ changes ∧
      Moves event beforeCount calls (items.filterMap fun item => callKey event.value (some item))
        (toolCallsOf (callDeltas beforeCount changes)) calls' := by
  induction items generalizing calls reconciled with
  | nil =>
    cases h
    exact ⟨[], (List.append_nil _).symm, .nil _⟩
  | cons item _ ih =>
    rw [reconcileItems] at h
    cases hone : calls.reconcileItem event.value (some item) with
    | error error =>
      rw [hone] at h
      cases h
    | ok x =>
    obtain ⟨mid, changed⟩ := x
    rw [hone] at h
    rcases move_of_output beforeCount hnum hfnz hone with
      ⟨rfl, rfl, hunnamed⟩ | ⟨change, rfl, hname, hmove⟩
    · obtain ⟨changes, rfl, hmvs⟩ := ih hnum h
      refine ⟨changes, by rw [Option.toList_none, List.append_nil], ?_⟩
      rw [List.filterMap_cons, hunnamed]
      exact hmvs
    · obtain ⟨changes, rfl, hmvs⟩ := ih (hnum.step hmove.step) h
      refine ⟨change :: changes, by rw [List.append_assoc]; rfl, ?_⟩
      rw [List.filterMap_cons, hname, callDeltas_cons, toolCallsOf_append]
      exact .cons hmove hmvs

/-- An item that is added. -/
theorem moves_of_add (htype : event.type = "response.output_item.added")
    (h : calls.add event.value (event.value.get "item") = .ok (calls', added))
    (hsh : deltas = added.elim [] fun x => toolCallsOf (callDelta x.includeIdentity x.change)) :
    Moves event calls.entries.length calls (callKey event.value (event.value.get "item")).toList
      deltas calls' := by
  unfold add at h
  unfold callKey
  cases hcall : isFunctionCall (event.value.get "item") with
  | false =>
    rw [hcall, if_pos rfl] at h
    cases h
    rw [hsh, if_neg Bool.false_ne_true]
    exact .nil _
  | true =>
    rw [hcall, if_neg Bool.noConfusion] at h
    obtain ⟨⟨mid, change⟩, hcr, h⟩ := Results.of_bind h
    cases h
    obtain ⟨hstep, hkyd, hop⟩ := create_step hnum hcr
    have hnotFinal : finalizesCalls event = false := by
      unfold finalizesCalls
      rw [htype]
      decide
    rw [hsh, if_pos rfl, hkyd]
    refine .single ⟨hstep, ?_, ?_, fun _ _ => .inl htype⟩
    · show Emits _ change
        (toolCallsOf (callDelta (calls.find (some change.call.key)).isNone change))
      rw [← hkyd, ← hop]
      exact emits_callDelta (hstep.opens_iff hnum)
    · rw [hnotFinal, Bool.or_false]
      obtain ⟨_, ⟨hfr, hdone, _⟩ | ⟨call, hfd, hcall_eq, _⟩⟩ := create_cases hnum hcr
      · rw [hdone, wasFinal, show calls.lookup change.call.key = none by
          rw [hkyd] at hfr
          exact hfr]
        rfl
      · rw [wasFinal, show calls.lookup change.call.key = some call by
          rw [hkyd] at hfd
          exact hfd, hcall_eq]
        rfl

theorem moves_of_delta (htype : event.type = "response.function_call_arguments.delta")
    (h : calls.delta event.value = .ok (calls', change)) :
    Moves event calls.entries.length calls (keyOf event.value none).toList
      [chatToolCallDelta change.call false (some change.suffix)] calls' := by
  obtain ⟨hstep, hold, hnotFinal⟩ := delta_step hnum h
  have hnotFinalizing : finalizesCalls event = false := by
    unfold finalizesCalls
    rw [htype]
    decide
  have hfacts : keyOf event.value none = some change.call.key ∧
    change.call.argumentsDone = false := by
    unfold delta at h
    split at h
    · cases h
    next call hfd =>
    split_ifs at h with hfin
    · cases h
    split at h
    · cases h
    next delta _ =>
    cases h
    exact ⟨(lookup_of_find hnum hfd).1, Bool.not_eq_true _ ▸ hfin⟩
  rw [hfacts.1]
  refine .single ⟨hstep, .fragment (opens_eq_false hnum hstep hold), ?_, fun hfin => ?_⟩
  · rw [hfacts.2, hnotFinal, hnotFinalizing]
    rfl
  · rw [hnotFinal] at hfin
    cases hfin

theorem moves_of_done (htype : event.type = "response.function_call_arguments.done")
    (h : calls.done event.value = .ok (calls', change)) :
    Moves event calls.entries.length calls (keyOf event.value none).toList
      (toolCallsOf (callDelta false change)) calls' := by
  obtain ⟨hstep, hold, hdone, hqt⟩ := done_step hnum h
  have hfnz : finalizesCalls event = true := by
    unfold finalizesCalls
    rw [htype]
    decide
  have hkyd : keyOf event.value none = some change.call.key := by
    unfold ChatFunctionCallAccumulator.done at h
    split at h
    · cases h
    next call hfd =>
    split at h
    · cases h
    next finalArguments _ =>
    obtain ⟨hsk, hin⟩ := lookup_of_find hnum hfd
    obtain ⟨_, _, heq, _⟩ := finish_facts hin h
    rw [hsk, heq]
  have hidx := opens_eq_false hnum hstep hold
  rw [hkyd]
  refine .single ⟨hstep, emits_callDelta ?_, ?_, fun hfin _ => .inr (callDelta_quiet (hqt hfin))⟩
  · exact iff_of_false Bool.false_ne_true (Nat.not_le.mpr hidx)
  · rw [hdone, hfnz, Bool.or_true]

theorem moves_of_item (htype : event.type = "response.output_item.done")
    (h : calls.reconcileItem event.value (event.value.get "item") = .ok (calls', changed))
    (hsh : deltas = changed.elim [] fun change =>
      toolCallsOf (callDelta (!calls.has event.value (event.value.get "item")) change)) :
    Moves event calls.entries.length calls (callKey event.value (event.value.get "item")).toList
      deltas calls' := by
  have hfnz : finalizesCalls event = true := by
    unfold finalizesCalls
    rw [htype]
    decide
  rcases move_of_output calls.entries.length hnum hfnz h with
    ⟨rfl, rfl, hunnamed⟩ | ⟨change, rfl, hname, hmove⟩
  · rw [hsh, hunnamed]
    exact .nil _
  · have hkyd : keyOf event.value (event.value.get "item") = some change.call.key := by
      unfold callKey at hname
      split_ifs at hname
      exact hname
    have hkn : (!calls.has event.value (event.value.get "item")) =
        decide (calls.entries.length ≤ change.call.index) := by
      rw [Bool.eq_iff_iff, decide_eq_true_iff, ← hmove.step.opens_iff hnum, has, hkyd, opens,
        Option.not_isSome]
      rfl
    rw [hsh, hname]
    show Moves _ _ _ [change.call.key] (toolCallsOf (callDelta (!calls.has _ _) change)) _
    rw [hkn]
    exact .single hmove

/-- Every event moves the calls as `Moves` says. -/
theorem handleCalls_moves (h : handleCalls calls event = .ok (calls', deltas)) :
    Moves event calls.entries.length calls (namedCalls event) deltas calls' := by
  unfold handleCalls at h
  unfold namedCalls
  by_cases hadd : event.type = "response.output_item.added"
  · rw [if_pos hadd] at h
    rw [if_pos (.inl hadd)]
    obtain ⟨x, hone, h⟩ := Results.of_map h
    cases h
    exact moves_of_add hnum hadd hone rfl
  rw [if_neg hadd] at h
  by_cases hdlt : event.type = "response.function_call_arguments.delta"
  · rw [if_pos hdlt] at h
    rw [if_neg (by rw [hdlt]; decide), if_pos (.inl hdlt)]
    obtain ⟨x, hone, h⟩ := Results.of_map h
    cases h
    exact moves_of_delta hnum hdlt hone
  rw [if_neg hdlt] at h
  by_cases hdone : event.type = "response.function_call_arguments.done"
  · rw [if_pos hdone] at h
    rw [if_neg (by rw [hdone]; decide), if_pos (.inr hdone)]
    obtain ⟨x, hone, h⟩ := Results.of_map h
    cases h
    exact moves_of_done hnum hdone hone
  rw [if_neg hdone] at h
  by_cases hitd : event.type = "response.output_item.done"
  · rw [if_pos hitd] at h
    rw [if_pos (.inr hitd)]
    obtain ⟨x, hone, h⟩ := Results.of_map h
    cases h
    exact moves_of_item hnum hitd hone rfl
  rw [if_neg hitd] at h
  rw [if_neg (not_or.mpr ⟨hadd, hitd⟩), if_neg (not_or.mpr ⟨hdlt, hdone⟩)]
  split_ifs at h with hout
  · rw [if_pos hout]
    have hfnz : finalizesCalls event = true := by
      unfold finalizesCalls
      rw [decide_eq_true_iff]
      exact .inr (.inr hout)
    unfold reconcileOutput at h
    cases hgvn : Json.items? (eventOutput event) with
    | none =>
      rw [hgvn] at h
      cases h
      exact .nil _
    | some items =>
      rw [hgvn] at h
      simp only at h
      obtain ⟨x, hall, h⟩ := Results.of_map h
      cases h
      obtain ⟨changes, heq, hmove⟩ := moves_of_output hnum hfnz hall
      rw [heq]
      exact hmove
  · rw [if_neg hout]
    cases h
    exact .nil _

end

end UbqGateway.Chat
