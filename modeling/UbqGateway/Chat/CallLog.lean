import UbqGateway.Chat.Handlers

/-!
# What is emitted of function calls

`handleCalls` is what the handlers of a stream do with the function calls of an event: the calls
after it, and the deltas that are emitted or queued of them (`handleStreamEvent_calls`).  Each event
makes moves, one for each call that it names.
-/

namespace UbqGateway.Chat

open Responses ChatStream ChatFunctionCallAccumulator

/-! ### Handlers -/

/-- The deltas of calls among those that are emitted or queued. -/
def toolCallsOf (deltas : List QueuedDelta) : List ChatToolCall :=
  deltas.filterMap fun delta => delta.chunk.toolCall

/-- The output that an event gives in full. -/
def eventOutput (event : ResponsesStreamEvent) : Option Json :=
  if event.type = "response.completed" then itemGet (event.value.get "response") "output"
  else finalOutput event.value

/-- The calls after an event, and the deltas of calls that it gives. -/
def handleCalls (calls : ChatFunctionCallAccumulator) (event : ResponsesStreamEvent) :
    Except ResponsesStreamError (ChatFunctionCallAccumulator × List ChatToolCall) :=
  if event.type = "response.output_item.added" then
    (calls.add event.value (event.value.get "item")).map fun x =>
      (x.1, x.2.elim [] fun added => toolCallsOf (callDelta added.includeIdentity added.change))
  else if event.type = "response.function_call_arguments.delta" then
    (calls.delta event.value).map fun x =>
      (x.1, [chatToolCallDelta x.2.call false (some x.2.suffix)])
  else if event.type = "response.function_call_arguments.done" then
    (calls.done event.value).map fun x => (x.1, toolCallsOf (callDelta false x.2))
  else if event.type = "response.output_item.done" then
    (calls.reconcileItem event.value (event.value.get "item")).map fun x =>
      (x.1, x.2.elim [] fun change =>
        toolCallsOf (callDelta (!calls.has event.value (event.value.get "item")) change))
  else if event.type = "response.output" ∨ event.type = "response.completed" then
    (calls.reconcileOutput event.value (eventOutput event)).map fun x =>
      (x.1, toolCallsOf (callDeltas calls.entries.length x.2))
  else .ok (calls, [])

/-! ### The stream -/

def chunkToolCall : Chunk → Option ChatToolCall
  | .choice _ _ _ delta _ => delta.toolCall
  | _ => none

/-- The deltas of calls that a stream has emitted and queued. -/
def ChatStream.toolCalls (s : ChatStream) : List ChatToolCall :=
  s.chunks.filterMap chunkToolCall ++ toolCallsOf s.queuedDeltas

variable (request : ChatRequest)

theorem toolCallsOf_append (u v : List QueuedDelta) :
    toolCallsOf (u ++ v) = toolCallsOf u ++ toolCallsOf v := List.filterMap_append ..

theorem toolCallsOf_contentDeltas (content : ReconciledChatContent) :
    toolCallsOf (contentDeltas content) = [] := by
  unfold contentDeltas
  split_ifs <;> rfl

theorem filterMap_singleton (f : α → Option β) (x : α) : [x].filterMap f = (f x).toList := by
  rw [List.filterMap_cons]
  cases f x <;> rfl

variable {s : ChatStream}

theorem toolCalls_emitDelta (hdr : s.queuedDeltas = []) (delta : ChunkDelta) :
    (s.emitDelta request delta).toolCalls = s.toolCalls ++ delta.toolCall.toList := by
  unfold ChatStream.toolCalls emitDelta
  simp only
  rw [hdr, List.filterMap_append, filterMap_singleton]
  show _ ++ [] = _ ++ [] ++ _
  rw [List.append_nil, List.append_nil]
  rfl

theorem toolCalls_emitNext (s : ChatStream) :
    (s.emitNextQueuedDelta request).1.toolCalls = s.toolCalls := by
  cases hqd : s.queuedDeltas with
  | nil => rw [emitNextQueuedDelta_nil request hqd]
  | cons delta rest =>
    rw [emitNextQueuedDelta_cons request hqd]
    unfold ChatStream.toolCalls emitDelta
    simp only
    rw [hqd, List.filterMap_append, filterMap_singleton, List.append_assoc]
    show _ ++ (delta.chunk.toolCall.toList ++ _) = _ ++ toolCallsOf ([delta] ++ rest)
    rw [toolCallsOf_append]
    unfold toolCallsOf
    rw [filterMap_singleton]

/-- The calls and what is shown of them after an event. -/
def Shows (s : ChatStream) (event : ResponsesStreamEvent) (s' : ChatStream) : Prop :=
  ∃ deltas, handleCalls s.translation.functionCalls event =
    .ok (s'.translation.functionCalls, deltas) ∧ s'.toolCalls = s.toolCalls ++ deltas

/-- The stream that a turn leaves, if it does not fail. -/
def ChatStream.Turn.stream : Turn → Option ChatStream
  | .next s | .returns s | .recording s _ _ => some s
  | .fails _ _ => none

theorem shows_other
    (hoth : handleCalls s.translation.functionCalls event = .ok (s.translation.functionCalls, []))
    (hcls : s'.translation.functionCalls = s.translation.functionCalls)
    (hsh : s'.toolCalls = s.toolCalls) : Shows s event s' :=
  ⟨[], by rw [hcls]; exact hoth, by rw [hsh, List.append_nil]⟩

section

variable (hdr : s.queuedDeltas = [])

include hdr

section

variable (translation : ChatTranslation)

include translation

theorem toolCalls_emitContent (text : String) :
    (emitContent request { s with translation := translation } text).toolCalls = s.toolCalls :=
  (toolCalls_emitDelta request (s := { s with translation := translation }) hdr _).trans
    (List.append_nil _)

theorem toolCalls_emitRefusal (text : String) :
    (emitRefusal request { s with translation := translation } text).toolCalls = s.toolCalls :=
  (toolCalls_emitDelta request (s := { s with translation := translation }) hdr _).trans
    (List.append_nil _)

theorem toolCalls_emitToolCall
    (call : ChatFunctionCall) (includeIdentity : Bool) (argumentsDelta : String) :
    (emitToolCall request { s with translation := translation } call includeIdentity
      argumentsDelta).toolCalls =
      s.toolCalls ++ [chatToolCallDelta call includeIdentity (some argumentsDelta)] :=
  toolCalls_emitDelta request (s := { s with translation := translation }) hdr _

theorem toolCalls_change (includeIdentity : Bool) (change : CallChange) :
    (if includeIdentity = true ∨ change.suffix ≠ "" then
        emitToolCall request { s with translation := translation } change.call includeIdentity
          change.suffix
      else { s with translation := translation }).toolCalls =
      s.toolCalls ++ toolCallsOf (callDelta includeIdentity change) := by
  unfold callDelta
  by_cases hemit : includeIdentity = true ∨ change.suffix ≠ ""
  · rw [if_pos hemit, if_pos hemit]
    exact toolCalls_emitToolCall request hdr ..
  · rw [if_neg hemit, if_neg hemit]
    exact (List.append_nil _).symm

end

end

/-- A text event shows no call. -/
theorem handleTextEvent_shows (hdr : s.queuedDeltas = [])
    (h : s.handleTextEvent request event = some (.ok (s', outcome))) : Shows s event s' := by
  have hkept : s'.translation.functionCalls = s.translation.functionCalls ∧
      s'.toolCalls = s.toolCalls := by
    unfold handleTextEvent at h
    split_ifs at h
    · unfold applyOutputTextDelta at h
      obtain ⟨x, -, h⟩ := Results.of_map (Option.some.inj h)
      cases h
      exact ⟨rfl, toolCalls_emitContent request hdr ..⟩
    · unfold applyOutputTextDone at h
      obtain ⟨x, -, h⟩ := Results.of_map (Option.some.inj h)
      split_ifs at h
      · cases h
        exact ⟨rfl, rfl⟩
      · cases h
        exact ⟨rfl, toolCalls_emitContent request hdr ..⟩
    · unfold applyRefusalDelta at h
      obtain ⟨x, -, h⟩ := Results.of_map (Option.some.inj h)
      cases h
      exact ⟨rfl, toolCalls_emitRefusal request hdr ..⟩
    · unfold applyRefusalDone at h
      obtain ⟨x, -, h⟩ := Results.of_map (Option.some.inj h)
      split_ifs at h
      · cases h
        exact ⟨rfl, rfl⟩
      · cases h
        exact ⟨rfl, toolCalls_emitRefusal request hdr ..⟩
    · unfold applyContentPartDone at h
      obtain ⟨x, -, h⟩ := Results.of_map (Option.some.inj h)
      split_ifs at h
      · cases h
        exact ⟨rfl, toolCalls_emitContent request hdr ..⟩
      · cases h
        exact ⟨rfl, toolCalls_emitRefusal request hdr ..⟩
      · cases h
        exact ⟨rfl, rfl⟩
  refine shows_other ?_ hkept.1 hkept.2
  unfold handleTextEvent at h
  unfold handleCalls
  split_ifs at h with htextDelta htextDone hrefusalDelta hrefusalDone hpartDone
  · rw [htextDelta]
    rfl
  · rw [htextDone]
    rfl
  · rw [hrefusalDelta]
    rfl
  · rw [hrefusalDone]
    rfl
  · rw [hpartDone]
    rfl

/-- A tool event shows what it changed. -/
theorem handleToolEvent_shows (hnum : s.translation.functionCalls.Numbered)
    (hdr : s.queuedDeltas = []) (h : s.handleToolEvent request event = some (.ok (s', outcome))) :
    Shows s event s' := by
  unfold handleToolEvent at h
  unfold Shows handleCalls
  split_ifs at h with hadd hdlt hdone hitd
  · unfold handleOutputItemAdded at h
    rw [if_pos hadd]
    obtain ⟨⟨calls, _ | added⟩, hone, h⟩ := Results.of_map (Option.some.inj h)
    · cases h
      rw [hone]
      exact ⟨[], rfl, (List.append_nil _).symm⟩
    · rw [hone]
      have hsh := toolCalls_change request hdr (s.translation.withCalls calls)
        added.includeIdentity added.change
      simp only at h
      split_ifs at h hsh
      all_goals
        cases h
        exact ⟨_, rfl, hsh⟩
  · unfold handleArgumentsDelta at h
    rw [if_neg hadd, if_pos hdlt]
    obtain ⟨x, hone, h⟩ := Results.of_map (Option.some.inj h)
    cases h
    rw [hone]
    exact ⟨_, rfl, toolCalls_emitToolCall request hdr ..⟩
  · unfold handleArgumentsDone at h
    rw [if_neg hadd, if_neg hdlt, if_pos hdone]
    obtain ⟨x, hone, h⟩ := Results.of_map (Option.some.inj h)
    rw [hone]
    have hsh := toolCalls_change request hdr (s.translation.withCalls x.1) false x.2
    simp only [Bool.false_eq_true, false_or] at hsh
    split_ifs at h hsh
    all_goals
      cases h
      exact ⟨_, rfl, hsh⟩
  · unfold handleOutputItemDone at h
    rw [if_neg hadd, if_neg hdlt, if_neg hdone, if_pos hitd]
    cases hone : s.translation.functionCalls.reconcileItem event.value (event.value.get "item") with
    | error error =>
      rw [hone] at h
      cases h
    | ok x =>
      rw [hone] at h
      obtain ⟨calls, changed⟩ := x
      rcases reconcileItem_step hnum hone with ⟨rfl, rfl, _⟩ | ⟨change, rfl, hcall, hstep, _⟩
      · -- The content of a message is queued, and shows no call.
        have h : s.handleContentItemDone request event.value = .ok (s', outcome) :=
          Option.some.inj h
        unfold handleContentItemDone at h
        obtain ⟨completed, _, h⟩ := Results.of_map h
        simp only at h
        cases h
        refine ⟨[], ?_, ?_⟩
        · rw [(emitNextQueuedDelta_frame request _).2.2]
          rfl
        · rw [toolCalls_emitNext]
          show _ ++ toolCallsOf (s.queuedDeltas ++ contentDeltas completed.2) = _
          rw [toolCallsOf_append, toolCallsOf_contentDeltas, List.append_nil]
          exact (List.append_nil _).symm
      · have hkn : s.wasKnown event.value =
            s.translation.functionCalls.has event.value (event.value.get "item") := by
          unfold isFunctionCall at hcall
          rw [Bool.and_eq_true] at hcall
          unfold wasKnown
          rw [hcall.1, Bool.true_and]
        have hsh := toolCalls_change request hdr (s.translation.withCalls calls)
          (!s.wasKnown event.value) change
        rw [hkn] at hsh
        simp only [Except.bind, hkn] at h
        simp only [Bool.not_eq_true'] at hsh
        split_ifs at h hsh
        all_goals
          cases h
          exact ⟨_, rfl, hsh⟩

theorem queueFinalOutput_shows {event : Json} {output : Option Json}
    (h : s.queueFinalOutput event output = .ok s') :
    ∃ changes, s.translation.functionCalls.reconcileOutput event output =
      .ok (s'.translation.functionCalls, changes) ∧
      s'.toolCalls = s.toolCalls ++
        toolCallsOf (callDeltas s.translation.functionCalls.entries.length changes) := by
  unfold queueFinalOutput at h
  obtain ⟨completed, -, h⟩ := Results.of_bind h
  obtain ⟨reconciled, hcls, h⟩ := Results.of_bind h
  rw [hcls]
  cases h
  refine ⟨reconciled.2, rfl, ?_⟩
  show _ ++ toolCallsOf (s.queuedDeltas ++ contentDeltas completed.2 ++ _) = _
  rw [toolCallsOf_append, toolCallsOf_append, toolCallsOf_contentDeltas, List.append_nil,
    ← List.append_assoc]
  rfl

theorem deferEvent_frame (s : ChatStream) (event : ResponsesStreamEvent) :
    (s.deferEvent request event).toolCalls = s.toolCalls ∧
      (s.deferEvent request event).translation = s.translation :=
  ⟨toolCalls_emitNext request _, (emitNextQueuedDelta_frame request _).2.2⟩

theorem deliverCompleted_frame (s : ChatStream) (event : ResponsesStreamEvent)
    (usageTokens : Option UsageTokens) :
    (s.deliverCompleted request event usageTokens).toolCalls = s.toolCalls ∧
      (s.deliverCompleted request event usageTokens).translation = s.translation := by
  unfold deliverCompleted
  split_ifs with hdr
  · refine ⟨?_, rfl⟩
    have hends : (s.finishChunks request usageTokens).filterMap chunkToolCall = [] := by
      unfold finishChunks
      rw [List.filterMap_append, List.filterMap_append, filterMap_singleton, filterMap_singleton]
      by_cases hasked : request.includeUsage = true
      · rw [if_pos hasked]
        cases toChatUsage usageTokens <;> rfl
      · rw [if_neg hasked]
        rfl
    unfold ChatStream.toolCalls
    simp only
    rw [List.filterMap_append, hends, List.append_nil]
  · exact deferEvent_frame request ..

theorem settleCompleted_frame (h : (s.settleCompleted request event usageTokens).stream = some s') :
    s'.toolCalls = s.toolCalls ∧ s'.translation = s.translation := by
  unfold settleCompleted at h
  split_ifs at h
  · cases h
    exact deliverCompleted_frame request ..
  · cases h
    refine ⟨?_, rfl⟩
    unfold ChatStream.toolCalls
    simp only
    rw [List.filterMap_append]
    show _ ++ [] ++ _ = _
    rw [List.append_nil]
  · cases h
    exact ⟨rfl, rfl⟩

theorem handleCompletedEvent_shows (hcomp : event.type = "response.completed")
    (h : (s.handleCompletedEvent request event).stream = some s') : Shows s event s' := by
  unfold handleCompletedEvent at h
  split_ifs at h with hrsp
  · cases h
  simp only at h
  cases hqd : queueFinalOutput { s with observedCompletedUsage := some (usageOf event.value) }
      event.value (itemGet (event.value.get "response") "output") with
  | error error =>
    rw [hqd] at h
    cases h
  | ok mid =>
    rw [hqd] at h
    simp only [Except.bind] at h
    cases hfin : mid.translation.functionCalls.assertFinalized with
    | error error =>
      rw [hfin] at h
      cases h
    | ok _ =>
      rw [hfin] at h
      obtain ⟨changes, hrcn, hsh⟩ := queueFinalOutput_shows hqd
      obtain ⟨heq, htr⟩ := settleCompleted_frame request h
      refine ⟨_, ?_, heq.trans hsh⟩
      unfold handleCalls eventOutput
      rw [hcomp, htr]
      simp only [String.reduceEq, if_false, if_true, or_true]
      rw [show s.translation.functionCalls.reconcileOutput event.value
        (itemGet (event.value.get "response") "output") = _ from hrcn]
      rfl

theorem handleFinalOutputEvent_shows (hout : event.type = "response.output")
    (h : s.handleFinalOutputEvent request event = .ok (s', outcome)) : Shows s event s' := by
  unfold handleFinalOutputEvent at h
  obtain ⟨mid, hqd, h⟩ := Results.of_bind h
  obtain ⟨changes, hrcn, hsh⟩ := queueFinalOutput_shows hqd
  have hkept : s'.toolCalls = mid.toolCalls ∧ s'.translation = mid.translation := by
    simp only at h
    split_ifs at h
    · cases h
      exact ⟨rfl, rfl⟩
    · cases h
      exact deferEvent_frame request ..
  refine ⟨_, ?_, hkept.1.trans hsh⟩
  unfold handleCalls eventOutput
  rw [hout, hkept.2]
  simp only [String.reduceEq, if_false, if_true, true_or]
  rw [hrcn]
  rfl

theorem handleCalls_other {calls : ChatFunctionCallAccumulator}
    (hoth : event.type ≠ "response.output_item.added" ∧
      event.type ≠ "response.function_call_arguments.delta" ∧
      event.type ≠ "response.function_call_arguments.done" ∧
      event.type ≠ "response.output_item.done" ∧ event.type ≠ "response.output" ∧
      event.type ≠ "response.completed") : handleCalls calls event = .ok (calls, []) := by
  obtain ⟨hadd, hdlt, hdone, hitd, hout, hcomp⟩ := hoth
  unfold handleCalls
  rw [if_neg hadd, if_neg hdlt, if_neg hdone, if_neg hitd,
    if_neg (not_or.mpr ⟨hout, hcomp⟩)]

/-- Every event shows what it changed of the calls. -/
theorem handleStreamEvent_calls (hnum : s.translation.functionCalls.Numbered)
    (hdr : s.queuedDeltas = []) (h : (s.handleStreamEvent request event).stream = some s') :
    Shows s event s' := by
  unfold handleStreamEvent at h
  cases hcr : createdResponse event with
  | some response =>
    rw [hcr] at h
    cases h
    unfold createdResponse at hcr
    split_ifs at hcr with htype
    refine shows_other (handleCalls_other ?_) rfl rfl
    rw [htype]
    decide
  | none =>
  rw [hcr] at h
  unfold handleUpstreamEvent at h
  cases htext : s.handleTextEvent request event with
  | some handled =>
    rw [htext] at h
    obtain error | ⟨mid, _ | _⟩ := handled
    · cases h
    · cases h
      exact handleTextEvent_shows request hdr htext
    · cases h
      exact handleTextEvent_shows request hdr htext
  | none =>
  rw [htext] at h
  cases htool : s.handleToolEvent request event with
  | some handled =>
    rw [htool] at h
    obtain error | ⟨mid, _ | _⟩ := handled
    · cases h
    · cases h
      exact handleToolEvent_shows request hnum hdr htool
    · cases h
      exact handleToolEvent_shows request hnum hdr htool
  | none =>
  rw [htool] at h
  simp only [Option.or_none] at h
  by_cases hout : event.type = "response.output"
  · rw [if_pos hout] at h
    cases hfin : s.handleFinalOutputEvent request event with
    | error error =>
      rw [hfin] at h
      cases h
    | ok handled =>
      rw [hfin] at h
      obtain ⟨mid, _ | _⟩ := handled
      · cases h
        exact handleFinalOutputEvent_shows request hout hfin
      · cases h
        exact handleFinalOutputEvent_shows request hout hfin
  rw [if_neg hout] at h
  by_cases hcomp : event.type = "response.completed"
  · rw [if_pos hcomp] at h
    exact handleCompletedEvent_shows request hcomp h
  rw [if_neg hcomp] at h
  have hoth : handleCalls s.translation.functionCalls event =
      .ok (s.translation.functionCalls, []) := by
    unfold handleToolEvent at htool
    split_ifs at htool with hadd hdlt hdone hitd
    exact handleCalls_other ⟨hadd, hdlt, hdone, hitd, hout, hcomp⟩
  split_ifs at h
  · cases h
    refine shows_other hoth rfl ?_
    unfold ChatStream.toolCalls handleTerminalEvent
    simp only
    rw [List.filterMap_append]
    show _ ++ [] ++ _ = _
    rw [List.append_nil]
  · cases h
    exact shows_other hoth rfl rfl

end UbqGateway.Chat
