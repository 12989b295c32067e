import UbqGateway.Chat.FunctionCalls
import UbqGateway.Chat.Settlement

/-!
# Streamed chat completions

`streamChatCompletions` of `src/chat/completions.ts`.  The stream is pulled; a pull takes an event
of the upstream and translates it, until something was emitted.  What is emitted beyond one chunk is
queued for the next pulls, and a final event whose translation was queued is handled again when the
queue is empty. Telemetry is left out.
-/

namespace UbqGateway.Chat

open Responses

/-- What both translations accumulate. -/
structure ChatTranslation where
  outputText : String
  refusal : String
  parts : ContentParts
  functionCalls : ChatFunctionCallAccumulator
deriving DecidableEq

/-- Nothing is translated yet. -/
def ChatTranslation.initial : ChatTranslation where
  outputText := ""
  refusal := ""
  parts := ⟨.empty, .empty⟩
  functionCalls := .empty

def translatedChatOutputObserved (translation : ChatTranslation) : Bool :=
  decide (translation.outputText ≠ "") || decide (translation.refusal ≠ "") ||
    translation.functionCalls.hasCalls

def finalOutput (event : Json) : Option Json :=
  match event.get "output" with
  | none | some .null => itemGet (event.get "response") "output"
  | some output => some output

/-! ### Text events

The handlers for output text and those for refusals are the same, with other maps and messages. -/

/-- The text of a delta, with the error if it is not a string. -/
def applyDelta (malformed : String) (parts : Parts) (event : Json) :
    Except ResponsesStreamError (Parts × String) :=
  match Json.string? (event.get "delta") with
  | none => malformedFunctionCallStream malformed
  | some delta =>
    .ok
      (setChatOutputTextPart parts (addressOf event) (emittedText parts (addressOf event) ++ delta),
        delta)

/-- What a completed text adds. -/
def applyDone (property malformed : String)
    (reconcile : String → String → Except ResponsesStreamError String) (parts : Parts)
    (event : Json) : Except ResponsesStreamError (Parts × String) :=
  match Json.string? (event.get property) with
  | none => malformedFunctionCallStream malformed
  | some completed =>
    (reconcile (emittedText parts (addressOf event)) completed).map fun suffix =>
      (setChatOutputTextPart parts (addressOf event)
        (emittedText parts (addressOf event) ++ suffix), suffix)

def outputTextDelta : Parts → Json → Except ResponsesStreamError (Parts × String) :=
  applyDelta "Upstream output-text delta is not a string."

def outputTextDone : Parts → Json → Except ResponsesStreamError (Parts × String) :=
  applyDone "text" "Upstream completed output text is not a string." reconcileCompletedOutputText

def refusalDelta : Parts → Json → Except ResponsesStreamError (Parts × String) :=
  applyDelta "Upstream refusal delta is not a string."

def refusalDone : Parts → Json → Except ResponsesStreamError (Parts × String) :=
  applyDone "refusal" "Upstream completed refusal is not a string." reconcileCompletedRefusal

namespace ChatTranslation

/-- New output text. -/
def addText (translation : ChatTranslation) (x : Parts × String) : ChatTranslation :=
  { translation with
    outputText := translation.outputText ++ x.2
    parts := { translation.parts with outputTextParts := x.1 } }

/-- New refusal text. -/
def addRefusal (translation : ChatTranslation) (x : Parts × String) : ChatTranslation :=
  { translation with
    refusal := translation.refusal ++ x.2
    parts := { translation.parts with refusalParts := x.1 } }

def addContent (translation : ChatTranslation) (x : ContentParts × ReconciledChatContent) :
    ChatTranslation :=
  { translation with
    outputText := translation.outputText ++ x.2.outputText
    refusal := translation.refusal ++ x.2.refusal
    parts := x.1 }

def withCalls (translation : ChatTranslation) (calls : ChatFunctionCallAccumulator) :
    ChatTranslation :=
  { translation with functionCalls := calls }

end ChatTranslation

/-! ### Chunks -/

/-- A call in the delta of a chunk. -/
structure ChatToolCall where
  index : ℕ
  id : Option String
  type : Option String
  name : Option String
  arguments : Option String
deriving DecidableEq

def chatToolCallDelta (call : ChatFunctionCall) (includeIdentity : Bool)
    (argumentsDelta : Option String) : ChatToolCall where
  index := call.index
  id := if includeIdentity = true then some call.callId else none
  type := if includeIdentity = true then some "function" else none
  name := if includeIdentity = true then some call.name else none
  arguments := argumentsDelta

structure ChunkDelta where
  role : Option String
  content : Option String
  refusal : Option String
  toolCall : Option ChatToolCall
deriving DecidableEq

inductive Chunk
  | choice (id : String) (created : ℚ) (model : String) (delta : ChunkDelta)
    (finishReason : Option String)
  | usage (id : String) (created : ℚ) (model : String) (usage : ChatUsage)
  | error (message type code : String)
  | done
deriving DecidableEq

def emptyUpstreamCompletionError : Chunk :=
  .error "Upstream response completed with no translated semantic output." "server_error"
    "empty_upstream_completion"

inductive QueuedDelta
  | content (content : String)
  | refusal (refusal : String)
  | tool (call : ChatFunctionCall) (includeIdentity : Bool) (argumentsDelta : String)
deriving DecidableEq

structure ChatRequest where
  model : String
  includeUsage : Bool

/-- The variables of `streamChatCompletions`, with the chunks that were enqueued. -/
structure ChatStream where
  pending : Option ResponsesStreamEvent
  id : String
  created : ℚ
  sentRole : Bool
  closed : Bool
  terminalSettled : Bool
  observedCompletedUsage : Option (Option UsageTokens)
  translation : ChatTranslation
  queuedDeltas : List QueuedDelta
  lifecycle : MeteredTransportLifecycle
  chunks : List Chunk

/-- How a handler ends. -/
inductive Outcome
  | next
  | returns

/-- The result of a handler that waits for nothing. -/
abbrev Handled := Except ResponsesStreamError (ChatStream × Outcome)

namespace ChatStream

/-- The stream before its first pull. -/
def initial (first : ResponsesStreamEvent) (id : String) (created : ℚ)
    (lifecycle : MeteredTransportLifecycle) : ChatStream where
  pending := some first
  id := id
  created := created
  sentRole := false
  closed := false
  terminalSettled := false
  observedCompletedUsage := none
  translation := .initial
  queuedDeltas := []
  lifecycle := lifecycle
  chunks := []

variable (request : ChatRequest)

/-! ### Emitting -/

def role (s : ChatStream) : Option String := if s.sentRole = true then none else some "assistant"

/-- A chunk with a delta, which has the role if it is the first. -/
def emitDelta (s : ChatStream) (delta : ChunkDelta) : ChatStream :=
  { s with
    sentRole := true
    chunks := s.chunks ++ [.choice s.id s.created request.model { delta with role := s.role } none]
      }

def emitContent (s : ChatStream) (content : String) : ChatStream :=
  s.emitDelta request ⟨none, some content, none, none⟩

def emitRefusal (s : ChatStream) (refusal : String) : ChatStream :=
  s.emitDelta request ⟨none, none, some refusal, none⟩

def emitToolCall (s : ChatStream) (call : ChatFunctionCall) (includeIdentity : Bool)
    (argumentsDelta : String) : ChatStream :=
  s.emitDelta request
    ⟨none, none, none, some (chatToolCallDelta call includeIdentity (some argumentsDelta))⟩

def emitQueued (s : ChatStream) : QueuedDelta → ChatStream
  | .content content => s.emitContent request content
  | .refusal refusal => s.emitRefusal request refusal
  | .tool call includeIdentity argumentsDelta =>
    s.emitToolCall request call includeIdentity argumentsDelta

def emitNextQueuedDelta (s : ChatStream) : ChatStream × Bool :=
  match s.queuedDeltas with
  | [] => (s, false)
  | queued :: rest => (emitQueued request { s with queuedDeltas := rest } queued, true)

def contentDeltas (content : ReconciledChatContent) : List QueuedDelta :=
  (if content.outputText = "" then [] else [.content content.outputText]) ++
    if content.refusal = "" then [] else [.refusal content.refusal]

/-- The queued deltas of reconciled calls, of which those from an index on are new. -/
def callDeltas (beforeCount : ℕ) (reconciled : List ChatFunctionCallAccumulator.CallChange) :
    List QueuedDelta :=
  reconciled.filterMap fun result =>
    if beforeCount ≤ result.call.index ∨ result.suffix ≠ "" then
      some (.tool result.call (decide (beforeCount ≤ result.call.index)) result.suffix)
    else none

def queueFinalOutput (s : ChatStream) (event : Json) (output : Option Json) :
    Except ResponsesStreamError ChatStream :=
  (reconcileChatResponseOutputContent s.translation.parts (addressOf event) output).bind
    fun completed =>
      (s.translation.functionCalls.reconcileOutput event output).map fun reconciled =>
        { s with
          translation := (s.translation.addContent completed).withCalls reconciled.1
          queuedDeltas := s.queuedDeltas ++ contentDeltas completed.2 ++
            callDeltas s.translation.functionCalls.entries.length reconciled.2 }

/-! ### Handlers -/

def applyOutputTextDelta (s : ChatStream) (event : Json) : Handled :=
  (outputTextDelta s.translation.parts.outputTextParts event).map fun x =>
    (emitContent request { s with translation := s.translation.addText x } x.2, .returns)

def applyOutputTextDone (s : ChatStream) (event : Json) : Handled :=
  (outputTextDone s.translation.parts.outputTextParts event).map fun x =>
    if x.2 = "" then ({ s with translation := s.translation.addText x }, .next)
    else (emitContent request { s with translation := s.translation.addText x } x.2, .returns)

def applyRefusalDelta (s : ChatStream) (event : Json) : Handled :=
  (refusalDelta s.translation.parts.refusalParts event).map fun x =>
    (emitRefusal request { s with translation := s.translation.addRefusal x } x.2, .returns)

def applyRefusalDone (s : ChatStream) (event : Json) : Handled :=
  (refusalDone s.translation.parts.refusalParts event).map fun x =>
    if x.2 = "" then ({ s with translation := s.translation.addRefusal x }, .next)
    else (emitRefusal request { s with translation := s.translation.addRefusal x } x.2, .returns)

/-- `applyContentPartDone`: output text, or else a refusal; what is not emitted is not kept. -/
def applyContentPartDone (s : ChatStream) (event : Json) : Handled :=
  (reconcileChatContentPart s.translation.parts (addressOf event) (event.get "part")).map fun x =>
    if x.2.outputText ≠ "" then
      (emitContent request
        { s with translation := s.translation.addContent (x.1, ⟨x.2.outputText, ""⟩) }
        x.2.outputText, .returns)
    else if x.2.refusal ≠ "" then
      (emitRefusal request
        { s with translation := s.translation.addContent (x.1, ⟨"", x.2.refusal⟩) }
        x.2.refusal, .returns)
    else ({ s with translation := s.translation.addContent (x.1, .empty) }, .next)

/-- `handleTextEvent`; nothing for an event that it does not handle. -/
def handleTextEvent (s : ChatStream) (event : ResponsesStreamEvent) : Option Handled :=
  if event.type = "response.output_text.delta" then some (s.applyOutputTextDelta request
    event.value)
  else if event.type = "response.output_text.done" then
    some (s.applyOutputTextDone request event.value)
  else if event.type = "response.refusal.delta" then some (s.applyRefusalDelta request event.value)
  else if event.type = "response.refusal.done" then some (s.applyRefusalDone request event.value)
  else if event.type = "response.content_part.done" then
    some (s.applyContentPartDone request event.value)
  else none

def handleOutputItemAdded (s : ChatStream) (event : Json) : Handled :=
  (s.translation.functionCalls.add event (event.get "item")).map fun x =>
    match x.2 with
    | none => ({ s with translation := s.translation.withCalls x.1 }, .next)
    | some added =>
      if added.includeIdentity = true ∨ added.change.suffix ≠ "" then
        (emitToolCall request { s with translation := s.translation.withCalls x.1 }
          added.change.call added.includeIdentity added.change.suffix, .returns)
      else ({ s with translation := s.translation.withCalls x.1 }, .next)

/-- `wasKnown` of `handleOutputItemDone` -/
def wasKnown (s : ChatStream) (event : Json) : Bool :=
  isObject (event.get "item") && s.translation.functionCalls.has event (event.get "item")

/-- `handleOutputItemDone`, for an item that is not a function call. -/
def handleContentItemDone (s : ChatStream) (event : Json) : Handled :=
  (reconcileChatOutputItemContent s.translation.parts (addressOf event) (event.get "item")).map
    fun completed =>
      let x := emitNextQueuedDelta request
        { s with
          translation := s.translation.addContent completed
          queuedDeltas := s.queuedDeltas ++ contentDeltas completed.2 }
      (x.1, if x.2 = true then .returns else .next)

def handleOutputItemDone (s : ChatStream) (event : Json) : Handled :=
  (s.translation.functionCalls.reconcileItem event (event.get "item")).bind fun x =>
    match x.2 with
    | some reconciled =>
      if s.wasKnown event = false ∨ reconciled.suffix ≠ "" then
        .ok
          (emitToolCall request { s with translation := s.translation.withCalls x.1 }
            reconciled.call (!s.wasKnown event) reconciled.suffix, .returns)
      else .ok ({ s with translation := s.translation.withCalls x.1 }, .next)
    | none =>
      handleContentItemDone request { s with translation := s.translation.withCalls x.1 } event

/-- The handler of `response.function_call_arguments.delta`. -/
def handleArgumentsDelta (s : ChatStream) (event : Json) : Handled :=
  (s.translation.functionCalls.delta event).map fun x =>
    (emitToolCall request { s with translation := s.translation.withCalls x.1 } x.2.call false
      x.2.suffix, .returns)

/-- The handler of `response.function_call_arguments.done`. -/
def handleArgumentsDone (s : ChatStream) (event : Json) : Handled :=
  (s.translation.functionCalls.done event).map fun x =>
    if x.2.suffix ≠ "" then
      (emitToolCall request { s with translation := s.translation.withCalls x.1 } x.2.call false
        x.2.suffix, .returns)
    else ({ s with translation := s.translation.withCalls x.1 }, .next)

/-- `handleToolEvent`; nothing for an event that it does not handle. -/
def handleToolEvent (s : ChatStream) (event : ResponsesStreamEvent) : Option Handled :=
  if event.type = "response.output_item.added" then
    some (s.handleOutputItemAdded request event.value)
  else if event.type = "response.function_call_arguments.delta" then
    some (s.handleArgumentsDelta request event.value)
  else if event.type = "response.function_call_arguments.done" then
    some (s.handleArgumentsDone request event.value)
  else if event.type = "response.output_item.done" then
    some (s.handleOutputItemDone request event.value)
  else none

/-- The event is handled again after its queued deltas, of which the first is emitted. -/
def deferEvent (s : ChatStream) (event : ResponsesStreamEvent) : ChatStream :=
  (emitNextQueuedDelta request { s with pending := some event }).1

def handleFinalOutputEvent (s : ChatStream) (event : ResponsesStreamEvent) : Handled :=
  (s.queueFinalOutput event.value (finalOutput event.value)).map fun s =>
    if s.queuedDeltas = [] then (s, .next) else (s.deferEvent request event, .returns)

/-! ### Terminal events -/

/-- What an event leads to: the loop goes on, the pull returns, it waits for the recorder after a
completed event, or it fails.  What a handler that fails has already changed is not kept. -/
inductive Turn
  | next (s : ChatStream)
  | returns (s : ChatStream)
  | recording (s : ChatStream) (event : ResponsesStreamEvent) (usageTokens : Option UsageTokens)
  | fails (s : ChatStream) (failure : StreamFailure)

/-- The turn of a handler that waits for nothing. -/
def turnOf (s : ChatStream) (handled : Handled) : Turn :=
  match handled with
  | .error error => .fails s (.protocol error)
  | .ok (s, .next) => .next s
  | .ok (s, .returns) => .returns s

/-- The chunks at the end of a completed stream. -/
def finishChunks (s : ChatStream) (usageTokens : Option UsageTokens) : List Chunk :=
  [.choice s.id s.created request.model ⟨s.role, none, none, none⟩
    (some (if s.translation.functionCalls.hasCalls = true then "tool_calls" else "stop"))] ++
  (if request.includeUsage = true then
    ((toChatUsage usageTokens).map (Chunk.usage s.id s.created request.model)).toList
  else []) ++
  [.done]

/-- `handleCompletedEvent`, after the outcome was recorded. -/
def deliverCompleted (s : ChatStream) (event : ResponsesStreamEvent)
    (usageTokens : Option UsageTokens) : ChatStream :=
  if s.queuedDeltas = [] then
    { s with chunks := s.chunks ++ s.finishChunks request usageTokens, closed := true }
  else s.deferEvent request event

/-- `handleCompletedEvent`, where the outcome is recorded: `recordEmptyUpstreamCompletion`, or
`recordSuccessfulChatCompletion`, which the pull waits for. -/
def settleCompleted (s : ChatStream) (event : ResponsesStreamEvent)
    (usageTokens : Option UsageTokens) : Turn :=
  if s.terminalSettled = true then .returns (s.deliverCompleted request event usageTokens)
  else if translatedChatOutputObserved s.translation = false then
    .returns
      { s with
        terminalSettled := true
        lifecycle := s.lifecycle.terminal "response.failed" usageTokens
        chunks := s.chunks ++ [emptyUpstreamCompletionError]
        closed := true }
  else
    .recording
      { s with
        terminalSettled := true
        lifecycle := s.lifecycle.terminal "response.completed" usageTokens }
      event usageTokens

def usageOf (event : Json) : Option UsageTokens :=
  if isObject (event.get "response") = true then
    extractUsageTokens (itemGet (event.get "response") "usage")
  else none

def handleCompletedEvent (s : ChatStream) (event : ResponsesStreamEvent) : Turn :=
  if isObject (event.value.get "response") = false then
    .fails s (.protocol ⟨"Upstream response.completed event is missing its response object.",
      .malformedEvent⟩)
  else
    let s := { s with observedCompletedUsage := some (usageOf event.value) }
    let queued := (s.queueFinalOutput event.value
      (itemGet (event.value.get "response") "output")).bind
      fun s => s.translation.functionCalls.assertFinalized.map fun _ => s
    match queued with
    | .error error => .fails s (.protocol error)
    | .ok s => s.settleCompleted request event (usageOf event.value)

def handleTerminalEvent (s : ChatStream) (event : ResponsesStreamEvent) : ChatStream :=
  { s with
    terminalSettled := true
    lifecycle := s.lifecycle.terminal event.type (usageOf event.value)
    chunks := s.chunks ++
      [.error ("Upstream terminated with " ++ (event.type ++ ".")) "server_error"
        "upstream_stream_error"]
    closed := true }

/-- The identity of the response in a `response.created` event. -/
def applyCreated (s : ChatStream) (response : Json) : ChatStream :=
  { s with
    id := ((Json.string? (response.get "id")).filter fun id => decide (id ≠ "")).getD s.id
    created := ((Json.number? (response.get "created_at")).filter fun at_ => decide (at_ ≠ 0)).getD
      s.created }

/-- `handleStreamEvent`, for an event that does not create the response. -/
def handleUpstreamEvent (s : ChatStream) (event : ResponsesStreamEvent) : Turn :=
  match (s.handleTextEvent request event).or (s.handleToolEvent request event) with
  | some handled => s.turnOf handled
  | none =>
    if event.type = "response.output" then s.turnOf (s.handleFinalOutputEvent request event)
    else if event.type = "response.completed" then s.handleCompletedEvent request event
    else if event.terminal = true then .returns (s.handleTerminalEvent event)
    else .next s

def createdResponse (event : ResponsesStreamEvent) : Option Json :=
  if event.type = "response.created" then (event.value.get "response").filter Json.isRecord
  else none

def handleStreamEvent (s : ChatStream) (event : ResponsesStreamEvent) : Turn :=
  match createdResponse event with
  | some response => .next (s.applyCreated response)
  | none => s.handleUpstreamEvent request event

/-! ### Pulls -/

/-- The settlement of a failure in `settleStreamFailure`, when the iterator has returned. -/
def settleFailedStream (s : ChatStream) (failure : StreamFailure) (signals : Signals) :
    ChatStream :=
  if s.terminalSettled = true then s
  else
    match s.observedCompletedUsage with
    | some usage =>
      { s with
        terminalSettled := true
        lifecycle := s.lifecycle.terminal "response.failed" usage }
    | none =>
      { s with
        lifecycle :=
          if classifyStreamFailure failure signals = .cancelled then s.lifecycle.cancelled
          else s.lifecycle.ambiguous }

def streamErrorChunk : Chunk :=
  .error "The upstream stream ended unexpectedly." "server_error" "upstream_stream_error"

/-- `settleStreamFailure`, when the iterator has returned, of a stream that is read. -/
def settleStreamFailure (s : ChatStream) (failure : StreamFailure) (signals : Signals) :
    ChatStream :=
  let s := s.settleFailedStream failure signals
  { s with
    chunks := if signals.downstreamAborted = true then s.chunks else s.chunks ++ [streamErrorChunk]
    closed := true }

/-- The failure of an upstream that ends. -/
def prematureEof : StreamFailure :=
  .protocol ⟨"Upstream Responses stream ended before a terminal event.", .prematureEof⟩

/-- The loop of `pumpStream`, over the events of the upstream, which then ends or throws.  Nothing
else happens while the pull waits. -/
def pumpLoop (thrown : Option StreamFailure) : ChatStream → List ResponsesStreamEvent →
    ChatStream × List ResponsesStreamEvent
  | s, [] => (s.settleStreamFailure (thrown.getD prematureEof) .quiet, [])
  | s, event :: events =>
    match s.handleStreamEvent request event with
    | .next s => pumpLoop thrown s events
    | .returns s => (s, events)
    | .recording s event usageTokens => (s.deliverCompleted request event usageTokens, events)
    | .fails s failure => (s.settleStreamFailure failure .quiet, events)

def pull (thrown : Option StreamFailure) (s : ChatStream) (events : List ResponsesStreamEvent) :
    ChatStream × List ResponsesStreamEvent :=
  if s.closed = true then (s, events)
  else if (s.emitNextQueuedDelta request).2 = true then ((s.emitNextQueuedDelta request).1, events)
  else
    match s.pending with
    | some event => pumpLoop request thrown { s with pending := none } (event :: events)
    | none => pumpLoop request thrown s events

def pulls (thrown : Option StreamFailure) :
    ℕ → ChatStream → List ResponsesStreamEvent → ChatStream × List ResponsesStreamEvent
  | 0, s, events => (s, events)
  | n + 1, s, events => pulls thrown n (s.pull request thrown events).1
    (s.pull request thrown events).2

end ChatStream

end UbqGateway.Chat
