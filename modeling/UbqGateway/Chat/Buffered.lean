import UbqGateway.Chat.Stream

/-!
# Buffered chat completions

`completeChatCompletions` of `src/chat/completions.ts`: all events of the upstream are translated
before the completion is answered.
-/

namespace UbqGateway.Chat

open Responses

inductive TerminalType
  | event (type : String)
  | failure (type : StreamFailureType)
deriving DecidableEq

/-- The variables of `completeChatCompletions`. -/
structure ChatCompletion where
  id : String
  created : ℚ
  translation : ChatTranslation
  usage : Option ChatUsage
  terminalType : Option TerminalType
  observedCompletedUsage : Option (Option UsageTokens)
  lifecycle : MeteredTransportLifecycle

/-- How the loop over the events goes on after one. -/
inductive Consumed
  | next
  | stop
  | complete
  | empty

structure CompletedToolCall where
  id : String
  name : String
  arguments : String
deriving DecidableEq

structure CompletedMessage where
  content : Option String
  refusal : Option String
  toolCalls : List CompletedToolCall
deriving DecidableEq

structure CompletedBody where
  id : String
  created : ℚ
  model : String
  message : CompletedMessage
  finishReason : String
  usage : Option ChatUsage
deriving DecidableEq

/-- The response of a buffered request. -/
inductive ChatResponse
  | completion (body : CompletedBody)
  | failure (status : ℕ) (message code : String)

namespace ChatCompletion

/-- The variables before the first event. -/
def initial (id : String) (created : ℚ) (lifecycle : MeteredTransportLifecycle) :
    ChatCompletion where
  id := id
  created := created
  translation := .initial
  usage := none
  terminalType := none
  observedCompletedUsage := none
  lifecycle := lifecycle

def translate (s : ChatCompletion) (translation : ChatTranslation) : ChatCompletion :=
  { s with translation := translation }

/-! ### Handlers -/

def applyTerminalEvent (s : ChatCompletion) (event : ResponsesStreamEvent) : ChatCompletion :=
  { s with
    terminalType := some (.event event.type)
    lifecycle := s.lifecycle.terminal event.type (ChatStream.usageOf event.value) }

/-- `applyCreatedEvent`, of the created response. -/
def applyCreatedEvent (s : ChatCompletion) (response : Json) : ChatCompletion :=
  { s with
    id := ((Json.string? (response.get "id")).filter fun id => decide (id ≠ "")).getD s.id
    created := ((Json.number? (response.get "created_at")).filter fun at_ => decide (at_ ≠ 0)).getD
      s.created }

/-- `applyTextEvent`; nothing for an event that it does not handle. -/
def applyTextEvent (s : ChatCompletion) (event : ResponsesStreamEvent) :
    Option (Except ResponsesStreamError ChatCompletion) :=
  let parts := s.translation.parts
  if event.type = "response.output_text.delta" then
    some <| (outputTextDelta parts.outputTextParts event.value).map fun x =>
      s.translate (s.translation.addText x)
  else if event.type = "response.output_text.done" then
    some <| (outputTextDone parts.outputTextParts event.value).map fun x =>
      s.translate (s.translation.addText x)
  else if event.type = "response.refusal.delta" then
    some <| (refusalDelta parts.refusalParts event.value).map fun x =>
      s.translate (s.translation.addRefusal x)
  else if event.type = "response.refusal.done" then
    some <| (refusalDone parts.refusalParts event.value).map fun x =>
      s.translate (s.translation.addRefusal x)
  else if event.type = "response.content_part.done" then
    some <|
      (reconcileChatContentPart parts (addressOf event.value) (event.value.get "part")).map fun x =>
        s.translate (s.translation.addContent x)
  else none

def applyOutputItemDone (s : ChatCompletion) (event : Json) :
    Except ResponsesStreamError ChatCompletion :=
  (s.translation.functionCalls.reconcileItem event (event.get "item")).bind fun x =>
    match x.2 with
    | some _ => .ok (s.translate (s.translation.withCalls x.1))
    | none =>
      (reconcileChatOutputItemContent s.translation.parts (addressOf event) (event.get "item")).map
        fun completed => s.translate ((s.translation.withCalls x.1).addContent completed)

/-- The content and the calls of a final output. -/
def applyOutput (s : ChatCompletion) (event : Json) (output : Option Json) :
    Except ResponsesStreamError ChatCompletion :=
  (reconcileChatResponseOutputContent s.translation.parts (addressOf event) output).bind
    fun completed =>
      (s.translation.functionCalls.reconcileOutput event output).map fun reconciled =>
        s.translate ((s.translation.addContent completed).withCalls reconciled.1)

def applyResponseOutput (s : ChatCompletion) (event : Json) :
    Except ResponsesStreamError ChatCompletion :=
  s.applyOutput event (finalOutput event)

/-- `applyResponseCompleted`, of an event with a response: with the usage that was observed if it
fails. -/
def applyResponseCompleted (s : ChatCompletion) (event : Json) :
    ChatCompletion × Except ResponsesStreamError Consumed :=
  let usageTokens := ChatStream.usageOf event
  let s := { s with observedCompletedUsage := some usageTokens }
  let applied := (s.applyOutput event (itemGet (event.get "response") "output")).bind
    fun s => s.translation.functionCalls.assertFinalized.map fun _ => s
  match applied with
  | .error error => (s, .error error)
  | .ok s =>
    let s := { s with usage := toChatUsage usageTokens }
    if translatedChatOutputObserved s.translation = false then
      ({ s with lifecycle := s.lifecycle.terminal "response.failed" usageTokens }, .ok .empty)
    else ({ s with lifecycle := s.lifecycle.terminal "response.completed" usageTokens },
      .ok .complete)

/-- A handler that goes on with the next event. -/
def thenNext (s : ChatCompletion) (handled : Except ResponsesStreamError ChatCompletion) :
    ChatCompletion × Except ResponsesStreamError Consumed :=
  match handled with
  | .error error => (s, .error error)
  | .ok s => (s, .ok .next)

/-- `applyOutputEvent`; nothing for an event that it does not handle. -/
def applyOutputEvent (s : ChatCompletion) (event : ResponsesStreamEvent) :
    Option (ChatCompletion × Except ResponsesStreamError Consumed) :=
  let calls := s.translation.functionCalls
  if event.type = "response.output_item.added" then
    some <| s.thenNext <| (calls.add event.value (event.value.get "item")).map fun x =>
      s.translate (s.translation.withCalls x.1)
  else if event.type = "response.function_call_arguments.delta" then
    some <| s.thenNext <| (calls.delta event.value).map fun x =>
      s.translate (s.translation.withCalls x.1)
  else if event.type = "response.function_call_arguments.done" then
    some <| s.thenNext <| (calls.done event.value).map fun x =>
      s.translate (s.translation.withCalls x.1)
  else if event.type = "response.output_item.done" then
    some (s.thenNext (s.applyOutputItemDone event.value))
  else if event.type = "response.output" then
    some (s.thenNext (s.applyResponseOutput event.value))
  else if event.type = "response.completed" ∧ isObject (event.value.get "response") = true then
    some (s.applyResponseCompleted event.value)
  else none

def consumeEvent (s : ChatCompletion) (event : ResponsesStreamEvent) :
    ChatCompletion × Except ResponsesStreamError Consumed :=
  let s :=
    if event.terminal = true ∧ event.type ≠ "response.completed" then s.applyTerminalEvent event
    else s
  match ChatStream.createdResponse event with
  | some response => (s.applyCreatedEvent response, .ok .next)
  | none =>
    match ((s.applyTextEvent event).map s.thenNext).or (s.applyOutputEvent event) with
    | some outcome => outcome
    | none => (s, .ok (if event.terminal = true then .stop else .next))

/-! ### The completion -/

def settleFailure (s : ChatCompletion) (failure : StreamFailure) (signals : Signals) :
    ChatCompletion :=
  match s.observedCompletedUsage with
  | some usage =>
    { s with
      terminalType := some (.failure .error)
      lifecycle := s.lifecycle.terminal "response.failed" usage }
  | none =>
    { s with
      terminalType := some (.failure (classifyStreamFailure failure signals))
      lifecycle :=
        if classifyStreamFailure failure signals = .cancelled then s.lifecycle.cancelled
        else s.lifecycle.ambiguous }

def respondIncomplete (s : ChatCompletion) : ChatResponse :=
  if s.terminalType = some (.failure .cancelled) then
    .failure 499 "Request was cancelled." "request_cancelled"
  else if s.terminalType = some (.failure .deadline) then
    .failure 504 "Upstream request exceeded the gateway deadline." "gateway_timeout"
  else .failure 502 "Upstream stream ended without response.completed." "upstream_stream_error"

/-- `message` of `buildCompletedBody` -/
def buildMessage (translation : ChatTranslation) : CompletedMessage where
  content :=
    if translation.outputText ≠ "" ∨
        (translation.functionCalls.hasCalls = false ∧ translation.refusal = "") then
      some translation.outputText
    else none
  refusal := if translation.refusal ≠ "" then some translation.refusal else none
  toolCalls := translation.functionCalls.values.map fun call =>
    ⟨call.callId, call.name, call.arguments⟩

def buildCompletedBody (request : ChatRequest) (s : ChatCompletion) : CompletedBody where
  id := s.id
  created := s.created
  model := request.model
  message := buildMessage s.translation
  finishReason := if s.translation.functionCalls.hasCalls = true then "tool_calls" else "stop"
  usage := s.usage

/-- The answer to an empty completion. -/
def emptyResponse : ChatResponse :=
  .failure 502 "Upstream response completed with no translated semantic output."
    "empty_upstream_completion"

/-- `completeChatCompletions`, over the events of the upstream, which then ends or throws. -/
def consumeEvents (request : ChatRequest) (thrown : Option StreamFailure) (signals : Signals) :
    ChatCompletion → List ResponsesStreamEvent → ChatResponse
  | s, [] =>
    match thrown with
    | none => s.respondIncomplete
    | some failure => (s.settleFailure failure signals).respondIncomplete
  | s, event :: events =>
    match s.consumeEvent event with
    | (s, .error error) => (s.settleFailure (.protocol error) signals).respondIncomplete
    | (s, .ok .next) => consumeEvents request thrown signals s events
    | (s, .ok .stop) => s.respondIncomplete
    | (_, .ok .empty) => emptyResponse
    | (s, .ok .complete) => .completion (s.buildCompletedBody request)

end ChatCompletion

def completeChatCompletions (request : ChatRequest) (id : String) (created : ℚ)
    (lifecycle : MeteredTransportLifecycle) (first : ResponsesStreamEvent)
    (events : List ResponsesStreamEvent) (thrown : Option StreamFailure) (signals : Signals) :
    ChatResponse :=
  ChatCompletion.consumeEvents request thrown signals (.initial id created lifecycle)
    (first :: events)

end UbqGateway.Chat
