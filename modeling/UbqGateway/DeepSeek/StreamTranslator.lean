import UbqGateway.DeepSeek.ChatTools
import UbqGateway.Responses.OutputEvents

/-!
# Chat streams as Responses streams

`createDeepSeekResponsesStreamTranslator` of `src/deepseek/responses-stream.ts`, with the items, the
usage and the terminal envelope of `src/deepseek/responses-payload.ts`.  Items are opened when the
first delta arrives that needs them, calls are announced when their name is known, and the final
pass closes what is open.
-/

namespace UbqGateway.DeepSeek

open Responses

/-- `DeepSeekFinishDisposition` -/
inductive FinishDisposition
  | completed
  | incomplete (reason : String)
  | failed (code : String)
  | unknown (value : String)

/-- `DeepSeekResponsesTerminalKind` -/
inductive TerminalKind
  | completed
  | incomplete
  | failed
deriving DecidableEq

structure Usage where
  inputTokens : ℚ
  cachedTokens : Option ℚ
  outputTokens : ℚ
  reasoningTokens : Option ℚ
  totalTokens : ℚ
deriving DecidableEq

def number (value : Option Json) : Option ℚ :=
  match value with
  | some (.num q) => some q
  | _ => none

/-- What a provider's `ChatOnlyResponsesProfile` answers about streams. -/
structure Profile where
  label : String
  finishDisposition : Option String → FinishDisposition
  cachedPromptTokens : Json → ℚ → Option ℚ
  reasoningTokens : Json → ℚ → Option ℚ

def toResponsesUsage (profile : Profile) (value : Option Json) : Option Usage :=
  if isObject value = false then none
  else
    match number ((value.getD .null).get "prompt_tokens"),
      number ((value.getD .null).get "completion_tokens") with
    | some inputTokens, some outputTokens =>
      some {
        inputTokens
        cachedTokens := profile.cachedPromptTokens (value.getD .null) inputTokens
        outputTokens
        reasoningTokens := profile.reasoningTokens (value.getD .null) outputTokens
        totalTokens :=
          (number ((value.getD .null).get "total_tokens")).getD (inputTokens + outputTokens) }
    | _, _ => none

/-- What differs between the envelopes of a stream: `status`, `incomplete_details`, `error` and
`usage`. -/
structure ResponsesEnvelope where
  status : String
  incompleteReason : Option String
  error : Option (String × String)
  usage : Option Usage
deriving DecidableEq

def responsesEnvelope (status : String) : ResponsesEnvelope := ⟨status, none, none, none⟩

/-- `deepSeekTerminalEnvelope`.  The type of the terminal event is `response.` with the status. -/
def deepSeekTerminalEnvelope (profile : Profile) (finishReason : Option String) :
    ResponsesEnvelope :=
  match profile.finishDisposition finishReason with
  | .completed => responsesEnvelope "completed"
  | .incomplete reason => { responsesEnvelope "incomplete" with incompleteReason := some reason }
  | .failed code =>
    { responsesEnvelope "failed" with error := some (code, profile.label ++ " stopped generating: "
      ++ code) }
  | .unknown value =>
    { responsesEnvelope "failed" with
      error := some ("unrecognized_finish_reason:" ++ value,
        profile.label ++ " stopped generating: " ++ ("unrecognized_finish_reason:" ++ value)) }

abbrev StreamEvent := OutputEvent Utf16 ResponsesEnvelope

structure StreamToolCall where
  key : ℚ
  id : Utf16
  callId : Utf16
  name : Utf16
  arguments : Utf16
  announced : Bool
  outputIndex : ℤ

structure StreamState where
  started : Bool
  completed : Bool
  text : Utf16
  reasoning : Utf16
  refusal : Utf16
  messageIndex : ℤ
  messageOpen : Bool
  messageDone : Bool
  textPartIndex : ℤ
  refusalPartIndex : ℤ
  reasoningIndex : ℤ
  reasoningOpen : Bool
  reasoningSegment : Utf16
  reasoningPending : Bool
  toolCalls : Record ℚ StreamToolCall
  nextOutputIndex : ℕ
  output : List (Option (OutputItem Utf16))
  usage : Option Usage
  finishReason : Option String

def newStreamState : StreamState where
  started := false
  completed := false
  text := []
  reasoning := []
  refusal := []
  messageIndex := -1
  messageOpen := false
  messageDone := false
  textPartIndex := -1
  refusalPartIndex := -1
  reasoningIndex := -1
  reasoningOpen := false
  reasoningSegment := []
  reasoningPending := false
  toolCalls := .empty
  nextOutputIndex := 0
  output := []
  usage := none
  finishReason := none

/-- What a translator is created with, and the text of a number in a template and `JSON.parse`. -/
structure Translator where
  responseId : Utf16
  toolNames : ToolNames
  customToolNames : List Utf16
  profile : Profile
  numberText : ℚ → Utf16
  parse : Utf16 → Option Json

structure CompletionAnswerBearingOutput where
  text : Utf16
  refusal : Utf16
  toolCallCount : ℕ

def answerBearingOutput (s : StreamState) : CompletionAnswerBearingOutput where
  text := s.text
  refusal := s.refusal
  toolCallCount := (s.toolCalls.values.filter fun call => decide (call.name ≠ [])).length

def isAnswerBearingCompletion (output : CompletionAnswerBearingOutput) : Bool :=
  decide (0 < output.text.length ∨ 0 < output.refusal.length ∨ 0 < output.toolCallCount)

abbrev Emitted := StreamState × List StreamEvent

/-- One function after another. -/
def Emitted.andThen (before : Emitted) (f : StreamState → Emitted) : Emitted :=
  ((f before.1).1, before.2 ++ (f before.1).2)

/-- `output[index] = item` -/
def assignAt {α : Type} (output : List (Option α)) (index : ℤ) (item : α) : List (Option α) :=
  if 0 ≤ index then Slot.assign output index.toNat item else output

namespace Translator

variable (t : Translator)

def messageId : Utf16 := Utf16.ofString "msg_" ++ t.responseId ++ Utf16.ofString "_0"

def reasoningItemId (s : StreamState) : Utf16 :=
  Utf16.ofString "rs_" ++ t.responseId ++ Utf16.underscore :: t.numberText s.reasoningIndex

def closeReasoning (s : StreamState) : Emitted :=
  if s.reasoningOpen = false then (s, [])
  else
    ({ s with
        reasoningOpen := false
        reasoningSegment := []
        output := assignAt s.output s.reasoningIndex
          (.reasoning (t.reasoningItemId s) .completed [⟨.summaryText, s.reasoningSegment⟩]) },
      [.textDone .summaryText (t.reasoningItemId s) s.reasoningIndex 0 s.reasoningSegment,
        .partDone (t.reasoningItemId s) s.reasoningIndex 0 ⟨.summaryText, s.reasoningSegment⟩,
        .itemDone s.reasoningIndex
          (.reasoning (t.reasoningItemId s) .completed [⟨.summaryText, s.reasoningSegment⟩])])

def startEvents (s : StreamState) : Emitted :=
  if s.started = true then (s, [])
  else
    ({ s with started := true },
      [.created (responsesEnvelope "in_progress"), .inProgress (responsesEnvelope "in_progress")])

/-- The message item is announced. -/
def openMessage (s : StreamState) : Emitted :=
  ({ s with
      messageOpen := true
      messageIndex := s.nextOutputIndex
      nextOutputIndex := s.nextOutputIndex + 1 },
    [.itemAdded s.nextOutputIndex (.message t.messageId .inProgress [])])

def ensureMessageItem (s : StreamState) : Emitted :=
  if s.messageOpen = true then (s, []) else (t.closeReasoning s).andThen t.openMessage

def openedReasoning (s : StreamState) : StreamState :=
  { s with
    reasoningOpen := true
    reasoningPending := false
    reasoningIndex := s.nextOutputIndex
    nextOutputIndex := s.nextOutputIndex + 1 }

/-- The announcement of a reasoning item that is open. -/
def announceReasoning (s : StreamState) : Emitted :=
  (s, [.itemAdded s.reasoningIndex (.reasoning (t.reasoningItemId s) .inProgress []),
    .partAdded (t.reasoningItemId s) s.reasoningIndex 0 ⟨.summaryText, []⟩])

def ensureReasoningItem (s : StreamState) : Emitted :=
  if s.reasoningOpen = true then (s, []) else t.announceReasoning (openedReasoning s)

def reasoningDeltaEvent (s : StreamState) (text : Utf16) : StreamEvent :=
  .textDelta .summaryText (t.reasoningItemId s) s.reasoningIndex 0 text

/-- The delta of a reasoning item that is open. -/
def appendReasoning (text : Utf16) (s : StreamState) : Emitted :=
  ({ s with reasoningSegment := s.reasoningSegment ++ text }, [t.reasoningDeltaEvent s text])

/-- A delta that is held back. -/
def holdReasoning (text : Utf16) (s : StreamState) : Emitted :=
  ({ s with reasoningPending := true, reasoningSegment := s.reasoningSegment ++ text }, [])

/-- `applyReasoningDelta`, after the text of the whole stream. -/
def applyReasoning (text : Utf16) (s : StreamState) : Emitted :=
  if s.reasoningOpen = true then t.appendReasoning text s
  else if s.nextOutputIndex = 0 then (t.ensureReasoningItem s).andThen (t.appendReasoning text)
  else holdReasoning text s

def applyReasoningDelta (text : Utf16) (s : StreamState) : Emitted :=
  t.applyReasoning text { s with reasoning := s.reasoning ++ text }

def nextContentIndex (s : StreamState) : ℤ :=
  (if 0 ≤ s.textPartIndex then 1 else 0) + (if 0 ≤ s.refusalPartIndex then 1 else 0)

/-- `addContentPart` of a text. -/
def addTextPart (s : StreamState) : Emitted :=
  ({ s with textPartIndex := nextContentIndex s },
    [.partAdded t.messageId s.messageIndex (nextContentIndex s) ⟨.outputText, []⟩])

/-- `addContentPart` of a refusal. -/
def addRefusalPart (s : StreamState) : Emitted :=
  ({ s with refusalPartIndex := nextContentIndex s },
    [.partAdded t.messageId s.messageIndex (nextContentIndex s) ⟨.refusal, []⟩])

def announceTextPart (s : StreamState) : Emitted :=
  (t.ensureMessageItem s).andThen fun s => if 0 ≤ s.textPartIndex then (s, []) else t.addTextPart s

def isCustomCall (call : StreamToolCall) : Bool := decide (call.name ∈ t.customToolNames)

def announcedCall (s : StreamState) (call : StreamToolCall) : StreamToolCall :=
  { call with
    announced := true
    outputIndex := s.nextOutputIndex
    id := (if t.isCustomCall call = true then Utf16.ofString "ctc" else Utf16.ofString "fc") ++
      Utf16.underscore :: t.responseId ++ Utf16.underscore :: t.numberText call.key }

/-- The announcement of a call, when no reasoning item is open. -/
def openToolCall (call : StreamToolCall) (s : StreamState) : Emitted :=
  ({ s with
      nextOutputIndex := s.nextOutputIndex + 1
      toolCalls := s.toolCalls.insert call.key (t.announcedCall s call) },
    [.itemAdded s.nextOutputIndex
      (.call (t.isCustomCall call) (t.announcedCall s call).id .inProgress call.callId
        (originalTool call.name t.toolNames).name
        ((originalTool call.name t.toolNames).space.filter fun space => decide (space ≠ [])) [])])

def announceToolCall (call : StreamToolCall) (s : StreamState) : Emitted :=
  (t.closeReasoning s).andThen (t.openToolCall call)

/-! ### Deltas -/

def text? (value : Option Json) : Option Utf16 := (Json.string? value).map Utf16.ofString

/-- The delta of a text part that is there. -/
def appendText (text : Utf16) (s : StreamState) : Emitted :=
  (s, [.textDelta .outputText t.messageId s.messageIndex s.textPartIndex text])

/-- `applyTextDelta`, after the reasoning delta. -/
def applyContentDelta (text : Utf16) (s : StreamState) : Emitted :=
  (t.announceTextPart { s with text := s.text ++ text }).andThen (t.appendText text)

def applyTextDelta (delta : Json) (s : StreamState) : Emitted :=
  Emitted.andThen
    ((nonEmptyText (delta.get "reasoning_content")).elim (s, []) fun text =>
      t.applyReasoningDelta text s)
    fun s => (nonEmptyText (delta.get "content")).elim (s, []) fun text =>
      t.applyContentDelta text s

/-- The delta of a refusal part that is there. -/
def appendRefusal (text : Utf16) (s : StreamState) : Emitted :=
  (s, [.textDelta .refusal t.messageId s.messageIndex s.refusalPartIndex text])

/-- `applyRefusalDelta`, of a refusal that is not empty. -/
def applyRefusal (text : Utf16) (s : StreamState) : Emitted :=
  ((t.ensureMessageItem { s with refusal := s.refusal ++ text }).andThen fun s =>
    if 0 ≤ s.refusalPartIndex then (s, []) else t.addRefusalPart s).andThen (t.appendRefusal text)

def applyRefusalDelta (delta : Json) (s : StreamState) : Emitted :=
  (nonEmptyText (delta.get "refusal")).elim (s, []) fun text => t.applyRefusal text s

/-- The function of a tool call delta, if it is an object. -/
def functionOf (raw : Json) : Json :=
  if isObject (raw.get "function") = true then (raw.get "function").getD .null else .null

/-- The name that a tool call delta gives. -/
def nameOf (raw : Json) : Option Utf16 := nonEmptyText ((functionOf raw).get "name")

/-- The fragment of the arguments that a tool call delta brings. -/
def fragmentOf (raw : Json) : Utf16 := (text? ((functionOf raw).get "arguments")).getD []

/-- The key of a tool call delta. -/
def keyOf (raw : Json) (position : ℕ) : ℚ := (number (raw.get "index")).getD position

/-- The call of a key, as it is before the delta. -/
def callBefore (s : StreamState) (raw : Json) (position : ℕ) : StreamToolCall :=
  (s.toolCalls.lookup (keyOf raw position)).getD {
    key := keyOf raw position
    id := []
    callId := (text? (raw.get "id")).getD
      (t.responseId ++ Utf16.ofString "_call_" ++ t.numberText (keyOf raw position))
    name := []
    arguments := []
    announced := false
    outputIndex := -1 }

def mergeDelta (call : StreamToolCall) (raw : Json) : StreamToolCall :=
  { call with
    callId := (nonEmptyText (raw.get "id")).getD call.callId
    name := (nameOf raw).getD call.name
    arguments := call.arguments ++ fragmentOf raw }

def mergeToolCallDelta (s : StreamState) (raw : Json) (position : ℕ) : StreamToolCall :=
  mergeDelta (t.callBefore s raw position) raw

/-- Whether a delta announces its call, after it is merged. -/
def announces (s : StreamState) (call : StreamToolCall) : Bool :=
  !call.announced && decide (call.name ≠ []) && !s.reasoningPending

/-- The delta of the arguments of an announced function call. -/
def argumentEvents (call : StreamToolCall) (fragment : Utf16) : List StreamEvent :=
  if call.announced = true ∧ t.isCustomCall call = false ∧ fragment ≠ [] then
    [.argumentsDelta call.id call.outputIndex fragment]
  else []

/-- One tool call delta of `applyToolCallDeltas`, after its call is merged. -/
def applyMerged (call : StreamToolCall) (fragment : Utf16) (s : StreamState) : Emitted :=
  if announces s call = true then
    (t.announceToolCall call s).andThen fun s =>
      (s, t.argumentEvents ((s.toolCalls.lookup call.key).getD call) fragment)
  else (s, t.argumentEvents call fragment)

def withCall (call : StreamToolCall) (s : StreamState) : StreamState :=
  { s with toolCalls := s.toolCalls.insert call.key call }

/-- One tool call delta of `applyToolCallDeltas`. -/
def applyToolCallDelta (raw : Json) (position : ℕ) (s : StreamState) : Emitted :=
  t.applyMerged (t.mergeToolCallDelta s raw position) (fragmentOf raw)
    (withCall (t.mergeToolCallDelta s raw position) s)

/-- The loop of `applyToolCallDeltas`. -/
def applyToolCalls : ℕ → List Json → StreamState → Emitted
  | _, [], s => (s, [])
  | position, raw :: rest, s =>
    Emitted.andThen
      (if isObject (some raw) = true then t.applyToolCallDelta raw position s else (s, []))
      (applyToolCalls (position + 1) rest)

def applyToolCallDeltas (delta : Json) (s : StreamState) : Emitted :=
  t.applyToolCalls 0 ((Json.items? (delta.get "tool_calls")).getD []) s

/-! ### The final pass -/

def messageContent (s : StreamState) : List (Option (Responses.Part Utf16)) :=
  let content := if 0 ≤ s.textPartIndex then assignAt [] s.textPartIndex ⟨.outputText, s.text⟩ else
    []
  if 0 ≤ s.refusalPartIndex then assignAt content s.refusalPartIndex ⟨.refusal, s.refusal⟩
    else content

def closePart (s : StreamState) (partIndex : ℤ) (part : Responses.Part Utf16) : List StreamEvent :=
  if 0 ≤ partIndex then
    [.textDone part.kind t.messageId s.messageIndex partIndex part.text,
      .partDone t.messageId s.messageIndex partIndex part]
  else []

def closeMessage (s : StreamState) : Emitted :=
  if s.messageOpen = false ∨ s.messageDone = true then (s, [])
  else
    ({ s with
        messageDone := true
        output := assignAt s.output s.messageIndex
          (.message t.messageId .completed (messageContent s)) },
      t.closePart s s.textPartIndex ⟨.outputText, s.text⟩ ++
        (t.closePart s s.refusalPartIndex ⟨.refusal, s.refusal⟩ ++
          [.itemDone s.messageIndex (.message t.messageId .completed (messageContent s))]))

def flushPendingReasoning (s : StreamState) : Emitted :=
  if s.reasoningOpen = true ∨ s.reasoningPending = false then (s, [])
  else
    ((t.ensureReasoningItem s).andThen fun s =>
      (s, [t.reasoningDeltaEvent s s.reasoningSegment])).andThen
      t.closeReasoning

def customCallItem (status : ItemStatus) (call : StreamToolCall) : OutputItem Utf16 :=
  .call true call.id status call.callId (originalTool call.name t.toolNames).name none
    (freeformInputFromArguments t.parse call.arguments)

def closeCustomCall (status : ItemStatus) (call : StreamToolCall) (s : StreamState) : Emitted :=
  ({ s with output := assignAt s.output call.outputIndex (t.customCallItem status call) },
    (if freeformInputFromArguments t.parse call.arguments ≠ [] then
      [.inputDelta call.id call.outputIndex call.callId
        (freeformInputFromArguments t.parse call.arguments)]
    else []) ++ [.itemDone call.outputIndex (t.customCallItem status call)])

def functionItem (status : ItemStatus) (call : StreamToolCall) : OutputItem Utf16 :=
  .call false call.id status call.callId (originalTool call.name t.toolNames).name
    ((originalTool call.name t.toolNames).space.filter fun space =>
      decide (space ≠ [])) call.arguments

def closeFunctionCall (status : ItemStatus) (call : StreamToolCall) (s : StreamState) : Emitted :=
  ({ s with output := assignAt s.output call.outputIndex (t.functionItem status call) },
    [.argumentsDone call.id call.outputIndex call.arguments,
      .itemDone call.outputIndex (t.functionItem status call)])

def closeAnnounced (status : ItemStatus) (call : StreamToolCall) (s : StreamState) : Emitted :=
  if t.isCustomCall call = true then t.closeCustomCall status call s else t.closeFunctionCall status
    call s

/-- One call of `closeToolCalls`. -/
def closeToolCall (status : ItemStatus) (call : StreamToolCall) (s : StreamState) : Emitted :=
  if call.announced = true then t.closeAnnounced status call s
  else if call.name = [] then (s, [])
  else
    (t.announceToolCall call s).andThen fun s =>
      t.closeAnnounced status ((s.toolCalls.lookup call.key).getD call) s

/-- The loop of `closeToolCalls`. -/
def closeCalls (status : ItemStatus) : List StreamToolCall → StreamState → Emitted
  | [], s => (s, [])
  | call :: rest, s => (t.closeToolCall status call s).andThen (closeCalls status rest)

/-- The calls in the order of their keys. -/
def orderedCalls (s : StreamState) : List StreamToolCall :=
  s.toolCalls.values.mergeSort fun left right => decide (left.key ≤ right.key)

def closeToolCalls (status : ItemStatus) (s : StreamState) : Emitted :=
  t.closeCalls status (orderedCalls s) s

/-! ### The translator -/

/-- `choice.finish_reason` is captured. -/
def captureFinishReason (choice : Json) (s : StreamState) : StreamState :=
  { s with finishReason := (Json.string? (choice.get "finish_reason")).or s.finishReason }

def applyDelta (delta : Json) (s : StreamState) : Emitted :=
  ((t.applyTextDelta delta s).andThen (t.applyRefusalDelta delta)).andThen
    (t.applyToolCallDeltas delta)

def applyChoice (choice : Json) (s : StreamState) : Emitted :=
  if isObject (choice.get "delta") = true then
    t.applyDelta ((choice.get "delta").getD .null) (captureFinishReason choice s)
  else (captureFinishReason choice s, [])

/-- The loop over the choices. -/
def applyChoices : List Json → StreamState → Emitted
  | [], s => (s, [])
  | choice :: rest, s =>
    Emitted.andThen (if isObject (some choice) = true then t.applyChoice choice s else (s, []))
      (applyChoices rest)

def captureUsage (chunk : Json) (s : StreamState) : StreamState :=
  { s with usage := (toResponsesUsage t.profile (chunk.get "usage")).or s.usage }

def push (chunk : Json) (s : StreamState) : Emitted :=
  (startEvents s).andThen fun s =>
    t.applyChoices ((Json.items? (chunk.get "choices")).getD []) (t.captureUsage chunk s)

/-- Chunks, one after the other. -/
def pushAll : List Json → StreamState → Emitted
  | [], s => (s, [])
  | chunk :: rest, s => (t.push chunk s).andThen (pushAll rest)

def terminalEnvelope (s : StreamState) : ResponsesEnvelope :=
  deepSeekTerminalEnvelope t.profile s.finishReason

def toolItemStatus (s : StreamState) : ItemStatus :=
  if (t.terminalEnvelope s).status = "completed" then .completed else .incomplete

def emitTerminal (envelope : ResponsesEnvelope) (s : StreamState) : Emitted :=
  (s, [.terminal { envelope with usage := s.usage } s.output])

def finish (s : StreamState) : Emitted :=
  if s.completed = true then (s, [])
  else
    (((((startEvents { s with completed := true }).andThen t.closeMessage).andThen
      t.flushPendingReasoning).andThen (t.closeToolCalls (t.toolItemStatus s))).andThen
        t.closeReasoning).andThen (emitTerminal (t.terminalEnvelope s))

def terminalKind (s : StreamState) : TerminalKind :=
  match t.profile.finishDisposition s.finishReason with
  | .completed => .completed
  | .incomplete _ => .incomplete
  | _ => .failed

def translate (chunks : List Json) : List StreamEvent :=
  ((t.pushAll chunks newStreamState).andThen t.finish).2

end Translator

end UbqGateway.DeepSeek
