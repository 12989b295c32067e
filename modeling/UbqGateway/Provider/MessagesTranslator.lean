import UbqGateway.Provider.AnthropicReplay
import UbqGateway.Responses.OutputEvents

/-!
# Messages streams as Responses streams

`createMessagesTranslator` of `src/provider/anthropic-responses.ts`.  Native content blocks become
output items; redacted thinking, and thinking that is not summarized, stays private.  An event that
does not fit the state is an error, after which the translator is not used any more.
-/

namespace UbqGateway.Provider

open Responses

/-- What is published for later replays. -/
structure CompletedTurn where
  scope : String
  provider : String
  model : String
  output : List (OutputItem String)
  nativeBlocks : List Json

def malformed (message : String) : ResponsesStreamError := ⟨message, .malformedEvent⟩

def count (value : Option Json) : Option ℤ := Json.safeNonNegative? value

/-- The fields of an object that is spread over another one. -/
def spread (fields change : List (String × Json)) : List (String × Json) :=
  change.foldl (fun fields field => Record.assocSet field.1 field.2 fields) fields

def setField (value : Json) (key : String) (child : Json) : Json :=
  .obj (Record.assocSet key child (fieldsOf value))

/-- The ASCII letters and digits of a text. -/
def alphanumerics (text : String) : List Char :=
  text.toList.filter fun c => decide (c.isAlphanum = true)

/-! ### Usage -/

def nativeReasoningDetails (value : Json) (output : Option ℤ) : Option Json :=
  (record? (value.get "output_tokens_details")).bind fun details =>
    if details.get "thinking_tokens" = none then none
    else
      some (.obj [("reasoning_tokens", Json.ofOption Json.int
        ((count (details.get "thinking_tokens")).filter fun thinking =>
          output.all fun output => decide (thinking ≤ output)))])

/-- A counter that was reported but is no count. -/
def invalidCount (value : Json) (key : String) :
    Bool := (value.get key).isSome && (count (value.get key)).isNone

def safeCount (n : ℤ) : Option ℤ := count (some (.int n))

/-- `gross` of `toAnthropicResponsesUsage` -/
def grossTokens (value : Json) : Option ℤ :=
  if invalidCount value "cache_read_input_tokens" = true ∨
    invalidCount value "cache_creation_input_tokens" = true then none
  else
    (count (value.get "input_tokens")).bind fun net =>
      safeCount (net + (count (value.get "cache_read_input_tokens")).getD 0 +
        (count (value.get "cache_creation_input_tokens")).getD 0)

/-- A counter that was reported, under its public name. -/
def reportedCount (value : Json) (key name : String) : List (String × Json) :=
  if (value.get key).isSome = true then [(name, Json.ofOption Json.int (count (value.get key)))]
    else []

/-- `details` of `toAnthropicResponsesUsage` -/
def cacheDetails (value : Json) : List (String × Json) :=
  reportedCount value "cache_read_input_tokens" "cached_tokens" ++
    reportedCount value "cache_creation_input_tokens" "cache_write_tokens"

def toAnthropicResponsesUsage (value : Option Json) : Json :=
  (record? value).elim .null fun value =>
    .obj (("input_tokens", Json.ofOption Json.int (grossTokens value)) ::
      ((if cacheDetails value = [] then [] else
        [("input_tokens_details", .obj (cacheDetails value))]) ++
      (("output_tokens", Json.ofOption Json.int (count (value.get "output_tokens"))) ::
      (((nativeReasoningDetails value (count (value.get "output_tokens"))).elim []
        fun details => [("output_tokens_details", details)]) ++
      (("total_tokens", Json.ofOption Json.int
        ((grossTokens value).bind fun gross =>
          (count (value.get "output_tokens")).bind fun output => safeCount (gross + output))) ::
      ((value.get "buyer_cost_micro").elim [] fun cost => [("buyer_cost_micro", cost)]))))))

/-! ### Blocks -/

/-- `kind` of a block. -/
inductive BlockKind
  | text
  | thinking
  | toolUse
  | redactedThinking
deriving DecidableEq

def BlockKind.ofType : Option String → Option BlockKind
  | some "text" => some .text
  | some "thinking" => some .thinking
  | some "tool_use" => some .toolUse
  | some "redacted_thinking" => some .redactedThinking
  | _ => none

structure ContentBlock where
  nativeIndex : ℕ
  outputIndex : ℕ
  kind : BlockKind
  id : String
  text : String
  callId : String
  name : String
  args : String
  input : Json
  argumentDelta : Bool
  suppressed : Bool
  closed : Bool
  native : Json

def stringField (value : Json) (key : String) : Except ResponsesStreamError String :=
  match Json.string? (value.get key) with
  | some text => .ok text
  | none => .error (malformed ("Anthropic Messages " ++ key ++ " must be a string."))

def blockIndex (value : Json) : Except ResponsesStreamError ℕ :=
  match count (value.get "index") with
  | some index => .ok index.toNat
  | none => .error (malformed
    "Anthropic Messages content block index must be a nonnegative integer.")

def objectField (value : Json) (key : String) : Except ResponsesStreamError Json :=
  match record? (value.get key) with
  | some child => .ok child
  | none => .error (malformed ("Anthropic Messages event has no object " ++ key ++ "."))

/-- `itemPrefix` -/
def itemPrefixOf : BlockKind → String
  | .text => "msg"
  | .thinking => "rs"
  | _ => "fc"

/-- `stopStatus`: `completed`, `incomplete` or `failed`. -/
def stopStatus (reason : Option Json) : String :=
  match Json.string? reason with
  | some "end_turn" => "completed"
  | some "tool_use" => "completed"
  | some "stop_sequence" => "completed"
  | some "max_tokens" => "incomplete"
  | _ => "failed"

def nativeErrorCode (error : Json) : String :=
  ((Json.string? (error.get "code")).or (Json.string? (error.get "type"))).getD
    "anthropic_upstream_error"

def initialBlockText (kind : BlockKind) (content : Json) : Except ResponsesStreamError String :=
  match kind with
  | .text => stringField content "text"
  | .thinking => stringField content "thinking"
  | _ => .ok ""

/-- `AnthropicResponsesOptions`, with random ids, the texts of values and `JSON`. -/
structure MessagesOptions where
  model : String
  requestId : Option String
  reasoningSummary : Option String
  reasoningReplayScope : Option String
  provider : Option String
  toolNames : Record String ClaudeToolName
  randomId : String
  textOf : Option Json → String
  stringify : Json → String
  parse : String → Option Json

def responseIdFor (options : MessagesOptions) (id : String) : String :=
  "resp_" ++ (if (alphanumerics id).take 40 = [] then options.randomId else String.ofList
    ((alphanumerics id).take 40))

/-- `suppressed` of a new block. -/
def isSuppressed (options : MessagesOptions) (kind : BlockKind) : Bool :=
  decide (kind = .redactedThinking ∨ kind = .thinking ∧ options.reasoningSummary = some "none")

/-- A block of a kind, before its tool call. -/
def blankBlock (options : MessagesOptions) (nativeIndex outputIndex : ℕ) (responseId : String)
    (kind : BlockKind) (content : Json) : ContentBlock where
  nativeIndex := nativeIndex
  outputIndex := outputIndex
  kind := kind
  id := itemPrefixOf kind ++ "_" ++ responseId ++ "_" ++ toString nativeIndex
  text := ""
  callId := ""
  name := ""
  args := ""
  input := .obj []
  argumentDelta := false
  suppressed := isSuppressed options kind
  closed := false
  native := content

def newContentBlock (options : MessagesOptions) (nativeIndex outputIndex : ℕ) (responseId : String)
    (content : Json) : Except ResponsesStreamError ContentBlock :=
  match BlockKind.ofType (Json.string? (content.get "type")) with
  | none => .error (malformed "Anthropic Messages emitted an unsupported content block.")
  | some .toolUse =>
    (stringField content "id").bind fun callId =>
      (stringField content "name").bind fun name =>
        match record? (content.get "input") with
        | some input =>
          if callId = "" ∨ name = "" then
            .error (malformed "Anthropic Messages tool_use must have an id, name and object input.")
          else
            .ok { blankBlock options nativeIndex outputIndex responseId .toolUse content with
              callId := callId
              name := name
              input := input }
        | none => .error (malformed
          "Anthropic Messages tool_use must have an id, name and object input.")
  | some kind => .ok (blankBlock options nativeIndex outputIndex responseId kind content)

/-- A block as it was sent, with its whole text. -/
def nativeText (block : ContentBlock) : Json :=
  match block.kind with
  | .text => setField block.native "text" (.str block.text)
  | .thinking => setField block.native "thinking" (.str block.text)
  | _ => block.native

def nativeReplayBlock (options : MessagesOptions) (block : ContentBlock) : Option Json :=
  if block.kind ≠ .toolUse ∨ block.argumentDelta = false then some (nativeText block)
  else (record? (options.parse block.args)).map (setField (nativeText block) "input")

/-! ### The translator -/

/-- What differs between the envelopes of a stream. -/
structure MessagesEnvelope where
  id : String
  status : String
  usage : Json
  incompleteReason : Option String
  error : Option (String × String)

/-- An event with its `sequence_number`. -/
abbrev NumberedEvent := ℕ × OutputEvent String MessagesEnvelope

/-- The state of the translator, with what it published for replays. -/
structure MessagesState where
  responseId : String
  blocks : Record ℕ ContentBlock
  output : List (OutputItem String)
  started : Bool
  terminal : Bool
  sequence : ℕ
  stopReason : Option Json
  usage : Option (List (String × Json))
  publication : Option CompletedTurn

abbrev Pushed := MessagesState × List NumberedEvent

def numberFrom {α : Type} : ℕ → List α → List (ℕ × α)
  | _, [] => []
  | n, event :: events => (n, event) :: numberFrom (n + 1) events

namespace MessagesOptions

variable (t : MessagesOptions)

/-- Before the first event. -/
def initial : MessagesState where
  responseId := responseIdFor t (t.requestId.getD t.randomId)
  blocks := .empty
  output := []
  started := false
  terminal := false
  sequence := 0
  stopReason := none
  usage := none
  publication := none

def numbered (s : MessagesState) (events : List (OutputEvent String MessagesEnvelope)) : Pushed :=
  ({ s with sequence := s.sequence + events.length }, numberFrom s.sequence events)

def envelope (s : MessagesState) (status : String) : MessagesEnvelope :=
    ⟨s.responseId, status, .null, none, none⟩

/-- `toAnthropicResponsesUsage` of the usage so far. -/
def usageOf (s : MessagesState) : Json := toAnthropicResponsesUsage (s.usage.map .obj)

/-- The state after `message_start`. -/
def startedState (message : Json) (s : MessagesState) : MessagesState :=
  { s with
    responseId := ((Json.string? (message.get "id")).filter fun id =>
      decide (id ≠ "")).elim s.responseId
      (responseIdFor t)
    started := true
    usage := (record? (message.get "usage")).map fieldsOf
    stopReason := (message.get "stop_reason").or s.stopReason }

def start (message : Json) (s : MessagesState) : Except ResponsesStreamError Pushed :=
  if s.started = true ∨ s.terminal = true then
    .error (malformed "Anthropic Messages emitted more than one message_start.")
  else if Json.string? (message.get "type") ≠ some "message" ∨
      Json.string? (message.get "role") ≠ some "assistant" then
    .error (malformed "Anthropic Messages returned an invalid assistant message.")
  else
    .ok (numbered (t.startedState message s)
      [.created (envelope (t.startedState message s) "in_progress"),
        .inProgress { envelope (t.startedState message s) "in_progress" with
          usage := usageOf (t.startedState message s) }])

def originalName (name : String) : ClaudeToolName := (t.toolNames.lookup name).getD ⟨name, none⟩

def itemFor (block : ContentBlock) (status : ItemStatus) : OutputItem String :=
  match block.kind with
  | .text => .message block.id status [some ⟨.outputText, block.text⟩]
  | .thinking => .reasoning block.id status [⟨.summaryText, block.text⟩]
  | _ =>
    .call false block.id status block.callId (t.originalName block.name).name
      (t.originalName block.name).space block.args

def announcedItem (block : ContentBlock) : OutputItem String :=
  match block.kind with
  | .text => .message block.id .inProgress []
  | .thinking => .reasoning block.id .inProgress []
  | _ => t.itemFor block .inProgress

def announcement (block : ContentBlock) : List (OutputEvent String MessagesEnvelope) :=
  .itemAdded block.outputIndex (t.announcedItem block) ::
    match block.kind with
    | .text => [.partAdded block.id block.outputIndex 0 ⟨.outputText, ""⟩]
    | .thinking => [.partAdded block.id block.outputIndex 0 ⟨.summaryText, ""⟩]
    | _ => []

def setBlock (block : ContentBlock) (s : MessagesState) : MessagesState :=
  { s with blocks := s.blocks.insert block.nativeIndex block }

def growText (block : ContentBlock) (text : String) : ContentBlock :=
    { block with text := block.text ++ text }

def textEvent (block : ContentBlock) (text : String) : OutputEvent String MessagesEnvelope :=
  .textDelta (if block.kind = .text then .outputText else .summaryText) block.id block.outputIndex 0
    text

def deltaText (block : ContentBlock) (text : String) (s : MessagesState) : Pushed :=
  numbered (setBlock (growText block text) s) [textEvent block text]

/-- `signature_delta` -/
def appendSignature (block : ContentBlock) (signature : String) : ContentBlock :=
  { block with
    native := setField block.native "signature"
      (.str ((Json.string? (block.native.get "signature")).getD "" ++ signature)) }

/-- `input_json_delta` -/
def growArguments (block : ContentBlock) (text : String) : ContentBlock :=
  { block with argumentDelta := true, args := block.args ++ text }

/-- `delta` of a block. -/
def deltaBlock (block : ContentBlock) (value : Json) (s : MessagesState) :
    Except ResponsesStreamError Pushed :=
  if block.kind = .thinking ∧ Json.string? (value.get "type") = some "signature_delta" then
    (stringField value "signature").map fun signature =>
      (setBlock (appendSignature block signature) s, [])
  else if block.kind = .redactedThinking then
    .error (malformed "Anthropic Messages emitted a delta for redacted thinking.")
  else if block.kind = .text ∧ Json.string? (value.get "type") = some "text_delta" then
    (stringField value "text").map fun text => deltaText block text s
  else if block.kind = .thinking ∧ Json.string? (value.get "type") = some "thinking_delta" then
    (stringField value "thinking").map fun text =>
      if block.suppressed = true then (setBlock (growText block text) s, [])
        else deltaText block text s
  else if block.kind = .toolUse ∧ Json.string? (value.get "type") = some "input_json_delta" then
    (stringField value "partial_json").map fun text =>
      numbered (setBlock (growArguments block text) s)
        [.argumentsDelta block.id block.outputIndex text]
  else .error (malformed "Anthropic Messages content delta does not match its block type.")

def delta (nativeIndex : ℕ) (value : Json) (s : MessagesState) :
    Except ResponsesStreamError Pushed :=
  match s.blocks.lookup nativeIndex with
  | none => .error (malformed "Anthropic Messages delta references no open content block.")
  | some block =>
    if block.closed = true ∨ s.terminal = true then
      .error (malformed "Anthropic Messages delta references no open content block.")
    else deltaBlock block value s

/-- A block that is shown is opened, with its first text. -/
def openShown (block : ContentBlock) (initial : String) (s : MessagesState) : Pushed :=
  let announced := numbered
    (setBlock block { s with output := s.output ++ [t.announcedItem block] })
    (t.announcement block)
  if initial = "" then announced
  else ((deltaText block initial announced.1).1, announced.2 ++
    (deltaText block initial announced.1).2)

def openBlock (block : ContentBlock) (content : Json) (s : MessagesState) :
    Except ResponsesStreamError Pushed :=
  (initialBlockText block.kind content).map fun initial =>
    if block.suppressed = true then (setBlock { block with text := initial } s, [])
    else t.openShown block initial s

/-- `open` -/
def openAt (nativeIndex : ℕ) (content : Json) (s : MessagesState) :
    Except ResponsesStreamError Pushed :=
  if s.started = false ∨ s.terminal = true ∨ (s.blocks.lookup nativeIndex).isSome = true ∨
      (s.blocks.values.any fun block => !block.closed) = true then
    .error (malformed "Anthropic Messages content block lifecycle is invalid.")
  else
    (newContentBlock t nativeIndex s.output.length s.responseId content).bind fun block =>
      t.openBlock block content s

/-- A block that is closed, with the arguments of a tool call that came without deltas. -/
def closedBlock (block : ContentBlock) : ContentBlock :=
  { block with
    closed := true
    args := if block.suppressed = false ∧ block.kind = .toolUse ∧ block.argumentDelta = false then
      t.stringify block.input else block.args }

/-- The closing events of the part of a block, or of its arguments. -/
def closingEvents (block : ContentBlock) : List (OutputEvent String MessagesEnvelope) :=
  match block.kind with
  | .text =>
    [.textDone .outputText block.id block.outputIndex 0 block.text,
      .partDone block.id block.outputIndex 0 ⟨.outputText, block.text⟩]
  | .thinking =>
    [.textDone .summaryText block.id block.outputIndex 0 block.text,
      .partDone block.id block.outputIndex 0 ⟨.summaryText, block.text⟩]
  | _ =>
    (if block.argumentDelta = false then
      [.argumentsDelta block.id block.outputIndex (t.closedBlock block).args] else []) ++
      [.argumentsDone block.id block.outputIndex (t.closedBlock block).args]

/-- `close` of a block that is shown. -/
def closeShown (block : ContentBlock) (s : MessagesState) : Pushed :=
  numbered (setBlock (t.closedBlock block)
      { s with output := s.output.set block.outputIndex (t.itemFor (t.closedBlock block) .completed)
        })
    (t.closingEvents block ++
      [.itemDone block.outputIndex (t.itemFor (t.closedBlock block) .completed)])

/-- `close` -/
def closeAt (nativeIndex : ℕ) (s : MessagesState) : Except ResponsesStreamError Pushed :=
  match s.blocks.lookup nativeIndex with
  | none => .error (malformed "Anthropic Messages content_block_stop references no open block.")
  | some block =>
    if block.closed = true ∨ s.terminal = true then
      .error (malformed "Anthropic Messages content_block_stop references no open block.")
    else if block.suppressed = true then .ok (setBlock (t.closedBlock block) s, [])
    else .ok (t.closeShown block s)

/-- `rememberCompletedTurn`: what it publishes. -/
def publicationOf (s : MessagesState) : Option CompletedTurn :=
  (t.reasoningReplayScope.filter fun scope => decide (scope ≠ "")).bind fun scope =>
    (t.provider.filter fun provider => decide (provider ≠ "")).bind fun provider =>
      (s.blocks.values.mapM (nativeReplayBlock t)).map fun nativeBlocks =>
        { scope, provider, model := t.model, output := s.output, nativeBlocks }

/-- The envelope of the terminal event. -/
def finalEnvelope (s : MessagesState) : MessagesEnvelope :=
  { envelope s (stopStatus s.stopReason) with
    usage := usageOf s
    incompleteReason := if stopStatus s.stopReason = "incomplete" then some "max_output_tokens"
      else none
    error := if stopStatus s.stopReason = "failed" then
      some ("anthropic_unrecognized_stop_reason",
        "Anthropic Messages stopped with reason " ++ t.textOf s.stopReason ++ ".") else none }

def finish (s : MessagesState) : Except ResponsesStreamError Pushed :=
  if s.started = false ∨ s.terminal = true ∨
    (s.blocks.values.any fun block => !block.closed) = true then
    .error (malformed "Anthropic Messages ended with an invalid message lifecycle.")
  else
    .ok (numbered
      { s with
        terminal := true
        publication := if stopStatus s.stopReason = "completed" then t.publicationOf s
          else s.publication }
      [.terminal (t.finalEnvelope s) (s.output.map some)])

/-- The handler of `error`. -/
def failWith (event : Json) (s : MessagesState) : Except ResponsesStreamError Pushed :=
  (objectField event "error").bind fun error =>
    (stringField error "message").map fun message =>
      numbered { s with terminal := true } [.error (nativeErrorCode error) message]

/-- The state after a `message_delta`. -/
def changedState (event change : Json) (s : MessagesState) : MessagesState :=
  { s with
    stopReason := (change.get "stop_reason").or s.stopReason
    usage := (record? (event.get "usage")).elim s.usage fun usage =>
      some (spread (s.usage.getD []) (fieldsOf usage)) }

/-- The handler of `message_delta`. -/
def changeMessage (event : Json) (s : MessagesState) : Except ResponsesStreamError Pushed :=
  (objectField event "delta").bind fun change =>
    if (event.get "usage").isSome = true then
      if isObject (event.get "usage") = false then
        .error (malformed "Anthropic Messages message_delta has invalid usage.")
      else
        .ok (numbered (changedState event change s)
          [.inProgress { envelope (changedState event change s) "in_progress" with
            usage := usageOf (changedState event change s) }])
    else .ok (changedState event change s, [])

def handler (event : Json) (s : MessagesState) : Except ResponsesStreamError Pushed :=
  match Json.string? (event.get "type") with
  | some "error" => failWith event s
  | some "message_start" => (objectField event "message").bind fun message => t.start message s
  | some "content_block_start" =>
    (blockIndex event).bind fun index =>
      (objectField event "content_block").bind fun content => t.openAt index content s
  | some "content_block_delta" =>
    (blockIndex event).bind fun index => (objectField event "delta").bind fun value =>
      delta index value s
  | some "content_block_stop" => (blockIndex event).bind fun index => t.closeAt index s
  | some "message_delta" => changeMessage event s
  | some "message_stop" => t.finish s
  | _ => .error (malformed "Anthropic Messages emitted an unsupported event type.")

def push (event : Json) (s : MessagesState) : Except ResponsesStreamError Pushed :=
  if s.terminal = true then .error
    (malformed "Anthropic Messages emitted an event after its terminal.")
  else if Json.string? (event.get "type") = some "ping" then .ok (s, [])
  else if s.started = false ∧ Json.string? (event.get "type") ≠ some "message_start" ∧
      Json.string? (event.get "type") ≠ some "error" then
    .error (malformed "Anthropic Messages emitted content before message_start.")
  else t.handler event s

/-- Events, one after the other. -/
def pushAll : List Json → MessagesState → Except ResponsesStreamError Pushed
  | [], s => .ok (s, [])
  | event :: rest, s =>
    (t.push event s).bind fun pushed =>
      (pushAll rest pushed.1).map fun last => (last.1, pushed.2 ++ last.2)

end MessagesOptions

end UbqGateway.Provider
