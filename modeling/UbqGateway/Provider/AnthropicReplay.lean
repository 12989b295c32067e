import UbqGateway.Library.Indexed
import UbqGateway.Library.Utf16
import UbqGateway.Responses.ResponsesStream

/-!
# Receipts for native assistant turns

The store of `src/provider/anthropic-replay.ts`.  A receipt keeps the native blocks of a turn behind
the public items that were sent for it; a later request gets the blocks back if it brings all these
items, in their order and as they were.
-/

namespace UbqGateway.Provider

open Responses

structure ClaudeToolName where
  name : String
  space : Option String

def record? (value : Option Json) : Option Json := value.filter fun value => isObject (some value)

def fieldsOf : Json → List (String × Json)
  | .obj fields => fields
  | _ => []

def absent (value : Option Json) : Bool := decide (value = none) || Json.isNull value

/-- Whether a property may be there only as a text. -/
def absentOrText (value : Option Json) : Bool := absent value || (Json.string? value).isSome

/-- The text of a property, unless it is empty. -/
def someText (value : Option Json) : Option String := (Json.string? value).filter fun text =>
    decide (text ≠ "")

def maxItems : ℕ := 256

/-! ### Canonical values -/

structure AnthropicReplayContext where
  scope : String
  provider : String
  model : String
deriving DecidableEq

/-- A key of the index, whose text is `JSON.stringify([context, id])`. -/
structure ReplayKey where
  context : AnthropicReplayContext
  id : Option String
deriving DecidableEq

/-- `transport` of a receipt. -/
inductive ReplayTransport
  | messages
  | chat
deriving DecidableEq

/-- What the store relies on in the language: sums of clock values and durations, `localeCompare`
(whether one text is not after another), `JSON.parse`, and how many bytes the text of a receipt
has. -/
structure ReplayRuntime (τ : Type) where
  plus : τ → ℕ → τ
  notAfter : String → String → Bool
  parse : String → Option Json
  byteLength : List ReplayKey → List Json → Json → ReplayTransport → ℕ

/-- `ReplayPublication`, with the context. -/
structure ReplayPublication where
  context : AnthropicReplayContext
  output : List Json
  nativeBlocks : List Json

/-- `ChatReplayPublication`, with the context. -/
structure ChatReplayPublication where
  context : AnthropicReplayContext
  output : List Json
  assistant : Json
  toolNames : Record String ClaudeToolName
  customToolNames : List String

mutual

/-- `canonical`: the value that the canonical text is the text of, whose fields are sorted. -/
def canonical (notAfter : String → String → Bool) (depth : ℕ) : Json → Option Json
  | .null => if 64 < depth then none else some .null
  | .bool b => if 64 < depth then none else some (.bool b)
  | .num q => if 64 < depth then none else some (.num q)
  | .str text => if 64 < depth then none else some (.str text)
  | .arr items => if 64 < depth then none else (canonicalItems notAfter (depth + 1) items).map .arr
  | .obj fields =>
    if 64 < depth then none
    else
      (canonicalFields notAfter (depth + 1) fields).map fun fields =>
        .obj (fields.insertionSort fun left right => notAfter left.1 right.1 = true)

/-- `canonical` of items. -/
def canonicalItems (notAfter : String → String → Bool) (depth : ℕ) : List Json → Option (List Json)
  | [] => some []
  | item :: items =>
    (canonical notAfter depth item).bind fun item => (canonicalItems notAfter depth items).map
      (item :: ·)

/-- `canonical` of the values of fields. -/
def canonicalFields (notAfter : String → String → Bool) (depth : ℕ) :
    List (String × Json) → Option (List (String × Json))
  | [] => some []
  | (key, value) :: fields =>
    (canonical notAfter depth value).bind fun value =>
      (canonicalFields notAfter depth fields).map ((key, value) :: ·)

end

/-! ### Ids -/

/-- The kinds that the ids of items begin with. -/
def idKinds : List String := ["rs_", "fc_", "msg_", "ctc_"]

/-- `[A-Za-z0-9_-]` -/
def isIdChar (c : Char) : Bool := c.isAlphanum || decide (c = '_') || decide (c = '-')

def isItemId (text : String) : Bool :=
  idKinds.any fun kind => (JsString.after? kind text).any fun rest =>
    rest.toList.all isIdChar && decide (1 ≤ rest.toList.length ∧ rest.toList.length ≤ 240)

/-- `itemId` -/
def itemIdOf (item : Json) : Option String := (Json.string? (item.get "id")).filter isItemId

/-- Whether a text, backwards, ends with an underscore and a number. -/
def endsNumbered (backwards : List Char) : Bool :=
  !(backwards.takeWhile Char.isDigit).isEmpty &&
    match backwards.dropWhile Char.isDigit with
    | '_' :: front => !front.isEmpty && front.all isIdChar
    | _ => false

def nativeReplayId (id : Option String) : Bool :=
  id.any fun text => idKinds.any fun kind =>
    (JsString.after? (kind ++ "resp_") text).any fun rest =>
    endsNumbered rest.toList.reverse

/-! ### Fingerprints -/

/-- A part of a summary, without what is incidental. -/
def summaryPart (part : Json) : Option Json :=
  if isObject (some part) = true ∧ Json.string? (part.get "type") = some "summary_text" then
    (Json.string? (part.get "text")).map fun text =>
      .obj [("type", .str "summary_text"), ("text", .str text)]
  else none

def publicContent (part : Json) : Option Json :=
  if isObject (some part) = false then none
  else if Json.string? (part.get "type") = some "output_text" ∧
    (Json.string? (part.get "text")).isSome = true then
    (Json.string? (part.get "text")).map fun text =>
      .obj [("type", .str "output_text"), ("text", .str text)]
  else if Json.string? (part.get "type") = some "refusal" then
    (Json.string? (part.get "refusal")).map fun text =>
      .obj [("type", .str "refusal"), ("refusal", .str text)]
  else none

def typedText (part : Json) : Option Json :=
  (part.get "type").bind fun type => (part.get "text").map fun text =>
    .obj [("type", type), ("text", text)]

namespace ReplayRuntime

variable (t : ReplayRuntime τ)

/-- `canonical` of a whole value. -/
def canonicalOf (value : Json) : Option Json := canonical t.notAfter 0 value

def reasoningFingerprint (item : Json) (id : String) : Option Json :=
  if absent (item.get "encrypted_content") = false ∨
      absent (item.get "content") = false ∧ item.get "content" ≠ some (.arr []) then none
  else
    (Json.items? (item.get "summary")).bind fun parts => (parts.mapM summaryPart).bind fun parts =>
      t.canonicalOf (.obj [("id", .str id), ("type", .str "reasoning"), ("summary", .arr parts)])

def messageFingerprint (item : Json) (id : String) : Option Json :=
  if Json.string? (item.get "role") ≠ some "assistant" then none
  else
    (Json.items? (item.get "content")).bind fun parts =>
      (parts.mapM publicContent).bind fun parts =>
      t.canonicalOf (.obj [("id", .str id), ("type", .str "message"), ("role", .str "assistant"),
        ("content", .arr parts)])

/-- `base` of `toolFingerprint`. -/
def toolBase (item : Json) (id type callId name : String) : List (String × Json) :=
  [("id", .str id), ("type", .str type), ("call_id", .str callId), ("name", .str name),
    ("namespace", Json.ofOption .str (Json.string? (item.get "namespace")))]

def toolFingerprint (item : Json) (id type : String) : Option Json :=
  (someText (item.get "call_id")).bind fun callId => (someText (item.get "name")).bind fun name =>
    if absentOrText (item.get "namespace") = false ∨
      absent (item.get "encrypted_function_args") = false then none
    else if type = "custom_tool_call" then
      (Json.string? (item.get "input")).bind fun input =>
        t.canonicalOf (.obj (toolBase item id type callId name ++ [("input", .str input)]))
    else
      (Json.string? (item.get "arguments")).bind fun text =>
        (record? (t.parse text)).bind fun args =>
        t.canonicalOf (.obj (toolBase item id type callId name ++ [("arguments", args)]))

def fingerprint (item : Json) : Option Json :=
  if isObject (some item) = false then none
  else
    (itemIdOf item).bind fun id =>
      match Json.string? (item.get "type") with
      | some "reasoning" => t.reasoningFingerprint item id
      | some "message" => t.messageFingerprint item id
      | some "function_call" => t.toolFingerprint item id "function_call"
      | some "custom_tool_call" => t.toolFingerprint item id "custom_tool_call"
      | _ => none

/-! ### Native blocks and public items -/

def textMatchesOutput (block : Json) (item : Option Json) : Bool :=
  (Json.string? (block.get "text")).any fun text => item.any fun item =>
    decide (Json.string? (item.get "type") = some "message") &&
      (Json.items? (item.get "content")).any fun parts =>
        decide (((parts.mapM typedText).bind fun parts => t.canonicalOf (.arr parts)) =
            t.canonicalOf (.arr [.obj [("type", .str "output_text"), ("text", .str text)]]))

/-- `toolMatchesOutput`, of an item whose arguments are a text. -/
def toolMatchesOutput (block : Json) (item : Option Json) : Bool :=
  (record? (block.get "input")).any fun input => item.any fun item =>
    decide (Json.string? (item.get "type") = some "function_call") &&
      Json.strictEq (block.get "id") (item.get "call_id") && Json.strictEq (block.get "name")
        (item.get "name") &&
        ((Json.string? (item.get "arguments")).bind t.parse).any fun args =>
          decide (t.canonicalOf input = t.canonicalOf args)

def summaryIs (item : Json) (text : String) : Bool :=
  decide ((item.get "summary").bind t.canonicalOf =
    t.canonicalOf (.arr [.obj [("type", .str "summary_text"), ("text", .str text)]]))

def thinkingBlockAdvance (block : Json) (item : Option Json) : Option ℕ :=
  (Json.string? (block.get "thinking")).bind fun thinking =>
    (someText (block.get "signature")).bind fun _ =>
    match item with
    | none => some 0
    | some item =>
      if Json.string? (item.get "type") ≠ some "reasoning" then some 0
      else if t.summaryIs item thinking = true then some 1
      else none

def nativeBlockAdvance (block : Json) (item : Option Json) : Option ℕ :=
  if isObject (some block) = false then none
  else
    match Json.string? (block.get "type") with
    | some "redacted_thinking" => (someText (block.get "data")).map fun _ => 0
    | some "thinking" => t.thinkingBlockAdvance block item
    | some "text" => if t.textMatchesOutput block item = true then some 1 else none
    | some "tool_use" => if t.toolMatchesOutput block item = true then some 1 else none
    | _ => none

/-- The item after the ones that the blocks match, from an item on. -/
def nativeAdvance (output : List Json) : ℕ → List Json → Option ℕ
  | next, [] => some next
  | next, block :: native =>
    (t.nativeBlockAdvance block output[next]?).bind fun advance =>
      nativeAdvance output (next + advance) native

def nativeMatchesOutput (native output : List Json) : Bool :=
  decide (t.nativeAdvance output 0 native = some output.length)

/-! ### Assistant messages of chats -/

def chatReadableReasoning (assistant : Json) (detailText : String) : Option String :=
  if absentOrText (assistant.get "reasoning_content") = false ∨
    absentOrText (assistant.get "reasoning") = false then
    none
  else
    some (((someText (assistant.get "reasoning_content")).or
      (someText (assistant.get "reasoning"))).getD detailText)

def reasoningDetail (detail : Json) : Option String :=
  if isObject (some detail) = true ∧ Json.string? (detail.get "type") = some "reasoning.text" ∧
      (someText (detail.get "signature")).isSome = true ∧
      (absent (detail.get "index") = true ∨
        (Json.safeNonNegative? (detail.get "index")).isSome = true) then
    Json.string? (detail.get "text")
  else none

def chatReasoning (assistant : Json) : Option String :=
  if absent (assistant.get "reasoning_details") = true then chatReadableReasoning assistant ""
  else
    ((Json.items? (assistant.get "reasoning_details")).filter fun details =>
        decide (details.length ≤ maxItems)).bind fun details =>
      (details.mapM reasoningDetail).bind fun texts =>
        chatReadableReasoning assistant (JsString.join "" texts)

/-- The fields that `expectedChatTool` gives every call. -/
def expectedTool (callId : String) (original : ClaudeToolName) : List (String × Json) :=
  [("call_id", .str callId), ("name", .str original.name)]

/-- `expectedChatTool`: the fields of the item of a call. -/
def expectedChatTool (publication : ChatReplayPublication) (call : Json) :
    Option (List (String × Json)) :=
  if isObject (some call) = false ∨ Json.string? (call.get "type") ≠ some "function" then none
  else
    (someText (call.get "id")).bind fun callId =>
      (record? (call.get "function")).bind fun function =>
      (someText (function.get "name")).bind fun name =>
        (Json.string? (function.get "arguments")).bind fun text =>
        if publication.customToolNames.contains name = false then
          some (expectedTool callId ((publication.toolNames.lookup name).getD ⟨name, none⟩) ++
            [("namespace", Json.ofOption .str ((publication.toolNames.lookup name).getD ⟨name,
              none⟩).space),
              ("type", .str "function_call"), ("arguments", .str text)])
        else
          (record? (t.parse text)).bind fun args =>
            if (fieldsOf args).length = 1 then
              (Json.string? (args.get "input")).map fun input =>
                expectedTool callId ((publication.toolNames.lookup name).getD ⟨name, none⟩) ++
                  [("type", .str "custom_tool_call"), ("input", .str input)]
            else none

def chatContent (assistant : Json) : Option (List Json) :=
  if absentOrText (assistant.get "content") = false ∨
    absentOrText (assistant.get "refusal") = false then none
  else
    some (((someText (assistant.get "content")).elim [] fun text =>
        [.obj [("type", .str "output_text"), ("text", .str text)]]) ++
      (someText (assistant.get "refusal")).elim [] fun text =>
        [.obj [("type", .str "refusal"), ("refusal", .str text)]])

/-- The item after the reasoning of an assistant message. -/
def afterReasoning (output : List Json) (reasoning : String) : Option ℕ :=
  match output with
  | [] => some 0
  | item :: _ =>
    if Json.string? (item.get "type") ≠ some "reasoning" then some 0
    else if reasoning ≠ "" ∧ t.summaryIs item reasoning = true then some 1
    else none

/-- The item after the content of an assistant message. -/
def afterContent (output content : List Json) (next : ℕ) : Option ℕ :=
  if content = [] then some next
  else
    output[next]?.bind fun item =>
      if Json.string? (item.get "type") = some "message" then
        (Json.items? (item.get "content")).bind fun parts =>
          if ((parts.mapM publicContent).bind fun parts => t.canonicalOf (.arr parts)) =
              t.canonicalOf (.arr content) then some (next + 1)
          else none
      else none

/-- The item after the calls of an assistant message, from an item on. -/
def afterCalls (publication : ChatReplayPublication) : ℕ → List Json → Option ℕ
  | next, [] => some next
  | next, call :: calls =>
    (t.expectedChatTool publication call).bind fun expected =>
      publication.output[next]?.bind fun item =>
      if t.fingerprint (.obj (expected ++ (item.get "id").elim [] fun id => [("id", id)])) =
        t.fingerprint item then
        afterCalls publication (next + 1) calls
      else none

def chatMatchesOutput (publication : ChatReplayPublication) : Bool :=
  if isObject (some publication.assistant) = false ∨
      Json.string? (publication.assistant.get "role") ≠ some "assistant" then false
  else
    ((chatReasoning publication.assistant).bind fun reasoning =>
      (chatContent publication.assistant).bind fun content =>
        (t.afterReasoning publication.output reasoning).bind fun next =>
          t.afterContent publication.output content next).any fun next =>
      if absent (publication.assistant.get "tool_calls") = true then decide
        (next = publication.output.length)
      else
        ((Json.items? (publication.assistant.get "tool_calls")).filter fun calls =>
          decide (calls.length ≤ maxItems)).any fun calls =>
            decide (t.afterCalls publication next calls = some publication.output.length)

end ReplayRuntime

/-! ### The store -/

/-- `Receipt`.  Its `payloadJson` is the text of `payload`. -/
structure Receipt (τ : Type) where
  keys : List ReplayKey
  fingerprints : List Json
  payload : Json
  transport : ReplayTransport
  expiresAt : τ
  bytes : ℕ
deriving DecidableEq

/-- The receipts, their index and their size.  No two receipts are equal, as they have different
keys. -/
abbrev ReplayStore (τ : Type) := Indexed ReplayKey (Receipt τ)

structure ReplayLimits where
  ttlMs : Option ℚ
  maxEntries : Option ℚ
  maxBytes : Option ℚ
  maxEntryBytes : Option ℚ

def boundedLimit (value : Option ℚ) (maximum : ℕ) : ℕ :=
  match Json.safeInteger? (value.map Json.num) with
  | some n => if 0 < n then min n.toNat maximum else maximum
  | none => maximum

namespace ReplayLimits

variable (limits : ReplayLimits)

/-- `ttlMs` of a store. -/
def ttl : ℕ := boundedLimit limits.ttlMs (30 * 60 * 1000)

/-- `maxEntries` of a store. -/
def entries : ℕ := boundedLimit limits.maxEntries 64

/-- `maxBytes` of a store. -/
def bytes : ℕ := boundedLimit limits.maxBytes (8 * 1024 * 1024)

/-- `maxEntryBytes` of a store. -/
def entryBytes : ℕ := boundedLimit limits.maxEntryBytes (1024 * 1024)

end ReplayLimits

/-- How many UTF-16 code units a text has. -/
def jsLength (text : String) : ℕ := (Utf16.ofString text).length

def contextKey (value : AnthropicReplayContext) : Option AnthropicReplayContext :=
  if value.scope = "" ∨ 512 < jsLength value.scope ∨ value.provider = "" ∨
    64 < jsLength value.provider ∨
    value.model = "" ∨ 256 < jsLength value.model then none
  else some value

/-- An entry of a restored input: an item as it was, or what `JSON.parse` makes of the `payloadJson`
of a receipt, which are the `blocks` of a `native_assistant` or the `message` of a
`native_chat_assistant`. -/
inductive ReplayEntry
  | original (item : Json)
  | native (payload : Json)
deriving DecidableEq

/-- `createAnthropicReplayStore`, with clock values `τ`. -/
structure AnthropicReplay (τ : Type) extends ReplayRuntime τ where
  limits : ReplayLimits

namespace AnthropicReplay

variable [LinearOrder τ] (t : AnthropicReplay τ) (s : ReplayStore τ)

def prune (now : τ) : ReplayStore τ :=
  Indexed.prune Receipt.keys Receipt.bytes (fun receipt => decide (receipt.expiresAt ≤ now)) s

/-- Whether a receipt of a size does not fit. -/
def full (bytes : ℕ) (s : ReplayStore τ) : Bool :=
  decide (t.limits.entries ≤ s.entries.length ∨ (t.limits.bytes : ℤ) < s.total + bytes)

/-- The oldest receipts are removed while a receipt of a size does not fit. -/
def evict (bytes : ℕ) : ReplayStore τ × Bool :=
  Indexed.makeRoom Receipt.keys Receipt.bytes (t.full bytes) s.entries s

/-- A receipt is kept, unless its keys are known already. -/
def keep (receipt : Receipt τ) : ReplayStore τ × Bool :=
  if (receipt.keys.any fun key => (s.index.lookup key).isSome) = true then (s, false)
  else if (t.evict s receipt.bytes).2 = true then
    ((t.evict s receipt.bytes).1.add Receipt.keys Receipt.bytes receipt, true)
  else ((t.evict s receipt.bytes).1, false)

/-- The receipt of a publication at a time. -/
def receiptOf (context : AnthropicReplayContext) (output fingerprints : List Json) (payload : Json)
    (transport : ReplayTransport) (now : τ) : Receipt τ where
  keys := output.map fun item => ⟨context, itemIdOf item⟩
  fingerprints := fingerprints
  payload := payload
  transport := transport
  expiresAt := t.plus now t.limits.ttl
  bytes := t.byteLength (output.map fun item => ⟨context, itemIdOf item⟩) fingerprints payload
    transport

/-- `publish`.  The clock gives no value when its value is not finite. -/
def publish (context : AnthropicReplayContext) (output : List Json) (payload : Json)
    (transport : ReplayTransport)
    (now : Option τ) : ReplayStore τ × Bool :=
  match contextKey context, output.mapM t.fingerprint with
  | some context, some fingerprints =>
    if output = [] ∨ maxItems < output.length ∨
        ¬ (output.map fun item => (⟨context, itemIdOf item⟩ : ReplayKey)).Nodup then (s, false)
    else
      match now with
      | none => (s, false)
      | some now =>
        if t.limits.entryBytes < (t.receiptOf context output fingerprints payload transport
          now).bytes ∨
            t.limits.bytes < (t.receiptOf context output fingerprints payload transport
              now).bytes then (s, false)
        else t.keep (prune s now) (t.receiptOf context output fingerprints payload transport now)
  | _, _ => (s, false)

/-- `receiptMatchesInput`, from the position of a receipt on. -/
def receiptMatchesInput (context : AnthropicReplayContext) : List ReplayKey → List Json →
    List Json → Bool
  | key :: keys, fingerprint :: fingerprints, candidate :: input =>
    decide (isObject (some candidate) = true ∧ (⟨context, itemIdOf candidate⟩ : ReplayKey) = key ∧
      t.fingerprint candidate = some fingerprint) && receiptMatchesInput context keys fingerprints
        input
  | [], _, _ => true
  | _, _, _ => false

/-- The loop of `restoreAs`, in which the next `skipped` items belong to the receipt before. -/
def restoreItems (context : AnthropicReplayContext) (transport : ReplayTransport) :
    ℕ → List (Receipt τ) → List Json → Option (List ReplayEntry)
  | _, _, [] => some []
  | skipped + 1, used, _ :: input => restoreItems context transport skipped used input
  | 0, used, item :: input =>
    if isObject (some item) = false then none
    else
      match (itemIdOf item).bind fun id => s.index.lookup ⟨context, some id⟩ with
      | none =>
        if Json.string? (item.get "type") = some "reasoning" ∨
          nativeReplayId (itemIdOf item) = true then none
        else (restoreItems context transport 0 used input).map (.original item :: ·)
      | some receipt =>
        if receipt.transport ≠ transport ∨ receipt.keys.head? ≠ some ⟨context, itemIdOf item⟩ ∨
          receipt ∈ used ∨
            t.receiptMatchesInput context receipt.keys receipt.fingerprints (item :: input) =
              false then none
        else
          (restoreItems context transport (receipt.keys.length - 1) (receipt :: used) input).map
            (.native receipt.payload :: ·)

def restoreAs (input : List Json) (context : AnthropicReplayContext) (transport : ReplayTransport)
    (now : Option τ) : ReplayStore τ × Option (List ReplayEntry) :=
  match contextKey context, now with
  | some context, some now =>
    (prune s now, t.restoreItems (prune s now) context transport 0 [] input)
  | _, _ => (s, none)

def remember (publication : ReplayPublication) (now : Option τ) : ReplayStore τ × Bool :=
  if publication.nativeBlocks = [] ∨ maxItems < publication.nativeBlocks.length then (s, false)
  else
    match t.canonicalOf (.arr publication.nativeBlocks) with
    | none => (s, false)
    | some payload =>
      if (publication.output.any fun item => (t.fingerprint item).isNone) = true ∨
          t.nativeMatchesOutput publication.nativeBlocks publication.output = false then (s, false)
      else t.publish s publication.context publication.output payload .messages now

def rememberChat (publication : ChatReplayPublication) (now : Option τ) : ReplayStore τ × Bool :=
  match t.canonicalOf publication.assistant with
  | none => (s, false)
  | some payload =>
    if (publication.output.any fun item => (t.fingerprint item).isNone) = true ∨
        t.chatMatchesOutput publication = false then (s, false)
    else t.publish s publication.context publication.output payload .chat now

/-! ### Calls -/

/-- A call of the store, with the value of the clock. -/
inductive Call (τ : Type)
  | remember (publication : ReplayPublication) (now : Option τ)
  | rememberChat (publication : ChatReplayPublication) (now : Option τ)
  | restore (input : List Json) (context : AnthropicReplayContext) (now : Option τ)
  | restoreChat (input : List Json) (context : AnthropicReplayContext) (now : Option τ)

/-- What a call returns. -/
inductive Answer
  | remembered (is : Bool)
  | restored (entries : Option (List ReplayEntry))

def call : Call τ → ReplayStore τ → ReplayStore τ × Answer
  | .remember publication now, s =>
    ((t.remember s publication now).1, .remembered (t.remember s publication now).2)
  | .rememberChat publication now, s =>
    ((t.rememberChat s publication now).1, .remembered (t.rememberChat s publication now).2)
  | .restore input context now, s =>
    ((t.restoreAs s input context .messages now).1,
      .restored (t.restoreAs s input context .messages now).2)
  | .restoreChat input context now, s =>
    ((t.restoreAs s input context .chat now).1, .restored (t.restoreAs s input context .chat now).2)

/-- Calls, one after the other, with what they return. -/
def run : List (Call τ) → ReplayStore τ → ReplayStore τ × List (Call τ × Answer)
  | [], s => (s, [])
  | call :: calls, s =>
    ((run calls (t.call call s).1).1, (call, (t.call call s).2) :: (run calls (t.call call s).1).2)

end AnthropicReplay

end UbqGateway.Provider
