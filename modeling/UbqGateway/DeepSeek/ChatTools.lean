import UbqGateway.Library.Record
import UbqGateway.Library.Utf16
import UbqGateway.Responses.ResponsesStream

/-!
# Tools of a chat-only provider

`toChatTools` and the history items of calls of `src/deepseek/chat-projection.ts`, `originalTool` of
`src/deepseek/responses.ts`, and the items of calls of `src/deepseek/responses-payload.ts`.  The
tools of a request are advertised under names that are distinct and short; a call of an advertised
name goes back to the client under the name that the client gave.
-/

namespace UbqGateway.DeepSeek

open Responses

/-- `failure`, or a loop that does not end. -/
inductive ProjectionError
  | failure (param message : String)
  | endless

structure OriginalToolName where
  name : Utf16
  space : Option Utf16
deriving DecidableEq

/-- The tools by the names under which they are advertised. -/
abbrev ToolNames := Record Utf16 OriginalToolName

def originalTool (name : Utf16) (toolNames : ToolNames) : OriginalToolName :=
  (toolNames.lookup name).getD ⟨name, none⟩

/-! ### Names -/

def chatFunctionNameLimit : ℕ := 128

def suffixed (name : Utf16) (suffix : ℕ) : Utf16 :=
  name.take (chatFunctionNameLimit - (Utf16.underscore :: Utf16.numeral suffix).length) ++
    Utf16.underscore :: Utf16.numeral suffix

/-- How far the counter of a loop counts, which is a double. -/
def counterLimit : ℕ := 2 ^ 53

/-- `uniqueChatName`.  Of the first candidates, of which there are more than used names, one is not
used; the loop does not end if its counter does not get that far. -/
def uniqueChatName (used : List Utf16) (name : Utf16) : Option Utf16 :=
  if name.take chatFunctionNameLimit ∉ used then some (name.take chatFunctionNameLimit)
  else
    (firstUnused (suffixed name) used 2 (min (used.length + 1) (counterLimit - 1))).map
      (suffixed name)

/-! ### Tools -/

structure ChatTool where
  name : Utf16
  description : Option String
  parameters : Option Json
  strict : Option Bool

structure ToolCollector where
  tools : List ChatTool
  toolNames : ToolNames
  customNames : List Utf16
  used : List Utf16

def customToolParameters : Json :=
  .obj [("type", .str "object"),
    ("properties", .obj [("input",
      .obj [("type", .str "string"), ("description", .str "Freeform input for the tool.")])]),
    ("required", .arr [.str "input"]), ("additionalProperties", .bool false)]

/-- A string property that is not empty. -/
def nonEmptyText (value : Option Json) : Option Utf16 :=
  ((Json.string? value).filter fun text => decide (text ≠ "")).map Utf16.ofString

def boolean? : Option Json → Option Bool
  | some (.bool b) => some b
  | _ => none

namespace ToolCollector

/-- Before the first tool. -/
def empty : ToolCollector := ⟨[], .empty, [], []⟩

/-- A tool is added under a name that is not used. -/
def add (collector : ToolCollector) (tool : ChatTool) (original : Option OriginalToolName)
    (custom : Bool) : ToolCollector where
  tools := collector.tools ++ [tool]
  toolNames := original.elim collector.toolNames (collector.toolNames.insert tool.name)
  customNames := if custom = true then collector.customNames ++
    [tool.name] else collector.customNames
  used := collector.used ++ [tool.name]

def collectCustom (collector : ToolCollector) (tool : Json) :
    Except ProjectionError ToolCollector :=
  match nonEmptyText (tool.get "name") with
  | none => .error (.failure "tools.name" "custom tools require a name")
  | some name =>
    match uniqueChatName collector.used name with
    | none => .error .endless
    | some chatName =>
      .ok (collector.add ⟨chatName, Json.string? (tool.get "description"),
        some customToolParameters, none⟩
        (if chatName ≠ name then some ⟨name, none⟩ else none) true)

/-- The name that a function is advertised under, if that is not used. -/
def preferredName (collector : ToolCollector) (space : Option Utf16) (name : Utf16) : Utf16 :=
  match space with
  | none => name
  | some space => if name ∈ collector.used then space ++ Utf16.underscore :: name else name

def collectFunction (collector : ToolCollector) (fn : Json) (space : Option Utf16) :
    Except ProjectionError ToolCollector :=
  match nonEmptyText (fn.get "name") with
  | none => .error (.failure "tools.name" "function tools require a name")
  | some name =>
    match uniqueChatName collector.used (collector.preferredName space name) with
    | none => .error .endless
    | some chatName =>
      .ok (collector.add
        ⟨chatName, Json.string? (fn.get "description"), fn.get "parameters",
          boolean? (fn.get "strict")⟩
        (if chatName ≠ name ∨ space ≠ none then some ⟨name, space⟩ else none) false)

/-- The loop of `collectNamespace`. -/
def collectNested (space : Option Utf16) :
    ToolCollector → List Json → Except ProjectionError ToolCollector
  | collector, [] => .ok collector
  | collector, nested :: rest =>
    if isObject (some nested) = false then
      .error (.failure "tools.tools" "namespace tools must contain objects")
    else if Json.string? (nested.get "type") ≠ some "function" then collectNested space collector
      rest
    else (collector.collectFunction nested space).bind fun collector =>
      collectNested space collector rest

def collectNamespace (collector : ToolCollector) (tool : Json) :
    Except ProjectionError ToolCollector :=
  match Json.items? (tool.get "tools") with
  | none => .error (.failure "tools.tools" "namespace tools must nest a tools array")
  | some tools =>
    collectNested ((Json.string? (tool.get "name")).map Utf16.ofString) collector tools

def collectTool (collector : ToolCollector) (tool : Json) : Except ProjectionError ToolCollector :=
  if isObject (some tool) = false then .error (.failure "tools" "tools must contain objects")
  else if Json.string? (tool.get "type") = some "namespace" then collector.collectNamespace tool
  else if Json.string? (tool.get "type") = some "custom" then collector.collectCustom tool
  else if isObject (tool.get "function") = true then
    collector.collectFunction ((tool.get "function").getD .null) none
  else if Json.string? (tool.get "type") = some "function" then collector.collectFunction tool none
  else .ok collector

/-- The loop of `toChatTools`. -/
def collectTools : ToolCollector → List Json → Except ProjectionError ToolCollector
  | collector, [] => .ok collector
  | collector, tool :: rest =>
    (collector.collectTool tool).bind fun collector => collectTools collector rest

end ToolCollector

def toChatTools (value : Json) : Except ProjectionError ToolCollector :=
  match value with
  | .arr tools => ToolCollector.empty.collectTools tools
  | _ => .error (.failure "tools" "tools must be an array")

/-! ### Calls -/

structure ChatCall where
  id : Utf16
  name : Utf16
  arguments : Utf16
  hasId : id ≠ []

/-- An item of type `function_call` or `custom_tool_call`, with what it holds of strings: its
arguments or its input. -/
structure ToolCallItem where
  custom : Bool
  id : Option Utf16
  callId : Option Utf16
  name : Option Utf16
  space : Option Utf16
  text : Option Utf16

def functionCallItem (id callId name arguments : Utf16) (space : Option Utf16) : ToolCallItem where
  custom := false
  id := some id
  callId := some callId
  name := some name
  space := space.filter fun space => decide (space ≠ [])
  text := some arguments

def customToolCallItem (id callId name input : Utf16) : ToolCallItem where
  custom := true
  id := some id
  callId := some callId
  name := some name
  space := none
  text := some input

/-- `freeformInputFromArguments`, with `JSON.parse`. -/
def freeformInputFromArguments (parse : Utf16 → Option Json) (arguments : Utf16) : Utf16 :=
  match parse arguments with
  | some (.str text) => Utf16.ofString text
  | some (.obj fields) =>
    (Json.string? (Json.get (.obj fields) "input")).elim arguments Utf16.ofString
  | _ => arguments

/-- The item of a call in `outputItemsForChoice`; its id only differs in its front part. -/
def callItem (parse : Utf16 → Option Json) (tools : ToolCollector) (id : Utf16) (call : ChatCall) :
    ToolCallItem :=
  if call.name ∈ tools.customNames then
    customToolCallItem (Utf16.ofString "ctc_" ++ id) call.id
      (originalTool call.name tools.toolNames).name
        (freeformInputFromArguments parse call.arguments)
  else
    functionCallItem (Utf16.ofString "fc_" ++ id) call.id
      (originalTool call.name tools.toolNames).name
      call.arguments (originalTool call.name tools.toolNames).space

/-- A tool call of an assistant message. -/
structure ChatToolCall where
  id : Utf16
  name : Utf16
  arguments : Utf16
deriving DecidableEq

/-- A property of an item that is there and not empty. -/
def required (value : Option Utf16) : Option Utf16 := value.filter fun text => decide (text ≠ [])

/-- `chatToolCallItem` and `chatCustomToolCallItem`, of an item of the next request.  `bounded` is
`boundedToolArguments`, and `stringify` is `JSON.stringify` of an object with the input. -/
def chatToolCallItem (bounded : Utf16 → Utf16 → Except ProjectionError Utf16) (stringify : Utf16 →
    Utf16)
    (item : ToolCallItem) : Except ProjectionError ChatToolCall :=
  match required (item.callId.or item.id), required item.name with
  | some callId, some name =>
    (bounded callId
      (if item.custom = true then stringify (item.text.getD [])
      else item.text.getD (Utf16.ofString "\x7b\x7d"))).map fun arguments =>
        ⟨callId, name, arguments⟩
  | _, _ =>
    .error (.failure "input"
      (if item.custom = true then "custom_tool_call items require call_id and name"
      else "function_call items require call_id and name"))

end UbqGateway.DeepSeek
