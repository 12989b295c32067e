import UbqGateway.Library.Record
import UbqGateway.Responses.ResponsesStream

/-!
# The content of a chat message

`src/chat/stream-translation.ts`, as far as it is about text and refusals: a Responses stream may
give the text of a content part in deltas, and may repeat all of it in several later events.  What
was emitted of a part is kept under keys that are made of whatever an event says about the position
of its part, and of a text that is given in full only what is new is emitted.
-/

namespace UbqGateway.Chat

open Responses

def malformedFunctionCallStream {α : Type} (message : String) : Except ResponsesStreamError α :=
  .error ⟨message, .malformedEvent⟩

/-! ### Completed texts -/

/-- What is new in a completed text, or the failure with a message. -/
def reconcileCompleted (conflict emitted completed : String) : Except ResponsesStreamError String :=
  if completed = "" ∨ completed = emitted ∨ JsString.startsWith emitted completed = true then .ok ""
  else
    match JsString.after? emitted completed with
    | some suffix => .ok suffix
    | none => malformedFunctionCallStream conflict

def reconcileCompletedOutputText : String → String → Except ResponsesStreamError String :=
  reconcileCompleted "Upstream response output text conflicts with prior text deltas."

def reconcileCompletedRefusal : String → String → Except ResponsesStreamError String :=
  reconcileCompleted "Upstream response refusal conflicts with prior refusal deltas."

/-! ### Keys -/

/-- The properties of an event that say which part it is about. -/
structure PartAddress where
  itemId : Option String
  outputIndex : Option Json
  contentIndex : Option Json
deriving DecidableEq

def addressOf (event : Json) : PartAddress where
  itemId := Json.string? (event.get "item_id")
  outputIndex := event.get "output_index"
  contentIndex := event.get "content_index"

/-- `chatOutputTextPartIndexText`; a missing index is zero. -/
def chatOutputTextPartIndexText : Option Json → String
  | some (.num q) => JsString.numberText q
  | some (.str text) => text
  | _ => "0"

namespace PartAddress

/-- `getString(event.item_id)?.trim()`, if it is not empty. -/
def trimmedId (event : PartAddress) : Option String :=
  (event.itemId.map JsString.trim).filter fun id => decide (id ≠ "")

/-- `identified` of `reconcileChatContentPart` -/
def identified (event : PartAddress) : Bool := event.trimmedId.isSome

end PartAddress

def itemKey (id content : String) : String := "item:" ++ (id ++ (":" ++ content))

/-- The key of an output index and a content index. -/
def outputKey (output content : String) : String := "output:" ++ (output ++ (":" ++ content))

def chatOutputTextPartPositionKey (event : PartAddress) : Option String :=
  match event.outputIndex with
  | some (.num _) | some (.str _) =>
    some (outputKey (chatOutputTextPartIndexText event.outputIndex)
      (chatOutputTextPartIndexText event.contentIndex))
  | _ => none

def chatOutputTextPartKey (event : PartAddress) : String :=
  match event.trimmedId with
  | some id => itemKey id (chatOutputTextPartIndexText event.contentIndex)
  | none =>
    outputKey (chatOutputTextPartIndexText event.outputIndex)
      (chatOutputTextPartIndexText event.contentIndex)

def chatOutputTextPartStorageKey (event : PartAddress) : String :=
  (chatOutputTextPartPositionKey event).getD (chatOutputTextPartKey event)

def chatOutputTextPartItemAliasKey (event : PartAddress) : Option String :=
  if chatOutputTextPartPositionKey event = none ∨ event.identified = false then none
  else some (chatOutputTextPartKey event)

/-! ### What was emitted of the parts -/

/-- What was emitted of each part, by its keys. -/
abbrev Parts := Record String String

/-- The text of a part, empty before its first event. -/
def emittedText (parts : Parts) (event : PartAddress) : String :=
  (parts.lookup (chatOutputTextPartStorageKey event)).getD ""

def setChatOutputTextPart (parts : Parts) (event : PartAddress) (value : String) : Parts :=
  match chatOutputTextPartItemAliasKey event with
  | none => parts.insert (chatOutputTextPartStorageKey event) value
  | some key => (parts.insert (chatOutputTextPartStorageKey event) value).insert key value

/-- `matches` of `completedPartRepeatsEmittedContent` -/
def matchesEmitted (completed : String) (emitted : Option String) : Option String :=
  emitted.filter fun emitted =>
    decide (emitted = completed) || JsString.startsWith emitted completed

/-- The entries whose keys start with a text. -/
def entriesWith (front : String) (parts : Parts) : List (String × String) :=
  parts.entries.filter fun entry => JsString.startsWith entry.1 front

/-- The parts that together may be what a completed part repeats. -/
def aggregateParts (parts : Parts) : List (String × String) :=
  if entriesWith "output:" parts = [] then parts.entries else entriesWith "output:" parts

/-- The emitted text that is repeated by all positions together. -/
def matchesAggregate (parts : Parts) (completed : String) : Option String :=
  if (aggregateParts parts).length < 2 then none
  else if JsString.join "" ((aggregateParts parts).map Prod.snd) = completed then some completed
  else none

/-- The emitted text that is repeated by the one part that has an item. -/
def matchesItem (parts : Parts) (completed : String) : Option String :=
  match entriesWith "item:" parts with
  | [entry] => matchesEmitted completed (some entry.2)
  | _ => none

def completedPartRepeatsEmittedContent (parts : Parts) (event : PartAddress) (completed : String) :
    Option String :=
  if completed = "" then none
  else
    ((chatOutputTextPartPositionKey event).bind fun key =>
      matchesEmitted completed (parts.lookup key)).or
      ((matchesItem parts completed).or (matchesAggregate parts completed))

def completedPartRepeatForUnidentified (parts : Parts) (event : PartAddress) (completed : String) :
    Option String :=
  if event.identified = true then none else completedPartRepeatsEmittedContent parts event completed

/-! ### Reconciling -/

/-- A completed text of a part: what is kept of the part, and what is new. -/
def reconcileText (reconcile : String → String → Except ResponsesStreamError String) (parts : Parts)
    (event : PartAddress) (completed : String) : Except ResponsesStreamError (Parts × String) :=
  match completedPartRepeatForUnidentified parts event completed with
  | some repeated => .ok (setChatOutputTextPart parts event repeated, "")
  | none =>
    (reconcile (emittedText parts event) completed).map fun suffix =>
      (setChatOutputTextPart parts event (emittedText parts event ++ suffix), suffix)

/-- The two maps of a translation. -/
structure ContentParts where
  outputTextParts : Parts
  refusalParts : Parts
deriving DecidableEq

structure ReconciledChatContent where
  outputText : String
  refusal : String

namespace ReconciledChatContent

/-- Nothing new. -/
def empty : ReconciledChatContent := ⟨"", ""⟩

/-- What two parts give one after the other. -/
def append (content content' : ReconciledChatContent) : ReconciledChatContent :=
  ⟨content.outputText ++ content'.outputText, content.refusal ++ content'.refusal⟩

end ReconciledChatContent

/-- The result of reconciling something with what was emitted. -/
abbrev Reconciled := Except ResponsesStreamError (ContentParts × ReconciledChatContent)

/-- `reconcileChatContentPart`, of an output text. -/
def reconcileOutputTextPart (parts : ContentParts) (event : PartAddress) (text : Option String) :
    Reconciled :=
  match text with
  | none =>
    malformedFunctionCallStream "Upstream completed content part is missing string output text."
  | some completedText =>
    (reconcileText reconcileCompletedOutputText parts.outputTextParts event completedText).map
      fun x => ({ parts with outputTextParts := x.1 }, ⟨x.2, ""⟩)

/-- `reconcileChatContentPart`, of a refusal. -/
def reconcileRefusalPart (parts : ContentParts) (event : PartAddress) (refusal : Option String) :
    Reconciled :=
  match refusal with
  | none =>
    malformedFunctionCallStream "Upstream completed content part is missing string refusal text."
  | some completedRefusal =>
    (reconcileText reconcileCompletedRefusal parts.refusalParts event completedRefusal).map
      fun x => ({ parts with refusalParts := x.1 }, ⟨"", x.2⟩)

/-- A property of a value that may be missing. -/
def itemGet (item : Option Json) (key : String) : Option Json := item.bind fun item => item.get key

def reconcileChatContentPart (parts : ContentParts) (event : PartAddress) (part : Option Json) :
    Reconciled :=
  if isObject part = false then
    malformedFunctionCallStream "Upstream completed content part is missing its part object."
  else if Json.string? (itemGet part "type") = some "output_text" ∨
      Json.string? (itemGet part "type") = some "text" then
    reconcileOutputTextPart parts event (Json.string? (itemGet part "text"))
  else if Json.string? (itemGet part "type") = some "refusal" then
    reconcileRefusalPart parts event (Json.string? (itemGet part "refusal"))
  else .ok (parts, .empty)

/-- One thing after the other is reconciled, with its index. -/
def reconcileEach (f : ContentParts → ℕ → Json → Reconciled) :
    ContentParts → ReconciledChatContent → ℕ → List Json → Reconciled
  | parts, content, _, [] => .ok (parts, content)
  | parts, content, index, value :: rest =>
    (f parts index value).bind fun x => reconcileEach f x.1 (content.append x.2) (index + 1) rest

def reconcileChatOutputItemContent (parts : ContentParts) (event : PartAddress)
    (item : Option Json) :
    Reconciled :=
  if isObject item = false then .ok (parts, .empty)
  else
    match Json.items? (itemGet item "content") with
    | none => .ok (parts, .empty)
    | some content =>
      reconcileEach
        (fun parts contentIndex part =>
          reconcileChatContentPart parts
            { event with
              itemId := (Json.string? (itemGet item "id")).or event.itemId
              contentIndex := some (Json.num contentIndex) }
            (some part))
        parts .empty 0 content

def reconcileChatResponseOutputContent (parts : ContentParts) (event : PartAddress)
    (output : Option Json) : Reconciled :=
  match Json.items? output with
  | none => .ok (parts, .empty)
  | some items =>
    reconcileEach
      (fun parts outputIndex item =>
        reconcileChatOutputItemContent parts
          { event with outputIndex := some (Json.num outputIndex) } (some item))
      parts .empty 0 items

end UbqGateway.Chat
