import UbqGateway.Chat.ContentParts

/-!
# The function calls of a chat message

`ChatFunctionCallAccumulator` of `src/chat/stream-translation.ts`.  The calls are kept under their
keys, in the order in which they were created.  An event that does not fit what is known of its call
is an error; after an error the accumulator is not used any more.
-/

namespace UbqGateway.Chat

open Responses

structure ChatFunctionCall where
  key : String
  index : ℕ
  callId : String
  name : String
  arguments : String
  argumentsDone : Bool
deriving DecidableEq

abbrev ChatFunctionCallAccumulator := Record String ChatFunctionCall

/-- `getString(value)?.trim()`, if it is not empty. -/
def trimmedText (value : Option Json) : Option String :=
  ((Json.string? value).map JsString.trim).filter fun text => decide (text ≠ "")

/-- Whether a property is an item of type `function_call`. -/
def isFunctionCall (item : Option Json) : Bool :=
  isObject item &&
    decide (Json.string? (itemGet item "type") = some "function_call")

namespace ChatFunctionCallAccumulator

def hasCalls (calls : ChatFunctionCallAccumulator) : Bool := !calls.entries.isEmpty

def assertFinalized (calls : ChatFunctionCallAccumulator) : Except ResponsesStreamError Unit :=
  if calls.values.all fun call => call.argumentsDone then .ok ()
  else
    malformedFunctionCallStream
      "Upstream function-call stream ended before finalized arguments were received."

/-- The output index of an event, if it is a whole number. -/
def outputIndexKey (event : Json) : Option String :=
  match event.get "output_index" with
  | some (.num q) =>
    if q.den = 1 ∧ 0 ≤ q.num then some ("output:" ++ JsString.numberText q) else none
  | _ => none

/-- `#key` -/
def keyOf (event : Json) (item : Option Json) : Option String :=
  match (Json.string? (event.get "item_id")).or (Json.string? (itemGet item "id")) with
  | some itemId =>
    if JsString.trim itemId = "" then outputIndexKey event else some ("item:" ++ itemId)
  | none => outputIndexKey event

def find (calls : ChatFunctionCallAccumulator) (key : Option String) : Option ChatFunctionCall :=
  key.bind calls.lookup

def has (calls : ChatFunctionCallAccumulator) (event : Json) (item : Option Json) : Bool :=
  (calls.find (keyOf event item)).isSome

/-- A call is changed where it is. -/
def update (calls : ChatFunctionCallAccumulator) (call : ChatFunctionCall) :
    ChatFunctionCallAccumulator :=
  calls.insert call.key call

/-- What an event gives of a call: the call after it, and what is new of its arguments. -/
structure CallChange where
  call : ChatFunctionCall
  suffix : String
deriving DecidableEq

/-- The result of an event. -/
abbrev Changed := Except ResponsesStreamError (ChatFunctionCallAccumulator × CallChange)

/-- `#reconcileArguments`: the suffix that the final arguments add. -/
def reconcileArguments (call : ChatFunctionCall) (finalArguments : String) :
    Except ResponsesStreamError String :=
  if finalArguments = call.arguments then .ok ""
  else
    match JsString.after? call.arguments finalArguments with
    | some suffix => .ok suffix
    | none =>
      malformedFunctionCallStream
        "Upstream function-call arguments conflict with prior argument deltas."

/-- The arguments of a call are replaced by final ones that extend them. -/
def extend (calls : ChatFunctionCallAccumulator) (call : ChatFunctionCall) (finalArguments : String)
    (argumentsDone : Bool) : Changed :=
  (reconcileArguments call finalArguments).map fun suffix =>
    let changed := { call with arguments := finalArguments, argumentsDone := argumentsDone }
    (calls.update changed, ⟨changed, suffix⟩)

/-- `#create`: the arguments of an item may be missing. -/
def createArguments (item : Option Json) : Option String :=
  if itemGet item "arguments" = none then some "" else Json.string? (itemGet item "arguments")

def push (calls : ChatFunctionCallAccumulator) (key callId name arguments : String)
    (argumentsDone : Bool) : ChatFunctionCallAccumulator × CallChange :=
  let call : ChatFunctionCall := ⟨key, calls.entries.length, callId, name, arguments, argumentsDone⟩
  (calls.update call, ⟨call, arguments⟩)

/-- `#create`: the call of the item, and what is new of its arguments.  The caller of a call that
was not there says whether its arguments are done. -/
def create (calls : ChatFunctionCallAccumulator) (event : Json) (item : Option Json)
    (argumentsDone : Bool) : Changed :=
  if isFunctionCall item = false then
    malformedFunctionCallStream
      "Upstream function-call event did not contain a function_call item."
  else
    match keyOf event item with
    | none =>
      malformedFunctionCallStream "Upstream function-call event omitted item_id and output_index."
    | some key =>
      match trimmedText (itemGet item "call_id"), trimmedText (itemGet item "name"),
          createArguments item with
      | some callId, some name, some argumentsText =>
        match calls.lookup key with
        | none => .ok (calls.push key callId name argumentsText argumentsDone)
        | some existing =>
          if existing.callId ≠ callId ∨ existing.name ≠ name then
            malformedFunctionCallStream
              "Upstream function-call item changed its call_id or name."
          else calls.extend existing argumentsText existing.argumentsDone
      | _, _, _ =>
        malformedFunctionCallStream
          "Upstream function-call item is missing call_id, name, or string arguments."

/-- What `add` gives, with whether the call was not there. -/
structure Added where
  change : CallChange
  includeIdentity : Bool

/-- `add`; nothing for an item that is not a function call. -/
def add (calls : ChatFunctionCallAccumulator) (event : Json) (item : Option Json) :
    Except ResponsesStreamError (ChatFunctionCallAccumulator × Option Added) :=
  if isFunctionCall item = false then .ok (calls, none)
  else
    (calls.create event item false).map fun x =>
      (x.1, some ⟨x.2, (calls.find (keyOf event item)).isNone⟩)

def delta (calls : ChatFunctionCallAccumulator) (event : Json) : Changed :=
  match calls.find (keyOf event none) with
  | none =>
    malformedFunctionCallStream "Upstream function-call argument delta has no matching item."
  | some call =>
    if call.argumentsDone = true then
      malformedFunctionCallStream
        "Upstream function-call emitted arguments after its completion event."
    else
      match Json.string? (event.get "delta") with
      | none =>
        malformedFunctionCallStream "Upstream function-call argument delta is not a string."
      | some delta =>
        let changed := { call with arguments := call.arguments ++ delta }
        .ok (calls.update changed, ⟨changed, delta⟩)

/-- The final arguments of a call that is there, with what is wrong if the arguments were final
before and are others. -/
def finish (calls : ChatFunctionCallAccumulator) (call : ChatFunctionCall) (finalArguments : String)
    (changed : String) : Changed :=
  if call.argumentsDone = true then
    if finalArguments = call.arguments then .ok (calls, ⟨call, ""⟩)
    else malformedFunctionCallStream changed
  else calls.extend call finalArguments true

def done (calls : ChatFunctionCallAccumulator) (event : Json) : Changed :=
  match calls.find (keyOf event none) with
  | none => malformedFunctionCallStream "Upstream function-call completion has no matching item."
  | some call =>
    match Json.string? (event.get "arguments") with
    | none =>
      malformedFunctionCallStream "Upstream function-call completion is missing string arguments."
    | some finalArguments =>
      calls.finish call finalArguments
        "Upstream function-call completion changed finalized arguments."

/-- `reconcileItem`; nothing for an item that is not a function call. -/
def reconcileItem (calls : ChatFunctionCallAccumulator) (event : Json) (item : Option Json) :
    Except ResponsesStreamError (ChatFunctionCallAccumulator × Option CallChange) :=
  if isFunctionCall item = false then .ok (calls, none)
  else
    match Json.string? (itemGet item "arguments") with
    | none =>
      malformedFunctionCallStream "Upstream function-call item is missing string arguments."
    | some argumentsText =>
      Except.map (fun x => (x.1, some x.2)) <|
        match calls.find (keyOf event item) with
        | none => calls.create event item true
        | some existing =>
          if some existing.callId ≠ (Json.string? (itemGet item "call_id")).map JsString.trim ∨
              some existing.name ≠ (Json.string? (itemGet item "name")).map JsString.trim then
            malformedFunctionCallStream "Upstream function-call item changed its call_id or name."
          else
            calls.finish existing argumentsText
              "Upstream function-call item changed finalized arguments."

/-- The loop of `reconcileOutput`. -/
def reconcileItems (event : Json) : ChatFunctionCallAccumulator → List CallChange → List Json →
    Except ResponsesStreamError (ChatFunctionCallAccumulator × List CallChange)
  | calls, reconciled, [] => .ok (calls, reconciled)
  | calls, reconciled, item :: rest =>
    (calls.reconcileItem event (some item)).bind fun x =>
      reconcileItems event x.1 (reconciled ++ x.2.toList) rest

def reconcileOutput (calls : ChatFunctionCallAccumulator) (event : Json) (output : Option Json) :
    Except ResponsesStreamError (ChatFunctionCallAccumulator × List CallChange) :=
  match Json.items? output with
  | none => .ok (calls, [])
  | some items => reconcileItems event calls [] items

end ChatFunctionCallAccumulator

end UbqGateway.Chat
