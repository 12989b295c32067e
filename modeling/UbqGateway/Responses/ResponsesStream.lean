import UbqGateway.Library.JsString
import UbqGateway.Library.Json
import UbqGateway.Library.OrderedCode
import UbqGateway.Library.Scan

/-!
# The reader of Responses streams

`parseEventBlock`, `createSseEventFramer` and `readResponsesStream` of `src/responses-stream.ts`.
The bytes of a stream arrive in chunks; what a chunk completes is parsed and passed on before the
next chunk is read.  What `TextDecoder.decode` and `JSON.parse` do is not needed here and stays
open.  Deadlines and abort signals are left out.
-/

namespace UbqGateway.Responses

/-- `RESPONSES_TERMINAL_EVENT_TYPES` -/
def terminalEventTypes : List String :=
  ["error", "response.completed", "response.failed", "response.incomplete"]

structure ResponsesStreamEvent where
  raw : String
  value : Json
  type : String
  terminal : Bool
deriving DecidableEq

/-- `ResponsesStreamFailureKind`, as far as the reader has them. -/
inductive ResponsesStreamFailureKind
  | malformedEvent
  | prematureEof
  | eventTooLarge
deriving DecidableEq

structure ResponsesStreamError where
  message : String
  kind : ResponsesStreamFailureKind
deriving DecidableEq

def maxResponsesSseEventBytes : ℕ := 16 * 1024 * 1024

/-! ### Blocks -/

/-- The data of one line of a block, if it has any. -/
def dataOf (line : String) : Option String :=
  if line = "" ∨ JsString.startsWith line ":" = true then none
  else if line = "data" then some ""
  else (JsString.after? "data:" line).map fun data => (JsString.after? " " data).getD data

/-- `isFlatError` of `parseEventBlock` -/
def isFlatError (value : Json) : Bool :=
  (Json.isNull (value.get "code") ||
    (Json.string? (value.get "code")).any fun code => !JsString.isBlank code) &&
  ((Json.string? (value.get "message")).any fun message => !JsString.isBlank message) &&
  (Json.isNull (value.get "param") || (Json.string? (value.get "param")).isSome)

/-- Whether a property is an object that is not an array. -/
def isObject : Option Json → Bool
  | some (.obj _) => true
  | _ => false

/-- The payload of a terminal event is not what it has to be. -/
def invalidPayload (type : String) (value : Json) : Bool :=
  if type = "error" then
    if (value.get "error").isSome = true then !isObject (value.get "error") else !isFlatError value
  else decide (type ∈ terminalEventTypes) && !isObject (value.get "response")

def eventOf (raw : String) (value : Json) : Except ResponsesStreamError ResponsesStreamEvent :=
  if value.isRecord = false then
    .error ⟨"Upstream emitted a non-object Responses SSE event.", .malformedEvent⟩
  else
    match (Json.string? (value.get "type")).map JsString.trim with
    | none | some "" =>
      .error ⟨"Upstream emitted a Responses SSE event without a type.", .malformedEvent⟩
    | some type =>
      if invalidPayload type value = true then
        .error ⟨"Upstream emitted a Responses terminal event with an invalid payload.",
          .malformedEvent⟩
      else .ok ⟨raw, value, type, decide (type ∈ terminalEventTypes)⟩

/-- `parseEventBlock`, given `JSON.parse`. -/
def parseEventBlock (parse : String → Option Json) (raw : String) :
    Except ResponsesStreamError (Option ResponsesStreamEvent) :=
  match (JsString.splitLines [] raw.toList).filterMap dataOf with
  | [] => .ok none
  | data =>
    match parse (JsString.join "\n" data) with
    | none => .error ⟨"Upstream emitted malformed Responses SSE JSON.", .malformedEvent⟩
    | some value => (eventOf raw value).map some

/-! ### The framer -/

/-- The state of `createSseEventFramer`: the bytes in the buffer, and the last three bytes of the
block. -/
structure SseEventFramer where
  buffer : List Byte
  thirdPreviousByte : Option Byte
  secondPreviousByte : Option Byte
  previousByte : Option Byte
  bounded : buffer.length ≤ maxResponsesSseEventBytes

namespace SseEventFramer

/-- A framer without bytes. -/
def fresh : SseEventFramer where
  buffer := []
  thirdPreviousByte := none
  secondPreviousByte := none
  previousByte := none
  bounded := Nat.zero_le _

def oversized : ResponsesStreamError :=
  ⟨"Upstream emitted an oversized Responses SSE event.", .eventTooLarge⟩

def append (framer : SseEventFramer) (value : List Byte) :
    Except ResponsesStreamError SseEventFramer :=
  if h : framer.buffer.length + value.length ≤ maxResponsesSseEventBytes then
    .ok
      { framer with
        buffer := framer.buffer ++ value
        bounded := by rw [List.length_append]; exact h }
  else .error oversized

def isBoundary (framer : SseEventFramer) (byte : Byte) : Bool :=
  if byte = 10 then
    decide (framer.previousByte = some 10) ||
      (decide (framer.previousByte = some 13) && decide (framer.thirdPreviousByte = some 13) &&
        decide (framer.secondPreviousByte = some 10))
  else if byte ≠ 13 then false
  else if framer.previousByte = some 13 then true
  else decide (framer.previousByte = some 10) && decide (framer.secondPreviousByte ≠ some 13)

def advanceBoundaryState (framer : SseEventFramer) (byte : Byte) : SseEventFramer :=
  { framer with
    thirdPreviousByte := framer.secondPreviousByte
    secondPreviousByte := framer.previousByte
    previousByte := some byte }

/-- The loop of `frames`, with the bytes of the chunk since the last boundary and those that
follow. -/
def framesLoop (decode : List Byte → String) : SseEventFramer → List Byte → List Byte →
    Scanned String ResponsesStreamError SseEventFramer
  | framer, segment, [] =>
    if segment = [] then .pure framer else ([], framer.append segment)
  | framer, segment, byte :: rest =>
    if framer.buffer.length + (segment.length + 1) > maxResponsesSseEventBytes then .stop oversized
    else if framer.isBoundary byte = true then
      match framer.append (segment ++ [byte]) with
      | .error error => .stop error
      | .ok block =>
        Scanned.bind ([decode block.buffer], .ok fresh) fun framer =>
          framesLoop decode framer [] rest
    else framesLoop decode (framer.advanceBoundaryState byte) (segment ++ [byte]) rest

/-- `frames`, with `TextDecoder.decode`: the blocks that a chunk completes. -/
def frames (decode : List Byte → String) (framer : SseEventFramer) (chunk : List Byte) :
    Scanned String ResponsesStreamError SseEventFramer :=
  framesLoop decode framer [] chunk

end SseEventFramer

/-! ### Reading -/

/-- How a stream ends for its reader. -/
inductive Ending
  | terminal
  | failed (error : ResponsesStreamError)
deriving DecidableEq

/-- An event is yielded, and a terminal one is the last. -/
def yieldEvent {σ : Type} (event : ResponsesStreamEvent) (s : σ) :
    Scanned ResponsesStreamEvent Ending σ :=
  if event.terminal = true then ([event], .error .terminal) else ([event], .ok s)

/-- What a block gives: no event, or one, or the end of the stream. -/
def yieldBlock {σ : Type} (parse : String → Option Json) (block : String) (s : σ) :
    Scanned ResponsesStreamEvent Ending σ :=
  match parseEventBlock parse block with
  | .error error => .stop (.failed error)
  | .ok none => .pure s
  | .ok (some event) => yieldEvent event s

/-- `takeEvents`: the blocks are parsed one after the other, before the framer fails. -/
def takeEvents (decode : List Byte → String) (parse : String → Option Json)
    (framer : SseEventFramer) (chunk : List Byte) :
    Scanned ResponsesStreamEvent Ending SseEventFramer :=
  let (blocks, next) := framer.frames decode chunk
  (scan (fun (_ : Unit) block => yieldBlock parse block ()) () blocks).bind fun _ =>
    ([], next.mapError .failed)

def takeTrailingEvent (decode : List Byte → String) (parse : String → Option Json)
    (framer : SseEventFramer) : Scanned ResponsesStreamEvent Ending Unit :=
  if framer.buffer = [] then .pure () else yieldBlock parse (decode framer.buffer) ()

/-- `readResponsesStream` of the chunks of a stream: the events, and how it ends. -/
def readResponsesStream (decode : List Byte → String) (parse : String → Option Json)
    (chunks : List (List Byte)) : List ResponsesStreamEvent × Ending :=
  let (events, ending) :=
    (scan (takeEvents decode parse) SseEventFramer.fresh chunks).bind
      (takeTrailingEvent decode parse)
  match ending with
  | .error ending => (events, ending)
  | .ok () =>
    (events, .failed ⟨"Upstream Responses stream ended before a terminal event.", .prematureEof⟩)

end UbqGateway.Responses
