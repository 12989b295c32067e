import UbqGateway.DeepSeek.StreamTranslator

/-!
# The shared Responses stream relay

`relayResponsesStream` of `src/provider/stream-relay.ts`.  A turn is what the relay runs from one
await to the next, or what happens to it there: the client pulls or cancels, the deferred source
resolves, a frame arrives, a recorder returns.  The log lists the events that the controller of the
client's stream accepted and the terminal types that `recordStreamTerminalType` was called with, in
order.
-/

namespace UbqGateway.Provider

open DeepSeek (Translator StreamState StreamEvent newStreamState)

/-! ### Responses and events -/

/-- `ResponseStreamTerminalType` -/
inductive StreamTerminalType
  | completed
  | failed
  | incomplete
  | error
  | eof
  | cancelled
  | deadline
deriving DecidableEq

/-- The types that the adapters' `terminalTypeForError` answers. -/
inductive ErrorTerminalType
  | error
  | eof
  | cancelled
  | deadline
deriving DecidableEq

def ErrorTerminalType.terminalType : ErrorTerminalType → StreamTerminalType
  | .error => .error
  | .eof => .eof
  | .cancelled => .cancelled
  | .deadline => .deadline

inductive RefusalResponseOrigin
  | gatewayDeadline
  | upstream
deriving DecidableEq

/-- What the relay reads of an upstream response: its status and where a refusal is from, if it is
marked. -/
structure UpstreamResponse where
  status : ℕ
  origin : Option RefusalResponseOrigin
deriving DecidableEq

def UpstreamResponse.ok (response : UpstreamResponse) : Bool :=
  decide (200 ≤ response.status ∧ response.status < 300)

def isGatewayDeadlineResponse (response : UpstreamResponse) (requestAborted : Bool) : Bool :=
  if response.status ≠ 504 then false
  else
    match response.origin with
    | some origin => decide (origin = .gatewayDeadline)
    | none => requestAborted

/-- An event that the relay encodes: the translator's, or a `response.failed` of its own. -/
inductive RelayEvent
  | translated (event : StreamEvent)
  | failed (code message : String)
deriving DecidableEq

/-- The terminal type that an event shows to the client. -/
def RelayEvent.terminalType : RelayEvent → Option StreamTerminalType
  | .failed _ _ => some .failed
  | .translated (.terminal envelope _) =>
    if envelope.status = "completed" then some .completed
    else if envelope.status = "incomplete" then some .incomplete
    else if envelope.status = "failed" then some .failed
    else none
  | .translated _ => none

def emptyUpstreamCompletionMessage :
    String := "Upstream response completed with no translated semantic output."

/-- `UPSTREAM_STREAM_REFUSAL_MESSAGE`, which is also the message of a stream that failed. -/
def upstreamStreamRefusalMessage : String := "Upstream Chat Completions stream failed."

def emptyCompletionFailure : RelayEvent :=
    .failed "empty_upstream_completion" emptyUpstreamCompletionMessage

/-! ### State -/

inductive RelayEntry
  | delivered (sequenceNumber : ℕ) (event : RelayEvent)
  | recorded (terminalType : StreamTerminalType)

inductive UpstreamSource
  | pending
  | responded (response : UpstreamResponse)
  | rejected
deriving DecidableEq

/-- What a running `pull` waits for. -/
inductive Awaiting
  /-- No `pull` runs. -/
  | nothing
  /-- The deferred source. -/
  | source
  /-- The body of a refusal, in `refuseStream`. -/
  | refusal (response : UpstreamResponse) (gatewayDeadline : Bool)
  /-- `recordErrorUsage` of `refuseStream`. -/
  | refusalUsage (code message : String)
  /-- The next frame. -/
  | frame
  /-- `frames.return()`. -/
  | returned
  /-- `recordCompletionUsage` of `finishStream`. -/
  | completionUsage
  /-- An error is on its way to the handler of `pull`. -/
  | handler
  /-- `recordErrorUsage` of `failStream`. -/
  | errorUsage
deriving DecidableEq

/-- The variables of a relay, its stream and its signals. -/
structure RelayState where
  settled : Bool
  cancelled : Bool
  closed : Bool
  downstreamAborted : Bool
  requestAborted : Bool
  upstream : UpstreamSource
  hasIterator : Bool
  translator : StreamState
  sequenceNumber : ℕ
  awaiting : Awaiting
  log : List RelayEntry

/-- A relay before the first pull. -/
def RelayState.start (upstream : UpstreamSource) : RelayState where
  settled := false
  cancelled := false
  closed := false
  downstreamAborted := false
  requestAborted := false
  upstream
  hasIterator := false
  translator := newStreamState
  sequenceNumber := 0
  awaiting := .nothing
  log := []

/-- What `frames.next()` gives. -/
inductive NextFrame
  | ended
  | done
  | comment
  | chunk (value : Json)
  | failed

inductive RelayTurn
  | pull
  | cancel
  | abortDownstream
  | abortRequest
  | resolve (response : UpstreamResponse)
  | reject
  | sourceSettled
  | refusalRead (code message : Option String)
  | usageRecorded
  | next (frame : NextFrame)
  | returned (ok : Bool)
  | handled (terminalType : ErrorTerminalType)

namespace RelayState

def streamEnded (s : RelayState) : Bool := s.settled || s.cancelled || s.downstreamAborted

def await (awaiting : Awaiting) (s : RelayState) : RelayState := { s with awaiting }

def closeController (s : RelayState) : RelayState := { s with closed := true }

def settleTerminal (terminalType : StreamTerminalType) (s : RelayState) : RelayState :=
  if s.settled = true then s else { s with settled := true, log := s.log ++
    [.recorded terminalType] }

/-- An event that the controller accepts. -/
def enqueue (event : RelayEvent) (s : RelayState) : RelayState :=
  { s with sequenceNumber := s.sequenceNumber + 1, log := s.log ++
    [.delivered s.sequenceNumber event] }

/-- `emit`, which throws when the controller is closed or the client has cancelled. -/
def emit : List RelayEvent → RelayState → Except RelayState RelayState
  | [], s => .ok s
  | event :: rest, s => if s.closed = true ∨
    s.cancelled = true then .error s else emit rest (s.enqueue event)

/-- The end of a block with a `finally` that closes the controller. -/
def closeAfter : Except RelayState RelayState → RelayState
  | .ok s => (closeController s).await .nothing
  | .error s => (closeController s).await .handler

end RelayState

structure Relay where
  translator : Translator
  streamErrorCode : String

namespace Relay

open RelayState

variable (r : Relay)

/-- `emitEmptyCompletionFailure`, when it handles the terminal. -/
def emitEmptyCompletionFailure (s : RelayState) : Except RelayState RelayState :=
  emit ((Translator.startEvents s.translator).2.map .translated ++ [emptyCompletionFailure])
    { settleTerminal .failed s with translator := (Translator.startEvents s.translator).1 }

/-- Whether a completion carries nothing that a client can act on. -/
def emptyCompletion (s : RelayState) : Bool :=
  decide (r.translator.terminalKind s.translator = .completed) &&
    !DeepSeek.isAnswerBearingCompletion (DeepSeek.answerBearingOutput s.translator)

/-- The events of the final pass. -/
def emitFinish (s : RelayState) : Except RelayState RelayState :=
  emit ((r.translator.finish s.translator).2.map .translated)
    { s with translator := (r.translator.finish s.translator).1 }

/-- What `finishStream` does when the final events are emitted. -/
def settleFinish : DeepSeek.TerminalKind → Except RelayState RelayState → RelayState
  | .completed, .ok s => s.await .completionUsage
  | .incomplete, .ok s => closeAfter (.ok (settleTerminal .incomplete s))
  | .failed, .ok s => closeAfter (.ok (settleTerminal .failed s))
  | _, .error s => closeAfter (.error s)

def finishStream (s : RelayState) : RelayState :=
  if s.settled = true then s.await .nothing
  else if r.emptyCompletion s = true then closeAfter (emitEmptyCompletionFailure s)
  else settleFinish (r.translator.terminalKind s.translator) (r.emitFinish s)

/-- `refuseStream`, up to the body of the refusal. -/
def refuseStream (response : UpstreamResponse) (s : RelayState) : RelayState :=
  if s.settled = true then (closeController s).await .nothing
  else s.await (.refusal response (isGatewayDeadlineResponse response s.requestAborted))

/-- `refuseStream`, from the body of the refusal on. -/
def refusalRead (response : UpstreamResponse) (gatewayDeadline : Bool)
    (code message : Option String)
    (s : RelayState) : RelayState :=
  if response.status = 499 ∨ gatewayDeadline = true then
    (closeController (settleTerminal (if response.status = 499 then .cancelled else .deadline)
      s)).await .nothing
  else
    (settleTerminal .failed s).await
      (.refusalUsage (code.getD r.streamErrorCode) (message.getD upstreamStreamRefusalMessage))

/-- `refuseStream`, from the recorded usage on: it has no `finally`. -/
def emitRefusal (code message : String) (s : RelayState) : RelayState :=
  match emit [.failed code message] s with
  | .ok s => (closeController s).await .nothing
  | .error s => s.await .handler

/-- `failStream`, up to the recorded usage. -/
def failStream (terminalType : ErrorTerminalType) (s : RelayState) : RelayState :=
  if s.settled = true then (closeController s).await .nothing
  else if terminalType = .cancelled then
    (closeController (settleTerminal terminalType.terminalType s)).await .nothing
  else (settleTerminal terminalType.terminalType s).await .errorUsage

/-- `failStream`, from the recorded usage on.  An error of `emit` is left to the stream, which it
ends. -/
def emitFailure (s : RelayState) : RelayState :=
  match emit [.failed r.streamErrorCode upstreamStreamRefusalMessage] s with
  | .ok s => (closeController s).await .nothing
  | .error s => (closeController s).await .nothing

/-- `ensureIterator`, when the response is there. -/
def openResponse (response : UpstreamResponse) (s : RelayState) : RelayState :=
  if s.streamEnded = true then s.await .nothing
  else if response.ok = false then refuseStream response s
  else { s with hasIterator := true, awaiting := .frame }

/-- `pull`, up to its first await. -/
def pull (s : RelayState) : RelayState :=
  if s.settled = true then s
  else if s.hasIterator = true then s.await .frame
  else if s.streamEnded = true then s
  else
    match s.upstream with
    | .responded response => openResponse response s
    | _ => s.await .source

/-- The deferred source has resolved or rejected. -/
def sourceSettled (s : RelayState) : RelayState :=
  match s.upstream with
  | .pending => s
  | .responded response => openResponse response s
  | .rejected => s.await .handler

/-- What `pull` does with a chunk. -/
def emitChunk (value : Json) (s : RelayState) : RelayState :=
  match emit ((r.translator.push value s.translator).2.map .translated)
      { s with translator := (r.translator.push value s.translator).1 } with
  | .ok s' => s'.await (if (r.translator.push value s.translator).2 = [] then .frame else .nothing)
  | .error s' => s'.await .handler

/-- One round of the loop of `pull`. -/
def nextFrame (s : RelayState) : NextFrame → RelayState
  | .ended => r.finishStream s
  | .done => { s with hasIterator := false, awaiting := .returned }
  | .comment => s
  | .chunk value => r.emitChunk value s
  | .failed => s.await .handler

def cancel (s : RelayState) : RelayState :=
  if s.cancelled = true then s else settleTerminal .cancelled { s with cancelled := true }

/-- A turn.  One that nothing waits for changes nothing. -/
def turn (s : RelayState) : RelayTurn → RelayState
  | .pull => if s.awaiting = .nothing then pull s else s
  | .cancel => cancel s
  | .abortDownstream => { s with downstreamAborted := true }
  | .abortRequest => { s with requestAborted := true }
  | .resolve response => if s.upstream = .pending then { s with upstream := .responded response }
    else s
  | .reject => if s.upstream = .pending then { s with upstream := .rejected } else s
  | .sourceSettled => if s.awaiting = .source then sourceSettled s else s
  | .refusalRead code message =>
    match s.awaiting with
    | .refusal response gatewayDeadline => r.refusalRead response gatewayDeadline code message s
    | _ => s
  | .usageRecorded =>
    match s.awaiting with
    | .refusalUsage code message => emitRefusal code message s
    | .completionUsage => closeAfter (.ok (settleTerminal .completed s))
    | .errorUsage => r.emitFailure s
    | _ => s
  | .next frame => if s.awaiting = .frame then r.nextFrame s frame else s
  | .returned ok =>
    if s.awaiting = .returned then (if ok = true then r.finishStream s else s.await .handler) else s
  | .handled terminalType => if s.awaiting = .handler then failStream terminalType s else s

def run (s : RelayState) (turns : List RelayTurn) : RelayState := turns.foldl r.turn s

end Relay

end UbqGateway.Provider
