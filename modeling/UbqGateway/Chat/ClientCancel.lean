import UbqGateway.Chat.Turns

/-!
# Pulls of a chat stream and its cancellation

The awaits of `streamChatCompletions` of `src/chat/completions.ts`.  One pull at a time runs;
between two of its awaits the client may cancel, and the cancellation awaits its own settlement.
After a cancellation the controller takes no more chunks.
-/

namespace UbqGateway.Chat

open Responses ChatStream

/-- Where a pull waits. -/
inductive Pulling
  | idle
  /-- `await iterator.next()` -/
  | reading
  /-- `await handleStreamEvent(event)`, of an event after which the loop goes on. -/
  | handled
  /-- `await recordSuccessfulChatCompletion(...)` -/
  | recording (event : ResponsesStreamEvent) (usageTokens : Option UsageTokens)
  /-- `await pumpStream()`, which failed. -/
  | failed (failure : StreamFailure)
  /-- `await iterator.return(error)` -/
  | returning (failure : StreamFailure)
deriving DecidableEq

/-- How far `cancel` is. -/
inductive Cancelling
  | notInvoked
  /-- `await settleInitialTerminalOnCancel()` -/
  | settling
  | settled
deriving DecidableEq

/-- An event that was handled, and the translation after it, if it did not fail. -/
structure HandledEvent where
  event : ResponsesStreamEvent
  beforeCancel : Bool
  translation : Option ChatTranslation

/-- A stream that is pulled and may be cancelled, with the events that were handled. -/
structure ChatSession where
  stream : ChatStream
  pulling : Pulling
  cancelling : Cancelling
  handled : List HandledEvent

/-- What a failed handler has changed. -/
structure Leftover where
  translation : ChatTranslation
  queuedDeltas : List QueuedDelta

/-- The error that a closed controller throws. -/
def controllerClosed : StreamFailure := .thrown false false

namespace ChatSession

/-- Before the first pull. -/
def initial (first : ResponsesStreamEvent) (id : String) (created : ℚ) : ChatSession where
  stream := .initial first id created .fresh
  pulling := .idle
  cancelling := .notInvoked
  handled := []

/-- The next pulling of a stream that emitted chunks, unless the controller is closed. -/
def emitting (s : ChatSession) (t : ChatStream) (pulling : Pulling) : Pulling :=
  if s.cancelling = .notInvoked ∨
    t.chunks = s.stream.chunks then pulling else .failed controllerClosed

/-- The stream after chunks were emitted, unless the controller is closed. -/
def emitted (s : ChatSession) (t : ChatStream) : ChatStream :=
  if s.cancelling = .notInvoked then t else { t with chunks := s.stream.chunks }

/-- The turn of an event is taken. -/
def takes (s : ChatSession) (event : ResponsesStreamEvent) (t : ChatStream) (pulling : Pulling)
    (translation : Option ChatTranslation) : ChatSession :=
  { s with
    stream := s.emitted t
    pulling := s.emitting t pulling
    handled := s.handled ++ [⟨event, decide (s.cancelling = .notInvoked), translation⟩] }

def handles (s : ChatSession) (event : ResponsesStreamEvent) (left : Leftover) : Turn → ChatSession
  | .next t => s.takes event t .handled (some t.translation)
  | .returns t => s.takes event t .idle (some t.translation)
  | .recording t event usageTokens =>
    s.takes event t (.recording event usageTokens) (some t.translation)
  | .fails t failure =>
    s.takes event { t with translation := left.translation, queuedDeltas := left.queuedDeltas }
      (.failed failure) none

/-- A pull that takes its next event: it was invoked with nothing queued, or it goes on. -/
def AtLoop (s : ChatSession) : Prop :=
  s.stream.closed = false ∧
    (s.pulling = .idle ∧ s.stream.queuedDeltas = [] ∨ s.pulling = .handled)

/-- The translation of the first event when the client cancels. -/
def initialTranslation (translation : ChatTranslation) (first : ResponsesStreamEvent) :
    Except ResponsesStreamError ChatTranslation :=
  (reconcileChatResponseOutputContent translation.parts (addressOf first.value)
      (itemGet (first.value.get "response") "output")).bind fun completed =>
    (translation.functionCalls.reconcileOutput first.value
        (itemGet (first.value.get "response") "output")).bind fun reconciled =>
      reconciled.1.assertFinalized.map fun _ =>
        (translation.addContent completed).withCalls reconciled.1

def settle (stream : ChatStream) (translation : ChatTranslation)
    (lifecycle : MeteredTransportLifecycle) : ChatStream :=
  { stream with terminalSettled := true, translation := translation, lifecycle := lifecycle }

/-- The settlement of a completed first event. -/
def settleInitialCompletion (stream : ChatStream) (first : ResponsesStreamEvent) (left : Leftover) :
    ChatStream :=
  if isObject (first.value.get "response") = false then
    settle stream stream.translation stream.lifecycle.ambiguous
  else
    match initialTranslation stream.translation first with
    | .error _ =>
      settle stream left.translation
        (stream.lifecycle.terminal "response.failed" (usageOf first.value))
    | .ok translation =>
      settle stream translation
        (stream.lifecycle.terminal
          (if translatedChatOutputObserved translation = true then "response.completed"
          else "response.failed") (usageOf first.value))

def settleInitialTerminalOnCancel (stream : ChatStream) (first : ResponsesStreamEvent)
    (left : Leftover) : ChatStream :=
  if stream.terminalSettled = true ∨ first.terminal = false then stream
  else if first.type = "response.completed" then settleInitialCompletion stream first left
  else
    settle stream stream.translation
      (stream.lifecycle.terminal first.type (usageOf first.value))

def initialHandled (stream : ChatStream) (first : ResponsesStreamEvent) : List HandledEvent :=
  if stream.terminalSettled = true ∨ first.terminal = false then []
  else [⟨first, false, (initialTranslation stream.translation first).toOption⟩]

/-- `cancel`, up to its first await. -/
def cancel (s : ChatSession) (first : ResponsesStreamEvent) (left : Leftover) : ChatSession where
  stream := { settleInitialTerminalOnCancel s.stream first left with closed := true }
  pulling := s.pulling
  cancelling := .settling
  handled := s.handled ++ initialHandled s.stream first

def settleCancelled (stream : ChatStream) : ChatStream :=
  { stream with
    lifecycle := if stream.terminalSettled = true then stream.lifecycle
      else stream.lifecycle.cancelled }

end ChatSession

/-- Who acts. -/
inductive Action
  | pull
  | upstream
  | cancel
  | settle
deriving DecidableEq

open ChatSession

/-- One step between two awaits. -/
inductive Step (request : ChatRequest) (first : ResponsesStreamEvent) :
    ChatSession → Action → ChatSession → Prop
  | emitsQueued {s : ChatSession} (hidle : s.pulling = .idle) (hopen : s.stream.closed = false)
      (hqd : s.stream.queuedDeltas ≠ []) :
      Step request first s .pull { s with stream := (s.stream.emitNextQueuedDelta request).1 }
  | handlesPending {s : ChatSession} {event : ResponsesStreamEvent} (hatl : s.AtLoop)
      (hpend : s.stream.pending = some event) (left : Leftover) :
      Step request first s .pull
        (s.handles event left ({ s.stream with pending := none }.handleStreamEvent request event))
  | reads {s : ChatSession} (hatl : s.AtLoop) (hpend : s.stream.pending = none) :
      Step request first s .pull { s with pulling := .reading }
  | stops {s : ChatSession} (hhd : s.pulling = .handled) (hcl : s.stream.closed = true) :
      Step request first s .pull { s with pulling := .idle }
  | receives {s : ChatSession} {event : ResponsesStreamEvent} (hrdg : s.pulling = .reading)
      (hmark : Marked event) (left : Leftover) :
      Step request first s .upstream
        (s.handles event left ({ s.stream with pending := none }.handleStreamEvent request event))
  | ends {s : ChatSession} (hrdg : s.pulling = .reading) (failure : StreamFailure) :
      Step request first s .upstream { s with pulling := .failed failure }
  | delivers {s : ChatSession} {event : ResponsesStreamEvent} {usageTokens : Option UsageTokens}
      (hrec : s.pulling = .recording event usageTokens) :
      Step request first s .pull
        { s with
          stream := s.emitted (s.stream.deliverCompleted request event usageTokens)
          pulling := s.emitting (s.stream.deliverCompleted request event usageTokens) .idle }
  | leaves {s : ChatSession} {failure : StreamFailure} (hfail : s.pulling = .failed failure)
      (hcl : s.stream.closed = true) : Step request first s .pull { s with pulling := .idle }
  | returns {s : ChatSession} {failure : StreamFailure} (hfail : s.pulling = .failed failure)
      (hopen : s.stream.closed = false) :
      Step request first s .pull { s with pulling := .returning failure }
  | settlesFailure {s : ChatSession} {failure : StreamFailure}
      (hreturning : s.pulling = .returning failure) (signals : Signals) :
      Step request first s .upstream
        { s with
          stream := s.emitted (s.stream.settleStreamFailure failure signals)
          pulling := .idle }
  | cancels {s : ChatSession} (hni : s.cancelling = .notInvoked)
      (hopen : s.stream.closed = false) (left : Leftover) :
      Step request first s .cancel (s.cancel first left)
  | settlesCancel {s : ChatSession} (hsttl : s.cancelling = .settling) :
      Step request first s .settle
        { s with stream := settleCancelled s.stream, cancelling := .settled }

/-- Steps that all meet a condition. -/
inductive Steps (request : ChatRequest) (first : ResponsesStreamEvent)
    (meets : ChatSession → Action → Prop) : ChatSession → ChatSession → Prop
  | refl (s : ChatSession) : Steps request first meets s s
  | tail {s t u : ChatSession} {action : Action} (hstps : Steps request first meets s t)
      (hstep : Step request first t action u) (hmeets : meets t action) :
        Steps request first meets s u

end UbqGateway.Chat
