import UbqGateway.Chat.ContentParts

/-!
# Usage and settlement of a chat request

`extractUsageTokens`, `toChatUsage` and `classifyStreamFailure` of `src/openai-telemetry.ts`, and
`createMeteredTransportLifecycle` of `src/paid-fallback/health.ts` for a request that has a
reservation: the first outcome that is scheduled is recorded, and no other.
-/

namespace UbqGateway.Chat

open Responses

/-! ### Usage -/

structure ParsedUsageToken where
  value : Option ℤ
  invalid : Bool

/-- `parseUsageToken` of a property. -/
def parseUsageToken (value : Option Json) : ParsedUsageToken :=
  if value = none then ⟨none, false⟩
  else ⟨Json.safeNonNegative? value, (Json.safeNonNegative? value).isNone⟩

/-- `UsageTelemetryStatus`, as far as `extractUsageTokens` gives it. -/
inductive UsageTelemetryStatus
  | invalid
  | partly
  | reported
deriving DecidableEq

structure UsageTokens where
  inputTokens : Option ℤ
  cachedInputTokens : Option ℤ
  cacheWriteInputTokens : Option ℤ
  outputTokens : Option ℤ
  totalTokens : Option ℤ
  status : UsageTelemetryStatus
  buyerCostMicro : Option (Option ℤ)
deriving DecidableEq

def UsageTokens.invalid : UsageTokens where
  inputTokens := none
  cachedInputTokens := none
  cacheWriteInputTokens := none
  outputTokens := none
  totalTokens := none
  status := .invalid
  buyerCostMicro := none

/-- `details` of `extractUsageTokens` -/
def usageDetails (value : Json) : Option Json :=
  if isObject (value.get "input_tokens_details") = true then value.get "input_tokens_details"
  else none

/-- The parsed tokens of a usage object. -/
structure ParsedUsage where
  inputTokens : ParsedUsageToken
  outputTokens : ParsedUsageToken
  totalTokens : ParsedUsageToken
  cachedInputTokens : ParsedUsageToken
  cacheWriteInputTokens : ParsedUsageToken
  /-- Details that are there but not an object. -/
  invalidDetails : Bool

/-- The tokens of a usage object. -/
def parseUsage (value : Json) : ParsedUsage where
  inputTokens := parseUsageToken (value.get "input_tokens")
  outputTokens := parseUsageToken (value.get "output_tokens")
  totalTokens := parseUsageToken (value.get "total_tokens")
  cachedInputTokens := parseUsageToken ((usageDetails value).bind fun details =>
    details.get "cached_tokens")
  cacheWriteInputTokens := parseUsageToken ((usageDetails value).bind fun details =>
    details.get "cache_write_tokens")
  invalidDetails := (value.get "input_tokens_details").isSome && (usageDetails value).isNone

namespace ParsedUsage

def coreMissing (usage : ParsedUsage) : Bool :=
  usage.inputTokens.value.isNone || usage.outputTokens.value.isNone ||
    usage.totalTokens.value.isNone

def cachedTokensExceedInput (usage : ParsedUsage) : Bool :=
  match usage.inputTokens.value, usage.cachedInputTokens.value with
  | some input, some cached => decide (cached > input)
  | _, _ => false

def inconsistentTotals (usage : ParsedUsage) : Bool :=
  match usage.inputTokens.value, usage.outputTokens.value, usage.totalTokens.value with
  | some input, some output, some total => decide (input + output ≠ total)
  | _, _, _ => false

def invalid (usage : ParsedUsage) : Bool :=
  usage.inputTokens.invalid || usage.outputTokens.invalid || usage.totalTokens.invalid ||
    usage.invalidDetails || usage.cachedInputTokens.invalid ||
    usage.cacheWriteInputTokens.invalid || usage.cachedTokensExceedInput ||
    usage.inconsistentTotals

def status (usage : ParsedUsage) : UsageTelemetryStatus :=
  if usage.invalid = true then .invalid
  else if usage.coreMissing = true ∨ usage.cachedInputTokens.value = none then .partly
  else .reported

end ParsedUsage

def extractUsageTokens (value : Option Json) : Option UsageTokens :=
  match value with
  | none => none
  | some (.obj fields) =>
    let usage := parseUsage (.obj fields)
    some
      { inputTokens := usage.inputTokens.value
        cachedInputTokens := usage.cachedInputTokens.value
        cacheWriteInputTokens := usage.cacheWriteInputTokens.value
        outputTokens := usage.outputTokens.value
        totalTokens := usage.totalTokens.value
        status := usage.status
        buyerCostMicro := (Json.get (.obj fields) "buyer_cost_micro").map fun cost =>
          (parseUsageToken (some cost)).value }
  | some _ => some .invalid

structure ChatUsage where
  promptTokens : ℤ
  completionTokens : ℤ
  totalTokens : ℤ
  cachedTokens : Option ℤ
  cacheWriteTokens : Option ℤ
deriving DecidableEq

def toChatUsage (usage : Option UsageTokens) : Option ChatUsage :=
  usage.bind fun usage =>
    match usage.inputTokens, usage.outputTokens, usage.totalTokens with
    | some input, some output, some total =>
      some ⟨input, output, total, usage.cachedInputTokens, usage.cacheWriteInputTokens⟩
    | _, _, _ => none

/-! ### Failures -/

/-- What a stream may fail with: an error of its protocol, or something that its iterator throws. -/
inductive StreamFailure
  | protocol (error : ResponsesStreamError)
  | thrown (timeout inactivity : Bool)
deriving DecidableEq

/-- What the signals of a request say. -/
structure Signals where
  /-- One of them was aborted with a timeout. -/
  timeout : Bool
  aborted : Bool
  downstreamAborted : Bool

/-- Nothing was aborted. -/
def Signals.quiet : Signals := ⟨false, false, false⟩

/-- `ResponseStreamTerminalType`, as far as a failure gives it. -/
inductive StreamFailureType
  | deadline
  | cancelled
  | eof
  | error
deriving DecidableEq

def classifyStreamFailure (failure : StreamFailure) (signals : Signals) : StreamFailureType :=
  if (match failure with
      | .thrown timeout _ => timeout
      | .protocol _ => false) || signals.timeout then
    .deadline
  else if signals.downstreamAborted = true then .cancelled
  else if signals.aborted = true then .deadline
  else
    match failure with
    | .thrown _ true => .deadline
    | .thrown _ false => .error
    | .protocol error => if error.kind = .prematureEof then .eof else .error

/-! ### The reservation -/

/-- The terminal state of `meteredTransportTerminalState`. -/
inductive MeteredTerminalState
  | completed
  | failed
  | incomplete
deriving DecidableEq

def meteredTransportTerminalState (eventType : String) : Option MeteredTerminalState :=
  if eventType = "response.completed" then some .completed
  else if eventType = "response.failed" ∨ eventType = "error" then some .failed
  else if eventType = "response.incomplete" then some .incomplete
  else none

/-- What is recorded for a reservation. -/
inductive MeteredOutcome
  | terminal (state : MeteredTerminalState) (usage : Option UsageTokens)
  | ambiguous
  | cancelled
deriving DecidableEq

/-- `createMeteredTransportLifecycle`, with the outcomes that were recorded. -/
structure MeteredTransportLifecycle where
  recorded : Bool
  outcomes : List MeteredOutcome
deriving DecidableEq

namespace MeteredTransportLifecycle

/-- Nothing is recorded yet. -/
def fresh : MeteredTransportLifecycle := ⟨false, []⟩

def schedule (lifecycle : MeteredTransportLifecycle) (outcome : MeteredOutcome) :
    MeteredTransportLifecycle :=
  if lifecycle.recorded = true then lifecycle else ⟨true, lifecycle.outcomes ++ [outcome]⟩

def terminal (lifecycle : MeteredTransportLifecycle) (eventType : String)
    (usage : Option UsageTokens) : MeteredTransportLifecycle :=
  match meteredTransportTerminalState eventType with
  | none => lifecycle
  | some state => lifecycle.schedule (.terminal state usage)

def ambiguous (lifecycle : MeteredTransportLifecycle) : MeteredTransportLifecycle :=
  lifecycle.schedule .ambiguous

def cancelled (lifecycle : MeteredTransportLifecycle) : MeteredTransportLifecycle :=
  lifecycle.schedule .cancelled

end MeteredTransportLifecycle

end UbqGateway.Chat
