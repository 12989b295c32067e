import UbqGateway.Library.Json
import Mathlib.Algebra.Ring.Nat
import Mathlib.Data.List.Sort

/-!
# The commands of the native authority

The wire format of `src/authority/native-authority-rpc.ts`: the methods, the role that each of them
asks for, the guards of their arguments, and the canonical form by which a command is compared with
the one of a receipt.

Commands are JSON values.  A property that is `undefined` has no place in them: the guards let it
pass where it is optional, but `nativeCommandBytes` refuses it, and with it the command.  The text
that `JSON.stringify` makes of a canonical value is represented by the value, from which it can be
read back; only its length in bytes is a parameter, since numbers are not spelled out here.
-/

namespace UbqGateway.Native

structure NativeAuthorityError where
  code : String
  status : ℕ
deriving DecidableEq

inductive NativeRole
  | inference
  | transport
  | terminal
  | billing
  | reconcile
  | quotaAdmin
  | reset
  | observer
deriving DecidableEq

inductive NativeMethod
  | openAuthenticatedRequest
  | reserveApiUsage
  | bindValidatedRequestMetadata
  | recordTransportStarted
  | markApiDispatch
  | releaseApiUndispatched
  | recordApiDispatchCancellation
  | reserveKernelUsage
  | recordKernelTerminalIntent
  | settleKernelUsage
  | renewKernelReservation
  | reclaimExpiredKernelReservations
  | setKernelQuota
  | deleteKernelQuota
  | acquireKernelDefaultCutover
  | selectCodexAccount
  | recordCodexAttemptSignal
  | releaseCodexProbe
  | electCodexResetProbe
  | refreshCodexAdmission
  | reservePaidAttempt
  | recordPaidAttemptLifecycle
  | releasePaidBeforeFetch
  | recordVerifiedPaidBilling
  | deferPaidReconciliation
  | claimPaidReconciliation
  | finishPaidReconciliation
  | foldPaidBackfillPage
  | beginPaidKeyDeletion
  | recordSemanticTerminal
  | recordDeliveryObservation
  | readRequestStatus
deriving DecidableEq

def nativeMethodOf : String → Option NativeMethod
  | "openAuthenticatedRequest" => some .openAuthenticatedRequest
  | "reserveApiUsage" => some .reserveApiUsage
  | "bindValidatedRequestMetadata" => some .bindValidatedRequestMetadata
  | "recordTransportStarted" => some .recordTransportStarted
  | "markApiDispatch" => some .markApiDispatch
  | "releaseApiUndispatched" => some .releaseApiUndispatched
  | "recordApiDispatchCancellation" => some .recordApiDispatchCancellation
  | "reserveKernelUsage" => some .reserveKernelUsage
  | "recordKernelTerminalIntent" => some .recordKernelTerminalIntent
  | "settleKernelUsage" => some .settleKernelUsage
  | "renewKernelReservation" => some .renewKernelReservation
  | "reclaimExpiredKernelReservations" => some .reclaimExpiredKernelReservations
  | "setKernelQuota" => some .setKernelQuota
  | "deleteKernelQuota" => some .deleteKernelQuota
  | "acquireKernelDefaultCutover" => some .acquireKernelDefaultCutover
  | "selectCodexAccount" => some .selectCodexAccount
  | "recordCodexAttemptSignal" => some .recordCodexAttemptSignal
  | "releaseCodexProbe" => some .releaseCodexProbe
  | "electCodexResetProbe" => some .electCodexResetProbe
  | "refreshCodexAdmission" => some .refreshCodexAdmission
  | "reservePaidAttempt" => some .reservePaidAttempt
  | "recordPaidAttemptLifecycle" => some .recordPaidAttemptLifecycle
  | "releasePaidBeforeFetch" => some .releasePaidBeforeFetch
  | "recordVerifiedPaidBilling" => some .recordVerifiedPaidBilling
  | "deferPaidReconciliation" => some .deferPaidReconciliation
  | "claimPaidReconciliation" => some .claimPaidReconciliation
  | "finishPaidReconciliation" => some .finishPaidReconciliation
  | "foldPaidBackfillPage" => some .foldPaidBackfillPage
  | "beginPaidKeyDeletion" => some .beginPaidKeyDeletion
  | "recordSemanticTerminal" => some .recordSemanticTerminal
  | "recordDeliveryObservation" => some .recordDeliveryObservation
  | "readRequestStatus" => some .readRequestStatus
  | _ => none

def nativeMethodRoles : NativeMethod → NativeRole
  | .openAuthenticatedRequest | .bindValidatedRequestMetadata | .reserveApiUsage => .inference
  | .recordTransportStarted | .markApiDispatch | .releaseApiUndispatched
  | .recordApiDispatchCancellation => .transport
  | .reserveKernelUsage => .inference
  | .recordKernelTerminalIntent | .settleKernelUsage | .renewKernelReservation => .terminal
  | .reclaimExpiredKernelReservations => .reconcile
  | .setKernelQuota | .deleteKernelQuota | .acquireKernelDefaultCutover => .quotaAdmin
  | .selectCodexAccount => .inference
  | .recordCodexAttemptSignal | .releaseCodexProbe => .transport
  | .electCodexResetProbe => .reset
  | .refreshCodexAdmission => .transport
  | .reservePaidAttempt => .inference
  | .recordPaidAttemptLifecycle | .releasePaidBeforeFetch => .transport
  | .recordVerifiedPaidBilling => .billing
  | .deferPaidReconciliation | .claimPaidReconciliation | .finishPaidReconciliation
  | .foldPaidBackfillPage => .reconcile
  | .beginPaidKeyDeletion => .quotaAdmin
  | .recordSemanticTerminal => .terminal
  | .recordDeliveryObservation => .transport
  | .readRequestStatus => .observer

/-! ### Guards -/

/-- A guard of a property, which is `none` when it is not there. -/
abbrev Guard := Option Json → Bool

/-- The number of UTF-16 code units of a text. -/
def utf16Length (s : String) : ℕ := (s.toList.map fun c => if c.val < 0x10000 then 1 else 2).sum

def text : Guard
  | some (.str s) => decide (0 < utf16Length s) && decide (utf16Length s ≤ 1000) &&
      s.toList.all fun c => decide (32 ≤ c.val)
  | _ => false

def integer : Guard := fun value => (Json.safeNonNegative? value).isSome

def finite : Guard := fun value => (Json.number? value).any fun q => decide (0 ≤ q)

def boolean : Guard
  | some (.bool _) => true
  | _ => false

def signedInteger : Guard := fun value => (Json.safeInteger? value).any fun n => decide (-1 ≤ n)

def oneOf (values : List Json) : Guard := fun value =>
  values.any fun allowed => Json.strictEq value (some allowed)

def nullable (guard : Guard) : Guard := fun value => Json.isNull value || guard value

def optional (guard : Guard) : Guard := fun value => value.isNone || guard value

/-- `nativeObject`, giving the fields. -/
def nativeObject : Option Json → Option (List (String × Json))
  | some (.obj fields) => some fields
  | _ => none

def shape (guards : List (String × Guard)) : Guard := fun value =>
  (nativeObject value).any fun fields =>
    fields.all (fun field => (guards.lookup field.1).isSome) &&
      guards.all fun guard => guard.2 (fields.lookup guard.1)

def apiKeyUsageProviders : List String :=
  ["cerebras", "chatgpt_codex", "claude_code", "deepseek", "lithos", "openrouter",
    "removed_provider", "metered", "surplus", "voyage"]

/-- `oneOf` of texts. -/
def oneOfTexts (values : List String) : Guard := oneOf (values.map Json.str)

/-- `handle` -/
def handleGuard : String × Guard := ("handle", text)

/-- `attempt` -/
def attemptGuard : String × Guard := ("attemptHandle", text)

/-- `page` -/
def pageGuards : List (String × Guard) :=
  [("cursor", optional text),
    ("limit", fun value => (Json.safeInteger? value).any fun n => decide (1 ≤ n ∧ n ≤ 100))]

def terminal : Guard := oneOfTexts ["committed", "released"]

def scope : Guard := oneOfTexts ["repo", "org"]

def usage : Guard :=
  shape [("input_tokens", nullable integer), ("cached_input_tokens", nullable integer),
    ("output_tokens", nullable integer)]

/-- The items of an array satisfy a condition, and there are at most so many. -/
def itemsGuard (limit : ℕ) (guard : Guard) : Guard := fun value =>
  (Json.items? value).any fun items =>
    decide (items.length ≤ limit) && items.all fun item => guard (some item)

/-- A text of at most so many code units. -/
def textUpTo (limit : ℕ) : Guard := fun value =>
  (Json.string? value).any fun s => decide (utf16Length s ≤ limit)

def headerPair : Guard
  | some (.arr [name, value]) => text (some name) && textUpTo 4000 (some value)
  | _ => false

def response : Guard :=
  shape [("status", oneOf [.num 429]), ("headers", itemsGuard 64 headerPair),
    ("body", textUpTo 48000)]

def guards : NativeMethod → Guard
  | .openAuthenticatedRequest => shape [("requestId", text), ("route", text), ("path", text)]
  | .reserveApiUsage => shape [handleGuard]
  | .bindValidatedRequestMetadata =>
    shape [handleGuard, ("model", text), ("stream", boolean), ("reasoning", nullable text)]
  | .recordTransportStarted =>
    shape [handleGuard, ("provider", oneOfTexts apiKeyUsageProviders),
      ("attemptHandle", optional text)]
  | .markApiDispatch => shape [handleGuard, ("provider", oneOfTexts apiKeyUsageProviders)]
  | .releaseApiUndispatched => shape [handleGuard, ("reason", text)]
  | .recordApiDispatchCancellation => shape [handleGuard]
  | .reserveKernelUsage => shape [handleGuard]
  | .recordKernelTerminalIntent => shape [handleGuard, ("terminalState", terminal)]
  | .settleKernelUsage => shape [handleGuard, ("terminalState", terminal), ("reason", text)]
  | .renewKernelReservation => shape [handleGuard]
  | .reclaimExpiredKernelReservations => shape pageGuards
  | .setKernelQuota =>
    shape [("scope", scope), ("usageLimitRequests", signedInteger),
      ("options", shape [("resetUsage", optional boolean),
        ("windowMs", optional fun value => (Json.safeInteger? value).any fun n => decide (0 < n)),
        ("expiresAtMs", optional signedInteger)])]
  | .deleteKernelQuota => shape [("scope", scope)]
  | .acquireKernelDefaultCutover => shape []
  | .selectCodexAccount => shape [handleGuard]
  | .recordCodexAttemptSignal =>
    shape [handleGuard,
      ("signal", oneOfTexts ["success", "credential_invalid", "upstream_timeout", "quota"]),
      ("response", optional response), ("recoveryProbe", optional boolean)]
  | .releaseCodexProbe => shape [handleGuard]
  | .electCodexResetProbe => shape [handleGuard, ("proofId", text)]
  | .refreshCodexAdmission => shape [handleGuard]
  | .reservePaidAttempt => shape [handleGuard, ("hopId", text)]
  | .recordPaidAttemptLifecycle =>
    shape [attemptGuard,
      ("patch", shape [("provider_request_id", optional (nullable text)),
        ("dispatch_state", optional (oneOfTexts ["reserved", "dispatched", "not_dispatched"])),
        ("terminal_state",
          optional (oneOfTexts ["pending", "completed", "incomplete", "failed", "cancelled"]))]),
      ("fetchStarted", optional (oneOf [.bool true]))]
  | .releasePaidBeforeFetch => shape [attemptGuard]
  | .recordVerifiedPaidBilling =>
    shape [attemptGuard,
      ("log", shape [("request_id", text), ("quota", finite), ("prompt_tokens", integer),
        ("cached_prompt_tokens", optional integer),
        ("cache_write_prompt_tokens", optional integer), ("completion_tokens", integer),
        ("model", text), ("created_at", finite)]),
      ("surplusBuyerCostMicro", optional integer)]
  | .deferPaidReconciliation => shape [attemptGuard]
  | .claimPaidReconciliation => shape pageGuards
  | .finishPaidReconciliation => shape [("lease", text)]
  | .foldPaidBackfillPage => shape pageGuards
  | .beginPaidKeyDeletion => shape []
  | .recordSemanticTerminal =>
    shape [handleGuard, ("attemptHandle", optional text),
      ("outcome", oneOfTexts ["completed", "incomplete", "failed", "cancelled"]),
      ("usage", optional usage)]
  | .recordDeliveryObservation =>
    shape [handleGuard, ("observation", oneOfTexts ["delivered", "interrupted", "unobserved"])]
  | .readRequestStatus => shape (handleGuard :: pageGuards)

/-! ### Commands -/

mutual

/-- `canonical` of `nativeCommandBytes`: the fields of every object are brought into one order. -/
def canonical : Json → Json
  | .obj fields =>
    .obj ((canonicalFields fields).insertionSort fun a b => decide (a.1 ≤ b.1) = true)
  | .arr items => .arr (canonicalItems items)
  | .null => .null
  | .bool b => .bool b
  | .num q => .num q
  | .str s => .str s

/-- `canonical` of the fields of an object. -/
def canonicalFields : List (String × Json) → List (String × Json)
  | [] => []
  | (key, value) :: fields => (key, canonical value) :: canonicalFields fields

/-- `canonical` of the items of an array. -/
def canonicalItems : List Json → List Json
  | [] => []
  | item :: items => canonical item :: canonicalItems items

end

/-- `NativeCommand`, with its canonical form. -/
structure NativeCommand where
  epoch : String
  operationId : String
  method : NativeMethod
  args : Json
  /-- `nativeCommandBytes` -/
  bytes : Json

def NativeCommand.handle (command : NativeCommand) : Option String :=
  Json.string? (command.args.get "handle")

def NativeCommand.attemptHandle (command : NativeCommand) : Option String :=
  Json.string? (command.args.get "attemptHandle")

/-- The parts of a command that the first check of `parseNativeCommand` asks for, and the arguments,
which are there if no fifth name takes their place. -/
def commandParts (value : Json) : Option (String × String × NativeMethod × Option Json) :=
  match nativeObject (some value) with
  | none => none
  | some fields =>
    if fields.length = 4 ∧ text (fields.lookup "epoch") = true ∧
        text (fields.lookup "operationId") = true then
      match fields.lookup "epoch", fields.lookup "operationId",
          (Json.string? (fields.lookup "method")).bind nativeMethodOf with
      | some (.str epoch), some (.str operationId), some method =>
        some (epoch, operationId, method, fields.lookup "args")
      | _, _, _ => none
    else none

/-- `parseNativeCommand`; `byteLength` is the length of the text of a canonical value in UTF-8. -/
def parseNativeCommand (byteLength : Json → ℕ) (value : Json) :
    Except NativeAuthorityError NativeCommand :=
  match commandParts value with
  | none => .error ⟨"invalid_authority_operation", 400⟩
  | some (_, _, _, none) => .error ⟨"invalid_authority_arguments", 400⟩
  | some (epoch, operationId, method, some args) =>
    if guards method (some args) = false then .error ⟨"invalid_authority_arguments", 400⟩
    else if 65536 < byteLength (canonical value) then .error ⟨"authority_command_too_large", 413⟩
    else .ok ⟨epoch, operationId, method, args, canonical value⟩

end UbqGateway.Native
