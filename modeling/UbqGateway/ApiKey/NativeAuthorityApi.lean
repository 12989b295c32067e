import UbqGateway.Library.Table
import UbqGateway.Library.Transaction
import UbqGateway.ApiKey.NativeApiKey
import Mathlib.Data.Prod.Lex
import Mathlib.Data.String.Basic

/-!
# The API key usage ledger of the authority

The class `NativeAuthorityApi` of `src/authority/native-authority-api.ts`: reserving, dispatching,
releasing and cancelling the usage of a request, and reclaiming reservations whose lease has
expired.  Each command runs in one transaction of the authority's database.

The tables are `api_window`, `api_request` and `request_lifetime`, and `runtime_request`, in which
`open` of `native-authority-runtime.ts` finds the request that it has opened before.  The records of
the keys are one function, `currentKeyPolicy`, which the administration may change at any moment.
The commands that only change what a request has observed are one operation, `observe`.
-/

namespace UbqGateway.ApiKey

/-! ### The database -/

/-- The part of `NativeCapability` that the usage ledger reads. -/
structure NativeCapability where
  id : String
  principalId : String
  keyId : Option String
  tokenHash : Option String

/-- What an observer of the response has reported. -/
inductive Delivery
  | delivered
  | interrupted
  | unobserved
deriving DecidableEq

structure Dispatch where
  provider : ApiKeyUsageProvider
  cancellationOwned : Bool
  fetchStarted : Bool
deriving DecidableEq

/-- The provider that responds, and its attempt. -/
structure Responding where
  provider : ApiKeyUsageProvider
  attemptHandle : Option String
deriving DecidableEq

structure Transport extends Responding where
  operationId : String
  startedAtMs : ℤ
deriving DecidableEq

/-- The part of `NativeRequest` that the usage ledger reads. -/
structure NativeRequest where
  handle : String
  runtimeBindingId : String
  principalId : String
  keyId : Option String
  requestId : String
  route : String
  metadataBound : Bool
  apiApplicable : Bool
  api : Option ApiKeyPolicy
  semantic : Option String
  providerObserved : Bool
  delivery : Option Delivery
  transport : Option Transport
  responding : Option Responding
  dispatch : Option Dispatch

/-- `NativeKeyPolicy`, as `currentKeyPolicy` returns it. -/
structure NativeKeyPolicy where
  api : ApiKeyPolicy
  revoked : Bool

structure ApiWindowKey where
  keyId : String
  policyVersion : String
  windowStartMs : ℤ
deriving DecidableEq

/-- The key of a request, whose parent is its window. -/
structure ApiRequestKey where
  window : ApiWindowKey
  requestId : String
deriving DecidableEq

/-- The parts of the key of a request, most significant first. -/
def ApiRequestKey.parts (key : ApiRequestKey) : String ×ₗ String ×ₗ ℤ ×ₗ String :=
  toLex (key.window.keyId, toLex (key.window.policyVersion,
    toLex (key.window.windowStartMs, key.requestId)))

theorem ApiRequestKey.parts_injective : Function.Injective ApiRequestKey.parts := by
  rintro ⟨⟨k, v, s⟩, r⟩ ⟨⟨k', v', s'⟩, r'⟩ h
  simp_all [ApiRequestKey.parts]

/-- The order in which the table lists the requests. -/
instance : LinearOrder ApiRequestKey :=
  LinearOrder.lift' ApiRequestKey.parts ApiRequestKey.parts_injective

def windowKey (policy : ApiKeyPolicy) : ApiWindowKey :=
  ⟨policy.keyId, policy.policyVersion, policy.windowStartMs⟩

def requestKey (policy : ApiKeyPolicy) (requestId : String) : ApiRequestKey :=
  ⟨windowKey policy, requestId⟩

/-- A request that was opened before. -/
structure RuntimeRequest where
  handle : String
  runtimeBindingId : String
  route : String
  path : String

structure SqlState where
  windows : Table ApiWindowKey ApiKeyUsageWindowV3
  requests : Table ApiRequestKey ApiKeyUsageRequestV3
  /-- `request_lifetime`, by handle -/
  lifetimes : Record String NativeRequest
  /-- `runtime_request`, by principal and request -/
  opened : Record (String × String) RuntimeRequest
  /-- by the hash of the token and the key -/
  currentKeyPolicy : String → String → Option NativeKeyPolicy

/-- The body of a transaction; an error is the code of a `NativeAuthorityError`. -/
abbrev SqlM := StateT SqlState (Except String)

inductive NativeReply
  | opened (handle : String)
  | notApplicable
  | unauthorized
  | reserved (policy : ApiKeyPolicy)
  | reuse (policy : ApiKeyPolicy)
  | full (window : ApiKeyUsageWindowV3)
  | unavailable (reason : UnavailableReason)
  | dispatched
  | alreadyDispatched
  | invalid
  | unchanged
  | started
  | released
  | missing
  | settled
  | inspected (live : Bool)
  | done

namespace NativeAuthorityApi

/-! ### Reading and writing -/

def request (cap : NativeCapability) (handle : String) : SqlM NativeRequest := do
  match (← get).lifetimes.lookup handle with
  | none => throw "request_ownership_mismatch"
  | some row =>
    if row.principalId ≠ cap.principalId ∨ row.keyId ≠ cap.keyId ∨
        row.runtimeBindingId ≠ cap.id then throw "request_ownership_mismatch"
    else return row

def save (row : NativeRequest) : SqlM Unit :=
  modify fun state => { state with lifetimes := state.lifetimes.insert row.handle row }

def readWindow (policy : ApiKeyPolicy) (now : ℤ) : SqlM (Option ApiKeyUsageWindowV3) := do
  return (← get).windows.read (windowKey policy) now

/-- `_snapshot`, and the inner function `snapshot` of `reserve`. -/
def snapshotOf (policy : ApiKeyPolicy) (requestId : String) (now : ℤ) :
    SqlM ApiKeyUsageSnapshot := do
  let request := (← get).requests.read (requestKey policy requestId) now
  return ⟨request, ← readWindow policy now⟩

/-- `_write` -/
def writeUsage (policy : ApiKeyPolicy) (plan : ApiKeyUsageWritePlan) (now : ℤ) : SqlM Unit := do
  if isSafeNonNegativeInteger (now + plan.expireIn) = false then throw "invalid_native_write"
  else modify fun state => { state with
    requests := state.requests.write (requestKey policy plan.request.requestId) plan.request
      (now + plan.expireIn)
    windows := state.windows.write (windowKey policy) plan.window (now + plan.expireIn) }

/-! ### Reclaiming -/

/-- One row in `_reclaim`. -/
def releaseExpired (policy : ApiKeyPolicy) (now : ℤ) (row : ApiKeyUsageRequestV3) : SqlM Unit := do
  if isApiKeyUsageReservationExpired row now = true then
    let window ← readWindow policy now
    match planApiKeyUsageReservedRelease policy row.requestId "reservation_lease_expired"
        ⟨some row, window⟩ now none with
    | .write plan => writeUsage policy plan now
    | _ => return ()
  else return ()

/-- The rows of one page in `_reclaim`. -/
def reclaimPage (policy : ApiKeyPolicy) (now : ℤ) :
    List (ApiRequestKey × Stored ApiKeyUsageRequestV3) → SqlM Unit
  | [] => return ()
  | (_, stored) :: page => do
    match normalizeApiKeyUsageRequestV3 (some stored.value) with
    | none => throw "request_malformed"
    | some row =>
      releaseExpired policy now row
      reclaimPage policy now page

/-- The loop of `_reclaim`, for at most `fuel` pages. -/
def reclaimPages (policy : ApiKeyPolicy) (now : ℤ) : ℕ → Option ApiRequestKey → SqlM Unit
  | 0, _ => throw "listing interrupted"
  | fuel + 1, after => do
    let page := (← get).requests.page now (fun key => decide (key.window = windowKey policy)) after
      100
    reclaimPage policy now page
    if page.length < 100 then return ()
    else reclaimPages policy now fuel (page.getLast?.map Prod.fst)

/-- `_reclaim`.  It looks at all rows, so their number bounds the number of pages. -/
def reclaim (policy : ApiKeyPolicy) (now : ℤ) : SqlM Unit := do
  reclaimPages policy now ((← get).requests.entries.length + 1) none

/-! ### The commands -/

/-- The requests whose row has the given key as its parent. -/
def ownersOf (lifetimes : Record String NativeRequest) (key : ApiRequestKey) : List NativeRequest :=
  lifetimes.values.filter fun row => row.api.any fun policy =>
    decide (requestKey policy row.requestId = key)

/-- `_ownsReservation`.  Only a list of one is looked at, so its order does not matter. -/
def ownsReservation (row : NativeRequest) (policy : ApiKeyPolicy) : SqlM Bool := do
  match ownersOf (← get).lifetimes (requestKey policy row.requestId) with
  | [original] => return decide (original.handle = row.handle ∧
      original.runtimeBindingId = row.runtimeBindingId ∧ original.principalId = row.principalId ∧
      original.keyId = row.keyId)
  | _ => return false

/-- What `reserve` does with a plan. -/
def reserveFrom (row : NativeRequest) (policy : ApiKeyPolicy) (now : ℤ) :
    ApiKeyUsageReservationPlan → SqlM NativeReply
  | .full window => return .full window
  | .unavailable reason => return .unavailable reason
  | .reuse => do
    if (← ownsReservation row policy) = true then
      save { row with api := some policy }
      return .reuse policy
    else return .unavailable .identityConflict
  | .write plan => do
    writeUsage policy plan now
    save { row with api := some policy }
    return .reserved policy

/-- The part of `reserve` that comes after the policy was chosen. -/
def reserveUnder (row : NativeRequest) (policy : ApiKeyPolicy) (now : ℤ) : SqlM NativeReply := do
  match planApiKeyUsageReservation policy row.requestId row.route
      (← snapshotOf policy row.requestId now) now with
  | .full _ =>
    -- a full window is looked at again after its expired reservations were released
    reclaim policy now
    reserveFrom row policy now (planApiKeyUsageReservation policy row.requestId row.route
      (← snapshotOf policy row.requestId now) now)
  | plan => reserveFrom row policy now plan

/-- The policy that `reserve` admits a request under: the one of its first admission, or the current
one with the window of the present. -/
def policyFor (row : NativeRequest) (source : ApiKeyPolicy) (now : ℤ) : ApiKeyPolicy :=
  row.api.getD
    { source with
      windowStartMs := (currentApiKeyUsageWindow source.usageResetAtMs source.windowMs now).1
      usageResetAtMs := (currentApiKeyUsageWindow source.usageResetAtMs source.windowMs now).2 }

/-- The policy of the key of a capability, if the key may be used. -/
def authorizedPolicy (state : SqlState) (cap : NativeCapability) (now : ℤ) :
    Option ApiKeyPolicy := do
  let keyId ← cap.keyId
  let tokenHash ← cap.tokenHash
  let source ← state.currentKeyPolicy tokenHash keyId
  if source.api.keyId ≠ keyId ∨ source.api.tokenHash ≠ tokenHash ∨ source.revoked = true ∨
      (source.api.expiresAtMs ≠ -1 ∧ source.api.expiresAtMs ≤ now) then none
  else some source.api

def reserve (cap : NativeCapability) (handle : String) (now : ℤ) : SqlM NativeReply := do
  let row ← request cap handle
  if row.apiApplicable = false then return .notApplicable
  else match authorizedPolicy (← get) cap now with
  | none => return .unauthorized
  | some source =>
    if row.metadataBound = true ∧ row.api = none then throw "api_admission_phase_closed"
    else reserveUnder row (policyFor row source now) now

def dispatch (cap : NativeCapability) (handle : String) (provider : ApiKeyUsageProvider) (now : ℤ) :
    SqlM NativeReply := do
  let row ← request cap handle
  match row.api with
  | none =>
    if row.dispatch.isSome = true then return .unchanged
    else
      save { row with dispatch := some ⟨provider, true, false⟩ }
      return .dispatched
  | some policy =>
    match planApiKeyUsageDispatch policy row.requestId row.route provider
        (← snapshotOf policy row.requestId now) now with
    | .alreadyDispatched => return .alreadyDispatched
    | .invalid => return .invalid
    | .write plan =>
      writeUsage policy plan now
      save { row with dispatch := some ⟨provider, true, false⟩ }
      return .dispatched

def compensationSafe (row : NativeRequest) : Bool :=
  row.transport.isNone && row.responding.isNone && !row.providerObserved && row.semantic.isNone &&
    row.delivery.all fun delivery => decide (delivery = .unobserved)

def assertDispatchReceipt (row : NativeRequest) (now : ℤ) : SqlM Unit := do
  let state ← get
  let undispatched := row.api.any fun policy =>
    decide ((normalizeApiKeyUsageRequestV3 (state.requests.read (requestKey policy row.requestId)
      now)).map (·.state) ≠ some .dispatched)
  if undispatched = true ∨ row.dispatch.any (·.cancellationOwned) = false then
    throw "api_dispatch_receipt_stale"

def start (cap : NativeCapability) (handle : String) (responding : Responding)
    (operationId : String) (now : ℤ) : SqlM NativeReply := do
  let row ← request cap handle
  assertDispatchReceipt row now
  if row.semantic.isSome = true then throw "request_already_terminal"
  else if row.transport.map (·.toResponding) = some responding then return .unchanged
  else match row.dispatch with
  | none => throw "api_dispatch_missing"
  | some dispatch =>
    save { row with
      dispatch := some { dispatch with fetchStarted := true }
      transport := some ⟨responding, operationId, now⟩
      responding := some responding }
    return .started

def settledReply : ApiKeyUsageReleasePlan → NativeReply
  | .write _ => .released
  | .missing => .missing
  | .invalid => .invalid
  | .settled => .settled

def release (cap : NativeCapability) (handle reason : String) (now : ℤ) : SqlM NativeReply := do
  let row ← request cap handle
  if compensationSafe row = false then throw "prefetch_compensation_closed"
  else match row.api with
  | none => return .notApplicable
  | some policy =>
    match planApiKeyUsageReservedRelease policy row.requestId reason
        (← snapshotOf policy row.requestId now) now (some row.route) with
    | .write plan =>
      writeUsage policy plan now
      return .released
    | plan => return settledReply plan

def cancel (cap : NativeCapability) (handle : String) (now : ℤ) : SqlM NativeReply := do
  let row ← request cap handle
  match row.dispatch with
  | none => throw "prefetch_cancellation_not_owned"
  | some dispatch =>
    if dispatch.cancellationOwned = false ∨ dispatch.fetchStarted = true ∨
        compensationSafe row = false then throw "prefetch_cancellation_not_owned"
    else match row.api with
    | none =>
      save { row with dispatch := some { dispatch with cancellationOwned := false } }
      return .released
    | some policy =>
      match planApiKeyUsageDispatchCancellation policy row.requestId row.route dispatch.provider
          (← snapshotOf policy row.requestId now) now with
      | .write plan =>
        writeUsage policy plan now
        save { row with dispatch := some { dispatch with cancellationOwned := false } }
        return .released
      | plan => return settledReply plan

/-- `_resetReservation`: whether the reservation is live. -/
def resetReservation (keyId : String) (key : ApiRequestKey) (value : ApiKeyUsageRequestV3)
    (now : ℤ) : SqlM Bool := do
  match normalizeApiKeyUsageRequestV3 (some value) with
  | none => throw "API key quota ledger is unavailable"
  | some row =>
    if row.keyId ≠ keyId then throw "API key quota ledger is unavailable"
    else if row.state ≠ .reserved then return false
    else match ownersOf (← get).lifetimes key with
    | [lifetime] =>
      match lifetime.api with
      | none => throw "api_reset_original_identity_missing"
      | some policy =>
        if lifetime.keyId ≠ some keyId then throw "api_reset_original_identity_missing"
        else if isApiKeyUsageReservationExpired row now = false then return true
        else
          let window ← readWindow policy now
          match planApiKeyUsageReservedRelease policy row.requestId "reservation_lease_expired"
              ⟨some row, window⟩ now (some lifetime.route) with
          | .write plan =>
            writeUsage policy plan now
            return false
          | _ => throw "API key quota ledger is unavailable"
    | _ => throw "api_reset_original_identity_missing"

/-- The rows of one page in `inspectKeyReset`: whether one of them is live. -/
def inspectPage (keyId : String) (now : ℤ) :
    List (ApiRequestKey × Stored ApiKeyUsageRequestV3) → Bool → SqlM Bool
  | [], live => return live
  | (key, stored) :: page, live => do
    let reserved ← resetReservation keyId key stored.value now
    inspectPage keyId now page (live || reserved)

/-- The loop of `inspectKeyReset`, for at most `fuel` pages. -/
def inspectPages (keyId : String) (now : ℤ) : ℕ → Option ApiRequestKey → Bool → SqlM Bool
  | 0, _, _ => throw "listing interrupted"
  | fuel + 1, after, live => do
    let page := (← get).requests.page now (fun key => decide (key.window.keyId = keyId)) after 100
    let live ← inspectPage keyId now page live
    if page.length < 100 then return live
    else inspectPages keyId now fuel (page.getLast?.map Prod.fst) live

def inspectKeyReset (keyId : String) (now : ℤ) : SqlM Bool := do
  inspectPages keyId now ((← get).requests.entries.length + 1) none false

/-- `open` of `native-authority-runtime.ts`; `handle` is the new identifier. -/
def openRequest (cap : NativeCapability) (requestId route path handle : String) (now : ℤ) :
    SqlM NativeReply := do
  if cap.keyId.isSome = true ∧ authorizedPolicy (← get) cap now = none then return .unauthorized
  else match (← get).opened.lookup (cap.principalId, requestId) with
  | some prior =>
    if prior.runtimeBindingId ≠ cap.id ∨ prior.route ≠ route ∨ prior.path ≠ path then
      throw "request_intent_conflict"
    else return .opened prior.handle
  | none =>
    save
      { handle := handle
        runtimeBindingId := cap.id
        principalId := cap.principalId
        keyId := cap.keyId
        requestId := requestId
        route := route
        metadataBound := false
        apiApplicable := cap.keyId.isSome
        api := none
        semantic := none
        providerObserved := false
        delivery := none
        transport := none
        responding := none
        dispatch := none }
    modify fun state => { state with
      opened := state.opened.insert (cap.principalId, requestId) ⟨handle, cap.id, route, path⟩ }
    return .opened handle

end NativeAuthorityApi

/-! ### Operations -/

/-- What the other commands may report of a request. -/
structure Observation where
  metadataBound : Bool
  semantic : Option String
  providerObserved : Bool
  delivery : Option Delivery
  responding : Option Responding
  fetchStarted : Bool

/-- The commands of the authority that touch the usage ledger or what it reads. -/
inductive ApiOperation
  | administer (policies : String → String → Option NativeKeyPolicy)
  | openRequest (cap : NativeCapability) (requestId route path handle : String)
  | reserve (cap : NativeCapability) (handle : String)
  | dispatch (cap : NativeCapability) (handle : String) (provider : ApiKeyUsageProvider)
  | start (cap : NativeCapability) (handle : String) (responding : Responding)
      (operationId : String)
  | release (cap : NativeCapability) (handle reason : String)
  | cancel (cap : NativeCapability) (handle : String)
  | inspectKeyReset (keyId : String)
  | observe (handle : String) (observation : Observation)

def NativeRequest.observed (row : NativeRequest) (observation : Observation) : NativeRequest :=
  { row with
    metadataBound := observation.metadataBound
    semantic := observation.semantic
    providerObserved := observation.providerObserved
    delivery := observation.delivery
    responding := observation.responding
    dispatch := row.dispatch.map fun dispatch =>
      { dispatch with fetchStarted := dispatch.fetchStarted || observation.fetchStarted } }

/-- The body of the transaction of a command. -/
def ApiOperation.body (now : ℤ) : ApiOperation → SqlM NativeReply
  | .administer policies => do
    modify fun state => { state with currentKeyPolicy := policies }
    return .done
  | .openRequest cap requestId route path handle =>
    NativeAuthorityApi.openRequest cap requestId route path handle now
  | .reserve cap handle => NativeAuthorityApi.reserve cap handle now
  | .dispatch cap handle provider => NativeAuthorityApi.dispatch cap handle provider now
  | .start cap handle responding operationId =>
    NativeAuthorityApi.start cap handle responding operationId now
  | .release cap handle reason => NativeAuthorityApi.release cap handle reason now
  | .cancel cap handle => NativeAuthorityApi.cancel cap handle now
  | .inspectKeyReset keyId => do
    let live ← NativeAuthorityApi.inspectKeyReset keyId now
    return .inspected live
  | .observe handle observation => do
    match (← get).lifetimes.lookup handle with
    | none => throw "request_ownership_mismatch"
    | some row =>
      NativeAuthorityApi.save (row.observed observation)
      return .done

/-- What a command answers, and the tables after it. -/
def ApiOperation.execute (operation : ApiOperation) (now : ℤ) (state : SqlState) :
    Except String NativeReply × SqlState :=
  transaction (operation.body now) state

end UbqGateway.ApiKey
