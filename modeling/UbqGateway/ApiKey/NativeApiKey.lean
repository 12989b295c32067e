import Mathlib.Order.Lattice

/-!
# The plans of the API key usage ledger

The types of `src/authority/native-contracts.ts` and the functions of
`src/authority/native-api-key.ts` that decide a reservation, a dispatch, a release and a
cancellation.  A window counts the requests of a key that are reserved and those that are
committed, and every request has a row of its own.

Numbers are integers.  The version field of the rows, which is always 3, and the fields of a policy
that belong to the paid fallback are left out.
-/

namespace UbqGateway.ApiKey

/-- `API_KEY_USAGE_V3_RESERVATION_LEASE_MS` -/
def reservationLeaseMs : ℤ := 5 * 60000

/-- `API_KEY_USAGE_V3_RETENTION_MS` -/
def retentionMs : ℤ := 7 * 24 * 60 * 60000

/-- `API_KEY_USAGE_PROVIDERS` -/
inductive ApiKeyUsageProvider
  | cerebras
  | chatgptCodex
  | claudeCode
  | deepseek
  | lithos
  | openrouter
  | removedProvider
  | metered
  | surplus
  | voyage
deriving DecidableEq

structure ApiKeyPolicy where
  tokenHash : String
  keyId : String
  expiresAtMs : ℤ
  usageLimitRequests : ℤ
  windowMs : ℤ
  windowStartMs : ℤ
  usageResetAtMs : ℤ
  policyVersion : String
deriving DecidableEq

structure ApiKeyUsageWindowV3 where
  keyId : String
  policyVersion : String
  windowStartMs : ℤ
  windowResetAtMs : ℤ
  committedRequests : ℤ
  reservedRequests : ℤ
  updatedAtMs : ℤ
deriving DecidableEq

inductive UsageState
  | reserved
  | dispatched
  | released
deriving DecidableEq

structure ApiKeyUsageRequestV3 where
  keyId : String
  requestId : String
  route : String
  state : UsageState
  reservedAtMs : ℤ
  leaseExpiresAtMs : ℤ
  provider : Option ApiKeyUsageProvider
  dispatchedAtMs : Option ℤ
  releasedAtMs : Option ℤ
  releaseReason : Option String
deriving DecidableEq

/-- `currentApiKeyUsageWindow`: the start and the end of the window. -/
def currentApiKeyUsageWindow (usageResetAtMs windowMs nowMs : ℤ) : ℤ × ℤ :=
  let initialStart := usageResetAtMs - windowMs
  if nowMs < usageResetAtMs then (initialStart, usageResetAtMs)
  else
    let elapsedWindows := Int.fdiv (nowMs - initialStart) windowMs
    let start := initialStart + elapsedWindows * windowMs
    (start, start + windowMs)

def makeApiKeyUsageWindowV3 (policy : ApiKeyPolicy) (nowMs : ℤ) : ApiKeyUsageWindowV3 where
  keyId := policy.keyId
  policyVersion := policy.policyVersion
  windowStartMs := policy.windowStartMs
  windowResetAtMs := policy.usageResetAtMs
  committedRequests := 0
  reservedRequests := 0
  updatedAtMs := nowMs

def isSafeNonNegativeInteger (value : ℤ) : Bool := decide (0 ≤ value ∧ value ≤ 9007199254740991)

def normalizeApiKeyUsageWindowV3 (value : Option ApiKeyUsageWindowV3) :
    Option ApiKeyUsageWindowV3 :=
  value.filter fun window =>
    decide (window.keyId ≠ "") && decide (window.policyVersion ≠ "") &&
      isSafeNonNegativeInteger window.windowStartMs &&
      isSafeNonNegativeInteger window.windowResetAtMs &&
      decide (window.windowStartMs < window.windowResetAtMs) &&
      isSafeNonNegativeInteger window.committedRequests &&
      isSafeNonNegativeInteger window.reservedRequests &&
      isSafeNonNegativeInteger window.updatedAtMs

/-- The fields that the state of a request asks for. -/
def stateConsistent (request : ApiKeyUsageRequestV3) : Bool :=
  match request.state with
  | .reserved => request.provider.isNone && request.dispatchedAtMs.isNone &&
      request.releasedAtMs.isNone && request.releaseReason.isNone
  | .dispatched => request.provider.isSome && request.dispatchedAtMs.isSome &&
      request.releasedAtMs.isNone && request.releaseReason.isNone
  | .released => request.provider.isNone && request.dispatchedAtMs.isNone &&
      request.releasedAtMs.isSome && request.releaseReason.isSome

def normalizeApiKeyUsageRequestV3 (value : Option ApiKeyUsageRequestV3) :
    Option ApiKeyUsageRequestV3 :=
  value.filter fun request =>
    decide (request.keyId ≠ "") && decide (request.requestId ≠ "") &&
      decide (request.route ≠ "") && isSafeNonNegativeInteger request.reservedAtMs &&
      isSafeNonNegativeInteger request.leaseExpiresAtMs &&
      request.dispatchedAtMs.all isSafeNonNegativeInteger &&
      request.releasedAtMs.all isSafeNonNegativeInteger && stateConsistent request

def matchingApiKeyUsageWindowV3 (value : Option ApiKeyUsageWindowV3) (policy : ApiKeyPolicy) :
    Option ApiKeyUsageWindowV3 :=
  (normalizeApiKeyUsageWindowV3 value).filter fun window =>
    decide (window.keyId = policy.keyId) && decide (window.policyVersion = policy.policyVersion) &&
      decide (window.windowStartMs = policy.windowStartMs) &&
      decide (window.windowResetAtMs = policy.usageResetAtMs)

theorem matchingApiKeyUsageWindowV3_eq_some
    (h : matchingApiKeyUsageWindowV3 value policy = some window) :
    value = some window ∧ window.windowResetAtMs = policy.usageResetAtMs := by
  obtain ⟨hnrm, hmat⟩ := Option.filter_eq_some_iff.mp h
  simp only [Bool.and_eq_true, decide_eq_true_eq] at hmat
  exact ⟨(Option.filter_eq_some_iff.mp hnrm).1, hmat.2⟩

def apiKeyUsageV3RetentionMs (windowResetAtMs nowMs : ℤ) : ℤ :=
  max 1 (windowResetAtMs + retentionMs - nowMs)

def isApiKeyUsageReservationExpired (request : ApiKeyUsageRequestV3) (nowMs : ℤ) : Bool :=
  decide (request.state = .reserved ∧ request.leaseExpiresAtMs ≤ nowMs)

/-! ### The plans -/

structure ApiKeyUsageSnapshot where
  request : Option ApiKeyUsageRequestV3
  window : Option ApiKeyUsageWindowV3

structure ApiKeyUsageWritePlan where
  request : ApiKeyUsageRequestV3
  window : ApiKeyUsageWindowV3
  expireIn : ℤ
deriving DecidableEq

def writePlan (request : ApiKeyUsageRequestV3) (window : ApiKeyUsageWindowV3) (nowMs : ℤ) :
    ApiKeyUsageWritePlan :=
  ⟨request, window, apiKeyUsageV3RetentionMs window.windowResetAtMs nowMs⟩

/-- Why a reservation is unavailable. -/
inductive UnavailableReason
  | requestMalformed
  | identityConflict
  | identityConsumed
  | windowMalformed
deriving DecidableEq

inductive ApiKeyUsageReservationPlan
  | write (plan : ApiKeyUsageWritePlan)
  | reuse
  | full (window : ApiKeyUsageWindowV3)
  | unavailable (reason : UnavailableReason)

inductive ApiKeyUsageDispatchPlan
  | write (plan : ApiKeyUsageWritePlan)
  | alreadyDispatched
  | invalid

inductive ApiKeyUsageReleasePlan
  | write (plan : ApiKeyUsageWritePlan)
  | missing
  | invalid
  | settled

def planApiKeyUsageReservation (policy : ApiKeyPolicy) (requestId route : String)
    (snapshot : ApiKeyUsageSnapshot) (nowMs : ℤ) : ApiKeyUsageReservationPlan :=
  match snapshot.request, normalizeApiKeyUsageRequestV3 snapshot.request with
  | some _, none => .unavailable .requestMalformed
  | _, some request =>
    if request.keyId ≠ policy.keyId ∨ request.requestId ≠ requestId ∨ request.route ≠ route then
      .unavailable .identityConflict
    else if request.state ≠ .reserved then .unavailable .identityConsumed
    else .reuse
  | none, none =>
    let window := if snapshot.window = none then some (makeApiKeyUsageWindowV3 policy nowMs)
      else matchingApiKeyUsageWindowV3 snapshot.window policy
    match window with
    | none => .unavailable .windowMalformed
    | some window =>
      if policy.usageLimitRequests ≠ -1 ∧
          policy.usageLimitRequests ≤ window.committedRequests + window.reservedRequests then
        .full window
      else .write (writePlan
        { keyId := policy.keyId
          requestId := requestId
          route := route
          state := .reserved
          reservedAtMs := nowMs
          leaseExpiresAtMs := nowMs + reservationLeaseMs
          provider := none
          dispatchedAtMs := none
          releasedAtMs := none
          releaseReason := none }
        { window with
          reservedRequests := window.reservedRequests + 1
          updatedAtMs := nowMs } nowMs)

def planApiKeyUsageDispatch (policy : ApiKeyPolicy) (requestId route : String)
    (provider : ApiKeyUsageProvider) (snapshot : ApiKeyUsageSnapshot) (nowMs : ℤ) :
    ApiKeyUsageDispatchPlan :=
  match normalizeApiKeyUsageRequestV3 snapshot.request with
  | none => .invalid
  | some request =>
    if request.keyId ≠ policy.keyId ∨ request.requestId ≠ requestId ∨ request.route ≠ route ∨
        request.state = .released then .invalid
    else if request.state = .dispatched then .alreadyDispatched
    else match matchingApiKeyUsageWindowV3 snapshot.window policy with
    | none => .invalid
    | some window =>
      if window.reservedRequests < 1 then .invalid
      else .write (writePlan
        { request with
          state := .dispatched
          provider := some provider
          dispatchedAtMs := some nowMs }
        { window with
          committedRequests := window.committedRequests + 1
          reservedRequests := window.reservedRequests - 1
          updatedAtMs := nowMs } nowMs)

def planApiKeyUsageReservedRelease (policy : ApiKeyPolicy) (requestId reason : String)
    (snapshot : ApiKeyUsageSnapshot) (nowMs : ℤ) (expectedRoute : Option String) :
    ApiKeyUsageReleasePlan :=
  match normalizeApiKeyUsageRequestV3 snapshot.request with
  | none => if snapshot.request = none then .missing else .invalid
  | some request =>
    if request.keyId ≠ policy.keyId ∨ request.requestId ≠ requestId ∨
        expectedRoute.any (fun route => decide (request.route ≠ route)) = true then .invalid
    else if request.state ≠ .reserved then .settled
    else match matchingApiKeyUsageWindowV3 snapshot.window policy with
    | none => .invalid
    | some window =>
      if window.reservedRequests < 1 then .invalid
      else .write (writePlan
        { request with
          state := .released
          releasedAtMs := some nowMs
          releaseReason := some reason }
        { window with
          reservedRequests := window.reservedRequests - 1
          updatedAtMs := nowMs } nowMs)

def planApiKeyUsageDispatchCancellation (policy : ApiKeyPolicy) (requestId route : String)
    (provider : ApiKeyUsageProvider) (snapshot : ApiKeyUsageSnapshot) (nowMs : ℤ) :
    ApiKeyUsageReleasePlan :=
  match normalizeApiKeyUsageRequestV3 snapshot.request with
  | none => if snapshot.request = none then .missing else .invalid
  | some request =>
    if request.keyId ≠ policy.keyId ∨ request.requestId ≠ requestId ∨ request.route ≠ route then
      .invalid
    else if request.state ≠ .dispatched then .settled
    else if request.provider ≠ some provider then .invalid
    else match matchingApiKeyUsageWindowV3 snapshot.window policy with
    | none => .invalid
    | some window =>
      if window.committedRequests < 1 then .invalid
      else .write (writePlan
        { request with
          state := .released
          provider := none
          dispatchedAtMs := none
          releasedAtMs := some nowMs
          releaseReason := some "transport_cancelled_before_fetch" }
        { window with
          committedRequests := window.committedRequests - 1
          updatedAtMs := nowMs } nowMs)

end UbqGateway.ApiKey
