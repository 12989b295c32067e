import UbqGateway.Kernel.NativeKernel
import UbqGateway.Paid.Contracts

/-!
# The paid fallback's decisions

The pure functions of `src/authority/native-paid.ts`: what a client of the ledger decides from the
rows it has read.  A row that was read is an `Option`, `none` when the key is absent.  The time
after which the store drops a row (`expireIn`) is not part of a plan here: the store keeps what it
is given.
-/

namespace UbqGateway.Paid

open Authority (isSafeInteger)
open Kernel (jsWhitespace)

/-! ### Constants -/

def maxCasAttempts : ℕ := 128

def retryDelaysMs : List ℤ := [5000, 30000, 120000, 600000, 3600000, 21600000]

def unresolvedAfterMs : ℤ := 24 * 60 * 60000

def reconciliationLeaseMs : ℤ := 60000

def paidFallbackBackfillLeaseMs : ℤ := 5 * 60000

def paidFallbackUsageRollupBucketMs : ℤ := 60 * 60 * 1000

def paidFallbackUsageRollupShardCount : ℕ := 16

def paidFallbackNoLimit : ℤ := -1

def microcreditsPerCredit : ℤ := 1000000

/-! ### Validators -/

/-- `isSafeUsageCount`, and `safeInteger` with its default bound. -/
def isSafeUsageCount (value : ℤ) : Bool := isSafeInteger value && decide (0 ≤ value)

def isPositiveSafeInteger (value : ℤ) : Bool := isSafeInteger value && decide (0 < value)

/-- `isApiKeyId`; the length counts UTF-16 code units, of which an id has at most 200. -/
def isApiKeyId (value : String) : Bool :=
  decide (0 < value.length) && decide ((value.toList.map Kernel.utf16Units).sum ≤ 200)

def isPaidFallbackWindowV3 (window : PaidFallbackWindowV3) : Bool :=
  isApiKeyId window.keyId && decide (window.policyVersion ≠ "") &&
    isPositiveSafeInteger window.windowResetAtMs &&
    (decide (window.limitMicrocredits = -1) || isPositiveSafeInteger window.limitMicrocredits) &&
    isSafeUsageCount window.settledMicrocredits && isSafeUsageCount window.reservedMicrocredits &&
    isSafeUsageCount window.pendingCount && isPositiveSafeInteger window.updatedAtMs

def isPaidFallbackReconciliationGate : Option PaidFallbackReconciliationGateV3 → Bool
  | none => false
  | some gate => gate.nextDueAtMs.all isSafeUsageCount

/-- A finite number that is not negative. -/
def nonNegativeFinite (value : ℚ) : Bool := decide (0 ≤ value) && decide (value < 2 ^ 1024)

def isPaidFallbackUsageRollup (rollup : PaidFallbackUsageRollup) : Bool :=
  isSafeUsageCount rollup.bucketStartAtMs && decide (rollup.model ≠ "") &&
    decide (rollup.provider ≠ "") && isSafeUsageCount rollup.requestCount &&
    nonNegativeFinite rollup.quotaSum && isSafeUsageCount rollup.inputTokens &&
    isSafeUsageCount rollup.cachedInputTokens && isSafeUsageCount rollup.outputTokens &&
    nonNegativeFinite rollup.spendMicrocredits && isSafeUsageCount rollup.firstRequestAtMs &&
    isSafeUsageCount rollup.lastRequestAtMs && isSafeUsageCount rollup.updatedAtMs

/-- `isBillableRequestV3` of a stored row. -/
def isBillableRequestV3 (request : PaidFallbackRequestV3) : Bool :=
  decide (request.billingState ≠ .settled) && decide (request.billingState ≠ .notBilled)

/-! ### The reconciliation gate -/

def paidFallbackReconciliationGateDueNow (gate : Option PaidFallbackReconciliationGateV3)
    (now : ℤ) : PaidFallbackReconciliationGateV3 :=
  let current :=
    if isPaidFallbackReconciliationGate gate = true then gate.bind (·.nextDueAtMs) else none
  ⟨some (current.elim now fun due => min due now)⟩

def paidFallbackReconciliationGateNeedsArm (gate : Option PaidFallbackReconciliationGateV3)
    (now : ℤ) : Bool :=
  if isPaidFallbackReconciliationGate gate = true then
    match gate.bind (·.nextDueAtMs) with
    | none => true
    | some due => decide (now < due)
  else true

def paidFallbackGateAfterScanV3 (earliestDueAtMs : Option ℤ) : PaidFallbackReconciliationGateV3 :=
  ⟨earliestDueAtMs⟩

/-! ### Admission -/

def defaultPaidFallbackWindowV3 (input : NativePaidAdmissionInput) : PaidFallbackWindowV3 where
  keyId := input.keyId
  policyVersion := input.policyVersion
  windowResetAtMs := input.windowResetAtMs
  limitMicrocredits := input.limitMicrocredits
  settledMicrocredits := input.initialSettledMicrocredits
  reservedMicrocredits := 0
  pendingCount := 0
  updatedAtMs := input.createdAtMs

def buildPaidFallbackRequestV3 (input : NativePaidAdmissionInput) (reservation now : ℤ) :
    PaidFallbackRequestV3 where
  keyId := input.keyId
  requestId := input.requestId
  policyVersion := input.policyVersion
  route := input.route
  path := input.path
  model := input.model
  stream := input.stream
  reasoning := input.reasoning
  provider := none
  windowResetAtMs := input.windowResetAtMs
  reservedMicrocredits := reservation
  quotaPerCredit := input.quotaPerCredit
  providerRequestId := none
  providerQuota := none
  inputTokens := none
  cachedInputTokens := none
  outputTokens := none
  dispatchState := if input.dispatchIntent = true then .dispatched else .reserved
  terminalState := .pending
  spendMicrocredits := none
  billingState := .pending
  reconciliationAttempts := 0
  lastReconciliationAtMs := none
  dispatchedAtMs := if input.dispatchIntent = true then some now else none
  terminalAtMs := none
  settledAtMs := none
  createdAtMs := input.createdAtMs
  updatedAtMs := now
  usageRollupAtMs := none

def existingReservationV3 (input : NativePaidAdmissionInput) (existing : PaidFallbackRequestV3) :
    PaidFallbackAdmissionV3 where
  keyId := input.keyId
  requestId := input.requestId
  createdAtMs := existing.createdAtMs
  reservedMicrocredits := existing.reservedMicrocredits
  quotaPerCredit := input.quotaPerCredit
  windowResetAtMs := existing.windowResetAtMs

def isInvalidAdmissionPolicy (input : NativePaidAdmissionInput) (unlimited : Bool)
    (maximumExposure : Option ℤ) : Bool :=
  (!unlimited && !isPositiveSafeInteger input.limitMicrocredits) ||
    !isSafeInteger input.initialSettledMicrocredits ||
    decide (input.initialSettledMicrocredits < 0) ||
    !isPositiveSafeInteger input.quotaPerCredit ||
    (!unlimited && !maximumExposure.any isPositiveSafeInteger)

def buildPaidFallbackAdmissionPlanV3 (input : NativePaidAdmissionInput) (unlimited : Bool)
    (transitioned : PaidFallbackWindowV3) (reservation now : ℤ) : NativePaidAdmissionWrite where
  request := buildPaidFallbackRequestV3 input reservation now
  pending := ⟨now, now⟩
  window :=
    if unlimited = true then none
    else some { transitioned with
      reservedMicrocredits := transitioned.reservedMicrocredits + reservation
      pendingCount := transitioned.pendingCount + 1
      updatedAtMs := now }
  reservation :=
    { keyId := input.keyId
      requestId := input.requestId
      createdAtMs := input.createdAtMs
      reservedMicrocredits := reservation
      quotaPerCredit := input.quotaPerCredit
      windowResetAtMs := input.windowResetAtMs }
  checkGate := input.dispatchIntent

def planPaidFallbackAdmissionV3 (input : NativePaidAdmissionInput)
    (request : Option PaidFallbackRequestV3) (window : Option PaidFallbackWindowV3)
    (deletionGuard : Option PaidFallbackDeletionGuardV3) (unlimited : Bool)
    (maximumExposure : Option ℤ) (now : ℤ) : NativePaidAdmissionPlan :=
  if deletionGuard.isSome = true then .blocked .invalidPolicy
  else match request with
  | some existing =>
    if isBillableRequestV3 existing = true then .reserved (existingReservationV3 input existing)
    else .blocked .invalidPolicy
  | none =>
    let current := window.getD (defaultPaidFallbackWindowV3 input)
    let policyChanged := !unlimited && (decide (current.policyVersion ≠ input.policyVersion) ||
      decide (current.limitMicrocredits ≠ input.limitMicrocredits))
    let transitioned :=
      if policyChanged = true then { current with
        policyVersion := input.policyVersion
        limitMicrocredits := input.limitMicrocredits
        updatedAtMs := now }
      else current
    let remaining :=
      if unlimited = true then 0
      else transitioned.limitMicrocredits - transitioned.settledMicrocredits -
        transitioned.reservedMicrocredits
    if unlimited = false ∧ remaining ≤ 0 then
      if policyChanged = true then .exhaustedPolicy transitioned else .blocked .limitExceeded
    else
      let reservation :=
        if unlimited = true then 0 else min remaining (maximumExposure.getD 0)
      .write (buildPaidFallbackAdmissionPlanV3 input unlimited transitioned reservation now)

/-! ### The lifecycle of a request -/

def resolveRequestLifecyclePatchV3 (current : PaidFallbackRequestV3)
    (patch : PaidFallbackRequestLifecyclePatchV3) (now : ℤ) : ResolvedRequestLifecycleV3 :=
  let shouldIncrement := patch.incrementReconciliationAttempts &&
    (patch.terminalState.isNone || decide (current.terminalState = .pending))
  { provider := current.provider.or patch.provider
    providerRequestId := current.providerRequestId.or patch.providerRequestId
    dispatchState := if current.dispatchState = .reserved
      then patch.dispatchState.getD current.dispatchState else current.dispatchState
    terminalState := if current.terminalState = .pending
      then patch.terminalState.getD current.terminalState else current.terminalState
    reconciliationAttempts := if shouldIncrement = true then current.reconciliationAttempts + 1
      else patch.reconciliationAttempts.getD current.reconciliationAttempts
    lastReconciliationAtMs := if shouldIncrement = true then some now
      else patch.lastReconciliationAtMs.or current.lastReconciliationAtMs }

def requestLifecycleChangedV3 (current : PaidFallbackRequestV3)
    (resolved : ResolvedRequestLifecycleV3) : Bool :=
  decide (resolved.providerRequestId ≠ current.providerRequestId) ||
    decide (resolved.provider ≠ current.provider) ||
    decide (resolved.dispatchState ≠ current.dispatchState) ||
    decide (resolved.terminalState ≠ current.terminalState) ||
    decide (resolved.reconciliationAttempts ≠ current.reconciliationAttempts) ||
    decide (resolved.lastReconciliationAtMs ≠ current.lastReconciliationAtMs)

def buildRequestLifecycleRowV3 (current : PaidFallbackRequestV3)
    (resolved : ResolvedRequestLifecycleV3) (now : ℤ) : PaidFallbackRequestV3 :=
  { current with
    provider := resolved.provider.or current.provider
    providerRequestId := resolved.providerRequestId
    dispatchState := resolved.dispatchState
    terminalState := resolved.terminalState
    reconciliationAttempts := resolved.reconciliationAttempts
    lastReconciliationAtMs := resolved.lastReconciliationAtMs
    dispatchedAtMs := if resolved.dispatchState = .dispatched ∧ current.dispatchedAtMs = none
      then some now else current.dispatchedAtMs
    terminalAtMs := if resolved.terminalState ≠ .pending ∧ current.terminalAtMs = none
      then some now else current.terminalAtMs
    updatedAtMs := now }

def planPaidFallbackLifecycleV3 (current : PaidFallbackRequestV3)
    (patch : PaidFallbackRequestLifecyclePatchV3) (now : ℤ) : Option NativePaidLifecyclePlan :=
  let resolved := resolveRequestLifecyclePatchV3 current patch now
  if requestLifecycleChangedV3 current resolved = true then
    let dispatchBoundary := decide (current.dispatchState ≠ .dispatched) &&
      (decide (resolved.dispatchState = .dispatched) || resolved.providerRequestId.isSome)
    some {
      request := buildRequestLifecycleRowV3 current resolved now
      readGate := dispatchBoundary ||
        (current.providerRequestId.isNone && resolved.providerRequestId.isSome)
      dispatchBoundary := dispatchBoundary }
  else none

/-- What a release or a settlement leaves of the window of a request. -/
def closedWindow (window : PaidFallbackWindowV3) (request : PaidFallbackRequestV3) (spend now : ℤ) :
    PaidFallbackWindowV3 :=
  { window with
    settledMicrocredits := addAmounts window.settledMicrocredits spend
    reservedMicrocredits := max 0 (window.reservedMicrocredits - request.reservedMicrocredits)
    pendingCount := max 0 (window.pendingCount - 1)
    updatedAtMs := now }

/-- The row that a release writes. -/
def releasedRequest (request : PaidFallbackRequestV3) (now : ℤ) : PaidFallbackRequestV3 :=
  { request with
    dispatchState := .notDispatched
    terminalState := .cancelled
    spendMicrocredits := some 0
    billingState := .notBilled
    terminalAtMs := some (request.terminalAtMs.getD now)
    updatedAtMs := now }

def planPaidFallbackReleaseV3 (request : Option PaidFallbackRequestV3)
    (window : Option PaidFallbackWindowV3) (gate : Option PaidFallbackReconciliationGateV3)
    (allowDispatchIntent : Bool) (now : ℤ) : Option NativePaidReleasePlan :=
  match request with
  | none => none
  | some request =>
    if request.billingState = .pending ∧ request.providerRequestId = none ∧
        (request.dispatchState = .reserved ∨
          allowDispatchIntent = true ∧ request.dispatchState = .dispatched) then
      some {
        request := releasedRequest request now
        -- a release adds nothing to what the window has settled
        window := window.map fun window => closedWindow window request 0 now
        gate := paidFallbackReconciliationGateDueNow gate now }
    else none

/-! ### Deferral -/

/-- The delay after which a request is reconciled again that was reconciled `attempts` times. -/
def retryDelayMs (attempts : ℕ) : ℤ :=
  retryDelaysMs.getD (min (attempts - 1) (retryDelaysMs.length - 1)) 0

def planPaidFallbackDeferralV3 (request : Option PaidFallbackRequestV3)
    (pending : Option PaidFallbackPendingV3) (now : ℤ) : NativePaidDeferralPlan :=
  match pending, request with
  | none, _ => .noop
  | some _, none => .cleanup
  | some pending, some request =>
    if isBillableRequestV3 request = true then
      let attempts := request.reconciliationAttempts + 1
      let delay := retryDelayMs attempts
      .write
        { request with
          reconciliationAttempts := attempts
          lastReconciliationAtMs := some now
          billingState := if unresolvedAfterMs ≤ now - request.createdAtMs then .unresolved
            else request.billingState
          updatedAtMs := now }
        { pending with nextReconciliationAtMs := now + delay } delay
    else .cleanup

/-! ### Rollups -/

/-- The UTF-16 code units of a character. -/
def charCodes (c : Char) : List ℕ :=
  if c.toNat < 0x10000 then [c.toNat]
  else [0xD800 + (c.toNat - 0x10000) / 0x400, 0xDC00 + (c.toNat - 0x10000) % 0x400]

def paidFallbackUsageRollupShard (requestId : String) : ℕ :=
  let hash := (requestId.toList.flatMap charCodes).foldl
    (fun (hash : UInt32) code => (hash ^^^ UInt32.ofNat code) * 0x01000193) 0x811c9dc5
  hash.toNat % paidFallbackUsageRollupShardCount

def trim (text : String) : String :=
  String.ofList ((text.toList.dropWhile jsWhitespace).reverse.dropWhile jsWhitespace).reverse

def paidFallbackRequestRollupIdentity (request : PaidFallbackRequestV3)
    (correlation : NativePaidCorrelation := .providerRequestId) : NativePaidRollupIdentity where
  model := trim request.model
  provider := (request.provider.getD
    (if correlation = .surplusReservation then .surplus else .metered)).label
  bucketStartAtMs := request.createdAtMs / paidFallbackUsageRollupBucketMs *
    paidFallbackUsageRollupBucketMs
  shard := paidFallbackUsageRollupShard request.requestId

def mergePaidFallbackUsageRollup (existing : Option PaidFallbackUsageRollup)
    (input : PaidFallbackUsageRollupInput) : PaidFallbackUsageRollup where
  bucketStartAtMs := (existing.map (·.bucketStartAtMs)).getD input.bucketStartAtMs
  model := (existing.map (·.model)).getD input.model
  provider := (existing.map (·.provider)).getD input.provider
  requestCount := (existing.map (·.requestCount)).getD 0 + 1
  quotaSum := addDoubles ((existing.map (·.quotaSum)).getD 0) input.quota
  inputTokens := addAmounts ((existing.map (·.inputTokens)).getD 0) input.inputTokens
  cachedInputTokens := addAmounts ((existing.map (·.cachedInputTokens)).getD 0)
    (input.cachedInputTokens.getD 0)
  outputTokens := addAmounts ((existing.map (·.outputTokens)).getD 0) input.outputTokens
  spendMicrocredits := addAmounts ((existing.map (·.spendMicrocredits)).getD 0)
    input.spendMicrocredits
  firstRequestAtMs := existing.elim input.requestCreatedAtMs fun rollup =>
    min rollup.firstRequestAtMs input.requestCreatedAtMs
  lastRequestAtMs := existing.elim input.requestCreatedAtMs fun rollup =>
    max rollup.lastRequestAtMs input.requestCreatedAtMs
  updatedAtMs := input.updatedAtMs

/-! ### Settlement -/

def correlationMatchesV3 (request : PaidFallbackRequestV3) (providerLog : NativePaidProviderLog) :
    NativePaidCorrelation → Bool
  | .surplusReservation => decide (request.provider = some .surplus)
  | .providerRequestId => decide (request.providerRequestId = some providerLog.requestId)

/-- `Math.round` of a quotient, `none` when it is not a finite number. -/
def roundQuotient (dividend : ℚ) (divisor : ℤ) : Option ℤ :=
  if divisor = 0 then none else some (mathRound (roundDouble (dividend / divisor)))

def evaluatePaidFallbackSettlementV3 (request : Option PaidFallbackRequestV3)
    (pending : Option PaidFallbackPendingV3) (providerLog : NativePaidProviderLog)
    (metadata : NativePaidSettlementMetadata) : NativePaidSettlementEvaluation :=
  match request with
  | none => .cleanup
  | some request =>
    if isBillableRequestV3 request = false then .cleanup
    else if pending = none ∨
        correlationMatchesV3 request providerLog metadata.correlation = false then .noop
    else
      let spend := match metadata.correlation, metadata.surplusBuyerCostMicro with
        | .surplusReservation, some buyerCostMicro => some buyerCostMicro
        | _, _ => roundQuotient (roundDouble (providerLog.quota * metadata.microcreditsPerCredit))
            request.quotaPerCredit
      match spend with
      | none => .defer
      | some spend => if isSafeUsageCount spend = true then .settle spend else .defer

/-- The usage that a settlement reports to the rollup of its request. -/
def settlementRollupInput (request : PaidFallbackRequestV3) (providerLog : NativePaidProviderLog)
    (spend : ℤ) (correlation : NativePaidCorrelation) (now : ℤ) : PaidFallbackUsageRollupInput :=
  let identity := paidFallbackRequestRollupIdentity request correlation
  { bucketStartAtMs := identity.bucketStartAtMs
    requestId := request.requestId
    model := identity.model
    provider := identity.provider
    quota := providerLog.quota
    inputTokens := providerLog.promptTokens
    cachedInputTokens := providerLog.cachedPromptTokens
    outputTokens := providerLog.completionTokens
    spendMicrocredits := spend
    requestCreatedAtMs := request.createdAtMs
    updatedAtMs := now }

/-- The field `foldIntoRollup` of `paidFallbackSettlementRollupV3`. -/
def foldIntoRollup (identity : NativePaidRollupIdentity) : Bool :=
  decide (identity.model ≠ "") && decide (identity.provider ≠ "")

/-- The field `rollup` of `paidFallbackSettlementRollupV3`. -/
def paidFallbackSettlementRollupV3 (request : PaidFallbackRequestV3)
    (providerLog : NativePaidProviderLog) (spend : ℤ) (correlation : NativePaidCorrelation)
    (existing : Option PaidFallbackUsageRollup) (now : ℤ) : PaidFallbackUsageRollup :=
  mergePaidFallbackUsageRollup existing
    (settlementRollupInput request providerLog spend correlation now)

def buildSettledRequestRowV3 (request : PaidFallbackRequestV3)
    (providerLog : NativePaidProviderLog) (spend dispatchedAtMs : ℤ) (fold : Bool) (now : ℤ) :
    PaidFallbackRequestV3 :=
  { request with
    providerQuota := some providerLog.quota
    inputTokens := some providerLog.promptTokens
    cachedInputTokens := providerLog.cachedPromptTokens
    outputTokens := some providerLog.completionTokens
    dispatchState := if request.dispatchState = .reserved then .dispatched
      else request.dispatchState
    dispatchedAtMs := some dispatchedAtMs
    spendMicrocredits := some spend
    billingState := .settled
    lastReconciliationAtMs := some now
    settledAtMs := some (request.settledAtMs.getD now)
    updatedAtMs := now
    usageRollupAtMs := if fold = true then some now else request.usageRollupAtMs }

def planPaidFallbackSettlementRowsV3 (request : PaidFallbackRequestV3)
    (window : Option PaidFallbackWindowV3) (gate : Option PaidFallbackReconciliationGateV3)
    (providerLog : NativePaidProviderLog) (spend : ℤ) (fold : Bool) (now : ℤ) :
    NativePaidReleasePlan where
  request := buildSettledRequestRowV3 request providerLog spend
    (request.dispatchedAtMs.getD (max request.createdAtMs (providerLog.createdAt * 1000))) fold now
  window := window.map fun window => closedWindow window request spend now
  gate := paidFallbackReconciliationGateDueNow gate now

/-! ### Backfill -/

def paidFallbackBackfillRollupEligibleV3 (request : PaidFallbackRequestV3) : Bool :=
  decide (request.billingState = .settled) && request.providerQuota.isSome &&
    request.spendMicrocredits.isSome && decide (trim request.model ≠ "")

/-- The usage that a backfill reports to the rollup of a row. -/
def backfillRollupInput (request : PaidFallbackRequestV3) (now : ℤ) :
    PaidFallbackUsageRollupInput :=
  let identity := paidFallbackRequestRollupIdentity request
  { bucketStartAtMs := identity.bucketStartAtMs
    requestId := request.requestId
    model := identity.model
    provider := identity.provider
    quota := request.providerQuota.getD 0
    inputTokens := request.inputTokens.getD 0
    cachedInputTokens := request.cachedInputTokens
    outputTokens := request.outputTokens.getD 0
    spendMicrocredits := request.spendMicrocredits.getD 0
    requestCreatedAtMs := request.createdAtMs
    updatedAtMs := now }

def planPaidFallbackBackfillFoldV3 (request : PaidFallbackRequestV3)
    (existing : Option PaidFallbackUsageRollup) (now : ℤ) : NativePaidBackfillFold where
  request := { request with updatedAtMs := now, usageRollupAtMs := some now }
  rollup := if paidFallbackBackfillRollupEligibleV3 request = true
    then some (mergePaidFallbackUsageRollup existing (backfillRollupInput request now)) else none

def paidFallbackRequestBackfillStateV3 : Option PaidFallbackRequestV3 → BackfillRowState
  | none => .missing
  | some request => if request.usageRollupAtMs.isSome = true then .retention else .fold

/-! ### Deletion and leases -/

def planPaidFallbackDeletionGuardV3 (guard : Option PaidFallbackDeletionGuardV3) (now : ℤ) :
    Option PaidFallbackDeletionGuardV3 :=
  if guard.isSome = true then none else some ⟨now⟩

def paidFallbackLeaseActiveV3 (lease : Option PaidFallbackLeaseV3) (now : ℤ) : Bool :=
  lease.any fun lease => decide (now < lease.expiresAtMs)

def paidFallbackReconciliationLeaseV3 (token : String) (now : ℤ) : PaidFallbackLeaseV3 :=
  ⟨token, now + reconciliationLeaseMs⟩

def paidFallbackBackfillLeaseV3 (token : String) (now : ℤ) : PaidFallbackLeaseV3 :=
  ⟨token, now + paidFallbackBackfillLeaseMs⟩

def paidFallbackLeaseOwnedV3 (lease : Option PaidFallbackLeaseV3) (token : String) : Bool :=
  lease.any fun lease => decide (lease.token = token)

end UbqGateway.Paid
