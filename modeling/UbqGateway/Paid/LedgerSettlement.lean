import UbqGateway.Paid.LedgerState

/-!
# The programs that settle

The functions of `src/paid-fallback/ledger-settlement.ts`: the reconciliation lease, the marker of a
request (expedite, defer, clean up) and the settlement of a request from what its provider reports.
The sample of the ledger's growth that follows a settlement writes rows of its own and is left out.
-/

namespace UbqGateway.Paid

open ClientM

/-! ### The reconciliation lease -/

/-- One attempt of `acquireReconciliationLease`. -/
def attemptReconciliationLease (keyId token : String) (now : ℤ) :
    PaidM (Option (Option PaidFallbackLeaseV3)) := do
  let entry ← kvGet (.reconciliationLease keyId)
  if paidFallbackLeaseActiveV3 (asLease entry) now = true then return some none
  else
    let lease := paidFallbackReconciliationLeaseV3 token now
    let committed ← kvCommit (.lease keyId) [⟨.reconciliationLease keyId, entry⟩]
      [.set (.reconciliationLease keyId) (.lease lease)]
    return if committed = true then some (some lease) else none

/-- `acquireReconciliationLease`; `token` is the result of `crypto.randomUUID()`. -/
def acquireReconciliationLease (keyId token : String) (now : ℤ) :
    PaidM (Option PaidFallbackLeaseV3) :=
  retrying (attemptReconciliationLease keyId token now) (return none) maxCasAttempts

def releaseReconciliationLease (keyId : String) (lease : PaidFallbackLeaseV3) : PaidM Unit := do
  let entry ← kvGet (.reconciliationLease keyId)
  if paidFallbackLeaseOwnedV3 (asLease entry) lease.token = true then
    let _ ← kvCommit (.lease keyId) [⟨.reconciliationLease keyId, entry⟩]
      [.delete (.reconciliationLease keyId)]
  else return ()

/-! ### The marker -/

/-- One attempt of `_expeditePaidFallbackReconciliationV3`. -/
def attemptExpedite (keyId requestId : String) (now : ℤ) : PaidM (Option Unit) := do
  let got ← kvGets [.pending keyId requestId, .reconciliationGate]
  let gate := asGate (got .reconciliationGate)
  match asPending (got (.pending keyId requestId)) with
  | none => return some ()
  | some pending =>
    let markerNeedsExpedite := decide (now < pending.nextReconciliationAtMs)
    if markerNeedsExpedite = false ∧ paidFallbackReconciliationGateNeedsArm gate now = false then
      return some ()
    else
      let committed ← kvCommit (.expedite keyId requestId)
        [⟨.pending keyId requestId, got (.pending keyId requestId)⟩,
          ⟨.reconciliationGate, got .reconciliationGate⟩]
        (LedgerWrite.toList
          { keyId := keyId
            requestId := requestId
            pending := if markerNeedsExpedite = true
              then some (some { pending with nextReconciliationAtMs := now }) else none
            gate := some (paidFallbackReconciliationGateDueNow gate now) })
      return if committed = true then some () else none

def expeditePaidFallbackReconciliationV3 (reservation : PaidFallbackAdmissionV3) (now : ℤ) :
    PaidM Unit :=
  retrying (attemptExpedite reservation.keyId reservation.requestId now)
    (throw "Paid fallback reconciliation scheduling changed concurrently.") maxCasAttempts

/-- The transaction that removes a marker whose row can no longer be billed. -/
def commitCleanup (keyId requestId : String) (pendingEntry gateEntry : Option (Entry PaidValue))
    (now : ℤ) : PaidM Bool :=
  kvCommit (.cleanup keyId requestId)
    [⟨.pending keyId requestId, pendingEntry⟩, ⟨.reconciliationGate, gateEntry⟩]
    (LedgerWrite.toList
      { keyId := keyId
        requestId := requestId
        pending := some none
        gate := some (paidFallbackReconciliationGateDueNow (asGate gateEntry) now) })

/-- One attempt of `deferPaidFallbackReconciliationV3`. -/
def attemptDefer (keyId requestId : String) (now : ℤ) : PaidM (Option (Option ℤ)) := do
  let requestKey : PaidKey := .request keyId requestId
  let pendingKey : PaidKey := .pending keyId requestId
  let got ← kvGets [requestKey, pendingKey]
  match planPaidFallbackDeferralV3 (asRequest (got requestKey))
    (asPending (got pendingKey)) now with
  | .noop => return some none
  | .cleanup =>
    let gateEntry ← kvGet .reconciliationGate
    let committed ← commitCleanup keyId requestId (got pendingKey) gateEntry now
    return if committed = true then some none else none
  | .write request pending delay =>
    let committed ← kvCommit (.defer keyId requestId now)
      [⟨requestKey, got requestKey⟩, ⟨pendingKey, got pendingKey⟩]
      (LedgerWrite.toList
        { keyId := keyId
          requestId := requestId
          request := some request
          pending := some (some pending) })
    return if committed = true then some (some delay) else none

def deferPaidFallbackReconciliationV3 (keyId requestId : String) (now : ℤ) : PaidM (Option ℤ) :=
  retrying (attemptDefer keyId requestId now)
    (throw "Paid fallback reconciliation deferral changed concurrently.") maxCasAttempts

def clearStalePendingMarkerV3 (keyId requestId : String)
    (pendingEntry gateEntry : Option (Entry PaidValue)) (now : ℤ) : PaidM Bool :=
  if (asPending pendingEntry).isNone = true then return true
  else commitCleanup keyId requestId pendingEntry gateEntry now

/-! ### Settlement -/

/-- The part of `settlePaidFallbackRequestV3` that reads the window and the rollup and commits. -/
def commitPaidFallbackSettlementV3 (keyId requestId : String) (request : PaidFallbackRequestV3)
    (requestEntry pendingEntry gateEntry : Option (Entry PaidValue))
    (providerLog : NativePaidProviderLog) (spend : ℤ) (correlation : NativePaidCorrelation)
    (now : ℤ) : PaidM Bool := do
  let windowEntry ← kvGet (.window keyId request.windowResetAtMs)
  let identity := paidFallbackRequestRollupIdentity request correlation
  let rollupEntry ← kvGet (.usageRollup identity)
  let fold := foldIntoRollup identity
  let nextRollup := paidFallbackSettlementRollupV3 request providerLog spend correlation
    (asUsageRollup rollupEntry) now
  let plan := planPaidFallbackSettlementRowsV3 request (asWindow windowEntry) (asGate gateEntry)
    providerLog spend fold now
  kvCommit
    (.settle keyId requestId spend (if fold = true
      then some (identity, settlementRollupInput request providerLog spend correlation now)
      else none) (asWindow windowEntry).isSome)
    ([⟨.request keyId requestId, requestEntry⟩, ⟨.pending keyId requestId, pendingEntry⟩] ++
      (if fold = true then [⟨.usageRollup identity, rollupEntry⟩] else []) ++
      [⟨.reconciliationGate, gateEntry⟩] ++
      (plan.window.map fun _ => ⟨.window keyId request.windowResetAtMs, windowEntry⟩).toList)
    (LedgerWrite.toList
      { keyId := keyId
        requestId := requestId
        request := some plan.request
        pending := some none
        rollup := if fold = true then some (identity, nextRollup) else none
        gate := some plan.gate
        window := plan.window.map fun window => (request.windowResetAtMs, window) })

/-- One attempt of `settlePaidFallbackRequestV3`: whether the request was settled, and the delay of
a deferral. -/
def attemptSettle (keyId requestId : String) (providerLog : NativePaidProviderLog) (now : ℤ)
    (correlation : NativePaidCorrelation) (surplusBuyerCostMicro : Option ℤ) :
    PaidM (Option (Bool × Option ℤ)) := do
  let requestKey : PaidKey := .request keyId requestId
  let pendingKey : PaidKey := .pending keyId requestId
  let got ← kvGets [requestKey, pendingKey, .reconciliationGate]
  match evaluatePaidFallbackSettlementV3 (asRequest (got requestKey)) (asPending (got pendingKey))
      providerLog ⟨correlation, microcreditsPerCredit, surplusBuyerCostMicro⟩,
      asRequest (got requestKey) with
  | .cleanup, _ =>
    let cleared ← clearStalePendingMarkerV3 keyId requestId (got pendingKey)
      (got .reconciliationGate) now
    return if cleared = true then some (false, none) else none
  | .defer, some _ =>
    let delay ← deferPaidFallbackReconciliationV3 keyId requestId now
    return some (false, delay)
  | .settle spend, some request =>
    let committed ← commitPaidFallbackSettlementV3 keyId requestId request (got requestKey)
      (got pendingKey) (got .reconciliationGate) providerLog spend correlation now
    return if committed = true then some (true, none) else none
  | _, _ => return some (false, none)

def settlePaidFallbackRequestV3 (keyId requestId : String) (providerLog : NativePaidProviderLog)
    (now : ℤ) (correlation : NativePaidCorrelation := .providerRequestId)
    (surplusBuyerCostMicro : Option ℤ := none) : PaidM (Bool × Option ℤ) :=
  retrying (attemptSettle keyId requestId providerLog now correlation surplusBuyerCostMicro)
    (throw "Paid fallback settlement changed concurrently.") maxCasAttempts

structure PaidFallbackUsageSettlementV3 where
  settlementRequestId : String
  providerQuota : ℚ
  inputTokens : ℤ
  cachedInputTokens : Option ℤ
  outputTokens : ℤ
  model : String
  createdAtMs : ℤ
  buyerCostMicro : Option ℤ

/-- The log entry that stands for the usage of a surplus response. -/
def PaidFallbackUsageSettlementV3.providerLog (usage : PaidFallbackUsageSettlementV3) :
    NativePaidProviderLog where
  requestId := usage.settlementRequestId
  quota := usage.providerQuota
  promptTokens := usage.inputTokens
  cachedPromptTokens := usage.cachedInputTokens
  completionTokens := usage.outputTokens
  model := usage.model
  createdAt := max 0 (usage.createdAtMs.tdiv 1000)

def settlePaidFallbackUsageV3 (reservation : PaidFallbackAdmissionV3)
    (usage : PaidFallbackUsageSettlementV3) : PaidM Bool := do
  let now ← dateNow
  let (settled, _) ← settlePaidFallbackRequestV3 reservation.keyId reservation.requestId
    usage.providerLog now .surplusReservation usage.buyerCostMicro
  return settled

end UbqGateway.Paid
