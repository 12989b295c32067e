import UbqGateway.Paid.LedgerAdmission
import UbqGateway.Paid.LedgerSettlement

/-!
# The programs that backfill and reconcile

The functions of `src/paid-fallback/ledger-backfill.ts`: the sweep that folds settled rows into the
rollups and resumes at a persisted cursor, the sweep over the windows, and the reconciliation of the
requests whose markers are due.

A provider's answer is a parameter: `logs keyId requestIds` is what `fetchMeteredTokenLogs` returns
for the requests of a key, `none` when it throws.  Deferrals that the source starts together
(`Promise.all`) are made one after the other; each of them reads again what it depends on.
-/

namespace UbqGateway.Paid

open ClientM

/-! ### The sweep over the requests -/

/-- Where a sweep stopped early. -/
inductive RollupBackfillTruncation
  | scanBudget
  | writeBudget

structure BackfillProgress where
  scanned : ℕ
  processed : ℕ
  rollupsWritten : ℕ
  failed : ℕ
  budget : ℕ
  scanRemaining : ℕ
  lastVisitedKey : Option PaidKey

structure PaidFallbackRollupBackfillResult where
  scanned : ℕ
  processed : ℕ
  rollupsWritten : ℕ
  failed : ℕ
  truncated : Bool
deriving DecidableEq

def rewriteMarkedRequestRowTtlV3 (keyId requestId : String)
    (requestEntry : Option (Entry PaidValue))
    (request : PaidFallbackRequestV3) : PaidM Bool :=
  kvCommit (.retention keyId requestId) [⟨.request keyId requestId, requestEntry⟩]
    (LedgerWrite.toList { keyId := keyId, requestId := requestId, request := some request })

inductive RollupFoldOutcome
  | processed
  | rollupWritten
  | failed

def foldRequestRowIntoRollupV3 (keyId requestId : String) (requestEntry : Option (Entry PaidValue))
    (request : PaidFallbackRequestV3) (nowMs : ℤ) : PaidM RollupFoldOutcome := do
  let identity := paidFallbackRequestRollupIdentity request
  let rollupEntry ← kvGetIf (paidFallbackBackfillRollupEligibleV3 request) (.usageRollup identity)
  let plan := planPaidFallbackBackfillFoldV3 request (asUsageRollup rollupEntry.join) nowMs
  let committed ← kvCommit
    (.fold keyId requestId (plan.rollup.map fun _ => (identity, backfillRollupInput request nowMs)))
    (⟨.request keyId requestId, requestEntry⟩ ::
      (plan.rollup.map fun _ => ⟨.usageRollup identity, rollupEntry.join⟩).toList)
    (LedgerWrite.toList
      { keyId := keyId
        requestId := requestId
        request := some plan.request
        rollup := plan.rollup.map fun rollup => (identity, rollup) })
  return if committed = true then (if plan.rollup.isSome = true then .rollupWritten else .processed)
    else .failed

/-- `advanceBackfillSweepV3`: the progress, and where the sweep must stop. -/
def advanceBackfillSweepV3 (keyId requestId : String) (progress : BackfillProgress) (nowMs : ℤ) :
    PaidM (BackfillProgress × Option RollupBackfillTruncation) := do
  let requestEntry ← kvGet (.request keyId requestId)
  match asRequest requestEntry with
  | none => return (progress, none)
  | some request =>
    if paidFallbackRequestBackfillStateV3 (some request) = .retention then
      let rewritten ← rewriteMarkedRequestRowTtlV3 keyId requestId requestEntry request
      if rewritten = true then
        return ({ progress with lastVisitedKey := some (.request keyId requestId) }, none)
      else return ({ progress with failed := progress.failed + 1 }, some .writeBudget)
    else if progress.budget = 0 then return (progress, some .writeBudget)
    else
      let progress := { progress with budget := progress.budget - 1 }
      match ← foldRequestRowIntoRollupV3 keyId requestId requestEntry request nowMs with
      | .failed => return ({ progress with failed := progress.failed + 1 }, some .writeBudget)
      | .processed =>
        return ({ progress with
          lastVisitedKey := some (.request keyId requestId)
          processed := progress.processed + 1 }, none)
      | .rollupWritten =>
        return ({ progress with
          lastVisitedKey := some (.request keyId requestId)
          processed := progress.processed + 1
          rollupsWritten := progress.rollupsWritten + 1 }, none)

/-- The prefix `paidFallbackRequestV3GlobalPrefix`, from `resumeKey` on. -/
def isRequestFrom (resumeKey : Option PaidKey) : PaidKey → Bool
  | .request keyId requestId =>
    resumeKey.all fun resumeKey => decide (resumeKey ≤ .request keyId requestId)
  | _ => false

/-- The loop of `sweepPaidFallbackUsageRollupsV3`. -/
def sweepLoop (resumeKey : Option PaidKey) (nowMs : ℤ) : ℕ → Cursor PaidKey → BackfillProgress →
    PaidM (BackfillProgress × Option RollupBackfillTruncation)
  | 0, _, _ => throw "listing interrupted"
  | fuel + 1, cursor, progress => do
    let (cursor, listed) ← kvNext (isRequestFrom resumeKey) cursor
    match listed with
    | some (.request keyId requestId, _) =>
      let progress := { progress with scanned := progress.scanned + 1 }
      if progress.scanRemaining = 0 then return (progress, some .scanBudget)
      else
        let progress := { progress with scanRemaining := progress.scanRemaining - 1 }
        match ← advanceBackfillSweepV3 keyId requestId progress nowMs with
        | (progress, none) => sweepLoop resumeKey nowMs fuel cursor progress
        | (progress, some step) => return (progress, some step)
    | _ => return (progress, if 0 < progress.failed then some .writeBudget else none)

def sweepPaidFallbackUsageRollupsV3 (fuel : ℕ) (resumeKey : Option PaidKey)
    (limit scanBudget : ℕ) (nowMs : ℤ) :
    PaidM (BackfillProgress × Option RollupBackfillTruncation) :=
  sweepLoop resumeKey nowMs fuel .start ⟨0, 0, 0, 0, limit, scanBudget, none⟩

def loadBackfillCursorV3 (cursorKey : PaidKey) : PaidM (Option PaidKey) := do
  let cursorEntry ← kvGet cursorKey
  return asCursor cursorEntry

/-- `persistBackfillCursorV3` for the cursor of the requests. -/
def persistBackfillCursorV3 (requestKey : PaidKey) : PaidM Unit := do
  let _ ← kvCommit (.cursor (some requestKey)) [] [.set .backfillCursor (.cursor requestKey)]

/-- What a pass does with the cursor after its sweep. -/
def concludeBackfill (resumeKey : Option PaidKey) (progress : BackfillProgress) :
    Option RollupBackfillTruncation → PaidM Unit
  | none => do
    -- the whole prefix was swept
    let _ ← kvCommit (.cursor none) [] [.delete .backfillCursor]
  | some .scanBudget =>
    match progress.lastVisitedKey with
    | some lastVisitedKey => persistBackfillCursorV3 lastVisitedKey
    | none => return ()
  | some .writeBudget =>
    match progress.lastVisitedKey.or resumeKey with
    | some cursorKeyValue => persistBackfillCursorV3 cursorKeyValue
    | none => return ()

/-- A pass of `backfillPaidFallbackUsageRollups` with any budgets. -/
def backfillPass (fuel limit scanBudget : ℕ) (nowMs : ℤ) :
    PaidM PaidFallbackRollupBackfillResult := do
  let resumeKey ← loadBackfillCursorV3 .backfillCursor
  let (progress, truncatedWith) ←
    sweepPaidFallbackUsageRollupsV3 fuel resumeKey limit scanBudget nowMs
  concludeBackfill resumeKey progress truncatedWith
  return ⟨progress.scanned, progress.processed, progress.rollupsWritten, progress.failed,
    truncatedWith.isSome⟩

/-- The limit of a pass: at least 1 and at most 10000. -/
def backfillLimit (limit : Option ℤ) : ℕ := (max 1 (min 10000 (limit.getD 5000))).toNat

def backfillPaidFallbackUsageRollups (fuel : ℕ) (limit : Option ℤ) (nowMs : ℤ) :
    PaidM PaidFallbackRollupBackfillResult :=
  if isSafeUsageCount nowMs = true then
    backfillPass fuel (backfillLimit limit) (backfillLimit limit * 10) nowMs
  else throw "Paid fallback backfill clock is invalid"

/-! ### The sweep over the windows -/

/-- The prefix `paidFallbackWindowV3GlobalPrefix`, from `resumeKey` on. -/
def isWindowFrom (resumeKey : Option PaidKey) : PaidKey → Bool
  | .window keyId resetAtMs =>
    resumeKey.all fun resumeKey => decide (resumeKey ≤ .window keyId resetAtMs)
  | _ => false

/-- `rewriteWindowTtlV3`: `none` is `"skipped"`, else whether the row was rewritten. -/
def rewriteWindowTtlV3 (keyId : String) (resetAtMs : ℤ) : PaidM (Option Bool) := do
  let windowEntry ← kvGet (.window keyId resetAtMs)
  match asWindow windowEntry with
  | none => return none
  | some window =>
    if isPaidFallbackWindowV3 window = true then
      let committed ← kvCommit (.windowTtl keyId resetAtMs)
        [⟨.window keyId resetAtMs, windowEntry⟩]
        (LedgerWrite.toList
          { keyId := keyId, requestId := "", window := some (resetAtMs, window) })
      return some committed
    else return none

def hasWindowRowsAfterV3 (fuel : ℕ) (startKey : PaidKey) : PaidM Bool := do
  let seen ← kvFold (isWindowFrom (some startKey)) (fun seen _ => seen + 1) fuel .start 0
  return decide (1 < seen)

structure WindowTtlSweep where
  scanned : ℕ
  rewritten : ℕ
  lastRewrittenKey : Option PaidKey
  failed : Bool
  truncated : Bool

/-- `persistBackfillCursorV3` for the cursor of the windows. -/
def persistWindowCursorV3 (windowKey : PaidKey) : PaidM Unit := do
  let _ ← kvCommit .windowCursor [] [.set .backfillWindowCursor (.cursor windowKey)]

/-- The loop of `sweepWindowTtlsV3`. -/
def windowSweepLoop (fuel : ℕ) (resumeKey : Option PaidKey) (limit : ℕ) :
    ℕ → Cursor PaidKey → Bool → WindowTtlSweep → PaidM WindowTtlSweep
  | 0, _, _, _ => throw "listing interrupted"
  | n + 1, cursor, skippingResumeRow, sweep => do
    let (cursor, listed) ← kvNext (isWindowFrom resumeKey) cursor
    match listed with
    | some (.window keyId resetAtMs, _) =>
      let sweep := { sweep with scanned := sweep.scanned + 1 }
      if skippingResumeRow = true ∧ resumeKey = some (.window keyId resetAtMs) then
        windowSweepLoop fuel resumeKey limit n cursor false sweep
      else
        match ← rewriteWindowTtlV3 keyId resetAtMs with
        | none => windowSweepLoop fuel resumeKey limit n cursor skippingResumeRow sweep
        | some false => return { sweep with failed := true }
        | some true =>
          let sweep := { sweep with
            lastRewrittenKey := some (.window keyId resetAtMs)
            rewritten := sweep.rewritten + 1 }
          if sweep.rewritten < limit then
            windowSweepLoop fuel resumeKey limit n cursor skippingResumeRow sweep
          else
            let hasMore ← hasWindowRowsAfterV3 fuel (.window keyId resetAtMs)
            if hasMore = true then
              persistWindowCursorV3 (.window keyId resetAtMs)
              return { sweep with truncated := true }
            else return sweep
    | _ => return sweep

/-- `backfillPaidFallbackWindowTtls`: whether the sweep was truncated. -/
def backfillPaidFallbackWindowTtls (fuel : ℕ) (limit : Option ℤ) (nowMs : ℤ) : PaidM Bool :=
  if isSafeUsageCount nowMs = true then do
    let resumeKey ← loadBackfillCursorV3 .backfillWindowCursor
    let sweep ← windowSweepLoop fuel resumeKey (backfillLimit limit) fuel .start resumeKey.isSome
      ⟨0, 0, none, false, false⟩
    if sweep.failed = true then
      match sweep.lastRewrittenKey.or resumeKey with
      | some cursorKeyValue => persistWindowCursorV3 cursorKeyValue; return true
      | none => return true
    else if sweep.truncated = true then return true
    else
      let _ ← kvCommit .windowCursor [] [.delete .backfillWindowCursor]
      return false
  else throw "Paid fallback window TTL clock is invalid"

/-! ### The automatic backfill -/

def isBackfillableSettledPaidFallbackRequest (request : PaidFallbackRequestV3) : Bool :=
  decide (request.billingState = .settled) && decide (trim request.model ≠ "") &&
    request.providerQuota.any nonNegativeFinite &&
    request.spendMicrocredits.any fun spend => nonNegativeFinite spend

/-- The prefix `PAID_FALLBACK_USAGE_ROLLUP_PREFIX`. -/
def isUsageRollup : PaidKey → Bool
  | .usageRollup _ => true
  | _ => false

def paidFallbackBackfillNeedsRun (fuel : ℕ) : PaidM Bool := do
  let got ← kvGets [.backfillState, .backfillCursor, .backfillWindowCursor]
  -- `paidFallbackBackfillNeedsSweepV3`
  let completed := match (got .backfillState).map Entry.value with
    | some (.backfillState completedAtMs) => isSafeUsageCount completedAtMs
    | _ => false
  if completed = false ∨ (got .backfillCursor).isSome = true ∨
      (got .backfillWindowCursor).isSome = true then return true
  else
    let (_, firstRollup) ← kvNext isUsageRollup .start
    if firstRollup.isSome = true then return false
    else
      kvFold (isRequestFrom none) (fun found listed => found ||
        (asRequest (some listed.2)).any isBackfillableSettledPaidFallbackRequest) fuel .start false

/-- One attempt of `acquirePaidFallbackBackfillLease`. -/
def attemptBackfillLease (token : String) (nowMs : ℤ) :
    PaidM (Option (Option PaidFallbackLeaseV3)) := do
  let entry ← kvGet .backfillLease
  if paidFallbackLeaseActiveV3 (asLease entry) nowMs = true then return some none
  else
    let lease := paidFallbackBackfillLeaseV3 token nowMs
    let committed ← kvCommit .backfillLease [⟨.backfillLease, entry⟩]
      [.set .backfillLease (.lease lease)]
    return if committed = true then some (some lease) else none

def releasePaidFallbackBackfillLease (lease : PaidFallbackLeaseV3) : PaidM Unit := do
  let entry ← kvGet .backfillLease
  if paidFallbackLeaseOwnedV3 (asLease entry) lease.token = true then
    let _ ← kvCommit .backfillLease [⟨.backfillLease, entry⟩] [.delete .backfillLease]
  else return ()

/-- The sweeps of `runPaidFallbackBackfillV3` under its lease. -/
def runBackfillSweeps (fuel : ℕ) (limit : Option ℤ) (nowMs : ℤ) :
    PaidM (Option PaidFallbackRollupBackfillResult) := do
  let requests ← backfillPaidFallbackUsageRollups fuel limit nowMs
  let windowsTruncated ← backfillPaidFallbackWindowTtls fuel limit nowMs
  if requests.truncated = false ∧ windowsTruncated = false then
    let _ ← kvCommit .backfillState [] [.set .backfillState (.backfillState nowMs)]
  return some requests

/-- `runPaidFallbackBackfillV3`: the result of the pass over the requests, `none` when no pass was
made. -/
def runPaidFallbackBackfillV3 (fuel : ℕ) (force : Bool) (limit : Option ℤ) (token : String) :
    PaidM (Option PaidFallbackRollupBackfillResult) := do
  let nowMs ← dateNow
  if isSafeUsageCount nowMs = false then
    throw "Paid fallback automatic backfill clock is invalid"
  else
    let needed ← if force = true then pure true else paidFallbackBackfillNeedsRun fuel
    if needed = false then return none
    else
      match ← retrying (attemptBackfillLease token nowMs) (return none) maxCasAttempts with
      | none => return none
      | some lease =>
        tryFinally (runBackfillSweeps fuel limit nowMs) (releasePaidFallbackBackfillLease lease)

/-! ### Reconciliation -/

/-- What `fetchMeteredTokenLogs` answers. -/
abbrev MeteredTokenLogs := String → List String → Option (List NativePaidProviderLog)

/-- `collectReconcileCandidatesV3`; a due marker is given by its request and its entry. -/
def collectReconcileCandidatesV3 (keyId : String) (now : ℤ) :
    List (String × Entry PaidValue) → PaidM (List PaidFallbackRequestV3)
  | [] => return []
  | (requestId, pending) :: due => do
    let requestEntry ← kvGet (.request keyId requestId)
    match asRequest requestEntry with
    | some request =>
      if isBillableRequestV3 request = true then
        let candidates ← collectReconcileCandidatesV3 keyId now due
        return request :: candidates
      else
        let gateEntry ← kvGet .reconciliationGate
        let _ ← commitCleanup keyId requestId (some pending) gateEntry now
        collectReconcileCandidatesV3 keyId now due
    | none =>
      let gateEntry ← kvGet .reconciliationGate
      let _ ← commitCleanup keyId requestId (some pending) gateEntry now
      collectReconcileCandidatesV3 keyId now due

def loadMeteredLogsForCandidatesV3 (logs : MeteredTokenLogs) (keyId : String)
    (candidates : List PaidFallbackRequestV3) : Option (List NativePaidProviderLog) :=
  let providerRequestIds := candidates.filterMap (·.providerRequestId)
  if providerRequestIds = [] then some [] else logs keyId providerRequestIds

/-- The deferrals of several candidates. -/
def deferCandidates (keyId : String) (now : ℤ) : List PaidFallbackRequestV3 → PaidM Unit
  | [] => return ()
  | request :: candidates => do
    let _ ← deferPaidFallbackReconciliationV3 keyId request.requestId now
    deferCandidates keyId now candidates

/-- The log entry of a request; of several entries with its id the last one counts. -/
def providerLogOf (logs : List NativePaidProviderLog) (request : PaidFallbackRequestV3) :
    Option NativePaidProviderLog :=
  match request.providerRequestId with
  | none => none
  | some id => if id = "" then none else logs.reverse.find? fun log => decide (log.requestId = id)

def settleMeteredCandidatesV3 (keyId : String) (logs : List NativePaidProviderLog) (now : ℤ) :
    List PaidFallbackRequestV3 → PaidM ℕ
  | [] => return 0
  | request :: candidates => do
    match providerLogOf logs request with
    | none =>
      let _ ← deferPaidFallbackReconciliationV3 keyId request.requestId now
      settleMeteredCandidatesV3 keyId logs now candidates
    | some providerLog =>
      let (settled, _) ← settlePaidFallbackRequestV3 keyId request.requestId providerLog now
      let rest ← settleMeteredCandidatesV3 keyId logs now candidates
      return settled.toNat + rest

def collectDue (now : ℤ) (due : List (String × Entry PaidValue))
    (listed : PaidKey × Entry PaidValue) : List (String × Entry PaidValue) :=
  match listed with
  | (.pending _ requestId, entry) =>
    if (asPending (some entry)).any fun pending => decide (pending.nextReconciliationAtMs ≤ now)
    then due ++ [(requestId, entry)] else due
  | _ => due

/-- The body of `reconcilePaidFallbackV3` under the lease. -/
def reconcileDueMarkers (fuel : ℕ) (logs : MeteredTokenLogs) (keyId : String) (now : ℤ) :
    PaidM ℕ := do
  let due ← kvFold (isPendingOf keyId) (collectDue now) fuel .start []
  let candidates ← collectReconcileCandidatesV3 keyId now due
  let surplus := candidates.filter fun request => decide (request.provider = some .surplus)
  let metered := candidates.filter fun request => decide (request.provider ≠ some .surplus)
  deferCandidates keyId now surplus
  match loadMeteredLogsForCandidatesV3 logs keyId metered with
  | none =>
    deferCandidates keyId now metered
    return 0
  | some logs => settleMeteredCandidatesV3 keyId logs now metered

def reconcilePaidFallbackV3 (fuel : ℕ) (token : String) (logs : MeteredTokenLogs) (keyId : String)
    (now : ℤ) (skipGateRecompute : Bool) : PaidM ℕ := do
  match ← acquireReconciliationLease keyId token now with
  | none => return 0
  | some lease =>
    tryFinally (reconcileDueMarkers fuel logs keyId now) do
      releaseReconciliationLease keyId lease
      if skipGateRecompute = false then
        let _ ← recomputePaidFallbackReconciliationGateV3 fuel

/-- One attempt of `reconcileDuePaidFallbacksV3` to read the gate, or to store one. -/
def attemptBootstrapGate (fuel : ℕ) : PaidM (Option (Option ℤ × Option PendingMarkerScan)) := do
  let gateEntry ← kvGet .reconciliationGate
  if isPaidFallbackReconciliationGate (asGate gateEntry) = true then
    return some ((asGate gateEntry).bind (·.nextDueAtMs), none)
  else
    let scan ← scanPaidFallbackPendingMarkers fuel
    let committed ← kvCommit .recompute [⟨.reconciliationGate, gateEntry⟩]
      (gateWrite (paidFallbackGateAfterScanV3 scan.earliestDueAtMs))
    return if committed = true then some (scan.earliestDueAtMs, some scan) else none

def dueKeyIds (scan : PendingMarkerScan) (now : ℤ) : List String :=
  (scan.entries.reverse.filterMap fun listed => match listed with
    | (.pending keyId _, entry) =>
      if (asPending (some entry)).any fun pending => decide (pending.nextReconciliationAtMs ≤ now)
      then some keyId else none
    | _ => none).eraseDups

/-- The loop of `reconcileDuePaidFallbacksV3` over the keys. -/
def reconcileKeys (fuel : ℕ) (token : String) (logs : MeteredTokenLogs) (now : ℤ) :
    List String → PaidM ℕ
  | [] => return 0
  | keyId :: keyIds => do
    let settled ← reconcilePaidFallbackV3 fuel token logs keyId now true
    let rest ← reconcileKeys fuel token logs now keyIds
    return settled + rest

def reconcileDuePaidFallbacksV3 (fuel : ℕ) (token : String) (logs : MeteredTokenLogs) (now : ℤ) :
    PaidM ℕ := do
  let (nextDueAtMs, bootstrapScan) ← retrying (attemptBootstrapGate fuel)
    (throw "Paid fallback reconciliation gate changed concurrently.") maxCasAttempts
  if nextDueAtMs.all fun nextDueAtMs => decide (now < nextDueAtMs) then return 0
  else
    let pendingScan ← match bootstrapScan with
      | some scan => pure scan
      | none => scanPaidFallbackPendingMarkers fuel
    tryFinally (reconcileKeys fuel token logs now (dueKeyIds pendingScan now)) do
      let _ ← recomputePaidFallbackReconciliationGateV3 fuel

def markPaidFallbackTerminalV3 (reservation : PaidFallbackAdmissionV3)
    (terminalState : TerminalState) (provider : Option PaidFallbackProvider) : PaidM Unit := do
  updatePaidFallbackRequestV3 reservation
    { provider := provider
      terminalState := some terminalState
      incrementReconciliationAttempts := true }
  expeditePaidFallbackReconciliationV3 reservation (← dateNow)

end UbqGateway.Paid
