import UbqGateway.Paid.LedgerState

/-!
# The programs that admit, release and delete

The functions of `src/paid-fallback/ledger-admission.ts`.  An admission reads the row of its
request, the window and the deletion guard, decides, and stores the row with its marker and the
window if what it has read is still there; the first admission of a process also starts a backfill,
which is a client of its own here.
-/

namespace UbqGateway.Paid

open ClientM

/-! ### Admission -/

/-- The result of `admitPaidFallbackV3`. -/
inductive PaidFallbackAdmissionResult
  | reserved (reservation : PaidFallbackAdmissionV3)
  | blocked (reason : PaidFallbackAdmissionBlockedReason)
deriving DecidableEq

/-- `AdmissionInput`: the policy check is the entry of the key's record that the caller has
authenticated. -/
structure AdmissionInput extends NativePaidAdmissionInput where
  policyCheck : Option (Check PaidKey PaidValue)

/-- `unlimited` in `admitPaidFallbackV3`. -/
def NativePaidAdmissionInput.unlimited (input : NativePaidAdmissionInput) : Bool :=
  decide (input.limitMicrocredits = paidFallbackNoLimit)

namespace AdmissionInput

def requestKey (input : AdmissionInput) : PaidKey := .request input.keyId input.requestId

def windowKey (input : AdmissionInput) : PaidKey := .window input.keyId input.windowResetAtMs

def guardKey (input : AdmissionInput) : PaidKey := .deletionGuard input.keyId

end AdmissionInput

def commitExhaustedPolicyTransitionV3 (input : AdmissionInput)
    (windowEntry deletionGuardEntry : Option (Entry PaidValue))
    (transitioned : PaidFallbackWindowV3) : PaidM Bool :=
  kvCommit (.exhaustedPolicy input.keyId input.windowResetAtMs)
    ([⟨input.windowKey, windowEntry⟩, ⟨input.guardKey, deletionGuardEntry⟩] ++
      input.policyCheck.toList)
    (LedgerWrite.toList
      { keyId := input.keyId
        requestId := input.requestId
        window := some (input.windowResetAtMs, transitioned) })

/-- `writePaidFallbackAdmissionV3`: the reservation, or `none` if another client was faster. -/
def writePaidFallbackAdmissionV3 (input : AdmissionInput)
    (requestEntry windowEntry deletionGuardEntry : Option (Entry PaidValue))
    (plan : NativePaidAdmissionWrite) (now : ℤ) : PaidM (Option PaidFallbackAdmissionResult) := do
  let gateEntry ← kvGetIf plan.checkGate .reconciliationGate
  let committed ← kvCommit (.admission input.toNativePaidAdmissionInput)
    ([⟨input.requestKey, requestEntry⟩, ⟨input.guardKey, deletionGuardEntry⟩] ++
      input.policyCheck.toList ++
      (gateEntry.map fun gateEntry => ⟨.reconciliationGate, gateEntry⟩).toList ++
      (plan.window.map fun _ => ⟨input.windowKey, windowEntry⟩).toList)
    (LedgerWrite.toList
      { keyId := input.keyId
        requestId := input.requestId
        request := some plan.request
        pending := some (some plan.pending)
        gate := gateEntry.map fun gateEntry =>
          paidFallbackReconciliationGateDueNow (asGate gateEntry) now
        window := plan.window.map fun window => (input.windowResetAtMs, window) })
  return if committed = true then some (.reserved plan.reservation) else none

/-- The rows that an admission reads; an unlimited admission does not read the window. -/
def admissionKeys (input : AdmissionInput) : List PaidKey :=
  [input.requestKey, input.guardKey] ++ if input.unlimited = true then [] else [input.windowKey]

/-- One attempt of `admitPaidFallbackV3`: `decidePaidFallbackAdmissionV3`, then the commit it
decided on. -/
def attemptAdmitPaidFallback (input : AdmissionInput) :
    PaidM (Option PaidFallbackAdmissionResult) := do
  let got ← kvGets (admissionKeys input)
  let requestEntry := got input.requestKey
  let windowEntry := if input.unlimited = true then none else got input.windowKey
  let deletionGuardEntry := got input.guardKey
  let now ← dateNow
  match planPaidFallbackAdmissionV3 input.toNativePaidAdmissionInput (asRequest requestEntry)
      (asWindow windowEntry) (asDeletionGuard deletionGuardEntry) input.unlimited
      input.maximumExposureMicrocredits now with
  | .blocked reason => return some (.blocked reason)
  | .reserved reservation => return some (.reserved reservation)
  | .exhaustedPolicy window =>
    let committed ← commitExhaustedPolicyTransitionV3 input windowEntry deletionGuardEntry window
    return if committed = true then some (.blocked .limitExceeded) else none
  | .write plan =>
    writePaidFallbackAdmissionV3 input requestEntry windowEntry deletionGuardEntry plan now

def admitPaidFallbackV3 (input : AdmissionInput) : PaidM PaidFallbackAdmissionResult :=
  if isInvalidAdmissionPolicy input.toNativePaidAdmissionInput input.unlimited
      input.maximumExposureMicrocredits = true then return .blocked .invalidPolicy
  else retrying (attemptAdmitPaidFallback input) (return .blocked .concurrentUpdate) maxCasAttempts

/-! ### The lifecycle -/

def loadLifecycleGateEntryV3 (shouldArm : Bool) : PaidM (Option (Option (Entry PaidValue))) :=
  kvGetIf shouldArm .reconciliationGate

/-- One attempt of `updatePaidFallbackRequestV3`. -/
def attemptUpdatePaidFallbackRequest (reservation : PaidFallbackAdmissionV3)
    (patch : PaidFallbackRequestLifecyclePatchV3) : PaidM (Option Unit) := do
  let entry ← kvGet (.request reservation.keyId reservation.requestId)
  match asRequest entry with
  | none => return some ()
  | some current =>
    let now ← dateNow
    match planPaidFallbackLifecycleV3 current patch now with
    | none => return some ()
    | some plan =>
      let gateEntry ← loadLifecycleGateEntryV3 plan.readGate
      let committed ← kvCommit (.lifecycle reservation.keyId reservation.requestId)
        (⟨.request reservation.keyId reservation.requestId, entry⟩ ::
          (gateEntry.map fun gateEntry => ⟨.reconciliationGate, gateEntry⟩).toList)
        (LedgerWrite.toList
          { keyId := reservation.keyId
            requestId := reservation.requestId
            request := some plan.request
            gate := gateEntry.bind fun gateEntry =>
              if plan.dispatchBoundary = true ∨
                  paidFallbackReconciliationGateNeedsArm (asGate gateEntry) now = true then
                some (paidFallbackReconciliationGateDueNow (asGate gateEntry) now)
              else none })
      return if committed = true then some () else none

def updatePaidFallbackRequestV3 (reservation : PaidFallbackAdmissionV3)
    (patch : PaidFallbackRequestLifecyclePatchV3) : PaidM Unit :=
  retrying (attemptUpdatePaidFallbackRequest reservation patch)
    (throw "Paid fallback request changed concurrently.") maxCasAttempts

/-- One attempt of `releasePaidFallbackBeforeDispatchV3`. -/
def attemptReleasePaidFallback (reservation : PaidFallbackAdmissionV3)
    (allowDispatchIntent : Bool) : PaidM (Option Unit) := do
  let requestKey : PaidKey := .request reservation.keyId reservation.requestId
  let windowKey : PaidKey := .window reservation.keyId reservation.windowResetAtMs
  let got ← kvGets [requestKey, windowKey, .reconciliationGate]
  let now ← dateNow
  match planPaidFallbackReleaseV3 (asRequest (got requestKey)) (asWindow (got windowKey))
      (asGate (got .reconciliationGate)) allowDispatchIntent now with
  | none => return some ()
  | some plan =>
    let committed ← kvCommit
      (.release reservation.keyId reservation.requestId (asWindow (got windowKey)).isSome)
      ([⟨requestKey, got requestKey⟩, ⟨.reconciliationGate, got .reconciliationGate⟩] ++
        (plan.window.map fun _ => ⟨windowKey, got windowKey⟩).toList)
      (LedgerWrite.toList
        { keyId := reservation.keyId
          requestId := reservation.requestId
          request := some plan.request
          pending := some none
          gate := some plan.gate
          window := plan.window.map fun window => (reservation.windowResetAtMs, window) })
    return if committed = true then some () else none

/-- `releasePaidFallbackBeforeDispatchV3`; with `allowDispatchIntent` it is
`releasePaidFallbackBeforeProviderFetchV3`, without it `releaseUndispatchedPaidFallbackV3`. -/
def releasePaidFallbackBeforeDispatchV3 (reservation : PaidFallbackAdmissionV3)
    (allowDispatchIntent : Bool) : PaidM Unit :=
  retrying (attemptReleasePaidFallback reservation allowDispatchIntent)
    (throw "Paid fallback release changed concurrently.") maxCasAttempts

/-! ### Deletion -/

inductive PaidFallbackDeletionV3
  | deleted (requests windows pending leases : ℕ)
  | blocked (outstanding : PaidFallbackOutstandingV3)
deriving DecidableEq

/-- The loop of `deleteKvKeys`, with at most `n` transactions to go. -/
def deleteLoop (keyId : String) : ℕ → List PaidKey → PaidM Unit
  | 0, _ => return ()
  | n + 1, keys =>
    if keys = [] then return ()
    else do
      let committed ← kvCommit (.delete keyId) [] ((keys.take 100).map .delete)
      if committed = true then deleteLoop keyId n (keys.drop 100)
      else throw "Paid fallback state deletion changed concurrently."

def deleteKvKeys (keyId : String) (keys : List PaidKey) : PaidM Unit :=
  deleteLoop keyId keys.length keys

def attemptDeletionGuard (keyId : String) : PaidM (Option Unit) := do
  let guardEntry ← kvGet (.deletionGuard keyId)
  match planPaidFallbackDeletionGuardV3 (asDeletionGuard guardEntry) (← dateNow) with
  | none => return some ()
  | some guard =>
    let committed ← kvCommit (.deletionGuard keyId) [⟨.deletionGuard keyId, guardEntry⟩]
      [.set (.deletionGuard keyId) (.deletionGuard guard)]
    return if committed = true then some () else none

def kvListKeys (p : PaidKey → Bool) (fuel : ℕ) : PaidM (List PaidKey) :=
  kvFold p (fun keys listed => keys ++ [listed.1]) fuel .start []

/-- The part of `deletePaidFallbackStateV3` that deletes. -/
def deletePaidFallbackRows (fuel : ℕ) (keyId : String) : PaidM PaidFallbackDeletionV3 := do
  let requestKeys ← kvListKeys (isRequestOf keyId) fuel
  let windowKeys ← kvListKeys (isWindowOf keyId) fuel
  let pendingKeys ← kvListKeys (isPendingOf keyId) fuel
  let lease ← kvGet (.reconciliationLease keyId)
  let leaseKeys := if (asLease lease).isSome = true then [PaidKey.reconciliationLease keyId] else []
  deleteKvKeys keyId (requestKeys ++ windowKeys ++ pendingKeys ++ leaseKeys)
  return .deleted requestKeys.length windowKeys.length pendingKeys.length leaseKeys.length

def deletePaidFallbackStateV3 (fuel : ℕ) (keyId : String) : PaidM PaidFallbackDeletionV3 := do
  retrying (attemptDeletionGuard keyId)
    (throw "Paid fallback deletion guard changed concurrently.") maxCasAttempts
  let outstanding ← getPaidFallbackOutstandingV3 fuel keyId
  if outstanding.hasOutstanding = true then return .blocked outstanding
  else deletePaidFallbackRows fuel keyId

end UbqGateway.Paid
