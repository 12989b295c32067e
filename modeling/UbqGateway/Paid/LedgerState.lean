import UbqGateway.Library.Instructions
import UbqGateway.Paid.NativePaid

/-!
# The ledger's store

What all programs of the paid fallback share: the labels of their commits, the rows that one atomic
operation of the ledger writes, and from `src/paid-fallback/ledger-state.ts` the scan of the pending
markers, the recomputation of the reconciliation gate and the count of what is outstanding.

A commit is labelled with the operation that made it; the label is for the history and is not
stored.
-/

namespace UbqGateway.Paid

open ClientM

/-- A usage that a commit merged into a rollup. -/
abbrev RollupFold := NativePaidRollupIdentity × PaidFallbackUsageRollupInput

/-- What a commit of the history is labelled with. -/
inductive PaidCommit
  | policy (keyId : String)
  | admission (input : NativePaidAdmissionInput)
  | exhaustedPolicy (keyId : String) (resetAtMs : ℤ)
  | lifecycle (keyId requestId : String)
  | release (keyId requestId : String) (windowFound : Bool)
  | expedite (keyId requestId : String)
  | defer (keyId requestId : String) (now : ℤ)
  | cleanup (keyId requestId : String)
  | settle (keyId requestId : String) (spend : ℤ) (fold : Option RollupFold) (windowFound : Bool)
  | recompute
  | lease (keyId : String)
  | retention (keyId requestId : String)
  | fold (keyId requestId : String) (fold : Option RollupFold)
  | cursor (requestKey : Option PaidKey)
  | windowTtl (keyId : String) (resetAtMs : ℤ)
  | windowCursor
  | backfillLease
  | backfillState
  | deletionGuard (keyId : String)
  | delete (keyId : String)
deriving DecidableEq

/-- Programs of the paid fallback. -/
abbrev PaidM := ClientM PaidKey PaidValue PaidCommit

/-! ### Reading entries -/

def asRequest : Option (Entry PaidValue) → Option PaidFallbackRequestV3
  | some ⟨.request row, _⟩ => some row
  | _ => none

def asWindow : Option (Entry PaidValue) → Option PaidFallbackWindowV3
  | some ⟨.window window, _⟩ => some window
  | _ => none

def asPending : Option (Entry PaidValue) → Option PaidFallbackPendingV3
  | some ⟨.pending pending, _⟩ => some pending
  | _ => none

def asGate : Option (Entry PaidValue) → Option PaidFallbackReconciliationGateV3
  | some ⟨.gate gate, _⟩ => some gate
  | _ => none

def asDeletionGuard : Option (Entry PaidValue) → Option PaidFallbackDeletionGuardV3
  | some ⟨.deletionGuard guard, _⟩ => some guard
  | _ => none

def asLease : Option (Entry PaidValue) → Option PaidFallbackLeaseV3
  | some ⟨.lease lease, _⟩ => some lease
  | _ => none

def asCursor : Option (Entry PaidValue) → Option PaidKey
  | some ⟨.cursor requestKey, _⟩ => some requestKey
  | _ => none

/-- The rollup in an entry, if it passes its validator. -/
def asUsageRollup : Option (Entry PaidValue) → Option PaidFallbackUsageRollup
  | some ⟨.rollup rollup, _⟩ =>
    if isPaidFallbackUsageRollup rollup = true then some rollup else none
  | _ => none

/-! ### Writing rows -/

/-- The rows that one atomic operation of the ledger writes: at most one of each kind, all of one
key and one request. -/
structure LedgerWrite where
  keyId : String
  requestId : String
  request : Option PaidFallbackRequestV3 := none
  /-- `some none` deletes the marker. -/
  pending : Option (Option PaidFallbackPendingV3) := none
  rollup : Option (NativePaidRollupIdentity × PaidFallbackUsageRollup) := none
  gate : Option PaidFallbackReconciliationGateV3 := none
  window : Option (ℤ × PaidFallbackWindowV3) := none

def pendingWrite (keyId requestId : String) : Option PaidFallbackPendingV3 → Write PaidKey PaidValue
  | some pending => .set (.pending keyId requestId) (.pending pending)
  | none => .delete (.pending keyId requestId)

/-- The writes of the atomic operation. -/
def LedgerWrite.toList (rows : LedgerWrite) : List (Write PaidKey PaidValue) :=
  (rows.request.map fun row => .set (.request rows.keyId rows.requestId) (.request row)).toList ++
    (rows.pending.map (pendingWrite rows.keyId rows.requestId)).toList ++
    (rows.rollup.map fun rollup => .set (.usageRollup rollup.1) (.rollup rollup.2)).toList ++
    (rows.gate.map fun gate => .set .reconciliationGate (.gate gate)).toList ++
    (rows.window.map fun window => .set (.window rows.keyId window.1) (.window window.2)).toList

/-! ### Prefixes -/

/-- The prefix `paidFallbackRequestV3Prefix`. -/
def isRequestOf (keyId : String) : PaidKey → Bool
  | .request rowKeyId _ => decide (rowKeyId = keyId)
  | _ => false

/-- The prefix `paidFallbackWindowV3Prefix`. -/
def isWindowOf (keyId : String) : PaidKey → Bool
  | .window rowKeyId _ => decide (rowKeyId = keyId)
  | _ => false

/-- The prefix `paidFallbackPendingV3Prefix`. -/
def isPendingOf (keyId : String) : PaidKey → Bool
  | .pending rowKeyId _ => decide (rowKeyId = keyId)
  | _ => false

/-- The prefix `paidFallbackPendingV3GlobalPrefix`. -/
def isPending : PaidKey → Bool
  | .pending _ _ => true
  | _ => false

/-! ### The gate -/

structure PendingMarkerScan where
  entries : List (PaidKey × Entry PaidValue)
  earliestDueAtMs : Option ℤ

/-- The earlier of the due times so far and that of one more marker.  A time that is no safe count
is passed over. -/
def earliestDue (earliestDueAtMs : Option ℤ) (dueAtMs : ℤ) : Option ℤ :=
  if isSafeUsageCount dueAtMs = true then
    some (earliestDueAtMs.elim dueAtMs fun earliest => if dueAtMs < earliest then dueAtMs
      else earliest)
  else earliestDueAtMs

/-- The body of the loop of `scanPaidFallbackPendingMarkers`. -/
def scanMarker (scan : PendingMarkerScan) (listed : PaidKey × Entry PaidValue) :
    PendingMarkerScan where
  entries := listed :: scan.entries
  earliestDueAtMs := match asPending (some listed.2) with
    | some pending => earliestDue scan.earliestDueAtMs pending.nextReconciliationAtMs
    | none => scan.earliestDueAtMs

/-- `scanPaidFallbackPendingMarkers`; the entries stand last to first. -/
def scanPaidFallbackPendingMarkers (fuel : ℕ) : PaidM PendingMarkerScan :=
  kvFold isPending scanMarker fuel .start ⟨[], none⟩

def gateWrite (gate : PaidFallbackReconciliationGateV3) : List (Write PaidKey PaidValue) :=
  LedgerWrite.toList { keyId := "", requestId := "", gate := some gate }

/-- One attempt of `recomputePaidFallbackReconciliationGateV3`. -/
def attemptRecomputeGate (fuel : ℕ) : PaidM (Option (Option ℤ)) := do
  let gateEntry ← kvGet .reconciliationGate
  let scan ← scanPaidFallbackPendingMarkers fuel
  let committed ← kvCommit .recompute [⟨.reconciliationGate, gateEntry⟩]
    (gateWrite (paidFallbackGateAfterScanV3 scan.earliestDueAtMs))
  return if committed = true then some scan.earliestDueAtMs else none

def recomputePaidFallbackReconciliationGateV3 (fuel : ℕ) : PaidM (Option ℤ) :=
  retrying (attemptRecomputeGate fuel)
    (throw "Paid fallback reconciliation gate changed concurrently.") maxCasAttempts

/-! ### What is outstanding -/

/-- The body of the first loop of `getPaidFallbackOutstandingV3`. -/
def countOutstanding (counts : ℕ × ℕ) (listed : PaidKey × Entry PaidValue) : ℕ × ℕ :=
  match asRequest (some listed.2) with
  | some row => (counts.1 + (decide (row.billingState = .pending)).toNat,
      counts.2 + (decide (row.billingState = .unresolved)).toNat)
  | none => counts

def getPaidFallbackOutstandingV3 (fuel : ℕ) (keyId : String) : PaidM PaidFallbackOutstandingV3 := do
  let counts ← kvFold (isRequestOf keyId) countOutstanding fuel .start (0, 0)
  let markers ← kvFold (isPendingOf keyId) (fun count _ => count + 1) fuel .start 0
  return ⟨counts.1, counts.2, markers⟩

end UbqGateway.Paid
