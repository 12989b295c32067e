import UbqGateway.Library.Interleaving
import UbqGateway.Library.Doubles
import Mathlib.Data.Prod.Lex
import Mathlib.Data.String.Basic

/-!
# The paid fallback's data model

The types of `src/authority/native-paid-contracts.ts`, and the keys and values of the store in which
the paid fallback keeps its ledger: a row for each request, a marker for each request that is still
to be reconciled, a window for each key and reset time, the reconciliation gate and the rollups.

Times, tokens, counts and amounts in microcredits are integers, and quotas are rational.  What a
settlement or a merge adds up is rounded as doubles are; the sums of an admission are exact, since a
limit is a safe integer.  Left out are the version field `v`, which is `3` in every record of the
ledger, the percentage that a reservation reports, and the lists `checks` of the plans: they name
the rows that the drivers check.
-/

namespace UbqGateway.Paid

/-! ### Records -/

inductive PaidFallbackProvider
  | metered
  | surplus
deriving DecidableEq

def PaidFallbackProvider.label : PaidFallbackProvider → String
  | .metered => "metered"
  | .surplus => "surplus"

/-- The field `dispatch_state`. -/
inductive DispatchState
  | reserved
  | dispatched
  | notDispatched
deriving DecidableEq

/-- The field `terminal_state`. -/
inductive TerminalState
  | pending
  | completed
  | failed
  | incomplete
  | cancelled
  | ambiguous
deriving DecidableEq

/-- The field `billing_state`. -/
inductive BillingState
  | pending
  | settled
  | notBilled
  | unresolved
deriving DecidableEq

structure PaidFallbackRequestV3 where
  keyId : String
  requestId : String
  policyVersion : String
  route : String
  path : String
  model : String
  stream : Bool
  reasoning : Option String
  provider : Option PaidFallbackProvider
  windowResetAtMs : ℤ
  reservedMicrocredits : ℤ
  quotaPerCredit : ℤ
  providerRequestId : Option String
  providerQuota : Option ℚ
  inputTokens : Option ℤ
  cachedInputTokens : Option ℤ
  outputTokens : Option ℤ
  dispatchState : DispatchState
  terminalState : TerminalState
  spendMicrocredits : Option ℤ
  billingState : BillingState
  reconciliationAttempts : ℕ
  lastReconciliationAtMs : Option ℤ
  dispatchedAtMs : Option ℤ
  terminalAtMs : Option ℤ
  settledAtMs : Option ℤ
  createdAtMs : ℤ
  updatedAtMs : ℤ
  /-- Set when the usage of the row was folded into its rollup, or found to have none. -/
  usageRollupAtMs : Option ℤ
deriving DecidableEq

structure PaidFallbackWindowV3 where
  keyId : String
  policyVersion : String
  windowResetAtMs : ℤ
  limitMicrocredits : ℤ
  settledMicrocredits : ℤ
  reservedMicrocredits : ℤ
  pendingCount : ℤ
  updatedAtMs : ℤ
deriving DecidableEq

/-- `PaidFallbackPendingV3`: the marker of a request that is still to be reconciled. -/
structure PaidFallbackPendingV3 where
  createdAtMs : ℤ
  nextReconciliationAtMs : ℤ
deriving DecidableEq

structure PaidFallbackReconciliationGateV3 where
  nextDueAtMs : Option ℤ
deriving DecidableEq

/-- `PaidFallbackReconciliationLeaseV3` and `PaidFallbackBackfillLeaseV3` -/
structure PaidFallbackLeaseV3 where
  token : String
  expiresAtMs : ℤ
deriving DecidableEq

structure PaidFallbackDeletionGuardV3 where
  createdAtMs : ℤ
deriving DecidableEq

/-- `PaidFallbackAdmissionV3`: the reservation that an admission hands out. -/
structure PaidFallbackAdmissionV3 where
  keyId : String
  requestId : String
  createdAtMs : ℤ
  reservedMicrocredits : ℤ
  quotaPerCredit : ℤ
  windowResetAtMs : ℤ
deriving DecidableEq

structure PaidFallbackOutstandingV3 where
  pendingRequests : ℕ
  unresolvedRequests : ℕ
  pendingMarkers : ℕ
deriving DecidableEq

/-- The field `has_outstanding`. -/
def PaidFallbackOutstandingV3.hasOutstanding (outstanding : PaidFallbackOutstandingV3) : Bool :=
  decide (0 < outstanding.pendingRequests) || decide (0 < outstanding.unresolvedRequests) ||
    decide (0 < outstanding.pendingMarkers)

structure NativePaidAdmissionInput where
  keyId : String
  requestId : String
  createdAtMs : ℤ
  policyVersion : String
  limitMicrocredits : ℤ
  maximumExposureMicrocredits : Option ℤ
  initialSettledMicrocredits : ℤ
  quotaPerCredit : ℤ
  windowResetAtMs : ℤ
  model : String
  route : String
  path : String
  stream : Bool
  reasoning : Option String
  dispatchIntent : Bool
deriving DecidableEq

structure PaidFallbackRequestLifecyclePatchV3 where
  provider : Option PaidFallbackProvider := none
  providerRequestId : Option String := none
  dispatchState : Option DispatchState := none
  terminalState : Option TerminalState := none
  reconciliationAttempts : Option ℕ := none
  lastReconciliationAtMs : Option ℤ := none
  incrementReconciliationAttempts : Bool := false

structure ResolvedRequestLifecycleV3 where
  provider : Option PaidFallbackProvider
  providerRequestId : Option String
  dispatchState : DispatchState
  terminalState : TerminalState
  reconciliationAttempts : ℕ
  lastReconciliationAtMs : Option ℤ

structure PaidFallbackUsageRollup where
  bucketStartAtMs : ℤ
  model : String
  provider : String
  requestCount : ℤ
  quotaSum : ℚ
  inputTokens : ℤ
  cachedInputTokens : ℤ
  outputTokens : ℤ
  spendMicrocredits : ℤ
  firstRequestAtMs : ℤ
  lastRequestAtMs : ℤ
  updatedAtMs : ℤ
deriving DecidableEq

structure PaidFallbackUsageRollupInput where
  bucketStartAtMs : ℤ
  model : String
  provider : String
  requestId : String
  quota : ℚ
  inputTokens : ℤ
  cachedInputTokens : Option ℤ
  outputTokens : ℤ
  spendMicrocredits : ℤ
  requestCreatedAtMs : ℤ
  updatedAtMs : ℤ
deriving DecidableEq

/-- `NativePaidProviderLog`: what a provider reports about a request. -/
structure NativePaidProviderLog where
  requestId : String
  quota : ℚ
  promptTokens : ℤ
  cachedPromptTokens : Option ℤ
  completionTokens : ℤ
  model : String
  createdAt : ℤ

inductive NativePaidCorrelation
  | providerRequestId
  | surplusReservation
deriving DecidableEq

structure NativePaidRollupIdentity where
  bucketStartAtMs : ℤ
  model : String
  provider : String
  shard : ℕ
deriving DecidableEq

structure NativePaidSettlementMetadata where
  correlation : NativePaidCorrelation
  microcreditsPerCredit : ℤ
  surplusBuyerCostMicro : Option ℤ

/-! ### Plans -/

inductive PaidFallbackAdmissionBlockedReason
  | limitExceeded
  | invalidPolicy
  | concurrentUpdate
deriving DecidableEq

/-- The plan `write` of `NativePaidAdmissionPlan`. -/
structure NativePaidAdmissionWrite where
  request : PaidFallbackRequestV3
  pending : PaidFallbackPendingV3
  window : Option PaidFallbackWindowV3
  reservation : PaidFallbackAdmissionV3
  checkGate : Bool
deriving DecidableEq

inductive NativePaidAdmissionPlan
  | blocked (reason : PaidFallbackAdmissionBlockedReason)
  | reserved (reservation : PaidFallbackAdmissionV3)
  | exhaustedPolicy (window : PaidFallbackWindowV3)
  | write (plan : NativePaidAdmissionWrite)

structure NativePaidLifecyclePlan where
  request : PaidFallbackRequestV3
  readGate : Bool
  dispatchBoundary : Bool

/-- `NativePaidReleasePlan` and `NativePaidSettlementPlan` -/
structure NativePaidReleasePlan where
  request : PaidFallbackRequestV3
  window : Option PaidFallbackWindowV3
  gate : PaidFallbackReconciliationGateV3

inductive NativePaidDeferralPlan
  | noop
  | cleanup
  | write (request : PaidFallbackRequestV3) (pending : PaidFallbackPendingV3) (delay : ℤ)

inductive NativePaidSettlementEvaluation
  | cleanup
  | noop
  | defer
  | settle (spend : ℤ)

/-- The plan of `planPaidFallbackBackfillFoldV3`. -/
structure NativePaidBackfillFold where
  request : PaidFallbackRequestV3
  rollup : Option PaidFallbackUsageRollup

inductive BackfillRowState
  | missing
  | retention
  | fold
deriving DecidableEq

/-! ### The store -/

inductive PaidKey
  | deletionGuard (keyId : String)
  | pending (keyId requestId : String)
  | reconciliationGate
  | reconciliationLease (keyId : String)
  | request (keyId requestId : String)
  | backfillCursor
  | backfillLease
  | backfillState
  | backfillWindowCursor
  | usageRollup (identity : NativePaidRollupIdentity)
  | window (keyId : String) (resetAtMs : ℤ)
  /-- The record of an API key, whose versionstamp fences an admission. -/
  | policy (keyId : String)
deriving DecidableEq

/-- What the store can hold under a key. -/
inductive PaidValue
  | deletionGuard (guard : PaidFallbackDeletionGuardV3)
  | pending (pending : PaidFallbackPendingV3)
  | gate (gate : PaidFallbackReconciliationGateV3)
  | lease (lease : PaidFallbackLeaseV3)
  | request (row : PaidFallbackRequestV3)
  | cursor (requestKey : PaidKey)
  | backfillState (completedAtMs : ℤ)
  | rollup (rollup : PaidFallbackUsageRollup)
  | window (window : PaidFallbackWindowV3)
  | policy (record : String)
deriving DecidableEq

/-- The parts of a key, most significant first: the position of its prefix among the prefixes, then
the parts after the prefix. -/
def PaidKey.parts : PaidKey → ℕ ×ₗ ℤ ×ₗ String ×ₗ String ×ₗ ℤ
  | .deletionGuard keyId => toLex (0, toLex (0, toLex (keyId, toLex ("", 0))))
  | .pending keyId requestId => toLex (1, toLex (0, toLex (keyId, toLex (requestId, 0))))
  | .reconciliationGate => toLex (2, toLex (0, toLex ("", toLex ("", 0))))
  | .reconciliationLease keyId => toLex (3, toLex (0, toLex (keyId, toLex ("", 0))))
  | .request keyId requestId => toLex (4, toLex (0, toLex (keyId, toLex (requestId, 0))))
  | .backfillCursor => toLex (5, toLex (0, toLex ("", toLex ("", 0))))
  | .backfillLease => toLex (6, toLex (0, toLex ("", toLex ("", 0))))
  | .backfillState => toLex (7, toLex (0, toLex ("", toLex ("", 0))))
  | .backfillWindowCursor => toLex (8, toLex (0, toLex ("", toLex ("", 0))))
  | .usageRollup identity => toLex (9, toLex (identity.bucketStartAtMs, toLex (identity.model,
      toLex (identity.provider, (identity.shard : ℤ)))))
  | .window keyId resetAtMs => toLex (10, toLex (0, toLex (keyId, toLex ("", resetAtMs))))
  | .policy keyId => toLex (11, toLex (0, toLex (keyId, toLex ("", 0))))

theorem PaidKey.parts_injective : Function.Injective PaidKey.parts := by
  intro j k h
  rcases j with _ | _ | _ | _ | _ | _ | _ | _ | _ | ⟨_, _, _, _⟩ | _ | _ <;>
    rcases k with _ | _ | _ | _ | _ | _ | _ | _ | _ | ⟨_, _, _, _⟩ | _ | _ <;>
      simp_all [PaidKey.parts]

/-- The order in which the store lists its keys. -/
instance : LinearOrder PaidKey := LinearOrder.lift' PaidKey.parts PaidKey.parts_injective

/-- The store of the paid fallback. -/
abbrev PaidKv := Kv PaidKey PaidValue

end UbqGateway.Paid
