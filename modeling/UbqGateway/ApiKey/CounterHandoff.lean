import UbqGateway.ApiKey.NativeApiKey
import UbqGateway.Library.JsString
import UbqGateway.Library.Programs
import Mathlib.Data.Prod.Lex
import Mathlib.Data.String.Basic

/-!
# The handoff of the usage counters

`migrateBoundedCounterHandoff` of `src/cache/kv-migration-usage.ts`, and the transactions of
`src/api-key-policy.ts` that move the window it hands over to: reservations, dispatches, releases
and cancellations.  Old revisions count the requests of a window in a counter of their own.  A run
of the handoff folds what it observes of that counter into the V3 window, and a baseline row
remembers the largest usage that was folded.

A reservation is given the live policy.  The row that holds the policy and the check of that row are
left out, and so are the times at which rows expire.
-/

namespace UbqGateway.ApiKey

/-! ### The rows -/

structure ApiKeyUsagePolicyScope where
  keyId : String
  policyVersion : String
  windowStartMs : ℤ
deriving DecidableEq

/-- The window that a policy counts in. -/
def ApiKeyPolicy.scope (policy : ApiKeyPolicy) : ApiKeyUsagePolicyScope :=
  ⟨policy.keyId, policy.policyVersion, policy.windowStartMs⟩

/-- The keys: `apiKeyUsageV2MigrationBaselineKey`, `apiKeyUsageV2Key`, `apiKeyUsageV3WindowKey` and
`apiKeyUsageV3RequestKey`. -/
inductive UsageKey
  | baseline (scope : ApiKeyUsagePolicyScope)
  | counter (keyId version : String) (windowStartMs : ℤ)
  | window (scope : ApiKeyUsagePolicyScope)
  | request (scope : ApiKeyUsagePolicyScope) (requestId : String)
deriving DecidableEq

def UsageKey.parts : UsageKey → ℕ ×ₗ String ×ₗ String ×ₗ ℤ ×ₗ String
  | .baseline s => toLex (0, toLex (s.keyId, toLex (s.policyVersion, toLex (s.windowStartMs, ""))))
  | .counter keyId version start => toLex (1, toLex (keyId, toLex (version, toLex (start, ""))))
  | .window s => toLex (2, toLex (s.keyId, toLex (s.policyVersion, toLex (s.windowStartMs, ""))))
  | .request s requestId =>
    toLex (3, toLex (s.keyId, toLex (s.policyVersion, toLex (s.windowStartMs, requestId))))

theorem UsageKey.parts_injective : Function.Injective UsageKey.parts := by
  intro j k h
  rcases j with ⟨⟨_, _, _⟩⟩ | _ | ⟨⟨_, _, _⟩⟩ | ⟨⟨_, _, _⟩, _⟩ <;>
    rcases k with ⟨⟨_, _, _⟩⟩ | _ | ⟨⟨_, _, _⟩⟩ | ⟨⟨_, _, _⟩, _⟩ <;> simp_all [UsageKey.parts]

/-- The order in which the store lists its keys. -/
instance : LinearOrder UsageKey := LinearOrder.lift' UsageKey.parts UsageKey.parts_injective

/-- The key of the V2 counter of a window, whose version has no `v3:` in front. -/
def apiKeyUsageV2Key (scope : ApiKeyUsagePolicyScope) : UsageKey :=
  .counter scope.keyId
    (if JsString.startsWith scope.policyVersion "v3:" = true
      then String.ofList (scope.policyVersion.toList.drop 3) else scope.policyVersion)
    scope.windowStartMs

structure ApiKeyUsageV2MigrationBaseline where
  keyId : String
  policyVersion : String
  windowStartMs : ℤ
  lastLegacyUsageRequests : ℤ
  seededAtMs : ℤ
  reconciledAtMs : Option ℤ
  reconciliationRuns : ℤ
deriving DecidableEq

/-- The values; `malformed` is any value that is none of the others. -/
inductive UsageValue
  | baseline (baseline : ApiKeyUsageV2MigrationBaseline)
  | counter (value : ℕ)
  | window (window : ApiKeyUsageWindowV3)
  | request (request : ApiKeyUsageRequestV3)
  | malformed

/-- What a commit did. -/
inductive UsageLabel
  | reserve (scope : ApiKeyUsagePolicyScope)
  | dispatch (scope : ApiKeyUsagePolicyScope)
  | release (scope : ApiKeyUsagePolicyScope)
  | cancel (scope : ApiKeyUsagePolicyScope)
  | count
  | handoff (scope : ApiKeyUsagePolicyScope) (observedV2Usage : ℤ)

/-- The store of the usage rows. -/
abbrev UsageKv := Kv UsageKey UsageValue

/-- The programs on the usage rows. -/
abbrev UsageM (α : Type) := Prog UsageKey UsageValue UsageLabel α

/-- A row that is read as a window.  What is no window is one that no check accepts. -/
def windowOf : Option (Entry UsageValue) → Option ApiKeyUsageWindowV3
  | none => none
  | some ⟨.window window, _⟩ => some window
  | some _ => some ⟨"", "", 0, 0, 0, 0, 0⟩

/-- A row that is read as a request.  What is no request is one that no check accepts. -/
def requestOf : Option (Entry UsageValue) → Option ApiKeyUsageRequestV3
  | none => none
  | some ⟨.request request, _⟩ => some request
  | some _ => some ⟨"", "", "", .reserved, 0, 0, none, none, none, none⟩

/-! ### The V3 transactions -/

section Requests

variable (policy : ApiKeyPolicy) (requestId : String)

/-- The keys of the two rows of a request. -/
def requestKeys : List UsageKey := [.request policy.scope requestId, .window policy.scope]

/-- The rows of a request as they were read. -/
def usageSnapshotOf (got : UsageKey → Option (Entry UsageValue)) : ApiKeyUsageSnapshot :=
  ⟨requestOf (got (.request policy.scope requestId)), windowOf (got (.window policy.scope))⟩

def requestWrites (scope : ApiKeyUsagePolicyScope) (request : ApiKeyUsageRequestV3)
    (window : ApiKeyUsageWindowV3) : List (Write UsageKey UsageValue) :=
  [.set (.request scope requestId) (.request request), .set (.window scope) (.window window)]

/-- The transaction of a plan: both rows are checked and written. -/
def commitPlan (label : UsageLabel) (got : UsageKey → Option (Entry UsageValue))
    (plan : ApiKeyUsageWritePlan) : UsageM Bool :=
  Prog.transaction label
    [⟨.request policy.scope requestId, got (.request policy.scope requestId)⟩,
      ⟨.window policy.scope, got (.window policy.scope)⟩]
    (requestWrites requestId policy.scope plan.request plan.window)

/-- `attemptApiKeyUsageReservation` with the live policy: whether the request is reserved. -/
def attemptApiKeyUsageReservation (route : String) (nowMs : ℤ) : UsageM Bool := do
  let got ← Prog.gets (requestKeys policy requestId)
  match planApiKeyUsageReservation policy requestId route
    (usageSnapshotOf policy requestId got) nowMs with
  | .write plan => commitPlan policy requestId (.reserve policy.scope) got plan
  | .reuse => return true
  | _ => return false

/-- The loop of `beforeProviderDispatch`: whether the request is dispatched. -/
def dispatchLoop (route : String) (provider : ApiKeyUsageProvider) : ℕ → UsageM Bool
  | 0 => return false
  | attempts + 1 => do
    let got ← Prog.gets (requestKeys policy requestId)
    let nowMs ← Prog.clock
    match planApiKeyUsageDispatch policy requestId route provider
      (usageSnapshotOf policy requestId got)
      nowMs with
    | .write plan =>
      let committed ← commitPlan policy requestId (.dispatch policy.scope) got plan
      if committed = true then return true else dispatchLoop route provider attempts
    | .alreadyDispatched => return true
    | .invalid => return false

def beforeProviderDispatch (route : String) (provider : ApiKeyUsageProvider) : UsageM Bool :=
  dispatchLoop policy requestId route provider 5

/-- `releaseReservedRequest`: whether the request was released. -/
def releaseReservedRequest (reason : String) (nowMs : ℤ) (expectedRoute : Option String) :
    UsageM Bool := do
  let got ← Prog.gets (requestKeys policy requestId)
  match planApiKeyUsageReservedRelease policy requestId reason
    (usageSnapshotOf policy requestId got) nowMs
    expectedRoute with
  | .write plan => commitPlan policy requestId (.release policy.scope) got plan
  | _ => return false

/-- `releaseDispatchedRequest`: whether the dispatch was taken back. -/
def releaseDispatchedRequest (route : String) (provider : ApiKeyUsageProvider) (nowMs : ℤ) :
    UsageM Bool := do
  let got ← Prog.gets (requestKeys policy requestId)
  match planApiKeyUsageDispatchCancellation policy requestId route provider
    (usageSnapshotOf policy requestId got) nowMs with
  | .write plan => commitPlan policy requestId (.cancel policy.scope) got plan
  | _ => return false

end Requests

/-- An old revision counts: whatever it computes from the counter, it writes a number there. -/
def countV2 (scope : ApiKeyUsagePolicyScope) (value : ℕ) : UsageM Bool :=
  Prog.transaction .count [] [.set (apiKeyUsageV2Key scope) (.counter value)]

/-! ### The handoff -/

inductive HandoffError
  | counterInvalid
  | counterOutOfRange
  | windowIdentityInvalid
  | baselineInvalid
  | windowMissing
  | changedConcurrently
deriving DecidableEq

/-- The text of the thrown error. -/
def HandoffError.message (keyId : String) : HandoffError → String
  | .counterInvalid => "Legacy V2 API-key counter is invalid: " ++ keyId
  | .counterOutOfRange => "Legacy V2 API-key counter is out of range: " ++ keyId
  | .windowIdentityInvalid => "V3 API-key window identity is invalid: " ++ keyId
  | .baselineInvalid => "Bounded counter handoff baseline is invalid: " ++ keyId
  | .windowMissing => "V3 API-key window is missing: " ++ keyId
  | .changedConcurrently => "Bounded counter handoff changed concurrently: " ++ keyId

structure BoundedCounterHandoffResult where
  baselineCreated : Bool
  baselineReconciled : Bool
  legacyUsageDeltaApplied : ℤ
deriving DecidableEq

def isApiKeyId (value : String) : Bool :=
  decide (value = JsString.trim value) && decide (value ≠ "") &&
    decide ((value.toList.map fun c => if c.toNat < 65536 then 1 else 2).foldl (· + ·) 0 ≤ 200)

def isPositiveSafeInteger (value : ℤ) : Bool := isSafeNonNegativeInteger value && decide (0 < value)

/-- `normalizeApiKeyUsageV2MigrationBaseline`, of a row that was read. -/
def normalizeApiKeyUsageV2MigrationBaseline :
    Option (Entry UsageValue) → Option ApiKeyUsageV2MigrationBaseline
  | some ⟨.baseline baseline, _⟩ => (some baseline).filter fun baseline =>
      isApiKeyId baseline.keyId && decide (baseline.policyVersion ≠ "") &&
        isSafeNonNegativeInteger baseline.windowStartMs &&
        isSafeNonNegativeInteger baseline.lastLegacyUsageRequests &&
        isPositiveSafeInteger baseline.seededAtMs &&
        baseline.reconciledAtMs.all isPositiveSafeInteger &&
        isSafeNonNegativeInteger baseline.reconciliationRuns
  | _ => none

section Handoff

variable (policy : ApiKeyPolicy)

def handoffKeys : List UsageKey :=
  [.baseline policy.scope, apiKeyUsageV2Key policy.scope, .window policy.scope]

def handoffChecks (got : UsageKey → Option (Entry UsageValue)) : List (Check UsageKey UsageValue) :=
  (handoffKeys policy).map fun key => ⟨key, got key⟩

def handoffWrites (baseline : ApiKeyUsageV2MigrationBaseline) (window : ApiKeyUsageWindowV3) :
    List (Write UsageKey UsageValue) :=
  [.set (.baseline policy.scope) (.baseline baseline), .set (.window policy.scope) (.window window)]

/-- The baseline that `seedBoundedCounterBaseline` writes. -/
def seededBaseline (observedV2Usage nowMs : ℤ) (handoffAlreadyInitialized : Bool) :
    ApiKeyUsageV2MigrationBaseline where
  keyId := policy.keyId
  policyVersion := policy.policyVersion
  windowStartMs := policy.windowStartMs
  lastLegacyUsageRequests := observedV2Usage
  seededAtMs := nowMs
  reconciledAtMs := if handoffAlreadyInitialized = true then some nowMs else none
  reconciliationRuns := if handoffAlreadyInitialized = true then 1 else 0

/-- The window that `seedBoundedCounterBaseline` writes. -/
def seededWindow (observedV2Usage : ℤ) (existingWindow : Option ApiKeyUsageWindowV3) (nowMs : ℤ) :
    ApiKeyUsageWindowV3 :=
  { existingWindow.getD (makeApiKeyUsageWindowV3 policy nowMs) with
    committedRequests :=
      max (existingWindow.elim 0 ApiKeyUsageWindowV3.committedRequests) observedV2Usage
    updatedAtMs := nowMs }

/-- `seedBoundedCounterBaseline`; without a result if something has changed. -/
def seedBoundedCounterBaseline (got : UsageKey → Option (Entry UsageValue)) (observedV2Usage : ℤ)
    (existingWindow : Option ApiKeyUsageWindowV3) (nowMs : ℤ) (handoffAlreadyInitialized : Bool) :
    UsageM (Option BoundedCounterHandoffResult) := do
  let committed ← Prog.transaction (.handoff policy.scope observedV2Usage)
    (handoffChecks policy got)
    (handoffWrites policy (seededBaseline policy observedV2Usage nowMs handoffAlreadyInitialized)
      (seededWindow policy observedV2Usage existingWindow nowMs))
  return if committed = true then some ⟨true, handoffAlreadyInitialized, observedV2Usage⟩ else none

/-- The baseline that `updateBoundedCounterBaseline` writes. -/
def updatedBaseline (baseline : ApiKeyUsageV2MigrationBaseline) (observedV2Usage nowMs : ℤ)
    (handoffAlreadyInitialized : Bool) : ApiKeyUsageV2MigrationBaseline :=
  { baseline with
    lastLegacyUsageRequests := max baseline.lastLegacyUsageRequests observedV2Usage
    reconciledAtMs := if handoffAlreadyInitialized = true then some nowMs else none
    reconciliationRuns := if handoffAlreadyInitialized = true then baseline.reconciliationRuns + 1
      else 0 }

/-- By how much the observed usage exceeds what was folded before. -/
def legacyDelta (baseline : ApiKeyUsageV2MigrationBaseline) (observedV2Usage : ℤ) : ℤ :=
  max baseline.lastLegacyUsageRequests observedV2Usage - baseline.lastLegacyUsageRequests

/-- The window that `updateBoundedCounterBaseline` writes. -/
def updatedWindow (baseline : ApiKeyUsageV2MigrationBaseline) (existingWindow : ApiKeyUsageWindowV3)
    (observedV2Usage nowMs : ℤ) : ApiKeyUsageWindowV3 :=
  { existingWindow with
    committedRequests := existingWindow.committedRequests + legacyDelta baseline observedV2Usage
    updatedAtMs := nowMs }

/-- `updateBoundedCounterBaseline`; without a result if something has changed. -/
def updateBoundedCounterBaseline (got : UsageKey → Option (Entry UsageValue)) (observedV2Usage : ℤ)
    (existingWindow : Option ApiKeyUsageWindowV3) (nowMs : ℤ) (handoffAlreadyInitialized : Bool) :
    UsageM (Except HandoffError (Option BoundedCounterHandoffResult)) :=
  match normalizeApiKeyUsageV2MigrationBaseline (got (.baseline policy.scope)) with
  | none => return .error .baselineInvalid
  | some baseline =>
    if baseline.keyId ≠ policy.keyId ∨ baseline.policyVersion ≠ policy.policyVersion ∨
        baseline.windowStartMs ≠ policy.windowStartMs then return .error .baselineInvalid
    else match existingWindow with
    | none => return .error .windowMissing
    | some existingWindow => do
      let committed ← Prog.transaction (.handoff policy.scope observedV2Usage)
        (handoffChecks policy got)
        (handoffWrites policy
          (updatedBaseline baseline observedV2Usage nowMs handoffAlreadyInitialized)
          (updatedWindow baseline existingWindow observedV2Usage nowMs))
      return .ok (if committed = true
        then some ⟨false, handoffAlreadyInitialized, legacyDelta baseline observedV2Usage⟩
          else none)

/-- The legacy usage that a run observes: the counter, or what the caller passes if there is
none. -/
def observedUsage (counterEntry : Option (Entry UsageValue)) (legacyUsageRequests : ℤ) :
    Except HandoffError ℤ :=
  match counterEntry with
  | none => if isSafeNonNegativeInteger legacyUsageRequests = true then .ok legacyUsageRequests
      else .error .counterOutOfRange
  | some ⟨.counter value, _⟩ => if isSafeNonNegativeInteger value = true then .ok value
      else .error .counterOutOfRange
  | some _ => .error .counterInvalid

/-- The window belongs to the policy. -/
def windowIdentityMatches (window : ApiKeyUsageWindowV3) : Bool :=
  decide (window.keyId = policy.keyId ∧ window.policyVersion = policy.policyVersion ∧
    window.windowStartMs = policy.windowStartMs ∧ window.windowResetAtMs = policy.usageResetAtMs)

def attemptHandoff (legacyUsageRequests nowMs : ℤ) (handoffAlreadyInitialized : Bool)
    (got : UsageKey → Option (Entry UsageValue)) :
    UsageM (Except HandoffError (Option BoundedCounterHandoffResult)) :=
  match observedUsage (got (apiKeyUsageV2Key policy.scope)) legacyUsageRequests with
  | .error error => return .error error
  | .ok observedV2Usage =>
    let existingWindow := normalizeApiKeyUsageWindowV3 (windowOf (got (.window policy.scope)))
    if existingWindow.all (windowIdentityMatches policy) = false then
      return .error .windowIdentityInvalid
    else if got (.baseline policy.scope) = none then do
      let handoff ← seedBoundedCounterBaseline policy got observedV2Usage existingWindow nowMs
        handoffAlreadyInitialized
      return .ok handoff
    else updateBoundedCounterBaseline policy got observedV2Usage existingWindow nowMs
      handoffAlreadyInitialized

/-- The loop of `migrateBoundedCounterHandoff`. -/
def handoffLoop (legacyUsageRequests nowMs : ℤ) (handoffAlreadyInitialized : Bool) :
    ℕ → UsageM (Except HandoffError BoundedCounterHandoffResult)
  | 0 => return .error .changedConcurrently
  | attempts + 1 => do
    let got ← Prog.gets (handoffKeys policy)
    let handoff ← attemptHandoff policy legacyUsageRequests nowMs handoffAlreadyInitialized got
    match handoff with
    | .error error => return .error error
    | .ok (some handoff) => return .ok handoff
    | .ok none => handoffLoop legacyUsageRequests nowMs handoffAlreadyInitialized attempts

def migrateBoundedCounterHandoff (legacyUsageRequests nowMs : ℤ)
    (handoffAlreadyInitialized : Bool) :
    UsageM (Except HandoffError BoundedCounterHandoffResult) :=
  handoffLoop policy legacyUsageRequests nowMs handoffAlreadyInitialized 5

end Handoff

/-! ### The clients -/

inductive UsageCall
  | reserve (policy : ApiKeyPolicy) (requestId route : String) (nowMs : ℤ)
  | dispatch (policy : ApiKeyPolicy) (requestId route : String) (provider : ApiKeyUsageProvider)
  | release (policy : ApiKeyPolicy) (requestId reason : String) (nowMs : ℤ)
      (expectedRoute : Option String)
  | cancel (policy : ApiKeyPolicy) (requestId route : String) (provider : ApiKeyUsageProvider)
      (nowMs : ℤ)
  | count (scope : ApiKeyUsagePolicyScope) (value : ℕ)
  | handoff (policy : ApiKeyPolicy) (legacyUsageRequests nowMs : ℤ)
    (handoffAlreadyInitialized : Bool)

/-- What a client ends with. -/
inductive UsageReply
  | settled (changed : Bool)
  | handoff (result : Except HandoffError BoundedCounterHandoffResult)
deriving DecidableEq

/-- The program of a client. -/
def UsageCall.perform : UsageCall → UsageM UsageReply
  | .reserve policy requestId route nowMs =>
    UsageReply.settled <$> attemptApiKeyUsageReservation policy requestId route nowMs
  | .dispatch policy requestId route provider =>
    UsageReply.settled <$> beforeProviderDispatch policy requestId route provider
  | .release policy requestId reason nowMs expectedRoute =>
    UsageReply.settled <$> releaseReservedRequest policy requestId reason nowMs expectedRoute
  | .cancel policy requestId route provider nowMs =>
    UsageReply.settled <$> releaseDispatchedRequest policy requestId route provider nowMs
  | .count scope value => UsageReply.settled <$> countV2 scope value
  | .handoff policy legacyUsageRequests nowMs handoffAlreadyInitialized =>
    UsageReply.handoff <$>
      migrateBoundedCounterHandoff policy legacyUsageRequests nowMs handoffAlreadyInitialized

def usagePrograms : Set (UsageM UsageReply) := Set.range UsageCall.perform

end UbqGateway.ApiKey
