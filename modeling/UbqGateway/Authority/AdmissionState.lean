import UbqGateway.Authority.Contracts
import UbqGateway.Library.Interleaving

/-!
# The admission protocol of `PortableAuthority`

The operations of `src/authority/admission-state.ts`.  Each is an action on a private copy of the
state that returns a reply and the changed state, or throws; a thrown action commits nothing.  The
actions come first, in the order of the source, then the compare-and-swap loop that runs one
(`transact`) and the operations a caller invokes (`PortableAuthority.invoke`).
-/

namespace UbqGateway.Authority

def emptyWindow : PrincipalWindow := ⟨0, 0, 0, 0, 0, 0, 0⟩

/-- `createAuthorityState`; `Object.fromEntries` keeps the last policy of a principal and defines
own properties only. -/
def createAuthorityState (scope : AuthorityScope) (accounts : List AccountBinding)
    (policies : List PrincipalPolicy) : AuthorityState where
  scope := scope
  sequence := 0
  accounts := accounts
  active := none
  policies := policies.foldl (fun values policy => values.insert policy.principalId policy)
    Record.empty
  windows := Record.empty
  admissions := Record.empty

/-! ### Account selection -/

def applicableProof (account : AccountBinding) (model : String) (now : ℤ) : Option AccountProof :=
  account.proof.filter fun proof =>
    proof.fingerprint = account.fingerprint ∧ proof.model = model ∧ proof.observedAtMs ≤ now ∧
      now < proof.validUntilMs

def cohort (state : AuthorityState) (model : String) : List AccountBinding :=
  state.accounts.filter fun account => account.enabled && account.models.contains model

def unavailable (account : AccountBinding) (model : String) (now : ℤ) : Bool :=
  match applicableProof account model now with
  | some proof => proof.kind = .quotaExhausted ∨ proof.kind = .credentialInvalid
  | none => false

/-- The cohort is not empty and every account of it has a proof of exhaustion. -/
def PoolExhausted (state : AuthorityState) (model : String) (now : ℤ) : Prop :=
  cohort state model ≠ [] ∧ ∀ account ∈ cohort state model, unavailable account model now = true

instance (state : AuthorityState) (model : String) (now : ℤ) :
    Decidable (PoolExhausted state model now) :=
  inferInstanceAs (Decidable (_ ∧ _))

/-- The part of `selectAccount` after the active account turned out to be unusable. -/
def selectNext (state : AuthorityState) (model : String) (now : ℤ) :
    Except Thrown (Option AccountBinding × AuthorityState) :=
  match (cohort state model).find? fun account => (applicableProof account model now).isNone with
  | some next =>
    .ok (some next, { state with
      active := some ⟨next.accountId, next.fingerprint,
        (state.active.map ActiveAccount.generation).getD 0 + 1⟩ })
  | none => do
    require (PoolExhausted state model now) "routing_unavailable" 503
    pure (none, state)

def selectAccount (state : AuthorityState) (model : String) (now : ℤ) :
    Except Thrown (Option AccountBinding × AuthorityState) :=
  match state.accounts.find? fun account =>
      account.enabled && state.active.map ActiveAccount.accountId = some account.accountId with
  | some current => do
    -- Missing model support or a transient circuit never retires the global account.
    require (model ∈ current.models) "active_model_unavailable" 503
    require ((applicableProof current model now).map AccountProof.kind ≠ some .transient)
      "routing_unavailable" 503
    if unavailable current model now = false then
      pure (some current, { state with
        active := some ⟨current.accountId, current.fingerprint,
          (state.active.map ActiveAccount.generation).getD 1⟩ })
    else selectNext state model now
  | none => selectNext state model now

/-! ### Access to a request and its window -/

/-- `PortableAuthority._request` -/
def findRequest (state : AuthorityState) (handle : AdmissionHandle) :
    Except Thrown AdmissionRecord := do
  let request ← demand (state.admissions.lookup handle.requestId) "admission_fence_mismatch"
  require (request.handle.fence = handle.fence) "admission_fence_mismatch"
  pure request

/-- The state with the changed request in place. -/
def putRequest (state : AuthorityState) (handle : AdmissionHandle) (request : AdmissionRecord) :
    AuthorityState :=
  { state with admissions := state.admissions.insert handle.requestId request }

/-- `state.windows[key]` -/
def windowOf (state : AuthorityState) (key : WindowKey) : Except Thrown PrincipalWindow :=
  match state.windows.lookup key with
  | some window => .ok window
  | none => .error .typeError

/-- The state with window `key` changed by `f`. -/
def updateWindow (state : AuthorityState) (key : WindowKey)
    (f : PrincipalWindow → PrincipalWindow) : Except Thrown AuthorityState := do
  let window ← windowOf state key
  pure { state with windows := state.windows.insert key (f window) }

/-- The policy checks of `reserveAttempt`, `beginDispatch` and `reselectSubscription`. -/
def livePolicy (state : AuthorityState) (request : AdmissionRecord) (nowMs : ℤ) :
    Except Thrown PrincipalPolicy := do
  let policy ← demand (state.policies.lookup request.principalId) "principal_policy_changed" 403
  require (policy.deleted = false ∧ policy.version = request.policyVersion)
    "principal_policy_changed" 403
  require (nowMs < policy.windowResetAtMs ∧
    request.windowKey = ⟨request.principalId, policy.windowResetAtMs⟩) "quota_window_changed"
  pure policy

/-! ### Admission -/

def sameIdentity (previous : AdmissionRecord) (input : AdmitInput) : Prop :=
  previous.digest = input.digest ∧ previous.principalId = input.principalId ∧
    previous.model = input.model ∧ previous.route = input.route ∧
    previous.policyVersion = input.policyVersion

instance (previous : AdmissionRecord) (input : AdmitInput) :
    Decidable (sameIdentity previous input) :=
  inferInstanceAs (Decidable (_ ∧ _))

/-- The number of admissions of a principal that are not settled. -/
def unsettledCount (state : AuthorityState) (principalId : String) : ℕ :=
  (state.admissions.values.filter fun request =>
    request.principalId = principalId ∧ request.settled = false).length

/-- The record `admit` stores. -/
def admittedRecord (input : AdmitInput) (policy : PrincipalPolicy) (account : Option AccountBinding)
    (state : AuthorityState) : AdmissionRecord where
  handle := ⟨input.scope, input.requestId, state.sequence + 1⟩
  principalId := input.principalId
  policyVersion := input.policyVersion
  windowKey := ⟨input.principalId, policy.windowResetAtMs⟩
  digest := input.digest
  route := input.route
  model := input.model
  account := account
  activeGeneration := state.active.map ActiveAccount.generation
  attempts := Record.empty
  dispatched := false
  semantic := none
  kernelSettled := false
  delivery := none
  settled := false

/-- `PortableAuthority.admit` -/
def admitRequest (input : AdmitInput) (state : AuthorityState) :
    Except Thrown (AdmissionHandle × AuthorityState) :=
  match state.admissions.lookup input.requestId with
  | some previous => do
    require (sameIdentity previous input) "request_identity_conflict"
    pure (previous.handle, state)
  | none => do
    let policy ← demand (state.policies.lookup input.principalId) "principal_policy_changed" 403
    require (policy.deleted = false ∧ policy.version = input.policyVersion)
      "principal_policy_changed" 403
    require (input.nowMs < policy.windowResetAtMs) "quota_window_requires_refresh" 503
    assertAmount policy.requestLimit
    assertAmount policy.kernelLimit
    assertAmount policy.concurrencyLimit
    assertAmount policy.paidLimitMicrocredits
    let windowKey : WindowKey := ⟨input.principalId, policy.windowResetAtMs⟩
    let window := (state.windows.lookup windowKey).getD emptyWindow
    require (window.reserved + window.dispatched < policy.requestLimit ∧
      window.kernelReserved + window.kernelCompleted < policy.kernelLimit ∧
      unsettledCount state input.principalId < policy.concurrencyLimit)
      "principal_quota_exceeded" 429
    let (account, state) ← selectAccount state input.model input.nowMs
    let request := admittedRecord input policy account state
    pure (request.handle, { state with
      sequence := state.sequence + 1
      admissions := assign state.admissions input.requestId request
      windows := state.windows.insert windowKey { window with
        reserved := window.reserved + 1
        kernelReserved := window.kernelReserved + 1
        active := window.active + 1 } })

/-! ### Attempts -/

/-- An attempt that is not released and has no terminal evidence yet. -/
def AttemptRecord.outstanding (attempt : AttemptRecord) : Bool :=
  attempt.state ≠ .notDispatched ∧ attempt.terminal = none

def reserveSubscription (state : AuthorityState) (request : AdmissionRecord) (input : AttemptInput)
    (nowMs : ℤ) : Except Thrown Unit := do
  let account ← demand input.account "account_fence_mismatch"
  require (request.account = some account ∧ input.maximumExposureMicrocredits = 0)
    "account_fence_mismatch"
  let current ← demand (state.accounts.find? fun other => other.accountId = account.accountId)
    "account_fence_mismatch"
  let active ← demand state.active "account_fence_mismatch"
  require (current = account ∧ request.activeGeneration = some active.generation ∧
    active.accountId = current.accountId) "account_fence_mismatch"
  require (applicableProof current request.model nowMs = none) "routing_unavailable" 503

/-- The attempts of a request that are not subscription attempts. -/
def paidAttempts (request : AdmissionRecord) : List AttemptRecord :=
  request.attempts.values.filter fun attempt => attempt.input.provider ≠ .codex

/-- A surplus attempt that reported that it has no capacity. -/
def AttemptRecord.exhaustedSurplus (attempt : AttemptRecord) : Bool :=
  attempt.input.provider = .surplus ∧ (attempt.terminal.bind TerminalEvidence.fallback).isSome

/-- The provider order: surplus before every other paid attempt, openlux only after one surplus
attempt that fell back. -/
def providerOrder (provider : DispatchProvider) (paid : List AttemptRecord) : Except Thrown Unit :=
  match provider with
  | .codex => .ok ()
  | .surplus => require (paid = []) "provider_order_conflict"
  | .openlux =>
    match paid with
    | [attempt] => require (attempt.exhaustedSurplus = true) "paid_capacity_proof_required" 503
    | _ => .error (.authorityError "paid_capacity_proof_required" 503)

def reservePaid (state : AuthorityState) (request : AdmissionRecord) (input : AttemptInput)
    (policy : PrincipalPolicy) (nowMs : ℤ) : Except Thrown AuthorityState := do
  require (input.account = none) "paid_account_binding_forbidden"
  require (PoolExhausted state request.model nowMs) "paid_pool_proof_required" 503
  providerOrder input.provider (paidAttempts request)
  let window ← windowOf state request.windowKey
  require (window.paidReservedMicrocredits + window.paidSettledMicrocredits +
    input.maximumExposureMicrocredits ≤ policy.paidLimitMicrocredits) "paid_limit_exceeded" 429
  updateWindow state request.windowKey fun window => { window with
    paidReservedMicrocredits :=
      window.paidReservedMicrocredits + input.maximumExposureMicrocredits }

def reserveAttempt (handle : AdmissionHandle) (input : AttemptInput) (nowMs : ℤ)
    (state : AuthorityState) : Except Thrown AuthorityState := do
  let request ← findRequest state handle
  require (request.settled = false ∧ request.semantic = none) "admission_closed"
  match request.attempts.lookup input.attemptId with
  | some existing => do
    require (existing.input = input) "attempt_identity_conflict"
    pure state
  | none => do
    require (request.attempts.values.any AttemptRecord.outstanding = false)
      "attempt_outcome_pending"
    let policy ← livePolicy state request nowMs
    let state ← if input.provider = .codex then do
        reserveSubscription state request input nowMs
        pure state
      else reservePaid state request input policy nowMs
    pure (putRequest state handle { request with
      attempts := assign request.attempts input.attemptId ⟨input, .reserved, none, false, none⟩ })

/-- `PortableAuthority.beginDispatch`.  The intent is persisted before the dispatch: a crash after
this point is indeterminate, never replayable or refundable. -/
def beginDispatch (handle : AdmissionHandle) (attemptId : String) (nowMs : ℤ)
    (state : AuthorityState) : Except Thrown (Bool × AuthorityState) := do
  let request ← findRequest state handle
  let attempt ← demand (request.attempts.lookup attemptId) "attempt_missing"
  if attempt.state ≠ .reserved then pure (false, state)
  else do
    require (request.settled = false) "principal_policy_changed" 403
    let _ ← livePolicy state request nowMs
    match attempt.input.account with
    | some account =>
      require ((state.accounts.find? fun other => other.accountId = account.accountId)
          = some account ∧
        state.active.map ActiveAccount.generation = request.activeGeneration)
        "account_fence_mismatch"
    | none => require (PoolExhausted state request.model nowMs) "paid_pool_proof_required" 503
    pure (true, putRequest state handle { request with
      attempts := request.attempts.insert attemptId { attempt with state := .dispatchIntent } })

def selection (handle : AdmissionHandle) (state : AuthorityState) :
    Except Thrown (Option AccountBinding × String × GatewayRoute) := do
  let request ← findRequest state handle
  pure (request.account, request.model, request.route)

def reselectSubscription (handle : AdmissionHandle) (nowMs : ℤ) (state : AuthorityState) :
    Except Thrown (Option AccountBinding × AuthorityState) := do
  let request ← findRequest state handle
  require (request.settled = false ∧ request.semantic = none) "admission_closed"
  require (paidAttempts request = []) "provider_order_conflict"
  let attempts := request.attempts.values
  require ((∃ attempt ∈ attempts, attempt.state = .dispatched ∧
      attempt.input.account = request.account) ∧
    ∀ attempt ∈ attempts, attempt.state = .notDispatched ∨
      (attempt.state = .dispatched ∧ attempt.terminal ≠ none)) "attempt_outcome_pending"
  let _ ← livePolicy state request nowMs
  let binding ← demand request.account "account_fence_mismatch"
  let current ← demand (state.accounts.find? fun other => other.accountId = binding.accountId)
    "account_fence_mismatch"
  -- Proof is the only captured field that an observation may change before reselection.
  require ({ current with proof := binding.proof } = binding) "account_fence_mismatch"
  require (unavailable current request.model nowMs = true) "subscription_proof_required" 503
  let (account, state) ← selectAccount state request.model nowMs
  pure (account, putRequest state handle { request with
    account := account
    activeGeneration := state.active.map ActiveAccount.generation })

def confirmDispatched (handle : AdmissionHandle) (attemptId : String) (state : AuthorityState) :
    Except Thrown AuthorityState := do
  let request ← findRequest state handle
  let attempt ← demand (request.attempts.lookup attemptId) "dispatch_state_conflict"
  require (attempt.state = .dispatchIntent ∨ attempt.state = .dispatched) "dispatch_state_conflict"
  let attempts := request.attempts.insert attemptId { attempt with state := .dispatched }
  if request.dispatched = true then
    pure (putRequest state handle { request with attempts := attempts })
  else do
    let state ← updateWindow state request.windowKey fun window => { window with
      reserved := window.reserved - 1
      dispatched := window.dispatched + 1 }
    pure (putRequest state handle { request with attempts := attempts, dispatched := true })

def releaseBeforeDispatch (handle : AdmissionHandle) (attemptId : String)
    (state : AuthorityState) : Except Thrown AuthorityState := do
  let request ← findRequest state handle
  match request.attempts.lookup attemptId with
  | none => pure state
  | some attempt =>
    if attempt.state = .notDispatched then pure state
    else do
      require (attempt.state = .reserved) "dispatch_indeterminate"
      let state ← updateWindow state request.windowKey fun window => { window with
        paidReservedMicrocredits :=
          window.paidReservedMicrocredits - attempt.input.maximumExposureMicrocredits }
      pure (putRequest state handle { request with
        attempts := request.attempts.insert attemptId { attempt with state := .notDispatched } })

/-! ### Observations -/

/-- The account still has the fences of the captured binding. -/
def sameFences (current binding : AccountBinding) : Prop :=
  current.fingerprint = binding.fingerprint ∧
    current.credentialGeneration = binding.credentialGeneration ∧
    current.routingGeneration = binding.routingGeneration ∧
    current.resetGeneration = binding.resetGeneration ∧
    current.overageVersion = binding.overageVersion

instance (current binding : AccountBinding) : Decidable (sameFences current binding) :=
  inferInstanceAs (Decidable (_ ∧ _))

def replaceAccount (accountId : String) (account : AccountBinding) :
    List AccountBinding → List AccountBinding
  | [] => []
  | other :: rest =>
    if other.accountId = accountId then account :: rest
    else other :: replaceAccount accountId account rest

/-- The check of `observeProof` before its transaction. -/
def validProof (proof : AccountProof) : Except Thrown Unit :=
  require (isSafeInteger proof.observedAtMs = true ∧ isSafeInteger proof.validUntilMs = true ∧
    proof.observedAtMs < proof.validUntilMs) "invalid_proof" 400

def observeProof (handle : AdmissionHandle) (attemptId : String) (proof : AccountProof)
    (state : AuthorityState) : Except Thrown AuthorityState := do
  let request ← findRequest state handle
  let attempt ← demand (request.attempts.lookup attemptId) "proof_without_dispatch"
  require (attempt.state = .dispatched) "proof_without_dispatch"
  let binding ← demand attempt.input.account "proof_fence_mismatch"
  let current ← demand (state.accounts.find? fun other => other.accountId = binding.accountId)
    "proof_fence_mismatch"
  require (sameFences current binding ∧ proof.fingerprint = current.fingerprint ∧
    proof.model = request.model) "proof_fence_mismatch"
  require (∀ previous ∈ current.proof, previous.observedAtMs ≤ proof.observedAtMs) "stale_proof"
  pure { state with
    accounts := replaceAccount binding.accountId { current with proof := some proof }
      state.accounts }

/-- Settle the kernel charge of a request whose outcome is known, once. -/
def settleKernel (request : AdmissionRecord) (state : AuthorityState) :
    Except Thrown (AdmissionRecord × AuthorityState) :=
  if request.kernelSettled = true then .ok (request, state)
  else do
    let state ← updateWindow state request.windowKey fun window => { window with
      kernelReserved := window.kernelReserved - 1
      kernelCompleted :=
        window.kernelCompleted + if request.semantic = some .completed then 1 else 0 }
    pure ({ request with kernelSettled := true }, state)

/-- Settle the billing of a dispatched attempt when the evidence carries a spend, once.  The actual
spend is kept even when it exceeds the admitted exposure. -/
def settleBilling (windowKey : WindowKey) (attempt : AttemptRecord) (spend : Option ℤ)
    (state : AuthorityState) : Except Thrown (AttemptRecord × AuthorityState) :=
  match spend with
  | none => .ok (attempt, state)
  | some amount =>
    if attempt.billingSettled = true then .ok (attempt, state)
    else do
      let state ← updateWindow state windowKey fun window => { window with
        paidReservedMicrocredits :=
          window.paidReservedMicrocredits - attempt.input.maximumExposureMicrocredits
        paidSettledMicrocredits := window.paidSettledMicrocredits +
          if attempt.input.provider = .codex then 0 else amount }
      pure ({ attempt with billingSettled := true, settledSpendMicrocredits := some amount }, state)

def observeTerminal (handle : AdmissionHandle) (attemptId : String) (evidence : TerminalEvidence)
    (finalAttempt : Bool) (state : AuthorityState) : Except Thrown AuthorityState := do
  let request ← findRequest state handle
  let attempt ← demand (request.attempts.lookup attemptId) "terminal_without_dispatch"
  require (attempt.state = .dispatched) "terminal_without_dispatch"
  require (∀ terminal ∈ attempt.terminal, terminal = evidence) "terminal_evidence_conflict"
  require (finalAttempt = true → ∀ semantic ∈ request.semantic, semantic = evidence.outcome)
    "terminal_evidence_conflict"
  let (request, state) ← if finalAttempt = true then
      settleKernel { request with semantic := some evidence.outcome } state
    else pure (request, state)
  let (attempt, state) ← settleBilling request.windowKey { attempt with terminal := some evidence }
    evidence.spendMicrocredits state
  pure (putRequest state handle { request with
    attempts := request.attempts.insert attemptId attempt })

def observeDelivery (handle : AdmissionHandle) (outcome : DeliveryOutcome)
    (state : AuthorityState) : Except Thrown AuthorityState := do
  let request ← findRequest state handle
  require (request.delivery = none ∨ request.delivery = some .unobserved ∨
    request.delivery = some outcome) "delivery_evidence_conflict"
  if outcome ≠ .unobserved ∨ request.delivery = none then
    pure (putRequest state handle { request with delivery := some outcome })
  else pure state

def observeUsage (handle : AdmissionHandle) (attemptId : String) (providerRequestId : String)
    (spendMicrocredits : ℤ) (state : AuthorityState) : Except Thrown AuthorityState := do
  let request ← findRequest state handle
  let attempt ← demand (request.attempts.lookup attemptId) "usage_correlation_mismatch"
  require (attempt.state = .dispatched ∧ attempt.input.provider ≠ .codex ∧
    attempt.terminal.map TerminalEvidence.providerRequestId = some (some providerRequestId))
    "usage_correlation_mismatch"
  if attempt.billingSettled = true then do
    require (attempt.settledSpendMicrocredits = some spendMicrocredits) "usage_evidence_conflict"
    pure state
  else do
    let state ← updateWindow state request.windowKey fun window => { window with
      paidReservedMicrocredits :=
        window.paidReservedMicrocredits - attempt.input.maximumExposureMicrocredits
      paidSettledMicrocredits := window.paidSettledMicrocredits + spendMicrocredits }
    pure (putRequest state handle { request with
      attempts := request.attempts.insert attemptId { attempt with
        billingSettled := true
        settledSpendMicrocredits := some spendMicrocredits } })

def resetEligible (handle : AdmissionHandle) (nowMs : ℤ) (state : AuthorityState) :
    Except Thrown Bool := do
  let request ← findRequest state handle
  let selected := cohort state request.model
  pure (!selected.isEmpty && selected.all fun account =>
    (applicableProof account request.model nowMs).map AccountProof.kind = some .quotaExhausted)

/-! ### Settlement -/

/-- The replies of `settle`. -/
inductive Settlement
  | settled
  | pending
deriving DecidableEq

/-- An attempt that keeps its request from being settled. -/
def AttemptRecord.unresolved (attempt : AttemptRecord) : Bool :=
  attempt.state = .reserved ∨ attempt.state = .dispatchIntent ∨
    (attempt.state = .dispatched ∧ attempt.terminal = none)

/-- `PortableAuthority.settle`.  Without a delivery record the request stays pending; a native
finish receipt is never made up. -/
def settle (handle : AdmissionHandle) (state : AuthorityState) :
    Except Thrown (Settlement × AuthorityState) := do
  let request ← findRequest state handle
  if request.settled = true then pure (.settled, state)
  else if request.semantic = none ∨ request.delivery = none then pure (.pending, state)
  else if request.attempts.values.any AttemptRecord.unresolved = true then pure (.pending, state)
  else do
    let state ← updateWindow state request.windowKey fun window => { window with
      reserved := window.reserved - if request.dispatched = true then 0 else 1
      active := window.active - 1 }
    let (request, state) ← settleKernel request state
    pure (.settled, putRequest state handle { request with settled := true })

/-- The loop of `cancelUndispatched` that gives back what the reserved attempts hold. -/
def releaseReserved (windowKey : WindowKey) :
    List AttemptRecord → AuthorityState → Except Thrown AuthorityState
  | [], state => .ok state
  | attempt :: rest, state =>
    if attempt.state = .reserved then do
      let state ← updateWindow state windowKey fun window => { window with
        paidReservedMicrocredits :=
          window.paidReservedMicrocredits - attempt.input.maximumExposureMicrocredits }
      releaseReserved windowKey rest state
    else releaseReserved windowKey rest state

/-- The first transaction of `PortableAuthority.cancelUndispatched`; `settle` is the second. -/
def cancelUndispatched (handle : AdmissionHandle) (state : AuthorityState) :
    Except Thrown AuthorityState := do
  let request ← findRequest state handle
  require (∀ attempt ∈ request.attempts.values, attempt.state ≠ .dispatchIntent ∧
    attempt.state ≠ .dispatched) "dispatch_indeterminate"
  let state ← releaseReserved request.windowKey request.attempts.values state
  pure (putRequest state handle { request with
    attempts := request.attempts.mapValues fun attempt => { attempt with state := .notDispatched }
    semantic := request.semantic.or (some .cancelled)
    delivery := request.delivery.or (some .interrupted) })

/-! ### Transactions -/

/-- The transactions, with their arguments. -/
inductive Transaction
  | admitRequest (input : AdmitInput)
  | reserveAttempt (handle : AdmissionHandle) (input : AttemptInput) (nowMs : ℤ)
  | beginDispatch (handle : AdmissionHandle) (attemptId : String) (nowMs : ℤ)
  | selection (handle : AdmissionHandle)
  | reselectSubscription (handle : AdmissionHandle) (nowMs : ℤ)
  | confirmDispatched (handle : AdmissionHandle) (attemptId : String)
  | releaseBeforeDispatch (handle : AdmissionHandle) (attemptId : String)
  | observeProof (handle : AdmissionHandle) (attemptId : String) (proof : AccountProof)
  | observeTerminal (handle : AdmissionHandle) (attemptId : String) (evidence : TerminalEvidence)
      (finalAttempt : Bool)
  | observeDelivery (handle : AdmissionHandle) (outcome : DeliveryOutcome)
  | observeUsage (handle : AdmissionHandle) (attemptId : String) (providerRequestId : String)
      (spendMicrocredits : ℤ)
  | resetEligible (handle : AdmissionHandle) (nowMs : ℤ)
  | settle (handle : AdmissionHandle)
  | cancelUndispatched (handle : AdmissionHandle)
deriving DecidableEq

inductive Reply
  | none
  | handle (value : AdmissionHandle)
  | flag (value : Bool)
  | account (value : Option AccountBinding)
  | selection (account : Option AccountBinding) (model : String) (route : GatewayRoute)
  | settlement (value : Settlement)

namespace Transaction

def scope : Transaction → AuthorityScope
  | .admitRequest input => input.scope
  | .reserveAttempt handle _ _ | .beginDispatch handle _ _ | .selection handle
  | .reselectSubscription handle _ | .confirmDispatched handle _ | .releaseBeforeDispatch handle _
  | .observeProof handle _ _ | .observeTerminal handle _ _ _ | .observeDelivery handle _
  | .observeUsage handle _ _ _ | .resetEligible handle _ | .settle handle
  | .cancelUndispatched handle => handle.scope

/-- The checks an operation makes before it reads the store. -/
def precheck : Transaction → Except Thrown Unit
  | .reserveAttempt _ input _ => assertAmount input.maximumExposureMicrocredits
  | .observeProof _ _ proof => validProof proof
  | .observeTerminal _ _ evidence _ =>
    match evidence.spendMicrocredits with
    | some amount => assertAmount amount
    | none => .ok ()
  | .observeUsage _ _ _ spendMicrocredits => assertAmount spendMicrocredits
  | _ => .ok ()

def action (transaction : Transaction) (state : AuthorityState) :
    Except Thrown (Reply × AuthorityState) :=
  match transaction with
  | .admitRequest input => do
    let (handle, state) ← Authority.admitRequest input state
    pure (.handle handle, state)
  | .reserveAttempt handle input nowMs => do
    let state ← Authority.reserveAttempt handle input nowMs state
    pure (.none, state)
  | .beginDispatch handle attemptId nowMs => do
    let (begun, state) ← Authority.beginDispatch handle attemptId nowMs state
    pure (.flag begun, state)
  | .selection handle => do
    let (account, model, route) ← Authority.selection handle state
    pure (.selection account model route, state)
  | .reselectSubscription handle nowMs => do
    let (account, state) ← Authority.reselectSubscription handle nowMs state
    pure (.account account, state)
  | .confirmDispatched handle attemptId => do
    let state ← Authority.confirmDispatched handle attemptId state
    pure (.none, state)
  | .releaseBeforeDispatch handle attemptId => do
    let state ← Authority.releaseBeforeDispatch handle attemptId state
    pure (.none, state)
  | .observeProof handle attemptId proof => do
    let state ← Authority.observeProof handle attemptId proof state
    pure (.none, state)
  | .observeTerminal handle attemptId evidence finalAttempt => do
    let state ← Authority.observeTerminal handle attemptId evidence finalAttempt state
    pure (.none, state)
  | .observeDelivery handle outcome => do
    let state ← Authority.observeDelivery handle outcome state
    pure (.none, state)
  | .observeUsage handle attemptId providerRequestId spendMicrocredits => do
    let state ← Authority.observeUsage handle attemptId providerRequestId spendMicrocredits state
    pure (.none, state)
  | .resetEligible handle nowMs => do
    let eligible ← Authority.resetEligible handle nowMs state
    pure (.flag eligible, state)
  | .settle handle => do
    let (settlement, state) ← Authority.settle handle state
    pure (.settlement settlement, state)
  | .cancelUndispatched handle => do
    let state ← Authority.cancelUndispatched handle state
    pure (.none, state)

end Transaction

/-! ### The compare-and-swap loop -/

/-- What a commit of the history is labelled with. -/
structure Commit where
  transaction : Transaction
  reply : Reply

/-- The programs of the authority's clients: the store has one key, the whole state. -/
abbrev AuthorityProg := Prog Unit AuthorityState Commit (Except Thrown Reply)

/-- `PortableAuthority._transact` with `n` attempts left. -/
def transactLoop (transaction : Transaction) : ℕ → AuthorityProg
  | 0 => .pure (.error (.authorityError "concurrent_update" 503))
  | n + 1 => Prog.get () >>= fun snapshot =>
    match snapshot with
    | none => .pure (.error .typeError)
    | some entry =>
      if entry.value.scope = transaction.scope then
        match transaction.action entry.value with
        | .error thrown => .pure (.error thrown)
        | .ok (reply, state) =>
          -- Even unchanged admissions linearize against the entire strong snapshot.
          Prog.transaction ⟨transaction, reply⟩ [⟨(), some entry⟩] [.set () state] >>=
            fun committed =>
              if committed = true then .pure (.ok reply) else transactLoop transaction n
      else .pure (.error (.authorityError "namespace_or_epoch_mismatch" 403))

/-- One transaction of the authority of scope `scope`. -/
def transact (scope : AuthorityScope) (transaction : Transaction) : AuthorityProg :=
  match transaction.precheck with
  | .error thrown => .pure (.error thrown)
  | .ok _ =>
    if transaction.scope = scope then transactLoop transaction 8
    else .pure (.error (.authorityError "namespace_or_epoch_mismatch" 403))

/-- An operation of `PortableAuthority`.  All are one transaction but `cancelUndispatched`, which
settles after it has cancelled. -/
def PortableAuthority.invoke (scope : AuthorityScope) (operation : Transaction) : AuthorityProg :=
  transact scope operation >>= fun reply =>
    match operation, reply with
    | .cancelUndispatched handle, .ok _ => transact scope (.settle handle) >>= fun settled =>
        .pure (settled.map fun _ => .none)
    | _, reply => .pure reply

def storeOfState (state : AuthorityState) : Kv Unit AuthorityState where
  rows := Record.empty.insert () ⟨state, 0⟩
  stamp := 0
  stamped := by
    intro k e h
    rw [Record.lookup_insert_self] at h
    cases h
    exact le_rfl

end UbqGateway.Authority
