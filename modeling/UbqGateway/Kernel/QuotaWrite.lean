import UbqGateway.Kernel.QuotaReserve

/-!
# The programs that change a policy

The functions of `src/kernel/quota-write.ts`, which set and delete the policy of a scope, and the
part of `src/admin/defaults.ts` that changes the defaults of the kernel quota.  `KernelOperation`
lists what a client of the kernel quota can run.
-/

namespace UbqGateway.Kernel

/-! ### Setting a policy -/

/-- What an attempt tells its loop. -/
inductive PolicyStep
  | proceed
  | retry
  | abort

/-- `repoRecord` and `orgRecord` -/
structure KernelLimitRecord where
  identity : KernelQuotaIdentity
  usageLimitRequests : ℤ
  usageRequests : ℤ
  usageResetAtMs : ℤ
  windowMs : ℤ
  expiresAtMs : ℤ
  createdAtMs : ℤ
  updatedAtMs : ℤ

/-- `repoRecord` and `orgRecord` -/
def limitRecord (policy : KernelQuotaPolicyV2) (window : KernelQuotaWindowV2) (nowMs : ℤ) :
    KernelLimitRecord where
  identity := policy.identity
  usageLimitRequests := policy.usageLimitRequests
  usageRequests := window.usageRequests
  usageResetAtMs := window.usageResetAtMs
  windowMs := policy.windowMs
  expiresAtMs := policy.expiresAtMs
  createdAtMs := if window.createdAtMs = 0 then nowMs else window.createdAtMs
  updatedAtMs := max window.updatedAtMs nowMs

/-- `KernelQuotaPolicyWriteEntries`: every entry a policy write compares against. -/
structure KernelQuotaPolicyWriteEntries where
  limitEntry : Option (Entry KernelValue)
  windowDefaultEntry : Option (Entry KernelValue)
  policyEntry : Option (Entry KernelValue)
  windowEntry : Option (Entry KernelValue)
  /-- The policy and the window of the organisation, for a repository. -/
  orgEntries : Option (String × Option (Entry KernelValue) × Option (Entry KernelValue))
  defaultCutoverEntry : Option (Entry KernelValue)

namespace KernelQuotaPolicyWriteEntries

def defaults (entries : KernelQuotaPolicyWriteEntries) : KernelQuotaDefaults :=
  loadDefaults (valueOf entries.limitEntry) (valueOf entries.windowDefaultEntry)

/-- `kernelPolicyWriteAtomic` -/
def checks (entries : KernelQuotaPolicyWriteEntries) (identity : KernelQuotaIdentity)
    (source : PolicySource) : List (Check KvKey KernelValue) :=
  [⟨.policy identity, entries.policyEntry⟩, ⟨.window identity, entries.windowEntry⟩] ++
    (if source = .default then
      [⟨.defaultLimit, entries.limitEntry⟩, ⟨.defaultWindow, entries.windowDefaultEntry⟩,
        ⟨.defaultWindowCutover, entries.defaultCutoverEntry⟩]
    else []) ++
    match entries.policyEntry, entries.orgEntries with
    | none, some (owner, orgPolicyEntry, orgWindowEntry) =>
      [⟨.policy (.org owner), orgPolicyEntry⟩, ⟨.window (.org owner), orgWindowEntry⟩]
    | _, _ => []

end KernelQuotaPolicyWriteEntries

/-- The keys of the organisation that a repository inherits from. -/
def KernelQuotaIdentity.orgKeys : KernelQuotaIdentity → List KvKey
  | .repo owner _ => [.policy (.org owner), .window (.org owner)]
  | .org _ => []

/-- The reads of `attemptSetKernelQuotaPolicy`. -/
def loadKernelQuotaPolicyWriteEntries (identity : KernelQuotaIdentity) :
    KernelM KernelQuotaPolicyWriteEntries := do
  let got ← kvGets ([.defaultLimit, .defaultWindow, .policy identity, .window identity,
    .defaultWindowCutover] ++ identity.orgKeys)
  return {
    limitEntry := got .defaultLimit
    windowDefaultEntry := got .defaultWindow
    policyEntry := got (.policy identity)
    windowEntry := got (.window identity)
    orgEntries := match identity with
      | .repo owner _ => some (owner, got (.policy (.org owner)), got (.window (.org owner)))
      | .org _ => none
    defaultCutoverEntry := got .defaultWindowCutover }

/-- The answer of a window guard, after the reclaim it may ask for. -/
def runWindowGuard (fuel : ℕ) (identity : KernelQuotaIdentity) (guard : PolicyWindowGuard)
    (nowMs : ℤ) : KernelM PolicyStep :=
  match guard with
  | .abort => return .abort
  | .proceed => return .proceed
  | .reclaim window => do
    let reclaimed ← reclaimExpiredKernelReservationUnlocked fuel identity window nowMs
    return if reclaimed = true then .retry else .abort

def reconcileKernelPolicyOrgInheritance (fuel : ℕ) (entries : KernelQuotaPolicyWriteEntries)
    (nowMs : ℤ) : KernelM PolicyStep :=
  match entries.policyEntry, entries.orgEntries with
  | none, some (owner, orgPolicyEntry, orgWindowEntry) => do
    let _ ← orThrow (policyFor (valueOf orgPolicyEntry) (.org owner) entries.defaults)
    let inheritedOrgWindow ←
      reconcileKernelQuotaWindowReservations fuel orgWindowEntry (.org owner)
    runWindowGuard fuel (.org owner)
      (decideKernelPolicyWindowGuard inheritedOrgWindow orgWindowEntry.isSome true nowMs) nowMs
  | _, _ => return .proceed

def guardKernelPolicyWindowReset (fuel : ℕ) (identity : KernelQuotaIdentity)
    (currentWindow : Option KernelQuotaWindowV2) (nowMs : ℤ) (reset : Bool) : KernelM PolicyStep :=
  runWindowGuard fuel identity (decideKernelPolicyWindowGuard currentWindow false reset nowMs) nowMs

/-- `attemptSetKernelQuotaPolicy` after its reads and its guards: the atomic write. -/
def writeKernelQuotaPolicy (identity : KernelQuotaIdentity)
    (entries : KernelQuotaPolicyWriteEntries) (current : KernelQuotaEffectivePolicy)
    (policy : KernelQuotaPolicyV2) (currentWindow : Option KernelQuotaWindowV2) (reset : Bool)
    (nowMs : ℤ) : KernelM (PolicyStep ⊕ KernelLimitRecord) := do
  let written := decideKernelQuotaPolicyWrite identity policy currentWindow reset nowMs
  let committed ← kvCommit (.setPolicy identity written.window.createdAtMs written.needsWrite)
    (entries.checks identity current.source)
    [.set (.policy identity) (.policy policy), .set (.window identity) (.window written.window)]
  return if committed = true then .inr (limitRecord policy written.window nowMs) else .inl .retry

def attemptSetKernelQuotaPolicy (fuel : ℕ) (identity : KernelQuotaIdentity)
    (usageLimitRequests : ℤ) (options : KernelQuotaPolicySetOptions) :
    KernelM (PolicyStep ⊕ KernelLimitRecord) := do
  let nowMs ← dateNow
  let entries ← loadKernelQuotaPolicyWriteEntries identity
  let current ← orThrow (policyFor (valueOf entries.policyEntry) identity entries.defaults)
  if kernelQuotaDefaultCutoverBlocks current (valueOf entries.defaultCutoverEntry) = true then
    return .inl .abort
  else do
    let (windowMs, expiresAtMs) := resolveKernelPolicyTiming options current
    let policy :=
      makeKernelQuotaPolicy identity current usageLimitRequests windowMs expiresAtMs nowMs
    let currentWindow ← reconcileKernelQuotaWindowReservations fuel entries.windowEntry identity
    if entries.windowEntry.isSome = true ∧ currentWindow = none then return .inl .abort
    else
      match ← reconcileKernelPolicyOrgInheritance fuel entries nowMs with
      | .proceed =>
        let reset := kernelQuotaPolicyResetRequested options current.windowMs windowMs
        match ← guardKernelPolicyWindowReset fuel identity currentWindow nowMs reset with
        | .proceed =>
          writeKernelQuotaPolicy identity entries current policy currentWindow reset nowMs
        | step => return .inl step
      | step => return .inl step

/-- `setPolicy` with `n` attempts left. -/
def setPolicyLoop (fuel : ℕ) (identity : KernelQuotaIdentity) (usageLimitRequests : ℤ)
    (options : KernelQuotaPolicySetOptions) : ℕ → KernelM (Option KernelLimitRecord)
  | 0 => return none
  | n + 1 => do
    match ← attemptSetKernelQuotaPolicy fuel identity usageLimitRequests options with
    | .inl .retry => setPolicyLoop fuel identity usageLimitRequests options n
    | .inl _ => return none
    | .inr record => return some record

def setPolicy (fuel : ℕ) (identity : KernelQuotaIdentity) (usageLimitRequests : ℤ)
    (options : KernelQuotaPolicySetOptions) : KernelM (Option KernelLimitRecord) :=
  tryCatch (setPolicyLoop fuel identity usageLimitRequests options maxKvRetries)
    fun _ => return none

/-! ### Deleting a policy -/

/-- `KernelQuotaPolicyDeleteOutcome` and `KernelQuotaDeleteResult`; `abort` is `null`. -/
inductive KernelQuotaPolicyDeleteOutcome
  | deleted
  | absent
  | conflict
  | retry
  | abort

def attemptDeleteKernelQuotaPolicy (fuel : ℕ) (identity : KernelQuotaIdentity) :
    KernelM KernelQuotaPolicyDeleteOutcome := do
  let nowMs ← dateNow
  let got ← kvGets [.defaultLimit, .defaultWindow, .policy identity, .window identity,
    .defaultWindowCutover]
  let defaults := loadDefaults (valueOf (got .defaultLimit)) (valueOf (got .defaultWindow))
  let windowEntry := got (.window identity)
  match decideKernelQuotaPolicyDeletePrecondition (valueOf (got (.policy identity)))
      (valueOf (got .defaultWindowCutover)) with
  | .absent => return .absent
  | .conflict => return .conflict
  | .proceed =>
    let current ← orThrow (policyFor (valueOf (got (.policy identity))) identity defaults)
    let oldWindow ← reconcileKernelQuotaWindowReservations fuel windowEntry identity
    match decideKernelPolicyWindowGuard oldWindow windowEntry.isSome true nowMs with
    | .abort => return .abort
    | .reclaim window =>
      let reclaimed ← reclaimExpiredKernelReservationUnlocked fuel identity window nowMs
      return if reclaimed = true then .retry else .conflict
    | .proceed =>
      let next := decideKernelQuotaPolicyDeleteWindow identity current defaults oldWindow nowMs
      let committed ← kvCommit (.deletePolicy identity next.window.createdAtMs next.needsWrite)
        [⟨.policy identity, got (.policy identity)⟩, ⟨.window identity, windowEntry⟩,
          ⟨.defaultLimit, got .defaultLimit⟩, ⟨.defaultWindow, got .defaultWindow⟩,
          ⟨.defaultWindowCutover, got .defaultWindowCutover⟩]
        [.delete (.policy identity), .set (.window identity) (.window next.window)]
      return if committed = true then .deleted else .retry

/-- `deletePolicy` with `n` attempts left. -/
def deletePolicyLoop (fuel : ℕ) (identity : KernelQuotaIdentity) :
    ℕ → KernelM KernelQuotaPolicyDeleteOutcome
  | 0 => return .abort
  | n + 1 => do
    match ← attemptDeleteKernelQuotaPolicy fuel identity with
    | .retry => deletePolicyLoop fuel identity n
    | outcome => return outcome

def deletePolicy (fuel : ℕ) (identity : KernelQuotaIdentity) :
    KernelM KernelQuotaPolicyDeleteOutcome :=
  tryCatch (deletePolicyLoop fuel identity maxKvRetries) fun _ => return .abort

/-! ### Changing the defaults -/

/-- The kernel part of a request to `handleAdminDefaults`; a field that the request does not have
is `none`.  `nextRuntime` is the runtime configuration that the model part of the request builds. -/
structure AdminDefaultsIntent where
  requestedKernelLimit : Option ℤ
  requestedKernelWindow : Option ℤ
  nextRuntime : Option String

/-- The kernel part of the response. -/
inductive DefaultsResponse
  | defaults (kernelPolicyLimit kernelPolicyWindow : ℤ)
  | error (status : ℕ) (message : String)

inductive AdminDefaultsCutover
  | none
  | guard (guard : Entry KernelValue)
  | retry
  | response (response : DefaultsResponse)

def resolveDefaultsCutover (fuel : ℕ) (id : String)
    (kernelLimitEntry kernelWindowEntry : Option (Entry KernelValue))
    (intent : AdminDefaultsIntent) (kernelPolicyWindow : ℤ) : KernelM AdminDefaultsCutover :=
  if intent.requestedKernelWindow.isNone = true ∨ kernelPolicyWindow =
      normalizeWindow (KernelValue.toNumber (valueOf kernelWindowEntry))
        defaultKernelPolicyWindowMs then
    return .none
  else do
    match ← acquireKernelDefaultWindowCutover fuel id kernelLimitEntry kernelWindowEntry with
    | .ok guard => return .guard guard
    | .error .activeReservations => return .response (.error 409
        "Active Kernel quota reservations must settle before changing the default window")
    | .error .concurrentChange => return .retry
    | .error .unavailable => return .response (.error 503 "Kernel quota ledger is unavailable")

def commitDefaultsUpdate
    (runtimeEntry kernelLimitEntry kernelWindowEntry : Option (Entry KernelValue))
    (cutoverGuard : Option (Entry KernelValue)) (intent : AdminDefaultsIntent)
    (kernelPolicyLimit kernelPolicyWindow : ℤ) : KernelM Bool := do
  let committed ← kvCommit .updateDefaults
    ([⟨.runtimeConfig, runtimeEntry⟩, ⟨.defaultLimit, kernelLimitEntry⟩,
      ⟨.defaultWindow, kernelWindowEntry⟩] ++
      cutoverGuard.toList.map fun guard => ⟨.defaultWindowCutover, some guard⟩)
    (cutoverGuard.toList.map (fun _ => .delete .defaultWindowCutover) ++
      intent.nextRuntime.toList.map (fun config => .set .runtimeConfig (.runtimeConfig config)) ++
      intent.requestedKernelLimit.toList.map
        (fun _ => .set .defaultLimit (.number kernelPolicyLimit)) ++
      intent.requestedKernelWindow.toList.map
        fun _ => .set .defaultWindow (.number kernelPolicyWindow))
  match committed, cutoverGuard with
  | false, some guard => do
    releaseKernelDefaultWindowCutover guard
    return false
  | committed, _ => return committed

/-- `applyDefaultsUpdateAttempt`; `none` is `retry`. -/
def applyDefaultsUpdateAttempt (fuel : ℕ) (id : String) (intent : AdminDefaultsIntent) :
    KernelM (Option DefaultsResponse) := do
  let got ← kvGets [.runtimeConfig, .defaultLimit, .defaultWindow]
  let kernelPolicyLimit := intent.requestedKernelLimit.getD
    (normalizeUsageLimit (KernelValue.toNumber (valueOf (got .defaultLimit)))
      defaultKernelPolicyLimitRequests)
  let kernelPolicyWindow := intent.requestedKernelWindow.getD
    (normalizeWindow (KernelValue.toNumber (valueOf (got .defaultWindow)))
      defaultKernelPolicyWindowMs)
  if intent.nextRuntime.isNone = true ∧ intent.requestedKernelLimit.isNone = true ∧
      intent.requestedKernelWindow.isNone = true then
    return some (.defaults kernelPolicyLimit kernelPolicyWindow)
  else do
    match ← resolveDefaultsCutover fuel id (got .defaultLimit) (got .defaultWindow) intent
        kernelPolicyWindow with
    | .retry => return none
    | .response response => return some response
    | .none =>
      let committed ← commitDefaultsUpdate (got .runtimeConfig) (got .defaultLimit)
        (got .defaultWindow) none intent kernelPolicyLimit kernelPolicyWindow
      return if committed = true then some (.defaults kernelPolicyLimit kernelPolicyWindow)
        else none
    | .guard guard =>
      let committed ← commitDefaultsUpdate (got .runtimeConfig) (got .defaultLimit)
        (got .defaultWindow) (some guard) intent kernelPolicyLimit kernelPolicyWindow
      return if committed = true then some (.defaults kernelPolicyLimit kernelPolicyWindow)
        else none

/-- `applyDefaultsUpdate` with `n` attempts left. -/
def applyDefaultsUpdateLoop (fuel : ℕ) (id : String) (intent : AdminDefaultsIntent) :
    ℕ → KernelM DefaultsResponse
  | 0 => return .error 409 "Defaults were modified concurrently; retry"
  | n + 1 => do
    match ← applyDefaultsUpdateAttempt fuel id intent with
    | some response => return response
    | none => applyDefaultsUpdateLoop fuel id intent n

/-- The kernel part of `adminDefaultsPostResponse`: the numbers of the request are checked before
anything is read. -/
def adminDefaultsPostResponse (fuel : ℕ) (id : String) (intent : AdminDefaultsIntent) :
    KernelM DefaultsResponse :=
  if (intent.requestedKernelLimit.any fun limit => (usageLimit? (some limit)).isNone) = true then
    return .error 400
      "kernel_policy_limit_requests must be a non-negative number or -1 for unlimited"
  else if (intent.requestedKernelWindow.any fun windowMs => decide (windowMs ≤ 0)) = true then
    return .error 400 "kernel_policy_window_ms must be a positive number"
  else applyDefaultsUpdateLoop fuel id intent 3

/-! ### Operations -/

/-- What a client of the kernel quota can run.  The two halves of `launchSettlement` are listed on
their own as well.  `expireCutover` is the store dropping the cutover marker when its time is over;
here it may do so at any moment. -/
inductive KernelOperation
  | reserveOrg (owner requestId route : String)
  | reserveEffective (owner repo requestId route : String)
  | recordTerminalIntent (request : KernelQuotaReservationIdentity) (terminalState : TerminalState)
  | settle (request : KernelQuotaReservationIdentity) (terminalState : TerminalState)
      (reason : String)
  | launchSettlement (request : KernelQuotaReservationIdentity) (terminalState : TerminalState)
      (reason : String)
  | renew (request : KernelQuotaReservationIdentity)
  | setPolicy (identity : KernelQuotaIdentity) (usageLimitRequests : ℤ)
      (options : KernelQuotaPolicySetOptions)
  | deletePolicy (identity : KernelQuotaIdentity)
  | updateDefaults (id : String) (intent : AdminDefaultsIntent)
  | expireCutover

/-- What an operation returns. -/
inductive KernelReply
  | decision (decision : KernelQuotaReservationDecision)
  | lease (leaseExpiresAtMs : Option ℤ)
  | done
  | record (record : Option KernelLimitRecord)
  | deleted (outcome : KernelQuotaPolicyDeleteOutcome)
  | defaults (response : DefaultsResponse)

def KernelOperation.invoke (fuel : ℕ) : KernelOperation → KernelM KernelReply
  | .reserveOrg owner requestId route =>
    .decision <$> reserveKernelOrgUsageLimit fuel owner requestId route
  | .reserveEffective owner repo requestId route =>
    .decision <$> reserveEffectiveKernelUsageLimit fuel owner repo requestId route
  | .recordTerminalIntent request terminalState =>
    .lease <$> recordKernelReservationTerminalIntent request terminalState
  | .settle request terminalState reason =>
    (fun _ => .done) <$> settleKernelReservation fuel request terminalState reason
  | .launchSettlement request terminalState reason =>
    (fun _ => .done) <$> Kernel.launchSettlement fuel request terminalState reason
  | .renew request => (fun lease => .lease (some lease)) <$> renewKernelReservation request
  | .setPolicy identity usageLimitRequests options =>
    .record <$> Kernel.setPolicy fuel identity usageLimitRequests options
  | .deletePolicy identity => .deleted <$> Kernel.deletePolicy fuel identity
  | .updateDefaults id intent => .defaults <$> adminDefaultsPostResponse fuel id intent
  | .expireCutover =>
    (fun _ => .done) <$> kvCommit .expireCutover [] [.delete .defaultWindowCutover]

end UbqGateway.Kernel
