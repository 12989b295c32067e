import UbqGateway.Kernel.QuotaReservations

/-!
# The programs that reserve

The functions of `src/kernel/quota-reserve.ts`.  An attempt reads everything it compares against,
decides, and stores the window together with the new row; a full window is tried once more after an
expired reservation of it was reclaimed.
-/

namespace UbqGateway.Kernel

/-! ### Replies -/

/-- The text of a response. -/
inductive KernelMessage
  | text (message : String)
  /-- `Usage limit exceeded (admitted/limit). Resets at …` -/
  | usageLimitExceeded (admitted limit usageResetAtMs : ℤ)
deriving DecidableEq

/-- `KernelQuotaReservationDecision`: the reservation's window and lease, or a response. -/
inductive KernelQuotaReservationDecision
  | ok (request : KernelQuotaReservationIdentity) (leaseExpiresAtMs : ℤ)
  | response (status : ℕ) (message : KernelMessage) (code : String)

def kernelQuotaUnavailable (message : String := "Kernel quota is unavailable") :
    KernelQuotaReservationDecision := .response 503 (.text message) "server_error"

def kernelLimitBlocked (message : KernelMessage) : KernelQuotaReservationDecision :=
  .response 429 message "rate_limit_exceeded"

def quotaExceeded (window : KernelQuotaWindowV2) (limit : ℤ) : KernelQuotaReservationDecision :=
  kernelLimitBlocked (.usageLimitExceeded (window.usageRequests + window.reservedRequests) limit
    window.usageResetAtMs)

inductive KernelQuotaCapacityOutcome
  | decision (decision : KernelQuotaReservationDecision)
  | retry (reclaimedCapacity : Bool)

/-! ### One attempt -/

/-- The part of `KernelQuotaReserveOptions` that a reservation depends on. -/
structure KernelQuotaReserveOptions where
  expectedRepoPolicy : Option ExpectedRepoPolicy
  guardedRepo : Option String

def KernelQuotaIdentity.owner : KernelQuotaIdentity → String
  | .repo owner _ => owner
  | .org owner => owner

/-- The repository policy that an attempt guards, if it guards one. -/
def guardKey (identity : KernelQuotaIdentity) (options : KernelQuotaReserveOptions) :
    Option KvKey :=
  match options.expectedRepoPolicy, options.guardedRepo with
  | some .absent, some repo =>
    if repo = "" then none else some (.policy (.repo identity.owner repo))
  | _, _ => none

/-- `loadDefaults` on the two entries. -/
def loadDefaults (limit window : Option KernelValue) : KernelQuotaDefaults :=
  ⟨normalizeUsageLimit (KernelValue.toNumber limit) defaultKernelPolicyLimitRequests,
    normalizeWindow (KernelValue.toNumber window) defaultKernelPolicyWindowMs⟩

/-- `KernelQuotaReservationEntries`: every entry an attempt compares against. -/
structure KernelQuotaReservationEntries where
  limitEntry : Option (Entry KernelValue)
  windowDefaultEntry : Option (Entry KernelValue)
  policyEntry : Option (Entry KernelValue)
  windowEntry : Option (Entry KernelValue)
  repoGuardEntry : Option (Check KvKey KernelValue)
  defaultCutoverEntry : Option (Entry KernelValue)

namespace KernelQuotaReservationEntries

def defaults (entries : KernelQuotaReservationEntries) : KernelQuotaDefaults :=
  loadDefaults (valueOf entries.limitEntry) (valueOf entries.windowDefaultEntry)

/-- The checks of the atomic operation that stores a reservation. -/
def checks (entries : KernelQuotaReservationEntries) (identity : KernelQuotaIdentity)
    (reservation : Check KvKey KernelValue) (source : PolicySource) :
    List (Check KvKey KernelValue) :=
  [⟨.policy identity, entries.policyEntry⟩, ⟨.window identity, entries.windowEntry⟩, reservation] ++
    entries.repoGuardEntry.toList ++
    if source = .default then
      [⟨.defaultLimit, entries.limitEntry⟩, ⟨.defaultWindow, entries.windowDefaultEntry⟩,
        ⟨.defaultWindowCutover, entries.defaultCutoverEntry⟩]
    else []

end KernelQuotaReservationEntries

def loadKernelQuotaReservationEntries (identity : KernelQuotaIdentity)
    (options : KernelQuotaReserveOptions) : KernelM KernelQuotaReservationEntries := do
  let got ← kvGets ([.defaultLimit, .defaultWindow, .policy identity, .window identity,
    .defaultWindowCutover] ++ (guardKey identity options).toList)
  return {
    limitEntry := got .defaultLimit
    windowDefaultEntry := got .defaultWindow
    policyEntry := got (.policy identity)
    windowEntry := got (.window identity)
    repoGuardEntry := (guardKey identity options).map fun key => ⟨key, got key⟩
    defaultCutoverEntry := got .defaultWindowCutover }

/-- `evaluateKernelQuotaEligibility`: a decision, or the policy and the window to reserve in. -/
def evaluateKernelQuotaEligibility (fuel : ℕ) (entries : KernelQuotaReservationEntries)
    (identity : KernelQuotaIdentity) (options : KernelQuotaReserveOptions) (nowMs : ℤ) :
    KernelM (KernelQuotaReservationDecision ⊕
      (KernelQuotaEffectivePolicy × KernelQuotaEffectiveWindow)) := do
  let plan ← orThrow (decideKernelQuotaEligibility identity
    ⟨valueOf entries.policyEntry, entries.repoGuardEntry.map fun guard => valueOf guard.entry,
      valueOf entries.defaultCutoverEntry, options.expectedRepoPolicy⟩ entries.defaults nowMs)
  match plan with
  | .refused refusal => return .inl (if refusal.status = 503
      then kernelQuotaUnavailable refusal.message else kernelLimitBlocked (.text refusal.message))
  | .eligible effective =>
    let existingWindow ← reconcileKernelQuotaWindowReservations fuel entries.windowEntry identity
    if entries.windowEntry.isSome = true ∧ existingWindow = none then
      return .inl (kernelQuotaUnavailable "Kernel quota aggregate is malformed")
    else return .inr (effective,
      windowForEffectivePolicy existingWindow identity effective.windowMs nowMs)

def reclaimKernelQuotaCapacity (fuel : ℕ) (identity : KernelQuotaIdentity)
    (window : KernelQuotaWindowV2) (limit nowMs : ℤ) (reclaimedExpiredReservation : Bool) :
    KernelM KernelQuotaCapacityOutcome :=
  if reclaimedExpiredReservation = true then return .decision (quotaExceeded window limit)
  else tryCatch
    (do
      let reclaimed ← reclaimExpiredKernelReservationUnlocked fuel identity window nowMs
      if reclaimed = true then return .retry true
      else return .decision (quotaExceeded window limit))
    fun _ => return .decision kernelQuotaUnavailable

def commitKernelQuotaReservation (fuel : ℕ) (identity : KernelQuotaIdentity)
    (requestId route : String) (entries : KernelQuotaReservationEntries)
    (effective : KernelQuotaEffectivePolicy) (resolved : KernelQuotaEffectiveWindow) (nowMs : ℤ)
    (reclaimedExpiredReservation : Bool) : KernelM KernelQuotaCapacityOutcome := do
  let request : KernelQuotaReservationIdentity :=
    ⟨identity, resolved.window.createdAtMs, requestId, route⟩
  let reservationEntry ← kvGet request.key
  match decideKernelQuotaReserve identity effective resolved.window (valueOf reservationEntry)
      requestId route nowMs with
  | .refused refusal => return .decision (kernelQuotaUnavailable refusal.message)
  | .full window limit =>
    reclaimKernelQuotaCapacity fuel identity window limit nowMs reclaimedExpiredReservation
  | .reserve reservation reservedWindow =>
    let committed ← kvCommit
      (.reserve identity resolved.window.createdAtMs resolved.needsWrite)
      (entries.checks identity ⟨request.key, reservationEntry⟩ effective.source)
      [.set (.window identity) (.window reservedWindow),
        .set request.key (.reservation reservation)]
    return if committed = true then .decision (.ok request reservation.leaseExpiresAtMs)
      else .retry false

def attemptReserveKernelQuota (fuel : ℕ) (identity : KernelQuotaIdentity)
    (requestId route : String) (options : KernelQuotaReserveOptions) (nowMs : ℤ)
    (reclaimedExpiredReservation : Bool) : KernelM KernelQuotaCapacityOutcome := do
  let entries ← loadKernelQuotaReservationEntries identity options
  match ← evaluateKernelQuotaEligibility fuel entries identity options nowMs with
  | .inl decision => return .decision decision
  | .inr (effective, resolved) =>
    commitKernelQuotaReservation fuel identity requestId route entries effective resolved nowMs
      reclaimedExpiredReservation

/-! ### The entry points -/

/-- `reserveLimit` with `n` attempts left. -/
def reserveLoop (fuel : ℕ) (identity : KernelQuotaIdentity) (requestId route : String)
    (options : KernelQuotaReserveOptions) : ℕ → Bool → KernelM KernelQuotaReservationDecision
  | 0, _ => return kernelQuotaUnavailable "Kernel quota changed concurrently; retry"
  | n + 1, reclaimedExpiredReservation => do
    let nowMs ← dateNow
    match ← attemptReserveKernelQuota fuel identity requestId route options nowMs
        reclaimedExpiredReservation with
    | .decision decision => return decision
    | .retry reclaimedCapacity =>
      reserveLoop fuel identity requestId route options n
        (reclaimedCapacity || reclaimedExpiredReservation)

def reserveLimit (fuel : ℕ) (identity : KernelQuotaIdentity) (requestId route : String)
    (options : KernelQuotaReserveOptions) : KernelM KernelQuotaReservationDecision :=
  tryCatch
    (if requestId = "" ∨ route = "" then
      return kernelQuotaUnavailable "Kernel quota reservation requires a request id and route"
    else reserveLoop fuel identity requestId route options maxKvRetries false)
    fun _ => return kernelQuotaUnavailable

def reserveKernelOrgUsageLimit (fuel : ℕ) (owner requestId route : String) :
    KernelM KernelQuotaReservationDecision :=
  reserveLimit fuel (.org owner) requestId route ⟨none, none⟩

def reserveEffectiveKernelUsageLimit (fuel : ℕ) (owner repo requestId route : String) :
    KernelM KernelQuotaReservationDecision :=
  tryCatch
    (do
      let got ← kvGets [.policy (.repo owner repo), .policy (.org owner)]
      let (scope, _) ← orThrow (decideKernelQuotaScope (valueOf (got (.policy (.repo owner repo))))
        (valueOf (got (.policy (.org owner)))) owner repo)
      match scope with
      | .repo => reserveLimit fuel (.repo owner repo) requestId route ⟨some .present, none⟩
      | .org => reserveLimit fuel (.org owner) requestId route ⟨some .absent, some repo⟩)
    fun _ => return kernelQuotaUnavailable

end UbqGateway.Kernel
