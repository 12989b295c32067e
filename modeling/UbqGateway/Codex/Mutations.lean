import UbqGateway.Codex.RateLimit429

/-!
# Codex routing: transitions

The functions of `src/authority/native-codex-mutations.ts`: what a probe, its result and a
credential do to the routing row, the fence of a quota block, and the generation of an election.
`RoutingMutation` collects the transitions of the row; each is one compare-and-swap of the row.
-/

namespace UbqGateway.Codex

open Json (isSafeInteger maxSafeInteger)

def markCodexUpstreamTimeout (state : CodexAccountRoutingState) (account : CodexRoutingAccount)
    (now updatedAtMs : ℤ) : Option CodexAccountRoutingState :=
  let current := slotFor state account
  if slotMatchesCodexRoutingAccount current account = false ∨
      (account.probeGeneration = none ∧ current.probeLease.isSome = true) ∨
      (account.probeGeneration.isSome = true ∧
        probeLeaseMatchesCodexRoutingAccount current account = false) then none
  else some (withSlot state account.slot { current with
    accountIdHash := some account.accountIdHash
    upstreamTimeoutBlockedUntilMs := some (max (current.upstreamTimeoutBlockedUntilMs.getD 0)
      (now + upstreamTimeoutCircuitMs))
    generation := current.generation + 1
    probeLease := none } updatedAtMs)

def markCodexCredentialInvalid (state : CodexAccountRoutingState) (account : CodexRoutingAccount)
    (now updatedAtMs : ℤ) : Option CodexAccountRoutingState :=
  let current := slotFor state account
  if slotMatchesCodexRoutingAccount current account = false ∨
      (account.probeGeneration.isSome = true ∧
        probeLeaseMatchesCodexRoutingAccount current account = false) then none
  else some (withSlot state account.slot { current with
    accountIdHash := some account.accountIdHash
    quotaBlockedUntilMs := none
    quotaBlockSource := none
    quotaBlockedClasses := []
    quotaBlocksByClass := .empty
    upstreamTimeoutBlockedUntilMs := none
    invalidCredentialVersion := some account.credentialVersion
    quotaSignalObservedAtMs := some now
    probeLease := none } updatedAtMs)

def releasedProbeSlot (current : CodexRoutingSlot) (account : CodexRoutingAccount) :
    CodexRoutingSlot :=
  { (if routingProbeCircuit account = .quota then
      releaseQuotaClassProbe current (quotaClass account.requestedModel) else current) with
    accountIdHash := some account.accountIdHash
    upstreamTimeoutBlockedUntilMs := if routingProbeCircuit account = .upstreamTimeout then none
      else current.upstreamTimeoutBlockedUntilMs
    probeLease := none }

def releaseCodexRoutingProbe (state : CodexAccountRoutingState) (account : CodexRoutingAccount)
    (updatedAtMs : ℤ) : Option CodexAccountRoutingState :=
  let current := slotFor state account
  if slotMatchesCodexRoutingAccount current account = false ∨
      probeLeaseMatchesCodexRoutingAccount current account = false then none
  else some (withSlot state account.slot (releasedProbeSlot current account) updatedAtMs)

/-- The slot after a probe has succeeded. -/
def succeededSlot (current : CodexRoutingSlot) (account : CodexRoutingAccount) : CodexRoutingSlot :=
  let released := if routingProbeCircuit account = .quota then
    withoutRequestedClass current (quotaClass account.requestedModel) else current
  let hasOtherQuotaClasses := decide (released.quotaBlocksByClass.entries ≠ [])
  { released with
    accountIdHash := some account.accountIdHash
    upstreamTimeoutBlockedUntilMs := if routingProbeCircuit account = .upstreamTimeout then none
      else current.upstreamTimeoutBlockedUntilMs
    observedResetAtMs := if hasOtherQuotaClasses = true then released.observedResetAtMs else none
    observedResetAtIsStable := hasOtherQuotaClasses && released.observedResetAtIsStable
    bankedResetGenerationAmbiguous :=
      hasOtherQuotaClasses && released.bankedResetGenerationAmbiguous
    bankedResetRecoveryProbePending :=
      hasOtherQuotaClasses && released.bankedResetRecoveryProbePending
    probeLease := none }

def markCodexSuccess (state : CodexAccountRoutingState) (account : CodexRoutingAccount)
    (updatedAtMs : ℤ) : Option CodexAccountRoutingState :=
  let current := slotFor state account
  if slotMatchesCodexRoutingAccount current account = false ∨
      probeLeaseMatchesCodexRoutingAccount current account = false then none
  else some (withSlot state account.slot (succeededSlot current account) updatedAtMs)

def reconcileRoutingCredential (state : CodexAccountRoutingState) (account : CodexRoutingAccount)
    (accountIdHash credentialVersion : String) (sameAccount : Bool) (updatedAtMs : ℤ) :
    Option CodexAccountRoutingState :=
  let current := slotFor state account
  if current.credentialVersion = credentialVersion ∨
      slotMatchesCodexRoutingAccount current account = false then none
  else some (withSlot state account.slot
    (if sameAccount = true then rotateCredentialForSameAccount current accountIdHash
      credentialVersion
      else neutralSlot credentialVersion (some accountIdHash)) updatedAtMs)

def isCodexQuotaBlockFenceCurrent (value : Json) (account : CodexRoutingAccount)
    (quotaResetAtMs routingGeneration : ℤ) : Bool :=
  isSafeMs quotaResetAtMs && isSafeMs routingGeneration &&
    (parseCodexAccountRoutingState value).any fun state =>
      !hasUnresolvedLegacyResetIdentity state && state.slots[account.slot]?.any fun current =>
        decide (current.credentialVersion = account.credentialVersion ∧
          current.accountIdHash = some account.accountIdHash ∧
          current.generation = routingGeneration) &&
        (quotaBlockForClass current (quotaClass account.requestedModel)).any fun classBlock =>
          decide (classBlock.observedResetAtMs = some quotaResetAtMs ∧
            classBlock.observedResetAtIsStable = true ∧
            classBlock.bankedResetGenerationAmbiguous = false ∧
            classBlock.blockedUntilMs = quotaResetAtMs)

/-- The slot after a reset was verified, with the lease of its recovery probe. -/
def recoveredSlot (current : CodexRoutingSlot) (account : CodexRoutingAccount)
    (recoveryLease : CodexProbeLease) : CodexRoutingSlot :=
  let requestedQuotaClass := quotaClass account.requestedModel
  let releasedClassBlock := quotaBlockForClass (withLegacyQuotaClassMap current) requestedQuotaClass
  { withoutRequestedClass current requestedQuotaClass with
    observedResetAtMs :=
      (releasedClassBlock.bind (·.observedResetAtMs)).or current.observedResetAtMs
    observedResetAtIsStable := releasedClassBlock.elim current.observedResetAtIsStable
      (·.observedResetAtIsStable)
    bankedResetGenerationAmbiguous := true
    bankedResetRecoveryProbePending := true
    generation := recoveryLease.generation
    probeLease := some recoveryLease }

/-- `recoveryProbeTransition`.  The callers have found a slot at the index of the account. -/
def recoveryProbeTransition (state : CodexAccountRoutingState) (account : CodexRoutingAccount)
    (recoveryLease : CodexProbeLease) (updatedAtMs : ℤ) : Option CodexAccountRoutingState :=
  state.slots[account.slot]?.map fun current =>
    withSlot state account.slot (recoveredSlot current account recoveryLease) updatedAtMs

def buildExpiredProbeClaim (base : CodexAccountRoutingState) (account : CodexRoutingAccount)
    (now : ℤ) (token : String) (updatedAtMs : ℤ) :
    Option (CodexAccountRoutingState × CodexProbeLease) :=
  let current := slotFor base account
  let circuit := routingProbeCircuit account
  let requestedQuotaClass := quotaClass account.requestedModel
  let classBlock := quotaBlockForClass current requestedQuotaClass
  let circuitDeadline := if circuit = .upstreamTimeout then current.upstreamTimeoutBlockedUntilMs
    else classBlock.map (·.blockedUntilMs)
  -- an exhausted account without a circuit has no deadline to wait for
  let capacityProbe := decide (circuit = .quota) && classBlock.isNone &&
    decide (account.quotaHeadroom = some 0)
  let overageProbe := decide (circuit = .quota) && account.overageFallback
  if slotMatchesCodexRoutingAccount current account = false ∨
      current.invalidCredentialVersion = some account.credentialVersion ∨
      (capacityProbe = false ∧ overageProbe = false ∧
        (circuitDeadline.getD 0 = 0 ∨ now < circuitDeadline.getD 0)) ∨
      now < (current.probeLease.map (·.expiresAtMs)).getD 0 then none
  else
    let lease : CodexProbeLease :=
      { token := token
        expiresAtMs := now + halfOpenLeaseMs
        generation := current.generation
        circuit := circuit
        quotaClass := if circuit = .quota then some requestedQuotaClass else none }
    some (withSlot base account.slot { current with
      accountIdHash := some account.accountIdHash
      probeLease := some lease } updatedAtMs, lease)

def staleVerifiedResetProbeEligible (state : CodexAccountRoutingState) (current : CodexRoutingSlot)
    (account : CodexRoutingAccount) (quotaResetAtMs routingGeneration nowMs : ℤ) : Bool :=
  let requestedClass := quotaClass account.requestedModel
  let legacyDeadline :=
    if requestedClass = .unknown then current.quotaBlockedUntilMs.getD 0 else 0
  !state.bankedResetLegacyIdentityUnresolved && slotMatchesCodexRoutingAccount current account &&
    decide (current.accountIdHash = some account.accountIdHash ∧
      current.credentialVersion = account.credentialVersion ∧
      current.generation = routingGeneration ∧
      current.invalidCredentialVersion ≠ some account.credentialVersion) &&
    (quotaBlockForClass current requestedClass).any (fun classBlock =>
      decide (quotaResetAtMs ≤ max classBlock.blockedUntilMs legacyDeadline ∧
        classBlock.observedResetAtMs = some quotaResetAtMs ∧
        classBlock.observedResetAtIsStable = true)) &&
    decide ((current.probeLease.map (·.expiresAtMs)).getD 0 ≤ nowMs)

def recheckSlotTransition (current : CodexRoutingSlot) (recheckAtMs : ℤ) : CodexRoutingSlot :=
  let rechecked := recheckQuotaClasses current recheckAtMs
  { rechecked with
    quotaSignalObservedAtMs := some recheckAtMs
    bankedResetGenerationAmbiguous := rechecked.bankedResetGenerationAmbiguous ||
      rechecked.quotaBlockedUntilMs.isSome || current.bankedResetGenerationAmbiguous ||
      (current.observedResetAtMs.isSome && current.observedResetAtIsStable)
    generation := current.generation + 1
    probeLease := none }

/-- `recheckCodexRoutingSlot` of `src/codex/account-routing.ts`, for a slot counted from one. -/
def recheckCodexRoutingSlot (state : CodexAccountRoutingState) (slotNumber : ℕ) (recheckAtMs : ℤ)
    (updatedAtMs : ℤ) : Option CodexAccountRoutingState :=
  if slotNumber = 0 then none
  else state.slots[slotNumber - 1]?.bind fun slot =>
    if slot.quotaBlockedUntilMs.getD 0 = 0 then none
    else some (withSlot state (slotNumber - 1) (recheckSlotTransition slot recheckAtMs) updatedAtMs)

/-! ### The transitions of the routing row -/

/-- `attemptCodexQuotaRecoveryProbe` of `src/codex/routing-mutations.ts`, for a reset that is
eligible. -/
def attemptCodexQuotaRecoveryProbe (state : CodexAccountRoutingState)
    (account : CodexRoutingAccount)
    (nowMs : ℤ) (token : String) (updatedAtMs : ℤ) : Option CodexAccountRoutingState :=
  state.slots[account.slot]?.bind fun current =>
    if isSafeInteger (current.generation + 1) = true ∧ isSafeMs nowMs = true ∧
        isSafeMs (nowMs + halfOpenLeaseMs) = true then
      recoveryProbeTransition state account
        { token := token
          expiresAtMs := nowMs + halfOpenLeaseMs
          generation := current.generation + 1
          circuit := .quota
          quotaClass := some (quotaClass account.requestedModel) } updatedAtMs
    else none

/-- The transitions of the routing row. -/
inductive RoutingMutation
  | quotaBlock (account : CodexRoutingAccount) (body : Codex429Body)
      (header : Option RetryAfterHeader) (primaryUsedPercent secondaryUsedPercent : Option ℚ)
      (recoveryProbe : Bool)
  | releaseNonBlocking (account : CodexRoutingAccount)
  | success (account : CodexRoutingAccount)
  | credentialInvalid (account : CodexRoutingAccount)
  | upstreamTimeout (account : CodexRoutingAccount)
  | releaseProbe (account : CodexRoutingAccount)
  | claimProbe (account : CodexRoutingAccount) (token : String)
  | verifiedReset (account : CodexRoutingAccount) (quotaResetAtMs routingGeneration : ℤ)
      (token : String)
  | staleVerifiedReset (account : CodexRoutingAccount) (quotaResetAtMs routingGeneration : ℤ)
      (token : String)
  | capacityQuotaBlock (account : CodexRoutingAccount)
      (observation : CodexCapacityRoutingObservation)
  | capacityObservation (observation : CodexCapacityRoutingObservation) (model : Option String)
  | refreshCredential (account : CodexRoutingAccount) (accountIdHash credentialVersion : String)
      (sameAccount : Bool)
  | recheck (slotNumber : ℕ)
  | normalize (identities : List CodexRoutingIdentity) (discardLegacyTimeoutCircuit : Bool)
  /-- The row is written and read again. -/
  | reload

/-- The row after a transition; `none` if the transition is refused. -/
def RoutingMutation.apply (now updatedAtMs : ℤ) (state : CodexAccountRoutingState) :
    RoutingMutation → Option CodexAccountRoutingState
  | .quotaBlock account body header primaryUsedPercent secondaryUsedPercent recoveryProbe =>
    quotaBlockTransition state account
      (classifyCodex429 body header primaryUsedPercent secondaryUsedPercent now) now recoveryProbe
      updatedAtMs
  | .releaseNonBlocking account => releaseNonBlockingQuotaProbe state account updatedAtMs
  | .success account => markCodexSuccess state account updatedAtMs
  | .credentialInvalid account => markCodexCredentialInvalid state account now updatedAtMs
  | .upstreamTimeout account => markCodexUpstreamTimeout state account now updatedAtMs
  | .releaseProbe account => releaseCodexRoutingProbe state account updatedAtMs
  | .claimProbe account token =>
    (buildExpiredProbeClaim state account now token updatedAtMs).map Prod.fst
  | .verifiedReset account quotaResetAtMs routingGeneration token =>
    if isCodexQuotaBlockFenceCurrent state.toJson account quotaResetAtMs routingGeneration =
      true then
      attemptCodexQuotaRecoveryProbe state account now token updatedAtMs
    else none
  | .staleVerifiedReset account quotaResetAtMs routingGeneration token =>
    state.slots[account.slot]?.bind fun current =>
      if staleVerifiedResetProbeEligible state current account quotaResetAtMs routingGeneration now
          = true then attemptCodexQuotaRecoveryProbe state account now token updatedAtMs
      else none
  | .capacityQuotaBlock account observation =>
    applyCapacityQuotaBlock state account observation now updatedAtMs
  | .capacityObservation observation model =>
    applyCapacityObservation state observation now model updatedAtMs
  | .refreshCredential account accountIdHash credentialVersion sameAccount =>
    reconcileRoutingCredential state account accountIdHash credentialVersion sameAccount updatedAtMs
  | .recheck slotNumber => recheckCodexRoutingSlot state slotNumber now updatedAtMs
  | .normalize identities discardLegacyTimeoutCircuit =>
    some (normalizeRoutingState (some state) identities now discardLegacyTimeoutCircuit)
  | .reload => parseCodexAccountRoutingState state.toJson

end UbqGateway.Codex
