import UbqGateway.Codex.Capacity

/-!
# Codex routing: rate-limit responses

The functions of `src/authority/native-codex-429.ts` that resolve the deadlines of a 429 response
and turn it into the block of a quota class.  Scanning the text of the body and of the header is
left out: a classification starts from the fields of the body and from the number or the date of the
header.
-/

namespace UbqGateway.Codex

open Json (isSafeInteger maxSafeInteger)

/-- The header `retry-after`: a number of seconds, or the time of a canonical date. -/
inductive RetryAfterHeader
  | seconds (seconds : ℕ)
  | imfFixdate (timeMs : ℤ)

/-- The fields of the body of a 429 response that could be read. -/
structure Codex429Body where
  usageLimitReached : Bool
  resetsAtSeconds : Option ℤ

structure RetryAfterDeadline where
  deadlineMs : ℤ
  isStable : Bool

def futureRetryAfterDeadline (header : Option RetryAfterHeader) (now : ℤ) :
    Option RetryAfterDeadline :=
  match header with
  | none => none
  | some (.seconds seconds) =>
    let deadline := now + seconds * 1000
    if isSafeInteger seconds = true ∧ isSafeInteger (seconds * 1000) = true ∧
        isSafeInteger deadline = true ∧ now < deadline then some ⟨deadline, false⟩ else none
  | some (.imfFixdate deadline) =>
    if isSafeInteger deadline = true ∧ now < deadline then some ⟨deadline, true⟩ else none

/-- The reset time that `classifyCodex429Body` finds. -/
def bodyResetAtMs (body : Codex429Body) (now : ℤ) : Option ℤ :=
  body.resetsAtSeconds.bind fun resetsAtSeconds =>
    if body.usageLimitReached = true ∧ isSafeMs resetsAtSeconds = true ∧
        isSafeInteger (resetsAtSeconds * 1000) = true ∧ now < resetsAtSeconds * 1000 then
      some (resetsAtSeconds * 1000)
    else none

/-- `Codex429Classification`, with the percentages of the headers. -/
structure Codex429Classification where
  usageLimitReached : Bool
  retryAtMs : Option ℤ
  quotaBlockSource : Option CodexQuotaBlockSource
  resetDeadlineIsStable : Bool
  resetDeadlineConflict : Bool
  primaryUsedPercent : Option ℚ
  secondaryUsedPercent : Option ℚ

def resolveQuotaBlockSource (bodyResetAtMs : Option ℤ) (retryAfter : Option RetryAfterDeadline) :
    Option CodexQuotaBlockSource :=
  if bodyResetAtMs.isSome = true then some .bodyResetsAt
  else retryAfter.map fun _ => .headerRetryAfter

/-- Whether the header contradicts the body. -/
def resetDeadlineConflict (bodyResetAtMs : Option ℤ) (retryAfter : Option RetryAfterDeadline) :
    Bool :=
  bodyResetAtMs.any fun bodyResetAtMs => retryAfter.any fun retryAfter =>
    if retryAfter.isStable = true then decide (retryAfter.deadlineMs ≠ bodyResetAtMs)
    else decide (bodyResetAtMs < retryAfter.deadlineMs)

def resolveResetDeadlineMs (bodyResetAtMs : Option ℤ) (retryAfter : Option RetryAfterDeadline) :
    Option ℤ :=
  match bodyResetAtMs with
  | none => retryAfter.map (·.deadlineMs)
  | some bodyResetAtMs =>
    if resetDeadlineConflict (some bodyResetAtMs) retryAfter = true then
      some (retryAfter.elim bodyResetAtMs fun retryAfter => max bodyResetAtMs retryAfter.deadlineMs)
    else some bodyResetAtMs

def resolveCodex429RetryDeadlines (usageLimitReached : Bool) (bodyResetAtMs : Option ℤ)
    (retryAfter : Option RetryAfterDeadline) (primaryUsedPercent secondaryUsedPercent : Option ℚ) :
    Codex429Classification where
  usageLimitReached := usageLimitReached
  retryAtMs := resolveResetDeadlineMs bodyResetAtMs retryAfter
  quotaBlockSource := resolveQuotaBlockSource bodyResetAtMs retryAfter
  resetDeadlineIsStable :=
    if bodyResetAtMs.isSome = true then !resetDeadlineConflict bodyResetAtMs retryAfter
    else retryAfter.any (·.isStable)
  resetDeadlineConflict := resetDeadlineConflict bodyResetAtMs retryAfter
  primaryUsedPercent := primaryUsedPercent
  secondaryUsedPercent := secondaryUsedPercent

def classifyCodex429 (body : Codex429Body) (header : Option RetryAfterHeader)
    (primaryUsedPercent secondaryUsedPercent : Option ℚ) (now : ℤ) : Codex429Classification :=
  resolveCodex429RetryDeadlines body.usageLimitReached (bodyResetAtMs body now)
    (futureRetryAfterDeadline header now) primaryUsedPercent secondaryUsedPercent

def nonBlockingQuotaProbeSlot (state : CodexAccountRoutingState) (account : CodexRoutingAccount) :
    Option CodexRoutingSlot :=
  let current := slotFor state account
  if account.probeGeneration = none ∨ account.probeToken.getD "" = "" ∨
      slotMatchesCodexRoutingAccount current account = false ∨
      probeLeaseMatchesCodexRoutingAccount current account = false then none
  else
    let released := if routingProbeCircuit account = .quota then
      releaseQuotaClassProbe current (quotaClass account.requestedModel) else current
    some { released with
      accountIdHash := some account.accountIdHash
      upstreamTimeoutBlockedUntilMs := if routingProbeCircuit account = .upstreamTimeout then none
        else current.upstreamTimeoutBlockedUntilMs
      probeLease := none }

def isForeignQuotaProbeLease (current : CodexRoutingSlot) (account : CodexRoutingAccount)
    (blockedQuotaClass : CodexQuotaClass) : Bool :=
  account.probeGeneration.isNone && current.probeLease.any fun lease =>
    decide (lease.circuit = .quota) &&
      lease.quotaClass.any fun quotaClass => decide (quotaClass ≠ blockedQuotaClass)

structure CodexQuotaClassResetIdentity where
  observedResetAtMs : Option ℤ
  observedResetAtIsStable : Bool
  generationAmbiguous : Bool

def resolveQuotaClassResetIdentity (current : CodexRoutingSlot)
    (priorClassBlock : Option CodexQuotaClassBlock) (parsed : Codex429Classification)
    (retryAtMs priorDeadline : ℤ) (hasClassBlocks boundedRecoveryProbe : Bool) (now : ℤ) :
    CodexQuotaClassResetIdentity :=
  let priorObservedResetAtMs := (priorClassBlock.bind (·.observedResetAtMs)).or
    (if hasClassBlocks = true then none else current.observedResetAtMs)
  let priorObservedResetIsStable := priorClassBlock.elim
    (!hasClassBlocks && current.observedResetAtIsStable) (·.observedResetAtIsStable)
  let hasStableObservation := priorObservedResetAtMs.isSome && priorObservedResetIsStable
  -- a window that has passed does not hold back a live deadline
  let priorWindowRuledOut := priorObservedResetAtMs.all fun observedAtMs =>
    decide (observedAtMs ≤ now)
  let liveDeadlineSupersedes := !hasClassBlocks && priorWindowRuledOut &&
    parsed.resetDeadlineIsStable && decide (now < retryAtMs)
  let generationAmbiguous := boundedRecoveryProbe ||
    priorClassBlock.any (·.bankedResetGenerationAmbiguous) ||
    (!hasClassBlocks && current.bankedResetGenerationAmbiguous && !liveDeadlineSupersedes) ||
    parsed.resetDeadlineConflict ||
    (hasStableObservation &&
      (!parsed.resetDeadlineIsStable || decide (some retryAtMs ≠ priorObservedResetAtMs)))
  let preserveStableObservation := hasStableObservation && generationAmbiguous
  -- a shorter deadline cannot overwrite the identity of a longer block
  let extendsPriorDeadline := decide (priorDeadline ≤ retryAtMs)
  if (!preserveStableObservation && extendsPriorDeadline) = true then
    ⟨some retryAtMs, parsed.resetDeadlineIsStable, generationAmbiguous⟩
  else ⟨priorObservedResetAtMs, priorObservedResetIsStable, generationAmbiguous⟩

/-- The block of the class that a 429 response proves exhausted. -/
def blockedClassBlock (current : CodexRoutingSlot) (account : CodexRoutingAccount)
    (parsed : Codex429Classification) (quotaBlockSource : CodexQuotaBlockSource)
    (retryAtMs now : ℤ) (recoveryProbe : Bool) : CodexQuotaClassBlock :=
  let quotaBlocksBeforeUpdate := quotaBlocksIncludingLegacy current
  let priorClassBlock := quotaBlockForClass { current with
    quotaBlocksByClass := quotaBlocksBeforeUpdate } (quotaClass account.requestedModel)
  let priorDeadline := (priorClassBlock.map (·.blockedUntilMs)).getD 0
  let hasClassBlocks := decide (quotaBlocksBeforeUpdate.entries ≠ [])
  let boundedRecoveryProbe := recoveryProbe ||
    (current.bankedResetRecoveryProbePending && account.probeGeneration.isSome)
  let identity := resolveQuotaClassResetIdentity current priorClassBlock parsed retryAtMs
    priorDeadline hasClassBlocks boundedRecoveryProbe now
  { blockedUntilMs :=
      if boundedRecoveryProbe = true then now + halfOpenLeaseMs else max priorDeadline retryAtMs
    source := quotaBlockSource
    legacyFallback := false
    quotaSignalObservedAtMs := some now
    observedResetAtMs := identity.observedResetAtMs
    observedResetAtIsStable := identity.observedResetAtIsStable
    bankedResetGenerationAmbiguous := identity.generationAmbiguous
    bankedResetRecoveryProbePending :=
      priorClassBlock.any (·.bankedResetRecoveryProbePending) || recoveryProbe }

def buildQuotaBlockedSlot (current : CodexRoutingSlot) (account : CodexRoutingAccount)
    (parsed : Codex429Classification) (quotaBlockSource : CodexQuotaBlockSource)
    (retryAtMs now : ℤ) (recoveryProbe foreignQuotaProbe : Bool) : CodexRoutingSlot :=
  let block := blockedClassBlock current account parsed quotaBlockSource retryAtMs now recoveryProbe
  let quotaBlocksByClass :=
    (quotaBlocksIncludingLegacy current).insert (quotaClass account.requestedModel) block
  { withBlocks current quotaBlocksByClass (latestFrom block quotaBlocksByClass.values) with
    accountIdHash := some account.accountIdHash
    upstreamTimeoutBlockedUntilMs :=
      if now < current.upstreamTimeoutBlockedUntilMs.getD 0 then
        some (current.upstreamTimeoutBlockedUntilMs.getD 0) else none
    quotaSignalObservedAtMs := some now
    primaryUsedPercent := parsed.primaryUsedPercent.or current.primaryUsedPercent
    secondaryUsedPercent := parsed.secondaryUsedPercent.or current.secondaryUsedPercent
    generation := if foreignQuotaProbe = true then current.generation else current.generation + 1
    probeLease := if foreignQuotaProbe = true then current.probeLease else none }

def quotaBlockedSlot (state : CodexAccountRoutingState) (account : CodexRoutingAccount)
    (parsed : Codex429Classification) (now : ℤ) (recoveryProbe : Bool) :
    Option CodexRoutingSlot := do
  let retryAtMs ← parsed.retryAtMs
  let quotaBlockSource ← parsed.quotaBlockSource
  let current := slotFor state account
  let foreignQuotaProbe :=
    isForeignQuotaProbeLease current account (quotaClass account.requestedModel)
  if slotMatchesCodexRoutingAccount current account = false ∨
      (account.probeGeneration = none ∧ current.probeLease.isSome = true ∧
        foreignQuotaProbe = false) ∨
      (account.probeGeneration.isSome = true ∧
        probeLeaseMatchesCodexRoutingAccount current account = false) then none
  else
    return buildQuotaBlockedSlot current account parsed quotaBlockSource retryAtMs now recoveryProbe
      foreignQuotaProbe

def quotaBlockTransition (state : CodexAccountRoutingState) (account : CodexRoutingAccount)
    (parsed : Codex429Classification) (now : ℤ) (recoveryProbe : Bool) (updatedAtMs : ℤ) :
    Option CodexAccountRoutingState :=
  (quotaBlockedSlot state account parsed now recoveryProbe).map fun slot =>
    withSlot state account.slot slot updatedAtMs

def releaseNonBlockingQuotaProbe (state : CodexAccountRoutingState) (account : CodexRoutingAccount)
    (updatedAtMs : ℤ) : Option CodexAccountRoutingState :=
  (nonBlockingQuotaProbeSlot state account).map fun slot =>
    withSlot state account.slot slot updatedAtMs

end UbqGateway.Codex
