import UbqGateway.Library.Json
import UbqGateway.Library.Record

/-!
# Codex routing: the rows and their codecs

The types of `src/authority/native-codex-contracts.ts`, the parsers that read the routing row and
the row of the active account, and the values that are written for them.  A row that was written by
an older release may lack fields; the parsers supply them, and repair the two shapes that an older
parser had left ambiguous.

Times and generations are integers, percentages are rational numbers.
-/

namespace UbqGateway.Codex

/-- `CODEX_HALF_OPEN_LEASE_MS` -/
def halfOpenLeaseMs : ℤ := 30000

/-- `CODEX_UPSTREAM_TIMEOUT_CIRCUIT_MS` -/
def upstreamTimeoutCircuitMs : ℤ := 60000

/-- `CODEX_CAPACITY_ROUTING_MAX_AGE_MS` -/
def capacityRoutingMaxAgeMs : ℤ := 30 * 60000

inductive CodexQuotaBlockSource
  | bodyResetsAt
  | headerRetryAfter
deriving DecidableEq

inductive CodexProbeCircuit
  | quota
  | upstreamTimeout
deriving DecidableEq

inductive CodexQuotaClass
  | spark
  | gptOss120b
  | reserve
  | standard
  | unknown
deriving DecidableEq

def CodexQuotaClass.key : CodexQuotaClass → String
  | .spark => "spark"
  | .gptOss120b => "gpt_oss_120b"
  | .reserve => "reserve"
  | .standard => "standard"
  | .unknown => "unknown"

def quotaClassKeys : List CodexQuotaClass := [.spark, .gptOss120b, .reserve, .standard, .unknown]

def quotaClassOfKey (value : String) : Option CodexQuotaClass :=
  quotaClassKeys.find? fun c => decide (c.key = value)

inductive CodexActiveAccountTransitionReason
  | quotaExhausted
  | credentialInvalid
  | accountRemovedOrReplaced
  | modelUnavailable
  | manualReset
deriving DecidableEq

structure CodexActiveAccountSelection where
  accountIdHash : String
  credentialVersion : String
  poolVersionstamp : String
  slot : ℤ
  routingGeneration : ℤ
  generation : ℤ
  transitionReason : Option CodexActiveAccountTransitionReason
  updatedAtMs : ℤ
deriving DecidableEq

structure CodexQuotaClassBlock where
  blockedUntilMs : ℤ
  source : CodexQuotaBlockSource
  legacyFallback : Bool
  quotaSignalObservedAtMs : Option ℤ
  observedResetAtMs : Option ℤ
  observedResetAtIsStable : Bool
  bankedResetGenerationAmbiguous : Bool
  bankedResetRecoveryProbePending : Bool
deriving DecidableEq

/-- `CodexProbeLease`; a lease of an older release names no class. -/
structure CodexProbeLease where
  token : String
  expiresAtMs : ℤ
  generation : ℤ
  circuit : CodexProbeCircuit
  quotaClass : Option CodexQuotaClass
deriving DecidableEq

/-- The blocks of the separately metered classes. -/
abbrev QuotaBlocks := Record CodexQuotaClass CodexQuotaClassBlock

structure CodexRoutingSlot where
  accountIdHash : Option String
  credentialVersion : String
  quotaBlockedUntilMs : Option ℤ
  quotaBlockSource : Option CodexQuotaBlockSource
  quotaBlockedClasses : List String
  quotaBlocksByClass : QuotaBlocks
  invalidCredentialVersion : Option String
  primaryUsedPercent : Option ℚ
  secondaryUsedPercent : Option ℚ
  quotaSignalObservedAtMs : Option ℤ
  capacityObservedAtMs : Option ℤ
  upstreamTimeoutBlockedUntilMs : Option ℤ
  observedResetAtMs : Option ℤ
  observedResetAtIsStable : Bool
  bankedResetGenerationAmbiguous : Bool
  bankedResetRecoveryProbePending : Bool
  generation : ℤ
  probeLease : Option CodexProbeLease
deriving DecidableEq

structure CodexAccountRoutingState where
  updatedAtMs : ℤ
  bankedResetLegacyIdentityUnresolved : Bool
  slots : List CodexRoutingSlot
deriving DecidableEq

structure CodexRoutingAccount where
  slot : ℕ
  accountIdHash : String
  credentialVersion : String
  quotaHeadroom : Option ℚ
  probeRequired : Bool
  probeGeneration : Option ℤ
  probeToken : Option String
  probeCircuit : Option CodexProbeCircuit
  overageFallback : Bool
  routingGeneration : Option ℤ
  activeGeneration : Option ℤ
  activePoolVersionstamp : Option String
  activeTransitionReason : Option CodexActiveAccountTransitionReason
  requestedModel : Option String
deriving DecidableEq

structure CodexCapacityRoutingWindow where
  limitWindowSeconds : Option ℤ
  usedPercent : Option ℚ
  resetAtMs : Option ℤ
deriving DecidableEq

/-- The two windows of a limit. -/
structure CodexCapacityWindows where
  primary : Option CodexCapacityRoutingWindow
  secondary : Option CodexCapacityRoutingWindow
deriving DecidableEq

structure CodexCapacityRoutingAdditionalRateLimit where
  limitName : String
  meteredFeature : Option String
  windows : CodexCapacityWindows
deriving DecidableEq

inductive CapacityState
  | available
  | stale
  | unavailable
deriving DecidableEq

structure CodexCapacityRoutingObservation where
  slot : ℕ
  accountIdHash : String
  state : CapacityState
  sourceObservedAtMs : Option ℤ
  snapshotAtMs : ℤ
  windows : CodexCapacityWindows
  additionalRateLimits : List CodexCapacityRoutingAdditionalRateLimit
deriving DecidableEq

structure CodexBlockedAccountMetadata where
  account : CodexRoutingAccount
  quotaResetAtMs : ℤ
deriving DecidableEq

/-- A model that no account can serve, and the detail text for it. -/
structure ModelUnavailable where
  model : String
  detail : Option String
deriving DecidableEq

inductive CodexRouteSelection
  | eligible (accounts : List CodexRoutingAccount) (skippedSlots : List ℕ)
      (blockedAccounts : List CodexBlockedAccountMetadata)
  | quotaBlocked (skippedSlots : List ℕ) (retryAtMs : Option ℤ)
      (blockedAccounts : List CodexBlockedAccountMetadata) (fullCohortExhausted : Bool)
      (fullCohortUnavailable : Bool) (activeSnapshot : Option CodexActiveAccountSelection)
  | upstreamBlocked (skippedSlots : List ℕ) (retryAtMs : Option ℤ)
  | modelUnavailable (unavailable : ModelUnavailable) (skippedSlots : List ℕ)
  | credentialsInvalid (skippedSlots : List ℕ) (fullCohortUnavailable : Bool)
  | routingUnavailable

structure CodexRoutingIdentity where
  slot : ℕ
  accountIdHash : String
  credentialVersion : String

/-- `CodexRoutingAccountPolicy`; the detail text of a model that is unavailable may be missing. -/
structure CodexRoutingAccountPolicy where
  modelUnavailable : Option (Option String)
  overageUsageAllowed : Bool

structure CodexRoutingRowRevisions where
  active : Option String
  pool : Option String
  routing : Option String
  capacity : Option String
deriving DecidableEq

def isLegacyStableResetIdentity (slot : CodexRoutingSlot) : Bool :=
  slot.accountIdHash.isNone && slot.observedResetAtMs.isSome && slot.observedResetAtIsStable

def hasUnresolvedLegacyResetIdentity (state : CodexAccountRoutingState) : Bool :=
  state.bankedResetLegacyIdentityUnresolved || state.slots.any isLegacyStableResetIdentity

/-! ### Parsing the routing row -/

def quotaClassBlockFieldsMatch (left right : Json) : Bool :=
  ["blocked_until_ms", "source", "quota_signal_observed_at_ms", "observed_reset_at_ms",
    "observed_reset_at_is_stable", "banked_reset_generation_ambiguous",
    "banked_reset_recovery_probe_pending"].all fun key =>
      Json.strictEq (left.get key) (right.get key)

def hasUnmarkedSyntheticLegacyUnknown (rawClassBlocks : Json) : Bool :=
  match rawClassBlocks.get "unknown" with
  | none => false
  | some unknown =>
    if unknown.isRecord = false ∨ (unknown.get "legacy_fallback").isSome = true then false
    else ["spark", "gpt_oss_120b", "standard"].all fun key =>
      (rawClassBlocks.get key).any fun candidate => candidate.isRecord &&
        (candidate.get "legacy_fallback").isNone && quotaClassBlockFieldsMatch candidate unknown

def parseProbeLeaseCircuit (lease : Option Json) : Option CodexProbeCircuit :=
  match lease with
  | none => some .quota
  | some lease =>
    if lease.isRecord = false then some .quota
    else match lease.get "circuit" with
    | none => some .quota
    | some (.str "quota") => some .quota
    | some (.str "upstream_timeout") => some .upstreamTimeout
    | _ => none

def parseProbeQuotaClass (value : Option Json) : Option CodexQuotaClass :=
  (Json.string? value).bind quotaClassOfKey

def parseProbeLease (lease : Option Json) (leaseCircuit : Option CodexProbeCircuit) :
    Option CodexProbeLease := do
  let lease ← lease.filter Json.isRecord
  let token ← Json.string? (lease.get "token")
  let expiresAtMs ← Json.safeNonNegative? (lease.get "expires_at_ms")
  let generation ← Json.safeInteger? (lease.get "generation")
  let circuit ← leaseCircuit
  return ⟨token, expiresAtMs, generation, circuit, parseProbeQuotaClass (lease.get "quota_class")⟩

def quotaBlockSourceOfKey : String → Option CodexQuotaBlockSource
  | "body_resets_at" => some .bodyResetsAt
  | "header_retry_after" => some .headerRetryAfter
  | _ => none

/-- `parseQuotaBlockSource`; `none` marks a value that is not recognized. -/
def parseQuotaBlockSource (value : Option Json) : Option (Option CodexQuotaBlockSource) :=
  if Json.isNull value = true then some none
  else ((Json.string? value).bind quotaBlockSourceOfKey).map some

def parseStoredGeneration (value : Option Json) : ℤ := (Json.safeNonNegative? value).getD 0

def parseAccountIdHash (value : Option Json) : Option String :=
  (Json.string? value).filter fun hash => decide (hash ≠ "")

def parseQuotaBlockedClasses (value : Option Json) : List String :=
  match Json.items? value with
  | none => []
  | some items => ((items.mapM fun item => Json.string? (some item)).getD []).reverse.dedup.reverse

structure CodexSlotClassBlockFields where
  observedResetAtMs : Option ℤ
  observedResetAtIsStable : Bool
  bankedResetGenerationAmbiguous : Bool
  bankedResetRecoveryProbePending : Bool

def parseSlotClassBlock (block : Json) (quotaClassKey : CodexQuotaClass)
    (unmarkedSyntheticLegacyUnknown : Bool) (slotFields : CodexSlotClassBlockFields) :
    Option CodexQuotaClassBlock := do
  let blockedUntilMs ← Json.safeNonNegative? (block.get "blocked_until_ms")
  let source ← (Json.string? (block.get "source")).bind quotaBlockSourceOfKey
  -- a block that shares the deadline of the slot inherits the reset identity of that deadline
  let sharesSlotDeadline := decide (slotFields.observedResetAtMs = some blockedUntilMs)
  return {
    blockedUntilMs := blockedUntilMs
    source := source
    legacyFallback := Json.isTrue (block.get "legacy_fallback") ||
      (decide (quotaClassKey = .unknown) && unmarkedSyntheticLegacyUnknown)
    quotaSignalObservedAtMs := Json.safeNonNegative? (block.get "quota_signal_observed_at_ms")
    observedResetAtMs := (Json.safeNonNegative? (block.get "observed_reset_at_ms")).or
      (if sharesSlotDeadline = true ∧ slotFields.observedResetAtIsStable = true then
        slotFields.observedResetAtMs else none)
    observedResetAtIsStable := Json.isTrue (block.get "observed_reset_at_is_stable") ||
      (sharesSlotDeadline && slotFields.observedResetAtIsStable)
    bankedResetGenerationAmbiguous :=
      Json.isTrue (block.get "banked_reset_generation_ambiguous") ||
      (sharesSlotDeadline && slotFields.bankedResetGenerationAmbiguous)
    bankedResetRecoveryProbePending :=
      Json.isTrue (block.get "banked_reset_recovery_probe_pending") ||
      (sharesSlotDeadline && slotFields.bankedResetRecoveryProbePending) }

/-- The blocks with one more, if it could be parsed. -/
def withParsedBlock (blocks : QuotaBlocks) (quotaClassKey : CodexQuotaClass) :
    Option CodexQuotaClassBlock → QuotaBlocks
  | none => blocks
  | some block => blocks.insert quotaClassKey block

def parseQuotaBlocksByClass (rawClassBlocks : Json) (unmarkedSyntheticLegacyUnknown : Bool)
    (slotFields : CodexSlotClassBlockFields) : QuotaBlocks :=
  quotaClassKeys.foldl (fun blocks quotaClassKey => withParsedBlock blocks quotaClassKey
    (((rawClassBlocks.get quotaClassKey.key).filter Json.isRecord).bind fun block =>
      parseSlotClassBlock block quotaClassKey unmarkedSyntheticLegacyUnknown slotFields)) .empty

def isExactLegacyNeutralSlot (value : Json) (source : Option CodexQuotaBlockSource)
    (lease : Option Json) : Bool :=
  (value.get "account_id_hash").isNone && (value.get "observed_reset_at_is_stable").isNone &&
    (value.get "banked_reset_generation_ambiguous").isNone &&
    decide (Json.number? (value.get "generation") = some 0) &&
    Json.isNull (value.get "quota_blocked_until_ms") && source.isNone &&
    Json.isNull (value.get "invalid_credential_version") &&
    Json.isNull (value.get "primary_used_percent") &&
    Json.isNull (value.get "secondary_used_percent") &&
    Json.isNull (value.get "observed_reset_at_ms") && Json.isNull lease

def isLegacyNeutralFirstBodyFence (value : Json) (accountIdHash : Option String)
    (quotaBlockedUntilMs observedResetAtMs : Option ℤ) (observedResetAtIsStable : Bool)
    (source : Option CodexQuotaBlockSource) (lease : Option Json) : Bool :=
  Json.isTrue (value.get "banked_reset_generation_ambiguous") &&
    decide (Json.number? (value.get "generation") = some 1) && accountIdHash.isSome &&
    decide (source = some .bodyResetsAt) && quotaBlockedUntilMs.isSome &&
    decide (observedResetAtMs = quotaBlockedUntilMs) && observedResetAtIsStable &&
    Json.isNull lease && Json.isNull (value.get "invalid_credential_version")

def parseSlot (value : Json) (allowLegacyNeutralRepair : Bool) : Option CodexRoutingSlot := do
  let credentialVersion ← Json.string? (value.get "credential_version")
  let source ← parseQuotaBlockSource (value.get "quota_block_source")
  let lease := value.get "probe_lease"
  let parsedLease := parseProbeLease lease (parseProbeLeaseCircuit lease)
  if Json.isNull lease = false ∧ parsedLease = none then none
  else
    let accountIdHash := parseAccountIdHash (value.get "account_id_hash")
    let quotaBlockedUntilMs := Json.safeNonNegative? (value.get "quota_blocked_until_ms")
    let observedResetAtMs := Json.safeNonNegative? (value.get "observed_reset_at_ms")
    let observedResetAtIsStable := Json.isTrue (value.get "observed_reset_at_is_stable")
    let isExactLegacyNeutralSlotRepair := allowLegacyNeutralRepair &&
      isExactLegacyNeutralSlot value source lease
    let isLegacyNeutralFirstBodyFenceRepair := allowLegacyNeutralRepair &&
      isLegacyNeutralFirstBodyFence value accountIdHash quotaBlockedUntilMs observedResetAtMs
        observedResetAtIsStable source lease
    -- an older record cannot prove that its deadline was never revised
    let bankedResetGenerationAmbiguous :=
      !(isExactLegacyNeutralSlotRepair || isLegacyNeutralFirstBodyFenceRepair) &&
        !Json.isFalse (value.get "banked_reset_generation_ambiguous")
    let bankedResetRecoveryProbePending :=
      Json.isTrue (value.get "banked_reset_recovery_probe_pending")
    let rawClassBlocks :=
      ((value.get "quota_blocks_by_class").filter Json.isRecord).getD (.obj [])
    return {
      accountIdHash := accountIdHash
      credentialVersion := credentialVersion
      quotaBlockedUntilMs := quotaBlockedUntilMs
      quotaBlockSource := source
      quotaBlockedClasses := parseQuotaBlockedClasses (value.get "quota_blocked_classes")
      quotaBlocksByClass := parseQuotaBlocksByClass rawClassBlocks
        (hasUnmarkedSyntheticLegacyUnknown rawClassBlocks)
        ⟨observedResetAtMs, observedResetAtIsStable, bankedResetGenerationAmbiguous,
          bankedResetRecoveryProbePending⟩
      invalidCredentialVersion := Json.string? (value.get "invalid_credential_version")
      primaryUsedPercent := Json.number? (value.get "primary_used_percent")
      secondaryUsedPercent := Json.number? (value.get "secondary_used_percent")
      quotaSignalObservedAtMs := Json.safeNonNegative? (value.get "quota_signal_observed_at_ms")
      capacityObservedAtMs := Json.safeNonNegative? (value.get "capacity_observed_at_ms")
      upstreamTimeoutBlockedUntilMs :=
        Json.safeNonNegative? (value.get "upstream_timeout_blocked_until_ms")
      observedResetAtMs := observedResetAtMs
      observedResetAtIsStable := observedResetAtIsStable
      bankedResetGenerationAmbiguous := bankedResetGenerationAmbiguous
      bankedResetRecoveryProbePending := bankedResetRecoveryProbePending
      generation := parseStoredGeneration (value.get "generation")
      probeLease := parsedLease }

def parseCodexAccountRoutingState (value : Json) : Option CodexAccountRoutingState := do
  if Json.number? (value.get "v") ≠ some 2 then none
  else
    let updatedAtMs ← Json.safeNonNegative? (value.get "updated_at_ms")
    let items ← Json.items? (value.get "slots")
    let legacyIdentityUnresolved :=
      Json.isTrue (value.get "banked_reset_legacy_identity_unresolved")
    let slots ← items.mapM fun slot => parseSlot slot !legacyIdentityUnresolved
    return ⟨updatedAtMs, legacyIdentityUnresolved, slots⟩

/-! ### Parsing the row of the active account -/

def isOpaqueHash (value : String) : Bool :=
  decide (value.toList.length = 64) &&
    value.toList.all fun c => c.isDigit || decide ('a' ≤ c ∧ c ≤ 'f')

/-- The length of a string in UTF-16 code units. -/
def utf16Length (value : String) : ℕ :=
  (value.toList.map fun c => if 0xffff < c.toNat then 2 else 1).sum

def isVersionstamp (value : String) : Bool := decide (value ≠ "" ∧ utf16Length value ≤ 256)

def transitionReasonOfKey : String → Option CodexActiveAccountTransitionReason
  | "quota_exhausted" => some .quotaExhausted
  | "credential_invalid" => some .credentialInvalid
  | "account_removed_or_replaced" => some .accountRemovedOrReplaced
  | "model_unavailable" => some .modelUnavailable
  | "manual_reset" => some .manualReset
  | _ => none

/-- `parseActiveTransitionReason`; `none` marks a value that is not recognized. -/
def parseActiveTransitionReason (value : Option Json) :
    Option (Option CodexActiveAccountTransitionReason) :=
  if Json.isNull value = true then some none
  else ((Json.string? value).bind transitionReasonOfKey).map some

def parseCodexActiveAccountSelection (value : Json) : Option CodexActiveAccountSelection := do
  if Json.number? (value.get "v") ≠ some 1 then none
  else
    let accountIdHash ← (Json.string? (value.get "account_id_hash")).filter isOpaqueHash
    let credentialVersion ← (Json.string? (value.get "credential_version")).filter isOpaqueHash
    let poolVersionstamp ← (Json.string? (value.get "pool_versionstamp")).filter isVersionstamp
    let slot ← Json.safeNonNegative? (value.get "slot")
    let routingGeneration ← Json.safeNonNegative? (value.get "routing_generation")
    let generation ← (Json.safeInteger? (value.get "generation")).filter fun n => decide (1 ≤ n)
    let transitionReason ← parseActiveTransitionReason (value.get "transition_reason")
    let updatedAtMs ← Json.safeNonNegative? (value.get "updated_at_ms")
    return ⟨accountIdHash, credentialVersion, poolVersionstamp, slot, routingGeneration, generation,
      transitionReason, updatedAtMs⟩

/-! ### The values that are written -/

def CodexQuotaBlockSource.key : CodexQuotaBlockSource → String
  | .bodyResetsAt => "body_resets_at"
  | .headerRetryAfter => "header_retry_after"

def CodexProbeCircuit.key : CodexProbeCircuit → String
  | .quota => "quota"
  | .upstreamTimeout => "upstream_timeout"

def CodexQuotaClassBlock.toJson (block : CodexQuotaClassBlock) : Json := .obj [
  ("blocked_until_ms", .int block.blockedUntilMs),
  ("source", .str block.source.key),
  ("legacy_fallback", .bool block.legacyFallback),
  ("quota_signal_observed_at_ms", .ofOption .int block.quotaSignalObservedAtMs),
  ("observed_reset_at_ms", .ofOption .int block.observedResetAtMs),
  ("observed_reset_at_is_stable", .bool block.observedResetAtIsStable),
  ("banked_reset_generation_ambiguous", .bool block.bankedResetGenerationAmbiguous),
  ("banked_reset_recovery_probe_pending", .bool block.bankedResetRecoveryProbePending)]

def CodexProbeLease.toJson (lease : CodexProbeLease) : Json := .obj [
  ("token", .str lease.token),
  ("expires_at_ms", .int lease.expiresAtMs),
  ("generation", .int lease.generation),
  ("circuit", .str lease.circuit.key),
  ("quota_class", .ofOption (fun c => .str c.key) lease.quotaClass)]

def CodexRoutingSlot.toJson (slot : CodexRoutingSlot) : Json := .obj [
  ("account_id_hash", .ofOption .str slot.accountIdHash),
  ("credential_version", .str slot.credentialVersion),
  ("quota_blocked_until_ms", .ofOption .int slot.quotaBlockedUntilMs),
  ("quota_block_source", .ofOption (fun source => .str source.key) slot.quotaBlockSource),
  ("quota_blocked_classes", .arr (slot.quotaBlockedClasses.map .str)),
  ("quota_blocks_by_class",
    .obj (slot.quotaBlocksByClass.entries.map fun e => (e.1.key, e.2.toJson))),
  ("invalid_credential_version", .ofOption .str slot.invalidCredentialVersion),
  ("primary_used_percent", .ofOption .num slot.primaryUsedPercent),
  ("secondary_used_percent", .ofOption .num slot.secondaryUsedPercent),
  ("quota_signal_observed_at_ms", .ofOption .int slot.quotaSignalObservedAtMs),
  ("capacity_observed_at_ms", .ofOption .int slot.capacityObservedAtMs),
  ("upstream_timeout_blocked_until_ms", .ofOption .int slot.upstreamTimeoutBlockedUntilMs),
  ("observed_reset_at_ms", .ofOption .int slot.observedResetAtMs),
  ("observed_reset_at_is_stable", .bool slot.observedResetAtIsStable),
  ("banked_reset_generation_ambiguous", .bool slot.bankedResetGenerationAmbiguous),
  ("banked_reset_recovery_probe_pending", .bool slot.bankedResetRecoveryProbePending),
  ("generation", .int slot.generation),
  ("probe_lease", .ofOption CodexProbeLease.toJson slot.probeLease)]

/-- The routing row as it is written. -/
def CodexAccountRoutingState.toJson (state : CodexAccountRoutingState) : Json := .obj [
  ("v", .int 2),
  ("updated_at_ms", .int state.updatedAtMs),
  ("banked_reset_legacy_identity_unresolved", .bool state.bankedResetLegacyIdentityUnresolved),
  ("slots", .arr (state.slots.map CodexRoutingSlot.toJson))]

end UbqGateway.Codex
