import UbqGateway.Codex.Contracts
import Mathlib.Algebra.Order.Ring.Rat

/-!
# Codex routing: slots, class blocks and capacity

The functions of `src/authority/native-codex-capacity.ts`: the slot of an account, the normalization
of the routing row when the pool has changed, the blocks of the quota classes with the summary that
a slot keeps of them, and what a capacity observation does to a slot.

An object that the source passes on without a change is recognized by its identity; a normalized
slot therefore remembers which slot of the row it is (`NormalizedSlot.origin`).
-/

namespace UbqGateway.Codex

open Json (isSafeInteger maxSafeInteger)

def neutralSlot (credentialVersion : String) (accountIdHash : Option String) :
    CodexRoutingSlot where
  accountIdHash := accountIdHash
  credentialVersion := credentialVersion
  quotaBlockedUntilMs := none
  quotaBlockSource := none
  quotaBlockedClasses := []
  quotaBlocksByClass := .empty
  invalidCredentialVersion := none
  primaryUsedPercent := none
  secondaryUsedPercent := none
  quotaSignalObservedAtMs := none
  capacityObservedAtMs := none
  upstreamTimeoutBlockedUntilMs := none
  observedResetAtMs := none
  observedResetAtIsStable := false
  bankedResetGenerationAmbiguous := false
  bankedResetRecoveryProbePending := false
  generation := 0
  probeLease := none

/-- Whether the slot has a circuit or a lease of the timeout fences that were given up. -/
def hasLegacyTimeoutCircuit (slot : CodexRoutingSlot) : Bool :=
  decide (slot.upstreamTimeoutBlockedUntilMs.getD 0 ≠ 0) ||
    slot.probeLease.any fun lease => decide (lease.circuit = .upstreamTimeout)

def withoutLegacyTimeoutCircuit (slot : CodexRoutingSlot) : CodexRoutingSlot :=
  if hasLegacyTimeoutCircuit slot = false then slot
  else { slot with
    upstreamTimeoutBlockedUntilMs := none
    probeLease := slot.probeLease.filter fun lease => decide (lease.circuit ≠ .upstreamTimeout)
    generation := slot.generation + 1 }

def preservesStableResetIdentity (slot : CodexRoutingSlot) : Bool :=
  slot.bankedResetGenerationAmbiguous ||
    (slot.observedResetAtMs.isSome && slot.observedResetAtIsStable)

/-- The latest of the blocks, the first of them if there are several. -/
def latestFrom (seed : CodexQuotaClassBlock) (blocks : List CodexQuotaClassBlock) :
    CodexQuotaClassBlock :=
  blocks.foldl (fun latest block =>
    if latest.blockedUntilMs < block.blockedUntilMs then block else latest) seed

def latestBlock : List CodexQuotaClassBlock → Option CodexQuotaClassBlock
  | [] => none
  | block :: blocks => some (latestFrom block blocks)

/-- The block that the summary of a slot stands for. -/
def legacyBlock (slot : CodexRoutingSlot) (blockedUntilMs : ℤ) (source : CodexQuotaBlockSource) :
    CodexQuotaClassBlock where
  blockedUntilMs := blockedUntilMs
  source := source
  legacyFallback := true
  quotaSignalObservedAtMs := slot.quotaSignalObservedAtMs
  observedResetAtMs := slot.observedResetAtMs
  observedResetAtIsStable := slot.observedResetAtIsStable
  bankedResetGenerationAmbiguous := slot.bankedResetGenerationAmbiguous
  bankedResetRecoveryProbePending := slot.bankedResetRecoveryProbePending

/-- The block whose reset identity a credential refresh preserves. -/
def preservedBlock (slot : CodexRoutingSlot) : Option CodexQuotaClassBlock :=
  match slot.observedResetAtMs, slot.quotaBlockSource with
  | some observedResetAtMs, some source =>
    some (latestFrom (legacyBlock slot (slot.quotaBlockedUntilMs.getD observedResetAtMs) source)
      slot.quotaBlocksByClass.values)
  | _, _ => latestBlock slot.quotaBlocksByClass.values

def rotateCredentialForSameAccount (slot : CodexRoutingSlot)
    (accountIdHash credentialVersion : String) : CodexRoutingSlot :=
  { slot with
    accountIdHash := some accountIdHash
    credentialVersion := credentialVersion
    quotaBlockedUntilMs := none
    quotaBlockSource := none
    quotaBlockedClasses := []
    quotaBlocksByClass := .empty
    invalidCredentialVersion := none
    primaryUsedPercent := none
    secondaryUsedPercent := none
    quotaSignalObservedAtMs := none
    capacityObservedAtMs := none
    observedResetAtMs := (preservedBlock slot).bind (·.observedResetAtMs)
    observedResetAtIsStable := (preservedBlock slot).any (·.observedResetAtIsStable)
    bankedResetGenerationAmbiguous := preservesStableResetIdentity slot ||
      (preservedBlock slot).any (·.bankedResetGenerationAmbiguous)
    bankedResetRecoveryProbePending := slot.bankedResetRecoveryProbePending ||
      (preservedBlock slot).any (·.bankedResetRecoveryProbePending)
    generation := slot.generation + 1
    -- a refresh does not end a probe that is under way
    probeLease := slot.probeLease.map fun lease =>
      { lease with generation := slot.generation + 1 } }

def attachLegacyAccountIdentity (slot : CodexRoutingSlot) (accountIdHash : String) :
    CodexRoutingSlot :=
  { slot with
    accountIdHash := some accountIdHash
    bankedResetGenerationAmbiguous := preservesStableResetIdentity slot }

/-! ### Normalization -/

/-- A slot of the normalized row, and the slot of the row that it is, if it is one. -/
structure NormalizedSlot where
  slot : CodexRoutingSlot
  origin : Option ℕ

/-- `takePrior`: the first slot that was not used yet and matches. -/
def takePrior (priorSlots : List CodexRoutingSlot) (usedPriorSlots : List ℕ)
    (predicate : CodexRoutingSlot → Bool) : Option (ℕ × CodexRoutingSlot) :=
  (priorSlots.zipIdx.find? fun entry => !usedPriorSlots.contains entry.2 && predicate entry.1).map
    fun entry => (entry.2, entry.1)

/-- The slot at the index of the identity, if it is the one of the identity. -/
def directPrior (priorSlots : List CodexRoutingSlot) (usedPriorSlots : List ℕ) (index : ℕ)
    (identity : CodexRoutingIdentity) : Option (ℕ × CodexRoutingSlot) :=
  (priorSlots[index]?.filter fun direct => !usedPriorSlots.contains index &&
    (decide (direct.accountIdHash = some identity.accountIdHash) ||
      (direct.accountIdHash.isNone &&
        decide (direct.credentialVersion = identity.credentialVersion)))).map fun direct =>
          (index, direct)

/-- The slot of the row that belongs to an identity. -/
def priorFor (priorSlots : List CodexRoutingSlot) (usedPriorSlots : List ℕ) (index : ℕ)
    (identity : CodexRoutingIdentity) : Option (ℕ × CodexRoutingSlot) :=
  ((directPrior priorSlots usedPriorSlots index identity).or
    (takePrior priorSlots usedPriorSlots fun slot =>
      decide (slot.accountIdHash = some identity.accountIdHash))).or
    -- the version is the only safe way to attach an account to a slot without one
    (takePrior priorSlots usedPriorSlots fun slot => slot.accountIdHash.isNone &&
      decide (slot.credentialVersion = identity.credentialVersion))

/-- The slot of an identity that has the slot `prior` of the row. -/
def normalizedFrom (prior : CodexRoutingSlot) (index : ℕ) (identity : CodexRoutingIdentity)
    (discardLegacyTimeoutCircuit : Bool) : NormalizedSlot :=
  let discarded :=
    if discardLegacyTimeoutCircuit = true then withoutLegacyTimeoutCircuit prior else prior
  if discarded.credentialVersion = identity.credentialVersion then
    if discarded.accountIdHash = some identity.accountIdHash then
      ⟨withoutLegacyTimeoutCircuit discarded,
        if hasLegacyTimeoutCircuit prior = true then none else some index⟩
    else
      ⟨withoutLegacyTimeoutCircuit (attachLegacyAccountIdentity discarded identity.accountIdHash),
        none⟩
  else
    ⟨withoutLegacyTimeoutCircuit (rotateCredentialForSameAccount discarded identity.accountIdHash
      identity.credentialVersion), none⟩

/-- The slots of the identities from the given index on, and the slots that they use. -/
def normalizeSlots (priorSlots : List CodexRoutingSlot) (discardLegacyTimeoutCircuit : Bool) :
    ℕ → List ℕ → List CodexRoutingIdentity → List NormalizedSlot × List ℕ
  | _, usedPriorSlots, [] => ([], usedPriorSlots)
  | index, usedPriorSlots, identity :: identities =>
    match priorFor priorSlots usedPriorSlots index identity with
    | none =>
      let rest := normalizeSlots priorSlots discardLegacyTimeoutCircuit (index + 1) usedPriorSlots
        identities
      (⟨neutralSlot identity.credentialVersion (some identity.accountIdHash), none⟩ :: rest.1,
        rest.2)
    | some (priorIndex, prior) =>
      let rest := normalizeSlots priorSlots discardLegacyTimeoutCircuit (index + 1)
        (priorIndex :: usedPriorSlots) identities
      (normalizedFrom prior priorIndex identity discardLegacyTimeoutCircuit :: rest.1, rest.2)

/-- The normalized row, with the origin of each slot. -/
structure NormalizedRouting where
  state : CodexAccountRoutingState
  origins : List (Option ℕ)

/-- `normalizeRoutingState` -/
def normalizeRouting (raw : Option CodexAccountRoutingState)
    (identities : List CodexRoutingIdentity)
    (now : ℤ) (discardLegacyTimeoutCircuit : Bool) : NormalizedRouting :=
  let priorSlots := (raw.map (·.slots)).getD []
  let normalized := normalizeSlots priorSlots discardLegacyTimeoutCircuit 0 [] identities
  -- an identity that cannot be attached to an account fences every claim
  let legacyIdentityUnresolved := raw.any (·.bankedResetLegacyIdentityUnresolved) ||
    priorSlots.zipIdx.any fun entry => !normalized.2.contains entry.2 &&
      isLegacyStableResetIdentity entry.1
  ⟨⟨now, legacyIdentityUnresolved, normalized.1.map (·.slot)⟩, normalized.1.map (·.origin)⟩

/-- `normalizeRoutingState`, without the origins. -/
def normalizeRoutingState (raw : Option CodexAccountRoutingState)
    (identities : List CodexRoutingIdentity) (now : ℤ) (discardLegacyTimeoutCircuit : Bool) :
    CodexAccountRoutingState :=
  (normalizeRouting raw identities now discardLegacyTimeoutCircuit).state

/-- `routingStateChangedByNormalization` of `native-codex-evaluation.ts` -/
def routingStateChangedByNormalization (durable : Option CodexAccountRoutingState)
    (normalized : NormalizedRouting) : Bool :=
  match durable with
  | none => true
  | some durable =>
    decide (durable.bankedResetLegacyIdentityUnresolved
        ≠ normalized.state.bankedResetLegacyIdentityUnresolved) ||
      decide (durable.slots.length ≠ normalized.state.slots.length) ||
      durable.slots.zipIdx.any fun entry =>
        decide (normalized.origins[entry.2]? ≠ some (some entry.2))

/-! ### The slot of an account -/

def slotFor (state : CodexAccountRoutingState) (account : CodexRoutingAccount) : CodexRoutingSlot :=
  state.slots[account.slot]?.getD
    (neutralSlot account.credentialVersion (some account.accountIdHash))

def slotMatchesCodexRoutingAccount (slot : CodexRoutingSlot) (account : CodexRoutingAccount) :
    Bool :=
  decide (slot.credentialVersion = account.credentialVersion) &&
    (decide (slot.accountIdHash = some account.accountIdHash) || slot.accountIdHash.isNone)

def routingProbeCircuit (account : CodexRoutingAccount) : CodexProbeCircuit :=
  account.probeCircuit.getD .quota

def withSlot (state : CodexAccountRoutingState) (index : ℕ) (slot : CodexRoutingSlot)
    (updatedAtMs : ℤ) : CodexAccountRoutingState :=
  { state with
    updatedAtMs := updatedAtMs
    slots := (state.slots ++ List.replicate (index + 1 - state.slots.length)
      (neutralSlot slot.credentialVersion slot.accountIdHash)).set index slot }

/-! ### Quota classes -/

/-- The characters that `trim` removes. -/
def isTrimmed (c : Char) : Bool :=
  decide (0x9 ≤ c.toNat ∧ c.toNat ≤ 0xd) || decide (0x2000 ≤ c.toNat ∧ c.toNat ≤ 0x200a) ||
    [0x20, 0xa0, 0x1680, 0x2028, 0x2029, 0x202f, 0x205f, 0x3000, 0xfeff].contains c.toNat

def trim (value : List Char) : List Char :=
  ((value.dropWhile isTrimmed).reverse.dropWhile isTrimmed).reverse

/-- `toLowerCase`, up to characters that are neither ASCII nor become so: only the Kelvin sign and
the dotted capital I do. -/
def toLowerCase (value : List Char) : List Char :=
  value.flatMap fun c =>
    if c.toNat = 0x212a then ['k']
    else if c.toNat = 0x130 then ['i', Char.ofNat 0x307]
    else [c.toLower]

def normalizeQuotaLabel (value : List Char) : List Char :=
  (toLowerCase value).filter fun c => decide ('a' ≤ c ∧ c ≤ 'z') || decide ('0' ≤ c ∧ c ≤ '9')

def quotaClass (model : Option String) : CodexQuotaClass :=
  let normalized := toLowerCase (trim (model.getD "").toList)
  if normalized = "gpt-5.3-codex-spark".toList then .spark
  else if normalized = "gpt-oss-120b".toList then .gptOss120b
  else if normalizeQuotaLabel normalized = "gptreserve".toList then .reserve
  else if normalized = [] then .unknown
  else .standard

def probeLeaseMatchesCodexRoutingAccount (slot : CodexRoutingSlot) (account : CodexRoutingAccount) :
    Bool :=
  slot.probeLease.any fun lease =>
    decide (some slot.generation = account.probeGeneration ∧
      some lease.generation = account.probeGeneration ∧ some lease.token = account.probeToken ∧
      lease.circuit = routingProbeCircuit account ∧
      (routingProbeCircuit account = .quota → lease.quotaClass = none ∨
        lease.quotaClass = some (quotaClass account.requestedModel)))

/-- The block that the summary of a slot without blocks stands for, if it stands for the class. -/
def legacyBlockForClass (slot : CodexRoutingSlot) (quotaClassKey : CodexQuotaClass) :
    Option CodexQuotaClassBlock :=
  match slot.quotaBlockedUntilMs, slot.quotaBlockSource with
  | some blockedUntilMs, some source =>
    if slot.quotaBlocksByClass.entries = [] ∧ (slot.quotaBlockedClasses = [] ∨
        quotaClassKey = .unknown ∨ "unknown" ∈ slot.quotaBlockedClasses ∨
        quotaClassKey.key ∈ slot.quotaBlockedClasses) then
      some (legacyBlock slot blockedUntilMs source)
    else none
  | _, _ => none

def quotaBlockForClass (slot : CodexRoutingSlot) (quotaClassKey : CodexQuotaClass) :
    Option CodexQuotaClassBlock :=
  latestBlock ((slot.quotaBlocksByClass.lookup quotaClassKey).toList ++
    (if quotaClassKey = .unknown then none else slot.quotaBlocksByClass.lookup .unknown).toList ++
    (legacyBlockForClass slot quotaClassKey).toList)

/-- The classes that the summary of a slot names. -/
def legacyClasses (slot : CodexRoutingSlot) : List CodexQuotaClass :=
  slot.quotaBlockedClasses.filterMap quotaClassOfKey

def quotaBlocksIncludingLegacy (slot : CodexRoutingSlot) : QuotaBlocks :=
  match slot.quotaBlockedUntilMs, slot.quotaBlockSource with
  | some blockedUntilMs, some source =>
    -- a deadline without a class is copied to all of them
    (if legacyClasses slot = [] then quotaClassKeys else legacyClasses slot).foldl
      (fun blocks quotaClassKey =>
        if (blocks.lookup quotaClassKey).isSome = true then blocks
        else blocks.insert quotaClassKey (legacyBlock slot blockedUntilMs source))
      slot.quotaBlocksByClass
  | _, _ => slot.quotaBlocksByClass

/-- The keys of the blocks, in their order. -/
def blockKeys (blocks : QuotaBlocks) : List String := blocks.entries.map fun e => e.1.key

def withLegacyQuotaClassMap (slot : CodexRoutingSlot) : CodexRoutingSlot :=
  if (quotaBlocksIncludingLegacy slot).entries = [] then slot
  else { slot with
    quotaBlocksByClass := quotaBlocksIncludingLegacy slot
    quotaBlockedClasses := blockKeys (quotaBlocksIncludingLegacy slot) }

/-- `quotaBlocksForClass`; whether a block occurs twice does not matter to its only caller. -/
def quotaBlocksForClass (slot : CodexRoutingSlot) (quotaClassKey : CodexQuotaClass) :
    List CodexQuotaClassBlock :=
  ((withLegacyQuotaClassMap slot).quotaBlocksByClass.lookup quotaClassKey).toList ++
    (if quotaClassKey = .unknown then none
      else (withLegacyQuotaClassMap slot).quotaBlocksByClass.lookup .unknown).toList

/-- The greatest of the numbers. -/
def maximum? : List ℤ → Option ℤ
  | [] => none
  | n :: ns => some (ns.foldl max n)

def quotaSignalObservedAtForClass (slot : CodexRoutingSlot) (quotaClassKey : CodexQuotaClass) :
    Option ℤ :=
  (maximum? ((quotaBlocksForClass slot quotaClassKey).filterMap fun block =>
    block.quotaSignalObservedAtMs.or slot.quotaSignalObservedAtMs)).or slot.quotaSignalObservedAtMs

/-- `quotaBlockKeyForClass`.  The source compares blocks by identity; the block of the class and the
one of the class `unknown` are different here, since the later of them was chosen. -/
def quotaBlockKeyForClass (slot : CodexRoutingSlot) (quotaClassKey : CodexQuotaClass) :
    Option CodexQuotaClass :=
  (quotaBlockForClass slot quotaClassKey).bind fun block =>
    if slot.quotaBlocksByClass.lookup quotaClassKey = some block then some quotaClassKey
    else if quotaClassKey ≠ .unknown ∧ slot.quotaBlocksByClass.lookup .unknown = some block ∧
        block.legacyFallback = true then some .unknown
    else none

/-- The blocks that are left when a class is released; a copy of the summary goes with it. -/
def blocksWithout (blocks : QuotaBlocks) (quotaClassKey : CodexQuotaClass) : QuotaBlocks :=
  if quotaClassKey ≠ .unknown ∧ (blocks.lookup .unknown).any (·.legacyFallback) = true then
    (blocks.erase quotaClassKey).erase .unknown
  else blocks.erase quotaClassKey

def withoutQuotaClass (slot : CodexRoutingSlot) (quotaClassKey : CodexQuotaClass) :
    CodexRoutingSlot :=
  let quotaBlocksByClass := blocksWithout slot.quotaBlocksByClass quotaClassKey
  let remaining := quotaBlocksByClass.values
  let latest := latestBlock remaining
  { slot with
    quotaBlocksByClass := quotaBlocksByClass
    quotaBlockedClasses := blockKeys quotaBlocksByClass
    quotaBlockedUntilMs := latest.map (·.blockedUntilMs)
    quotaBlockSource := latest.map (·.source)
    quotaSignalObservedAtMs :=
      (maximum? (remaining.filterMap (·.quotaSignalObservedAtMs))).or slot.quotaSignalObservedAtMs
    observedResetAtMs := latest.bind (·.observedResetAtMs)
    observedResetAtIsStable := latest.any (·.observedResetAtIsStable)
    bankedResetGenerationAmbiguous := remaining.any (·.bankedResetGenerationAmbiguous)
    bankedResetRecoveryProbePending := remaining.any (·.bankedResetRecoveryProbePending) }

/-- The slot without the block that holds back the class. -/
def withoutRequestedClass (slot : CodexRoutingSlot) (quotaClassKey : CodexQuotaClass) :
    CodexRoutingSlot :=
  withoutQuotaClass (withLegacyQuotaClassMap slot)
    ((quotaBlockKeyForClass (withLegacyQuotaClassMap slot) quotaClassKey).getD quotaClassKey)

def recheckQuotaClasses (slot : CodexRoutingSlot) (recheckAtMs : ℤ) : CodexRoutingSlot :=
  if slot.quotaBlocksByClass.entries = [] then
    { slot with
      quotaBlockedUntilMs := slot.quotaBlockedUntilMs.map fun _ => recheckAtMs
      bankedResetGenerationAmbiguous := slot.quotaBlockedUntilMs.isSome ||
        slot.bankedResetGenerationAmbiguous }
  else
    let quotaBlocksByClass := slot.quotaBlocksByClass.mapValues fun block =>
      { block with
        blockedUntilMs := recheckAtMs
        quotaSignalObservedAtMs := some recheckAtMs
        bankedResetGenerationAmbiguous := true }
    let latest := latestBlock quotaBlocksByClass.values
    { slot with
      quotaBlockedUntilMs := (latest.map (·.blockedUntilMs)).or
        (if slot.quotaBlockedUntilMs.getD 0 ≠ 0 then some recheckAtMs else none)
      quotaBlockSource := (latest.map (·.source)).or slot.quotaBlockSource
      quotaBlockedClasses := blockKeys quotaBlocksByClass
      quotaBlocksByClass := quotaBlocksByClass
      observedResetAtMs := (latest.bind (·.observedResetAtMs)).or slot.observedResetAtMs
      observedResetAtIsStable := latest.elim slot.observedResetAtIsStable
        (·.observedResetAtIsStable) }

def releaseQuotaClassProbe (slot : CodexRoutingSlot) (quotaClassKey : CodexQuotaClass) :
    CodexRoutingSlot :=
  let classAwareSlot := withLegacyQuotaClassMap slot
  let block := quotaBlockForClass classAwareSlot quotaClassKey
  let released := withoutRequestedClass slot quotaClassKey
  if classAwareSlot.bankedResetRecoveryProbePending = false then released
  else { released with
    observedResetAtMs := (block.bind (·.observedResetAtMs)).or slot.observedResetAtMs
    observedResetAtIsStable := block.elim slot.observedResetAtIsStable (·.observedResetAtIsStable)
    bankedResetGenerationAmbiguous := true }

/-! ### Capacity -/

/-- The headroom that the used percentages leave. -/
def headroomOf (used : List ℚ) : Option ℚ :=
  match used with
  | [] => none
  | value :: values =>
    some (max 0 (values.foldl (fun least v => min least (100 - v)) (100 - value)))

def quotaHeadroomFor (slot : CodexRoutingSlot) : Option ℚ :=
  headroomOf (slot.primaryUsedPercent.toList ++ slot.secondaryUsedPercent.toList)

def capacityHeadroomForWindows (windows : CodexCapacityWindows) : Option ℚ :=
  headroomOf ((windows.primary.bind (·.usedPercent)).toList ++
    (windows.secondary.bind (·.usedPercent)).toList)

def capacityHeadroomForObservation (observation : CodexCapacityRoutingObservation)
    (model : Option String) : Option ℚ :=
  let modelKey := normalizeQuotaLabel (model.getD "").toList
  let modelLimits := observation.additionalRateLimits.filter fun limit =>
    decide (normalizeQuotaLabel limit.limitName.toList = modelKey)
  if modelKey = [] ∨ modelLimits = [] then capacityHeadroomForWindows observation.windows
  else match modelLimits.filterMap fun limit => capacityHeadroomForWindows limit.windows with
  | [] => none
  | headroom :: headrooms => some (headrooms.foldl max headroom)

def capacityHasAnyPositiveHeadroom (observation : CodexCapacityRoutingObservation)
    (model : Option String) : Bool :=
  decide (observation.state = .available) &&
    (capacityHeadroomForObservation observation model).any fun headroom => decide (0 < headroom)

/-- `isSafeMs`, for a number that is an integer. -/
def isSafeMs (value : ℤ) : Bool := decide (0 ≤ value) && isSafeInteger value

def capacityObservationIsFresh (observation : CodexCapacityRoutingObservation) (now : ℤ) : Bool :=
  decide (observation.state = .available) && isSafeMs observation.snapshotAtMs &&
    decide (observation.snapshotAtMs ≤ now) &&
    decide (now - observation.snapshotAtMs ≤ capacityRoutingMaxAgeMs)

def capacityState (value : Option Json) : Option CapacityState :=
  match Json.string? value with
  | some "available" => some .available
  | some "stale" => some .stale
  | some "unavailable" => some .unavailable
  | _ => none

def normalizeCapacityWindow (value : Option Json) : Option CodexCapacityRoutingWindow :=
  (value.filter Json.isRecord).map fun value =>
    ⟨Json.safeNonNegative? (value.get "limit_window_seconds"),
      (Json.number? (value.get "used_percent")).filter fun q => decide (0 ≤ q ∧ q ≤ 100),
      Json.safeNonNegative? (value.get "reset_at_ms")⟩

/-- The two windows of a limit. -/
def parseCapacityWindows (windows : Json) : CodexCapacityWindows :=
  ⟨normalizeCapacityWindow (windows.get "primary"),
    normalizeCapacityWindow (windows.get "secondary")⟩

/-- The metered feature of a limit; `none` marks a value that is not recognized. -/
def parseMeteredFeature : Option Json → Option (Option String)
  | none | some .null => some none
  | some (.str feature) =>
    let trimmed := trim feature.toList
    some (if trimmed = [] then none else some (String.ofList trimmed))
  | _ => none

def normalizeCapacityAdditionalRateLimit (value : Json) :
    Option CodexCapacityRoutingAdditionalRateLimit := do
  let limitName ← (Json.string? (value.get "limit_name")).map fun name => trim name.toList
  if limitName = [] then none
  else
    let windows ← (value.get "windows").filter Json.isRecord
    let meteredFeature ← parseMeteredFeature (value.get "metered_feature")
    return ⟨String.ofList limitName, meteredFeature, parseCapacityWindows windows⟩

def parseStoredCapacityObservation (value : Json) : Option CodexCapacityRoutingObservation := do
  let slot ← (Json.safeInteger? (value.get "slot")).filter fun n => decide (0 ≤ n ∧ n ≤ 1)
  let accountIdHash ← parseAccountIdHash (value.get "account_id_hash")
  let state ← capacityState (value.get "state")
  let snapshotAtMs ← Json.safeNonNegative? (value.get "snapshot_at_ms")
  let windows ← (value.get "windows").filter Json.isRecord
  return {
    slot := slot.toNat
    accountIdHash := accountIdHash
    state := state
    sourceObservedAtMs := Json.safeNonNegative? (value.get "source_observed_at_ms")
    snapshotAtMs := snapshotAtMs
    windows := parseCapacityWindows windows
    additionalRateLimits := ((Json.items? (value.get "additional_rate_limits")).getD []).filterMap
      normalizeCapacityAdditionalRateLimit }

def parseStoredCapacityObservationStore (value : Option Json) :
    List CodexCapacityRoutingObservation :=
  match value with
  | none => []
  | some value =>
    if Json.number? (value.get "v") ≠ some 1 then []
    else ((Json.items? (value.get "observations")).getD []).filterMap parseStoredCapacityObservation

def capacityObservedSlot (current capacityClearedSlot : CodexRoutingSlot)
    (observation : CodexCapacityRoutingObservation) (clearCircuit : Bool) : CodexRoutingSlot :=
  let observed := { capacityClearedSlot with
    primaryUsedPercent := observation.windows.primary.bind (·.usedPercent)
    secondaryUsedPercent := observation.windows.secondary.bind (·.usedPercent)
    capacityObservedAtMs := some observation.snapshotAtMs }
  if clearCircuit = false then observed
  else
    let cleared := { observed with accountIdHash := some observation.accountIdHash }
    if (current.bankedResetGenerationAmbiguous || current.bankedResetRecoveryProbePending ||
        current.probeLease.isSome) = true then
      { cleared with
        observedResetAtMs := current.observedResetAtMs
        observedResetAtIsStable := current.observedResetAtIsStable
        bankedResetGenerationAmbiguous := current.bankedResetGenerationAmbiguous
        bankedResetRecoveryProbePending := current.bankedResetRecoveryProbePending
        probeLease := current.probeLease }
    else if capacityClearedSlot.quotaBlocksByClass.entries ≠ [] then cleared
    else
      { cleared with
        observedResetAtMs := none
        observedResetAtIsStable := false
        bankedResetGenerationAmbiguous := false
        bankedResetRecoveryProbePending := false
        generation := current.generation + 1
        probeLease := none }

/-- A slot with new blocks, and the summary of them. -/
def withBlocks (slot : CodexRoutingSlot) (quotaBlocksByClass : QuotaBlocks)
    (latest : CodexQuotaClassBlock) : CodexRoutingSlot :=
  { slot with
    quotaBlockedUntilMs := some latest.blockedUntilMs
    quotaBlockSource := some latest.source
    quotaBlockedClasses := blockKeys quotaBlocksByClass
    quotaBlocksByClass := quotaBlocksByClass
    observedResetAtMs := latest.observedResetAtMs
    observedResetAtIsStable := latest.observedResetAtIsStable
    bankedResetGenerationAmbiguous :=
      quotaBlocksByClass.values.any (·.bankedResetGenerationAmbiguous)
    bankedResetRecoveryProbePending :=
      quotaBlocksByClass.values.any (·.bankedResetRecoveryProbePending) }

/-- The block that an exhausted capacity observation proves. -/
def capacityBlock (observation : CodexCapacityRoutingObservation) (resetAtMs : ℤ)
    (recoveryProbePending : Bool) : CodexQuotaClassBlock where
  blockedUntilMs := resetAtMs
  source := .headerRetryAfter
  legacyFallback := false
  quotaSignalObservedAtMs := some observation.snapshotAtMs
  observedResetAtMs := some resetAtMs
  observedResetAtIsStable := true
  bankedResetGenerationAmbiguous := false
  bankedResetRecoveryProbePending := recoveryProbePending

/-- The reset time of an observation that proves the requested class of the account empty. -/
def exhaustedUntil (account : CodexRoutingAccount) (observation : CodexCapacityRoutingObservation)
    (now : ℤ) : Option ℤ :=
  if capacityObservationIsFresh observation now = true ∧ observation.slot = account.slot ∧
      observation.accountIdHash = account.accountIdHash ∧
      capacityHeadroomForObservation observation account.requestedModel = some 0 then
    (observation.windows.primary.bind (·.resetAtMs)).filter fun resetAtMs =>
      isSafeMs resetAtMs && decide (now < resetAtMs)
  else none

/-- The slot with the block of an exhausted capacity observation. -/
def capacityBlockedSlot (current : CodexRoutingSlot) (account : CodexRoutingAccount)
    (observation : CodexCapacityRoutingObservation) (nextBlock : CodexQuotaClassBlock) :
    CodexRoutingSlot :=
  let quotaBlocksByClass :=
    (quotaBlocksIncludingLegacy current).insert (quotaClass account.requestedModel) nextBlock
  { withBlocks current quotaBlocksByClass (latestFrom nextBlock quotaBlocksByClass.values) with
    accountIdHash := some account.accountIdHash
    quotaSignalObservedAtMs := some ((maximum? (quotaBlocksByClass.values.filterMap
      (·.quotaSignalObservedAtMs))).getD observation.snapshotAtMs)
    generation := current.generation + 1 }

def applyCapacityQuotaBlock (state : CodexAccountRoutingState) (account : CodexRoutingAccount)
    (observation : CodexCapacityRoutingObservation) (now updatedAtMs : ℤ) :
    Option CodexAccountRoutingState := do
  let resetAtMs ← exhaustedUntil account observation now
  let current := slotFor state account
  let requestedQuotaClass := quotaClass account.requestedModel
  let classAwareCurrent := withLegacyQuotaClassMap current
  let priorBlock := quotaBlockForClass classAwareCurrent requestedQuotaClass
  let recoveryProbePending := current.bankedResetRecoveryProbePending ||
    priorBlock.any (·.bankedResetRecoveryProbePending)
  let nextBlock := capacityBlock observation resetAtMs recoveryProbePending
  if slotMatchesCodexRoutingAccount current account = false ∨ current.probeLease.isSome = true ∨
      -- a request that reached the provider after the sample is authoritative
      (quotaSignalObservedAtForClass classAwareCurrent requestedQuotaClass).any
        (fun observedAtMs => decide (observation.snapshotAtMs < observedAtMs)) = true ∨
      priorBlock.any (fun prior => decide (prior.blockedUntilMs = nextBlock.blockedUntilMs ∧
        prior.source = nextBlock.source ∧ prior.observedResetAtMs = nextBlock.observedResetAtMs ∧
        prior.observedResetAtIsStable = true ∧ prior.bankedResetGenerationAmbiguous = false ∧
        prior.bankedResetRecoveryProbePending = recoveryProbePending)) = true then none
  else
    return { state with
      updatedAtMs := updatedAtMs
      slots := state.slots.set account.slot
        (capacityBlockedSlot current account observation nextBlock) }

/-- Whether an observation clears the circuit of the class of the model. -/
def capacityClears (current : CodexRoutingSlot) (observation : CodexCapacityRoutingObservation)
    (now : ℤ) (model : Option String) : Bool :=
  capacityObservationIsFresh observation now && capacityHasAnyPositiveHeadroom observation model &&
    !(quotaSignalObservedAtForClass (withLegacyQuotaClassMap current) (quotaClass model)).any
      fun observedAtMs => decide (observation.snapshotAtMs ≤ observedAtMs)

/-- `applyCapacityObservation`.  A circuit that is cleared is a new object and so a change. -/
def applyCapacityObservation (state : CodexAccountRoutingState)
    (observation : CodexCapacityRoutingObservation) (now : ℤ) (model : Option String)
    (updatedAtMs : ℤ) : Option CodexAccountRoutingState := do
  let current ← state.slots[observation.slot]?
  if now < observation.snapshotAtMs ∨
      current.accountIdHash ≠ some observation.accountIdHash ∨
      current.capacityObservedAtMs.any (fun observedAtMs =>
        decide (observation.snapshotAtMs < observedAtMs)) = true then none
  else
    let clearCircuit := capacityClears current observation now model
    let capacityClearedSlot :=
      if clearCircuit = true then withoutRequestedClass current (quotaClass model) else current
    let nextSlot := capacityObservedSlot current capacityClearedSlot observation clearCircuit
    if clearCircuit = true ∨ nextSlot ≠ current then
      return withSlot state observation.slot nextSlot updatedAtMs
    else none

end UbqGateway.Codex
