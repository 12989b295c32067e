import UbqGateway.Codex.Capacity

/-!
# Selecting an account

`evaluateCodexRoutingAccount` of `src/authority/native-codex-evaluation.ts` says what an account can
do for a request, `selectCodex` of `src/authority/native-codex.ts` keeps or moves the active account
by it, and `_fallbackAllowed` of `src/authority/native-authority-paid.ts` is the gate of the paid
providers.

What counts as exhausted is a block of the class that is running, or a fresh observation that proves
the class empty until a time to come; whether the account is leased as well makes no difference.

The JSON of the pool and of the capacity row, which a selection carries along, is left out.
-/

namespace UbqGateway.Codex

open Json (isSafeInteger)

/-! ### The evaluation of an account -/

structure CodexRoutingAccountEvaluation where
  account : CodexRoutingAccount
  routedAccount : Option CodexRoutingAccount
  skippedSlot : Option ℕ
  blockedCircuit : Option CodexProbeCircuit
  retryAtMs : Option ℤ
  blockedAccount : Option CodexBlockedAccountMetadata
  activeTransitionReason : Option CodexActiveAccountTransitionReason
  capacityExhausted : Bool
  modelUnavailable : Option ModelUnavailable

def skippedRoutingAccount (account : CodexRoutingAccount) (slotNumber : ℕ)
    (blockedCircuit : Option CodexProbeCircuit) (retryAtMs : Option ℤ)
    (blockedAccount : Option CodexBlockedAccountMetadata)
    (activeTransitionReason : Option CodexActiveAccountTransitionReason) :
    CodexRoutingAccountEvaluation :=
  ⟨account, none, some slotNumber, blockedCircuit, retryAtMs, blockedAccount,
    activeTransitionReason,
    false, none⟩

def routedRoutingAccount (routedAccount : CodexRoutingAccount) : CodexRoutingAccountEvaluation :=
  ⟨routedAccount, some routedAccount, none, none, none, none, none, false, none⟩

structure CodexCapacityDecision where
  quotaHeadroom : Option ℚ
  capacityOverride : Bool
  capacityExhausted : Bool

def freshCapacityObservation (observation : Option CodexCapacityRoutingObservation) (now : ℤ) :
    Option CodexCapacityRoutingObservation :=
  observation.filter fun observation => capacityObservationIsFresh observation now

def resolveCodexCapacityDecision (slot classAwareSlot : CodexRoutingSlot)
    (requestedQuotaClass : CodexQuotaClass) (observation : Option CodexCapacityRoutingObservation)
    (model : Option String) (now : ℤ) : CodexCapacityDecision :=
  let freshObservation := freshCapacityObservation observation now
  let headroom := freshObservation.bind fun observation =>
    capacityHeadroomForObservation observation model
  let quotaSignalNewer := freshObservation.any fun observation =>
    (quotaSignalObservedAtForClass classAwareSlot requestedQuotaClass).any fun observedAtMs =>
      decide (observation.snapshotAtMs ≤ observedAtMs)
  ⟨if freshObservation.isNone = true then quotaHeadroomFor slot else headroom,
    headroom.any (fun headroom => decide (0 < headroom)) && !quotaSignalNewer,
    decide (headroom = some 0) && !quotaSignalNewer⟩

/-- The time to retry at, and the account with its reset identity. -/
def quotaBlockedSkipFor (requestedClassBlock : Option CodexQuotaClassBlock)
    (routedAccount : CodexRoutingAccount) (now : ℤ) (capacityOverride : Bool) :
    Option (ℤ × Option CodexBlockedAccountMetadata) :=
  (requestedClassBlock.filter fun block =>
    decide (now < block.blockedUntilMs) && !capacityOverride).map fun block =>
      (block.blockedUntilMs, (block.observedResetAtMs.filter fun _ =>
        block.observedResetAtIsStable).map fun resetAtMs => ⟨routedAccount, resetAtMs⟩)

def probeLeaseSkipFor (slot : CodexRoutingSlot) (requestedQuotaClass : CodexQuotaClass) (now : ℤ) :
    Option (CodexProbeCircuit × ℤ) :=
  (slot.probeLease.filter fun lease => decide (now < lease.expiresAtMs ∧
    lease.circuit ≠ .upstreamTimeout ∧
    (lease.quotaClass = none ∨ lease.quotaClass = some requestedQuotaClass))).map fun lease =>
      (lease.circuit, lease.expiresAtMs)

def CodexRoutingIdentity.account (mapped : CodexRoutingIdentity) (model : Option String) :
    CodexRoutingAccount :=
  ⟨mapped.slot, mapped.accountIdHash, mapped.credentialVersion, none, false, none, none, none,
    false, none,
    none, none, none, model⟩

/-- The slot of an identity in a normalized row. -/
def slotOfIdentity (state : CodexAccountRoutingState) (mapped : CodexRoutingIdentity)
    (model : Option String) : CodexRoutingSlot :=
  let account := mapped.account model
  if slotMatchesCodexRoutingAccount (slotFor state account) account =
    true then slotFor state account
  else neutralSlot account.credentialVersion (some account.accountIdHash)

/-- When an account that a fresh observation proves empty may be used again. -/
def observationResetAt (observation : Option CodexCapacityRoutingObservation) (now : ℤ) :
    Option ℤ :=
  ((freshCapacityObservation observation now).bind fun observation =>
    observation.windows.primary.bind (·.resetAtMs)).filter fun resetAtMs =>
      isSafeInteger resetAtMs && decide (now < resetAtMs)

/-- An account that is empty: overage serves it, a reset to come blocks it, or a probe looks
again. -/
def evaluateExhausted (mapped : CodexRoutingIdentity) (routedAccount : CodexRoutingAccount)
    (resetAtMs : Option ℤ) (policy : CodexRoutingAccountPolicy) : CodexRoutingAccountEvaluation :=
  if policy.overageUsageAllowed = true then
    { routedRoutingAccount { routedAccount with probeRequired := false, probeCircuit := none } with
      capacityExhausted := true }
  else match resetAtMs with
  | some resetAtMs =>
    { skippedRoutingAccount routedAccount (mapped.slot + 1) (some .quota) (some resetAtMs)
        (some ⟨routedAccount, resetAtMs⟩) (some .quotaExhausted) with capacityExhausted := true }
  | none =>
    { routedRoutingAccount { routedAccount with probeRequired := true, probeCircuit := some .quota }
      with
      capacityExhausted := true }

def evaluateCodexRoutingAccount (state : CodexAccountRoutingState) (mapped : CodexRoutingIdentity)
    (model : Option String) (observation : Option CodexCapacityRoutingObservation) (now : ℤ)
    (policy : CodexRoutingAccountPolicy) : CodexRoutingAccountEvaluation :=
  let slot := slotOfIdentity state mapped model
  let classAwareSlot := withLegacyQuotaClassMap slot
  let requestedClassBlock := quotaBlockForClass classAwareSlot (quotaClass model)
  let capacity := resolveCodexCapacityDecision slot classAwareSlot
    (quotaClass model) observation model now
  let routedAccount := { mapped.account model with
    quotaHeadroom := capacity.quotaHeadroom
    routingGeneration := some slot.generation }
  if slot.invalidCredentialVersion = some mapped.credentialVersion then
    skippedRoutingAccount routedAccount (mapped.slot + 1) none none none (some .credentialInvalid)
  else match model.bind fun model => policy.modelUnavailable.map fun detail => ⟨model, detail⟩ with
  | some unavailable =>
    { skippedRoutingAccount routedAccount (mapped.slot + 1) none none none (some .modelUnavailable)
      with
      modelUnavailable := some unavailable }
  | none =>
  match quotaBlockedSkipFor requestedClassBlock routedAccount now capacity.capacityOverride with
  | some (retryAtMs, blockedAccount) =>
    skippedRoutingAccount routedAccount (mapped.slot + 1) (some .quota)
      (some retryAtMs) blockedAccount
      (some .quotaExhausted)
  | none =>
  if capacity.capacityExhausted = true then
    evaluateExhausted mapped routedAccount (observationResetAt observation now) policy
  else match probeLeaseSkipFor slot (quotaClass model) now with
  | some (circuit, retryAtMs) =>
    skippedRoutingAccount routedAccount (mapped.slot + 1) (some circuit) (some retryAtMs) none none
  | none =>
    if requestedClassBlock.isSome = true then
      routedRoutingAccount { routedAccount with
        probeRequired := !capacity.capacityOverride
        probeCircuit := if capacity.capacityOverride = true then none else some .quota }
    else routedRoutingAccount routedAccount

/-! ### The verdict over the accounts -/

structure CodexRoutingAccumulator where
  available : List CodexRoutingAccount
  blockedAccounts : List CodexBlockedAccountMetadata
  skipped : List ℕ
  retryAt : Option ℤ
  hasQuotaBlock : Bool
  hasUpstreamTimeoutBlock : Bool
  modelUnavailable : Option ModelUnavailable

def foldCodexRoutingEvaluation (accumulator : CodexRoutingAccumulator)
    (evaluated : CodexRoutingAccountEvaluation) : CodexRoutingAccumulator :=
  match evaluated.routedAccount with
  | some routed => { accumulator with available := accumulator.available ++ [routed] }
  | none =>
    { accumulator with
      skipped := accumulator.skipped ++ evaluated.skippedSlot.toList
      hasUpstreamTimeoutBlock := accumulator.hasUpstreamTimeoutBlock ||
        decide (evaluated.blockedCircuit = some .upstreamTimeout)
      hasQuotaBlock := accumulator.hasQuotaBlock || decide (evaluated.blockedCircuit = some .quota)
      modelUnavailable := accumulator.modelUnavailable.or evaluated.modelUnavailable
      retryAt := match accumulator.retryAt, evaluated.retryAtMs with
        | some retryAt, some retryAtMs => some (min retryAt retryAtMs)
        | retryAt, retryAtMs => retryAt.or retryAtMs
      blockedAccounts := accumulator.blockedAccounts ++ evaluated.blockedAccount.toList }

def classifyCodexRouteSelection (accumulated : CodexRoutingAccumulator) (fullCohortExhausted : Bool)
    (activeSnapshot : Option CodexActiveAccountSelection) (fullCohortUnavailable : Bool) :
    CodexRouteSelection :=
  if accumulated.available ≠ [] then
    .eligible accumulated.available accumulated.skipped accumulated.blockedAccounts
  else if accumulated.hasUpstreamTimeoutBlock = true then
    .upstreamBlocked accumulated.skipped accumulated.retryAt
  else if accumulated.hasQuotaBlock = true then
    .quotaBlocked accumulated.skipped accumulated.retryAt accumulated.blockedAccounts
      fullCohortExhausted
      fullCohortUnavailable activeSnapshot
  else match accumulated.modelUnavailable with
  | some unavailable => .modelUnavailable unavailable accumulated.skipped
  | none => .credentialsInvalid accumulated.skipped fullCohortUnavailable

/-! ### The active account -/

structure SerialSelectionDecision where
  selection : CodexRouteSelection
  nextActive : Option CodexActiveAccountSelection

/-- `SerialSelectionContext`, with the evaluations by account. -/
structure SerialSelectionContext where
  accumulated : CodexRoutingAccumulator
  byAccountId : Record String CodexRoutingAccountEvaluation
  poolVersionstamp : String
  now : ℤ
  eligibleInPoolOrder : List CodexRoutingAccount
  fullCohortExhausted : Bool
  fullCohortUnavailable : Bool

def activeSelectionForAccount (account : CodexRoutingAccount) (poolVersionstamp : String)
    (generation now : ℤ) (transitionReason : Option CodexActiveAccountTransitionReason) :
    Option CodexActiveAccountSelection :=
  account.routingGeneration.bind fun routingGeneration =>
    if isVersionstamp poolVersionstamp = false ∨ isSafeInteger generation = false ∨
      generation < 1 then
      none
    else some ⟨account.accountIdHash, account.credentialVersion, poolVersionstamp, account.slot,
      routingGeneration, generation, transitionReason, now⟩

def activeSelectionNeedsRefresh (active : CodexActiveAccountSelection)
    (account : CodexRoutingAccount)
    (poolVersionstamp : String) : Bool :=
  decide (active.accountIdHash ≠ account.accountIdHash ∨
    active.credentialVersion ≠ account.credentialVersion ∨
    active.poolVersionstamp ≠ poolVersionstamp ∨ active.slot ≠ (account.slot : ℤ) ∨
    some active.routingGeneration ≠ account.routingGeneration)

namespace SerialSelectionContext

variable (context : SerialSelectionContext)

def eligibleSerialSelection (account : CodexRoutingAccount)
    (selection : CodexActiveAccountSelection) :
    CodexRouteSelection :=
  .eligible [{ account with
    activeGeneration := some selection.generation
    activePoolVersionstamp := some selection.poolVersionstamp
    activeTransitionReason := selection.transitionReason }]
    context.accumulated.skipped context.accumulated.blockedAccounts

def blockedSerialSelection (current : Option CodexActiveAccountSelection) : CodexRouteSelection :=
  classifyCodexRouteSelection context.accumulated context.fullCohortExhausted current
    context.fullCohortUnavailable

/-- The active row moves to an account. -/
def movedTo (account : CodexRoutingAccount) (generation : ℤ)
    (transitionReason : Option CodexActiveAccountTransitionReason) :
      Option SerialSelectionDecision :=
  (activeSelectionForAccount account context.poolVersionstamp generation context.now
    transitionReason).map fun nextActive =>
      ⟨context.eligibleSerialSelection account nextActive, some nextActive⟩

/-- The active row with the fences of its account, if they have changed. -/
def refreshed (active : CodexActiveAccountSelection) (account : CodexRoutingAccount) :
    Option (Option CodexActiveAccountSelection) :=
  if activeSelectionNeedsRefresh active account context.poolVersionstamp = true then
    (activeSelectionForAccount account context.poolVersionstamp active.generation context.now
      active.transitionReason).map some
  else some none

def serialBootstrapDecision : Option SerialSelectionDecision :=
  match context.eligibleInPoolOrder with
  | [] => some ⟨context.blockedSerialSelection none, none⟩
  | bootstrap :: _ => context.movedTo bootstrap 1 none

def serialReplacementDecision (active : CodexActiveAccountSelection) :
    Option SerialSelectionDecision :=
  match context.eligibleInPoolOrder with
  | [] => some ⟨context.blockedSerialSelection (some active), none⟩
  | replacement :: _ =>
    context.movedTo replacement (active.generation + 1) (some .accountRemovedOrReplaced)

def serialCurrentActiveDecision (active : CodexActiveAccountSelection)
    (current : CodexRoutingAccount) : Option SerialSelectionDecision :=
  (context.refreshed active current).map fun refreshed =>
    ⟨context.eligibleSerialSelection current (refreshed.getD active), refreshed⟩

def serialBlockedActiveDecision (active : CodexActiveAccountSelection)
    (activeEvaluation : CodexRoutingAccountEvaluation) : Option SerialSelectionDecision :=
  if activeEvaluation.activeTransitionReason = none then some ⟨.routingUnavailable, none⟩
  else match context.eligibleInPoolOrder with
  | [] =>
    (context.refreshed active activeEvaluation.account).map fun refreshed =>
      ⟨context.blockedSerialSelection (some (refreshed.getD active)), refreshed⟩
  | replacement :: _ =>
    context.movedTo replacement (active.generation + 1) activeEvaluation.activeTransitionReason

end SerialSelectionContext

/-- The reason for which the active row may leave an account. -/
def reasonOf (byAccountId : Record String CodexRoutingAccountEvaluation)
    (account : CodexRoutingIdentity) : Option CodexActiveAccountTransitionReason :=
  (byAccountId.lookup account.accountIdHash).bind (·.activeTransitionReason)

def serialSelectionContext (pool : List CodexRoutingIdentity)
    (accumulated : CodexRoutingAccumulator)
    (byAccountId : Record String CodexRoutingAccountEvaluation) (poolVersionstamp : String)
      (now : ℤ) :
    SerialSelectionContext where
  accumulated := accumulated
  byAccountId := byAccountId
  poolVersionstamp := poolVersionstamp
  now := now
  eligibleInPoolOrder := pool.filterMap fun account =>
    (byAccountId.lookup account.accountIdHash).bind (·.routedAccount)
  fullCohortExhausted := pool ≠ [] && pool.all fun account =>
    reasonOf byAccountId account = some .quotaExhausted
  fullCohortUnavailable := pool ≠ [] && pool.all fun account =>
    reasonOf byAccountId account = some .quotaExhausted ∨
      reasonOf byAccountId account = some .credentialInvalid

/-- `serialSelectionDecision`.  Every account of the pool is found under its own hash. -/
def serialSelectionDecision (active : Option CodexActiveAccountSelection)
    (pool : List CodexRoutingIdentity) (context : SerialSelectionContext) :
    Option SerialSelectionDecision :=
  match active with
  | none => context.serialBootstrapDecision
  | some active =>
    match (pool.find? fun account => account.accountIdHash = active.accountIdHash).bind
      fun account =>
      context.byAccountId.lookup account.accountIdHash with
    | none => context.serialReplacementDecision active
    | some activeEvaluation =>
      match activeEvaluation.routedAccount with
      | some current => context.serialCurrentActiveDecision active current
      | none => context.serialBlockedActiveDecision active activeEvaluation

/-! ### The plan -/

structure CodexSerialAdmissionPlan where
  checks : CodexRoutingRowRevisions
  writeRouting : Option CodexAccountRoutingState
  writeActive : Option CodexActiveAccountSelection
  selection : CodexRouteSelection

structure CodexSerialSnapshot where
  active : Option Json
  routing : Option Json
  capacity : Option Json
  poolIdentities : List CodexRoutingIdentity
  selectedAccountHashes : List String
  accountPolicies : Record String CodexRoutingAccountPolicy
  revisions : CodexRoutingRowRevisions

def planCodexSerialCommit (checks : CodexRoutingRowRevisions)
    (durableRouting : Option CodexAccountRoutingState) (normalized : NormalizedRouting)
    (decision : SerialSelectionDecision) : CodexSerialAdmissionPlan where
  checks := checks
  writeRouting := if routingStateChangedByNormalization durableRouting normalized = true then
    some normalized.state else none
  writeActive := decision.nextActive
  selection := decision.selection

namespace CodexSerialSnapshot

variable (snapshot : CodexSerialSnapshot)

def cohort : List CodexRoutingIdentity :=
  snapshot.poolIdentities.filter fun identity =>
    snapshot.selectedAccountHashes.contains identity.accountIdHash

/-- The observation of an account: the last one in the row. -/
def observationFor (accountIdHash : String) : Option CodexCapacityRoutingObservation :=
  (parseStoredCapacityObservationStore snapshot.capacity).reverse.find? fun observation =>
    observation.accountIdHash = accountIdHash

/-- The loop over the cohort, which ends at an account without a policy. -/
def evaluateCohort (normalized : CodexAccountRoutingState) (now : ℤ) (model : Option String) :
    List CodexRoutingIdentity → CodexRoutingAccumulator →
      Record String CodexRoutingAccountEvaluation →
      Option (CodexRoutingAccumulator × Record String CodexRoutingAccountEvaluation)
  | [], accumulator, byAccountId => some (accumulator, byAccountId)
  | identity :: rest, accumulator, byAccountId =>
    (snapshot.accountPolicies.lookup identity.accountIdHash).bind fun policy =>
      let evaluated := evaluateCodexRoutingAccount normalized identity model
        (snapshot.observationFor identity.accountIdHash) now policy
      evaluateCohort normalized now model rest (foldCodexRoutingEvaluation accumulator evaluated)
        (byAccountId.insert identity.accountIdHash evaluated)

end CodexSerialSnapshot

/-- A row that may be missing, parsed; the outer `none` marks a row that is not recognized. -/
def parseRow {α : Type} (parse : Json → Option α) (value : Option Json) : Option (Option α) :=
  match value with
  | none => some none
  | some value => (parse value).map some

def selectCodex (snapshot : CodexSerialSnapshot) (now : ℤ) (model : Option String) :
    Option CodexSerialAdmissionPlan := do
  let active ← parseRow parseCodexActiveAccountSelection snapshot.active
  let poolVersionstamp ← snapshot.revisions.pool.filter isVersionstamp
  let durable ← parseRow parseCodexAccountRoutingState snapshot.routing
  let normalized := normalizeRouting durable snapshot.poolIdentities now true
  let (accumulated, byAccountId) ← snapshot.evaluateCohort normalized.state now model
    snapshot.cohort
    ⟨[], [], [], none, false, false, none⟩ .empty
  let decision ← serialSelectionDecision active snapshot.cohort
    (serialSelectionContext snapshot.cohort accumulated byAccountId poolVersionstamp now)
  return planCodexSerialCommit snapshot.revisions durable normalized decision

/-- What the selection says of the whole cohort. -/
def CodexRouteSelection.fullCohortUnavailable : CodexRouteSelection → Bool
  | .quotaBlocked _ _ _ _ fullCohortUnavailable _ => fullCohortUnavailable
  | .credentialsInvalid _ fullCohortUnavailable => fullCohortUnavailable
  | _ => false

def CodexRouteSelection.fullCohortExhausted : CodexRouteSelection → Bool
  | .quotaBlocked _ _ _ fullCohortExhausted _ _ => fullCohortExhausted
  | _ => false

/-- `_fallbackCurrent`: the rows are those of the proof, and the verdict is still the same. -/
def fallbackCurrent (codexProof : Option CodexRoutingRowRevisions) (model : Option String)
    (snapshot : CodexSerialSnapshot) (now : ℤ) : Bool :=
  model.isSome && decide (codexProof = some snapshot.revisions) &&
    (selectCodex snapshot now model).any fun plan => plan.selection.fullCohortUnavailable

/-- `_fallbackAllowed` -/
def fallbackAllowed (selection : Option CodexRouteSelection)
    (codexProof : Option CodexRoutingRowRevisions) (model : Option String)
    (snapshot : CodexSerialSnapshot) (now : ℤ) : Bool :=
  selection.any CodexRouteSelection.fullCohortUnavailable && fallbackCurrent codexProof model
    snapshot now

/-! ### What counts as exhausted -/

/-- The credential is valid and the model is served, and a block of its class is running without a
newer observation of capacity, or the class is proved empty until a time to come. -/
def QuotaExhausted (state : CodexAccountRoutingState) (mapped : CodexRoutingIdentity)
    (model : Option String) (observation : Option CodexCapacityRoutingObservation) (now : ℤ)
    (policy : CodexRoutingAccountPolicy) : Prop :=
  let slot := slotOfIdentity state mapped model
  let capacity := resolveCodexCapacityDecision slot (withLegacyQuotaClassMap slot)
    (quotaClass model)
    observation model now
  slot.invalidCredentialVersion ≠ some mapped.credentialVersion ∧
    (model = none ∨ policy.modelUnavailable = none) ∧
    ((∃ block, quotaBlockForClass (withLegacyQuotaClassMap slot) (quotaClass model) = some block ∧
        now < block.blockedUntilMs ∧ capacity.capacityOverride = false) ∨
      (capacity.capacityExhausted = true ∧ policy.overageUsageAllowed = false ∧
        ∃ resetAtMs, observationResetAt observation now = some resetAtMs))

/-- The reasons for which an account counts are those of its row and of its observation; it takes no
traffic. -/
theorem evaluateCodexRoutingAccount_reason :
    ((evaluateCodexRoutingAccount state mapped model observation now policy).activeTransitionReason
        = some .quotaExhausted →
      QuotaExhausted state mapped model observation now policy ∧
        (evaluateCodexRoutingAccount state mapped model observation now policy).routedAccount =
          none) ∧
    ((evaluateCodexRoutingAccount state mapped model observation now policy).activeTransitionReason
        = some .credentialInvalid →
      (slotOfIdentity state mapped model).invalidCredentialVersion = some mapped.credentialVersion ∧
        (evaluateCodexRoutingAccount state mapped model observation now policy).routedAccount
          = none) := by
  unfold evaluateCodexRoutingAccount
  dsimp only
  generalize hslot : slotOfIdentity state mapped model = slot
  generalize hcapacity : resolveCodexCapacityDecision slot (withLegacyQuotaClassMap slot)
    (quotaClass model) observation model now = capacity
  by_cases hinvd : slot.invalidCredentialVersion = some mapped.credentialVersion
  · rw [if_pos hinvd]
    exact ⟨nofun, fun _ => ⟨hinvd, rfl⟩⟩
  rw [if_neg hinvd]
  cases hmodel : model.bind fun model =>
      policy.modelUnavailable.map fun detail => (⟨model, detail⟩ : ModelUnavailable) with
  | some unavailable => exact ⟨nofun, nofun⟩
  | none =>
    have hserved : model = none ∨ policy.modelUnavailable = none := by
      cases model with
      | none => exact .inl rfl
      | some model => exact .inr (Option.map_eq_none_iff.mp hmodel)
    dsimp only
    split
    · next retryAtMs blockedAccount hquo =>
      obtain ⟨block, hbk, -⟩ := Option.map_eq_some_iff.mp hquo
      obtain ⟨hbk, hrng⟩ := Option.filter_eq_some_iff.mp hbk
      obtain ⟨hlat, hoverride⟩ := Bool.and_eq_true_iff.mp hrng
      refine ⟨fun _ => ⟨?_, rfl⟩, nofun⟩
      unfold QuotaExhausted
      dsimp only
      rw [hslot, hcapacity]
      exact ⟨hinvd, hserved, .inl ⟨block, hbk, of_decide_eq_true hlat,
        Bool.eq_false_of_not_eq_true' hoverride⟩⟩
    · by_cases hexh : capacity.capacityExhausted = true
      · rw [if_pos hexh]
        unfold evaluateExhausted
        split_ifs with hoverage
        · exact ⟨nofun, nofun⟩
        · split
          · next resetAtMs hrst =>
            refine ⟨fun _ => ⟨?_, rfl⟩, nofun⟩
            unfold QuotaExhausted
            dsimp only
            rw [hslot, hcapacity]
            exact ⟨hinvd, hserved, .inr ⟨hexh, Bool.eq_false_of_not_eq_true hoverage,
              resetAtMs, hrst⟩⟩
          · exact ⟨nofun, nofun⟩
      · -- neither a lease nor an elapsed block is a reason
        rw [if_neg hexh]
        split
        · exact ⟨nofun, nofun⟩
        · split_ifs <;> exact ⟨nofun, nofun⟩

/-! ### The verdict that is reported -/

theorem classifyCodexRouteSelection_flags :
    ((classifyCodexRouteSelection accumulated exhausted active unavailable).fullCohortUnavailable =
      true →
      unavailable = true) ∧
    ((classifyCodexRouteSelection accumulated exhausted active unavailable).fullCohortExhausted =
      true →
      exhausted = true) := by
  unfold classifyCodexRouteSelection
  split_ifs
  · exact ⟨nofun, nofun⟩
  · exact ⟨nofun, nofun⟩
  · exact ⟨id, id⟩
  · split
    · exact ⟨nofun, nofun⟩
    · exact ⟨id, nofun⟩

namespace SerialSelectionContext

variable {context : SerialSelectionContext}

/-- The decision says of the cohort what its context says. -/
structure Reports (context : SerialSelectionContext) (selection : CodexRouteSelection) : Prop where
  unavailable : selection.fullCohortUnavailable = true → context.fullCohortUnavailable = true
  exhausted : selection.fullCohortExhausted = true → context.fullCohortExhausted = true

theorem reports_blocked (current : Option CodexActiveAccountSelection) :
    context.Reports (context.blockedSerialSelection current) :=
  ⟨classifyCodexRouteSelection_flags.1, classifyCodexRouteSelection_flags.2⟩

theorem reports_moved (h : context.movedTo account generation reason = some decision) :
    context.Reports decision.selection := by
  obtain ⟨next, -, rfl⟩ := Option.map_eq_some_iff.mp h
  exact ⟨nofun, nofun⟩

/-- Every decision reports what the cohort evaluates to. -/
theorem reports_decision (h : serialSelectionDecision active pool context = some decision) :
    context.Reports decision.selection := by
  unfold serialSelectionDecision at h
  cases active with
  | none =>
    dsimp only at h
    unfold serialBootstrapDecision at h
    split at h
    · cases h
      exact reports_blocked none
    · exact reports_moved h
  | some active =>
    dsimp only at h
    split at h
    · unfold serialReplacementDecision at h
      split at h
      · cases h
        exact reports_blocked _
      · exact reports_moved h
    · split at h
      · obtain ⟨refreshed, -, rfl⟩ := Option.map_eq_some_iff.mp h
        exact ⟨nofun, nofun⟩
      · unfold serialBlockedActiveDecision at h
        split_ifs at h with hrsn
        · cases h
          exact ⟨nofun, nofun⟩
        · split at h
          · obtain ⟨refreshed, -, rfl⟩ := Option.map_eq_some_iff.mp h
            exact reports_blocked _
          · exact reports_moved h

end SerialSelectionContext

namespace CodexSerialSnapshot

variable {snapshot : CodexSerialSnapshot}

/-- The last entry of an account. -/
def lastEntry (accountIdHash : String) (cohort : List CodexRoutingIdentity) :
    Option CodexRoutingIdentity :=
  cohort.reverse.find? fun entry => entry.accountIdHash = accountIdHash

/-- What is stored under an account's hash is what the last entry of the account evaluates to. -/
theorem lookup_evaluateCohort {cohort : List CodexRoutingIdentity}
    (h : snapshot.evaluateCohort state now model cohort accumulator byAccountId = some result)
    {hash : String} (hlk : result.2.lookup hash = some evaluated) :
    lastEntry hash cohort = none ∧ byAccountId.lookup hash = some evaluated ∨
      ∃ entry, lastEntry hash cohort = some entry ∧ ∃ policy,
        snapshot.accountPolicies.lookup hash = some policy ∧
        evaluated = evaluateCodexRoutingAccount state entry model (snapshot.observationFor hash) now
          policy := by
  induction cohort generalizing accumulator byAccountId with
  | nil =>
    cases h
    exact .inl ⟨rfl, hlk⟩
  | cons identity rest ih =>
    obtain ⟨policy, hpol, h⟩ := Option.bind_eq_some_iff.mp h
    have hcons : lastEntry hash (identity :: rest) =
        (lastEntry hash rest).or (lastEntry hash [identity]) := by
      unfold lastEntry
      rw [List.reverse_cons, List.find?_append]
      rfl
    rcases ih h with ⟨hno, hbef⟩ | ⟨entry, hent, hfd⟩
    · rw [Record.lookup_insert] at hbef
      rw [hcons, hno, Option.none_or]
      split_ifs at hbef with hhash
      · subst hhash
        refine .inr ⟨identity, ?_, policy, hpol, (Option.some.inj hbef).symm⟩
        simp [lastEntry]
      · refine .inl ⟨?_, hbef⟩
        simp [lastEntry, Ne.symm hhash]
    · rw [hcons, hent]
      exact .inr ⟨entry, rfl, hfd⟩

/-- An entry of the cohort that evaluates to a reason. -/
def EvaluatesTo (snapshot : CodexSerialSnapshot) (now : ℤ) (model : Option String)
    (entry : CodexRoutingIdentity) (reason : CodexActiveAccountTransitionReason) : Prop :=
  ∃ durable policy, parseRow parseCodexAccountRoutingState snapshot.routing = some durable ∧
    snapshot.accountPolicies.lookup entry.accountIdHash = some policy ∧
    (evaluateCodexRoutingAccount (normalizeRouting durable snapshot.poolIdentities now true).state
      entry
      model (snapshot.observationFor entry.accountIdHash) now policy).activeTransitionReason =
        some reason

/-- There is a cohort, and the last entry of each account of it evaluates to one of the reasons. -/
def WholeCohort (snapshot : CodexSerialSnapshot) (now : ℤ) (model : Option String)
    (reasons : List CodexActiveAccountTransitionReason) : Prop :=
  snapshot.cohort ≠ [] ∧ ∀ identity ∈ snapshot.cohort, ∃ entry,
    lastEntry identity.accountIdHash snapshot.cohort = some entry ∧ ∃ reason ∈ reasons,
      snapshot.EvaluatesTo now model entry reason

/-- The flags of a plan speak of the whole cohort. -/
theorem selectCodex_flags {plan : CodexSerialAdmissionPlan}
    (h : selectCodex snapshot now model = some plan) :
    (plan.selection.fullCohortUnavailable = true →
      snapshot.WholeCohort now model [.quotaExhausted, .credentialInvalid]) ∧
    (plan.selection.fullCohortExhausted = true →
      snapshot.WholeCohort now model [.quotaExhausted]) := by
  obtain ⟨active, -, h⟩ := Option.bind_eq_some_iff.mp h
  obtain ⟨poolVersionstamp, -, h⟩ := Option.bind_eq_some_iff.mp h
  obtain ⟨durable, hdurable, h⟩ := Option.bind_eq_some_iff.mp h
  obtain ⟨⟨accumulated, byAccountId⟩, hcohort, h⟩ := Option.bind_eq_some_iff.mp h
  obtain ⟨decision, hdec, h⟩ := Option.bind_eq_some_iff.mp h
  cases h
  have hrep := SerialSelectionContext.reports_decision hdec
  have hevaluates : ∀ {identity : CodexRoutingIdentity} {reason :
    CodexActiveAccountTransitionReason},
      reasonOf byAccountId identity = some reason → ∃ entry,
        lastEntry identity.accountIdHash snapshot.cohort = some entry ∧
          snapshot.EvaluatesTo now model entry reason := by
    intro identity reason hrsn
    obtain ⟨evaluated, hlk, hrsn⟩ := Option.bind_eq_some_iff.mp hrsn
    rcases lookup_evaluateCohort hcohort hlk with ⟨-, hno⟩ |
      ⟨entry, hent, policy, hpol, rfl⟩
    · cases hno
    · have hhash : entry.accountIdHash = identity.accountIdHash := by
        simpa using List.find?_some hent
      rw [← hhash] at hpol hrsn
      exact ⟨entry, hent, durable, policy, hdurable, hpol, hrsn⟩
  refine ⟨fun hflag => ?_, fun hflag => ?_⟩
  · obtain ⟨hnonempty, hall⟩ := Bool.and_eq_true_iff.mp (hrep.unavailable hflag)
    refine ⟨of_decide_eq_true hnonempty, fun identity hidt => ?_⟩
    rcases of_decide_eq_true (List.all_eq_true.mp hall identity hidt) with hrsn | hrsn
    · obtain ⟨entry, hent, hevaluated⟩ := hevaluates hrsn
      exact ⟨entry, hent, _, List.mem_cons_self, hevaluated⟩
    · obtain ⟨entry, hent, hevaluated⟩ := hevaluates hrsn
      exact ⟨entry, hent, _, List.mem_cons_of_mem _ List.mem_cons_self, hevaluated⟩
  · obtain ⟨hnonempty, hall⟩ := Bool.and_eq_true_iff.mp (hrep.exhausted hflag)
    refine ⟨of_decide_eq_true hnonempty, fun identity hidt => ?_⟩
    have hrsn := of_decide_eq_true (List.all_eq_true.mp hall identity hidt)
    obtain ⟨entry, hent, hevaluated⟩ := hevaluates hrsn
    exact ⟨entry, hent, _, List.mem_cons_self, hevaluated⟩

end CodexSerialSnapshot

/-- **The verdict over the cohort** is given only if every account of the cohort, by its last entry,
is exhausted or has an invalid credential; an account that is leased, or lacks the model, is not
exhausted by that. -/
theorem selectCodex_full_cohort (snapshot : CodexSerialSnapshot) (now : ℤ) (model : Option String) :
    (∀ plan, selectCodex snapshot now model = some plan →
      (plan.selection.fullCohortUnavailable = true →
        snapshot.WholeCohort now model [.quotaExhausted, .credentialInvalid]) ∧
      (plan.selection.fullCohortExhausted = true →
        snapshot.WholeCohort now model [.quotaExhausted])) ∧
    (∀ selection codexProof, fallbackAllowed selection codexProof model snapshot now = true →
      snapshot.WholeCohort now model [.quotaExhausted, .credentialInvalid]) ∧
    ∀ state mapped observation policy,
      let evaluated := evaluateCodexRoutingAccount state mapped model observation now policy
      (evaluated.activeTransitionReason = some .quotaExhausted →
        QuotaExhausted state mapped model observation now policy ∧ evaluated.routedAccount = none) ∧
      (evaluated.activeTransitionReason = some .credentialInvalid →
        (slotOfIdentity state mapped model).invalidCredentialVersion =
          some mapped.credentialVersion ∧
          evaluated.routedAccount = none) := by
  refine ⟨fun plan hplan => CodexSerialSnapshot.selectCodex_flags hplan,
    fun selection codexProof halw => ?_, fun state mapped observation policy => ?_⟩
  · have hcur := (Bool.and_eq_true_iff.mp halw).2
    have hany := (Bool.and_eq_true_iff.mp hcur).2
    obtain ⟨plan, hplan, hflag⟩ := (Option.any_eq_true _ _).mp hany
    exact (CodexSerialSnapshot.selectCodex_flags hplan).1 hflag
  · exact evaluateCodexRoutingAccount_reason

/-- A row with one account, whose quota is blocked and which is leased. -/
def leasedRow : CodexAccountRoutingState :=
  ⟨0, false, [{ neutralSlot "version" (some "account") with
    quotaBlocksByClass := Record.empty.insert .standard
      ⟨5000, .headerRetryAfter, false, some 0, none, false, false, false⟩
    probeLease := some ⟨"token", 3000, 1, .quota, some .standard⟩ }]⟩

def leasedSnapshot : CodexSerialSnapshot where
  active := none
  routing := some leasedRow.toJson
  capacity := none
  poolIdentities := [⟨0, "account", "version"⟩]
  selectedAccountHashes := ["account"]
  accountPolicies := Record.empty.insert "account" ⟨none, false⟩
  revisions := ⟨none, some "1", none, none⟩

/-- A leased account counts as exhausted while its block is running. -/
theorem leased_account_exhausted :
    probeLeaseSkipFor (slotOfIdentity leasedRow ⟨0, "account", "version"⟩ (some "model")) .standard
      1000
        = some (.quota, 3000) ∧
      (selectCodex leasedSnapshot 1000 (some "model")).any
        (fun plan => plan.selection.fullCohortExhausted) = true := by
  decide +kernel

end UbqGateway.Codex
