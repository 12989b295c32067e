import UbqGateway.Codex.Codec

/-!
# Codex routing: what a transition does to a slot

A transition of the routing row changes its slots in one of few ways.  `SlotStep` lists them, and
`apply_slots` says that every slot of the next row comes from a slot of the present
one, or from a neutral slot, by such steps.  A property that the steps keep is therefore kept by all
transitions, and `RoutingRun` carries it to whole runs.
-/

namespace UbqGateway.Codex

open RoutingMutation

open Json (isSafeInteger maxSafeInteger)

/-- The times that a clock shows: milliseconds since the epoch, within the range of a date. -/
def IsTime (t : ℤ) : Prop := 0 ≤ t ∧ t ≤ 8640000000000000

/-- The slot after the account's credential was found to be invalid. -/
def invalidatedSlot (current : CodexRoutingSlot) (account : CodexRoutingAccount) (now : ℤ) :
    CodexRoutingSlot :=
  { current with
    accountIdHash := some account.accountIdHash
    quotaBlockedUntilMs := none
    quotaBlockSource := none
    quotaBlockedClasses := []
    quotaBlocksByClass := .empty
    upstreamTimeoutBlockedUntilMs := none
    invalidCredentialVersion := some account.credentialVersion
    quotaSignalObservedAtMs := some now
    probeLease := none }

/-- The slot after a request has timed out. -/
def timedOutSlot (current : CodexRoutingSlot) (account : CodexRoutingAccount) (now : ℤ) :
    CodexRoutingSlot :=
  { current with
    accountIdHash := some account.accountIdHash
    upstreamTimeoutBlockedUntilMs := some (max (current.upstreamTimeoutBlockedUntilMs.getD 0)
      (now + upstreamTimeoutCircuitMs))
    generation := current.generation + 1
    probeLease := none }

/-- The slot after a probe was claimed. -/
def claimedSlot (current : CodexRoutingSlot) (account : CodexRoutingAccount)
    (lease : CodexProbeLease) : CodexRoutingSlot :=
  { current with
    accountIdHash := some account.accountIdHash
    probeLease := some lease }

/-- What a transition at the time `now` can do to a slot. -/
inductive SlotStep (now : ℤ) (current : CodexRoutingSlot) : CodexRoutingSlot → Prop
  | blocked (account : CodexRoutingAccount) (body : Codex429Body) (header : Option RetryAfterHeader)
      (primary secondary : Option ℚ) (source : CodexQuotaBlockSource) (retryAtMs : ℤ)
      (recoveryProbe foreignQuotaProbe : Bool)
      (hrty : (classifyCodex429 body header primary secondary now).retryAtMs = some retryAtMs) :
      SlotStep now current (buildQuotaBlockedSlot current account
        (classifyCodex429 body header primary secondary now) source retryAtMs now recoveryProbe
        foreignQuotaProbe)
  | released (account : CodexRoutingAccount) : SlotStep now current
    (releasedProbeSlot current account)
  | succeeded (account : CodexRoutingAccount) : SlotStep now current (succeededSlot current account)
  | invalidated (account : CodexRoutingAccount) :
      SlotStep now current (invalidatedSlot current account now)
  | timedOut (account : CodexRoutingAccount) : SlotStep now current
    (timedOutSlot current account now)
  | claimed (account : CodexRoutingAccount) (lease : CodexProbeLease) :
      SlotStep now current (claimedSlot current account lease)
  | recovered (account : CodexRoutingAccount) (lease : CodexProbeLease) :
      SlotStep now current (recoveredSlot current account lease)
  | capacityBlocked (account : CodexRoutingAccount) (observation : CodexCapacityRoutingObservation)
      (resetAtMs : ℤ) (recoveryProbePending : Bool) (hrst : isSafeMs resetAtMs = true) :
      SlotStep now current (capacityBlockedSlot current account observation
        (capacityBlock observation resetAtMs recoveryProbePending))
  | capacityObserved (observation : CodexCapacityRoutingObservation) (model : Option String)
      (clearCircuit : Bool) :
      SlotStep now current (capacityObservedSlot current (if clearCircuit = true then
        withoutRequestedClass current (quotaClass model) else current) observation clearCircuit)
  | rotated (accountIdHash credentialVersion : String) :
      SlotStep now current (rotateCredentialForSameAccount current accountIdHash credentialVersion)
  | attached (accountIdHash : String) :
      SlotStep now current (attachLegacyAccountIdentity current accountIdHash)
  | discarded : SlotStep now current (withoutLegacyTimeoutCircuit current)
  | rechecked : SlotStep now current (recheckSlotTransition current now)
  | reread (allowLegacyNeutralRepair : Bool) :
      SlotStep now current (current.reread allowLegacyNeutralRepair)

/-- A slot that no signal has reached. -/
def IsNeutral (slot : CodexRoutingSlot) : Prop :=
  ∃ credentialVersion accountIdHash, slot = neutralSlot credentialVersion accountIdHash

/-- The slot comes from a slot of the row, or from a neutral one. -/
def ComesFrom (now : ℤ) (slots : List CodexRoutingSlot) (slot : CodexRoutingSlot) : Prop :=
  ∃ origin, (origin ∈ slots ∨ IsNeutral origin) ∧
    Relation.ReflTransGen (SlotStep now) origin slot

variable {state next : CodexAccountRoutingState}

theorem ComesFrom.mem (h : slot ∈ slots) : ComesFrom now slots slot :=
  ⟨slot, .inl h, .refl⟩

theorem ComesFrom.neutral (credentialVersion : String) (accountIdHash : Option String) :
    ComesFrom now slots (neutralSlot credentialVersion accountIdHash) :=
  ⟨_, .inr ⟨credentialVersion, accountIdHash, rfl⟩, .refl⟩

theorem ComesFrom.step (h : ComesFrom now slots slot) (hstep : SlotStep now slot slot') :
    ComesFrom now slots slot' := by
  obtain ⟨origin, horigin, hstps⟩ := h
  exact ⟨origin, horigin, hstps.tail hstep⟩

theorem ComesFrom.slotFor (state : CodexAccountRoutingState) (account : CodexRoutingAccount) :
    ComesFrom now state.slots (slotFor state account) := by
  unfold Codex.slotFor
  cases hslot : state.slots[account.slot]? with
  | none => exact .neutral _ _
  | some slot => exact .mem (List.mem_of_getElem? hslot)

theorem withSlot_comesFrom (hslot : ComesFrom now state.slots slot) :
    ∀ slot' ∈ (withSlot state index slot updatedAtMs).slots, ComesFrom now state.slots slot' := by
  intro slot' hmem
  rcases List.mem_or_eq_of_mem_set hmem with hmem | rfl
  · rcases List.mem_append.mp hmem with hmem | hmem
    · exact .mem hmem
    · rw [(List.mem_replicate.mp hmem).2]
      exact .neutral _ _
  · exact hslot

theorem slotFor_of_getElem? (h : state.slots[account.slot]? = some slot) :
    slotFor state account = slot := by
  unfold slotFor
  rw [h]
  rfl

theorem getElem?_withSlot (state : CodexAccountRoutingState) (index : ℕ) (slot : CodexRoutingSlot)
    (updatedAtMs : ℤ) : (withSlot state index slot updatedAtMs).slots[index]? = some slot := by
  show (List.set _ index slot)[index]? = some slot
  refine List.getElem?_set_self ?_
  rw [List.length_append, List.length_replicate]
  omega

/-! ### What each transition requires and writes -/

theorem quotaBlockTransition_eq_some
    (h : quotaBlockTransition state account parsed now recoveryProbe updatedAtMs = some next) :
    ∃ retryAtMs source, parsed.retryAtMs = some retryAtMs ∧ parsed.quotaBlockSource = some source ∧
      slotMatchesCodexRoutingAccount (slotFor state account) account = true ∧
      (account.probeGeneration = none → (slotFor state account).probeLease.isSome = true →
        isForeignQuotaProbeLease (slotFor state account) account
          (quotaClass account.requestedModel) = true) ∧
      (account.probeGeneration.isSome = true →
        probeLeaseMatchesCodexRoutingAccount (slotFor state account) account = true) ∧
      next = withSlot state account.slot
        (buildQuotaBlockedSlot (slotFor state account) account parsed
        source retryAtMs now recoveryProbe (isForeignQuotaProbeLease (slotFor state account) account
          (quotaClass account.requestedModel))) updatedAtMs := by
  unfold quotaBlockTransition quotaBlockedSlot at h
  obtain ⟨slot, hslot, rfl⟩ := Option.map_eq_some_iff.mp h
  obtain ⟨retryAtMs, hrty, hslot⟩ := Option.bind_eq_some_iff.mp hslot
  obtain ⟨source, hsrc, hslot⟩ := Option.bind_eq_some_iff.mp hslot
  dsimp only at hslot
  split_ifs at hslot with hgd
  simp only [not_or, not_and, Bool.not_eq_false] at hgd
  rw [← Option.some.inj hslot]
  exact ⟨retryAtMs, source, hrty, hsrc, hgd.1, hgd.2.1, hgd.2.2, rfl⟩

theorem releaseNonBlockingQuotaProbe_eq_some
    (h : releaseNonBlockingQuotaProbe state account updatedAtMs = some next) :
    slotMatchesCodexRoutingAccount (slotFor state account) account = true ∧
      probeLeaseMatchesCodexRoutingAccount (slotFor state account) account = true ∧
      next = withSlot state account.slot (releasedProbeSlot (slotFor state account) account)
        updatedAtMs := by
  unfold releaseNonBlockingQuotaProbe nonBlockingQuotaProbeSlot at h
  obtain ⟨slot, hslot, rfl⟩ := Option.map_eq_some_iff.mp h
  dsimp only at hslot
  split at hslot
  · cases hslot
  · rename_i hgd
    simp only [not_or, Bool.not_eq_false] at hgd
    rw [← Option.some.inj hslot]
    exact ⟨hgd.2.2.1, hgd.2.2.2, rfl⟩

theorem releaseCodexRoutingProbe_eq_some
    (h : releaseCodexRoutingProbe state account updatedAtMs = some next) :
    slotMatchesCodexRoutingAccount (slotFor state account) account = true ∧
      probeLeaseMatchesCodexRoutingAccount (slotFor state account) account = true ∧
      next = withSlot state account.slot (releasedProbeSlot (slotFor state account) account)
        updatedAtMs := by
  unfold releaseCodexRoutingProbe at h
  dsimp only at h
  split_ifs at h with hgd
  simp only [not_or, Bool.not_eq_false] at hgd
  exact ⟨hgd.1, hgd.2, (Option.some.inj h).symm⟩

theorem markCodexSuccess_eq_some (h : markCodexSuccess state account updatedAtMs = some next) :
    slotMatchesCodexRoutingAccount (slotFor state account) account = true ∧
      probeLeaseMatchesCodexRoutingAccount (slotFor state account) account = true ∧
      next = withSlot state account.slot (succeededSlot (slotFor state account) account)
        updatedAtMs := by
  unfold markCodexSuccess at h
  dsimp only at h
  split_ifs at h with hgd
  simp only [not_or, Bool.not_eq_false] at hgd
  exact ⟨hgd.1, hgd.2, (Option.some.inj h).symm⟩

theorem markCodexCredentialInvalid_eq_some
    (h : markCodexCredentialInvalid state account now updatedAtMs = some next) :
    (account.probeGeneration.isSome = true →
      probeLeaseMatchesCodexRoutingAccount (slotFor state account) account = true) ∧
      next = withSlot state account.slot (invalidatedSlot (slotFor state account) account now)
        updatedAtMs := by
  unfold markCodexCredentialInvalid at h
  dsimp only at h
  split_ifs at h with hgd
  simp only [not_or, not_and, Bool.not_eq_false] at hgd
  exact ⟨hgd.2, (Option.some.inj h).symm⟩

theorem markCodexUpstreamTimeout_eq_some
    (h : markCodexUpstreamTimeout state account now updatedAtMs = some next) :
    (account.probeGeneration.isSome = true →
      probeLeaseMatchesCodexRoutingAccount (slotFor state account) account = true) ∧
      next = withSlot state account.slot (timedOutSlot (slotFor state account) account now)
        updatedAtMs := by
  unfold markCodexUpstreamTimeout at h
  dsimp only at h
  split_ifs at h with hgd
  simp only [not_or, not_and, Bool.not_eq_false] at hgd
  exact ⟨hgd.2.2, (Option.some.inj h).symm⟩

theorem claimProbe_eq_some
    (h : (claimProbe account token).apply now updatedAtMs state = some next) :
    ∃ lease, lease.token = token ∧ lease.expiresAtMs = now + halfOpenLeaseMs ∧
      lease.generation = (slotFor state account).generation ∧
      ((slotFor state account).probeLease.map (·.expiresAtMs)).getD 0 ≤ now ∧
      next = withSlot state account.slot (claimedSlot (slotFor state account) account lease)
        updatedAtMs := by
  simp only [apply, buildExpiredProbeClaim] at h
  obtain ⟨claim, hclm, rfl⟩ := Option.map_eq_some_iff.mp h
  generalize (if routingProbeCircuit account = .upstreamTimeout then
    (slotFor state account).upstreamTimeoutBlockedUntilMs else
    (quotaBlockForClass (slotFor state account) (quotaClass account.requestedModel)).map
      (·.blockedUntilMs)) = circuitDeadline at hclm
  split at hclm
  · cases hclm
  · rename_i hgd
    simp only [not_or, not_lt] at hgd
    rw [← Option.some.inj hclm]
    exact ⟨_, rfl, rfl, rfl, hgd.2.2.2, rfl⟩

theorem applyCapacityQuotaBlock_eq_some
    (h : applyCapacityQuotaBlock state account observation now updatedAtMs = some next) :
    ∃ resetAtMs recoveryProbePending, isSafeMs resetAtMs = true ∧
      (slotFor state account).probeLease = none ∧
      next = { state with
        updatedAtMs := updatedAtMs
        slots := state.slots.set account.slot (capacityBlockedSlot (slotFor state account) account
          observation (capacityBlock observation resetAtMs recoveryProbePending)) } := by
  unfold applyCapacityQuotaBlock at h
  obtain ⟨resetAtMs, hrst, h⟩ := Option.bind_eq_some_iff.mp h
  have hsafe : isSafeMs resetAtMs = true := by
    unfold exhaustedUntil at hrst
    split_ifs at hrst
    have hgd := (Option.filter_eq_some_iff.mp hrst).2
    exact (Bool.and_eq_true_iff.mp hgd).1
  dsimp only at h
  split_ifs at h with hgd
  simp only [not_or, Bool.not_eq_true, Option.isSome_eq_false_iff, Option.isNone_iff_eq_none]
    at hgd
  exact ⟨resetAtMs, _, hsafe, hgd.2.1, (Option.some.inj h).symm⟩

theorem reconcileRoutingCredential_eq_some {accountIdHash credentialVersion : String}
    {sameAccount : Bool}
    (h : reconcileRoutingCredential state account accountIdHash credentialVersion sameAccount
      updatedAtMs = some next) : next = withSlot state account.slot (if sameAccount = true then
      rotateCredentialForSameAccount (slotFor state account) accountIdHash credentialVersion
      else neutralSlot credentialVersion (some accountIdHash)) updatedAtMs := by
  unfold reconcileRoutingCredential at h
  dsimp only at h
  split at h
  · cases h
  · exact (Option.some.inj h).symm

theorem recheckCodexRoutingSlot_eq_some
    (h : recheckCodexRoutingSlot state slotNumber recheckAtMs updatedAtMs = some next) :
    ∃ slot, state.slots[slotNumber - 1]? = some slot ∧
      next = withSlot state (slotNumber - 1)
        (recheckSlotTransition slot recheckAtMs) updatedAtMs := by
  unfold recheckCodexRoutingSlot at h
  split_ifs at h
  obtain ⟨slot, hslot, h⟩ := Option.bind_eq_some_iff.mp h
  split_ifs at h
  exact ⟨slot, hslot, (Option.some.inj h).symm⟩

theorem applyCapacityObservation_eq_some
    (h : applyCapacityObservation state observation now model updatedAtMs = some next) :
    ∃ current clearCircuit, state.slots[observation.slot]? = some current ∧
      next = withSlot state observation.slot
        (capacityObservedSlot current (if clearCircuit = true then
        withoutRequestedClass current (quotaClass model) else current) observation clearCircuit)
        updatedAtMs := by
  unfold applyCapacityObservation at h
  obtain ⟨current, hcur, h⟩ := Option.bind_eq_some_iff.mp h
  dsimp only at h
  refine ⟨current, capacityClears current observation now model, hcur, ?_⟩
  generalize (if capacityClears current observation now model = true then
    withoutRequestedClass current (quotaClass model) else current) = cleared at h ⊢
  split_ifs at h
  exact (Option.some.inj h).symm

theorem attemptCodexQuotaRecoveryProbe_eq_some
    (h : attemptCodexQuotaRecoveryProbe state account now token updatedAtMs = some next) :
    ∃ current lease, state.slots[account.slot]? = some current ∧
      lease = ⟨token, now + halfOpenLeaseMs, current.generation + 1, .quota,
        some (quotaClass account.requestedModel)⟩ ∧
      isSafeMs (now + halfOpenLeaseMs) = true ∧ isSafeInteger (current.generation + 1) = true ∧
      next = withSlot state account.slot (recoveredSlot current account lease) updatedAtMs := by
  unfold attemptCodexQuotaRecoveryProbe at h
  obtain ⟨current, hcur, h⟩ := Option.bind_eq_some_iff.mp h
  split_ifs at h with hsafe
  unfold recoveryProbeTransition at h
  rw [hcur] at h
  exact ⟨current, _, hcur, rfl, hsafe.2.2, hsafe.1, (Option.some.inj h).symm⟩

/-! ### Where the slots of the next row come from -/

theorem withoutLegacyTimeoutCircuit_comesFrom (h : ComesFrom now slots slot) :
    ComesFrom now slots (withoutLegacyTimeoutCircuit slot) :=
  h.step .discarded

theorem normalizedFrom_comesFrom (h : ComesFrom now slots prior) (index : ℕ)
    (identity : CodexRoutingIdentity) (discard : Bool) :
    ComesFrom now slots (normalizedFrom prior index identity discard).slot := by
  have hdisc : ComesFrom now slots
      (if discard = true then withoutLegacyTimeoutCircuit prior else prior) := by
    split_ifs
    · exact withoutLegacyTimeoutCircuit_comesFrom h
    · exact h
  unfold normalizedFrom
  dsimp only
  generalize (if discard = true then withoutLegacyTimeoutCircuit prior else prior) = discarded
    at hdisc ⊢
  split_ifs
  · exact withoutLegacyTimeoutCircuit_comesFrom hdisc
  · exact withoutLegacyTimeoutCircuit_comesFrom hdisc
  · exact withoutLegacyTimeoutCircuit_comesFrom (hdisc.step (.attached _))
  · exact withoutLegacyTimeoutCircuit_comesFrom (hdisc.step (.rotated _ _))

theorem mem_of_takePrior (h : takePrior priorSlots used predicate = some entry) :
    priorSlots[entry.1]? = some entry.2 := by
  unfold takePrior at h
  obtain ⟨found, hfd, rfl⟩ := Option.map_eq_some_iff.mp h
  have hmem := List.mem_of_find?_eq_some hfd
  exact List.mem_zipIdx_iff_getElem?.mp hmem

variable {P : CodexRoutingSlot → Prop}

theorem mem_of_directPrior (h : directPrior priorSlots used index identity = some entry) :
    priorSlots[entry.1]? = some entry.2 := by
  unfold directPrior at h
  obtain ⟨direct, hdir, rfl⟩ := Option.map_eq_some_iff.mp h
  exact (Option.filter_eq_some_iff.mp hdir).1

theorem mem_of_priorFor (h : priorFor priorSlots used index identity = some entry) :
    priorSlots[entry.1]? = some entry.2 := by
  unfold priorFor at h
  rcases Option.or_eq_some_iff.mp h with h | ⟨-, h⟩
  · rcases Option.or_eq_some_iff.mp h with h | ⟨-, h⟩
    · exact mem_of_directPrior h
    · exact mem_of_takePrior h
  · exact mem_of_takePrior h

theorem forall_normalizeSlots {priorSlots : List CodexRoutingSlot} {discard : Bool}
    (hneu : ∀ version accountIdHash, P (neutralSlot version accountIdHash))
    (hattached : ∀ prior ∈ priorSlots, ∀ index identity,
      P (normalizedFrom prior index identity discard).slot)
    (index : ℕ) (used : List ℕ) (identities : List CodexRoutingIdentity) :
    ∀ normalized ∈ (normalizeSlots priorSlots discard index used identities).1,
      P normalized.slot := by
  induction identities generalizing index used with
  | nil => exact fun _ hmem => absurd hmem List.not_mem_nil
  | cons identity identities ih =>
    intro normalized hmem
    rw [normalizeSlots] at hmem
    split at hmem
    · rcases List.mem_cons.mp hmem with rfl | hmem
      · exact hneu _ _
      · exact ih _ _ normalized hmem
    · next entry hpri =>
        rcases List.mem_cons.mp hmem with rfl | hmem
        · exact hattached _ (List.mem_of_getElem? (mem_of_priorFor hpri)) _ _
        · exact ih _ _ normalized hmem

theorem normalizeRoutingState_comesFrom {discard : Bool} :
    ∀ slot ∈ (normalizeRoutingState (some raw) identities updatedAtMs discard).slots,
      ComesFrom now raw.slots slot := by
  intro slot hmem
  obtain ⟨normalized, hnorm, rfl⟩ := List.mem_map.mp hmem
  exact forall_normalizeSlots (fun _ _ => .neutral _ _)
    (fun prior hpri _ _ => normalizedFrom_comesFrom (.mem hpri) _ _ _) 0
      [] identities normalized
      hnorm

theorem attemptCodexQuotaRecoveryProbe_comesFrom
    (h : attemptCodexQuotaRecoveryProbe state account now token updatedAtMs = some next) :
    ∀ slot ∈ next.slots, ComesFrom now state.slots slot := by
  obtain ⟨current, lease, hcur, -, -, -, rfl⟩ := attemptCodexQuotaRecoveryProbe_eq_some h
  have hmem : current ∈ state.slots := List.mem_of_getElem? hcur
  exact withSlot_comesFrom ((ComesFrom.mem hmem).step (.recovered account lease))

theorem reload_comesFrom (h : parseCodexAccountRoutingState state.toJson = some next) :
    ∀ slot ∈ next.slots, ComesFrom now state.slots slot := by
  rw [parseCodexAccountRoutingState_toJson] at h
  split_ifs at h
  rw [← Option.some.inj h]
  intro slot hmem
  obtain ⟨origin, horigin, rfl⟩ := List.mem_map.mp hmem
  exact (ComesFrom.mem horigin).step (.reread _)

/-- Every slot of the new state comes from one of the old. -/
theorem RoutingMutation.apply_slots {mutation : RoutingMutation}
    (h : mutation.apply now updatedAtMs state = some next) :
    ∀ slot ∈ next.slots, ComesFrom now state.slots slot := by
  cases mutation with
  | quotaBlock account body header primary secondary recoveryProbe =>
    obtain ⟨retryAtMs, source, hrty, -, -, -, -, rfl⟩ := quotaBlockTransition_eq_some h
    exact withSlot_comesFrom ((ComesFrom.slotFor state account).step
      (.blocked account body header primary secondary source retryAtMs recoveryProbe _ hrty))
  | releaseNonBlocking account =>
    obtain ⟨-, -, rfl⟩ := releaseNonBlockingQuotaProbe_eq_some h
    exact withSlot_comesFrom ((ComesFrom.slotFor state account).step (.released account))
  | success account =>
    obtain ⟨-, -, rfl⟩ := markCodexSuccess_eq_some h
    exact withSlot_comesFrom ((ComesFrom.slotFor state account).step (.succeeded account))
  | credentialInvalid account =>
    obtain ⟨-, rfl⟩ := markCodexCredentialInvalid_eq_some h
    exact withSlot_comesFrom ((ComesFrom.slotFor state account).step (.invalidated account))
  | upstreamTimeout account =>
    obtain ⟨-, rfl⟩ := markCodexUpstreamTimeout_eq_some h
    exact withSlot_comesFrom ((ComesFrom.slotFor state account).step (.timedOut account))
  | releaseProbe account =>
    obtain ⟨-, -, rfl⟩ := releaseCodexRoutingProbe_eq_some h
    exact withSlot_comesFrom ((ComesFrom.slotFor state account).step (.released account))
  | claimProbe account =>
    obtain ⟨lease, -, -, -, -, rfl⟩ := claimProbe_eq_some h
    exact withSlot_comesFrom ((ComesFrom.slotFor state account).step (.claimed account lease))
  | verifiedReset =>
    simp only [apply] at h
    split_ifs at h
    exact attemptCodexQuotaRecoveryProbe_comesFrom h
  | staleVerifiedReset =>
    simp only [apply] at h
    obtain ⟨current, -, h⟩ := Option.bind_eq_some_iff.mp h
    split_ifs at h
    exact attemptCodexQuotaRecoveryProbe_comesFrom h
  | capacityQuotaBlock account observation =>
    obtain ⟨resetAtMs, pending, hsafe, -, rfl⟩ := applyCapacityQuotaBlock_eq_some h
    intro slot hmem
    rcases List.mem_or_eq_of_mem_set hmem with hmem | rfl
    · exact .mem hmem
    · exact (ComesFrom.slotFor state account).step
        (.capacityBlocked account observation resetAtMs pending hsafe)
  | capacityObservation observation model =>
    obtain ⟨current, clearCircuit, hcur, rfl⟩ := applyCapacityObservation_eq_some h
    exact withSlot_comesFrom ((ComesFrom.mem (List.mem_of_getElem? hcur)).step
      (.capacityObserved observation model clearCircuit))
  | refreshCredential account =>
    obtain rfl := reconcileRoutingCredential_eq_some h
    refine withSlot_comesFrom ?_
    split_ifs
    · exact (ComesFrom.slotFor state account).step (.rotated _ _)
    · exact .neutral _ _
  | recheck =>
    obtain ⟨slot, hslot, rfl⟩ := recheckCodexRoutingSlot_eq_some h
    exact withSlot_comesFrom ((ComesFrom.mem (List.mem_of_getElem? hslot)).step .rechecked)
  | normalize =>
    rw [← Option.some.inj h]
    exact normalizeRoutingState_comesFrom
  | reload => exact reload_comesFrom h

/-! ### Runs -/

/-- One compare-and-swap of the row, at times that a clock shows. -/
def RoutingStep (state next : CodexAccountRoutingState) : Prop :=
  ∃ (now updatedAtMs : ℤ) (mutation : RoutingMutation), IsTime now ∧ IsTime updatedAtMs ∧
    mutation.apply now updatedAtMs state = some next

abbrev RoutingRun := Relation.ReflTransGen RoutingStep

theorem RoutingRun.forall_slots (hneu : ∀ slot, IsNeutral slot → P slot)
    (hstep : ∀ now slot slot', IsTime now → SlotStep now slot slot' → P slot → P slot')
    (hrun : RoutingRun state next) (hsta : ∀ slot ∈ state.slots, P slot) :
    ∀ slot ∈ next.slots, P slot := by
  induction hrun with
  | refl => exact hsta
  | tail _ hlast ih =>
    obtain ⟨now, updatedAtMs, mutation, hnow, -, happly⟩ := hlast
    intro slot hmem
    obtain ⟨origin, horigin, hstps⟩ := apply_slots happly slot hmem
    have hstr : P origin := horigin.elim (ih origin) (hneu origin)
    clear hmem
    induction hstps with
    | refl => exact hstr
    | tail _ hlast ih => exact hstep now _ _ hnow hlast ih

end UbqGateway.Codex
