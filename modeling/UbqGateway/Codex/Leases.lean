import UbqGateway.Codex.Isolation

/-!
# Codex routing: probe leases

A probe is let through while its account is blocked, under a lease that the slot carries until the
result of the probe arrives or the lease expires.  `LeaseRun` records, for each slot, the leases
that were granted on it and that nothing but another grant has ended since.

A claim and the recovery of a stale reset wait for the lease before them to expire.  The recovery of
a verified reset does not: it overwrites whatever lease the slot carries.
-/

namespace UbqGateway.Codex

open RoutingMutation

/-! ### The results of probes -/

/-- The account of a probe whose result the transition reports. -/
def RoutingMutation.probeResult : RoutingMutation → Option CodexRoutingAccount
  | .success account => some account
  | .releaseProbe account => some account
  | .releaseNonBlocking account => some account
  | .quotaBlock account _ _ _ _ _ =>
    if account.probeGeneration.isSome = true then some account else none
  | .credentialInvalid account =>
    if account.probeGeneration.isSome = true then some account else none
  | .upstreamTimeout account => if account.probeGeneration.isSome = true then some account else none
  | _ => none

/-- The lease that the slot carries is the one of the probe: the token, the generation of the slot,
and the class if the lease names one. -/
def CarriesLeaseOf (slot : CodexRoutingSlot) (account : CodexRoutingAccount) : Prop :=
  ∃ lease, slot.probeLease = some lease ∧ some lease.token = account.probeToken ∧
    some slot.generation = account.probeGeneration ∧
    (lease.circuit = .quota →
      ∀ c, lease.quotaClass = some c → c = quotaClass account.requestedModel)

theorem carriesLeaseOf_of_matches (h : probeLeaseMatchesCodexRoutingAccount slot account = true) :
    CarriesLeaseOf slot account := by
  unfold probeLeaseMatchesCodexRoutingAccount at h
  obtain ⟨lease, hls, hmat⟩ := (Option.any_eq_true _ _).mp h
  obtain ⟨hgen, -, htok, hcirc, hclas⟩ := of_decide_eq_true hmat
  refine ⟨lease, hls, htok, hgen, fun hquo c hc => ?_⟩
  rcases hclas (hcirc.symm.trans hquo) with hno | hsome
  · rw [hno] at hc
    cases hc
  · rw [hsome] at hc
    exact (Option.some.inj hc).symm

variable {mutation : RoutingMutation}

/-- The result of a probe counts only for the lease that it carries. -/
theorem probeResult_matches (hres : mutation.probeResult = some account)
    (h : mutation.apply now updatedAtMs state = some next) :
    CarriesLeaseOf (slotFor state account) account := by
  cases mutation with
  | success =>
    cases hres
    exact carriesLeaseOf_of_matches (markCodexSuccess_eq_some h).2.1
  | releaseProbe =>
    cases hres
    exact carriesLeaseOf_of_matches (releaseCodexRoutingProbe_eq_some h).2.1
  | releaseNonBlocking =>
    cases hres
    exact carriesLeaseOf_of_matches (releaseNonBlockingQuotaProbe_eq_some h).2.1
  | quotaBlock =>
    simp only [probeResult] at hres
    split_ifs at hres with hprobe
    cases hres
    obtain ⟨_, _, -, -, -, -, hmatches, -⟩ := quotaBlockTransition_eq_some h
    exact carriesLeaseOf_of_matches (hmatches hprobe)
  | credentialInvalid =>
    simp only [probeResult] at hres
    split_ifs at hres with hprobe
    cases hres
    exact carriesLeaseOf_of_matches ((markCodexCredentialInvalid_eq_some h).1 hprobe)
  | upstreamTimeout =>
    simp only [probeResult] at hres
    split_ifs at hres with hprobe
    cases hres
    exact carriesLeaseOf_of_matches ((markCodexUpstreamTimeout_eq_some h).1 hprobe)
  | _ => cases hres

/-! ### Acquiring a lease -/

/-- The slot on which the transition acquires a lease. -/
def RoutingMutation.acquires : RoutingMutation → Option ℕ
  | .claimProbe account _ => some account.slot
  | .verifiedReset account _ _ _ => some account.slot
  | .staleVerifiedReset account _ _ _ => some account.slot
  | _ => none

/-- The slot carries no lease, or one that has expired. -/
def LeaseFree (now : ℤ) (state : CodexAccountRoutingState) (index : ℕ) : Prop :=
  ∀ slot lease, state.slots[index]? = some slot → slot.probeLease = some lease →
    lease.expiresAtMs ≤ now

/-- A verified reset is not recovered while the slot carries a lease in force. -/
def RoutingMutation.Waits (now : ℤ) (state : CodexAccountRoutingState) : RoutingMutation → Prop
  | .verifiedReset account _ _ _ => LeaseFree now state account.slot
  | _ => True

theorem LeaseFree.ofSlotFor
    (h : ((slotFor state account).probeLease.map (·.expiresAtMs)).getD 0 ≤ now) :
    LeaseFree now state account.slot := by
  intro slot lease hslot hls
  rw [slotFor_of_getElem? hslot, hls] at h
  exact h

/-- A lease is acquired only where none is running. -/
theorem acquires_eq_some (hacq : mutation.acquires = some index)
    (hwts : mutation.Waits now state) (h : mutation.apply now updatedAtMs state = some next) :
    LeaseFree now state index ∧ ∃ slot lease, slot.probeLease = some lease ∧
      lease.expiresAtMs = now + halfOpenLeaseMs ∧
      next = withSlot state index slot updatedAtMs := by
  cases mutation with
  | claimProbe =>
    cases hacq
    obtain ⟨lease, -, hexpires, -, hfree, rfl⟩ := claimProbe_eq_some h
    exact ⟨.ofSlotFor hfree, _, lease, rfl, hexpires, rfl⟩
  | verifiedReset =>
    cases hacq
    simp only [apply] at h
    split_ifs at h
    obtain ⟨current, lease, -, rfl, -, -, rfl⟩ := attemptCodexQuotaRecoveryProbe_eq_some h
    exact ⟨hwts, _, _, rfl, rfl, rfl⟩
  | staleVerifiedReset =>
    cases hacq
    simp only [apply] at h
    obtain ⟨current, hcur, h⟩ := Option.bind_eq_some_iff.mp h
    split_ifs at h with helig
    obtain ⟨_, lease, -, rfl, -, -, rfl⟩ := attemptCodexQuotaRecoveryProbe_eq_some h
    refine ⟨fun slot old hslot hold => ?_, _, _, rfl, rfl, rfl⟩
    rw [hcur] at hslot
    cases hslot
    unfold staleVerifiedResetProbeEligible at helig
    have hexp := of_decide_eq_true (Bool.and_eq_true_iff.mp helig).2
    rw [hold] at hexp
    exact hexp
  | _ => cases hacq

/-! ### The lease of a slot that nothing is acquired on -/

/-- The lease is taken off, or is the same lease, perhaps with another generation. -/
def LeaseKept (old new : Option CodexProbeLease) : Prop :=
  new = none ∨ ∃ lease lease', old = some lease ∧ new = some lease' ∧ lease'.token = lease.token ∧
    lease'.expiresAtMs = lease.expiresAtMs

theorem LeaseKept.refl (lease : Option CodexProbeLease) : LeaseKept lease lease := by
  cases lease with
  | none => exact .inl rfl
  | some lease => exact .inr ⟨lease, lease, rfl, rfl, rfl, rfl⟩

theorem LeaseKept.trans (h : LeaseKept first second) (h' : LeaseKept second third) :
    LeaseKept first third := by
  rcases h' with rfl | ⟨lease, lease', rfl, rfl, htok, hexp⟩
  · exact .inl rfl
  · rcases h with h | ⟨origin, middle, rfl, hmiddle, htok', hexp'⟩
    · cases h
    · cases hmiddle
      exact .inr ⟨origin, lease', rfl, rfl, htok.trans htok', hexp.trans hexp'⟩

theorem leaseKept_discarded (slot : CodexRoutingSlot) :
    LeaseKept slot.probeLease (withoutLegacyTimeoutCircuit slot).probeLease := by
  unfold withoutLegacyTimeoutCircuit
  split_ifs
  · exact .refl _
  · show LeaseKept slot.probeLease (slot.probeLease.filter _)
    cases slot.probeLease with
    | none => exact .inl rfl
    | some lease =>
      rw [Option.filter_some]
      split_ifs
      · exact .refl _
      · exact .inl rfl

theorem leaseKept_rotated (slot : CodexRoutingSlot) (accountIdHash credentialVersion : String) :
    LeaseKept slot.probeLease
      (rotateCredentialForSameAccount slot accountIdHash credentialVersion).probeLease := by
  show LeaseKept slot.probeLease (slot.probeLease.map _)
  cases slot.probeLease with
  | none => exact .inl rfl
  | some lease => exact .inr ⟨lease, _, rfl, rfl, rfl, rfl⟩

theorem leaseKept_normalizedFrom (prior : CodexRoutingSlot) (index : ℕ)
    (identity : CodexRoutingIdentity) (discard : Bool) :
    LeaseKept prior.probeLease (normalizedFrom prior index identity discard).slot.probeLease := by
  have hdisc : LeaseKept prior.probeLease
      (if discard = true then withoutLegacyTimeoutCircuit prior else prior).probeLease := by
    split_ifs
    · exact leaseKept_discarded prior
    · exact .refl _
  unfold normalizedFrom
  dsimp only
  generalize (if discard = true then withoutLegacyTimeoutCircuit prior else prior) = discarded
    at hdisc ⊢
  split_ifs
  · exact hdisc.trans (leaseKept_discarded _)
  · exact hdisc.trans (leaseKept_discarded _)
  · exact hdisc.trans (leaseKept_discarded (attachLegacyAccountIdentity discarded _))
  · exact (hdisc.trans (leaseKept_rotated _ _ _)).trans (leaseKept_discarded _)

theorem leaseKept_capacityObservedSlot (current : CodexRoutingSlot)
    (observation : CodexCapacityRoutingObservation) (c : CodexQuotaClass) (clearCircuit : Bool) :
    LeaseKept current.probeLease (capacityObservedSlot current (if clearCircuit = true then
      withoutRequestedClass current c else current) observation clearCircuit).probeLease := by
  have hcleared : (if clearCircuit = true then withoutRequestedClass current c
      else current).probeLease = current.probeLease := by
    split_ifs
    · unfold withoutRequestedClass withoutQuotaClass withLegacyQuotaClassMap
      split_ifs <;> rfl
    · rfl
  unfold capacityObservedSlot
  dsimp only
  generalize (if clearCircuit = true then withoutRequestedClass current c else current) = cleared
    at hcleared ⊢
  split_ifs
  · show LeaseKept _ cleared.probeLease
    rw [hcleared]
    exact .refl _
  · exact .refl _
  · show LeaseKept _ cleared.probeLease
    rw [hcleared]
    exact .refl _
  · exact .inl rfl

/-- The slot at an index after a transition, and the one whose lease it carries. -/
def CarriesOn (state : CodexAccountRoutingState) (origin : ℕ) (slot : CodexRoutingSlot) : Prop :=
  slot.probeLease = none ∨
    ∃ current, state.slots[origin]? = some current ∧ LeaseKept current.probeLease slot.probeLease

theorem CarriesOn.ofSlotFor (h : LeaseKept (slotFor state account).probeLease slot.probeLease) :
    CarriesOn state account.slot slot := by
  cases hcur : state.slots[account.slot]? with
  | none =>
    have hneu : (slotFor state account).probeLease = none := by
      unfold slotFor
      rw [hcur]
      rfl
    rw [hneu] at h
    rcases h with h | ⟨_, _, h, -, -, -⟩
    · exact .inl h
    · cases h
  | some current =>
    rw [slotFor_of_getElem? hcur] at h
    exact .inr ⟨current, hcur, h⟩

variable {i : ℕ}

theorem withSlot_carriesOn_ne (hi : index ≠ i)
    (hslot : (withSlot state index slot updatedAtMs).slots[i]? = some slot') :
    CarriesOn state i slot' := by
  have hoth : (state.slots ++ List.replicate (index + 1 - state.slots.length)
      (neutralSlot slot.credentialVersion slot.accountIdHash))[i]? = some slot' := by
    rw [← hslot]
    exact (List.getElem?_set_ne hi).symm
  rw [List.getElem?_append] at hoth
  split_ifs at hoth
  · exact .inr ⟨slot', hoth, .refl _⟩
  · rw [List.eq_of_mem_replicate (List.mem_of_getElem? hoth)]
    exact .inl rfl

theorem withSlot_carriesOn (h : CarriesOn state index slot)
    (hslot : (withSlot state index slot updatedAtMs).slots[i]? = some slot') :
    CarriesOn state i slot' := by
  by_cases hi : index = i
  · subst hi
    rw [getElem?_withSlot] at hslot
    rw [← Option.some.inj hslot]
    exact h
  · exact withSlot_carriesOn_ne hi hslot

/-- The index of the slot that each identity takes, as `normalizeSlots` finds it. -/
def priorIndices (priorSlots : List CodexRoutingSlot) :
    ℕ → List ℕ → List CodexRoutingIdentity → List (Option ℕ)
  | _, _, [] => []
  | index, usedPriorSlots, identity :: identities =>
    match priorFor priorSlots usedPriorSlots index identity with
    | none => none :: priorIndices priorSlots (index + 1) usedPriorSlots identities
    | some (priorIndex, _) =>
      some priorIndex :: priorIndices priorSlots (index + 1)
        (priorIndex :: usedPriorSlots) identities

/-- The slot whose lease the slot at an index carries on. -/
def RoutingMutation.origin (state : CodexAccountRoutingState) (index : ℕ) :
    RoutingMutation → Option ℕ
  | .normalize identities _ => (priorIndices state.slots 0 [] identities)[index]?.bind id
  | _ => some index

theorem normalizeSlots_carriesOn (discard : Bool) (identities : List CodexRoutingIdentity)
    (index : ℕ) (used : List ℕ)
    (h : (normalizeSlots state.slots discard index used identities).1[i]? = some normalized) :
    normalized.slot.probeLease = none ∨
      ∃ origin, (priorIndices state.slots index used identities)[i]?.bind id = some origin ∧
        CarriesOn state origin normalized.slot := by
  induction identities generalizing index used i with
  | nil => cases h
  | cons identity _ ih =>
    rw [normalizeSlots] at h
    rw [priorIndices]
    cases hpri : priorFor state.slots used index identity with
    | none =>
      rw [hpri] at h
      cases i with
      | zero =>
        rw [← Option.some.inj h]
        exact .inl rfl
      | succ i => exact ih _ _ h
    | some entry =>
      rw [hpri] at h
      cases i with
      | zero =>
        rw [← Option.some.inj h]
        exact .inr ⟨entry.1, rfl, .inr ⟨entry.2, mem_of_priorFor hpri,
          leaseKept_normalizedFrom _ _ _ _⟩⟩
      | succ i => exact ih _ _ h

/-- Every other lease is carried on or dropped. -/
theorem RoutingMutation.carriesOn (h : mutation.apply now updatedAtMs state = some next)
    (hslot : next.slots[i]? = some slot) (hacq : mutation.acquires ≠ some i) :
    slot.probeLease = none ∨
      ∃ origin, mutation.origin state i = some origin ∧ CarriesOn state origin slot := by
  have hwr : ∀ {account : CodexRoutingAccount} {written : CodexRoutingSlot},
      LeaseKept (slotFor state account).probeLease written.probeLease →
      next = withSlot state account.slot written updatedAtMs → CarriesOn state i slot := by
    rintro account written hkept rfl
    exact withSlot_carriesOn (.ofSlotFor hkept) hslot
  cases mutation with
  | quotaBlock =>
    obtain ⟨retryAtMs, source, -, -, -, -, -, hnext⟩ := quotaBlockTransition_eq_some h
    refine .inr ⟨i, rfl, hwr ?_ hnext⟩
    show LeaseKept _ (if _ then _ else _)
    split_ifs
    · exact .refl _
    · exact .inl rfl
  | releaseNonBlocking =>
    exact .inr ⟨i, rfl, hwr (.inl rfl) (releaseNonBlockingQuotaProbe_eq_some h).2.2⟩
  | success => exact .inr ⟨i, rfl, hwr (.inl rfl) (markCodexSuccess_eq_some h).2.2⟩
  | credentialInvalid =>
    exact .inr ⟨i, rfl, hwr (.inl rfl) (markCodexCredentialInvalid_eq_some h).2⟩
  | upstreamTimeout =>
    exact .inr ⟨i, rfl, hwr (.inl rfl) (markCodexUpstreamTimeout_eq_some h).2⟩
  | releaseProbe =>
    exact .inr ⟨i, rfl, hwr (.inl rfl) (releaseCodexRoutingProbe_eq_some h).2.2⟩
  | claimProbe =>
    obtain ⟨lease, -, -, -, -, rfl⟩ := claimProbe_eq_some h
    exact .inr ⟨i, rfl, withSlot_carriesOn_ne (fun hi => hacq (congrArg some hi)) hslot⟩
  | verifiedReset =>
    simp only [apply] at h
    split_ifs at h
    obtain ⟨current, lease, -, -, -, -, rfl⟩ := attemptCodexQuotaRecoveryProbe_eq_some h
    exact .inr ⟨i, rfl, withSlot_carriesOn_ne (fun hi => hacq (congrArg some hi)) hslot⟩
  | staleVerifiedReset =>
    simp only [apply] at h
    obtain ⟨current, -, h⟩ := Option.bind_eq_some_iff.mp h
    split_ifs at h
    obtain ⟨_, lease, -, -, -, -, rfl⟩ := attemptCodexQuotaRecoveryProbe_eq_some h
    exact .inr ⟨i, rfl, withSlot_carriesOn_ne (fun hi => hacq (congrArg some hi)) hslot⟩
  | capacityQuotaBlock =>
    obtain ⟨resetAtMs, pending, -, hno, rfl⟩ := applyCapacityQuotaBlock_eq_some h
    refine .inr ⟨i, rfl, ?_⟩
    rw [List.getElem?_set] at hslot
    split_ifs at hslot
    · rw [← Option.some.inj hslot]
      exact .inl hno
    · exact .inr ⟨slot, hslot, .refl _⟩
  | capacityObservation observation =>
    obtain ⟨current, clearCircuit, hcur, rfl⟩ := applyCapacityObservation_eq_some h
    exact .inr ⟨i, rfl, withSlot_carriesOn (.inr ⟨current, hcur,
      leaseKept_capacityObservedSlot current observation _ clearCircuit⟩) hslot⟩
  | refreshCredential =>
    refine .inr ⟨i, rfl, hwr ?_ (reconcileRoutingCredential_eq_some h)⟩
    split_ifs
    · exact leaseKept_rotated _ _ _
    · exact .inl rfl
  | recheck =>
    obtain ⟨current, -, rfl⟩ := recheckCodexRoutingSlot_eq_some h
    exact .inr ⟨i, rfl, withSlot_carriesOn (.inl rfl) hslot⟩
  | normalize identities discard =>
    rw [← Option.some.inj h] at hslot
    have hmap : ((normalizeSlots state.slots discard 0 [] identities).1.map (·.slot))[i]? =
      some slot :=
      hslot
    rw [List.getElem?_map] at hmap
    obtain ⟨normalized, hnorm, rfl⟩ := Option.map_eq_some_iff.mp hmap
    exact normalizeSlots_carriesOn discard identities 0 [] hnorm
  | reload =>
    have hparse : parseCodexAccountRoutingState state.toJson = some next := h
    rw [parseCodexAccountRoutingState_toJson] at hparse
    split_ifs at hparse
    rw [← Option.some.inj hparse] at hslot
    have hmap : (state.slots.map _)[i]? = some slot := hslot
    rw [List.getElem?_map] at hmap
    obtain ⟨current, hcur, rfl⟩ := Option.map_eq_some_iff.mp hmap
    exact .inr ⟨i, rfl, .inr ⟨current, hcur, .refl _⟩⟩

/-! ### The log -/

/-- A lease, and the time at which it was granted. -/
structure Grant where
  grantedAtMs : ℤ
  lease : CodexProbeLease

/-- The lease is in force at a time. -/
def Grant.InForce (grant : Grant) (t : ℤ) : Prop :=
  grant.grantedAtMs ≤ t ∧ t < grant.lease.expiresAtMs

/-- The grants that are on record for a slot. -/
def grantsAt (held : List (List Grant)) (index : ℕ) : List Grant := held[index]?.getD []

/-- The grants on record for a slot after a transition.  A slot that carries no lease has none on
record; an acquisition adds one to those of its slot; otherwise they move with the slot. -/
def grantsAfter (mutation : RoutingMutation) (now : ℤ) (state : CodexAccountRoutingState)
    (held : List (List Grant)) (index : ℕ) : Option CodexProbeLease → List Grant
  | none => []
  | some lease =>
    if mutation.acquires = some index then ⟨now, lease⟩ :: grantsAt held index
    else ((mutation.origin state index).map (grantsAt held)).getD []

/-- The grants on record after a transition. -/
def heldAfter (mutation : RoutingMutation) (now : ℤ) (state next : CodexAccountRoutingState)
    (held : List (List Grant)) : List (List Grant) :=
  next.slots.mapIdx fun index slot => grantsAfter mutation now state held index slot.probeLease

/-- The rows of a run, with the grants on record, in which no verified reset is recovered while its
slot carries a lease in force.  The run starts from a row without leases. -/
inductive LeaseRun : CodexAccountRoutingState → List (List Grant) → Prop
  | start (state : CodexAccountRoutingState)
    (hno : ∀ slot ∈ state.slots, slot.probeLease = none) :
      LeaseRun state []
  | step {state next : CodexAccountRoutingState} {held : List (List Grant)}
    (hrun : LeaseRun state held)
      (now updatedAtMs : ℤ) (mutation : RoutingMutation) (hwts : mutation.Waits now state)
      (hnext : mutation.apply now updatedAtMs state = some next) :
      LeaseRun next (heldAfter mutation now state next held)

/-- The grants on record belong to the lease of the slot: it is the newest of them, and each was
granted after the one before it had expired. -/
structure HeldBy (lease : Option CodexProbeLease) (grants : List Grant) : Prop where
  ordered : grants.Pairwise fun newer older => older.lease.expiresAtMs ≤ newer.grantedAtMs
  length : ∀ grant ∈ grants, grant.lease.expiresAtMs = grant.grantedAtMs + halfOpenLeaseMs
  newest : ∀ l, lease = some l → ∃ grant older, grants = grant :: older ∧
    grant.lease.token = l.token ∧ grant.lease.expiresAtMs = l.expiresAtMs
  absent : lease = none → grants = []

theorem HeldBy.empty : HeldBy none [] :=
  ⟨.nil, fun _ h => absurd h List.not_mem_nil, nofun, fun _ => rfl⟩

theorem HeldBy.kept (h : HeldBy lease grants) (hkept : LeaseKept lease lease')
    (hsome : lease' ≠ none) : HeldBy lease' grants := by
  rcases hkept with hno | ⟨old, new, rfl, rfl, htok, hexp⟩
  · exact absurd hno hsome
  · refine ⟨h.ordered, h.length, ?_, fun hno => absurd hno hsome⟩
    intro l hl
    cases hl
    obtain ⟨grant, older, hgrants, hgrantToken, hgrantExpires⟩ := h.newest old rfl
    exact ⟨grant, older, hgrants, hgrantToken.trans htok.symm, hgrantExpires.trans hexp.symm⟩

theorem HeldBy.granted (h : HeldBy lease grants)
    (hexp : ∀ l, lease = some l → l.expiresAtMs ≤ now)
    (hnew : new.expiresAtMs = now + halfOpenLeaseMs) :
    HeldBy (some new) (⟨now, new⟩ :: grants) := by
  have hbef : ∀ grant ∈ grants, grant.lease.expiresAtMs ≤ now := by
    intro grant hmem
    cases lease with
    | none =>
      rw [h.absent rfl] at hmem
      exact absurd hmem List.not_mem_nil
    | some l =>
      obtain ⟨newest, older, rfl, -, hexpires⟩ := h.newest l rfl
      have hlast : newest.lease.expiresAtMs ≤ now := hexpires.le.trans (hexp l rfl)
      rcases List.mem_cons.mp hmem with rfl | hmem
      · exact hlast
      · -- it had expired when the newest was granted
        have hle := (List.pairwise_cons.mp h.ordered).1 grant hmem
        have hlen := h.length newest List.mem_cons_self
        unfold halfOpenLeaseMs at hlen
        omega
  refine ⟨List.pairwise_cons.mpr ⟨hbef, h.ordered⟩, ?_, ?_, nofun⟩
  · intro grant hmem
    rcases List.mem_cons.mp hmem with rfl | hmem
    · exact hnew
    · exact h.length grant hmem
  · intro l hl
    cases hl
    exact ⟨_, grants, rfl, rfl, rfl⟩

theorem HeldBy.exclusive (h : HeldBy lease grants) (hgrt : grant ∈ grants)
    (hgrt' : grant' ∈ grants) (hfrc : grant.InForce t) (hfrc' : grant'.InForce t) :
    grant = grant' := by
  have hordered := h.ordered
  clear h
  induction grants with
  | nil => exact absurd hgrt List.not_mem_nil
  | cons _ _ ih =>
    obtain ⟨hfst, hrest⟩ := List.pairwise_cons.mp hordered
    unfold Grant.InForce at hfrc hfrc'
    rcases List.mem_cons.mp hgrt with rfl | hgrt
    · rcases List.mem_cons.mp hgrt' with rfl | hgrt'
      · rfl
      · have := hfst grant' hgrt'
        omega
    · rcases List.mem_cons.mp hgrt' with heq | hgrt'
      · have := hfst grant hgrt
        rw [heq] at hfrc'
        omega
      · exact ih hgrt hgrt' hrest

/-- The grants on record for every slot belong to its lease. -/
structure Recorded (state : CodexAccountRoutingState) (held : List (List Grant)) : Prop where
  slots : ∀ i slot, state.slots[i]? = some slot → HeldBy slot.probeLease (grantsAt held i)
  rest : ∀ i, state.slots[i]? = none → grantsAt held i = []

theorem grantsAt_heldAfter (mutation : RoutingMutation) (now : ℤ)
    (state next : CodexAccountRoutingState) (held : List (List Grant)) (i : ℕ) :
    grantsAt (heldAfter mutation now state next held) i
      = (next.slots[i]?.map fun slot =>
        grantsAfter mutation now state held i slot.probeLease).getD [] := by
  unfold heldAfter
  rw [grantsAt, List.getElem?_mapIdx]

/-- **The step**: the state holds the leases on record. -/
theorem Recorded.step (h : Recorded state held) (hwts : mutation.Waits now state)
    (hnext : mutation.apply now updatedAtMs state = some next) :
    Recorded next (heldAfter mutation now state next held) := by
  refine ⟨fun i slot hslot => ?_, fun i hno => ?_⟩
  · rw [grantsAt_heldAfter, hslot, Option.map_some, Option.getD_some]
    by_cases hacq : mutation.acquires = some i
    · obtain ⟨hfree, written, lease, hls, hexp, rfl⟩ :=
        acquires_eq_some hacq hwts hnext
      rw [getElem?_withSlot] at hslot
      cases hslot
      rw [hls, grantsAfter, if_pos hacq]
      cases hcur : state.slots[i]? with
      | none =>
        rw [h.rest i hcur]
        exact HeldBy.empty.granted (nofun) hexp
      | some current =>
        exact (h.slots i current hcur).granted (fun l hl => hfree current l hcur hl) hexp
    · rcases carriesOn hnext hslot hacq with hno | ⟨origin, horigin, hcarries⟩
      · rw [hno]
        exact .empty
      · cases hls : slot.probeLease with
        | none => exact .empty
        | some lease =>
          rw [grantsAfter, if_neg hacq, horigin, Option.map_some, Option.getD_some]
          rcases hcarries with hno | ⟨current, hcur, hkept⟩
          · rw [hno] at hls
            cases hls
          · rw [hls] at hkept
            exact (h.slots origin current hcur).kept hkept (Option.some_ne_none lease)
  · rw [grantsAt_heldAfter, hno]
    rfl

theorem LeaseRun.recorded (hrun : LeaseRun state held) : Recorded state held := by
  induction hrun with
  | start _ hno =>
    refine ⟨fun i slot hslot => ?_, fun _ _ => rfl⟩
    rw [hno slot (List.mem_of_getElem? hslot)]
    exact .empty
  | step _ _ _ _ hwts hnext ih => exact ih.step hwts hnext

/-- In every run in which verified resets wait for the lease of their slot, a slot has at most one
lease in force at a time, a second acquisition before it has expired is refused, and so is a probe
result that is not the one of the lease. -/
theorem lease_exclusive {held : List (List Grant)} (hrun : LeaseRun state held) :
    (∀ i slot, state.slots[i]? = some slot →
      (∀ t, ∀ grant ∈ grantsAt held i, ∀ grant' ∈ grantsAt held i,
        grant.InForce t → grant'.InForce t → grant = grant') ∧
      ∀ lease, slot.probeLease = some lease → ∃ grant older, grantsAt held i = grant :: older ∧
        grant.lease.token = lease.token ∧ grant.lease.expiresAtMs = lease.expiresAtMs) ∧
    (∀ (now updatedAtMs : ℤ) (mutation : RoutingMutation) (i : ℕ) (slot : CodexRoutingSlot)
      (lease : CodexProbeLease), mutation.acquires = some i → mutation.Waits now state →
      state.slots[i]? = some slot → slot.probeLease = some lease → now < lease.expiresAtMs →
      mutation.apply now updatedAtMs state = none) ∧
    ∀ (now updatedAtMs : ℤ) (mutation : RoutingMutation) (account : CodexRoutingAccount),
      mutation.probeResult = some account → ¬ CarriesLeaseOf (slotFor state account) account →
      mutation.apply now updatedAtMs state = none := by
  refine ⟨fun i slot hslot => ⟨fun t grant hgrt grant' hgrt' hfrc hfrc' => ?_,
    fun lease hls => ?_⟩, ?_, ?_⟩
  · exact (hrun.recorded.slots i slot hslot).exclusive hgrt hgrt' hfrc hfrc'
  · exact (hrun.recorded.slots i slot hslot).newest lease hls
  · intro now updatedAtMs mutation i slot lease hacq hwts hslot hls hfrc
    cases hnext : mutation.apply now updatedAtMs state with
    | none => rfl
    | some next =>
      have hexp := (acquires_eq_some hacq hwts hnext).1 slot lease hslot hls
      exact absurd hfrc (not_lt.mpr hexp)
  · intro now updatedAtMs mutation account hres hcarries
    cases hnext : mutation.apply now updatedAtMs state with
    | none => rfl
    | some next => exact absurd (probeResult_matches hres hnext) hcarries

/-- The spark model is refused for a second. -/
def sparkLimited : CodexAccountRoutingState :=
  ((sampleLimit "gpt-5.3-codex-spark" 1).apply 1000 1000 sampleState).getD sampleState

/-- Another model is refused until a date. -/
def bothLimited : CodexAccountRoutingState :=
  ((quotaBlock (sampleAccount "gpt-5") ⟨true, none⟩ (some (.imfFixdate 60000)) none none
    false).apply 1500 1500 sparkLimited).getD sampleState

/-- A probe of the spark model is claimed when its block has ended. -/
def sparkClaimed : CodexAccountRoutingState :=
  ((claimProbe (sampleAccount "gpt-5.3-codex-spark") "spark").apply 3000 3000
    bothLimited).getD sampleState

theorem sparkClaimed_run : ∃ held, LeaseRun sparkClaimed held := by
  have hfst : (sampleLimit "gpt-5.3-codex-spark" 1).apply 1000 1000 sampleState
      = some sparkLimited := by decide +kernel
  have hsnd : (quotaBlock (sampleAccount "gpt-5") ⟨true, none⟩
      (some (.imfFixdate 60000)) none none false).apply 1500 1500 sparkLimited =
        some bothLimited := by
    decide +kernel
  have hthd : (claimProbe (sampleAccount "gpt-5.3-codex-spark") "spark").apply 3000
      3000 bothLimited = some sparkClaimed := by decide +kernel
  have hno : ∀ slot ∈ sampleState.slots, slot.probeLease = none := by decide +kernel
  have hrunFirst := (LeaseRun.start sampleState hno).step 1000 1000 _
    (show RoutingMutation.Waits 1000 sampleState (sampleLimit "gpt-5.3-codex-spark" 1) from trivial)
    hfst
  have hrunSecond := hrunFirst.step 1500 1500 (.quotaBlock (sampleAccount "gpt-5") ⟨true, none⟩
    (some (.imfFixdate 60000)) none none false) trivial hsnd
  exact ⟨_, hrunSecond.step 3000 3000 (.claimProbe (sampleAccount "gpt-5.3-codex-spark") "spark")
    trivial
    hthd⟩

/-- A second claim is refused while the lease is in force. -/
theorem lease_exclusive_claimed :
    (claimProbe (sampleAccount "gpt-5.3-codex-spark") "other").apply 4000 4000
      sparkClaimed = none := by
  obtain ⟨held, hrun⟩ := sparkClaimed_run
  have hslot : ∃ slot lease, sparkClaimed.slots[0]? = some slot ∧ slot.probeLease = some lease ∧
      (4000 : ℤ) < lease.expiresAtMs := by
    have hfrc : sparkClaimed.slots[0]?.any (fun slot => slot.probeLease.any fun lease =>
        decide ((4000 : ℤ) < lease.expiresAtMs)) = true := by decide +kernel
    obtain ⟨slot, hslot, hls⟩ := (Option.any_eq_true _ _).mp hfrc
    obtain ⟨lease, hls, hfrc⟩ := (Option.any_eq_true _ _).mp hls
    exact ⟨slot, lease, hslot, hls, of_decide_eq_true hfrc⟩
  obtain ⟨slot, lease, hslot, hls, hfrc⟩ := hslot
  exact (lease_exclusive hrun).2.1 4000 4000 _ 0 slot lease rfl trivial hslot hls hfrc

/-- The recovery of a verified reset of the other model overwrites the lease that is in force. -/
theorem lease_exclusive_overwritten : ∃ held, LeaseRun sparkClaimed held ∧ ∃ next,
    (verifiedReset (sampleAccount "gpt-5") 60000 2 "reset").apply 4000 4000 sparkClaimed
      = some next ∧
    sparkClaimed.slots.map (·.probeLease.map fun lease => (lease.token, lease.expiresAtMs))
      = [some ("spark", 33000)] ∧
    next.slots.map (·.probeLease.map fun lease => (lease.token, lease.expiresAtMs))
      = [some ("reset", 34000)] := by
  obtain ⟨held, hrun⟩ := sparkClaimed_run
  have hsome : ((verifiedReset (sampleAccount "gpt-5") 60000 2 "reset").apply 4000 4000
      sparkClaimed).map (fun next => next.slots.map
        (·.probeLease.map fun lease => (lease.token, lease.expiresAtMs)))
      = some [some ("reset", 34000)] := by decide +kernel
  obtain ⟨next, hnext, hslt⟩ := Option.map_eq_some_iff.mp hsome
  exact ⟨held, hrun, next, hnext, by decide +kernel, hslt⟩

end UbqGateway.Codex
