import UbqGateway.Codex.Mutations

/-!
# Codex routing: reading back what was written

A routing row is written as JSON and parsed when it is read.  Reading back a slot drops what is not
a safe time, sorts the blocks by class, passes the reset identity of the slot on to the blocks that
share its deadline, and repairs the ambiguity of a first fence.  `reread` says all
of this in terms of the slot, so that the other proofs need not know the format.
-/

namespace UbqGateway.Codex

open CodexRoutingSlot

open Json (isSafeInteger maxSafeInteger)

/-! ### Blocks -/

variable (c : CodexQuotaClass)

theorem CodexQuotaClass.mem_quotaClassKeys : c ∈ quotaClassKeys := by
  cases c <;> decide

theorem CodexQuotaClass.key_injective {c d : CodexQuotaClass} (h : c.key = d.key) : c = d := by
  cases c <;> cases d <;> first | rfl | exact absurd h (by decide)

theorem quotaClassOfKey_key : quotaClassOfKey c.key = some c := by
  cases c <;> decide

theorem quotaClassOfKey_eq_some {c : CodexQuotaClass} (h : quotaClassOfKey value = some c) :
    value = c.key := by
  have := List.find?_some h
  exact (of_decide_eq_true this).symm

def CodexSlotClassBlockFields.share (fields : CodexSlotClassBlockFields) (blockedUntilMs : ℤ) :
    Bool := decide (fields.observedResetAtMs = some blockedUntilMs)

/-- A block as it is read back. -/
def CodexQuotaClassBlock.reread (block : CodexQuotaClassBlock)
    (fields : CodexSlotClassBlockFields) : CodexQuotaClassBlock :=
  { block with
    quotaSignalObservedAtMs := block.quotaSignalObservedAtMs.filter isSafeMs
    observedResetAtMs := (block.observedResetAtMs.filter isSafeMs).or
      (if fields.share block.blockedUntilMs = true ∧ fields.observedResetAtIsStable = true then
        fields.observedResetAtMs else none)
    observedResetAtIsStable := block.observedResetAtIsStable ||
      (fields.share block.blockedUntilMs && fields.observedResetAtIsStable)
    bankedResetGenerationAmbiguous := block.bankedResetGenerationAmbiguous ||
      (fields.share block.blockedUntilMs && fields.bankedResetGenerationAmbiguous)
    bankedResetRecoveryProbePending := block.bankedResetRecoveryProbePending ||
      (fields.share block.blockedUntilMs && fields.bankedResetRecoveryProbePending) }

theorem quotaBlockSourceOfKey_key (source : CodexQuotaBlockSource) :
    quotaBlockSourceOfKey source.key = some source := by
  cases source <;> rfl

theorem parseSlotClassBlock_toJson (block : CodexQuotaClassBlock) (c : CodexQuotaClass)
    (fields : CodexSlotClassBlockFields) : parseSlotClassBlock block.toJson c false fields
      = if isSafeMs block.blockedUntilMs = true then some (block.reread fields) else none := by
  have hutl : Json.safeNonNegative? (block.toJson.get "blocked_until_ms")
      = if isSafeMs block.blockedUntilMs = true then some block.blockedUntilMs else none := by
    show Json.safeNonNegative? (some (.int block.blockedUntilMs)) = _
    rw [Json.safeNonNegative?_int]
    simp [isSafeMs]
  have hsrc : (Json.string? (block.toJson.get "source")).bind quotaBlockSourceOfKey
      = some block.source := quotaBlockSourceOfKey_key block.source
  have hsig : Json.safeNonNegative? (block.toJson.get "quota_signal_observed_at_ms")
      = block.quotaSignalObservedAtMs.filter isSafeMs := Json.safeNonNegative?_ofOption _
  have hobs : Json.safeNonNegative? (block.toJson.get "observed_reset_at_ms")
      = block.observedResetAtMs.filter isSafeMs := Json.safeNonNegative?_ofOption _
  unfold parseSlotClassBlock
  rw [hutl, hsrc, hsig, hobs]
  by_cases hsafe : isSafeMs block.blockedUntilMs = true
  · rw [if_pos hsafe, if_pos hsafe]
    show some _ = some _
    unfold CodexQuotaClassBlock.reread CodexSlotClassBlockFields.share
    simp only [Option.some.injEq, CodexQuotaClassBlock.mk.injEq, true_and, Bool.and_false,
      Bool.or_false]
    exact ⟨rfl, rfl, rfl, rfl⟩
  · rw [if_neg hsafe, if_neg hsafe]
    rfl

/-- The blocks as they are written. -/
def blocksToJson (blocks : QuotaBlocks) : Json :=
  .obj (blocks.entries.map fun e => (e.1.key, e.2.toJson))

variable (blocks : QuotaBlocks)

theorem get_blocksToJson :
    (blocksToJson blocks).get c.key = (blocks.lookup c).map CodexQuotaClassBlock.toJson := by
  show (blocks.entries.map fun e => (e.1.key, e.2.toJson)).lookup c.key
    = (blocks.entries.lookup c).map CodexQuotaClassBlock.toJson
  induction blocks.entries with
  | nil => rfl
  | cons e _ ih =>
    rw [List.map_cons, Record.list_lookup_cons, Record.list_lookup_cons, ih]
    by_cases hc : e.1 = c
    · simp [hc]
    · have hkey : e.1.key ≠ c.key := fun h => hc (CodexQuotaClass.key_injective h)
      simp [hc, hkey]

theorem hasUnmarkedSyntheticLegacyUnknown_toJson :
    hasUnmarkedSyntheticLegacyUnknown (blocksToJson blocks) = false := by
  unfold hasUnmarkedSyntheticLegacyUnknown
  rw [show "unknown" = CodexQuotaClass.unknown.key from rfl, get_blocksToJson]
  cases blocks.lookup .unknown with
  | none | some block => rfl

theorem lookup_foldl_insert (f : CodexQuotaClass → Option CodexQuotaClassBlock)
    (cs : List CodexQuotaClass) (blocks : QuotaBlocks) (c : CodexQuotaClass) :
    (cs.foldl (fun blocks d => withParsedBlock blocks d (f d)) blocks).lookup c
      = if c ∈ cs then (f c).or (blocks.lookup c) else blocks.lookup c := by
  induction cs generalizing blocks with
  | nil => rfl
  | cons d _ ih =>
    rw [List.foldl_cons, ih]
    cases hd : f d with
    | none =>
      by_cases hc : c = d
      · subst hc
        simp [withParsedBlock, hd]
      · simp [withParsedBlock, hc]
    | some block =>
      simp only [withParsedBlock]
      rw [Record.lookup_insert]
      by_cases hc : c = d
      · subst hc
        simp [hd]
      · simp [hc]

theorem lookup_parseQuotaBlocksByClass (fields : CodexSlotClassBlockFields) (c : CodexQuotaClass) :
    (parseQuotaBlocksByClass (blocksToJson blocks) false fields).lookup c
      = (blocks.lookup c).bind fun block =>
        if isSafeMs block.blockedUntilMs = true then some (block.reread fields) else none := by
  unfold parseQuotaBlocksByClass
  rw [lookup_foldl_insert, if_pos c.mem_quotaClassKeys, get_blocksToJson]
  cases blocks.lookup c with
  | none => rfl
  | some block =>
    rw [Option.map_some, Option.bind_some, ← parseSlotClassBlock_toJson block c fields]
    show (parseSlotClassBlock block.toJson c false fields).or none = _
    rw [Option.or_none]

/-! ### Slots -/

/-- Whether the lease of the slot can be read back. -/
def CodexRoutingSlot.leaseReadable (slot : CodexRoutingSlot) : Bool :=
  slot.probeLease.all fun lease => isSafeMs lease.expiresAtMs && isSafeInteger lease.generation

/-- Whether the slot looks like the first fence after an ambiguous neutral slot. -/
def CodexRoutingSlot.isFirstBodyFence (slot : CodexRoutingSlot) : Bool :=
  decide (slot.generation = 1) && (slot.accountIdHash.filter fun hash =>
    decide (hash ≠ "")).isSome &&
    decide (slot.quotaBlockSource = some .bodyResetsAt) &&
    (slot.quotaBlockedUntilMs.filter isSafeMs).isSome &&
    decide (slot.observedResetAtMs.filter isSafeMs = slot.quotaBlockedUntilMs.filter isSafeMs) &&
    slot.observedResetAtIsStable && slot.probeLease.isNone && slot.invalidCredentialVersion.isNone

/-- The ambiguity of a slot that is read back. -/
def CodexRoutingSlot.rereadAmbiguous (slot : CodexRoutingSlot) (allowLegacyNeutralRepair : Bool) :
    Bool :=
  slot.bankedResetGenerationAmbiguous && !(allowLegacyNeutralRepair && slot.isFirstBodyFence)

/-- What a slot that is read back passes on to its blocks. -/
def CodexRoutingSlot.rereadFields (slot : CodexRoutingSlot) (allowLegacyNeutralRepair : Bool) :
    CodexSlotClassBlockFields :=
  ⟨slot.observedResetAtMs.filter isSafeMs, slot.observedResetAtIsStable,
    slot.rereadAmbiguous allowLegacyNeutralRepair, slot.bankedResetRecoveryProbePending⟩

/-- A slot as it is read back. -/
def CodexRoutingSlot.reread (slot : CodexRoutingSlot) (allowLegacyNeutralRepair : Bool) :
    CodexRoutingSlot :=
  { slot with
    accountIdHash := slot.accountIdHash.filter fun hash => decide (hash ≠ "")
    quotaBlockedUntilMs := slot.quotaBlockedUntilMs.filter isSafeMs
    quotaBlockedClasses := slot.quotaBlockedClasses.reverse.dedup.reverse
    quotaBlocksByClass := parseQuotaBlocksByClass (blocksToJson slot.quotaBlocksByClass) false
      (slot.rereadFields allowLegacyNeutralRepair)
    quotaSignalObservedAtMs := slot.quotaSignalObservedAtMs.filter isSafeMs
    capacityObservedAtMs := slot.capacityObservedAtMs.filter isSafeMs
    upstreamTimeoutBlockedUntilMs := slot.upstreamTimeoutBlockedUntilMs.filter isSafeMs
    observedResetAtMs := slot.observedResetAtMs.filter isSafeMs
    bankedResetGenerationAmbiguous := slot.rereadAmbiguous allowLegacyNeutralRepair
    generation := if isSafeMs slot.generation = true then slot.generation else 0 }

/-- A lease is read back if its numbers are safe. -/
theorem parseProbeLease_toJson (lease : CodexProbeLease) :
    parseProbeLease (some lease.toJson) (parseProbeLeaseCircuit (some lease.toJson))
      = if (isSafeMs lease.expiresAtMs && isSafeInteger lease.generation) = true then some lease
        else none := by
  have hcirc : parseProbeLeaseCircuit (some lease.toJson) = some lease.circuit := by
    obtain ⟨token, expiresAtMs, generation, circuit, quotaClass⟩ := lease
    cases circuit <;> rfl
  have hclas : parseProbeQuotaClass (lease.toJson.get "quota_class") = lease.quotaClass := by
    obtain ⟨token, expiresAtMs, generation, circuit, quotaClass⟩ := lease
    cases quotaClass with
    | none => rfl
    | some c => exact quotaClassOfKey_key c
  have hexp : Json.safeNonNegative? (lease.toJson.get "expires_at_ms")
      = if isSafeMs lease.expiresAtMs = true then some lease.expiresAtMs else none := by
    show Json.safeNonNegative? (some (.int lease.expiresAtMs)) = _
    rw [Json.safeNonNegative?_int]
    simp [isSafeMs]
  have hgen : Json.safeInteger? (lease.toJson.get "generation")
      = if isSafeInteger lease.generation = true then some lease.generation else none :=
    Json.safeInteger?_int lease.generation
  have hrcd : (some lease.toJson).filter Json.isRecord = some lease.toJson := rfl
  have htok : Json.string? (lease.toJson.get "token") = some lease.token := rfl
  rw [hcirc]
  simp only [parseProbeLease, hrcd, htok, hexp, hgen, hclas, Option.pure_def,
    Option.bind_eq_bind, Option.bind_some]
  by_cases hsafe : isSafeMs lease.expiresAtMs = true
  · by_cases hsafe' : isSafeInteger lease.generation = true
    · simp [hsafe, hsafe']
    · simp [hsafe, hsafe']
  · simp [hsafe]

section

variable (slot : CodexRoutingSlot)

theorem parseQuotaBlockSource_slot :
    parseQuotaBlockSource (slot.toJson.get "quota_block_source") = some slot.quotaBlockSource := by
  show parseQuotaBlockSource (some (.ofOption (fun source => .str source.key)
    slot.quotaBlockSource)) = _
  cases slot.quotaBlockSource with
  | none => rfl
  | some source =>
    show ((quotaBlockSourceOfKey source.key).map some) = _
    rw [quotaBlockSourceOfKey_key]
    rfl

theorem parseProbeLease_slot :
    parseProbeLease (slot.toJson.get "probe_lease")
        (parseProbeLeaseCircuit (slot.toJson.get "probe_lease"))
      = if slot.leaseReadable = true then slot.probeLease else none := by
  show parseProbeLease (some (.ofOption CodexProbeLease.toJson slot.probeLease))
    (parseProbeLeaseCircuit (some (.ofOption CodexProbeLease.toJson slot.probeLease))) = _
  unfold CodexRoutingSlot.leaseReadable
  cases slot.probeLease with
  | none => rfl
  | some lease => exact parseProbeLease_toJson lease

theorem isNull_probeLease : Json.isNull (slot.toJson.get "probe_lease") = slot.probeLease.isNone :=
  Json.isNull_ofOption (fun _ => Json.noConfusion) slot.probeLease

theorem parseStoredGeneration_slot :
    parseStoredGeneration (slot.toJson.get "generation")
      = if isSafeMs slot.generation = true then slot.generation else 0 := by
  show (Json.safeNonNegative? (some (.int slot.generation))).getD 0 = _
  rw [Json.safeNonNegative?_int]
  by_cases hsafe : isSafeMs slot.generation = true
  · rw [if_pos hsafe, if_pos (by simpa [isSafeMs] using hsafe)]
    rfl
  · rw [if_neg hsafe, if_neg (by simpa [isSafeMs] using hsafe)]
    rfl

/-- The ambiguity that is read back. -/
theorem rereadAmbiguous_eq (allow : Bool) :
    (!(allow && false || allow && isLegacyNeutralFirstBodyFence slot.toJson
        (slot.accountIdHash.filter fun hash => decide (hash ≠ ""))
        (slot.quotaBlockedUntilMs.filter isSafeMs) (slot.observedResetAtMs.filter isSafeMs)
        slot.observedResetAtIsStable slot.quotaBlockSource (slot.toJson.get "probe_lease")) &&
      !Json.isFalse (slot.toJson.get "banked_reset_generation_ambiguous"))
      = slot.rereadAmbiguous allow := by
  unfold isLegacyNeutralFirstBodyFence rereadAmbiguous isFirstBodyFence
  have hone : decide (Json.number? (slot.toJson.get "generation") = some 1)
      = decide (slot.generation = 1) := by
    refine decide_eq_decide.mpr ?_
    show some ((slot.generation : ℤ) : ℚ) = some 1 ↔ _
    rw [Option.some.injEq]
    exact_mod_cast Iff.rfl
  have hinvalidNull : Json.isNull (slot.toJson.get "invalid_credential_version")
      = slot.invalidCredentialVersion.isNone :=
    Json.isNull_ofOption (fun _ => Json.noConfusion) slot.invalidCredentialVersion
  have htrue : Json.isTrue (slot.toJson.get "banked_reset_generation_ambiguous")
      = slot.bankedResetGenerationAmbiguous := rfl
  have hfls : Json.isFalse (slot.toJson.get "banked_reset_generation_ambiguous")
      = !slot.bankedResetGenerationAmbiguous := rfl
  rw [hone, hinvalidNull, htrue, hfls, isNull_probeLease]
  cases slot.bankedResetGenerationAmbiguous <;> simp

end

/-- A slot is read back if its lease can be. -/
theorem parseSlot_toJson (slot : CodexRoutingSlot) (allow : Bool) : parseSlot slot.toJson allow
      = if slot.leaseReadable = true then some (slot.reread allow) else none := by
  have hcrd : Json.string? (slot.toJson.get "credential_version")
      = some slot.credentialVersion := rfl
  have hhash : parseAccountIdHash (slot.toJson.get "account_id_hash")
      = slot.accountIdHash.filter fun hash => decide (hash ≠ "") := by
    show (Json.string? (some (.ofOption .str slot.accountIdHash))).filter _ = _
    rw [Json.string?_ofOption]
  have hutl : Json.safeNonNegative? (slot.toJson.get "quota_blocked_until_ms")
      = slot.quotaBlockedUntilMs.filter isSafeMs := Json.safeNonNegative?_ofOption _
  have hobs : Json.safeNonNegative? (slot.toJson.get "observed_reset_at_ms")
      = slot.observedResetAtMs.filter isSafeMs := Json.safeNonNegative?_ofOption _
  have hsig : Json.safeNonNegative? (slot.toJson.get "quota_signal_observed_at_ms")
      = slot.quotaSignalObservedAtMs.filter isSafeMs := Json.safeNonNegative?_ofOption _
  have hcapacity : Json.safeNonNegative? (slot.toJson.get "capacity_observed_at_ms")
      = slot.capacityObservedAtMs.filter isSafeMs := Json.safeNonNegative?_ofOption _
  have htimeout : Json.safeNonNegative? (slot.toJson.get "upstream_timeout_blocked_until_ms")
      = slot.upstreamTimeoutBlockedUntilMs.filter isSafeMs := Json.safeNonNegative?_ofOption _
  have hinvd : Json.string? (slot.toJson.get "invalid_credential_version")
      = slot.invalidCredentialVersion := Json.string?_ofOption _
  have hprimary : Json.number? (slot.toJson.get "primary_used_percent")
      = slot.primaryUsedPercent := Json.number?_ofOption _
  have hsecondary : Json.number? (slot.toJson.get "secondary_used_percent")
      = slot.secondaryUsedPercent := Json.number?_ofOption _
  have hclss : parseQuotaBlockedClasses (slot.toJson.get "quota_blocked_classes")
      = slot.quotaBlockedClasses.reverse.dedup.reverse := by
    show (((slot.quotaBlockedClasses.map Json.str).mapM fun item =>
      Json.string? (some item)).getD []).reverse.dedup.reverse = _
    rw [Json.strings_arr]
    rfl
  have hblk : ((slot.toJson.get "quota_blocks_by_class").filter Json.isRecord).getD (.obj [])
      = blocksToJson slot.quotaBlocksByClass := rfl
  have hstb : Json.isTrue (slot.toJson.get "observed_reset_at_is_stable")
      = slot.observedResetAtIsStable := rfl
  have hpend : Json.isTrue (slot.toJson.get "banked_reset_recovery_probe_pending")
      = slot.bankedResetRecoveryProbePending := rfl
  have hexc : ∀ source lease, isExactLegacyNeutralSlot slot.toJson source lease = false :=
    fun _ _ => rfl
  unfold parseSlot
  simp only [hcrd, parseQuotaBlockSource_slot, parseProbeLease_slot, isNull_probeLease, hhash, hutl,
    hobs, hsig, hcapacity, htimeout, parseStoredGeneration_slot, hinvd, hprimary, hsecondary, hclss,
    hblk, hstb, hpend, hexc, rereadAmbiguous_eq, hasUnmarkedSyntheticLegacyUnknown_toJson, Option.bind_eq_bind,
    Option.bind_some, Option.pure_def]
  by_cases hreadable : slot.leaseReadable = true
  · have heq : ¬ (slot.probeLease.isNone = false ∧ slot.probeLease = none) := by
      rintro ⟨hsome, hno⟩
      rw [hno] at hsome
      cases hsome
    simp only [if_pos hreadable]
    rw [if_neg heq]
    rfl
  · have hsome : slot.probeLease.isNone = false := by
      cases hcase : slot.probeLease with
      | none =>
        unfold CodexRoutingSlot.leaseReadable at hreadable
        rw [hcase] at hreadable
        exact absurd rfl hreadable
      | some lease => rfl
    simp only [if_neg hreadable]
    rw [if_pos ⟨hsome, trivial⟩]

/-! ### The row -/

/-- The row as it is read back. -/
def CodexAccountRoutingState.reread (state : CodexAccountRoutingState) : CodexAccountRoutingState :=
  { state with slots := state.slots.map (·.reread !state.bankedResetLegacyIdentityUnresolved) }

theorem getElem?_reread {state : CodexAccountRoutingState} {index : ℕ}
    (h : state.slots[index]? = some slot) : state.reread.slots[index]?
      = some (slot.reread !state.bankedResetLegacyIdentityUnresolved) := by
  show (List.map _ _)[index]? = _
  rw [List.getElem?_map, h]
  rfl

theorem mapM_parseSlot (allow : Bool) (slots : List CodexRoutingSlot) :
    (slots.map toJson).mapM (fun slot => parseSlot slot allow)
      = if slots.all (·.leaseReadable) = true then some (slots.map (·.reread allow)) else none := by
  induction slots with
  | nil => rfl
  | cons slot slots ih =>
    rw [List.map_cons, List.mapM_cons, parseSlot_toJson, ih]
    by_cases hslot : slot.leaseReadable = true
    · by_cases hslt : slots.all (·.leaseReadable) = true
      · simp [hslot, hslt]
      · rw [if_pos hslot, if_neg hslt, List.all_cons, hslot, Bool.true_and, if_neg hslt]
        rfl
    · rw [if_neg hslot, List.all_cons, Bool.eq_false_iff.mpr hslot, Bool.false_and]
      rfl

theorem parseCodexAccountRoutingState_toJson (state : CodexAccountRoutingState) :
    parseCodexAccountRoutingState state.toJson
      = if isSafeMs state.updatedAtMs = true ∧ state.slots.all (·.leaseReadable) = true then
          some state.reread else none := by
  have hver : Json.number? (state.toJson.get "v") = some 2 := rfl
  have hupdated : Json.safeNonNegative? (state.toJson.get "updated_at_ms")
      = if isSafeMs state.updatedAtMs = true then some state.updatedAtMs else none := by
    show Json.safeNonNegative? (some (.int state.updatedAtMs)) = _
    rw [Json.safeNonNegative?_int]
    simp [isSafeMs]
  have hits : Json.items? (state.toJson.get "slots") = some (state.slots.map toJson) := rfl
  have hunr : Json.isTrue (state.toJson.get "banked_reset_legacy_identity_unresolved")
      = state.bankedResetLegacyIdentityUnresolved := rfl
  unfold parseCodexAccountRoutingState
  simp only [hver, hupdated, hits, hunr, mapM_parseSlot, ne_eq, not_true_eq_false,
    if_false, Option.bind_eq_bind, Option.bind_some, Option.pure_def]
  by_cases hsafe : isSafeMs state.updatedAtMs = true
  · by_cases hslt : state.slots.all (·.leaseReadable) = true
    · simp only [Option.bind_some, hsafe, hslt, and_self, if_true]
      rfl
    · simp [hsafe, hslt]
  · simp [hsafe]

end UbqGateway.Codex
