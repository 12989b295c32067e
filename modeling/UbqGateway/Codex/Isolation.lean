import UbqGateway.Codex.Summary

/-!
# Codex routing: a signal for one class and the blocks of the others

The blocks of the classes share the fields of the slot: a slot of an older release has no blocks of
its own, and its summary stands for all classes.  A rate-limit response, a success, the release of a
probe and a capacity observation first write the summary out as blocks, and then change only the
block of their class, or the block `unknown` that the summary was copied to.

One path does not write the summary out: the success of a probe of the timeout circuit.  On a slot
that has nothing but a summary it erases the reset identity of all classes.  It keeps their
deadlines.
-/

namespace UbqGateway.Codex

open RoutingMutation

/-- The block of a class in a slot of the row. -/
def blockAt (state : CodexAccountRoutingState) (index : ℕ) (c : CodexQuotaClass) :
    Option CodexQuotaClassBlock :=
  state.slots[index]?.bind fun slot => (quotaBlocksIncludingLegacy slot).lookup c

/-- Whether the block of the class is the copy of a summary under the class `unknown`. -/
def isSyntheticUnknown (c : CodexQuotaClass) (block : Option CodexQuotaClassBlock) : Bool :=
  decide (c = .unknown) && block.any (·.legacyFallback)

/-- The slot and the class that a signal is for. -/
def RoutingMutation.target : RoutingMutation → Option (ℕ × CodexQuotaClass)
  | .quotaBlock account _ _ _ _ _ => some (account.slot, quotaClass account.requestedModel)
  | .releaseNonBlocking account => some (account.slot, quotaClass account.requestedModel)
  | .success account => some (account.slot, quotaClass account.requestedModel)
  | .releaseProbe account => some (account.slot, quotaClass account.requestedModel)
  | .capacityObservation observation model => some (observation.slot, quotaClass model)
  | _ => none

/-- Whether the slot has nothing but a summary, with a reset identity, that stands for a class other
than `c` and `unknown`. -/
def holdsSummaryFor (slot : CodexRoutingSlot) (c : CodexQuotaClass) : Bool :=
  slot.quotaBlocksByClass.entries.isEmpty && slot.quotaBlockedUntilMs.isSome &&
    slot.quotaBlockSource.isSome &&
    (slot.observedResetAtMs.isSome || slot.observedResetAtIsStable ||
      slot.bankedResetGenerationAmbiguous || slot.bankedResetRecoveryProbePending) &&
    (summaryClasses slot).any fun d => decide (d ≠ c ∧ d ≠ .unknown)

/-- Whether the transition is the success of a probe of the timeout circuit on such a slot. -/
def RoutingMutation.erasesSummary (state : CodexAccountRoutingState) : RoutingMutation → Bool
  | .success account => decide (routingProbeCircuit account = .upstreamTimeout) &&
      holdsSummaryFor (slotFor state account) (quotaClass account.requestedModel)
  | _ => false

/-! ### The slots -/

/-- The blocks of the other classes are the same in both slots. -/
def Isolated (c : CodexQuotaClass) (current after : CodexRoutingSlot) : Prop :=
  ∀ d, d ≠ c → isSyntheticUnknown d ((quotaBlocksIncludingLegacy current).lookup d) = false →
    (quotaBlocksIncludingLegacy after).lookup d = (quotaBlocksIncludingLegacy current).lookup d

theorem quotaBlocksIncludingLegacy_withoutRequestedClass
    (hblk : after.quotaBlocksByClass = (withoutRequestedClass slot c).quotaBlocksByClass)
    (hclss : after.quotaBlockedClasses = (withoutRequestedClass slot c).quotaBlockedClasses)
    (hutl : after.quotaBlockedUntilMs = (withoutRequestedClass slot c).quotaBlockedUntilMs) :
    quotaBlocksIncludingLegacy after = (withoutRequestedClass slot c).quotaBlocksByClass := by
  rw [← hblk]
  refine quotaBlocksIncludingLegacy_eq_self (fun key => ?_) fun hemp => ?_
  · rw [hclss, hblk]
    exact Iff.rfl
  · rw [hblk] at hemp
    rw [hutl]
    have hvals : (withoutRequestedClass slot c).quotaBlocksByClass.values = [] := by
      rw [Record.values, hemp, List.map_nil]
    show (latestBlock (withoutRequestedClass slot c).quotaBlocksByClass.values).map _ = none
    rw [hvals]
    rfl

theorem lookup_withoutRequestedClass (hd : d ≠ c)
    (hreal : isSyntheticUnknown d ((quotaBlocksIncludingLegacy slot).lookup d) = false) :
    (withoutRequestedClass slot c).quotaBlocksByClass.lookup d
      = (quotaBlocksIncludingLegacy slot).lookup d := by
  show (blocksWithout (withLegacyQuotaClassMap slot).quotaBlocksByClass
    ((quotaBlockKeyForClass (withLegacyQuotaClassMap slot) c).getD c)).lookup d = _
  rw [lookup_blocksWithout, lookup_withLegacyQuotaClassMap, lookup_withLegacyQuotaClassMap]
  refine if_neg ?_
  rintro (hkey | ⟨rfl, hfb⟩)
  · -- the released key is the class, or `unknown` where that holds a copy of the summary
    cases hfd : quotaBlockKeyForClass (withLegacyQuotaClassMap slot) c with
    | none =>
      rw [hfd] at hkey
      exact hd hkey
    | some key =>
      rw [hfd] at hkey
      obtain rfl : d = key := hkey
      unfold quotaBlockKeyForClass at hfd
      obtain ⟨block, -, hfd⟩ := Option.bind_eq_some_iff.mp hfd
      split_ifs at hfd with hown hunk
      · exact hd (Option.some.inj hfd).symm
      · cases hfd
        rw [lookup_withLegacyQuotaClassMap] at hunk
        rw [hunk.2.1] at hreal
        simp [isSyntheticUnknown, hunk.2.2] at hreal
  · simp [isSyntheticUnknown, hfb] at hreal

variable {current : CodexRoutingSlot}

theorem Isolated.ofReleased
    (hblk : after.quotaBlocksByClass = (withoutRequestedClass current c).quotaBlocksByClass)
    (hclss : after.quotaBlockedClasses = (withoutRequestedClass current c).quotaBlockedClasses)
    (hutl : after.quotaBlockedUntilMs = (withoutRequestedClass current c).quotaBlockedUntilMs) :
    Isolated c current after := by
  intro d hd hreal
  rw [quotaBlocksIncludingLegacy_withoutRequestedClass hblk hclss hutl]
  exact lookup_withoutRequestedClass hd hreal

theorem Isolated.ofKept (c : CodexQuotaClass)
    (hclss : summaryClasses after = summaryClasses current)
    (hblk : after.quotaBlocksByClass = current.quotaBlocksByClass)
    (hsmy : summaryBlock after = summaryBlock current) : Isolated c current after := by
  intro d _ _
  rw [lookup_quotaBlocksIncludingLegacy, lookup_quotaBlocksIncludingLegacy, hclss, hblk,
    hsmy]

theorem isolated_buildQuotaBlockedSlot (current : CodexRoutingSlot) (account : CodexRoutingAccount)
    (parsed : Codex429Classification) (source : CodexQuotaBlockSource) (retryAtMs : ℤ)
    (recoveryProbe foreignQuotaProbe : Bool) : Isolated (quotaClass account.requestedModel) current
      (buildQuotaBlockedSlot current account parsed source retryAtMs now recoveryProbe
        foreignQuotaProbe) := by
  intro d hd _
  have hself : quotaBlocksIncludingLegacy (buildQuotaBlockedSlot current account parsed source
      retryAtMs now recoveryProbe foreignQuotaProbe)
      = (quotaBlocksIncludingLegacy current).insert (quotaClass account.requestedModel)
        (blockedClassBlock current account parsed source retryAtMs now recoveryProbe) := by
    refine quotaBlocksIncludingLegacy_eq_self (fun key => Iff.rfl) fun hemp => ?_
    have hno := (Record.entries_eq_nil_iff _).mp hemp (quotaClass account.requestedModel)
    rw [show (buildQuotaBlockedSlot current account parsed source retryAtMs now recoveryProbe
      foreignQuotaProbe).quotaBlocksByClass = (quotaBlocksIncludingLegacy current).insert _ _
        from rfl,
      Record.lookup_insert_self] at hno
    cases hno
  rw [hself, Record.lookup_insert_of_ne _ _ hd]

theorem isolated_releasedProbeSlot (current : CodexRoutingSlot) (account : CodexRoutingAccount) :
    Isolated (quotaClass account.requestedModel) current (releasedProbeSlot current account) := by
  by_cases hcirc : routingProbeCircuit account = .quota
  · unfold releasedProbeSlot
    rw [if_pos hcirc]
    unfold releaseQuotaClassProbe
    dsimp only
    refine .ofReleased ?_ ?_ ?_ <;> split_ifs <;> rfl
  · unfold releasedProbeSlot
    rw [if_neg hcirc]
    exact .ofKept _ rfl rfl rfl

theorem isolated_capacityObservedSlot (current : CodexRoutingSlot)
    (observation : CodexCapacityRoutingObservation) (model : Option String) (clearCircuit : Bool) :
    Isolated (quotaClass model) current (capacityObservedSlot current (if clearCircuit = true then
      withoutRequestedClass current (quotaClass model) else current) observation clearCircuit) := by
  cases clearCircuit with
  | false => exact .ofKept _ rfl rfl rfl
  | true =>
    rw [if_pos rfl]
    unfold capacityObservedSlot
    dsimp only
    refine .ofReleased ?_ ?_ ?_ <;> split_ifs <;> rfl

theorem lookup_quotaBlocksIncludingLegacy_of_empty (hemp : slot.quotaBlocksByClass.entries = [])
    (d : CodexQuotaClass) : (quotaBlocksIncludingLegacy slot).lookup d
      = if d ∈ summaryClasses slot then summaryBlock slot else none := by
  rw [lookup_quotaBlocksIncludingLegacy, (Record.entries_eq_nil_iff _).mp hemp d, Option.none_or]

section

variable (hcirc : routingProbeCircuit account = .upstreamTimeout)
  (hemp : current.quotaBlocksByClass.entries = [])

include hcirc hemp

/-- The success of a probe of the timeout circuit, on a slot without blocks, takes the reset
identity from the summary. -/
theorem summaryBlock_succeededSlot :
    summaryBlock (succeededSlot current account) = (summaryBlock current).map fun block =>
      { block with
        observedResetAtMs := none
        observedResetAtIsStable := false
        bankedResetGenerationAmbiguous := false
        bankedResetRecoveryProbePending := false } := by
  unfold summaryBlock succeededSlot
  rw [if_neg (by rw [hcirc]; decide)]
  cases current.quotaBlockedUntilMs with
  | none => rfl
  | some blockedUntilMs =>
    cases current.quotaBlockSource with
    | none => rfl
    | some source => simp [legacyBlock, hemp]

theorem lookup_succeededSlot_of_empty (d : CodexQuotaClass) :
    (quotaBlocksIncludingLegacy (succeededSlot current account)).lookup d
      = if d ∈ summaryClasses current then summaryBlock (succeededSlot current account)
        else none := by
  have hnotQuota : ¬ routingProbeCircuit account = .quota := by
    rw [hcirc]
    decide
  have hblk : (succeededSlot current account).quotaBlocksByClass = current.quotaBlocksByClass := by
    simp only [succeededSlot, if_neg hnotQuota]
  have hclss : summaryClasses (succeededSlot current account) = summaryClasses current := by
    unfold succeededSlot
    rw [if_neg hnotQuota]
    rfl
  rw [lookup_quotaBlocksIncludingLegacy_of_empty (by rw [hblk]; exact hemp), hclss]

theorem deadline_succeededSlot (d : CodexQuotaClass) :
    ((quotaBlocksIncludingLegacy (succeededSlot current account)).lookup d).map (·.blockedUntilMs)
      = ((quotaBlocksIncludingLegacy current).lookup d).map (·.blockedUntilMs) := by
  rw [lookup_succeededSlot_of_empty hcirc hemp,
    lookup_quotaBlocksIncludingLegacy_of_empty hemp]
  by_cases hmem : d ∈ summaryClasses current
  · rw [if_pos hmem, if_pos hmem, summaryBlock_succeededSlot hcirc hemp, Option.map_map]
    rfl
  · rw [if_neg hmem, if_neg hmem]

/-- On a slot without blocks, the success of a probe of the timeout circuit isolates its class
exactly if there is nothing to erase. -/
theorem isolated_succeededSlot_empty_iff :
    Isolated (quotaClass account.requestedModel) current (succeededSlot current account) ↔
      holdsSummaryFor current (quotaClass account.requestedModel) = false := by
  have haft := lookup_succeededSlot_of_empty hcirc hemp
  have hbef := lookup_quotaBlocksIncludingLegacy_of_empty hemp
  have hsmy := summaryBlock_succeededSlot hcirc hemp
  cases hutl : current.quotaBlockedUntilMs with
  | none =>
    have hno : summaryBlock current = none := by simp [summaryBlock, hutl]
    rw [hno] at hbef hsmy
    simp [Isolated, haft, hbef, hsmy, holdsSummaryFor, hutl]
  | some blockedUntilMs =>
    cases hsrc : current.quotaBlockSource with
    | none =>
      have hno : summaryBlock current = none := by simp [summaryBlock, hutl, hsrc]
      rw [hno] at hbef hsmy
      simp [Isolated, haft, hbef, hsmy, holdsSummaryFor, hsrc]
    | some source =>
      have hsome : summaryBlock current = some (legacyBlock current blockedUntilMs source) := by
        simp [summaryBlock, hutl, hsrc]
      rw [hsome] at hbef hsmy
      have hholds : holdsSummaryFor current (quotaClass account.requestedModel) = true ↔
          (((current.observedResetAtMs.isSome = true ∨ current.observedResetAtIsStable = true) ∨
            current.bankedResetGenerationAmbiguous = true) ∨
            current.bankedResetRecoveryProbePending = true) ∧
          ∃ d ∈ summaryClasses current, d ≠ quotaClass account.requestedModel ∧ d ≠ .unknown := by
        simp [holdsSummaryFor, hemp, hutl, hsrc]
      rw [← Bool.not_eq_true, hholds]
      constructor
      · rintro hisolated ⟨hidt, d, hmem, hd, hkn⟩
        have heq := hisolated d hd (by simp [isSyntheticUnknown, hkn])
        rw [haft, hbef, if_pos hmem, if_pos hmem, hsmy] at heq
        simp only [Option.map_some, Option.some.injEq, legacyBlock, CodexQuotaClassBlock.mk.injEq,
          true_and] at heq
        obtain ⟨hobs, hstb, hamb, hpend⟩ := heq
        rw [← hobs, ← hstb, ← hamb, ← hpend] at hidt
        simp at hidt
      · intro hnot d hd hreal
        rw [haft, hbef]
        by_cases hmem : d ∈ summaryClasses current
        · have hkn : d ≠ .unknown := by
            rintro rfl
            rw [hbef, if_pos hmem] at hreal
            cases hreal
          have hidt : ¬ (((current.observedResetAtMs.isSome = true ∨
              current.observedResetAtIsStable = true) ∨
              current.bankedResetGenerationAmbiguous = true) ∨
              current.bankedResetRecoveryProbePending = true) :=
            fun h => hnot ⟨h, d, hmem, hd, hkn⟩
          simp only [not_or, Bool.not_eq_true, Option.isSome_eq_false_iff,
            Option.isNone_iff_eq_none]
            at hidt
          obtain ⟨⟨⟨hobs, hstb⟩, hamb⟩, hpend⟩ := hidt
          rw [if_pos hmem, if_pos hmem, hsmy]
          simp [legacyBlock, hobs, hstb, hamb, hpend]
        · rw [if_neg hmem, if_neg hmem]

end

theorem isolated_succeededSlot_iff (current : CodexRoutingSlot) (account : CodexRoutingAccount) :
    Isolated (quotaClass account.requestedModel) current (succeededSlot current account) ↔
      (decide (routingProbeCircuit account = .upstreamTimeout) &&
        holdsSummaryFor current (quotaClass account.requestedModel)) = false := by
  cases hcirc : routingProbeCircuit account with
  | quota =>
    refine iff_of_true ?_ rfl
    unfold succeededSlot
    rw [if_pos hcirc]
    exact .ofReleased rfl rfl rfl
  | upstreamTimeout =>
    rw [decide_eq_true rfl, Bool.true_and]
    by_cases hemp : current.quotaBlocksByClass.entries = []
    · exact isolated_succeededSlot_empty_iff hcirc hemp
    · have hkept : holdsSummaryFor current (quotaClass account.requestedModel) = false := by
        simp [holdsSummaryFor, hemp]
      refine iff_of_true ?_ hkept
      unfold succeededSlot
      rw [if_neg (by rw [hcirc]; decide)]
      refine .ofKept _ rfl rfl ?_
      simp [summaryBlock, legacyBlock, hemp]

/-! ### The row -/

theorem blockAt_withSlot (state : CodexAccountRoutingState) (index : ℕ) (slot : CodexRoutingSlot)
    (updatedAtMs : ℤ) (d : CodexQuotaClass) :
    blockAt (withSlot state index slot updatedAtMs) index d
      = (quotaBlocksIncludingLegacy slot).lookup d := by
  unfold blockAt
  rw [getElem?_withSlot]
  rfl

theorem blockAt_slotFor (state : CodexAccountRoutingState) (account : CodexRoutingAccount)
    (d : CodexQuotaClass) :
    blockAt state account.slot d = (quotaBlocksIncludingLegacy (slotFor state account)).lookup
      d := by
  unfold blockAt slotFor
  cases state.slots[account.slot]? with
  | none | some slot => rfl

theorem isolated_row_iff :
    (∀ d, d ≠ c → isSyntheticUnknown d (blockAt state account.slot d) = false →
      blockAt (withSlot state account.slot slot updatedAtMs) account.slot d
        = blockAt state account.slot d) ↔ Isolated c (slotFor state account) slot := by
  simp only [Isolated, blockAt_withSlot, blockAt_slotFor state]

/-- A signal for one class leaves the blocks of all other classes as they were, exactly if it is not
the success of a probe of the timeout circuit on a slot that has only a summary. -/
theorem class_isolation_iff {mutation : RoutingMutation}
    (h : mutation.apply now updatedAtMs state = some next)
    (htgt : mutation.target = some (index, c)) :
    (∀ d, d ≠ c → isSyntheticUnknown d (blockAt state index d) = false →
      blockAt next index d = blockAt state index d) ↔ mutation.erasesSummary state = false := by
  cases mutation with
  | quotaBlock =>
    cases htgt
    obtain ⟨retryAtMs, source, -, -, -, -, -, rfl⟩ := quotaBlockTransition_eq_some h
    exact iff_of_true (isolated_row_iff.mpr (isolated_buildQuotaBlockedSlot _ _ _ _ _ _ _)) rfl
  | releaseNonBlocking =>
    cases htgt
    obtain ⟨-, -, rfl⟩ := releaseNonBlockingQuotaProbe_eq_some h
    exact iff_of_true (isolated_row_iff.mpr (isolated_releasedProbeSlot _ _)) rfl
  | releaseProbe =>
    cases htgt
    obtain ⟨-, -, rfl⟩ := releaseCodexRoutingProbe_eq_some h
    exact iff_of_true (isolated_row_iff.mpr (isolated_releasedProbeSlot _ _)) rfl
  | success =>
    cases htgt
    obtain ⟨-, -, rfl⟩ := markCodexSuccess_eq_some h
    rw [isolated_row_iff]
    exact isolated_succeededSlot_iff _ _
  | capacityObservation observation model =>
    cases htgt
    obtain ⟨current, clearCircuit, hcur, rfl⟩ := applyCapacityObservation_eq_some h
    refine iff_of_true (fun d hd hreal => ?_) rfl
    have hbk : blockAt state observation.slot d
        = (quotaBlocksIncludingLegacy current).lookup d := by
      unfold blockAt
      rw [hcur]
      rfl
    rw [hbk] at hreal
    rw [hbk, blockAt_withSlot]
    exact isolated_capacityObservedSlot current observation model clearCircuit d hd hreal
  | _ => cases htgt

theorem deadline_kept {mutation : RoutingMutation}
    (h : mutation.apply now updatedAtMs state = some next)
    (htgt : mutation.target = some (index, c)) (d : CodexQuotaClass) (hd : d ≠ c)
    (hreal : isSyntheticUnknown d (blockAt state index d) = false) :
    (blockAt next index d).map (·.blockedUntilMs)
      = (blockAt state index d).map (·.blockedUntilMs) := by
  by_cases hkps : mutation.erasesSummary state = false
  · rw [(class_isolation_iff h htgt).mpr hkps d hd hreal]
  · cases mutation with
    | success =>
      cases htgt
      obtain ⟨-, -, rfl⟩ := markCodexSuccess_eq_some h
      simp only [erasesSummary, holdsSummaryFor, Bool.not_eq_false, Bool.and_eq_true,
        decide_eq_true_eq, List.isEmpty_iff] at hkps
      obtain ⟨hcirc, ⟨⟨⟨hemp, -⟩, -⟩, -⟩, -⟩ := hkps
      rw [blockAt_withSlot, blockAt_slotFor]
      exact deadline_succeededSlot hcirc hemp d
    | _ => exact absurd rfl hkps

/-! ### Rows without a timeout circuit

The timeout circuit was given up.  Whoever changes a row discards what is left of it first: the
authority normalizes the row, the routing store calls `withoutLegacyTimeoutCircuits`. -/

/-- No slot of the row has a circuit or a lease of the timeout fences. -/
def TimeoutsDiscarded (state : CodexAccountRoutingState) : Prop :=
  ∀ slot ∈ state.slots, hasLegacyTimeoutCircuit slot = false

/-- `withoutLegacyTimeoutCircuits` of `src/codex/capacity-routing.ts` -/
def withoutLegacyTimeoutCircuits (state : CodexAccountRoutingState) : CodexAccountRoutingState :=
  { state with slots := state.slots.map withoutLegacyTimeoutCircuit }

theorem hasLegacyTimeoutCircuit_without (slot : CodexRoutingSlot) :
    hasLegacyTimeoutCircuit (withoutLegacyTimeoutCircuit slot) = false := by
  unfold withoutLegacyTimeoutCircuit
  split_ifs with hno
  · exact hno
  · unfold hasLegacyTimeoutCircuit
    cases slot.probeLease with
    | none => rfl
    | some lease => simp

theorem withoutLegacyTimeoutCircuits_discarded (state : CodexAccountRoutingState) :
    TimeoutsDiscarded (withoutLegacyTimeoutCircuits state) := by
  intro slot hmem
  obtain ⟨origin, -, rfl⟩ := List.mem_map.mp hmem
  exact hasLegacyTimeoutCircuit_without origin

theorem normalizedFrom_discarded (prior : CodexRoutingSlot) (index : ℕ)
    (identity : CodexRoutingIdentity) (discard : Bool) :
    hasLegacyTimeoutCircuit (normalizedFrom prior index identity discard).slot = false := by
  unfold normalizedFrom
  dsimp only
  generalize (if discard = true then withoutLegacyTimeoutCircuit prior else prior) = discarded
  split_ifs <;> exact hasLegacyTimeoutCircuit_without _

theorem normalizeRoutingState_discarded (raw : Option CodexAccountRoutingState)
    (identities : List CodexRoutingIdentity) (now : ℤ) (discard : Bool) :
    TimeoutsDiscarded (normalizeRoutingState raw identities now discard) := by
  intro slot hmem
  obtain ⟨normalized, hnorm, rfl⟩ := List.mem_map.mp hmem
  exact forall_normalizeSlots (P := fun slot => hasLegacyTimeoutCircuit slot = false)
    (fun _ _ => rfl) (fun prior _ index identity => normalizedFrom_discarded prior index identity _)
    0 [] identities normalized hnorm

theorem TimeoutsDiscarded.probeLease_quota (h : TimeoutsDiscarded state)
    (hls : probeLeaseMatchesCodexRoutingAccount (slotFor state account) account = true) :
    routingProbeCircuit account = .quota := by
  have hno : hasLegacyTimeoutCircuit (slotFor state account) = false := by
    unfold slotFor
    cases hslot : state.slots[account.slot]? with
    | none => rfl
    | some slot => exact h slot (List.mem_of_getElem? hslot)
  unfold probeLeaseMatchesCodexRoutingAccount at hls
  unfold hasLegacyTimeoutCircuit at hno
  cases hslot : (slotFor state account).probeLease with
  | none =>
    rw [hslot] at hls
    cases hls
  | some lease =>
    rw [hslot] at hls hno
    simp only [Option.any_some, decide_eq_true_eq] at hls
    simp only [Option.any_some, Bool.or_eq_false_iff, decide_eq_false_iff_not] at hno
    rw [← hls.2.2.2.1]
    cases hcirc : lease.circuit with
    | quota => rfl
    | upstreamTimeout => exact absurd hcirc hno.2

theorem TimeoutsDiscarded.keeps (h : TimeoutsDiscarded state) {mutation : RoutingMutation}
    (hnext : mutation.apply now updatedAtMs state = some next) :
    mutation.erasesSummary state = false := by
  cases mutation with
  | success =>
    obtain ⟨-, hls, -⟩ := markCodexSuccess_eq_some hnext
    simp [erasesSummary, h.probeLease_quota hls]
  | _ => rfl

/-- **Class isolation**: a signal for one class keeps the deadlines of all other classes, and it
leaves their blocks as they were exactly if it is not the success of a probe of the timeout circuit
on a slot that has only a summary.  On a row without timeout circuits it never is.  The copy of a
summary under the class `unknown` is no block of its own. -/
theorem class_isolation {mutation : RoutingMutation} {index : ℕ} {c : CodexQuotaClass}
    (h : mutation.apply now updatedAtMs state = some next)
    (htgt : mutation.target = some (index, c)) :
    (∀ d, d ≠ c → isSyntheticUnknown d (blockAt state index d) = false →
      (blockAt next index d).map (·.blockedUntilMs)
        = (blockAt state index d).map (·.blockedUntilMs)) ∧
    ((∀ d, d ≠ c → isSyntheticUnknown d (blockAt state index d) = false →
      blockAt next index d = blockAt state index d) ↔ mutation.erasesSummary state = false) ∧
    (TimeoutsDiscarded state → mutation.erasesSummary state = false) :=
  ⟨deadline_kept h htgt, class_isolation_iff h htgt, fun hdisc => hdisc.keeps h⟩

/-- The next rate-limit response for one model leaves the block of the other. -/
theorem class_isolation_blocked : ∃ next,
    (sampleLimit "gpt-5.3-codex-spark" 90).apply 4000 4000 sampleBlocked = some next ∧
    (blockAt sampleBlocked 0 .standard).map (·.blockedUntilMs) = some 32000 ∧
    blockAt next 0 .standard = blockAt sampleBlocked 0 .standard := by
  obtain ⟨next, hnext⟩ : ∃ next,
    (sampleLimit "gpt-5.3-codex-spark" 90).apply 4000 4000 sampleBlocked
      = some next := Option.isSome_iff_exists.mp (by decide +kernel)
  have hdisc : TimeoutsDiscarded sampleBlocked := by
    unfold TimeoutsDiscarded
    decide +kernel
  have htgt : (sampleLimit "gpt-5.3-codex-spark" 90).target = some (0, .spark) := by
    decide +kernel
  obtain ⟨-, hiff, hkps⟩ := class_isolation hnext htgt
  exact ⟨next, hnext, by decide +kernel,
    hiff.mpr (hkps hdisc) .standard (by decide) (by decide +kernel)⟩

def timeoutProbe : CodexRoutingAccount :=
  { sampleAccount "gpt-5" with
    probeGeneration := some 0
    probeToken := some "token"
    probeCircuit := some .upstreamTimeout }

/-- A row of an older release: its slot has only a summary, and the lease of that probe. -/
def timeoutState : CodexAccountRoutingState :=
  ⟨0, false, [{ neutralSlot "version" (some "account") with
    quotaBlockedUntilMs := some 60000
    quotaBlockSource := some .bodyResetsAt
    observedResetAtMs := some 60000
    observedResetAtIsStable := true
    probeLease := some ⟨"token", 30000, 0, .upstreamTimeout, none⟩ }]⟩

/-- The success of that probe, for one model, erases the reset identity of the others. -/
theorem class_isolation_timeout : ∃ next,
    (success timeoutProbe).apply 1000 1000 timeoutState = some next ∧
    (success timeoutProbe).target = some (0, .standard) ∧
    isSyntheticUnknown .spark (blockAt timeoutState 0 .spark) = false ∧
    (blockAt timeoutState 0 .spark).map (·.observedResetAtMs) = some (some 60000) ∧
    (blockAt next 0 .spark).map (·.observedResetAtMs) = some none := by
  have hsome : ((success timeoutProbe).apply 1000 1000 timeoutState).isSome = true := by
    decide +kernel
  obtain ⟨next, hnext⟩ := Option.isSome_iff_exists.mp hsome
  refine ⟨next, hnext, by decide +kernel, by decide +kernel, by decide +kernel, ?_⟩
  have haft : ((success timeoutProbe).apply 1000 1000 timeoutState).map
      (fun next => (blockAt next 0 .spark).map (·.observedResetAtMs)) = some (some none) := by
    decide +kernel
  rw [hnext] at haft
  exact Option.some.inj haft

end UbqGateway.Codex
