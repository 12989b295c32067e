import UbqGateway.Codex.Isolation

/-!
# Replayed capacity observations

A capacity observation is applied again with every selection.  Applied to the slot that it left, it
changes nothing if it releases no circuit.  If it releases one, it releases it again, and each time
may start a new generation (`capacity_replay_iff`).
-/

namespace UbqGateway.Codex

/-! ### One application -/

/-- `preserveResetSafety` of `capacityObservedSlot`. -/
def preservesResetSafety (slot : CodexRoutingSlot) : Bool :=
  slot.bankedResetGenerationAmbiguous || slot.bankedResetRecoveryProbePending ||
    slot.probeLease.isSome

/-- The slot with what the observation says of its use. -/
def CodexRoutingSlot.seen (slot : CodexRoutingSlot)
    (observation : CodexCapacityRoutingObservation) : CodexRoutingSlot :=
  { slot with
    primaryUsedPercent := observation.windows.primary.bind (·.usedPercent)
    secondaryUsedPercent := observation.windows.secondary.bind (·.usedPercent)
    capacityObservedAtMs := some observation.snapshotAtMs }

/-- The slot with the reset that another one has observed. -/
def CodexRoutingSlot.withResetOf (slot other : CodexRoutingSlot) : CodexRoutingSlot :=
  { slot with
    observedResetAtMs := other.observedResetAtMs
    observedResetAtIsStable := other.observedResetAtIsStable
    bankedResetGenerationAmbiguous := other.bankedResetGenerationAmbiguous
    bankedResetRecoveryProbePending := other.bankedResetRecoveryProbePending }

theorem capacityObservedSlot_true (rest : CodexRoutingSlot) :
    capacityObservedSlot current rest observation true =
      if preservesResetSafety current = true then
        { (rest.seen observation).withResetOf current with
          accountIdHash := some observation.accountIdHash
          probeLease := current.probeLease }
      else if rest.quotaBlocksByClass.entries ≠ [] then
        { rest.seen observation with accountIdHash := some observation.accountIdHash }
      else
        { rest.seen observation with
          accountIdHash := some observation.accountIdHash
          observedResetAtMs := none
          observedResetAtIsStable := false
          bankedResetGenerationAmbiguous := false
          bankedResetRecoveryProbePending := false
          generation := current.generation + 1
          probeLease := none } :=
  rfl

def observedSlot (current : CodexRoutingSlot) (observation : CodexCapacityRoutingObservation)
    (now : ℤ) (model : Option String) : CodexRoutingSlot :=
  capacityObservedSlot current (if capacityClears current observation now model = true then
    withoutRequestedClass current (quotaClass model) else current) observation
    (capacityClears current observation now model)

theorem observedSlot_of_clears (h : capacityClears current observation now model = true) :
    observedSlot current observation now model = capacityObservedSlot current
      (withoutRequestedClass current (quotaClass model)) observation true := by
  unfold observedSlot
  rw [h, if_pos rfl]

theorem observedSlot_of_keeps (h : capacityClears current observation now model = false) :
    observedSlot current observation now model = current.seen observation := by
  unfold observedSlot
  rw [h]
  rfl

/-- The observation is of the account of the slot, not of the future, and not older than the last
one. -/
structure Observes (current : CodexRoutingSlot) (observation : CodexCapacityRoutingObservation)
    (now : ℤ) : Prop where
  past : observation.snapshotAtMs ≤ now
  account : current.accountIdHash = some observation.accountIdHash
  latest : ¬ current.capacityObservedAtMs.any (fun observedAtMs =>
    decide (observation.snapshotAtMs < observedAtMs)) = true

theorem Observes.apply (h : Observes current observation now) (model : Option String)
    (hslot : state.slots[observation.slot]? = some current) (updatedAtMs : ℤ) :
    applyCapacityObservation state observation now model updatedAtMs =
      if capacityClears current observation now model = true ∨
          observedSlot current observation now model ≠ current then
        some (withSlot state observation.slot (observedSlot current observation now model)
          updatedAtMs)
      else none := by
  unfold applyCapacityObservation
  rw [hslot]
  dsimp only [bind, Option.bind]
  rw [if_neg]
  · rfl
  · rintro (hpast | hacn | hlst)
    · exact absurd h.past (not_le.mpr hpast)
    · exact hacn h.account
    · exact h.latest hlst

theorem observes_of_apply
    (h : applyCapacityObservation state observation now model updatedAtMs = some next) :
    ∃ current, state.slots[observation.slot]? = some current ∧
      Observes current observation now := by
  unfold applyCapacityObservation at h
  obtain ⟨current, hslot, h⟩ := Option.bind_eq_some_iff.mp h
  split_ifs at h with hgd
  · obtain ⟨hpast, hacn, hlst⟩ := not_or.mp hgd |>.imp id not_or.mp
    exact ⟨current, hslot, not_lt.mp hpast, not_not.mp hacn, hlst⟩

theorem Observes.again (h : Observes current observation now) :
    Observes (observedSlot current observation now model) observation now where
  past := h.past
  account := by
    unfold observedSlot
    cases capacityClears current observation now model with
    | false => exact h.account
    | true =>
      rw [capacityObservedSlot_true]
      split_ifs <;> rfl
  latest := by
    have hlast : (observedSlot current observation now model).capacityObservedAtMs =
        some observation.snapshotAtMs := by
      unfold observedSlot
      cases capacityClears current observation now model with
      | false => rfl
      | true =>
        rw [capacityObservedSlot_true]
        split_ifs <;> rfl
    rw [hlast, Option.any_some, decide_eq_true_iff]
    exact lt_irrefl _

/-! ### The signals of a class -/

theorem quotaBlocksIncludingLegacy_withLegacyQuotaClassMap (slot : CodexRoutingSlot) :
    quotaBlocksIncludingLegacy (withLegacyQuotaClassMap slot) =
      quotaBlocksIncludingLegacy slot := by
  unfold withLegacyQuotaClassMap
  split_ifs with hemp
  · rfl
  · exact quotaBlocksIncludingLegacy_eq_self (fun key => Iff.rfl) fun h => absurd h hemp

theorem capacityClears_congr
    (hblk : quotaBlocksIncludingLegacy slot = quotaBlocksIncludingLegacy slot')
    (hsig : slot.quotaSignalObservedAtMs = slot'.quotaSignalObservedAtMs) :
    capacityClears slot observation now model = capacityClears slot' observation now model := by
  have hkept : ∀ s : CodexRoutingSlot,
      (withLegacyQuotaClassMap s).quotaSignalObservedAtMs = s.quotaSignalObservedAtMs := by
    intro s
    unfold withLegacyQuotaClassMap
    split_ifs <;> rfl
  unfold capacityClears quotaSignalObservedAtForClass quotaBlocksForClass
  simp only [lookup_withLegacyQuotaClassMap, quotaBlocksIncludingLegacy_withLegacyQuotaClassMap,
    hkept, hblk, hsig]

/-! ### The slot that a release leaves -/

/-- The summary that `withoutRequestedClass` gives a slot is not changed by what follows. -/
structure LeftBy (rest next : CodexRoutingSlot) : Prop where
  blocks : next.quotaBlocksByClass = rest.quotaBlocksByClass
  classes : next.quotaBlockedClasses = rest.quotaBlockedClasses
  until' : next.quotaBlockedUntilMs = rest.quotaBlockedUntilMs
  source : next.quotaBlockSource = rest.quotaBlockSource
  signal : next.quotaSignalObservedAtMs = rest.quotaSignalObservedAtMs

theorem leftBy_capacityObservedSlot (current rest : CodexRoutingSlot)
    (observation : CodexCapacityRoutingObservation) :
    LeftBy rest (capacityObservedSlot current rest observation true) := by
  rw [capacityObservedSlot_true]
  constructor <;> split_ifs <;> rfl

theorem LeftBy.quotaBlocksIncludingLegacy (h : LeftBy (withoutRequestedClass current c) next) :
    quotaBlocksIncludingLegacy next = (withoutRequestedClass current c).quotaBlocksByClass :=
  quotaBlocksIncludingLegacy_withoutRequestedClass h.blocks h.classes h.until'

theorem LeftBy.clears (h : LeftBy (withoutRequestedClass current (quotaClass model)) next)
    (observation : CodexCapacityRoutingObservation) (now : ℤ) :
    capacityClears next observation now model =
      capacityClears (withoutRequestedClass current (quotaClass model)) observation now model := by
  refine capacityClears_congr ?_ h.signal
  rw [h.quotaBlocksIncludingLegacy]
  exact (quotaBlocksIncludingLegacy_withoutRequestedClass rfl rfl rfl).symm

theorem LeftBy.withLegacy_blocks (h : LeftBy (withoutRequestedClass current c) next) :
    (withLegacyQuotaClassMap next).quotaBlocksByClass =
      (withoutRequestedClass current c).quotaBlocksByClass := by
  unfold withLegacyQuotaClassMap
  split_ifs
  · exact h.blocks
  · exact h.quotaBlocksIncludingLegacy

/-- No copy of the summary is left. -/
theorem withoutRequestedClass_unknown (slot : CodexRoutingSlot) (c : CodexQuotaClass) :
    ((withoutRequestedClass slot c).quotaBlocksByClass.lookup .unknown).any (·.legacyFallback)
      = false := by
  show ((blocksWithout (withLegacyQuotaClassMap slot).quotaBlocksByClass
    ((quotaBlockKeyForClass (withLegacyQuotaClassMap slot) c).getD c)).lookup .unknown).any _ =
      false
  rw [lookup_blocksWithout]
  split_ifs with hgone
  · rfl
  · rw [not_or, not_and] at hgone
    exact Bool.eq_false_of_not_eq_true (hgone.2 rfl)

theorem quotaBlockKeyForClass_getD
    (h : (slot.quotaBlocksByClass.lookup .unknown).any (·.legacyFallback) = false) :
    (quotaBlockKeyForClass slot c).getD c = c := by
  cases hkey : quotaBlockKeyForClass slot c with
  | none => rfl
  | some key =>
    unfold quotaBlockKeyForClass at hkey
    obtain ⟨block, -, hkey⟩ := Option.bind_eq_some_iff.mp hkey
    split_ifs at hkey with hown hunk
    · exact (Option.some.inj hkey).symm
    · rw [hunk.2.1, Option.any_some, hunk.2.2] at h
      cases h

theorem LeftBy.withoutRequestedClass_blocks (h : LeftBy (withoutRequestedClass current c) next) :
    (withoutRequestedClass next c).quotaBlocksByClass =
      (withoutRequestedClass current c).quotaBlocksByClass.erase c := by
  have hunk := withoutRequestedClass_unknown current c
  show blocksWithout (withLegacyQuotaClassMap next).quotaBlocksByClass
    ((quotaBlockKeyForClass (withLegacyQuotaClassMap next) c).getD c) = _
  rw [quotaBlockKeyForClass_getD (by rw [h.withLegacy_blocks]; exact hunk), h.withLegacy_blocks]
  refine if_neg fun hfb => ?_
  rw [hfb.2] at hunk
  cases hunk

theorem LeftBy.withoutRequestedClass (h : LeftBy (withoutRequestedClass current c) next)
    (hno : (withoutRequestedClass current c).quotaBlocksByClass.lookup c = none) :
    Codex.withoutRequestedClass next c =
      next.withResetOf (Codex.withoutRequestedClass current c) := by
  have hblk := h.withoutRequestedClass_blocks
  rw [Record.erase_of_lookup_none hno] at hblk
  have heq : withLegacyQuotaClassMap next = { next with
      quotaBlocksByClass := (withLegacyQuotaClassMap next).quotaBlocksByClass
      quotaBlockedClasses := (withLegacyQuotaClassMap next).quotaBlockedClasses } := by
    unfold withLegacyQuotaClassMap
    split_ifs <;> rfl
  have hagn : ∀ signal signal' : Option ℤ, signal.or (signal.or signal') = signal.or signal' := by
    intro signal signal'
    cases signal <;> rfl
  have hsig : (maximum?
    ((Codex.withoutRequestedClass current c).quotaBlocksByClass.values.filterMap
      (·.quotaSignalObservedAtMs))).or next.quotaSignalObservedAtMs =
        next.quotaSignalObservedAtMs := by
    rw [h.signal]
    exact hagn _ _
  -- what the release computes of the blocks it computed of the same blocks before
  have hagn : ∀ s : CodexRoutingSlot, s.quotaSignalObservedAtMs = next.quotaSignalObservedAtMs →
      ∀ key, blocksWithout s.quotaBlocksByClass key =
        (Codex.withoutRequestedClass current c).quotaBlocksByClass →
      withoutQuotaClass s key = CodexRoutingSlot.withResetOf { s with
        quotaBlocksByClass := next.quotaBlocksByClass
        quotaBlockedClasses := next.quotaBlockedClasses
        quotaBlockedUntilMs := next.quotaBlockedUntilMs
        quotaBlockSource := next.quotaBlockSource } (Codex.withoutRequestedClass current c) := by
    intro s hs key hkey
    unfold withoutQuotaClass
    dsimp only
    rw [hkey, hs, hsig, h.blocks, h.classes, h.until', h.source, ← hs]
    rfl
  have hs : (withLegacyQuotaClassMap next).quotaSignalObservedAtMs =
    next.quotaSignalObservedAtMs := by
    rw [heq]
  rw [Codex.withoutRequestedClass, hagn _ hs _ hblk, heq]

/-! ### The second application -/

/-- Nothing is left to release, and what else holds the slot keeps its generation. -/
def SettlesAtOnce (current : CodexRoutingSlot) (model : Option String) : Prop :=
  (withoutRequestedClass current (quotaClass model)).quotaBlocksByClass.lookup (quotaClass model)
      = none ∧
    (preservesResetSafety current = true ∨
      (withoutRequestedClass current (quotaClass model)).quotaBlocksByClass.entries ≠ [])

section

variable
  (hfst : first = capacityObservedSlot current (withoutRequestedClass current c) observation true)

include hfst

theorem preservesResetSafety_left (hsaf : preservesResetSafety current = true) :
    preservesResetSafety first = true := by
  rw [hfst, capacityObservedSlot_true, if_pos hsaf]
  exact hsaf

theorem capacityObservedSlot_again
    (hno : (withoutRequestedClass current c).quotaBlocksByClass.lookup c = none)
    (hheld : preservesResetSafety current = true ∨
      (withoutRequestedClass current c).quotaBlocksByClass.entries ≠ []) :
    capacityObservedSlot first (withoutRequestedClass first c) observation true = first := by
  have hleft : LeftBy (withoutRequestedClass current c) first := by
    rw [hfst]
    exact leftBy_capacityObservedSlot _ _ _
  rw [hleft.withoutRequestedClass hno, capacityObservedSlot_true]
  by_cases hsaf : preservesResetSafety current = true
  · rw [if_pos (preservesResetSafety_left hfst hsaf), hfst, capacityObservedSlot_true,
      if_pos hsaf]
    rfl
  · have hblk := hheld.resolve_left hsaf
    have hfst' : first = { (withoutRequestedClass current c).seen observation with
        accountIdHash := some observation.accountIdHash } := by
      rw [hfst, capacityObservedSlot_true, if_neg hsaf, if_pos hblk]
    have hblk' : (first.withResetOf (withoutRequestedClass current c)).quotaBlocksByClass.entries
        ≠ [] := by
      change first.quotaBlocksByClass.entries ≠ []
      rwa [hleft.blocks]
    rw [if_pos hblk']
    split_ifs <;> rw [hfst'] <;> rfl

theorem settles_of_capacityObservedSlot_again
    (heq : capacityObservedSlot first (withoutRequestedClass first c) observation true = first) :
    (withoutRequestedClass current c).quotaBlocksByClass.lookup c = none ∧
      (preservesResetSafety current = true ∨
        (withoutRequestedClass current c).quotaBlocksByClass.entries ≠ []) := by
  have hleft : LeftBy (withoutRequestedClass current c) first := by
    rw [hfst]
    exact leftBy_capacityObservedSlot _ _ _
  have hno : (withoutRequestedClass current c).quotaBlocksByClass.lookup c = none := by
    have hblk := (leftBy_capacityObservedSlot first (withoutRequestedClass first c)
      observation).blocks
    rw [heq, hleft.withoutRequestedClass_blocks, hleft.blocks] at hblk
    rw [hblk, Record.lookup_erase, if_pos rfl]
  refine ⟨hno, ?_⟩
  by_contra hnot
  obtain ⟨hsaf, hblk⟩ := not_or.mp hnot
  rw [not_not] at hblk
  have hsaf' : preservesResetSafety first ≠ true := by
    rw [hfst, capacityObservedSlot_true, if_neg hsaf, if_neg (not_not.mpr hblk)]
    exact Bool.false_ne_true
  have hblk' : (withoutRequestedClass first c).quotaBlocksByClass.entries = [] := by
    rw [hleft.withoutRequestedClass_blocks, Record.erase_of_lookup_none hno, hblk]
  have hgen := congrArg (·.generation) heq
  rw [capacityObservedSlot_true, if_neg hsaf', if_neg (not_not.mpr hblk')] at hgen
  have hlt : first.generation + 1 = first.generation := hgen
  omega

end

/-- **The slot after a second application** is that after the first, unless a circuit is released
again and something is left to release, or nothing keeps the generation. -/
theorem observedSlot_again_iff :
    observedSlot (observedSlot current observation now model) observation now model =
        observedSlot current observation now model ↔
      (capacityClears current observation now model = true →
        capacityClears (withoutRequestedClass current (quotaClass model)) observation now model
          = false ∨ SettlesAtOnce current model) := by
  cases hclrs : capacityClears current observation now model with
  | false =>
    have hagn : capacityClears (current.seen observation) observation now model = false := by
      rw [← hclrs]
      exact capacityClears_congr rfl rfl
    refine ⟨fun _ h => absurd h Bool.false_ne_true, fun _ => ?_⟩
    rw [observedSlot_of_keeps hclrs, observedSlot_of_keeps hagn]
    rfl
  | true =>
    have hfst := observedSlot_of_clears hclrs
    have hleft : LeftBy (withoutRequestedClass current (quotaClass model))
        (observedSlot current observation now model) := by
      rw [hfst]
      exact leftBy_capacityObservedSlot _ _ _
    have hagn := hleft.clears observation now
    have hseen : (observedSlot current observation now model).seen observation =
        observedSlot current observation now model := by
      rw [hfst, capacityObservedSlot_true]
      split_ifs <;> rfl
    rw [← hagn]
    cases hclrs' : capacityClears (observedSlot current observation now model) observation now
        model with
    | false =>
      rw [observedSlot_of_keeps hclrs']
      exact ⟨fun _ _ => .inl rfl, fun _ => hseen⟩
    | true =>
      rw [observedSlot_of_clears hclrs']
      refine ⟨fun heq _ => .inr (settles_of_capacityObservedSlot_again hfst heq), fun h => ?_⟩
      obtain ⟨hno, hheld⟩ := (h rfl).resolve_left (by decide)
      exact capacityObservedSlot_again hfst hno hheld

/-! ### The row -/

/-- Whatever the times of the two writes, applying the observation once more leaves the slots. -/
def ReplayLeavesSlots (state : CodexAccountRoutingState)
    (observation : CodexCapacityRoutingObservation) (now : ℤ) (model : Option String) : Prop :=
  ∀ updatedAtMs updatedAgainAtMs next,
    applyCapacityObservation state observation now model updatedAtMs = some next →
    ((applyCapacityObservation next observation now model updatedAgainAtMs).getD next).slots
      = next.slots

theorem withSlot_slots (hslot : index < state.slots.length) (updatedAtMs : ℤ) :
    (withSlot state index slot updatedAtMs).slots = state.slots.set index slot := by
  unfold withSlot
  rw [Nat.sub_eq_zero_of_le hslot, List.replicate_zero, List.append_nil]

/-- **A replayed observation changes nothing** exactly if it released no circuit, or finds none to
release again, or settles at once. -/
theorem capacity_replay_iff (state : CodexAccountRoutingState)
    (observation : CodexCapacityRoutingObservation) (now : ℤ) (model : Option String) :
    ReplayLeavesSlots state observation now model ↔
      ∀ current, state.slots[observation.slot]? = some current → Observes current observation now →
        capacityClears current observation now model = true →
        capacityClears (withoutRequestedClass current (quotaClass model)) observation now model
          = false ∨ SettlesAtOnce current model := by
  have hreplay : ∀ current, state.slots[observation.slot]? = some current →
      Observes current observation now → ∀ updatedAtMs updatedAgainAtMs,
      let next := withSlot state observation.slot (observedSlot current observation now model)
        updatedAtMs
      (((applyCapacityObservation next observation now model updatedAgainAtMs).getD next).slots
        = next.slots ↔ observedSlot (observedSlot current observation now model) observation now
          model
          = observedSlot current observation now model) := by
    intro current hslot hobsv updatedAtMs updatedAgainAtMs next
    have hnext : next.slots[observation.slot]? =
      some (observedSlot current observation now model) :=
      getElem?_withSlot _ _ _ _
    obtain ⟨hlt, hget⟩ := List.getElem?_eq_some_iff.mp hnext
    rw [hobsv.again.apply model hnext]
    split_ifs with hchanges
    · rw [Option.getD_some, withSlot_slots hlt]
      refine ⟨fun heq => ?_, fun heq => ?_⟩
      · have hset := List.getElem?_set_self (a := observedSlot (observedSlot current observation now
          model) observation now model) hlt
        rw [heq, hnext] at hset
        exact (Option.some.inj hset).symm
      · rw [heq, ← hget]
        exact List.set_getElem_self hlt
    · obtain ⟨-, heq⟩ := not_or.mp hchanges
      exact ⟨fun _ => not_not.mp heq, fun _ => rfl⟩
  refine ⟨fun h current hslot hobsv hclrs =>
    ?_, fun h updatedAtMs updatedAgainAtMs next hnext => ?_⟩
  · have happly := hobsv.apply model hslot 0
    rw [if_pos (.inl hclrs)] at happly
    exact observedSlot_again_iff.mp ((hreplay current hslot hobsv 0 0).mp (h 0 0 _ happly))
      hclrs
  · obtain ⟨current, hslot, hobsv⟩ := observes_of_apply hnext
    rw [hobsv.apply model hslot] at hnext
    split_ifs at hnext
    cases hnext
    exact (hreplay current hslot hobsv updatedAtMs updatedAgainAtMs).mpr
      (observedSlot_again_iff.mpr (h current hslot hobsv))

/-- An account that has used ten percent of its window. -/
def sampleCapacity : CodexCapacityRoutingObservation where
  slot := 0
  accountIdHash := "account"
  state := .available
  sourceObservedAtMs := none
  snapshotAtMs := 1000
  windows := ⟨some ⟨none, some 10, none⟩, none⟩
  additionalRateLimits := []

/-- Replayed to a slot without any circuit, the observation starts a second generation. -/
theorem capacity_replay_generation : ¬ ReplayLeavesSlots sampleState sampleCapacity 2000 none := by
  have hdiffers : (applyCapacityObservation sampleState sampleCapacity 2000 none 2000).any
      (fun next => decide (((applyCapacityObservation next sampleCapacity 2000 none 2000).getD
        next).slots.map (·.generation) ≠ next.slots.map (·.generation))) = true := by
    decide +kernel
  intro h
  cases hnext : applyCapacityObservation sampleState sampleCapacity 2000 none 2000 with
  | none =>
    rw [hnext] at hdiffers
    cases hdiffers
  | some next =>
    rw [hnext, Option.any_some, decide_eq_true_iff, h 2000 2000 next hnext] at hdiffers
    exact hdiffers rfl

end UbqGateway.Codex
