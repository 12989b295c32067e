import UbqGateway.Codex.Blocks
import Mathlib.Order.Bounds.Basic
import Mathlib.Data.List.Dedup

/-!
# Codex routing: the summary of the blocks

A slot keeps, beside the blocks of the quota classes, the latest deadline of them and the list of
their classes.  Every transition derives this summary anew, each in its own way.  `Summarized` says
that the summary is the one of the blocks; each step of a slot keeps it, and with it every run.

The deadlines are safe times throughout: a block whose deadline is not would be lost when the row is
read, while the summary still names its class.
-/

namespace UbqGateway.Codex

open Json (isSafeInteger maxSafeInteger)

def deadlines (blocks : QuotaBlocks) :
    Set ℤ := {t | ∃ block ∈ blocks.values, block.blockedUntilMs = t}

/-- The summary of the slot is the one of its blocks. -/
structure Summarized (slot : CodexRoutingSlot) : Prop where
  classes : ∀ key, key ∈ slot.quotaBlockedClasses ↔ key ∈ blockKeys slot.quotaBlocksByClass
  empty : slot.quotaBlocksByClass.entries = [] → slot.quotaBlockedUntilMs = none
  greatest : slot.quotaBlocksByClass.entries ≠ [] → ∃ m, slot.quotaBlockedUntilMs = some m ∧
    IsGreatest (deadlines slot.quotaBlocksByClass) m
  safe : ∀ block ∈ slot.quotaBlocksByClass.values, isSafeMs block.blockedUntilMs = true

/-! ### Slots with a new summary -/

theorem Summarized.cleared (hblk : slot.quotaBlocksByClass = .empty)
    (hclss : slot.quotaBlockedClasses = []) (hutl : slot.quotaBlockedUntilMs = none) :
    Summarized slot where
  classes := by simp [hblk, hclss, blockKeys, Record.empty]
  empty := fun _ => hutl
  greatest := fun h => absurd (by rw [hblk]; rfl) h
  safe := by simp [hblk, Record.values, Record.empty]

theorem IsNeutral.summarized (h : IsNeutral slot) : Summarized slot := by
  obtain ⟨credentialVersion, accountIdHash, rfl⟩ := h
  exact .cleared rfl rfl rfl

theorem Summarized.ofLatest
    (hclss : slot.quotaBlockedClasses = blockKeys slot.quotaBlocksByClass)
    (hutl : slot.quotaBlockedUntilMs
      = (latestBlock slot.quotaBlocksByClass.values).map (·.blockedUntilMs))
    (hsafe : ∀ block ∈ slot.quotaBlocksByClass.values, isSafeMs block.blockedUntilMs = true) :
    Summarized slot where
  classes := fun key => by rw [hclss]
  empty := by
    intro hemp
    have hvals : slot.quotaBlocksByClass.values = [] := by rw [Record.values, hemp, List.map_nil]
    rw [hutl, hvals]
    rfl
  greatest := by
    intro hne
    cases hlst : latestBlock slot.quotaBlocksByClass.values with
    | none =>
      have hvals := (latestBlock_eq_none_iff _).mp hlst
      exact absurd (List.map_eq_nil_iff.mp hvals) hne
    | some latest =>
      refine ⟨latest.blockedUntilMs, by rw [hutl, hlst]; rfl,
        ⟨latest, latestBlock_mem hlst, rfl⟩, ?_⟩
      rintro t ⟨block, hbk, rfl⟩
      exact le_latestBlock hlst block hbk
  safe := hsafe

theorem Summarized.ofInsert (current : CodexRoutingSlot) {blocks : QuotaBlocks}
    (c : CodexQuotaClass) (block : CodexQuotaClassBlock)
    (hsafe : ∀ block ∈ blocks.values, isSafeMs block.blockedUntilMs = true)
    (hbk : isSafeMs block.blockedUntilMs = true) :
    Summarized (withBlocks current (blocks.insert c block)
      (latestFrom block (blocks.insert c block).values)) := by
  have hmem : block ∈ (blocks.insert c block).values :=
    (Record.mem_values_iff _ block).mpr ⟨c, Record.lookup_insert_self blocks c block⟩
  refine ⟨fun key => Iff.rfl, fun hemp => ?_, fun _ => ⟨_, rfl, ?_, ?_⟩, fun other hoth => ?_⟩
  · have hno := (Record.entries_eq_nil_iff (blocks.insert c block)).mp hemp c
    rw [Record.lookup_insert_self] at hno
    cases hno
  · rcases List.mem_cons.mp (latestFrom_mem block (blocks.insert c block).values) with h | h
    · exact ⟨block, hmem, by rw [h]⟩
    · exact ⟨_, h, rfl⟩
  · rintro t ⟨other, hoth, rfl⟩
    exact le_latestFrom block _ other (List.mem_cons_of_mem _ hoth)
  · rcases Record.mem_values_insert hoth with rfl | hoth
    · exact hbk
    · exact hsafe other hoth

/-! ### The helpers for the classes -/

theorem Summarized.quotaBlocksIncludingLegacy_eq (h : Summarized slot) :
    quotaBlocksIncludingLegacy slot = slot.quotaBlocksByClass :=
  quotaBlocksIncludingLegacy_eq_self h.classes h.empty

theorem Summarized.legacyBlockForClass_eq (h : Summarized slot) (c : CodexQuotaClass) :
    legacyBlockForClass slot c = none := by
  unfold legacyBlockForClass
  cases hutl : slot.quotaBlockedUntilMs with
  | none => rfl
  | some blockedUntilMs =>
    cases slot.quotaBlockSource with
    | none => rfl
    | some source =>
      refine if_neg fun hgd => ?_
      rw [h.empty hgd.1] at hutl
      cases hutl

theorem Summarized.quotaBlockForClass_mem (h : Summarized slot)
    (hbk : quotaBlockForClass slot c = some block) : block ∈ slot.quotaBlocksByClass.values := by
  rcases UbqGateway.Codex.quotaBlockForClass_mem hbk with hmem | hleg
  · exact hmem
  · rw [h.legacyBlockForClass_eq c] at hleg
    cases hleg

theorem Summarized.without
    (hsafe : ∀ block ∈ slot.quotaBlocksByClass.values, isSafeMs block.blockedUntilMs = true)
    (c : CodexQuotaClass) : Summarized (withoutQuotaClass slot c) := by
  refine .ofLatest rfl rfl fun block hbk => hsafe block ?_
  obtain ⟨d, hd⟩ := (Record.mem_values_iff _ block).mp hbk
  have hlk : (blocksWithout slot.quotaBlocksByClass c).lookup d = some block := hd
  rw [lookup_blocksWithout] at hlk
  split_ifs at hlk
  exact (Record.mem_values_iff _ block).mpr ⟨d, hlk⟩

theorem Summarized.withLegacyQuotaClassMap_blocks (h : Summarized slot) :
    (withLegacyQuotaClassMap slot).quotaBlocksByClass = slot.quotaBlocksByClass := by
  unfold withLegacyQuotaClassMap
  split_ifs
  · rfl
  · exact h.quotaBlocksIncludingLegacy_eq

theorem Summarized.withoutRequested (h : Summarized slot) (c : CodexQuotaClass) :
    Summarized (withoutRequestedClass slot c) := by
  refine Summarized.without ?_ _
  rw [h.withLegacyQuotaClassMap_blocks]
  exact h.safe

/-! ### The steps of a slot -/

theorem isSafeMs_iff : isSafeMs t = true ↔ 0 ≤ t ∧ t ≤ maxSafeInteger := by
  simp only [isSafeMs, isSafeInteger, Bool.and_eq_true, decide_eq_true_eq]
  constructor
  · rintro ⟨h0, h⟩
    omega
  · rintro ⟨h0, h⟩
    omega

theorem IsTime.isSafeMs (h : IsTime now) : isSafeMs now = true := by
  obtain ⟨h0, h⟩ := h
  rw [isSafeMs_iff]
  unfold maxSafeInteger
  omega

/-- A retry lies in the future and is a safe integer. -/
theorem classifyCodex429_retryAtMs
    (h : (classifyCodex429 body header primary secondary now).retryAtMs = some retryAtMs) :
    now < retryAtMs ∧ isSafeInteger retryAtMs = true := by
  have hbody : ∀ resetAtMs, bodyResetAtMs body now = some resetAtMs →
      now < resetAtMs ∧ isSafeInteger resetAtMs = true := by
    intro resetAtMs hrst
    unfold bodyResetAtMs at hrst
    obtain ⟨seconds, -, hrst⟩ := Option.bind_eq_some_iff.mp hrst
    split_ifs at hrst with hgd
    rw [← Option.some.inj hrst]
    exact ⟨hgd.2.2.2, hgd.2.2.1⟩
  have hheader : ∀ deadline, futureRetryAfterDeadline header now = some deadline →
      now < deadline.deadlineMs ∧ isSafeInteger deadline.deadlineMs = true := by
    intro deadline hdl
    unfold futureRetryAfterDeadline at hdl
    rcases header with _ | ⟨seconds⟩ | ⟨timeMs⟩
    · cases hdl
    · dsimp only at hdl
      split_ifs at hdl with hgd
      rw [← Option.some.inj hdl]
      exact ⟨hgd.2.2.2, hgd.2.2.1⟩
    · dsimp only at hdl
      split_ifs at hdl with hgd
      rw [← Option.some.inj hdl]
      exact ⟨hgd.2, hgd.1⟩
  have hrty : resolveResetDeadlineMs (bodyResetAtMs body now)
      (futureRetryAfterDeadline header now) = some retryAtMs := h
  unfold resolveResetDeadlineMs at hrty
  cases hrst : bodyResetAtMs body now with
  | none =>
    rw [hrst] at hrty
    obtain ⟨deadline, hdl, rfl⟩ := Option.map_eq_some_iff.mp hrty
    exact hheader deadline hdl
  | some resetAtMs =>
    have hthis := hbody resetAtMs hrst
    rw [hrst] at hrty
    dsimp only at hrty
    split_ifs at hrty with hconf
    · cases hdl : futureRetryAfterDeadline header now with
      | none =>
        rw [hdl] at hrty
        rw [← Option.some.inj hrty]
        exact hthis
      | some deadline =>
        have hthat := hheader deadline hdl
        rw [hdl] at hrty
        have hmax : retryAtMs = max resetAtMs deadline.deadlineMs := (Option.some.inj hrty).symm
        rcases max_choice resetAtMs deadline.deadlineMs with heq | heq
        · rw [hmax, heq]
          exact hthis
        · rw [hmax, heq]
          exact hthat
    · rw [← Option.some.inj hrty]
      exact hthis

section

variable (h : Summarized current)

include h

section

variable (hnow : IsTime now) (account : CodexRoutingAccount) (parsed : Codex429Classification)
  (source : CodexQuotaBlockSource) (hrty : isSafeMs retryAtMs = true)

include hnow account parsed source hrty

theorem isSafeMs_blockedClassBlock (recoveryProbe : Bool) :
    isSafeMs (blockedClassBlock current account parsed source retryAtMs now
      recoveryProbe).blockedUntilMs = true := by
  unfold blockedClassBlock
  dsimp only
  rw [h.quotaBlocksIncludingLegacy_eq]
  split_ifs
  · rw [isSafeMs_iff]
    unfold IsTime at hnow
    unfold halfOpenLeaseMs maxSafeInteger
    omega
  · cases hpri : quotaBlockForClass current (quotaClass account.requestedModel) with
    | none =>
      rw [isSafeMs_iff] at hrty ⊢
      show 0 ≤ max 0 retryAtMs ∧ max 0 retryAtMs ≤ maxSafeInteger
      omega
    | some prior =>
      have hsafe := h.safe prior (h.quotaBlockForClass_mem hpri)
      rw [isSafeMs_iff] at hrty hsafe ⊢
      show 0 ≤ max prior.blockedUntilMs retryAtMs ∧
        max prior.blockedUntilMs retryAtMs ≤ maxSafeInteger
      omega

theorem Summarized.blocked (recoveryProbe foreignQuotaProbe : Bool) :
    Summarized (buildQuotaBlockedSlot current account parsed source retryAtMs now recoveryProbe
      foreignQuotaProbe) := by
  have hbk := isSafeMs_blockedClassBlock h hnow account parsed source hrty recoveryProbe
  have hsafe := h.safe
  rw [← h.quotaBlocksIncludingLegacy_eq] at hsafe
  have hslot := Summarized.ofInsert current (quotaClass account.requestedModel) _ hsafe hbk
  exact ⟨hslot.classes, hslot.empty, hslot.greatest, hslot.safe⟩

end

theorem Summarized.capacityBlocked (account : CodexRoutingAccount)
    (observation : CodexCapacityRoutingObservation) {resetAtMs : ℤ}
    (hrst : isSafeMs resetAtMs = true) (recoveryProbePending : Bool) :
    Summarized (capacityBlockedSlot current account observation
      (capacityBlock observation resetAtMs recoveryProbePending)) := by
  have hsafe := h.safe
  rw [← h.quotaBlocksIncludingLegacy_eq] at hsafe
  have hslot := Summarized.ofInsert current (quotaClass account.requestedModel)
    (capacityBlock observation resetAtMs recoveryProbePending) hsafe hrst
  exact ⟨hslot.classes, hslot.empty, hslot.greatest, hslot.safe⟩

theorem Summarized.released (account : CodexRoutingAccount) :
    Summarized (releasedProbeSlot current account) := by
  have hrld : Summarized (if routingProbeCircuit account = .quota then
      releaseQuotaClassProbe current (quotaClass account.requestedModel) else current) := by
    split_ifs
    · have hwo := h.withoutRequested (quotaClass account.requestedModel)
      unfold releaseQuotaClassProbe
      dsimp only
      split_ifs
      · exact hwo
      · exact ⟨hwo.classes, hwo.empty, hwo.greatest, hwo.safe⟩
    · exact h
  exact ⟨hrld.classes, hrld.empty, hrld.greatest, hrld.safe⟩

theorem Summarized.succeeded (account : CodexRoutingAccount) :
    Summarized (succeededSlot current account) := by
  have hrld : Summarized (if routingProbeCircuit account = .quota then
      withoutRequestedClass current (quotaClass account.requestedModel) else current) := by
    split_ifs
    · exact h.withoutRequested _
    · exact h
  exact ⟨hrld.classes, hrld.empty, hrld.greatest, hrld.safe⟩

end

theorem Summarized.capacityObserved {cleared : CodexRoutingSlot} (h : Summarized cleared)
    (observation : CodexCapacityRoutingObservation) (clearCircuit : Bool) :
    Summarized (capacityObservedSlot current cleared observation clearCircuit) := by
  unfold capacityObservedSlot
  dsimp only
  split_ifs <;> exact ⟨h.classes, h.empty, h.greatest, h.safe⟩

section

variable (h : Summarized current)

include h

theorem Summarized.discarded : Summarized (withoutLegacyTimeoutCircuit current) := by
  unfold withoutLegacyTimeoutCircuit
  split_ifs
  · exact h
  · exact ⟨h.classes, h.empty, h.greatest, h.safe⟩

theorem Summarized.rechecked (hnow : IsTime now) :
    Summarized (recheckSlotTransition current now) := by
  have hrechecked : Summarized (recheckQuotaClasses current now) := by
    unfold recheckQuotaClasses
    by_cases hemp : current.quotaBlocksByClass.entries = []
    · rw [if_pos hemp]
      refine ⟨h.classes, fun _ => ?_, fun hne => absurd hemp hne, h.safe⟩
      show current.quotaBlockedUntilMs.map _ = none
      rw [h.empty hemp]
      rfl
    · rw [if_neg hemp]
      refine .ofLatest rfl ?_ ?_
      · dsimp only
        cases hlst : latestBlock (current.quotaBlocksByClass.mapValues fun block =>
            { block with
              blockedUntilMs := now
              quotaSignalObservedAtMs := some now
              bankedResetGenerationAmbiguous := true }).values with
        | none =>
          rw [latestBlock_eq_none_iff, Record.values_mapValues, List.map_eq_nil_iff] at hlst
          exact absurd (List.map_eq_nil_iff.mp hlst) hemp
        | some latest => rfl
      · intro block hbk
        rw [Record.values_mapValues] at hbk
        obtain ⟨prior, -, rfl⟩ := List.mem_map.mp hbk
        exact hnow.isSafeMs
  exact ⟨hrechecked.classes, hrechecked.empty, hrechecked.greatest, hrechecked.safe⟩

theorem Summarized.lookup_reread (allow : Bool) (c : CodexQuotaClass) :
    (current.reread allow).quotaBlocksByClass.lookup c
      = (current.quotaBlocksByClass.lookup c).map (·.reread (current.rereadFields allow)) := by
  show (parseQuotaBlocksByClass _ _ _).lookup c = _
  rw [lookup_parseQuotaBlocksByClass]
  cases hbk : current.quotaBlocksByClass.lookup c with
  | none => rfl
  | some block =>
    have hsafe := h.safe block ((Record.mem_values_iff _ block).mpr ⟨c, hbk⟩)
    simp [hsafe]

/-- Reading a slot back keeps its summary. -/
theorem Summarized.reread (allow : Bool) : Summarized (current.reread allow) := by
  have hlk := h.lookup_reread allow
  have hsafe : ∀ block ∈ (current.reread allow).quotaBlocksByClass.values,
      ∃ prior ∈ current.quotaBlocksByClass.values, prior.blockedUntilMs = block.blockedUntilMs := by
    intro block hbk
    obtain ⟨c, hc⟩ := (Record.mem_values_iff _ block).mp hbk
    rw [hlk] at hc
    obtain ⟨prior, hpri, rfl⟩ := Option.map_eq_some_iff.mp hc
    exact ⟨prior, (Record.mem_values_iff _ prior).mpr ⟨c, hpri⟩, rfl⟩
  have hdeadlines : deadlines (current.reread allow).quotaBlocksByClass
      = deadlines current.quotaBlocksByClass := by
    ext t
    constructor
    · rintro ⟨block, hbk, rfl⟩
      exact hsafe block hbk
    · rintro ⟨block, hbk, rfl⟩
      obtain ⟨c, hc⟩ := (Record.mem_values_iff _ block).mp hbk
      refine ⟨block.reread (current.rereadFields allow), (Record.mem_values_iff _ _).mpr ⟨c, ?_⟩,
        rfl⟩
      rw [hlk, hc]
      rfl
  have hemp : (current.reread allow).quotaBlocksByClass.entries = []
      ↔ current.quotaBlocksByClass.entries = [] := by
    simp only [Record.entries_eq_nil_iff, hlk, Option.map_eq_none_iff]
  refine ⟨fun key => ?_, fun h0 => ?_, fun hne => ?_, fun block hbk => ?_⟩
  · show key ∈ current.quotaBlockedClasses.reverse.dedup.reverse ↔ _
    rw [List.mem_reverse, List.mem_dedup, List.mem_reverse, h.classes key, mem_blockKeys,
      mem_blockKeys]
    simp only [hlk, Option.isSome_map]
  · show current.quotaBlockedUntilMs.filter isSafeMs = none
    rw [h.empty (hemp.mp h0)]
    rfl
  · obtain ⟨m, hutl, hgreatest⟩ := h.greatest fun h0 => hne (hemp.mpr h0)
    refine ⟨m, ?_, by rw [hdeadlines]; exact hgreatest⟩
    obtain ⟨block, hbk, hm⟩ := hgreatest.1
    show current.quotaBlockedUntilMs.filter isSafeMs = some m
    rw [hutl, Option.filter_some, ← hm, h.safe block hbk]
    rfl
  · obtain ⟨prior, hpri, heq⟩ := hsafe block hbk
    rw [← heq]
    exact h.safe prior hpri

end

theorem SlotStep.summarized (hnow : IsTime now) (hstep : SlotStep now current next)
    (h : Summarized current) : Summarized next := by
  cases hstep with
  | blocked account _ _ _ _ source retryAtMs recoveryProbe foreign hrty =>
    obtain ⟨hlat, hsafe⟩ := classifyCodex429_retryAtMs hrty
    have hms : isSafeMs retryAtMs = true := by
      have h0 : 0 ≤ retryAtMs := le_trans hnow.1 hlat.le
      simp [isSafeMs, h0, hsafe]
    exact h.blocked hnow account _ source hms recoveryProbe foreign
  | released account => exact h.released account
  | succeeded account => exact h.succeeded account
  | invalidated | rotated => exact .cleared rfl rfl rfl
  | timedOut | claimed | attached => exact ⟨h.classes, h.empty, h.greatest, h.safe⟩
  | recovered account =>
    have hrld := h.withoutRequested (quotaClass account.requestedModel)
    exact ⟨hrld.classes, hrld.empty, hrld.greatest, hrld.safe⟩
  | capacityBlocked account observation _ pending hrst =>
    exact h.capacityBlocked account observation hrst pending
  | capacityObserved observation _ clearCircuit =>
    refine Summarized.capacityObserved ?_ observation clearCircuit
    split_ifs
    · exact h.withoutRequested _
    · exact h
  | discarded => exact h.discarded
  | rechecked => exact h.rechecked hnow
  | reread allow => exact h.reread allow

/-- In every run from neutral slots, the summary of a slot is the one of its blocks: the latest of
their deadlines and the set of their classes, and no deadline if there are no blocks. -/
theorem summary_exact {state next : CodexAccountRoutingState}
    (hneu : ∀ slot ∈ state.slots, IsNeutral slot) (hrun : RoutingRun state next) :
    ∀ slot ∈ next.slots,
      (slot.quotaBlocksByClass.entries ≠ [] →
        (∃ m, slot.quotaBlockedUntilMs = some m ∧
          IsGreatest {t | ∃ c block, slot.quotaBlocksByClass.lookup c = some block ∧
            block.blockedUntilMs = t} m) ∧
        {key | key ∈ slot.quotaBlockedClasses}
          = {key | ∃ c, (slot.quotaBlocksByClass.lookup c).isSome = true ∧ c.key = key}) ∧
      (slot.quotaBlocksByClass.entries = [] → slot.quotaBlockedUntilMs = none) := by
  intro slot hmem
  have h : Summarized slot := hrun.forall_slots (fun slot hslot => hslot.summarized)
    (fun now slot slot' hnow hstep h => hstep.summarized hnow h)
    (fun slot hslot => (hneu slot hslot).summarized) slot hmem
  refine ⟨fun hne => ⟨?_, ?_⟩, h.empty⟩
  · obtain ⟨m, hutl, hgreatest⟩ := h.greatest hne
    refine ⟨m, hutl, ?_⟩
    have hset : {t | ∃ c block, slot.quotaBlocksByClass.lookup c = some block ∧
        block.blockedUntilMs = t} = deadlines slot.quotaBlocksByClass := by
      ext t
      simp only [deadlines, Set.mem_ofPred_eq, Record.mem_values_iff]
      constructor
      · rintro ⟨c, block, hbk, ht⟩
        exact ⟨block, ⟨c, hbk⟩, ht⟩
      · rintro ⟨block, ⟨c, hbk⟩, ht⟩
        exact ⟨c, block, hbk, ht⟩
    rw [hset]
    exact hgreatest
  · ext key
    rw [Set.mem_ofPred_eq, h.classes key, mem_blockKeys]
    exact Iff.rfl

/-- An account of a row with one slot, for requests of a model. -/
def sampleAccount (model : String) : CodexRoutingAccount where
  slot := 0
  accountIdHash := "account"
  credentialVersion := "version"
  quotaHeadroom := none
  probeRequired := false
  probeGeneration := none
  probeToken := none
  probeCircuit := none
  overageFallback := false
  routingGeneration := none
  activeGeneration := none
  activePoolVersionstamp := none
  activeTransitionReason := none
  requestedModel := some model

def sampleState : CodexAccountRoutingState := ⟨0, false, [neutralSlot "version" (some "account")]⟩

/-- A rate-limit response for a model, with a delay in seconds. -/
def sampleLimit (model : String) (seconds : ℕ) : RoutingMutation :=
  .quotaBlock (sampleAccount model) ⟨true, none⟩ (some (.seconds seconds)) none none false

/-- The row after two models were refused, and the row was read back. -/
def sampleBlocked : CodexAccountRoutingState :=
  (((sampleLimit "gpt-5.3-codex-spark" 60).apply 1000 1000 sampleState).bind fun next =>
    ((sampleLimit "gpt-5" 30).apply 2000 2000 next).bind
      (RoutingMutation.reload.apply 3000 3000)).getD
      sampleState

theorem sampleBlocked_run : RoutingRun sampleState sampleBlocked := by
  obtain ⟨first, hfst⟩ : ∃ first, (sampleLimit "gpt-5.3-codex-spark" 60).apply 1000 1000 sampleState
      = some first := Option.isSome_iff_exists.mp (by decide +kernel)
  obtain ⟨second, hsnd⟩ : ∃ second, (sampleLimit "gpt-5" 30).apply 2000 2000 first
      = some second := by
    refine Option.isSome_iff_exists.mp ?_
    have hboth : (((sampleLimit "gpt-5.3-codex-spark" 60).apply 1000 1000 sampleState).bind
        ((sampleLimit "gpt-5" 30).apply 2000 2000)).isSome = true := by decide +kernel
    rwa [hfst] at hboth
  have hthd : RoutingMutation.reload.apply 3000 3000 second = some sampleBlocked := by
    have hall : (((sampleLimit "gpt-5.3-codex-spark" 60).apply 1000 1000 sampleState).bind
      fun next =>
        ((sampleLimit "gpt-5" 30).apply 2000 2000 next).bind
          (RoutingMutation.reload.apply 3000 3000))
        = some sampleBlocked := by decide +kernel
    rwa [hfst, Option.bind_some, hsnd, Option.bind_some] at hall
  have htime : ∀ t : ℤ, 0 ≤ t → t ≤ 3000 → IsTime t := fun t h0 h => ⟨h0, by omega⟩
  exact ((Relation.ReflTransGen.refl.tail
    ⟨1000, 1000, _, htime 1000 (by decide) (by decide), htime 1000 (by decide) (by decide),
      hfst⟩).tail
    ⟨2000, 2000, _, htime 2000 (by decide) (by decide), htime 2000 (by decide) (by decide),
      hsnd⟩).tail
    ⟨3000, 3000, _, htime 3000 (by decide) (by decide), htime 3000 (by decide) (by decide), hthd⟩

theorem summary_exact_blocked : sampleBlocked.slots.map (·.quotaBlockedUntilMs) = [some 61000] ∧
    ∀ slot ∈ sampleBlocked.slots,
      {key | key ∈ slot.quotaBlockedClasses}
        = {key | ∃ c, (slot.quotaBlocksByClass.lookup c).isSome = true ∧ c.key = key} := by
  have hneu : ∀ slot ∈ sampleState.slots, IsNeutral slot := by
    intro slot hmem
    exact ⟨"version", some "account", List.mem_singleton.mp hmem⟩
  refine ⟨by decide +kernel, fun slot hmem => ?_⟩
  have hblocked : ∀ slot ∈ sampleBlocked.slots, slot.quotaBlocksByClass.entries ≠ [] := by
    decide +kernel
  exact ((summary_exact hneu sampleBlocked_run slot hmem).1 (hblocked slot hmem)).2

end UbqGateway.Codex
