import UbqGateway.Codex.Isolation

/-!
# Codex routing: the evidence behind a redemption fence

A banked reset is redeemed against the block of a quota class.  The block keeps only a summary of
the rate-limit responses that led to it: the latest deadline, one observed reset with a mark whether
it was absolute, and a mark that the evidence is ambiguous.  `Evidence` says what this summary
proves about the responses.  A stable deadline is forgotten if it is shorter than the deadline in
force when it arrives and no stable deadline has been observed before.
-/

namespace UbqGateway.Codex

/-- The deadlines of two responses, in the order they must have. -/
def notLonger (earlier later : Codex429Classification) : Prop :=
  ∀ t u, earlier.retryAtMs = some t → later.retryAtMs = some u → t ≤ u

/-- No response with a stable deadline is shorter than one before it.  The newest comes first. -/
def StableExtend (history : List Codex429Classification) : Prop :=
  history.Pairwise fun later earlier => later.resetDeadlineIsStable = true → notLonger earlier later

/-- All responses with a stable deadline have the same. -/
def StableAgree (history : List Codex429Classification) : Prop :=
  ∀ s ∈ history, ∀ t ∈ history, s.resetDeadlineIsStable = true → t.resetDeadlineIsStable = true →
    s.retryAtMs = t.retryAtMs

/-- The row after the rate-limit responses of the history, for one class of one slot that was
neutral.  In between the row is read back, and other slots change. -/
inductive LimitRun (index : ℕ) (c : CodexQuotaClass) :
    List Codex429Classification → CodexAccountRoutingState → Prop
  | start (state : CodexAccountRoutingState) (slot : CodexRoutingSlot)
      (hslot : state.slots[index]? = some slot) (hneu : IsNeutral slot) : LimitRun index c
        [] state
  | limited {history : List Codex429Classification} {state next : CodexAccountRoutingState}
      (hrun : LimitRun index c history state) (now updatedAtMs : ℤ) (hnow : IsTime now)
      (account : CodexRoutingAccount) (hix : account.slot = index)
      (hclas : quotaClass account.requestedModel = c) (body : Codex429Body)
      (header : Option RetryAfterHeader) (primary secondary : Option ℚ) (recoveryProbe : Bool)
      (hnext : (RoutingMutation.quotaBlock account body header primary secondary
        recoveryProbe).apply
        now updatedAtMs state = some next) :
      LimitRun index c (classifyCodex429 body header primary secondary now :: history) next
  | reload {history : List Codex429Classification} {state next : CodexAccountRoutingState}
      (hrun : LimitRun index c history state)
      (hnext : parseCodexAccountRoutingState state.toJson = some next) :
        LimitRun index c history next
  | elsewhere {history : List Codex429Classification} {state next : CodexAccountRoutingState}
      (hrun : LimitRun index c history state)
      (hnext : next.slots[index]? = state.slots[index]?) : LimitRun index c history next

/-! ### What the block proves about the responses -/

/-- What the block of the class says about the responses that led to it. -/
structure Evidence (history : List Codex429Classification) (block : CodexQuotaClassBlock) :
    Prop where
  conflict : block.bankedResetGenerationAmbiguous = false →
    ∀ s ∈ history, s.resetDeadlineConflict = false
  bound : block.bankedResetGenerationAmbiguous = false →
    ∀ s ∈ history, ∃ t, s.retryAtMs = some t ∧ t ≤ block.blockedUntilMs
  attained : block.bankedResetGenerationAmbiguous = false →
    ∃ s ∈ history, s.retryAtMs = some block.blockedUntilMs
  observed : ∃ t, block.observedResetAtMs = some t ∧ isSafeMs t = true
  stable : block.bankedResetGenerationAmbiguous = false → block.observedResetAtIsStable = true →
    block.observedResetAtMs = some block.blockedUntilMs ∧
      ∃ s ∈ history, s.resetDeadlineIsStable = true ∧ s.retryAtMs = some block.blockedUntilMs
  agree : block.bankedResetGenerationAmbiguous = false → block.observedResetAtIsStable = true →
    StableExtend history →
      ∀ s ∈ history, s.resetDeadlineIsStable = true → s.retryAtMs = some block.blockedUntilMs
  none : block.bankedResetGenerationAmbiguous = false → block.observedResetAtIsStable = false →
    StableExtend history → ∀ s ∈ history, s.resetDeadlineIsStable = false

/-- A block that is accepted: its evidence names no conflict, and its stable deadlines agree exactly
if none of them came short. -/
theorem Evidence.accepted (h : Evidence history block)
    (hclr : block.bankedResetGenerationAmbiguous = false)
    (hstb : block.observedResetAtIsStable = true) :
    ((∀ s ∈ history, s.resetDeadlineConflict = false) ∧ StableAgree history) ↔
      StableExtend history := by
  constructor
  · rintro ⟨-, hagr⟩
    -- all stable deadlines are the latest one, since one of them is
    obtain ⟨-, s, hs, hsstable, hsuntil⟩ := h.stable hclr hstb
    have hlst : ∀ t ∈ history, t.resetDeadlineIsStable = true →
        t.retryAtMs = some block.blockedUntilMs := by
      intro t ht htstable
      rw [← hsuntil]
      exact hagr t ht s hs htstable hsstable
    refine List.pairwise_of_forall_mem_list fun later hlat earlier herl hlaterStable => ?_
    intro t u ht hu
    rw [hlst later hlat hlaterStable] at hu
    obtain ⟨t', ht', hle⟩ := h.bound hclr earlier herl
    rw [ht] at ht'
    rw [Option.some.inj ht', ← Option.some.inj hu]
    exact hle
  · intro hextend
    refine ⟨h.conflict hclr, fun s hs t ht hsstable htstable => ?_⟩
    rw [h.agree hclr hstb hextend s hs hsstable, h.agree hclr hstb hextend t ht htstable]

theorem Evidence.congr {block' : CodexQuotaClassBlock} (h : Evidence history block)
    (hutl : block'.blockedUntilMs = block.blockedUntilMs)
    (hobs : block'.observedResetAtMs = block.observedResetAtMs)
    (hstb : block'.observedResetAtIsStable = block.observedResetAtIsStable)
    (hamb : block'.bankedResetGenerationAmbiguous = false →
      block.bankedResetGenerationAmbiguous = false) : Evidence history block' := by
  constructor
  · exact fun hclr => h.conflict (hamb hclr)
  · rw [hutl]
    exact fun hclr => h.bound (hamb hclr)
  · rw [hutl]
    exact fun hclr => h.attained (hamb hclr)
  · rw [hobs]
    exact h.observed
  · rw [hutl, hobs, hstb]
    exact fun hclr => h.stable (hamb hclr)
  · rw [hutl, hstb]
    exact fun hclr => h.agree (hamb hclr)
  · rw [hstb]
    exact fun hclr => h.none (hamb hclr)

/-! ### One response -/

theorem Evidence.first (hrty : parsed.retryAtMs = some retryAtMs)
    (hsafe : isSafeMs retryAtMs = true) (hobs : block.observedResetAtMs = some retryAtMs)
    (hstb : block.observedResetAtIsStable = parsed.resetDeadlineIsStable)
    (hclr : block.bankedResetGenerationAmbiguous = false →
      parsed.resetDeadlineConflict = false ∧ block.blockedUntilMs = retryAtMs) :
    Evidence [parsed] block where
  conflict := by
    intro h s hs
    rw [List.mem_singleton.mp hs]
    exact (hclr h).1
  bound := by
    intro h s hs
    rw [List.mem_singleton.mp hs]
    exact ⟨retryAtMs, hrty, (hclr h).2.ge⟩
  attained := fun h => ⟨parsed, List.mem_singleton_self parsed, by rw [hrty, (hclr h).2]⟩
  observed := ⟨retryAtMs, hobs, hsafe⟩
  stable := by
    intro h hs
    rw [(hclr h).2]
    exact ⟨hobs, parsed, List.mem_singleton_self parsed, by rw [← hstb]; exact hs, hrty⟩
  agree := by
    intro h _ _ s hs _
    rw [List.mem_singleton.mp hs, (hclr h).2]
    exact hrty
  none := by
    intro _ hs _ s hmem
    rw [List.mem_singleton.mp hmem, ← hstb]
    exact hs

/-- Another answer with a limit adds to the evidence. -/
theorem Evidence.later (h : Evidence history prior) (hrty : parsed.retryAtMs = some retryAtMs)
    (hsafe : isSafeMs retryAtMs = true) (hpri : prior.observedResetAtMs = some observedAtMs)
    (hclr : block.bankedResetGenerationAmbiguous = false →
      prior.bankedResetGenerationAmbiguous = false ∧ parsed.resetDeadlineConflict = false ∧
      block.blockedUntilMs = max prior.blockedUntilMs retryAtMs ∧
      (prior.observedResetAtIsStable = true →
        parsed.resetDeadlineIsStable = true ∧ retryAtMs = observedAtMs))
    (hext : block.bankedResetGenerationAmbiguous = false → prior.blockedUntilMs ≤ retryAtMs →
      block.observedResetAtMs = some retryAtMs ∧
      block.observedResetAtIsStable = parsed.resetDeadlineIsStable)
    (hshr : ¬ prior.blockedUntilMs ≤ retryAtMs → block.observedResetAtMs = some observedAtMs ∧
      block.observedResetAtIsStable = prior.observedResetAtIsStable)
    (hobd : block.observedResetAtMs = some retryAtMs ∨
      block.observedResetAtMs = some observedAtMs) :
    Evidence (parsed :: history) block := by
  -- a stable observation is only kept by a response that repeats it
  have hrepeat : block.bankedResetGenerationAmbiguous = false →
      prior.observedResetAtIsStable = true →
        parsed.resetDeadlineIsStable = true ∧ retryAtMs = prior.blockedUntilMs := by
    intro hb hp
    obtain ⟨hpclear, -, -, hsame⟩ := hclr hb
    obtain ⟨hprs, heq⟩ := hsame hp
    have hutl := (h.stable hpclear hp).1
    rw [hpri] at hutl
    exact ⟨hprs, heq.trans (Option.some.inj hutl)⟩
  constructor
  · intro hb s hs
    rcases List.mem_cons.mp hs with rfl | hs
    · exact (hclr hb).2.1
    · exact h.conflict (hclr hb).1 s hs
  · intro hb s hs
    rw [(hclr hb).2.2.1]
    rcases List.mem_cons.mp hs with rfl | hs
    · exact ⟨retryAtMs, hrty, le_max_right _ _⟩
    · obtain ⟨t, ht, hle⟩ := h.bound (hclr hb).1 s hs
      exact ⟨t, ht, le_trans hle (le_max_left _ _)⟩
  · intro hb
    rw [(hclr hb).2.2.1]
    rcases le_total prior.blockedUntilMs retryAtMs with hle | hle
    · exact ⟨parsed, List.mem_cons_self, by rw [max_eq_right hle]; exact hrty⟩
    · obtain ⟨s, hs, hsuntil⟩ := h.attained (hclr hb).1
      exact ⟨s, List.mem_cons_of_mem _ hs, by rw [max_eq_left hle]; exact hsuntil⟩
  · rcases hobd with hobd | hobd
    · exact ⟨retryAtMs, hobd, hsafe⟩
    · obtain ⟨t, ht, htsafe⟩ := h.observed
      rw [hpri] at ht
      exact ⟨observedAtMs, hobd, by rw [Option.some.inj ht]; exact htsafe⟩
  · intro hb hstb
    obtain ⟨-, -, hutl, -⟩ := hclr hb
    by_cases hle : prior.blockedUntilMs ≤ retryAtMs
    · obtain ⟨hobs, hst⟩ := hext hb hle
      rw [hutl, max_eq_right hle]
      exact ⟨hobs, parsed, List.mem_cons_self, by rw [← hst]; exact hstb, hrty⟩
    · rw [(hshr hle).2] at hstb
      exact absurd (hrepeat hb hstb).2.ge hle
  · intro hb hstb hextend s hs hsstable
    obtain ⟨hpclear, -, hutl, -⟩ := hclr hb
    have hextendTail : StableExtend history := (List.pairwise_cons.mp hextend).2
    by_cases hp : prior.observedResetAtIsStable = true
    · obtain ⟨-, heq⟩ := hrepeat hb hp
      rw [hutl, heq, max_self]
      rcases List.mem_cons.mp hs with rfl | hs
      · rw [hrty, heq]
      · exact h.agree hpclear hp hextendTail s hs hsstable
    · rw [Bool.not_eq_true] at hp
      by_cases hle : prior.blockedUntilMs ≤ retryAtMs
      · rcases List.mem_cons.mp hs with rfl | hs
        · rw [hutl, max_eq_right hle]
          exact hrty
        · rw [h.none hpclear hp hextendTail s hs] at hsstable
          cases hsstable
      · rw [(hshr hle).2, hp] at hstb
        cases hstb
  · intro hb hunstable hextend s hs
    obtain ⟨hpclear, -, -, -⟩ := hclr hb
    obtain ⟨hhead, hextendTail⟩ := List.pairwise_cons.mp hextend
    have hp : prior.observedResetAtIsStable = false := by
      rw [← Bool.not_eq_true]
      intro hp
      obtain ⟨hprs, heq⟩ := hrepeat hb hp
      rw [(hext hb heq.ge).2, hprs] at hunstable
      cases hunstable
    rcases List.mem_cons.mp hs with rfl | hs
    · -- a stable response is not shorter than the one that set the deadline
      rw [← Bool.not_eq_true]
      intro hprs
      obtain ⟨t, ht, htuntil⟩ := h.attained hpclear
      have hle := hhead t ht hprs _ _ htuntil hrty
      rw [(hext hb hle).2, hprs] at hunstable
      cases hunstable
    · exact h.none hpclear hp hextendTail s hs

/-! ### The slot -/

/-- The slot after the responses of the history, for one class. -/
structure Follows (c : CodexQuotaClass) (history : List Codex429Classification)
    (slot : CodexRoutingSlot) : Prop where
  summarized : Summarized slot
  fresh : history = [] → slot.quotaBlocksByClass.entries = [] ∧ slot.observedResetAtMs = none ∧
    slot.observedResetAtIsStable = false ∧ slot.bankedResetGenerationAmbiguous = false
  block : history ≠ [] → ∃ block, slot.quotaBlocksByClass.lookup c = some block ∧
    (∀ d, d ≠ c → slot.quotaBlocksByClass.lookup d = none) ∧
    slot.observedResetAtIsStable = block.observedResetAtIsStable ∧ Evidence history block

variable {slot : CodexRoutingSlot}

theorem IsNeutral.follows (h : IsNeutral slot) (c : CodexQuotaClass) : Follows c [] slot := by
  refine ⟨h.summarized, fun _ => ?_, fun hne => absurd rfl hne⟩
  obtain ⟨credentialVersion, accountIdHash, rfl⟩ := h
  exact ⟨rfl, rfl, rfl, rfl⟩

theorem quotaBlockForClass_only (hsmy : Summarized slot)
    (hoth : ∀ d, d ≠ c → slot.quotaBlocksByClass.lookup d = none) :
    quotaBlockForClass slot c = slot.quotaBlocksByClass.lookup c := by
  unfold quotaBlockForClass
  have hunk : (if c = .unknown then none else slot.quotaBlocksByClass.lookup .unknown) =
    none := by
    split_ifs with hc
    · rfl
    · exact hoth .unknown (Ne.symm hc)
  rw [hunk, hsmy.legacyBlockForClass_eq c]
  cases slot.quotaBlocksByClass.lookup c with
  | none | some block => rfl

/-- Whether a response is taken for the one of a recovery probe. -/
def isBoundedRecoveryProbe (current : CodexRoutingSlot) (account : CodexRoutingAccount)
    (recoveryProbe : Bool) : Bool :=
  recoveryProbe || (current.bankedResetRecoveryProbePending && account.probeGeneration.isSome)

theorem Summarized.blockedClassBlock_fields (h : Summarized current) (account : CodexRoutingAccount)
    (parsed : Codex429Classification) (source : CodexQuotaBlockSource) (retryAtMs now : ℤ)
    (recoveryProbe : Bool) {prior : Option CodexQuotaClassBlock}
    (hpri : quotaBlockForClass current (quotaClass account.requestedModel) = prior)
    (hidt : resolveQuotaClassResetIdentity current prior parsed retryAtMs
      ((prior.map (·.blockedUntilMs)).getD 0) (decide (current.quotaBlocksByClass.entries ≠ []))
      (isBoundedRecoveryProbe current account recoveryProbe) now = identity) :
    let block := blockedClassBlock current account parsed source retryAtMs now recoveryProbe
    (isBoundedRecoveryProbe current account recoveryProbe = false →
      block.blockedUntilMs = max ((prior.map (·.blockedUntilMs)).getD 0) retryAtMs) ∧
    block.observedResetAtMs = identity.observedResetAtMs ∧
    block.observedResetAtIsStable = identity.observedResetAtIsStable ∧
    block.bankedResetGenerationAmbiguous = identity.generationAmbiguous := by
  subst hpri hidt
  unfold blockedClassBlock
  rw [h.quotaBlocksIncludingLegacy_eq]
  refine ⟨fun hbdd => if_neg ?_, rfl, rfl, rfl⟩
  unfold isBoundedRecoveryProbe at hbdd
  rw [hbdd]
  exact Bool.false_ne_true

theorem Follows.first (h : Follows (quotaClass account.requestedModel) [] current)
    (hrty : parsed.retryAtMs = some retryAtMs) (hsafe : isSafeMs retryAtMs = true)
    (source : CodexQuotaBlockSource) (now : ℤ) (recoveryProbe : Bool) : Evidence [parsed]
      (blockedClassBlock current account parsed source retryAtMs now recoveryProbe) := by
  obtain ⟨hemp, hobd, hstb, hclr⟩ := h.fresh rfl
  have hno : ∀ d, current.quotaBlocksByClass.lookup d = none :=
    (Record.entries_eq_nil_iff _).mp hemp
  have hpri : quotaBlockForClass current (quotaClass account.requestedModel) = none := by
    rw [quotaBlockForClass_only h.summarized fun d _ => hno d]
    exact hno _
  have hpos : 0 ≤ retryAtMs := (isSafeMs_iff.mp hsafe).1
  have hidt : ∀ bounded, resolveQuotaClassResetIdentity current none parsed retryAtMs 0
      (decide (current.quotaBlocksByClass.entries ≠ [])) bounded now
      = ⟨some retryAtMs, parsed.resetDeadlineIsStable,
        bounded || parsed.resetDeadlineConflict⟩ := by
    intro bounded
    simp [resolveQuotaClassResetIdentity, hemp, hobd, hclr, hpos]
  obtain ⟨hutl, hobs, hst, hamb⟩ := h.summarized.blockedClassBlock_fields account parsed source
    retryAtMs now recoveryProbe hpri (hidt _)
  refine .first hrty hsafe hobs hst fun hb => ?_
  rw [hamb] at hb
  obtain ⟨hbdd, hconf⟩ := Bool.or_eq_false_iff.mp hb
  exact ⟨hconf, (hutl hbdd).trans (max_eq_right hpos)⟩

theorem resolveQuotaClassResetIdentity_later (current : CodexRoutingSlot)
    (parsed : Codex429Classification) (retryAtMs now : ℤ) (bounded : Bool)
    (hobs : prior.observedResetAtMs = some observedAtMs)
    (hidt : resolveQuotaClassResetIdentity current (some prior) parsed retryAtMs
      prior.blockedUntilMs true bounded now = identity) :
    (identity.generationAmbiguous = false → bounded = false ∧
      prior.bankedResetGenerationAmbiguous = false ∧ parsed.resetDeadlineConflict = false ∧
      (prior.observedResetAtIsStable = true →
        parsed.resetDeadlineIsStable = true ∧ retryAtMs = observedAtMs)) ∧
    (identity.generationAmbiguous = false → prior.blockedUntilMs ≤ retryAtMs →
      identity.observedResetAtMs = some retryAtMs ∧
      identity.observedResetAtIsStable = parsed.resetDeadlineIsStable) ∧
    (¬ prior.blockedUntilMs ≤ retryAtMs → identity.observedResetAtMs = some observedAtMs ∧
      identity.observedResetAtIsStable = prior.observedResetAtIsStable) ∧
    (identity.observedResetAtMs = some retryAtMs ∨
      identity.observedResetAtMs = some observedAtMs) := by
  subst hidt
  unfold resolveQuotaClassResetIdentity
  simp only [hobs, Option.bind_some, Option.some_or, Option.elim_some, Option.isSome_some,
    Bool.true_and, Bool.not_true, Bool.false_and, Bool.or_false, Option.any_some]
  generalize hamb : (bounded || prior.bankedResetGenerationAmbiguous ||
    parsed.resetDeadlineConflict || (prior.observedResetAtIsStable &&
      (!parsed.resetDeadlineIsStable || decide (some retryAtMs ≠ some observedAtMs)))) = ambiguous
  have hclr : ambiguous = false → bounded = false ∧ prior.bankedResetGenerationAmbiguous = false ∧
      parsed.resetDeadlineConflict = false ∧ (prior.observedResetAtIsStable = true →
        parsed.resetDeadlineIsStable = true ∧ retryAtMs = observedAtMs) := by
    rintro rfl
    simp only [Bool.or_eq_false_iff] at hamb
    obtain ⟨⟨⟨hbdd, hpri⟩, hconf⟩, hrepeat⟩ := hamb
    refine ⟨hbdd, hpri, hconf, fun hstb => ?_⟩
    simpa [hstb] using hrepeat
  split_ifs with hset
  · refine ⟨hclr, fun _ _ => ⟨rfl, rfl⟩, fun hle => ?_, .inl rfl⟩
    simp [hle] at hset
  · refine ⟨hclr, fun hb hle => ?_, fun _ => ⟨rfl, rfl⟩, .inr rfl⟩
    obtain rfl : ambiguous = false := hb
    simp [hle] at hset

/-- A later answer of the same class follows the history. -/
theorem Follows.later (h : Follows (quotaClass account.requestedModel) history current)
    (hne : history ≠ []) (hrty : parsed.retryAtMs = some retryAtMs)
    (hsafe : isSafeMs retryAtMs = true) (source : CodexQuotaBlockSource) (now : ℤ)
    (recoveryProbe : Bool) : Evidence (parsed :: history)
      (blockedClassBlock current account parsed source retryAtMs now recoveryProbe) := by
  obtain ⟨prior, hlk, hoth, -, hevid⟩ := h.block hne
  have hpri : quotaBlockForClass current (quotaClass account.requestedModel) = some prior := by
    rw [quotaBlockForClass_only h.summarized hoth]
    exact hlk
  obtain ⟨observedAtMs, hobd, -⟩ := hevid.observed
  have hents : decide (current.quotaBlocksByClass.entries ≠ []) = true := by
    refine decide_eq_true fun hemp => ?_
    rw [(Record.entries_eq_nil_iff _).mp hemp] at hlk
    cases hlk
  obtain ⟨identity, hidt⟩ : ∃ identity, resolveQuotaClassResetIdentity current (some prior) parsed
    retryAtMs prior.blockedUntilMs true (isBoundedRecoveryProbe current account recoveryProbe) now
      = identity := ⟨_, rfl⟩
  have hrsv : resolveQuotaClassResetIdentity current (some prior) parsed retryAtMs
      (((some prior).map (·.blockedUntilMs)).getD 0)
      (decide (current.quotaBlocksByClass.entries ≠ []))
      (isBoundedRecoveryProbe current account recoveryProbe) now = identity := by
    rw [hents]
    exact hidt
  obtain ⟨hutl, hobs, hst, hamb⟩ := h.summarized.blockedClassBlock_fields account parsed source
    retryAtMs now recoveryProbe hpri hrsv
  obtain ⟨hclr, hext, hshr, hone⟩ :=
    resolveQuotaClassResetIdentity_later current parsed retryAtMs now _ hobd hidt
  rw [← hamb] at hclr hext
  rw [← hobs] at hext hshr hone
  rw [← hst] at hext hshr
  refine hevid.later hrty hsafe hobd (fun hb => ?_) hext hshr hone
  obtain ⟨hbdd, hpclear, hconf, hrepeat⟩ := hclr hb
  exact ⟨hpclear, hconf, hutl hbdd, hrepeat⟩

/-- **The step**: an answer with a limit. -/
theorem Follows.limited (h : Follows (quotaClass account.requestedModel) history current)
    (hnow : IsTime now)
    (hrty : (classifyCodex429 body header primary secondary now).retryAtMs = some retryAtMs)
    (source : CodexQuotaBlockSource) (recoveryProbe foreignQuotaProbe : Bool) :
    Follows (quotaClass account.requestedModel)
      (classifyCodex429 body header primary secondary now :: history)
      (buildQuotaBlockedSlot current account (classifyCodex429 body header primary secondary now)
        source retryAtMs now recoveryProbe foreignQuotaProbe) := by
  have hsafe : isSafeMs retryAtMs = true := by
    obtain ⟨hlat, hsafe⟩ := classifyCodex429_retryAtMs hrty
    have h0 : 0 ≤ retryAtMs := le_trans hnow.1 hlat.le
    simp [isSafeMs, h0, hsafe]
  have hevid : Evidence (classifyCodex429 body header primary secondary now :: history)
      (blockedClassBlock current account (classifyCodex429 body header primary secondary now)
        source retryAtMs now recoveryProbe) := by
    cases history with
    | nil => exact h.first hrty hsafe source now recoveryProbe
    | cons s history =>
      exact h.later (List.cons_ne_nil s history) hrty hsafe source now recoveryProbe
  have hold : ∀ d, d ≠ quotaClass account.requestedModel →
      current.quotaBlocksByClass.lookup d = none := by
    intro d hd
    cases history with
    | nil => exact (Record.entries_eq_nil_iff _).mp (h.fresh rfl).1 d
    | cons s history =>
      obtain ⟨-, -, hoth, -, -⟩ := h.block (List.cons_ne_nil s history)
      exact hoth d hd
  generalize hprs : classifyCodex429 body header primary secondary now = parsed at *
  generalize hbk : blockedClassBlock current account parsed source retryAtMs now recoveryProbe
    = block at hevid
  have hblk : (buildQuotaBlockedSlot current account parsed source retryAtMs now recoveryProbe
      foreignQuotaProbe).quotaBlocksByClass
      = current.quotaBlocksByClass.insert (quotaClass account.requestedModel) block := by
    rw [← hbk, ← h.summarized.quotaBlocksIncludingLegacy_eq]
    rfl
  have hlk : ∀ d, d ≠ quotaClass account.requestedModel → (buildQuotaBlockedSlot current account
      parsed source retryAtMs now recoveryProbe foreignQuotaProbe).quotaBlocksByClass.lookup d =
        none := by
    intro d hd
    rw [hblk, Record.lookup_insert_of_ne _ _ hd]
    exact hold d hd
  refine ⟨h.summarized.blocked hnow account parsed source hsafe recoveryProbe foreignQuotaProbe,
    fun hnil => absurd hnil (List.cons_ne_nil _ _), fun _ => ⟨block, ?_, hlk, ?_, hevid⟩⟩
  · rw [hblk, Record.lookup_insert_self]
  · -- the latest block is the only one
    have hmem := latestFrom_mem block (current.quotaBlocksByClass.insert
      (quotaClass account.requestedModel) block).values
    have honly : latestFrom block (current.quotaBlocksByClass.insert
        (quotaClass account.requestedModel) block).values = block := by
      rcases List.mem_cons.mp hmem with heq | hmem
      · exact heq
      · obtain ⟨d, hd⟩ := (Record.mem_values_iff _ _).mp hmem
        by_cases hdc : d = quotaClass account.requestedModel
        · rw [hdc, Record.lookup_insert_self] at hd
          exact (Option.some.inj hd).symm
        · rw [Record.lookup_insert_of_ne _ _ hdc, hold d hdc] at hd
          cases hd
    show (latestFrom (blockedClassBlock current account parsed source retryAtMs now recoveryProbe)
      ((quotaBlocksIncludingLegacy current).insert _ _).values).observedResetAtIsStable = _
    rw [h.summarized.quotaBlocksIncludingLegacy_eq, hbk, honly]

theorem Evidence.reread (h : Evidence history block)
    (hstb : slot.observedResetAtIsStable = block.observedResetAtIsStable) (allow : Bool) :
    Evidence history (block.reread (slot.rereadFields allow)) := by
  obtain ⟨observedAtMs, hobs, hsafe⟩ := h.observed
  refine h.congr rfl ?_ ?_ fun hclr => (Bool.or_eq_false_iff.mp hclr).1
  · show (block.observedResetAtMs.filter isSafeMs).or _ = _
    rw [hobs, Option.filter_some, hsafe]
    rfl
  · show (block.observedResetAtIsStable || (_ && slot.observedResetAtIsStable)) = _
    rw [hstb]
    cases block.observedResetAtIsStable
    · rw [Bool.and_false, Bool.or_false]
    · rfl

theorem Follows.reread (h : Follows c history current) (allow : Bool) :
    Follows c history (current.reread allow) := by
  refine ⟨h.summarized.reread allow, fun hnil => ?_, fun hne => ?_⟩
  · obtain ⟨hemp, hobs, hstb, hclr⟩ := h.fresh hnil
    refine ⟨?_, ?_, hstb, ?_⟩
    · rw [Record.entries_eq_nil_iff] at hemp ⊢
      intro d
      rw [h.summarized.lookup_reread, hemp d]
      rfl
    · show current.observedResetAtMs.filter isSafeMs = none
      rw [hobs]
      rfl
    · show (current.bankedResetGenerationAmbiguous && _) = false
      rw [hclr]
      rfl
  · obtain ⟨block, hlk, hoth, hstb, hevid⟩ := h.block hne
    refine ⟨block.reread (current.rereadFields allow), ?_, fun d hd => ?_, ?_,
      hevid.reread hstb allow⟩
    · rw [h.summarized.lookup_reread, hlk]
      rfl
    · rw [h.summarized.lookup_reread, hoth d hd]
      rfl
    · show current.observedResetAtIsStable
        = (block.observedResetAtIsStable || (_ && current.observedResetAtIsStable))
      rw [hstb]
      cases block.observedResetAtIsStable
      · rw [Bool.and_false, Bool.or_false]
      · rfl

theorem LimitRun.follows (h : LimitRun index c history state) :
    ∃ slot, state.slots[index]? = some slot ∧ Follows c history slot := by
  induction h with
  | start _ slot hslot hneu => exact ⟨slot, hslot, hneu.follows c⟩
  | limited _ now updatedAtMs hnow account hix hclas body header primary secondary recoveryProbe
      hnext ih =>
    obtain ⟨slot, hslot, hfol⟩ := ih
    subst hix hclas
    obtain ⟨retryAtMs, source, hrty, -, -, -, -, rfl⟩ := quotaBlockTransition_eq_some hnext
    refine ⟨_, getElem?_withSlot _ _ _ _, ?_⟩
    rw [slotFor_of_getElem? hslot]
    exact hfol.limited hnow hrty source recoveryProbe _
  | reload _ hnext ih =>
    obtain ⟨slot, hslot, hfol⟩ := ih
    rw [parseCodexAccountRoutingState_toJson] at hnext
    split_ifs at hnext
    rw [← Option.some.inj hnext]
    exact ⟨_, getElem?_reread hslot, hfol.reread _⟩
  | elsewhere _ hnext ih =>
    obtain ⟨slot, hslot, hfol⟩ := ih
    exact ⟨slot, by rw [hnext]; exact hslot, hfol⟩

/-- A fence that is accepted after some responses for the class: no response had conflicting
deadlines and the stable deadlines agree, exactly if no stable deadline was shorter than one that
came before it. -/
theorem fence_evidence {index : ℕ} {c : CodexQuotaClass} {history : List Codex429Classification}
    {state : CodexAccountRoutingState} (hrun : LimitRun index c history state)
    {account : CodexRoutingAccount} (hix : account.slot = index)
    (hclas : quotaClass account.requestedModel = c) {quotaResetAtMs routingGeneration : ℤ}
    (hacc : isCodexQuotaBlockFenceCurrent state.toJson account quotaResetAtMs routingGeneration
      = true) : ((∀ s ∈ history, s.resetDeadlineConflict = false) ∧ StableAgree history) ↔
      StableExtend history := by
  subst hix hclas
  obtain ⟨slot, hslot, hfol⟩ := hrun.follows
  unfold isCodexQuotaBlockFenceCurrent at hacc
  rw [parseCodexAccountRoutingState_toJson, Bool.and_eq_true] at hacc
  have hany := hacc.2
  split_ifs at hany
  · rw [Option.any_some, Bool.and_eq_true] at hany
    have hany := hany.2
    rw [getElem?_reread hslot, Option.any_some, Bool.and_eq_true] at hany
    have hany := hany.2
    have hfol := hfol.reread !state.bankedResetLegacyIdentityUnresolved
    generalize slot.reread (!state.bankedResetLegacyIdentityUnresolved) = current at hany hfol
    cases history with
    | nil =>
      have hno := (Record.entries_eq_nil_iff _).mp (hfol.fresh rfl).1
      rw [quotaBlockForClass_only hfol.summarized fun d _ => hno d, hno] at hany
      cases hany
    | cons s history =>
      obtain ⟨block, hlk, hoth, -, hevid⟩ := hfol.block (List.cons_ne_nil s history)
      rw [quotaBlockForClass_only hfol.summarized hoth, hlk, Option.any_some,
        decide_eq_true_eq] at hany
      exact hevid.accepted hany.2.2.1 hany.2.1
  · cases hany

/-- The redemption fence of a row with one slot. -/
def sampleFence (state : CodexAccountRoutingState) (quotaResetAtMs routingGeneration : ℤ) : Bool :=
  isCodexQuotaBlockFenceCurrent state.toJson
    (sampleAccount "gpt-5") quotaResetAtMs routingGeneration

/-- A rate-limit response with the header `retry-after`. -/
def sampleResponse (header : RetryAfterHeader) : RoutingMutation :=
  .quotaBlock (sampleAccount "gpt-5") ⟨true, none⟩ (some header) none none false

theorem LimitRun.sample (hrun : LimitRun 0 .standard history state) (hnow : 0 ≤ now ∧ now ≤ 9000)
    (hnext : (sampleResponse header).apply now now state = some next) :
    LimitRun 0 .standard (classifyCodex429 ⟨true, none⟩ (some header) none none now :: history)
      next :=
  .limited hrun now now ⟨hnow.1, by omega⟩ (sampleAccount "gpt-5") rfl
    (by decide +kernel) ⟨true, none⟩
    (some header) none none false hnext

/-- Two responses with the same date. -/
theorem fence_evidence_dates : ∃ history state, LimitRun 0 .standard history state ∧
    history.map (·.retryAtMs) = [some 60000, some 60000] ∧ sampleFence state 60000 2 = true ∧
    (((∀ s ∈ history, s.resetDeadlineConflict = false) ∧ StableAgree history) ↔
      StableExtend history) := by
  obtain ⟨first, hfst⟩ : ∃ first, (sampleResponse (.imfFixdate 60000)).apply 1000 1000 sampleState
      = some first := Option.isSome_iff_exists.mp (by decide +kernel)
  obtain ⟨second, hsnd⟩ : ∃ second, (sampleResponse (.imfFixdate 60000)).apply 2000 2000 first
      = some second ∧ sampleFence second 60000 2 = true := by
    have hboth : (((sampleResponse (.imfFixdate 60000)).apply 1000 1000 sampleState).bind
        ((sampleResponse (.imfFixdate 60000)).apply 2000 2000)).any (sampleFence · 60000 2) =
          true := by
      decide +kernel
    rw [hfst, Option.bind_some] at hboth
    exact (Option.any_eq_true _ _).mp hboth
  have hrun := ((LimitRun.start sampleState _ rfl ⟨_, _, rfl⟩).sample (by omega) hfst).sample
    (by omega) hsnd.1
  exact ⟨_, second, hrun, by decide +kernel, hsnd.2,
    fence_evidence hrun rfl (by decide +kernel) hsnd.2⟩

/-- A delay, a date before its end, and a date after it: the fence of the last date is accepted,
although the two dates differ. -/
theorem fence_evidence_forgotten : ∃ history state, LimitRun 0 .standard history state ∧
    history.map (fun s => (s.retryAtMs, s.resetDeadlineIsStable))
      = [(some 70000, true), (some 50000, true), (some 61000, false)] ∧
    sampleFence state 70000 3 = true ∧ ¬ StableAgree history := by
  obtain ⟨first, hfst⟩ : ∃ first, (sampleResponse (.seconds 60)).apply 1000 1000 sampleState
      = some first := Option.isSome_iff_exists.mp (by decide +kernel)
  obtain ⟨second, hsnd⟩ : ∃ second, (sampleResponse (.imfFixdate 50000)).apply 2000 2000 first
      = some second := by
    have hboth : (((sampleResponse (.seconds 60)).apply 1000 1000 sampleState).bind
        ((sampleResponse (.imfFixdate 50000)).apply 2000 2000)).isSome = true := by decide +kernel
    rw [hfst, Option.bind_some] at hboth
    exact Option.isSome_iff_exists.mp hboth
  obtain ⟨third, hthd, hfence⟩ : ∃ third,
    (sampleResponse (.imfFixdate 70000)).apply 3000 3000 second
      = some third ∧ sampleFence third 70000 3 = true := by
    have hall : ((((sampleResponse (.seconds 60)).apply 1000 1000 sampleState).bind
        ((sampleResponse (.imfFixdate 50000)).apply 2000 2000)).bind
        ((sampleResponse (.imfFixdate 70000)).apply 3000 3000)).any (sampleFence · 70000 3) =
          true := by
      decide +kernel
    rw [hfst, Option.bind_some, hsnd, Option.bind_some] at hall
    exact (Option.any_eq_true _ _).mp hall
  have hrun := (((LimitRun.start sampleState _ rfl ⟨_, _, rfl⟩).sample (by omega) hfst).sample
    (by omega) hsnd).sample (by omega) hthd
  refine ⟨_, third, hrun, by decide +kernel, hfence, ?_⟩
  unfold StableAgree
  decide +kernel

end UbqGateway.Codex
