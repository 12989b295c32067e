import UbqGateway.Codex.Transitions

/-!
# Codex routing: the blocks of a slot

What the helpers for the blocks of the quota classes compute: the latest of some blocks, the blocks
of a slot together with those that its summary stands for, and what is left when a class is
released.
-/

namespace UbqGateway.Codex

/-! ### The latest block -/

theorem latestFrom_mem (seed : CodexQuotaClassBlock) (blocks : List CodexQuotaClassBlock) :
    latestFrom seed blocks ∈ seed :: blocks := by
  unfold latestFrom
  induction blocks generalizing seed with
  | nil => exact List.mem_singleton_self seed
  | cons block _ ih =>
    rw [List.foldl_cons]
    have hmem := ih (if seed.blockedUntilMs < block.blockedUntilMs then block else seed)
    rcases List.mem_cons.mp hmem with heq | hmem
    · rw [heq]
      split_ifs
      · exact List.mem_cons_of_mem _ List.mem_cons_self
      · exact List.mem_cons_self
    · exact List.mem_cons_of_mem _ (List.mem_cons_of_mem _ hmem)

theorem le_latestFrom (seed : CodexQuotaClassBlock) (blocks : List CodexQuotaClassBlock) :
    ∀ block ∈ seed :: blocks, block.blockedUntilMs ≤ (latestFrom seed blocks).blockedUntilMs := by
  unfold latestFrom
  induction blocks generalizing seed with
  | nil =>
    intro block hmem
    rw [List.mem_singleton.mp hmem]
    exact le_refl _
  | cons first blocks ih =>
    rw [List.foldl_cons]
    have hle := ih (if seed.blockedUntilMs < first.blockedUntilMs then first else seed)
    -- the accumulator is at least as late as either of the two blocks
    have hacc := hle _ List.mem_cons_self
    intro block hmem
    rcases List.mem_cons.mp hmem with rfl | hmem
    · refine le_trans ?_ hacc
      split_ifs with hlt
      · exact hlt.le
      · exact le_refl _
    · rcases List.mem_cons.mp hmem with rfl | hmem
      · refine le_trans ?_ hacc
        split_ifs with hlt
        · exact le_refl _
        · exact not_lt.mp hlt
      · exact hle block (List.mem_cons_of_mem _ hmem)

theorem latestBlock_eq_none_iff (blocks : List CodexQuotaClassBlock) :
    latestBlock blocks = none ↔ blocks = [] := by
  cases blocks <;> simp [latestBlock]

theorem latestBlock_mem (h : latestBlock blocks = some block) : block ∈ blocks := by
  cases blocks with
  | nil => cases h
  | cons first blocks =>
    cases h
    exact latestFrom_mem first blocks

theorem le_latestBlock (h : latestBlock blocks = some latest) :
    ∀ block ∈ blocks, block.blockedUntilMs ≤ latest.blockedUntilMs := by
  cases blocks with
  | nil => cases h
  | cons first blocks =>
    cases h
    exact le_latestFrom first blocks

/-! ### The keys of the blocks -/

theorem mem_blockKeys {blocks : QuotaBlocks} {key : String} :
    key ∈ blockKeys blocks ↔ ∃ c, (blocks.lookup c).isSome = true ∧ c.key = key := by
  unfold blockKeys
  constructor
  · intro h
    obtain ⟨⟨c, block⟩, hmem, rfl⟩ := List.mem_map.mp h
    exact ⟨c, by rw [(blocks.mem_entries_iff c block).mp hmem]; rfl, rfl⟩
  · rintro ⟨c, hc, rfl⟩
    obtain ⟨block, hbk⟩ := Option.isSome_iff_exists.mp hc
    exact List.mem_map.mpr ⟨(c, block), (blocks.mem_entries_iff c block).mpr hbk, rfl⟩

/-! ### The blocks that the summary stands for -/

def summaryBlock (slot : CodexRoutingSlot) : Option CodexQuotaClassBlock :=
  slot.quotaBlockedUntilMs.bind fun blockedUntilMs =>
    slot.quotaBlockSource.map fun source => legacyBlock slot blockedUntilMs source

def summaryClasses (slot : CodexRoutingSlot) : List CodexQuotaClass :=
  if legacyClasses slot = [] then quotaClassKeys else legacyClasses slot

theorem lookup_foldl_insert_free (block : CodexQuotaClassBlock) (cs : List CodexQuotaClass)
    (blocks : QuotaBlocks) (c : CodexQuotaClass) :
    (cs.foldl (fun blocks d => if (blocks.lookup d).isSome = true then blocks
        else blocks.insert d block) blocks).lookup c
      = (blocks.lookup c).or (if c ∈ cs then some block else none) := by
  induction cs generalizing blocks with
  | nil => simp
  | cons d _ ih =>
    rw [List.foldl_cons, ih]
    by_cases hd : (blocks.lookup d).isSome = true
    · rw [if_pos hd]
      by_cases hc : c = d
      · subst hc
        obtain ⟨old, hold⟩ := Option.isSome_iff_exists.mp hd
        simp [hold]
      · simp [hc]
    · rw [if_neg hd, Record.lookup_insert]
      by_cases hc : c = d
      · subst hc
        rw [Option.not_isSome_iff_eq_none] at hd
        simp [hd]
      · simp [hc]

theorem foldl_insert_taken (block : CodexQuotaClassBlock) {blocks : QuotaBlocks}
    {cs : List CodexQuotaClass} (h : ∀ c ∈ cs, (blocks.lookup c).isSome = true) :
    cs.foldl (fun blocks d => if (blocks.lookup d).isSome = true then blocks
      else blocks.insert d block) blocks = blocks := by
  induction cs with
  | nil => rfl
  | cons c _ ih =>
    rw [List.foldl_cons, if_pos (h c List.mem_cons_self)]
    exact ih fun d hd => h d (List.mem_cons_of_mem _ hd)

theorem lookup_quotaBlocksIncludingLegacy (slot : CodexRoutingSlot) (c : CodexQuotaClass) :
    (quotaBlocksIncludingLegacy slot).lookup c
      = (slot.quotaBlocksByClass.lookup c).or
        (if c ∈ summaryClasses slot then summaryBlock slot else none) := by
  unfold quotaBlocksIncludingLegacy summaryBlock
  cases slot.quotaBlockedUntilMs with
  | none => simp
  | some blockedUntilMs =>
    cases slot.quotaBlockSource with
    | none => simp
    | some source => exact lookup_foldl_insert_free _ _ _ _

theorem quotaBlocksIncludingLegacy_eq_self
    (hclss : ∀ key, key ∈ slot.quotaBlockedClasses ↔ key ∈ blockKeys slot.quotaBlocksByClass)
    (hemp : slot.quotaBlocksByClass.entries = [] → slot.quotaBlockedUntilMs = none) :
    quotaBlocksIncludingLegacy slot = slot.quotaBlocksByClass := by
  unfold quotaBlocksIncludingLegacy
  cases hutl : slot.quotaBlockedUntilMs with
  | none => rfl
  | some blockedUntilMs =>
    cases hsrc : slot.quotaBlockSource with
    | none => rfl
    | some source =>
      have hne : slot.quotaBlocksByClass.entries ≠ [] := by
        intro h
        rw [hemp h] at hutl
        cases hutl
      -- the classes of the summary are those of the blocks, and each of them has a block
      have hclas : ∀ c ∈ legacyClasses slot, (slot.quotaBlocksByClass.lookup c).isSome = true := by
        intro c hc
        obtain ⟨key, hkey, hof⟩ := List.mem_filterMap.mp hc
        obtain ⟨d, hd, hdkey⟩ := mem_blockKeys.mp ((hclss key).mp hkey)
        have : d = c := CodexQuotaClass.key_injective (hdkey.trans (quotaClassOfKey_eq_some hof))
        rwa [← this]
      have hsome : legacyClasses slot ≠ [] := by
        obtain ⟨⟨c, block⟩, hmem⟩ := List.exists_mem_of_ne_nil _ hne
        have hkey : c.key ∈ slot.quotaBlockedClasses :=
          (hclss _).mpr (List.mem_map.mpr ⟨(c, block), hmem, rfl⟩)
        exact List.ne_nil_of_mem (List.mem_filterMap.mpr ⟨c.key, hkey, quotaClassOfKey_key c⟩)
      dsimp only
      rw [if_neg hsome]
      exact foldl_insert_taken _ hclas

theorem lookup_withLegacyQuotaClassMap (slot : CodexRoutingSlot) (c : CodexQuotaClass) :
    (withLegacyQuotaClassMap slot).quotaBlocksByClass.lookup c
      = (quotaBlocksIncludingLegacy slot).lookup c := by
  unfold withLegacyQuotaClassMap
  split_ifs with hemp
  · have hno := (Record.entries_eq_nil_iff _).mp hemp c
    rw [hno]
    rw [lookup_quotaBlocksIncludingLegacy] at hno
    exact (Option.or_eq_none_iff.mp hno).1
  · rfl

theorem quotaBlockForClass_mem (h : quotaBlockForClass slot c = some block) :
    block ∈ slot.quotaBlocksByClass.values ∨ legacyBlockForClass slot c = some block := by
  have hmem := latestBlock_mem h
  rcases List.mem_append.mp hmem with hmem | hmem
  · rcases List.mem_append.mp hmem with hmem | hmem
    · exact .inl ((Record.mem_values_iff _ block).mpr ⟨c, Option.mem_toList.mp hmem⟩)
    · have hunk := Option.mem_toList.mp hmem
      split_ifs at hunk
      exact .inl ((Record.mem_values_iff _ block).mpr ⟨.unknown, hunk⟩)
  · exact .inr (Option.mem_toList.mp hmem)

/-! ### Releasing a class -/

theorem lookup_blocksWithout (blocks : QuotaBlocks) (c d : CodexQuotaClass) :
    (blocksWithout blocks c).lookup d
      = if d = c ∨ (d = .unknown ∧ (blocks.lookup .unknown).any (·.legacyFallback) = true) then none
        else blocks.lookup d := by
  unfold blocksWithout
  by_cases hfb : (blocks.lookup .unknown).any (·.legacyFallback) = true
  · by_cases hc : c = .unknown
    · subst hc
      rw [if_neg (fun h => h.1 rfl), Record.lookup_erase]
      simp [hfb]
    · rw [if_pos ⟨hc, hfb⟩, Record.lookup_erase, Record.lookup_erase]
      by_cases hd : d = c <;> by_cases hu : d = .unknown <;> simp [hd, hu, hfb]
  · rw [if_neg (fun h => hfb h.2), Record.lookup_erase]
    simp [hfb]

end UbqGateway.Codex
