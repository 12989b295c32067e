import UbqGateway.Codex.Isolation

/-!
# Normalizing the routing row

A slot of the row is taken by the account that it names, or, if it names none, by an account with
its credential version (`priorFor_matches`).  What an account takes is not taken by another one
(`normalizeSlots_at`), so that an account keeps its own slot whatever the rest of the pool is
(`normalizeRoutingState_own`); the normalized row names all its accounts, in order, so that
normalizing it again changes nothing (`normalizeRoutingState_again`).
-/

namespace UbqGateway.Codex

/-! ### The slot that an account takes -/

/-- The slot names the account, or it names none and has the credential version of the account. -/
def Matches (slot : CodexRoutingSlot) (identity : CodexRoutingIdentity) : Prop :=
  slot.accountIdHash = some identity.accountIdHash ∨
    (slot.accountIdHash = none ∧ slot.credentialVersion = identity.credentialVersion)

theorem priorFor_matches (h : priorFor priorSlots used index identity = some entry) :
    Matches entry.2 identity := by
  have htake : ∀ {predicate : CodexRoutingSlot → Bool},
      takePrior priorSlots used predicate = some entry → predicate entry.2 = true := by
    intro predicate h
    obtain ⟨found, hfd, rfl⟩ := Option.map_eq_some_iff.mp h
    have hfree := List.find?_some hfd
    exact (Bool.and_eq_true_iff.mp hfree).2
  unfold priorFor at h
  rcases Option.or_eq_some_iff.mp h with h | ⟨-, h⟩
  · rcases Option.or_eq_some_iff.mp h with h | ⟨-, h⟩
    · obtain ⟨direct, hdir, rfl⟩ := Option.map_eq_some_iff.mp h
      have hmat := (Bool.and_eq_true_iff.mp (Option.filter_eq_some_iff.mp hdir).2).2
      rcases Bool.or_eq_true_iff.mp hmat with hown | hleg
      · exact .inl (of_decide_eq_true hown)
      · obtain ⟨hno, hver⟩ := Bool.and_eq_true_iff.mp hleg
        exact .inr ⟨Option.isNone_iff_eq_none.mp hno, of_decide_eq_true hver⟩
    · exact .inl (of_decide_eq_true (htake h))
  · obtain ⟨hno, hver⟩ := Bool.and_eq_true_iff.mp (htake h)
    exact .inr ⟨Option.isNone_iff_eq_none.mp hno, of_decide_eq_true hver⟩

/-- The slot at an account's index names no account and has another version than the account's. -/
def LeavesPlace (priorSlots : List CodexRoutingSlot) (index : ℕ)
    (identity : CodexRoutingIdentity) : Prop :=
  ∀ direct, priorSlots[index]? = some direct → direct.accountIdHash = none →
    direct.credentialVersion ≠ identity.credentialVersion

/-- An identity that one free slot names gets it. -/
theorem priorFor_own {own : ℕ} (hslot : priorSlots[own]? = some slot) (hfree : own ∉ used)
    (hnms : slot.accountIdHash = some identity.accountIdHash)
    (honly : ∀ (k : ℕ) (other : CodexRoutingSlot), priorSlots[k]? = some other →
      other.accountIdHash = some identity.accountIdHash → k = own)
    (hpl : LeavesPlace priorSlots index identity) :
    priorFor priorSlots used index identity = some (own, slot) := by
  have hnmd : ∀ entry : ℕ × CodexRoutingSlot, priorSlots[entry.1]? = some entry.2 →
      entry.2.accountIdHash = some identity.accountIdHash → entry = (own, slot) := by
    intro entry hent hname
    have hown := honly _ _ hent hname
    rw [hown, hslot] at hent
    exact Prod.ext hown (Option.some.inj hent).symm
  have htake : takePrior priorSlots used (fun slot =>
      decide (slot.accountIdHash = some identity.accountIdHash)) = some (own, slot) := by
    unfold takePrior
    cases hfind : priorSlots.zipIdx.find? (fun entry => !used.contains entry.2 &&
        decide (entry.1.accountIdHash = some identity.accountIdHash)) with
    | none =>
      refine absurd ?_ (List.find?_eq_none.mp hfind (slot, own)
        (List.mem_zipIdx_iff_getElem?.mpr hslot))
      simp [hfree, hnms]
    | some entry =>
      have hmat := List.find?_some hfind
      have hname := (Bool.and_eq_true_iff.mp hmat).2
      have hget := List.mem_zipIdx_iff_getElem?.mp (List.mem_of_find?_eq_some hfind)
      exact congrArg some (hnmd (entry.2, entry.1) hget (of_decide_eq_true hname))
  cases hdir : directPrior priorSlots used index identity with
  | none =>
    unfold priorFor
    rw [hdir, htake]
    rfl
  | some entry =>
    obtain ⟨direct, hget, rfl⟩ := Option.map_eq_some_iff.mp hdir
    obtain ⟨hget, hmat⟩ := Option.filter_eq_some_iff.mp hget
    have hown : (index, direct) = (own, slot) := by
      rcases Bool.or_eq_true_iff.mp (Bool.and_eq_true_iff.mp hmat).2 with hname | hleg
      · exact hnmd (index, direct) hget (of_decide_eq_true hname)
      · obtain ⟨hno, hver⟩ := Bool.and_eq_true_iff.mp hleg
        exact absurd (of_decide_eq_true hver)
          (hpl direct hget (Option.isNone_iff_eq_none.mp hno))
    unfold priorFor
    rw [hdir, hown]
    rfl

/-- What becomes of a slot that an account takes. -/
def takenSlot (prior : CodexRoutingSlot) (identity : CodexRoutingIdentity) (discard : Bool) :
    CodexRoutingSlot := (normalizedFrom prior 0 identity discard).slot

theorem normalizedFrom_slot (prior : CodexRoutingSlot) (index : ℕ) (discard : Bool) :
    (normalizedFrom prior index identity discard).slot = takenSlot prior identity discard := by
  unfold takenSlot normalizedFrom
  dsimp only
  split_ifs <;> rfl

/-- The slot of an account, by what it takes. -/
def slotOf (prior : Option (ℕ × CodexRoutingSlot)) (identity : CodexRoutingIdentity)
    (discard : Bool) : CodexRoutingSlot :=
  prior.elim (neutralSlot identity.credentialVersion (some identity.accountIdHash)) fun entry =>
    takenSlot entry.2 identity discard

variable {discard : Bool} {i j : ℕ}

/-- What the slot at an index is made from. -/
theorem normalizeSlots_at (index : ℕ) (used : List ℕ) (hidt : identities[i]? = some identity) :
    ∃ used', (∀ u ∈ used', u ∈ used ∨ ∃ prior, priorSlots[u]? = some prior ∧
        ∀ hash, prior.accountIdHash = some hash → ∃ j < i, ∃ earlier,
          identities[j]? = some earlier ∧ earlier.accountIdHash = hash) ∧
      ((normalizeSlots priorSlots discard index used identities).1.map (·.slot))[i]? =
        some (slotOf (priorFor priorSlots used' (index + i) identity) identity discard) := by
  induction identities generalizing index used i with
  | nil => cases hidt
  | cons head tail ih =>
    rw [normalizeSlots]
    cases i with
    | zero =>
      obtain rfl : head = identity := Option.some.inj hidt
      refine ⟨used, fun u hu => .inl hu, ?_⟩
      rw [Nat.add_zero]
      cases priorFor priorSlots used index head with
      | none => rfl
      | some entry => exact congrArg some (normalizedFrom_slot _ _ _)
    | succ i =>
      have hshf : index + (i + 1) = index + 1 + i := by omega
      have hlat : ∀ hash, (∃ j < i, ∃ earlier, tail[j]? = some earlier ∧
          earlier.accountIdHash = hash) → ∃ j < i + 1, ∃ earlier,
          (head :: tail)[j]? = some earlier ∧ earlier.accountIdHash = hash := by
        rintro hash ⟨j, hj, earlier, herl, hhash⟩
        exact ⟨j + 1, by omega, earlier, herl, hhash⟩
      rw [hshf]
      cases hpri : priorFor priorSlots used index head with
      | none =>
        obtain ⟨used', hused, hslot⟩ := ih (index + 1) used hidt
        refine ⟨used', fun u hu => (hused u hu).imp_right ?_, hslot⟩
        rintro ⟨prior, hget, hnms⟩
        exact ⟨prior, hget, fun hash h => hlat hash (hnms hash h)⟩
      | some entry =>
        obtain ⟨used', hused, hslot⟩ := ih (index + 1) (entry.1 :: used) hidt
        refine ⟨used', fun u hu => ?_, hslot⟩
        rcases hused u hu with hmem | ⟨prior, hget, hnms⟩
        · rcases List.mem_cons.mp hmem with rfl | hmem
          · refine .inr ⟨entry.2, mem_of_priorFor hpri, fun hash h => ?_⟩
            rcases priorFor_matches hpri with hown | ⟨hno, -⟩
            · rw [h] at hown
              exact ⟨0, by omega, head, rfl, (Option.some.inj hown).symm⟩
            · rw [h] at hno
              cases hno
          · exact .inl hmem
        · exact .inr ⟨prior, hget, fun hash h => hlat hash (hnms hash h)⟩

/-! ### The normalized row -/

/-- The slots of a row that may be missing. -/
def storedSlots (raw : Option CodexAccountRoutingState) : List CodexRoutingSlot :=
  (raw.map (·.slots)).getD []

theorem normalizeRoutingState_at (raw : Option CodexAccountRoutingState) (now : ℤ) (discard : Bool)
    (hidt : identities[i]? = some identity) :
    ∃ used, (∀ u ∈ used, ∃ prior, (storedSlots raw)[u]? = some prior ∧
        ∀ hash, prior.accountIdHash = some hash → ∃ j < i, ∃ earlier,
          identities[j]? = some earlier ∧ earlier.accountIdHash = hash) ∧
      (normalizeRoutingState raw identities now discard).slots[i]? =
        some (slotOf (priorFor (storedSlots raw) used i identity) identity discard) := by
  obtain ⟨used, hused, hslot⟩ := normalizeSlots_at 0 [] hidt
  rw [Nat.zero_add] at hslot
  exact ⟨used, fun u hu => (hused u hu).resolve_left List.not_mem_nil, hslot⟩

/-- The slot is the only one that names the account. -/
def OwnSlot (priorSlots : List CodexRoutingSlot) (identity : CodexRoutingIdentity) (own : ℕ)
    (slot : CodexRoutingSlot) : Prop :=
  priorSlots[own]? = some slot ∧ slot.accountIdHash = some identity.accountIdHash ∧
    ∀ (k : ℕ) (other : CodexRoutingSlot), priorSlots[k]? = some other →
      other.accountIdHash = some identity.accountIdHash → k = own

/-- **An account keeps its own slot**, whatever the rest of the pool is. -/
theorem normalizeRoutingState_own (hdist : (identities.map (·.accountIdHash)).Nodup)
    (hidt : identities[i]? = some identity)
    (hown : OwnSlot (storedSlots raw) identity own slot)
    (hpl : LeavesPlace (storedSlots raw) i identity) :
    (normalizeRoutingState raw identities now discard).slots[i]? =
      some (takenSlot slot identity discard) := by
  obtain ⟨hslot, hnms, honly⟩ := hown
  obtain ⟨used, hused, hat⟩ :=
    normalizeRoutingState_at raw now discard hidt
  have hfree : own ∉ used := by
    intro hmem
    obtain ⟨prior, hpri, htkn⟩ := hused own hmem
    rw [hslot] at hpri
    cases hpri
    obtain ⟨k, hk, earlier, herl, hhash⟩ := htkn _ hnms
    have hi : i < identities.length := (List.getElem?_eq_some_iff.mp hidt).1
    have heq : (identities.map (·.accountIdHash))[k]? =
      (identities.map (·.accountIdHash))[i]? := by
      rw [List.getElem?_map, List.getElem?_map, herl, hidt]
      exact congrArg some hhash
    have hki := (List.nodup_iff_getElem?_ne_getElem?.mp hdist) k i hk (by
      rw [List.length_map]
      exact hi)
    exact hki heq
  rw [hat, priorFor_own hslot hfree hnms honly hpl]
  rfl

/-- **An account never takes the slot of another one**: its slot is neutral, or it was a slot that
named it or, naming none, had its credential version. -/
theorem normalizeRoutingState_taken (raw : Option CodexAccountRoutingState) (now : ℤ)
    (discard : Bool) (hidt : identities[i]? = some identity) :
    ∃ next, (normalizeRoutingState raw identities now discard).slots[i]? = some next ∧
      (next = neutralSlot identity.credentialVersion (some identity.accountIdHash) ∨
        ∃ prior ∈ storedSlots raw, Matches prior identity ∧
          next = takenSlot prior identity discard) := by
  obtain ⟨used, -, hat⟩ :=
    normalizeRoutingState_at raw now discard hidt
  refine ⟨_, hat, ?_⟩
  cases hpri : priorFor (storedSlots raw) used i identity with
  | none => exact .inl rfl
  | some entry =>
    exact .inr ⟨entry.2, List.mem_of_getElem? (mem_of_priorFor hpri), priorFor_matches hpri,
      rfl⟩

/-! ### Normalizing again -/

/-- What normalizing gives to the slot of an account. -/
structure Normalized (slot : CodexRoutingSlot) (identity : CodexRoutingIdentity) : Prop where
  names : slot.accountIdHash = some identity.accountIdHash
  version : slot.credentialVersion = identity.credentialVersion
  current : hasLegacyTimeoutCircuit slot = false

theorem normalized_slotOf (prior : Option (ℕ × CodexRoutingSlot)) (identity : CodexRoutingIdentity)
    (discard : Bool) : Normalized (slotOf prior identity discard) identity := by
  have hkept : ∀ slot : CodexRoutingSlot, slot.accountIdHash = some identity.accountIdHash →
      slot.credentialVersion = identity.credentialVersion →
      Normalized (withoutLegacyTimeoutCircuit slot) identity := by
    intro slot hnms hver
    refine ⟨?_, ?_, hasLegacyTimeoutCircuit_without slot⟩
    · unfold withoutLegacyTimeoutCircuit
      split_ifs <;> exact hnms
    · unfold withoutLegacyTimeoutCircuit
      split_ifs <;> exact hver
  cases prior with
  | none => exact ⟨rfl, rfl, rfl⟩
  | some entry =>
    show Normalized (normalizedFrom entry.2 0 identity discard).slot identity
    unfold normalizedFrom
    dsimp only
    generalize (if discard = true then withoutLegacyTimeoutCircuit entry.2 else entry.2) = discarded
    split_ifs with hver hnms
    · exact hkept _ hnms hver
    · exact hkept _ hnms hver
    · exact hkept _ rfl hver
    · exact hkept _ rfl rfl

theorem Normalized.taken (h : Normalized slot identity) (discard : Bool) :
    takenSlot slot identity discard = slot := by
  have hwo : withoutLegacyTimeoutCircuit slot = slot := if_pos h.current
  unfold takenSlot normalizedFrom
  dsimp only
  rw [hwo, ite_self, if_pos h.version, if_pos h.names]
  exact hwo

/-- Normalized slots are found where they are. -/
theorem priorFor_direct (hslot : priorSlots[index]? = some slot) (hfree : index ∉ used)
    (hnms : slot.accountIdHash = some identity.accountIdHash) :
    priorFor priorSlots used index identity = some (index, slot) := by
  have hdir : directPrior priorSlots used index identity = some (index, slot) := by
    unfold directPrior
    rw [hslot]
    simp [hfree, hnms]
  unfold priorFor
  rw [hdir]
  rfl

theorem normalizeSlots_normalized {rest : List CodexRoutingSlot}
    (hrest : List.Forall₂ Normalized rest identities) (front : List CodexRoutingSlot)
    (hix : front.length = index) (hused : ∀ u ∈ used, u < index) :
    (normalizeSlots (front ++ rest) discard index used identities).1.map (·.slot) = rest := by
  induction hrest generalizing front index used with
  | nil => rfl
  | @cons slot _ rest _ hslot _ ih =>
    have hget : (front ++ slot :: rest)[index]? = some slot := by
      rw [← hix, List.getElem?_append_right le_rfl, Nat.sub_self]
      rfl
    have hfree : index ∉ used := fun hmem => lt_irrefl _ (hused index hmem)
    rw [normalizeSlots, priorFor_direct hget hfree hslot.names]
    dsimp only
    rw [List.map_cons, normalizedFrom_slot, hslot.taken, List.append_cons]
    rw [ih (front ++ [slot]) (by rw [List.length_append, hix]; rfl) fun u hu => ?_]
    rcases List.mem_cons.mp hu with rfl | hu
    · exact Nat.lt_succ_self u
    · exact Nat.lt_succ_of_lt (hused u hu)

theorem normalizeSlots_all (priorSlots : List CodexRoutingSlot) (discard : Bool) (index : ℕ)
    (used : List ℕ) (identities : List CodexRoutingIdentity) : List.Forall₂ Normalized
      ((normalizeSlots priorSlots discard index used identities).1.map (·.slot)) identities := by
  induction identities generalizing index used with
  | nil => exact .nil
  | cons identity _ ih =>
    rw [normalizeSlots]
    cases priorFor priorSlots used index identity with
    | none => exact .cons (normalized_slotOf none identity discard) (ih _ _)
    | some entry =>
      refine .cons ?_ (ih _ _)
      have htkn := normalized_slotOf (some entry) identity discard
      rw [slotOf, Option.elim_some, ← normalizedFrom_slot entry.2 entry.1] at htkn
      exact htkn

theorem Normalized.of_mem (h : List.Forall₂ Normalized slots identities) (hmem : slot ∈ slots) :
    ∃ identity, Normalized slot identity := by
  induction h with
  | nil => cases hmem
  | cons hslot _ ih =>
    rcases List.mem_cons.mp hmem with rfl | hmem
    · exact ⟨_, hslot⟩
    · exact ih hmem

/-- **Normalizing again** changes nothing but the time. -/
theorem normalizeRoutingState_again (raw : Option CodexAccountRoutingState)
    (identities : List CodexRoutingIdentity) (now now' : ℤ) (discard discard' : Bool) :
    normalizeRoutingState (some (normalizeRoutingState raw identities now discard)) identities now'
        discard' =
      { normalizeRoutingState raw identities now discard with updatedAtMs := now' } := by
  generalize hfst : normalizeRoutingState raw identities now discard = first
  have hall : List.Forall₂ Normalized first.slots identities := by
    rw [← hfst]
    exact normalizeSlots_all (storedSlots raw) discard 0 [] identities
  have hslt : (normalizeSlots first.slots discard' 0 [] identities).1.map
    (·.slot) = first.slots :=
    normalizeSlots_normalized hall [] rfl fun u hu => absurd hu List.not_mem_nil
  have hleg : ∀ used : List ℕ, (first.slots.zipIdx.any fun entry => !used.contains entry.2 &&
      isLegacyStableResetIdentity entry.1) = false := by
    intro used
    refine List.any_eq_false.mpr fun entry hent => ?_
    have hget := List.mem_zipIdx_iff_getElem?.mp hent
    obtain ⟨identity, hnorm⟩ := Normalized.of_mem hall (List.mem_of_getElem? hget)
    simp [isLegacyStableResetIdentity, hnorm.names]
  unfold normalizeRoutingState normalizeRouting
  dsimp only [Option.map_some, Option.getD_some, Option.any_some]
  rw [hleg, Bool.or_false, hslt]

/-! ### Two pools -/

/-- **Normalization is idempotent and the pool's order does not matter.**  An account of two pools
keeps its own slot in both, if the slot at its index does not come first; without a slot that
matches it gets a neutral one, and it never gets what names another account. -/
theorem normalizeRoutingState_stable (raw : Option CodexAccountRoutingState) (now : ℤ)
    (discard : Bool) :
    (∀ identities, normalizeRoutingState (some (normalizeRoutingState raw identities now discard))
      identities now discard = normalizeRoutingState raw identities now discard) ∧
    ∀ (identities identities' : List CodexRoutingIdentity) (i j : ℕ)
      (identity identity' : CodexRoutingIdentity),
      (identities.map (·.accountIdHash)).Nodup → (identities'.map (·.accountIdHash)).Nodup →
      identities[i]? = some identity → identities'[j]? = some identity' →
      identity'.accountIdHash = identity.accountIdHash →
      identity'.credentialVersion = identity.credentialVersion →
      (∀ (own : ℕ) (slot : CodexRoutingSlot), OwnSlot (storedSlots raw) identity own slot →
        LeavesPlace (storedSlots raw) i identity → LeavesPlace (storedSlots raw) j identity →
        (normalizeRoutingState raw identities now discard).slots[i]? =
            some (takenSlot slot identity discard) ∧
          (normalizeRoutingState raw identities' now discard).slots[j]? =
            some (takenSlot slot identity discard)) ∧
      ((∀ prior ∈ storedSlots raw, ¬ Matches prior identity) →
        (normalizeRoutingState raw identities now discard).slots[i]? =
          some (neutralSlot identity.credentialVersion (some identity.accountIdHash))) ∧
      ∃ next, (normalizeRoutingState raw identities now discard).slots[i]? = some next ∧
        (next = neutralSlot identity.credentialVersion (some identity.accountIdHash) ∨
          ∃ prior ∈ storedSlots raw, Matches prior identity ∧
            next = takenSlot prior identity discard) := by
  refine ⟨fun identities => normalizeRoutingState_again raw identities now now discard discard, ?_⟩
  rintro identities identities' i j identity ⟨slot', hash, version⟩ hdist hdist' hidt
    hidt' rfl rfl
  obtain ⟨next, hnext, htkn⟩ :=
    normalizeRoutingState_taken raw now discard hidt
  refine ⟨fun own slot hown hpl hpl' => ⟨?_, ?_⟩, fun habs => ?_, next, hnext, htkn⟩
  · exact normalizeRoutingState_own hdist hidt hown hpl
  · have hkept : (normalizeRoutingState raw identities' now discard).slots[j]? =
      some (takenSlot slot
        ⟨slot', identity.accountIdHash, identity.credentialVersion⟩ discard) :=
      normalizeRoutingState_own hdist' hidt' hown hpl'
    exact hkept
  · rcases htkn with rfl | ⟨prior, hpri, hmat, -⟩
    · exact hnext
    · exact absurd hmat (habs prior hpri)

/-- A slot with a running block and a lease. -/
def heldSlot : CodexRoutingSlot :=
  { neutralSlot "version" (some "account") with
    quotaBlocksByClass := Record.empty.insert .standard
      ⟨5000, .headerRetryAfter, false, some 0, none, false, false, false⟩
    probeLease := some ⟨"token", 3000, 1, .quota, some .standard⟩ }

/-- Two accounts, one of which holds a block and a lease. -/
def heldRow : CodexAccountRoutingState :=
  ⟨0, false, [{ neutralSlot "w" (some "other") with generation := 7 }, heldSlot]⟩

/-- The account keeps its block and its lease, in front of the other one and in a pool of its
own. -/
theorem normalizeRoutingState_stable_held :
    (normalizeRoutingState (some heldRow) [⟨0, "account", "version"⟩] 5 false).slots[0]? =
        some heldSlot ∧
      (normalizeRoutingState (some heldRow) [⟨0, "other", "w"⟩, ⟨1, "account", "version"⟩] 5
        false).slots[1]? = some heldSlot := by
  have hown : OwnSlot (storedSlots (some heldRow)) ⟨0, "account", "version"⟩ 1 heldSlot := by
    refine ⟨rfl, rfl, fun k other hk hnms => ?_⟩
    match k with
    | 0 =>
      cases hk
      exact absurd hnms (by decide)
    | 1 => rfl
    | k + 2 => cases hk
  have hpl : ∀ i, LeavesPlace (storedSlots (some heldRow)) i ⟨0, "account", "version"⟩ := by
    intro i direct hk hno
    match i with
    | 0 | 1 =>
      cases hk
      cases hno
    | i + 2 => cases hk
  exact ((normalizeRoutingState_stable (some heldRow) 5 false).2 [⟨0, "account", "version"⟩]
    [⟨0, "other", "w"⟩, ⟨1, "account", "version"⟩] 0 1 _ _ (by decide) (by decide) rfl rfl rfl
    rfl).1 1 heldSlot hown (hpl 0) (hpl 1)

/-- A row with a slot that names no account, and one that names `a`; both have its version. -/
def sampleRow : CodexAccountRoutingState :=
  ⟨0, false, [{ neutralSlot "v" none with generation := 7 },
    { neutralSlot "v" (some "a") with generation := 3 }]⟩

/-- Where the pool puts `a` in the place of the slot without a name, `a` takes it, and keeps its own
slot in the other pool. -/
theorem normalizeRoutingState_order :
    ((normalizeRoutingState (some sampleRow) [⟨0, "a", "v"⟩] 5 true).slots[0]?.map (·.generation)
        = some 7) ∧
      (normalizeRoutingState (some sampleRow) [⟨0, "b", "w"⟩, ⟨1, "a", "v"⟩] 5 true).slots[1]?.map
        (·.generation) = some 3 := by
  decide +kernel

end UbqGateway.Codex
