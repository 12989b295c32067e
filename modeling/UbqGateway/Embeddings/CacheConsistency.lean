import UbqGateway.Embeddings.CacheIndex
import UbqGateway.Library.Schedule

/-!
# The cache index is consistent

The four keys of an entry are there together, at one time, or not at all (`Consistent`).  Every
transaction checks the pointer, and while an entry has its pointer the other three keys are where
the pointer says: so a refresh that leaves the pointer alone writes the same keys again, and an
evictor that acts on an old listing deletes nothing that a newer pointer has brought back.
-/

namespace UbqGateway.Embeddings

/-! ### Consistent stores -/

section Consistent

variable (kv : CacheKv ε) (cacheProfileKey hash : String)

/-- The pointer of the hash has the value `t`. -/
def PointerAt (t : ℕ) : Prop := pointerOf (kv.get (.byHash cacheProfileKey hash)) = some t

/-- The value of the hash was created at `t`. -/
def ValueAt (t : ℕ) : Prop :=
  t ≤ maxTimeValue ∧ createdAtOf (kv.get (.value cacheProfileKey hash)) = some (toISOString t)

/-- The index of the profile has the hash at `t`. -/
def IndexAt (t : ℕ) : Prop := kv.get (.index cacheProfileKey t hash) ≠ none

/-- The index of all profiles has the hash at `t`. -/
def GlobalIndexAt (t : ℕ) : Prop := kv.get (.globalIndex t cacheProfileKey hash) ≠ none

/-- The keys of one hash agree. -/
structure ConsistentAt : Prop where
  value : ∀ t, PointerAt kv cacheProfileKey hash t ↔ ValueAt kv cacheProfileKey hash t
  index : ∀ t, PointerAt kv cacheProfileKey hash t ↔
    IndexAt kv cacheProfileKey hash t ∧ GlobalIndexAt kv cacheProfileKey hash t
  other : ∀ t, IndexAt kv cacheProfileKey hash t ∨ GlobalIndexAt kv cacheProfileKey hash t →
    PointerAt kv cacheProfileKey hash t

/-- The keys of every hash agree. -/
def Consistent : Prop := ∀ cacheProfileKey hash, ConsistentAt kv cacheProfileKey hash

/-- The keys of a hash that has an entry, which was created at `t`. -/
structure Present (t : ℕ) : Prop where
  time : t ≤ maxTimeValue
  pointer : PointerAt kv cacheProfileKey hash t
  value : ValueAt kv cacheProfileKey hash t
  index : ∀ t', IndexAt kv cacheProfileKey hash t' ↔ t' = t
  globalIndex : ∀ t', GlobalIndexAt kv cacheProfileKey hash t' ↔ t' = t

/-- The keys of a hash that has no entry. -/
structure Absent : Prop where
  pointer : ∀ t, ¬ PointerAt kv cacheProfileKey hash t
  value : ∀ t, ¬ ValueAt kv cacheProfileKey hash t
  index : ∀ t, ¬ IndexAt kv cacheProfileKey hash t
  globalIndex : ∀ t, ¬ GlobalIndexAt kv cacheProfileKey hash t

end Consistent

variable {kv kv' : CacheKv ε} {cacheProfileKey hash : String}

theorem PointerAt.unique (h : PointerAt kv cacheProfileKey hash t)
    (h' : PointerAt kv cacheProfileKey hash t') : t = t' :=
  Option.some.inj (h.symm.trans h')

theorem ValueAt.unique (h : ValueAt kv cacheProfileKey hash t)
    (h' : ValueAt kv cacheProfileKey hash t') : t = t' :=
  toISOString_injective h.1 h'.1 (Option.some.inj (h.2.symm.trans h'.2))

theorem ConsistentAt.present (h : ConsistentAt kv cacheProfileKey hash)
    (hptr : PointerAt kv cacheProfileKey hash t) : Present kv cacheProfileKey hash t where
  time := ((h.value t).mp hptr).1
  pointer := hptr
  value := (h.value t).mp hptr
  index := by
    intro t'
    constructor
    · exact fun hix => (h.other t' (.inl hix)).unique hptr
    · rintro rfl
      exact ((h.index t').mp hptr).1
  globalIndex := by
    intro t'
    constructor
    · exact fun hix => (h.other t' (.inr hix)).unique hptr
    · rintro rfl
      exact ((h.index t').mp hptr).2

theorem ConsistentAt.absent (h : ConsistentAt kv cacheProfileKey hash)
    (hptr : ∀ t, ¬ PointerAt kv cacheProfileKey hash t) : Absent kv cacheProfileKey hash where
  pointer := hptr
  value := fun t hval => hptr t ((h.value t).mpr hval)
  index := fun t hix => hptr t (h.other t (.inl hix))
  globalIndex := fun t hix => hptr t (h.other t (.inr hix))

theorem Present.consistent (h : Present kv cacheProfileKey hash t) :
    ConsistentAt kv cacheProfileKey hash where
  value := by
    intro t'
    constructor
    · intro hptr
      obtain rfl := hptr.unique h.pointer
      exact h.value
    · intro hval
      obtain rfl := hval.unique h.value
      exact h.pointer
  index := by
    intro t'
    constructor
    · intro hptr
      have heq := hptr.unique h.pointer
      exact ⟨(h.index t').mpr heq, (h.globalIndex t').mpr heq⟩
    · intro hix
      obtain rfl := (h.index t').mp hix.1
      exact h.pointer
  other := by
    rintro t' (hix | hix)
    · obtain rfl := (h.index t').mp hix
      exact h.pointer
    · obtain rfl := (h.globalIndex t').mp hix
      exact h.pointer

theorem Absent.consistent (h : Absent kv cacheProfileKey hash) :
    ConsistentAt kv cacheProfileKey hash where
  value := fun t => iff_of_false (h.pointer t) (h.value t)
  index := fun t => iff_of_false (h.pointer t) fun hix => h.index t hix.1
  other := fun t hix => hix.elim (fun h' => absurd h' (h.index t))
    fun h' => absurd h' (h.globalIndex t)

/-- The hash that a key is about. -/
def CacheKey.subject : CacheKey → String × String
  | .value cacheProfileKey hash => (cacheProfileKey, hash)
  | .index cacheProfileKey _ hash => (cacheProfileKey, hash)
  | .globalIndex _ cacheProfileKey hash => (cacheProfileKey, hash)
  | .byHash cacheProfileKey hash => (cacheProfileKey, hash)

/-- Consistency at a subject depends on its own keys. -/
theorem ConsistentAt.congr (h : ConsistentAt kv cacheProfileKey hash)
    (hget : ∀ k : CacheKey, k.subject = (cacheProfileKey, hash) → kv'.get k = kv.get k) :
    ConsistentAt kv' cacheProfileKey hash := by
  have hptr : ∀ t, PointerAt kv' cacheProfileKey hash t ↔ PointerAt kv cacheProfileKey hash t := by
    intro t
    unfold PointerAt
    rw [hget _ rfl]
  have hval : ∀ t, ValueAt kv' cacheProfileKey hash t ↔ ValueAt kv cacheProfileKey hash t := by
    intro t
    unfold ValueAt
    rw [hget _ rfl]
  have hix : ∀ t, IndexAt kv' cacheProfileKey hash t ↔ IndexAt kv cacheProfileKey hash t := by
    intro t
    unfold IndexAt
    rw [hget _ rfl]
  have hglobal : ∀ t, GlobalIndexAt kv' cacheProfileKey hash t ↔
      GlobalIndexAt kv cacheProfileKey hash t := by
    intro t
    unfold GlobalIndexAt
    rw [hget _ rfl]
  constructor
  · intro t
    rw [hptr, hval]
    exact h.value t
  · intro t
    rw [hptr, hix, hglobal]
    exact h.index t
  · intro t
    rw [hptr, hix, hglobal]
    exact h.other t

/-! ### Steps -/

abbrev CacheWorld (ε : Type) := World CacheKey (CacheValue ε) (CacheLabel ε)

inductive CacheStep (w : CacheWorld ε) : CacheLabel ε → List (Write CacheKey (CacheValue ε)) → Prop
  | refresh (cacheProfileKey hash : String) (embedding : ε) (createdAtMs t : ℕ)
      (hptr : PointerAt w.store cacheProfileKey hash t) :
      CacheStep w (.write cacheProfileKey hash createdAtMs)
        (refreshWrites cacheProfileKey hash embedding t)
  | create (cacheProfileKey hash : String) (embedding : ε) (createdAtMs : ℕ)
      (htime : createdAtMs ≤ maxTimeValue)
      (hptr : pointerOf (w.store.get (.byHash cacheProfileKey hash)) = none) :
      CacheStep w (.write cacheProfileKey hash createdAtMs)
        (createWrites cacheProfileKey hash embedding createdAtMs)
  | stale (c : EvictionCandidate) (pointerEntry : Option (Entry (CacheValue ε)))
      (hent : w.store.get (.byHash c.cacheProfileKey c.hash) = pointerEntry)
      (hptr : pointerOf pointerEntry ≠ some c.createdAtMs) :
      CacheStep w (.evict c pointerEntry) (deleteIndexes c)
  | orphan (c : EvictionCandidate) (pointerEntry : Option (Entry (CacheValue ε)))
      (hent : w.store.get (.byHash c.cacheProfileKey c.hash) = pointerEntry)
      (hptr : pointerOf pointerEntry = none) :
      CacheStep w (.evict c pointerEntry)
        (deleteIndexes c ++ [.delete (.value c.cacheProfileKey c.hash)])
  | evict (c : EvictionCandidate) (pointerEntry : Option (Entry (CacheValue ε)))
      (hent : w.store.get (.byHash c.cacheProfileKey c.hash) = pointerEntry)
      (hptr : pointerOf pointerEntry = some c.createdAtMs) :
      CacheStep w (.evict c pointerEntry)
        (deleteIndexes c ++ [.delete (.value c.cacheProfileKey c.hash),
          .delete (.byHash c.cacheProfileKey c.hash)])

/-- The runs of the calls from a consistent store. -/
abbrev CacheRun (w : CacheWorld ε) : Prop := Run Consistent CacheStep w

/-- The hash that a commit is about. -/
def CacheLabel.subject : CacheLabel ε → String × String
  | .write cacheProfileKey hash _ => (cacheProfileKey, hash)
  | .evict candidate _ => (candidate.cacheProfileKey, candidate.hash)

theorem CacheStep.subject (h : CacheStep w l ws) : ∀ a ∈ ws, a.key.subject = l.subject := by
  cases h <;>
    simp [refreshWrites, createWrites, deleteIndexes, Write.key, CacheKey.subject,
      CacheLabel.subject]

theorem CacheStep.get_of_ne (h : CacheStep w l ws) (hk : k.subject ≠ l.subject) :
    (w.store.apply ws).get k = w.store.get k := by
  refine Kv.get_apply_of_untouched _ (Kv.written_eq_none fun a ha heq => ?_)
  rw [← heq] at hk
  exact hk (h.subject a ha)

theorem pointer_none (hptr : pointerOf (kv.get (.byHash cacheProfileKey hash)) = none) :
    ∀ t, ¬ PointerAt kv cacheProfileKey hash t := by
  intro t ht
  rw [PointerAt, hptr] at ht
  cases ht

/-- An entry is refreshed. -/
theorem Present.refresh (h : Present kv cacheProfileKey hash t) (embedding : ε) :
    Present (kv.apply (refreshWrites cacheProfileKey hash embedding t)) cacheProfileKey hash t where
  time := h.time
  pointer := by
    have hsame : (kv.apply (refreshWrites cacheProfileKey hash embedding t)).get
        (.byHash cacheProfileKey hash) = kv.get (.byHash cacheProfileKey hash) := by
      rw [Kv.get_apply]
      simp [refreshWrites, Kv.written]
    rw [PointerAt, hsame]
    exact h.pointer
  value := by
    refine ⟨h.time, ?_⟩
    rw [Kv.get_apply]
    simp [refreshWrites, Kv.written, createdAtOf]
  index := by
    intro t'
    have hold := h.index t'
    unfold IndexAt at hold ⊢
    rw [Kv.get_apply]
    by_cases heq : t = t'
    · simp [refreshWrites, Kv.written, heq]
    · simpa [refreshWrites, Kv.written, heq] using hold
  globalIndex := by
    intro t'
    have hold := h.globalIndex t'
    unfold GlobalIndexAt at hold ⊢
    rw [Kv.get_apply]
    by_cases heq : t = t'
    · simp [refreshWrites, Kv.written, heq]
    · simpa [refreshWrites, Kv.written, heq] using hold

theorem Absent.create (h : Absent kv cacheProfileKey hash) (embedding : ε) (ht : t ≤ maxTimeValue) :
    Present (kv.apply (createWrites cacheProfileKey hash embedding t)) cacheProfileKey hash t where
  time := ht
  pointer := by
    rw [PointerAt, Kv.get_apply]
    simp [createWrites, refreshWrites, Kv.written, pointerOf]
  value := by
    refine ⟨ht, ?_⟩
    rw [Kv.get_apply]
    simp [createWrites, refreshWrites, Kv.written, createdAtOf]
  index := by
    intro t'
    have hold := h.index t'
    unfold IndexAt at hold ⊢
    rw [Kv.get_apply]
    by_cases heq : t = t'
    · simp [createWrites, refreshWrites, Kv.written, heq]
    · simpa [createWrites, refreshWrites, Kv.written, heq, Ne.symm heq] using hold
  globalIndex := by
    intro t'
    have hold := h.globalIndex t'
    unfold GlobalIndexAt at hold ⊢
    rw [Kv.get_apply]
    by_cases heq : t = t'
    · simp [createWrites, refreshWrites, Kv.written, heq]
    · simpa [createWrites, refreshWrites, Kv.written, heq, Ne.symm heq] using hold

theorem get_apply_deletes (kv : CacheKv ε) (h : ∀ a ∈ ws, a = .delete a.key) (k : CacheKey) :
    (kv.apply ws).get k = kv.get k ∨ (kv.apply ws).get k = none := by
  rw [Kv.get_apply]
  cases hwr : Kv.written k ws with
  | none => exact .inl rfl
  | some v =>
    cases v with
    | none => exact .inr rfl
    | some v =>
      have hset := h _ (Kv.mem_of_written hwr)
      cases hset

/-- Deletions leave an absent entry absent. -/
theorem Absent.delete (h : Absent kv cacheProfileKey hash) (hws : ∀ a ∈ ws, a = .delete a.key) :
    Absent (kv.apply ws) cacheProfileKey hash where
  pointer := by
    intro t
    unfold PointerAt
    rcases get_apply_deletes kv hws (.byHash cacheProfileKey hash) with hget | hget
    · rw [hget]
      exact h.pointer t
    · rw [hget]
      exact nofun
  value := by
    intro t
    unfold ValueAt
    rcases get_apply_deletes kv hws (.value cacheProfileKey hash) with hget | hget
    · rw [hget]
      exact h.value t
    · rw [hget]
      exact fun hval => by cases hval.2
  index := by
    intro t
    unfold IndexAt
    rcases get_apply_deletes kv hws (.index cacheProfileKey t hash) with hget | hget
    · rw [hget]
      exact h.index t
    · exact not_not.mpr hget
  globalIndex := by
    intro t
    unfold GlobalIndexAt
    rcases get_apply_deletes kv hws (.globalIndex t cacheProfileKey hash) with hget | hget
    · rw [hget]
      exact h.globalIndex t
    · exact not_not.mpr hget

variable {c : EvictionCandidate}

/-- The indexes of an older version are deleted. -/
theorem Present.stale (h : Present kv c.cacheProfileKey c.hash t) (hne : c.createdAtMs ≠ t) :
    Present (kv.apply (deleteIndexes c)) c.cacheProfileKey c.hash t where
  time := h.time
  pointer := by
    have hold := h.pointer
    unfold PointerAt at hold ⊢
    rw [Kv.get_apply]
    simpa [deleteIndexes, Kv.written] using hold
  value := by
    refine ⟨h.time, ?_⟩
    have hold := h.value.2
    rw [Kv.get_apply]
    simpa [deleteIndexes, Kv.written] using hold
  index := by
    intro t'
    have hold := h.index t'
    unfold IndexAt at hold ⊢
    rw [Kv.get_apply]
    by_cases heq : c.createdAtMs = t'
    · have ht' : t' ≠ t := fun h' => hne (heq.trans h')
      simp [deleteIndexes, Kv.written, heq, ht']
    · simpa [deleteIndexes, Kv.written, heq] using hold
  globalIndex := by
    intro t'
    have hold := h.globalIndex t'
    unfold GlobalIndexAt at hold ⊢
    rw [Kv.get_apply]
    by_cases heq : c.createdAtMs = t'
    · have ht' : t' ≠ t := fun h' => hne (heq.trans h')
      simp [deleteIndexes, Kv.written, heq, ht']
    · simpa [deleteIndexes, Kv.written, heq] using hold

theorem Present.evict (h : Present kv c.cacheProfileKey c.hash c.createdAtMs) :
    Absent (kv.apply (deleteIndexes c ++ [.delete (.value c.cacheProfileKey c.hash),
      .delete (.byHash c.cacheProfileKey c.hash)])) c.cacheProfileKey c.hash where
  pointer := by
    intro t
    unfold PointerAt
    rw [Kv.get_apply]
    simp [deleteIndexes, Kv.written, pointerOf]
  value := by
    rintro t ⟨-, hval⟩
    rw [Kv.get_apply] at hval
    simp [deleteIndexes, Kv.written, createdAtOf] at hval
  index := by
    intro t
    have hold := h.index t
    unfold IndexAt at hold ⊢
    rw [Kv.get_apply]
    by_cases heq : c.createdAtMs = t
    · simp [deleteIndexes, Kv.written, heq]
    · simpa [deleteIndexes, Kv.written, heq, Ne.symm heq] using hold
  globalIndex := by
    intro t
    have hold := h.globalIndex t
    unfold GlobalIndexAt at hold ⊢
    rw [Kv.get_apply]
    by_cases heq : c.createdAtMs = t
    · simp [deleteIndexes, Kv.written, heq]
    · simpa [deleteIndexes, Kv.written, heq, Ne.symm heq] using hold

theorem deleteIndexes_deletes : ∀ a ∈ deleteIndexes (ε := ε) c, a = .delete a.key := by
  simp [deleteIndexes, Write.key]

/-- **The step**: every commit keeps the indexes in agreement. -/
theorem CacheStep.consistent (hinv : Consistent w.store) (h : CacheStep w l ws) :
    Consistent (w.store.apply ws) := by
  intro cacheProfileKey hash
  have hat := hinv cacheProfileKey hash
  by_cases hsbj : (cacheProfileKey, hash) = l.subject
  · cases h with
    | refresh _ _ embedding _ _ hptr =>
      cases hsbj
      exact ((hat.present hptr).refresh embedding).consistent
    | create _ _ embedding _ htime hptr =>
      cases hsbj
      exact ((hat.absent (pointer_none hptr)).create embedding htime).consistent
    | stale c pointerEntry hent hptr =>
      cases hsbj
      cases hcur : pointerOf pointerEntry with
      | none =>
        have hno := pointer_none (hent ▸ hcur)
        exact ((hat.absent hno).delete (deleteIndexes_deletes)).consistent
      | some t =>
        have hat' : PointerAt w.store c.cacheProfileKey c.hash t := by
          rw [PointerAt, hent, hcur]
        have hne : c.createdAtMs ≠ t := by
          rintro rfl
          exact hptr hcur
        exact ((hat.present hat').stale hne).consistent
    | orphan _ _ hent hptr =>
      cases hsbj
      have hno := pointer_none (hent ▸ hptr)
      refine ((hat.absent hno).delete ?_).consistent
      simp [deleteIndexes, Write.key]
    | evict c _ hent hptr =>
      cases hsbj
      have hat' : PointerAt w.store c.cacheProfileKey c.hash c.createdAtMs := by
        rw [PointerAt, hent, hptr]
      exact (hat.present hat').evict.consistent
  · refine hat.congr fun k hk => h.get_of_ne ?_
    rw [hk]
    exact hsbj

theorem CacheRun.consistent (hw : CacheRun w) : Consistent w.store := by
  refine hw.invariant (P := fun w => Consistent w.store) ?_ ?_ ?_
  · exact fun kv _ hkv => hkv
  · exact fun w t hinv _ => hinv
  · exact fun w l ws _ hinv hstep => hstep.consistent hinv

theorem CacheStep.evict_pointer (hinv : Consistent w.store)
    (h : CacheStep w (.evict c pointerEntry) ws) (hval : ValueAt w.store cacheProfileKey hash t)
    (hgone : ¬ ValueAt (w.store.apply ws) cacheProfileKey hash t) :
    (cacheProfileKey, hash, t) = (c.cacheProfileKey, c.hash, c.createdAtMs) ∧
      w.store.get (.byHash cacheProfileKey hash) = pointerEntry := by
  have hptr : PointerAt w.store cacheProfileKey hash t :=
    ((hinv cacheProfileKey hash).value t).mpr hval
  have hsbj : (cacheProfileKey, hash) = (c.cacheProfileKey, c.hash) := by
    by_contra hne
    have heq := h.get_of_ne (k := .value cacheProfileKey hash) hne
    refine hgone ⟨hval.1, ?_⟩
    rw [heq]
    exact hval.2
  cases hsbj
  cases h with
  | stale =>
    refine absurd ⟨hval.1, ?_⟩ hgone
    rw [Kv.get_apply]
    simpa [deleteIndexes, Kv.written] using hval.2
  | orphan _ _ hent hno =>
    rw [PointerAt, hent, hno] at hptr
    cases hptr
  | evict _ _ hent heq =>
    rw [PointerAt, hent, heq] at hptr
    cases hptr
    exact ⟨rfl, hent⟩

/-! ### Programs -/

section Programs

/-- What a program guarantees of its commits. -/
abbrev CacheSafe (clockOk : ℤ → ℤ → Prop) {α : Type} (p : CacheM ε α) (w : CacheWorld ε) : Prop :=
  Wp clockOk Consistent CacheStep (fun _ _ => True) p w

variable {u : CacheWorld ε}

theorem pointer_of_check (hread : ReadIn u v k entry) (hle : v.Le v') (hv' : CacheRun v')
    (hpass : v'.store.PassesAll [⟨k, entry⟩]) : v'.store.get k = entry :=
  hread.get_eq hle hv' (hpass _ (List.mem_singleton_self _))

theorem writeEntryLoop_safe (cacheProfileKey hash : String) (embedding : ε)
    (htime : createdAtMs ≤ maxTimeValue) (attempts : ℕ) : ∀ {w : CacheWorld ε},
      CacheSafe clockOk (writeEntryLoop cacheProfileKey hash embedding createdAtMs attempts) w := by
  induction attempts with
  | zero => exact trivial
  | succ _ ih =>
    intro w
    refine Wp.get_bind fun v _ _ entry hread => ?_
    cases hptr : pointerOf entry with
    | some existingCreatedAtMs =>
      apply Wp.transaction_bind
      · intro v' hle hv' hpass
        have hent := pointer_of_check hread hle hv' hpass
        have hat : PointerAt v'.store cacheProfileKey hash existingCreatedAtMs := by
          rw [PointerAt, hent, hptr]
        exact ⟨.refresh _ _ embedding createdAtMs _ hat, trivial⟩
      · exact fun v' _ _ => ih
    | none =>
      apply Wp.transaction_bind
      · intro v' hle hv' hpass
        have hent := pointer_of_check hread hle hv' hpass
        exact ⟨.create _ _ embedding createdAtMs htime (hent ▸ hptr), trivial⟩
      · exact fun v' _ _ => ih

theorem listCandidates_safe (count : ℕ) : ∀ {w : CacheWorld ε} (cursor : Cursor CacheKey),
    CacheSafe clockOk (listCandidates count cursor) w := by
  induction count with
  | zero => exact fun _ => trivial
  | succ _ ih =>
    intro w cursor v hle hv cursor' listed hlst
    cases listed with
    | none => trivial
    | some entry =>
      apply Wp.bind
      exact Wp.mono (fun _ _ _ => trivial) (ih cursor')

section

variable (hread : ReadIn u w (.byHash c.cacheProfileKey c.hash) pointerEntry)

include hread

theorem evictTransaction_safe
    (hstep : ∀ v : CacheWorld ε, v.store.get (.byHash c.cacheProfileKey c.hash) = pointerEntry →
      CacheStep v (.evict c pointerEntry) ws)
    (f : Bool → EvictionOutcome) : CacheSafe clockOk (do
      let committed ← Prog.transaction (.evict c pointerEntry)
        [⟨.byHash c.cacheProfileKey c.hash, pointerEntry⟩] ws
      return f committed) w := by
  apply Wp.transaction_bind
  · intro v' hle hv' hpass
    exact ⟨hstep v' (pointer_of_check hread hle hv' hpass), trivial⟩
  · exact fun v' _ _ => trivial

theorem evictEmbeddingsCacheCandidate_safe :
    CacheSafe clockOk (evictEmbeddingsCacheCandidate c pointerEntry) w := by
  unfold evictEmbeddingsCacheCandidate
  cases hptr : pointerOf pointerEntry with
  | some pointer =>
    dsimp only
    split
    · next hne =>
      have hstl : pointerOf pointerEntry ≠ some c.createdAtMs := by
        rw [hptr]
        exact fun h => hne (Option.some.inj h)
      exact evictTransaction_safe hread (fun v hent => .stale c _ hent hstl) _
    · next heq =>
      have hsame : pointerOf pointerEntry = some c.createdAtMs := by
        rw [hptr, not_not.mp heq]
      exact evictTransaction_safe hread (fun v hent => .evict c _ hent hsame) _
  | none =>
    refine Wp.get_bind fun v hle _ valueEntry _ => ?_
    have hread' := hread.mono hle
    split
    · have hstl : pointerOf pointerEntry ≠ some c.createdAtMs := by
        rw [hptr]
        exact Option.some_ne_none _ ∘ Eq.symm
      exact evictTransaction_safe hread' (fun v hent => .stale c _ hent hstl) _
    · exact evictTransaction_safe hread' (fun v hent => .orphan c _ hent hptr) _

end

theorem evictCandidates_safe (candidates : List EvictionCandidate) :
    ∀ {w : CacheWorld ε} (result : EvictResult),
      (∀ c ∈ candidates, ReadIn u w (.byHash c.cacheProfileKey c.hash)
        (got (.byHash c.cacheProfileKey c.hash))) →
      CacheSafe clockOk (evictCandidates got candidates result) w := by
  induction candidates with
  | nil => exact fun _ _ => trivial
  | cons c _ ih =>
    intro w result hread
    apply Wp.bind
    have hcandidate : CacheSafe clockOk (evictEmbeddingsCacheCandidate c
        (got (.byHash c.cacheProfileKey c.hash))) w :=
      evictEmbeddingsCacheCandidate_safe (hread c List.mem_cons_self)
    refine Wp.mono ?_ (Wp.le hcandidate)
    intro v outcome hpost
    refine ih _ fun c' hc' => ?_
    exact (hread c' (List.mem_cons_of_mem _ hc')).mono hpost.1

theorem cachePrograms_safe : ∀ p ∈ cachePrograms ε, ∀ w, CacheRun w → CacheSafe clockOk p w := by
  rintro _ ⟨call, n, htimely, rfl⟩ w -
  have hperform : CacheSafe clockOk call.perform w := by
    cases call with
    | write cacheProfileKey hash embedding =>
      apply Wp.bind
      exact Wp.mono (fun _ _ _ => trivial)
        (writeEntryLoop_safe cacheProfileKey hash embedding htimely 5)
    | evict count =>
      apply Wp.bind
      refine Wp.mono (fun _ _ _ => trivial) (?_ : CacheSafe clockOk
        (evictOldestEmbeddingsCacheEntries count) w)
      apply Wp.bind
      refine Wp.mono ?_ (listCandidates_safe count Cursor.start)
      intro v candidates _
      refine Wp.gets_bind fun v' _ _ got hgot => ?_
      refine evictCandidates_safe (u := v) candidates _ fun c hc => ?_
      exact hgot _ (List.mem_map_of_mem (f := fun c : EvictionCandidate =>
        CacheKey.byHash c.cacheProfileKey c.hash) hc)
  exact Wp.mono (fun _ _ _ => trivial) (Wp.cut n hperform)

end Programs

/-- **The cache index stays consistent**, and an evictor that deletes an embedding deletes it under
the pointer that it has read. -/
theorem cache_consistent {clockOk : ℤ → ℤ → Prop} {kv₀ : CacheKv ε} (hstr : Consistent kv₀)
    {s : System CacheKey (CacheValue ε) (CacheLabel ε) (Option CacheReply)}
    (hs : Reachable clockOk (cachePrograms ε) kv₀ s) : Consistent s.world.store ∧
    ∀ kv c pointerEntry kv', s.world.Committed kv (.evict c pointerEntry) kv' →
      ∀ cacheProfileKey hash t, ValueAt kv cacheProfileKey hash t →
        ¬ ValueAt kv' cacheProfileKey hash t →
        (cacheProfileKey, hash, t) = (c.cacheProfileKey, c.hash, c.createdAtMs) ∧
          kv.get (.byHash cacheProfileKey hash) = pointerEntry := by
  have hrun : CacheRun s.world := Reachable.run hstr cachePrograms_safe hs
  refine ⟨hrun.consistent, ?_⟩
  intro kv c pointerEntry kv' hcom cacheProfileKey hash t hval hgone
  obtain ⟨u, ws, hu, -, rfl, hstep, rfl⟩ := hrun.committed hcom
  exact hstep.evict_pointer (CacheRun.consistent hu) hval hgone

/-! ### A schedule -/

theorem consistent_empty : Consistent (Kv.empty : CacheKv ε) := by
  intro cacheProfileKey hash
  refine Absent.consistent ⟨fun t h => ?_, fun t h => ?_, fun t h => ?_, fun t h => ?_⟩
  · cases h
  · cases h.2
  · exact h rfl
  · exact h rfl

def sampleCall : ℕ → CacheCall ℕ
  | 0 => .write "profile" "hash" 7 1000
  | 1 => .write "profile" "hash" 8 2000
  | _ => .evict 5

/-- An entry is written; an evictor has read its pointer when the entry is evicted by another one
and written again. -/
def cacheActions : List (Action ℕ) :=
  [.spawn 0, .act 0 9, .spawn 2, .act 0 3, .spawn 2, .act 0 9, .spawn 1, .act 0 9, .act 2 9]

/-- What the schedule leads to. -/
def cacheSystem : System CacheKey (CacheValue ℕ) (CacheLabel ℕ) (Option CacheReply) :=
  System.runAll (fun n => (sampleCall n).perform.cut 20) ⟨⟨Kv.empty, [], 0⟩, []⟩ cacheActions

/-- The replies of the schedule, the latest call first: the first evictor leaves the new entry
alone. -/
theorem cache_consistent_rewritten : cacheSystem.clients.map Client.ended
      = [some (some (.write true)), some (some (.evict ⟨1, 0⟩)), some (some (.evict ⟨0, 0⟩)),
        some (some (.write true))] ∧
    Consistent cacheSystem.world.store := by
  have hprog : ∀ n, (sampleCall n).perform.cut 20 ∈ cachePrograms ℕ := by
    intro n
    refine ⟨sampleCall n, 20, ?_, rfl⟩
    unfold sampleCall
    split
    · exact (by decide : 1000 ≤ maxTimeValue)
    · exact (by decide : 2000 ≤ maxTimeValue)
    · trivial
  have hrch : Reachable Eq (cachePrograms ℕ) Kv.empty cacheSystem :=
    System.runAll_reachable (P := fun _ => True) (fun t _ => rfl) hprog cacheActions (by decide)
      ⟨⟨Kv.empty, [], 0⟩, []⟩ trivial (.start 0)
  exact ⟨by decide +kernel, (cache_consistent consistent_empty hrch).1⟩

end UbqGateway.Embeddings
