import UbqGateway.Library.Record

/-!
# Entries with an index

Entries that each have several keys, in the order in which they were added, with an index from keys
to entries and the total weight of the entries.  The entries, the index and the total change
together: what is added has new keys, and what is removed takes its keys and its weight with it
(`Consistent`).
-/

namespace UbqGateway

/-- Entries with an index and a total. -/
structure Indexed (κ ε : Type) where
  entries : List ε
  index : Record κ ε
  total : ℤ

namespace Indexed

variable {κ ε : Type} [DecidableEq κ] [DecidableEq ε] (keys : ε → List κ) (weight : ε → ℕ)

def empty : Indexed κ ε := ⟨[], .empty, 0⟩

def remove (entry : ε) (s : Indexed κ ε) : Indexed κ ε where
  entries := s.entries.erase entry
  index := (keys entry).foldl Record.erase s.index
  total := s.total - weight entry

/-- The entries with a property are removed. -/
def prune (p : ε → Bool) (s : Indexed κ ε) : Indexed κ ε :=
  s.entries.foldl (fun s entry => if p entry = true then s.remove keys weight entry else s) s

/-- The oldest entries are removed until there is room, which there may never be. -/
def makeRoom (full : Indexed κ ε → Bool) : List ε → Indexed κ ε → Indexed κ ε × Bool
  | [], s => (s, !full s)
  | oldest :: rest, s =>
    if full s = true then makeRoom full rest (s.remove keys weight oldest) else (s, true)

def add (entry : ε) (s : Indexed κ ε) : Indexed κ ε where
  entries := s.entries ++ [entry]
  index := (keys entry).foldl (fun index key => index.insert key entry) s.index
  total := s.total + weight entry

/-- The index has the keys of the entries, which are different, and the total is the sum of the
weights. -/
structure Consistent (s : Indexed κ ε) : Prop where
  nodup : s.entries.Nodup
  indexed : ∀ key entry, s.index.lookup key = some entry ↔ entry ∈ s.entries ∧ key ∈ keys entry
  total_eq : s.total = ((s.entries.map weight).sum : ℤ)

variable {post : Indexed κ ε → Prop}

section

variable (hkps : ∀ s entry, post s → post (s.remove keys weight entry))

include hkps

theorem prune_keeps (p : ε → Bool) (h : post s) : post (s.prune keys weight p) := by
  unfold prune
  generalize s.entries = list
  induction list generalizing s with
  | nil => exact h
  | cons entry _ ih =>
    rw [List.foldl_cons]
    split_ifs with hremoved
    · exact ih (hkps s entry h)
    · exact ih h

theorem makeRoom_keeps (full : Indexed κ ε → Bool) (list : List ε) (h : post s) :
    post (s.makeRoom keys weight full list).1 := by
  induction list generalizing s with
  | nil => exact h
  | cons oldest _ ih =>
    rw [makeRoom]
    by_cases hmore : full s = true
    · rw [if_pos hmore]
      exact ih (hkps s oldest h)
    · rw [if_neg hmore]
      exact h

end

omit [DecidableEq ε] in
theorem lookup_foldl_erase (removed : List κ) (index : Record κ ε) (key : κ) :
    (removed.foldl Record.erase index).lookup key = if key ∈ removed then none
      else index.lookup key := by
  induction removed generalizing index with
  | nil => rfl
  | cons first _ ih =>
    rw [List.foldl_cons, ih, Record.lookup_erase]
    by_cases here : key = first
    · simp [here]
    · simp [here]

omit [DecidableEq ε] in
theorem lookup_foldl_insert (added : List κ) (entry : ε) (index : Record κ ε) (key : κ) :
    (added.foldl (fun index key => index.insert key entry) index).lookup key =
      if key ∈ added then some entry else index.lookup key := by
  induction added generalizing index with
  | nil => rfl
  | cons first _ ih =>
    rw [List.foldl_cons, ih, Record.lookup_insert]
    by_cases here : key = first
    · simp [here]
    · simp [here]

namespace Consistent

variable {keys weight} {s : Indexed κ ε} {entry : ε}

omit [DecidableEq ε] in
theorem empty : Consistent keys weight (.empty : Indexed κ ε) where
  nodup := List.nodup_nil
  indexed key entry := by
    constructor
    · intro hfd
      cases hfd
    · rintro ⟨hmem, -⟩
      cases hmem
  total_eq := rfl

section

variable (h : Consistent keys weight s)

include h

omit [DecidableEq ε] in
theorem disjoint (hmem : entry ∈ s.entries) (hof : key ∈ keys entry) (hmem' : other ∈ s.entries)
    (hof' : key ∈ keys other) : entry = other := by
  have hfd := (h.indexed key entry).mpr ⟨hmem, hof⟩
  rw [(h.indexed key other).mpr ⟨hmem', hof'⟩] at hfd
  exact (Option.some.inj hfd).symm

theorem remove (hmem : entry ∈ s.entries) :
    Consistent keys weight (s.remove keys weight entry) where
  nodup := h.nodup.erase entry
  indexed key other := by
    show ((keys entry).foldl Record.erase s.index).lookup key = some other ↔
      other ∈ s.entries.erase entry ∧ key ∈ keys other
    rw [lookup_foldl_erase, h.nodup.mem_erase_iff]
    split_ifs with hof
    · constructor
      · intro hfd
        cases hfd
      · rintro ⟨⟨hdiff, hmem'⟩, hof'⟩
        exact absurd (h.disjoint hmem' hof' hmem hof) hdiff
    · rw [h.indexed]
      constructor
      · rintro ⟨hmem', hof'⟩
        refine ⟨⟨?_, hmem'⟩, hof'⟩
        rintro rfl
        exact hof hof'
      · rintro ⟨⟨-, hmem'⟩, hof'⟩
        exact ⟨hmem', hof'⟩
  total_eq := by
    show s.total - weight entry = ((s.entries.erase entry).map weight).sum
    rw [h.total_eq, ← List.sum_map_erase weight hmem]
    push_cast
    omega

omit [DecidableEq ε] in
theorem add (hsome : keys entry ≠ []) (hnew : ∀ key ∈ keys entry, s.index.lookup key = none) :
    Consistent keys weight (s.add keys weight entry) where
  nodup := by
    obtain ⟨key, hof⟩ := List.exists_mem_of_ne_nil _ hsome
    refine List.Nodup.append h.nodup (List.nodup_singleton entry) ?_
    intro other hmem hsingle
    rw [List.mem_singleton] at hsingle
    subst hsingle
    have hfd := (h.indexed key other).mpr ⟨hmem, hof⟩
    rw [hnew key hof] at hfd
    cases hfd
  indexed key other := by
    show ((keys entry).foldl (fun index key => index.insert key entry) s.index).lookup key =
      .some other ↔
      other ∈ s.entries ++ [entry] ∧ key ∈ keys other
    rw [lookup_foldl_insert, List.mem_append, List.mem_singleton]
    split_ifs with hof
    · constructor
      · intro hfd
        cases hfd
        exact ⟨.inr rfl, hof⟩
      · rintro ⟨hmem | rfl, hof'⟩
        · have hfd := (h.indexed key other).mpr ⟨hmem, hof'⟩
          rw [hnew key hof] at hfd
          cases hfd
        · rfl
    · rw [h.indexed]
      constructor
      · rintro ⟨hmem, hof'⟩
        exact ⟨.inl hmem, hof'⟩
      · rintro ⟨hmem | rfl, hof'⟩
        · exact ⟨hmem, hof'⟩
        · exact absurd hof' hof
  total_eq := by
    show s.total + weight entry = ((s.entries ++ [entry]).map weight).sum
    rw [h.total_eq, List.map_append, List.sum_append]
    simp

/-- Several entries are removed. -/
theorem foldl_remove (p : ε → Bool) {list : List ε} (hdist : list.Nodup)
    (hmbr : ∀ entry ∈ list, entry ∈ s.entries) : Consistent keys weight (list.foldl
        (fun s entry => if p entry = true then s.remove keys weight entry else s) s) ∧
      ∀ entry, entry ∈ (list.foldl
        (fun s entry => if p entry = true then s.remove keys weight entry else s) s).entries ↔
          entry ∈ s.entries ∧ ¬ (entry ∈ list ∧ p entry = true) := by
  induction list generalizing s with
  | nil => exact ⟨h, by simp⟩
  | cons first list ih =>
    rw [List.nodup_cons] at hdist
    rw [List.forall_mem_cons] at hmbr
    rw [List.foldl_cons]
    split_ifs with hremoved
    · have hstll : ∀ entry ∈ list, entry ∈ (s.remove keys weight first).entries := by
        intro entry hmem
        refine h.nodup.mem_erase_iff.mpr ⟨?_, hmbr.2 entry hmem⟩
        rintro rfl
        exact hdist.1 hmem
      obtain ⟨hcst, hents⟩ := ih (h.remove hmbr.1) hdist.2 hstll
      refine ⟨hcst, fun entry => ?_⟩
      rw [hents]
      show entry ∈ s.entries.erase first ∧ _ ↔ _
      rw [h.nodup.mem_erase_iff, List.mem_cons]
      constructor
      · rintro ⟨⟨hdiff, hmem⟩, hkept⟩
        refine ⟨hmem, ?_⟩
        rintro ⟨rfl | hlat, his⟩
        · exact hdiff rfl
        · exact hkept ⟨hlat, his⟩
      · rintro ⟨hmem, hkept⟩
        refine ⟨⟨?_, hmem⟩, fun hlat => hkept ⟨.inr hlat.1, hlat.2⟩⟩
        rintro rfl
        exact hkept ⟨.inl rfl, hremoved⟩
    · obtain ⟨hcst, hents⟩ := ih h hdist.2 hmbr.2
      refine ⟨hcst, fun entry => ?_⟩
      rw [hents, List.mem_cons]
      constructor
      · rintro ⟨hmem, hkept⟩
        refine ⟨hmem, ?_⟩
        rintro ⟨rfl | hlat, his⟩
        · exact hremoved his
        · exact hkept ⟨hlat, his⟩
      · rintro ⟨hmem, hkept⟩
        exact ⟨hmem, fun hlat => hkept ⟨.inr hlat.1, hlat.2⟩⟩

theorem prune (p : ε → Bool) : Consistent keys weight (s.prune keys weight p) :=
  (h.foldl_remove p h.nodup fun _ hmem => hmem).1

theorem mem_prune (p : ε → Bool) :
    entry ∈ (s.prune keys weight p).entries ↔ entry ∈ s.entries ∧ p entry = false := by
  have hents := (h.foldl_remove p h.nodup fun _ hmem => hmem).2 entry
  unfold Indexed.prune
  rw [hents]
  constructor
  · rintro ⟨hmem, hkept⟩
    exact ⟨hmem, by simpa [hmem] using hkept⟩
  · rintro ⟨hmem, hkept⟩
    exact ⟨hmem, fun hremoved => by simp [hkept] at hremoved⟩

end

variable (keys weight) in
/-- There is room afterwards, unless no room can be made. -/
structure Roomy (full : Indexed κ ε → Bool) (s : Indexed κ ε) (made : Indexed κ ε × Bool) :
    Prop where
  consistent : Consistent keys weight made.1
  subset : ∀ entry ∈ made.1.entries, entry ∈ s.entries
  room : made.2 = !full made.1
  emptied : made.2 = false → made.1.entries = []

theorem makeRoom (h : Consistent keys weight s) (full : Indexed κ ε → Bool) :
    Roomy keys weight full s (s.makeRoom keys weight full s.entries) := by
  generalize his : s.entries = list
  induction list generalizing s with
  | nil => exact ⟨h, fun _ hmem => hmem, rfl, fun _ => his⟩
  | cons oldest rest ih =>
    rw [Indexed.makeRoom]
    split_ifs with hmore
    · have hleft : (s.remove keys weight oldest).entries = rest := by
        show s.entries.erase oldest = rest
        rw [his, List.erase_cons_head]
      have hmade := ih (h.remove (by rw [his]; exact List.mem_cons_self)) hleft
      refine ⟨hmade.consistent, fun entry hmem => ?_, hmade.room, hmade.emptied⟩
      have hlat := hmade.subset entry hmem
      rw [hleft] at hlat
      rw [his]
      exact List.mem_cons_of_mem oldest hlat
    · have hroom : full s = false := by simpa using hmore
      exact ⟨h, fun _ hmem => hmem, by rw [hroom]; rfl, nofun⟩

end Consistent

end Indexed

end UbqGateway
