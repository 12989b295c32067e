import Mathlib.Algebra.Order.BigOperators.Group.List
import Mathlib.Data.List.Nodup
import Mathlib.Tactic.Abel

/-!
# Insertion-ordered records

`Record κ α` is a finite map with distinct keys that remembers the order in which the keys were
first written: `insert` overwrites in place and appends a new key at the end, as a property
assignment on an object does.  Overwriting a key with the value it already has gives back the same
record (`insert_lookup_self`), which is what makes an idempotent update an equality of states.

`Record.sum w r` adds a weight over the entries, in any commutative monoid.  An aggregate kept next
to the rows it summarizes is a value of such a sum, and the three update lemmas `sum_insert_new`,
`sum_insert_old` and `sum_erase` say by how much a single write moves it.
-/

namespace UbqGateway

/-- A finite map from `κ` to `α` with distinct keys, in insertion order. -/
structure Record (κ α : Type*) where
  /-- The entries, oldest key first. -/
  entries : List (κ × α)
  /-- No key occurs twice. -/
  nodup : (entries.map Prod.fst).Nodup

namespace Record

variable {κ α β M : Type*}

variable {r : Record κ α}

@[ext]
theorem ext {s : Record κ α} (h : r.entries = s.entries) : r = s := by
  cases r; cases s; cases h; rfl

instance [DecidableEq κ] [DecidableEq α] : DecidableEq (Record κ α) := fun r s =>
  decidable_of_iff (r.entries = s.entries) ⟨Record.ext, fun h => h ▸ rfl⟩

/-- The record without entries. -/
def empty : Record κ α := ⟨[], List.nodup_nil⟩

/-- The values, in key order of insertion. -/
def values (r : Record κ α) : List α := r.entries.map Prod.snd

/-- The values, each replaced by its image under `f`; the keys stay. -/
def mapValues (f : α → β) (r : Record κ α) : Record κ β where
  entries := r.entries.map fun e => (e.1, f e.2)
  nodup := by
    have h := r.nodup
    rwa [List.map_map]

/-- The total weight of the entries. -/
def sum [AddCommMonoid M] (w : κ → α → M) (r : Record κ α) : M :=
  (r.entries.map fun e => w e.1 e.2).sum

section Lookup

variable [DecidableEq κ]

/-- The value stored under `k`. -/
def lookup (r : Record κ α) (k : κ) : Option α := r.entries.lookup k

/-- Overwrite the first entry of key `k`, or append one. -/
def assocSet (k : κ) (v : α) : List (κ × α) → List (κ × α)
  | [] => [(k, v)]
  | e :: es => if e.1 = k then (k, v) :: es else e :: assocSet k v es

theorem keys_assocSet (k : κ) (v : α) (es : List (κ × α)) : (assocSet k v es).map Prod.fst
      = if k ∈ es.map Prod.fst then es.map Prod.fst else es.map Prod.fst ++ [k] := by
  induction es with
  | nil => simp [assocSet]
  | cons e es ih =>
    unfold assocSet
    by_cases he : e.1 = k
    · simp [he]
    · rw [if_neg he, List.map_cons, ih]
      have hk : k ≠ e.1 := Ne.symm he
      by_cases hm : k ∈ es.map Prod.fst
      · simp [hm]
      · simp [hm, hk]

/-- Write `v` under `k`. -/
def insert (r : Record κ α) (k : κ) (v : α) : Record κ α where
  entries := assocSet k v r.entries
  nodup := by
    rw [keys_assocSet]
    split_ifs with h
    · exact r.nodup
    · rw [List.nodup_append]
      refine ⟨r.nodup, List.nodup_singleton k, ?_⟩
      intro a ha b hb hab
      rw [List.mem_singleton.mp hb] at hab
      exact h (hab ▸ ha)

/-- Remove the entry of key `k`. -/
def erase (r : Record κ α) (k : κ) : Record κ α where
  entries := r.entries.filter fun e => e.1 ≠ k
  nodup := r.nodup.sublist (List.Sublist.map _ List.filter_sublist)

/-! ### Lookup -/

@[simp]
theorem lookup_empty (k : κ) : (empty : Record κ α).lookup k = none := rfl

theorem list_lookup_cons (e : κ × α) (es : List (κ × α)) (k : κ) :
    (e :: es).lookup k = if e.1 = k then some e.2 else es.lookup k := by
  obtain ⟨a, v⟩ := e
  rw [List.lookup_cons]
  by_cases h : a = k
  · subst h
    simp
  · rw [beq_eq_false_iff_ne.mpr (Ne.symm h)]
    simp [h]

theorem list_lookup_assocSet (es : List (κ × α)) (k : κ) (v : α) (j : κ) :
    (assocSet k v es).lookup j = if j = k then some v else es.lookup j := by
  induction es with
  | nil =>
    rw [assocSet, list_lookup_cons]
    by_cases h : j = k
    · simp [h]
    · simp [h, Ne.symm h]
  | cons e _ ih =>
    unfold assocSet
    by_cases he : e.1 = k
    · rw [if_pos he, list_lookup_cons, list_lookup_cons, he]
      by_cases h : j = k
      · simp [h]
      · simp [h, Ne.symm h]
    · rw [if_neg he, list_lookup_cons, list_lookup_cons, ih]
      by_cases h : j = k
      · rw [if_pos h, if_pos h, if_neg (by rw [h]; exact he)]
      · rw [if_neg h, if_neg h]

theorem lookup_insert (r : Record κ α) (k : κ) (v : α) (j : κ) :
    (r.insert k v).lookup j = if j = k then some v else r.lookup j :=
  list_lookup_assocSet r.entries k v j

@[simp]
theorem lookup_insert_self (r : Record κ α) (k : κ) (v : α) : (r.insert k v).lookup k = some v := by
  rw [lookup_insert, if_pos rfl]

variable {k : κ}

theorem lookup_insert_of_ne (r : Record κ α) (v : α) (h : j ≠ k) :
    (r.insert k v).lookup j = r.lookup j := by
  rw [lookup_insert, if_neg h]

/-- A new key comes last. -/
theorem entries_insert_of_new (h : r.lookup k = none) (v : α) :
    (r.insert k v).entries = r.entries ++ [(k, v)] := by
  obtain ⟨es, hes⟩ := r
  show assocSet k v es = es ++ [(k, v)]
  change es.lookup k = none at h
  clear hes
  induction es with
  | nil => rfl
  | cons _ _ ih =>
    rw [list_lookup_cons] at h
    split_ifs at h with he
    rw [assocSet, if_neg he, ih h, List.cons_append]

theorem mem_entries_iff (r : Record κ α) (k : κ) (v : α) :
    (k, v) ∈ r.entries ↔ r.lookup k = some v := by
  obtain ⟨es, hes⟩ := r
  simp only [lookup]
  induction es with
  | nil => simp
  | cons _ es ih =>
    rw [List.map_cons, List.nodup_cons] at hes
    rw [list_lookup_cons, List.mem_cons, ih hes.2]
    split_ifs with he
    · constructor
      · rintro (h | h)
        · rw [← h]
        · -- the key would occur twice
          have hmem : (k, v) ∈ es := (ih hes.2).mpr h
          exact absurd (he ▸ List.mem_map_of_mem hmem) hes.1
      · intro h
        exact .inl (Prod.ext he.symm (Option.some.inj h).symm)
    · constructor
      · rintro (h | h)
        · exact absurd (by rw [← h]) he
        · exact h
      · exact .inr

theorem mem_values_iff (r : Record κ α) (v : α) : v ∈ r.values ↔ ∃ k, r.lookup k = some v := by
  constructor
  · intro h
    obtain ⟨⟨k, u⟩, he, rfl⟩ := List.mem_map.mp h
    exact ⟨k, (r.mem_entries_iff k u).mp he⟩
  · rintro ⟨k, hk⟩
    exact List.mem_map.mpr ⟨(k, v), (r.mem_entries_iff k v).mpr hk, rfl⟩

theorem entries_eq_nil_iff (r : Record κ α) : r.entries = [] ↔ ∀ k, r.lookup k = none := by
  constructor
  · intro h k
    simp only [lookup, h, List.lookup_nil]
  · intro h
    rw [List.eq_nil_iff_forall_not_mem]
    rintro ⟨k, v⟩ hmem
    rw [mem_entries_iff, h k] at hmem
    cases hmem

variable {u v : α}

theorem mem_values_insert (h : v ∈ (r.insert k u).values) : v = u ∨ v ∈ r.values := by
  obtain ⟨j, hj⟩ := (mem_values_iff _ v).mp h
  rw [lookup_insert] at hj
  split_ifs at hj with hjk
  · exact .inl (Option.some.inj hj).symm
  · exact .inr ((r.mem_values_iff v).mpr ⟨j, hj⟩)

omit [DecidableEq κ] in
theorem values_mapValues (f : α → β) (r : Record κ α) :
    (r.mapValues f).values = r.values.map f := by
  simp only [values, mapValues, List.map_map]
  rfl

/-- Overwriting a key with the value it has changes nothing. -/
theorem insert_lookup_self (h : r.lookup k = some v) : r.insert k v = r := by
  obtain ⟨es, hes⟩ := r
  refine Record.ext ?_
  change assocSet k v es = es
  change es.lookup k = some v at h
  clear hes
  induction es with
  | nil => simp at h
  | cons e _ ih =>
    rw [list_lookup_cons] at h
    unfold assocSet
    by_cases he : e.1 = k
    · rw [if_pos he] at h ⊢
      rw [← Option.some.inj h, ← he]
    · rw [if_neg he] at h ⊢
      rw [ih h]

theorem insert_insert (r : Record κ α) (k : κ) (u v : α) :
    (r.insert k u).insert k v = r.insert k v := by
  refine Record.ext ?_
  change assocSet k v (assocSet k u r.entries) = assocSet k v r.entries
  induction r.entries with
  | nil => simp [assocSet]
  | cons e _ ih =>
    by_cases he : e.1 = k
    · simp [assocSet, he]
    · simp [assocSet, he, ih]

@[simp]
theorem lookup_mapValues (f : α → β) (r : Record κ α) (k : κ) :
    (r.mapValues f).lookup k = (r.lookup k).map f := by
  simp only [lookup, mapValues]
  induction r.entries with
  | nil => rfl
  | cons e _ ih =>
    rw [List.map_cons, list_lookup_cons, list_lookup_cons, ih]
    by_cases he : e.1 = k <;> simp [he]

/-- Replacing every value by itself changes nothing. -/
theorem mapValues_eq_self (h : ∀ k v, r.lookup k = some v → f v = v) : r.mapValues f = r := by
  refine Record.ext ?_
  change r.entries.map (fun e => (e.1, f e.2)) = r.entries
  refine (List.map_congr_left fun e he => ?_).trans (List.map_id' _)
  rw [h e.1 e.2 ((r.mem_entries_iff e.1 e.2).mp he)]

theorem lookup_erase (r : Record κ α) (k j : κ) :
    (r.erase k).lookup j = if j = k then none else r.lookup j := by
  simp only [lookup, erase]
  induction r.entries with
  | nil => simp
  | cons e _ ih =>
    rw [List.filter_cons, list_lookup_cons]
    by_cases he : e.1 = k
    · rw [if_neg (by simp [he]), ih, he]
      by_cases h : j = k
      · simp [h]
      · simp [h, Ne.symm h]
    · rw [if_pos (by simp [he]), list_lookup_cons, ih]
      by_cases h : j = k
      · rw [if_pos h, if_pos h, if_neg (by rw [h]; exact he)]
      · rw [if_neg h, if_neg h]

theorem erase_of_lookup_none (h : r.lookup k = none) : r.erase k = r := by
  refine Record.ext (List.filter_eq_self.mpr fun e he => ?_)
  have hsome := (r.mem_entries_iff e.1 e.2).mp he
  have hne : e.1 ≠ k := by
    rintro rfl
    rw [h] at hsome
    cases hsome
  simp [hne]

/-! ### Weighted sums -/

variable [AddCommMonoid M] (w : κ → α → M)

omit [DecidableEq κ] in
@[simp]
theorem sum_empty : (empty : Record κ α).sum w = 0 := rfl

/-- Appending a new key adds its weight. -/
theorem sum_insert_new (h : r.lookup k = none) (v : α) :
    (r.insert k v).sum w = r.sum w + w k v := by
  obtain ⟨es, hes⟩ := r
  simp only [sum, insert]
  change es.lookup k = none at h
  clear hes
  induction es with
  | nil => simp [assocSet]
  | cons e _ ih =>
    rw [list_lookup_cons] at h
    by_cases he : e.1 = k
    · rw [if_pos he] at h
      exact absurd h (by simp)
    · rw [if_neg he] at h
      rw [assocSet, if_neg he, List.map_cons, List.sum_cons, ih h, List.map_cons, List.sum_cons,
        add_assoc]

/-- Overwriting a key exchanges the old weight for the new one. -/
theorem sum_insert_old (h : r.lookup k = some u) (v : α) :
    (r.insert k v).sum w + w k u = r.sum w + w k v := by
  obtain ⟨es, hes⟩ := r
  simp only [sum, insert]
  change es.lookup k = some u at h
  clear hes
  induction es with
  | nil => simp at h
  | cons _ _ ih =>
    rw [list_lookup_cons] at h
    split_ifs at h with he
    · cases h
      rw [assocSet, if_pos he, List.map_cons, List.map_cons, List.sum_cons, List.sum_cons, he]
      abel
    · rw [assocSet, if_neg he, List.map_cons, List.map_cons, List.sum_cons, List.sum_cons,
        add_assoc, ih h, add_assoc]

/-- Removing a key removes its weight. -/
theorem sum_erase (h : r.lookup k = some u) : (r.erase k).sum w + w k u = r.sum w := by
  obtain ⟨es, hes⟩ := r
  simp only [sum, erase]
  change es.lookup k = some u at h
  induction es with
  | nil => simp at h
  | cons e es ih =>
    rw [List.map_cons, List.nodup_cons] at hes
    rw [list_lookup_cons] at h
    rw [List.filter_cons]
    split_ifs at h with he
    · cases h
      rw [if_neg (by simp [he]), List.map_cons, List.sum_cons, he, add_comm]
      -- no other entry has this key, so the filter keeps the tail
      have htail : es.filter (fun e => decide (e.1 ≠ k)) = es := by
        refine List.filter_eq_self.mpr fun x hx => ?_
        have hne : x.1 ≠ k := fun hx' => hes.1 (by rw [he, ← hx']; exact List.mem_map_of_mem hx)
        simp [hne]
      rw [htail]
    · rw [if_pos (by simp [he]), List.map_cons, List.sum_cons, List.map_cons, List.sum_cons,
        add_assoc, ih hes.2 h]

/-- A sum is the weight of one key and the sum over the others. -/
theorem sum_split (r : Record κ α) (k : κ) :
    r.sum w = (r.lookup k).elim 0 (w k) + r.sum fun j v => if j = k then 0 else w j v := by
  have hrest : ∀ r' : Record κ α, r'.lookup k = none →
      r'.sum w = r'.sum fun j v => if j = k then 0 else w j v := by
    intro r' hno
    refine congrArg List.sum (List.map_congr_left fun e he => ?_)
    have hsome := (r'.mem_entries_iff e.1 e.2).mp he
    have hne : e.1 ≠ k := by
      rintro rfl
      rw [hno] at hsome
      cases hsome
    exact (if_neg hne).symm
  cases hk : r.lookup k with
  | none => rw [Option.elim_none, zero_add, hrest r hk]
  | some u =>
    have hers : (r.erase k).lookup k = none := by rw [lookup_erase, if_pos rfl]
    rw [← sum_erase w hk, hrest _ hers, Option.elim_some, add_comm]
    rw [← sum_erase (fun j v => if j = k then 0 else w j v) hk, if_pos rfl, add_zero]

theorem sum_congr {w w' : κ → α → M} (h : ∀ k v, r.lookup k = some v → w k v = w' k v) :
    r.sum w = r.sum w' := by
  refine congrArg List.sum (List.map_congr_left fun e he => ?_)
  exact h e.1 e.2 ((r.mem_entries_iff e.1 e.2).mp he)

omit [DecidableEq κ] in
theorem sum_mapValues (w : κ → β → M) (f : α → β) (r : Record κ α) :
    (r.mapValues f).sum w = r.sum fun k v => w k (f v) := by
  simp only [sum, mapValues, List.map_map]
  rfl

omit [DecidableEq κ] in
@[simp]
theorem sum_zero (r : Record κ α) : r.sum (fun _ _ => (0 : M)) = 0 := by
  simp [sum]

omit [DecidableEq κ] in
/-- An additive map commutes with the total. -/
theorem map_sum [AddCommMonoid N] (φ : M →+ N) (w : κ → α → M) (r : Record κ α) :
    φ (r.sum w) = r.sum fun k v => φ (w k v) := by
  simp only [sum]
  rw [map_list_sum, List.map_map]
  rfl

omit [DecidableEq κ] in
/-- A weight that only some values have is the sum over these values. -/
theorem sum_ite (p : α → Prop) [DecidablePred p] (f : α → M) (r : Record κ α) :
    r.sum (fun _ v => if p v then f v else 0) = ((r.values.filter p).map f).sum := by
  simp only [sum, values]
  induction r.entries with
  | nil => rfl
  | cons e _ ih =>
    rw [List.map_cons, List.sum_cons, ih, List.map_cons, List.filter_cons]
    by_cases he : p e.2
    · simp [he]
    · simp [he]

end Lookup

/-! ### Sums over ordered monoids -/

section Ordered

variable [AddCommMonoid M] [PartialOrder M] [IsOrderedAddMonoid M] [DecidableEq κ]

theorem sum_nonneg {w : κ → α → M} (h : ∀ k v, r.lookup k = some v → 0 ≤ w k v) : 0 ≤ r.sum w := by
  refine List.sum_nonneg fun x hx => ?_
  obtain ⟨e, he, rfl⟩ := List.mem_map.mp hx
  exact h e.1 e.2 ((r.mem_entries_iff e.1 e.2).mp he)

end Ordered

/-! ### Filtering -/

section FilterMap

/-- The entries whose values have an image under `f`, with this image. -/
def filterMap (f : α → Option β) (r : Record κ α) : Record κ β where
  entries := r.entries.filterMap fun e => (f e.2).map (Prod.mk e.1)
  nodup := by
    refine r.nodup.sublist ?_
    rw [List.map_filterMap]
    induction r.entries with
    | nil => exact List.Sublist.slnil
    | cons e _ ih =>
      rw [List.map_cons]
      cases he : f e.2 with
      | none => rw [List.filterMap_cons_none (by simp [he])]; exact ih.cons e.1
      | some v => rw [List.filterMap_cons_some (b := e.1) (by simp [he])]; exact ih.cons_cons e.1

theorem filterMap_eq_self [DecidableEq κ] (h : ∀ k v, r.lookup k = some v → f v = some v) :
    r.filterMap f = r := by
  refine Record.ext ?_
  show r.entries.filterMap _ = r.entries
  have hid : ∀ e ∈ r.entries, (f e.2).map (Prod.mk e.1) = some e := by
    intro e he
    rw [h e.1 e.2 ((r.mem_entries_iff e.1 e.2).mp he)]
    rfl
  rw [List.filterMap_congr hid]
  exact List.filterMap_some

theorem filterMap_filterMap (f : α → Option β) (g : β → Option γ) (r : Record κ α) :
    (r.filterMap f).filterMap g = r.filterMap fun v => (f v).bind g := by
  refine Record.ext ?_
  show (r.entries.filterMap _).filterMap _ = r.entries.filterMap _
  rw [List.filterMap_filterMap]
  refine List.filterMap_congr fun e _ => ?_
  show ((f e.2).map (Prod.mk e.1)).bind _ = ((f e.2).bind g).map (Prod.mk e.1)
  cases f e.2 <;> rfl

variable [DecidableEq κ]

@[simp]
theorem lookup_filterMap (f : α → Option β) (r : Record κ α) (k : κ) :
    (r.filterMap f).lookup k = (r.lookup k).bind f := by
  obtain ⟨es, hes⟩ := r
  simp only [lookup, filterMap]
  induction es with
  | nil => rfl
  | cons e es ih =>
    rw [List.map_cons, List.nodup_cons] at hes
    have htail := ih hes.2
    rw [list_lookup_cons]
    cases he : f e.2 with
    | some v =>
      rw [List.filterMap_cons_some (b := (e.1, v)) (by simp [he]), list_lookup_cons, htail]
      by_cases hk : e.1 = k
      · simp [hk, he]
      · simp [hk]
    | none =>
      rw [List.filterMap_cons_none (by simp [he]), htail]
      by_cases hk : e.1 = k
      · -- the key does not occur again
        have hno : es.lookup k = none := by
          rw [List.lookup_eq_none_iff]
          intro e' he'
          rw [bne_iff_ne]
          intro hke
          exact hes.1 (hk.trans hke ▸ List.mem_map_of_mem he')
        simp [hk, he, hno]
      · simp [hk]

variable {f : α → Option β}

/-- Values with the same image can be exchanged. -/
theorem filterMap_insert_of_eq (h : r.lookup k = some u) (huv : f v = f u) :
    (r.insert k v).filterMap f = r.filterMap f := by
  refine Record.ext ?_
  obtain ⟨es, hes⟩ := r
  show (assocSet k v es).filterMap _ = es.filterMap _
  change es.lookup k = some u at h
  clear hes
  induction es with
  | nil => simp at h
  | cons e _ ih =>
    rw [list_lookup_cons] at h
    unfold assocSet
    by_cases he : e.1 = k
    · rw [if_pos he] at h ⊢
      have hval : f e.2 = f v := by rw [huv, Option.some.inj h]
      simp only [List.filterMap_cons, hval, he]
    · rw [if_neg he] at h ⊢
      rw [List.filterMap_cons, List.filterMap_cons, ih h]

/-- An entry without an image can be erased. -/
theorem filterMap_erase_of_none (h : r.lookup k = some u) (hno : f u = none) :
    (r.erase k).filterMap f = r.filterMap f := by
  refine Record.ext ?_
  show (r.entries.filter _).filterMap _ = r.entries.filterMap _
  rw [List.filterMap_filter]
  refine List.filterMap_congr fun e he => ?_
  by_cases hk : e.1 = k
  · have hlk := (r.mem_entries_iff e.1 e.2).mp he
    rw [hk, h] at hlk
    rw [← Option.some.inj hlk, hno]
    simp
  · simp [hk]

theorem filterMap_erase (f : α → Option β) (r : Record κ α) (k : κ) :
    (r.erase k).filterMap f = (r.filterMap f).erase k := by
  refine Record.ext ?_
  show (r.entries.filter _).filterMap _ = (r.entries.filterMap _).filter _
  rw [List.filterMap_filter, List.filter_filterMap]
  refine List.filterMap_congr fun e _ => ?_
  by_cases hk : e.1 = k
  · cases f e.2 <;> simp [hk, Option.filter]
  · cases f e.2 <;> simp [hk, Option.filter]

theorem erase_insert (r : Record κ α) (k : κ) (v : α) : (r.insert k v).erase k = r.erase k := by
  refine Record.ext ?_
  show (assocSet k v r.entries).filter _ = r.entries.filter _
  induction r.entries with
  | nil => simp [assocSet]
  | cons e _ ih =>
    unfold assocSet
    by_cases he : e.1 = k
    · simp [he]
    · rw [if_neg he, List.filter_cons, List.filter_cons, ih]

/-- A value that loses its image is one that is erased. -/
theorem filterMap_insert_of_none (r : Record κ α) (k : κ) (hno : f v = none) :
    (r.insert k v).filterMap f = (r.filterMap f).erase k := by
  rw [← filterMap_erase_of_none (r.lookup_insert_self k v) hno, erase_insert, filterMap_erase]

/-- A value that keeps an image is replaced by it. -/
theorem filterMap_insert_of_some (h : r.lookup k = some u) (hu : f u = some u')
    (hv : f v = some v') :
    (r.insert k v).filterMap f = (r.filterMap f).insert k v' := by
  refine Record.ext ?_
  obtain ⟨es, hes⟩ := r
  show (assocSet k v es).filterMap _ = assocSet k v' (es.filterMap _)
  change es.lookup k = some u at h
  clear hes
  induction es with
  | nil => simp at h
  | cons e es ih =>
    have hset : ∀ w : α, assocSet k w (e :: es) =
        if e.1 = k then (k, w) :: es else e :: assocSet k w es := fun w => rfl
    rw [list_lookup_cons] at h
    rw [hset]
    by_cases he : e.1 = k
    · rw [if_pos he] at h ⊢
      cases h
      rw [List.filterMap_cons_some (b := (k, v')) (by simp [hv]),
        List.filterMap_cons_some (b := (k, u')) (by simp [hu, he])]
      exact (if_pos rfl).symm
    · rw [if_neg he] at h ⊢
      cases hval : f e.2 with
      | none =>
        rw [List.filterMap_cons_none (by simp [hval]), List.filterMap_cons_none (by simp [hval]),
          ih h]
      | some v₀ =>
        rw [List.filterMap_cons_some (b := (e.1, v₀)) (by simp [hval]),
          List.filterMap_cons_some (b := (e.1, v₀)) (by simp [hval]), ih h]
        exact (if_neg he).symm

end FilterMap

/-! ### Several writes -/

section InsertAll

variable [DecidableEq κ]

def insertAll (r : Record κ α) (writes : List (κ × α)) : Record κ α :=
  writes.foldl (fun r write => r.insert write.1 write.2) r

/-- The last write of a key decides. -/
theorem lookup_insertAll (r : Record κ α) (writes : List (κ × α)) (k : κ) :
    (r.insertAll writes).lookup k = (writes.reverse.lookup k).or (r.lookup k) := by
  induction writes generalizing r with
  | nil => rfl
  | cons write writes ih =>
    show ((r.insert write.1 write.2).insertAll writes).lookup k = _
    rw [ih, List.reverse_cons, List.lookup_append, list_lookup_cons, List.lookup_nil, lookup_insert]
    by_cases h : k = write.1
    · rw [if_pos h, if_pos h.symm, Option.or_assoc]
      rfl
    · rw [if_neg h, if_neg (Ne.symm h), Option.or_none]

theorem keys_insertAll {writes : List (κ × α)}
    (h : ∀ write ∈ writes, (r.lookup write.1).isSome = true) :
    (r.insertAll writes).entries.map Prod.fst = r.entries.map Prod.fst := by
  induction writes generalizing r with
  | nil => rfl
  | cons write _ ih =>
    have hprs : write.1 ∈ r.entries.map Prod.fst := by
      obtain ⟨v, hv⟩ := Option.isSome_iff_exists.mp (h write (List.mem_cons_self ..))
      exact List.mem_map.mpr ⟨(write.1, v), (r.mem_entries_iff _ _).mpr hv, rfl⟩
    have head : (r.insert write.1 write.2).entries.map Prod.fst = r.entries.map Prod.fst := by
      show (assocSet write.1 write.2 r.entries).map Prod.fst = _
      rw [keys_assocSet, if_pos hprs]
    rw [← head]
    refine ih fun w hw => ?_
    rw [lookup_insert]
    split_ifs with hk
    · rfl
    · exact h w (List.mem_cons_of_mem _ hw)

/-- Two lists with the same distinct keys and the same lookups are the same. -/
theorem list_ext_of_lookup {es fs : List (κ × α)} (hkeys : es.map Prod.fst = fs.map Prod.fst)
    (hnd : (es.map Prod.fst).Nodup) (h : ∀ k, es.lookup k = fs.lookup k) : es = fs := by
  induction es generalizing fs with
  | nil => exact (List.map_eq_nil_iff.mp hkeys.symm).symm
  | cons e es ih =>
    cases fs with
    | nil => cases hkeys
    | cons f fs =>
      rw [List.map_cons, List.map_cons, List.cons.injEq] at hkeys
      rw [List.map_cons, List.nodup_cons] at hnd
      have head : e = f := by
        have := h e.1
        rw [list_lookup_cons, if_pos rfl, list_lookup_cons, if_pos hkeys.1.symm] at this
        exact Prod.ext hkeys.1 (Option.some.inj this)
      have habs : ∀ gs : List (κ × α), gs.map Prod.fst = es.map Prod.fst →
          gs.lookup e.1 = none := by
        intro gs hgs
        rw [List.lookup_eq_none_iff]
        intro g hg
        rw [bne_iff_ne]
        intro heq
        exact hnd.1 (hgs ▸ heq ▸ List.mem_map_of_mem hg)
      rw [head, ih hkeys.2 hnd.2 fun k => ?_]
      by_cases hk : k = e.1
      · rw [hk, habs es rfl, habs fs hkeys.2.symm]
      · have := h k
        rwa [list_lookup_cons, list_lookup_cons, if_neg (Ne.symm hk),
          if_neg (hkeys.1 ▸ Ne.symm hk)] at this

theorem insertAll_insertAll (r : Record κ α) (writes : List (κ × α)) :
    (r.insertAll writes).insertAll writes = r.insertAll writes := by
  refine ext (list_ext_of_lookup (keys_insertAll fun write hw => ?_) (Record.nodup _) fun k => ?_)
  · rw [lookup_insertAll]
    have hmem : (write.1, write.2) ∈ writes.reverse := List.mem_reverse.mpr hw
    cases hlk : writes.reverse.lookup write.1 with
    | some v => rfl
    | none =>
      rw [List.lookup_eq_none_iff] at hlk
      exact absurd (hlk _ hmem) (by simp)
  · show ((r.insertAll writes).insertAll writes).lookup k = (r.insertAll writes).lookup k
    rw [lookup_insertAll, lookup_insertAll]
    cases writes.reverse.lookup k <;> rfl

end InsertAll

end Record

end UbqGateway
