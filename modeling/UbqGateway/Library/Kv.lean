import UbqGateway.Library.Record

/-!
# A versioned key-value store

`Kv κ ν` is a store whose entries carry the versionstamp of the commit that wrote them.  A
transaction is a list of checks and a list of writes: it commits when every checked key still has
the versionstamp it had when it was read, and then writes all its keys under one new versionstamp.

A versionstamp is never given twice, so a check compares more than a number.  `Kv.Precedes` is the
order in which one store can evolve into another, and `get_eq_of_check` is the one fact optimistic
transactions rest on: a key that passes its check holds the very entry that was read, however long
ago the read was.  For a key that was absent the check only says that it is absent again.
-/

namespace UbqGateway

/-- A stored value and the versionstamp of the commit that wrote it. -/
structure Entry (ν : Type) where
  value : ν
  versionstamp : ℕ
deriving DecidableEq

/-- A store: at most one entry for a key, none newer than the last commit. -/
structure Kv (κ ν : Type) [DecidableEq κ] where
  rows : Record κ (Entry ν)
  /-- The versionstamp of the last commit. -/
  stamp : ℕ
  /-- No entry is newer than the last commit. -/
  stamped : ∀ k e, rows.lookup k = some e → e.versionstamp ≤ stamp

inductive Write (κ ν : Type)
  | set (key : κ) (value : ν)
  | delete (key : κ)

def Write.key {κ ν : Type} : Write κ ν → κ
  | .set k _ => k
  | .delete k => k

/-- One check of a transaction: the key and the entry that was read from it. -/
structure Check (κ ν : Type) where
  key : κ
  entry : Option (Entry ν)

namespace Kv

variable {κ ν : Type} [DecidableEq κ]

/-- The store that holds nothing. -/
def empty : Kv κ ν := ⟨Record.empty, 0, by simp⟩

/-- The entry stored under `k`. -/
def get (kv : Kv κ ν) (k : κ) : Option (Entry ν) := kv.rows.lookup k

/-- The value stored under `k`. -/
def value (kv : Kv κ ν) (k : κ) : Option ν := (kv.get k).map Entry.value

/-- The rows after one write under versionstamp `stamp`. -/
def write (stamp : ℕ) (rows : Record κ (Entry ν)) : Write κ ν → Record κ (Entry ν)
  | .set k v => rows.insert k ⟨v, stamp⟩
  | .delete k => rows.erase k

variable {stamp n : ℕ}

theorem write_stamped {rows : Record κ (Entry ν)} (hn : stamp ≤ n)
    (h : ∀ k e, rows.lookup k = some e → e.versionstamp ≤ n) :
    ∀ k e, (write stamp rows a).lookup k = some e → e.versionstamp ≤ n := by
  intro k e he
  cases a with
  | set =>
    rw [write, Record.lookup_insert] at he
    split_ifs at he with hk
    · cases he
      exact hn
    · exact h k e he
  | delete =>
    rw [write, Record.lookup_erase] at he
    split_ifs at he with hk
    exact h k e he

theorem foldl_write_stamped (hn : stamp ≤ n) {ws : List (Write κ ν)} :
    ∀ {rows : Record κ (Entry ν)}, (∀ k e, rows.lookup k = some e → e.versionstamp ≤ n) →
      ∀ k e, (ws.foldl (write stamp) rows).lookup k = some e → e.versionstamp ≤ n := by
  induction ws with
  | nil => exact fun h => h
  | cons _ _ ih => exact fun h => ih (write_stamped hn h)

/-- The store after the writes of one commit. -/
def apply (kv : Kv κ ν) (ws : List (Write κ ν)) : Kv κ ν where
  rows := ws.foldl (write (kv.stamp + 1)) kv.rows
  stamp := kv.stamp + 1
  stamped := foldl_write_stamped le_rfl fun k e h => Nat.le_succ_of_le (kv.stamped k e h)

/-- The key still has the versionstamp it was read with. -/
def Passes (kv : Kv κ ν) (c : Check κ ν) : Prop :=
  (kv.get c.key).map Entry.versionstamp = c.entry.map Entry.versionstamp

instance (kv : Kv κ ν) (c : Check κ ν) : Decidable (kv.Passes c) :=
  inferInstanceAs (Decidable (_ = _))

/-- Every check of the transaction passes. -/
def PassesAll (kv : Kv κ ν) (cs : List (Check κ ν)) : Prop := ∀ c ∈ cs, kv.Passes c

instance (kv : Kv κ ν) (cs : List (Check κ ν)) : Decidable (kv.PassesAll cs) :=
  inferInstanceAs (Decidable (∀ c ∈ cs, kv.Passes c))

/-! ### Reading after a commit -/

/-- What the writes leave under `k`: `none` if they do not touch it. -/
def written (k : κ) : List (Write κ ν) → Option (Option ν)
  | [] => none
  | .set j v :: ws => (written k ws).or (if j = k then some (some v) else none)
  | .delete j :: ws => (written k ws).or (if j = k then some none else none)

variable {k : κ} {v : ν} {ws : List (Write κ ν)}

theorem mem_of_written (h : written k ws = some (some v)) : Write.set k v ∈ ws := by
  induction ws with
  | nil => cases h
  | cons a _ ih =>
    cases a with
    | set =>
      rw [written, Option.or_eq_some_iff] at h
      rcases h with h | ⟨-, h⟩
      · exact List.mem_cons_of_mem _ (ih h)
      · split_ifs at h with hj
        obtain rfl := hj
        cases h
        exact List.mem_cons_self
    | delete =>
      rw [written, Option.or_eq_some_iff] at h
      rcases h with h | ⟨-, h⟩
      · exact List.mem_cons_of_mem _ (ih h)
      · split_ifs at h with hj
        cases Option.some.inj h

theorem lookup_foldl_write (stamp : ℕ) (k : κ) (ws : List (Write κ ν)) :
    ∀ rows : Record κ (Entry ν), (ws.foldl (write stamp) rows).lookup k
      = match written k ws with
        | none => rows.lookup k
        | some v => v.map fun v => ⟨v, stamp⟩ := by
  induction ws with
  | nil => exact fun rows => rfl
  | cons a ws ih =>
    intro rows
    rw [List.foldl_cons, ih]
    cases a with
    | set j =>
      rw [written, write, Record.lookup_insert]
      cases written k ws with
      | some v' => rfl
      | none =>
        by_cases hj : j = k
        · simp [hj]
        · simp [hj, Ne.symm hj]
    | delete j =>
      rw [written, write, Record.lookup_erase]
      cases written k ws with
      | some v' => rfl
      | none =>
        by_cases hj : j = k
        · simp [hj]
        · simp [hj, Ne.symm hj]

theorem get_apply (kv : Kv κ ν) (ws : List (Write κ ν)) (k : κ) :
    (kv.apply ws).get k = match written k ws with
      | none => kv.get k
      | some v => v.map fun v => ⟨v, kv.stamp + 1⟩ :=
  lookup_foldl_write (kv.stamp + 1) k ws kv.rows

theorem get_apply_of_untouched (kv : Kv κ ν) (h : written k ws = none) :
    (kv.apply ws).get k = kv.get k := by
  rw [get_apply, h]

theorem value_apply (kv : Kv κ ν) (ws : List (Write κ ν)) (k : κ) :
    (kv.apply ws).value k = (written k ws).getD (kv.value k) := by
  rw [value, get_apply]
  cases written k ws with
  | none => rfl
  | some v => cases v <;> rfl

theorem written_eq_none (h : ∀ a ∈ ws, a.key ≠ k) : written k ws = none := by
  induction ws with
  | nil => rfl
  | cons a _ ih =>
    have hws := ih fun b hb => h b (List.mem_cons_of_mem a hb)
    have ha := h a List.mem_cons_self
    cases a with
    | set j | delete j =>
      change j ≠ k at ha
      rw [written, hws, if_neg ha]
      rfl

theorem written_append (k : κ) (ws ws' : List (Write κ ν)) :
    written k (ws ++ ws') = (written k ws').or (written k ws) := by
  induction ws with
  | nil => simp [written]
  | cons a _ ih => cases a <;> rw [List.cons_append, written, ih, written, Option.or_assoc]

theorem written_map_set (k : κ) (key : α → κ) (value : α → ν) (o : Option α) :
    written k (o.map fun a => Write.set (key a) (value a)).toList
      = o.bind fun a => if key a = k then some (some (value a)) else none := by
  cases o with
  | none => rfl
  | some a => simp [written]

/-! ### Counting entries -/

/-- The number of entries whose key and value satisfy `p`. -/
def count (kv : Kv κ ν) (p : κ → ν → Bool) : ℕ := kv.rows.sum fun k e => (p k e.value).toNat

variable {M : Type}

theorem sum_foldl_write [AddCommMonoid M] {g : κ → Entry ν → M} (stamp : ℕ) :
    ∀ rows : Record κ (Entry ν), (∀ a ∈ ws, ∀ e, g a.key e = 0) →
      (ws.foldl (write stamp) rows).sum g = rows.sum g := by
  induction ws with
  | nil => exact fun rows _ => rfl
  | cons a _ ih =>
    intro rows h
    rw [List.foldl_cons, ih _ fun b hb => h b (List.mem_cons_of_mem a hb)]
    have ha := h a List.mem_cons_self
    cases a with
    | set k v =>
      change ∀ e, g k e = 0 at ha
      rw [write]
      cases hk : rows.lookup k with
      | none => rw [Record.sum_insert_new g hk, ha, add_zero]
      | some u =>
        have hsum := Record.sum_insert_old g hk ⟨v, stamp⟩
        rwa [ha, ha, add_zero, add_zero] at hsum
    | delete k =>
      change ∀ e, g k e = 0 at ha
      rw [write]
      cases hk : rows.lookup k with
      | none => rw [Record.erase_of_lookup_none hk]
      | some u =>
        have hsum := Record.sum_erase g hk
        rwa [ha, add_zero] at hsum

/-- The sum of a weight over the entries. -/
def total {M : Type} [AddCommMonoid M] (kv : Kv κ ν) (g : κ → ν → M) : M :=
  kv.rows.sum fun k e => g k e.value

/-- The weight of what is stored under a key. -/
def weightAt {M : Type} [AddCommMonoid M] (kv : Kv κ ν) (g : κ → ν → M) (k : κ) : M :=
  (kv.value k).elim 0 (g k)

theorem total_split [AddCommMonoid M] (kv : Kv κ ν) (g : κ → ν → M) (k : κ) :
    kv.total g = kv.weightAt g k + kv.total fun j v => if j = k then 0 else g j v := by
  rw [total, Record.sum_split _ kv.rows k]
  congr 1
  unfold weightAt value get
  cases kv.rows.lookup k <;> rfl

/-- **A commit that writes one key with a weight** exchanges the weight of what the key held for the
weight of what it holds. -/
theorem total_apply [AddCommGroup M] (kv : Kv κ ν) {g : κ → ν → M} (k : κ)
    (h : ∀ a ∈ ws, a.key ≠ k → ∀ v, g a.key v = 0) :
    (kv.apply ws).total g = kv.total g - kv.weightAt g k + (kv.apply ws).weightAt g k := by
  have hrest : ((kv.apply ws).total fun j v => if j = k then 0 else g j v)
      = kv.total fun j v => if j = k then 0 else g j v := by
    refine sum_foldl_write _ kv.rows fun a ha e => ?_
    by_cases hk : a.key = k
    · exact if_pos hk
    · exact (if_neg hk).trans (h a ha hk e.value)
  rw [total_split _ g k, hrest, total_split kv g k]
  abel

variable {kv : Kv κ ν}

theorem total_congr [AddCommMonoid M] {g g' : κ → ν → M}
    (h : ∀ k v, kv.value k = some v → g k v = g' k v) : kv.total g = kv.total g' := by
  refine Record.sum_congr fun k e he => h k e.value ?_
  have hget : kv.get k = some e := he
  rw [value, hget]
  rfl

section Ordered

variable [AddCommMonoid M] [PartialOrder M] [IsOrderedAddMonoid M]

theorem total_nonneg {g : κ → ν → M} (h : ∀ k v, kv.value k = some v → 0 ≤ g k v) :
    0 ≤ kv.total g := by
  refine Record.sum_nonneg fun k e he => h k e.value ?_
  have hget : kv.get k = some e := he
  rw [value, hget]
  rfl

/-- What is stored under one key weighs at most what all entries weigh. -/
theorem weightAt_le_total {g : κ → ν → M} (h : ∀ k v, kv.value k = some v → 0 ≤ g k v) (k : κ) :
    kv.weightAt g k ≤ kv.total g := by
  rw [total_split kv g k]
  have hrest : 0 ≤ kv.total fun j v => if j = k then 0 else g j v := by
    refine total_nonneg fun j v hv => ?_
    split_ifs
    · exact le_rfl
    · exact h j v hv
  exact le_add_of_nonneg_right hrest

end Ordered

theorem total_apply_of_weightless [AddCommMonoid M] (kv : Kv κ ν) {g : κ → ν → M}
    (h : ∀ a ∈ ws, ∀ v, g a.key v = 0) : (kv.apply ws).total g = kv.total g :=
  sum_foldl_write _ kv.rows fun a ha e => h a ha e.value

theorem total_apply_delete [AddCommMonoid M] (kv : Kv κ ν) {g : κ → ν → M} {keys : List κ}
    (h : ∀ k ∈ keys, kv.weightAt g k = 0) : (kv.apply (keys.map .delete)).total g = kv.total g := by
  have herase : ∀ (keys : List κ) (rows : Record κ (Entry ν)),
      (∀ k ∈ keys, ∀ e, rows.lookup k = some e → g k e.value = 0) →
      ((keys.map Write.delete).foldl (write (kv.stamp + 1)) rows).sum (fun k e => g k e.value)
        = rows.sum fun k e => g k e.value := by
    intro keys
    induction keys with
    | nil => exact fun rows _ => rfl
    | cons k _ ih =>
      intro rows hrows
      rw [List.map_cons, List.foldl_cons, ih]
      · rw [write]
        cases hk : rows.lookup k with
        | none => rw [Record.erase_of_lookup_none hk]
        | some e =>
          have hsum := Record.sum_erase (fun k (e : Entry ν) => g k e.value) hk
          rwa [hrows k List.mem_cons_self e hk, add_zero] at hsum
      · intro j hj e he
        rw [write, Record.lookup_erase] at he
        split_ifs at he
        exact hrows j (List.mem_cons_of_mem _ hj) e he
  refine herase keys kv.rows fun k hk e he => ?_
  have hweight := h k hk
  unfold weightAt value get at hweight
  rwa [he] at hweight

variable {p : κ → ν → Bool}

/-- A commit that writes no key of `p` keeps the count. -/
theorem count_apply (kv : Kv κ ν) (h : ∀ a ∈ ws, ∀ v, p a.key v = false) :
    (kv.apply ws).count p = kv.count p :=
  sum_foldl_write _ kv.rows fun a ha e => by rw [h a ha]; rfl

/-- A commit that writes one key of `p` exchanges what the key counted for. -/
theorem count_apply_set (kv : Kv κ ν) (h : ∀ a ∈ ws, a.key ≠ k ∧ ∀ v, p a.key v = false) (v : ν) :
    (kv.apply (ws ++ [.set k v])).count p + ((kv.value k).any (p k)).toNat
      = kv.count p + (p k v).toNat := by
  have hrest : (kv.apply ws).count p = kv.count p := kv.count_apply fun a ha => (h a ha).2
  have hlk : (ws.foldl (write (kv.stamp + 1)) kv.rows).lookup k = kv.get k := by
    rw [lookup_foldl_write, written_eq_none fun a ha => (h a ha).1]
    rfl
  rw [← hrest]
  unfold count apply
  simp only [List.foldl_append, List.foldl_cons, List.foldl_nil, write]
  cases hk : kv.get k with
  | none =>
    rw [Record.sum_insert_new _ (hlk.trans hk), value, hk]
    rfl
  | some u =>
    have hsum := Record.sum_insert_old (fun k e => (p k e.value).toNat) (hlk.trans hk)
      ⟨v, kv.stamp + 1⟩
    rw [value, hk]
    exact hsum

/-- An entry with `p` is counted. -/
theorem count_pos (hk : kv.value k = some v) (hp : p k v = true) : 0 < kv.count p := by
  obtain ⟨e, he, rfl⟩ := Option.map_eq_some_iff.mp hk
  have hlk : kv.rows.lookup k = some e := he
  have hsum := Record.sum_erase (fun k e => (p k e.value).toNat) hlk
  rw [hp, Bool.toNat_true] at hsum
  unfold count
  omega

/-! ### The order of stores -/

/-- `kv'` can come after `kv`: it has not fewer commits, and every entry of `kv'` that is not newer
than `kv` is an entry of `kv`. -/
def Precedes (kv kv' : Kv κ ν) : Prop :=
  kv.stamp ≤ kv'.stamp ∧
    ∀ k e, kv'.get k = some e → e.versionstamp ≤ kv.stamp → kv.get k = some e

theorem Precedes.refl (kv : Kv κ ν) : kv.Precedes kv := ⟨le_rfl, fun _ _ h _ => h⟩

theorem Precedes.trans {a b c : Kv κ ν} (hab : a.Precedes b) (hbc : b.Precedes c) :
    a.Precedes c := by
  refine ⟨hab.1.trans hbc.1, fun k e he hv => ?_⟩
  exact hab.2 k e (hbc.2 k e he (hv.trans hab.1)) hv

theorem precedes_apply (kv : Kv κ ν) (ws : List (Write κ ν)) : kv.Precedes (kv.apply ws) := by
  refine ⟨Nat.le_succ _, fun k e he hv => ?_⟩
  rw [get_apply] at he
  cases hw : written k ws with
  | none => rwa [hw] at he
  | some v =>
    -- a written entry is newer than the whole store
    rw [hw] at he
    obtain ⟨u, -, rfl⟩ := Option.map_eq_some_iff.mp he
    exact absurd hv (Nat.not_succ_le_self _)

/-- **A check that passes saw the current entry**: if `e` was read under `k` in an earlier store and
the check of `e` passes now, then `e` is what the key holds now. -/
theorem get_eq_of_check (h : kv.Precedes kv') (hread : e = kv.get k) (hchk : kv'.Passes ⟨k, e⟩) :
    kv'.get k = e := by
  unfold Passes at hchk
  change (kv'.get k).map Entry.versionstamp = e.map Entry.versionstamp at hchk
  cases hk : kv'.get k with
  | none =>
    rw [hk] at hchk
    exact (Option.map_eq_none_iff.mp hchk.symm).symm
  | some e' =>
    rw [hk] at hchk
    obtain ⟨e₀, rfl, hv⟩ := Option.map_eq_some_iff.mp hchk.symm
    have hold : e'.versionstamp ≤ kv.stamp := by
      rw [← hv]
      exact kv.stamped k e₀ hread.symm
    rw [hread, h.2 k e' hk hold]

end Kv

end UbqGateway
