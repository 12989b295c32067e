import UbqGateway.Library.Record

/-!
# Tables of expiring rows

A table keeps a row until it is overwritten, but a row is read only until it expires: whoever reads
at the time `now` sees the rows that expire later.  `Table.total` is a sum over the rows that are
seen, and `Table.page` lists them in the order of their keys.
-/

namespace UbqGateway

variable {κ α M : Type}

/-- A row and the time at which it expires. -/
structure Stored (α : Type) where
  value : α
  expiresAtMs : ℤ

/-- A table of expiring rows. -/
abbrev Table (κ α : Type) := Record κ (Stored α)

namespace Table

/-- The row as it is seen at the time `now`. -/
def seen (now : ℤ) (row : Stored α) :
    Option α := if now < row.expiresAtMs then some row.value else none

/-- The rows that come after a key and are seen, at most `limit` of them, in the order of their
keys. -/
def page [LinearOrder κ] (t : Table κ α) (now : ℤ) (p : κ → Bool) (after : Option κ) (limit : ℕ) :
    List (κ × Stored α) :=
  ((t.entries.filter fun e => decide (now < e.2.expiresAtMs) && p e.1 &&
    after.all fun a => decide (a < e.1)).mergeSort fun a b => decide (a.1 ≤ b.1)).take limit

/-- The total weight of the rows that are seen. -/
def total [AddCommMonoid M] (t : Table κ α) (now : ℤ) (g : κ → α → M) : M :=
  t.sum fun k row => (seen now row).elim 0 (g k)

section Lookup

variable [DecidableEq κ]

/-- Reading a row at the time `now`. -/
def read (t : Table κ α) (k : κ) (now : ℤ) : Option α := (t.lookup k).bind (seen now)

/-- Writing a row that expires at the given time. -/
def write (t : Table κ α) (k : κ) (value : α) (expiresAtMs : ℤ) : Table κ α :=
  t.insert k ⟨value, expiresAtMs⟩

theorem read_write (t : Table κ α) (k : κ) (v : α) (e : ℤ) (j : κ) (now : ℤ) :
    (t.write k v e).read j now
      = if j = k then (if now < e then some v else none) else t.read j now := by
  unfold read write
  rw [Record.lookup_insert]
  split_ifs with hj he
  · simp [seen, he]
  · simp [seen, he]
  · rfl

variable {t : Table κ α} {now : ℤ}

theorem read_eq_some {k : κ} {v : α} :
    t.read k now = some v ↔ ∃ e, t.lookup k = some ⟨v, e⟩ ∧ now < e := by
  unfold read
  cases hlk : t.lookup k with
  | none => simp
  | some row =>
    obtain ⟨u, e⟩ := row
    simp only [Option.bind_some, seen, Option.some.injEq, Stored.mk.injEq]
    split_ifs with he
    · simp only [Option.some.injEq]
      exact ⟨fun h => ⟨e, ⟨h, rfl⟩, he⟩, fun ⟨_, h, _⟩ => h.1⟩
    · simp only [false_iff]
      rintro ⟨e', ⟨-, rfl⟩, hlt⟩
      exact he hlt

/-- A write exchanges the weight that was seen for the one of the new row. -/
theorem total_write [AddCommGroup M] (t : Table κ α) (k : κ) (v : α) (e now : ℤ) (g : κ → α → M) :
    (t.write k v e).total now g
      = t.total now g - (t.read k now).elim 0 (g k) + (if now < e then g k v else 0) := by
  have hnew : (seen now ⟨v, e⟩).elim 0 (g k) = if now < e then g k v else 0 := by
    unfold seen
    split_ifs <;> rfl
  unfold total write read
  rw [← hnew]
  cases hlk : t.lookup k with
  | none =>
    rw [Record.sum_insert_new _ hlk]
    simp
  | some row =>
    have hsum := Record.sum_insert_old (fun k row => (seen now row).elim 0 (g k)) hlk ⟨v, e⟩
    rw [Option.bind_some, sub_add_eq_add_sub, eq_sub_iff_add_eq]
    exact hsum

variable {g : κ → α → M}

/-- Two sums agree if the weights of the rows do. -/
theorem total_congr [AddCommMonoid M] {now' : ℤ} {g' : κ → α → M}
    (h : ∀ k row, t.lookup k = some row →
      (seen now row).elim 0 (g k) = (seen now' row).elim 0 (g' k)) :
    t.total now g = t.total now' g' :=
  Record.sum_congr fun k row hmem => h k row hmem

theorem total_eq_zero [AddCommMonoid M]
    (h : ∀ k row, t.lookup k = some row → (seen now row).elim 0 (g k) = 0) : t.total now g = 0 :=
  (Record.sum_congr fun k row hmem => h k row hmem).trans (Record.sum_zero t)

end Lookup

/-! ### Pages -/

section Page

variable [LinearOrder κ]

theorem mem_page [DecidableEq κ] {t : Table κ α} {now : ℤ} {p : κ →
    Bool} {after : Option κ} {limit : ℕ}
    {entry : κ × Stored α} (h : entry ∈ t.page now p after limit) :
    t.read entry.1 now = some entry.2.value ∧ p entry.1 = true := by
  have hmem := List.mem_mergeSort.mp (List.mem_of_mem_take h)
  simp only [List.mem_filter, Bool.and_eq_true, decide_eq_true_eq] at hmem
  obtain ⟨hent, ⟨hlt, hp⟩, -⟩ := hmem
  refine ⟨read_eq_some.mpr ⟨entry.2.expiresAtMs, ?_, hlt⟩, hp⟩
  exact (Record.mem_entries_iff t entry.1 entry.2).mp hent

/-- No key is twice on a page. -/
theorem page_nodup (t : Table κ α) (now : ℤ) (p : κ → Bool) (after : Option κ) (limit : ℕ) :
    ((t.page now p after limit).map Prod.fst).Nodup := by
  have hsub : (t.page now p after limit).map Prod.fst |>.Sublist
      ((((t.entries.filter fun e => decide (now < e.2.expiresAtMs) && p e.1 &&
        after.all fun a => decide (a < e.1)).mergeSort fun a b => decide (a.1 ≤ b.1)).map
          Prod.fst)) := (List.take_sublist _ _).map _
  refine hsub.nodup ?_
  have hperm := (List.mergeSort_perm (t.entries.filter fun e => decide (now < e.2.expiresAtMs) &&
    p e.1 && after.all fun a => decide (a < e.1)) fun a b => decide (a.1 ≤ b.1)).map Prod.fst
  rw [hperm.nodup_iff]
  exact (List.filter_sublist.map _).nodup t.nodup

end Page

end Table

end UbqGateway
