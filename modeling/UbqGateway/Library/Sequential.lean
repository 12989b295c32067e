import UbqGateway.Library.Schedule
import Mathlib.Data.Finset.Card

/-!
# A client alone

`Prog.alone` executes a program while no other client runs and the clock stands still: every read
sees the store as it is, a transaction whose checks were just read commits, and a listing has only
one batch.

The rest of the module is what sequential reasoning about a store needs: two stores with the same
values, the set of keys that a count counts, and how many entries a listing has before it.
-/

namespace UbqGateway

variable {κ ν lbl α β ε : Type} [DecidableEq κ]

/-! ### Programs -/

section Programs

variable [LinearOrder κ]

/-- What the program returns and the store it leaves, if it runs alone and the clock shows `t`. -/
def Prog.alone (t : ℤ) : Prog κ ν lbl α → Kv κ ν → α × Kv κ ν
  | .pure a, kv => (a, kv)
  | .now f, kv => (f t).alone t kv
  | .getAll _ f, kv => (f kv.get).alone t kv
  | .next p c f, kv =>
    let first := kv.firstAfter p c.after
    (f ⟨(first.map Prod.fst).or c.after, some 0⟩ first).alone t kv
  | .commit _ checks writes f, kv =>
    if kv.PassesAll checks then (f true).alone t (kv.apply writes) else (f false).alone t kv

theorem Prog.alone_bind (t : ℤ) (p : Prog κ ν lbl α) (g : α → Prog κ ν lbl β) :
    ∀ kv, (p.bind g).alone t kv = (g (p.alone t kv).1).alone t (p.alone t kv).2 := by
  induction p with
  | pure => exact fun kv => rfl
  | now _ ih => exact fun kv => ih t kv
  | getAll _ _ ih => exact fun kv => ih kv.get kv
  | next _ _ _ ih => exact fun kv => ih _ _ kv
  | commit _ checks _ _ ih =>
    intro kv
    by_cases hpass : kv.PassesAll checks
    · simp only [Prog.bind, Prog.alone, if_pos hpass]
      exact ih true _
    · simp only [Prog.bind, Prog.alone, if_neg hpass]
      exact ih false _

/-- A program that may throw, alone. -/
def alone (t : ℤ) (x : ExceptT ε (Prog κ ν lbl) α) (kv : Kv κ ν) : Except ε α × Kv κ ν :=
  x.run.alone t kv

section Except

variable {t : ℤ} {kv kv' : Kv κ ν} {a : α} {e : ε}

variable {x : ExceptT ε (Prog κ ν lbl) α} {f : α → ExceptT ε (Prog κ ν lbl) β}

theorem alone_bind_ok (h : alone t x kv = (.ok a, kv')) :
    alone t (x >>= f) kv = alone t (f a) kv' := by
  have hbind := Prog.alone_bind t x.run (ExceptT.bindCont f) kv
  unfold alone at h
  rw [h] at hbind
  exact hbind

theorem alone_bind_error (h : alone t x kv = (.error e, kv')) :
    alone t (x >>= f) kv = (.error e, kv') := by
  have hbind := Prog.alone_bind t x.run (ExceptT.bindCont f) kv
  unfold alone at h
  rw [h] at hbind
  exact hbind

variable {handle : ε → ExceptT ε (Prog κ ν lbl) α}

theorem alone_tryCatch_ok (h : alone t x kv = (.ok a, kv')) :
    alone t (tryCatch x handle) kv = (.ok a, kv') := by
  change Prog.alone t (Prog.bind x.run _) kv = _
  unfold alone at h
  rw [Prog.alone_bind, h]
  rfl

theorem alone_tryCatch_error (h : alone t x kv = (.error e, kv')) :
    alone t (tryCatch x handle) kv = alone t (handle e) kv' := by
  change Prog.alone t (Prog.bind x.run _) kv = _
  unfold alone at h
  rw [Prog.alone_bind, h]
  rfl

end Except

end Programs

/-! ### Checks of what was just read -/

theorem Kv.passesAll_of_current {kv : Kv κ ν} (h : ∀ c ∈ checks, c.entry = kv.get c.key) :
    kv.PassesAll checks := by
  intro c hc
  unfold Passes
  rw [h c hc]

/-! ### Stores with the same values -/

/-- The stores hold the same values; the versionstamps may differ. -/
def Kv.SameValues (kv kv' : Kv κ ν) : Prop := ∀ k, kv.value k = kv'.value k

theorem Kv.SameValues.symm {kv kv' : Kv κ ν} (h : kv.SameValues kv') : kv'.SameValues kv :=
  fun k => (h k).symm

/-- Two commits leave the values that one commit of all their writes leaves. -/
theorem Kv.apply_append_sameValues (kv : Kv κ ν) (ws vs : List (Write κ ν)) :
    ((kv.apply ws).apply vs).SameValues (kv.apply (ws ++ vs)) := by
  intro k
  rw [Kv.value_apply, Kv.value_apply, Kv.value_apply, Kv.written_append]
  cases Kv.written k vs <;> rfl

theorem Kv.apply_apply_sameValues (kv : Kv κ ν)
    (h : ∀ k, Kv.written k ws = none ∨ Kv.written k vs = none) :
    ((kv.apply ws).apply vs).SameValues (kv.apply (vs ++ ws)) := by
  intro k
  rw [Kv.value_apply, Kv.value_apply, Kv.value_apply, Kv.written_append]
  rcases h k with hno | hno
  · rw [hno]
    cases Kv.written k vs <;> rfl
  · rw [hno, Option.or_none]
    rfl

/-! ### Counting keys -/

namespace Kv

/-- The keys whose value satisfies `p`. -/
def matching (kv : Kv κ ν) (p : κ → ν → Bool) : Finset κ :=
  ((kv.rows.entries.filter fun e => p e.1 e.2.value).map Prod.fst).toFinset

variable {p : κ → ν → Bool} {k : κ}

theorem mem_matching {kv : Kv κ ν} :
    k ∈ kv.matching p ↔ ∃ v, kv.value k = some v ∧ p k v = true := by
  simp only [matching, List.mem_toFinset, List.mem_map, List.mem_filter, Prod.exists,
    kv.rows.mem_entries_iff]
  constructor
  · rintro ⟨_, e, ⟨hk, hp⟩, rfl⟩
    exact ⟨e.value, by rw [value, get, hk]; rfl, hp⟩
  · rintro ⟨v, hv, hp⟩
    obtain ⟨e, he, rfl⟩ := Option.map_eq_some_iff.mp hv
    exact ⟨k, e, ⟨he, hp⟩, rfl⟩

/-- A count is the number of the keys it counts. -/
theorem count_eq_card (kv : Kv κ ν) (p : κ → ν → Bool) : kv.count p = (kv.matching p).card := by
  have hnd : ((kv.rows.entries.filter fun e => p e.1 e.2.value).map Prod.fst).Nodup :=
    kv.rows.nodup.sublist (List.filter_sublist.map Prod.fst)
  rw [matching, List.toFinset_card_of_nodup hnd, List.length_map]
  unfold count Record.sum
  induction kv.rows.entries with
  | nil => rfl
  | cons e _ ih =>
    rw [List.map_cons, List.sum_cons, ih, List.filter_cons]
    cases hp : p e.1 e.2.value
    · simp [hp]
    · simp [hp, Nat.add_comm]

theorem SameValues.count_eq {kv kv' : Kv κ ν} (h : kv.SameValues kv') (p : κ → ν → Bool) :
    kv.count p = kv'.count p := by
  rw [count_eq_card, count_eq_card]
  congr 1
  ext k
  rw [mem_matching, mem_matching, h k]

/-- Counts add up where the predicates do. -/
theorem count_add_count (kv : Kv κ ν)
    (h : ∀ k v, (p k v).toNat + (q k v).toNat = (p' k v).toNat + (q' k v).toNat) :
    kv.count p + kv.count q = kv.count p' + kv.count q' := by
  unfold count Record.sum
  induction kv.rows.entries with
  | nil => rfl
  | cons e _ ih =>
    simp only [List.map_cons, List.sum_cons] at ih ⊢
    have hhead := h e.1 e.2.value
    omega

theorem count_le_length (kv : Kv κ ν) (p : κ → ν → Bool) : kv.count p ≤ kv.rows.entries.length := by
  unfold count Record.sum
  induction kv.rows.entries with
  | nil => exact le_rfl
  | cons e _ ih =>
    simp only [List.map_cons, List.sum_cons, List.length_cons] at ih ⊢
    have hhead := Bool.toNat_le (p e.1 e.2.value)
    omega

theorem count_eq_zero_iff {kv : Kv κ ν} :
    kv.count p = 0 ↔ ∀ k v, kv.value k = some v → p k v = false := by
  rw [count_eq_card, Finset.card_eq_zero, Finset.eq_empty_iff_forall_notMem]
  simp only [mem_matching, not_exists, not_and, Bool.not_eq_true]

/-! ### Listings -/

section Listings

variable [LinearOrder κ]

/-- The number of entries with `p` that come after a key. -/
def remaining (kv : Kv κ ν) (p : κ → Bool) (after : Option κ) : ℕ :=
  kv.count fun k _ => p k && after.all fun a => decide (a < k)

theorem remaining_lt {kv : Kv κ ν} {p : κ → Bool} (hk : kv.value k = some u) (hp : p k = true)
    (haft : ∀ a, after = some a → a < k) : kv.remaining p (some k) < kv.remaining p after := by
  unfold remaining
  rw [count_eq_card, count_eq_card]
  refine Finset.card_lt_card (Finset.ssubset_iff_of_subset ?_ |>.mpr ⟨k, ?_, ?_⟩)
  · intro j hj
    rw [mem_matching] at hj ⊢
    obtain ⟨v, hv, hj⟩ := hj
    simp only [Option.all_some, Bool.and_eq_true, decide_eq_true_eq] at hj
    refine ⟨v, hv, ?_⟩
    cases after with
    | none => simp [hj.1]
    | some a => simp [hj.1, (haft a rfl).trans hj.2]
  · rw [mem_matching]
    refine ⟨u, hk, ?_⟩
    cases after with
    | none => simp [hp]
    | some a => simp [hp, haft a rfl]
  · rw [mem_matching]
    rintro ⟨v, -, hlt⟩
    simp at hlt

end Listings

end Kv

end UbqGateway
