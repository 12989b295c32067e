import UbqGateway.Kernel.Contracts

/-!
# What the kernel quota counts

The abstract model of the quota of one scope.  There is at most one window that requests are charged
to, and for every window there ever was the number of its reservations in each state.  A `Ledger`
says nothing about stores, leases or policies: windows are created, reservations are made in the
window and settled later, perhaps when another window has taken its place.

A window counts its reservations as long as no two windows share their id (`Exact`), and it never
holds more than its limit (`Within`).  `Counts` shows that every commit of the kernel quota is a
step of the ledger of each scope.
-/

namespace UbqGateway.Kernel

/-- A window of the ledger and what it says about its reservations. -/
structure LedgerWindow (τ : Type) where
  id : τ
  usage : ℤ
  reserved : ℤ

/-- The quota of one scope: its window, and the number of reservations of each window in each
state. -/
structure Ledger (τ : Type) where
  window : Option (LedgerWindow τ)
  rows : τ → ReservationState → ℕ

namespace Ledger

/-! ### Windows that count their reservations -/

/-- The window that a reservation is made in: the window of the ledger, or a new one. -/
def Standing (l : Ledger τ) (created : Option τ) (base : LedgerWindow τ) : Prop :=
  (created = none ∧ l.window = some base) ∨ (created = some base.id ∧ base = ⟨base.id, 0, 0⟩)

/-- The window counts its reservations, and reservations belong to windows that were created. -/
structure Exact (l : Ledger τ) (ids : List τ) : Prop where
  rows_created : ∀ id state, l.rows id state ≠ 0 → id ∈ ids
  window_created : ∀ window, l.window = some window → window.id ∈ ids
  reserved : ∀ window, l.window = some window → window.reserved = l.rows window.id .reserved
  usage : ∀ window, l.window = some window → window.usage = l.rows window.id .committed

theorem Exact.rows_eq_zero {l : Ledger τ} (h : l.Exact ids) {id : τ} (hid : id ∉ ids)
    (state : ReservationState) : l.rows id state = 0 := by
  by_contra hne
  exact hid (h.rows_created id state hne)

theorem Exact.standing {l : Ledger τ} (h : l.Exact ids) {created : Option τ}
    (hfr : ∀ id, created = some id → id ∉ ids) (hbase : l.Standing created base) :
    base.reserved = l.rows base.id .reserved ∧ base.usage = l.rows base.id .committed := by
  rcases hbase with ⟨-, hold⟩ | ⟨hnew, hzero⟩
  · exact ⟨h.reserved base hold, h.usage base hold⟩
  · have hno := h.rows_eq_zero (hfr base.id hnew)
    rw [hno, hno, hzero]
    exact ⟨rfl, rfl⟩

end Ledger

variable [DecidableEq τ]

/-- The window after a reservation of the window `id` was settled. -/
def LedgerWindow.settle (window : LedgerWindow τ) (id : τ) (state : TerminalState) :
    LedgerWindow τ :=
  if window.id = id then
    { window with
      usage := window.usage + if state = .committed then 1 else 0
      reserved := window.reserved - 1 }
  else window

namespace Ledger

/-! ### Steps -/

/-- One reservation of the window `id` comes into the state `new`; it was in the state `old`, or is
a new one if there is none. -/
def Moves (rows rows' : τ → ReservationState → ℕ) (id : τ) (old : Option ReservationState)
    (new : ReservationState) : Prop :=
  ∀ other state, rows' other state + (decide (other = id ∧ old = some state)).toNat
    = rows other state + (decide (other = id ∧ new = state)).toNat

/-- One step of a scope in which `limit` is in force; it may create a window. -/
inductive Step (limit : Option ℤ) (l : Ledger τ) : Option τ → Ledger τ → Prop
  | idle : Step limit l none l
  | create (id : τ) : Step limit l (some id) ⟨some ⟨id, 0, 0⟩, l.rows⟩
  | reserve (created : Option τ) (base : LedgerWindow τ) (rows : τ → ReservationState → ℕ)
      (hbase : l.Standing created base)
      (hroom : ∀ bound, limit = some bound → base.usage + base.reserved < bound)
      (hrows : Moves l.rows rows base.id none .reserved) :
      Step limit l created ⟨some { base with reserved := base.reserved + 1 }, rows⟩
  | settle (id : τ) (state : TerminalState) (rows : τ → ReservationState → ℕ)
      (hrows : Moves l.rows rows id (some .reserved) state.state) :
      Step limit l none ⟨l.window.map (·.settle id state), rows⟩

section Moves

variable {rows rows' : τ → ReservationState → ℕ} {id : τ}

theorem Moves.of_ne {old : Option ReservationState} (h : Moves rows rows' id old new) {other : τ}
    (hne : other ≠ id) (state : ReservationState) : rows' other state = rows other state := by
  simpa [hne] using h other state

theorem Moves.eq_of_same (h : Moves rows rows' id (some state) state) : rows' = rows := by
  funext other found
  simpa using h other found

theorem Moves.of_reserve (h : Moves rows rows' id none .reserved) :
    rows' id .reserved = rows id .reserved + 1 ∧ rows' id .committed = rows id .committed := by
  have hres := h id .reserved
  have hcom := h id .committed
  simp at hres hcom
  exact ⟨hres, hcom⟩

theorem Moves.of_settle {state : TerminalState}
    (h : Moves rows rows' id (some .reserved) state.state) :
    rows' id .reserved + 1 = rows id .reserved ∧
      rows' id .committed = rows id .committed + if state = .committed then 1 else 0 := by
  have hres := h id .reserved
  have hcom := h id .committed
  cases state <;> simp [TerminalState.state] at hres hcom ⊢ <;>
    exact ⟨hres, hcom⟩

end Moves

variable {created : Option τ}

/-- **The counts stay exact** in every step that creates no window a second time. -/
theorem Exact.step (h : l.Exact ids) (hstep : Step limit l created l')
    (hfr : ∀ id, created = some id → id ∉ ids) : l'.Exact (created.toList ++ ids) := by
  cases hstep with
  | idle => exact h
  | create id =>
    have hno := h.rows_eq_zero (hfr id rfl)
    refine ⟨fun other state hne => List.mem_cons_of_mem id (h.rows_created other state hne),
      ?_, ?_, ?_⟩
    · rintro _ ⟨⟩
      exact List.mem_cons_self
    · rintro _ ⟨⟩
      simp [hno]
    · rintro _ ⟨⟩
      simp [hno]
  | reserve _ base rows hbase _ hrows =>
    obtain ⟨hres, husg⟩ := h.standing hfr hbase
    obtain ⟨hmvd, hkept⟩ := hrows.of_reserve
    have hcr : base.id ∈ created.toList ++ ids := by
      rcases hbase with ⟨_, hold⟩ | ⟨hnew, -⟩
      · exact List.mem_append_right _ (h.window_created base hold)
      · rw [hnew]
        exact List.mem_cons_self
    refine ⟨fun other state hne => ?_, ?_, ?_, ?_⟩
    · change rows other state ≠ 0 at hne
      by_cases hoth : other = base.id
      · rwa [hoth]
      · rw [hrows.of_ne hoth] at hne
        exact List.mem_append_right _ (h.rows_created other state hne)
    · rintro _ ⟨⟩
      exact hcr
    · rintro _ ⟨⟩
      simp [hmvd, hres]
    · rintro _ ⟨⟩
      simp [hkept, husg]
  | settle id _ rows hrows =>
    obtain ⟨hmvd, hkept⟩ := hrows.of_settle
    refine ⟨fun other found hne => ?_, ?_, ?_, ?_⟩
    · change rows other found ≠ 0 at hne
      by_cases hoth : other = id
      · -- a settled reservation was reserved before
        rw [hoth]
        exact h.rows_created id .reserved (by omega)
      · rw [hrows.of_ne hoth] at hne
        exact h.rows_created other found hne
    all_goals
      intro window hwin
      obtain ⟨old, hold, rfl⟩ := Option.map_eq_some_iff.mp hwin
      by_cases hid : old.id = id
    · simpa [LedgerWindow.settle, hid] using h.window_created old hold
    · simpa [LedgerWindow.settle, hid] using h.window_created old hold
    · have hcnt := h.reserved old hold
      simp only [LedgerWindow.settle, hid, if_true] at hcnt ⊢
      omega
    · simpa [LedgerWindow.settle, hid, hrows.of_ne hid] using h.reserved old hold
    · have hcnt := h.usage old hold
      simp only [LedgerWindow.settle, hid, if_true] at hcnt ⊢
      split_ifs at hkept ⊢ <;> omega
    · simpa [LedgerWindow.settle, hid, hrows.of_ne hid] using h.usage old hold

/-! ### The limit -/

/-- Not more than `bound` reservations of the window `id` are committed or can still be. -/
def Within (l : Ledger τ) (id : τ) (bound : ℤ) : Prop :=
  (l.rows id .reserved + l.rows id .committed : ℤ) ≤ bound

/-- **The limit holds** as long as it is the limit in force whenever the window stands. -/
theorem Within.step {id : τ} (h : l.Within id bound) (hexc : l.Exact ids)
    (hstep : Step limit l created l') (hfr : ∀ id, created = some id → id ∉ ids)
    (hlmt : ∀ window, l'.window = some window → window.id = id → limit = some bound) :
    l'.Within id bound := by
  unfold Within at h ⊢
  cases hstep with
  | idle | create => exact h
  | reserve _ base rows hbase hroom hrows =>
    change (rows id .reserved + rows id .committed : ℤ) ≤ bound
    by_cases hid : base.id = id
    · obtain ⟨hres, husg⟩ := hexc.standing hfr hbase
      have hfree := hroom bound (hlmt _ rfl hid)
      subst hid
      obtain ⟨hmvd, hkept⟩ := hrows.of_reserve
      omega
    · rwa [hrows.of_ne (Ne.symm hid), hrows.of_ne (Ne.symm hid)]
  | settle other _ rows hrows =>
    change (rows id .reserved + rows id .committed : ℤ) ≤ bound
    by_cases hid : id = other
    · subst hid
      obtain ⟨hmvd, hkept⟩ := hrows.of_settle
      split_ifs at hkept <;> omega
    · rwa [hrows.of_ne hid, hrows.of_ne hid]

end Ledger

end UbqGateway.Kernel
