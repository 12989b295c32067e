import UbqGateway.Kernel.Ledger
import UbqGateway.Kernel.Service

/-!
# Windows count their reservations

The store keeps the window of a scope and the rows of its reservations under keys of their own.
`ledgerOf` reads both as the `Ledger` of the scope, and `KernelStep.ledger_step` shows that every
commit is a step of it: a commit that changes a row and the window changes them together.

The counts are exact if no two windows of a scope share their creation time, which is all that tells
the rows of one window from those of another (`window_counts_rows`).  A limit that is in force
during the life of a window bounds what is ever committed in it (`window_within_limit`).
-/

namespace UbqGateway.Kernel

open KernelQuotaReservationIdentity KernelQuotaWindowV2

/-! ### The ledger of a scope -/

/-- The row of a reservation of the scope in the window created at `createdAtMs`. -/
def isRow (identity : KernelQuotaIdentity) (createdAtMs : ℤ) (state : ReservationState) :
    KvKey → KernelValue → Bool
  | .reservation other _ _, .reservation row =>
    decide (other = identity ∧ row.windowCreatedAtMs = createdAtMs ∧ row.state = state)
  | _, _ => false

/-- The number of rows in a state of the window created at `createdAtMs`. -/
def rowCount (kv : KernelKv) (identity : KernelQuotaIdentity) (createdAtMs : ℤ)
    (state : ReservationState) : ℕ :=
  kv.count (isRow identity createdAtMs state)

/-- What the window says about its reservations. -/
def KernelQuotaWindowV2.ledger (window : KernelQuotaWindowV2) : LedgerWindow ℤ :=
  ⟨window.createdAtMs, window.usageRequests, window.reservedRequests⟩

def ledgerOf (kv : KernelKv) (identity : KernelQuotaIdentity) : Ledger ℤ :=
  ⟨(windowOf kv identity).map ledger, rowCount kv identity⟩

/-- The limit in force for a scope, if there is one. -/
def limitOf (kv : KernelKv) (identity : KernelQuotaIdentity) : Option ℤ :=
  match effectivePolicy kv identity with
  | .ok effective => if effective.limit = noUsageLimit then none else some effective.limit
  | .error _ => none

variable {identity : KernelQuotaIdentity} {kv : KernelKv}

theorem limitOf_nonneg (h : limitOf kv identity = some limit) : 0 ≤ limit := by
  unfold limitOf at h
  split at h
  · next effective heff =>
    split_ifs at h with hno
    cases h
    refine (policyFor_limit_cases heff ?_).resolve_left hno
    exact normalizeUsageLimit_cases _ (.inl rfl)
  · cases h

/-- The creation time of the window of the scope that a commit creates. -/
def KernelCommit.createdIn (label : KernelCommit) (identity : KernelQuotaIdentity) : Option ℤ :=
  match label with
  | .reserve other createdAtMs created | .setPolicy other createdAtMs created
  | .deletePolicy other createdAtMs created =>
    if created = true ∧ other = identity then some createdAtMs else none
  | _ => none

/-! ### Rows after a commit -/

section Apply

/-- No key of the scope's rows is written. -/
def LeavesRows (identity : KernelQuotaIdentity) (writes : List (Write KvKey KernelValue)) : Prop :=
  ∀ a ∈ writes, ∀ createdAtMs requestId, a.key ≠ .reservation identity createdAtMs requestId

theorem isRow_eq_false {key : KvKey}
    (h : ∀ createdAtMs requestId, key ≠ .reservation identity createdAtMs requestId)
    (createdAtMs : ℤ) (state : ReservationState) (value : KernelValue) :
    isRow identity createdAtMs state key value = false := by
  unfold isRow
  split
  · next other foundAtMs requestId row =>
    refine decide_eq_false fun hrow => ?_
    exact h foundAtMs requestId (by rw [hrow.1])
  · rfl

theorem rowCount_apply (h : LeavesRows identity writes) :
    rowCount (kv.apply writes) identity = rowCount kv identity := by
  funext createdAtMs state
  exact kv.count_apply fun a ha => isRow_eq_false (h a ha) createdAtMs state

variable {createdAtMs : ℤ} {requestId : String}

theorem rowCount_moves (writes : List (Write KvKey KernelValue))
    (old : Option KernelQuotaReservationRowV2) (new : KernelQuotaReservationRowV2)
    (h : LeavesRows identity writes)
    (hold : kv.value (.reservation identity createdAtMs requestId) = old.map .reservation)
    (heq : ∀ row, old = some row → row.windowCreatedAtMs = new.windowCreatedAtMs) :
    Ledger.Moves (rowCount kv identity) (rowCount (kv.apply (writes ++
        [.set (.reservation identity createdAtMs requestId) (.reservation new)])) identity)
      new.windowCreatedAtMs (old.map (·.state)) new.state := by
  intro other state
  have hcnt := kv.count_apply_set (p := isRow identity other state)
    (k := .reservation identity createdAtMs requestId)
    (fun a ha => ⟨h a ha _ _, isRow_eq_false (h a ha) other state⟩) (.reservation new)
  rw [hold] at hcnt
  unfold rowCount
  cases old with
  | none => simpa [isRow, eq_comm] using hcnt
  | some row =>
    have hrow := heq row rfl
    simpa [isRow, hrow, eq_comm] using hcnt

theorem ledgerOf_apply (hrows : LeavesRows identity writes)
    (hwin : Kv.written (.window identity) writes = none) :
    ledgerOf (kv.apply writes) identity = ledgerOf kv identity := by
  unfold ledgerOf
  rw [rowCount_apply hrows, windowOf_apply_of_untouched hwin]

theorem ledgerOf_apply_of_set (window : KernelQuotaWindowV2)
    (h : Kv.written (.window identity) writes = some (some (.window window))) :
    ledgerOf (kv.apply writes) identity
      = ⟨some window.ledger, rowCount (kv.apply writes) identity⟩ := by
  rw [ledgerOf, windowOf_apply_of_set window h]
  rfl

theorem effectivePolicy_apply (hpol : Kv.written (.policy identity) writes = none)
    (hlmt : Kv.written .defaultLimit writes = none)
    (hwin : Kv.written .defaultWindow writes = none) :
    effectivePolicy (kv.apply writes) identity = effectivePolicy kv identity := by
  unfold effectivePolicy defaultsOf
  rw [value_apply_of_untouched hpol, value_apply_of_untouched hlmt,
    value_apply_of_untouched hwin]

end Apply

theorem limitOf_eq_some (hpol : effectivePolicy kv identity = .ok effective)
    (h : limitOf kv identity = some limit) :
    effective.limit ≠ noUsageLimit ∧ effective.limit = limit := by
  simp only [limitOf, hpol] at h
  split_ifs at h with hno
  exact ⟨hno, Option.some.inj h⟩

/-! ### The commits are steps of the ledger -/

section Step

variable {w : KernelWorld} {label : KernelCommit}

theorem ledger_step_idle (hlab : label.createdIn identity = none)
    (hrows : LeavesRows identity writes) (hwin : Kv.written (.window identity) writes = none) :
    Ledger.Step limit (ledgerOf w.store identity) (label.createdIn identity)
      (ledgerOf (w.store.apply writes) identity) := by
  rw [hlab, ledgerOf_apply hrows hwin]
  exact .idle

theorem ledger_step_window (chosen : KernelQuotaEffectiveWindow) (hlab : label.createdIn identity
      = if chosen.needsWrite = true then some chosen.window.createdAtMs else none)
    (hchosen : (∃ windowMs nowMs, chosen = ⟨newWindow identity windowMs nowMs, true⟩) ∨
      ∃ window updatedAtMs, windowOf w.store identity = some window ∧
        chosen = ⟨{ window with updatedAtMs := updatedAtMs }, false⟩)
    (hrows : LeavesRows identity writes)
    (hwin : Kv.written (.window identity) writes = some (some (.window chosen.window))) :
    Ledger.Step limit (ledgerOf w.store identity) (label.createdIn identity)
      (ledgerOf (w.store.apply writes) identity) := by
  rw [hlab, ledgerOf_apply_of_set _ hwin, rowCount_apply hrows]
  rcases hchosen with ⟨windowMs, nowMs, rfl⟩ | ⟨window, updatedAtMs, hst, rfl⟩
  · exact .create nowMs
  · rw [ledgerOf, hst]
    exact .idle

variable {request : KernelQuotaReservationIdentity}

theorem ledger_step_rewrite (hlab : label.createdIn identity = none)
    (hst : rowOf w.store request.key = some row)
    (hcr : row.windowCreatedAtMs = new.windowCreatedAtMs) (hsta : row.state = new.state) :
    Ledger.Step limit (ledgerOf w.store identity) (label.createdIn identity)
      (ledgerOf (w.store.apply [.set request.key (.reservation new)]) identity) := by
  by_cases heq : request.identity = identity
  · subst heq
    -- the row leaves its state and comes back to it
    have hmvs := rowCount_moves [] (some row) new (fun a ha => by cases ha)
      (rowOf_eq_some.mp hst) (by rintro _ ⟨⟩; exact hcr)
    rw [Option.map_some, hsta] at hmvs
    rw [hlab, ledgerOf, ledgerOf, windowOf_apply_of_untouched (by simp [Kv.written, key])]
    rw [show rowCount (w.store.apply [.set request.key (.reservation new)]) request.identity
      = rowCount w.store request.identity from hmvs.eq_of_same]
    exact .idle
  · refine ledger_step_idle hlab ?_ ?_
    · simp [LeavesRows, Write.key, key, heq]
    · simp [Kv.written, key]

/-- A settlement is a step of the ledger. -/
theorem ledger_step_settle {terminalState : TerminalState} {settled : KernelQuotaReservationRowV2}
    {window : Option KernelQuotaWindowV2} {present : Bool} {reason : String} {nowMs : ℤ}
    (hlab : label.createdIn identity = none) (h : Settleable w request terminalState row)
    (hplan : decideKernelQuotaSettlement row (windowOf w.store request.identity) present
      terminalState reason nowMs = .settle settled window) :
    Ledger.Step limit (ledgerOf w.store identity) (label.createdIn identity)
      (ledgerOf (w.store.apply
        ((window.map fun window => .set (.window request.identity) (.window window)).toList ++
          [.set request.key (.reservation settled)])) identity) := by
  obtain ⟨rfl, hwin⟩ := decideKernelQuotaSettlement_eq_settle hplan
  by_cases heq : request.identity = identity
  · subst heq
    have hmvs := rowCount_moves
      ((window.map fun window => .set (.window request.identity) (.window window)).toList)
      (some row) (settledKernelReservationRow row terminalState reason nowMs)
      (by cases window <;> simp [LeavesRows, Write.key])
      (rowOf_eq_some.mp h.stored) (by rintro _ ⟨⟩; simp)
    rw [Option.map_some, h.reserved, settledKernelReservationRow_state,
      settledKernelReservationRow_windowCreatedAtMs] at hmvs
    -- the window is settled with the row, or it is not the window of the row
    have haft : (windowOf (w.store.apply ((window.map fun window =>
          .set (.window request.identity) (.window window)).toList ++ [.set request.key
            (.reservation (settledKernelReservationRow row terminalState reason nowMs))]))
          request.identity).map ledger
        = (ledgerOf w.store request.identity).window.map
          (·.settle row.windowCreatedAtMs terminalState) := by
      rcases hwin with ⟨old, hold, hcr, -, rfl⟩ | ⟨rfl, hoth⟩
      · rw [windowOf_apply_of_set (settledWindow old terminalState nowMs)
          (by simp [Kv.written, key]), ledgerOf, hold]
        simp [LedgerWindow.settle, ledger, settledWindow, hcr]
      · rw [windowOf_apply_of_untouched (by simp [Kv.written, key]), ledgerOf]
        cases hold : windowOf w.store request.identity with
        | none => rfl
        | some old =>
          simp [LedgerWindow.settle, ledger, hoth old hold]
    rw [hlab, ledgerOf.eq_def (w.store.apply _), haft]
    exact .settle row.windowCreatedAtMs terminalState _ hmvs
  · refine ledger_step_idle hlab ?_ ?_
    · cases window <;> simp [LeavesRows, Write.key, key, heq]
    · refine Kv.written_eq_none ?_
      cases window <;> simp [Write.key, key, heq]

/-- **Every commit is a step of the ledger of each scope.** -/
theorem KernelStep.ledger_step (h : KernelStep clockOk w label writes)
    (identity : KernelQuotaIdentity) :
    Ledger.Step (limitOf (w.store.apply writes) identity) (ledgerOf w.store identity)
      (label.createdIn identity) (ledgerOf (w.store.apply writes) identity) := by
  cases h with
  | reserve reserved effective resolved requestId route nowMs hnow hpol hcut hrsv hnew
      hroom =>
    by_cases heq : reserved = identity
    · subst heq
      rw [ledgerOf_apply_of_set { resolved.window with
        reservedRequests := resolved.window.reservedRequests + 1, updatedAtMs := nowMs }
        (by simp [Kv.written])]
      refine .reserve _ resolved.window.ledger _ ?_ ?_
        (rowCount_moves [_] none (reservedRow reserved resolved.window requestId route nowMs)
          ?_ hnew ?_)
      · -- the reservation is made in a window of its own or in the stored one
        rcases windowForEffectivePolicy_cases (windowOf w.store reserved) reserved
          effective.windowMs nowMs with ⟨hcr, -⟩ | ⟨window, hst, -, hkept⟩
        · rw [hrsv, hcr]
          exact .inr ⟨if_pos ⟨rfl, rfl⟩, rfl⟩
        · rw [hrsv, hkept]
          refine .inl ⟨by simp [KernelCommit.createdIn], ?_⟩
          rw [ledgerOf, hst]
          rfl
      · -- the reservation leaves the policy alone
        intro bound hbd
        refine hroom.elim (fun hno => ?_) fun hfree => ?_
        all_goals
          obtain ⟨hlim, rfl⟩ := limitOf_eq_some (Eq.trans (effectivePolicy_apply
            (by simp [Kv.written]) (by simp [Kv.written]) (by simp [Kv.written])) hpol) hbd
        · exact absurd hno hlim
        · exact hfree
      · simp [LeavesRows, Write.key]
      · intro row hrow
        cases hrow
    · refine ledger_step_idle ?_ ?_ ?_
      · simp [KernelCommit.createdIn, heq]
      · simp [LeavesRows, Write.key, heq]
      · simp [Kv.written, heq]
  | terminalIntent _ _ _ _ hstl =>
    exact ledger_step_rewrite rfl hstl.stored rfl rfl
  | settle _ _ _ _ _ _ _ _ _ hlab hstl hplan =>
    refine ledger_step_settle ?_ hstl hplan
    cases hlab <;> rfl
  | renew _ _ _ hst =>
    exact ledger_step_rewrite rfl hst rfl rfl
  | setPolicy changed effective policy written reset nowMs hnow hpol hcut hwr hrst
      hkeep horg =>
    by_cases heq : changed = identity
    · subst heq
      refine ledger_step_window written (by simp [KernelCommit.createdIn]) ?_
        (by simp [LeavesRows, Write.key]) (by simp [Kv.written])
      rw [hwr]
      rcases decideKernelQuotaPolicyWrite_cases changed policy (windowOf w.store changed) reset
        nowMs with ⟨hnew, -⟩ | ⟨window, hst, -, hkept⟩
      · exact .inl ⟨_, _, hnew⟩
      · exact .inr ⟨window, _, hst, hkept⟩
    · refine ledger_step_idle ?_ ?_ ?_
      · simp [KernelCommit.createdIn, heq]
      · simp [LeavesRows, Write.key]
      · simp [Kv.written, heq]
  | deletePolicy changed effective next nowMs hnow hpol hcut hnext hlive =>
    by_cases heq : changed = identity
    · subst heq
      refine ledger_step_window next (by simp [KernelCommit.createdIn]) ?_
        (by simp [LeavesRows, Write.key]) (by simp [Kv.written])
      rw [hnext]
      rcases decideKernelQuotaPolicyDeleteWindow_cases changed effective (defaultsOf w.store)
        (windowOf w.store changed) nowMs with hnew | ⟨window, hst, -, hkept⟩
      · exact .inl ⟨_, _, hnew⟩
      · exact .inr ⟨window, _, hst, hkept⟩
    · refine ledger_step_idle ?_ ?_ ?_
      · simp [KernelCommit.createdIn, heq]
      · simp [LeavesRows, Write.key]
      · simp [Kv.written, heq]
  | acquireCutover =>
    exact ledger_step_idle rfl (by simp [LeavesRows, Write.key]) (by simp [Kv.written])
  | removeCutover _ hremove =>
    refine ledger_step_idle ?_ (by simp [LeavesRows, Write.key]) (by simp [Kv.written])
    rcases hremove with rfl | rfl <;> rfl
  | updateDefaults cutover =>
    refine ledger_step_idle rfl ?_ (Kv.written_eq_none ?_)
    · cases cutover <;> simp [LeavesRows, Write.key, or_imp, forall_and]
    · cases cutover <;> simp [Write.key, or_imp, forall_and]

end Step

/-! ### Whole histories -/

/-- The creation times of the windows of a scope, newest first. -/
def windowCreations (w : KernelWorld) (identity : KernelQuotaIdentity) : List ℤ :=
  w.events.filterMap fun event => event.label.createdIn identity

theorem windowCreations_commit (w : KernelWorld) (label : KernelCommit)
    (writes : List (Write KvKey KernelValue)) (identity : KernelQuotaIdentity) :
    windowCreations (w.commit label writes) identity
      = (label.createdIn identity).toList ++ windowCreations w identity := by
  unfold windowCreations World.commit
  cases h : label.createdIn identity with
  | none | some createdAtMs => simp [h]

variable {createdAtMs : ℤ}

theorem windowCreations_suffix (h : w.Le w') (identity : KernelQuotaIdentity) :
    windowCreations w identity <:+ windowCreations w' identity := by
  obtain ⟨new, hnew⟩ := h.events
  unfold windowCreations
  rw [← hnew, List.filterMap_append]
  exact List.suffix_append _ _

section History

theorem createdIn_fresh (h : (windowCreations (w.commit label writes) identity).Nodup)
    (createdAtMs : ℤ) (hcr : label.createdIn identity = some createdAtMs) :
    createdAtMs ∉ windowCreations w identity := by
  rw [windowCreations_commit, hcr] at h
  exact (List.nodup_cons.mp h).1

theorem ledgerOf_exact (hw : KernelRun clockOk w) (hdist : (windowCreations w identity).Nodup) :
    (ledgerOf w.store identity).Exact (windowCreations w identity) := by
  refine Run.invariant (P := fun w => (windowCreations w identity).Nodup →
    (ledgerOf w.store identity).Exact (windowCreations w identity)) ?_ ?_ ?_ hw hdist
  · rintro _ t rfl -
    refine ⟨fun id state hne => absurd rfl hne, ?_, ?_, ?_⟩ <;> rintro _ ⟨⟩
  · exact fun w t ih _ => ih
  · -- creation times that are distinct after the commit were distinct before it
    intro w label writes _ ih hstep hnd
    have hsfx := windowCreations_suffix (w.le_commit label writes) identity
    have hbef := hnd.sublist hsfx.sublist
    rw [windowCreations_commit]
    exact (ih hbef).step (hstep.ledger_step identity) (createdIn_fresh hnd)

theorem window_counts_of_exact (h : (ledgerOf kv identity).Exact ids)
    (hwin : windowOf kv identity = some window) :
    window.reservedRequests = rowCount kv identity window.createdAtMs .reserved ∧
      window.usageRequests = rowCount kv identity window.createdAtMs .committed := by
  have hled : (ledgerOf kv identity).window = some window.ledger := by
    rw [ledgerOf, hwin]
    rfl
  exact ⟨h.reserved _ hled, h.usage _ hled⟩

theorem rowCount_pos {requestId : String}
    (h : rowOf kv (.reservation identity createdAtMs requestId) = some row) :
    0 < rowCount kv identity row.windowCreatedAtMs row.state :=
  Kv.count_pos (rowOf_eq_some.mp h) (by simp [isRow])

end History

/-- **Windows count their reservations.**  If the windows of a scope have distinct creation times,
every window that is ever stored counts its rows: the reserved ones and the committed ones.  While a
row of the window is reserved, its settlement therefore finds a reservation to take back. -/
theorem window_counts_rows {sys : KernelSystem} (h : KernelReachable clockOk sys)
    {identity : KernelQuotaIdentity} (hdist : (windowCreations sys.world identity).Nodup)
    {n : ℕ} (hn : n ≤ sys.world.length) {window : KernelQuotaWindowV2}
    (hwin : windowOf (sys.world.storeAt n) identity = some window) :
    window.reservedRequests = rowCount (sys.world.storeAt n) identity window.createdAtMs .reserved ∧
      window.usageRequests = rowCount (sys.world.storeAt n) identity window.createdAtMs .committed ∧
      ∀ createdAtMs requestId row,
        rowOf (sys.world.storeAt n) (.reservation identity createdAtMs requestId) = some row →
        row.state = .reserved → row.windowCreatedAtMs = window.createdAtMs →
          ¬ window.reservedRequests < 1 ∧ ∀ present terminalState reason nowMs,
            decideKernelQuotaSettlement row (some window) present terminalState reason nowMs
              = .settle (settledKernelReservationRow row terminalState reason nowMs)
                (some (settledWindow window terminalState nowMs)) := by
  obtain ⟨u, hu, hle, rfl⟩ := (kernelReachable_run h).exists_storeAt hn
  rw [hle.storeAt_length_eq] at hwin ⊢
  have hexc := ledgerOf_exact hu (hdist.sublist (windowCreations_suffix hle identity).sublist)
  obtain ⟨hres, husg⟩ := window_counts_of_exact hexc hwin
  refine ⟨hres, husg, fun createdAtMs requestId row hrow hsta hcr => ?_⟩
  have hpos := rowCount_pos hrow
  rw [hsta, hcr] at hpos
  have hnot : ¬ window.reservedRequests < 1 := by omega
  refine ⟨hnot, fun present terminalState reason nowMs => ?_⟩
  simp [decideKernelQuotaSettlement, hcr, hnot]

/-- A limit of two requests, two reservations, and the first of them committed. -/
def limitedSchedule : List (Action (ℕ × KernelOperation)) :=
  [.spawn (2, .setPolicy (.org "acme") 2 {}), .act 0 4,
    .spawn (2, .reserveOrg "acme" "request-1" "/v1/responses"), .act 0 4,
    .spawn (2, .reserveOrg "acme" "request-2" "/v1/responses"), .act 0 4,
    .spawn (2, .launchSettlement ⟨.org "acme", 0, "request-1", "/v1/responses"⟩ .committed
      "completed"), .act 0 9]

theorem window_counts_rows_limited : ∃ window,
      windowOf ((afterSchedule limitedSchedule).world.storeAt 5) (.org "acme") = some window ∧
      window.reservedRequests = 1 ∧ window.usageRequests = 1 ∧
      window.reservedRequests = rowCount ((afterSchedule limitedSchedule).world.storeAt 5)
        (.org "acme") window.createdAtMs .reserved ∧
      window.usageRequests = rowCount ((afterSchedule limitedSchedule).world.storeAt 5)
        (.org "acme") window.createdAtMs .committed := by
  have hrch : KernelReachable Eq (afterSchedule limitedSchedule) :=
    afterSchedule_reachable (fun _ => rfl) limitedSchedule
  have hcnts : (windowOf ((afterSchedule limitedSchedule).world.storeAt 5) (.org "acme")).map
      (fun window => (window.reservedRequests, window.usageRequests)) = some (1, 1) := by
    decide
  obtain ⟨window, hwin, hone⟩ := Option.map_eq_some_iff.mp hcnts
  obtain ⟨hres, husg, -⟩ := window_counts_rows hrch (by decide)
    (show 5 ≤ _ by decide) hwin
  exact ⟨window, hwin, congrArg Prod.fst hone, congrArg Prod.snd hone, hres, husg⟩

/-! ### The limit -/

/-- Whenever the window of the scope is the one created at `createdAtMs`, the limit in force is
`limit`. -/
def LimitDuring (w : KernelWorld) (identity : KernelQuotaIdentity) (createdAtMs limit : ℤ) : Prop :=
  ∀ n ≤ w.length, ∀ window, windowOf (w.storeAt n) identity = some window →
    window.createdAtMs = createdAtMs → limitOf (w.storeAt n) identity = some limit

theorem LimitDuring.of_le (h : LimitDuring w' identity createdAtMs limit) (hle : w.Le w') :
    LimitDuring w identity createdAtMs limit := by
  intro n hn
  rw [← hle.storeAt_eq hn]
  exact h n (hn.trans hle.length_le)

theorem ledgerOf_within (hw : KernelRun clockOk w) (hdist : (windowCreations w identity).Nodup)
    (hnn : 0 ≤ limit) (hlmt : LimitDuring w identity createdAtMs limit) :
    (ledgerOf w.store identity).Within createdAtMs limit := by
  refine Run.invariant (P := fun w => (windowCreations w identity).Nodup →
    LimitDuring w identity createdAtMs limit →
      (ledgerOf w.store identity).Within createdAtMs limit) ?_ ?_ ?_ hw hdist hlmt
  · rintro _ t rfl - -
    exact hnn
  · exact fun w t ih _ => ih
  · intro w label writes hw ih hstep hnd hduring
    have hle := w.le_commit label writes
    have hbef := hnd.sublist (windowCreations_suffix hle identity).sublist
    refine (ih hbef (hduring.of_le hle)).step (ledgerOf_exact hw hbef)
      (hstep.ledger_step identity) (createdIn_fresh hnd) fun window hwin hcr => ?_
    obtain ⟨stored, hst, rfl⟩ := Option.map_eq_some_iff.mp hwin
    have haft := hduring (w.commit label writes).length le_rfl stored
    rw [World.storeAt_length] at haft
    exact haft hst hcr

/-- **No window exceeds its limit.**  If a limit is in force during the whole life of a window, then
its usage and its reservations never exceed the limit together, and not more requests than the limit
are ever committed in it, even after another window has taken its place. -/
theorem window_within_limit {sys : KernelSystem} (h : KernelReachable clockOk sys)
    {identity : KernelQuotaIdentity} (hdist : (windowCreations sys.world identity).Nodup)
    {m : ℕ} (hm : m ≤ sys.world.length) {window : KernelQuotaWindowV2}
    (hwin : windowOf (sys.world.storeAt m) identity = some window) {limit : ℤ}
    (hlmt : LimitDuring sys.world identity window.createdAtMs limit) {n : ℕ}
    (hn : n ≤ sys.world.length) : (∀ found, windowOf (sys.world.storeAt n) identity = some found →
      found.createdAtMs = window.createdAtMs →
        found.usageRequests + found.reservedRequests ≤ limit) ∧
    (rowCount (sys.world.storeAt n) identity window.createdAtMs .committed : ℤ) ≤ limit := by
  have hnn := limitOf_nonneg (hlmt m hm window hwin rfl)
  obtain ⟨u, hu, hle, rfl⟩ := (kernelReachable_run h).exists_storeAt hn
  rw [hle.storeAt_length_eq]
  have hnd := hdist.sublist (windowCreations_suffix hle identity).sublist
  have hwth := ledgerOf_within hu hnd hnn (hlmt.of_le hle)
  change (rowCount u.store identity window.createdAtMs .reserved
    + rowCount u.store identity window.createdAtMs .committed : ℤ) ≤ limit at hwth
  constructor
  · intro found hfd hcr
    obtain ⟨hres, husg⟩ := window_counts_of_exact (ledgerOf_exact hu hnd) hfd
    rw [hcr] at hres husg
    omega
  · omega

theorem window_within_limit_limited :
    (rowCount ((afterSchedule limitedSchedule).world.storeAt 5) (.org "acme") 0 .committed : ℤ)
      ≤ 2 := by
  have hrch : KernelReachable Eq (afterSchedule limitedSchedule) :=
    afterSchedule_reachable (fun _ => rfl) limitedSchedule
  have hst : (windowOf ((afterSchedule limitedSchedule).world.storeAt 5) (.org "acme")).map
      createdAtMs = some 0 := by
    decide
  obtain ⟨window, hwin, hcr⟩ := Option.map_eq_some_iff.mp hst
  have hfrc : ∀ n < 6,
      (windowOf ((afterSchedule limitedSchedule).world.storeAt n) (.org "acme")).isSome = true →
        limitOf ((afterSchedule limitedSchedule).world.storeAt n) (.org "acme") = some 2 := by
    decide
  have hlmt : LimitDuring (afterSchedule limitedSchedule).world (.org "acme") window.createdAtMs
      2 := by
    intro n hn found hfd _
    refine hfrc n (Nat.lt_succ_of_le hn) ?_
    rw [hfd]
    rfl
  have hbd := (window_within_limit hrch (by decide) (show 5 ≤ _ by decide) hwin hlmt
    (show 5 ≤ _ by decide)).2
  rwa [hcr] at hbd

end UbqGateway.Kernel
