import UbqGateway.Kernel.Closure
import UbqGateway.Kernel.Counts
import UbqGateway.Kernel.NativeAuthorityKernel

/-!
# The two drivers without other clients

What the operations of the owner of a reservation do to a store when nothing else runs
(`ownerWrites`), and what a reclaim does, which settles the first expired reservation of its window
(`reclaimLoop_alone`).

`Consistent` is what the operations rely on and keep: every window and every row is accepted by its
validator, and a window counts its reserved rows.
-/

namespace UbqGateway.Kernel

/-! ### Consistent stores -/

/-- Every window and row of the store is well formed, and a window counts its reserved rows. -/
structure Consistent (kv : KernelKv) : Prop where
  window : ∀ identity value, kv.value (.window identity) = some value →
    Accepted (.window identity) value
  row : ∀ identity createdAtMs requestId value,
    kv.value (.reservation identity createdAtMs requestId) = some value →
      Accepted (.reservation identity createdAtMs requestId) value
  counts : ∀ identity window, windowOf kv identity = some window →
    window.reservedRequests = rowCount kv identity window.createdAtMs .reserved
  bounded : ∀ identity window, windowOf kv identity = some window →
    window.usageRequests + window.reservedRequests ≤ maxSafeInteger

namespace Consistent

theorem value_window (h : Consistent kv) (identity : KernelQuotaIdentity) :
    kv.value (.window identity) = (windowOf kv identity).map .window := by
  cases hval : kv.value (.window identity) with
  | none => rw [windowOf, hval]; rfl
  | some value =>
    obtain ⟨window, rfl, -⟩ := h.window identity value hval
    rw [windowOf, hval]
    rfl

theorem normalizeWindow (h : Consistent kv) (identity : KernelQuotaIdentity) :
    normalizeKernelQuotaWindowV2 (kv.value (.window identity)) identity = windowOf kv identity := by
  cases hval : kv.value (.window identity) with
  | none => rw [windowOf, hval]; rfl
  | some value =>
    obtain ⟨window, rfl, hwin⟩ := h.window identity value hval
    rw [windowOf, hval]
    exact hwin

variable {window : KernelQuotaWindowV2}

theorem validWindow (h : Consistent kv) (hwin : windowOf kv identity = some window) :
    Kernel.validWindow window identity = true :=
  accepted_window_iff.mp (h.window identity _ (windowOf_eq_some.mp hwin))

theorem ne_legacyWindow (h : Consistent kv) (identity : KernelQuotaIdentity)
    (window : KernelQuotaWindowV2) : kv.value (.window identity) ≠ some (.legacyWindow window) := by
  rw [h.value_window]
  cases windowOf kv identity <;> simp

theorem value_row (h : Consistent kv) (identity : KernelQuotaIdentity) (createdAtMs : ℤ)
    (requestId : String) : kv.value (.reservation identity createdAtMs requestId)
      = (rowOf kv (.reservation identity createdAtMs requestId)).map .reservation := by
  cases hval : kv.value (.reservation identity createdAtMs requestId) with
  | none => rw [rowOf, hval]; rfl
  | some value =>
    obtain ⟨row, rfl, -⟩ := h.row identity createdAtMs requestId value hval
    rw [rowOf, hval]
    rfl

variable {row : KernelQuotaReservationRowV2}

theorem row_spec (h : Consistent kv)
    (hrow : rowOf kv (.reservation identity createdAtMs requestId) = some row) :
    row.key = .reservation identity createdAtMs requestId ∧
      validReservation row row.identity = true ∧
      normalizeKernelQuotaReservationRowV2 (some (.reservation row)) identity = some row ∧
      requireKernelReservationRow (.reservation identity createdAtMs requestId) (.reservation row)
        identity createdAtMs = .ok row := by
  obtain ⟨_, hval, hnrm, hrequire⟩ := h.row identity createdAtMs requestId _
    (rowOf_eq_some.mp hrow)
  cases hval
  have hvld := validReservation_of_normalized hnrm
  obtain ⟨-, hcr, other, otherAtMs, hkey⟩ := requireKernelReservationRow_eq_ok hrequire
  obtain ⟨-, -, hid⟩ := KvKey.reservation.inj hkey
  refine ⟨?_, hvld, hnrm, hrequire⟩
  have hidt : row.identity = identity := by
    simp only [normalizeKernelQuotaReservationRowV2] at hnrm
    split_ifs at hnrm with hvld'
    exact (validReservation_iff.mp hvld').1
  rw [KernelQuotaReservationRowV2.key, hidt, hcr, ← hid]

theorem normalizeRow (h : Consistent kv) (request : KernelQuotaReservationIdentity) :
    normalizeKernelQuotaReservationRowV2 (kv.value request.key) request.identity
      = rowOf kv request.key := by
  cases hrow : rowOf kv request.key with
  | none =>
    have hval := h.value_row request.identity request.windowCreatedAtMs request.requestId
    change kv.value request.key = (rowOf kv request.key).map .reservation at hval
    rw [hval, hrow]
    rfl
  | some row =>
    rw [rowOf_eq_some.mp hrow]
    exact (h.row_spec hrow).2.2.1

theorem one_le_reservedRequests (h : Consistent kv)
    (hrow : rowOf kv (.reservation identity createdAtMs requestId) = some row)
    (hsta : row.state = .reserved) (hwin : windowOf kv identity = some window)
    (hcr : window.createdAtMs = row.windowCreatedAtMs) : 1 ≤ window.reservedRequests := by
  rw [h.counts identity window hwin]
  have hpos : 0 < rowCount kv identity window.createdAtMs .reserved := by
    refine Kv.count_pos (rowOf_eq_some.mp hrow) ?_
    simp [isRow, hcr, hsta]
  omega

end Consistent

/-! ### What an operation writes -/

/-- Nothing speaks against settling the row into `terminalState` for this request. -/
def Settles (request : KernelQuotaReservationIdentity) (terminalState : TerminalState)
    (row : KernelQuotaReservationRowV2) : Prop :=
  kernelReservationPrecondition row request.requestId request.route request.windowCreatedAtMs
    terminalState = none

instance (request : KernelQuotaReservationIdentity) (terminalState : TerminalState)
    (row : KernelQuotaReservationRowV2) : Decidable (Settles request terminalState row) :=
  inferInstanceAs (Decidable (_ = _))

/-- The writes that settle a row in its window, if that is the stored one. -/
def settledWindowWrites (kv : KernelKv) (row : KernelQuotaReservationRowV2)
    (terminalState : TerminalState) (nowMs : ℤ) : List (Write KvKey KernelValue) :=
  match windowOf kv row.identity with
  | some window =>
    if window.createdAtMs = row.windowCreatedAtMs then
      [.set (.window row.identity) (.window (settledWindow window terminalState nowMs))]
    else []
  | none => []

def settleWrites (kv : KernelKv) (row : KernelQuotaReservationRowV2)
    (terminalState : TerminalState) (reason : String) (nowMs : ℤ) :
    List (Write KvKey KernelValue) :=
  settledWindowWrites kv row terminalState nowMs ++
    [.set row.key (.reservation (settledKernelReservationRow row terminalState reason nowMs))]

def leasedRow (row : KernelQuotaReservationRowV2) (intent : Option TerminalState) (nowMs : ℤ) :
    KernelQuotaReservationRowV2 :=
  { row with terminalIntent := intent, leaseExpiresAtMs := nowMs + reservationLeaseMs }

inductive OwnerAction
  | intent (terminalState : TerminalState)
  | settle (terminalState : TerminalState) (reason : String)
  | renew
deriving DecidableEq

/-- The writes of the owner's action, `none` if it finds nothing to write. -/
def ownerWrites (kv : KernelKv) (request : KernelQuotaReservationIdentity) (nowMs : ℤ) :
    OwnerAction → Option (List (Write KvKey KernelValue))
  | .intent terminalState =>
    match rowOf kv request.key with
    | none => none
    | some row =>
      if Settles request terminalState row then
        some [.set request.key (.reservation (leasedRow row (some terminalState) nowMs))]
      else none
  | .settle terminalState reason =>
    match rowOf kv request.key with
    | none => none
    | some row =>
      if Settles request terminalState row then
        some (settleWrites kv row terminalState reason nowMs)
      else none
  | .renew =>
    match rowOf kv request.key with
    | none => none
    | some row =>
      if row.route = request.route ∧ row.state = .reserved then
        some [.set request.key (.reservation (leasedRow row row.terminalIntent nowMs))]
      else none

/-- The store after optional writes. -/
def applyIf (kv : KernelKv) : Option (List (Write KvKey KernelValue)) → KernelKv
  | none => kv
  | some writes => kv.apply writes

/-! ### Instructions alone -/

section Instructions

@[simp]
theorem alone_kvGet_bind (key : KvKey) (f : Option (Entry KernelValue) → KernelM β) :
    alone t (kvGet key >>= f) kv = alone t (f (kv.get key)) kv := alone_bind_ok rfl

@[simp]
theorem alone_kvGets_bind (keys : List KvKey)
    (f : (KvKey → Option (Entry KernelValue)) → KernelM β) :
    alone t (kvGets keys >>= f) kv = alone t (f kv.get) kv := alone_bind_ok rfl

@[simp]
theorem alone_dateNow_bind (f : ℤ → KernelM β) :
    alone t (dateNow >>= f) kv = alone t (f t) kv := alone_bind_ok rfl

@[simp]
theorem alone_pure_bind (a : α) (f : α → KernelM β) :
    alone t (pure a >>= f) kv = alone t (f a) kv := alone_bind_ok rfl

@[simp]
theorem alone_orThrow_ok_bind (a : α) (f : α → KernelM β) :
    alone t (orThrow (.ok a) >>= f) kv = alone t (f a) kv := alone_bind_ok rfl

@[simp]
theorem alone_orThrow_error_bind (e : String) (f : α → KernelM β) :
    alone t (orThrow (.error e) >>= f) kv = (.error e, kv) := alone_bind_error rfl

theorem alone_kvCommit_bind (h : ∀ c ∈ checks, c.entry = kv.get c.key) (label : KernelCommit)
    (writes : List (Write KvKey KernelValue)) (f : Bool → KernelM β) :
    alone t (kvCommit label checks writes >>= f) kv = alone t (f true) (kv.apply writes) :=
  alone_bind_ok (if_pos (Kv.passesAll_of_current h))

theorem alone_kvNext_bind (p : KvKey → Bool) (cursor : Cursor KvKey)
    (f : Cursor KvKey × Option (KvKey × Entry KernelValue) → KernelM β) :
    alone t (kvNext p cursor >>= f) kv
      = alone t (f (⟨((kv.firstAfter p cursor.after).map Prod.fst).or cursor.after, some 0⟩,
          kv.firstAfter p cursor.after)) kv := alone_bind_ok rfl

end Instructions

/-! ### The owner of a reservation, against the key-value store -/

section Owner

variable (request : KernelQuotaReservationIdentity) (nowMs : ℤ)

theorem kernelReservationPrecondition_ne_conflict {requestId route : String} {windowCreatedAtMs : ℤ}
    {terminalState : TerminalState} {outcome : KernelReservationSettlement}
    (h : kernelReservationPrecondition row requestId route windowCreatedAtMs terminalState
      = some outcome) : outcome ≠ .conflict := by
  unfold kernelReservationPrecondition at h
  split_ifs at h <;> obtain rfl := Option.some.inj h <;> decide

section

variable (h : Consistent kv) (terminalState : TerminalState)

include h terminalState

theorem decideKernelQuotaTerminalIntent_spec :
    (∃ row, rowOf kv request.key = some row ∧ Settles request terminalState row ∧
      decideKernelQuotaTerminalIntent request (kv.value request.key) terminalState nowMs
        = .intent (leasedRow row (some terminalState) nowMs) (nowMs + reservationLeaseMs)) ∨
    ∃ outcome, outcome ≠ .conflict ∧ ownerWrites kv request nowMs (.intent terminalState) = none ∧
      decideKernelQuotaTerminalIntent request (kv.value request.key) terminalState nowMs
        = .unchanged outcome := by
  unfold decideKernelQuotaTerminalIntent ownerWrites
  rw [h.normalizeRow request]
  cases hrow : rowOf kv request.key with
  | none =>
    refine .inr ⟨_, ?_, rfl, rfl⟩
    split_ifs <;> decide
  | some row =>
    cases hpre : kernelReservationPrecondition row request.requestId request.route
        request.windowCreatedAtMs terminalState with
    | none =>
      refine .inl ⟨row, rfl, hpre, ?_⟩
      simp only [hpre]
      rfl
    | some outcome =>
      refine .inr ⟨outcome, kernelReservationPrecondition_ne_conflict hpre, ?_, ?_⟩
      · simp [Settles, hpre]
      · simp only [hpre]

theorem intentUnlocked_alone :
    (∃ writes lease, ownerWrites kv request nowMs (.intent terminalState) = some writes ∧
      alone nowMs (recordKernelReservationTerminalIntentUnlocked request terminalState nowMs) kv
        = (.ok (.ok lease), kv.apply writes)) ∨
    ∃ outcome, outcome ≠ .conflict ∧ ownerWrites kv request nowMs (.intent terminalState) = none ∧
      alone nowMs (recordKernelReservationTerminalIntentUnlocked request terminalState nowMs) kv
        = (.ok (.error outcome), kv) := by
  have hval : valueOf (kv.get request.key) = kv.value request.key := rfl
  simp only [recordKernelReservationTerminalIntentUnlocked, alone_kvGet_bind, hval]
  rcases decideKernelQuotaTerminalIntent_spec request nowMs h terminalState with
    ⟨row, hrow, hsts, hplan⟩ | ⟨outcome, houtc, hno, hplan⟩
  · have hwrs : ownerWrites kv request nowMs (.intent terminalState)
        = some [.set request.key (.reservation (leasedRow row (some terminalState) nowMs))] := by
      simp [ownerWrites, hrow, hsts]
    refine .inl ⟨_, nowMs + reservationLeaseMs, hwrs, ?_⟩
    rw [hplan]
    exact alone_kvCommit_bind (by simp) _ _ _
  · refine .inr ⟨outcome, houtc, hno, ?_⟩
    rw [hplan]
    rfl

/-- Alone, the loop writes what the owner is to write. -/
theorem recordTerminalIntentLoop_alone (n : ℕ) :
    (alone nowMs (recordTerminalIntentLoop request terminalState (n + 1)) kv).2
      = applyIf kv (ownerWrites kv request nowMs (.intent terminalState)) := by
  rcases intentUnlocked_alone request nowMs h terminalState with
    ⟨writes, lease, hwrs, hrun⟩ | ⟨outcome, houtc, hno, hrun⟩
  · have hatt : alone nowMs (dateNow >>= attemptRecordKernelReservationTerminalIntent request
        terminalState) kv = (.ok (some (some lease)), kv.apply writes) := by
      rw [alone_dateNow_bind]
      exact alone_bind_ok hrun
    rw [recordTerminalIntentLoop, alone_bind_ok (alone_tryCatch_ok hatt), hwrs]
    rfl
  · rw [hno]
    -- nothing is written, whether the outcome is answered or thrown and caught
    have hatt : alone nowMs (tryCatch (dateNow >>= attemptRecordKernelReservationTerminalIntent
        request terminalState) fun _ => return none) kv
        = (.ok (if outcome = .settled then some none else none), kv) := by
      have hbody : alone nowMs (dateNow >>= attemptRecordKernelReservationTerminalIntent request
          terminalState) kv = alone nowMs (attemptRecordKernelReservationTerminalIntent request
            terminalState nowMs) kv := alone_dateNow_bind _
      cases outcome with
      | settled => exact alone_tryCatch_ok (hbody.trans (alone_bind_ok hrun))
      | conflict => exact absurd rfl houtc
      | _ => exact alone_tryCatch_error (hbody.trans (alone_bind_ok hrun))
    split_ifs at hatt with hset
    · rw [recordTerminalIntentLoop, alone_bind_ok hatt]
      rfl
    · induction n with
      | zero =>
        rw [recordTerminalIntentLoop, alone_bind_ok hatt]
        rfl
      | succ _ ih =>
        rw [recordTerminalIntentLoop, alone_bind_ok hatt]
        exact ih

end

/-! ### Settling -/

section

variable (h : Consistent kv)

include h

theorem decideKernelQuotaSettlement_spec (terminalState : TerminalState)
    (reason : String) (hrow : rowOf kv request.key = some row) (hsta : row.state = .reserved) :
    ∃ window, decideKernelQuotaSettlement row (windowOf kv request.identity)
        (kv.value (.window request.identity)).isSome terminalState reason nowMs
      = .settle (settledKernelReservationRow row terminalState reason nowMs) window ∧
      (window.map fun window => Write.set (.window request.identity) (.window window)).toList ++
        [.set request.key (.reservation (settledKernelReservationRow row terminalState reason
          nowMs))] = settleWrites kv row terminalState reason nowMs := by
  obtain ⟨hkey, -⟩ := h.row_spec hrow
  obtain ⟨hidt, -, -⟩ := KvKey.reservation.inj hkey
  unfold decideKernelQuotaSettlement settleWrites settledWindowWrites
  rw [h.value_window, hidt, hkey]
  cases hwin : windowOf kv request.identity with
  | none => exact ⟨none, rfl, rfl⟩
  | some window =>
    dsimp only
    by_cases hcr : window.createdAtMs = row.windowCreatedAtMs
    · have hone := h.one_le_reservedRequests hrow hsta hwin hcr
      refine ⟨some (settledWindow window terminalState nowMs), ?_, ?_⟩
      · rw [if_neg (not_not.mpr hcr), if_neg (not_lt.mpr hone)]
      · rw [if_pos hcr]
        rfl
    · refine ⟨none, if_pos hcr, ?_⟩
      rw [if_neg hcr]
      rfl

/-- Alone, a settlement writes what the owner is to write, or is refused. -/
theorem settleUnlocked_alone (fuel : ℕ) (label : KernelCommit)
    (terminalState : TerminalState) (reason : String) :
    (∃ row, rowOf kv request.key = some row ∧ Settles request terminalState row ∧
      alone nowMs (settleKernelReservationUnlocked fuel label request terminalState reason nowMs) kv
        = (.ok .settled, kv.apply (settleWrites kv row terminalState reason nowMs))) ∨
    ∃ outcome, outcome ≠ .conflict ∧
      ownerWrites kv request nowMs (.settle terminalState reason) = none ∧
      alone nowMs (settleKernelReservationUnlocked fuel label request terminalState reason nowMs) kv
        = (.ok outcome, kv) := by
  have hval : valueOf (kv.get request.key) = kv.value request.key := rfl
  have hwin : valueOf (kv.get (.window request.identity))
      = kv.value (.window request.identity) := rfl
  have hprs : (kv.get (.window request.identity)).isSome
      = (kv.value (.window request.identity)).isSome := by
    rw [Kv.value, Option.isSome_map]
  have hreconcile := reconcileKernelQuotaWindowReservations_eq (h.ne_legacyWindow request.identity)
    fuel request.identity
  simp only [settleKernelReservationUnlocked, alone_kvGets_bind, hval, h.normalizeRow request]
  unfold ownerWrites
  cases hrow : rowOf kv request.key with
  | none =>
    refine .inr ⟨_, ?_, rfl, rfl⟩
    split_ifs <;> decide
  | some row =>
    cases hpre : kernelReservationPrecondition row request.requestId request.route
        request.windowCreatedAtMs terminalState with
    | some outcome =>
      refine .inr ⟨outcome, kernelReservationPrecondition_ne_conflict hpre, ?_, ?_⟩
      · simp [Settles, hpre]
      · simp only [hpre]
        rfl
    | none =>
      obtain ⟨-, hsta, -⟩ := kernelReservationPrecondition_eq_none.mp hpre
      obtain ⟨window, hplan, hwrs⟩ := decideKernelQuotaSettlement_spec request nowMs h
        terminalState reason hrow hsta
      refine .inl ⟨row, rfl, hpre, ?_⟩
      simp only [hpre]
      rw [hreconcile, alone_pure_bind, hwin, h.normalizeWindow, hprs, hplan]
      dsimp only
      rw [alone_kvCommit_bind (by simp), hwrs]
      rfl

/-- **`settleKernelReservation` alone.** -/
theorem settleLoop_alone (fuel : ℕ) (terminalState : TerminalState) (reason : String) (n : ℕ) :
    (alone nowMs (settleLoop fuel request terminalState reason (n + 1)) kv).2
      = applyIf kv (ownerWrites kv request nowMs (.settle terminalState reason)) := by
  have hbody : alone nowMs (dateNow >>= settleKernelReservationUnlocked fuel (.settle request)
      request terminalState reason) kv = alone nowMs (settleKernelReservationUnlocked fuel
        (.settle request) request terminalState reason nowMs) kv := alone_dateNow_bind _
  rcases settleUnlocked_alone request nowMs h fuel (.settle request) terminalState reason with
    ⟨row, hrow, hsts, hrun⟩ | ⟨outcome, -, hno, hrun⟩
  · have hwrs : ownerWrites kv request nowMs (.settle terminalState reason)
        = some (settleWrites kv row terminalState reason nowMs) := by
      simp [ownerWrites, hrow, hsts]
    rw [settleLoop, alone_bind_ok (alone_tryCatch_ok (hbody.trans hrun)), hwrs]
    rfl
  · rw [hno]
    have hatt : alone nowMs (tryCatch (dateNow >>= settleKernelReservationUnlocked fuel
        (.settle request) request terminalState reason) fun _ => return .conflict) kv
        = (.ok outcome, kv) := alone_tryCatch_ok (hbody.trans hrun)
    by_cases hset : outcome = .settled
    · rw [settleLoop, alone_bind_ok hatt, if_pos hset]
      rfl
    · induction n with
      | zero =>
        rw [settleLoop, alone_bind_ok hatt, if_neg hset]
        rfl
      | succ _ ih =>
        rw [settleLoop, alone_bind_ok hatt, if_neg hset]
        exact ih

/-! ### Renewing -/

theorem decideKernelQuotaRenewal_spec :
    (∃ row, rowOf kv request.key = some row ∧ row.route = request.route ∧ row.state = .reserved ∧
      decideKernelQuotaRenewal request (kv.value request.key) nowMs
        = .ok (leasedRow row row.terminalIntent nowMs, nowMs + reservationLeaseMs)) ∨
    ∃ e, ownerWrites kv request nowMs .renew = none ∧
      decideKernelQuotaRenewal request (kv.value request.key) nowMs = .error e := by
  unfold decideKernelQuotaRenewal ownerWrites
  rw [h.normalizeRow request]
  cases hrow : rowOf kv request.key with
  | none => exact .inr ⟨_, rfl, rfl⟩
  | some row =>
    obtain ⟨hkey, -⟩ := h.row_spec hrow
    obtain ⟨-, hcr, hid⟩ := KvKey.reservation.inj hkey
    have hmat : kernelReservationMatchesRequest (some row) request.requestId request.route
        request.windowCreatedAtMs = true ↔ row.route = request.route := by
      rw [kernelReservationMatchesRequest_some]
      simp [hcr, hid]
    dsimp only
    simp only [hmat]
    by_cases hrt : row.route = request.route
    · by_cases hsta : row.state = .reserved
      · refine .inl ⟨row, rfl, hrt, hsta, ?_⟩
        rw [if_pos hrt, if_neg (not_not.mpr hsta)]
        rfl
      · refine .inr ⟨"Kernel quota reservation was already " ++ row.state.text,
          if_neg fun h => hsta h.2, ?_⟩
        rw [if_pos hrt, if_pos hsta]
    · exact .inr ⟨_, if_neg fun h => hrt h.1, if_neg hrt⟩

/-- **`renewKernelReservation` alone.** -/
theorem renewLoop_alone (n : ℕ) : (alone nowMs (renewLoop request (n + 1)) kv).2
      = applyIf kv (ownerWrites kv request nowMs .renew) := by
  have hval : valueOf (kv.get request.key) = kv.value request.key := rfl
  rcases decideKernelQuotaRenewal_spec request nowMs h with
    ⟨row, hrow, hrt, hsta, hplan⟩ | ⟨e, hno, hplan⟩
  · have hwrs : ownerWrites kv request nowMs .renew
        = some [.set request.key (.reservation (leasedRow row row.terminalIntent nowMs))] := by
      simp [ownerWrites, hrow, hrt, hsta]
    have hatt : alone nowMs (attemptRenewKernelReservation request) kv
        = (.ok (some (nowMs + reservationLeaseMs)),
          kv.apply [.set request.key (.reservation (leasedRow row row.terminalIntent nowMs))]) := by
      simp only [attemptRenewKernelReservation, alone_kvGet_bind, alone_dateNow_bind, hval, hplan,
        alone_orThrow_ok_bind]
      exact alone_kvCommit_bind (by simp) _ _ _
    rw [renewLoop, alone_bind_ok (alone_tryCatch_ok hatt), hwrs]
    rfl
  · rw [hno]
    have hatt : alone nowMs (attemptRenewKernelReservation request) kv = (.error e, kv) := by
      simp only [attemptRenewKernelReservation, alone_kvGet_bind, alone_dateNow_bind, hval, hplan,
        alone_orThrow_error_bind]
    have hcaught : alone nowMs (tryCatch (attemptRenewKernelReservation request)
        fun _ => return none) kv = (.ok none, kv) := alone_tryCatch_error hatt
    induction n with
    | zero =>
      rw [renewLoop, alone_bind_ok hcaught]
      rfl
    | succ _ ih =>
      rw [renewLoop, alone_bind_ok hcaught]
      exact ih

end

end Owner

/-! ### Reclaiming one reservation, against the key-value store -/

/-- The reason with which the key-value driver settles an expired reservation. -/
def reclaimReason (terminalState : TerminalState) : String :=
  if terminalState = .committed then "completed" else "lease_expired"

/-- The row has expired and will be settled into `target`. -/
def Expired (nowMs : ℤ) (row : KernelQuotaReservationRowV2) (target : TerminalState) : Prop :=
  decideKernelQuotaReclaim row nowMs = some target

/-- The row is the first expired one of its window, in the order of the keys. -/
structure FirstExpired (kv : KernelKv) (identity : KernelQuotaIdentity) (createdAtMs nowMs : ℤ)
    (row : KernelQuotaReservationRowV2) (target : TerminalState) : Prop where
  stored : rowOf kv (.reservation identity createdAtMs row.requestId) = some row
  expired : Expired nowMs row target
  first : ∀ requestId other otherTarget,
    rowOf kv (.reservation identity createdAtMs requestId) = some other →
      Expired nowMs other otherTarget → row.key ≤ .reservation identity createdAtMs requestId

/-- No row of the window has expired. -/
def NoneExpired (kv : KernelKv) (identity : KernelQuotaIdentity) (createdAtMs nowMs : ℤ) : Prop :=
  ∀ requestId row target, rowOf kv (.reservation identity createdAtMs requestId) = some row →
    ¬ Expired nowMs row target

theorem Expired.settles (h : Expired nowMs row target) (identity : KernelQuotaIdentity) :
    Settles ⟨identity, row.windowCreatedAtMs, row.requestId, row.route⟩ target row := by
  unfold Expired decideKernelQuotaReclaim at h
  split_ifs at h with hlive
  rw [not_or, not_not] at hlive
  refine kernelReservationPrecondition_eq_none.mpr ⟨⟨rfl, rfl, rfl⟩, hlive.1, ?_⟩
  cases hint : row.terminalIntent with
  | none => exact .inl rfl
  | some intent =>
    rw [hint, Option.getD_some] at h
    exact .inr h

theorem settleExpiredLoop_alone (h : Consistent kv) (fuel : ℕ) (listed : Entry KernelValue)
    (hrow : rowOf kv (.reservation identity row.windowCreatedAtMs row.requestId) = some row)
    (hexp : Expired nowMs row target) : alone nowMs (settleExpiredLoop fuel
        ⟨identity, row.windowCreatedAtMs, row.requestId, row.route⟩ listed target nowMs
        maxKvRetries) kv
      = (.ok true, kv.apply (settleWrites kv row target (reclaimReason target) nowMs)) := by
  have hsts := hexp.settles identity
  rcases settleUnlocked_alone ⟨identity, row.windowCreatedAtMs, row.requestId, row.route⟩ nowMs h
      fuel (.reclaim ⟨identity, row.windowCreatedAtMs, row.requestId, row.route⟩ nowMs listed)
      target (reclaimReason target) with ⟨found, hfd, -, hrun⟩ | ⟨outcome, -, hno, -⟩
  · cases hfd.symm.trans hrow
    exact alone_bind_ok hrun
  · -- the row can be settled, so there is something to write
    rw [ownerWrites] at hno
    simp only [KernelQuotaReservationIdentity.key, hrow] at hno
    rw [if_pos hsts] at hno
    cases hno

/-- **`reclaimExpiredKernelReservationUnlocked` alone**, from a cursor that has passed no expired
row: the first expired row is settled, if there is one. -/
theorem reclaimLoop_alone (h : Consistent kv) (fuel : ℕ) (n : ℕ) : ∀ cursor : Cursor KvKey,
      kv.remaining (isReservationOf identity window.createdAtMs) cursor.after < n →
      (∀ requestId row target,
        rowOf kv (.reservation identity window.createdAtMs requestId) = some row →
          Expired nowMs row target → ∀ a ∈ cursor.after,
            a < .reservation identity window.createdAtMs requestId) →
      (∃ row target, FirstExpired kv identity window.createdAtMs nowMs row target ∧
        alone nowMs (reclaimLoop fuel identity window nowMs n cursor false) kv
          = (.ok true, kv.apply (settleWrites kv row target (reclaimReason target) nowMs))) ∨
      (NoneExpired kv identity window.createdAtMs nowMs ∧
        alone nowMs (reclaimLoop fuel identity window nowMs n cursor false) kv
          = (.ok false, kv)) := by
  induction n with
  | zero => exact fun cursor hfuel => absurd hfuel (Nat.not_lt_zero _)
  | succ n ih =>
    intro cursor hfuel hpsd
    have hspec := kv.firstAfter_spec (isReservationOf identity window.createdAtMs) cursor.after
    rw [reclaimLoop, alone_kvNext_bind]
    generalize kv.firstAfter (isReservationOf identity window.createdAtMs) cursor.after = listed
      at hspec ⊢
    cases listed with
    | none =>
      refine .inr ⟨fun requestId row target hrow hexp => ?_, rfl⟩
      -- the listing is at its end, so the row has been passed
      obtain ⟨e, he, -⟩ := Option.map_eq_some_iff.mp (rowOf_eq_some.mp hrow)
      obtain ⟨a, ha, hle⟩ := hspec _ e he (by simp [isReservationOf])
      exact absurd (hpsd requestId row target hrow hexp a ha) (not_lt.mpr hle)
    | some first =>
      obtain ⟨key, entry⟩ := first
      obtain ⟨hget, hp, haft, hfst⟩ := hspec
      obtain ⟨requestId, rfl⟩ := isReservationOf_eq_true hp
      have hval : kv.value (.reservation identity window.createdAtMs requestId)
          = some entry.value := by rw [Kv.value, hget]; rfl
      obtain ⟨row, hent, -⟩ := h.row _ _ _ _ hval
      have hrow : rowOf kv (.reservation identity window.createdAtMs requestId) = some row := by
        rw [rowOf_eq_some, hval, hent]
      obtain ⟨hkey, -, -, hrequire⟩ := h.row_spec hrow
      obtain ⟨-, hcr, hid⟩ := KvKey.reservation.inj hkey
      dsimp only
      rw [hent, hrequire, alone_orThrow_ok_bind]
      cases htgt : decideKernelQuotaReclaim row nowMs with
      | some target =>
        refine .inl ⟨row, target, ⟨by rwa [hid], htgt, ?_⟩, ?_⟩
        · intro otherId other otherTarget hoth hexp
          obtain ⟨e, he, -⟩ := Option.map_eq_some_iff.mp (rowOf_eq_some.mp hoth)
          rw [hkey]
          exact hfst _ e he (by simp [isReservationOf])
            (hpsd otherId other otherTarget hoth hexp)
        · dsimp only
          have hset := settleExpiredLoop_alone h fuel entry
            (by rw [hcr, hid]; exact hrow) htgt
          rw [hcr] at hset
          rw [alone_bind_ok hset]
          rfl
      | none =>
        have hnext := ih ⟨some (.reservation identity window.createdAtMs requestId), some 0⟩
          (Nat.lt_of_lt_of_le (Kv.remaining_lt hval hp haft) (Nat.le_of_lt_succ hfuel)) ?_
        · exact hnext
        · intro otherId other otherTarget hoth hexp a ha
          cases ha
          obtain ⟨e, he, -⟩ := Option.map_eq_some_iff.mp (rowOf_eq_some.mp hoth)
          have hle := hfst _ e he (by simp [isReservationOf])
            (hpsd otherId other otherTarget hoth hexp)
          refine lt_of_le_of_ne hle fun heq => ?_
          -- the row just seen has not expired
          rw [← heq, hrow] at hoth
          cases hoth
          rw [Expired, htgt] at hexp
          cases hexp

end UbqGateway.Kernel
