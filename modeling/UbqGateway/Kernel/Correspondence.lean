import UbqGateway.Kernel.Alone

/-!
# Corresponding stores

Two stores correspond at a time (`Corresponding`) if they have the same policies and the same
windows with the same reservations in them, except that one of the stores may have settled an
expired reservation that the other still holds.  The owner's operations, a reclaim in one of the
stores and a reservation in both keep stores corresponding.  An owner must not revive a reservation
that one of the stores has released (`RowCorr.act`).
-/

namespace UbqGateway.Kernel

open KernelQuotaReservationRowV2

/-! ### Reading after an operation -/

section Settle

variable (kv : KernelKv) (row : KernelQuotaReservationRowV2) (terminalState : TerminalState)
  (reason : String) (nowMs : ℤ)

theorem key_of_mem_settledWindowWrites (h : a ∈ settledWindowWrites kv row terminalState nowMs) :
    a.key = .window row.identity := by
  unfold settledWindowWrites at h
  split at h
  · split_ifs at h
    · rw [List.mem_singleton.mp h]
      rfl
    · cases h
  · cases h

section

variable (identity : KernelQuotaIdentity)

include identity

/-- Settling changes the window that the row counts in, and no other. -/
theorem windowOf_settle :
    windowOf (kv.apply (settleWrites kv row terminalState reason nowMs)) identity
      = (windowOf kv identity).map fun window =>
        if identity = row.identity ∧ window.createdAtMs = row.windowCreatedAtMs
        then settledWindow window terminalState nowMs else window := by
  by_cases heq : row.identity = identity
  · subst heq
    unfold settleWrites settledWindowWrites
    cases hwin : windowOf kv row.identity with
    | none =>
      rw [windowOf_apply_of_untouched (by simp [Kv.written, key]), hwin]
      rfl
    | some window =>
      by_cases hcr : window.createdAtMs = row.windowCreatedAtMs
      · rw [windowOf_apply_of_set (settledWindow window terminalState nowMs)
          (by simp [Kv.written, key, hcr])]
        simp [hcr]
      · rw [windowOf_apply_of_untouched (by simp [Kv.written, key, hcr]), hwin]
        simp [hcr]
  · rw [windowOf_apply_of_untouched]
    · simp [Ne.symm heq]
    · refine Kv.written_eq_none fun a ha => ?_
      rcases List.mem_append.mp ha with hwin | hrow
      · rw [key_of_mem_settledWindowWrites kv row terminalState nowMs hwin]
        simp [heq]
      · rw [List.mem_singleton.mp hrow]
        simp [Write.key, key]

theorem written_settleWrites (createdAtMs : ℤ) (requestId : String) :
    Kv.written (.reservation identity createdAtMs requestId)
        (settleWrites kv row terminalState reason nowMs)
      = if .reservation identity createdAtMs requestId = row.key then
          some (some (.reservation (settledKernelReservationRow row terminalState reason nowMs)))
        else none := by
  have hwin : Kv.written (.reservation identity createdAtMs requestId)
      (settledWindowWrites kv row terminalState nowMs) = none := by
    refine Kv.written_eq_none fun a ha => ?_
    rw [key_of_mem_settledWindowWrites kv row terminalState nowMs ha]
    simp
  rw [settleWrites, Kv.written_append, hwin, Option.or_none]
  simp [Kv.written, eq_comm]

theorem rowOf_settle (createdAtMs : ℤ) (requestId : String) :
    rowOf (kv.apply (settleWrites kv row terminalState reason nowMs))
        (.reservation identity createdAtMs requestId)
      = if .reservation identity createdAtMs requestId = row.key then
          some (settledKernelReservationRow row terminalState reason nowMs)
        else rowOf kv (.reservation identity createdAtMs requestId) := by
  have hwr := written_settleWrites kv row terminalState reason nowMs identity createdAtMs
    requestId
  split_ifs with hkey
  · rw [if_pos hkey] at hwr
    exact rowOf_apply_of_set _ hwr
  · rw [if_neg hkey] at hwr
    exact rowOf_apply_of_untouched hwr

end

variable {key : KvKey}

theorem value_settle_of_shared (hwin : ∀ identity, key ≠ .window identity)
    (hrow : ∀ identity createdAtMs requestId, key ≠ .reservation identity createdAtMs requestId) :
    (kv.apply (settleWrites kv row terminalState reason nowMs)).value key = kv.value key := by
  refine value_apply_of_untouched (Kv.written_eq_none fun a ha => ?_)
  rcases List.mem_append.mp ha with hmem | hmem
  · rw [key_of_mem_settledWindowWrites kv row terminalState nowMs hmem]
    exact (hwin row.identity).symm
  · rw [List.mem_singleton.mp hmem]
    exact (hrow _ _ _).symm

/-- Settling moves one row from the reserved ones to those of its final state. -/
theorem rowCount_settle (hrow : rowOf kv row.key = some row) (hsta : row.state = .reserved) :
    Ledger.Moves (rowCount kv row.identity)
      (rowCount (kv.apply (settleWrites kv row terminalState reason nowMs)) row.identity)
      row.windowCreatedAtMs (some .reserved) terminalState.state := by
  have hmvs := rowCount_moves (settledWindowWrites kv row terminalState nowMs) (some row)
    (settledKernelReservationRow row terminalState reason nowMs) ?_ (rowOf_eq_some.mp hrow)
    (by rintro _ ⟨⟩; simp)
  · rw [Option.map_some, hsta, settledKernelReservationRow_state,
      settledKernelReservationRow_windowCreatedAtMs] at hmvs
    exact hmvs
  · intro a ha createdAtMs requestId
    rw [key_of_mem_settledWindowWrites kv row terminalState nowMs ha]
    simp

theorem rowCount_settle_of_ne {identity : KernelQuotaIdentity} (h : identity ≠ row.identity) :
    rowCount (kv.apply (settleWrites kv row terminalState reason nowMs)) identity
      = rowCount kv identity := by
  refine rowCount_apply fun a ha createdAtMs requestId => ?_
  rcases List.mem_append.mp ha with hmem | hmem
  · rw [key_of_mem_settledWindowWrites kv row terminalState nowMs hmem]
    simp
  · rw [List.mem_singleton.mp hmem]
    simp [Write.key, key, Ne.symm h]

end Settle

/-- The clock is one that the validators accept. -/
def ClockOk (nowMs : ℤ) : Prop := 0 ≤ nowMs ∧ nowMs + reservationLeaseMs ≤ maxSafeInteger

theorem ClockOk.safe {nowMs : ℤ} (h : ClockOk nowMs) : Authority.isSafeInteger nowMs = true := by
  obtain ⟨hnow, hls⟩ := h
  simp only [Authority.isSafeInteger, maxSafeInteger, reservationLeaseMs] at *
  exact decide_eq_true (by omega)

variable {row : KernelQuotaReservationRowV2} {kv : KernelKv} {a b : KernelKv} {key : KvKey}

/-- Writes that the store accepts and after which its windows count right keep it consistent. -/
theorem Consistent.writes (h : Consistent kv)
    (hwrs : ∀ key value, Write.set key value ∈ ws → Accepted key value)
    (hcnts : ∀ identity window, windowOf (kv.apply ws) identity = some window →
      window.reservedRequests = rowCount (kv.apply ws) identity window.createdAtMs .reserved ∧
        window.usageRequests + window.reservedRequests ≤ maxSafeInteger) :
    Consistent (kv.apply ws) where
  window identity := accepted_apply (h.window identity) fun value => hwrs _ value
  row identity createdAtMs requestId :=
    accepted_apply (h.row identity createdAtMs requestId) fun value => hwrs _ value
  counts identity window hwin := (hcnts identity window hwin).1
  bounded identity window hwin := (hcnts identity window hwin).2

/-- Settling a reserved row keeps the store consistent. -/
theorem Consistent.settle {nowMs : ℤ} (h : Consistent kv) (hrow : rowOf kv row.key = some row)
    (hsta : row.state = .reserved)
    (hint : row.terminalIntent = none ∨ row.terminalIntent = some terminalState)
    (hclk : ClockOk nowMs) (hrsn : terminalState = .released → KeptReason reason) :
    Consistent (kv.apply (settleWrites kv row terminalState reason nowMs)) := by
  obtain ⟨-, hvld, -⟩ := h.row_spec hrow
  have hsttl : Settling row terminalState := ⟨hvld, hsta, hint⟩
  refine h.writes (fun key value hmem => ?_) fun identity window hwin => ?_
  · -- what is written is accepted
    rcases List.mem_append.mp hmem with hmem | hmem
    · unfold settledWindowWrites at hmem
      split at hmem
      · next window hwin =>
        split_ifs at hmem with hcr
        · cases List.mem_singleton.mp hmem
          have hone := h.one_le_reservedRequests hrow hsta hwin hcr
          have hbd := h.bounded _ _ hwin
          rw [accepted_window_iff, validWindow_settledWindow_iff terminalState
            (h.validWindow hwin) hone hclk.safe]
          exact ⟨hclk.1, fun _ => by omega⟩
        · cases hmem
      · cases hmem
    · cases List.mem_singleton.mp hmem
      rw [← settledKernelReservationRow_key row terminalState reason nowMs,
        accepted_reservation_iff, settledKernelReservationRow_identity,
        validReservation_settled_iff reason hsttl hclk.safe]
      exact ⟨hclk.1, hrsn⟩
  · -- the counts of the row's own scope and of the others
    rw [windowOf_settle] at hwin
    obtain ⟨old, hold, hnew⟩ := Option.map_eq_some_iff.mp hwin
    have hcnt := h.counts identity old hold
    have hbd := h.bounded identity old hold
    by_cases heq : identity = row.identity
    · subst heq
      have hmvs := rowCount_settle kv row terminalState reason nowMs hrow hsta
      by_cases hcr : old.createdAtMs = row.windowCreatedAtMs
      · rw [if_pos ⟨rfl, hcr⟩] at hnew
        subst hnew
        have hone := h.one_le_reservedRequests hrow hsta hold hcr
        have hres := hmvs.of_settle.1
        simp only [settledWindow, hcr] at hcnt ⊢
        constructor
        · omega
        · split_ifs <;> omega
      · rw [if_neg fun h => hcr h.2] at hnew
        subst hnew
        rw [hmvs.of_ne hcr]
        exact ⟨hcnt, hbd⟩
    · rw [if_neg fun h => heq h.1] at hnew
      subst hnew
      rw [rowCount_settle_of_ne kv row terminalState reason nowMs heq]
      exact ⟨hcnt, hbd⟩

/-! ### A new lease -/

section Lease

variable (intent : Option TerminalState)
  (nowMs : ℤ)

/-- The writes that give a row a new lease. -/
def leaseWrites (row : KernelQuotaReservationRowV2) (intent : Option TerminalState) (nowMs : ℤ) :
    List (Write KvKey KernelValue) :=
  [.set row.key (.reservation (leasedRow row intent nowMs))]

theorem windowOf_lease (identity : KernelQuotaIdentity) :
    windowOf (kv.apply (leaseWrites row intent nowMs)) identity = windowOf kv identity :=
  windowOf_apply_of_untouched (by simp [leaseWrites, Kv.written, key])

theorem rowOf_lease (identity : KernelQuotaIdentity) (createdAtMs : ℤ) (requestId : String) :
    rowOf (kv.apply (leaseWrites row intent nowMs)) (.reservation identity createdAtMs requestId)
      = if .reservation identity createdAtMs requestId = row.key
        then some (leasedRow row intent nowMs)
        else rowOf kv (.reservation identity createdAtMs requestId) := by
  split_ifs with hkey
  · exact rowOf_apply_of_set _ (by simp [leaseWrites, Kv.written, hkey])
  · exact rowOf_apply_of_untouched (by simp [leaseWrites, Kv.written, Ne.symm hkey])

theorem value_lease_of_shared
    (hrow : ∀ identity createdAtMs requestId, key ≠ .reservation identity createdAtMs requestId) :
    (kv.apply (leaseWrites row intent nowMs)).value key = kv.value key := by
  refine value_apply_of_untouched (Kv.written_eq_none fun a ha => ?_)
  rw [List.mem_singleton.mp ha]
  exact (hrow _ _ _).symm

theorem rowCount_lease (hrow : rowOf kv row.key = some row) (identity : KernelQuotaIdentity) :
    rowCount (kv.apply (leaseWrites row intent nowMs)) identity = rowCount kv identity := by
  by_cases heq : identity = row.identity
  · subst heq
    have hmvs := rowCount_moves [] (some row) (leasedRow row intent nowMs)
      (fun a ha => by cases ha) (rowOf_eq_some.mp hrow) (by rintro _ ⟨⟩; rfl)
    exact hmvs.eq_of_same
  · refine rowCount_apply fun a ha createdAtMs requestId => ?_
    rw [List.mem_singleton.mp ha]
    simp [Write.key, key, Ne.symm heq]

/-- A new lease keeps the store consistent. -/
theorem Consistent.lease (h : Consistent kv) (hrow : rowOf kv row.key = some row)
    (hsta : row.state = .reserved) (hfits : LeaseFits row nowMs) :
    Consistent (kv.apply (leaseWrites row intent nowMs)) := by
  obtain ⟨-, hvld, -⟩ := h.row_spec hrow
  refine h.writes (fun key value hmem => ?_) fun identity window hwin => ?_
  · cases List.mem_singleton.mp hmem
    change Accepted (leasedRow row intent nowMs).key _
    rw [accepted_reservation_iff]
    exact (validReservation_lease_iff intent hvld hsta).mpr hfits
  · rw [windowOf_lease] at hwin
    rw [rowCount_lease intent nowMs hrow]
    exact ⟨h.counts identity window hwin, h.bounded identity window hwin⟩

end Lease

/-! ### A new reservation -/

section Reserve

variable {identity : KernelQuotaIdentity} (window : KernelQuotaWindowV2)
  (requestId route : String) (nowMs : ℤ)

/-- The window with one more reservation. -/
def reservedWindow (window : KernelQuotaWindowV2) (nowMs : ℤ) : KernelQuotaWindowV2 :=
  { window with reservedRequests := window.reservedRequests + 1, updatedAtMs := nowMs }

def reserveWrites (identity : KernelQuotaIdentity) (window : KernelQuotaWindowV2)
    (requestId route : String) (nowMs : ℤ) : List (Write KvKey KernelValue) :=
  [.set (.window identity) (.window (reservedWindow window nowMs)),
    .set (.reservation identity window.createdAtMs requestId)
      (.reservation (reservedRow identity window requestId route nowMs))]

theorem windowOf_reserve (other : KernelQuotaIdentity) :
    windowOf (kv.apply (reserveWrites identity window requestId route nowMs)) other
      = if other = identity then some (reservedWindow window nowMs) else windowOf kv other := by
  split_ifs with heq
  · exact windowOf_apply_of_set _ (by simp [reserveWrites, Kv.written, heq])
  · exact windowOf_apply_of_untouched (by simp [reserveWrites, Kv.written, Ne.symm heq])

theorem rowOf_reserve (other : KernelQuotaIdentity) (createdAtMs : ℤ) (otherId : String) :
    rowOf (kv.apply (reserveWrites identity window requestId route nowMs))
        (.reservation other createdAtMs otherId)
      = if KvKey.reservation other createdAtMs otherId
          = .reservation identity window.createdAtMs requestId
        then some (reservedRow identity window requestId route nowMs)
        else rowOf kv (.reservation other createdAtMs otherId) := by
  split_ifs with heq
  · rw [heq]
    exact rowOf_apply_of_set _ (by simp [reserveWrites, Kv.written])
  · refine rowOf_apply_of_untouched ?_
    simp only [reserveWrites, Kv.written, Ne.symm heq]
    simp

theorem value_reserve_of_shared (hwin : ∀ identity, key ≠ .window identity)
    (hrow : ∀ identity createdAtMs requestId, key ≠ .reservation identity createdAtMs requestId) :
    (kv.apply (reserveWrites identity window requestId route nowMs)).value key = kv.value key := by
  refine value_apply_of_untouched (Kv.written_eq_none fun a ha => ?_)
  simp only [reserveWrites, List.mem_cons, List.not_mem_nil, or_false] at ha
  rcases ha with rfl | rfl
  · exact (hwin _).symm
  · exact (hrow _ _ _).symm

theorem rowCount_reserve
    (habs : kv.value (.reservation identity window.createdAtMs requestId) = none) :
    Ledger.Moves (rowCount kv identity)
      (rowCount (kv.apply (reserveWrites identity window requestId route nowMs)) identity)
      window.createdAtMs none .reserved :=
  rowCount_moves [.set (.window identity) (.window (reservedWindow window nowMs))] none
    (reservedRow identity window requestId route nowMs)
    (by simp [LeavesRows, Write.key]) habs (by rintro _ ⟨⟩)

theorem rowCount_reserve_of_ne (h : other ≠ identity) :
    rowCount (kv.apply (reserveWrites identity window requestId route nowMs)) other
      = rowCount kv other := by
  refine rowCount_apply fun a ha createdAtMs otherId => ?_
  simp only [reserveWrites, List.mem_cons, List.not_mem_nil, or_false] at ha
  rcases ha with rfl | rfl
  · simp [Write.key]
  · simp [Write.key, Ne.symm h]

/-- A reservation keeps the store consistent. -/
theorem Consistent.reserve (h : Consistent kv)
    (habs : kv.value (.reservation identity window.createdAtMs requestId) = none)
    (hcnt : window.reservedRequests = rowCount kv identity window.createdAtMs .reserved)
    (hbd : window.usageRequests + window.reservedRequests < maxSafeInteger)
    (hwin : Kernel.validWindow (reservedWindow window nowMs) identity = true)
    (hrow : validReservation (reservedRow identity window requestId route nowMs) identity = true) :
    Consistent (kv.apply (reserveWrites identity window requestId route nowMs)) := by
  refine h.writes (fun key value hmem => ?_) fun other found hfd => ?_
  · simp only [reserveWrites, List.mem_cons, List.not_mem_nil, or_false] at hmem
    rcases hmem with hmem | hmem
    · cases hmem
      exact accepted_window_iff.mpr hwin
    · cases hmem
      change Accepted (reservedRow identity window requestId route nowMs).key _
      exact accepted_reservation_iff.mpr hrow
  · rw [windowOf_reserve] at hfd
    split_ifs at hfd with heq
    · cases hfd
      subst heq
      have hres := (rowCount_reserve window requestId route nowMs habs).of_reserve.1
      simp only [reservedWindow]
      constructor <;> omega
    · rw [rowCount_reserve_of_ne window requestId route nowMs heq]
      exact ⟨h.counts other found hfd, h.bounded other found hfd⟩

end Reserve

/-! ### Corresponding rows -/

/-- The state to which a row comes by itself: an expired reservation is released, and one whose
owner has stated that it is to be committed is committed in any case. -/
def KernelQuotaReservationRowV2.outcome (row : KernelQuotaReservationRowV2) (clock : ℤ) :
    ReservationState :=
  if row.state = .reserved then
    if row.terminalIntent = some .committed then .committed
    else if row.leaseExpiresAtMs ≤ clock then .released else .reserved
  else row.state

/-- The rows of one reservation in two stores: they differ at most in that one of the stores has
reclaimed an expired lease and the other has not. -/
structure RowCorr (clock : ℤ) (a b : KernelQuotaReservationRowV2) : Prop where
  key : a.key = b.key
  route : a.route = b.route
  outcome : a.outcome clock = b.outcome clock
  same : a.state = .reserved → b.state = .reserved → a.terminalIntent ≠ some .committed → a = b

section Rows

variable {a b : KernelQuotaReservationRowV2}

theorem outcome_of_not_reserved (h : a.state ≠ .reserved) : a.outcome clock = a.state := if_neg h

theorem outcome_eq_committed_iff (h : a.state = .reserved) :
    a.outcome clock = .committed ↔ a.terminalIntent = some .committed := by
  unfold KernelQuotaReservationRowV2.outcome
  rw [if_pos h]
  split_ifs with hint hls <;> simp [hint]

theorem outcome_eq_reserved_iff : a.outcome clock = .reserved ↔
      a.state = .reserved ∧ a.terminalIntent ≠ some .committed ∧ clock < a.leaseExpiresAtMs := by
  unfold KernelQuotaReservationRowV2.outcome
  split_ifs with hsta hint hls
  · simp [hint]
  · simp [hsta, hls]
  · simp [hsta, hint, not_le.mp hls]
  · simp [hsta]

theorem RowCorr.refl (row : KernelQuotaReservationRowV2) : RowCorr clock row row :=
  ⟨rfl, rfl, rfl, fun _ _ _ => rfl⟩

theorem RowCorr.symm (h : RowCorr clock a b) : RowCorr clock b a where
  key := h.key.symm
  route := h.route.symm
  outcome := h.outcome.symm
  same := by
    intro hb ha hint
    refine (h.same ha hb fun hcom => hint ?_).symm
    rw [← outcome_eq_committed_iff hb, ← h.outcome]
    exact (outcome_eq_committed_iff ha).mpr hcom

/-- Corresponding rows correspond at any later time. -/
theorem RowCorr.mono (h : RowCorr clock a b) (hle : clock ≤ nowMs) : RowCorr nowMs a b := by
  refine ⟨h.key, h.route, ?_, h.same⟩
  by_cases hlive : a.outcome clock = .reserved
  · obtain ⟨ha, hint, -⟩ := outcome_eq_reserved_iff.mp hlive
    rw [h.outcome] at hlive
    rw [h.same ha (outcome_eq_reserved_iff.mp hlive).1 hint]
  · have hsty : ∀ row : KernelQuotaReservationRowV2, row.outcome clock ≠ .reserved →
        row.outcome nowMs = row.outcome clock := by
      intro row hrow
      unfold KernelQuotaReservationRowV2.outcome at hrow ⊢
      split_ifs at hrow ⊢ with hsta hint hnow hthen hthen
      · rfl
      · rfl
      · exact absurd rfl hrow
      · exact absurd (hthen.trans hle) hnow
      · exact absurd rfl hrow
      · rfl
    rw [hsty a hlive, hsty b (by rwa [← h.outcome]), h.outcome]

theorem settledKernelReservationRow_route (row : KernelQuotaReservationRowV2)
    (terminalState : TerminalState) (reason : String) (nowMs : ℤ) :
    (settledKernelReservationRow row terminalState reason nowMs).route = row.route := by
  cases terminalState <;> rfl

/-- An expired row may be reclaimed on one side alone. -/
theorem RowCorr.reclaimed (h : RowCorr clock a b) (hexp : Expired clock a target)
    (reason : String) : RowCorr clock (settledKernelReservationRow a target reason nowMs) b := by
  obtain ⟨hsta, hls⟩ := decideKernelQuotaReclaim_eq_some hexp
  have hnot : (settledKernelReservationRow a target reason nowMs).state ≠ .reserved := by
    rw [settledKernelReservationRow_state]
    cases target <;> decide
  refine ⟨?_, ?_, ?_, fun hres => absurd hres hnot⟩
  · rw [settledKernelReservationRow_key, h.key]
  · rw [settledKernelReservationRow_route, h.route]
  · rw [outcome_of_not_reserved hnot, settledKernelReservationRow_state, ← h.outcome]
    unfold Expired decideKernelQuotaReclaim at hexp
    rw [if_neg (by simp [hsta, hls])] at hexp
    unfold KernelQuotaReservationRowV2.outcome
    rw [if_pos hsta, if_pos hls, ← Option.some.inj hexp]
    cases hint : a.terminalIntent with
    | none => simp [TerminalState.state]
    | some intent => cases intent <;> simp [TerminalState.state]

/-- The action changes the row. -/
def Applies (request : KernelQuotaReservationIdentity) (row : KernelQuotaReservationRowV2) :
    OwnerAction → Prop
  | .intent terminalState => Settles request terminalState row
  | .settle terminalState _ => Settles request terminalState row
  | .renew => row.route = request.route ∧ row.state = .reserved

/-- The row after an action that applies to it. -/
def rowAfter (nowMs : ℤ) (row : KernelQuotaReservationRowV2) :
    OwnerAction → KernelQuotaReservationRowV2
  | .intent terminalState => leasedRow row (some terminalState) nowMs
  | .settle terminalState reason => settledKernelReservationRow row terminalState reason nowMs
  | .renew => leasedRow row row.terminalIntent nowMs

def OwnerAction.Releases : OwnerAction → Prop
  | .settle .released _ => True
  | _ => False

/-- One of the stores holds the reservation that the other has released. -/
def Overtaken (a b : KernelQuotaReservationRowV2) : Prop :=
  a.state = .reserved ∧ b.state = .released ∨ a.state = .released ∧ b.state = .reserved

theorem Applies.reserved (h : Applies request a action) : a.state = .reserved := by
  cases action with
  | intent | settle => exact (kernelReservationPrecondition_eq_none.mp h).2.1
  | renew => exact h.2

/-- The row after an action, whether or not it applies. -/
noncomputable def act (request : KernelQuotaReservationIdentity) (nowMs : ℤ)
    (action : OwnerAction) (row : KernelQuotaReservationRowV2) : KernelQuotaReservationRowV2 :=
  open Classical in if Applies request row action then rowAfter nowMs row action else row

theorem rowAfter_key (nowMs : ℤ) (a : KernelQuotaReservationRowV2) (action : OwnerAction) :
    (rowAfter nowMs a action).key = a.key := by
  cases action with
  | intent | renew => rfl
  | settle terminalState reason =>
    exact settledKernelReservationRow_key a terminalState reason nowMs

theorem rowAfter_route (nowMs : ℤ) (a : KernelQuotaReservationRowV2) (action : OwnerAction) :
    (rowAfter nowMs a action).route = a.route := by
  cases action with
  | intent | renew => rfl
  | settle terminalState reason =>
    exact settledKernelReservationRow_route a terminalState reason nowMs

section Act

/-- An action leaves an intent to commit as it is. -/
theorem rowAfter_committed (h : Applies request a action)
    (hint : a.terminalIntent = some .committed) :
    (rowAfter nowMs a action).terminalIntent = some .committed ∧
      (rowAfter nowMs a action).outcome clock = .committed := by
  have hres := h.reserved
  have hsts : ∀ terminalState, Settles request terminalState a →
      terminalState = .committed := by
    intro terminalState hsts
    obtain ⟨-, -, hno | heq⟩ := kernelReservationPrecondition_eq_none.mp hsts
    · rw [hint] at hno
      cases hno
    · rw [hint] at heq
      exact (Option.some.inj heq).symm
  have hleased : (leasedRow a (some .committed) nowMs).outcome clock = .committed :=
    (outcome_eq_committed_iff (a := leasedRow a (some .committed) nowMs) hres).mpr rfl
  cases action with
  | intent terminalState =>
    obtain rfl := hsts terminalState h
    exact ⟨rfl, hleased⟩
  | settle terminalState =>
    obtain rfl := hsts terminalState h
    exact ⟨rfl, rfl⟩
  | renew =>
    rw [← hint] at hleased
    exact ⟨hint, hleased⟩

/-- An action reserves nothing again and releases only what it is to release. -/
theorem act_state (request : KernelQuotaReservationIdentity) (action : OwnerAction) (nowMs : ℤ)
    (row : KernelQuotaReservationRowV2) :
    ((act request nowMs action row).state = .reserved → row.state = .reserved) ∧
      ((act request nowMs action row).state = .released →
        row.state = .released ∨ action.Releases) := by
  unfold act
  split_ifs with happ
  · refine ⟨fun _ => happ.reserved, fun hrld => .inr ?_⟩
    cases action with
    | intent | renew => exact nomatch happ.reserved.symm.trans hrld
    | settle terminalState =>
      cases terminalState with
      | committed => exact nomatch hrld
      | released => exact trivial
  · exact ⟨id, .inl⟩

/-- An owner may act on one side alone where the other row is settled, or where its own is to be
committed. -/
theorem RowCorr.act_left (h : RowCorr clock a b)
    (hoth : a.state = .reserved → b.state = .reserved → a.terminalIntent = some .committed)
    (hrld : Applies request a action → b.state = .released → action.Releases) :
    RowCorr clock (act request nowMs action a) b := by
  unfold Kernel.act
  split_ifs with happ
  · have hkey := (rowAfter_key nowMs a action).trans h.key
    have hrt := (rowAfter_route nowMs a action).trans h.route
    by_cases hint : a.terminalIntent = some .committed
    · obtain ⟨hkept, houtc⟩ := rowAfter_committed happ hint
      refine ⟨hkey, hrt, ?_, fun _ _ hnot => absurd hkept hnot⟩
      rw [houtc, ← h.outcome, (outcome_eq_committed_iff happ.reserved).mpr hint]
    · -- the other store has settled the row, and not as committed
      have hb : b.state ≠ .reserved := fun hb => hint (hoth happ.reserved hb)
      have hsta : b.state = .released := by
        cases hs : b.state with
        | reserved => exact absurd hs hb
        | committed =>
          rw [← outcome_of_not_reserved hb, ← h.outcome] at hs
          exact absurd ((outcome_eq_committed_iff happ.reserved).mp hs) hint
        | released => rfl
      have hrels := hrld happ hsta
      cases action with
      | settle terminalState =>
        cases terminalState with
        | committed => exact hrels.elim
        | released =>
          refine ⟨hkey, hrt, ?_, fun _ hres => absurd hres hb⟩
          rw [outcome_of_not_reserved hb, hsta]
          rfl
      | intent | renew => exact hrels.elim
  · exact h

/-- **An owner's action keeps rows corresponding**, unless it revives a reservation that one of the
stores has released. -/
theorem RowCorr.act (h : RowCorr clock a b) (hok : Overtaken a b → action.Releases ∨
      ¬ Applies request a action ∧ ¬ Applies request b action) :
    RowCorr clock (act request nowMs action a) (act request nowMs action b) := by
  by_cases heq : a.state = .reserved ∧ b.state = .reserved ∧ a.terminalIntent ≠ some .committed
  · rw [h.same heq.1 heq.2.1 heq.2.2]
    exact .refl _
  · have hint : a.state = .reserved → b.state = .reserved →
        a.terminalIntent = some .committed := by
      intro ha hb
      by_contra hnot
      exact heq ⟨ha, hb, hnot⟩
    -- first the one store, then the other
    have hleft : RowCorr clock (Kernel.act request nowMs action a) b := by
      refine h.act_left hint fun happ hb => ?_
      exact (hok (.inl ⟨happ.reserved, hb⟩)).resolve_right fun hn => hn.1 happ
    obtain ⟨hres, hrld⟩ := act_state request action nowMs a
    refine (hleft.symm.act_left (fun hb ha => ?_) fun happ ha => ?_).symm
    · have hcom : a.outcome clock = .committed :=
        (outcome_eq_committed_iff (hres ha)).mpr (hint (hres ha) hb)
      rw [h.outcome] at hcom
      exact (outcome_eq_committed_iff hb).mp hcom
    · rcases hrld ha with ha | hrels
      · exact (hok (.inr ⟨ha, happ.reserved⟩)).resolve_right fun hn => hn.2 happ
      · exact hrels

end Act

end Rows

/-! ### Corresponding stores -/

/-- A window without its reservations; `settledBefore` is the usage that no row stands for. -/
structure WindowFrame where
  createdAtMs : ℤ
  usageResetAtMs : ℤ
  appliedWindowMs : ℤ
  settledBefore : ℤ

def frameOf (kv : KernelKv) (identity : KernelQuotaIdentity) : Option WindowFrame :=
  (windowOf kv identity).map fun window => ⟨window.createdAtMs, window.usageResetAtMs,
    window.appliedWindowMs,
    window.usageRequests - rowCount kv identity window.createdAtMs .committed⟩

/-- A key under which neither a window nor a reservation is stored. -/
def KvKey.Shared (key : KvKey) : Prop :=
  (∀ identity, key ≠ .window identity) ∧
    ∀ identity createdAtMs requestId, key ≠ .reservation identity createdAtMs requestId

/-- The stores differ in their reservations only. -/
structure SameFrames (a b : KernelKv) : Prop where
  shared : ∀ key : KvKey, key.Shared → a.value key = b.value key
  frames : ∀ identity, frameOf a identity = frameOf b identity

namespace SameFrames

theorem refl (a : KernelKv) : SameFrames a a := ⟨fun _ _ => rfl, fun _ => rfl⟩

theorem symm (h : SameFrames a b) : SameFrames b a :=
  ⟨fun key hkey => (h.shared key hkey).symm, fun identity => (h.frames identity).symm⟩

theorem trans (hab : SameFrames a b) (hbc : SameFrames b c) : SameFrames a c :=
  ⟨fun key hkey => (hab.shared key hkey).trans (hbc.shared key hkey),
    fun identity => (hab.frames identity).trans (hbc.frames identity)⟩

theorem effectivePolicy (h : SameFrames a b) (identity : KernelQuotaIdentity) :
    effectivePolicy a identity = effectivePolicy b identity := by
  unfold Kernel.effectivePolicy defaultsOf
  rw [h.shared (.policy identity) ⟨by simp, by simp⟩, h.shared .defaultLimit ⟨by simp, by simp⟩,
    h.shared .defaultWindow ⟨by simp, by simp⟩]

end SameFrames

/-- Nothing in the store is from later than the clock, and the rows of a window that was created at
this very time belong to the window in force. -/
structure Fresh (clock : ℤ) (kv : KernelKv) : Prop where
  window : ∀ identity frame, frameOf kv identity = some frame → frame.createdAtMs ≤ clock
  row : ∀ identity createdAtMs requestId row,
    rowOf kv (.reservation identity createdAtMs requestId) = some row →
      createdAtMs ≤ clock ∧ row.reservedAtMs ≤ clock ∧
      (createdAtMs = clock → ∃ frame, frameOf kv identity = some frame ∧
        frame.createdAtMs = clock ∧ clock < frame.usageResetAtMs ∧
        ∀ effective, effectivePolicy kv identity = .ok effective →
          frame.appliedWindowMs = effective.windowMs)

theorem Fresh.mono {clock nowMs : ℤ} (h : Fresh clock kv) (hle : clock ≤ nowMs) :
    Fresh nowMs kv := by
  rcases hle.eq_or_lt with rfl | hlt
  · exact h
  · refine ⟨fun identity frame hfrm => (h.window identity frame hfrm).trans hle, ?_⟩
    intro identity createdAtMs requestId row hrow
    obtain ⟨hcr, hres, -⟩ := h.row identity createdAtMs requestId row hrow
    exact ⟨hcr.trans hle, hres.trans hle, fun heq => by omega⟩

/-- Freshness depends on the frames and on when the rows were reserved. -/
theorem Fresh.of_sameFrames {clock : ℤ} (h : Fresh clock a) (hfrms : SameFrames a b)
    (hrows : ∀ identity createdAtMs requestId row,
      rowOf b (.reservation identity createdAtMs requestId) = some row →
        ∃ old, rowOf a (.reservation identity createdAtMs requestId) = some old ∧
          row.reservedAtMs = old.reservedAtMs) : Fresh clock b := by
  constructor
  · intro identity frame hfrm
    rw [← hfrms.frames] at hfrm
    exact h.window identity frame hfrm
  · intro identity createdAtMs requestId row hrow
    obtain ⟨old, hold, hres⟩ := hrows identity createdAtMs requestId row hrow
    rw [hres, ← hfrms.frames, ← hfrms.effectivePolicy]
    exact h.row identity createdAtMs requestId old hold

/-- What the operations rely on and keep. -/
structure Sound (clock : ℤ) (kv : KernelKv) : Prop where
  consistent : Consistent kv
  fresh : Fresh clock kv

/-- The stores hold the same, except that one may have reclaimed expired leases that the other still
holds.  What is left of former windows does not matter. -/
structure Corresponding (clock : ℤ) (a b : KernelKv) : Prop where
  left : Sound clock a
  right : Sound clock b
  frames : SameFrames a b
  rows : ∀ identity frame, frameOf a identity = some frame → ∀ requestId,
    Option.Rel (RowCorr clock) (rowOf a (.reservation identity frame.createdAtMs requestId))
      (rowOf b (.reservation identity frame.createdAtMs requestId))

/-- Settling leaves the frames. -/
theorem SameFrames.settle (hrow : rowOf kv row.key = some row) (hsta : row.state = .reserved)
    (terminalState : TerminalState) (reason : String) (nowMs : ℤ) :
    SameFrames kv (kv.apply (settleWrites kv row terminalState reason nowMs)) := by
  refine ⟨fun key hkey => (value_settle_of_shared kv row terminalState reason nowMs hkey.1
    hkey.2).symm, fun identity => ?_⟩
  unfold frameOf
  rw [windowOf_settle, Option.map_map]
  cases hwin : windowOf kv identity with
  | none => rfl
  | some window =>
    rw [Option.map_some, Option.map_some, Function.comp]
    by_cases heq : identity = row.identity
    · subst heq
      have hmvs := rowCount_settle kv row terminalState reason nowMs hrow hsta
      by_cases hcr : window.createdAtMs = row.windowCreatedAtMs
      · rw [if_pos ⟨rfl, hcr⟩]
        have hcom := hmvs.of_settle.2
        have husg : window.usageRequests - rowCount kv row.identity window.createdAtMs .committed
            = (settledWindow window terminalState nowMs).usageRequests - rowCount (kv.apply
              (settleWrites kv row terminalState reason nowMs)) row.identity window.createdAtMs
              .committed := by
          rw [hcr, hcom]
          simp only [settledWindow]
          split_ifs <;> omega
        rw [husg]
        rfl
      · rw [if_neg fun h => hcr h.2, hmvs.of_ne hcr]
    · rw [if_neg fun h => heq h.1, rowCount_settle_of_ne kv row terminalState reason nowMs heq]

theorem SameFrames.lease (hrow : rowOf kv row.key = some row) (intent : Option TerminalState)
    (nowMs : ℤ) : SameFrames kv (kv.apply (leaseWrites row intent nowMs)) := by
  refine ⟨fun key hkey => (value_lease_of_shared intent nowMs hkey.2).symm, fun identity => ?_⟩
  unfold frameOf
  rw [windowOf_lease, rowCount_lease intent nowMs hrow]

/-! ### Stores with the same values -/

section SameValues

section

variable (h : a.SameValues b)

include h

theorem windowOf_congr (identity : KernelQuotaIdentity) :
    windowOf a identity = windowOf b identity := by
  unfold windowOf
  rw [h]

theorem rowOf_congr (key : KvKey) : rowOf a key = rowOf b key := by
  unfold rowOf
  rw [h]

theorem rowCount_congr (identity : KernelQuotaIdentity) :
    rowCount a identity = rowCount b identity := by
  funext createdAtMs state
  exact h.count_eq _

theorem SameFrames.of_sameValues : SameFrames a b := by
  refine ⟨fun key _ => h key, fun identity => ?_⟩
  unfold frameOf
  rw [windowOf_congr h, rowCount_congr h]

end

theorem Consistent.congr (hc : Consistent a) (h : a.SameValues b) : Consistent b where
  window identity value hval := hc.window identity value (by rwa [h])
  row identity createdAtMs requestId value hval :=
    hc.row identity createdAtMs requestId value (by rwa [h])
  counts identity window hwin := by
    rw [← windowOf_congr h] at hwin
    rw [← rowCount_congr h]
    exact hc.counts identity window hwin
  bounded identity window hwin := by
    rw [← windowOf_congr h] at hwin
    exact hc.bounded identity window hwin

theorem Sound.congr (hs : Sound clock a) (h : a.SameValues b) : Sound clock b :=
  ⟨hs.consistent.congr h, hs.fresh.of_sameFrames (.of_sameValues h) fun identity createdAtMs
    requestId row hrow => ⟨row, by rwa [rowOf_congr h], rfl⟩⟩

end SameValues

/-! ### One operation in one store -/

/-- `b` is what an operation makes of `a`, with every row as `f` says. -/
structure Becomes (f : KvKey → KernelQuotaReservationRowV2 → KernelQuotaReservationRowV2 → Prop)
    (clock : ℤ) (a b : KernelKv) : Prop where
  sound : Sound clock b
  frames : SameFrames a b
  rows : ∀ identity createdAtMs requestId,
    Option.Rel (f (.reservation identity createdAtMs requestId))
      (rowOf a (.reservation identity createdAtMs requestId))
      (rowOf b (.reservation identity createdAtMs requestId))

/-- The row under one key is replaced. -/
def At (key : KvKey) (g : KernelQuotaReservationRowV2 → KernelQuotaReservationRowV2) :
    KvKey → KernelQuotaReservationRowV2 → KernelQuotaReservationRowV2 → Prop :=
  fun other old new => new = if other = key then g old else old

section Becomes

section

variable (h : Sound nowMs kv)

include h

/-- A store in which one row was rewritten and the frames kept. -/
theorem Becomes.of_row {b : KernelKv} (hcst : Consistent b) (hfrms : SameFrames kv b)
    {new : KernelQuotaReservationRowV2} (hg : g row = new) (hrow : rowOf kv row.key = some row)
    (hres : new.reservedAtMs = row.reservedAtMs)
    (hrows : ∀ identity createdAtMs requestId, rowOf b (.reservation identity createdAtMs requestId)
      = if KvKey.reservation identity createdAtMs requestId = row.key then some new else rowOf kv
      (.reservation identity createdAtMs requestId)) :
    Becomes (At row.key g) nowMs kv b := by
  refine ⟨⟨hcst, h.fresh.of_sameFrames hfrms ?_⟩, hfrms, ?_⟩
  · intro identity createdAtMs requestId found hfd
    rw [hrows] at hfd
    split_ifs at hfd with hkey
    · cases hfd
      exact ⟨row, by rw [hkey, hrow], hres⟩
    · exact ⟨found, hfd, rfl⟩
  · intro identity createdAtMs requestId
    rw [hrows]
    split_ifs with hkey
    · rw [hkey, hrow]
      exact .some (by rw [At, if_pos rfl, hg])
    · cases rowOf kv (.reservation identity createdAtMs requestId) with
      | none => exact .none
      | some found => exact .some (by rw [At, if_neg hkey])

theorem Becomes.settle (hg : g row = settledKernelReservationRow row terminalState reason nowMs)
    (hrow : rowOf kv row.key = some row) (hsta : row.state = .reserved)
    (hint : row.terminalIntent = none ∨ row.terminalIntent = some terminalState)
    (hclk : ClockOk nowMs) (hrsn : terminalState = .released → KeptReason reason) :
    Becomes (At row.key g) nowMs kv (kv.apply (settleWrites kv row terminalState reason nowMs)) :=
  .of_row h (h.consistent.settle hrow hsta hint hclk hrsn)
    (.settle hrow hsta terminalState reason nowMs) hg hrow (by cases terminalState <;> rfl)
    (rowOf_settle kv row terminalState reason nowMs)

theorem Becomes.lease {intent : Option TerminalState} (hg : g row = leasedRow row intent nowMs)
    (hrow : rowOf kv row.key = some row) (hsta : row.state = .reserved) (hclk : ClockOk nowMs) :
    Becomes (At row.key g) nowMs kv (kv.apply (leaseWrites row intent nowMs)) := by
  obtain ⟨-, hres, -⟩ := h.fresh.row _ _ _ row hrow
  have hfits : LeaseFits row nowMs := by
    refine ⟨?_, hclk.2⟩
    simp only [reservationLeaseMs]
    omega
  exact .of_row h (h.consistent.lease intent nowMs hrow hsta hfits)
    (.lease hrow intent nowMs) hg hrow rfl (rowOf_lease intent nowMs)

theorem Becomes.refl_of (hg : ∀ row, rowOf kv key = some row → g row = row) :
    Becomes (At key g) nowMs kv kv := by
  refine ⟨h, .refl kv, fun identity createdAtMs requestId => ?_⟩
  cases hrow : rowOf kv (.reservation identity createdAtMs requestId) with
  | none => exact .none
  | some row =>
    refine .some ?_
    unfold At
    split_ifs with hkey
    · rw [hg row (by rwa [← hkey])]
    · rfl

/-- What an owner writes acts on its row and leaves the others. -/
theorem ownerWrites_becomes (request : KernelQuotaReservationIdentity) (hclk : ClockOk nowMs)
    (action : OwnerAction) (hrsn : ∀ reason, action = .settle .released reason →
      KeptReason reason) :
    Becomes (At request.key (act request nowMs action)) nowMs kv
      (applyIf kv (ownerWrites kv request nowMs action)) := by
  have hidle : (∀ row, rowOf kv request.key = some row → ¬ Applies request row action) →
      Becomes (At request.key (act request nowMs action)) nowMs kv kv :=
    fun hnot => .refl_of h fun row hrow => if_neg (hnot row hrow)
  cases hrow : rowOf kv request.key with
  | none =>
    have hno : ownerWrites kv request nowMs action = none := by
      unfold ownerWrites
      cases action <;> simp [hrow]
    rw [hno]
    exact hidle fun row hfd => by rw [hrow] at hfd; cases hfd
  | some row =>
    have hkey : row.key = request.key := (h.consistent.row_spec hrow).1
    by_cases happ : Applies request row action
    · have hact : act request nowMs action row = rowAfter nowMs row action := if_pos happ
      rw [← hkey] at hrow ⊢
      cases action with
      | intent terminalState =>
        have hwrs : ownerWrites kv request nowMs (.intent terminalState)
            = some (leaseWrites row (some terminalState) nowMs) := by
          simp only [ownerWrites, ← hkey, hrow]
          exact if_pos happ
        rw [hwrs]
        exact .lease h hact hrow happ.reserved hclk
      | settle terminalState reason =>
        have hwrs : ownerWrites kv request nowMs (.settle terminalState reason)
            = some (settleWrites kv row terminalState reason nowMs) := by
          simp only [ownerWrites, ← hkey, hrow]
          exact if_pos happ
        rw [hwrs]
        refine .settle h hact hrow happ.reserved
          (kernelReservationPrecondition_eq_none.mp happ).2.2 hclk ?_
        rintro rfl
        exact hrsn reason rfl
      | renew =>
        have hwrs : ownerWrites kv request nowMs .renew
            = some (leaseWrites row row.terminalIntent nowMs) := by
          simp only [ownerWrites, ← hkey, hrow]
          exact if_pos happ
        rw [hwrs]
        exact .lease h hact hrow happ.reserved hclk
    · have hno : ownerWrites kv request nowMs action = none := by
        unfold ownerWrites
        cases action <;> simp only [hrow] <;> exact if_neg happ
      rw [hno]
      refine hidle fun found hfd => ?_
      cases hrow.symm.trans hfd
      exact happ

end

end Becomes

/-! ### Operations keep stores corresponding -/

/-- A row is left alone, or it has expired and is settled. -/
def Reclaimed (clock : ℤ) (_ : KvKey) (old new : KernelQuotaReservationRowV2) : Prop :=
  new = old ∨ ∃ target reason, Expired clock old target ∧
    new = settledKernelReservationRow old target reason clock

section Corresponding

section

variable (h : Corresponding clock a b)

include h

theorem Corresponding.symm : Corresponding clock b a where
  left := h.right
  right := h.left
  frames := h.frames.symm
  rows identity frame hfrm requestId := by
    rw [← h.frames.frames] at hfrm
    have hrel := h.rows identity frame hfrm requestId
    generalize rowOf a _ = ra at hrel ⊢
    generalize rowOf b _ = rb at hrel ⊢
    cases hrel with
    | none => exact .none
    | some hcorr => exact .some hcorr.symm

theorem Corresponding.mono (hle : clock ≤ nowMs) : Corresponding nowMs a b where
  left := ⟨h.left.consistent, h.left.fresh.mono hle⟩
  right := ⟨h.right.consistent, h.right.fresh.mono hle⟩
  frames := h.frames
  rows identity frame hfrm requestId := by
    have hrel := h.rows identity frame hfrm requestId
    generalize rowOf a _ = ra at hrel ⊢
    generalize rowOf b _ = rb at hrel ⊢
    cases hrel with
    | none => exact .none
    | some hcorr => exact .some (hcorr.mono hle)

/-- **The step of the simulation**: rows that are rewritten alike on both sides correspond again. -/
theorem Corresponding.becomes
    {f g : KvKey → KernelQuotaReservationRowV2 → KernelQuotaReservationRowV2 → Prop}
    (ha : Becomes f clock a a') (hb : Becomes g clock b b')
    (hrows : ∀ identity frame requestId ra rb na nb, frameOf a identity = some frame →
      rowOf a (.reservation identity frame.createdAtMs requestId) = some ra →
      rowOf b (.reservation identity frame.createdAtMs requestId) = some rb →
      RowCorr clock ra rb → f (.reservation identity frame.createdAtMs requestId) ra na →
      g (.reservation identity frame.createdAtMs requestId) rb nb → RowCorr clock na nb) :
    Corresponding clock a' b' where
  left := ha.sound
  right := hb.sound
  frames := ha.frames.symm.trans (h.frames.trans hb.frames)
  rows identity frame hfrm requestId := by
    rw [← ha.frames.frames] at hfrm
    have hrel := h.rows identity frame hfrm requestId
    have harel := ha.rows identity frame.createdAtMs requestId
    have hbrel := hb.rows identity frame.createdAtMs requestId
    have hrow := hrows identity frame requestId
    generalize rowOf a' _ = oa at harel ⊢
    generalize rowOf b' _ = ob at hbrel ⊢
    cases hra : rowOf a (.reservation identity frame.createdAtMs requestId) with
    | none =>
      rw [hra] at hrel harel
      cases harel
      generalize hrb : rowOf b (.reservation identity frame.createdAtMs requestId) = rb
        at hrel hbrel
      cases hrel
      cases hbrel
      exact .none
    | some ra =>
      rw [hra] at hrel harel
      cases hrb : rowOf b (.reservation identity frame.createdAtMs requestId) with
      | none => rw [hrb] at hrel; cases hrel
      | some rb =>
        rw [hrb] at hrel hbrel
        cases hrel with
        | some hcorr =>
          cases harel with
          | some hf =>
            cases hbrel with
            | some hg => exact .some (hrow ra rb _ _ hfrm hra hrb hcorr hf hg)

theorem Corresponding.reclaim_left (ha : Becomes (Reclaimed clock) clock a a') :
    Corresponding clock a' b := by
  refine h.becomes (g := fun _ old new => new = old) ha ⟨h.right, .refl b, ?_⟩ ?_
  · intro identity createdAtMs requestId
    cases rowOf b (.reservation identity createdAtMs requestId) with
    | none => exact .none
    | some row => exact .some rfl
  · rintro identity frame requestId ra rb na nb - - - hcorr (rfl | ⟨target, reason, hexp, rfl⟩) rfl
    · exact hcorr
    · exact hcorr.reclaimed hexp reason

/-- The owner acts on both sides. -/
theorem Corresponding.act (ha : Becomes (At request.key (act request clock action)) clock a a')
    (hb : Becomes (At request.key (Kernel.act request clock action)) clock b b')
    (hok : ∀ frame ra rb, frameOf a request.identity = some frame →
      frame.createdAtMs = request.windowCreatedAtMs → rowOf a request.key = some ra →
      rowOf b request.key = some rb → Overtaken ra rb → action.Releases ∨
      ¬ Applies request ra action ∧ ¬ Applies request rb action) :
    Corresponding clock a' b' := by
  refine h.becomes ha hb ?_
  intro identity frame requestId ra rb na nb hfrm hra hrb hcorr hna hnb
  unfold At at hna hnb
  split_ifs at hna hnb with hkey
  · subst hna hnb
    obtain ⟨rfl, hcr, -⟩ := KvKey.reservation.inj hkey
    rw [hkey] at hra hrb
    exact hcorr.act (hok frame ra rb hfrm hcr hra hrb)
  · subst hna hnb
    exact hcorr

end

end Corresponding

/-! ### A reservation in both stores -/

/-- The window in which a request would be reserved. -/
def currentWindow (kv : KernelKv) (identity : KernelQuotaIdentity) (windowMs nowMs : ℤ) :
    KernelQuotaWindowV2 :=
  (windowForEffectivePolicy (windowOf kv identity) identity windowMs nowMs).window

/-- The frame of the window in which a request would be reserved. -/
def currentFrame (frame : Option WindowFrame) (windowMs nowMs : ℤ) : WindowFrame :=
  match frame with
  | none => ⟨nowMs, nowMs + windowMs, windowMs, 0⟩
  | some frame =>
    if frame.appliedWindowMs ≠ windowMs ∨ frame.usageResetAtMs ≤ nowMs then
      ⟨nowMs, nowMs + windowMs, windowMs, 0⟩
    else frame

section Current

variable {identity : KernelQuotaIdentity}

section

variable (h : Sound nowMs kv) (heff : effectivePolicy kv identity = .ok effective)

include h heff

theorem Sound.rowOf_eq_none_of_replaced
    (hrepl : Replaced (windowOf kv identity) effective.windowMs nowMs) (requestId : String) :
    rowOf kv (.reservation identity nowMs requestId) = none := by
  rw [Option.eq_none_iff_forall_ne_some]
  intro row hrow
  obtain ⟨-, -, hnow⟩ := h.fresh.row _ _ _ row hrow
  obtain ⟨frame, hfrm, -, hrst, happ⟩ := hnow rfl
  obtain ⟨window, hwin, rfl⟩ := Option.map_eq_some_iff.mp hfrm
  rcases hrepl window hwin with hlen | hover
  · exact hlen (happ effective heff)
  · exact absurd hrst (not_lt.mpr hover)

/-- A window that is about to be replaced has no rows yet. -/
theorem Sound.rowCount_eq_zero_of_replaced
    (hrepl : Replaced (windowOf kv identity) effective.windowMs nowMs) (state : ReservationState) :
    rowCount kv identity nowMs state = 0 := by
  rw [rowCount, Kv.count_eq_card, Finset.card_eq_zero, Finset.eq_empty_iff_forall_notMem]
  intro key hmem
  obtain ⟨value, hval, hrow⟩ := Kv.mem_matching.mp hmem
  unfold isRow at hrow
  split at hrow
  · next other createdAtMs requestId row =>
    obtain ⟨rfl, hcr, -⟩ := of_decide_eq_true hrow
    have hst := rowOf_eq_some.mpr hval
    obtain ⟨-, hkey, -⟩ := KvKey.reservation.inj (h.consistent.row_spec hst).1
    rw [hcr] at hkey
    subst hkey
    rw [h.rowOf_eq_none_of_replaced heff hrepl] at hst
    cases hst
  · cases hrow

/-- The window of the moment counts its reserved rows, and its frame is that of the moment. -/
theorem Sound.currentWindow_spec : let window := currentWindow kv identity effective.windowMs nowMs
    window.reservedRequests = rowCount kv identity window.createdAtMs .reserved ∧
      currentFrame (frameOf kv identity) effective.windowMs nowMs
        = ⟨window.createdAtMs, window.usageResetAtMs, window.appliedWindowMs,
          window.usageRequests - rowCount kv identity window.createdAtMs .committed⟩ ∧
      window.createdAtMs ≤ nowMs ∧ nowMs < window.usageResetAtMs ∧
      window.appliedWindowMs = effective.windowMs := by
  obtain ⟨hlen, -⟩ := PolicyInForce.bounds ⟨_, _, _, heff⟩
  dsimp only
  unfold currentWindow currentFrame frameOf
  rcases windowForEffectivePolicy_replaced (windowOf kv identity) identity effective.windowMs nowMs
    with ⟨hrepl, hwin⟩ | ⟨hkept, window, hst, hwin⟩
  · rw [hwin]
    have hzero := h.rowCount_eq_zero_of_replaced heff hrepl
    simp only [newWindow, hzero]
    refine ⟨rfl, ?_, le_rfl, by omega, trivial⟩
    cases hold : windowOf kv identity with
    | none => rfl
    | some old =>
      exact if_pos (hrepl old hold)
  · rw [hwin]
    rw [Option.mem_def] at hst
    have hfrm := h.fresh.window identity _ (by rw [frameOf, hst]; rfl)
    have hin : ¬ (window.appliedWindowMs ≠ effective.windowMs ∨ window.usageResetAtMs ≤ nowMs) := by
      intro hout
      refine hkept fun found hfd => ?_
      cases hst.symm.trans hfd
      exact hout
    rw [hst]
    refine ⟨h.consistent.counts identity window hst, if_neg hin, hfrm, ?_, ?_⟩
    · exact not_le.mp fun hle => hin (.inr hle)
    · exact not_not.mp fun hne => hin (.inl hne)

end

/-- The reservation fits into the safe integers. -/
structure ReserveFits (window : KernelQuotaWindowV2) (requestId route : String) : Prop where
  id : requestId ≠ ""
  route : route ≠ ""
  bound : window.usageRequests + window.reservedRequests < maxSafeInteger
  reset : window.usageResetAtMs ≤ maxSafeInteger

theorem Sound.validWindow_currentWindow (h : Sound nowMs kv)
    (heff : effectivePolicy kv identity = .ok effective) (hclk : ClockOk nowMs)
    (hrst : (currentWindow kv identity effective.windowMs nowMs).usageResetAtMs ≤ maxSafeInteger) :
    validWindow (currentWindow kv identity effective.windowMs nowMs) identity = true := by
  obtain ⟨hlen, -⟩ := PolicyInForce.bounds ⟨_, _, _, heff⟩
  unfold currentWindow at hrst ⊢
  rcases windowForEffectivePolicy_replaced (windowOf kv identity) identity effective.windowMs nowMs
    with ⟨-, hwin⟩ | ⟨-, window, hst, hwin⟩
  · rw [hwin] at hrst ⊢
    exact (validWindow_newWindow_iff hlen).mpr ⟨hclk.1, hrst⟩
  · rw [hwin]
    exact h.consistent.validWindow hst

variable {requestId route : String}

/-- A reservation in the window of the moment keeps the store sound. -/
theorem Sound.reserve (h : Sound nowMs kv)
    (heff : effectivePolicy kv identity = .ok effective) (hclk : ClockOk nowMs)
    (hfits : ReserveFits (currentWindow kv identity effective.windowMs nowMs) requestId route)
    (habs : kv.value (.reservation identity
      (currentWindow kv identity effective.windowMs nowMs).createdAtMs requestId) = none) :
    Sound nowMs (kv.apply (reserveWrites identity
      (currentWindow kv identity effective.windowMs nowMs) requestId route nowMs)) ∧
    ∀ other, frameOf (kv.apply (reserveWrites identity
        (currentWindow kv identity effective.windowMs nowMs) requestId route nowMs)) other
      = if other = identity then some (currentFrame (frameOf kv identity) effective.windowMs nowMs)
        else frameOf kv other := by
  obtain ⟨hcnt, hfrm, hcr, hrst, happlied⟩ := h.currentWindow_spec heff
  have hwin := h.validWindow_currentWindow heff hclk hfits.reset
  generalize currentWindow kv identity effective.windowMs nowMs = window at *
  have hfrms : ∀ other, frameOf (kv.apply (reserveWrites identity window requestId route nowMs))
      other = if other = identity
        then some (currentFrame (frameOf kv identity) effective.windowMs nowMs)
        else frameOf kv other := by
    intro other
    rw [hfrm]
    unfold frameOf
    rw [windowOf_reserve]
    split_ifs with hsame
    · subst hsame
      have hcom := (rowCount_reserve window requestId route nowMs habs).of_reserve.2
      simp only [Option.map_some, reservedWindow, hcom]
    · rw [rowCount_reserve_of_ne window requestId route nowMs hsame]
  refine ⟨⟨?_, ?_, ?_⟩, hfrms⟩
  · obtain ⟨hidt, husg, hres, hpos, happ, hcre, -⟩ := validWindow_iff.mp hwin
    have hmax := hclk.safe
    have hvld := (validReservation_reserved_iff hfits.id hfits.route hclk.1
      (le_maxSafeInteger hmax) hidt husg hres.1 hpos.1
      ⟨happ.1, fun _ => happ.2⟩ hcre).mpr ⟨hclk.2, by have := hfits.bound; omega, hfits.reset,
        by omega⟩
    exact h.consistent.reserve window requestId route nowMs habs hcnt hfits.bound hvld.1
      hvld.2
  · intro other frame hoth
    rw [hfrms] at hoth
    split_ifs at hoth with hsame
    · cases hoth
      rw [hfrm]
      exact hcr
    · exact h.fresh.window other frame hoth
  · intro other createdAtMs otherId row hrow
    have hpol : Kernel.effectivePolicy (kv.apply (reserveWrites identity window requestId route
        nowMs)) other = Kernel.effectivePolicy kv other :=
      effectivePolicy_apply (by simp [reserveWrites, Kv.written])
        (by simp [reserveWrites, Kv.written]) (by simp [reserveWrites, Kv.written])
    rw [hfrms, hpol]
    rw [rowOf_reserve] at hrow
    have hin : other = identity → createdAtMs = nowMs → window.createdAtMs = nowMs →
        ∃ frame, (if other = identity
          then some (currentFrame (frameOf kv identity) effective.windowMs nowMs)
          else frameOf kv other) = some frame ∧ frame.createdAtMs = nowMs ∧
          nowMs < frame.usageResetAtMs ∧
          ∀ inForce, Kernel.effectivePolicy kv other = .ok inForce →
            frame.appliedWindowMs = inForce.windowMs := by
      rintro rfl - hnow
      refine ⟨_, if_pos rfl, ?_⟩
      rw [hfrm]
      refine ⟨hnow, hrst, fun inForce hinForce => ?_⟩
      cases heff.symm.trans hinForce
      exact happlied
    split_ifs at hrow with hkey
    · cases hrow
      cases hkey
      exact ⟨hcr, le_rfl, fun hnow => hin rfl hnow hnow⟩
    · obtain ⟨hle, hreservedAt, hnow⟩ := h.fresh.row other createdAtMs otherId row hrow
      refine ⟨hle, hreservedAt, fun heq => ?_⟩
      obtain ⟨frame, hold, hfc, hfr, hfa⟩ := hnow heq
      by_cases hsame : other = identity
      · -- the window created at this very time is kept
        subst hsame
        refine hin rfl heq ?_
        have hcur : currentFrame (frameOf kv other) effective.windowMs nowMs = frame := by
          rw [hold]
          refine if_neg fun hout => ?_
          rcases hout with hne | hover
          · exact hne (hfa effective heff)
          · exact absurd hfr (not_lt.mpr hover)
        rw [hcur] at hfrm
        rw [hfrm] at hfc
        exact hfc
      · rw [if_neg hsame]
        exact ⟨frame, hold, hfc, hfr, hfa⟩

section

variable (h : Corresponding nowMs a b) (heff : effectivePolicy a identity = .ok effective)

include h heff

/-- The rows of the moment's windows correspond. -/
theorem Corresponding.current_rows (requestId : String) : Option.Rel (RowCorr nowMs)
      (rowOf a (.reservation identity
        (currentFrame (frameOf a identity) effective.windowMs nowMs).createdAtMs requestId))
      (rowOf b (.reservation identity
        (currentFrame (frameOf a identity) effective.windowMs nowMs).createdAtMs requestId)) := by
  have hrepl : ∀ kv, frameOf kv identity = frameOf a identity →
      (∀ frame, frameOf a identity = some frame → frame.appliedWindowMs ≠ effective.windowMs ∨
        frame.usageResetAtMs ≤ nowMs) →
      Replaced (windowOf kv identity) effective.windowMs nowMs := by
    intro kv hkv hout window hwin
    exact hout _ (by rw [← hkv, frameOf, Option.mem_def.mp hwin]; rfl)
  have hno : (∀ frame, frameOf a identity = some frame →
      frame.appliedWindowMs ≠ effective.windowMs ∨ frame.usageResetAtMs ≤ nowMs) →
      Option.Rel (RowCorr nowMs) (rowOf a (.reservation identity nowMs requestId))
        (rowOf b (.reservation identity nowMs requestId)) := by
    intro hout
    rw [h.left.rowOf_eq_none_of_replaced heff (hrepl a rfl hout),
      h.right.rowOf_eq_none_of_replaced (by rwa [← h.frames.effectivePolicy])
        (hrepl b (h.frames.frames identity).symm hout)]
    exact .none
  cases hfrm : frameOf a identity with
  | none => exact hno fun frame hsome => by rw [hfrm] at hsome; cases hsome
  | some frame =>
    unfold currentFrame
    dsimp only
    split_ifs with hout
    · refine hno fun found hsome => ?_
      cases hfrm.symm.trans hsome
      exact hout
    · exact h.rows identity frame hfrm requestId

/-- Both sides reserve. -/
theorem Corresponding.reserve (hclk : ClockOk nowMs)
    (hfitsA : ReserveFits (currentWindow a identity effective.windowMs nowMs) requestId route)
    (hfitsB : ReserveFits (currentWindow b identity effective.windowMs nowMs) requestId route)
    (habsentA : a.value
      (.reservation identity (currentWindow a identity effective.windowMs nowMs).createdAtMs
      requestId) = none)
    (habsentB : b.value
      (.reservation identity (currentWindow b identity effective.windowMs nowMs).createdAtMs
      requestId) = none) :
    Corresponding nowMs
      (a.apply (reserveWrites identity (currentWindow a identity effective.windowMs nowMs)
        requestId route nowMs))
      (b.apply (reserveWrites identity (currentWindow b identity effective.windowMs nowMs)
        requestId route nowMs)) := by
  have heffectiveB : effectivePolicy b identity = .ok effective := by
    rwa [← h.frames.effectivePolicy]
  obtain ⟨hsoundA, hframesA⟩ := h.left.reserve heff hclk hfitsA habsentA
  obtain ⟨hsoundB, hframesB⟩ := h.right.reserve heffectiveB hclk hfitsB habsentB
  obtain ⟨-, hframeA, -⟩ := h.left.currentWindow_spec heff
  obtain ⟨-, hframeB, -⟩ := h.right.currentWindow_spec heffectiveB
  have hrows := h.current_rows heff
  rw [← h.frames.frames] at hframeB
  generalize currentWindow a identity effective.windowMs nowMs = wa at *
  generalize currentWindow b identity effective.windowMs nowMs = wb at *
  -- it is the same window in both
  obtain ⟨hcr, hrst, -, -⟩ := WindowFrame.mk.inj (hframeA.symm.trans hframeB)
  refine ⟨hsoundA, hsoundB, ⟨?_, ?_⟩, ?_⟩
  · intro key hkey
    rw [value_reserve_of_shared wa requestId route nowMs hkey.1 hkey.2,
      value_reserve_of_shared wb requestId route nowMs hkey.1 hkey.2]
    exact h.frames.shared key hkey
  · intro other
    rw [hframesA, hframesB, h.frames.frames other, h.frames.frames identity]
  · intro other frame hfrm otherId
    rw [rowOf_reserve, rowOf_reserve, ← hcr]
    by_cases hkey : KvKey.reservation other frame.createdAtMs otherId
        = .reservation identity wa.createdAtMs requestId
    · rw [if_pos hkey, if_pos hkey]
      refine .some ?_
      have heq : reservedRow identity wb requestId route nowMs
          = reservedRow identity wa requestId route nowMs := by
        unfold reservedRow
        rw [hcr, hrst]
      rw [heq]
      exact .refl _
    · rw [if_neg hkey, if_neg hkey]
      rw [hframesA] at hfrm
      split_ifs at hfrm with heq
      · cases hfrm
        rw [heq]
        exact hrows otherId
      · exact h.rows other frame hfrm otherId

end

end Current

end UbqGateway.Kernel
