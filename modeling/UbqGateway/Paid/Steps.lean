import UbqGateway.Paid.LedgerBackfill

/-!
# What a commit of the paid fallback does

`LedgerStep clockOk w label rows` says once, for each kind of commit of the ledger, which rows it
writes and what held in the world `w` it is made in; `PaidStep` adds the commits that write no row
of the ledger, the deletion guard, the deletion of a key's rows and the cursor of the backfill.  A
client decides from entries that it read earlier.  What it checks is current when the commit
succeeds; where it does not check what it read, the step says what is still known.

`PaidStep.request_change` sums up what a step can do to one request row.  That the programs make no
other commits is proved in `Guarantee`.
-/

namespace UbqGateway.Paid

/-- The histories of the paid fallback's store. -/
abbrev PaidWorld := World PaidKey PaidValue PaidCommit

/-! ### Reading the store -/

section Views

variable (kv : PaidKv)

/-- The request row that the store holds. -/
def requestOf (keyId requestId : String) : Option PaidFallbackRequestV3 :=
  asRequest (kv.get (.request keyId requestId))

/-- The window that the store holds. -/
def windowOf (keyId : String) (resetAtMs : ℤ) : Option PaidFallbackWindowV3 :=
  asWindow (kv.get (.window keyId resetAtMs))

/-- The marker that the store holds. -/
def pendingOf (keyId requestId : String) : Option PaidFallbackPendingV3 :=
  asPending (kv.get (.pending keyId requestId))

/-- The gate that the store holds. -/
def gateOf : Option PaidFallbackReconciliationGateV3 := asGate (kv.get .reconciliationGate)

/-- The deletion guard that the store holds. -/
def guardOf (keyId : String) : Option PaidFallbackDeletionGuardV3 :=
  asDeletionGuard (kv.get (.deletionGuard keyId))

/-- The cursor of the backfill that the store holds. -/
def cursorOf : Option PaidKey := asCursor (kv.get .backfillCursor)

/-- The rollup that the store holds, if it passes its validator. -/
def usageRollupOf (identity : NativePaidRollupIdentity) : Option PaidFallbackUsageRollup :=
  asUsageRollup (kv.get (.usageRollup identity))

end Views

/-! ### Reading after a commit -/

section Apply

variable (kv : PaidKv) (rows : LedgerWrite)

theorem written_pendingWrite (key : PaidKey) (keyId requestId : String)
    (o : Option (Option PaidFallbackPendingV3)) :
    Kv.written key (o.map (pendingWrite keyId requestId)).toList = o.bind fun marker =>
      if PaidKey.pending keyId requestId = key then some (marker.map .pending) else none := by
  rcases o with _ | _ | marker
  · rfl
  · simp [Kv.written, pendingWrite]
  · simp [Kv.written, pendingWrite]

theorem key_pendingWrite (keyId requestId : String) (marker : Option PaidFallbackPendingV3) :
    (pendingWrite keyId requestId marker).key = .pending keyId requestId := by
  cases marker <;> rfl

theorem written_ledgerWrite_of_key_ne (hreq : ∀ k r, key ≠ .request k r)
    (hpend : ∀ k r, key ≠ .pending k r) (hroll : ∀ identity, key ≠ .usageRollup identity)
    (hgate : key ≠ .reconciliationGate) (hwin : ∀ k resetAtMs, key ≠ .window k resetAtMs) :
    Kv.written key rows.toList = none := by
  refine Kv.written_eq_none fun a ha => ?_
  simp only [LedgerWrite.toList, List.mem_append, Option.mem_toList, Option.map_eq_some_iff] at ha
  rcases ha with (((⟨row, -, rfl⟩ | ⟨marker, -, rfl⟩) | ⟨rollup, -, rfl⟩) | ⟨gate, -, rfl⟩) |
    ⟨window, -, rfl⟩
  · exact (hreq _ _).symm
  · rw [key_pendingWrite]
    exact (hpend _ _).symm
  · exact (hroll _).symm
  · exact hgate.symm
  · exact (hwin _ _).symm

theorem get_request_apply (k r : String) : (kv.apply rows.toList).get (.request k r) =
    match rows.request with
    | some row => if rows.keyId = k ∧ rows.requestId = r then some ⟨.request row, kv.stamp + 1⟩
      else kv.get (.request k r)
    | none => kv.get (.request k r) := by
  have hwr : Kv.written (.request k r) rows.toList = rows.request.bind fun row =>
      if rows.keyId = k ∧
        rows.requestId = r then some (some (PaidValue.request row)) else none := by
    simp [LedgerWrite.toList, Kv.written_append, Kv.written_map_set, written_pendingWrite]
  rw [Kv.get_apply, hwr]
  cases rows.request with
  | none => rfl
  | some row => by_cases hkey : rows.keyId = k ∧ rows.requestId = r <;> simp [hkey]

theorem requestOf_apply (k r : String) : requestOf (kv.apply rows.toList) k r =
    if rows.keyId = k ∧ rows.requestId = r then rows.request.or (requestOf kv k r)
    else requestOf kv k r := by
  unfold requestOf
  rw [get_request_apply]
  cases rows.request with
  | none => simp
  | some row =>
    by_cases hkey : rows.keyId = k ∧ rows.requestId = r
    · simp [hkey, asRequest]
    · simp [hkey]

theorem pendingOf_apply (k r : String) : pendingOf (kv.apply rows.toList) k r =
    if rows.keyId = k ∧ rows.requestId = r then rows.pending.getD (pendingOf kv k r)
    else pendingOf kv k r := by
  have hwr : Kv.written (.pending k r) rows.toList = rows.pending.bind fun marker =>
      if rows.keyId = k ∧ rows.requestId = r then some (marker.map PaidValue.pending)
      else none := by
    simp [LedgerWrite.toList, Kv.written_append, Kv.written_map_set, written_pendingWrite]
  unfold pendingOf
  rw [Kv.get_apply, hwr]
  cases rows.pending with
  | none => simp
  | some marker =>
    by_cases hkey : rows.keyId = k ∧ rows.requestId = r
    · cases marker <;> simp [hkey, asPending]
    · simp [hkey]

theorem windowOf_apply (k : String) (resetAtMs : ℤ) : windowOf (kv.apply rows.toList) k resetAtMs =
    if rows.keyId = k then match rows.window with
      | some window => if window.1 = resetAtMs then some window.2 else windowOf kv k resetAtMs
      | none => windowOf kv k resetAtMs
    else windowOf kv k resetAtMs := by
  have hwr : Kv.written (.window k resetAtMs) rows.toList = rows.window.bind fun window =>
      if rows.keyId = k ∧ window.1 = resetAtMs then some (some (PaidValue.window window.2))
      else none := by
    simp [LedgerWrite.toList, Kv.written_append, Kv.written_map_set, written_pendingWrite]
  unfold windowOf
  rw [Kv.get_apply, hwr]
  cases rows.window with
  | none => simp
  | some window =>
    by_cases hkey : rows.keyId = k
    · by_cases hrst : window.1 = resetAtMs
      · simp [hkey, hrst, asWindow]
      · simp [hkey, hrst]
    · simp [hkey]

theorem get_gate_apply : (kv.apply rows.toList).get .reconciliationGate = match rows.gate with
    | some gate => some ⟨.gate gate, kv.stamp + 1⟩
    | none => kv.get .reconciliationGate := by
  have hwr : Kv.written .reconciliationGate rows.toList = rows.gate.bind fun gate =>
      some (some (PaidValue.gate gate)) := by
    simp [LedgerWrite.toList, Kv.written_append, Kv.written_map_set, written_pendingWrite]
  rw [Kv.get_apply, hwr]
  cases rows.gate <;> rfl

theorem gateOf_apply : gateOf (kv.apply rows.toList) = rows.gate.or (gateOf kv) := by
  unfold gateOf
  rw [get_gate_apply]
  cases rows.gate <;> rfl

theorem get_usageRollup_apply (identity : NativePaidRollupIdentity) :
    (kv.apply rows.toList).get (.usageRollup identity) = match rows.rollup with
    | some rollup => if rollup.1 = identity then some ⟨.rollup rollup.2, kv.stamp + 1⟩
      else kv.get (.usageRollup identity)
    | none => kv.get (.usageRollup identity) := by
  have hwr : Kv.written (.usageRollup identity) rows.toList = rows.rollup.bind fun rollup =>
      if rollup.1 = identity then some (some (PaidValue.rollup rollup.2)) else none := by
    simp [LedgerWrite.toList, Kv.written_append, Kv.written_map_set, written_pendingWrite]
  rw [Kv.get_apply, hwr]
  cases rows.rollup with
  | none => rfl
  | some rollup =>
    by_cases hidt : rollup.1 = identity
    · simp [hidt]
    · simp [hidt]

theorem guardOf_apply (k : String) : guardOf (kv.apply rows.toList) k = guardOf kv k := by
  unfold guardOf
  rw [Kv.get_apply_of_untouched]
  exact written_ledgerWrite_of_key_ne rows (by simp) (by simp) (by simp) (by simp) (by simp)

theorem cursorOf_apply : cursorOf (kv.apply rows.toList) = cursorOf kv := by
  unfold cursorOf
  rw [Kv.get_apply_of_untouched]
  exact written_ledgerWrite_of_key_ne rows (by simp) (by simp) (by simp) (by simp) (by simp)

end Apply

/-! ### The steps -/

section Step

variable (clockOk : ℤ → ℤ → Prop) (w : PaidWorld)

/-- The window that a client closes a request in: the one the store holds, or none, if it found none
at a moment at which the request was stored.  A window that was not found is not checked. -/
def WindowRead (keyId requestId : String) (resetAtMs : ℤ) (window : Option PaidFallbackWindowV3) :
    Prop :=
  window = windowOf w.store keyId resetAtMs ∨
    window = none ∧ ∃ n ≤ w.length, windowOf (w.storeAt n) keyId resetAtMs = none ∧
      (requestOf (w.storeAt n) keyId requestId).isSome = true

/-- The request is not billed any more: its row is settled or not billed, or was never stored or
deleted. -/
def NotBillable (kv : PaidKv) (keyId requestId : String) : Prop :=
  ∀ row, requestOf kv keyId requestId = some row → isBillableRequestV3 row = false

/-- No deferral of the history was made with a clock reading so old that the delay it adds ends
before the time that the marker says already. -/
def DeferralsForward : Prop :=
  ∀ kv k r now kv', w.Committed kv (.defer k r now) kv' → ∀ row marker,
    requestOf kv k r = some row → pendingOf kv k r = some marker →
      marker.nextReconciliationAtMs ≤ now + retryDelayMs (row.reconciliationAttempts + 1)

/-- Every marker of the history says a time that is a safe count. -/
def MarkersSafe : Prop :=
  ∀ n ≤ w.length, ∀ k r marker, pendingOf (w.storeAt n) k r = some marker →
    isSafeUsageCount marker.nextReconciliationAtMs = true

/-- A request that a provider may bill: its row is dispatched and billable, and its marker says when
it is to be reconciled. -/
structure Awaiting (kv : PaidKv) (keyId requestId : String) (dueAtMs : ℤ) : Prop where
  row : ∃ row, requestOf kv keyId requestId = some row ∧ isBillableRequestV3 row = true ∧
    row.dispatchState = .dispatched
  marker : ∃ marker, pendingOf kv keyId requestId = some marker ∧
    marker.nextReconciliationAtMs = dueAtMs

inductive LedgerStep : PaidCommit → LedgerWrite → Prop
  -- an unlimited admission neither reads nor writes the window
  | admission (input : AdmissionInput) (plan : NativePaidAdmissionWrite) (now : ℤ)
      (hnow : w.Showed clockOk now)
      (hvld : isInvalidAdmissionPolicy input.toNativePaidAdmissionInput input.unlimited
        input.maximumExposureMicrocredits = false)
      (hreq : requestOf w.store input.keyId input.requestId = none)
      (hgd : guardOf w.store input.keyId = none)
      (hplan : planPaidFallbackAdmissionV3 input.toNativePaidAdmissionInput none
        (if input.unlimited = true then none
          else windowOf w.store input.keyId input.windowResetAtMs)
        none input.unlimited input.maximumExposureMicrocredits now = .write plan) :
      LedgerStep (.admission input.toNativePaidAdmissionInput)
        { keyId := input.keyId
          requestId := input.requestId
          request := some plan.request
          pending := some (some plan.pending)
          gate := if plan.checkGate = true
            then some (paidFallbackReconciliationGateDueNow (gateOf w.store) now) else none
          window := plan.window.map fun window => (input.windowResetAtMs, window) }
  | exhaustedPolicy (input : AdmissionInput) (window : PaidFallbackWindowV3) (now : ℤ)
      (hlim : input.unlimited = false)
      (hgd : guardOf w.store input.keyId = none)
      (hplan : planPaidFallbackAdmissionV3 input.toNativePaidAdmissionInput none
        (windowOf w.store input.keyId input.windowResetAtMs) none input.unlimited
        input.maximumExposureMicrocredits now = .exhaustedPolicy window) :
      LedgerStep (.exhaustedPolicy input.keyId input.windowResetAtMs)
        { keyId := input.keyId
          requestId := input.requestId
          window := some (input.windowResetAtMs, window) }
  | lifecycle (keyId requestId : String) (row : PaidFallbackRequestV3)
      (patch : PaidFallbackRequestLifecyclePatchV3) (plan : NativePaidLifecyclePlan) (now : ℤ)
      (hnow : w.Showed clockOk now) (hrow : requestOf w.store keyId requestId = some row)
      (hplan : planPaidFallbackLifecycleV3 row patch now = some plan) :
      LedgerStep (.lifecycle keyId requestId)
        { keyId := keyId
          requestId := requestId
          request := some plan.request
          gate := if plan.readGate = true ∧ (plan.dispatchBoundary = true ∨
              paidFallbackReconciliationGateNeedsArm (gateOf w.store) now = true)
            then some (paidFallbackReconciliationGateDueNow (gateOf w.store) now) else none }
  | release (keyId requestId : String) (row : PaidFallbackRequestV3)
      (window : Option PaidFallbackWindowV3) (plan : NativePaidReleasePlan)
      (allowDispatchIntent : Bool) (now : ℤ) (hnow : w.Showed clockOk now)
      (hrow : requestOf w.store keyId requestId = some row)
      (hwin : WindowRead w keyId requestId row.windowResetAtMs window)
      (hplan : planPaidFallbackReleaseV3 (some row) window (gateOf w.store) allowDispatchIntent now
        = some plan) :
      LedgerStep (.release keyId requestId window.isSome)
        { keyId := keyId
          requestId := requestId
          request := some plan.request
          pending := some none
          gate := some plan.gate
          window := plan.window.map fun window => (row.windowResetAtMs, window) }
  | expedite (keyId requestId : String) (pending : PaidFallbackPendingV3) (now : ℤ)
      (hnow : w.Showed clockOk now) (hpend : pendingOf w.store keyId requestId = some pending) :
      LedgerStep (.expedite keyId requestId)
        { keyId := keyId
          requestId := requestId
          pending := if now < pending.nextReconciliationAtMs
            then some (some { pending with nextReconciliationAtMs := now }) else none
          gate := some (paidFallbackReconciliationGateDueNow (gateOf w.store) now) }
  -- a deferral does not touch the gate
  | defer (keyId requestId : String) (row : PaidFallbackRequestV3) (pending : PaidFallbackPendingV3)
      (request : PaidFallbackRequestV3) (deferred : PaidFallbackPendingV3) (delay now : ℤ)
      (hnow : w.Showed clockOk now) (hrow : requestOf w.store keyId requestId = some row)
      (hpend : pendingOf w.store keyId requestId = some pending)
      (hplan : planPaidFallbackDeferralV3 (some row) (some pending) now
        = .write request deferred delay) :
      LedgerStep (.defer keyId requestId now)
        { keyId := keyId
          requestId := requestId
          request := some request
          pending := some (some deferred) }
  | cleanup (keyId requestId : String) (now : ℤ) (hnow : w.Showed clockOk now)
      (hcl : NotBillable w.store keyId requestId) :
      LedgerStep (.cleanup keyId requestId)
        { keyId := keyId
          requestId := requestId
          pending := some none
          gate := some (paidFallbackReconciliationGateDueNow (gateOf w.store) now) }
  | settle (keyId requestId : String) (row : PaidFallbackRequestV3)
      (pending : PaidFallbackPendingV3) (window : Option PaidFallbackWindowV3)
      (providerLog : NativePaidProviderLog) (correlation : NativePaidCorrelation)
      (surplusBuyerCostMicro : Option ℤ) (spend now : ℤ) (hnow : w.Showed clockOk now)
      (hrow : requestOf w.store keyId requestId = some row)
      (hpend : pendingOf w.store keyId requestId = some pending)
      (hwin : WindowRead w keyId requestId row.windowResetAtMs window)
      (heva : evaluatePaidFallbackSettlementV3 (some row) (some pending) providerLog
        ⟨correlation, microcreditsPerCredit, surplusBuyerCostMicro⟩ = .settle spend)
      (identity : NativePaidRollupIdentity)
      (hidt : identity = paidFallbackRequestRollupIdentity row correlation)
      (plan : NativePaidReleasePlan)
      (hplan : plan = planPaidFallbackSettlementRowsV3 row window (gateOf w.store) providerLog spend
        (foldIntoRollup identity) now) :
      LedgerStep
        (.settle keyId requestId spend (if foldIntoRollup identity = true
          then some (identity, settlementRollupInput row providerLog spend correlation now)
          else none) window.isSome)
        { keyId := keyId
          requestId := requestId
          request := some plan.request
          pending := some none
          rollup := if foldIntoRollup identity = true
            then some (identity, paidFallbackSettlementRollupV3 row providerLog spend correlation
              (usageRollupOf w.store identity) now)
            else none
          gate := some plan.gate
          window := plan.window.map fun window => (row.windowResetAtMs, window) }
  -- the scan saw every marker that no deferral has moved to an earlier time since
  | recompute (earliestDueAtMs : Option ℤ)
      (hscan : DeferralsForward w → MarkersSafe w → ∀ k r dueAtMs, Awaiting w.store k r dueAtMs →
        ∃ due, earliestDueAtMs = some due ∧ due ≤ dueAtMs) :
      LedgerStep .recompute
        { keyId := ""
          requestId := ""
          gate := some (paidFallbackGateAfterScanV3 earliestDueAtMs) }
  | retention (keyId requestId : String) (row : PaidFallbackRequestV3)
      (hrow : requestOf w.store keyId requestId = some row) :
      LedgerStep (.retention keyId requestId)
        { keyId := keyId, requestId := requestId, request := some row }
  | fold (keyId requestId : String) (row : PaidFallbackRequestV3) (now : ℤ)
      (hrow : requestOf w.store keyId requestId = some row) (hunm : row.usageRollupAtMs = none)
      (identity : NativePaidRollupIdentity)
      (hidt : identity = paidFallbackRequestRollupIdentity row)
      (plan : NativePaidBackfillFold)
      (hplan : plan = planPaidFallbackBackfillFoldV3 row (usageRollupOf w.store identity) now) :
      LedgerStep
        (.fold keyId requestId (plan.rollup.map fun _ => (identity, backfillRollupInput row now)))
        { keyId := keyId
          requestId := requestId
          request := some plan.request
          rollup := plan.rollup.map fun rollup => (identity, rollup) }
  | windowTtl (keyId : String) (resetAtMs : ℤ) (window : PaidFallbackWindowV3)
      (hwin : windowOf w.store keyId resetAtMs = some window) :
      LedgerStep (.windowTtl keyId resetAtMs)
        { keyId := keyId, requestId := "", window := some (resetAtMs, window) }

/-- The keys that hold no row of the ledger. -/
def PaidKey.auxiliary : PaidKey → Bool
  | .reconciliationLease _ | .backfillLease | .backfillState | .backfillWindowCursor
  | .policy _ => true
  | _ => false

/-- The keys that the deletion of a key's state removes. -/
def PaidKey.belongsTo (keyId : String) : PaidKey → Prop
  | .request k _ | .window k _ | .pending k _ | .reconciliationLease k => k = keyId
  | _ => False

/-- The commits that write auxiliary keys only. -/
def PaidCommit.auxiliary : PaidCommit → Bool
  | .policy _ | .lease _ | .windowCursor | .backfillLease | .backfillState => true
  | _ => false

/-- The row is marked as folded. -/
def Marked (kv : PaidKv) (keyId requestId : String) : Prop :=
  ∃ row, requestOf kv keyId requestId = some row ∧ row.usageRollupAtMs.isSome = true

/-- The request was stored at every moment of the history. -/
def StoredThroughout (keyId requestId : String) : Prop :=
  ∀ n ≤ w.length, (requestOf (w.storeAt n) keyId requestId).isSome = true

inductive PaidStep : PaidCommit → List (Write PaidKey PaidValue) → Prop
  | ledger (label : PaidCommit) (rows : LedgerWrite) (h : LedgerStep clockOk w label rows) :
      PaidStep label rows.toList
  | auxiliary (label : PaidCommit) (writes : List (Write PaidKey PaidValue))
      (hlab : label.auxiliary = true) (h : ∀ a ∈ writes, a.key.auxiliary = true) :
      PaidStep label writes
  -- the cursor passes over no row that was neither folded nor found to have nothing to fold
  | cursor (requestKey : PaidKey)
      (h : ∀ k r, PaidKey.request k r ≤ requestKey → StoredThroughout w k r → Marked w.store k r) :
      PaidStep (.cursor (some requestKey)) [.set .backfillCursor (.cursor requestKey)]
  | dropCursor : PaidStep (.cursor none) [.delete .backfillCursor]
  | deletionGuard (keyId : String) (guard : PaidFallbackDeletionGuardV3)
      (hgd : guardOf w.store keyId = none) :
      PaidStep (.deletionGuard keyId) [.set (.deletionGuard keyId) (.deletionGuard guard)]
  -- a deletion is made under the guard, and only when nothing of the key is billable
  | delete (keyId : String) (keys : List PaidKey)
      (hgd : (guardOf w.store keyId).isSome = true)
      (hcl : ∀ requestId, NotBillable w.store keyId requestId)
      (hkeys : ∀ key ∈ keys, key.belongsTo keyId) :
      PaidStep (.delete keyId) (keys.map .delete)

end Step

end UbqGateway.Paid
