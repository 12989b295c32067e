import UbqGateway.Paid.Steps

/-!
# What a step changes

A step is cut along the rows it can change.  `PaidStep.request_change` sums up what a step can do to
one request row: nothing, create it where no guard is set, replace it by a later version of itself
(`Evolves`), or delete it under the guard.  A later version keeps the identity, the window, the
reservation, the model and the creation time of the row, a row that is closed keeps its bill, and a
row that is marked stays marked.

The properties of one request that every step keeps are derived from it; `Run.stable` carries them
along a run.
-/

namespace UbqGateway.Paid

/-! ### Rows -/

/-- `row'` is a later version of `row`. -/
structure Evolves (row row' : PaidFallbackRequestV3) : Prop where
  keyId : row'.keyId = row.keyId
  requestId : row'.requestId = row.requestId
  windowResetAtMs : row'.windowResetAtMs = row.windowResetAtMs
  reservedMicrocredits : row'.reservedMicrocredits = row.reservedMicrocredits
  model : row'.model = row.model
  createdAtMs : row'.createdAtMs = row.createdAtMs
  closed : isBillableRequestV3 row = false → row'.billingState = row.billingState ∧
    row'.spendMicrocredits = row.spendMicrocredits ∧ row'.providerQuota = row.providerQuota
  tokens : isBillableRequestV3 row = false → row'.inputTokens = row.inputTokens ∧
    row'.cachedInputTokens = row.cachedInputTokens ∧ row'.outputTokens = row.outputTokens
  marked : row.usageRollupAtMs.isSome = true → row'.usageRollupAtMs.isSome = true

theorem Evolves.refl (row : PaidFallbackRequestV3) : Evolves row row :=
  ⟨rfl, rfl, rfl, rfl, rfl, rfl, fun _ => ⟨rfl, rfl, rfl⟩, fun _ => ⟨rfl, rfl, rfl⟩, fun h => h⟩

theorem evolves_lifecycle (h : planPaidFallbackLifecycleV3 row patch now = some plan) :
    Evolves row plan.request ∧ plan.request.billingState = row.billingState ∧
      plan.request.usageRollupAtMs = row.usageRollupAtMs ∧
      plan.request.spendMicrocredits = row.spendMicrocredits := by
  unfold planPaidFallbackLifecycleV3 at h
  dsimp only at h
  split at h
  · cases h
    exact ⟨⟨rfl, rfl, rfl, rfl, rfl, rfl, fun _ => ⟨rfl, rfl, rfl⟩, fun _ => ⟨rfl, rfl, rfl⟩,
      fun h => h⟩, rfl, rfl, rfl⟩
  · cases h

theorem planPaidFallbackReleaseV3_eq_some
    (h : planPaidFallbackReleaseV3 (some row) window gate allowDispatchIntent now = some plan) :
    row.billingState = .pending ∧ plan.request = releasedRequest row now ∧
      plan.window = window.map (fun window => closedWindow window row 0 now) ∧
      plan.gate = paidFallbackReconciliationGateDueNow gate now := by
  unfold planPaidFallbackReleaseV3 at h
  dsimp only at h
  split at h
  · next hpend =>
    cases h
    exact ⟨hpend.1, rfl, rfl, rfl⟩
  · cases h

theorem planPaidFallbackDeferralV3_eq_write
    (h : planPaidFallbackDeferralV3 (some row) (some pending) now = .write request deferred delay) :
    isBillableRequestV3 row = true ∧ Evolves row request ∧ isBillableRequestV3 request = true ∧
      request.dispatchState = row.dispatchState ∧ request.usageRollupAtMs = row.usageRollupAtMs ∧
      delay = retryDelayMs (row.reconciliationAttempts + 1) ∧
      deferred = { pending with nextReconciliationAtMs := now + delay } := by
  unfold planPaidFallbackDeferralV3 at h
  dsimp only at h
  split at h
  · next hbill =>
    obtain ⟨rfl, rfl, hdelay⟩ := NativePaidDeferralPlan.write.inj h
    refine ⟨hbill, ⟨rfl, rfl, rfl, rfl, rfl, rfl, fun hcl => ?_,
      fun _ => ⟨rfl, rfl, rfl⟩, fun h => h⟩, ?_, rfl, rfl,
      hdelay.symm, by rw [hdelay]⟩
    · rw [hbill] at hcl
      cases hcl
    · dsimp only [isBillableRequestV3]
      split_ifs
      · rfl
      · exact hbill
  · cases h

theorem evaluatePaidFallbackSettlementV3_eq_settle {providerLog : NativePaidProviderLog}
    {metadata : NativePaidSettlementMetadata} {spend : ℤ}
    (h : evaluatePaidFallbackSettlementV3 (some row) (some pending) providerLog metadata
      = .settle spend) : isBillableRequestV3 row = true ∧ isSafeUsageCount spend = true := by
  unfold evaluatePaidFallbackSettlementV3 at h
  dsimp only at h
  split_ifs at h with hcl hnoop
  split at h
  · cases h
  · next spend' hsp =>
    split_ifs at h with hsafe
    cases h
    exact ⟨by simpa using hcl, hsafe⟩

theorem evolves_of_billable (hbill : isBillableRequestV3 row = true)
    (hkid : row'.keyId = row.keyId) (hrid : row'.requestId = row.requestId)
    (hwin : row'.windowResetAtMs = row.windowResetAtMs)
    (hres : row'.reservedMicrocredits = row.reservedMicrocredits)
    (hmodel : row'.model = row.model) (hcr : row'.createdAtMs = row.createdAtMs)
    (hmkd : row.usageRollupAtMs.isSome = true → row'.usageRollupAtMs.isSome = true) :
    Evolves row row' := by
  refine ⟨hkid, hrid, hwin, hres, hmodel, hcr, fun hcl => ?_,
    fun hcl => ?_, hmkd⟩
  · rw [hbill] at hcl
    cases hcl
  · rw [hbill] at hcl
    cases hcl

/-! ### The plan of an admission -/

/-- The window that an admission transitions: the stored one, or a new one. -/
def currentWindow (input : AdmissionInput) (window : Option PaidFallbackWindowV3) :
    PaidFallbackWindowV3 :=
  window.getD (defaultPaidFallbackWindowV3 input.toNativePaidAdmissionInput)

/-- A limited admission reserves `reservation` in the window: what is left of the limit, or the
maximum exposure if that is less. -/
structure Reserves (input : AdmissionInput) (window : Option PaidFallbackWindowV3)
    (transitioned : PaidFallbackWindowV3) (reservation : ℤ) : Prop where
  settled : transitioned.settledMicrocredits = (currentWindow input window).settledMicrocredits
  reserved : transitioned.reservedMicrocredits = (currentWindow input window).reservedMicrocredits
  pendingCount : transitioned.pendingCount = (currentWindow input window).pendingCount
  limit : transitioned.limitMicrocredits = input.limitMicrocredits
  room : 0 < transitioned.limitMicrocredits - transitioned.settledMicrocredits -
    transitioned.reservedMicrocredits
  amount : reservation = min (transitioned.limitMicrocredits - transitioned.settledMicrocredits -
    transitioned.reservedMicrocredits) (input.maximumExposureMicrocredits.getD 0)

structure AdmissionDecided (input : AdmissionInput) (window : Option PaidFallbackWindowV3) (now : ℤ)
    (plan : NativePaidAdmissionWrite) (reservation : ℤ) : Prop where
  request : plan.request = buildPaidFallbackRequestV3 input.toNativePaidAdmissionInput reservation
    now
  pending : plan.pending = ⟨now, now⟩
  checkGate : plan.checkGate = input.dispatchIntent
  handedOut : plan.reservation.keyId = input.keyId ∧ plan.reservation.requestId = input.requestId ∧
    plan.reservation.windowResetAtMs = input.windowResetAtMs
  unlimited : input.unlimited = true → reservation = 0 ∧ plan.window = none
  limited : input.unlimited = false → ∃ transitioned : PaidFallbackWindowV3,
    Reserves input window transitioned reservation ∧ plan.window = some { transitioned with
      reservedMicrocredits := transitioned.reservedMicrocredits + reservation
      pendingCount := transitioned.pendingCount + 1
      updatedAtMs := now }

variable {input : AdmissionInput}

theorem planPaidFallbackAdmissionV3_eq_write {plan : NativePaidAdmissionWrite}
    (h : planPaidFallbackAdmissionV3 input.toNativePaidAdmissionInput none window none
      input.unlimited input.maximumExposureMicrocredits now = .write plan) :
    ∃ reservation, AdmissionDecided input window now plan reservation := by
  unfold planPaidFallbackAdmissionV3 at h
  simp only [Option.isSome_none, Bool.false_eq_true, if_false] at h
  cases hunl : input.unlimited with
  | true =>
    rw [hunl] at h
    simp only [Bool.not_true, Bool.false_and, Bool.false_eq_true, if_false, Bool.true_eq_false,
      false_and, if_true] at h
    cases h
    refine ⟨0, rfl, rfl, rfl, ⟨rfl, rfl, rfl⟩, fun _ => ⟨rfl, rfl⟩, fun hlim => ?_⟩
    rw [hunl] at hlim
    cases hlim
  | false =>
    rw [hunl] at h
    simp only [Bool.not_false, Bool.true_and, Bool.false_eq_true, if_false, true_and] at h
    have habsurd : ∀ {P : Prop}, input.unlimited = true → P := fun hu => by
      rw [hunl] at hu
      cases hu
    split_ifs at h with hchg hexh hexh
    · -- the policy has changed since the window was stored
      cases h
      refine ⟨_, rfl, rfl, rfl, ⟨rfl, rfl, rfl⟩, habsurd, fun _ => ⟨_, ?_, rfl⟩⟩
      exact ⟨rfl, rfl, rfl, rfl, not_le.mp hexh, rfl⟩
    · cases h
      refine ⟨_, rfl, rfl, rfl, ⟨rfl, rfl, rfl⟩, habsurd, fun _ => ⟨_, ?_, rfl⟩⟩
      simp only [Bool.or_eq_true, decide_eq_true_eq, not_or, not_not] at hchg
      exact ⟨rfl, rfl, rfl, hchg.2, not_le.mp hexh, rfl⟩

theorem planPaidFallbackAdmissionV3_eq_exhaustedPolicy {transitioned : PaidFallbackWindowV3}
    (hlim : input.unlimited = false)
    (h : planPaidFallbackAdmissionV3 input.toNativePaidAdmissionInput none window none
      input.unlimited input.maximumExposureMicrocredits now = .exhaustedPolicy transitioned) :
    ∃ current, window = some current ∧ transitioned = { current with
      policyVersion := input.policyVersion
      limitMicrocredits := input.limitMicrocredits
      updatedAtMs := now } := by
  unfold planPaidFallbackAdmissionV3 at h
  rw [hlim] at h
  simp only [Option.isSome_none, Bool.false_eq_true, if_false, Bool.not_false, Bool.true_and,
    true_and] at h
  cases window with
  | none =>
    -- a window that is not stored yet has the policy of the admission
    simp [defaultPaidFallbackWindowV3] at h
    split_ifs at h
  | some current =>
    refine ⟨current, rfl, ?_⟩
    simp only [Option.getD_some] at h
    split_ifs at h with hchg hexh
    exact (NativePaidAdmissionPlan.exhaustedPolicy.inj h).symm

/-! ### One request -/

/-- What a step on the store `kv` can do to the row of a request. -/
inductive RequestChange (kv : PaidKv) (keyId requestId : String) :
    Option PaidFallbackRequestV3 → Option PaidFallbackRequestV3 → Prop
  | same (row : Option PaidFallbackRequestV3) : RequestChange kv keyId requestId row row
  | admitted (row : PaidFallbackRequestV3) (hgd : guardOf kv keyId = none)
      (hbil : row.billingState = .pending) (hmark : row.usageRollupAtMs = none)
      (hkid : row.keyId = keyId) (hrid : row.requestId = requestId) :
      RequestChange kv keyId requestId none (some row)
  | evolved (row row' : PaidFallbackRequestV3) (h : Evolves row row') :
      RequestChange kv keyId requestId (some row) (some row')
  | deleted (row : PaidFallbackRequestV3) (hgd : (guardOf kv keyId).isSome = true)
      (hcl : isBillableRequestV3 row = false) :
      RequestChange kv keyId requestId (some row) none

theorem isBillable_of_pending (h : row.billingState = .pending) :
    isBillableRequestV3 row = true := by
  simp [isBillableRequestV3, h]

variable {rows : LedgerWrite}

/-- Every step changes its row in one of the permitted ways. -/
theorem LedgerStep.request_change (h : LedgerStep clockOk w label rows)
    (hrow : rows.request = some row) : RequestChange w.store rows.keyId rows.requestId
      (requestOf w.store rows.keyId rows.requestId) (some row) := by
  cases h with
  | admission _ _ _ _ _ hreq hgd hplan =>
    cases hrow
    obtain ⟨reservation, hdcd⟩ := planPaidFallbackAdmissionV3_eq_write hplan
    rw [hreq, hdcd.request]
    exact .admitted _ hgd rfl rfl rfl rfl
  | exhaustedPolicy | expedite | cleanup | recompute | windowTtl => cases hrow
  | lifecycle _ _ _ _ _ _ _ hst hplan =>
    cases hrow
    rw [hst]
    exact .evolved _ _ (evolves_lifecycle hplan).1
  | release _ _ _ _ _ _ _ _ hst _ hplan =>
    cases hrow
    obtain ⟨hpnd, hreq, -⟩ := planPaidFallbackReleaseV3_eq_some hplan
    rw [hst, hreq]
    exact .evolved _ _ (evolves_of_billable (isBillable_of_pending hpnd) rfl rfl rfl rfl rfl rfl
      fun hmkd => hmkd)
  | defer _ _ _ _ _ _ _ _ _ hst _ hplan =>
    cases hrow
    rw [hst]
    exact .evolved _ _ (planPaidFallbackDeferralV3_eq_write hplan).2.1
  | settle _ _ _ _ _ _ _ _ _ _ _ hst _ _ heval _ _ _ hplan =>
    cases hrow
    subst hplan
    rw [hst]
    refine .evolved _ _ (evolves_of_billable (evaluatePaidFallbackSettlementV3_eq_settle heval).1
      rfl rfl rfl rfl rfl rfl fun hmkd => ?_)
    dsimp only [planPaidFallbackSettlementRowsV3, buildSettledRequestRowV3]
    split_ifs
    · rfl
    · exact hmkd
  | retention _ _ _ hst =>
    cases hrow
    rw [hst]
    exact .same _
  | fold _ _ _ _ hst _ _ _ _ hplan =>
    cases hrow
    subst hplan
    rw [hst]
    exact .evolved _ _ ⟨rfl, rfl, rfl, rfl, rfl, rfl, fun _ => ⟨rfl, rfl, rfl⟩,
      fun _ => ⟨rfl, rfl, rfl⟩, fun _ => rfl⟩

/-! ### Steps that write no row of the ledger -/

theorem get_apply_auxiliary {kv : PaidKv} (h : ∀ a ∈ writes, a.key.auxiliary = true)
    (hkey : key.auxiliary = false) : (kv.apply writes).get key = kv.get key := by
  refine Kv.get_apply_of_untouched _ (Kv.written_eq_none fun a ha heq => ?_)
  have haux := h a ha
  rw [heq, hkey] at haux
  cases haux

theorem get_apply_delete (kv : PaidKv) (keys : List PaidKey) (key : PaidKey) :
    (kv.apply (keys.map .delete)).get key = if key ∈ keys then none else kv.get key := by
  have hwr : Kv.written key (keys.map Write.delete : List (Write PaidKey PaidValue)) =
      if key ∈ keys then some none else none := by
    induction keys with
    | nil => rfl
    | cons k keys ih =>
      rw [List.map_cons, Kv.written, ih]
      by_cases hmem : key ∈ keys
      · simp [hmem]
      · by_cases hk : k = key
        · simp [hk, hmem]
        · simp [hk, hmem, Ne.symm hk]
  rw [Kv.get_apply, hwr]
  split_ifs <;> rfl

theorem get_apply_set (kv : PaidKv) (k : PaidKey) (value : PaidValue) (key : PaidKey) :
    (kv.apply [.set k value]).get key
      = if k = key then some ⟨value, kv.stamp + 1⟩ else kv.get key := by
  rw [Kv.get_apply]
  by_cases hk : k = key <;> simp [Kv.written, hk]

/-- A guarded request that is not stored: it will never be again. -/
def Gone (kv : PaidKv) (keyId requestId : String) : Prop :=
  requestOf kv keyId requestId = none ∧ (guardOf kv keyId).isSome = true

/-- A guarded key of which nothing is billed any more. -/
def KeyClosed (kv : PaidKv) (keyId : String) : Prop :=
  (guardOf kv keyId).isSome = true ∧ ∀ requestId, NotBillable kv keyId requestId

/-- The keys that hold rows of the ledger. -/
def PaidKey.ledger : PaidKey → Bool
  | .request _ _ | .pending _ _ | .usageRollup _ | .reconciliationGate | .window _ _ => true
  | _ => false

/-- The commits that write no row of the ledger. -/
def PaidCommit.aside : PaidCommit → Bool
  | .cursor _ | .deletionGuard _ => true
  | label => label.auxiliary

/-- A commit writes rows of one request, deletes rows of one key, or touches no row. -/
theorem PaidStep.kind (h : PaidStep clockOk w label writes) :
    (∃ rows, LedgerStep clockOk w label rows ∧ writes = rows.toList) ∨
    (∃ (keyId : String) (keys : List PaidKey), label = .delete keyId ∧
      writes = keys.map .delete ∧ KeyClosed w.store keyId ∧
      ∀ key ∈ keys, key.belongsTo keyId) ∨
    (label.aside = true ∧
      ∀ key : PaidKey, key.ledger = true → (w.store.apply writes).get key = w.store.get key) := by
  cases h with
  | ledger _ rows hstep => exact .inl ⟨rows, hstep, rfl⟩
  | auxiliary label _ _ haux =>
    refine .inr (.inr ⟨?_, fun key hkey => get_apply_auxiliary haux ?_⟩)
    · cases label <;> simp_all [PaidCommit.aside, PaidCommit.auxiliary]
    · cases key <;> simp_all [PaidKey.ledger, PaidKey.auxiliary]
  | cursor | deletionGuard =>
    refine .inr (.inr ⟨rfl, fun key hkey => ?_⟩)
    rw [get_apply_set, if_neg]
    rintro rfl
    cases hkey
  | dropCursor =>
    refine .inr (.inr ⟨rfl, fun key hkey => ?_⟩)
    rw [show [Write.delete PaidKey.backfillCursor] = [PaidKey.backfillCursor].map Write.delete
      from rfl, get_apply_delete, if_neg]
    rintro hmem
    obtain rfl := List.mem_singleton.mp hmem
    cases hkey
  | delete keyId keys hgd hcl hkeys =>
    exact .inr (.inl ⟨keyId, keys, rfl, rfl, ⟨hgd, hcl⟩, hkeys⟩)

theorem requestOf_apply_delete (kv : PaidKv) (keys : List PaidKey) (k r : String) :
    requestOf (kv.apply (keys.map .delete)) k r
      = if PaidKey.request k r ∈ keys then none else requestOf kv k r := by
  unfold requestOf
  rw [get_apply_delete]
  split_ifs <;> rfl

theorem pendingOf_apply_delete (kv : PaidKv) (keys : List PaidKey) (k r : String) :
    pendingOf (kv.apply (keys.map .delete)) k r
      = if PaidKey.pending k r ∈ keys then none else pendingOf kv k r := by
  unfold pendingOf
  rw [get_apply_delete]
  split_ifs <;> rfl

theorem PaidStep.request_change (h : PaidStep clockOk w label writes) (k r : String) :
    RequestChange w.store k r (requestOf w.store k r) (requestOf (w.store.apply writes) k r) := by
  rcases h.kind with ⟨rows, hstep, rfl⟩ | ⟨keyId, keys, rfl, rfl, hcl, hkeys⟩ | ⟨-, heq⟩
  · rw [requestOf_apply]
    by_cases hkey : rows.keyId = k ∧ rows.requestId = r
    · obtain ⟨rfl, rfl⟩ := hkey
      rw [if_pos ⟨rfl, rfl⟩]
      cases hrow : rows.request with
      | none =>
        rw [Option.none_or]
        exact .same _
      | some row => exact hstep.request_change hrow
    · rw [if_neg hkey]
      exact .same _
  · rw [requestOf_apply_delete]
    split_ifs with hmem
    · obtain rfl : k = keyId := hkeys _ hmem
      cases hrow : requestOf w.store k r with
      | none => exact .same none
      | some row => exact .deleted row hcl.1 (hcl.2 r row hrow)
    · exact .same _
  · unfold requestOf
    rw [heq _ rfl]
    exact .same _

theorem PaidStep.guard (h : PaidStep clockOk w label writes) {k : String}
    (hgd : (guardOf w.store k).isSome = true) :
    (guardOf (w.store.apply writes) k).isSome = true := by
  cases h with
  | ledger => rwa [guardOf_apply]
  | auxiliary _ _ _ haux =>
    unfold guardOf at hgd ⊢
    rwa [get_apply_auxiliary haux rfl]
  | cursor =>
    unfold guardOf at hgd ⊢
    rwa [get_apply_set, if_neg (by simp)]
  | dropCursor =>
    unfold guardOf at hgd ⊢
    rwa [show [Write.delete PaidKey.backfillCursor] = [PaidKey.backfillCursor].map Write.delete
      from rfl, get_apply_delete, if_neg (by simp)]
  | deletionGuard =>
    unfold guardOf at hgd ⊢
    rw [get_apply_set]
    split_ifs
    · rfl
    · exact hgd
  | delete _ _ _ _ hkeys =>
    unfold guardOf at hgd ⊢
    rwa [get_apply_delete, if_neg]
    exact fun hmem => hkeys _ hmem

/-- The rows of a key: its requests, windows and markers. -/
def PaidKey.rowOf (keyId : String) : PaidKey → Bool
  | .request k _ | .window k _ | .pending k _ => decide (k = keyId)
  | _ => false

/-- Behind the guard of a deletion a step stores nothing new. -/
theorem LedgerStep.stored (h : LedgerStep clockOk w label rows)
    (hgd : (guardOf w.store rows.keyId).isSome = true) :
    (rows.request.isSome = true → (requestOf w.store rows.keyId rows.requestId).isSome = true) ∧
    (∀ marker, rows.pending = some (some marker) →
      (pendingOf w.store rows.keyId rows.requestId).isSome = true) ∧
    ∀ window, rows.window = some window → (windowOf w.store rows.keyId window.1).isSome = true := by
  have hopen : ∀ {keyId : String} {P : Prop}, (guardOf w.store keyId).isSome = true →
      guardOf w.store keyId = none → P := by
    intro keyId P hset hno
    rw [hno] at hset
    cases hset
  -- the window of a closed request is written where one was read, and then it is still there
  have hcl : ∀ {keyId requestId : String} {resetAtMs : ℤ} {row : PaidFallbackRequestV3}
      {window : Option PaidFallbackWindowV3} {spend now : ℤ} {written : ℤ × PaidFallbackWindowV3},
      WindowRead w keyId requestId resetAtMs window →
      (window.map fun window => closedWindow window row spend now).map
        (fun window => (resetAtMs, window)) = some written →
      (windowOf w.store keyId written.1).isSome = true := by
    intro keyId requestId resetAtMs row window spend now written hread hwr
    cases window with
    | none => cases hwr
    | some window =>
      cases hwr
      rcases hread with hread | ⟨hread, -⟩
      · show (windowOf w.store keyId resetAtMs).isSome = true
        rw [← hread]
        rfl
      · cases hread
  cases h with
  | admission _ _ _ _ _ _ hno | exhaustedPolicy _ _ _ _ hno => exact hopen hgd hno
  | lifecycle _ _ _ _ _ _ _ hrow =>
    exact ⟨fun _ => by rw [hrow]; rfl, by simp, by simp⟩
  | release _ _ _ _ _ _ _ _ hrow hread hplan =>
    refine ⟨fun _ => by rw [hrow]; rfl, by simp, fun written hwr => ?_⟩
    dsimp only at hwr
    rw [(planPaidFallbackReleaseV3_eq_some hplan).2.2.1] at hwr
    exact hcl hread hwr
  | expedite _ _ _ _ _ hpnd =>
    exact ⟨by simp, fun _ _ => by rw [hpnd]; rfl, by simp⟩
  | defer _ _ _ _ _ _ _ _ _ hrow hpnd =>
    exact ⟨fun _ => by rw [hrow]; rfl, fun _ _ => by rw [hpnd]; rfl, by simp⟩
  | cleanup | recompute => exact ⟨by simp, by simp, by simp⟩
  | settle _ _ _ _ _ _ _ _ _ _ _ hrow _ hread _ _ _ _ hplan =>
    refine ⟨fun _ => by rw [hrow]; rfl, by simp, fun written hwr => ?_⟩
    rw [hplan] at hwr
    exact hcl hread hwr
  | retention _ _ _ hrow | fold _ _ _ _ hrow => exact ⟨fun _ => by rw [hrow]; rfl, by simp, by simp⟩
  | windowTtl _ _ _ hwin =>
    refine ⟨by simp, by simp, fun written hwr => ?_⟩
    cases hwr
    rw [hwin]
    rfl

theorem mem_ledgerWrite (hmem : Write.set key value ∈ rows.toList) (hkey : key.rowOf keyId = true) :
    rows.keyId = keyId ∧ ((∃ row, rows.request = some row ∧ key = .request keyId rows.requestId) ∨
      (∃ marker, rows.pending = some (some marker) ∧ key = .pending keyId rows.requestId) ∨
      ∃ window, rows.window = some window ∧ key = .window keyId window.1) := by
  simp only [LedgerWrite.toList, List.mem_append, Option.mem_toList, Option.map_eq_some_iff] at hmem
  rcases hmem with (((⟨row, hrow, heq⟩ | ⟨marker, hmkr, heq⟩) | ⟨rollup, -, heq⟩) |
    ⟨gate, -, heq⟩) | ⟨window, hwin, heq⟩
  · cases heq
    obtain rfl : rows.keyId = keyId := of_decide_eq_true hkey
    exact ⟨rfl, .inl ⟨row, hrow, rfl⟩⟩
  · cases marker with
    | none => cases heq
    | some marker =>
      cases heq
      obtain rfl : rows.keyId = keyId := of_decide_eq_true hkey
      exact ⟨rfl, .inr (.inl ⟨marker, hmkr, rfl⟩)⟩
  · cases heq
    cases hkey
  · cases heq
    cases hkey
  · cases heq
    obtain rfl : rows.keyId = keyId := of_decide_eq_true hkey
    exact ⟨rfl, .inr (.inr ⟨window, hwin, rfl⟩)⟩

/-- **Nothing is created under the guard.** -/
theorem PaidStep.creates_nothing (h : PaidStep clockOk w label writes)
    (hgd : (guardOf w.store keyId).isSome = true) (hkey : key.rowOf keyId = true)
    (hno : w.store.get key = none) : (w.store.apply writes).get key = none := by
  rcases h.kind with ⟨rows, hstep, rfl⟩ | ⟨_, keys, -, rfl, -, -⟩ | ⟨-, heq⟩
  · rw [Kv.get_apply]
    cases hwr : Kv.written key rows.toList with
    | none => exact hno
    | some value =>
      cases value with
      | none => rfl
      | some value =>
        obtain ⟨rfl, hrows⟩ := mem_ledgerWrite (Kv.mem_of_written hwr) hkey
        obtain ⟨hreq, hpend, hwin⟩ := hstep.stored hgd
        rcases hrows with ⟨row, hrow, rfl⟩ | ⟨marker, hmkr, rfl⟩ | ⟨window, hst, rfl⟩
        · have hfd := hreq (by rw [hrow]; rfl)
          unfold requestOf at hfd
          rw [hno] at hfd
          cases hfd
        · have hfd := hpend marker hmkr
          unfold pendingOf at hfd
          rw [hno] at hfd
          cases hfd
        · have hfd := hwin window hst
          unfold windowOf at hfd
          rw [hno] at hfd
          cases hfd
  · rw [get_apply_delete, hno]
    split_ifs <;> rfl
  · rw [heq key, hno]
    cases key <;> first | rfl | cases hkey

/-- A request that is stored or whose key is guarded: it will not be admitted again. -/
def Known (kv : PaidKv) (keyId requestId : String) : Prop :=
  requestOf kv keyId requestId = none → (guardOf kv keyId).isSome = true

/-- A known request whose window is the one with the given reset time. -/
def Bound (kv : PaidKv) (keyId requestId : String) (resetAtMs : ℤ) : Prop :=
  Known kv keyId requestId ∧
    ∀ row, requestOf kv keyId requestId = some row → row.windowResetAtMs = resetAtMs

/-- A known request that is not billed any more. -/
def Closed (kv : PaidKv) (keyId requestId : String) : Prop :=
  Known kv keyId requestId ∧ NotBillable kv keyId requestId

theorem Evolves.stays_closed (h : Evolves row row') (hcl : isBillableRequestV3 row = false) :
    isBillableRequestV3 row' = false := by
  have hbil := (h.closed hcl).1
  unfold isBillableRequestV3 at hcl ⊢
  rwa [hbil]

theorem Evolves.was_open (h : Evolves row row') (hbill : isBillableRequestV3 row' = true) :
    isBillableRequestV3 row = true := by
  by_contra hcl
  rw [h.stays_closed (Bool.not_eq_true _ ▸ hcl)] at hbill
  cases hbill

section Stable

variable (h : PaidStep clockOk w label writes)
include h

theorem Known.step (hkn : Known w.store k r) : Known (w.store.apply writes) k r := by
  intro hno
  have hch := h.request_change k r
  rw [hno] at hch
  generalize hold : requestOf w.store k r = old at hch
  cases hch with
  | same => exact h.guard (hkn hold)
  | deleted _ hgd => exact h.guard hgd

theorem PaidStep.stored_or_new {row : PaidFallbackRequestV3}
    (hrow : requestOf (w.store.apply writes) k r = some row) :
    (∃ old, requestOf w.store k r = some old ∧ Evolves old row) ∨
      ¬ Known w.store k r ∧ isBillableRequestV3 row = true ∧ row.usageRollupAtMs = none := by
  have hch := h.request_change k r
  rw [hrow] at hch
  generalize hold : requestOf w.store k r = old at hch
  cases hch with
  | same => exact .inl ⟨row, rfl, Evolves.refl row⟩
  | evolved old _ hev => exact .inl ⟨old, rfl, hev⟩
  | admitted _ hgd hbil hmark =>
    refine .inr ⟨fun hkn => ?_, isBillable_of_pending hbil, hmark⟩
    have hset := hkn hold
    rw [hgd] at hset
    cases hset

theorem Bound.step (hbd : Bound w.store k r resetAtMs) :
    Bound (w.store.apply writes) k r resetAtMs := by
  refine ⟨hbd.1.step h, fun row hrow => ?_⟩
  rcases h.stored_or_new hrow with ⟨old, hold, hev⟩ | ⟨hunk, -⟩
  · rw [hev.windowResetAtMs]
    exact hbd.2 old hold
  · exact absurd hbd.1 hunk

theorem NotBillable.step (hkn : Known w.store k r) (hcl : NotBillable w.store k r) :
    NotBillable (w.store.apply writes) k r := by
  intro row hrow
  rcases h.stored_or_new hrow with ⟨old, hold, hev⟩ | ⟨hunk, -⟩
  · exact hev.stays_closed (hcl old hold)
  · exact absurd hkn hunk

theorem Gone.step (hgone : Gone w.store k r) : Gone (w.store.apply writes) k r := by
  refine ⟨?_, h.guard hgone.2⟩
  have hch := h.request_change k r
  rw [hgone.1] at hch
  generalize hnew : requestOf (w.store.apply writes) k r = new at hch
  cases hch with
  | same => rfl
  | admitted _ hgd =>
    have hset := hgone.2
    rw [hgd] at hset
    cases hset

theorem Closed.step (hcl : Closed w.store k r) : Closed (w.store.apply writes) k r :=
  ⟨hcl.1.step h, NotBillable.step h hcl.1 hcl.2⟩

theorem KeyClosed.step (hcl : KeyClosed w.store k) : KeyClosed (w.store.apply writes) k := by
  refine ⟨h.guard hcl.1, fun r => NotBillable.step h (fun _ => hcl.1) (hcl.2 r)⟩

theorem Marked.step (hmkd : Marked w.store k r) :
    Marked (w.store.apply writes) k r ∨ Gone (w.store.apply writes) k r := by
  obtain ⟨old, hold, hmark⟩ := hmkd
  have hch := h.request_change k r
  rw [hold] at hch
  generalize hnew : requestOf (w.store.apply writes) k r = new at hch
  cases hch with
  | same => exact .inl ⟨old, hnew, hmark⟩
  | evolved _ row hev => exact .inl ⟨row, hnew, hev.marked hmark⟩
  | deleted _ hgd => exact .inr ⟨hnew, h.guard hgd⟩

end Stable

/-! ### Runs -/

/-- The stores that a run may start with: the key of a request holds a row, which names its own key,
a marker has its row, and the rows that the cursor of the backfill has passed are marked. -/
structure PaidStart (kv : PaidKv) : Prop where
  typed : ∀ k r, (kv.get (.request k r)).isSome = true → (requestOf kv k r).isSome = true
  keyed : ∀ k r row, requestOf kv k r = some row → row.keyId = k ∧ row.requestId = r
  markers : ∀ k r, (pendingOf kv k r).isSome = true → (requestOf kv k r).isSome = true
  cursor : ∀ key, cursorOf kv = some key → ∀ k r, PaidKey.request k r ≤ key →
    (requestOf kv k r).isSome = true → Marked kv k r

theorem paidStart_empty : PaidStart Kv.empty where
  typed _ _ h := by cases h
  keyed _ _ _ h := by cases h
  markers _ _ h := by cases h
  cursor _ h := by cases h

/-- The histories of the paid fallback. -/
abbrev PaidRun (clockOk : ℤ → ℤ → Prop) : PaidWorld → Prop := Run PaidStart (PaidStep clockOk)

variable {P : PaidKv → Prop}

section

variable
  (hstep : ∀ w label writes, PaidStep clockOk w label writes → P w.store → P (w.store.apply writes))
  (hw : PaidRun clockOk w)

include hstep hw

theorem PaidRun.stable (hnm : n ≤ m) (hm : m ≤ w.length) (h : P (w.storeAt n)) : P (w.storeAt m) :=
  hw.storeAt_rel_storeAt (R := fun kv kv' => P kv → P kv') (fun _ h => h)
    (fun _ _ _ hab hbc h => hbc (hab h)) (fun w label writes _ hs => hstep w label writes hs)
    hnm hm h

theorem PaidRun.stable_store (hn : n ≤ w.length) (h : P (w.storeAt n)) : P w.store := by
  rw [← w.storeAt_length]
  exact hw.stable hstep hn le_rfl h

theorem PaidRun.stable_le {v : PaidWorld} (hvw : v.Le w) (h : P v.store) : P w.store := by
  rw [← hvw.storeAt_length_eq] at h
  exact hw.stable_store hstep hvw.length_le h

end

theorem PaidRun.stored_of_known (hw : PaidRun clockOk w) (hkn : Known (w.storeAt n) k r)
    (hnm : n ≤ m) (hm : m ≤ w.length) (hst : (requestOf w.store k r).isSome = true) :
    (requestOf (w.storeAt m) k r).isSome = true := by
  have hkn' := hw.stable (P := fun kv => Known kv k r) (fun _ _ _ h hk => hk.step h) hnm hm hkn
  by_contra hno
  rw [Bool.not_eq_true, Option.isSome_eq_false_iff, Option.isNone_iff_eq_none] at hno
  have hgone := hw.stable (P := fun kv => Gone kv k r) (fun _ _ _ h hg => hg.step h) hm le_rfl
    ⟨hno, hkn' hno⟩
  rw [w.storeAt_length] at hgone
  rw [hgone.1] at hst
  cases hst

/-- A row that is stored reads as a row. -/
theorem PaidStep.typed (h : PaidStep clockOk w label writes)
    (htyped : (w.store.get (.request k r)).isSome = true → (requestOf w.store k r).isSome = true)
    (hget : ((w.store.apply writes).get (.request k r)).isSome = true) :
    (requestOf (w.store.apply writes) k r).isSome = true := by
  rcases h.kind with ⟨rows, _, rfl⟩ | ⟨keyId, keys, rfl, rfl, -, -⟩ | ⟨-, heq⟩
  · rw [requestOf_apply]
    split_ifs with hkey
    · cases hrow : rows.request with
      | some row => rfl
      | none =>
        refine htyped ?_
        rwa [get_request_apply, hrow] at hget
    · refine htyped ?_
      rw [get_request_apply] at hget
      cases hrow : rows.request with
      | none => rwa [hrow] at hget
      | some row =>
        rw [hrow] at hget
        simpa [hkey] using hget
  · rw [requestOf_apply_delete]
    rw [get_apply_delete] at hget
    split_ifs at hget ⊢ with hmem
    · cases hget
    · exact htyped hget
  · unfold requestOf
    rw [heq _ rfl] at hget ⊢
    exact htyped hget

theorem PaidRun.typed (hw : PaidRun clockOk w) (hget : (w.store.get (.request k r)).isSome = true) :
    (requestOf w.store k r).isSome = true := by
  refine Run.invariant (P := fun w => (w.store.get (.request k r)).isSome = true →
    (requestOf w.store k r).isSome = true) ?_ ?_ ?_ hw hget
  · exact fun kv _ hstr => hstr.typed k r
  · exact fun w t ih _ => ih
  · exact fun w label writes _ ih hstep => hstep.typed ih

theorem PaidRun.keyed (hw : PaidRun clockOk w) (hrow : requestOf w.store k r = some row) :
    row.keyId = k ∧ row.requestId = r := by
  refine Run.invariant (P := fun w => ∀ row, requestOf w.store k r = some row →
    row.keyId = k ∧ row.requestId = r) ?_ ?_ ?_ hw row hrow
  · exact fun kv t hstr row hrow => hstr.keyed k r row hrow
  · exact fun w t ih _ => ih
  · intro w label writes _ ih hstep row hrow
    have hch := hstep.request_change k r
    rw [World.store_commit] at hrow
    rw [hrow] at hch
    generalize hold : requestOf w.store k r = old at hch
    cases hch with
    | same => exact ih row hold
    | admitted _ _ _ _ hkid hrid => exact ⟨hkid, hrid⟩
    | evolved old _ hev =>
      obtain ⟨hkid, hrid⟩ := ih old hold
      exact ⟨hev.keyId.trans hkid, hev.requestId.trans hrid⟩

theorem LedgerStep.marker (h : LedgerStep clockOk w label rows)
    (hpend : rows.pending = some (some pending)) :
    (pendingOf w.store rows.keyId rows.requestId).isSome = true ∨ rows.request.isSome = true := by
  cases h with
  | admission | defer => exact .inr rfl
  | expedite _ _ _ _ _ hmkr => exact .inl (by rw [hmkr]; rfl)
  | _ => cases hpend

/-- A marker appears with its row only. -/
theorem PaidStep.marker (h : PaidStep clockOk w label writes)
    (hmkr : (pendingOf (w.store.apply writes) k r).isSome = true) :
    (pendingOf w.store k r).isSome = true ∨
      (requestOf (w.store.apply writes) k r).isSome = true := by
  rcases h.kind with ⟨rows, hstep, rfl⟩ | ⟨keyId, keys, rfl, rfl, -, -⟩ | ⟨-, heq⟩
  · rw [pendingOf_apply] at hmkr
    rw [requestOf_apply]
    split_ifs at hmkr ⊢ with hkey
    · obtain ⟨rfl, rfl⟩ := hkey
      rcases hpend : rows.pending with _ | _ | marker
      · rw [hpend] at hmkr
        exact .inl hmkr
      · rw [hpend] at hmkr
        cases hmkr
      · refine (hstep.marker hpend).imp id fun hrow => ?_
        obtain ⟨row, hrow⟩ := Option.isSome_iff_exists.mp hrow
        rw [hrow]
        rfl
    · exact .inl hmkr
  · rw [pendingOf_apply_delete] at hmkr
    split_ifs at hmkr with hmem
    · cases hmkr
    · exact .inl hmkr
  · unfold pendingOf at hmkr ⊢
    rw [heq _ rfl] at hmkr
    exact .inl hmkr

theorem PaidRun.known_of_marker (hw : PaidRun clockOk w)
    (hmkr : (pendingOf w.store k r).isSome = true) : Known w.store k r := by
  refine Run.invariant (P := fun w => (pendingOf w.store k r).isSome = true → Known w.store k r)
    ?_ ?_ ?_ hw hmkr
  · intro kv t hstr hmkr hno
    have hrow := hstr.markers k r hmkr
    change requestOf kv k r = none at hno
    rw [hno] at hrow
    cases hrow
  · exact fun w t ih _ => ih
  · intro w label writes _ ih hstep hmkr
    rcases hstep.marker hmkr with hold | hrow
    · exact (ih hold).step hstep
    · intro hno
      rw [World.store_commit] at hno
      rw [hno] at hrow
      cases hrow

end UbqGateway.Paid
