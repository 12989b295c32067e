import UbqGateway.Paid.Changes

/-!
# The programs make no other commits

Every commit of every program of the paid fallback is a `PaidStep` of the world it is made in,
whatever the other clients do between the reads and the commit.  Where the entries a decision rests
on are among the checks, they are current when the commit succeeds.  Where they are not, the program
relies on what other clients keep: a client that holds a reservation knows the window of its request
(`Bound`), a request that was found closed stays closed (`Closed`), and a key that was guarded
before it was scanned stays without billable rows (`KeyClosed`).
-/

namespace UbqGateway.Paid

open ClientM

variable {w : PaidWorld}

/-- What a program guarantees of its commits, and what it ends with. -/
abbrev PaidWp (clockOk : ℤ → ℤ → Prop) {α : Type} (Q : PaidWorld → Except String α → Prop)
    (p : PaidM α) (w : PaidWorld) : Prop :=
  Wp clockOk PaidStart (PaidStep clockOk) Q p.run w

/-- The commits of a program satisfy the step relation. -/
abbrev PaidGuarantees (clockOk : ℤ → ℤ → Prop) {α : Type} (p : PaidM α) (w : PaidWorld) : Prop :=
  Guarantees clockOk PaidStart (PaidStep clockOk) p w

/-! ### Reads and checks -/

variable {v : PaidWorld}

section Reads

theorem readIn_requestOf (hread : ReadIn u v (.request k r) entry) (hvw : v.Le w)
    (hw : PaidRun clockOk w) (hchk : w.store.Passes ⟨.request k r, entry⟩) :
    requestOf w.store k r = asRequest entry := by
  rw [requestOf, hread.get_eq hvw hw hchk]

theorem readIn_pendingOf (hread : ReadIn u v (.pending k r) entry) (hvw : v.Le w)
    (hw : PaidRun clockOk w) (hchk : w.store.Passes ⟨.pending k r, entry⟩) :
    pendingOf w.store k r = asPending entry := by
  rw [pendingOf, hread.get_eq hvw hw hchk]

theorem readIn_windowOf (hread : ReadIn u v (.window k resetAtMs) entry) (hvw : v.Le w)
    (hw : PaidRun clockOk w) (hchk : w.store.Passes ⟨.window k resetAtMs, entry⟩) :
    windowOf w.store k resetAtMs = asWindow entry := by
  rw [windowOf, hread.get_eq hvw hw hchk]

theorem readIn_gateOf (hread : ReadIn u v .reconciliationGate entry) (hvw : v.Le w)
    (hw : PaidRun clockOk w) (hchk : w.store.Passes ⟨.reconciliationGate, entry⟩) :
    gateOf w.store = asGate entry := by
  rw [gateOf, hread.get_eq hvw hw hchk]

theorem readIn_guardOf (hread : ReadIn u v (.deletionGuard k) entry) (hvw : v.Le w)
    (hw : PaidRun clockOk w) (hchk : w.store.Passes ⟨.deletionGuard k, entry⟩) :
    guardOf w.store k = asDeletionGuard entry := by
  rw [guardOf, hread.get_eq hvw hw hchk]

theorem readIn_usageRollupOf (hread : ReadIn u v (.usageRollup identity) entry) (hvw : v.Le w)
    (hw : PaidRun clockOk w) (hchk : w.store.Passes ⟨.usageRollup identity, entry⟩) :
    usageRollupOf w.store identity = asUsageRollup entry := by
  rw [usageRollupOf, hread.get_eq hvw hw hchk]

section

variable (hread : ReadIn u v (.request k r) entry) (hv : PaidRun clockOk v) (huv : u.Le v)
  (hkn : Known u.store k r)

include hread hv huv hkn

theorem readIn_known : ∃ n, u.length ≤ n ∧ n ≤ v.length ∧
      requestOf (v.storeAt n) k r = asRequest entry ∧ Known (v.storeAt n) k r := by
  obtain ⟨n, hun, hnv, rfl⟩ := hread
  refine ⟨n, hun, hnv, rfl, ?_⟩
  refine hv.stable (P := fun kv => Known kv k r) (fun _ _ _ h hk => hk.step h) hun hnv ?_
  rwa [huv.storeAt_length_eq]

theorem closed_of_read (hcl : ∀ row, asRequest entry = some row → isBillableRequestV3 row = false) :
    Closed v.store k r := by
  obtain ⟨n, -, hnv, hrow, hkn'⟩ := readIn_known hread hv huv hkn
  exact hv.stable_store (P := fun kv => Closed kv k r) (fun _ _ _ h hc => hc.step h) hnv
    ⟨hkn', fun row hst => hcl row (hrow ▸ hst)⟩

end

theorem Closed.le (h : Closed v.store k r) (hvw : v.Le w) (hw : PaidRun clockOk w) :
    Closed w.store k r :=
  hw.stable_le (P := fun kv => Closed kv k r) (fun _ _ _ h hc => hc.step h) hvw h

theorem Known.le (h : Known v.store k r) (hvw : v.Le w) (hw : PaidRun clockOk w) :
    Known w.store k r :=
  hw.stable_le (P := fun kv => Known kv k r) (fun _ _ _ h hk => hk.step h) hvw h

theorem Bound.le (h : Bound v.store k r resetAtMs) (hvw : v.Le w) (hw : PaidRun clockOk w) :
    Bound w.store k r resetAtMs :=
  hw.stable_le (P := fun kv => Bound kv k r resetAtMs) (fun _ _ _ h hb => hb.step h) hvw h

theorem windowRead_of_read (hread : ReadIn u v (.window k resetAtMs) entry) (hvw : v.Le w)
    (hw : PaidRun clockOk w)
    (hchk : (asWindow entry).isSome = true → w.store.Passes ⟨.window k resetAtMs, entry⟩)
    (hn₀ : n₀ ≤ u.length) (hkn : Known (w.storeAt n₀) k r)
    (hst : (requestOf w.store k r).isSome = true) :
    WindowRead w k r resetAtMs (asWindow entry) := by
  cases hwin : asWindow entry with
  | some window =>
    rw [hwin] at hchk
    exact .inl (by rw [readIn_windowOf hread hvw hw (hchk rfl), hwin])
  | none =>
    obtain ⟨n, hun, hnv, rfl⟩ := hread
    have hnw : n ≤ w.length := hnv.trans hvw.length_le
    refine .inr ⟨rfl, n, hnw, ?_, ?_⟩
    · rw [hvw.storeAt_eq hnv]
      exact hwin
    · exact hw.stored_of_known hkn (hn₀.trans hun) hnw hst

end Reads

/-! ### Admission -/

/-- What a reservation tells about its request. -/
def AdmissionPost (w : PaidWorld) : Except String PaidFallbackAdmissionResult → Prop
  | .ok (.reserved reservation) =>
    Bound w.store reservation.keyId reservation.requestId reservation.windowResetAtMs
  | _ => True

/-- What an attempt ends with, given what the whole program ends with. -/
abbrev AttemptPost {α : Type} (R : PaidWorld → Prop) (Q : PaidWorld → Except String α → Prop)
    (w : PaidWorld) : Except String (Option α) → Prop
  | .ok (some a) => Q w (.ok a)
  | .ok none => R w
  | .error e => Q w (.error e)

variable {reservation : PaidFallbackAdmissionV3}

theorem bound_of_stored (h : requestOf kv k r = some row) : Bound kv k r row.windowResetAtMs := by
  refine ⟨fun hno => ?_, fun row' hrow' => ?_⟩
  · rw [hno] at h
    cases h
  · rw [h] at hrow'
    rw [Option.some.inj hrow']

section Admission

variable {input : AdmissionInput}

/-- The admission is a step, since its checks hold what was read. -/
theorem writePaidFallbackAdmissionV3_wp {windowEntry guardEntry : Option (Entry PaidValue)}
    {plan : NativePaidAdmissionWrite} (hreq : ReadIn u w input.requestKey requestEntry)
    (hgd : ReadIn u w input.guardKey guardEntry)
    (hwin : input.unlimited = false → ReadIn u w input.windowKey windowEntry)
    (hunl : input.unlimited = true → windowEntry = none) (hnow : w.Showed clockOk now)
    (hvld : isInvalidAdmissionPolicy input.toNativePaidAdmissionInput input.unlimited
      input.maximumExposureMicrocredits = false) (hno : asRequest requestEntry = none)
    (hopen : asDeletionGuard guardEntry = none)
    (hplan : planPaidFallbackAdmissionV3 input.toNativePaidAdmissionInput none
      (asWindow windowEntry) none input.unlimited input.maximumExposureMicrocredits now
      = .write plan) : PaidWp clockOk (AttemptPost (fun _ => True) AdmissionPost)
      (writePaidFallbackAdmissionV3 input requestEntry windowEntry guardEntry plan now) w := by
  obtain ⟨reservation, hdcd⟩ := planPaidFallbackAdmissionV3_eq_write hplan
  refine kvGetIf_bind fun v hwv gateEntry hgate hgateRead => ?_
  refine kvCommit_bind (fun t hvt ht hpass => ⟨?_, ?_⟩) fun t _ _ => trivial
  · have hwt := hwv.trans hvt
    have hreq' := readIn_requestOf hreq hwt ht
      (hpass _ (by simp [AdmissionInput.requestKey]))
    have hgd' := readIn_guardOf hgd hwt ht (hpass _ (by simp [AdmissionInput.guardKey]))
    have hwin' : (if input.unlimited = true then none
        else windowOf t.store input.keyId input.windowResetAtMs) = asWindow windowEntry := by
      cases hu : input.unlimited with
      | true =>
        rw [hunl hu]
        rfl
      | false =>
        obtain ⟨transitioned, -, hplanWindow⟩ := hdcd.limited hu
        refine readIn_windowOf (hwin hu) hwt ht (hpass _ ?_)
        rw [hplanWindow]
        simp [AdmissionInput.windowKey]
    have hgate' : (gateEntry.map fun gateEntry =>
        paidFallbackReconciliationGateDueNow (asGate gateEntry) now)
        = if plan.checkGate = true
          then some (paidFallbackReconciliationGateDueNow (gateOf t.store) now) else none := by
      cases gateEntry with
      | none =>
        rw [← hgate]
        rfl
      | some entry =>
        rw [← hgate, readIn_gateOf (hgateRead entry rfl) hvt ht (hpass _ (by simp))]
        rfl
    rw [hgate']
    refine .ledger _ _ (.admission input plan now (hnow.mono hwt) hvld ?_ ?_ ?_)
    · rw [hreq', hno]
    · rw [hgd', hopen]
    · rw [hwin']
      exact hplan
  · obtain ⟨hkey, hid, hrst⟩ := hdcd.handedOut
    change Bound _ plan.reservation.keyId plan.reservation.requestId
      plan.reservation.windowResetAtMs
    have hrow : plan.request.windowResetAtMs = plan.reservation.windowResetAtMs := by
      rw [hrst, hdcd.request]
      rfl
    rw [hkey, hid, ← hrow]
    refine bound_of_stored ?_
    rw [World.store_commit, requestOf_apply, if_pos ⟨rfl, rfl⟩]
    rfl

variable {guard : Option PaidFallbackDeletionGuardV3}

theorem planPaidFallbackAdmissionV3_decides {plan : NativePaidAdmissionPlan}
    (h : planPaidFallbackAdmissionV3 input.toNativePaidAdmissionInput request window guard
      input.unlimited input.maximumExposureMicrocredits now = plan)
    (hblocked : ∀ reason, plan ≠ .blocked reason)
    (hres : ∀ reservation, plan ≠ .reserved reservation) : request = none ∧ guard = none := by
  unfold planPaidFallbackAdmissionV3 at h
  cases guard with
  | some guard => exact absurd h.symm (hblocked _)
  | none =>
    cases request with
    | none => exact ⟨rfl, rfl⟩
    | some existing =>
      simp only [Option.isSome_none, Bool.false_eq_true, if_false] at h
      split_ifs at h
      · exact absurd h.symm (hres _)
      · exact absurd h.symm (hblocked _)

theorem planPaidFallbackAdmissionV3_eq_reserved
    (h : planPaidFallbackAdmissionV3 input.toNativePaidAdmissionInput request window guard
      input.unlimited input.maximumExposureMicrocredits now = .reserved reservation) :
    ∃ existing, request = some existing ∧
      reservation = existingReservationV3 input.toNativePaidAdmissionInput existing := by
  unfold planPaidFallbackAdmissionV3 at h
  cases request with
  | none =>
    dsimp only at h
    split_ifs at h
  | some existing =>
    dsimp only at h
    split_ifs at h
    exact ⟨existing, rfl, (NativePaidAdmissionPlan.reserved.inj h).symm⟩

theorem limited_of_exhaustedPolicy {transitioned : PaidFallbackWindowV3}
    (h : planPaidFallbackAdmissionV3 input.toNativePaidAdmissionInput none window none
      input.unlimited input.maximumExposureMicrocredits now = .exhaustedPolicy transitioned) :
    input.unlimited = false := by
  by_contra hunl
  rw [Bool.not_eq_false] at hunl
  unfold planPaidFallbackAdmissionV3 at h
  simp [hunl] at h

/-- An attempt to admit commits a step or nothing. -/
theorem attemptAdmitPaidFallback_wp
    (hvld : isInvalidAdmissionPolicy input.toNativePaidAdmissionInput input.unlimited
      input.maximumExposureMicrocredits = false) :
    PaidWp clockOk (AttemptPost (fun _ => True) AdmissionPost) (attemptAdmitPaidFallback input) w :=
      by
  refine kvGets_bind fun u _ _ got hgot => dateNow_bind fun v huv hv now hnow => ?_
  have hreq := hgot input.requestKey (by simp [admissionKeys])
  have hgd := hgot input.guardKey (by simp [admissionKeys])
  have hwin : input.unlimited = false → ReadIn w u input.windowKey (got input.windowKey) :=
    fun hlim => hgot input.windowKey (by simp [admissionKeys, hlim])
  have hmono : ∀ {key entry}, ReadIn w u key entry → ReadIn w v key entry := fun h => h.mono huv
  split
  · trivial
  · next reservation hplan =>
    obtain ⟨existing, hexi, rfl⟩ := planPaidFallbackAdmissionV3_eq_reserved hplan
    obtain ⟨n, -, hn, hent⟩ := hmono hreq
    have hst : requestOf (v.storeAt n) input.keyId input.requestId = some existing := by
      rw [requestOf, ← hexi, hent]
      rfl
    exact PaidRun.stable_store (P := fun kv => Bound kv input.keyId input.requestId
      existing.windowResetAtMs) (fun _ _ _ h hb => hb.step h) hv hn (bound_of_stored hst)
  · next window hplan =>
    obtain ⟨hno, hopen⟩ := planPaidFallbackAdmissionV3_decides hplan (by simp) (by simp)
    rw [hno, hopen] at hplan
    have hlim := limited_of_exhaustedPolicy hplan
    rw [if_neg (by simp [hlim])] at hplan
    refine kvCommit_bind (fun t hvt ht hpass => ⟨?_, trivial⟩) fun t _ _ => trivial
    rw [if_neg (by simp [hlim])] at hpass
    have hgd' := readIn_guardOf (hmono hgd) hvt ht
      (hpass _ (by simp [AdmissionInput.guardKey]))
    have hwin' := readIn_windowOf (hmono (hwin hlim)) hvt ht
      (hpass _ (by simp [AdmissionInput.windowKey]))
    refine .ledger _ _ (.exhaustedPolicy input window now hlim ?_ ?_)
    · rw [hgd', hopen]
    · rw [hwin']
      exact hplan
  · next plan hplan =>
    obtain ⟨hno, hopen⟩ := planPaidFallbackAdmissionV3_decides hplan (by simp) (by simp)
    rw [hno, hopen] at hplan
    refine writePaidFallbackAdmissionV3_wp (hmono hreq) (hmono hgd) (fun hlim => ?_)
      (fun hunl => by rw [if_pos hunl]) hnow hvld hno hopen hplan
    rw [if_neg (by simp [hlim])]
    exact hmono (hwin hlim)

/-- **An admission that answers with a reservation knows the window of its request.** -/
theorem admitPaidFallbackV3_wp : PaidWp clockOk AdmissionPost (admitPaidFallbackV3 input) w := by
  unfold admitPaidFallbackV3
  split_ifs with hinvd
  · trivial
  · rw [Bool.not_eq_true] at hinvd
    exact retrying_wp (R := fun _ => True) (fun v _ => attemptAdmitPaidFallback_wp hinvd)
      (fun _ _ => by trivial) maxCasAttempts w trivial

end Admission

/-! ### The lifecycle -/

section Lifecycle

/-- An attempt to update commits a step or nothing. -/
theorem attemptUpdatePaidFallbackRequest_wp :
    PaidWp clockOk (fun _ _ => True) (attemptUpdatePaidFallbackRequest reservation patch) w := by
  refine kvGet_bind fun u _ _ entry hent => ?_
  split
  · trivial
  · next current hcur =>
    refine dateNow_bind fun v huv _ now hnow => ?_
    split
    · trivial
    · next plan hplan =>
      refine kvGetIf_bind fun s hvs gateEntry hgate hgateRead => ?_
      refine kvCommit_bind (fun t hst ht hpass => ⟨?_, trivial⟩) fun t _ _ => trivial
      have hvt := hvs.trans hst
      have hrow := readIn_requestOf hent (huv.trans hvt) ht (hpass _ (by simp))
      have hgate' : (gateEntry.bind fun gateEntry =>
          if plan.dispatchBoundary = true ∨
              paidFallbackReconciliationGateNeedsArm (asGate gateEntry) now = true then
            some (paidFallbackReconciliationGateDueNow (asGate gateEntry) now)
          else none)
          = if plan.readGate = true ∧ (plan.dispatchBoundary = true ∨
              paidFallbackReconciliationGateNeedsArm (gateOf t.store) now = true)
            then some (paidFallbackReconciliationGateDueNow (gateOf t.store) now) else none := by
        cases gateEntry with
        | none => simp [← hgate]
        | some entry =>
          rw [readIn_gateOf (hgateRead entry rfl) hst ht (hpass _ (by simp))]
          simp [← hgate]
      rw [hgate']
      exact .ledger _ _ (.lifecycle _ _ current patch plan now (hnow.mono hvt)
        (hrow.trans hcur) hplan)

theorem updatePaidFallbackRequestV3_wp :
    PaidGuarantees clockOk (updatePaidFallbackRequestV3 reservation patch) w :=
  Guarantees.retrying (R := fun _ => True) (fun _ _ _ _ _ => trivial)
    (fun v _ => attemptUpdatePaidFallbackRequest_wp)
      (fun _ _ => by trivial) maxCasAttempts w trivial

section

variable (hbd : Bound w.store reservation.keyId reservation.requestId reservation.windowResetAtMs)

include hbd

/-- An attempt to release commits a step or nothing. -/
theorem attemptReleasePaidFallback_wp : PaidWp clockOk (fun _ _ => True)
      (attemptReleasePaidFallback reservation allowDispatchIntent) w := by
  refine kvGets_bind fun u hwu _ got hgot => dateNow_bind fun v huv _ now hnow => ?_
  split
  · trivial
  · next plan hplan =>
    refine kvCommit_bind (fun t hvt ht hpass => ⟨?_, trivial⟩) fun t _ _ => trivial
    have hut := huv.trans hvt
    have hwt := hwu.trans hut
    have hrow := readIn_requestOf (hgot (.request reservation.keyId reservation.requestId)
      (by simp)) hut ht (hpass _ (by simp))
    have hgate := readIn_gateOf (hgot .reconciliationGate (by simp)) hut ht (hpass _ (by simp))
    cases hcur : asRequest (got (.request reservation.keyId reservation.requestId)) with
    | none =>
      rw [hcur] at hplan
      cases hplan
    | some row =>
      rw [hcur] at hplan hrow
      have hrst := (hbd.le hwt ht).2 row hrow
      rw [← hrst] at hplan hpass ⊢
      have hwin := (planPaidFallbackReleaseV3_eq_some hplan).2.2.1
      rw [← hgate] at hplan
      refine .ledger _ _ (.release _ _ row _ plan allowDispatchIntent now (hnow.mono hvt) hrow ?_
        hplan)
      have hread := hgot (.window reservation.keyId reservation.windowResetAtMs) (by simp)
      rw [← hrst] at hread
      refine windowRead_of_read hread hut ht (fun hsome => hpass _ ?_) le_rfl ?_ (by rw [hrow]; rfl)
      · obtain ⟨window, hsome⟩ := Option.isSome_iff_exists.mp hsome
        simp [hwin, hsome]
      · rw [hwt.storeAt_length_eq]
        exact hbd.1

theorem releasePaidFallbackBeforeDispatchV3_wp : PaidGuarantees clockOk
      (releasePaidFallbackBeforeDispatchV3 reservation allowDispatchIntent) w :=
  Guarantees.retrying (R := fun v => Bound v.store reservation.keyId reservation.requestId
    reservation.windowResetAtMs) (fun _ _ hv hle hrun => hv.le hle hrun)
    (fun _ hv => attemptReleasePaidFallback_wp hv) (fun _ _ => by trivial) maxCasAttempts w hbd

end

end Lifecycle

/-! ### Settlement -/

section Settlement

theorem kvCommit_auxiliary (hlab : label.auxiliary = true := by rfl)
    (haux : ∀ a ∈ writes, a.key.auxiliary = true := by simp [Write.key, PaidKey.auxiliary]) :
    PaidGuarantees clockOk (kvCommit label checks writes) w :=
  Guarantees.kvCommit fun _ _ _ _ => .auxiliary label writes hlab haux

theorem acquireReconciliationLease_wp :
    PaidGuarantees clockOk (acquireReconciliationLease keyId token now) w := by
  refine Guarantees.retrying (R := fun _ => True) (fun _ _ _ _ _ => trivial) (fun v _ => ?_)
    (fun _ _ => by trivial) maxCasAttempts w trivial
  refine kvGet_bind fun u _ _ entry _ => ?_
  split_ifs
  · trivial
  · exact Guarantees.bind kvCommit_auxiliary fun _ _ _ => by trivial

theorem releaseReconciliationLease_wp :
    PaidGuarantees clockOk (releaseReconciliationLease keyId lease) w := by
  refine kvGet_bind fun u _ _ entry _ => ?_
  split_ifs
  · exact Guarantees.bind kvCommit_auxiliary fun _ _ _ => by trivial
  · trivial

theorem expeditePaidFallbackReconciliationV3_wp (hnow : w.Showed clockOk now) :
    PaidGuarantees clockOk (expeditePaidFallbackReconciliationV3 reservation now) w := by
  refine Guarantees.retrying (R := fun v => v.Showed clockOk now) (fun _ _ hv hle _ => hv.mono hle)
    (fun v hv => ?_) (fun v _ => by trivial) maxCasAttempts w hnow
  refine kvGets_bind fun u hvu _ got hgot => ?_
  have hmkr := hgot (.pending reservation.keyId reservation.requestId) (by simp)
  have hgate := hgot .reconciliationGate (by simp)
  dsimp only
  split
  · trivial
  · next pending hpend =>
    split
    · trivial
    · refine kvCommit_bind (fun t hut ht hpass => ⟨?_, trivial⟩) fun t _ _ => trivial
      have hmkr' := readIn_pendingOf hmkr hut ht (hpass _ (by simp))
      have hgate' := readIn_gateOf hgate hut ht (hpass _ (by simp))
      rw [← hgate']
      simp only [decide_eq_true_eq]
      exact .ledger _ _ (.expedite _ _ pending now (hv.mono (hvu.trans hut))
        (hmkr'.trans hpend))

theorem commitCleanup_wp (hnow : w.Showed clockOk now)
    (hcl : Closed w.store keyId requestId) (hgate : ReadIn u w .reconciliationGate gateEntry) :
    PaidGuarantees clockOk (commitCleanup keyId requestId pendingEntry gateEntry now) w := by
  refine Guarantees.kvCommit fun v hwv hv hpass => ?_
  rw [← readIn_gateOf hgate hwv hv (hpass _ (by simp))]
  exact .ledger _ _ (.cleanup keyId requestId now (hnow.mono hwv) (hcl.le hwv hv).2)

/-- What the programs rely on that take a request by its marker. -/
def Reconcilable (clockOk : ℤ → ℤ → Prop) (keyId requestId : String) (now : ℤ) (w : PaidWorld) :
    Prop :=
  w.Showed clockOk now ∧ Known w.store keyId requestId

theorem Reconcilable.le (h : Reconcilable clockOk keyId requestId now v) (hvw : v.Le w)
    (hw : PaidRun clockOk w) : Reconcilable clockOk keyId requestId now w :=
  ⟨h.1.mono hvw, h.2.le hvw hw⟩

theorem planPaidFallbackDeferralV3_eq_cleanup
    (h : planPaidFallbackDeferralV3 request pending now = .cleanup) :
    ∀ row, request = some row → isBillableRequestV3 row = false := by
  rintro row rfl
  unfold planPaidFallbackDeferralV3 at h
  cases pending with
  | none => cases h
  | some pending =>
    dsimp only at h
    split_ifs at h with hbill
    exact Bool.eq_false_iff.mpr hbill

/-- An attempt to defer commits a step or nothing. -/
theorem attemptDefer_wp (hw : Reconcilable clockOk keyId requestId now w) :
    PaidGuarantees clockOk (attemptDefer keyId requestId now) w := by
  refine kvGets_bind fun u hwu _ got hgot => ?_
  have hreq := hgot (.request keyId requestId) (by simp)
  have hpend := hgot (.pending keyId requestId) (by simp)
  split
  · trivial
  · next hplan =>
    refine kvGet_bind fun v huv hv gateEntry hgate => ?_
    have hcl := closed_of_read (hreq.mono huv) hv (hwu.trans huv) hw.2
      (planPaidFallbackDeferralV3_eq_cleanup hplan)
    exact Guarantees.bind (commitCleanup_wp (hw.1.mono (hwu.trans huv)) hcl hgate)
      fun _ _ _ => by trivial
  · next request deferred delay hplan =>
    refine kvCommit_bind (fun t hut ht hpass => ⟨?_, trivial⟩) fun t _ _ => trivial
    have hrow := readIn_requestOf hreq hut ht (hpass _ (by simp))
    have hmkr := readIn_pendingOf hpend hut ht (hpass _ (by simp))
    rw [← hrow, ← hmkr] at hplan
    cases hst : requestOf t.store keyId requestId with
    | none =>
      rw [hst] at hplan
      cases hmkd : pendingOf t.store keyId requestId with
      | none | some pending =>
        rw [hmkd] at hplan
        cases hplan
    | some row =>
      cases hmkd : pendingOf t.store keyId requestId with
      | none =>
        rw [hmkd] at hplan
        cases hplan
      | some pending =>
        rw [hst, hmkd] at hplan
        exact .ledger _ _ (.defer keyId requestId row pending request deferred delay now
          (hw.1.mono (hwu.trans hut)) hst hmkd hplan)

theorem deferPaidFallbackReconciliationV3_wp (hw : Reconcilable clockOk keyId requestId now w) :
    PaidGuarantees clockOk (deferPaidFallbackReconciliationV3 keyId requestId now) w :=
  Guarantees.retrying (fun _ _ hv hle hrun => hv.le hle hrun) (fun _ hv => attemptDefer_wp hv)
    (fun _ _ => by trivial) maxCasAttempts w hw

theorem pending_of_settle
    (h : evaluatePaidFallbackSettlementV3 (some row) pending providerLog metadata = .settle spend) :
    ∃ marker, pending = some marker := by
  unfold evaluatePaidFallbackSettlementV3 at h
  cases pending with
  | some marker => exact ⟨marker, rfl⟩
  | none =>
    dsimp only at h
    split_ifs at h with hcl hnoop
    simp at hnoop

theorem evaluatePaidFallbackSettlementV3_eq_cleanup
    (h : evaluatePaidFallbackSettlementV3 request pending providerLog metadata = .cleanup) :
    ∀ row, request = some row → isBillableRequestV3 row = false := by
  rintro row rfl
  unfold evaluatePaidFallbackSettlementV3 at h
  dsimp only at h
  split_ifs at h with hcl hnoop
  · exact hcl
  · split at h
    · cases h
    · split_ifs at h

section Settle

/-- The settlement is a step, since its checks hold what was read. -/
theorem commitPaidFallbackSettlementV3_wp {request : PaidFallbackRequestV3}
    {requestEntry : Option (Entry PaidValue)} (hnow : w.Showed clockOk now)
    (hreq : ReadIn u w (.request keyId requestId) requestEntry)
    (hpend : ReadIn u w (.pending keyId requestId) pendingEntry)
    (hgate : ReadIn u w .reconciliationGate gateEntry)
    (hrow : asRequest requestEntry = some request)
    (heva : evaluatePaidFallbackSettlementV3 (some request) (asPending pendingEntry)
      providerLog ⟨correlation, microcreditsPerCredit, surplusBuyerCostMicro⟩ = .settle spend) :
    PaidGuarantees clockOk (commitPaidFallbackSettlementV3 keyId requestId request requestEntry
      pendingEntry gateEntry providerLog spend correlation now) w := by
  refine kvGet_bind fun v hwv _ windowEntry hwin => ?_
  refine kvGet_bind fun s hvs _ rollupEntry hroll => ?_
  refine Guarantees.kvCommit fun t hst ht hpass => ?_
  have hvt := hvs.trans hst
  have hwt := hwv.trans hvt
  obtain ⟨marker, hmkr⟩ := pending_of_settle heva
  rw [hmkr] at heva
  have hrow' := (readIn_requestOf hreq hwt ht (hpass _ (by simp))).trans hrow
  have hmkr' := (readIn_pendingOf hpend hwt ht (hpass _ (by simp))).trans hmkr
  have hgate' := readIn_gateOf hgate hwt ht (hpass _ (by simp))
  -- the window is read after the row, so the row was stored when the window was not found
  have hwin' : WindowRead t keyId requestId request.windowResetAtMs (asWindow windowEntry) := by
    obtain ⟨n, -, hn, rfl⟩ := hreq
    refine windowRead_of_read hwin hvt ht (fun hsome => hpass _ ?_) hn ?_ (by rw [hrow']; rfl)
    · obtain ⟨window, hsome⟩ := Option.isSome_iff_exists.mp hsome
      simp [planPaidFallbackSettlementRowsV3, hsome]
    · rw [hwt.storeAt_eq hn]
      exact (bound_of_stored hrow).1
  have hroll' : foldIntoRollup (paidFallbackRequestRollupIdentity request correlation) = true →
      asUsageRollup rollupEntry
        = usageRollupOf t.store (paidFallbackRequestRollupIdentity request correlation) :=
    fun hfold => (readIn_usageRollupOf hroll hst ht (hpass _ (by simp [hfold]))).symm
  have hrows : (if foldIntoRollup (paidFallbackRequestRollupIdentity request correlation) = true
      then some (paidFallbackRequestRollupIdentity request correlation,
        paidFallbackSettlementRollupV3 request providerLog spend correlation
          (asUsageRollup rollupEntry) now) else none)
      = if foldIntoRollup (paidFallbackRequestRollupIdentity request correlation) = true
        then some (paidFallbackRequestRollupIdentity request correlation,
          paidFallbackSettlementRollupV3 request providerLog spend correlation
            (usageRollupOf t.store (paidFallbackRequestRollupIdentity request correlation)) now)
        else none := by
    split_ifs with hfold
    · rw [hroll' hfold]
    · rfl
  rw [hrows, ← hgate']
  exact .ledger _ _ (.settle keyId requestId request marker (asWindow windowEntry) providerLog
    correlation surplusBuyerCostMicro spend now (hnow.mono hwt) hrow' hmkr' hwin' heva
    _ rfl _ rfl)

theorem attemptSettle_wp (hw : Reconcilable clockOk keyId requestId now w) :
    PaidGuarantees clockOk (attemptSettle keyId requestId providerLog now correlation
      surplusBuyerCostMicro) w := by
  refine kvGets_bind fun u hwu hu got hgot => ?_
  have hreq := hgot (.request keyId requestId) (by simp)
  have hpend := hgot (.pending keyId requestId) (by simp)
  have hgate := hgot .reconciliationGate (by simp)
  have hnow := hw.1.mono hwu
  split
  · next heva =>
    have hcl := closed_of_read hreq hu hwu hw.2
      (evaluatePaidFallbackSettlementV3_eq_cleanup heva)
    refine Guarantees.bind ?_ fun _ _ _ => by trivial
    unfold clearStalePendingMarkerV3
    split_ifs
    · trivial
    · exact commitCleanup_wp hnow hcl hgate
  · exact Guarantees.bind (deferPaidFallbackReconciliationV3_wp (hw.le hwu hu))
      fun _ _ _ => by trivial
  · next spend request heva hrow =>
    rw [hrow] at heva
    refine Guarantees.bind ?_ fun _ _ _ => by trivial
    exact commitPaidFallbackSettlementV3_wp hnow hreq hpend hgate hrow heva
  · trivial

theorem settlePaidFallbackRequestV3_wp (hw : Reconcilable clockOk keyId requestId now w) :
    PaidGuarantees clockOk (settlePaidFallbackRequestV3 keyId requestId providerLog now correlation
      surplusBuyerCostMicro) w :=
  Guarantees.retrying (fun _ _ hv hle hrun => hv.le hle hrun) (fun _ hv => attemptSettle_wp hv)
    (fun _ _ => by trivial) maxCasAttempts w hw

end Settle

end Settlement

end UbqGateway.Paid
