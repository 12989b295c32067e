import UbqGateway.Paid.Service

/-!
# The gate and the work that is due

The scheduled reconciliation looks at the gate alone and does nothing before the time it says.
`NoLostWakeup` says that this is right: when a dispatched request is due, the gate is absent,
malformed or due.  Whoever makes a request due writes the gate with the present time, and a
recomputation writes what its scan has found.

A deferral writes the marker and not the gate.  It is given the clock reading of the reconciliation
it belongs to, which may be old when it commits, and then it can move a marker to an earlier time
than the gate says (`staleDeferral_lost`).
-/

namespace UbqGateway.Paid

variable {w : PaidWorld}

/-- The gate does not keep a reconciliation at the time `t` from its work. -/
def GateOpenAt (kv : PaidKv) (t : ℤ) : Prop :=
  isPaidFallbackReconciliationGate (gateOf kv) = false ∨
    ∃ due, (gateOf kv).bind (·.nextDueAtMs) = some due ∧ due ≤ t

/-- When a dispatched request is due at a time `t` that no clock is ahead of, the gate is open. -/
def NoLostWakeup (clockOk : ℤ → ℤ → Prop) (w : PaidWorld) : Prop :=
  ∀ t, (∀ now, w.Showed clockOk now → now ≤ t) → ∀ k r dueAtMs, Awaiting w.store k r dueAtMs →
    dueAtMs ≤ t → GateOpenAt w.store t

/-! ### Markers are safe counts -/

/-- What `Date.now()` may return: a time value, which is at most 8.64e15. -/
def TimeValues (clockOk : ℤ → ℤ → Prop) : Prop :=
  ∀ time now, clockOk time now → 0 ≤ now ∧ now ≤ 8640000000000000

theorem retryDelayMs_bounds (attempts : ℕ) : 0 ≤ retryDelayMs attempts ∧
    retryDelayMs attempts ≤ 21600000 := by
  have hdelays : ∀ index < 6, 0 ≤ retryDelaysMs.getD index 0 ∧
      retryDelaysMs.getD index 0 ≤ 21600000 := by decide
  exact hdelays _ (Nat.lt_succ_of_le (Nat.min_le_right _ _))

theorem isSafeUsageCount_of_le (hpos : 0 ≤ value) (hle : value ≤ 8640000021600000) :
    isSafeUsageCount value = true := by
  simp only [isSafeUsageCount, Authority.isSafeInteger, Bool.and_eq_true, decide_eq_true_eq]
  omega

/-- The markers of the store say times that are safe counts. -/
def SafeMarkers (kv : PaidKv) : Prop :=
  ∀ k r marker, pendingOf kv k r = some marker →
    isSafeUsageCount marker.nextReconciliationAtMs = true

theorem Showed.bounds (hclk : TimeValues clockOk) (h : w.Showed clockOk now) :
    0 ≤ now ∧ now ≤ 8640000000000000 := by
  obtain ⟨time, -, hok⟩ := h
  exact hclk time now hok

section

variable (hclk : TimeValues clockOk)

include hclk

theorem LedgerStep.safeMarker (h : LedgerStep clockOk w label rows) {marker : PaidFallbackPendingV3}
    (hmkr : rows.pending = some (some marker)) :
    isSafeUsageCount marker.nextReconciliationAtMs = true := by
  have hsafe : ∀ {now : ℤ}, w.Showed clockOk now → isSafeUsageCount now = true := by
    intro now hnow
    have hbds := Showed.bounds hclk hnow
    exact isSafeUsageCount_of_le hbds.1 (by omega)
  cases h with
  | admission _ _ _ hnow _ _ _ hplan =>
    obtain ⟨reservation, hdcd⟩ := planPaidFallbackAdmissionV3_eq_write hplan
    cases hmkr
    rw [hdcd.pending]
    exact hsafe hnow
  | expedite _ _ _ _ hnow =>
    dsimp only at hmkr
    split_ifs at hmkr
    cases hmkr
    exact hsafe hnow
  | defer _ _ row _ _ _ _ _ hnow _ _ hplan =>
    cases hmkr
    obtain ⟨-, -, -, -, -, hdelay, hdef⟩ := planPaidFallbackDeferralV3_eq_write hplan
    have hbds := Showed.bounds hclk hnow
    have hrty := retryDelayMs_bounds (row.reconciliationAttempts + 1)
    rw [hdef, hdelay]
    exact isSafeUsageCount_of_le (add_nonneg hbds.1 hrty.1) (add_le_add hbds.2 hrty.2)
  | _ => cases hmkr

theorem SafeMarkers.step (h : PaidStep clockOk w label writes) (hsafe : SafeMarkers w.store) :
    SafeMarkers (w.store.apply writes) := by
  intro k r marker hmkr
  rcases h.kind with ⟨rows, hstep, rfl⟩ | ⟨keyId, keys, rfl, rfl, -, -⟩ | ⟨-, heq⟩
  · rw [pendingOf_apply] at hmkr
    split_ifs at hmkr with hkey
    · rcases hpend : rows.pending with _ | _ | written
      · rw [hpend] at hmkr
        exact hsafe k r marker hmkr
      · rw [hpend] at hmkr
        cases hmkr
      · rw [hpend] at hmkr
        cases hmkr
        exact hstep.safeMarker hclk hpend
    · exact hsafe k r marker hmkr
  · rw [pendingOf_apply_delete] at hmkr
    split_ifs at hmkr
    exact hsafe k r marker hmkr
  · unfold pendingOf at hmkr
    rw [heq _ rfl] at hmkr
    exact hsafe k r marker hmkr

theorem PaidRun.safeMarkers (hw : PaidRun clockOk w) (hinit : SafeMarkers w.init) :
    SafeMarkers w.store := by
  induction hw with
  | start => exact hinit
  | advance _ _ _ _ ih => exact ih hinit
  | commit _ _ _ _ hstep ih => exact (ih hinit).step hclk hstep

theorem PaidRun.markersSafe (hw : PaidRun clockOk w) (hinit : SafeMarkers w.init) :
    MarkersSafe w := by
  intro n hn
  obtain ⟨u, hu, hle, rfl⟩ := hw.exists_storeAt hn
  rw [hle.storeAt_length_eq]
  exact PaidRun.safeMarkers hclk hu (hle.init ▸ hinit)

end

/-! ### The gate -/

/-- What the gate says of a request that is due at `dueAtMs`: nothing, or a time that is not later,
or one that a clock has shown. -/
def GateReaches (clockOk : ℤ → ℤ → Prop) (w : PaidWorld) (dueAtMs : ℤ) : Prop :=
  isPaidFallbackReconciliationGate (gateOf w.store) = false ∨
    ∃ due, (gateOf w.store).bind (·.nextDueAtMs) = some due ∧
      (due ≤ dueAtMs ∨ ∃ now, w.Showed clockOk now ∧ due ≤ now)

theorem gateDueNow_le (gate : Option PaidFallbackReconciliationGateV3) (now : ℤ) :
    ∃ due, (paidFallbackReconciliationGateDueNow gate now).nextDueAtMs = some due ∧ due ≤ now := by
  refine ⟨_, rfl, ?_⟩
  cases (if isPaidFallbackReconciliationGate gate = true then gate.bind (·.nextDueAtMs)
    else none) with
  | none => exact le_rfl
  | some due => exact min_le_right due now

/-- A step that writes the gate opens it at once or has scanned the markers. -/
theorem LedgerStep.gate (h : LedgerStep clockOk w label rows)
    {gate : PaidFallbackReconciliationGateV3} (hgate : rows.gate = some gate) :
    (∃ now, w.Showed clockOk now ∧
      gate = paidFallbackReconciliationGateDueNow (gateOf w.store) now) ∨
    rows.request = none ∧ rows.pending = none ∧ (DeferralsForward w → MarkersSafe w →
      ∀ k r dueAtMs, Awaiting w.store k r dueAtMs → ReachedBy gate.nextDueAtMs dueAtMs) := by
  cases h with
  | admission _ _ now hnow | lifecycle _ _ _ _ _ now hnow =>
    dsimp only at hgate
    split_ifs at hgate
    exact .inl ⟨now, hnow, (Option.some.inj hgate).symm⟩
  | release _ _ _ _ _ _ now hnow _ _ hplan =>
    refine .inl ⟨now, hnow, ?_⟩
    rw [← (planPaidFallbackReleaseV3_eq_some hplan).2.2.2]
    exact (Option.some.inj hgate).symm
  | expedite _ _ _ now hnow =>
    exact .inl ⟨now, hnow, (Option.some.inj hgate).symm⟩
  | cleanup _ _ now hnow => exact .inl ⟨now, hnow, (Option.some.inj hgate).symm⟩
  | settle _ _ _ _ _ _ _ _ _ now hnow _ _ _ _ _ _ _ hplan =>
    refine .inl ⟨now, hnow, ?_⟩
    rw [← Option.some.inj hgate, hplan]
    rfl
  | recompute _ hscan =>
    cases hgate
    exact .inr ⟨rfl, rfl, hscan⟩
  | _ => cases hgate

theorem GateReaches.mono (h : GateReaches clockOk v due) (hdue : due ≤ due') (hvw : v.Le w)
    (hgate : gateOf w.store = gateOf v.store) : GateReaches clockOk w due' := by
  unfold GateReaches
  rw [hgate]
  refine h.imp id ?_
  rintro ⟨d, hd, hle | ⟨now, hnow, hle⟩⟩
  · exact ⟨d, hd, .inl (hle.trans hdue)⟩
  · exact ⟨d, hd, .inr ⟨now, hnow.mono hvw, hle⟩⟩

/-- **The step** of the invariant of the gate. -/
theorem PaidStep.gateReaches (h : PaidStep clockOk w label writes)
    (hfwd : DeferralsForward (w.commit label writes)) (hsafe : MarkersSafe w)
    (hbef : ∀ k r dueAtMs, Awaiting w.store k r dueAtMs → GateReaches clockOk w dueAtMs)
    (hdue : Awaiting (w.store.apply writes) k r dueAtMs) :
    GateReaches clockOk (w.commit label writes) dueAtMs := by
  have hle := w.le_commit label writes
  by_cases heq : (w.store.apply writes).get .reconciliationGate = w.store.get .reconciliationGate
  · obtain ⟨due, hdueLe, hawaiting⟩ := h.awaiting heq hfwd hdue
    refine (hbef k r due hawaiting).mono hdueLe hle ?_
    rw [World.store_commit, gateOf, heq]
    rfl
  · rcases h.kind with ⟨rows, hstep, rfl⟩ | ⟨keyId, keys, rfl, rfl, -, hkeys⟩ | ⟨-, hled⟩
    · cases hgate : rows.gate with
      | none =>
        rw [get_gate_apply, hgate] at heq
        exact absurd rfl heq
      | some gate =>
        have hnow : gateOf (w.store.apply rows.toList) = some gate := by
          rw [gateOf_apply, hgate]
          rfl
        rcases hstep.gate hgate with ⟨now, hshowed, hdueNow⟩ | ⟨hreq, hpend, hscan⟩
        · obtain ⟨due, hd, hdLe⟩ := gateDueNow_le (gateOf w.store) now
          refine .inr ⟨due, ?_, .inr ⟨now, hshowed.mono hle, hdLe⟩⟩
          rw [World.store_commit, hnow, hdueNow]
          exact hd
        · -- a recomputation changes the gate alone
          have hbef' : Awaiting w.store k r dueAtMs := by
            obtain ⟨hrow, hmkr⟩ := hdue
            rw [requestOf_apply, hreq, Option.none_or, ite_self] at hrow
            rw [pendingOf_apply, hpend, Option.getD_none, ite_self] at hmkr
            exact ⟨hrow, hmkr⟩
          obtain ⟨due, hd, hdLe⟩ := hscan (hfwd.of_le hle) hsafe k r dueAtMs hbef'
          refine .inr ⟨due, ?_, .inl hdLe⟩
          rw [World.store_commit, hnow]
          exact hd
    · rw [get_apply_delete, if_neg fun hmem => hkeys .reconciliationGate hmem] at heq
      exact absurd rfl heq
    · exact absurd (hled _ rfl) heq

theorem PaidRun.gateReaches (hclk : TimeValues clockOk) (hw : PaidRun clockOk w)
    (hinit : SafeMarkers w.init) (hgate : ∀ k r dueAtMs, Awaiting w.init k r dueAtMs →
      isPaidFallbackReconciliationGate (gateOf w.init) = false) (hfwd : DeferralsForward w) :
    ∀ k r dueAtMs, Awaiting w.store k r dueAtMs → GateReaches clockOk w dueAtMs := by
  induction hw with
  | start => exact fun k r dueAtMs hdue => .inl (hgate k r dueAtMs hdue)
  | advance w _ _ ht ih =>
    intro k r dueAtMs hdue
    exact (ih hinit hgate (hfwd.of_le (w.le_advance ht)) k r dueAtMs hdue).mono le_rfl
      (w.le_advance ht) rfl
  | commit w label writes hw hstep ih =>
    intro k r dueAtMs hdue
    exact hstep.gateReaches hfwd (PaidRun.markersSafe hclk hw hinit)
      (ih hinit hgate (hfwd.of_le (w.le_commit label writes))) hdue

/-- **No lost wake-up** in a run in which no deferral was made with a stale clock reading: a
dispatched request that is due finds the gate absent, malformed or due. -/
theorem no_lost_wakeup {sys : PaidSystem} (hclk : TimeValues clockOk)
    (h : PaidReachable clockOk Kv.empty sys) (hfwd : DeferralsForward sys.world) :
    NoLostWakeup clockOk sys.world := by
  intro t ht k r dueAtMs hdue hle
  have hrun := paidReachable_run paidStart_empty h
  have hinit : sys.world.init = Kv.empty := Reachable.init_eq h
  have hreaches := PaidRun.gateReaches hclk hrun (by rw [hinit]; rintro _ _ _ ⟨⟩)
    (by rw [hinit]; rintro _ _ _ ⟨⟨_, ⟨⟩, -⟩, -⟩) hfwd k r dueAtMs hdue
  refine hreaches.imp id ?_
  rintro ⟨due, hd, hdLe | ⟨now, hnow, hdLe⟩⟩
  · exact ⟨due, hd, hdLe.trans hle⟩
  · exact ⟨due, hd, hdLe.trans (ht now hnow)⟩

/-- No provider has anything to report. -/
def noLogs : MeteredTokenLogs := fun _ _ => some []

/-- A reconciliation that started at 0 is held up before its deferral; another one defers and
recomputes the gate at 60000, and then the first one goes on. -/
def staleDeferralSchedule : List (Action (ℕ × PaidOperation)) :=
  runSession (sampleInput "a" 100 true) [] ++
    [.spawn (9, .reconcile "first" noLogs "key"), .act 0 6, .tick 60000,
      .spawn (9, .reconcile "second" noLogs "key"), .act 0 30, .act 1 2]

/-- **A stale deferral loses a wake-up**: it moves the marker to 30000, the gate says 65000, and at
60000 the request is due. -/
theorem staleDeferral_lost :
    ¬ ∀ sys, PaidReachable exactClock Kv.empty sys → NoLostWakeup exactClock sys.world := by
  intro h
  have hrch := afterSchedule_reachable Kv.empty staleDeferralSchedule (by decide)
  have htime : (afterSchedule Kv.empty staleDeferralSchedule).world.time = 60000 := by
    decide +kernel
  have hrow : (requestOf (afterSchedule Kv.empty staleDeferralSchedule).world.store "key" "a").map
      (fun row => (isBillableRequestV3 row, row.dispatchState)) = some (true, .dispatched) := by
    decide +kernel
  have hmkr : (pendingOf (afterSchedule Kv.empty staleDeferralSchedule).world.store "key" "a").map
      (·.nextReconciliationAtMs) = some 30000 := by decide +kernel
  have hgate : gateOf (afterSchedule Kv.empty staleDeferralSchedule).world.store
      = some ⟨some 65000⟩ := by decide +kernel
  obtain ⟨row, hst, hrow⟩ := Option.map_eq_some_iff.mp hrow
  obtain ⟨hbill, hdisp⟩ := Prod.mk.inj hrow
  obtain ⟨marker, hpend, hnext⟩ := Option.map_eq_some_iff.mp hmkr
  have hopen := h _ hrch 60000 ?_ "key" "a" 30000
    ⟨⟨row, hst, hbill, hdisp⟩, marker, hpend, hnext⟩ (by decide)
  · rw [GateOpenAt, hgate] at hopen
    rcases hopen with hmalformed | ⟨due, hdue, hle⟩
    · exact absurd hmalformed (by decide)
    · cases hdue
      exact absurd hle (by decide)
  · rintro now ⟨time, hle, rfl, -⟩
    rwa [htime] at hle

/-- A request is admitted and dispatched, its reconciliation is deferred, and its time comes. -/
def deferralSchedule : List (Action (ℕ × PaidOperation)) :=
  runSession (sampleInput "a" 100 true) [] ++
    [.spawn (9, .reconcile "token" noLogs "key"), .act 0 30, .tick 5000]

theorem no_lost_wakeup_deferralSchedule :
    Awaiting (afterSchedule Kv.empty deferralSchedule).world.store "key" "a" 5000 ∧
      GateOpenAt (afterSchedule Kv.empty deferralSchedule).world.store 5000 := by
  have htime : (afterSchedule Kv.empty deferralSchedule).world.time = 5000 := by decide +kernel
  have hrow : (requestOf (afterSchedule Kv.empty deferralSchedule).world.store "key" "a").map
      (fun row => (isBillableRequestV3 row, row.dispatchState)) = some (true, .dispatched) := by
    decide +kernel
  have hmkr : (pendingOf (afterSchedule Kv.empty deferralSchedule).world.store "key" "a").map
      (·.nextReconciliationAtMs) = some 5000 := by decide +kernel
  have hlabs : (afterSchedule Kv.empty deferralSchedule).world.events.map Event.label
      = [.recompute, .lease "key", .defer "key" "a" 0, .lease "key",
        .admission (sampleInput "a" 100 true)] := by decide +kernel
  have hlen : (afterSchedule Kv.empty deferralSchedule).world.length = 5 := by decide +kernel
  have hlater : ∀ n < 5, ∀ row ∈
      requestOf ((afterSchedule Kv.empty deferralSchedule).world.storeAt n) "key" "a", ∀ marker ∈
      pendingOf ((afterSchedule Kv.empty deferralSchedule).world.storeAt n) "key" "a",
      marker.nextReconciliationAtMs ≤ 0 + retryDelayMs (row.reconciliationAttempts + 1) := by
    decide +kernel
  obtain ⟨row, hst, hrow⟩ := Option.map_eq_some_iff.mp hrow
  obtain ⟨hbill, hdisp⟩ := Prod.mk.inj hrow
  obtain ⟨marker, hpend, hnext⟩ := Option.map_eq_some_iff.mp hmkr
  have hdue : Awaiting (afterSchedule Kv.empty deferralSchedule).world.store "key" "a" 5000 :=
    ⟨⟨row, hst, hbill, hdisp⟩, marker, hpend, hnext⟩
  have hfwd : DeferralsForward (afterSchedule Kv.empty deferralSchedule).world := by
    intro kv k r now kv' hcom row marker hrow hmkr
    have hmem := hcom.label_mem
    obtain ⟨n, hn, rfl, -⟩ := hcom.storeAt
    rw [hlabs] at hmem
    rw [hlen] at hn
    simp only [List.mem_cons, List.not_mem_nil, or_false, PaidCommit.defer.injEq, reduceCtorEq,
      false_or] at hmem
    obtain ⟨rfl, rfl, rfl⟩ := hmem
    exact hlater n hn row hrow marker hmkr
  refine ⟨hdue, no_lost_wakeup (fun _ _ h => h.2)
    (afterSchedule_reachable Kv.empty deferralSchedule (by decide)) hfwd 5000 ?_ "key" "a" 5000 hdue
    le_rfl⟩
  rintro now ⟨time, hle, rfl, -⟩
  rwa [htime] at hle

end UbqGateway.Paid
