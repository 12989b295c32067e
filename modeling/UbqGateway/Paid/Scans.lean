import UbqGateway.Paid.Guarantee

/-!
# The programs that run over listings

The recomputation of the gate reads the gate, then the markers one after the other, and commits if
the gate is still the one it read.  Between its first read and its commit other clients may have
created, moved and removed markers.  `awaiting_back` is why the result is right nevertheless:
whoever makes a request due earlier than the scan may have seen it writes the gate as well, except
for a deferral.

The reconciliation takes the requests whose markers it has listed: such a request is known.
-/

namespace UbqGateway.Paid

open ClientM

/-! ### Due work -/

variable {kv : PaidKv} {rows : LedgerWrite}

theorem gate_eq_none_of_get_eq
    (h : (kv.apply rows.toList).get .reconciliationGate = kv.get .reconciliationGate) :
    rows.gate = none := by
  rw [get_gate_apply] at h
  cases hgate : rows.gate with
  | none => rfl
  | some gate =>
    rw [hgate] at h
    have hstamp := kv.stamped _ _ h.symm
    exact absurd hstamp (Nat.not_succ_le_self _)

theorem dispatched_of_lifecycle (h : planPaidFallbackLifecycleV3 row patch now = some plan)
    (hgate : ¬ (plan.readGate = true ∧ plan.dispatchBoundary = true))
    (hdisp : plan.request.dispatchState = .dispatched) : row.dispatchState = .dispatched := by
  unfold planPaidFallbackLifecycleV3 at h
  dsimp only at h
  split_ifs at h
  cases h
  change (resolveRequestLifecyclePatchV3 row patch now).dispatchState = .dispatched at hdisp
  by_contra hnot
  simp [hdisp, hnot] at hgate

/-- A step that leaves the gate makes no row due earlier. -/
theorem LedgerStep.awaiting (h : LedgerStep clockOk w label rows) (hgate : rows.gate = none)
    (hfwd : DeferralsForward (w.commit label rows.toList))
    (hdue : Awaiting (w.store.apply rows.toList) k r dueAtMs) :
    ∃ due ≤ dueAtMs, Awaiting w.store k r due := by
  obtain ⟨⟨row, hrow, hbill, hdisp⟩, marker, hmkr, hnext⟩ := hdue
  have hdefer := fun now hlab => hfwd w.store k r now (w.store.apply rows.toList)
    ((w.committed_commit_iff label rows.toList _ _ _).mpr (Or.inl ⟨hlab, rfl, rfl⟩))
  rw [requestOf_apply] at hrow
  rw [pendingOf_apply] at hmkr
  by_cases hkey : rows.keyId = k ∧ rows.requestId = r
  · obtain ⟨rfl, rfl⟩ := hkey
    simp only [and_self, if_true] at hrow hmkr
    cases h with
    | admission input _ _ _ _ _ _ hplan =>
      obtain ⟨reservation, hdcd⟩ := planPaidFallbackAdmissionV3_eq_write hplan
      cases hrow
      rw [hdcd.request] at hdisp
      rw [hdcd.checkGate] at hgate
      cases hint : input.dispatchIntent with
      | true => simp [hint] at hgate
      | false => simp [buildPaidFallbackRequestV3, hint] at hdisp
    | exhaustedPolicy | windowTtl => exact ⟨dueAtMs, le_rfl, ⟨row, hrow, hbill, hdisp⟩,
        marker, hmkr, hnext⟩
    | lifecycle _ _ stored _ _ _ _ hst hplan =>
      cases hrow
      obtain ⟨-, hbil, -⟩ := evolves_lifecycle hplan
      refine ⟨dueAtMs, le_rfl, ⟨stored, hst, ?_, ?_⟩, marker, hmkr, hnext⟩
      · simpa [isBillableRequestV3, hbil] using hbill
      · refine dispatched_of_lifecycle hplan (fun hboundary => ?_) hdisp
        simp [hboundary.1, hboundary.2] at hgate
    | release | expedite | cleanup | settle | recompute => cases hgate
    | defer _ _ stored pending _ _ _ now _ hst hpend hplan =>
      cases hrow
      cases hmkr
      obtain ⟨hstoredBillable, -, -, hsta, -, hdelay, hdef⟩ :=
        planPaidFallbackDeferralV3_eq_write hplan
      refine ⟨pending.nextReconciliationAtMs, ?_,
        ⟨stored, hst, hstoredBillable, hsta ▸ hdisp⟩, pending, hpend, rfl⟩
      rw [← hnext, hdef, hdelay]
      exact hdefer now rfl stored pending hst hpend
    | retention _ _ _ hst =>
      cases hrow
      exact ⟨dueAtMs, le_rfl, ⟨_, hst, hbill, hdisp⟩, marker, hmkr, hnext⟩
    | fold _ _ stored _ hst _ _ _ _ hplan =>
      cases hrow
      subst hplan
      exact ⟨dueAtMs, le_rfl, ⟨stored, hst, hbill, hdisp⟩, marker, hmkr, hnext⟩
  · rw [if_neg hkey] at hrow hmkr
    exact ⟨dueAtMs, le_rfl, ⟨row, hrow, hbill, hdisp⟩, marker, hmkr, hnext⟩

theorem Awaiting.of_get_eq (h : Awaiting kv' k r dueAtMs)
    (hreq : kv'.get (.request k r) = kv.get (.request k r))
    (hpend : kv'.get (.pending k r) = kv.get (.pending k r)) : Awaiting kv k r dueAtMs := by
  obtain ⟨hrow, hmkr⟩ := h
  unfold requestOf at hrow
  unfold pendingOf at hmkr
  rw [hreq] at hrow
  rw [hpend] at hmkr
  exact ⟨hrow, hmkr⟩

theorem PaidStep.awaiting (h : PaidStep clockOk w label writes)
    (hgate : (w.store.apply writes).get .reconciliationGate = w.store.get .reconciliationGate)
    (hfwd : DeferralsForward (w.commit label writes))
    (hdue : Awaiting (w.store.apply writes) k r dueAtMs) :
    ∃ due ≤ dueAtMs, Awaiting w.store k r due := by
  rcases h.kind with ⟨rows, hstep, rfl⟩ | ⟨keyId, keys, rfl, rfl, -, -⟩ | ⟨-, heq⟩
  · exact hstep.awaiting (gate_eq_none_of_get_eq hgate) hfwd hdue
  · obtain ⟨⟨row, hrow, hbld⟩, marker, hmkr, hnext⟩ := hdue
    rw [requestOf_apply_delete] at hrow
    rw [pendingOf_apply_delete] at hmkr
    split_ifs at hrow
    split_ifs at hmkr
    exact ⟨dueAtMs, le_rfl, ⟨row, hrow, hbld⟩, marker, hmkr, hnext⟩
  · exact ⟨dueAtMs, le_rfl, hdue.of_get_eq (heq _ rfl) (heq _ rfl)⟩

theorem PaidStep.gate_same (h : PaidStep clockOk w label writes) (hkv : kv.Precedes w.store)
    (hgate : (w.store.apply writes).get .reconciliationGate = kv.get .reconciliationGate) :
    (w.store.apply writes).get .reconciliationGate = w.store.get .reconciliationGate := by
  rcases h.kind with ⟨rows, _, rfl⟩ | ⟨keyId, keys, rfl, rfl, -, hkeys⟩ | ⟨-, heq⟩
  · rw [get_gate_apply] at hgate ⊢
    cases hwrs : rows.gate with
    | none => rfl
    | some gate =>
      rw [hwrs] at hgate
      have hold := (kv.stamped _ _ hgate.symm).trans hkv.1
      exact absurd hold (Nat.not_succ_le_self _)
  · rw [get_apply_delete, if_neg]
    exact fun hmem => hkeys _ hmem
  · exact heq _ rfl

variable {v : PaidWorld}

theorem DeferralsForward.of_le (h : DeferralsForward w) (hvw : v.Le w) : DeferralsForward v :=
  fun kv k r now kv' hcom => h kv k r now kv' (hcom.mono hvw)

theorem MarkersSafe.of_le (h : MarkersSafe w) (hvw : v.Le w) : MarkersSafe v := by
  intro n hn k r marker hmkr
  rw [← hvw.storeAt_eq hn] at hmkr
  exact h n (hn.trans hvw.length_le) k r marker hmkr

/-- **While the gate is not written, nothing becomes due earlier**: what is due now was due, and not
later, at every moment since the gate was read. -/
theorem awaiting_back (hw : PaidRun clockOk w) : ∀ {m n : ℕ}, m ≤ n → n ≤ w.length →
    w.store.get .reconciliationGate = (w.storeAt m).get .reconciliationGate →
    DeferralsForward w → ∀ {k r : String} {dueAtMs : ℤ}, Awaiting w.store k r dueAtMs →
    ∃ due ≤ dueAtMs, Awaiting (w.storeAt n) k r due := by
  induction hw with
  | start =>
    intro m n hmn hn hgate hfwd k r dueAtMs hdue
    obtain rfl := Nat.le_zero.mp hn
    exact ⟨dueAtMs, le_rfl, hdue⟩
  | advance w _ _ ht ih =>
    intro m n hmn hn hgate hfwd k r dueAtMs hdue
    exact ih hmn hn hgate (hfwd.of_le (w.le_advance ht)) hdue
  | commit w label writes hw hstep ih =>
    intro m n hmn hn hgate hfwd k r dueAtMs hdue
    have hle := w.le_commit label writes
    by_cases hlast : n ≤ w.length
    · rw [hle.storeAt_eq (hmn.trans hlast)] at hgate
      rw [hle.storeAt_eq hlast]
      have heq := hstep.gate_same (hw.precedes_storeAt m) hgate
      obtain ⟨due, hdueLe, hbef⟩ := hstep.awaiting heq hfwd hdue
      rw [World.store_commit, heq] at hgate
      obtain ⟨due', hdueLe', hback⟩ := ih hmn hlast hgate (hfwd.of_le hle) hbef
      exact ⟨due', hdueLe'.trans hdueLe, hback⟩
    · obtain rfl : n = (w.commit label writes).length := by
        have hlen : (w.commit label writes).length = w.length + 1 := rfl
        omega
      rw [World.storeAt_length]
      exact ⟨dueAtMs, le_rfl, hdue⟩

theorem gate_back (hw : PaidRun clockOk w) : ∀ {m n : ℕ}, m ≤ n → n ≤ w.length →
    w.store.get .reconciliationGate = (w.storeAt m).get .reconciliationGate →
    (w.storeAt n).get .reconciliationGate = (w.storeAt m).get .reconciliationGate := by
  induction hw with
  | start =>
    intro m n hmn hn hgate
    obtain rfl := Nat.le_zero.mp hn
    exact hgate
  | advance _ _ _ _ ih => exact ih
  | commit w label writes hw hstep ih =>
    intro m n hmn hn hgate
    have hle := w.le_commit label writes
    by_cases hlast : n ≤ w.length
    · rw [hle.storeAt_eq (hmn.trans hlast)] at hgate ⊢
      have heq := hstep.gate_same (hw.precedes_storeAt m) hgate
      rw [World.store_commit, heq] at hgate
      rw [hle.storeAt_eq hlast]
      exact ih hmn hlast hgate
    · obtain rfl : n = (w.commit label writes).length := by
        have hlen : (w.commit label writes).length = w.length + 1 := rfl
        omega
      rw [World.storeAt_length]
      exact hgate

/-! ### The gate -/

section Gate

/-- The earliest due time of a scan is not later than `dueAtMs`. -/
def ReachedBy (earliestDueAtMs : Option ℤ) (dueAtMs : ℤ) : Prop :=
  ∃ due, earliestDueAtMs = some due ∧ due ≤ dueAtMs

variable {scan : PendingMarkerScan}

theorem ReachedBy.mono (h : ReachedBy earliestDueAtMs due) (hle : due ≤ due') :
    ReachedBy earliestDueAtMs due' := by
  obtain ⟨earliest, hearliest, hdue⟩ := h
  exact ⟨earliest, hearliest, hdue.trans hle⟩

theorem reachedBy_earliestDue (hsafe : isSafeUsageCount dueAtMs = true) :
    ReachedBy (earliestDue earliestDueAtMs dueAtMs) dueAtMs := by
  unfold earliestDue
  rw [if_pos hsafe]
  refine ⟨_, rfl, ?_⟩
  cases earliestDueAtMs with
  | none => exact le_rfl
  | some earliest =>
    dsimp only [Option.elim_some]
    split_ifs with hlt
    · exact le_rfl
    · exact not_lt.mp hlt

theorem ReachedBy.earliestDue (h : ReachedBy earliestDueAtMs due) (dueAtMs : ℤ) :
    ReachedBy (earliestDue earliestDueAtMs dueAtMs) due := by
  obtain ⟨earliest, rfl, hdue⟩ := h
  unfold Paid.earliestDue
  split_ifs
  · refine ⟨_, rfl, ?_⟩
    dsimp only [Option.elim_some]
    split_ifs with hlt
    · exact hlt.le.trans hdue
    · exact hdue
  · exact ⟨earliest, rfl, hdue⟩

theorem ReachedBy.scanMarker (h : ReachedBy scan.earliestDueAtMs due)
    (listed : PaidKey × Entry PaidValue) :
    ReachedBy (scanMarker scan listed).earliestDueAtMs due := by
  unfold Paid.scanMarker
  split
  · exact h.earliestDue _
  · exact h

/-- The scan has seen what is due of the requests whose markers lie under the keys `seen`, unless
the gate has been written since the moment `m`. -/
def Scanned (m : ℕ) (seen : PaidKey → Prop) (earliestDueAtMs : Option ℤ) (w : PaidWorld) : Prop :=
  w.store.get .reconciliationGate = (w.storeAt m).get .reconciliationGate →
    DeferralsForward w → MarkersSafe w → ∀ k r dueAtMs, Awaiting w.store k r dueAtMs →
      seen (.pending k r) → ReachedBy earliestDueAtMs dueAtMs

theorem Scanned.le (h : Scanned m seen earliestDueAtMs v) (hm : m ≤ v.length) (hvw : v.Le w)
    (hw : PaidRun clockOk w) : Scanned m seen earliestDueAtMs w := by
  intro hgate hfwd hsafe k r dueAtMs hdue hseen
  obtain ⟨due, hle, hback⟩ := awaiting_back hw hm hvw.length_le hgate hfwd hdue
  have hgate' := gate_back hw hm hvw.length_le hgate
  rw [hvw.storeAt_length_eq] at hback hgate'
  rw [hvw.storeAt_eq hm] at hgate'
  exact (h hgate' (hfwd.of_le hvw) (hsafe.of_le hvw) k r due hback hseen).mono hle

/-- The scan takes one more marker. -/
theorem Scanned.next (hw : PaidRun clockOk w) (hmn : m ≤ n) (hn : n ≤ w.length)
    (h : Scanned m (fun j => ∃ b, a = some b ∧ j ≤ b) scan.earliestDueAtMs w)
    (hfst : FirstAfter (w.storeAt n) isPending a (some (key, entry))) :
    Scanned m (fun j => ∃ b, some key = some b ∧ j ≤ b)
      (scanMarker scan (key, entry)).earliestDueAtMs w := by
  intro hgate hfwd hsafe k r dueAtMs hdue hseen
  obtain ⟨hent, -, -, hlst⟩ := hfst
  obtain ⟨_, hb, hle⟩ := hseen
  cases hb
  by_cases hbef : ∃ b, a = some b ∧ PaidKey.pending k r ≤ b
  · exact (h hgate hfwd hsafe k r dueAtMs hdue hbef).scanMarker _
  · -- the marker lies after the cursor, so it is the one that was listed
    obtain ⟨due, hdueLe, -, marker, hmkr, hnext⟩ :=
      awaiting_back hw hmn hn hgate hfwd hdue
    have hsafe' := hsafe n hn k r marker hmkr
    unfold pendingOf at hmkr
    cases hget : (w.storeAt n).get (.pending k r) with
    | none =>
      rw [hget] at hmkr
      cases hmkr
    | some found =>
      have haft : ∀ b, a = some b → b < PaidKey.pending k r := by
        intro b hb
        exact not_le.mp fun hle => hbef ⟨b, hb, hle⟩
      obtain rfl := le_antisymm hle (hlst _ _ hget rfl haft)
      rw [hent] at hget
      cases hget
      rw [hent] at hmkr
      unfold scanMarker
      rw [hmkr]
      refine ReachedBy.mono ?_ hdueLe
      rw [← hnext]
      exact reachedBy_earliestDue hsafe'

theorem scanPaidFallbackPendingMarkers_wp (hm : m ≤ w.length) :
    PaidWp clockOk (fun v result => ∀ scan, result = .ok scan →
      Scanned m (fun _ => True) scan.earliestDueAtMs v)
      (scanPaidFallbackPendingMarkers fuel) w := by
  refine kvFold_wp (fun v a scan => m ≤ v.length ∧
    Scanned m (fun j => ∃ b, a = some b ∧ j ≤ b) scan.earliestDueAtMs v) m ?_ ?_ ?_ ?_ fuel .start _
    w hm hm ⟨hm, ?_⟩
  · rintro v v' a scan ⟨hmv, hscan⟩ hle hv'
    exact ⟨hmv.trans hle.length_le, hscan.le hmv hle hv'⟩
  · rintro v n a scan key entry hv hmn hn ⟨hmv, hscan⟩ hfst
    exact ⟨hmv, hscan.next hv hmn hn hfst⟩
  · rintro v n a scan hv hmn hn ⟨_, hscan⟩ hfst _ hok hgate hfwd hsafe k r dueAtMs hdue -
    cases hok
    obtain ⟨due, _, -, marker, hmkr, hnext⟩ := awaiting_back hv hmn hn hgate hfwd hdue
    refine hscan hgate hfwd hsafe k r dueAtMs hdue ?_
    unfold pendingOf at hmkr
    cases hget : (v.storeAt n).get (.pending k r) with
    | none =>
      rw [hget] at hmkr
      cases hmkr
    | some found => exact hfst _ _ hget rfl
  · intro v e scan hscan
    cases hscan
  · rintro - - - k r dueAtMs - ⟨b, hb, -⟩
    cases hb

theorem commitGate_wp (hm : m ≤ w.length)
    (hread : gateEntry = (w.storeAt m).get .reconciliationGate)
    (hscan : Scanned m (fun _ => True) earliestDueAtMs w) :
    PaidGuarantees clockOk (kvCommit .recompute [⟨.reconciliationGate, gateEntry⟩]
      (gateWrite (paidFallbackGateAfterScanV3 earliestDueAtMs))) w := by
  refine Guarantees.kvCommit fun t hwt ht hpass => ?_
  refine .ledger _ _ (.recompute earliestDueAtMs fun hfwd hsafe k r dueAtMs hdue => ?_)
  rw [← hwt.storeAt_eq hm] at hread
  have hgate := Kv.get_eq_of_check (ht.precedes_storeAt m) hread (hpass _ List.mem_cons_self)
  rw [hread] at hgate
  exact hscan.le hm hwt ht hgate hfwd hsafe k r dueAtMs hdue trivial

theorem attemptRecomputeGate_wp : PaidGuarantees clockOk (attemptRecomputeGate fuel) w := by
  refine kvGet_bind fun u _ _ gateEntry hgate => ?_
  obtain ⟨m, -, hm, hread⟩ := hgate
  refine Wp.seq (scanPaidFallbackPendingMarkers_wp hm) (fun v scan huv hscan => ?_)
    fun _ _ _ _ => trivial
  rw [← huv.storeAt_eq hm] at hread
  exact Guarantees.bind (commitGate_wp (hm.trans huv.length_le) hread (hscan scan rfl))
    fun _ _ _ => by trivial

theorem recomputePaidFallbackReconciliationGateV3_wp :
    PaidGuarantees clockOk (recomputePaidFallbackReconciliationGateV3 fuel) w :=
  Guarantees.retrying (R := fun _ => True) (fun _ _ _ _ _ => trivial)
    (fun _ _ => attemptRecomputeGate_wp) (fun _ _ => by trivial) maxCasAttempts w trivial

theorem attemptBootstrapGate_wp : PaidGuarantees clockOk (attemptBootstrapGate fuel) w := by
  refine kvGet_bind fun u _ _ gateEntry hgate => ?_
  split
  · trivial
  · obtain ⟨m, -, hm, hread⟩ := hgate
    refine Wp.seq (scanPaidFallbackPendingMarkers_wp hm) (fun v scan huv hscan => ?_)
      fun _ _ _ _ => trivial
    rw [← huv.storeAt_eq hm] at hread
    exact Guarantees.bind (commitGate_wp (hm.trans huv.length_le) hread (hscan scan rfl))
      fun _ _ _ => by trivial

end Gate

/-! ### Reconciliation -/

section Reconciliation

/-- What the programs rely on that take several requests of a key. -/
def AllReconcilable (clockOk : ℤ → ℤ → Prop) (keyId : String) (now : ℤ) (requestIds : List String)
    (w : PaidWorld) : Prop :=
  w.Showed clockOk now ∧ ∀ requestId ∈ requestIds, Known w.store keyId requestId

theorem AllReconcilable.le (h : AllReconcilable clockOk keyId now requestIds v)
    (hvw : v.Le w) (hw : PaidRun clockOk w) : AllReconcilable clockOk keyId now requestIds w :=
  ⟨h.1.mono hvw, fun requestId hmem => (h.2 requestId hmem).le hvw hw⟩

section

variable (h : AllReconcilable clockOk keyId now (requestId :: requestIds) w)

include h

theorem AllReconcilable.head : Reconcilable clockOk keyId requestId now w :=
  ⟨h.1, h.2 requestId List.mem_cons_self⟩

theorem AllReconcilable.tail : AllReconcilable clockOk keyId now requestIds w :=
  ⟨h.1, fun requestId hmem => h.2 requestId (List.mem_cons_of_mem _ hmem)⟩

end

theorem known_of_marker_read (hw : PaidRun clockOk w) (hn : n ≤ w.length)
    (hmkr : (pendingOf (w.storeAt n) keyId requestId).isSome = true) :
    Known w.store keyId requestId := by
  have hkn := Run.forall_storeAt (P := fun kv => (pendingOf kv keyId requestId).isSome = true →
    Known kv keyId requestId) (fun v hv => PaidRun.known_of_marker hv) hw hn hmkr
  exact hw.stable_store (P := fun kv => Known kv keyId requestId) (fun _ _ _ h hk => hk.step h) hn
    hkn

theorem requestId_of_read (hread : ReadIn u w (.request keyId requestId) entry)
    (hw : PaidRun clockOk w) (hrow : asRequest entry = some row) : row.requestId = requestId := by
  obtain ⟨n, -, hn, rfl⟩ := hread
  exact (Run.forall_storeAt (P := fun kv => ∀ row, requestOf kv keyId requestId = some row →
    row.keyId = keyId ∧ row.requestId = requestId) (fun v hv row hrow =>
      PaidRun.keyed hv hrow) hw hn
    row hrow).2

/-- The candidates of a reconciliation are known. -/
def CandidatesPost (clockOk : ℤ → ℤ → Prop) (keyId : String) (now : ℤ) (w : PaidWorld) :
    Except String (List PaidFallbackRequestV3) → Prop
  | .ok candidates => AllReconcilable clockOk keyId now (candidates.map (·.requestId)) w
  | .error _ => True

/-- The candidates are rows that may be reconciled. -/
theorem collectReconcileCandidatesV3_wp :
    ∀ {w : PaidWorld}, AllReconcilable clockOk keyId now (due.map Prod.fst) w →
      PaidWp clockOk (CandidatesPost clockOk keyId now)
        (collectReconcileCandidatesV3 keyId now due) w := by
  induction due with
  | nil => exact fun hw => hw
  | cons marker due ih =>
    obtain ⟨requestId, entry⟩ := marker
    intro w hw
    refine kvGet_bind fun u hwu hu requestEntry hread => ?_
    -- a marker of a closed row, or of no row, is removed on the way
    have hcleanup : (∀ row, asRequest requestEntry = some row → isBillableRequestV3 row = false) →
        PaidWp clockOk (CandidatesPost clockOk keyId now) (do
          let gateEntry ← kvGet .reconciliationGate
          let _ ← commitCleanup keyId requestId (some entry) gateEntry now
          collectReconcileCandidatesV3 keyId now due) u := by
      intro hcl
      refine kvGet_bind fun v huv hv gateEntry hgate => ?_
      have hcl' := closed_of_read (hread.mono huv) hv (hwu.trans huv) hw.head.2 hcl
      have hv' := (hw.le (hwu.trans huv) hv).tail
      exact Wp.seq (Wp.frame (fun _ _ h hle hrun => h.le hle hrun) hv'
        (commitCleanup_wp hv'.1 hcl' hgate)) (fun s _ _ hs => ih hs.1) fun _ _ _ _ => trivial
    split
    · next request hrow =>
      split_ifs with hbill
      · refine Wp.seq (Wp.frame (fun _ _ h hle hrun => h.le hle hrun) (hw.le hwu hu)
          (ih (hw.le hwu hu).tail)) (fun v candidates _ hv => ?_) fun _ _ _ _ => trivial
        obtain ⟨hall, hcandidates⟩ := hv
        refine ⟨hall.1, fun id hmem => ?_⟩
        rcases List.mem_cons.mp hmem with rfl | hmem
        · show Known v.store keyId request.requestId
          rw [requestId_of_read hread hu hrow]
          exact hall.head.2
        · exact hcandidates.2 id hmem
      · refine hcleanup fun row hrow' => ?_
        rw [hrow] at hrow'
        cases hrow'
        exact Bool.eq_false_iff.mpr hbill
    · next hno =>
      refine hcleanup fun row hrow => ?_
      rw [hno] at hrow
      cases hrow

variable {candidates : List PaidFallbackRequestV3}

theorem deferCandidates_wp :
    ∀ {w : PaidWorld}, AllReconcilable clockOk keyId now (candidates.map (·.requestId)) w →
      PaidGuarantees clockOk (deferCandidates keyId now candidates) w := by
  induction candidates with
  | nil => exact fun _ => trivial
  | cons _ _ ih =>
    intro w hw
    exact Guarantees.bindFrame (fun _ _ h hle hrun => h.le hle hrun) hw.tail
      (deferPaidFallbackReconciliationV3_wp hw.head) fun v _ hv => ih hv

theorem settleMeteredCandidatesV3_wp :
    ∀ {w : PaidWorld}, AllReconcilable clockOk keyId now (candidates.map (·.requestId)) w →
      PaidGuarantees clockOk (settleMeteredCandidatesV3 keyId providerLogs now candidates) w := by
  induction candidates with
  | nil => exact fun _ => trivial
  | cons _ _ ih =>
    intro w hw
    unfold settleMeteredCandidatesV3
    split
    · exact Guarantees.bindFrame (fun _ _ h hle hrun => h.le hle hrun) hw.tail
        (deferPaidFallbackReconciliationV3_wp hw.head) fun v _ hv => ih hv
    · refine Guarantees.bindFrame (fun _ _ h hle hrun => h.le hle hrun) hw.tail
        (settlePaidFallbackRequestV3_wp hw.head) fun v _ hv => ?_
      exact Guarantees.bind (ih hv) fun _ _ _ => by trivial

theorem AllReconcilable.filter
    (h : AllReconcilable clockOk keyId now (candidates.map (·.requestId)) w)
    (p : PaidFallbackRequestV3 → Bool) :
    AllReconcilable clockOk keyId now ((candidates.filter p).map (·.requestId)) w := by
  refine ⟨h.1, fun requestId hmem => h.2 requestId ?_⟩
  obtain ⟨request, hreq, rfl⟩ := List.mem_map.mp hmem
  exact List.mem_map_of_mem (List.mem_of_mem_filter hreq)

/-- What the scan finds due may be reconciled. -/
theorem collectDue_wp (hnow : w.Showed clockOk now) :
    PaidWp clockOk (fun v result => ∀ due, result = .ok due →
      AllReconcilable clockOk keyId now (due.map Prod.fst) v)
      (kvFold (isPendingOf keyId) (collectDue now) fuel .start []) w := by
  refine kvFold_wp (fun v _ due => AllReconcilable clockOk keyId now (due.map Prod.fst) v) 0
    ?_ ?_ ?_ ?_ fuel .start [] w (Nat.zero_le _) (Nat.zero_le _) ⟨hnow, by simp⟩
  · exact fun v v' _ due hv hle hv' => hv.le hle hv'
  · rintro v n a due key entry hv - hn hdue ⟨hent, hkey, -⟩
    cases key with
    | pending markerKeyId =>
      obtain rfl : markerKeyId = keyId := of_decide_eq_true hkey
      unfold collectDue
      dsimp only
      split_ifs with hmkr
      · refine ⟨hdue.1, fun id hmem => ?_⟩
        rw [List.map_append, List.mem_append] at hmem
        rcases hmem with hmem | hmem
        · exact hdue.2 id hmem
        · obtain rfl := List.mem_singleton.mp hmem
          refine known_of_marker_read hv hn ?_
          unfold pendingOf
          rw [hent]
          cases hpend : asPending (some entry) with
          | none =>
            rw [hpend] at hmkr
            cases hmkr
          | some pending => rfl
      · exact hdue
    | _ => exact hdue
  · rintro v n a due - - - hdue - _ hok
    cases hok
    exact hdue
  · rintro v e due ⟨⟩

theorem reconcileDueMarkers_wp (hnow : w.Showed clockOk now) :
    PaidGuarantees clockOk (reconcileDueMarkers fuel logs keyId now) w := by
  refine Wp.seq (collectDue_wp hnow) (fun u due _ hdue => ?_) fun _ _ _ _ => trivial
  refine Wp.seq (collectReconcileCandidatesV3_wp (hdue due rfl)) (fun v candidates _ hv => ?_)
    fun _ _ _ _ => trivial
  refine Guarantees.bindFrame (fun _ _ h hle hrun => AllReconcilable.le h hle hrun) hv
    (deferCandidates_wp (hv.filter _)) fun s _ hs => ?_
  split
  · exact Guarantees.bind (deferCandidates_wp (hs.filter _)) fun _ _ _ => by trivial
  · exact settleMeteredCandidatesV3_wp (hs.filter _)

theorem showed_stable (h : v.Showed clockOk now) (hle : v.Le v') (_ : PaidRun clockOk v') :
    v'.Showed clockOk now := h.mono hle

theorem reconcilePaidFallbackV3_wp (hnow : w.Showed clockOk now) : PaidGuarantees clockOk
      (reconcilePaidFallbackV3 fuel token logs keyId now skipGateRecompute) w := by
  refine Guarantees.bindFrame (fun _ _ => showed_stable) hnow acquireReconciliationLease_wp
    fun v lease hv => ?_
  split
  · trivial
  · refine Guarantees.tryFinally (reconcileDueMarkers_wp hv) fun s _ => ?_
    refine Guarantees.bind releaseReconciliationLease_wp fun t _ _ => ?_
    split_ifs
    · exact Guarantees.bind recomputePaidFallbackReconciliationGateV3_wp fun _ _ _ => by trivial
    · trivial

theorem reconcileKeys_wp : ∀ {w : PaidWorld}, w.Showed clockOk now →
    PaidGuarantees clockOk (reconcileKeys fuel token logs now keyIds) w := by
  induction keyIds with
  | nil => exact fun _ => trivial
  | cons _ _ ih =>
    intro w hnow
    refine Guarantees.bindFrame (fun _ _ => showed_stable) hnow (reconcilePaidFallbackV3_wp hnow)
      fun v _ hv => ?_
    exact Guarantees.bind (ih hv) fun _ _ _ => by trivial

theorem reconcileDuePaidFallbacksV3_wp (hnow : w.Showed clockOk now) :
    PaidGuarantees clockOk (reconcileDuePaidFallbacksV3 fuel token logs now) w := by
  refine Guarantees.bindFrame (fun _ _ => showed_stable) hnow ?_ fun v found hv => ?_
  · exact Guarantees.retrying (R := fun _ => True) (fun _ _ _ _ _ => trivial)
      (fun _ _ => attemptBootstrapGate_wp) (fun _ _ => by trivial) maxCasAttempts w trivial
  · obtain ⟨nextDueAtMs, bootstrapScan⟩ := found
    have hfns : ∀ (s : PaidWorld) (scan : PendingMarkerScan), s.Showed clockOk now →
        PaidGuarantees clockOk (ClientM.tryFinally
          (reconcileKeys fuel token logs now (dueKeyIds scan now)) do
            let _ ← recomputePaidFallbackReconciliationGateV3 fuel) s := by
      intro s scan hs
      refine Guarantees.tryFinally (reconcileKeys_wp hs) fun t _ => ?_
      exact Guarantees.bind recomputePaidFallbackReconciliationGateV3_wp fun _ _ _ => by trivial
    dsimp only
    split_ifs
    · trivial
    · split
      · exact Guarantees.bindFrame (fun _ _ => showed_stable) hv (by trivial)
          fun s scan hs => hfns s scan hs
      · exact Guarantees.bindFrame (fun _ _ => showed_stable) hv (Guarantees.kvFold _ _ _ _ _)
          fun s scan hs => hfns s scan hs

end Reconciliation

end UbqGateway.Paid
