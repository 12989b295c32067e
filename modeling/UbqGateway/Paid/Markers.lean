import UbqGateway.Paid.Service

/-!
# Markers and billable rows

A request can be found by the reconciliation through its marker only.  `MarkersAgree` says that the
rows with a marker are exactly the billable ones.  A cleanup removes a marker without checking the
row: it relies on a row that was found closed to stay closed.
-/

namespace UbqGateway.Paid

theorem isBillableRequestV3_iff : isBillableRequestV3 row = true ↔
    row.billingState = .pending ∨ row.billingState = .unresolved := by
  cases hbil : row.billingState <;> simp [isBillableRequestV3, hbil]

/-- A stored row has a marker if and only if it is billable. -/
def MarkersAgree (kv : PaidKv) : Prop :=
  ∀ k r row, requestOf kv k r = some row → (pendingOf kv k r).isSome = isBillableRequestV3 row

/-- A step writes the marker exactly of a billable row. -/
theorem LedgerStep.markers (h : LedgerStep clockOk w label rows) (hagr : MarkersAgree w.store)
    (hrow : rows.request.or (requestOf w.store rows.keyId rows.requestId) = some row) :
    (rows.pending.getD (pendingOf w.store rows.keyId rows.requestId)).isSome
      = isBillableRequestV3 row := by
  cases h with
  | admission _ _ _ _ _ _ _ hplan =>
    obtain ⟨reservation, hdcd⟩ := planPaidFallbackAdmissionV3_eq_write hplan
    cases hrow
    rw [hdcd.request]
    rfl
  | exhaustedPolicy | recompute | windowTtl => exact hagr _ _ row hrow
  | lifecycle _ _ stored _ _ _ _ hst hplan =>
    cases hrow
    have hbil := (evolves_lifecycle hplan).2.1
    unfold isBillableRequestV3
    rw [hbil]
    exact hagr _ _ stored hst
  | release _ _ _ _ _ _ _ _ _ _ hplan =>
    cases hrow
    rw [(planPaidFallbackReleaseV3_eq_some hplan).2.1]
    rfl
  | expedite _ _ _ _ _ hpnd =>
    have hbill := hagr _ _ row hrow
    rw [hpnd] at hbill ⊢
    rw [← hbill]
    split_ifs <;> rfl
  | defer _ _ _ _ _ _ _ _ _ _ _ hplan =>
    cases hrow
    rw [(planPaidFallbackDeferralV3_eq_write hplan).2.2.1]
    rfl
  | cleanup _ _ _ _ hcl =>
    rw [hcl row hrow]
    rfl
  | settle _ _ _ _ _ _ _ _ _ _ _ _ _ _ _ _ _ _ hplan =>
    cases hrow
    rw [hplan]
    rfl
  | retention _ _ _ hst =>
    cases hrow
    exact hagr _ _ _ hst
  | fold _ _ stored _ hst _ _ _ _ hplan =>
    cases hrow
    rw [hplan]
    exact hagr _ _ stored hst

theorem MarkersAgree.step (h : PaidStep clockOk w label writes) (hagr : MarkersAgree w.store) :
    MarkersAgree (w.store.apply writes) := by
  intro k r row hrow
  rcases h.kind with ⟨rows, hstep, rfl⟩ | ⟨keyId, keys, rfl, rfl, hcl, hkeys⟩ | ⟨-, heq⟩
  · rw [requestOf_apply] at hrow
    rw [pendingOf_apply]
    split_ifs at hrow ⊢ with hkey
    · obtain ⟨rfl, rfl⟩ := hkey
      exact hstep.markers hagr hrow
    · exact hagr k r row hrow
  · rw [requestOf_apply_delete] at hrow
    rw [pendingOf_apply_delete]
    split_ifs at hrow with hreq
    split_ifs with hmkr
    · -- the marker of a closed row may be deleted before the row
      obtain rfl : k = keyId := hkeys _ hmkr
      rw [hcl.2 r row hrow]
      rfl
    · exact hagr k r row hrow
  · unfold requestOf at hrow
    unfold pendingOf
    rw [heq _ rfl] at hrow ⊢
    exact hagr k r row hrow

theorem PaidRun.markersAgree (hw : PaidRun clockOk w) (hinit : MarkersAgree w.init) :
    MarkersAgree w.store := by
  induction hw with
  | start => exact hinit
  | advance _ _ _ _ ih => exact ih hinit
  | commit _ _ _ _ hstep ih => exact (ih hinit).step hstep

theorem MarkersAgree.pendingOf_eq_none (hagr : MarkersAgree kv)
    (hrow : requestOf kv k r = some row) (hcl : isBillableRequestV3 row = false) :
    pendingOf kv k r = none := by
  have hmkr := hagr k r row hrow
  rw [hcl] at hmkr
  exact Option.isNone_iff_eq_none.mp (Option.isSome_eq_false_iff.mp hmkr)

/-- A row that is closed has no marker after any commit. -/
theorem PaidStep.no_marker (h : PaidStep clockOk w label writes) (hagr : MarkersAgree w.store)
    (hrow : requestOf w.store k r = some row) (hcl : isBillableRequestV3 row = false) :
    pendingOf (w.store.apply writes) k r = none := by
  have hno := hagr.pendingOf_eq_none hrow hcl
  have hnot : NotBillable w.store k r := by
    intro row' hrow'
    rw [hrow] at hrow'
    rwa [← Option.some.inj hrow']
  have hkn : Known w.store k r := by
    intro habs
    rw [habs] at hrow
    cases hrow
  rcases h.kind with ⟨rows, _, rfl⟩ | ⟨keyId, keys, rfl, rfl, -, -⟩ | ⟨-, heq⟩
  · -- a commit of the ledger keeps the row
    have hst : ∃ row', requestOf (w.store.apply rows.toList) k r = some row' := by
      rw [requestOf_apply, hrow]
      split_ifs
      · cases rows.request with
        | none => exact ⟨row, rfl⟩
        | some row' => exact ⟨row', rfl⟩
      · exact ⟨row, rfl⟩
    obtain ⟨row', hrow'⟩ := hst
    exact (hagr.step h).pendingOf_eq_none hrow' (NotBillable.step h hkn hnot row' hrow')
  · rw [pendingOf_apply_delete, hno]
    split_ifs <;> rfl
  · unfold pendingOf at hno ⊢
    rwa [heq _ rfl]

/-- **Markers and billable rows agree**, and no commit leaves a marker for a row that was settled or
not billed before it. -/
theorem marker_iff_billable {kv₀ : PaidKv} {sys : PaidSystem} (hstr : PaidStart kv₀)
    (hagr : MarkersAgree kv₀) (h : PaidReachable clockOk kv₀ sys) :
    (∀ k r row, requestOf sys.world.store k r = some row →
      ((pendingOf sys.world.store k r).isSome = true ↔
        row.billingState = .pending ∨ row.billingState = .unresolved)) ∧
    ∀ kv label kv', sys.world.Committed kv label kv' → ∀ k r row, requestOf kv k r = some row →
      row.billingState = .settled ∨ row.billingState = .notBilled →
        pendingOf kv k r = none ∧ pendingOf kv' k r = none := by
  have hrun := paidReachable_run hstr h
  have hinit : sys.world.init = kv₀ := Reachable.init_eq h
  refine ⟨fun k r row hrow => ?_, fun kv label kv' hcom k r row hrow hfin => ?_⟩
  · rw [hrun.markersAgree (hinit ▸ hagr) k r row hrow, isBillableRequestV3_iff]
  · obtain ⟨u, writes, hu, hle, rfl, hstep, rfl⟩ := hrun.committed hcom
    have hagr' := PaidRun.markersAgree hu ((hle.init.trans hinit) ▸ hagr)
    have hcl : isBillableRequestV3 row = false := by
      rcases hfin with hfin | hfin <;> simp [isBillableRequestV3, hfin]
    exact ⟨hagr'.pendingOf_eq_none hrow hcl, hstep.no_marker hagr' hrow hcl⟩

theorem markersAgree_empty : MarkersAgree Kv.empty := by
  intro k r row hrow
  cases hrow

/-- One request is admitted, another one is admitted and released. -/
def markerSchedule : List (Action (ℕ × PaidOperation)) :=
  runSession (sampleInput "a" 100 true) [] ++
    runSession (sampleInput "b" 100 false) [.release false]

theorem marker_iff_billable_markerSchedule :
    (∃ row, requestOf (afterSchedule Kv.empty markerSchedule).world.store "key" "a" = some row ∧
      row.billingState = .pending ∧
      (pendingOf (afterSchedule Kv.empty markerSchedule).world.store "key" "a").isSome = true) ∧
    ∃ row, requestOf (afterSchedule Kv.empty markerSchedule).world.store "key" "b" = some row ∧
      row.billingState = .notBilled ∧
      ¬ (pendingOf (afterSchedule Kv.empty markerSchedule).world.store "key" "b").isSome =
        true := by
  have hrch := afterSchedule_reachable Kv.empty markerSchedule (by decide)
  have hagr := (marker_iff_billable paidStart_empty markersAgree_empty hrch).1
  have ha : (requestOf (afterSchedule Kv.empty markerSchedule).world.store "key" "a").map
      (·.billingState) = some .pending := by decide +kernel
  have hb : (requestOf (afterSchedule Kv.empty markerSchedule).world.store "key" "b").map
      (·.billingState) = some .notBilled := by decide +kernel
  obtain ⟨row, hrow, hbil⟩ := Option.map_eq_some_iff.mp ha
  obtain ⟨row', hrow', hbil'⟩ := Option.map_eq_some_iff.mp hb
  refine ⟨⟨row, hrow, hbil, (hagr _ _ row hrow).mpr (Or.inl hbil)⟩,
    row', hrow', hbil', fun hmkr => ?_⟩
  rcases (hagr _ _ row' hrow').mp hmkr with hopen | hopen
  · rw [hbil'] at hopen
    cases hopen
  · rw [hbil'] at hopen
    cases hopen

end UbqGateway.Paid
