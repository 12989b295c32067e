import UbqGateway.Kernel.Correspondence

/-!
# Reserving against the key-value store

What `reserveEffectiveKernelUsageLimit` does when nothing else runs: `Reserves` says it for both
drivers, with the way in which each makes room as a parameter, and
`reserveEffectiveKernelUsageLimit_alone` is the driver that settles the first expired reservation of
a full window.
-/

namespace UbqGateway.Kernel

/-! ### What a window holds -/

/-- A row of the window that satisfies `p`. -/
def isRowWith (identity : KernelQuotaIdentity) (createdAtMs : ℤ)
    (p : KernelQuotaReservationRowV2 → Bool) : KvKey → KernelValue → Bool
  | .reservation other _ _, .reservation row =>
    decide (other = identity ∧ row.windowCreatedAtMs = createdAtMs) && p row
  | _, _ => false

/-- The reservations of the window that count for good, or until their owner has finished. -/
def heldCount (kv : KernelKv) (identity : KernelQuotaIdentity) (createdAtMs nowMs : ℤ) : ℕ :=
  kv.count (isRowWith identity createdAtMs fun row => decide (row.outcome nowMs ≠ .released))

/-- The reservations of the window that have expired and will not be committed. -/
def lapsedCount (kv : KernelKv) (identity : KernelQuotaIdentity) (createdAtMs nowMs : ℤ) : ℕ :=
  kv.count (isRowWith identity createdAtMs fun row =>
    decide (row.state = .reserved ∧ row.outcome nowMs = .released))

section Counting

theorem rowCount_add_rowCount (kv : KernelKv) (identity : KernelQuotaIdentity)
    (createdAtMs nowMs : ℤ) :
    rowCount kv identity createdAtMs .reserved + rowCount kv identity createdAtMs .committed
      = heldCount kv identity createdAtMs nowMs + lapsedCount kv identity createdAtMs nowMs := by
  refine kv.count_add_count fun key value => ?_
  unfold isRow isRowWith
  split
  · next other _ _ row =>
    by_cases hmine : other = identity ∧ row.windowCreatedAtMs = createdAtMs
    · simp only [hmine, true_and, and_self, decide_true, Bool.true_and]
      unfold KernelQuotaReservationRowV2.outcome
      cases hsta : row.state with
      | reserved => by_cases hrld : row.outcome nowMs = .released <;> grind
      | committed | released => simp
    · simp [← and_assoc, hmine]
  · simp

theorem isRowWith_eq_true_iff (h : Consistent kv) (hval : kv.value key = some value) :
    isRowWith identity createdAtMs p key value = true ↔
      ∃ requestId row, key = .reservation identity createdAtMs requestId ∧
        rowOf kv key = some row ∧ p row = true := by
  constructor
  · intro hrow
    unfold isRowWith at hrow
    split at hrow
    · next other foundAtMs requestId row =>
      rw [Bool.and_eq_true, decide_eq_true_eq] at hrow
      obtain ⟨⟨rfl, hcr⟩, hp⟩ := hrow
      have hst := rowOf_eq_some.mpr hval
      obtain ⟨-, hkey, -⟩ := KvKey.reservation.inj (h.row_spec hst).1
      exact ⟨requestId, row, by rw [← hkey, hcr], hst, hp⟩
    · cases hrow
  · rintro ⟨requestId, row, rfl, hrow, hp⟩
    cases hval.symm.trans (rowOf_eq_some.mp hrow)
    obtain ⟨-, hkey, -⟩ := KvKey.reservation.inj (h.row_spec hrow).1
    simp [isRowWith, hkey, hp]

/-- Corresponding rows hold equally many places. -/
theorem heldCount_eq (ha : Consistent a) (hb : Consistent b)
    (h : ∀ requestId, Option.Rel (RowCorr nowMs)
      (rowOf a (.reservation identity createdAtMs requestId))
      (rowOf b (.reservation identity createdAtMs requestId))) :
    heldCount a identity createdAtMs nowMs = heldCount b identity createdAtMs nowMs := by
  unfold heldCount
  rw [Kv.count_eq_card, Kv.count_eq_card]
  congr 1
  ext key
  rw [Kv.mem_matching, Kv.mem_matching]
  have hiff : ∀ kv, Consistent kv → ((∃ value, kv.value key = some value ∧
      isRowWith identity createdAtMs (fun row => decide (row.outcome nowMs ≠ .released)) key value
        = true) ↔ ∃ requestId row, key = .reservation identity createdAtMs requestId ∧
        rowOf kv key = some row ∧ row.outcome nowMs ≠ .released) := by
    intro kv hkv
    constructor
    · rintro ⟨value, hval, hrow⟩
      obtain ⟨requestId, row, hkey, hst, hp⟩ := (isRowWith_eq_true_iff hkv hval).mp hrow
      exact ⟨requestId, row, hkey, hst, of_decide_eq_true hp⟩
    · rintro ⟨requestId, row, hkey, hst, hp⟩
      have hval := rowOf_eq_some.mp hst
      exact ⟨_, hval, (isRowWith_eq_true_iff hkv hval).mpr
        ⟨requestId, row, hkey, hst, decide_eq_true hp⟩⟩
  rw [hiff a ha, hiff b hb]
  refine exists_congr fun requestId => ?_
  by_cases hkey : key = .reservation identity createdAtMs requestId
  · subst hkey
    have hrel := h requestId
    generalize rowOf a _ = ra at hrel ⊢
    generalize rowOf b _ = rb at hrel ⊢
    cases hrel with
    | none => simp
    | some hcorr => simp [hcorr.outcome]
  · simp [hkey]

theorem lapsedCount_eq_zero_iff (h : Consistent kv) :
    lapsedCount kv identity createdAtMs nowMs = 0 ↔
      ∀ requestId row, rowOf kv (.reservation identity createdAtMs requestId) = some row →
        ¬ (row.state = .reserved ∧ row.outcome nowMs = .released) := by
  rw [lapsedCount, Kv.count_eq_zero_iff]
  constructor
  · intro hno requestId row hrow hlapsed
    have hval := rowOf_eq_some.mp hrow
    have hfls := hno _ _ hval
    rw [(isRowWith_eq_true_iff h hval).mpr ⟨requestId, row, rfl, hrow, decide_eq_true hlapsed⟩]
      at hfls
    cases hfls
  · intro hno key value hval
    rw [Bool.eq_false_iff]
    intro htrue
    obtain ⟨requestId, row, rfl, hrow, hp⟩ := (isRowWith_eq_true_iff h hval).mp htrue
    exact hno requestId row hrow (of_decide_eq_true hp)

/-- **What a window counts**: what no row stands for, what its rows hold, and what has lapsed. -/
theorem Sound.usage_add_reserved (h : Sound nowMs kv)
    (heff : effectivePolicy kv identity = .ok effective) :
    let window := currentWindow kv identity effective.windowMs nowMs
    window.usageRequests + window.reservedRequests
      = (currentFrame (frameOf kv identity) effective.windowMs nowMs).settledBefore
        + heldCount kv identity window.createdAtMs nowMs
        + lapsedCount kv identity window.createdAtMs nowMs := by
  obtain ⟨hcnt, hfrm, -⟩ := h.currentWindow_spec heff
  have hrows := rowCount_add_rowCount kv identity
    (currentWindow kv identity effective.windowMs nowMs).createdAtMs nowMs
  dsimp only
  rw [hfrm]
  dsimp only
  omega

end Counting

/-! ### Who may reserve -/

def KernelQuotaScope.identity (owner repo : String) : KernelQuotaScope → KernelQuotaIdentity
  | .repo => .repo owner repo
  | .org => .org owner

/-- The scope in which a request is reserved and the policy in force, if it is not refused for
them. -/
def eligible (kv : KernelKv) (owner repo : String) (nowMs : ℤ) :
    Option (KernelQuotaIdentity × KernelQuotaEffectivePolicy) :=
  match decideKernelQuotaScope (kv.value (.policy (.repo owner repo)))
      (kv.value (.policy (.org owner))) owner repo with
  | .error _ => none
  | .ok (scope, _) =>
    match decideKernelQuotaEligibility (scope.identity owner repo)
        ⟨kv.value (.policy (scope.identity owner repo)), none, kv.value .defaultWindowCutover, none⟩
        (defaultsOf kv) nowMs with
    | .ok (.eligible effective) => some (scope.identity owner repo, effective)
    | _ => none

def Room (effective : KernelQuotaEffectivePolicy) (window : KernelQuotaWindowV2) : Prop :=
  effective.limit = noUsageLimit ∨
    window.usageRequests + window.reservedRequests < effective.limit

/-- What the caller expects of the repository's policy holds. -/
def Expected (snapshot : KernelQuotaEligibilitySnapshot) : Prop :=
  (snapshot.expectedRepoPolicy = some .present → snapshot.policy ≠ none) ∧
    (snapshot.expectedRepoPolicy = some .absent → snapshot.repoGuard.any Option.isSome = false)

theorem decideKernelQuotaEligibility_of_expected (identity : KernelQuotaIdentity)
    (h : Expected snapshot) (defaults : KernelQuotaDefaults) (nowMs : ℤ) :
    decideKernelQuotaEligibility identity snapshot defaults nowMs
      = decideKernelQuotaEligibility identity
        ⟨snapshot.policy, none, snapshot.defaultCutover, none⟩ defaults nowMs := by
  unfold decideKernelQuotaEligibility
  rw [if_neg, if_neg (by simp)]
  rintro (⟨hprs, hno⟩ | ⟨habs, hsome⟩)
  · exact h.1 hprs hno
  · rw [h.2 habs] at hsome
    cases hsome

/-! ### The key-value driver -/

def KernelQuotaReservationDecision.admitted : KernelQuotaReservationDecision →
    Option KernelQuotaReservationIdentity
  | .ok request _ => some request
  | .response _ _ _ => none

section Attempt

/-- A reservation exists already, finds no room, or is written. -/
theorem decideKernelQuotaReserve_cases (identity : KernelQuotaIdentity)
    (effective : KernelQuotaEffectivePolicy) (h : Consistent kv) (window : KernelQuotaWindowV2)
    (requestId route : String) (nowMs : ℤ) :
    (rowOf kv (.reservation identity window.createdAtMs requestId) ≠ none ∧
      ∃ refusal, decideKernelQuotaReserve identity effective window
        (kv.value (.reservation identity window.createdAtMs requestId)) requestId route nowMs
        = .refused refusal) ∨
    (rowOf kv (.reservation identity window.createdAtMs requestId) = none ∧
      kv.value (.reservation identity window.createdAtMs requestId) = none ∧
      ((Room effective window ∧ decideKernelQuotaReserve identity effective window none requestId
          route nowMs = .reserve (reservedRow identity window requestId route nowMs)
            (reservedWindow window nowMs)) ∨
        ¬ Room effective window ∧ decideKernelQuotaReserve identity effective window none requestId
          route nowMs = .full window effective.limit)) := by
  rw [h.value_row]
  cases hrow : rowOf kv (.reservation identity window.createdAtMs requestId) with
  | some row =>
    refine .inl ⟨by simp, ?_⟩
    unfold decideKernelQuotaReserve
    rw [if_pos (by simp)]
    split_ifs
    · exact ⟨_, rfl⟩
    · exact ⟨_, rfl⟩
  | none =>
    refine .inr ⟨rfl, rfl, ?_⟩
    by_cases hroom : Room effective window
    · exact .inl ⟨hroom, decideKernelQuotaReserve_of_room hroom⟩
    · refine .inr ⟨hroom, ?_⟩
      unfold Room at hroom
      rw [not_or, not_lt] at hroom
      unfold decideKernelQuotaReserve
      rw [if_neg (by simp), if_pos hroom]

/-- The entries that an attempt finds. -/
def entriesOf (kv : KernelKv) (identity : KernelQuotaIdentity)
    (options : KernelQuotaReserveOptions) : KernelQuotaReservationEntries where
  limitEntry := kv.get .defaultLimit
  windowDefaultEntry := kv.get .defaultWindow
  policyEntry := kv.get (.policy identity)
  windowEntry := kv.get (.window identity)
  repoGuardEntry := (guardKey identity options).map fun key => ⟨key, kv.get key⟩
  defaultCutoverEntry := kv.get .defaultWindowCutover

theorem loadKernelQuotaReservationEntries_alone (identity : KernelQuotaIdentity)
    (options : KernelQuotaReserveOptions) :
    alone nowMs (loadKernelQuotaReservationEntries identity options) kv
      = (.ok (entriesOf kv identity options), kv) := rfl

/-- What `evaluateKernelQuotaEligibility` decides from. -/
def snapshotOf (kv : KernelKv) (identity : KernelQuotaIdentity)
    (options : KernelQuotaReserveOptions) : KernelQuotaEligibilitySnapshot where
  policy := kv.value (.policy identity)
  repoGuard := (guardKey identity options).map kv.value
  defaultCutover := kv.value .defaultWindowCutover
  expectedRepoPolicy := options.expectedRepoPolicy

theorem evaluateKernelQuotaEligibility_eq (fuel : ℕ) :
    evaluateKernelQuotaEligibility fuel (entriesOf kv identity options) identity options nowMs
      = (do
        let plan ← orThrow (decideKernelQuotaEligibility identity (snapshotOf kv identity options)
          (defaultsOf kv) nowMs)
        match plan with
        | .refused refusal => return .inl (if refusal.status = 503
            then kernelQuotaUnavailable refusal.message
            else kernelLimitBlocked (.text refusal.message))
        | .eligible effective =>
          let existingWindow ← reconcileKernelQuotaWindowReservations fuel
            (kv.get (.window identity)) identity
          if (kv.get (.window identity)).isSome = true ∧ existingWindow = none then
            return .inl (kernelQuotaUnavailable "Kernel quota aggregate is malformed")
          else return .inr (effective,
            windowForEffectivePolicy existingWindow identity effective.windowMs nowMs)) := by
  have hgd : (entriesOf kv identity options).repoGuardEntry.map
      (fun guard => valueOf guard.entry) = (guardKey identity options).map kv.value := by
    rw [entriesOf, Option.map_map]
    rfl
  unfold evaluateKernelQuotaEligibility
  rw [hgd]
  rfl

theorem evaluateKernelQuotaEligibility_alone (h : Consistent kv) (fuel : ℕ)
    (helig : decideKernelQuotaEligibility identity (snapshotOf kv identity options)
      (defaultsOf kv) nowMs = .ok (.eligible effective)) :
    alone nowMs (evaluateKernelQuotaEligibility fuel (entriesOf kv identity options) identity
      options nowMs) kv
      = (.ok (.inr (effective,
          windowForEffectivePolicy (windowOf kv identity) identity effective.windowMs nowMs)),
        kv) := by
  have hprs : ¬ ((kv.get (.window identity)).isSome = true ∧ windowOf kv identity = none) := by
    rintro ⟨hsome, hno⟩
    have hval := h.value_window identity
    rw [hno, Kv.value, Option.map_none, Option.map_eq_none_iff] at hval
    rw [hval] at hsome
    cases hsome
  rw [evaluateKernelQuotaEligibility_eq, helig, alone_orThrow_ok_bind]
  dsimp only
  rw [reconcileKernelQuotaWindowReservations_eq (h.ne_legacyWindow identity)]
  change alone nowMs (pure (normalizeKernelQuotaWindowV2 (kv.value (.window identity)) identity)
    >>= _) kv = _
  rw [h.normalizeWindow, alone_pure_bind, if_neg hprs]
  rfl

/-- Alone, an attempt is decided in the window of the moment. -/
theorem attemptReserve_alone (h : Consistent kv) (requestId route : String) (fuel : ℕ)
    (reclaimed : Bool)
    (helig : decideKernelQuotaEligibility identity (snapshotOf kv identity options)
      (defaultsOf kv) nowMs = .ok (.eligible effective)) :
    let window := currentWindow kv identity effective.windowMs nowMs
    let attempt := alone nowMs (attemptReserveKernelQuota fuel identity requestId route options
      nowMs reclaimed) kv
    (rowOf kv (.reservation identity window.createdAtMs requestId) ≠ none ∧
      ∃ decision, decision.admitted = none ∧ attempt = (.ok (.decision decision), kv)) ∨
    (rowOf kv (.reservation identity window.createdAtMs requestId) = none ∧
      ((Room effective window ∧ attempt = (.ok (.decision (.ok
          ⟨identity, window.createdAtMs, requestId, route⟩ (nowMs + reservationLeaseMs))),
          kv.apply (reserveWrites identity window requestId route nowMs))) ∨
        ¬ Room effective window ∧ attempt = alone nowMs (reclaimKernelQuotaCapacity fuel identity
          window effective.limit nowMs reclaimed) kv)) := by
  have hrun : alone nowMs (attemptReserveKernelQuota fuel identity requestId route options nowMs
      reclaimed) kv = alone nowMs (commitKernelQuotaReservation fuel identity requestId route
        (entriesOf kv identity options) effective
        (windowForEffectivePolicy (windowOf kv identity) identity effective.windowMs nowMs) nowMs
        reclaimed) kv := by
    unfold attemptReserveKernelQuota
    rw [alone_bind_ok (loadKernelQuotaReservationEntries_alone identity options),
      alone_bind_ok (evaluateKernelQuotaEligibility_alone h fuel helig)]
  have hchks : ∀ key source, ∀ c ∈ (entriesOf kv identity options).checks identity
      ⟨key, kv.get key⟩ source, c.entry = kv.get c.key := by
    intro key source c hc
    simp only [KernelQuotaReservationEntries.checks, entriesOf, List.mem_append,
      List.mem_cons, List.not_mem_nil, or_false, Option.mem_toList] at hc
    rcases hc with ((rfl | rfl | rfl) | hgd) | hdf
    · rfl
    · rfl
    · rfl
    · obtain ⟨guarded, -, rfl⟩ := Option.map_eq_some_iff.mp hgd
      rfl
    · split_ifs at hdf
      · simp only [List.mem_cons, List.not_mem_nil, or_false] at hdf
        rcases hdf with rfl | rfl | rfl <;> rfl
      · cases hdf
  dsimp only
  rw [hrun]
  unfold commitKernelQuotaReservation
  rw [alone_kvGet_bind]
  unfold currentWindow
  generalize windowForEffectivePolicy (windowOf kv identity) identity effective.windowMs nowMs
    = resolved
  have hval : valueOf (kv.get (.reservation identity resolved.window.createdAtMs requestId))
      = kv.value (.reservation identity resolved.window.createdAtMs requestId) := rfl
  dsimp only [KernelQuotaReservationIdentity.key]
  rw [hval]
  rcases decideKernelQuotaReserve_cases identity effective h
      resolved.window requestId route nowMs with
    ⟨hrow, refusal, hplan⟩ | ⟨hrow, hno, ⟨hroom, hplan⟩ | ⟨hroom, hplan⟩⟩
  · rw [hplan]
    exact .inl ⟨hrow, _, rfl, rfl⟩
  · rw [hno, hplan]
    refine .inr ⟨hrow, .inl ⟨hroom, ?_⟩⟩
    dsimp only
    rw [alone_kvCommit_bind (hchks _ _)]
    rfl
  · rw [hno, hplan]
    exact .inr ⟨hrow, .inr ⟨hroom, rfl⟩⟩

end Attempt

/-- What a reservation in a scope does, which makes room with `reclaim` where there is none: the
reservation that is made, if one is, and the store after it. -/
inductive ReserveIn (reclaim : KernelKv → KernelQuotaIdentity → ℤ → ℤ → KernelKv → Prop)
    (kv : KernelKv) (identity : KernelQuotaIdentity) (effective : KernelQuotaEffectivePolicy)
    (requestId route : String) (nowMs : ℤ) :
    Option KernelQuotaReservationIdentity → KernelKv → Prop
  | conflict (hrow : rowOf kv (.reservation identity
      (currentWindow kv identity effective.windowMs nowMs).createdAtMs requestId) ≠ none) :
    ReserveIn reclaim kv identity effective requestId route nowMs none kv
  | reserve (hrow : rowOf kv (.reservation identity
        (currentWindow kv identity effective.windowMs nowMs).createdAtMs requestId) = none)
      (hroom : Room effective (currentWindow kv identity effective.windowMs nowMs)) :
    ReserveIn reclaim kv identity effective requestId route nowMs
      (some ⟨identity, (currentWindow kv identity effective.windowMs nowMs).createdAtMs, requestId,
        route⟩)
      (kv.apply (reserveWrites identity (currentWindow kv identity effective.windowMs nowMs)
        requestId route nowMs))
  | reclaimed {after : KernelKv} (hrow : rowOf kv (.reservation identity
        (currentWindow kv identity effective.windowMs nowMs).createdAtMs requestId) = none)
      (hfull : ¬ Room effective (currentWindow kv identity effective.windowMs nowMs))
      (hrcl : reclaim kv identity
        (currentWindow kv identity effective.windowMs nowMs).createdAtMs nowMs after)
      (hroom : Room effective (currentWindow after identity effective.windowMs nowMs)) :
    ReserveIn reclaim kv identity effective requestId route nowMs
      (some ⟨identity, (currentWindow after identity effective.windowMs nowMs).createdAtMs,
        requestId, route⟩)
      (after.apply (reserveWrites identity (currentWindow after identity effective.windowMs nowMs)
        requestId route nowMs))
  | full {after : KernelKv} (hrow : rowOf kv (.reservation identity
        (currentWindow kv identity effective.windowMs nowMs).createdAtMs requestId) = none)
      (hfull : ¬ Room effective (currentWindow kv identity effective.windowMs nowMs))
      (hrcl : reclaim kv identity
        (currentWindow kv identity effective.windowMs nowMs).createdAtMs nowMs after)
      (hstll : ¬ Room effective (currentWindow after identity effective.windowMs nowMs)) :
    ReserveIn reclaim kv identity effective requestId route nowMs none after

/-- The key-value driver reclaims the first expired row of the window, if there is one. -/
def ReclaimFirst (kv : KernelKv) (identity : KernelQuotaIdentity) (createdAtMs nowMs : ℤ)
    (after : KernelKv) : Prop :=
  (∃ row target, FirstExpired kv identity createdAtMs nowMs row target ∧
    after = kv.apply (settleWrites kv row target (reclaimReason target) nowMs)) ∨
  NoneExpired kv identity createdAtMs nowMs ∧ after = kv

section KvReserve

theorem keptReason_reclaimReason (target : TerminalState) : KeptReason (reclaimReason target) := by
  cases target <;> exact .inr (by decide)

/-- Settling an expired row reclaims it and leaves the others. -/
theorem Becomes.reclaim (h : Sound nowMs kv) (hclk : ClockOk nowMs)
    (hrow : rowOf kv row.key = some row) (hexp : Expired nowMs row target)
    (hrsn : KeptReason reason) :
    Becomes (Reclaimed nowMs) nowMs kv (kv.apply (settleWrites kv row target reason nowMs)) := by
  obtain ⟨hsta, -⟩ := decideKernelQuotaReclaim_eq_some hexp
  have hsts := hexp.settles row.identity
  obtain ⟨hsnd, hfrms, hrows⟩ := Becomes.settle
    (g := fun _ => settledKernelReservationRow row target reason nowMs) h rfl hrow hsta
    (kernelReservationPrecondition_eq_none.mp hsts).2.2 hclk fun _ => hrsn
  refine ⟨hsnd, hfrms, fun identity createdAtMs requestId => ?_⟩
  have hrel := hrows identity createdAtMs requestId
  generalize hnew : rowOf (kv.apply _) _ = new at hrel ⊢
  cases hold : rowOf kv (.reservation identity createdAtMs requestId) with
  | none =>
    rw [hold] at hrel
    cases hrel
    exact .none
  | some old =>
    rw [hold] at hrel
    cases hrel with
    | some hat =>
      refine .some ?_
      unfold At at hat
      split_ifs at hat with hkey
      · rw [hkey, hrow] at hold
        cases hold
        exact .inr ⟨target, reason, hexp, hat⟩
      · exact .inl hat

theorem ReclaimFirst.becomes (h : Sound nowMs kv) (hclk : ClockOk nowMs)
    (hrcl : ReclaimFirst kv identity createdAtMs nowMs after) :
    Becomes (Reclaimed nowMs) nowMs kv after := by
  rcases hrcl with ⟨row, target, hfst, rfl⟩ | ⟨-, rfl⟩
  · have hkey := (h.consistent.row_spec hfst.stored).1
    exact .reclaim h hclk (by rw [hkey]; exact hfst.stored) hfst.expired
      (keptReason_reclaimReason target)
  · refine ⟨h, .refl _, fun identity createdAtMs requestId => ?_⟩
    cases rowOf after (.reservation identity createdAtMs requestId) with
    | none => exact .none
    | some row => exact .some (.inl rfl)

theorem Becomes.rowOf_eq_none_iff (h : Becomes f nowMs kv after) (identity : KernelQuotaIdentity)
    (createdAtMs : ℤ) (requestId : String) :
    rowOf after (.reservation identity createdAtMs requestId) = none ↔
      rowOf kv (.reservation identity createdAtMs requestId) = none := by
  have hrel := h.rows identity createdAtMs requestId
  generalize rowOf kv _ = old at hrel ⊢
  generalize rowOf after _ = new at hrel ⊢
  cases hrel with
  | none | some => simp

theorem SameFrames.currentWindow_createdAtMs (h : SameFrames a b) (ha : Sound nowMs a)
    (hb : Sound nowMs b) (heff : Kernel.effectivePolicy a identity = .ok effective) :
    (currentWindow b identity effective.windowMs nowMs).createdAtMs
      = (currentWindow a identity effective.windowMs nowMs).createdAtMs := by
  obtain ⟨-, hframeA, -⟩ := ha.currentWindow_spec heff
  obtain ⟨-, hframeB, -⟩ := hb.currentWindow_spec (by rwa [← h.effectivePolicy])
  rw [h.frames, hframeB] at hframeA
  exact (WindowFrame.mk.inj hframeA).1

theorem snapshotOf_congr (h : SameFrames a b)
    (hgd : ∀ key ∈ guardKey identity options, key.Shared) :
    snapshotOf a identity options = snapshotOf b identity options ∧
      defaultsOf a = defaultsOf b := by
  have hpol := h.shared (.policy identity) ⟨by simp, by simp⟩
  have hcut := h.shared .defaultWindowCutover ⟨by simp, by simp⟩
  have hlmt := h.shared .defaultLimit ⟨by simp, by simp⟩
  have hwin := h.shared .defaultWindow ⟨by simp, by simp⟩
  refine ⟨?_, by rw [defaultsOf, defaultsOf, hlmt, hwin]⟩
  rw [snapshotOf, snapshotOf, hpol, hcut]
  cases hkey : guardKey identity options with
  | none => rfl
  | some key => simp [h.shared key (hgd key hkey)]

theorem guardKey_shared : ∀ key ∈ guardKey identity options, key.Shared := by
  intro key hkey
  unfold guardKey at hkey
  split at hkey
  · split_ifs at hkey
    · cases hkey
    · cases hkey
      exact ⟨by simp, by simp⟩
  · cases hkey

theorem reclaimKernelQuotaCapacity_alone (h : Consistent kv) (hfuel : kv.rows.entries.length < fuel)
    (identity : KernelQuotaIdentity) (window : KernelQuotaWindowV2) (limit nowMs : ℤ) :
    ∃ after, ReclaimFirst kv identity window.createdAtMs nowMs after ∧
      ((alone nowMs (reclaimKernelQuotaCapacity fuel identity window limit nowMs false) kv
          = (.ok (.retry true), after)) ∨
        after = kv ∧ alone nowMs (reclaimKernelQuotaCapacity fuel identity window limit nowMs false)
          kv = (.ok (.decision (quotaExceeded window limit)), kv)) := by
  have hrem : kv.remaining (isReservationOf identity window.createdAtMs) none < fuel :=
    (kv.count_le_length _).trans_lt hfuel
  unfold reclaimKernelQuotaCapacity reclaimExpiredKernelReservationUnlocked
  rw [if_neg (by decide)]
  rcases reclaimLoop_alone h fuel fuel .start hrem
      (fun _ _ _ _ _ a ha => by cases ha) with ⟨row, target, hfst, hrun⟩ | ⟨hno, hrun⟩
  · refine ⟨_, .inl ⟨row, target, hfst, rfl⟩, .inl ?_⟩
    refine alone_tryCatch_ok ?_
    rw [alone_bind_ok hrun]
    rfl
  · refine ⟨kv, .inr ⟨hno, rfl⟩, .inr ⟨rfl, ?_⟩⟩
    refine alone_tryCatch_ok ?_
    rw [alone_bind_ok hrun]
    rfl

/-- **`reserveLimit` alone**, if the policies let it go ahead. -/
theorem reserveLoop_alone (requestId route : String) (h : Sound nowMs kv) (hclk : ClockOk nowMs)
    (hfuel : kv.rows.entries.length < fuel)
    (heff : effectivePolicy kv identity = .ok effective)
    (helig : decideKernelQuotaEligibility identity (snapshotOf kv identity options)
      (defaultsOf kv) nowMs = .ok (.eligible effective)) (n : ℕ) :
    ∃ decision after, alone nowMs (reserveLoop fuel identity requestId route options (n + 2) false)
        kv = (.ok decision, after) ∧
      ReserveIn ReclaimFirst kv identity effective requestId route nowMs decision.admitted
        after := by
  rcases attemptReserve_alone h.consistent requestId route fuel false
      helig with ⟨hrow, decision, href, hrun⟩ | ⟨hrow, ⟨hroom, hrun⟩ | ⟨hfull, hrun⟩⟩
  · refine ⟨decision, kv, ?_, by rw [href]; exact .conflict hrow⟩
    rw [reserveLoop, alone_dateNow_bind, alone_bind_ok hrun]
    rfl
  · refine ⟨.ok ⟨identity, _, requestId, route⟩ (nowMs + reservationLeaseMs), _, ?_,
      .reserve hrow hroom⟩
    rw [reserveLoop, alone_dateNow_bind, alone_bind_ok hrun]
    rfl
  · obtain ⟨after, hrcl, hrty | ⟨rfl, hdcd⟩⟩ := reclaimKernelQuotaCapacity_alone
      h.consistent hfuel identity (currentWindow kv identity effective.windowMs nowMs)
      effective.limit nowMs
    · -- the second attempt runs after the reclaim
      have hbec := ReclaimFirst.becomes h hclk hrcl
      obtain ⟨hsnapshot, hdef⟩ := snapshotOf_congr hbec.frames
        guardKey_shared
      have hcr := hbec.frames.currentWindow_createdAtMs h hbec.sound heff
      have hrowAfter : rowOf after (.reservation identity
          (currentWindow after identity effective.windowMs nowMs).createdAtMs requestId)
          = none := by
        rw [hcr, hbec.rowOf_eq_none_iff]
        exact hrow
      have hsnd : alone nowMs (reserveLoop fuel identity requestId route options (n + 2) false)
          kv = alone nowMs (reserveLoop fuel identity requestId route options (n + 1) true)
            after := by
        rw [reserveLoop, alone_dateNow_bind, alone_bind_ok (hrun.trans hrty)]
        rfl
      rw [hsnd]
      rcases attemptReserve_alone hbec.sound.consistent requestId route fuel true
          (by rw [← hsnapshot, ← hdef]; exact helig)
        with ⟨hconf, -⟩ | ⟨-, ⟨hroom, hagn⟩ | ⟨hstll, hagn⟩⟩
      · exact absurd hrowAfter hconf
      · refine ⟨.ok ⟨identity, _, requestId, route⟩ (nowMs + reservationLeaseMs), _, ?_,
          .reclaimed hrow hfull hrcl hroom⟩
        rw [reserveLoop, alone_dateNow_bind, alone_bind_ok hagn]
        rfl
      · refine ⟨quotaExceeded (currentWindow after identity effective.windowMs nowMs)
          effective.limit, after, ?_, .full hrow hfull hrcl hstll⟩
        rw [reserveLoop, alone_dateNow_bind, alone_bind_ok (hagn.trans rfl)]
        rfl
    · refine ⟨quotaExceeded (currentWindow after identity effective.windowMs nowMs)
        effective.limit, after, ?_, .full hrow hfull hrcl hfull⟩
      rw [reserveLoop, alone_dateNow_bind, alone_bind_ok (hrun.trans hdcd)]
      rfl

/-- A scope that is not eligible reserves nothing. -/
theorem reserveLoop_ineligible (requestId route : String) (fuel : ℕ)
    (h : ∀ effective, decideKernelQuotaEligibility identity (snapshotOf kv identity options)
      (defaultsOf kv) nowMs ≠ .ok (.eligible effective)) (n : ℕ) :
    (∃ decision, decision.admitted = none ∧ alone nowMs (reserveLoop fuel identity requestId route
        options (n + 1) false) kv = (.ok decision, kv)) ∨
      ∃ e, alone nowMs (reserveLoop fuel identity requestId route options (n + 1) false) kv
        = (.error e, kv) := by
  rw [reserveLoop, alone_dateNow_bind, attemptReserveKernelQuota]
  cases hplan : decideKernelQuotaEligibility identity (snapshotOf kv identity options)
      (defaultsOf kv) nowMs with
  | error e =>
    have hthrow : alone nowMs (evaluateKernelQuotaEligibility fuel (entriesOf kv identity options)
        identity options nowMs) kv = (.error e, kv) := by
      rw [evaluateKernelQuotaEligibility_eq, hplan]
      exact alone_orThrow_error_bind e _
    refine .inr ⟨e, alone_bind_error ?_⟩
    rw [alone_bind_ok (loadKernelQuotaReservationEntries_alone identity options)]
    exact alone_bind_error hthrow
  | ok plan =>
    cases plan with
    | eligible effective => exact absurd hplan (h effective)
    | refused refusal =>
      refine .inl ⟨if refusal.status = 503 then kernelQuotaUnavailable refusal.message
        else kernelLimitBlocked (.text refusal.message), by split_ifs <;> rfl, ?_⟩
      have href : alone nowMs (evaluateKernelQuotaEligibility fuel
          (entriesOf kv identity options) identity options nowMs) kv
          = (.ok (.inl (if refusal.status = 503 then kernelQuotaUnavailable refusal.message
            else kernelLimitBlocked (.text refusal.message))), kv) := by
        rw [evaluateKernelQuotaEligibility_eq, hplan]
        exact alone_orThrow_ok_bind _ _
      refine alone_bind_ok (a := KernelQuotaCapacityOutcome.decision _) ?_
      rw [alone_bind_ok (loadKernelQuotaReservationEntries_alone identity options),
        alone_bind_ok href]
      rfl

theorem decideKernelQuotaScope_eq_ok
    (h : decideKernelQuotaScope repoPolicy orgPolicy owner repo = .ok (scope, found)) :
    (scope = .repo ∧ repoPolicy ≠ none) ∨ scope = .org ∧ repoPolicy = none := by
  unfold decideKernelQuotaScope at h
  split_ifs at h with hmalformed horg hsome
  · cases h
    exact .inl ⟨rfl, Option.isSome_iff_ne_none.mp hsome⟩
  · cases h
    exact .inr ⟨rfl, Option.not_isSome_iff_eq_none.mp hsome⟩

/-- `reserveEffectiveKernelUsageLimit` reserves in the scope that the policies name. -/
def reserveOptions (repo : String) : KernelQuotaScope → KernelQuotaReserveOptions
  | .repo => ⟨some .present, none⟩
  | .org => ⟨some .absent, some repo⟩

theorem expected_snapshotOf
    (h : decideKernelQuotaScope (kv.value (.policy (.repo owner repo)))
      (kv.value (.policy (.org owner))) owner repo = .ok (scope, found)) :
    Expected (snapshotOf kv (scope.identity owner repo) (reserveOptions repo scope)) := by
  rcases decideKernelQuotaScope_eq_ok h with ⟨rfl, hsome⟩ | ⟨rfl, hno⟩
  · exact ⟨fun _ => hsome, nofun⟩
  · refine ⟨nofun, fun _ => ?_⟩
    simp only [snapshotOf, guardKey, reserveOptions, KernelQuotaScope.identity,
      KernelQuotaIdentity.owner]
    split_ifs
    · rfl
    · simp [hno]

theorem reserveLimit_alone_ok (hid : requestId ≠ "") (hrt : route ≠ "")
    (h : alone nowMs (reserveLoop fuel identity requestId route options maxKvRetries false) kv
      = (.ok decision, after)) : alone nowMs (reserveLimit fuel identity requestId route options) kv
      = (.ok decision, after) := by
  refine alone_tryCatch_ok ?_
  rw [if_neg (by simp [hid, hrt])]
  exact h

theorem reserveLimit_alone_error (hid : requestId ≠ "") (hrt : route ≠ "")
    (h : alone nowMs (reserveLoop fuel identity requestId route options maxKvRetries false) kv
      = (.error e, after)) : alone nowMs (reserveLimit fuel identity requestId route options) kv
      = (.ok kernelQuotaUnavailable, after) := by
  have hbody : alone nowMs (if requestId = "" ∨ route = "" then
      pure (kernelQuotaUnavailable "Kernel quota reservation requires a request id and route")
      else reserveLoop fuel identity requestId route options maxKvRetries false) kv
      = (.error e, after) := by
    rw [if_neg (by simp [hid, hrt])]
    exact h
  exact (alone_tryCatch_error hbody).trans rfl

theorem reserveEffective_alone_of_scope
    (hscp : decideKernelQuotaScope (kv.value (.policy (.repo owner repo)))
      (kv.value (.policy (.org owner))) owner repo = .ok (scope, found))
    (h : alone nowMs (reserveLimit fuel (scope.identity owner repo) requestId route
      (reserveOptions repo scope)) kv = (.ok decision, after)) :
    alone nowMs (reserveEffectiveKernelUsageLimit fuel owner repo requestId route) kv
      = (.ok decision, after) := by
  refine alone_tryCatch_ok ?_
  rw [alone_kvGets_bind]
  change alone nowMs (orThrow (decideKernelQuotaScope (kv.value (.policy (.repo owner repo)))
    (kv.value (.policy (.org owner))) owner repo) >>= _) kv = _
  rw [hscp, alone_orThrow_ok_bind]
  cases scope <;> exact h

theorem reserveEffective_alone_of_error
    (hscp : decideKernelQuotaScope (kv.value (.policy (.repo owner repo)))
      (kv.value (.policy (.org owner))) owner repo = .error e) :
    alone nowMs (reserveEffectiveKernelUsageLimit fuel owner repo requestId route) kv
      = (.ok kernelQuotaUnavailable, kv) := by
  refine (alone_tryCatch_error (e := e) ?_).trans rfl
  rw [alone_kvGets_bind]
  change alone nowMs (orThrow (decideKernelQuotaScope (kv.value (.policy (.repo owner repo)))
    (kv.value (.policy (.org owner))) owner repo) >>= _) kv = _
  rw [hscp]
  exact alone_orThrow_error_bind e _

/-- What a driver does with a reservation: it refuses those that the policies do not let go ahead
and leaves the store as it is, and reserves the others in their scope. -/
def Reserves (reclaim : KernelKv → KernelQuotaIdentity → ℤ → ℤ → KernelKv → Prop) (kv : KernelKv)
    (owner repo requestId route : String) (nowMs : ℤ)
    (admitted : Option KernelQuotaReservationIdentity) (after : KernelKv) : Prop :=
  match eligible kv owner repo nowMs with
  | none => admitted = none ∧ after = kv
  | some (identity, effective) =>
    ReserveIn reclaim kv identity effective requestId route nowMs admitted after

/-- **The key-value driver**: a reservation alone. -/
theorem reserveEffectiveKernelUsageLimit_alone (h : Sound nowMs kv) (hclk : ClockOk nowMs)
    (hfuel : kv.rows.entries.length < fuel) (owner repo : String) (hid : requestId ≠ "")
    (hrt : route ≠ "") :
    ∃ decision after, alone nowMs (reserveEffectiveKernelUsageLimit fuel owner repo requestId route)
        kv = (.ok decision, after) ∧
      Reserves ReclaimFirst kv owner repo requestId route nowMs decision.admitted after := by
  unfold Reserves eligible
  cases hscp : decideKernelQuotaScope (kv.value (.policy (.repo owner repo)))
      (kv.value (.policy (.org owner))) owner repo with
  | error e => exact ⟨_, kv, reserveEffective_alone_of_error hscp, rfl, rfl⟩
  | ok plan =>
    obtain ⟨scope, found⟩ := plan
    have heq := decideKernelQuotaEligibility_of_expected (scope.identity owner repo)
      (expected_snapshotOf hscp) (defaultsOf kv) nowMs
    dsimp only [snapshotOf] at heq ⊢
    rw [← heq]
    split
    · next helig =>
      split at helig
      · cases helig
      · next hnot =>
        have hineligible := reserveLoop_ineligible requestId route fuel
          (fun effective heff => hnot effective heff) 2
        rcases hineligible with ⟨decision, href, hrun⟩ | ⟨e, hrun⟩
        · exact ⟨decision, kv, reserveEffective_alone_of_scope hscp
            (reserveLimit_alone_ok hid hrt hrun), href, rfl⟩
        · exact ⟨_, kv, reserveEffective_alone_of_scope hscp
            (reserveLimit_alone_error hid hrt hrun), rfl, rfl⟩
    · next identity effective helig =>
      split at helig
      · next found heff =>
        cases helig
        have hpol := (decideKernelQuotaEligibility_eq_eligible heff).1
        obtain ⟨decision, after, hrun, hrsv⟩ := reserveLoop_alone requestId route h hclk
          hfuel hpol heff 1
        exact ⟨decision, after, reserveEffective_alone_of_scope hscp
          (reserveLimit_alone_ok hid hrt hrun), hrsv⟩
      · cases helig

end KvReserve

end UbqGateway.Kernel
