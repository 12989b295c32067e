import UbqGateway.Kernel.Steps

/-!
# The programs make no other commits

Every commit of every program of the kernel quota is a `KernelStep` of the world it is made in,
whatever the other clients do between the reads and the commit (`invoke_wp`).  The argument is the
same for all of them: the entries a decision rests on are among the checks of the commit, so they
are current when it succeeds.

The one argument that needs more is the cutover of the default window (`checkCutoverGuard_wp`): its
commit does not check the windows that were found without live reservations.  What it checks is the
marker, and `Guarded` is stable as long as the marker is the same entry.
-/

namespace UbqGateway.Kernel

/-- The histories that start with an empty store. -/
abbrev KernelRun (clockOk : ℤ → ℤ → Prop) : KernelWorld → Prop :=
  Run (· = Kv.empty) (KernelStep clockOk)

/-- What a program guarantees of its commits. -/
abbrev KernelWp (clockOk : ℤ → ℤ → Prop) {α : Type} (Q : KernelWorld → Except String α → Prop)
    (p : KernelM α) (w : KernelWorld) : Prop :=
  Wp clockOk (· = Kv.empty) (KernelStep clockOk) Q p.run w

/-! ### Rules for the instructions -/

section Rules

theorem kvGet_bind {f : Option (Entry KernelValue) → KernelM β}
    (h : ∀ v, w.Le v → KernelRun clockOk v → ∀ r, ReadIn w v key r → KernelWp clockOk Q (f r) v) :
    KernelWp clockOk Q (kvGet key >>= f) w :=
  Wp.bindExcept fun v hle hv got hgot =>
    h v hle hv (got key) (hgot key (List.mem_singleton_self key))

theorem kvGets_bind {keys : List KvKey} {f : (KvKey → Option (Entry KernelValue)) → KernelM β}
    (h : ∀ v, w.Le v → KernelRun clockOk v → ∀ got, (∀ k ∈ keys, ReadIn w v k (got k)) →
      KernelWp clockOk Q (f got) v) : KernelWp clockOk Q (kvGets keys >>= f) w :=
  Wp.bindExcept fun v hle hv got hgot => h v hle hv got hgot

theorem dateNow_bind {f : ℤ → KernelM β}
    (h : ∀ v, w.Le v → KernelRun clockOk v → ∀ nowMs, Showed clockOk v nowMs →
      KernelWp clockOk Q (f nowMs) v) : KernelWp clockOk Q (dateNow >>= f) w :=
  Wp.bindExcept fun v hle hv t ht => h v hle hv t ⟨v.time, le_rfl, ht⟩

theorem kvNext_bind {p : KvKey → Bool}
    {f : Cursor KvKey × Option (KvKey × Entry KernelValue) → KernelM β}
    (h : ∀ v, w.Le v → KernelRun clockOk v → ∀ c r, NextIn w v p cursor c r →
      KernelWp clockOk Q (f (c, r)) v) : KernelWp clockOk Q (kvNext p cursor >>= f) w :=
  Wp.bindExcept fun v hle hv c r hr => h v hle hv c r hr

theorem kvCommit_bind {checks : List (Check KvKey KernelValue)} {f : Bool → KernelM β}
    (hok : ∀ v, w.Le v → KernelRun clockOk v → v.store.PassesAll checks →
      KernelStep clockOk v label writes ∧ KernelWp clockOk Q (f true) (v.commit label writes))
    (hconf : ∀ v, w.Le v → KernelRun clockOk v → KernelWp clockOk Q (f false) v) :
    KernelWp clockOk Q (kvCommit label checks writes >>= f) w :=
  Wp.bindExcept fun v hle hv => ⟨hok v hle hv, fun _ => hconf v hle hv⟩

theorem orThrow_bind {f : α → KernelM β} (hok : ∀ a, result = .ok a → KernelWp clockOk Q (f a) w)
    (herr : ∀ e, result = .error e → Q w (.error e)) :
    KernelWp clockOk Q (orThrow result >>= f) w := by
  cases result with
  | ok a => exact Wp.bindExcept (hok a rfl)
  | error e => exact Wp.bindExcept (herr e rfl)

theorem pure_bind {f : α → KernelM β} (h : KernelWp clockOk Q (f a) w) :
    KernelWp clockOk Q (pure a >>= f) w := h

end Rules

/-- The commits of a program satisfy the step relation. -/
abbrev Guarantees (clockOk : ℤ → ℤ → Prop) {α : Type} (p : KernelM α) (w : KernelWorld) : Prop :=
  KernelWp clockOk (fun _ _ => True) p w

section Guarantees

theorem Guarantees.bind {f : α → KernelM β} (hx : Guarantees clockOk x w)
    (hf : ∀ a v, w.Le v → Guarantees clockOk (f a) v) : Guarantees clockOk (x >>= f) w := by
  refine Wp.bindExcept (Wp.mono ?_ hx.le)
  rintro v (e | a) ⟨hle, -⟩
  · trivial
  · exact hf a v hle

theorem Guarantees.tryCatch {handle : String → KernelM α} (hx : Guarantees clockOk x w)
    (hh : ∀ e v, Guarantees clockOk (handle e) v) : Guarantees clockOk (tryCatch x handle) w := by
  refine Wp.tryCatch (Wp.mono ?_ hx)
  rintro v (e | _) -
  · exact hh e v
  · trivial

theorem Guarantees.map (hx : Guarantees clockOk x w) : Guarantees clockOk (f <$> x) w := by
  refine Wp.bind (Wp.mono ?_ hx)
  rintro v (_ | _) - <;> trivial

end Guarantees

/-! ### Reads and checks -/

theorem KernelStep.not_mem_legacyWindow (h : KernelStep clockOk w label writes) (k : KvKey)
    (window : KernelQuotaWindowV2) : Write.set k (.legacyWindow window) ∉ writes := by
  cases h with
  | updateDefaults cutover => cases cutover <;> simp
  | _ => simp

theorem value_ne_legacyWindow (hw : KernelRun clockOk w) (k : KvKey)
    (window : KernelQuotaWindowV2) :
    w.store.value k ≠ some (.legacyWindow window) := by
  refine Run.invariant (P := fun w => w.store.value k ≠ some (.legacyWindow window)) ?_ ?_ ?_ hw
  · rintro _ t rfl h
    cases h
  · exact fun w t h _ => h
  · intro w label writes _ ih hstep
    rw [World.store_commit, Kv.value_apply]
    cases hwr : Kv.written k writes with
    | none => exact ih
    | some v =>
      rintro rfl
      exact hstep.not_mem_legacyWindow k window (Kv.mem_of_written hwr)

theorem readIn_ne_legacyWindow (hv : KernelRun clockOk v) (hread : ReadIn u v k entry)
    (window : KernelQuotaWindowV2) : valueOf entry ≠ some (.legacyWindow window) := by
  obtain ⟨n, -, hn, rfl⟩ := hread
  exact hv.forall_storeAt (P := fun kv => kv.value k ≠ some (.legacyWindow window))
    (fun w hw => value_ne_legacyWindow hw k window) hn

theorem reconcileKernelQuotaWindowReservations_eq
    (h : ∀ window, valueOf entry ≠ some (.legacyWindow window)) (fuel : ℕ)
    (identity : KernelQuotaIdentity) : reconcileKernelQuotaWindowReservations fuel entry identity
      = pure (normalizeKernelQuotaWindowV2 (valueOf entry) identity) := by
  unfold reconcileKernelQuotaWindowReservations
  split
  · next window old _ hval => exact absurd hval (h old)
  · rfl

theorem readIn_value_eq (hread : ReadIn u v k entry) (hvw : v.Le w) (hw : KernelRun clockOk w)
    (hchk : w.store.Passes ⟨k, entry⟩) : w.store.value k = valueOf entry := by
  rw [Kv.value, hread.get_eq hvw hw hchk, valueOf]

theorem Showed.mono (h : Showed clockOk v t) (hle : v.Le w) : Showed clockOk w t := by
  obtain ⟨time, htime, hok⟩ := h
  exact ⟨time, htime.trans hle.time, hok⟩

theorem normalizeWindow_eq_windowOf (hval : kv.value (.window identity) = valueOf entry)
    (hleg : ∀ window, valueOf entry ≠ some (.legacyWindow window))
    (hvld : ¬ (entry.isSome = true ∧
      normalizeKernelQuotaWindowV2 (valueOf entry) identity = none)) :
    normalizeKernelQuotaWindowV2 (valueOf entry) identity = windowOf kv identity := by
  cases hnorm : normalizeKernelQuotaWindowV2 (valueOf entry) identity with
  | none =>
    -- nothing was accepted, so nothing was there
    cases entry with
    | none =>
      rw [windowOf, hval]
      rfl
    | some e => exact absurd ⟨rfl, hnorm⟩ hvld
  | some window =>
    rw [normalizeKernelQuotaWindowV2_eq_some hleg hnorm] at hval
    exact (windowOf_eq_some.mpr hval).symm

theorem readIn_windowOf_eq (hread : ReadIn u v (.window identity) entry) (hv : KernelRun clockOk v)
    (hvw : v.Le w) (hw : KernelRun clockOk w) (hchk : w.store.Passes ⟨.window identity, entry⟩)
    (hvld : ¬ (entry.isSome = true ∧
      normalizeKernelQuotaWindowV2 (valueOf entry) identity = none)) :
    normalizeKernelQuotaWindowV2 (valueOf entry) identity = windowOf w.store identity :=
  normalizeWindow_eq_windowOf (readIn_value_eq hread hvw hw hchk)
    (readIn_ne_legacyWindow hv hread) hvld

/-! ### The owner and the reclaimers -/

variable (fuel : ℕ)

section Reservations

theorem settleable_of_check {row : KernelQuotaReservationRowV2}
    (hread : ReadIn u v request.key entry) (hvw : v.Le w) (hw : KernelRun clockOk w)
    (hchk : w.store.Passes ⟨request.key, entry⟩)
    (hrow : normalizeKernelQuotaReservationRowV2 (valueOf entry) request.identity = some row)
    (hpre : kernelReservationPrecondition row request.requestId request.route
      request.windowCreatedAtMs terminalState = none) : Settleable w request terminalState row := by
  obtain ⟨⟨-, -, hcr⟩, hres, hint⟩ := kernelReservationPrecondition_eq_none.mp hpre
  have hval := readIn_value_eq hread hvw hw hchk
  rw [normalizeKernelQuotaReservationRowV2_eq_some hrow] at hval
  exact ⟨rowOf_eq_some.mpr hval, hcr, hres, hint⟩

variable (terminalState)

theorem recordKernelReservationTerminalIntentUnlocked_wp (nowMs : ℤ) : Guarantees clockOk
      (recordKernelReservationTerminalIntentUnlocked request terminalState nowMs) w := by
  refine kvGet_bind fun v _ _ entry hread => ?_
  unfold decideKernelQuotaTerminalIntent
  split
  · trivial
  · next row leaseExpiresAtMs hplan =>
    split at hplan
    · cases hplan
    · next stored hst =>
      split at hplan
      · cases hplan
      · next hpre =>
        cases hplan
        refine kvCommit_bind (fun u hvu hu hpass => ⟨?_, trivial⟩) fun u _ _ => trivial
        have hchk := hpass _ (List.mem_singleton_self _)
        exact .terminalIntent request terminalState stored _
          (settleable_of_check hread hvu hu hchk hst hpre)

theorem recordTerminalIntentLoop_wp (n : ℕ) :
    ∀ w, Guarantees clockOk (recordTerminalIntentLoop request terminalState n) w := by
  induction n with
  | zero => exact fun _ => trivial
  | succ _ ih =>
    intro w
    refine Guarantees.bind (Guarantees.tryCatch ?_ fun _ _ => trivial) fun outcome v _ => ?_
    · refine dateNow_bind fun v _ _ nowMs _ => ?_
      refine Guarantees.bind (recordKernelReservationTerminalIntentUnlocked_wp _ _) ?_
      intro outcome u _
      split <;> trivial
    · cases outcome with
      | some outcome => trivial
      | none => exact ih v

/-- A settlement commits steps only. -/
theorem settleKernelReservationUnlocked_wp (hlab : ∀ v, w.Le v → SettledBy v request nowMs label)
    (fuel : ℕ) (terminalState : TerminalState) (reason : String) : Guarantees clockOk
      (settleKernelReservationUnlocked fuel label request terminalState reason nowMs) w := by
  refine kvGets_bind fun v hwv hv got hgot => ?_
  have hwin := hgot (.window request.identity) List.mem_cons_self
  have hrow := hgot request.key (List.mem_cons_of_mem _ List.mem_cons_self)
  dsimp only
  split
  · trivial
  · next row hnorm =>
    split
    · trivial
    · next hpre =>
      rw [reconcileKernelQuotaWindowReservations_eq (readIn_ne_legacyWindow hv hwin)]
      refine pure_bind ?_
      split
      · trivial
      · next settled window hplan =>
        refine kvCommit_bind (fun u hvu hu hpass => ⟨?_, trivial⟩) fun u _ _ => trivial
        have hcheckWindow := hpass _ List.mem_cons_self
        have hcheckRow := hpass _ (List.mem_cons_of_mem _ List.mem_cons_self)
        -- a window that is there and was not accepted is not settled against
        have hvld : ¬ ((got (.window request.identity)).isSome = true ∧
            normalizeKernelQuotaWindowV2 (valueOf (got (.window request.identity)))
              request.identity = none) := by
          rintro ⟨hsome, hno⟩
          rw [hno, hsome] at hplan
          cases hplan
        rw [readIn_windowOf_eq hwin hv hvu hu hcheckWindow hvld] at hplan
        exact .settle label request terminalState row settled window _ reason nowMs
          (hlab u (hwv.trans hvu))
          (settleable_of_check hrow hvu hu hcheckRow hnorm hpre) hplan

theorem settleLoop_wp (reason : String) (n : ℕ) :
    ∀ w, Guarantees clockOk (settleLoop fuel request terminalState reason n) w := by
  induction n with
  | zero => exact fun _ => trivial
  | succ _ ih =>
    intro w
    refine Guarantees.bind (Guarantees.tryCatch ?_ fun _ _ => trivial) fun outcome v _ => ?_
    · refine dateNow_bind fun v _ _ nowMs _ => ?_
      exact settleKernelReservationUnlocked_wp (fun _ _ => .owner) fuel terminalState reason
    · split
      · trivial
      · exact ih v

theorem renewLoop_wp (n : ℕ) : ∀ w, Guarantees clockOk (renewLoop request n) w := by
  induction n with
  | zero => exact fun _ => trivial
  | succ _ ih =>
    intro w
    refine Guarantees.bind (Guarantees.tryCatch ?_ fun _ _ => trivial) fun outcome v _ => ?_
    · refine kvGet_bind fun v _ _ entry hread => ?_
      refine dateNow_bind fun u hvu _ nowMs _ => ?_
      refine orThrow_bind ?_ fun _ _ => trivial
      rintro ⟨renewed, leaseExpiresAtMs⟩ hplan
      obtain ⟨row, hrow, hres, rfl⟩ := decideKernelQuotaRenewal_eq_ok hplan
      refine kvCommit_bind (fun t hut ht hpass => ⟨?_, trivial⟩) fun t _ _ => trivial
      have hval := readIn_value_eq hread (hvu.trans hut) ht (hpass _ (List.mem_singleton_self _))
      rw [hrow] at hval
      exact .renew request row _ (rowOf_eq_some.mpr hval) hres
    · cases outcome with
      | some lease => trivial
      | none => exact ih v

end Reservations

section Reclaim

theorem settleExpiredLoop_wp {listed : Entry KernelValue} (fuel : ℕ) (terminalState : TerminalState)
    (n : ℕ) : ∀ w, (∀ v, w.Le v → SettledBy v request nowMs (.reclaim request nowMs listed)) →
      Guarantees clockOk (settleExpiredLoop fuel request listed terminalState nowMs n) w := by
  induction n with
  | zero => exact fun w _ => trivial
  | succ _ ih =>
    intro w hlab
    refine Guarantees.bind (settleKernelReservationUnlocked_wp hlab fuel terminalState _) ?_
    intro outcome v hwv
    cases outcome with
    | conflict => exact ih v fun u hvu => hlab u (hwv.trans hvu)
    | _ => trivial

theorem isReservationOf_eq_true {key : KvKey}
    (h : isReservationOf identity windowCreatedAtMs key = true) :
    ∃ requestId, key = .reservation identity windowCreatedAtMs requestId := by
  cases key with
  | reservation _ _ requestId =>
    simp only [isReservationOf, Bool.and_eq_true, decide_eq_true_eq] at h
    obtain ⟨rfl, rfl⟩ := h
    exact ⟨requestId, rfl⟩
  | _ => cases h

/-- The reclaim of expired rows commits steps only. -/
theorem reclaimLoop_wp (identity : KernelQuotaIdentity) (window : KernelQuotaWindowV2)
    (nowMs : ℤ) (n : ℕ) : ∀ cursor sawExpired w,
      Guarantees clockOk (reclaimLoop fuel identity window nowMs n cursor sawExpired) w := by
  induction n with
  | zero => exact fun _ _ _ => trivial
  | succ n ih =>
    intro cursor sawExpired w
    refine kvNext_bind fun v _ _ cursor' listed hlst => ?_
    cases listed with
    | none => dsimp only; split <;> trivial
    | some listed =>
      obtain ⟨key, entry⟩ := listed
      refine orThrow_bind ?_ fun _ _ => trivial
      intro row hrow
      split
      · exact ih _ _ v
      · next terminalState hrcl =>
        refine Guarantees.bind (settleExpiredLoop_wp fuel _ _ v ?_) ?_
        · -- the entry that was listed is a store's entry of the past
          intro u hvu
          obtain ⟨m, -, hm, ⟨hget, hp, -⟩, -⟩ := hlst
          obtain ⟨requestId, rfl⟩ := isReservationOf_eq_true hp
          obtain ⟨hval, -, _, _, hkey⟩ := requireKernelReservationRow_eq_ok hrow
          cases hkey
          obtain ⟨hsta, hls⟩ := decideKernelQuotaReclaim_eq_some hrcl
          refine .reclaimer m entry row (hm.trans hvu.length_le) ?_ hval hsta hls
          rw [hvu.storeAt_eq hm]
          exact hget
        · intro settled u _
          split
          · trivial
          · exact ih _ _ u

theorem reclaimExpiredKernelReservationUnlocked_wp (identity : KernelQuotaIdentity)
    (window : KernelQuotaWindowV2) (nowMs : ℤ) : Guarantees clockOk
      (reclaimExpiredKernelReservationUnlocked fuel identity window nowMs) w :=
  reclaimLoop_wp fuel identity window nowMs fuel _ _ w

end Reclaim

/-! ### Reserving -/

section Reserve

theorem effectivePolicy_of_check {policyEntry : Option (Entry KernelValue)}
    {effective : KernelQuotaEffectivePolicy} (hpol : ReadIn u v (.policy identity) policyEntry)
    (hlmt : ReadIn u v .defaultLimit limitEntry) (hwin : ReadIn u v .defaultWindow windowEntry)
    (hvw : v.Le w) (hw : KernelRun clockOk w)
    (hchk : w.store.Passes ⟨.policy identity, policyEntry⟩)
    (hcdf : effective.source = .default →
      w.store.Passes ⟨.defaultLimit, limitEntry⟩ ∧ w.store.Passes ⟨.defaultWindow, windowEntry⟩)
    (h : policyFor (valueOf policyEntry) identity
      (loadDefaults (valueOf limitEntry) (valueOf windowEntry)) = .ok effective) :
    effectivePolicy w.store identity = .ok effective := by
  rw [effectivePolicy, readIn_value_eq hpol hvw hw hchk]
  refine policyFor_congr h fun hsrc => ?_
  obtain ⟨hl, hd⟩ := hcdf hsrc
  rw [defaultsOf, readIn_value_eq hlmt hvw hw hl, readIn_value_eq hwin hvw hw hd]

theorem reclaimKernelQuotaCapacity_wp (window : KernelQuotaWindowV2) (limit nowMs : ℤ)
    (reclaimed : Bool) : Guarantees clockOk
      (reclaimKernelQuotaCapacity fuel identity window limit nowMs reclaimed) w := by
  unfold reclaimKernelQuotaCapacity
  split
  · trivial
  · refine Guarantees.tryCatch (Guarantees.bind ?_ fun _ _ _ => ?_) fun _ _ => trivial
    · exact reclaimExpiredKernelReservationUnlocked_wp fuel identity window nowMs
    · split <;> trivial

variable (requestId route : String)

section

variable (options : KernelQuotaReserveOptions)

include options

/-- Every commit of an attempt to reserve is a step. -/
theorem attemptReserveKernelQuota_wp {nowMs : ℤ} (hnow : Showed clockOk w nowMs)
    (reclaimed : Bool) :
    Guarantees clockOk
      (attemptReserveKernelQuota fuel identity requestId route options nowMs reclaimed) w := by
  refine Wp.bindExcept (kvGets_bind fun v hwv hv got hgot => ?_)
  have hlmt := hgot .defaultLimit (by simp)
  have hdf := hgot .defaultWindow (by simp)
  have hpol := hgot (.policy identity) (by simp)
  have hwin := hgot (.window identity) (by simp)
  have hcut := hgot .defaultWindowCutover (by simp)
  refine Wp.bindExcept (orThrow_bind ?_ fun _ _ => trivial)
  intro plan hplan
  cases plan with
  | refused => trivial
  | eligible effective =>
    obtain ⟨heff, hblk⟩ := decideKernelQuotaEligibility_eq_eligible hplan
    dsimp only
    rw [reconcileKernelQuotaWindowReservations_eq (readIn_ne_legacyWindow hv hwin)]
    refine pure_bind ?_
    split
    · trivial
    · next hvld =>
      refine kvGet_bind fun u hvu _ entry hent => ?_
      split
      · trivial
      · exact reclaimKernelQuotaCapacity_wp fuel _ _ nowMs reclaimed
      · next row reservedWindow hrsv =>
        obtain ⟨hno, hroom, rfl, rfl⟩ := decideKernelQuotaReserve_eq_reserve hrsv
        refine kvCommit_bind (fun t hut ht hpass => ⟨?_, trivial⟩) fun t _ _ => trivial
        have hvt := hvu.trans hut
        have hcheckWindow := hpass ⟨.window identity, got (.window identity)⟩ (by
          simp [KernelQuotaReservationEntries.checks])
        have hst := readIn_windowOf_eq hwin hv hvt ht hcheckWindow hvld
        have hcdf : effective.source = .default →
            t.store.Passes ⟨.defaultLimit, got .defaultLimit⟩ ∧
            t.store.Passes ⟨.defaultWindow, got .defaultWindow⟩ ∧
            t.store.Passes ⟨.defaultWindowCutover, got .defaultWindowCutover⟩ := fun hsrc =>
          ⟨hpass _ (by simp [KernelQuotaReservationEntries.checks, hsrc]),
            hpass _ (by simp [KernelQuotaReservationEntries.checks, hsrc]),
            hpass _ (by simp [KernelQuotaReservationEntries.checks, hsrc])⟩
        refine .reserve identity effective _ requestId route nowMs
          (hnow.mono (hwv.trans hvt)) ?_ ?_ (by rw [hst]) ?_ hroom
        · refine effectivePolicy_of_check hpol hlmt hdf hvt ht
            (hpass _ (by simp [KernelQuotaReservationEntries.checks])) (fun hsrc => ?_)
            heff
          exact ⟨(hcdf hsrc).1, (hcdf hsrc).2.1⟩
        · intro hsrc
          rw [readIn_value_eq hcut hvt ht (hcdf hsrc).2.2]
          exact kernelQuotaDefaultCutoverBlocks_eq_false hblk hsrc
        · rw [← hno]
          exact readIn_value_eq hent hut ht
            (hpass _ (by simp [KernelQuotaReservationEntries.checks,
              KernelQuotaReservationIdentity.key]))

theorem reserveLoop_wp (n : ℕ) : ∀ reclaimed w, Guarantees clockOk
      (reserveLoop fuel identity requestId route options n reclaimed) w := by
  induction n with
  | zero => exact fun _ _ => trivial
  | succ _ ih =>
    intro reclaimed w
    refine dateNow_bind fun v _ _ nowMs hnow => ?_
    refine Guarantees.bind
      (attemptReserveKernelQuota_wp fuel requestId route options hnow reclaimed) ?_
    intro outcome u _
    cases outcome with
    | decision => trivial
    | retry => exact ih _ u

theorem reserveLimit_wp : Guarantees clockOk
      (reserveLimit fuel identity requestId route options) w := by
  refine Guarantees.tryCatch ?_ fun _ _ => trivial
  split
  · trivial
  · exact reserveLoop_wp fuel requestId route options maxKvRetries false w

end

theorem reserveEffectiveKernelUsageLimit_wp (owner repo requestId route : String) :
    Guarantees clockOk (reserveEffectiveKernelUsageLimit fuel owner repo requestId route) w := by
  refine Guarantees.tryCatch ?_ fun _ _ => trivial
  refine kvGets_bind fun v _ _ got _ => orThrow_bind ?_ fun _ _ => trivial
  rintro ⟨scope, hasPolicy⟩ -
  cases scope with
  | repo | org => exact reserveLimit_wp fuel requestId route _

end Reserve

/-! ### Policies -/

section Policies

theorem runWindowGuard_wp (guard : PolicyWindowGuard) (nowMs : ℤ) :
    KernelWp clockOk (fun _ r => r = .ok .proceed → guard = .proceed)
      (runWindowGuard fuel identity guard nowMs) w := by
  cases guard with
  | abort =>
    intro h
    cases h
  | proceed => exact fun _ => rfl
  | reclaim window =>
    refine Wp.bindExcept (Wp.mono ?_ (reclaimExpiredKernelReservationUnlocked_wp fuel identity
      window nowMs))
    rintro v (e | reclaimed) - h
    · cases h
    · cases reclaimed <;> cases h

/-- A repository's first policy goes ahead only over an organisation's window without live
reservations. -/
theorem reconcileKernelPolicyOrgInheritance_wp {entries : KernelQuotaPolicyWriteEntries} (nowMs : ℤ)
    (hleg : ∀ owner orgPolicyEntry orgWindowEntry,
      entries.orgEntries = some (owner, orgPolicyEntry, orgWindowEntry) →
        ∀ window, valueOf orgWindowEntry ≠ some (.legacyWindow window)) :
    KernelWp clockOk (fun _ r => r = .ok .proceed → entries.policyEntry = none →
        ∀ owner orgPolicyEntry orgWindowEntry,
          entries.orgEntries = some (owner, orgPolicyEntry, orgWindowEntry) →
            decideKernelPolicyWindowGuard
              (normalizeKernelQuotaWindowV2 (valueOf orgWindowEntry) (.org owner))
              orgWindowEntry.isSome true nowMs = .proceed)
      (reconcileKernelPolicyOrgInheritance fuel entries nowMs) w := by
  unfold reconcileKernelPolicyOrgInheritance
  split
  · next owner orgPolicyEntry orgWindowEntry _ horg =>
    refine orThrow_bind ?_ fun e _ h => by cases h
    intro _ _
    rw [reconcileKernelQuotaWindowReservations_eq (hleg owner _ _ horg)]
    refine pure_bind (Wp.mono ?_ (runWindowGuard_wp fuel _ nowMs))
    intro v r hr hproceed _ owner' orgPolicyEntry' orgWindowEntry' horg'
    obtain ⟨rfl, rfl, rfl⟩ := by
      simpa only [Option.some.injEq, Prod.mk.injEq] using horg.symm.trans horg'
    exact hr hproceed
  · next hcase =>
    intro _ hpol owner orgPolicyEntry orgWindowEntry horg
    exact absurd horg (hcase owner orgPolicyEntry orgWindowEntry hpol)

/-- The entries of a policy write were read between `u` and `v`. -/
structure EntriesRead (u v : KernelWorld) (identity : KernelQuotaIdentity)
    (entries : KernelQuotaPolicyWriteEntries) : Prop where
  limit : ReadIn u v .defaultLimit entries.limitEntry
  windowDefault : ReadIn u v .defaultWindow entries.windowDefaultEntry
  policy : ReadIn u v (.policy identity) entries.policyEntry
  window : ReadIn u v (.window identity) entries.windowEntry
  cutover : ReadIn u v .defaultWindowCutover entries.defaultCutoverEntry
  orgWindow : ∀ owner orgPolicyEntry orgWindowEntry,
    entries.orgEntries = some (owner, orgPolicyEntry, orgWindowEntry) →
      ReadIn u v (.window (.org owner)) orgWindowEntry
  org : ∀ owner repo, identity = .repo owner repo → ∃ orgPolicyEntry orgWindowEntry,
    entries.orgEntries = some (owner, orgPolicyEntry, orgWindowEntry)

theorem loadKernelQuotaPolicyWriteEntries_bind {β : Type} {Q : KernelWorld → Except String β → Prop}
    {f : KernelQuotaPolicyWriteEntries → KernelM β}
    (h : ∀ v, w.Le v → KernelRun clockOk v → ∀ entries, EntriesRead w v identity entries →
      KernelWp clockOk Q (f entries) v) :
    KernelWp clockOk Q (loadKernelQuotaPolicyWriteEntries identity >>= f) w := by
  refine Wp.bindExcept (kvGets_bind fun v hwv hv got hgot => ?_)
  refine h v hwv hv _ ⟨hgot _ (by simp), hgot _ (by simp), hgot _ (by simp), hgot _ (by simp),
    hgot _ (by simp), ?_, ?_⟩
  · cases identity with
    | repo =>
      intro owner' orgPolicyEntry orgWindowEntry horg
      obtain ⟨rfl, rfl, rfl⟩ := by
        simpa only [Option.some.injEq, Prod.mk.injEq] using horg
      exact hgot _ (by simp [KernelQuotaIdentity.orgKeys])
    | org =>
      intro _ _ _ horg
      cases horg
  · rintro owner repo rfl
    exact ⟨_, _, rfl⟩

/-- Every commit of a policy write is a step, since its checks hold what was read. -/
theorem writeKernelQuotaPolicy_wp {entries : KernelQuotaPolicyWriteEntries}
    {current : KernelQuotaEffectivePolicy} {policy : KernelQuotaPolicyV2} {reset : Bool} {nowMs : ℤ}
    (hread : EntriesRead u v identity entries) (hv : KernelRun clockOk v) (hvw : v.Le w)
    (hnow : Showed clockOk w nowMs)
    (hcur : policyFor (valueOf entries.policyEntry) identity entries.defaults = .ok current)
    (hblk : kernelQuotaDefaultCutoverBlocks current (valueOf entries.defaultCutoverEntry)
      = false) (hvld : ¬ (entries.windowEntry.isSome = true ∧
      normalizeKernelQuotaWindowV2 (valueOf entries.windowEntry) identity = none))
    (horg : entries.policyEntry = none → ∀ owner orgPolicyEntry orgWindowEntry,
      entries.orgEntries = some (owner, orgPolicyEntry, orgWindowEntry) →
        decideKernelPolicyWindowGuard
          (normalizeKernelQuotaWindowV2 (valueOf orgWindowEntry) (.org owner))
          orgWindowEntry.isSome true nowMs = .proceed) (hgd : decideKernelPolicyWindowGuard
      (normalizeKernelQuotaWindowV2 (valueOf entries.windowEntry) identity) false reset nowMs
        = .proceed) (hkeep : reset = false → policy.windowMs = current.windowMs) :
    Guarantees clockOk
      (writeKernelQuotaPolicy identity entries current policy
        (normalizeKernelQuotaWindowV2 (valueOf entries.windowEntry) identity) reset nowMs) w := by
  refine kvCommit_bind (fun t hwt ht hpass => ⟨?_, trivial⟩) fun t _ _ => trivial
  have hvt := hvw.trans hwt
  have hcheckWindow := hpass ⟨.window identity, entries.windowEntry⟩ (by
    simp [KernelQuotaPolicyWriteEntries.checks])
  have hcheckPolicy := hpass ⟨.policy identity, entries.policyEntry⟩ (by
    simp [KernelQuotaPolicyWriteEntries.checks])
  have hst := readIn_windowOf_eq hread.window hv hvt ht hcheckWindow hvld
  have hcdf : current.source = .default →
      t.store.Passes ⟨.defaultLimit, entries.limitEntry⟩ ∧
      t.store.Passes ⟨.defaultWindow, entries.windowDefaultEntry⟩ ∧
      t.store.Passes ⟨.defaultWindowCutover, entries.defaultCutoverEntry⟩ := fun hsrc =>
    ⟨hpass _ (by simp [KernelQuotaPolicyWriteEntries.checks, hsrc]),
      hpass _ (by simp [KernelQuotaPolicyWriteEntries.checks, hsrc]),
      hpass _ (by simp [KernelQuotaPolicyWriteEntries.checks, hsrc])⟩
  refine .setPolicy identity current policy _ reset nowMs (hnow.mono hwt) ?_ ?_ (by rw [hst])
    ?_ hkeep ?_
  · refine effectivePolicy_of_check hread.policy hread.limit hread.windowDefault hvt ht
      hcheckPolicy (fun hsrc => ?_) hcur
    exact ⟨(hcdf hsrc).1, (hcdf hsrc).2.1⟩
  · intro hsrc
    rw [readIn_value_eq hread.cutover hvt ht (hcdf hsrc).2.2]
    exact kernelQuotaDefaultCutoverBlocks_eq_false hblk hsrc
  · intro hrst
    rw [← hst]
    exact (decideKernelPolicyWindowGuard_eq_proceed hgd).2 hrst
  · intro owner repo hidt habs
    obtain ⟨orgPolicyEntry, orgWindowEntry, hents⟩ := hread.org owner repo hidt
    -- the repository had no policy, so the organisation's entries are checked too
    have hno : entries.policyEntry = none := by
      rw [readIn_value_eq hread.policy hvt ht hcheckPolicy] at habs
      exact Option.map_eq_none_iff.mp habs
    have hcheckOrg := hpass ⟨.window (.org owner), orgWindowEntry⟩ (by
      simp [KernelQuotaPolicyWriteEntries.checks, hno, hents])
    obtain ⟨hprs, hlive⟩ :=
      decideKernelPolicyWindowGuard_eq_proceed (horg hno owner _ _ hents)
    rw [← readIn_windowOf_eq (hread.orgWindow owner _ _ hents) hv hvt ht hcheckOrg hprs]
    exact hlive rfl

theorem attemptSetKernelQuotaPolicy_wp (usageLimitRequests : ℤ)
    (options : KernelQuotaPolicySetOptions) : Guarantees clockOk
      (attemptSetKernelQuotaPolicy fuel identity usageLimitRequests options) w := by
  refine dateNow_bind fun u _ _ nowMs hnow => ?_
  refine loadKernelQuotaPolicyWriteEntries_bind fun v huv hv entries hread => ?_
  refine orThrow_bind ?_ fun _ _ => trivial
  intro current hcur
  split
  · trivial
  · next hblk =>
    dsimp only
    rw [reconcileKernelQuotaWindowReservations_eq (readIn_ne_legacyWindow hv hread.window)]
    refine pure_bind ?_
    split
    · trivial
    · next hvld =>
      refine Wp.bindExcept (Wp.mono ?_ (reconcileKernelPolicyOrgInheritance_wp fuel nowMs
        fun owner _ _ h => readIn_ne_legacyWindow hv (hread.orgWindow owner _ _ h)).le)
      rintro t (e | inheritance) ⟨hvt, horg⟩
      · trivial
      · cases inheritance with
        | proceed =>
          refine Wp.bindExcept (Wp.mono ?_ (runWindowGuard_wp fuel _ nowMs).le)
          rintro t' (e | guard) ⟨htt', hgd⟩
          · trivial
          · cases guard with
            | proceed =>
              have hle := hvt.trans htt'
              refine writeKernelQuotaPolicy_wp hread hv hle (hnow.mono (huv.trans hle)) hcur
                (eq_false_of_ne_true hblk) hvld (horg rfl) (hgd rfl) fun hrst => ?_
              have heq := (Bool.or_eq_false_iff.mp hrst).2
              exact (not_not.mp (of_decide_eq_false heq)).symm
            | retry | abort => trivial
        | retry | abort => trivial

theorem setPolicyLoop_wp (usageLimitRequests : ℤ)
    (options : KernelQuotaPolicySetOptions) (n : ℕ) : ∀ w, Guarantees clockOk
      (setPolicyLoop fuel identity usageLimitRequests options n) w := by
  induction n with
  | zero => exact fun _ => trivial
  | succ _ ih =>
    intro w
    refine Guarantees.bind (attemptSetKernelQuotaPolicy_wp fuel usageLimitRequests options) ?_
    intro outcome v _
    split
    · exact ih v
    · trivial
    · trivial

theorem attemptDeleteKernelQuotaPolicy_wp : Guarantees clockOk
    (attemptDeleteKernelQuotaPolicy fuel identity) w := by
  refine dateNow_bind fun u _ _ nowMs hnow => ?_
  refine kvGets_bind fun v huv hv got hgot => ?_
  have hlmt := hgot .defaultLimit (by simp)
  have hdf := hgot .defaultWindow (by simp)
  have hpol := hgot (.policy identity) (by simp)
  have hwin := hgot (.window identity) (by simp)
  have hcut := hgot .defaultWindowCutover (by simp)
  dsimp only
  split
  · trivial
  · trivial
  · next hproceed =>
    refine orThrow_bind ?_ fun _ _ => trivial
    intro current hcur
    rw [reconcileKernelQuotaWindowReservations_eq (readIn_ne_legacyWindow hv hwin)]
    refine pure_bind ?_
    split
    · trivial
    · exact Guarantees.bind (reclaimExpiredKernelReservationUnlocked_wp fuel identity _ nowMs)
        fun _ _ _ => trivial
    · next hgd =>
      obtain ⟨hvld, hlive⟩ := decideKernelPolicyWindowGuard_eq_proceed hgd
      refine kvCommit_bind (fun t hvt ht hpass => ⟨?_, trivial⟩) fun t _ _ => trivial
      have hcheckPolicy := hpass ⟨.policy identity, got (.policy identity)⟩ (by simp)
      have hcheckWindow := hpass ⟨.window identity, got (.window identity)⟩ (by simp)
      have hcheckLimit := hpass ⟨.defaultLimit, got .defaultLimit⟩ (by simp)
      have hcheckDefault := hpass ⟨.defaultWindow, got .defaultWindow⟩ (by simp)
      have hcheckCutover := hpass ⟨.defaultWindowCutover, got .defaultWindowCutover⟩ (by simp)
      have hst := readIn_windowOf_eq hwin hv hvt ht hcheckWindow hvld
      have hdef : loadDefaults (valueOf (got .defaultLimit)) (valueOf (got .defaultWindow))
          = defaultsOf t.store := by
        rw [defaultsOf, readIn_value_eq hlmt hvt ht hcheckLimit,
          readIn_value_eq hdf hvt ht hcheckDefault]
      refine .deletePolicy identity current _ nowMs (hnow.mono (huv.trans hvt)) ?_ ?_
        (by rw [hst, hdef]) ?_
      · exact effectivePolicy_of_check hpol hlmt hdf hvt ht hcheckPolicy
          (fun _ => ⟨hcheckLimit, hcheckDefault⟩) hcur
      · rw [readIn_value_eq hcut hvt ht hcheckCutover]
        exact decideKernelQuotaPolicyDeletePrecondition_eq_proceed hproceed
      · rw [← hst]
        exact hlive rfl

theorem deletePolicyLoop_wp (n : ℕ) : ∀ w, Guarantees clockOk
    (deletePolicyLoop fuel identity n) w := by
  induction n with
  | zero => exact fun _ => trivial
  | succ _ ih =>
    intro w
    refine Guarantees.bind (attemptDeleteKernelQuotaPolicy_wp fuel) ?_
    intro outcome v _
    cases outcome with
    | retry => exact ih v
    | _ => trivial

end Policies

/-! ### The cutover of the default window -/

section Cutover

theorem hasLive_settledWindow (h : hasLiveKernelReservations (some old) t = false) :
    hasLiveKernelReservations (some (settledWindow old terminalState nowMs)) t = false := by
  simp only [hasLiveKernelReservations, settledWindow, Option.any_some, Bool.and_eq_false_iff,
    decide_eq_false_iff_not, not_lt] at h ⊢
  omega

theorem Quiet.apply_of_untouched (h : Quiet kv t identity)
    (hpol : Kv.written (.policy identity) writes = none)
    (hwin : Kv.written (.window identity) writes = none) :
    Quiet (kv.apply writes) t identity := by
  rw [Quiet, value_apply_of_untouched hpol, windowOf_apply_of_untouched hwin]
  exact h

/-- A scope without a live reservation stays so while the cutover guard is stored. -/
theorem KernelStep.quiet (h : KernelStep clockOk w label writes)
    (hmkr : w.store.value .defaultWindowCutover ≠ none)
    (hqt : Quiet w.store t identity) : Quiet (w.store.apply writes) t identity := by
  cases h with
  | reserve reserved effective resolved requestId route nowMs hnow hpol hcut hrsv hnew hroom =>
    by_cases heq : reserved = identity
    · subst heq
      -- a reservation on the defaults would have found the marker
      left
      rw [value_apply_of_untouched (by simp [Kv.written])]
      cases hval : w.store.value (.policy reserved) with
      | some value => rfl
      | none =>
        rw [effectivePolicy, hval] at hpol
        cases hpol
        exact absurd (hcut rfl) hmkr
    · exact hqt.apply_of_untouched (by simp [Kv.written]) (by simp [Kv.written, heq])
  | settle _ request terminalState _ _ _ _ _ nowMs _ _ hplan =>
    obtain ⟨-, ⟨old, hold, -, -, rfl⟩ | ⟨rfl, -⟩⟩ := decideKernelQuotaSettlement_eq_settle hplan
    · rw [Quiet, value_apply_of_untouched (by
        simp [Kv.written, KernelQuotaReservationIdentity.key])]
      refine hqt.imp id fun hlive => ?_
      by_cases heq : request.identity = identity
      · subst heq
        rw [hold] at hlive
        rw [windowOf_apply_of_set (settledWindow old terminalState nowMs) (by
          simp [Kv.written, KernelQuotaReservationIdentity.key])]
        exact hasLive_settledWindow hlive
      · rw [windowOf_apply_of_untouched (by
          simp [Kv.written, KernelQuotaReservationIdentity.key, heq])]
        exact hlive
    · exact hqt.apply_of_untouched (by simp [Kv.written, KernelQuotaReservationIdentity.key])
        (by simp [Kv.written, KernelQuotaReservationIdentity.key])
  | setPolicy written effective policy window reset nowMs hnow hpol hcut hwr hrst hkeep horg =>
    by_cases heq : written = identity
    · subst heq
      -- the scope has a policy of its own now
      left
      rw [Kv.value_apply]
      simp [Kv.written]
    · exact hqt.apply_of_untouched (by simp [Kv.written, heq]) (by simp [Kv.written, heq])
  | deletePolicy _ _ _ _ _ _ hcut =>
    exact absurd hcut hmkr
  | updateDefaults cutover =>
    refine hqt.apply_of_untouched ?_ ?_
    · refine Kv.written_eq_none ?_
      cases cutover <;> simp [Write.key, or_imp, forall_and]
    · refine Kv.written_eq_none ?_
      cases cutover <;> simp [Write.key, or_imp, forall_and]
  | terminalIntent | renew =>
    exact hqt.apply_of_untouched (by simp [Kv.written, KernelQuotaReservationIdentity.key])
      (by simp [Kv.written, KernelQuotaReservationIdentity.key])
  | acquireCutover | removeCutover =>
    exact hqt.apply_of_untouched (by simp [Kv.written]) (by simp [Kv.written])

/-- As long as the marker is the entry `guard`, no reservation of the identity rests on the
defaults at time `t`. -/
def StoreGuarded (guard : Entry KernelValue) (t : ℤ) (identity : KernelQuotaIdentity)
    (kv : KernelKv) : Prop :=
  guard.versionstamp ≤ kv.stamp ∧
    (kv.Passes ⟨.defaultWindowCutover, some guard⟩ → Quiet kv t identity)

variable {guard : Entry KernelValue}

theorem KernelStep.storeGuarded (h : KernelStep clockOk w label writes)
    (hgdd : StoreGuarded guard t identity w.store) :
    StoreGuarded guard t identity (w.store.apply writes) := by
  obtain ⟨hstamp, hqt⟩ := hgdd
  refine ⟨Nat.le_succ_of_le hstamp, fun hpass => ?_⟩
  -- the marker is older than the commit, so it was there before
  obtain ⟨entry, hent, hver⟩ := Option.map_eq_some_iff.mp hpass
  have hold : w.store.get .defaultWindowCutover = some entry := by
    refine (w.store.precedes_apply writes).2 _ entry hent ?_
    rw [hver]
    exact hstamp
  have hpass' : w.store.Passes ⟨.defaultWindowCutover, some guard⟩ := by
    rw [Kv.Passes, hold]
    exact congrArg some hver
  refine h.quiet ?_ (hqt hpass')
  rw [Kv.value, hold]
  exact Option.some_ne_none _

/-- No reservation of the identity rests on the defaults, now or later, as long as the marker is the
entry `guard`. -/
def Guarded (clockOk : ℤ → ℤ → Prop) (guard : Entry KernelValue) (w : KernelWorld)
    (identity : KernelQuotaIdentity) : Prop :=
  NotAhead clockOk → ∀ t, w.time ≤ t → StoreGuarded guard t identity w.store

theorem Guarded.of_storeAt (hv : KernelRun clockOk v)
    (h : NotAhead clockOk → ∀ t, v.time ≤ t → StoreGuarded guard t identity (v.storeAt n)) :
    Guarded clockOk guard v identity := by
  intro hclk t ht
  refine hv.storeAt_rel (R := fun a b => StoreGuarded guard t identity a →
    StoreGuarded guard t identity b) (fun _ h => h) (fun _ _ _ hab hbc h => hbc (hab h)) ?_ n
      (h hclk t ht)
  exact fun w label writes _ hstep => hstep.storeGuarded

theorem Guarded.mono (h : Guarded clockOk guard w identity) (hle : w.Le v)
    (hv : KernelRun clockOk v) : Guarded clockOk guard v identity := by
  refine Guarded.of_storeAt (n := w.length) hv fun hclk t ht => ?_
  rw [hle.storeAt_length_eq]
  exact h hclk t (hle.time.trans ht)

/-- The marker was stored, now or earlier. -/
def Stored (guard : Entry KernelValue) (w : KernelWorld) : Prop :=
  guard.versionstamp ≤ w.store.stamp

theorem Stored.mono (h : Stored guard w) (hle : w.Le v) (hv : KernelRun clockOk v) :
    Stored guard v :=
  Nat.le_trans h (hv.precedes hle).1

theorem Guarded.of_quiet (hgd : Stored guard w) (hle : w.Le v) (hv : KernelRun clockOk v)
    (hwn : w.length ≤ n) (hnv : n ≤ v.length)
    (h : NotAhead clockOk → ∀ t, v.time ≤ t → Quiet (v.storeAt n) t identity) :
    Guarded clockOk guard v identity := by
  refine Guarded.of_storeAt hv fun hclk t ht => ⟨?_, fun _ => h hclk t ht⟩
  have hprecedes : (v.storeAt w.length).Precedes (v.storeAt n) :=
    hv.storeAt_rel_storeAt Kv.Precedes.refl (fun _ _ _ => Kv.Precedes.trans)
      (fun w _ writes _ _ => w.store.precedes_apply writes) hwn hnv
  rw [hle.storeAt_length_eq] at hprecedes
  exact Nat.le_trans hgd hprecedes.1

theorem kernelScopeHasPolicy_wp (hgd : Stored guard w) :
    KernelWp clockOk (fun v r => r = .ok true → Guarded clockOk guard v identity)
      (kernelScopeHasPolicy identity) w := by
  refine kvGet_bind fun v hwv hv entry hread => ?_
  split
  · intro h
    cases h
  · next hsome =>
    split
    · intro h
      cases h
    · intro _
      obtain ⟨n, hwn, hnv, rfl⟩ := hread
      refine Guarded.of_quiet hgd hwv hv hwn hnv fun _ t _ => .inl ?_
      rw [Kv.value, Option.isSome_map]
      exact Option.isSome_iff_ne_none.mpr fun hno => hsome (by rw [hno]; rfl)

/-- A scope that is listed without finding a live reservation has none while the guard is stored. -/
theorem windowHasLiveLoop_wp (fuel n : ℕ) : ∀ w, Stored guard w →
      KernelWp clockOk (fun v r => r = .ok false → Guarded clockOk guard v identity)
        (windowHasLiveLoop fuel identity n) w := by
  induction n with
  | zero =>
    intro w _ h
    cases h
  | succ n ih =>
    intro w hgd
    refine dateNow_bind fun u hwu hu nowMs hnow => ?_
    refine kvGet_bind fun v huv hv entry hread => ?_
    have hleg := readIn_ne_legacyWindow hv hread
    rw [reconcileKernelQuotaWindowReservations_eq hleg]
    refine pure_bind ?_
    have hgdd : ∀ hvld : ¬ (entry.isSome = true ∧
        normalizeKernelQuotaWindowV2 (valueOf entry) identity = none),
        hasLiveKernelReservations (normalizeKernelQuotaWindowV2 (valueOf entry) identity) nowMs
          = false → Guarded clockOk guard v identity := by
      intro hvld hlive
      obtain ⟨m, hum, hmv, hm⟩ := hread
      refine Guarded.of_quiet (hgd.mono hwu hu) huv hv hum hmv fun hclk t ht => .inr ?_
      have hval : (v.storeAt m).value (.window identity) = valueOf entry := by
        rw [hm]
        rfl
      rw [← normalizeWindow_eq_windowOf hval hleg hvld]
      -- the clock that was read is not ahead of the present
      obtain ⟨time, htime, hshown⟩ := hnow
      have hnowMs : nowMs ≤ t :=
        (hclk time nowMs hshown).trans ((htime.trans huv.time).trans ht)
      exact hasLiveKernelReservations_mono hlive hnowMs
    cases hnorm : normalizeKernelQuotaWindowV2 (valueOf entry) identity with
    | none =>
      rw [hnorm] at hgdd
      dsimp only
      split
      · intro h
        cases h
      · next habs => exact fun _ => hgdd (fun h => habs h.1) rfl
    | some live =>
      rw [hnorm] at hgdd
      dsimp only
      split
      · refine Wp.bindExcept (Wp.mono ?_ (Wp.frame (fun _ _ h => h.mono)
          ((hgd.mono hwu hu).mono huv hv)
          (reclaimExpiredKernelReservationUnlocked_wp fuel identity live nowMs)))
        rintro t (e | reclaimed) ⟨hst, -⟩
        · intro h
          cases h
        · cases reclaimed with
          | true => exact ih t hst
          | false =>
            intro h
            cases h
      · next hlive =>
        exact fun _ => hgdd (by simp) (eq_false_of_ne_true hlive)

theorem hasLiveDefaultBacked_wp (hgd : Stored guard w) :
    KernelWp clockOk (fun v r => r = .ok false → Guarded clockOk guard v identity)
      (hasLiveDefaultBacked fuel identity) w := by
  refine Wp.bindExcept (Wp.mono ?_ (Wp.frame (fun _ _ h => h.mono) hgd
    (kernelScopeHasPolicy_wp hgd)))
  rintro v (e | hasPolicy) ⟨hst, hpol⟩
  · intro h
    cases h
  · cases hasPolicy with
    | true => exact fun _ => hpol rfl
    | false => exact windowHasLiveLoop_wp fuel maxKvRetries v hst

/-- The windows of the scope up to the cursor are guarded, and the listing reads no store from
before the marker. -/
structure Covered (clockOk : ℤ → ℤ → Prop) (guard : Entry KernelValue) (scope : KernelQuotaScope)
    (cursor : Cursor KvKey) (start w : KernelWorld) : Prop where
  le : start.Le w
  since : ∀ n, cursor.since = some n → start.length ≤ n
  guarded : ∀ identity a, isWindowOf scope (.window identity) = true → cursor.after = some a →
    .window identity ≤ a → Guarded clockOk guard w identity

theorem Covered.start_le {cursor : Cursor KvKey} (h : Covered clockOk guard scope cursor start w)
    (hsnc : cursor.since.getD w.length ≤ n) : start.length ≤ n := by
  cases hcsr : cursor.since with
  | none =>
    rw [hcsr] at hsnc
    exact h.le.length_le.trans hsnc
  | some m =>
    rw [hcsr] at hsnc
    exact (h.since m hcsr).trans hsnc

/-- A scope that the listing has passed has no live reservation. -/
theorem Covered.passed {r : Option (KvKey × Entry KernelValue)} (hgd : Stored guard start)
    (h : Covered clockOk guard scope cursor start w) (hwv : w.Le v) (hv : KernelRun clockOk v)
    (hnext : NextIn w v (isWindowOf scope) cursor cursor' r)
    (hscp : isWindowOf scope (.window identity) = true)
    (hpsd : ∀ k e, r = some (k, e) → .window identity < k) :
    Guarded clockOk guard v identity := by
  obtain ⟨n, hsnc, hnv, hfst, -⟩ := hnext
  by_cases hbef : ∃ a, cursor.after = some a ∧ .window identity ≤ a
  · obtain ⟨a, ha, hle⟩ := hbef
    exact (h.guarded identity a hscp ha hle).mono hwv hv
  · have habs : (v.storeAt n).get (.window identity) = none := by
      cases hget : (v.storeAt n).get (.window identity) with
      | none => rfl
      | some e =>
        cases r with
        | none => exact absurd (hfst _ e hget hscp) hbef
        | some listed =>
          obtain ⟨k, e'⟩ := listed
          have hk := hpsd k e' rfl
          refine absurd (hfst.2.2.2 _ e hget hscp fun a ha => ?_) (not_le.mpr hk)
          exact not_le.mp fun hle => hbef ⟨a, ha, hle⟩
    refine Guarded.of_quiet hgd (h.le.trans hwv) hv (h.start_le hsnc) hnv fun _ t _ =>
      .inr ?_
    rw [windowOf, Kv.value, habs]
    rfl

theorem kernelWindowScopeTarget_eq_ok {key : KvKey}
    (h : kernelWindowScopeTarget key = .ok identity) : key = .window identity := by
  unfold kernelWindowScopeTarget at h
  split at h
  · split_ifs at h
    cases h
    rfl
  · split_ifs at h
    cases h
    rfl
  · cases h

/-- The listing of all windows passes every scope. -/
theorem hasLiveInScope_wp (hgd : Stored guard start) (fuel n : ℕ) : ∀ cursor w,
      Covered clockOk guard scope cursor start w →
        KernelWp clockOk (fun v r => r = .ok false → ∀ identity,
          isWindowOf scope (.window identity) = true → Guarded clockOk guard v identity)
          (hasLiveInScope fuel scope n cursor) w := by
  induction n with
  | zero =>
    intro cursor w _ h
    cases h
  | succ n ih =>
    intro cursor w hcovered
    refine kvNext_bind fun v hwv hv cursor' listed hnext => ?_
    cases listed with
    | none =>
      intro _ identity hscp
      exact hcovered.passed hgd hwv hv hnext hscp fun k e h => by cases h
    | some listed =>
      obtain ⟨key, entry⟩ := listed
      refine orThrow_bind ?_ fun _ _ h => by cases h
      intro target htgt
      obtain rfl := kernelWindowScopeTarget_eq_ok htgt
      have hst : Stored guard v := hgd.mono (hcovered.le.trans hwv) hv
      -- everything before the listed window is guarded already
      have hbef : ∀ identity, isWindowOf scope (.window identity) = true →
          KvKey.window identity < .window target → Guarded clockOk guard v identity := by
        intro identity hscp hlt
        refine hcovered.passed hgd hwv hv hnext hscp fun k e h => ?_
        cases h
        exact hlt
      refine Wp.bindExcept (Wp.mono ?_ (Wp.frame
        (R := fun v => start.Le v ∧ ∀ identity, isWindowOf scope (.window identity) = true →
          KvKey.window identity < .window target → Guarded clockOk guard v identity)
        (fun u u' h hle hu' =>
          ⟨h.1.trans hle, fun identity hs hlt => (h.2 identity hs hlt).mono hle hu'⟩)
        ⟨hcovered.le.trans hwv, hbef⟩ (hasLiveDefaultBacked_wp fuel hst)))
      rintro u (e | hasLive) ⟨⟨hle, hgdd⟩, htargetGuarded⟩
      · intro h
        cases h
      · cases hasLive with
        | true =>
          intro h
          cases h
        | false =>
          refine ih cursor' u ⟨hle, ?_, ?_⟩
          · obtain ⟨m, hsnc, -, -, rfl⟩ := hnext
            intro m' hm'
            cases hm'
            exact hcovered.start_le hsnc
          · obtain ⟨m, -, -, -, rfl⟩ := hnext
            intro identity a hscp ha hkey
            cases ha
            rcases lt_or_eq_of_le hkey with hlt | heq
            · exact hgdd identity hscp hlt
            · cases heq
              exact htargetGuarded rfl

theorem hasLiveDefaultBackedKernelReservations_wp (hgd : Stored guard w) :
    KernelWp clockOk (fun v r => r = .ok false → ∀ identity, Guarded clockOk guard v identity)
      (hasLiveDefaultBackedKernelReservations fuel) w := by
  have hstr : ∀ {scope : KernelQuotaScope} (u : KernelWorld), w.Le u →
      Covered clockOk guard scope .start w u := fun u hle => ⟨hle, by simp [Cursor.start], by
    intro _ _ _ h
    cases h⟩
  refine Wp.bindExcept (Wp.mono ?_ (hasLiveInScope_wp hgd fuel fuel .start w
    (hstr w (World.Le.refl w))).le)
  rintro v (e | repoLive) ⟨hwv, hrepo⟩
  · intro h
    cases h
  · cases repoLive with
    | true =>
      intro h
      cases h
    | false =>
      have hrepo := hrepo rfl
      refine Wp.mono ?_ (Wp.frame (R := fun v => ∀ identity,
        isWindowOf .repo (.window identity) = true → Guarded clockOk guard v identity)
        (fun u u' h hle hu' identity hs => (h identity hs).mono hle hu') hrepo
        (hasLiveInScope_wp hgd fuel fuel .start v (hstr v hwv)))
      rintro u r ⟨hrepo, horg⟩ hr identity
      cases identity with
      | repo => exact hrepo _ rfl
      | org => exact horg hr _ rfl

theorem releaseKernelDefaultWindowCutover_wp (guard : Entry KernelValue) :
    Guarantees clockOk (releaseKernelDefaultWindowCutover guard) w :=
  kvCommit_bind (fun _ _ _ _ => ⟨.removeCutover _ (.inl rfl), trivial⟩) fun _ _ _ => trivial

/-- A guard that is kept guards every scope. -/
theorem checkCutoverGuard_wp (hgd : Stored guard w) :
    KernelWp clockOk (fun v r => ∀ kept, r = .ok (.ok kept) →
        ∀ identity, Guarded clockOk kept v identity) (checkCutoverGuard fuel guard) w := by
  refine Wp.tryCatch (Wp.mono (Q := fun v r => ∀ kept, r = .ok (.ok kept) →
    ∀ identity, Guarded clockOk kept v identity) ?_ ?_)
  · rintro v (e | kept) hkept
    · -- the handler releases the guard
      refine Wp.bindExcept (Wp.mono ?_ (releaseKernelDefaultWindowCutover_wp guard))
      rintro u (e | _) - kept h <;> cases h
    · exact hkept
  · refine Wp.bindExcept (Wp.mono ?_ (hasLiveDefaultBackedKernelReservations_wp fuel hgd))
    rintro v (e | hasLive) hqt
    · intro kept h
      cases h
    · cases hasLive with
      | true =>
        refine Wp.bindExcept (Wp.mono ?_ (releaseKernelDefaultWindowCutover_wp guard))
        rintro u (e | _) - kept h <;> cases h
      | false =>
        intro kept h
        cases h
        exact hqt rfl

/-- A guard that is acquired guards every scope. -/
theorem acquireKernelDefaultWindowCutover_wp (id : String)
    (limitEntry windowEntry : Option (Entry KernelValue)) :
    KernelWp clockOk (fun v r => ∀ guard, r = .ok (.ok guard) →
        ∀ identity, Guarded clockOk guard v identity)
      (acquireKernelDefaultWindowCutover fuel id limitEntry windowEntry) w := by
  refine kvGet_bind fun v _ _ entry _ => dateNow_bind fun u _ _ nowMs _ => ?_
  split
  · intro guard h
    cases h
  · next marker _ =>
    refine kvCommit_bind (fun t _ _ _ => ⟨.acquireCutover marker, ?_⟩) fun t _ _ => ?_
    · rw [if_pos rfl]
      refine kvGet_bind fun s _ hs acquired hread => ?_
      cases acquired with
      | none =>
        intro guard h
        cases h
      | some guard =>
        dsimp only
        split
        · refine checkCutoverGuard_wp fuel ?_
          obtain ⟨n, -, -, hn⟩ := hread
          exact Nat.le_trans ((s.storeAt n).stamped _ guard hn.symm) (hs.precedes_storeAt n).1
        · intro guard' h
          cases h
    · intro guard h
      cases h

end Cutover

/-! ### The defaults -/

section Defaults

theorem resolveDefaultsCutover_wp (id : String)
    (limitEntry windowEntry : Option (Entry KernelValue)) (intent : AdminDefaultsIntent)
    (kernelPolicyWindow : ℤ) : KernelWp clockOk (fun v r =>
        (r = .ok .none → intent.requestedKernelWindow = none ∨
          kernelPolicyWindow = normalizeWindow (KernelValue.toNumber (valueOf windowEntry))
            defaultKernelPolicyWindowMs) ∧
        ∀ guard, r = .ok (.guard guard) → ∀ identity, Guarded clockOk guard v identity)
      (resolveDefaultsCutover fuel id limitEntry windowEntry intent kernelPolicyWindow) w := by
  unfold resolveDefaultsCutover
  split
  · next hno =>
    exact ⟨fun _ => hno.imp Option.isNone_iff_eq_none.mp fun h => h, fun guard h => by cases h⟩
  · refine Wp.bindExcept (Wp.mono ?_ (acquireKernelDefaultWindowCutover_wp fuel id limitEntry
      windowEntry))
    rintro v (e | acquired) hgdd
    · exact ⟨fun h => (by cases h), fun guard h => (by cases h)⟩
    · cases acquired with
      | ok guard =>
        refine ⟨nofun, fun guard' h => ?_⟩
        cases h
        exact hgdd _ rfl
      | error reason =>
        cases reason <;> exact ⟨fun h => (by cases h), fun guard h => (by cases h)⟩

/-- The update of the defaults is a step: it changes the window under a guard only. -/
theorem commitDefaultsUpdate_wp
    {runtimeEntry limitEntry windowEntry guard : Option (Entry KernelValue)}
    {kernelPolicyLimit kernelPolicyWindow : ℤ} (hread : ReadIn u v .defaultWindow windowEntry)
    (hvw : v.Le w) (hpos : intent.requestedKernelWindow ≠ none → 0 < kernelPolicyWindow)
    (hkeep : guard = none → intent.requestedKernelWindow = none ∨ kernelPolicyWindow =
      normalizeWindow (KernelValue.toNumber (valueOf windowEntry)) defaultKernelPolicyWindowMs)
    (hgd : ∀ kept, guard = some kept → ∀ identity, Guarded clockOk kept w identity) :
    Guarantees clockOk (commitDefaultsUpdate runtimeEntry limitEntry windowEntry guard intent
      kernelPolicyLimit kernelPolicyWindow) w := by
  refine kvCommit_bind (fun t hwt ht hpass => ⟨?_, by cases guard <;> trivial⟩) fun t _ _ => ?_
  · have hstep := @KernelStep.updateDefaults clockOk t guard.isSome intent.nextRuntime
      (intent.requestedKernelLimit.map fun _ => kernelPolicyLimit)
      (intent.requestedKernelWindow.map fun _ => kernelPolicyWindow) ?_
    · rw [Option.toList_map, Option.toList_map, List.map_map, List.map_map] at hstep
      cases guard <;> exact hstep
    · cases guard with
      | none =>
        left
        intro windowMs hwms
        obtain ⟨requested, hrequested, rfl⟩ := Option.map_eq_some_iff.mp hwms
        have hne : intent.requestedKernelWindow ≠ none := by
          rw [hrequested]
          exact Option.some_ne_none _
        have hval := readIn_value_eq hread (hvw.trans hwt) ht
          (hpass ⟨.defaultWindow, windowEntry⟩ (by simp))
        have heq := (hkeep rfl).resolve_left hne
        rw [defaultsOf, loadDefaults, hval, ← heq, normalizeWindow, if_pos (hpos hne)]
      | some kept =>
        right
        intro hclk identity
        have hgdd := (hgd kept rfl identity).mono hwt ht hclk t.time le_rfl
        exact hgdd.2 (hpass ⟨.defaultWindowCutover, some kept⟩ (by simp))
  · cases guard with
    | none => trivial
    | some guard =>
      exact Guarantees.bind (releaseKernelDefaultWindowCutover_wp guard) fun _ _ _ => trivial

/-- Every commit of the update of the defaults is a step. -/
theorem applyDefaultsUpdateLoop_wp (id : String)
    (hpos : ∀ windowMs, intent.requestedKernelWindow = some windowMs → 0 < windowMs) (n : ℕ) :
    ∀ w, Guarantees clockOk (applyDefaultsUpdateLoop fuel id intent n) w := by
  induction n with
  | zero => exact fun _ => trivial
  | succ _ ih =>
    intro w
    refine Guarantees.bind ?_ fun response v _ => ?_
    · refine kvGets_bind fun v _ _ got hgot => ?_
      have hread := hgot .defaultWindow (by simp)
      have hnew : ∀ {fallback : ℤ}, intent.requestedKernelWindow ≠ none →
          0 < intent.requestedKernelWindow.getD fallback := by
        intro fallback hne
        obtain ⟨windowMs, hwms⟩ := Option.ne_none_iff_exists'.mp hne
        rw [hwms]
        exact hpos windowMs hwms
      dsimp only
      split
      · trivial
      · refine Wp.bindExcept (Wp.mono ?_ (resolveDefaultsCutover_wp fuel id _ _ intent _).le)
        rintro u (e | cutover) ⟨hvu, hno, hgd⟩
        · trivial
        · cases cutover with
          | none =>
            refine Guarantees.bind ?_ fun _ _ _ => trivial
            exact commitDefaultsUpdate_wp hread hvu hnew (fun _ => hno rfl) fun _ h => by cases h
          | guard =>
            refine Guarantees.bind ?_ fun _ _ _ => trivial
            refine commitDefaultsUpdate_wp hread hvu hnew nofun fun kept h => ?_
            cases h
            exact hgd _ rfl
          | retry | response => trivial
    · cases response with
      | some response => trivial
      | none => exact ih v

theorem adminDefaultsPostResponse_wp (id : String) (intent : AdminDefaultsIntent) :
    Guarantees clockOk (adminDefaultsPostResponse fuel id intent) w := by
  unfold adminDefaultsPostResponse
  split
  · trivial
  · split
    · trivial
    · next hwin =>
      refine applyDefaultsUpdateLoop_wp fuel id ?_ 3 w
      intro windowMs hrequested
      rw [hrequested, Option.any_some, decide_eq_true_eq, not_le] at hwin
      exact hwin

end Defaults

/-! ### Every program -/

/-- **The programs make no other commits.** -/
theorem KernelOperation.invoke_wp (operation : KernelOperation) (w : KernelWorld) :
    Guarantees clockOk (operation.invoke fuel) w := by
  cases operation with
  | reserveOrg _ requestId route => exact (reserveLimit_wp fuel requestId route _).map
  | reserveEffective owner repo requestId route =>
    exact (reserveEffectiveKernelUsageLimit_wp fuel owner repo requestId route).map
  | recordTerminalIntent _ terminalState =>
    exact (recordTerminalIntentLoop_wp terminalState maxKvRetries w).map
  | settle _ terminalState reason =>
    exact (settleLoop_wp fuel terminalState reason maxKvRetries w).map
  | launchSettlement _ terminalState reason =>
    refine Guarantees.map (Guarantees.bind (recordTerminalIntentLoop_wp terminalState
      maxKvRetries w) fun _ v _ => ?_)
    exact settleLoop_wp fuel terminalState reason maxKvRetries v
  | renew => exact (renewLoop_wp maxKvRetries w).map
  | setPolicy _ usageLimitRequests options =>
    refine Guarantees.map (Guarantees.tryCatch ?_ fun _ _ => trivial)
    exact setPolicyLoop_wp fuel usageLimitRequests options maxKvRetries w
  | deletePolicy =>
    refine Guarantees.map (Guarantees.tryCatch ?_ fun _ _ => trivial)
    exact deletePolicyLoop_wp fuel maxKvRetries w
  | updateDefaults id intent => exact (adminDefaultsPostResponse_wp fuel id intent).map
  | expireCutover =>
    exact fun v _ _ => ⟨fun _ => ⟨.removeCutover _ (.inr rfl), trivial⟩, fun _ => trivial⟩

end UbqGateway.Kernel
