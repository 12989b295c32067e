import UbqGateway.Kernel.Counts

/-!
# Windows with live reservations are kept

A reservation is charged to the window it was made in, so a window must not be replaced while
reservations in it are live, and a repository must not leave the window of its organisation then.
The writers of a window look at `reserved_requests` for this, and a reservation replaces a window
only if it has expired or if its length is no longer the one in force.  The latter never happens to
an unexpired window with reservations (`InForce`): whoever changes the length in force makes sure
that no reservation rests on the old one.

`live_window_kept` needs that the windows of a scope have distinct creation times.  A client that
was held up creates a window with the creation time of an earlier one, and inherits the reservations
of that window without counting them (`inherited_reservation_discarded`).
-/

namespace UbqGateway.Kernel

open KernelQuotaReservationIdentity

/-- The length of a window with live reservations is the one in force. -/
def InForce (kv : KernelKv) (t : ℤ) (identity : KernelQuotaIdentity) : Prop :=
  ∀ window, windowOf kv identity = some window → hasLiveKernelReservations (some window) t = true →
    ∀ effective, effectivePolicy kv identity = .ok effective →
      window.appliedWindowMs = effective.windowMs

/-! ### One step -/

/-- The policy in force has the same window length after the commit, as far as the scope has live
reservations. -/
def LengthKept (kv kv' : KernelKv) (t : ℤ) (identity : KernelQuotaIdentity) : Prop :=
  hasLiveKernelReservations (windowOf kv identity) t = true →
    ∀ effective', effectivePolicy kv' identity = .ok effective' →
      ∃ effective, effectivePolicy kv identity = .ok effective ∧
        effective.windowMs = effective'.windowMs

/-- What a commit does to the window of a scope. -/
inductive WindowChange (kv kv' : KernelKv) (t : ℤ) (identity : KernelQuotaIdentity) : Prop
  | kept (hwin : windowOf kv' identity = windowOf kv identity)
      (hlen : LengthKept kv kv' t identity)
  | settled (old : KernelQuotaWindowV2) (terminalState : TerminalState) (nowMs : ℤ)
      (hold : windowOf kv identity = some old)
      (hnew : windowOf kv' identity = some (settledWindow old terminalState nowMs))
      (hlen : LengthKept kv kv' t identity)
  | chosen (new : KernelQuotaWindowV2) (hnew : windowOf kv' identity = some new)
      (happ : ∀ effective, effectivePolicy kv' identity = .ok effective →
        new.appliedWindowMs = effective.windowMs)
      (hrepl : ∀ old, windowOf kv identity = some old →
        hasLiveKernelReservations (some old) t = true →
          ∃ effective, effectivePolicy kv identity = .ok effective ∧
            (old.appliedWindowMs = effective.windowMs → new.createdAtMs = old.createdAtMs))

variable {identity : KernelQuotaIdentity}

theorem LengthKept.of_eq (h : effectivePolicy kv' identity = effectivePolicy kv identity) :
    LengthKept kv kv' t identity := by
  intro _ effective heff
  exact ⟨effective, h.symm.trans heff, rfl⟩

section Step

variable {w : KernelWorld}

theorem Showed.le (h : Showed clockOk w nowMs) (hclk : NotAhead clockOk) : nowMs ≤ w.time := by
  obtain ⟨time, hle, hshows⟩ := h
  exact (hclk time nowMs hshows).trans hle

theorem effectivePolicy_apply_of_written (value : Option KernelValue)
    (hpol : Kv.written (.policy identity) writes = some value)
    (hlmt : Kv.written .defaultLimit writes = none)
    (hwin : Kv.written .defaultWindow writes = none) :
    effectivePolicy (w.store.apply writes) identity
      = policyFor value identity (defaultsOf w.store) := by
  unfold effectivePolicy defaultsOf
  rw [value_apply_of_untouched hlmt, value_apply_of_untouched hwin, Kv.value_apply, hpol]
  rfl

/-- The window, the policy and the defaults of the scope are not written. -/
def LeavesScope (identity : KernelQuotaIdentity) (writes : List (Write KvKey KernelValue)) : Prop :=
  ∀ a ∈ writes, a.key ≠ .window identity ∧ a.key ≠ .policy identity ∧ a.key ≠ .defaultLimit ∧
    a.key ≠ .defaultWindow

theorem windowChange_of_leavesScope (h : LeavesScope identity writes) :
    WindowChange w.store (w.store.apply writes) w.time identity := by
  refine .kept (windowOf_apply_of_untouched (Kv.written_eq_none fun a ha => (h a ha).1)) (.of_eq ?_)
  exact effectivePolicy_apply (Kv.written_eq_none fun a ha => (h a ha).2.1)
    (Kv.written_eq_none fun a ha => (h a ha).2.2.1) (Kv.written_eq_none fun a ha => (h a ha).2.2.2)

theorem not_expired_of_live (ht : nowMs ≤ t)
    (h : hasLiveKernelReservations (some window) t = true) :
    ¬ window.usageResetAtMs ≤ nowMs := by
  simp only [hasLiveKernelReservations, Option.any_some, Bool.and_eq_true, decide_eq_true_eq] at h
  omega

/-- **A new default length reaches no scope with live reservations.** -/
theorem lengthKept_of_defaults (hclk : NotAhead clockOk) {length : Option ℤ}
    (hpol : Kv.written (.policy identity) writes = none)
    (hlen : Kv.written .defaultWindow writes
      = length.map fun windowMs => some (.number windowMs))
    (hqt : (∀ windowMs ∈ length, normalizeWindow (some windowMs) defaultKernelPolicyWindowMs
        = (defaultsOf w.store).windowMs) ∨
      (NotAhead clockOk → ∀ identity, Quiet w.store w.time identity)) :
    LengthKept w.store (w.store.apply writes) w.time identity := by
  intro hlive effective' heff'
  rw [effectivePolicy, value_apply_of_untouched hpol] at heff'
  unfold effectivePolicy
  cases hst : w.store.value (.policy identity) with
  | some value =>
    -- a policy does not look at the defaults
    rw [hst] at heff'
    exact ⟨effective', heff', rfl⟩
  | none =>
    rw [hst] at heff'
    cases heff'
    refine ⟨_, rfl, ?_⟩
    rcases hqt with heq | hqt
    · change (defaultsOf w.store).windowMs
        = normalizeWindow (KernelValue.toNumber ((w.store.apply writes).value .defaultWindow)) _
      rw [Kv.value_apply, hlen]
      cases length with
      | none => rfl
      | some windowMs => exact (heq windowMs rfl).symm
    · -- a scope without a policy is quiet
      rcases hqt hclk identity with hsome | hno
      · rw [hst] at hsome
        cases hsome
      · rw [hlive] at hno
        cases hno

variable {requestId : String}

section

variable (hclk : NotAhead clockOk) (hnow : Showed clockOk w nowMs)

include hclk hnow

/-- A reservation changes the window as it may be changed. -/
theorem windowChange_of_reserve {resolved : KernelQuotaEffectiveWindow} {route : String}
    (hpol : effectivePolicy w.store identity = .ok effective)
    (hrsv : resolved = windowForEffectivePolicy (windowOf w.store identity) identity
      effective.windowMs nowMs) :
    WindowChange w.store (w.store.apply
      [.set (.window identity) (.window { resolved.window with
          reservedRequests := resolved.window.reservedRequests + 1, updatedAtMs := nowMs }),
        .set (.reservation identity resolved.window.createdAtMs requestId)
          (.reservation (reservedRow identity resolved.window requestId route nowMs))])
      w.time identity := by
  refine .chosen { resolved.window with
    reservedRequests := resolved.window.reservedRequests + 1, updatedAtMs := nowMs }
    (windowOf_apply_of_set _ (by simp [Kv.written])) ?_ ?_
  · intro effective' heff'
    rw [effectivePolicy_apply (by simp [Kv.written]) (by simp [Kv.written])
      (by simp [Kv.written]), hpol] at heff'
    cases heff'
    rcases windowForEffectivePolicy_cases (windowOf w.store identity) identity effective.windowMs
      nowMs with ⟨hcr, -⟩ | ⟨window, -, happ, hkept⟩
    · rw [hrsv, hcr]
      rfl
    · rw [hrsv, hkept]
      exact happ
  · intro old hold hlive
    refine ⟨effective, hpol, fun hlen => ?_⟩
    rcases windowForEffectivePolicy_cases (windowOf w.store identity) identity effective.windowMs
      nowMs with ⟨-, hexp⟩ | ⟨window, hst, -, hkept⟩
    · exact absurd (hexp old hold hlen) (not_expired_of_live (hnow.le hclk) hlive)
    · cases hold.symm.trans hst
      rw [hrsv, hkept]

/-- A policy that is set changes the window as it may be changed. -/
theorem windowChange_of_setPolicy {policy : KernelQuotaPolicyV2} {written :
    KernelQuotaEffectiveWindow}
    {reset : Bool} (hpol : effectivePolicy w.store identity = .ok effective)
    (hwr : written = decideKernelQuotaPolicyWrite identity policy (windowOf w.store identity) reset
      nowMs)
    (hrst : reset = true → hasLiveKernelReservations (windowOf w.store identity) nowMs = false)
    (hkeep : reset = false → policy.windowMs = effective.windowMs) :
    WindowChange w.store (w.store.apply
      [.set (.policy identity) (.policy policy), .set (.window identity) (.window written.window)])
      w.time identity := by
  refine .chosen _ (windowOf_apply_of_set written.window (by simp [Kv.written])) ?_ ?_
  · intro effective' heff'
    rw [effectivePolicy_apply_of_written (some (.policy policy)) (by simp [Kv.written])
      (by simp [Kv.written]) (by simp [Kv.written])] at heff'
    obtain ⟨stored, hst, hlen, -⟩ := policyFor_some_eq_ok heff'
    cases hst
    rw [hlen, hwr]
    rcases decideKernelQuotaPolicyWrite_cases identity policy (windowOf w.store identity) reset
      nowMs with ⟨hcr, -⟩ | ⟨window, -, happ, hkept⟩
    · rw [hcr]
      rfl
    · rw [hkept]
      exact happ
  · intro old hold hlive
    refine ⟨effective, hpol, fun hlen => ?_⟩
    rcases decideKernelQuotaPolicyWrite_cases identity policy (windowOf w.store identity) reset
      nowMs with ⟨-, hrepl⟩ | ⟨window, hst, -, hkept⟩
    · have hunexpired := not_expired_of_live (hnow.le hclk) hlive
      cases hcase : reset with
      | true =>
        -- a reset is only made over a window without live reservations
        have hno := hasLiveKernelReservations_mono (hrst hcase) (hnow.le hclk)
        rw [hold, hlive] at hno
        cases hno
      | false =>
        rcases hrepl with htrue | hexp
        · rw [hcase] at htrue
          cases htrue
        · exact absurd (hexp old hold (hlen.trans (hkeep hcase).symm)) hunexpired
    · cases hold.symm.trans hst
      rw [hwr, hkept]

/-- A policy that is deleted changes the window as it may be changed. -/
theorem windowChange_of_deletePolicy {next : KernelQuotaEffectiveWindow}
    (hnext : next = decideKernelQuotaPolicyDeleteWindow identity effective (defaultsOf w.store)
      (windowOf w.store identity) nowMs)
    (hlive : hasLiveKernelReservations (windowOf w.store identity) nowMs = false) :
    WindowChange w.store (w.store.apply
      [.delete (.policy identity), .set (.window identity) (.window next.window)])
      w.time identity := by
  refine .chosen _ (windowOf_apply_of_set next.window (by simp [Kv.written])) ?_ ?_
  · intro effective' heff'
    rw [effectivePolicy_apply_of_written none (by simp [Kv.written]) (by simp [Kv.written])
      (by simp [Kv.written])] at heff'
    cases heff'
    rw [hnext]
    rcases decideKernelQuotaPolicyDeleteWindow_cases identity effective (defaultsOf w.store)
      (windowOf w.store identity) nowMs with hcr | ⟨window, -, happ, hkept⟩
    · rw [hcr]
      rfl
    · rw [hkept]
      exact happ
  · intro old hold hlive'
    have hno := hasLiveKernelReservations_mono hlive (hnow.le hclk)
    rw [hold, hlive'] at hno
    cases hno

end

/-- **The step**: what any commit may do to a window. -/
theorem KernelStep.windowChange (h : KernelStep clockOk w label writes)
    (hclk : NotAhead clockOk) (identity : KernelQuotaIdentity) :
    WindowChange w.store (w.store.apply writes) w.time identity := by
  cases h with
  | reserve reserved effective resolved requestId route nowMs hnow hpol hcut hrsv hnew hroom =>
    by_cases hidt : reserved = identity
    · subst hidt
      exact windowChange_of_reserve hclk hnow hpol hrsv
    · exact windowChange_of_leavesScope (by simp [LeavesScope, Write.key, hidt])
  | terminalIntent | renew =>
    exact windowChange_of_leavesScope (by simp [LeavesScope, Write.key, key])
  | settle _ request terminalState _ settled window _ _ nowMs _ _ hplan =>
    obtain ⟨rfl, hwin⟩ := decideKernelQuotaSettlement_eq_settle hplan
    by_cases hidt : request.identity = identity
    · subst hidt
      rcases hwin with ⟨old, hold, -, -, rfl⟩ | ⟨rfl, -⟩
      · refine .settled old terminalState nowMs hold (windowOf_apply_of_set _ ?_)
          (.of_eq (effectivePolicy_apply ?_ ?_ ?_)) <;>
          simp [Kv.written, key]
      · exact windowChange_of_leavesScope (by simp [LeavesScope, Write.key, key])
    · refine windowChange_of_leavesScope ?_
      cases window <;>
        simp [LeavesScope, Write.key, key, hidt]
  | setPolicy changed effective policy written reset nowMs hnow hpol hcut hwr hrst hkeep horg =>
    by_cases hidt : changed = identity
    · subst hidt
      exact windowChange_of_setPolicy hclk hnow hpol hwr hrst hkeep
    · exact windowChange_of_leavesScope (by simp [LeavesScope, Write.key, hidt])
  | deletePolicy changed effective next nowMs hnow hpol hcut hnext hlive =>
    by_cases hidt : changed = identity
    · subst hidt
      exact windowChange_of_deletePolicy hclk hnow hnext hlive
    · exact windowChange_of_leavesScope (by simp [LeavesScope, Write.key, hidt])
  | acquireCutover => exact windowChange_of_leavesScope (by simp [LeavesScope, Write.key])
  | removeCutover =>
    exact windowChange_of_leavesScope (by simp [LeavesScope, Write.key])
  | updateDefaults cutover runtime limit window hqt =>
    refine .kept (windowOf_apply_of_untouched (Kv.written_eq_none ?_))
      (lengthKept_of_defaults hclk (Kv.written_eq_none ?_) ?_ hqt)
    · cases cutover <;> simp [Write.key, or_imp, forall_and]
    · cases cutover <;> simp [Write.key, or_imp, forall_and]
    · cases cutover <;> cases runtime <;> cases limit <;> cases window <;> simp [Kv.written]

/-- **The length of a live window is in force.** -/
theorem inForce_of_run (hclk : NotAhead clockOk) (hw : KernelRun clockOk w)
    (identity : KernelQuotaIdentity) : InForce w.store w.time identity := by
  refine Run.invariant (P := fun w => InForce w.store w.time identity) ?_ ?_ ?_ hw
  · rintro _ t rfl window hwin
    cases hwin
  · intro w t ih ht window hwin hlive
    change hasLiveKernelReservations (some window) t = true at hlive
    refine ih window hwin ?_
    by_contra hdead
    rw [hasLiveKernelReservations_mono (eq_false_of_ne_true hdead) ht] at hlive
    cases hlive
  · intro w label writes _ ih hstep window hwin hlive effective heff
    rw [World.store_commit] at hwin heff
    cases hstep.windowChange hclk identity with
    | kept heq hlen =>
      rw [heq] at hwin
      obtain ⟨old, hold, hwms⟩ := hlen (by rwa [hwin]) effective heff
      exact (ih window hwin hlive old hold).trans hwms
    | settled before _ _ hbef haft hlen =>
      cases haft.symm.trans hwin
      -- the window had one reservation more before
      have hlive' : hasLiveKernelReservations (some before) w.time = true := by
        simp only [hasLiveKernelReservations, settledWindow, Option.any_some, Bool.and_eq_true,
          decide_eq_true_eq] at hlive ⊢
        exact ⟨hlive.1, by omega⟩
      obtain ⟨old, hold, hwms⟩ := hlen (by rwa [hbef]) effective heff
      exact (ih before hbef hlive' old hold).trans hwms
    | chosen _ hnew happ =>
      cases hnew.symm.trans hwin
      exact happ effective heff

theorem KernelStep.live_window (h : KernelStep clockOk w label writes) (hclk : NotAhead clockOk)
    (hfrc : InForce w.store w.time identity) (hwin : windowOf w.store identity = some window)
    (hlive : hasLiveKernelReservations (some window) w.time = true) :
    ∃ window', windowOf (w.store.apply writes) identity = some window' ∧
      window'.createdAtMs = window.createdAtMs := by
  cases h.windowChange hclk identity with
  | kept heq => exact ⟨window, heq.trans hwin, rfl⟩
  | settled _ _ _ hold hnew =>
    cases hwin.symm.trans hold
    exact ⟨_, hnew, rfl⟩
  | chosen new hnew _ hrepl =>
    obtain ⟨effective, heff, hcr⟩ := hrepl window hwin hlive
    exact ⟨new, hnew, hcr (hfrc window hwin hlive effective heff)⟩

/-- No repository gets a policy of its own while the window of its organisation has live
reservations. -/
theorem KernelStep.repo_policy (h : KernelStep clockOk w label writes) (hclk : NotAhead clockOk)
    (hlive : hasLiveKernelReservations (windowOf w.store (.org owner)) w.time = true)
    (hno : w.store.value (.policy (.repo owner repo)) = none) :
    (w.store.apply writes).value (.policy (.repo owner repo)) = none := by
  cases h with
  | setPolicy changed effective policy written reset nowMs hnow hpol hcut hwr hrst
      hkeep horg =>
    have hoth : changed ≠ .repo owner repo := by
      rintro rfl
      have hdead := hasLiveKernelReservations_mono (horg owner repo rfl hno) (hnow.le hclk)
      rw [hlive] at hdead
      cases hdead
    rw [value_apply_of_untouched (by simp [Kv.written, hoth]), hno]
  | deletePolicy changed =>
    rw [Kv.value_apply, hno]
    by_cases heq : changed = .repo owner repo <;> simp [Kv.written, heq]
  | settle _ _ _ _ _ window =>
    rw [value_apply_of_untouched (Kv.written_eq_none ?_), hno]
    cases window <;> simp [Write.key, key]
  | updateDefaults cutover =>
    rw [value_apply_of_untouched (Kv.written_eq_none ?_), hno]
    cases cutover <;> simp [Write.key, or_imp, forall_and]
  | _ =>
    rw [value_apply_of_untouched (by simp [Kv.written, key]), hno]

end Step

/-! ### Whole histories -/

/-- What a commit at time `t` must keep: while the window is unexpired and holds a live reservation,
it is not replaced, and no repository under it gets a policy of its own. -/
def KeepsLiveWindow (identity : KernelQuotaIdentity) (kv kv' : KernelKv) (t : ℤ) : Prop :=
  ∀ window, windowOf kv identity = some window → t < window.usageResetAtMs →
    (∃ createdAtMs requestId row,
      rowOf kv (.reservation identity createdAtMs requestId) = some row ∧
        row.windowCreatedAtMs = window.createdAtMs ∧ row.state = .reserved ∧
        t < row.leaseExpiresAtMs) →
    (∃ window', windowOf kv' identity = some window' ∧
      window'.createdAtMs = window.createdAtMs) ∧
    ∀ owner repo, identity = .org owner → kv.value (.policy (.repo owner repo)) = none →
      kv'.value (.policy (.repo owner repo)) = none

theorem KeepsLiveWindow.createdAtMs_eq
    {createdAtMs resetAtMs leaseExpiresAtMs : ℤ} {requestId : String}
    (h : KeepsLiveWindow identity kv kv' t) (hwin : (windowOf kv identity).map (fun window =>
      (window.createdAtMs, window.usageResetAtMs)) = some (createdAtMs, resetAtMs))
    (hrow : (rowOf kv (.reservation identity createdAtMs requestId)).map (fun row =>
      (row.windowCreatedAtMs, row.state, row.leaseExpiresAtMs))
        = some (createdAtMs, .reserved, leaseExpiresAtMs)) (hrst : t < resetAtMs)
    (hls : t < leaseExpiresAtMs) :
    (windowOf kv' identity).map KernelQuotaWindowV2.createdAtMs = some createdAtMs := by
  obtain ⟨window, hst, htms⟩ := Option.map_eq_some_iff.mp hwin
  obtain ⟨row, hfd, hfds⟩ := Option.map_eq_some_iff.mp hrow
  simp only [Prod.mk.injEq] at htms hfds
  obtain ⟨⟨window', hst', hcr⟩, -⟩ := h window hst (by omega)
    ⟨createdAtMs, requestId, row, hfd, by omega, hfds.2.1, by omega⟩
  rw [hst', Option.map_some, hcr, htms.1]

/-- **Windows with live reservations are kept**, if the windows of the scope have distinct creation
times. -/
theorem live_window_kept {sys : KernelSystem} (h : KernelReachable Eq sys)
    {identity : KernelQuotaIdentity} (hdist : (windowCreations sys.world identity).Nodup)
    {t : ℤ} {kv kv' : KernelKv} {label : KernelCommit}
    (hcmt : sys.world.CommittedAt t kv label kv') : KeepsLiveWindow identity kv kv' t := by
  obtain ⟨u, writes, hu, hle, rfl, rfl, hstep, rfl⟩ :=
    (kernelReachable_run h).committedAt hcmt
  rintro window hwin hunexpired ⟨createdAtMs, requestId, row, hrow, hcr, hsta, -⟩
  have hclk : NotAhead Eq := fun time t hshows => hshows.ge
  -- the reservation is counted, so the window has live reservations
  have hexc := ledgerOf_exact hu (hdist.sublist (windowCreations_suffix hle identity).sublist)
  have hpos := rowCount_pos hrow
  rw [hcr, hsta] at hpos
  have hres := (window_counts_of_exact hexc hwin).1
  have hlive : hasLiveKernelReservations (some window) u.time = true := by
    simp only [hasLiveKernelReservations, Option.any_some, Bool.and_eq_true, decide_eq_true_eq]
    exact ⟨hunexpired, by omega⟩
  refine ⟨hstep.live_window hclk (inForce_of_run hclk hu identity) hwin hlive, ?_⟩
  rintro owner repo rfl hno
  exact hstep.repo_policy hclk (by rwa [hwin]) hno

/-- The commit that settles the first of two reservations keeps the window. -/
theorem live_window_kept_limited :
    (windowOf (afterSchedule limitedSchedule).world.store (.org "acme")).map
      KernelQuotaWindowV2.createdAtMs = some 0 := by
  have hrch : KernelReachable Eq (afterSchedule limitedSchedule) :=
    afterSchedule_reachable (fun _ => rfl) limitedSchedule
  have hnwt : ((afterSchedule limitedSchedule).world.events.map fun e =>
      (e.label, e.time)).head?
        = some (.settle ⟨.org "acme", 0, "request-1", "/v1/responses"⟩, 0) := by
    decide
  have hkps : KeepsLiveWindow (.org "acme") ((afterSchedule limitedSchedule).world.storeAt 4)
      (afterSchedule limitedSchedule).world.store 0 :=
    live_window_kept hrch (by decide) (World.committedAt_newest hnwt)
  have hbef : (windowOf ((afterSchedule limitedSchedule).world.storeAt 4) (.org "acme")).map
      (fun window => (window.createdAtMs, window.usageResetAtMs)) = some (0, 604800000) := by
    decide
  -- the second reservation is the live one
  have hres : (rowOf ((afterSchedule limitedSchedule).world.storeAt 4)
        (.reservation (.org "acme") 0 "request-2")).map
      (fun row => (row.windowCreatedAtMs, row.state, row.leaseExpiresAtMs))
        = some (0, .reserved, 300000) := by
    decide
  exact hkps.createdAtMs_eq hbef hres (by decide) (by decide)

/-- A client that will reset a window of 10 ms reads its clock at 0 and is held up.  A request is
reserved at 0, and at 10 the policy is stored again, with a new window.  The client goes on and
replaces that window by one created at 0.  At 11 a third reset finds this window without
reservations. -/
def heldUpSchedule : List (Action (ℕ × KernelOperation)) :=
  [.spawn (2, .setPolicy (.org "acme") 5 { windowMs := some 10 }), .act 0 4,
    .spawn (2, .setPolicy (.org "acme") 5 { resetUsage := true, windowMs := some 1000000 }),
    .act 0 1,
    .spawn (2, .reserveOrg "acme" "request-1" "/v1/responses"), .act 0 4, .tick 10,
    .spawn (2, .setPolicy (.org "acme") 5 {}), .act 0 4, .act 2 3, .tick 11,
    .spawn (2, .setPolicy (.org "acme") 5 { resetUsage := true }), .act 0 4]

/-- A reset can discard a reservation that holds its lease: the window that it replaces was created
with the creation time of an earlier one, and does not count the reservations of that window. -/
theorem inherited_reservation_discarded :
    ¬ ∀ sys, KernelReachable Eq sys → ∀ t kv label kv', sys.world.CommittedAt t kv label kv' →
      ∀ identity, KeepsLiveWindow identity kv kv' t := by
  intro hclm
  have hrch : KernelReachable Eq (afterSchedule heldUpSchedule) :=
    afterSchedule_reachable (fun _ => rfl) heldUpSchedule
  have hnwt : ((afterSchedule heldUpSchedule).world.events.map fun e => (e.label, e.time)).head?
      = some (.setPolicy (.org "acme") 11 true, 11) := by
    decide
  have hkps : KeepsLiveWindow (.org "acme") ((afterSchedule heldUpSchedule).world.storeAt 4)
      (afterSchedule heldUpSchedule).world.store 11 :=
    hclm _ hrch _ _ _ _ (World.committedAt_newest hnwt) _
  have hbef : (windowOf ((afterSchedule heldUpSchedule).world.storeAt 4) (.org "acme")).map
      (fun window => (window.createdAtMs, window.usageResetAtMs)) = some (0, 1000000) := by
    decide
  have hres : (rowOf ((afterSchedule heldUpSchedule).world.storeAt 4)
        (.reservation (.org "acme") 0 "request-1")).map
      (fun row => (row.windowCreatedAtMs, row.state, row.leaseExpiresAtMs))
        = some (0, .reserved, 300000) := by
    decide
  have hkept := hkps.createdAtMs_eq hbef hres (by decide) (by decide)
  have hrepl : (windowOf (afterSchedule heldUpSchedule).world.store (.org "acme")).map
      KernelQuotaWindowV2.createdAtMs = some 11 := by
    decide
  rw [hkept] at hrepl
  cases hrepl

end UbqGateway.Kernel
