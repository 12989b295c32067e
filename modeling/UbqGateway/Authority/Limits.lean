import UbqGateway.Authority.Conservation

/-!
# The limits of a policy

The request, kernel and concurrency limits are compared with the counters only when a request is
admitted, the paid limit only when a paid attempt is reserved.  They hold in every state because no
other transaction moves the compared sum up: `RequestChange.counts_le` for the counts and
`RequestChange.paid_le` for the exposure.  A provider may bill more than the exposure that was
reserved for it; what it bills beyond that is the `overrun` of the window, and the paid sum stays
within the limit and the overrun.
-/

namespace UbqGateway.Authority

open PrincipalWindow

/-! ### Overrun -/

/-- What an attempt was billed beyond its exposure. -/
def overrunBy (attempt : AttemptRecord) : ℤ :=
  if attempt.billingSettled = true ∧ attempt.input.provider ≠ .codex then
    max 0 (attempt.settledSpendMicrocredits.getD 0 - attempt.input.maximumExposureMicrocredits)
  else 0

/-- What the attempts of a request were billed beyond their exposure. -/
def requestOverrun (r : AdmissionRecord) : ℤ := r.attempts.sum fun _ attempt => overrunBy attempt

/-- What the attempts of a window were billed beyond their exposure. -/
def overrun (s : AuthorityState) (key : WindowKey) : ℤ :=
  s.admissions.sum fun _ r => if r.windowKey = key then requestOverrun r else 0

theorem overrunBy_nonneg (attempt : AttemptRecord) : 0 ≤ overrunBy attempt := by
  unfold overrunBy
  split_ifs
  · exact le_max_left _ _
  · exact le_rfl

theorem requestOverrun_nonneg (r : AdmissionRecord) : 0 ≤ requestOverrun r :=
  Record.sum_nonneg fun _ attempt _ => overrunBy_nonneg attempt

theorem overrun_nonneg (s : AuthorityState) (key : WindowKey) : 0 ≤ overrun s key := by
  refine Record.sum_nonneg fun _ r _ => ?_
  split_ifs
  · exact requestOverrun_nonneg r
  · exact le_rfl

theorem overrun_eq_zero {key : WindowKey}
    (h : ∀ attempt ∈ attemptsOf s key, attempt.input.provider ≠ .codex →
      ∀ spend ∈ attempt.settledSpendMicrocredits, spend ≤ attempt.input.maximumExposureMicrocredits)
    (hok : EveryRequest RequestOk s) : overrun s key = 0 := by
  refine (Record.sum_congr fun id r hr => ?_).trans (Record.sum_zero _)
  split_ifs with hkey
  · refine (Record.sum_congr fun attemptId attempt hatt => ?_).trans (Record.sum_zero _)
    have hmem : attempt ∈ attemptsOf s key := by
      refine List.mem_flatMap.mpr ⟨r, List.mem_filter.mpr ⟨mem_values_of_lookup hr, ?_⟩,
        mem_values_of_lookup hatt⟩
      exact decide_eq_true hkey
    have hexpo := ((hok id r hr).attempts attempt (mem_values_of_lookup hatt)).exposure
    unfold overrunBy
    split_ifs with hpaid
    · refine max_eq_left (sub_nonpos.mpr ?_)
      cases hsp : attempt.settledSpendMicrocredits with
      | none => exact hexpo
      | some spend => exact h attempt hmem hpaid.2 spend hsp
    · rfl
  · rfl

variable {id : String}

theorem requestOverrun_insert (h : r.attempts.lookup id = some old) (new : AttemptRecord) :
    (r.attempts.insert id new).sum (fun _ attempt => overrunBy attempt)
      = requestOverrun r + (overrunBy new - overrunBy old) := by
  have hsum := Record.sum_insert_old (fun (_ : String) attempt => overrunBy attempt) h new
  unfold requestOverrun
  omega

theorem requestOverrun_assign (h : r.attempts.lookup input.attemptId = none) :
    (assign r.attempts input.attemptId (freshAttempt input)).sum
      (fun _ attempt => overrunBy attempt) = requestOverrun r := by
  unfold assign
  split_ifs with hprt
  · rfl
  · rw [Record.sum_insert_new _ h]
    exact add_zero _

theorem billing_le_overrun (spend : Option ℤ)
    (hexpo : 0 ≤ attempt.input.maximumExposureMicrocredits) :
    (billingDelta attempt spend).paidReservedMicrocredits +
        (billingDelta attempt spend).paidSettledMicrocredits
      ≤ overrunBy (billed attempt spend) - overrunBy attempt := by
  unfold billingDelta billed
  cases spend with
  | none => simp
  | some amount =>
    by_cases hbld : attempt.billingSettled = true
    · simp [hbld]
    · by_cases hcdx : attempt.input.provider = .codex
      · simp [hbld, hcdx, overrunBy, hexpo]
      · -- the exposure is given back and the spend taken
        simp only [if_neg hbld, if_neg hcdx, overrunBy]
        rw [if_pos ⟨trivial, hcdx⟩, if_neg (fun h => hbld h.1), Option.getD_some]
        have := le_max_right 0 (amount - attempt.input.maximumExposureMicrocredits)
        omega

/-! ### One step -/

section Change

/-- A request that goes on takes no new place. -/
theorem RequestChange.counts_le (h : RequestChange s handle r tx r' delta) :
    delta.reserved + delta.dispatched ≤ 0 ∧ delta.kernelReserved + delta.kernelCompleted ≤ 0 := by
  have hker (semantic : Option SemanticTerminal) :
      (kernelDelta r semantic).reserved + (kernelDelta r semantic).dispatched ≤ 0 ∧
      (kernelDelta r semantic).kernelReserved + (kernelDelta r semantic).kernelCompleted ≤ 0 := by
    unfold kernelDelta
    split_ifs <;> simp
  have hbil (attempt : AttemptRecord) (spend : Option ℤ) :
      (billingDelta attempt spend).reserved + (billingDelta attempt spend).dispatched = 0 ∧
      (billingDelta attempt spend).kernelReserved +
        (billingDelta attempt spend).kernelCompleted = 0 := by
    unfold billingDelta
    cases spend with
    | none => simp
    | some amount =>
      dsimp only
      split_ifs <;> simp
  cases h with
  | terminal _ evidence finalAttempt attempt =>
    have h1 := hker (some evidence.outcome)
    have h2 := hbil attempt evidence.spendMicrocredits
    cases finalAttempt with
    | true =>
      simp only [if_true, add_reserved, add_dispatched, add_kernelReserved, add_kernelCompleted]
      omega
    | false =>
      simp only [Bool.false_eq_true, if_false, zero_add]
      omega
  | usage _ _ spend attempt =>
    have h2 := hbil attempt (some spend)
    omega
  | settle =>
    have h1 := hker r.semantic
    simp only [add_reserved, add_dispatched, add_kernelReserved, add_kernelCompleted,
      zero_dispatched, zero_kernelReserved,
      zero_kernelCompleted]
    split_ifs <;> omega
  | confirm => split_ifs <;> simp
  | reserveSubscription | reservePaid | begin | reselect | release | delivery | cancel =>
    simp [exposureDelta]

/-- A change of a request raises the paid sum by at most the overrun it adds, or it is a paid
reservation that was checked against the limit. -/
theorem RequestChange.paid_le (hr : RequestOk r) (h : RequestChange s handle r tx r' delta) :
    delta.paidReservedMicrocredits + delta.paidSettledMicrocredits
        ≤ requestOverrun r' - requestOverrun r ∨
      ∃ policy, s.policies.lookup r.principalId = some policy ∧
        r.windowKey = ⟨r.principalId, policy.windowResetAtMs⟩ ∧
        (windowAt s r.windowKey).paidReservedMicrocredits +
            (windowAt s r.windowKey).paidSettledMicrocredits +
            (delta.paidReservedMicrocredits + delta.paidSettledMicrocredits)
          ≤ policy.paidLimitMicrocredits := by
  have hold {id : String} {attempt : AttemptRecord} (ha : r.attempts.lookup id = some attempt) :=
    hr.attempts attempt (mem_values_of_lookup ha)
  have hstep {id : String} {attempt new : AttemptRecord} (ha : r.attempts.lookup id = some attempt)
      (hpaid : delta.paidReservedMicrocredits + delta.paidSettledMicrocredits
        ≤ overrunBy new - overrunBy attempt) :
      delta.paidReservedMicrocredits + delta.paidSettledMicrocredits
        ≤ (r.attempts.insert id new).sum (fun _ attempt => overrunBy attempt)
          - requestOverrun r := by
    rw [requestOverrun_insert ha]
    omega
  cases h with
  | reserveSubscription _ _ _ hnew =>
    refine .inl ?_
    have := requestOverrun_assign hnew
    simp only [requestOverrun] at this ⊢
    rw [this]
    simp
  | reservePaid _ _ policy window _ _ _ _ _ _ _ hpol hkey hwin hlmt =>
    -- the window that was compared with the limit is the one that is charged
    refine .inr ⟨policy, hpol, hkey, ?_⟩
    simp only [windowAt, hwin, Option.getD_some, exposureDelta, zero_paidSettled, add_zero]
    exact hlmt
  | begin _ _ _ hatt => exact .inl (hstep hatt (by simp [overrunBy]))
  | reselect | delivery => exact .inl (by simp [requestOverrun])
  | confirm _ _ hatt =>
    refine .inl (hstep hatt ?_)
    split_ifs <;> simp [overrunBy]
  | release _ _ hatt =>
    refine .inl (hstep hatt ?_)
    have := (hold hatt).exposure
    simp [overrunBy, exposureDelta, this]
  | terminal _ evidence finalAttempt attempt hatt =>
    refine .inl (hstep hatt ?_)
    have hbil := @billing_le_overrun { attempt with terminal := some evidence }
      evidence.spendMicrocredits (hold hatt).exposure
    have hker (d : PrincipalWindow)
        (hd : d = if finalAttempt = true then kernelDelta r (some evidence.outcome) else 0) :
        d.paidReservedMicrocredits + d.paidSettledMicrocredits = 0 := by
      rw [hd]
      unfold kernelDelta
      split_ifs <;> simp
    have hker := hker _ rfl
    simp only [add_paidReserved, add_paidSettled]
    change _ ≤ _ - overrunBy { attempt with terminal := some evidence }
    change (billingDelta attempt _).paidReservedMicrocredits +
      (billingDelta attempt _).paidSettledMicrocredits ≤ _ at hbil
    omega
  | usage _ _ _ _ hatt =>
    exact .inl (hstep hatt (billing_le_overrun _ (hold hatt).exposure))
  | settle =>
    refine .inl ?_
    unfold kernelDelta
    split_ifs <;> simp [requestOverrun]
  | cancel =>
    refine .inl ?_
    have hheld : 0 ≤ heldExposure r.attempts.values := by
      refine List.sum_nonneg fun x hx => ?_
      obtain ⟨attempt, hmem, rfl⟩ := List.mem_map.mp hx
      split_ifs
      · exact (hr.attempts attempt hmem).exposure
      · exact le_rfl
    simp only [requestOverrun, Record.sum_mapValues]
    simp [exposureDelta, overrunBy, hheld]

theorem RequestChange.principalId_eq (h : RequestChange s handle r tx r' delta) :
    r'.principalId = r.principalId := by
  cases h <;> rfl

theorem RequestChange.settled_mono (h : RequestChange s handle r tx r' delta)
    (hr : r.settled = true) : r'.settled = true := by
  cases h with
  | settle => rfl
  | reserveSubscription | reservePaid | begin | reselect | confirm | release | terminal | delivery
  | usage | cancel => exact hr

end Change

/-! ### Runs -/

/-- The counts of a window and the concurrency of its principal are within the policy, and the paid
sum is within the policy and the overrun. -/
structure WithinLimits (s : AuthorityState) (principalId : String) (policy : PrincipalPolicy) :
    Prop where
  requests : ∀ reset, (windowAt s ⟨principalId, reset⟩).reserved +
    (windowAt s ⟨principalId, reset⟩).dispatched ≤ policy.requestLimit
  kernel : ∀ reset, (windowAt s ⟨principalId, reset⟩).kernelReserved +
    (windowAt s ⟨principalId, reset⟩).kernelCompleted ≤ policy.kernelLimit
  concurrency : unsettledCount s principalId ≤ policy.concurrencyLimit
  paid : ∀ reset, (windowAt s ⟨principalId, reset⟩).paidReservedMicrocredits +
      (windowAt s ⟨principalId, reset⟩).paidSettledMicrocredits
    ≤ policy.paidLimitMicrocredits + overrun s ⟨principalId, reset⟩

theorem unsettledCount_eq_sum (s : AuthorityState) (principalId : String) :
    unsettledCount s principalId = s.admissions.sum fun _ r =>
      if r.principalId = principalId ∧ r.settled = false then 1 else 0 := by
  rw [Record.sum_ite, List.map_const']
  simp [unsettledCount]

theorem unsettledCount_assign (hnew : s.admissions.lookup id = none) (principalId : String) :
    unsettledCount { s with admissions := assign s.admissions id r } principalId
      ≤ unsettledCount s principalId + if r.principalId = principalId then 1 else 0 := by
  rw [unsettledCount_eq_sum, unsettledCount_eq_sum]
  dsimp only
  unfold assign
  split_ifs with hprt hp hp
  · omega
  · omega
  · rw [Record.sum_insert_new _ hnew]
    split_ifs <;> omega
  · rw [Record.sum_insert_new _ hnew, if_neg fun h => hp h.1]

theorem unsettledCount_putRequest (hr : s.admissions.lookup handle.requestId = some r)
    (hprc : r'.principalId = r.principalId) (hset : r.settled = true → r'.settled = true)
    (principalId : String) :
    unsettledCount (putRequest s handle r') principalId ≤ unsettledCount s principalId := by
  have h := Record.sum_insert_old (fun (_ : String) (r : AdmissionRecord) =>
    if r.principalId = principalId ∧ r.settled = false then 1 else 0) hr r'
  rw [unsettledCount_eq_sum, unsettledCount_eq_sum]
  have hle : (if r'.principalId = principalId ∧ r'.settled = false then 1 else 0)
      ≤ if r.principalId = principalId ∧ r.settled = false then 1 else 0 := by
    rw [hprc]
    split_ifs with h1 h2
    · exact le_rfl
    · have hopen : r.settled ≠ false := fun hopen => h2 ⟨h1.1, hopen⟩
      exact absurd (hset (Bool.eq_true_of_not_eq_false hopen)) (by rw [h1.2]; decide)
    · exact Nat.zero_le _
    · exact le_rfl
  change (s.admissions.insert handle.requestId r').sum _ ≤ _
  omega

theorem overrun_assign (hnew : s.admissions.lookup id = none) (hr : requestOverrun r = 0)
    (key : WindowKey) :
    overrun { s with admissions := assign s.admissions id r } key = overrun s key := by
  unfold overrun
  dsimp only
  unfold assign
  split_ifs with hprt
  · rfl
  · rw [Record.sum_insert_new _ hnew, hr, ite_self, add_zero]

theorem overrun_putRequest (hr : s.admissions.lookup handle.requestId = some r)
    (hkey : r'.windowKey = r.windowKey) (key : WindowKey) : overrun (putRequest s handle r') key
      = overrun s key + if key = r.windowKey then requestOverrun r' - requestOverrun r else 0 := by
  have h := Record.sum_insert_old (w := fun (_ : String) (r : AdmissionRecord) =>
    if r.windowKey = key then requestOverrun r else 0) hr r'
  change overrun (putRequest s handle r') key + _ = overrun s key + _ at h
  rw [hkey] at h
  by_cases hk : key = r.windowKey
  · rw [if_pos hk.symm, if_pos hk.symm] at h
    rw [if_pos hk]
    omega
  · rw [if_neg (Ne.symm hk), if_neg (Ne.symm hk)] at h
    rw [if_neg hk]
    omega

section Limits

variable {active : Option ActiveAccount}

/-- An admission keeps the limits, which it has checked. -/
theorem WithinLimits.admitted (hs : WithinLimits s principalId policy)
    (hpol : s.policies.lookup principalId = some policy) {input : AdmitInput}
    {policy' : PrincipalPolicy} {window : PrincipalWindow} {account : Option AccountBinding}
    (hnew : s.admissions.lookup input.requestId = none)
    (hpol' : s.policies.lookup input.principalId = some policy') (hwin : window
      = (s.windows.lookup ⟨input.principalId, policy'.windowResetAtMs⟩).getD emptyWindow)
    (hreqs : window.reserved + window.dispatched < policy'.requestLimit)
    (hker : window.kernelReserved + window.kernelCompleted < policy'.kernelLimit)
    (hconcurrency : unsettledCount s input.principalId < policy'.concurrencyLimit) :
    WithinLimits { s with
      sequence := s.sequence + 1
      active := active
      admissions := assign s.admissions input.requestId
        (admittedRecord input policy' account { s with active := active })
      windows := s.windows.insert ⟨input.principalId, policy'.windowResetAtMs⟩ { window with
        reserved := window.reserved + 1
        kernelReserved := window.kernelReserved + 1
        active := window.active + 1 } } principalId policy := by
  -- only the window and the concurrency of the principal of the request move
  have heq : input.principalId = principalId → policy' = policy := by
    rintro rfl
    exact Option.some.inj (hpol'.symm.trans hpol)
  have hwins (reset : ℤ) := windowAt_insert s ⟨input.principalId, policy'.windowResetAtMs⟩
    { window with
      reserved := window.reserved + 1
      kernelReserved := window.kernelReserved + 1
      active := window.active + 1 } ⟨principalId, reset⟩
  have hold (reset : ℤ) (hkey : (⟨principalId, reset⟩ : WindowKey)
      = ⟨input.principalId, policy'.windowResetAtMs⟩) :
      policy' = policy ∧ window = windowAt s ⟨principalId, reset⟩ := by
    refine ⟨heq (WindowKey.mk.inj hkey).1.symm, ?_⟩
    rw [hkey, hwin]
    rfl
  refine ⟨fun reset => ?_, fun reset => ?_, ?_, fun reset => ?_⟩
  · refine (congrArg (fun w : PrincipalWindow => w.reserved + w.dispatched)
      (hwins reset)).trans_le ?_
    split_ifs with hkey
    · obtain ⟨rfl, -⟩ := hold reset hkey
      dsimp only
      omega
    · exact hs.requests reset
  · refine (congrArg (fun w : PrincipalWindow => w.kernelReserved + w.kernelCompleted)
      (hwins reset)).trans_le ?_
    split_ifs with hkey
    · obtain ⟨rfl, -⟩ := hold reset hkey
      dsimp only
      omega
    · exact hs.kernel reset
  · refine (unsettledCount_assign hnew principalId).trans ?_
    split_ifs with hp
    · change input.principalId = principalId at hp
      obtain rfl := heq hp
      rw [← hp]
      omega
    · exact hs.concurrency
  · refine (congrArg (fun w : PrincipalWindow =>
      w.paidReservedMicrocredits + w.paidSettledMicrocredits) (hwins reset)).trans_le ?_
    refine le_of_le_of_eq ?_ (congrArg (_ + ·) (overrun_assign hnew rfl ⟨principalId, reset⟩).symm)
    split_ifs with hkey
    · obtain ⟨-, rfl⟩ := hold reset hkey
      exact hs.paid reset
    · exact hs.paid reset

/-- Every other change of a request keeps the limits. -/
theorem WithinLimits.request (hs : WithinLimits s principalId policy)
    (hok : EveryRequest RequestOk s) (hpol : s.policies.lookup principalId = some policy)
    (hr : s.admissions.lookup handle.requestId = some r)
    (hreq : RequestChange s handle r tx r' delta)
    (hwin : delta = 0 ∨ (s.windows.lookup r.windowKey).isSome = true) :
    WithinLimits (putRequest { shiftWindow s r.windowKey delta with active := active } handle r')
      principalId policy := by
  have hlk : { shiftWindow s r.windowKey delta with active := active }.admissions.lookup
      handle.requestId = some r := by
    rw [← hr, shiftWindow_admissions]
  have hadms : { shiftWindow s r.windowKey delta with active := active }.admissions
      = s.admissions := shiftWindow_admissions s delta
  have hwins (reset : ℤ) := windowAt_shiftWindow hwin ⟨principalId, reset⟩
  obtain ⟨hcnts, hkernels⟩ := hreq.counts_le
  refine ⟨fun reset => ?_, fun reset => ?_, ?_, fun reset => ?_⟩
  · refine (congrArg (fun w : PrincipalWindow => w.reserved + w.dispatched)
      (hwins reset)).trans_le ?_
    have := hs.requests reset
    split_ifs with hkey
    · simp only [add_reserved, add_dispatched]
      omega
    · rwa [add_zero]
  · refine (congrArg (fun w : PrincipalWindow => w.kernelReserved + w.kernelCompleted)
      (hwins reset)).trans_le ?_
    have := hs.kernel reset
    split_ifs with hkey
    · simp only [add_kernelReserved, add_kernelCompleted]
      omega
    · rwa [add_zero]
  · refine (unsettledCount_putRequest hlk hreq.principalId_eq hreq.settled_mono
      principalId).trans (le_of_eq_of_le ?_ hs.concurrency)
    rw [unsettledCount_eq_sum, unsettledCount_eq_sum, hadms]
  · refine (congrArg (fun w : PrincipalWindow =>
      w.paidReservedMicrocredits + w.paidSettledMicrocredits) (hwins reset)).trans_le ?_
    rw [overrun_putRequest hlk hreq.windowKey_eq]
    have hoverrun : overrun { shiftWindow s r.windowKey delta with active := active }
        ⟨principalId, reset⟩ = overrun s ⟨principalId, reset⟩ := by
      unfold overrun
      rw [hadms]
    have hpaid := hs.paid reset
    have hnn := overrun_nonneg (putRequest { shiftWindow s r.windowKey delta with
      active := active } handle r') ⟨principalId, reset⟩
    rw [overrun_putRequest hlk hreq.windowKey_eq] at hnn
    rw [hoverrun] at hnn ⊢
    split_ifs at hnn ⊢ with hkey
    · simp only [add_paidReserved, add_paidSettled]
      rcases hreq.paid_le (hok _ r hr) with hle | ⟨policy', hpol', hkey', hle⟩
      · omega
      · -- a paid reservation of this window was checked against this policy
        obtain rfl : policy' = policy := by
          rw [← (WindowKey.mk.inj (hkey.trans hkey')).1] at hpol'
          exact Option.some.inj (hpol'.symm.trans hpol)
        rw [← hkey] at hle
        omega
    · rwa [add_zero, add_zero]

end Limits

/-- **A transaction keeps every policy's limits.** -/
theorem AuthorityStep.withinLimits (h : AuthorityStep s c s') (hok : EveryRequest RequestOk s)
    {principalId : String} {policy : PrincipalPolicy}
    (hpol : s.policies.lookup principalId = some policy) (hs : WithinLimits s principalId policy) :
    WithinLimits s' principalId policy := by
  obtain ⟨transaction, reply⟩ := c
  have hcs : Change s transaction s' := h.change
  cases hcs with
  | unchanged => exact hs
  | proof =>
    exact ⟨hs.requests, hs.kernel, hs.concurrency, hs.paid⟩
  | admitted input policy' window account active hnew hpol' hwin hreqs hker
      hconcurrency =>
    exact hs.admitted hpol hnew hpol' hwin hreqs hker hconcurrency
  | request _ _ _ _ _ _ hr hreq hwin =>
    exact hs.request hok hpol hr hreq hwin

theorem AuthorityStep.policies_eq (h : AuthorityStep s c s') : s'.policies = s.policies := by
  obtain ⟨transaction, reply⟩ := c
  have hcs : Change s transaction s' := h.change
  cases hcs with
  | unchanged | proof | admitted => rfl
  | request _ _ _ _ delta => exact shiftWindow_policies s delta

theorem AuthorityRun.withinLimits
    (hw : AuthorityRun (createAuthorityState scope accounts policies) w) (hs : stateOf w = some s) :
    EveryRequest RequestOk s ∧ ∀ principalId policy,
      s.policies.lookup principalId = some policy → WithinLimits s principalId policy := by
  refine AuthorityRun.invariant (P := fun s => EveryRequest RequestOk s ∧ ∀ principalId policy,
    s.policies.lookup principalId = some policy → WithinLimits s principalId policy) ?_ ?_ hw hs
  · refine ⟨fun id r h => absurd h (by simp [createAuthorityState]), fun principalId policy _ => ?_⟩
    exact ⟨fun _ => Int.natCast_nonneg _, fun _ => Int.natCast_nonneg _, Nat.zero_le _,
      fun _ => by simp [windowAt, createAuthorityState, overrun]⟩
  · rintro s c s' ⟨hok, hlimits⟩ hstep
    refine ⟨hstep.everyRequest requestOk_admittedRecord RequestOk.step hok, ?_⟩
    intro principalId policy hpol
    rw [hstep.policies_eq] at hpol
    exact hstep.withinLimits hok hpol (hlimits principalId policy hpol)

/-- **The limits hold in every state**, the paid one in a window none of whose paid attempts was
billed more than its exposure. -/
theorem limits_hold (scope : AuthorityScope) (accounts : List AccountBinding)
    (policies : List PrincipalPolicy) (sys : AuthoritySystem)
    (h : AuthorityReachable (createAuthorityState scope accounts policies) sys) (s : AuthorityState)
    (hs : stateOf sys.world = some s) (principalId : String) (policy : PrincipalPolicy)
    (hpol : s.policies.lookup principalId = some policy) :
    s.policies = (createAuthorityState scope accounts policies).policies ∧
    unsettledCount s principalId ≤ policy.concurrencyLimit ∧
    ∀ reset window, s.windows.lookup ⟨principalId, reset⟩ = some window →
      window.reserved + window.dispatched ≤ policy.requestLimit ∧
      window.kernelReserved + window.kernelCompleted ≤ policy.kernelLimit ∧
      ((∀ attempt ∈ attemptsOf s ⟨principalId, reset⟩, attempt.input.provider ≠ .codex →
          ∀ spend ∈ attempt.settledSpendMicrocredits,
            spend ≤ attempt.input.maximumExposureMicrocredits) →
        window.paidReservedMicrocredits + window.paidSettledMicrocredits
          ≤ policy.paidLimitMicrocredits) := by
  have hrun := reachable_run h
  obtain ⟨hok, hlimits⟩ := hrun.withinLimits hs
  have hwth := hlimits principalId policy hpol
  refine ⟨?_, hwth.concurrency, fun reset window hwin => ?_⟩
  · exact AuthorityRun.invariant
      (P := fun s => s.policies = (createAuthorityState scope accounts policies).policies) rfl
      (fun s c s' hP hstep => hstep.policies_eq.trans hP) hrun hs
  have hat : windowAt s ⟨principalId, reset⟩ = window := by
    rw [windowAt, hwin, Option.getD_some]
  refine ⟨hat ▸ hwth.requests reset, hat ▸ hwth.kernel reset, fun hspds => ?_⟩
  have hpaid := hwth.paid reset
  rwa [overrun_eq_zero hspds hok, add_zero, hat] at hpaid

theorem limits_hold_admitted : ∃ sys s, AuthorityReachable sampleState sys ∧
    stateOf sys.world = some s ∧ unsettledCount s "principal" = 2 ∧
    unsettledCount s "principal" ≤ samplePolicy.concurrencyLimit := by
  have hrun : RunsTo sampleState
      [.admitRequest (sampleAdmit "first"), .admitRequest (sampleAdmit "second")]
      fun _ s => s.policies.lookup "principal" = some samplePolicy ∧
        unsettledCount s "principal" = 2 := by decide
  obtain ⟨sys, s, _, hsys, hs, -, hpol, hcnt⟩ := hrun.reachable
  exact ⟨sys, s, hsys, hs, hcnt, (limits_hold sampleScope [sampleAccount] [samplePolicy] sys hsys
    s hs "principal" samplePolicy hpol).2.1⟩

end UbqGateway.Authority
