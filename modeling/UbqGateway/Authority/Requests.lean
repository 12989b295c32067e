import UbqGateway.Authority.Service

/-!
# What holds of every admission

`AuthorityRun.requests` is the induction rule for facts about single admissions: what holds of a
freshly admitted request and is kept by every `RequestChange` holds of every admission of every
committed state.  `RequestOk` collects the facts the counters rest on: an attempt is dispatched only
in a dispatched request, billed only once it is dispatched, resolved in a settled request, and the
kernel charge is settled only when the outcome is known.
-/

namespace UbqGateway.Authority

/-- Every admission of the state satisfies `P`. -/
def EveryRequest (P : AdmissionRecord → Prop) (s : AuthorityState) : Prop :=
  ∀ id r, s.admissions.lookup id = some r → P r

/-! ### What a transaction does to one admission -/

theorem lookup_putRequest (s : AuthorityState) (handle : AdmissionHandle) (r : AdmissionRecord)
    (id : String) : (putRequest s handle r).admissions.lookup id
      = if id = handle.requestId then some r else s.admissions.lookup id :=
  Record.lookup_insert s.admissions handle.requestId r id

variable {id : String}

/-- An admission of the state after a transaction was there before, or was just admitted, or is the
one request that the transaction changed. -/
theorem Change.request_back (h : Change s tx s') (hr' : s'.admissions.lookup id = some r') :
    s.admissions.lookup id = some r' ∨
    (∃ input policy account s₁, s.admissions.lookup id = none ∧
      r' = admittedRecord input policy account s₁) ∨
    ∃ handle r delta, handle.requestId = id ∧ s.admissions.lookup id = some r ∧
      RequestChange s handle r tx r' delta := by
  cases h with
  | unchanged | proof => exact .inl hr'
  | admitted input _ _ _ _ hnew =>
    change (assign s.admissions input.requestId _).lookup id = some r' at hr'
    unfold assign at hr'
    split_ifs at hr' with hprt
    · -- nothing was stored
      exact .inl hr'
    · rw [Record.lookup_insert] at hr'
      split_ifs at hr' with hid
      · cases hr'
        exact .inr (.inl ⟨_, _, _, _, hid ▸ hnew, rfl⟩)
      · exact .inl hr'
  | request handle r _ _ delta _ hr hreq =>
    rw [lookup_putRequest] at hr'
    split_ifs at hr' with hid
    · cases hr'
      exact .inr (.inr ⟨handle, r, delta, hid.symm, hid ▸ hr, hreq⟩)
    · dsimp only at hr'
      rw [shiftWindow_admissions] at hr'
      exact .inl hr'

/-- A request is kept or changed in one of the permitted ways. -/
theorem Change.request_forth (h : Change s tx s') (hr : s.admissions.lookup id = some r) :
    s'.admissions.lookup id = some r ∨
    ∃ handle r' delta, handle.requestId = id ∧ s'.admissions.lookup id = some r' ∧
      RequestChange s handle r tx r' delta := by
  cases h with
  | unchanged | proof => exact .inl hr
  | admitted input _ _ _ _ hnew =>
    refine .inl ?_
    change (assign s.admissions input.requestId _).lookup id = some r
    unfold assign
    split_ifs with hprt
    · exact hr
    · rw [Record.lookup_insert, if_neg, hr]
      rintro rfl
      rw [hnew] at hr
      cases hr
  | request handle _ _ r' delta _ hr₁ hreq =>
    by_cases hid : id = handle.requestId
    · cases hr.symm.trans (hid ▸ hr₁)
      refine .inr ⟨handle, r', delta, hid.symm, ?_, hreq⟩
      rw [lookup_putRequest, if_pos hid]
    · refine .inl ?_
      rw [lookup_putRequest, if_neg hid]
      dsimp only
      rw [shiftWindow_admissions, hr]

section Rule

variable {P : AdmissionRecord → Prop}
  (hadm : ∀ input policy account s, P (admittedRecord input policy account s))
  (hch : ∀ s handle r tx r' delta, tx.precheck = .ok () → P r →
    RequestChange s handle r tx r' delta → P r')

include hadm hch

theorem AuthorityStep.everyRequest (hs : EveryRequest P s) (h : AuthorityStep s c s') :
    EveryRequest P s' := by
  intro id r' hr'
  rcases h.change.request_back hr' with hr | ⟨input, policy, account, s₁, -, rfl⟩ |
    ⟨handle, r, delta, -, hr, hreq⟩
  · exact hs id r' hr
  · exact hadm input policy account s₁
  · exact hch s handle r _ r' delta h.precheck (hs id r hr) hreq

/-- **Invariants of single admissions.** -/
theorem AuthorityRun.requests (hw : AuthorityRun (createAuthorityState scope accounts policies) w)
    (hs : stateOf w = some s) : EveryRequest P s := by
  refine AuthorityRun.invariant (P := EveryRequest P) ?_ ?_ hw hs
  · intro id r h
    exact absurd h (by simp [createAuthorityState])
  · exact fun s c s' hP h => h.everyRequest hadm hch hP

end Rule

/-! ### The attempts of a request -/

/-- What holds of an attempt of a request with these flags. -/
structure AttemptOk (dispatched settled : Bool) (attempt : AttemptRecord) : Prop where
  dispatched : attempt.state = .dispatched → dispatched = true
  billed : attempt.billingSettled = true → attempt.state = .dispatched
  resolved : settled = true → attempt.unresolved = false
  exposure : 0 ≤ attempt.input.maximumExposureMicrocredits
  spend : ∀ spend ∈ attempt.settledSpendMicrocredits, 0 ≤ spend

/-- What holds of every recorded request. -/
structure RequestOk (r : AdmissionRecord) : Prop where
  attempts : ∀ attempt ∈ r.attempts.values, AttemptOk r.dispatched r.settled attempt
  kernel : r.kernelSettled = true → r.semantic ≠ none

variable {dispatched settled : Bool}

theorem AttemptOk.unbilled (h : AttemptOk dispatched settled attempt)
    (hsta : attempt.state ≠ .dispatched) : attempt.billingSettled = false :=
  Bool.eq_false_iff.mpr fun hbld => hsta (h.billed hbld)

theorem mem_values_of_lookup {r : Record String α} (h : r.lookup k = some v) : v ∈ r.values :=
  (r.mem_values_iff v).mpr ⟨k, h⟩

theorem precheck_spend_nonneg {attemptId : String}
    (h : (Transaction.observeTerminal handle attemptId evidence finalAttempt).precheck = .ok ()) :
    ∀ spend ∈ evidence.spendMicrocredits, 0 ≤ spend := by
  intro spend hsp
  rw [Option.mem_def] at hsp
  simp only [Transaction.precheck, hsp, assertAmount_eq_ok] at h
  exact h.2

theorem AttemptOk.billed_ok {spend : Option ℤ} (h : AttemptOk dispatched settled attempt)
    (hsta : attempt.state = .dispatched) (hsp : ∀ x ∈ spend, 0 ≤ x) :
    AttemptOk dispatched settled (Authority.billed attempt spend) := by
  unfold Authority.billed
  cases spend with
  | none => exact h
  | some amount =>
    dsimp only
    split_ifs with hbld
    · exact h
    · refine ⟨h.dispatched, fun _ => hsta, h.resolved, h.exposure, ?_⟩
      intro x hx
      cases hx
      exact hsp _ rfl

/-- **The step**: every change keeps the record of a request well formed. -/
theorem RequestOk.step (s : AuthorityState) (handle : AdmissionHandle) (r : AdmissionRecord)
    (tx : Transaction) (r' : AdmissionRecord) (delta : PrincipalWindow)
    (hpre : tx.precheck = .ok ()) (hr : RequestOk r) (h : RequestChange s handle r tx r' delta) :
    RequestOk r' := by
  have hold {id : String} {attempt : AttemptRecord} (ha : r.attempts.lookup id = some attempt) :=
    hr.attempts attempt (mem_values_of_lookup ha)
  cases h with
  | reserveSubscription input nowMs hopen | reservePaid input nowMs policy window hopen =>
    refine ⟨fun attempt hmem => ?_, hr.kernel⟩
    rcases mem_values_assign hmem with rfl | hmem
    · -- a fresh attempt; its exposure passed `assertAmount`
      refine ⟨by simp [freshAttempt], by simp [freshAttempt], fun hset => ?_, ?_,
        by simp [freshAttempt]⟩
      · exact absurd (hset.symm.trans hopen.1) Bool.noConfusion
      · simp only [Transaction.precheck, assertAmount_eq_ok] at hpre
        exact hpre.2
    · exact hr.attempts attempt hmem
  | begin _ _ _ hatt hsta hopen =>
    refine ⟨fun other hmem => ?_, hr.kernel⟩
    rcases Record.mem_values_insert hmem with rfl | hmem
    · refine ⟨by simp, fun hbld => ?_, fun hset => ?_, (hold hatt).exposure,
        (hold hatt).spend⟩
      · exact absurd (((hold hatt).billed hbld).symm.trans hsta) (by simp)
      · exact absurd (hset.symm.trans hopen) Bool.noConfusion
    · exact hr.attempts other hmem
  | reselect | delivery => exact ⟨hr.attempts, hr.kernel⟩
  | confirm _ attempt hatt hsta =>
    refine ⟨fun other hmem => ?_, hr.kernel⟩
    rcases Record.mem_values_insert hmem with rfl | hmem
    · refine ⟨fun _ => rfl, fun _ => rfl, fun hset => ?_, (hold hatt).exposure,
        (hold hatt).spend⟩
      -- in a settled request the attempt was dispatched before
      have hrsv := (hold hatt).resolved hset
      rcases hsta with hsta | hsta <;> simp_all [AttemptRecord.unresolved]
    · have hoth := hr.attempts other hmem
      exact ⟨fun _ => rfl, hoth.billed, hoth.resolved, hoth.exposure, hoth.spend⟩
  | release _ _ hatt hsta =>
    refine ⟨fun other hmem => ?_, hr.kernel⟩
    rcases Record.mem_values_insert hmem with rfl | hmem
    · refine ⟨by simp, fun hbld => ?_, fun _ => by simp [AttemptRecord.unresolved],
        (hold hatt).exposure, (hold hatt).spend⟩
      exact absurd (((hold hatt).billed hbld).symm.trans hsta) (by simp)
    · exact hr.attempts other hmem
  | terminal _ _ _ _ hatt hsta =>
    refine ⟨fun other hmem => ?_, fun hker => ?_⟩
    · rcases Record.mem_values_insert hmem with rfl | hmem
      · have hatt := hold hatt
        refine AttemptOk.billed_ok ⟨hatt.dispatched, hatt.billed, fun _ => ?_,
          hatt.exposure, hatt.spend⟩ hsta (precheck_spend_nonneg hpre)
        simp [AttemptRecord.unresolved, hsta]
      · exact hr.attempts other hmem
    · rcases Bool.or_eq_true_iff.mp hker with hker | rfl
      · dsimp only
        split_ifs
        · simp
        · exact hr.kernel hker
      · simp
  | usage _ _ _ _ hatt hsta =>
    refine ⟨fun other hmem => ?_, hr.kernel⟩
    rcases Record.mem_values_insert hmem with rfl | hmem
    · refine (hold hatt).billed_ok hsta ?_
      simp only [Transaction.precheck, assertAmount_eq_ok] at hpre
      intro x hx
      cases hx
      exact hpre.2
    · exact hr.attempts other hmem
  | settle _ hsem _ hrsv =>
    refine ⟨fun attempt hmem => ?_, fun _ => hsem⟩
    have hatt := hr.attempts attempt hmem
    exact ⟨hatt.dispatched, hatt.billed, fun _ => hrsv attempt hmem,
      hatt.exposure, hatt.spend⟩
  | cancel hudp =>
    refine ⟨fun attempt hmem => ?_, fun hker => ?_⟩
    · rw [Record.values_mapValues] at hmem
      obtain ⟨old, hold, rfl⟩ := List.mem_map.mp hmem
      have hatt := hr.attempts old hold
      refine ⟨by simp, fun hbld => ?_, fun _ => by simp [AttemptRecord.unresolved],
        hatt.exposure, hatt.spend⟩
      exact absurd (hatt.billed hbld) (hudp old hold).2
    · have hsem := hr.kernel hker
      cases hs : r.semantic with
      | none => exact absurd hs hsem
      | some outcome => simp

theorem requestOk_admittedRecord (input : AdmitInput) (policy : PrincipalPolicy)
    (account : Option AccountBinding) (s : AuthorityState) :
    RequestOk (admittedRecord input policy account s) := by
  refine ⟨fun attempt hmem => ?_, by simp [admittedRecord]⟩
  exact absurd hmem (by simp [admittedRecord, Record.values, Record.empty])

theorem AuthorityRun.requestOk (hw : AuthorityRun (createAuthorityState scope accounts policies) w)
    (hs : stateOf w = some s) : EveryRequest RequestOk s :=
  AuthorityRun.requests requestOk_admittedRecord RequestOk.step hw hs

end UbqGateway.Authority
