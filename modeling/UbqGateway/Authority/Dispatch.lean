import UbqGateway.Authority.Conservation

/-!
# The order of dispatches

An attempt is reserved, its dispatch is begun, and its outcome is observed.
`RequestChange.attempts_cases` says what a change can do to the attempts of a request: it reserves
one new attempt, or every attempt stays with its input and its terminal evidence, and only
`beginDispatch` moves one into `dispatch_intent`.  From it follow `provider_order_holds` and
`no_dispatch_after_outcome`, provided that an outcome is never recorded while an attempt is still
reserved: `beginDispatch` does not look at the outcome (`dispatch_after_outcome`).
-/

namespace UbqGateway.Authority

open AttemptRecord

/-! ### What a change does to the attempts -/

/-- The dispatch of the attempt has been begun. -/
def AttemptRecord.Begun (attempt : AttemptRecord) : Prop :=
  attempt.state = .dispatchIntent ∨ attempt.state = .dispatched

section Change

variable (s : AuthorityState) (handle : AdmissionHandle) (r : AdmissionRecord) (tx : Transaction)

/-- An attempt and what a change of the request makes of it. -/
structure AttemptProgress (id : String) (attempt attempt' : AttemptRecord) : Prop where
  input : attempt'.input = attempt.input
  terminal : ∀ evidence ∈ attempt.terminal, attempt'.terminal = some evidence
  outstanding : attempt'.outstanding = true → attempt.outstanding = true
  reserved : attempt'.state = .reserved → attempt.state = .reserved
  begun : attempt'.Begun → attempt.Begun ∨ ∃ nowMs, tx = .beginDispatch handle id nowMs ∧
    attempt.state = .reserved ∧ attempt'.state = .dispatchIntent ∧
    (attempt.input.account = none → PoolExhausted s r.model nowMs)
  dispatched : attempt.state = .dispatched → attempt'.state = .dispatched
  released : attempt.state = .notDispatched → attempt'.state = .notDispatched
  billed : attempt.billingSettled = true → attempt'.billingSettled = true ∧
    attempt'.settledSpendMicrocredits = attempt.settledSpendMicrocredits

/-- The attempts keep their names, and each makes a step of `AttemptProgress`. -/
structure AttemptsProgress (attempts attempts' : Record String AttemptRecord) : Prop where
  back : ∀ id attempt', attempts'.lookup id = some attempt' →
    ∃ attempt, attempts.lookup id = some attempt ∧ AttemptProgress s handle r tx id attempt attempt'
  forth : ∀ id attempt, attempts.lookup id = some attempt →
    ∃ attempt', attempts'.lookup id = some attempt' ∧
      AttemptProgress s handle r tx id attempt attempt'

/-- The attempt `input` may be reserved: the request is open, no attempt is outstanding, and the
attempt uses the captured account or is the next paid one. -/
structure MayReserve (input : AttemptInput) (nowMs : ℤ) : Prop where
  transaction : tx = .reserveAttempt handle input nowMs
  new : r.attempts.lookup input.attemptId = none
  semantic : r.semantic = none
  idle : ∀ attempt ∈ r.attempts.values, attempt.outstanding = false
  subscription : input.provider = .codex → input.account ≠ none ∧ input.account = r.account
  paid : input.provider ≠ .codex → input.account = none ∧ PoolExhausted s r.model nowMs ∧
    providerOrder input.provider (paidAttempts r) = .ok ()

variable {s handle r tx}

theorem AttemptProgress.refl (id : String) (attempt : AttemptRecord) :
    AttemptProgress s handle r tx id attempt attempt :=
  ⟨rfl, fun _ h => h, fun h => h, fun h => h, fun h => .inl h, fun h => h, fun h => h,
    fun h => ⟨h, rfl⟩⟩

theorem AttemptsProgress.refl (attempts : Record String AttemptRecord) :
    AttemptsProgress s handle r tx attempts attempts :=
  ⟨fun id attempt h => ⟨attempt, h, AttemptProgress.refl id attempt⟩,
    fun id attempt h => ⟨attempt, h, AttemptProgress.refl id attempt⟩⟩

variable {id : String}

theorem AttemptsProgress.insert (h : attempts.lookup id = some attempt)
    (hprog : AttemptProgress s handle r tx id attempt attempt') :
    AttemptsProgress s handle r tx attempts (attempts.insert id attempt') := by
  constructor
  · intro other attempt₁ h₁
    rw [Record.lookup_insert] at h₁
    split_ifs at h₁ with hoth
    · cases h₁
      subst hoth
      exact ⟨attempt, h, hprog⟩
    · exact ⟨attempt₁, h₁, AttemptProgress.refl other attempt₁⟩
  · intro other attempt₁ h₁
    by_cases hoth : other = id
    · subst hoth
      cases h.symm.trans h₁
      exact ⟨attempt', Record.lookup_insert_self .., hprog⟩
    · refine ⟨attempt₁, ?_, AttemptProgress.refl other attempt₁⟩
      rw [Record.lookup_insert_of_ne _ _ hoth, h₁]

theorem AttemptsProgress.mapValues {f : AttemptRecord → AttemptRecord}
    (h : ∀ id attempt, attempts.lookup id = some attempt →
      AttemptProgress s handle r tx id attempt (f attempt)) :
    AttemptsProgress s handle r tx attempts (attempts.mapValues f) := by
  constructor
  · intro id attempt' h'
    rw [Record.lookup_mapValues] at h'
    obtain ⟨attempt, hatt, rfl⟩ := Option.map_eq_some_iff.mp h'
    exact ⟨attempt, hatt, h id attempt hatt⟩
  · intro id attempt hatt
    exact ⟨f attempt, by rw [Record.lookup_mapValues, hatt]; rfl, h id attempt hatt⟩

theorem billed_state (attempt : AttemptRecord) (spend : Option ℤ) :
    (billed attempt spend).state = attempt.state ∧ (billed attempt spend).input = attempt.input ∧
      (billed attempt spend).terminal = attempt.terminal := by
  unfold billed
  cases spend with
  | none => exact ⟨rfl, rfl, rfl⟩
  | some amount =>
    dsimp only
    split_ifs <;> exact ⟨rfl, rfl, rfl⟩

theorem billed_of_settled (attempt : AttemptRecord) (spend : Option ℤ)
    (h : attempt.billingSettled = true) : (billed attempt spend).billingSettled = true ∧
      (billed attempt spend).settledSpendMicrocredits = attempt.settledSpendMicrocredits := by
  unfold billed
  cases spend with
  | none => exact ⟨h, rfl⟩
  | some amount =>
    dsimp only
    rw [if_pos h]
    exact ⟨h, rfl⟩

/-- **What a change can do to the attempts of a request**: reserve a new one, or let every attempt
make a step. -/
theorem RequestChange.attempts_cases (h : RequestChange s handle r tx r' delta) :
    AttemptsProgress s handle r tx r.attempts r'.attempts ∨
      ∃ input nowMs, MayReserve s handle r tx input nowMs ∧
        r' = { r with attempts := assign r.attempts input.attemptId (freshAttempt input) } := by
  cases h with
  | reserveSubscription input nowMs hopen hnew hidle hcdx _ hacn =>
    exact .inr ⟨input, nowMs, ⟨rfl, hnew, hopen.2, hidle, fun _ => hacn,
      fun hpaid => absurd hcdx hpaid⟩, rfl⟩
  | reservePaid input nowMs _ _ hopen hnew hidle hpaid hacn hpool hord =>
    exact .inr ⟨input, nowMs, ⟨rfl, hnew, hopen.2, hidle, fun hcdx => absurd hcdx hpaid,
      fun _ => ⟨hacn, hpool, hord⟩⟩, rfl⟩
  | begin _ nowMs _ hatt hsta _ hpool =>
    refine .inl (AttemptsProgress.insert hatt ⟨rfl, fun _ h => h, ?_, by simp, fun _ =>
      .inr ⟨nowMs, rfl, hsta, rfl, hpool⟩, ?_, ?_, fun h => ⟨h, rfl⟩⟩)
    · simp [outstanding, hsta]
    · simp [hsta]
    · simp [hsta]
  | reselect | delivery | settle => exact .inl (AttemptsProgress.refl _)
  | confirm _ _ hatt hsta =>
    refine .inl (AttemptsProgress.insert hatt ⟨rfl, fun _ h => h, ?_, by simp, fun _ =>
      .inl hsta, fun _ => rfl, ?_, fun h => ⟨h, rfl⟩⟩)
    · rcases hsta with hsta | hsta <;> simp [outstanding, hsta]
    · rcases hsta with hsta | hsta <;> simp [hsta]
  | release _ _ hatt hsta =>
    refine .inl (AttemptsProgress.insert hatt ⟨rfl, fun _ h => h, ?_, by simp, ?_, ?_,
      fun _ => rfl, fun h => ⟨h, rfl⟩⟩)
    · simp [outstanding]
    · simp [AttemptRecord.Begun]
    · simp [hsta]
  | terminal _ evidence _ attempt hatt hsta hterm =>
    obtain ⟨h1, h2, h3⟩ := billed_state { attempt with terminal := some evidence }
      evidence.spendMicrocredits
    refine .inl (AttemptsProgress.insert hatt
      ⟨h2, fun old hold => ?_, ?_, ?_, ?_, ?_, ?_, ?_⟩)
    · rw [h3, hterm old hold]
    · simp [outstanding, h1, h3]
    · simp [h1]
    · exact fun _ => .inl (.inr hsta)
    · simp [h1]
    · simp [h1]
    · exact billed_of_settled { attempt with terminal := some evidence } _
  | usage _ _ spend attempt hatt hsta =>
    obtain ⟨h1, h2, h3⟩ := billed_state attempt (some spend)
    refine .inl (AttemptsProgress.insert hatt
      ⟨h2, fun old hold => ?_, ?_, ?_, ?_, ?_, ?_, ?_⟩)
    · rw [h3, hold]
    · simp [outstanding, h1, h3]
    · simp [h1]
    · exact fun _ => .inl (.inr hsta)
    · simp [h1]
    · simp [h1]
    · exact billed_of_settled _ _
  | cancel hudp =>
    refine .inl ?_
    dsimp only
    refine AttemptsProgress.mapValues fun id attempt hatt => ?_
    refine ⟨rfl, fun _ h => h, ?_, by simp, ?_, ?_, fun _ => rfl, fun h => ⟨h, rfl⟩⟩
    · simp [outstanding]
    · simp [AttemptRecord.Begun]
    · exact fun h => absurd h (hudp attempt (mem_values_of_lookup hatt)).2

theorem lookup_assign (values : Record String α) (key : String) (v : α) (id : String) :
    (assign values key v).lookup id
      = if key = "__proto__" then values.lookup id
        else if id = key then some v else values.lookup id := by
  unfold assign
  split_ifs with hprt hid
  · rfl
  · rw [hid, Record.lookup_insert_self]
  · rw [Record.lookup_insert_of_ne _ _ hid]

section

variable (h : RequestChange s handle r tx r' delta)

include h

theorem RequestChange.attempt_back (hatt : r'.attempts.lookup id = some attempt') :
    (∃ attempt, r.attempts.lookup id = some attempt ∧
      AttemptProgress s handle r tx id attempt attempt') ∨
    ∃ nowMs, MayReserve s handle r tx attempt'.input nowMs ∧ id = attempt'.input.attemptId ∧
      attempt' = freshAttempt attempt'.input := by
  rcases h.attempts_cases with hprog | ⟨input, nowMs, hrsv, rfl⟩
  · exact .inl (hprog.back id attempt' hatt)
  · dsimp only at hatt
    rw [lookup_assign] at hatt
    split_ifs at hatt with hprt hid
    · exact .inl ⟨attempt', hatt, AttemptProgress.refl id attempt'⟩
    · cases hatt
      exact .inr ⟨nowMs, hrsv, hid, rfl⟩
    · exact .inl ⟨attempt', hatt, AttemptProgress.refl id attempt'⟩

theorem RequestChange.attempt_forth (hatt : r.attempts.lookup id = some attempt) :
    ∃ attempt', r'.attempts.lookup id = some attempt' ∧
      AttemptProgress s handle r tx id attempt attempt' := by
  rcases h.attempts_cases with hprog | ⟨input, nowMs, hrsv, rfl⟩
  · exact hprog.forth id attempt hatt
  · refine ⟨attempt, ?_, AttemptProgress.refl id attempt⟩
    dsimp only
    rw [lookup_assign]
    split_ifs with hprt hid
    · exact hatt
    · rw [hid, hrsv.new] at hatt
      cases hatt
    · exact hatt

theorem RequestChange.model_eq : r'.model = r.model := by
  cases h <;> rfl

end

end Change

/-! ### The order of providers -/

/-- At most one attempt satisfies `p`. -/
def AtMostOne (p : AttemptRecord → Prop) (attempts : Record String AttemptRecord) : Prop :=
  ∀ id id' attempt attempt',
    attempts.lookup id = some attempt → attempts.lookup id' = some attempt' →
    p attempt → p attempt' → id = id'

/-- The attempts of a request are in order. -/
structure ProviderOrder (r : AdmissionRecord) : Prop where
  outstanding : AtMostOne (fun attempt => attempt.outstanding = true) r.attempts
  surplus : AtMostOne (fun attempt => attempt.input.provider = .surplus) r.attempts
  openlux : AtMostOne (fun attempt => attempt.input.provider = .openlux) r.attempts
  fallback : ∀ id attempt, r.attempts.lookup id = some attempt → attempt.input.provider = .openlux →
    ∃ id' surplus, r.attempts.lookup id' = some surplus ∧ surplus.exhaustedSurplus = true

variable {id : String}

theorem mem_paidAttempts (h : r.attempts.lookup id = some attempt)
    (hpaid : attempt.input.provider ≠ .codex) : attempt ∈ paidAttempts r :=
  List.mem_filter.mpr ⟨mem_values_of_lookup h, decide_eq_true hpaid⟩

/-- At most one attempt has a property that no attempt gains later, and a new one only if no other
has it. -/
theorem AtMostOne.step {p : AttemptRecord → Prop} (hr : AtMostOne p r.attempts)
    (h : RequestChange s handle r tx r' delta)
    (hback : ∀ id attempt attempt', AttemptProgress s handle r tx id attempt attempt' →
      p attempt' → p attempt)
    (hnew : ∀ input nowMs, MayReserve s handle r tx input nowMs → p (freshAttempt input) →
      ∀ id attempt, r.attempts.lookup id = some attempt → ¬ p attempt) :
    AtMostOne p r'.attempts := by
  intro id id' attempt attempt' hid hid' hp hp'
  rcases h.attempt_back hid with ⟨old, hold, hprog⟩ | ⟨nowMs, hrsv, rfl, hfr⟩
  · have hpold := hback id old attempt hprog hp
    rcases h.attempt_back hid' with ⟨old', hold', hprog'⟩ | ⟨nowMs', hrsv', rfl, hfr'⟩
    · exact hr id id' old old' hold hold' hpold (hback id' old' attempt' hprog' hp')
    · rw [hfr'] at hp'
      exact absurd hpold (hnew _ nowMs' hrsv' hp' id old hold)
  · rw [hfr] at hp
    rcases h.attempt_back hid' with ⟨old', hold', hprog'⟩ | ⟨nowMs', hrsv', rfl, _⟩
    · exact absurd (hback id' old' attempt' hprog' hp')
        (hnew _ nowMs hrsv hp id' old' hold')
    · -- one transaction reserves one attempt
      have htx := hrsv.transaction.symm.trans hrsv'.transaction
      rw [(Transaction.reserveAttempt.inj htx).2.1]

/-- **Every change of a request keeps its attempts in order.** -/
theorem ProviderOrder.step (s : AuthorityState) (handle : AdmissionHandle) (r : AdmissionRecord)
    (tx : Transaction) (r' : AdmissionRecord) (delta : PrincipalWindow)
    (_ : tx.precheck = .ok ()) (hr : ProviderOrder r) (h : RequestChange s handle r tx r' delta) :
    ProviderOrder r' := by
  have hsurplus (input : AttemptInput) (nowMs : ℤ) (hrsv : MayReserve s handle r tx input nowMs)
      (hprv : input.provider = .surplus) : paidAttempts r = [] := by
    have hord := (hrsv.paid (by rw [hprv]; decide)).2.2
    rw [hprv] at hord
    exact require_eq_ok.mp hord
  have hopenlux (input : AttemptInput) (nowMs : ℤ) (hrsv : MayReserve s handle r tx input nowMs)
      (hprv : input.provider = .openlux) :
      ∃ attempt, paidAttempts r = [attempt] ∧ attempt.exhaustedSurplus = true := by
    have hord := (hrsv.paid (by rw [hprv]; decide)).2.2
    rw [hprv] at hord
    simp only [providerOrder] at hord
    split at hord
    · rename_i attempt hpaid
      exact ⟨attempt, hpaid, require_eq_ok.mp hord⟩
    · cases hord
  refine ⟨?_, ?_, ?_, ?_⟩
  · refine hr.outstanding.step h (fun _ _ _ hprog hp => hprog.outstanding hp) ?_
    intro input nowMs hrsv _ id attempt hatt
    rw [hrsv.idle attempt (mem_values_of_lookup hatt)]
    exact Bool.false_ne_true
  · refine hr.surplus.step h (fun _ _ _ hprog hp => hprog.input ▸ hp) ?_
    intro input nowMs hrsv hp id attempt hatt hattemptp
    have hmem := mem_paidAttempts hatt (by rw [hattemptp]; decide)
    rw [hsurplus input nowMs hrsv hp] at hmem
    cases hmem
  · refine hr.openlux.step h (fun _ _ _ hprog hp => hprog.input ▸ hp) ?_
    intro input nowMs hrsv hp id attempt hatt hattemptp
    obtain ⟨first, hpaid, hexh⟩ := hopenlux input nowMs hrsv hp
    have hmem := mem_paidAttempts hatt (by rw [hattemptp]; decide)
    rw [hpaid, List.mem_singleton] at hmem
    simp [exhaustedSurplus, ← hmem, hattemptp] at hexh
  · intro id attempt hatt hprv
    have hold : ∃ id' surplus, r.attempts.lookup id' = some surplus ∧
        surplus.exhaustedSurplus = true := by
      rcases h.attempt_back hatt with ⟨old, hold, hprog⟩ | ⟨nowMs, hrsv, -, -⟩
      · exact hr.fallback id old hold (hprog.input ▸ hprv)
      · obtain ⟨first, hpaid, hexh⟩ := hopenlux _ nowMs hrsv hprv
        have hmem : first ∈ paidAttempts r := by rw [hpaid]; exact List.mem_singleton_self first
        obtain ⟨id', hid'⟩ := (r.attempts.mem_values_iff first).mp (List.mem_of_mem_filter hmem)
        exact ⟨id', first, hid', hexh⟩
    -- the evidence of the surplus attempt stays
    obtain ⟨id', surplus, hlk, hexh⟩ := hold
    obtain ⟨surplus', hlk', hprog⟩ := h.attempt_forth hlk
    refine ⟨id', surplus', hlk', ?_⟩
    simp only [exhaustedSurplus, decide_eq_true_eq] at hexh ⊢
    refine ⟨hprog.input ▸ hexh.1, ?_⟩
    cases hterm : surplus.terminal with
    | none => simp [hterm] at hexh
    | some evidence =>
      rw [hprog.terminal evidence hterm, ← hterm]
      exact hexh.2

theorem providerOrder_admittedRecord (input : AdmitInput) (policy : PrincipalPolicy)
    (account : Option AccountBinding) (s : AuthorityState) :
    ProviderOrder (admittedRecord input policy account s) := by
  have hno (id : String) (attempt : AttemptRecord) :
      (admittedRecord input policy account s).attempts.lookup id ≠ some attempt := by
    simp [admittedRecord]
  exact ⟨fun id _ attempt _ h => absurd h (hno id attempt),
    fun id _ attempt _ h => absurd h (hno id attempt),
    fun id _ attempt _ h => absurd h (hno id attempt),
    fun id attempt h => absurd h (hno id attempt)⟩

/-! ### Paid attempts of a history -/

/-- The attempt of this name of the request `id`. -/
def attemptAt (s : AuthorityState) (id attemptId : String) : Option AttemptRecord :=
  (s.admissions.lookup id).bind fun r => r.attempts.lookup attemptId

theorem attemptAt_eq_some (hr : s.admissions.lookup id = some r)
    (h : r.attempts.lookup attemptId = some attempt) : attemptAt s id attemptId = some attempt := by
  rw [attemptAt, hr, Option.bind_some, h]

/-- A commit of the history reserved the attempt `input` of the request `id`, at a time when the
cohort of the model was exhausted. -/
def ReservedWhileExhausted (w : AuthorityWorld) (id model : String) (input : AttemptInput) : Prop :=
  ∃ s c s' handle nowMs, CommittedStep w s c s' ∧ handle.requestId = id ∧
    c.transaction = .reserveAttempt handle input nowMs ∧
    attemptAt s id input.attemptId = none ∧
    attemptAt s' id input.attemptId = some (freshAttempt input) ∧ PoolExhausted s model nowMs

/-- A commit of the history began the dispatch of the attempt, at a time when the cohort of the
model was exhausted. -/
def BegunWhileExhausted (w : AuthorityWorld) (id model attemptId : String) : Prop :=
  ∃ s c s' handle nowMs attempt attempt', CommittedStep w s c s' ∧ handle.requestId = id ∧
    c.transaction = .beginDispatch handle attemptId nowMs ∧
    attemptAt s id attemptId = some attempt ∧ attempt.state = .reserved ∧
    attemptAt s' id attemptId = some attempt' ∧ attempt'.state = .dispatchIntent ∧
    PoolExhausted s model nowMs

/-- Every paid attempt of the state was reserved, and begun if it was begun, while the cohort was
exhausted. -/
def PaidWhileExhausted (w : AuthorityWorld) (s : AuthorityState) : Prop :=
  ∀ id r attemptId attempt, s.admissions.lookup id = some r →
    r.attempts.lookup attemptId = some attempt → attempt.input.provider ≠ .codex →
    attempt.input.account = none ∧ attempt.input.attemptId = attemptId ∧
    ReservedWhileExhausted w id r.model attempt.input ∧
    (attempt.Begun → BegunWhileExhausted w id r.model attemptId)

theorem ReservedWhileExhausted.mono {input : AttemptInput}
    (h : ReservedWhileExhausted w id model input)
    (hw : ∀ s c s', CommittedStep w s c s' → CommittedStep w' s c s') :
    ReservedWhileExhausted w' id model input := by
  obtain ⟨s, c, s', handle, nowMs, hstep, hrest⟩ := h
  exact ⟨s, c, s', handle, nowMs, hw s c s' hstep, hrest⟩

theorem BegunWhileExhausted.mono (h : BegunWhileExhausted w id model attemptId)
    (hw : ∀ s c s', CommittedStep w s c s' → CommittedStep w' s c s') :
    BegunWhileExhausted w' id model attemptId := by
  obtain ⟨s, c, s', handle, nowMs, attempt, attempt', hstep, hrest⟩ := h
  exact ⟨s, c, s', handle, nowMs, attempt, attempt', hw s c s' hstep, hrest⟩

/-- A commit keeps that surplus is dispatched only on exhaustion. -/
theorem PaidWhileExhausted.step (hs : stateOf w = some s) (hP : PaidWhileExhausted w s)
    (hstep : AuthorityStep s c s') : PaidWhileExhausted (w.commit c [.set () s']) s' := by
  have hmono : ∀ s₁ d s₂, CommittedStep w s₁ d s₂ →
      CommittedStep (w.commit c [.set () s']) s₁ d s₂ :=
    fun s₁ d s₂ h => (committedStep_commit_iff hs).mpr (.inr h)
  have hnow : CommittedStep (w.commit c [.set () s']) s c s' :=
    (committedStep_commit_iff hs).mpr (.inl ⟨rfl, rfl, rfl⟩)
  intro id r' attemptId attempt' hr' hatt' hpaid
  rcases hstep.change.request_back hr' with hr | ⟨_, _, _, _, -, rfl⟩ |
    ⟨handle, r, delta, rfl, hr, hreq⟩
  · obtain ⟨hacn, hname, hres, hbegun⟩ := hP id r' attemptId attempt' hr hatt' hpaid
    exact ⟨hacn, hname, hres.mono hmono, fun h => (hbegun h).mono hmono⟩
  · exact absurd hatt' (by simp [admittedRecord])
  · rw [hreq.model_eq]
    rcases hreq.attempt_back hatt' with ⟨attempt, hatt, hprog⟩ |
      ⟨nowMs, hrsv, rfl, hfr⟩
    · -- the attempt was there: at most its dispatch was begun by this commit
      rw [hprog.input] at hpaid ⊢
      obtain ⟨hacn, hname, hres, hbegun⟩ := hP _ r attemptId attempt hr hatt hpaid
      refine ⟨hacn, hname, hres.mono hmono, fun h => ?_⟩
      rcases hprog.begun h with hold | ⟨nowMs, htx, hsta, hsta', hpool⟩
      · exact (hbegun hold).mono hmono
      · exact ⟨s, c, s', handle, nowMs, attempt, attempt', hnow, rfl, htx,
          attemptAt_eq_some hr hatt, hsta, attemptAt_eq_some hr' hatt', hsta',
          hpool hacn⟩
    · -- the attempt is the one this commit reserved
      obtain ⟨hacn, hpool, -⟩ := hrsv.paid hpaid
      refine ⟨hacn, rfl,
        ⟨s, c, s', handle, nowMs, hnow, rfl, hrsv.transaction, ?_, ?_, hpool⟩, fun h => ?_⟩
      · rw [attemptAt, hr, Option.bind_some, hrsv.new]
      · rw [attemptAt_eq_some hr' hatt', ← hfr]
      · rw [hfr] at h
        rcases h with h | h <;> cases h

theorem AuthorityRun.paidWhileExhausted
    (hw : AuthorityRun (createAuthorityState scope accounts policies) w) (hs : stateOf w = some s) :
    PaidWhileExhausted w s := by
  obtain ⟨s₁, hs₁, h⟩ := AuthorityRun.induction (P := PaidWhileExhausted)
    (fun t id r attemptId attempt h => absurd h (by simp [createAuthorityState]))
    (fun w s _ h => h) (fun w s c s' hs h hstep => h.step hs hstep) hw
  cases hs.symm.trans hs₁
  exact h

theorem RequestChange.account_eq (h : RequestChange s handle r tx r' delta)
    (hpaid : paidAttempts r ≠ []) :
    r'.account = r.account ∧ r'.activeGeneration = r.activeGeneration := by
  cases h with
  | reselect _ _ _ _ hno => exact absurd hno hpaid
  | reserveSubscription | reservePaid | begin | confirm | release | terminal | delivery | usage
  | settle | cancel => exact ⟨rfl, rfl⟩

theorem reselectSubscription_paid (h : reselectSubscription handle nowMs s = .ok result) :
    ∃ r, s.admissions.lookup handle.requestId = some r ∧ paidAttempts r = [] := by
  simp only [reselectSubscription, bind_eq_ok, require_eq_ok] at h
  obtain ⟨r, hfind, -, -, -, hpaid, -⟩ := h
  exact ⟨r, (findRequest_eq_ok hfind).1, hpaid⟩

/-- After a paid attempt a commit neither reselects the account of the request nor reserves a
subscription attempt on another account than the captured one. -/
def NoReselection (s : AuthorityState) (c : Commit) (s' : AuthorityState) : Prop :=
  ∀ id r, s.admissions.lookup id = some r → paidAttempts r ≠ [] →
    (∀ handle nowMs, handle.requestId = id → c.transaction ≠ .reselectSubscription handle nowMs) ∧
    ∃ r', s'.admissions.lookup id = some r' ∧ r'.account = r.account ∧
      r'.activeGeneration = r.activeGeneration ∧
      ∀ attemptId attempt, r.attempts.lookup attemptId = none →
        r'.attempts.lookup attemptId = some attempt → attempt.input.provider = .codex →
        attempt.input.account = r.account

theorem AuthorityStep.noReselection (h : AuthorityStep s c s') : NoReselection s c s' := by
  intro id r hr hpaid
  constructor
  · rintro handle nowMs rfl htx
    have hactn := h.action
    rw [htx] at hactn
    simp only [Transaction.action, bind_eq_ok] at hactn
    obtain ⟨result, hreselect, -⟩ := hactn
    obtain ⟨r₁, hr₁, hno⟩ := reselectSubscription_paid hreselect
    cases hr.symm.trans hr₁
    exact hpaid hno
  · rcases h.change.request_forth hr with hr' | ⟨handle, r', delta, rfl, hr', hreq⟩
    · refine ⟨r, hr', rfl, rfl, fun attemptId attempt hno hsome => ?_⟩
      rw [hno] at hsome
      cases hsome
    · obtain ⟨hacn, hgen⟩ := hreq.account_eq hpaid
      refine ⟨r', hr', hacn, hgen, fun attemptId attempt hno hsome hcdx => ?_⟩
      rcases hreq.attempt_back hsome with ⟨old, hold, -⟩ | ⟨nowMs, hrsv, -, -⟩
      · rw [hno] at hold
        cases hold
      · exact (hrsv.subscription hcdx).2

/-- **The order of providers**: in every state the attempts of every admission are in order, every
paid attempt was reserved and begun while the cohort was exhausted, and no commit of the history
reselected a subscription after a paid attempt. -/
theorem provider_order_holds (scope : AuthorityScope) (accounts : List AccountBinding)
    (policies : List PrincipalPolicy) (sys : AuthoritySystem)
    (h : AuthorityReachable (createAuthorityState scope accounts policies) sys) (s : AuthorityState)
    (hs : stateOf sys.world = some s) :
    (∀ id r, s.admissions.lookup id = some r → ProviderOrder r) ∧
    PaidWhileExhausted sys.world s ∧
    ∀ s₁ c s₂, CommittedStep sys.world s₁ c s₂ → NoReselection s₁ c s₂ := by
  have hrun := reachable_run h
  refine ⟨?_, hrun.paidWhileExhausted hs, fun s₁ c s₂ hstep => ?_⟩
  · exact AuthorityRun.requests providerOrder_admittedRecord ProviderOrder.step hrun hs
  · exact (hrun.committedStep hstep).1.noReselection

/-! ### No dispatch after the outcome -/

/-- The attempt moves into `dispatch_intent`. -/
def StartsDispatch (s s' : AuthorityState) (id attemptId : String) : Prop :=
  (attemptAt s' id attemptId).map state = some .dispatchIntent ∧
    (attemptAt s id attemptId).map state ≠ some .dispatchIntent

/-- Once the outcome of a request is recorded, it stays and no attempt of the request moves into
`dispatch_intent`. -/
def NoLateDispatch (w : AuthorityWorld) : Prop :=
  ∀ s c s', CommittedStep w s c s' → ∀ id r outcome, s.admissions.lookup id = some r →
    r.semantic = some outcome →
    (∃ r', s'.admissions.lookup id = some r' ∧ r'.semantic = some outcome) ∧
    ∀ attemptId, ¬ StartsDispatch s s' id attemptId

/-- The transaction does not record the outcome of a request while an attempt of it is reserved. -/
def Transaction.ClosesIdle (s : AuthorityState) : Transaction → Prop
  | .observeTerminal handle _ _ true => ∀ r, s.admissions.lookup handle.requestId = some r →
      r.semantic = none → ∀ attempt ∈ r.attempts.values, attempt.state ≠ .reserved
  | _ => True

/-- A request with an outcome has no reserved attempt. -/
def ClosedIdle (r : AdmissionRecord) : Prop :=
  r.semantic ≠ none → ∀ attempt ∈ r.attempts.values, attempt.state ≠ .reserved

/-- An outcome is recorded by the final terminal evidence, or by a cancellation that releases every
attempt. -/
theorem RequestChange.semantic_cases (h : RequestChange s handle r tx r' delta) :
    (∀ outcome ∈ r.semantic, r'.semantic = some outcome) ∧
    (r'.semantic = r.semantic ∨
      (∃ attemptId evidence, tx = .observeTerminal handle attemptId evidence true) ∨
      ∀ attempt ∈ r'.attempts.values, attempt.state = .notDispatched) := by
  cases h with
  | terminal attemptId evidence finalAttempt _ _ _ _ hsem =>
    cases finalAttempt with
    | true =>
      refine ⟨fun outcome ho => ?_, .inr (.inl ⟨attemptId, evidence, rfl⟩)⟩
      simp only [if_true]
      rw [hsem rfl outcome ho]
    | false => exact ⟨fun outcome ho => ho, .inl rfl⟩
  | cancel =>
    refine ⟨fun outcome ho => ?_, .inr (.inr fun attempt hmem => ?_)⟩
    · dsimp only
      rw [Option.mem_def.mp ho, Option.some_or]
    · rw [Record.values_mapValues] at hmem
      obtain ⟨old, -, rfl⟩ := List.mem_map.mp hmem
      rfl
  | reserveSubscription | reservePaid | begin | reselect | confirm | release | delivery | usage
  | settle => exact ⟨fun outcome ho => ho, .inl rfl⟩

theorem ClosedIdle.step (hr : ClosedIdle r)
    (hlk : s.admissions.lookup handle.requestId = some r) (hidle : tx.ClosesIdle s)
    (h : RequestChange s handle r tx r' delta) : ClosedIdle r' := by
  intro hsem attempt' hmem hsta
  obtain ⟨id, hid⟩ := (r'.attempts.mem_values_iff attempt').mp hmem
  obtain ⟨-, hcs⟩ := h.semantic_cases
  rcases h.attempt_back hid with ⟨attempt, hatt, hprog⟩ | ⟨nowMs, hrsv, -, -⟩
  · have hres := hprog.reserved hsta
    have hold := mem_values_of_lookup hatt
    rcases hcs with heq | ⟨attemptId, evidence, rfl⟩ | hrld
    · exact hr (heq ▸ hsem) attempt hold hres
    · by_cases hno : r.semantic = none
      · exact hidle r hlk hno attempt hold hres
      · exact hr hno attempt hold hres
    · exact absurd (hsta.symm.trans (hrld attempt' hmem)) (by decide)
  · -- a new attempt is reserved without an outcome, and the reservation records none
    rcases hcs with heq | ⟨attemptId, evidence, htx⟩ | hrld
    · exact hsem (heq.trans hrsv.semantic)
    · exact absurd (htx.symm.trans hrsv.transaction) (by simp)
    · exact absurd (hsta.symm.trans (hrld attempt' hmem)) (by decide)

theorem AuthorityStep.starts_reserved (h : AuthorityStep s c s')
    (hr : s.admissions.lookup id = some r) (hstr : StartsDispatch s s' id attemptId) :
    ∃ attempt, r.attempts.lookup attemptId = some attempt ∧ attempt.state = .reserved := by
  obtain ⟨haft, hbef⟩ := hstr
  rcases h.change.request_forth hr with hr' | ⟨handle, r', delta, rfl, hr', hreq⟩
  · refine absurd ?_ hbef
    rw [attemptAt, hr'] at haft
    rwa [attemptAt, hr]
  · rw [attemptAt, hr', Option.bind_some] at haft
    obtain ⟨attempt', hatt', hsta'⟩ := Option.map_eq_some_iff.mp haft
    rcases hreq.attempt_back hatt' with ⟨attempt, hatt, hprog⟩ | ⟨nowMs, -, -, hfr⟩
    · rcases hprog.begun (.inl hsta') with hold | ⟨nowMs, -, hsta, -⟩
      · refine absurd ?_ hbef
        rcases hold with hint | hdisp
        · rw [attemptAt_eq_some hr hatt, Option.map_some, hint]
        · exact absurd (hsta'.symm.trans (hprog.dispatched hdisp)) (by decide)
      · exact ⟨attempt, hatt, hsta⟩
    · rw [hfr] at hsta'
      cases hsta'

/-- **No dispatch begins after the outcome** in a history that never records an outcome while an
attempt of the request is reserved. -/
theorem no_dispatch_after_outcome (scope : AuthorityScope) (accounts : List AccountBinding)
    (policies : List PrincipalPolicy) (sys : AuthoritySystem)
    (h : AuthorityReachable (createAuthorityState scope accounts policies) sys)
    (hidle : ∀ s c s', CommittedStep sys.world s c s' → c.transaction.ClosesIdle s) :
    NoLateDispatch sys.world := by
  obtain ⟨_, -, hlate⟩ := AuthorityRun.induction (P := fun w s =>
      (∀ s c s', CommittedStep w s c s' → c.transaction.ClosesIdle s) →
        EveryRequest ClosedIdle s ∧ NoLateDispatch w)
    (fun t _ => ⟨fun id r hr => absurd hr (by simp [createAuthorityState]),
      fun s c s' hstep => absurd hstep (not_committedStep_start _ s s' t c)⟩)
    (fun w s _ h => h)
    (fun w s c s' hs ih hstep hidle => by
      obtain ⟨hcl, hlate⟩ := ih fun s₁ d s₂ h₁ =>
        hidle s₁ d s₂ ((committedStep_commit_iff hs).mpr (.inr h₁))
      have hnow := hidle s c s' ((committedStep_commit_iff hs).mpr (.inl ⟨rfl, rfl, rfl⟩))
      refine ⟨fun id r' hr' => ?_, fun s₁ d s₂ h₁ id r outcome hr hsem => ?_⟩
      · rcases hstep.change.request_back hr' with hr | ⟨_, _, _, _, -, rfl⟩ |
          ⟨handle, r, delta, rfl, hr, hreq⟩
        · exact hcl id r' hr
        · exact fun hsem => absurd rfl hsem
        · exact (hcl _ r hr).step hr hnow hreq
      · rcases (committedStep_commit_iff hs).mp h₁ with ⟨rfl, rfl, rfl⟩ | h₁
        · refine ⟨?_, fun attemptId hstr => ?_⟩
          · rcases hstep.change.request_forth hr with hr' | ⟨handle, r', delta, rfl, hr', hreq⟩
            · exact ⟨r, hr', hsem⟩
            · exact ⟨r', hr', hreq.semantic_cases.1 outcome hsem⟩
          · obtain ⟨attempt, hatt, hsta⟩ := hstep.starts_reserved hr hstr
            exact hcl id r hr (by rw [hsem]; simp) attempt (mem_values_of_lookup hatt)
              hsta
        · exact hlate s₁ d s₂ h₁ id r outcome hr hsem)
    (reachable_run h)
  exact (hlate hidle).2

/-! ### Runs of the sample service -/

/-- The handle of the first request of the sample service. -/
def sampleHandle : AdmissionHandle := ⟨sampleScope, "first", 1⟩

/-- A subscription attempt of the sample service. -/
def sampleAttempt (attemptId : String) : AttemptInput where
  attemptId := attemptId
  provider := .codex
  maximumExposureMicrocredits := 0
  account := some sampleAccount

def sampleEvidence : TerminalEvidence := ⟨.failed, none, none, none⟩

/-- The first request with an attempt that is dispatched. -/
def sampleDispatch : List Transaction :=
  [.admitRequest (sampleAdmit "first"), .reserveAttempt sampleHandle (sampleAttempt "one") 20,
    .beginDispatch sampleHandle "one" 30, .confirmDispatched sampleHandle "one"]

def samplePaid (attemptId : String) (provider : DispatchProvider) : AttemptInput where
  attemptId := attemptId
  provider := provider
  maximumExposureMicrocredits := 10
  account := none

def sampleProof : AccountProof := ⟨.quotaExhausted, "model", "fingerprint", 35, 500⟩

/-- The first request after the account is exhausted, with a surplus attempt that is dispatched. -/
def samplePaidDispatch : List Transaction :=
  sampleDispatch ++ [.observeProof sampleHandle "one" sampleProof,
    .observeTerminal sampleHandle "one" sampleEvidence false,
    .reserveAttempt sampleHandle (samplePaid "two" .surplus) 40,
    .beginDispatch sampleHandle "two" 50, .confirmDispatched sampleHandle "two"]

theorem provider_order_holds_surplus : ∃ sys s r, AuthorityReachable sampleState sys ∧
    stateOf sys.world = some s ∧ s.admissions.lookup "first" = some r ∧ paidAttempts r ≠ [] ∧
    ProviderOrder r ∧ BegunWhileExhausted sys.world "first" r.model "two" := by
  have hrun : RunsTo sampleState samplePaidDispatch fun _ s => ∃ r ∈ s.admissions.lookup "first",
      paidAttempts r ≠ [] ∧ ∃ attempt ∈ r.attempts.lookup "two",
        attempt.input.provider ≠ .codex ∧ attempt.state = .dispatched := by decide
  obtain ⟨sys, s, _, hsys, hs, -, r, hr, hpaid, attempt, hatt, hprv, hsta⟩ :=
    hrun.reachable
  obtain ⟨hord, hexh, -⟩ := provider_order_holds sampleScope [sampleAccount] [samplePolicy]
    sys hsys s hs
  have hbegun := (hexh "first" r "two" attempt hr hatt hprv).2.2.2
  exact ⟨sys, s, r, hsys, hs, hr, hpaid, hord "first" r hr, hbegun (.inr hsta)⟩

instance (s : AuthorityState) : DecidablePred (Transaction.ClosesIdle s)
  | .observeTerminal handle _ _ true =>
    decidable_of_iff (∀ r ∈ s.admissions.lookup handle.requestId, r.semantic = none →
      ∀ attempt ∈ r.attempts.values, attempt.state ≠ .reserved) Iff.rfl
  | .observeTerminal _ _ _ false => .isTrue trivial
  | .admitRequest .. | .reserveAttempt .. | .beginDispatch .. | .selection ..
  | .reselectSubscription .. | .confirmDispatched .. | .releaseBeforeDispatch ..
  | .observeProof .. | .observeDelivery .. | .observeUsage .. | .resetEligible .. | .settle ..
  | .cancelUndispatched .. => .isTrue trivial

theorem no_dispatch_after_outcome_final : ∃ sys s, AuthorityReachable sampleState sys ∧
    stateOf sys.world = some s ∧
    (s.admissions.lookup "first").bind AdmissionRecord.semantic = some .failed ∧
    NoLateDispatch sys.world := by
  have hrun : RunsTo sampleState
      (sampleDispatch ++ [.observeTerminal sampleHandle "one" sampleEvidence true])
      fun steps s => (s.admissions.lookup "first").bind AdmissionRecord.semantic = some .failed ∧
        ∀ step ∈ steps, step.commit.transaction.ClosesIdle step.before := by decide
  obtain ⟨sys, s, steps, hsys, hs, hstps, hsem, hidle⟩ := hrun.reachable
  refine ⟨sys, s, hsys, hs, hsem, ?_⟩
  refine no_dispatch_after_outcome sampleScope [sampleAccount] [samplePolicy] sys hsys
    fun s₁ c s₂ h => ?_
  exact hidle _ ((hstps s₁ c s₂).mp h)

/-- A replay of the evidence of the first attempt, now as final, records the outcome while a second
attempt is reserved; the second attempt is dispatched all the same. -/
theorem dispatch_after_outcome : ¬ ∀ (scope : AuthorityScope) (accounts : List AccountBinding)
    (policies : List PrincipalPolicy) (sys : AuthoritySystem),
    AuthorityReachable (createAuthorityState scope accounts policies) sys →
    NoLateDispatch sys.world := by
  intro h
  have hrun : RunsTo sampleState
      (sampleDispatch ++ [.observeTerminal sampleHandle "one" sampleEvidence false,
        .reserveAttempt sampleHandle (sampleAttempt "two") 40,
        .observeTerminal sampleHandle "one" sampleEvidence true,
        .beginDispatch sampleHandle "two" 50])
      fun steps _ => ∃ step ∈ steps,
        (step.before.admissions.lookup "first").bind AdmissionRecord.semantic = some .failed ∧
        (attemptAt step.before "first" "two").map state ≠ some .dispatchIntent ∧
        (attemptAt step.after "first" "two").map state = some .dispatchIntent := by
    decide
  obtain ⟨sys, s, steps, hsys, -, hstps, ⟨s₁, c, s₂⟩, hmem, hsem, hbef, haft⟩ :=
    hrun.reachable
  obtain ⟨r, hr, houtc⟩ := Option.bind_eq_some_iff.mp hsem
  have hlate := h sampleScope [sampleAccount] [samplePolicy] sys hsys s₁ c s₂
    ((hstps s₁ c s₂).mpr hmem) "first" r .failed hr houtc
  exact hlate.2 "two" ⟨haft, hbef⟩

end UbqGateway.Authority
