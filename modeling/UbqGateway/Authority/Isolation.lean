import UbqGateway.Authority.Limits
import UbqGateway.Authority.Replay

/-!
# Principals are kept apart and requests keep their past

A transaction acts for the principal of its request.  It leaves the policy, the windows and the
requests of every other principal as they are (`principals_isolated`), and what is known of a
request is never taken back (`history_kept`).
-/

namespace UbqGateway.Authority

/-! ### Principals -/

def Transaction.ActsFor (s : AuthorityState) (principalId : String) (tx : Transaction) : Prop :=
  (∃ input, tx = .admitRequest input ∧ input.principalId = principalId) ∨
    ∃ r, s.admissions.lookup tx.requestId = some r ∧ r.principalId = principalId

/-- The two states agree on what belongs to the principal. -/
structure SameShare (principalId : String) (s s' : AuthorityState) : Prop where
  policy : s'.policies.lookup principalId = s.policies.lookup principalId
  windows : ∀ reset,
    s'.windows.lookup ⟨principalId, reset⟩ = s.windows.lookup ⟨principalId, reset⟩
  requests : ∀ id r, r.principalId = principalId →
    (s'.admissions.lookup id = some r ↔ s.admissions.lookup id = some r)

theorem RequestChange.requestId_eq (h : RequestChange s handle r tx r' delta) :
    tx.requestId = handle.requestId := by
  cases h <;> rfl

theorem shiftWindow_lookup_of_ne (hne : other ≠ key) (s : AuthorityState) (d : PrincipalWindow) :
    (shiftWindow s key d).windows.lookup other = s.windows.lookup other := by
  unfold shiftWindow
  split
  · exact Record.lookup_insert_of_ne _ _ hne
  · rfl

/-- A change by another principal leaves the principal's share. -/
theorem Change.sameShare (h : Change s tx s')
    (hown : EveryRequest (fun r => r.windowKey.principalId = r.principalId) s)
    (hoth : ¬ tx.ActsFor s principalId) : SameShare principalId s s' := by
  cases h with
  | unchanged | proof => exact ⟨rfl, fun _ => rfl, fun _ _ _ => Iff.rfl⟩
  | admitted input _ _ _ _ hnew =>
    have hne : input.principalId ≠ principalId := fun heq => hoth (.inl ⟨input, rfl, heq⟩)
    refine ⟨rfl, fun reset => Record.lookup_insert_of_ne _ _ fun heq => ?_, fun id r hr => ?_⟩
    · exact hne (congrArg WindowKey.principalId heq).symm
    · change (assign s.admissions input.requestId _).lookup id = some r ↔ _
      rw [lookup_assign]
      split_ifs with hprt hid
      · exact Iff.rfl
      · -- what was admitted is not the principal's, and there was nothing before
        subst hid
        rw [hnew]
        refine ⟨fun h => ?_, fun h => nomatch h⟩
        cases h
        exact absurd hr hne
      · exact Iff.rfl
  | request _ r _ _ delta _ hr hreq =>
    have hne : r.principalId ≠ principalId := fun heq =>
      hoth (.inr ⟨r, hreq.requestId_eq ▸ hr, heq⟩)
    refine ⟨congrArg (·.lookup principalId) (shiftWindow_policies s delta), fun reset => ?_,
      fun id old hold => ?_⟩
    · refine shiftWindow_lookup_of_ne (fun heq => hne ?_) s delta
      rw [← hown _ r hr, ← heq]
    · rw [lookup_putRequest]
      split_ifs with hid
      · rw [hid, hr]
        constructor
        · rintro ⟨⟩
          exact absurd (hreq.principalId_eq.symm.trans hold) hne
        · rintro ⟨⟩
          exact absurd hold hne
      · dsimp only
        rw [shiftWindow_admissions]

/-- **Principals are isolated**: a commit that does not act for a principal leaves its policy, all
of its windows and all of its requests. -/
theorem principals_isolated (scope : AuthorityScope) (accounts : List AccountBinding)
    (policies : List PrincipalPolicy) (sys : AuthoritySystem)
    (h : AuthorityReachable (createAuthorityState scope accounts policies) sys)
    (s : AuthorityState) (c : Commit) (s' : AuthorityState) (hc : CommittedStep sys.world s c s')
    (principalId : String) (hoth : ¬ c.transaction.ActsFor s principalId) :
    SameShare principalId s s' := by
  obtain ⟨hstep, w, hw, hs⟩ := (reachable_run h).committedStep hc
  refine hstep.change.sameShare (AuthorityRun.requests ?_ ?_ hw hs) hoth
  · exact fun _ _ _ _ => rfl
  · intro s handle r tx r' delta _ hr hreq
    rw [hreq.windowKey_eq, hreq.principalId_eq, hr]

/-- A second principal, with the limits of the first. -/
def otherPolicy : PrincipalPolicy := { samplePolicy with principalId := "other" }

/-- The state that a service of two principals starts from. -/
def sharedState : AuthorityState :=
  createAuthorityState sampleScope [sampleAccount] [samplePolicy, otherPolicy]

theorem principals_isolated_admitted : ∃ sys s c s' r, AuthorityReachable sharedState sys ∧
    CommittedStep sys.world s c s' ∧ c.transaction = .admitRequest (sampleAdmit "first") ∧
    s.policies.lookup "other" = some otherPolicy ∧
    s.windows.lookup ⟨"other", 1000⟩ = some ⟨1, 0, 1, 0, 1, 0, 0⟩ ∧
    s.admissions.lookup "theirs" = some r ∧ r.principalId = "other" ∧
    SameShare "other" s s' := by
  have hrun : RunsTo sharedState
      [.admitRequest { sampleAdmit "theirs" with principalId := "other" },
        .admitRequest (sampleAdmit "first")]
      fun steps _ => ∃ step ∈ steps,
        step.commit.transaction = .admitRequest (sampleAdmit "first") ∧
        step.before.admissions.lookup "first" = none ∧
        step.before.policies.lookup "other" = some otherPolicy ∧
        step.before.windows.lookup ⟨"other", 1000⟩ = some ⟨1, 0, 1, 0, 1, 0, 0⟩ ∧
        ∃ r ∈ step.before.admissions.lookup "theirs", r.principalId = "other" := by
    decide
  obtain ⟨sys, -, steps, hsys, -, hstps, ⟨s, ⟨_, reply⟩, s'⟩, hmem, rfl, hno, hpol, hwin, r, hr,
    hprc⟩ := hrun.reachable
  have hc := (hstps _ _ _).mpr hmem
  refine ⟨sys, s, _, s', r, hsys, hc, rfl, hpol, hwin, hr, hprc, principals_isolated sampleScope
    [sampleAccount] [samplePolicy, otherPolicy] sys hsys s _ s' hc "other" ?_⟩
  rintro (⟨input, ⟨⟩, hoth⟩ | ⟨r', hr', -⟩)
  · exact absurd hoth (by decide)
  · exact nomatch hno.symm.trans hr'

/-! ### Requests -/

def AdmissionRecord.identity (r : AdmissionRecord) :=
  (r.handle, r.principalId, r.policyVersion, r.windowKey, r.digest, r.route, r.model)

/-- What a later version of an attempt keeps: its input, its evidence, whether it was dispatched or
released, and its bill. -/
structure AttemptKept (attempt attempt' : AttemptRecord) : Prop where
  input : attempt'.input = attempt.input
  terminal : ∀ evidence ∈ attempt.terminal, attempt'.terminal = some evidence
  dispatched : attempt.state = .dispatched → attempt'.state = .dispatched
  released : attempt.state = .notDispatched → attempt'.state = .notDispatched
  billed : attempt.billingSettled = true → attempt'.billingSettled = true ∧
    attempt'.settledSpendMicrocredits = attempt.settledSpendMicrocredits

/-- What a later version of a request keeps. -/
structure RequestKept (r r' : AdmissionRecord) : Prop where
  identity : r'.identity = r.identity
  flags : FlagProgress r r'
  semantic : ∀ outcome ∈ r.semantic, r'.semantic = some outcome
  attempts : ∀ id attempt, r.attempts.lookup id = some attempt →
    ∃ attempt', r'.attempts.lookup id = some attempt' ∧ AttemptKept attempt attempt'

theorem FlagProgress.trans (h : FlagProgress r r') (h' : FlagProgress r' r'') :
    FlagProgress r r'' where
  dispatched hr := h'.dispatched (h.dispatched hr)
  settled hr := h'.settled (h.settled hr)
  kernelSettled hr := h'.kernelSettled (h.kernelSettled hr)
  delivery outcome hr := by
    obtain ⟨hsome, heq⟩ := h.delivery outcome hr
    obtain ⟨outcome', houtc'⟩ := Option.ne_none_iff_exists'.mp hsome
    exact ⟨(h'.delivery outcome' houtc').1,
      fun hobs => (h'.delivery outcome (heq hobs)).2 hobs⟩

theorem RequestKept.change (h : RequestKept r r') (hch : RequestChange s handle r' tx r'' delta) :
    RequestKept r r'' where
  identity := by
    refine Eq.trans ?_ h.identity
    cases hch <;> rfl
  flags := h.flags.trans hch.flags
  semantic outcome hr := hch.semantic_cases.1 outcome (h.semantic outcome hr)
  attempts id attempt hatt := by
    obtain ⟨attempt', hatt', hkept⟩ := h.attempts id attempt hatt
    obtain ⟨attempt'', hatt'', hprog⟩ := hch.attempt_forth hatt'
    refine ⟨attempt'', hatt'', hprog.input.trans hkept.input, ?_, ?_, ?_, ?_⟩
    · exact fun evidence he => hprog.terminal evidence (hkept.terminal evidence he)
    · exact fun hsta => hprog.dispatched (hkept.dispatched hsta)
    · exact fun hsta => hprog.released (hkept.released hsta)
    · intro hbld
      have hkept := hkept.billed hbld
      have hprog := hprog.billed hkept.1
      exact ⟨hprog.1, hprog.2.trans hkept.2⟩

/-- **The past of a request is kept**: what a commit left of a request, every later state has, with
the same identity, the same outcomes, and the same attempts with their evidence and their bills. -/
theorem history_kept (scope : AuthorityScope) (accounts : List AccountBinding)
    (policies : List PrincipalPolicy) (sys : AuthoritySystem)
    (h : AuthorityReachable (createAuthorityState scope accounts policies) sys)
    (s₁ : AuthorityState) (c : Commit) (s₂ : AuthorityState)
    (hc : CommittedStep sys.world s₁ c s₂) (s : AuthorityState) (hs : stateOf sys.world = some s)
    (id : String) (r : AdmissionRecord) (hr : s₂.admissions.lookup id = some r) :
    ∃ r', s.admissions.lookup id = some r' ∧ RequestKept r r' := by
  refine (reachable_run h).stable
    (Q := fun s => ∃ r', s.admissions.lookup id = some r' ∧ RequestKept r r') ?_ hs hc ⟨r, hr, ?_⟩
  · rintro s c s' hstep ⟨r', hr', hkept⟩
    rcases hstep.change.request_forth hr' with hr'' | ⟨handle, r'', delta, -, hr'', hch⟩
    · exact ⟨r', hr'', hkept⟩
    · exact ⟨r'', hr'', hkept.change hch⟩
  · refine ⟨rfl, ⟨fun h => h, fun h => h, fun h => h, fun _ ho => ⟨by simp [ho], fun _ => ho⟩⟩,
      fun _ ho => ho, fun _ attempt ha => ⟨attempt, ha, rfl, fun _ he => he, fun h => h, fun h => h,
        fun hb => ⟨hb, rfl⟩⟩⟩

theorem history_kept_admitted : ∃ sys s r, AuthorityReachable sampleState sys ∧
    stateOf sys.world = some s ∧ s.admissions.lookup "first" = some r ∧ r.dispatched = true ∧
    ∃ before, RequestKept before r ∧ before.dispatched = false := by
  have hrun : RunsTo sampleState sampleDispatch fun steps s => (∃ step ∈ steps,
      ∃ r ∈ step.after.admissions.lookup "first", r.dispatched = false) ∧
        ∃ r ∈ s.admissions.lookup "first", r.dispatched = true := by decide
  obtain ⟨sys, s, steps, hsys, hs, hstps, ⟨step, hmem, before, hbef, hfls⟩, r, hr, htrue⟩ :=
    hrun.reachable
  obtain ⟨r', hr', hkept⟩ := history_kept sampleScope [sampleAccount] [samplePolicy] sys hsys _ _ _
    ((hstps _ _ _).mpr hmem) s hs "first" before hbef
  cases hr.symm.trans hr'
  exact ⟨sys, s, r, hsys, hs, hr, htrue, before, hkept, hfls⟩

end UbqGateway.Authority
