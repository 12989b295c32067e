import UbqGateway.Authority.Dispatch

/-!
# Replays

A caller that loses an acknowledgement sends its operation again.  What an operation recorded is
kept by everything that comes after it (`Recorded`, `AuthorityStep.recorded`), and an operation that
finds its own record throws or leaves the state as it is (`action_of_recorded`), so a replay is
harmless however late it comes (`replay_unchanged`).

Two replies record nothing, and their operations are not idempotent: a settlement that is still
pending, and a release of an attempt that does not exist yet.
-/

namespace UbqGateway.Authority

/-! ### What an operation records -/

def Transaction.requestId : Transaction → String
  | .admitRequest input => input.requestId
  | .reserveAttempt handle _ _ | .beginDispatch handle _ _ | .selection handle
  | .reselectSubscription handle _ | .confirmDispatched handle _ | .releaseBeforeDispatch handle _
  | .observeProof handle _ _ | .observeTerminal handle _ _ _ | .observeDelivery handle _
  | .observeUsage handle _ _ _ | .resetEligible handle _ | .settle handle
  | .cancelUndispatched handle => handle.requestId

def Transaction.Durable : Transaction → Prop
  | .admitRequest _ | .reserveAttempt .. | .confirmDispatched .. | .releaseBeforeDispatch ..
  | .observeTerminal .. | .observeUsage .. | .observeDelivery .. | .settle _
  | .cancelUndispatched _ => True
  | .beginDispatch .. | .selection _ | .reselectSubscription .. | .observeProof ..
  | .resetEligible .. => False

/-- What a committed durable operation leaves in its request. -/
def Transaction.RecordedIn (r : AdmissionRecord) : Transaction → Prop
  | .admitRequest _ => True
  | .reserveAttempt _ input _ => r.attempts.lookup input.attemptId ≠ none
  | .confirmDispatched _ attemptId => r.dispatched = true ∧
      ∃ attempt, r.attempts.lookup attemptId = some attempt ∧ attempt.state = .dispatched
  | .releaseBeforeDispatch _ attemptId =>
      ∃ attempt, r.attempts.lookup attemptId = some attempt ∧ attempt.state = .notDispatched
  | .observeTerminal _ attemptId evidence finalAttempt =>
      (∃ attempt, r.attempts.lookup attemptId = some attempt ∧ attempt.terminal = some evidence ∧
        (evidence.spendMicrocredits ≠ none → attempt.billingSettled = true)) ∧
      (finalAttempt = true → r.semantic = some evidence.outcome ∧ r.kernelSettled = true)
  | .observeUsage _ attemptId _ _ =>
      ∃ attempt, r.attempts.lookup attemptId = some attempt ∧ attempt.billingSettled = true
  | .observeDelivery _ outcome =>
      r.delivery ≠ none ∧ (outcome ≠ .unobserved → r.delivery = some outcome)
  | .settle _ => r.settled = true
  | .cancelUndispatched _ => r.semantic ≠ none ∧ r.delivery ≠ none ∧
      ∀ id attempt, r.attempts.lookup id = some attempt → attempt.state = .notDispatched
  | .beginDispatch .. | .selection _ | .reselectSubscription .. | .observeProof ..
  | .resetEligible .. => False

/-- The record of a durable operation in a state. -/
def Transaction.Recorded (tx : Transaction) (s : AuthorityState) : Prop :=
  ∃ r, s.admissions.lookup tx.requestId = some r ∧ tx.RecordedIn r

/-! ### Records are kept -/

/-- The flags of a request and what a change makes of them. -/
structure FlagProgress (r r' : AdmissionRecord) : Prop where
  dispatched : r.dispatched = true → r'.dispatched = true
  settled : r.settled = true → r'.settled = true
  kernelSettled : r.kernelSettled = true → r'.kernelSettled = true
  delivery : ∀ outcome, r.delivery = some outcome →
    r'.delivery ≠ none ∧ (outcome ≠ .unobserved → r'.delivery = some outcome)

variable {tx : Transaction} {s : AuthorityState}

theorem RequestChange.flags (h : RequestChange s handle r tx r' delta) : FlagProgress r r' := by
  cases h with
  | confirm =>
    exact ⟨fun _ => rfl, fun h => h, fun h => h, fun outcome h => ⟨by simp [h], fun _ => h⟩⟩
  | terminal =>
    exact ⟨fun h => h, fun h => h, fun h => by simp [h], fun outcome h => ⟨by simp [h], fun _ => h⟩⟩
  | delivery outcome hdlv =>
    refine ⟨fun h => h, fun h => h, fun h => h, fun old hold => ⟨by simp, fun hobs => ?_⟩⟩
    -- an outcome that was observed is not replaced
    rcases hdlv with hno | hunobserved | heq
    · exact absurd (hno.symm.trans hold) (by simp)
    · exact absurd (Option.some.inj (hold.symm.trans hunobserved)) hobs
    · exact heq.symm.trans hold
  | settle =>
    exact ⟨fun h => h, fun _ => rfl, fun _ => rfl, fun outcome h => ⟨by simp [h], fun _ => h⟩⟩
  | cancel =>
    exact ⟨fun h => h, fun h => h, fun h => h, fun outcome h => ⟨by simp [h], fun _ => by simp [h]⟩⟩
  | reserveSubscription | reservePaid | begin | reselect | release | usage =>
    exact ⟨fun h => h, fun h => h, fun h => h, fun outcome h => ⟨by simp [h], fun _ => h⟩⟩

variable {past : Transaction}

/-- **A change of a request keeps what was recorded in it.** -/
theorem RequestChange.recordedIn (h : RequestChange s handle r tx r' delta)
    (hpast : past.RecordedIn r) : past.RecordedIn r' := by
  have hflg := h.flags
  cases past with
  | admitRequest => trivial
  | reserveAttempt =>
    obtain ⟨attempt, hatt⟩ := Option.ne_none_iff_exists'.mp hpast
    obtain ⟨attempt', hatt', -⟩ := h.attempt_forth hatt
    exact Option.ne_none_iff_exists'.mpr ⟨attempt', hatt'⟩
  | confirmDispatched =>
    obtain ⟨hdisp, attempt, hatt, hsta⟩ := hpast
    obtain ⟨attempt', hatt', hprog⟩ := h.attempt_forth hatt
    exact ⟨hflg.dispatched hdisp, attempt', hatt', hprog.dispatched hsta⟩
  | releaseBeforeDispatch =>
    obtain ⟨attempt, hatt, hsta⟩ := hpast
    obtain ⟨attempt', hatt', hprog⟩ := h.attempt_forth hatt
    exact ⟨attempt', hatt', hprog.released hsta⟩
  | observeTerminal _ _ evidence =>
    obtain ⟨⟨attempt, hatt, hterm, hbld⟩, hfin⟩ := hpast
    obtain ⟨attempt', hatt', hprog⟩ := h.attempt_forth hatt
    refine ⟨⟨attempt', hatt', hprog.terminal evidence hterm, fun hsp => ?_⟩,
      fun h₁ => ?_⟩
    · exact (hprog.billed (hbld hsp)).1
    · obtain ⟨hsem, hker⟩ := hfin h₁
      exact ⟨h.semantic_cases.1 evidence.outcome hsem, hflg.kernelSettled hker⟩
  | observeUsage =>
    obtain ⟨attempt, hatt, hbld⟩ := hpast
    obtain ⟨attempt', hatt', hprog⟩ := h.attempt_forth hatt
    exact ⟨attempt', hatt', (hprog.billed hbld).1⟩
  | observeDelivery _ outcome =>
    obtain ⟨hsome, houtc⟩ := hpast
    obtain ⟨old, hold⟩ := Option.ne_none_iff_exists'.mp hsome
    refine ⟨(hflg.delivery old hold).1, fun hobs => ?_⟩
    exact (hflg.delivery outcome (houtc hobs)).2 hobs
  | settle => exact hflg.settled hpast
  | cancelUndispatched =>
    obtain ⟨hsem, hdlv, hatts⟩ := hpast
    obtain ⟨outcome, houtc⟩ := Option.ne_none_iff_exists'.mp hsem
    obtain ⟨old, hold⟩ := Option.ne_none_iff_exists'.mp hdlv
    refine ⟨?_, (hflg.delivery old hold).1, fun id attempt' hatt' => ?_⟩
    · rw [h.semantic_cases.1 outcome houtc]
      simp
    · -- a request with an outcome gets no new attempt
      rcases h.attempt_back hatt' with ⟨attempt, hatt, hprog⟩ | ⟨nowMs, hrsv, -⟩
      · exact hprog.released (hatts id attempt hatt)
      · exact absurd hrsv.semantic hsem
  | beginDispatch | selection | reselectSubscription | observeProof | resetEligible =>
    exact hpast.elim

variable {s' : AuthorityState}

/-- **A transaction keeps every record.** -/
theorem AuthorityStep.recorded (h : AuthorityStep s c s') (hpast : past.Recorded s) :
    past.Recorded s' := by
  obtain ⟨r, hr, hrec⟩ := hpast
  rcases h.change.request_forth hr with hr' | ⟨handle, r', delta, -, hr', hreq⟩
  · exact ⟨r, hr', hrec⟩
  · exact ⟨r', hr', hreq.recordedIn hrec⟩

/-! ### What a commit records -/

section Commit

theorem lookup_putRequest_self (s : AuthorityState) (handle : AdmissionHandle)
    (r : AdmissionRecord) :
    (putRequest s handle r).admissions.lookup handle.requestId = some r := by
  rw [lookup_putRequest, if_pos rfl]

theorem admitRequest_recorded (hname : input.requestId ≠ "__proto__")
    (h : admitRequest input s = .ok (reply, s')) :
    (Transaction.admitRequest input).Recorded s' := by
  unfold admitRequest at h
  split at h
  · rename_i previous hprev
    simp only [bind_eq_ok, require_eq_ok, pure_eq_ok, Prod.mk.injEq] at h
    obtain ⟨-, -, -, rfl⟩ := h
    exact ⟨previous, hprev, trivial⟩
  · simp only [bind_eq_ok, pure_eq_ok, Prod.mk.injEq] at h
    obtain ⟨policy, -, -, -, -, -, -, -, -, -, -, -, -, -, -, -, ⟨account, s₁⟩, -, -, rfl⟩ := h
    refine ⟨admittedRecord input policy account s₁, ?_, trivial⟩
    simp only [Transaction.requestId, assign, if_neg hname]
    exact Record.lookup_insert_self _ _ _

theorem reserveAttempt_recorded (hname : input.attemptId ≠ "__proto__")
    (h : reserveAttempt handle input nowMs s = .ok s') :
    (Transaction.reserveAttempt handle input nowMs).Recorded s' := by
  simp only [reserveAttempt, bind_eq_ok] at h
  obtain ⟨r, hfind, -, -, h⟩ := h
  split at h
  · rename_i existing hexi
    simp only [bind_eq_ok, pure_eq_ok] at h
    obtain ⟨-, -, rfl⟩ := h
    exact ⟨r, (findRequest_eq_ok hfind).1, by simp [Transaction.RecordedIn, hexi]⟩
  · simp only [bind_eq_ok] at h
    obtain ⟨-, -, policy, -, h⟩ := h
    have hst (s₁ : AuthorityState) : (Transaction.reserveAttempt handle input nowMs).Recorded
        (putRequest s₁ handle { r with
          attempts := assign r.attempts input.attemptId (freshAttempt input) }) := by
      refine ⟨_, lookup_putRequest_self _ _ _, ?_⟩
      simp [Transaction.RecordedIn, assign, hname]
    split_ifs at h with hcdx
    · simp only [bind_eq_ok, pure_eq_ok] at h
      obtain ⟨-, -, _, rfl, rfl⟩ := h
      exact hst _
    · simp only [bind_eq_ok, pure_eq_ok] at h
      obtain ⟨s₁, -, rfl⟩ := h
      exact hst _

theorem confirmDispatched_recorded (h : confirmDispatched handle attemptId s = .ok s') :
    (Transaction.confirmDispatched handle attemptId).Recorded s' := by
  simp only [confirmDispatched, bind_eq_ok, demand_eq_ok] at h
  obtain ⟨r, _, attempt, _, -, -, h⟩ := h
  split_ifs at h with hdisp
  · obtain rfl := pure_eq_ok.mp h
    exact ⟨_, lookup_putRequest_self _ _ _, hdisp, _, Record.lookup_insert_self _ _ _, rfl⟩
  · simp only [bind_eq_ok, pure_eq_ok] at h
    obtain ⟨s₁, -, rfl⟩ := h
    exact ⟨_, lookup_putRequest_self _ _ _, rfl, _, Record.lookup_insert_self _ _ _, rfl⟩

theorem releaseBeforeDispatch_recorded (hatt : attemptAt s handle.requestId attemptId ≠ none)
    (h : releaseBeforeDispatch handle attemptId s = .ok s') :
    (Transaction.releaseBeforeDispatch handle attemptId).Recorded s' := by
  simp only [releaseBeforeDispatch, bind_eq_ok] at h
  obtain ⟨r, hfind, h⟩ := h
  have hr := (findRequest_eq_ok hfind).1
  split at h
  · -- a release without an attempt leaves no record
    rename_i hno
    rw [attemptAt, hr, Option.bind_some] at hatt
    exact absurd hno hatt
  · rename_i attempt hsome
    split_ifs at h with hrld
    · obtain rfl := pure_eq_ok.mp h
      exact ⟨r, hr, attempt, hsome, hrld⟩
    · simp only [bind_eq_ok, pure_eq_ok] at h
      obtain ⟨-, -, s₁, -, rfl⟩ := h
      exact ⟨_, lookup_putRequest_self _ _ _, _, Record.lookup_insert_self _ _ _, rfl⟩

theorem billed_settled (attempt : AttemptRecord) (h : spend ≠ none) :
    (billed attempt spend).billingSettled = true := by
  obtain ⟨amount, rfl⟩ := Option.ne_none_iff_exists'.mp h
  unfold billed
  dsimp only
  split_ifs with hbld
  · exact hbld
  · rfl

theorem observeTerminal_recorded
    (h : observeTerminal handle attemptId evidence finalAttempt s = .ok s') :
    (Transaction.observeTerminal handle attemptId evidence finalAttempt).Recorded s' := by
  simp only [observeTerminal, bind_eq_ok, demand_eq_ok] at h
  obtain ⟨r, _, attempt, _, -, -, -, -, -, -, h⟩ := h
  have hrec (r₁ : AdmissionRecord) (s₁ : AuthorityState)
      (hfin : finalAttempt = true →
        r₁.semantic = some evidence.outcome ∧ r₁.kernelSettled = true) :
      (Transaction.observeTerminal handle attemptId evidence finalAttempt).Recorded
        (putRequest s₁ handle { r₁ with
          attempts := r₁.attempts.insert attemptId
            (billed { attempt with terminal := some evidence } evidence.spendMicrocredits) }) :=
    ⟨_, lookup_putRequest_self _ _ _, ⟨_, Record.lookup_insert_self _ _ _, (billed_state _ _).2.2,
      fun hsp => billed_settled _ hsp⟩, hfin⟩
  split_ifs at h with hfin
  · simp only [bind_eq_ok, pure_eq_ok] at h
    obtain ⟨⟨r₁, s₁⟩, hker, ⟨attempt₁, s₂⟩, hbil, rfl⟩ := h
    obtain ⟨rfl, -, -⟩ := settleKernel_eq_ok hker
    obtain ⟨rfl, -, -⟩ := settleBilling_eq_ok hbil
    exact hrec { r with semantic := some evidence.outcome, kernelSettled := true } _
      fun _ => ⟨rfl, rfl⟩
  · simp only [bind_eq_ok, pure_eq_ok] at h
    obtain ⟨_, rfl, ⟨attempt₁, s₂⟩, hbil, rfl⟩ := h
    obtain ⟨rfl, -, -⟩ := settleBilling_eq_ok hbil
    exact hrec r _ fun h => absurd h hfin

theorem observeDelivery_recorded (h : observeDelivery handle outcome s = .ok s') :
    (Transaction.observeDelivery handle outcome).Recorded s' := by
  simp only [observeDelivery, bind_eq_ok] at h
  obtain ⟨r, hfind, -, -, h⟩ := h
  split_ifs at h with hwrs
  · obtain rfl := pure_eq_ok.mp h
    exact ⟨_, lookup_putRequest_self _ _ _, by simp, fun _ => rfl⟩
  · obtain rfl := pure_eq_ok.mp h
    obtain ⟨hunobserved, hsome⟩ := not_or.mp hwrs
    exact ⟨r, (findRequest_eq_ok hfind).1, hsome, fun hobs => absurd hobs hunobserved⟩

theorem observeUsage_recorded {spend : ℤ}
    (h : observeUsage handle attemptId providerRequestId spend s = .ok s') :
    (Transaction.observeUsage handle attemptId providerRequestId spend).Recorded s' := by
  simp only [observeUsage, bind_eq_ok, demand_eq_ok] at h
  obtain ⟨r, hfind, attempt, hatt, -, -, h⟩ := h
  split_ifs at h with hbld
  · simp only [bind_eq_ok, pure_eq_ok] at h
    obtain ⟨-, -, rfl⟩ := h
    exact ⟨r, (findRequest_eq_ok hfind).1, attempt, hatt, hbld⟩
  · simp only [bind_eq_ok, pure_eq_ok] at h
    obtain ⟨s₁, -, rfl⟩ := h
    exact ⟨_, lookup_putRequest_self _ _ _, _, Record.lookup_insert_self _ _ _, rfl⟩

theorem settle_recorded (h : settle handle s = .ok (.settled, s')) :
    (Transaction.settle handle).Recorded s' := by
  simp only [settle, bind_eq_ok] at h
  obtain ⟨r, hfind, h⟩ := h
  by_cases hset : r.settled = true
  · rw [if_pos hset] at h
    cases pure_eq_ok.mp h
    exact ⟨r, (findRequest_eq_ok hfind).1, hset⟩
  rw [if_neg hset] at h
  -- the other early returns do not reply that the request is settled
  by_cases hpend : r.semantic = none ∨ r.delivery = none
  · rw [if_pos hpend] at h
    cases (Prod.mk.inj (pure_eq_ok.mp h)).1
  rw [if_neg hpend] at h
  by_cases hunr : r.attempts.values.any AttemptRecord.unresolved = true
  · rw [if_pos hunr] at h
    cases (Prod.mk.inj (pure_eq_ok.mp h)).1
  rw [if_neg hunr] at h
  simp only [bind_eq_ok, pure_eq_ok, Prod.mk.injEq] at h
  obtain ⟨s₁, -, ⟨r₁, s₂⟩, -, -, rfl⟩ := h
  exact ⟨_, lookup_putRequest_self _ _ _, rfl⟩

theorem cancelUndispatched_recorded (h : cancelUndispatched handle s = .ok s') :
    (Transaction.cancelUndispatched handle).Recorded s' := by
  simp only [cancelUndispatched, bind_eq_ok, pure_eq_ok] at h
  obtain ⟨r, _, -, -, s₁, -, rfl⟩ := h
  refine ⟨_, lookup_putRequest_self _ _ _, ?_, ?_, fun id attempt hatt => ?_⟩
  · cases r.semantic <;> simp
  · cases r.delivery <;> simp
  · dsimp only at hatt
    rw [Record.lookup_mapValues] at hatt
    obtain ⟨old, -, rfl⟩ := Option.map_eq_some_iff.mp hatt
    rfl

/-- The commit leaves a record: a request or an attempt that was stored, a release that found its
attempt, a settlement that is not pending. -/
def Replayable (s : AuthorityState) (c : Commit) : Prop :=
  match c.transaction with
  | .admitRequest input => input.requestId ≠ "__proto__"
  | .reserveAttempt _ input _ => input.attemptId ≠ "__proto__"
  | .releaseBeforeDispatch handle attemptId => attemptAt s handle.requestId attemptId ≠ none
  | .settle _ => c.reply = .settlement .settled
  | .confirmDispatched .. | .observeTerminal .. | .observeUsage .. | .observeDelivery ..
  | .cancelUndispatched _ => True
  | .beginDispatch .. | .selection _ | .reselectSubscription .. | .observeProof ..
  | .resetEligible .. => False

/-- What a transaction did is on record. -/
theorem AuthorityStep.recorded_self (h : AuthorityStep s c s') (hreplayable : Replayable s c) :
    c.transaction.Recorded s' := by
  obtain ⟨tx, reply⟩ := c
  have hactn : tx.action s = .ok (reply, s') := h.action
  cases tx with
  | admitRequest =>
    obtain ⟨_, hdone, -⟩ := replying_eq_ok hactn
    exact admitRequest_recorded hreplayable hdone
  | reserveAttempt =>
    exact reserveAttempt_recorded hreplayable (silent_eq_ok hactn)
  | confirmDispatched => exact confirmDispatched_recorded (silent_eq_ok hactn)
  | releaseBeforeDispatch =>
    exact releaseBeforeDispatch_recorded hreplayable (silent_eq_ok hactn)
  | observeTerminal =>
    exact observeTerminal_recorded (silent_eq_ok hactn)
  | observeDelivery => exact observeDelivery_recorded (silent_eq_ok hactn)
  | observeUsage =>
    exact observeUsage_recorded (silent_eq_ok hactn)
  | settle =>
    obtain ⟨settlement, hdone, rfl⟩ := replying_eq_ok hactn
    obtain rfl : settlement = .settled := Reply.settlement.inj hreplayable
    exact settle_recorded hdone
  | cancelUndispatched => exact cancelUndispatched_recorded (silent_eq_ok hactn)
  | beginDispatch | selection | reselectSubscription | observeProof | resetEligible =>
    exact hreplayable.elim

end Commit

/-! ### A replay finds its record -/

section Replay

theorem putRequest_self (h : s.admissions.lookup handle.requestId = some r) :
    putRequest s handle r = s := by
  unfold putRequest
  rw [Record.insert_lookup_self h]

theorem findRequest_recorded (hid : tx.requestId = handle.requestId) (hrec : tx.Recorded s)
    (hfind : findRequest s handle = .ok r) :
    s.admissions.lookup handle.requestId = some r ∧ tx.RecordedIn r := by
  obtain ⟨r₁, hr₁, hrec⟩ := hrec
  have hr := (findRequest_eq_ok hfind).1
  rw [hid] at hr₁
  cases hr.symm.trans hr₁
  exact ⟨hr, hrec⟩

theorem admitRequest_replay (hid : input'.requestId = input.requestId)
    (hrec : (Transaction.admitRequest input).Recorded s)
    (h : admitRequest input' s = .ok (reply, s')) : s' = s := by
  obtain ⟨r, hr, -⟩ := hrec
  change s.admissions.lookup input.requestId = some r at hr
  unfold admitRequest at h
  rw [hid, hr] at h
  simp only [bind_eq_ok, require_eq_ok, pure_eq_ok, Prod.mk.injEq] at h
  obtain ⟨-, -, -, rfl⟩ := h
  rfl

theorem reserveAttempt_replay
    (hrec : (Transaction.reserveAttempt handle input nowMs).Recorded s)
    (h : reserveAttempt handle input nowMs' s = .ok s') : s' = s := by
  simp only [reserveAttempt, bind_eq_ok] at h
  obtain ⟨r, hfind, -, -, h⟩ := h
  obtain ⟨-, hin⟩ := findRequest_recorded rfl hrec hfind
  split at h
  · simp only [bind_eq_ok, pure_eq_ok] at h
    obtain ⟨-, -, rfl⟩ := h
    rfl
  · rename_i hno
    exact absurd hno hin

theorem confirmDispatched_replay
    (hrec : (Transaction.confirmDispatched handle attemptId).Recorded s)
    (h : confirmDispatched handle attemptId s = .ok s') : s' = s := by
  simp only [confirmDispatched, bind_eq_ok, demand_eq_ok] at h
  obtain ⟨r, hfind, attempt, hatt, -, -, h⟩ := h
  obtain ⟨hr, hdisp, attempt₁, hatt₁, hsta⟩ := findRequest_recorded rfl hrec hfind
  cases hatt.symm.trans hatt₁
  rw [if_pos hdisp] at h
  obtain rfl := pure_eq_ok.mp h
  -- the attempt and the request are written again as they are
  have heq : { attempt with state := .dispatched } = attempt := by rw [← hsta]
  rw [heq, Record.insert_lookup_self hatt, putRequest_self hr]

theorem releaseBeforeDispatch_replay
    (hrec : (Transaction.releaseBeforeDispatch handle attemptId).Recorded s)
    (h : releaseBeforeDispatch handle attemptId s = .ok s') : s' = s := by
  simp only [releaseBeforeDispatch, bind_eq_ok] at h
  obtain ⟨r, hfind, h⟩ := h
  obtain ⟨-, attempt, hatt, hsta⟩ := findRequest_recorded rfl hrec hfind
  simp only [hatt, if_pos hsta] at h
  exact (pure_eq_ok.mp h).symm

theorem settleKernel_settled (hset : r.kernelSettled = true)
    (h : settleKernel r s = .ok (r', s')) : r' = r ∧ s' = s := by
  unfold settleKernel at h
  rw [if_pos hset] at h
  cases h
  exact ⟨rfl, rfl⟩

theorem settleBilling_settled (hset : spend ≠ none → attempt.billingSettled = true)
    (h : settleBilling key attempt spend s = .ok (attempt', s')) : attempt' = attempt ∧ s' = s := by
  unfold settleBilling at h
  cases spend with
  | none =>
    cases h
    exact ⟨rfl, rfl⟩
  | some amount =>
    dsimp only at h
    rw [if_pos (hset (by simp))] at h
    cases h
    exact ⟨rfl, rfl⟩

theorem observeTerminal_replay
    (hrec : (Transaction.observeTerminal handle attemptId evidence finalAttempt).Recorded s)
    (h : observeTerminal handle attemptId evidence finalAttempt s = .ok s') : s' = s := by
  simp only [observeTerminal, bind_eq_ok, demand_eq_ok] at h
  obtain ⟨r, hfind, attempt, hatt, -, -, -, -, -, -, h⟩ := h
  obtain ⟨hr, ⟨attempt₁, hatt₁, hterm, hbld⟩, hfin⟩ :=
    findRequest_recorded rfl hrec hfind
  cases hatt.symm.trans hatt₁
  -- both settlements find their flag set
  have heq : { attempt with terminal := some evidence } = attempt := by rw [← hterm]
  rw [heq] at h
  split_ifs at h with hlast
  · obtain ⟨hsem, hker⟩ := hfin hlast
    have heq : { r with semantic := some evidence.outcome } = r := by rw [← hsem]
    rw [heq] at h
    simp only [bind_eq_ok, pure_eq_ok] at h
    obtain ⟨⟨r₁, s₁⟩, hker₁, ⟨attempt₁, s₂⟩, hbil, rfl⟩ := h
    obtain ⟨rfl, rfl⟩ := settleKernel_settled hker hker₁
    obtain ⟨rfl, rfl⟩ := settleBilling_settled hbld hbil
    rw [Record.insert_lookup_self hatt]
    exact putRequest_self hr
  · simp only [bind_eq_ok, pure_eq_ok] at h
    obtain ⟨_, rfl, ⟨attempt₁, s₂⟩, hbil, rfl⟩ := h
    obtain ⟨rfl, rfl⟩ := settleBilling_settled hbld hbil
    rw [Record.insert_lookup_self hatt]
    exact putRequest_self hr

theorem observeDelivery_replay (hrec : (Transaction.observeDelivery handle outcome).Recorded s)
    (h : observeDelivery handle outcome s = .ok s') : s' = s := by
  simp only [observeDelivery, bind_eq_ok] at h
  obtain ⟨r, hfind, -, -, h⟩ := h
  obtain ⟨hr, hsome, houtc⟩ := findRequest_recorded rfl hrec hfind
  split_ifs at h with hwrs
  · obtain rfl := pure_eq_ok.mp h
    rcases hwrs with hobs | hno
    · have heq : { r with delivery := some outcome } = r := by rw [← houtc hobs]
      rw [heq]
      exact putRequest_self hr
    · exact absurd hno hsome
  · exact (pure_eq_ok.mp h).symm

theorem observeUsage_replay
    (hrec : (Transaction.observeUsage handle attemptId providerRequestId spend).Recorded s)
    (h : observeUsage handle attemptId providerRequestId spend s = .ok s') : s' = s := by
  simp only [observeUsage, bind_eq_ok, demand_eq_ok] at h
  obtain ⟨r, hfind, attempt, hatt, -, -, h⟩ := h
  obtain ⟨-, attempt₁, hatt₁, hbld⟩ := findRequest_recorded rfl hrec hfind
  cases hatt.symm.trans hatt₁
  rw [if_pos hbld] at h
  simp only [bind_eq_ok, pure_eq_ok] at h
  obtain ⟨-, -, rfl⟩ := h
  rfl

theorem settle_replay (hrec : (Transaction.settle handle).Recorded s)
    (h : settle handle s = .ok (reply, s')) : s' = s := by
  simp only [settle, bind_eq_ok] at h
  obtain ⟨r, hfind, h⟩ := h
  obtain ⟨-, hset⟩ := findRequest_recorded rfl hrec hfind
  change r.settled = true at hset
  rw [if_pos hset] at h
  exact (Prod.mk.inj (pure_eq_ok.mp h)).2.symm

theorem releaseReserved_released {attempts : List AttemptRecord}
    (hrld : ∀ attempt ∈ attempts, attempt.state = .notDispatched) :
    releaseReserved key attempts s = .ok s := by
  induction attempts with
  | nil => rfl
  | cons attempt _ ih =>
    have hsta := hrld attempt List.mem_cons_self
    rw [releaseReserved, if_neg (by rw [hsta]; decide)]
    exact ih fun other hmem => hrld other (List.mem_cons_of_mem _ hmem)

theorem cancelUndispatched_replay (hrec : (Transaction.cancelUndispatched handle).Recorded s)
    (h : cancelUndispatched handle s = .ok s') : s' = s := by
  simp only [cancelUndispatched, bind_eq_ok, pure_eq_ok] at h
  obtain ⟨r, hfind, -, -, s₁, hrelease, rfl⟩ := h
  obtain ⟨hr, hsem, hdlv, hatts⟩ := findRequest_recorded rfl hrec hfind
  have hvals : ∀ attempt ∈ r.attempts.values, attempt.state = .notDispatched := by
    intro attempt hmem
    obtain ⟨id, hid⟩ := (r.attempts.mem_values_iff attempt).mp hmem
    exact hatts id attempt hid
  rw [releaseReserved_released hvals] at hrelease
  cases hrelease
  have heq : r.attempts.mapValues (fun attempt => { attempt with state := .notDispatched })
      = r.attempts := by
    refine Record.mapValues_eq_self fun id attempt hatt => ?_
    rw [← hatts id attempt hatt]
  obtain ⟨outcome, houtc⟩ := Option.ne_none_iff_exists'.mp hsem
  obtain ⟨delivery, hd⟩ := Option.ne_none_iff_exists'.mp hdlv
  rw [heq, houtc, hd, Option.some_or, Option.some_or, ← houtc, ← hd]
  exact putRequest_self hr

/-- The second transaction sends the operation of the first once more, possibly at another time. -/
inductive Replays : Transaction → Transaction → Prop
  | same (tx : Transaction) : Replays tx tx
  | admitRequest (input : AdmitInput) (nowMs : ℤ) :
      Replays (.admitRequest input) (.admitRequest { input with nowMs := nowMs })
  | reserveAttempt (handle : AdmissionHandle) (input : AttemptInput) (nowMs nowMs' : ℤ) :
      Replays (.reserveAttempt handle input nowMs) (.reserveAttempt handle input nowMs')

/-- **An operation that finds its own record changes nothing.** -/
theorem action_of_recorded (hagn : Replays tx again) (hrec : tx.Recorded s)
    (h : again.action s = .ok (reply, s')) : s' = s := by
  cases hagn with
  | admitRequest input nowMs =>
    obtain ⟨_, hdone, -⟩ := replying_eq_ok h
    exact @admitRequest_replay s _ input { input with nowMs := nowMs } _ rfl hrec hdone
  | reserveAttempt =>
    exact reserveAttempt_replay hrec (silent_eq_ok h)
  | same tx =>
    cases tx with
    | admitRequest =>
      obtain ⟨_, hdone, -⟩ := replying_eq_ok h
      exact admitRequest_replay rfl hrec hdone
    | reserveAttempt => exact reserveAttempt_replay hrec (silent_eq_ok h)
    | confirmDispatched =>
      exact confirmDispatched_replay hrec (silent_eq_ok h)
    | releaseBeforeDispatch =>
      exact releaseBeforeDispatch_replay hrec (silent_eq_ok h)
    | observeTerminal =>
      exact observeTerminal_replay hrec (silent_eq_ok h)
    | observeDelivery => exact observeDelivery_replay hrec (silent_eq_ok h)
    | observeUsage =>
      exact observeUsage_replay hrec (silent_eq_ok h)
    | settle =>
      obtain ⟨_, hdone, -⟩ := replying_eq_ok h
      exact settle_replay hrec hdone
    | cancelUndispatched => exact cancelUndispatched_replay hrec (silent_eq_ok h)
    | beginDispatch | selection | reselectSubscription | observeProof | resetEligible =>
      obtain ⟨_, -, hrec⟩ := hrec
      exact hrec.elim

end Replay

/-! ### Spend enters once -/

/-- The commit from `s` to `s'` bills the attempt `spend`. -/
def SpendEnters (s s' : AuthorityState) (id attemptId : String) (spend : ℤ) : Prop :=
  ∃ before after, attemptAt s id attemptId = some before ∧ before.billingSettled = false ∧
    attemptAt s' id attemptId = some after ∧ after.billingSettled = true ∧
    after.settledSpendMicrocredits = some spend

theorem billed_spend (h : (billingDelta attempt spend).paidSettledMicrocredits ≠ 0) :
    ∃ amount, spend = some amount ∧ attempt.billingSettled = false ∧
      (billingDelta attempt spend).paidSettledMicrocredits = amount ∧
      (billed attempt spend).billingSettled = true ∧
      (billed attempt spend).settledSpendMicrocredits = some amount := by
  unfold billingDelta at h ⊢
  unfold billed
  cases spend with
  | none => exact absurd rfl h
  | some amount =>
    dsimp only at h ⊢
    by_cases hbld : attempt.billingSettled = true
    · rw [if_pos hbld] at h
      exact absurd rfl h
    · by_cases hcdx : attempt.input.provider = .codex
      · simp [hbld, hcdx] at h
      · exact ⟨amount, rfl, Bool.eq_false_iff.mpr hbld, by simp [hbld, hcdx],
          by simp [hbld], by simp [hbld]⟩

/-- A change bills an attempt for the first time or nothing. -/
theorem RequestChange.spend_cases (h : RequestChange s handle r tx r' delta) :
    delta.paidSettledMicrocredits = 0 ∨
      ∃ attemptId before after, r.attempts.lookup attemptId = some before ∧
        before.billingSettled = false ∧ r'.attempts.lookup attemptId = some after ∧
        after.billingSettled = true ∧
        after.settledSpendMicrocredits = some delta.paidSettledMicrocredits := by
  cases h with
  | terminal attemptId evidence finalAttempt attempt hatt =>
    -- settling the kernel charge moves no money
    have hker : (if finalAttempt = true then kernelDelta r (some evidence.outcome)
        else 0).paidSettledMicrocredits = 0 := by
      unfold kernelDelta
      split_ifs <;> rfl
    by_cases hzero : (billingDelta attempt evidence.spendMicrocredits).paidSettledMicrocredits = 0
    · refine .inl ?_
      rw [PrincipalWindow.add_paidSettled, hker, hzero, add_zero]
    · obtain ⟨amount, -, hunb, hamount, hbld, hsp⟩ :=
        @billed_spend { attempt with terminal := some evidence } _ hzero
      refine .inr ⟨attemptId, attempt, _, hatt, hunb, Record.lookup_insert_self _ _ _,
        hbld, ?_⟩
      rw [hsp, PrincipalWindow.add_paidSettled, hker, zero_add]
      exact congrArg some hamount.symm
  | usage attemptId _ spend attempt hatt =>
    by_cases hzero : (billingDelta attempt (some spend)).paidSettledMicrocredits = 0
    · exact .inl hzero
    · obtain ⟨amount, -, hunb, hamount, hbld, hsp⟩ := billed_spend hzero
      refine .inr ⟨attemptId, attempt, _, hatt, hunb, Record.lookup_insert_self _ _ _,
        hbld, ?_⟩
      rw [hsp, hamount]
  | confirm =>
    refine .inl ?_
    split_ifs <;> rfl
  | settle =>
    refine .inl ?_
    unfold kernelDelta
    split_ifs <;> rfl
  | reserveSubscription | reservePaid | begin | reselect | release | delivery | cancel =>
    exact .inl rfl

/-- Spend enters a window with the bill of one attempt. -/
theorem AuthorityStep.spend_cases (h : AuthorityStep s c s') {key : WindowKey}
    (hmvd : (windowAt s' key).paidSettledMicrocredits ≠ (windowAt s key).paidSettledMicrocredits) :
    ∃ id attemptId spend, SpendEnters s s' id attemptId spend ∧
      (windowAt s' key).paidSettledMicrocredits
        = (windowAt s key).paidSettledMicrocredits + spend := by
  obtain ⟨transaction, reply⟩ := c
  have hcs : Change s transaction s' := h.change
  cases hcs with
  | unchanged | proof => exact absurd rfl hmvd
  | admitted input policy window _ active _ _ hwin =>
    refine absurd ?_ hmvd
    have hinsert := windowAt_insert s ⟨input.principalId, policy.windowResetAtMs⟩
      { window with
        reserved := window.reserved + 1
        kernelReserved := window.kernelReserved + 1
        active := window.active + 1 } key
    refine (congrArg PrincipalWindow.paidSettledMicrocredits hinsert).trans ?_
    split_ifs with hkey
    · rw [hkey, hwin]
      rfl
    · rfl
  | request handle _ _ _ _ _ hr hreq hwin =>
    have hshf := windowAt_shiftWindow hwin key
    have hpaid := congrArg PrincipalWindow.paidSettledMicrocredits hshf
    rw [PrincipalWindow.add_paidSettled] at hpaid
    rcases hreq.spend_cases with hzero | ⟨attemptId, before, after, hbef, hunb, haft,
      hbld, hsp⟩
    · refine absurd (hpaid.trans ?_) hmvd
      split_ifs <;> simp [hzero]
    · refine ⟨handle.requestId, attemptId, _, ⟨before, after, attemptAt_eq_some hr hbef,
        hunb, attemptAt_eq_some (lookup_putRequest_self _ _ _) haft, hbld, hsp⟩,
        hpaid.trans ?_⟩
      split_ifs with hkey
      · rfl
      · -- another window did not move
        refine absurd (hpaid.trans ?_) hmvd
        rw [if_neg hkey]
        exact add_zero _

theorem AuthorityStep.billed_stays (h : AuthorityStep s c s') {id attemptId : String}
    (hbld : ∃ attempt, attemptAt s id attemptId = some attempt ∧ attempt.billingSettled = true) :
    ∃ attempt, attemptAt s' id attemptId = some attempt ∧ attempt.billingSettled = true := by
  obtain ⟨attempt, hat, hbld⟩ := hbld
  obtain ⟨r, hr, hatt⟩ := Option.bind_eq_some_iff.mp hat
  rcases h.change.request_forth hr with hr' | ⟨handle, r', delta, -, hr', hreq⟩
  · exact ⟨attempt, attemptAt_eq_some hr' hatt, hbld⟩
  · obtain ⟨attempt', hatt', hprog⟩ := hreq.attempt_forth hatt
    exact ⟨attempt', attemptAt_eq_some hr' hatt', (hprog.billed hbld).1⟩

/-! ### Replays are harmless -/

/-- The operation throws in state `s`, or commits and leaves the state as it is. -/
def Harmless (s : AuthorityState) (tx : Transaction) : Prop :=
  (∃ thrown, tx.action s = .error thrown) ∨ ∃ reply, tx.action s = .ok (reply, s)

/-- **Replays are harmless**: an operation that committed and left a record throws or changes
nothing when it is sent again, at any later point.  The settled spend of a window moves only when an
attempt is billed, by what it is billed, and no attempt is billed twice. -/
theorem replay_unchanged (scope : AuthorityScope) (accounts : List AccountBinding)
    (policies : List PrincipalPolicy) (sys : AuthoritySystem)
    (h : AuthorityReachable (createAuthorityState scope accounts policies) sys)
    (s₁ : AuthorityState) (c : Commit) (s₂ : AuthorityState)
    (hc : CommittedStep sys.world s₁ c s₂) (s : AuthorityState) (hs : stateOf sys.world = some s) :
    (Replayable s₁ c → ∀ again, Replays c.transaction again → Harmless s again) ∧
    (∀ key, (windowAt s₂ key).paidSettledMicrocredits ≠ (windowAt s₁ key).paidSettledMicrocredits →
      ∃ id attemptId spend, SpendEnters s₁ s₂ id attemptId spend ∧
        (windowAt s₂ key).paidSettledMicrocredits
          = (windowAt s₁ key).paidSettledMicrocredits + spend) ∧
    ∀ id attemptId spend, SpendEnters s₁ s₂ id attemptId spend →
      ∀ d s' spend', AuthorityStep s d s' → ¬ SpendEnters s s' id attemptId spend' := by
  have hrun := reachable_run h
  have hstep := (hrun.committedStep hc).1
  refine ⟨fun hreplayable again hagn => ?_, fun key hmvd => hstep.spend_cases hmvd, ?_⟩
  · have hrecorded : c.transaction.Recorded s :=
      hrun.stable (fun s c s' h hrec => h.recorded hrec) hs hc (hstep.recorded_self hreplayable)
    cases hactn : again.action s with
    | error thrown => exact .inl ⟨thrown, hactn⟩
    | ok result =>
      obtain ⟨reply, s'⟩ := result
      obtain rfl := action_of_recorded hagn hrecorded hactn
      exact .inr ⟨reply, hactn⟩
  · rintro id attemptId spend ⟨before, after, -, -, haft, hbld, -⟩ d s' spend' -
      ⟨before', -, hbef', hunb, -⟩
    obtain ⟨attempt, hatt, hbld⟩ := hrun.stable
      (fun s c s' h hQ => h.billed_stays hQ) hs hc ⟨after, haft, hbld⟩
    cases hatt.symm.trans hbef'
    exact absurd (hbld.symm.trans hunb) (by decide)

theorem replay_unchanged_admitted : ∃ sys s c s₂, AuthorityReachable sampleState sys ∧
    CommittedStep sys.world sampleState c s₂ ∧ c.transaction = .admitRequest (sampleAdmit "first") ∧
    stateOf sys.world = some s ∧ s ≠ s₂ ∧
    Harmless s (.admitRequest { sampleAdmit "first" with nowMs := 99 }) := by
  have hrun : RunsTo sampleState sampleDispatch fun steps s => ∃ step ∈ steps,
      step.before = sampleState ∧ step.commit.transaction = .admitRequest (sampleAdmit "first") ∧
        s ≠ step.after := by decide
  obtain ⟨sys, s, steps, hsys, hs, hstps, ⟨_, ⟨_, reply⟩, s₂⟩, hmem, rfl, rfl, hne⟩ :=
    hrun.reachable
  have hc := (hstps _ _ _).mpr hmem
  have hname : "first" ≠ "__proto__" := by decide
  exact ⟨sys, s, _, s₂, hsys, hc, rfl, hs, hne, (replay_unchanged sampleScope [sampleAccount]
    [samplePolicy] sys hsys sampleState _ s₂ hc s hs).1 hname _ (Replays.admitRequest _ 99)⟩

theorem not_harmless (h : ∃ result ∈ (tx.action s).toOption, result.2 ≠ s) : ¬ Harmless s tx := by
  obtain ⟨⟨reply, s'⟩, hres, hne⟩ := h
  rintro (⟨thrown, hthrown⟩ | ⟨reply', hok⟩)
  · rw [hthrown] at hres
    cases hres
  · rw [hok] at hres
    exact hne (Prod.mk.inj (Option.some.inj hres)).2.symm

/-- Not every durable operation leaves a record: a release before its attempt is reserved, and a
settlement that is pending, do nothing at first and something when they are sent again. -/
theorem replay_without_record :
    (¬ ∀ (scope : AuthorityScope) (accounts : List AccountBinding) (policies : List PrincipalPolicy)
      (sys : AuthoritySystem),
      AuthorityReachable (createAuthorityState scope accounts policies) sys →
      ∀ s₁ c s₂, CommittedStep sys.world s₁ c s₂ → c.transaction.Durable →
      ∀ s, stateOf sys.world = some s →
      ∀ again, Replays c.transaction again → Harmless s again) ∧
    ∃ sys s₁ c s₂ s, AuthorityReachable sampleState sys ∧ CommittedStep sys.world s₁ c s₂ ∧
      c.transaction = .settle sampleHandle ∧ stateOf sys.world = some s ∧
      ¬ Harmless s (.settle sampleHandle) := by
  constructor
  · intro h
    have hrun : RunsTo sampleState [.admitRequest (sampleAdmit "first"),
        .releaseBeforeDispatch sampleHandle "one",
        .reserveAttempt sampleHandle (sampleAttempt "one") 20]
        fun steps s => (∃ step ∈ steps,
            step.commit.transaction = .releaseBeforeDispatch sampleHandle "one") ∧
          ∃ result ∈ ((Transaction.releaseBeforeDispatch sampleHandle "one").action s).toOption,
            result.2 ≠ s := by decide
    obtain ⟨sys, s, steps, hsys, hs, hstps, ⟨⟨s₁, ⟨_, reply⟩, s₂⟩, hmem, rfl⟩, hchg⟩ :=
      hrun.reachable
    exact not_harmless hchg (h sampleScope [sampleAccount] [samplePolicy] sys hsys s₁ _ s₂
      ((hstps _ _ _).mpr hmem) trivial s hs _ (Replays.same _))
  · have hrun : RunsTo sampleState [.admitRequest (sampleAdmit "first"), .settle sampleHandle,
        .cancelUndispatched sampleHandle]
        fun steps s => (∃ step ∈ steps, step.commit.transaction = .settle sampleHandle) ∧
          ∃ result ∈ ((Transaction.settle sampleHandle).action s).toOption, result.2 ≠ s := by
      decide
    obtain ⟨sys, s, steps, hsys, hs, hstps, ⟨⟨s₁, c, s₂⟩, hmem, htx⟩, hchg⟩ := hrun.reachable
    exact ⟨sys, s₁, c, s₂, s, hsys, (hstps s₁ c s₂).mpr hmem, htx, hs, not_harmless hchg⟩

end UbqGateway.Authority
