import UbqGateway.Authority.AdmissionState
import Mathlib.Tactic.Ring

/-!
# What a transaction can do

`action_change` says once, for all fourteen transactions, what a committed action leaves behind:
nothing changed, a proof was recorded, a request was admitted, or one request `r` became `r'` and
its window moved by a fixed amount (`RequestChange`).  Every later result about runs of the
authority is a case analysis on these, and an action is unfolded again only where its response is
part of the result.

The window counters are an additive group, componentwise, so that an update of a window is one
addition (`shiftWindow`).
-/

namespace UbqGateway.Authority

/-! ### The group of window counters -/

namespace PrincipalWindow

instance : Zero PrincipalWindow := ⟨emptyWindow⟩

instance : Add PrincipalWindow :=
  ⟨fun a b => ⟨a.reserved + b.reserved, a.dispatched + b.dispatched,
    a.kernelReserved + b.kernelReserved, a.kernelCompleted + b.kernelCompleted,
    a.active + b.active, a.paidReservedMicrocredits + b.paidReservedMicrocredits,
    a.paidSettledMicrocredits + b.paidSettledMicrocredits⟩⟩

instance : Neg PrincipalWindow :=
  ⟨fun a => ⟨-a.reserved, -a.dispatched, -a.kernelReserved, -a.kernelCompleted, -a.active,
    -a.paidReservedMicrocredits, -a.paidSettledMicrocredits⟩⟩

section Fields

variable (a b : PrincipalWindow)

@[simp] theorem zero_reserved : (0 : PrincipalWindow).reserved = 0 := rfl
@[simp] theorem zero_dispatched : (0 : PrincipalWindow).dispatched = 0 := rfl
@[simp] theorem zero_kernelReserved : (0 : PrincipalWindow).kernelReserved = 0 := rfl
@[simp] theorem zero_kernelCompleted : (0 : PrincipalWindow).kernelCompleted = 0 := rfl
@[simp] theorem zero_active : (0 : PrincipalWindow).active = 0 := rfl
@[simp] theorem zero_paidReserved : (0 : PrincipalWindow).paidReservedMicrocredits = 0 := rfl
@[simp] theorem zero_paidSettled : (0 : PrincipalWindow).paidSettledMicrocredits = 0 := rfl

@[simp] theorem add_reserved : (a + b).reserved = a.reserved + b.reserved := rfl
@[simp] theorem add_dispatched : (a + b).dispatched = a.dispatched + b.dispatched := rfl
@[simp] theorem add_kernelReserved :
    (a + b).kernelReserved = a.kernelReserved + b.kernelReserved := rfl
@[simp] theorem add_kernelCompleted :
    (a + b).kernelCompleted = a.kernelCompleted + b.kernelCompleted := rfl
@[simp] theorem add_active : (a + b).active = a.active + b.active := rfl
@[simp] theorem add_paidReserved : (a + b).paidReservedMicrocredits
    = a.paidReservedMicrocredits + b.paidReservedMicrocredits := rfl
@[simp] theorem add_paidSettled : (a + b).paidSettledMicrocredits
    = a.paidSettledMicrocredits + b.paidSettledMicrocredits := rfl

end Fields

instance : AddCommGroup PrincipalWindow where
  add_assoc a b c := by ext <;> simp only [add_reserved, add_dispatched, add_kernelReserved,
    add_kernelCompleted, add_active, add_paidReserved, add_paidSettled] <;> ring
  zero_add a := by ext <;> exact zero_add _
  add_zero a := by ext <;> exact add_zero _
  add_comm a b := by ext <;> exact add_comm _ _
  neg_add_cancel a := by ext <;> exact neg_add_cancel _
  nsmul := nsmulRec
  zsmul := zsmulRec

end PrincipalWindow

/-- Window `key` moved by `delta`. -/
def shiftWindow (state : AuthorityState) (key : WindowKey) (delta : PrincipalWindow) :
    AuthorityState :=
  match state.windows.lookup key with
  | some window => { state with windows := state.windows.insert key (window + delta) }
  | none => state

variable (state : AuthorityState) (key : WindowKey)

theorem shiftWindow_zero : shiftWindow state key 0 = state := by
  unfold shiftWindow
  cases h : state.windows.lookup key with
  | none => rfl
  | some window => simp only [add_zero, Record.insert_lookup_self h]

theorem shiftWindow_shiftWindow (d e : PrincipalWindow) :
    shiftWindow (shiftWindow state key d) key e = shiftWindow state key (d + e) := by
  unfold shiftWindow
  cases h : state.windows.lookup key with
  | none => simp only [h]
  | some window =>
    simp only [Record.lookup_insert_self, Record.insert_insert, add_assoc]

variable (d : PrincipalWindow) {key}

@[simp]
theorem shiftWindow_admissions : (shiftWindow state key d).admissions = state.admissions := by
  unfold shiftWindow
  split <;> rfl

@[simp]
theorem shiftWindow_policies : (shiftWindow state key d).policies = state.policies := by
  unfold shiftWindow
  split <;> rfl

theorem lookup_shiftWindow (other : WindowKey) : (shiftWindow state key d).windows.lookup other
      = if other = key then (state.windows.lookup key).map (· + d)
        else state.windows.lookup other := by
  unfold shiftWindow
  cases h : state.windows.lookup key with
  | none =>
    by_cases ho : other = key
    · simp [ho, h]
    · simp [ho]
  | some window => simp only [Record.lookup_insert, Option.map_some]

theorem isSome_lookup_shiftWindow
    (other : WindowKey) : ((shiftWindow state key d).windows.lookup other).isSome
      = (state.windows.lookup other).isSome := by
  rw [lookup_shiftWindow]
  by_cases h : other = key
  · simp [h]
  · simp [h]

theorem updateWindow_eq_ok {d : PrincipalWindow} {state state' : AuthorityState}
    (hf : ∀ window, f window = window + d)
    (h : updateWindow state key f = .ok state') :
    (state.windows.lookup key).isSome = true ∧ state' = shiftWindow state key d := by
  unfold updateWindow windowOf at h
  unfold shiftWindow
  cases hw : state.windows.lookup key with
  | none =>
    rw [hw] at h
    cases h
  | some window =>
    rw [hw] at h
    obtain rfl : _ = state' := Except.ok.inj h
    exact ⟨rfl, by simp only [hf]⟩

/-! ### Changes of one request -/

/-- What settling the kernel charge moves. -/
def kernelDelta (request : AdmissionRecord) (semantic : Option SemanticTerminal) :
    PrincipalWindow :=
  if request.kernelSettled = true then 0
  else { (0 : PrincipalWindow) with
    kernelReserved := -1
    kernelCompleted := if semantic = some .completed then 1 else 0 }

/-- What settling the billing of an attempt moves. -/
def billingDelta (attempt : AttemptRecord) (spend : Option ℤ) : PrincipalWindow :=
  match spend with
  | none => 0
  | some amount =>
    if attempt.billingSettled = true then 0
    else { (0 : PrincipalWindow) with
      paidReservedMicrocredits := -attempt.input.maximumExposureMicrocredits
      paidSettledMicrocredits := if attempt.input.provider = .codex then 0 else amount }

/-- The attempt after terminal evidence or usage with this spend. -/
def billed (attempt : AttemptRecord) (spend : Option ℤ) : AttemptRecord :=
  match spend with
  | none => attempt
  | some amount =>
    if attempt.billingSettled = true then attempt
    else { attempt with billingSettled := true, settledSpendMicrocredits := some amount }

def exposureDelta (amount : ℤ) : PrincipalWindow :=
  { (0 : PrincipalWindow) with paidReservedMicrocredits := amount }

def freshAttempt (input : AttemptInput) : AttemptRecord := ⟨input, .reserved, none, false, none⟩

/-- What the reserved ones of these attempts hold. -/
def heldExposure (attempts : List AttemptRecord) : ℤ :=
  (attempts.map fun attempt =>
    if attempt.state = .reserved then attempt.input.maximumExposureMicrocredits else 0).sum

/-- The committed changes of the request `r` that `handle` names in state `s`: the transaction, the
changed request and what its window moves by. -/
inductive RequestChange (s : AuthorityState) (handle : AdmissionHandle) (r : AdmissionRecord) :
    Transaction → AdmissionRecord → PrincipalWindow → Prop
  -- a subscription attempt costs nothing and is bound to the account of the request
  | reserveSubscription (input : AttemptInput) (nowMs : ℤ)
      (hopen : r.settled = false ∧ r.semantic = none)
      (hnew : r.attempts.lookup input.attemptId = none)
      (hidle : ∀ attempt ∈ r.attempts.values, attempt.outstanding = false)
      (hcdx : input.provider = .codex) (hexpo : input.maximumExposureMicrocredits = 0)
      (hacn : input.account ≠ none ∧ input.account = r.account) :
      RequestChange s handle r (.reserveAttempt handle input nowMs)
        { r with attempts := assign r.attempts input.attemptId (freshAttempt input) } 0
  -- a paid attempt reserves its exposure, under the limit of the policy that is current
  | reservePaid (input : AttemptInput) (nowMs : ℤ)
      (policy : PrincipalPolicy) (window : PrincipalWindow)
      (hopen : r.settled = false ∧ r.semantic = none)
      (hnew : r.attempts.lookup input.attemptId = none)
      (hidle : ∀ attempt ∈ r.attempts.values, attempt.outstanding = false)
      (hpaid : input.provider ≠ .codex) (hacn : input.account = none)
      (hpool : PoolExhausted s r.model nowMs)
      (hord : providerOrder input.provider (paidAttempts r) = .ok ())
      (hpol : s.policies.lookup r.principalId = some policy)
      (hkey : r.windowKey = ⟨r.principalId, policy.windowResetAtMs⟩)
      (hwin : s.windows.lookup r.windowKey = some window)
      (hlmt : window.paidReservedMicrocredits + window.paidSettledMicrocredits +
        input.maximumExposureMicrocredits ≤ policy.paidLimitMicrocredits) :
      RequestChange s handle r (.reserveAttempt handle input nowMs)
        { r with attempts := assign r.attempts input.attemptId (freshAttempt input) }
        (exposureDelta input.maximumExposureMicrocredits)
  | begin (attemptId : String) (nowMs : ℤ) (attempt : AttemptRecord)
      (hatt : r.attempts.lookup attemptId = some attempt) (hsta : attempt.state = .reserved)
      (hopen : r.settled = false)
      (hpool : attempt.input.account = none → PoolExhausted s r.model nowMs) :
      RequestChange s handle r (.beginDispatch handle attemptId nowMs)
        { r with
          attempts := r.attempts.insert attemptId { attempt with state := .dispatchIntent } } 0
  | reselect (nowMs : ℤ) (account : Option AccountBinding)
      (generation : Option ℤ) (hopen : r.settled = false ∧ r.semantic = none)
      (hpaid : paidAttempts r = []) :
      RequestChange s handle r (.reselectSubscription handle nowMs)
        { r with account := account, activeGeneration := generation } 0
  -- only the first confirmed attempt of a request moves it from reserved to dispatched
  | confirm (attemptId : String) (attempt : AttemptRecord)
      (hatt : r.attempts.lookup attemptId = some attempt)
      (hsta : attempt.state = .dispatchIntent ∨ attempt.state = .dispatched) :
      RequestChange s handle r (.confirmDispatched handle attemptId)
        { r with
          attempts := r.attempts.insert attemptId { attempt with state := .dispatched }
          dispatched := true }
        (if r.dispatched = true then 0
          else { (0 : PrincipalWindow) with reserved := -1, dispatched := 1 })
  | release (attemptId : String) (attempt : AttemptRecord)
      (hatt : r.attempts.lookup attemptId = some attempt) (hsta : attempt.state = .reserved) :
      RequestChange s handle r (.releaseBeforeDispatch handle attemptId)
        { r with
          attempts := r.attempts.insert attemptId { attempt with state := .notDispatched } }
        (exposureDelta (-attempt.input.maximumExposureMicrocredits))
  -- the kernel charge is settled with the final attempt, the billing with each attempt
  | terminal (attemptId : String) (evidence : TerminalEvidence)
      (finalAttempt : Bool) (attempt : AttemptRecord)
      (hatt : r.attempts.lookup attemptId = some attempt) (hsta : attempt.state = .dispatched)
      (hterm : ∀ terminal ∈ attempt.terminal, terminal = evidence)
      (hsem : finalAttempt = true → ∀ semantic ∈ r.semantic, semantic = evidence.outcome) :
      RequestChange s handle r (.observeTerminal handle attemptId evidence finalAttempt)
        { r with
          semantic := if finalAttempt = true then some evidence.outcome else r.semantic
          kernelSettled := r.kernelSettled || finalAttempt
          attempts := r.attempts.insert attemptId
            (billed { attempt with terminal := some evidence } evidence.spendMicrocredits) }
        ((if finalAttempt = true then kernelDelta r (some evidence.outcome) else 0) +
          billingDelta attempt evidence.spendMicrocredits)
  | delivery (outcome : DeliveryOutcome)
      (hdlv : r.delivery = none ∨ r.delivery = some .unobserved ∨
        r.delivery = some outcome) :
      RequestChange s handle r (.observeDelivery handle outcome)
        { r with delivery := some outcome } 0
  | usage (attemptId providerRequestId : String) (spend : ℤ)
      (attempt : AttemptRecord) (hatt : r.attempts.lookup attemptId = some attempt)
      (hsta : attempt.state = .dispatched) (hpaid : attempt.input.provider ≠ .codex)
      (hterm : attempt.terminal ≠ none) (hbil : attempt.billingSettled = false) :
      RequestChange s handle r (.observeUsage handle attemptId providerRequestId spend)
        { r with attempts := r.attempts.insert attemptId (billed attempt (some spend)) }
        (billingDelta attempt (some spend))
  | settle (hopen : r.settled = false) (hsem : r.semantic ≠ none)
      (hdlv : r.delivery ≠ none)
      (hrsv : ∀ attempt ∈ r.attempts.values, attempt.unresolved = false) :
      RequestChange s handle r (.settle handle) { r with kernelSettled := true, settled := true }
        ({ (0 : PrincipalWindow) with
            reserved := if r.dispatched = true then 0 else -1, active := -1 } +
          kernelDelta r r.semantic)
  -- the reserved attempts give their exposure back; the request stays reserved and active in its
  -- window until it is settled
  | cancel (hudp : ∀ attempt ∈ r.attempts.values, attempt.state ≠ .dispatchIntent ∧
        attempt.state ≠ .dispatched) :
      RequestChange s handle r (.cancelUndispatched handle)
        { r with
          attempts := r.attempts.mapValues fun attempt => { attempt with state := .notDispatched }
          semantic := r.semantic.or (some .cancelled)
          delivery := r.delivery.or (some .interrupted) }
        (exposureDelta (-heldExposure r.attempts.values))

inductive Change (s : AuthorityState) : Transaction → AuthorityState → Prop
  | unchanged (transaction : Transaction) : Change s transaction s
  | proof (handle : AdmissionHandle) (attemptId : String) (proof : AccountProof)
      (accounts : List AccountBinding) :
      Change s (.observeProof handle attemptId proof) { s with accounts := accounts }
  | admitted (input : AdmitInput) (policy : PrincipalPolicy) (window : PrincipalWindow)
      (account : Option AccountBinding) (active : Option ActiveAccount)
      (hnew : s.admissions.lookup input.requestId = none)
      (hpol : s.policies.lookup input.principalId = some policy)
      (hwin : window
        = (s.windows.lookup ⟨input.principalId, policy.windowResetAtMs⟩).getD emptyWindow)
      (hreqs : window.reserved + window.dispatched < policy.requestLimit)
      (hker : window.kernelReserved + window.kernelCompleted < policy.kernelLimit)
      (hconcurrency : unsettledCount s input.principalId < policy.concurrencyLimit) :
      Change s (.admitRequest input) { s with
        sequence := s.sequence + 1
        active := active
        admissions := assign s.admissions input.requestId
          (admittedRecord input policy account { s with active := active })
        windows := s.windows.insert ⟨input.principalId, policy.windowResetAtMs⟩ { window with
          reserved := window.reserved + 1
          kernelReserved := window.kernelReserved + 1
          active := window.active + 1 } }
  | request (handle : AdmissionHandle) (r : AdmissionRecord) (transaction : Transaction)
      (r' : AdmissionRecord) (delta : PrincipalWindow) (active : Option ActiveAccount)
      (hr : s.admissions.lookup handle.requestId = some r)
      (hch : RequestChange s handle r transaction r' delta)
      (hwin : delta = 0 ∨ (s.windows.lookup r.windowKey).isSome = true) :
      Change s transaction
        (putRequest { shiftWindow s r.windowKey delta with active := active } handle r')

theorem Change.ofRequest {delta : PrincipalWindow}
    (hr : s.admissions.lookup handle.requestId = some r)
    (hch : RequestChange s handle r transaction r' delta)
    (hwin : delta = 0 ∨ (s.windows.lookup r.windowKey).isSome = true) :
    Change s transaction (putRequest (shiftWindow s r.windowKey delta) handle r') := by
  have h := Change.request handle r transaction r' delta s.active hr hch hwin
  have hactv : { shiftWindow s r.windowKey delta with active := s.active }
      = shiftWindow s r.windowKey delta := by
    unfold shiftWindow
    split <;> rfl
  rwa [hactv] at h

theorem Change.ofRequest_zero (hr : s.admissions.lookup handle.requestId = some r)
    (hch : RequestChange s handle r transaction r' 0) :
    Change s transaction (putRequest s handle r') := by
  have h := Change.ofRequest hr hch (.inl rfl)
  rwa [shiftWindow_zero] at h

/-! ### The changes of each transaction -/

theorem findRequest_eq_ok (h : findRequest s handle = .ok r) :
    s.admissions.lookup handle.requestId = some r ∧ r.handle.fence = handle.fence := by
  simp only [findRequest, bind_eq_ok, require_eq_ok, demand_eq_ok, pure_eq_ok] at h
  obtain ⟨request, hr, -, hfence, rfl⟩ := h
  exact ⟨hr, hfence⟩

theorem selectNext_state (h : selectNext s model now = .ok (account, s')) :
    ∃ active, s' = { s with active := active } := by
  unfold selectNext at h
  split at h
  · cases h
    exact ⟨_, rfl⟩
  · simp only [bind_eq_ok, require_eq_ok, pure_eq_ok, Prod.mk.injEq] at h
    obtain ⟨-, -, -, rfl⟩ := h
    exact ⟨s.active, rfl⟩

theorem selectAccount_state (h : selectAccount s model now = .ok (account, s')) :
    ∃ active, s' = { s with active := active } := by
  unfold selectAccount at h
  split at h
  · simp only [bind_eq_ok, require_eq_ok] at h
    obtain ⟨-, -, -, -, h⟩ := h
    split_ifs at h with havailable
    · simp only [pure_eq_ok, Prod.mk.injEq] at h
      obtain ⟨-, rfl⟩ := h
      exact ⟨_, rfl⟩
    · exact selectNext_state h
  · exact selectNext_state h

theorem admitRequest_change {reply : AdmissionHandle} (h : admitRequest input s = .ok (reply, s')) :
    Change s (.admitRequest input) s' := by
  unfold admitRequest at h
  split at h
  · -- the request is there already: its handle is returned again
    simp only [bind_eq_ok, require_eq_ok, pure_eq_ok, Prod.mk.injEq] at h
    obtain ⟨-, -, -, rfl⟩ := h
    exact Change.unchanged _
  · rename_i hnew
    simp only [bind_eq_ok, require_eq_ok, demand_eq_ok, pure_eq_ok, Prod.mk.injEq] at h
    obtain ⟨policy, hpol, -, -, -, -, -, -, -, -, -, -, -, -, -, hquo, ⟨account, s₁⟩, hselect,
      -, rfl⟩ := h
    obtain ⟨active, rfl⟩ := selectAccount_state hselect
    exact Change.admitted input policy _ account active hnew hpol rfl hquo.1 hquo.2.1
      hquo.2.2

theorem livePolicy_eq_ok (h : livePolicy s r nowMs = .ok policy) :
    s.policies.lookup r.principalId = some policy ∧
      r.windowKey = ⟨r.principalId, policy.windowResetAtMs⟩ := by
  simp only [livePolicy, bind_eq_ok, require_eq_ok, demand_eq_ok, pure_eq_ok] at h
  obtain ⟨policy, hpol, -, -, -, hwin, rfl⟩ := h
  exact ⟨hpol, hwin.2⟩

/-- An attempt is reserved. -/
theorem reserveAttempt_change {input : AttemptInput}
    (h : reserveAttempt handle input nowMs s = .ok s') :
    Change s (.reserveAttempt handle input nowMs) s' := by
  simp only [reserveAttempt, bind_eq_ok, require_eq_ok] at h
  obtain ⟨r, hfind, -, hopen, h⟩ := h
  have hr := (findRequest_eq_ok hfind).1
  split at h
  · -- a repeated reservation of the same attempt
    simp only [bind_eq_ok, require_eq_ok, pure_eq_ok] at h
    obtain ⟨-, -, rfl⟩ := h
    exact Change.unchanged _
  · rename_i hnew
    simp only [bind_eq_ok, require_eq_ok] at h
    obtain ⟨-, hidle, policy, hpol, h⟩ := h
    have hidle' : ∀ attempt ∈ r.attempts.values, attempt.outstanding = false := by
      intro attempt hmem
      simpa using List.any_eq_false.mp hidle attempt hmem
    split_ifs at h with hcdx
    · simp only [reserveSubscription, bind_eq_ok, require_eq_ok, demand_eq_ok, pure_eq_ok] at h
      obtain ⟨-, ⟨account, hacn, -, ⟨hbinding, hexpo⟩, -⟩, _, rfl, rfl⟩ := h
      exact Change.ofRequest_zero hr (RequestChange.reserveSubscription input nowMs hopen hnew
        hidle' hcdx hexpo ⟨by rw [hacn]; simp, hacn.trans hbinding.symm⟩)
    · simp only [reservePaid, bind_eq_ok, require_eq_ok, pure_eq_ok] at h
      obtain ⟨s₁, ⟨-, hacn, -, hpool, ⟨⟩, hord, window, hwin, -, hlmt, hupd⟩,
        rfl⟩ := h
      have hlk : s.windows.lookup r.windowKey = some window := by
        unfold windowOf at hwin
        split at hwin
        · rename_i w hw
          rw [hw, Except.ok.inj hwin]
        · cases hwin
      obtain ⟨hsome, rfl⟩ := updateWindow_eq_ok
        (d := exposureDelta input.maximumExposureMicrocredits)
        (fun w => by ext <;> simp [exposureDelta]) hupd
      exact Change.ofRequest hr (RequestChange.reservePaid input nowMs policy window hopen hnew
        hidle' hcdx hacn hpool hord (livePolicy_eq_ok hpol).1
        (livePolicy_eq_ok hpol).2 hlk hlmt) (.inr hsome)

theorem beginDispatch_change {begun : Bool}
    (h : beginDispatch handle attemptId nowMs s = .ok (begun, s')) :
    Change s (.beginDispatch handle attemptId nowMs) s' := by
  simp only [beginDispatch, bind_eq_ok, demand_eq_ok] at h
  obtain ⟨r, hfind, attempt, hatt, h⟩ := h
  split_ifs at h with hsta
  · -- the dispatch has begun before, and the caller is told so
    simp only [pure_eq_ok, Prod.mk.injEq] at h
    obtain ⟨-, rfl⟩ := h
    exact Change.unchanged _
  · simp only [bind_eq_ok, require_eq_ok] at h
    obtain ⟨-, hopen, -, -, h⟩ := h
    have hres : attempt.state = .reserved := not_not.mp hsta
    have hbegin (hpool : attempt.input.account = none → PoolExhausted s r.model nowMs) :=
      Change.ofRequest_zero (findRequest_eq_ok hfind).1
        (RequestChange.begin attemptId nowMs attempt hatt hres hopen hpool)
    split at h
    · rename_i account hacn
      simp only [bind_eq_ok, require_eq_ok, pure_eq_ok, Prod.mk.injEq] at h
      obtain ⟨-, -, -, rfl⟩ := h
      exact hbegin fun hno => absurd (hacn.symm.trans hno) (by simp)
    · simp only [bind_eq_ok, require_eq_ok, pure_eq_ok, Prod.mk.injEq] at h
      obtain ⟨-, hpool, -, rfl⟩ := h
      exact hbegin fun _ => hpool

theorem reselectSubscription_change {reply : Option AccountBinding}
    (h : reselectSubscription handle nowMs s = .ok (reply, s')) :
    Change s (.reselectSubscription handle nowMs) s' := by
  simp only [reselectSubscription, bind_eq_ok, require_eq_ok, demand_eq_ok, pure_eq_ok,
    Prod.mk.injEq] at h
  obtain ⟨r, hfind, -, hopen, -, hpaid, -, -, -, -, -, -, -, -, -, -, -, -, ⟨account, s₁⟩, hselect,
    -, rfl⟩ := h
  obtain ⟨active, rfl⟩ := selectAccount_state hselect
  have hr := (findRequest_eq_ok hfind).1
  have hch := @RequestChange.reselect s handle r nowMs account
    (active.map ActiveAccount.generation) hopen hpaid
  have h := Change.request handle r _ _ 0 active hr hch (.inl rfl)
  rwa [shiftWindow_zero] at h

theorem confirmDispatched_change (h : confirmDispatched handle attemptId s = .ok s') :
    Change s (.confirmDispatched handle attemptId) s' := by
  simp only [confirmDispatched, bind_eq_ok, require_eq_ok, demand_eq_ok] at h
  obtain ⟨r, hfind, attempt, hatt, -, hsta, h⟩ := h
  have hr := (findRequest_eq_ok hfind).1
  have hch := @RequestChange.confirm s handle r attemptId attempt hatt hsta
  split_ifs at h with hdisp
  · simp only [pure_eq_ok] at h
    rw [if_pos hdisp] at hch
    have h' := Change.ofRequest_zero hr hch
    rwa [← hdisp, h] at h'
  · simp only [bind_eq_ok, pure_eq_ok] at h
    obtain ⟨s₁, hupd, rfl⟩ := h
    obtain ⟨hsome, rfl⟩ := updateWindow_eq_ok
      (d := { (0 : PrincipalWindow) with reserved := -1, dispatched := 1 })
      (fun w => by ext <;> simp [sub_eq_add_neg]) hupd
    rw [if_neg hdisp] at hch
    exact Change.ofRequest hr hch (.inr hsome)

theorem releaseBeforeDispatch_change (h : releaseBeforeDispatch handle attemptId s = .ok s') :
    Change s (.releaseBeforeDispatch handle attemptId) s' := by
  simp only [releaseBeforeDispatch, bind_eq_ok] at h
  obtain ⟨r, hfind, h⟩ := h
  split at h
  · obtain rfl := pure_eq_ok.mp h
    exact Change.unchanged _
  · rename_i attempt hatt
    split_ifs at h with hrld
    · obtain rfl := pure_eq_ok.mp h
      exact Change.unchanged _
    · simp only [bind_eq_ok, require_eq_ok, pure_eq_ok] at h
      obtain ⟨-, hsta, s₁, hupd, rfl⟩ := h
      obtain ⟨hsome, rfl⟩ := updateWindow_eq_ok
        (d := exposureDelta (-attempt.input.maximumExposureMicrocredits))
        (fun w => by ext <;> simp [exposureDelta, sub_eq_add_neg]) hupd
      exact Change.ofRequest (findRequest_eq_ok hfind).1
        (RequestChange.release attemptId attempt hatt hsta) (.inr hsome)

theorem observeProof_change {proof : AccountProof}
    (h : observeProof handle attemptId proof s = .ok s') :
    Change s (.observeProof handle attemptId proof) s' := by
  simp only [observeProof, bind_eq_ok, pure_eq_ok] at h
  obtain ⟨-, -, -, -, -, -, -, -, -, -, -, -, -, -, rfl⟩ := h
  exact Change.proof handle attemptId proof _

theorem settleKernel_eq_ok (h : settleKernel r s = .ok (r', s')) :
    r' = { r with kernelSettled := true } ∧
      s' = shiftWindow s r.windowKey (kernelDelta r r.semantic) ∧
      (kernelDelta r r.semantic = 0 ∨ (s.windows.lookup r.windowKey).isSome = true) := by
  unfold settleKernel at h
  unfold kernelDelta
  by_cases hset : r.kernelSettled = true
  · rw [if_pos hset] at h ⊢
    cases h
    rw [shiftWindow_zero]
    exact ⟨by rw [← hset], rfl, .inl rfl⟩
  · rw [if_neg hset] at h ⊢
    simp only [bind_eq_ok, pure_eq_ok, Prod.mk.injEq] at h
    obtain ⟨s₁, hupd, rfl, rfl⟩ := h
    obtain ⟨hsome, rfl⟩ := updateWindow_eq_ok
      (d := { (0 : PrincipalWindow) with
        kernelReserved := -1
        kernelCompleted := if r.semantic = some .completed then 1 else 0 })
      (fun w => by ext <;> simp [sub_eq_add_neg]) hupd
    exact ⟨rfl, rfl, .inr hsome⟩

/-- What the bill of an attempt moves in the window. -/
theorem settleBilling_eq_ok {attempt attempt' : AttemptRecord}
    (h : settleBilling key attempt spend s = .ok (attempt', s')) :
    attempt' = billed attempt spend ∧ s' = shiftWindow s key (billingDelta attempt spend) ∧
      (billingDelta attempt spend = 0 ∨ (s.windows.lookup key).isSome = true) := by
  unfold settleBilling at h
  unfold billed billingDelta
  cases spend with
  | none =>
    cases h
    exact ⟨rfl, (shiftWindow_zero _ _).symm, .inl rfl⟩
  | some amount =>
    dsimp only at h ⊢
    by_cases hset : attempt.billingSettled = true
    · rw [if_pos hset] at h ⊢
      rw [if_pos hset]
      cases h
      exact ⟨rfl, (shiftWindow_zero _ _).symm, .inl rfl⟩
    · rw [if_neg hset] at h ⊢
      rw [if_neg hset]
      simp only [bind_eq_ok, pure_eq_ok, Prod.mk.injEq] at h
      obtain ⟨s₁, hupd, rfl, rfl⟩ := h
      obtain ⟨hsome, rfl⟩ := updateWindow_eq_ok
        (d := { (0 : PrincipalWindow) with
          paidReservedMicrocredits := -attempt.input.maximumExposureMicrocredits
          paidSettledMicrocredits := if attempt.input.provider = .codex then 0 else amount })
        (fun w => by ext <;> simp [sub_eq_add_neg]) hupd
      exact ⟨rfl, rfl, .inr hsome⟩

/-- A terminal outcome is observed. -/
theorem observeTerminal_change {finalAttempt : Bool}
    (h : observeTerminal handle attemptId evidence finalAttempt s = .ok s') :
    Change s (.observeTerminal handle attemptId evidence finalAttempt) s' := by
  simp only [observeTerminal, bind_eq_ok, require_eq_ok, demand_eq_ok] at h
  obtain ⟨r, hfind, attempt, hatt, -, hsta, -, hterm, -, hsem, h⟩ := h
  have hr := (findRequest_eq_ok hfind).1
  have hch := @RequestChange.terminal s handle r attemptId evidence finalAttempt
    attempt hatt hsta hterm hsem
  cases finalAttempt with
  | true =>
    -- two updates of one window, which are one shift by the sum
    simp only [if_true, bind_eq_ok, pure_eq_ok] at h
    obtain ⟨⟨r₁, s₁⟩, hker, ⟨attempt₁, s₂⟩, hbil, rfl⟩ := h
    obtain ⟨rfl, rfl, hsome₁⟩ := settleKernel_eq_ok hker
    obtain ⟨rfl, rfl, hsome₂⟩ := settleBilling_eq_ok hbil
    rw [if_pos rfl, if_pos rfl, Bool.or_true] at hch
    rw [shiftWindow_shiftWindow]
    refine Change.ofRequest (r := r) hr hch ?_
    rw [isSome_lookup_shiftWindow] at hsome₂
    rcases hsome₁ with hzero₁ | hsome₁
    · rcases hsome₂ with hzero₂ | hsome₂
      · exact .inl ((congrArg₂ (· + ·) hzero₁ hzero₂).trans (add_zero 0))
      · exact .inr hsome₂
    · exact .inr hsome₁
  | false =>
    simp only [Bool.false_eq_true, if_false, bind_eq_ok, pure_eq_ok] at h
    obtain ⟨_, rfl, ⟨attempt₁, s₂⟩, hbil, rfl⟩ := h
    obtain ⟨rfl, rfl, hsome⟩ := settleBilling_eq_ok hbil
    rw [if_neg Bool.false_ne_true, if_neg Bool.false_ne_true, Bool.or_false, zero_add] at hch
    exact Change.ofRequest hr hch hsome

theorem observeDelivery_change {outcome : DeliveryOutcome}
    (h : observeDelivery handle outcome s = .ok s') :
    Change s (.observeDelivery handle outcome) s' := by
  simp only [observeDelivery, bind_eq_ok, require_eq_ok] at h
  obtain ⟨r, hfind, -, hdlv, h⟩ := h
  split_ifs at h with hwrs
  · obtain rfl := pure_eq_ok.mp h
    exact Change.ofRequest_zero (findRequest_eq_ok hfind).1
      (RequestChange.delivery outcome hdlv)
  · obtain rfl := pure_eq_ok.mp h
    exact Change.unchanged _

theorem observeUsage_change {providerRequestId : String} {spend : ℤ}
    (h : observeUsage handle attemptId providerRequestId spend s = .ok s') :
    Change s (.observeUsage handle attemptId providerRequestId spend) s' := by
  simp only [observeUsage, bind_eq_ok, require_eq_ok, demand_eq_ok] at h
  obtain ⟨r, hfind, attempt, hatt, -, ⟨hsta, hpaid, hcorrelated⟩, h⟩ := h
  split_ifs at h with hbil
  · simp only [bind_eq_ok, require_eq_ok, pure_eq_ok] at h
    obtain ⟨-, -, rfl⟩ := h
    exact Change.unchanged _
  · simp only [bind_eq_ok, pure_eq_ok] at h
    obtain ⟨s₁, hupd, rfl⟩ := h
    have hterm : attempt.terminal ≠ none := by
      intro hno
      rw [hno] at hcorrelated
      cases hcorrelated
    have hunsettled : attempt.billingSettled = false := Bool.eq_false_iff.mpr hbil
    have hch := @RequestChange.usage s handle r attemptId
      providerRequestId spend attempt hatt hsta hpaid hterm hunsettled
    obtain ⟨hsome, rfl⟩ := updateWindow_eq_ok (d := billingDelta attempt (some spend))
      (fun w => by ext <;> simp [billingDelta, hbil, hpaid, sub_eq_add_neg]) hupd
    simp only [billed, if_neg hbil] at hch
    exact Change.ofRequest (findRequest_eq_ok hfind).1 hch (.inr hsome)

/-- A request is settled. -/
theorem settle_change {reply : Settlement} (h : settle handle s = .ok (reply, s')) :
    Change s (.settle handle) s' := by
  simp only [settle, bind_eq_ok] at h
  obtain ⟨r, hfind, h⟩ := h
  -- three early returns report what is missing and leave the state alone
  by_cases hset : r.settled = true
  · rw [if_pos hset] at h
    cases pure_eq_ok.mp h
    exact Change.unchanged _
  rw [if_neg hset] at h
  by_cases hpend : r.semantic = none ∨ r.delivery = none
  · rw [if_pos hpend] at h
    cases pure_eq_ok.mp h
    exact Change.unchanged _
  rw [if_neg hpend] at h
  by_cases hunr : r.attempts.values.any AttemptRecord.unresolved = true
  · rw [if_pos hunr] at h
    cases pure_eq_ok.mp h
    exact Change.unchanged _
  rw [if_neg hunr] at h
  simp only [bind_eq_ok, pure_eq_ok, Prod.mk.injEq] at h
  obtain ⟨s₁, hupd, ⟨r₁, s₂⟩, hker, -, rfl⟩ := h
  obtain ⟨hsome, rfl⟩ := updateWindow_eq_ok
    (d := { (0 : PrincipalWindow) with
      reserved := if r.dispatched = true then 0 else -1
      active := -1 })
    (fun w => by by_cases hd : r.dispatched = true <;> ext <;> simp [hd, sub_eq_add_neg]) hupd
  obtain ⟨rfl, rfl, -⟩ := settleKernel_eq_ok hker
  rw [shiftWindow_shiftWindow]
  obtain ⟨hsem, hdlv⟩ := not_or.mp hpend
  refine Change.ofRequest (findRequest_eq_ok hfind).1 (RequestChange.settle
    (Bool.eq_false_iff.mpr hset) hsem hdlv fun attempt hmem => ?_) (.inr hsome)
  exact Bool.eq_false_iff.mpr fun hu => hunr (List.any_eq_true.mpr ⟨attempt, hmem, hu⟩)

theorem exposureDelta_add (a b : ℤ) :
    exposureDelta a + exposureDelta b = exposureDelta (a + b) := by
  ext <;> simp [exposureDelta]

theorem exposureDelta_zero : exposureDelta 0 = 0 := rfl

theorem releaseReserved_eq_ok {attempts : List AttemptRecord} :
    ∀ {s : AuthorityState}, releaseReserved key attempts s = .ok s' →
      s' = shiftWindow s key (exposureDelta (-heldExposure attempts)) ∧
        (exposureDelta (-heldExposure attempts) = 0 ∨ (s.windows.lookup key).isSome = true) := by
  -- on the attempts that are left, for the state they are released in
  induction attempts with
  | nil =>
    intro s h
    cases h
    exact ⟨(shiftWindow_zero _ _).symm, .inl rfl⟩
  | cons attempt _ ih =>
    intro s h
    unfold releaseReserved at h
    unfold heldExposure at ih ⊢
    rw [List.map_cons, List.sum_cons]
    split_ifs at h with hsta
    · simp only [bind_eq_ok] at h
      obtain ⟨s₁, hupd, h⟩ := h
      obtain ⟨hsome, rfl⟩ := updateWindow_eq_ok
        (d := exposureDelta (-attempt.input.maximumExposureMicrocredits))
        (fun w => by ext <;> simp [exposureDelta, sub_eq_add_neg]) hupd
      obtain ⟨rfl, -⟩ := ih h
      rw [shiftWindow_shiftWindow, exposureDelta_add, if_pos hsta, neg_add]
      exact ⟨rfl, .inr hsome⟩
    · rw [if_neg hsta, zero_add]
      exact ih h

theorem cancelUndispatched_change (h : cancelUndispatched handle s = .ok s') :
    Change s (.cancelUndispatched handle) s' := by
  simp only [cancelUndispatched, bind_eq_ok, require_eq_ok, pure_eq_ok] at h
  obtain ⟨r, hfind, -, hudp, s₁, hrelease, rfl⟩ := h
  obtain ⟨rfl, hsome⟩ := releaseReserved_eq_ok hrelease
  exact Change.ofRequest (findRequest_eq_ok hfind).1 (RequestChange.cancel hudp) hsome

theorem silent_eq_ok {result : Except Thrown AuthorityState}
    (h : (do let state ← result; pure (Reply.none, state)) = .ok (reply, s')) :
    result = .ok s' := by
  simp only [bind_eq_ok, pure_eq_ok, Prod.mk.injEq] at h
  obtain ⟨_, hres, -, rfl⟩ := h
  exact hres

theorem replying_eq_ok {result : Except Thrown (α × AuthorityState)} {f : α → Reply}
    (h : (do let (a, state) ← result; pure (f a, state)) = .ok (reply, s')) :
    ∃ a, result = .ok (a, s') ∧ f a = reply := by
  simp only [bind_eq_ok, pure_eq_ok, Prod.mk.injEq] at h
  obtain ⟨⟨a, _⟩, hres, hrpl, rfl⟩ := h
  exact ⟨a, hres, hrpl⟩

/-- **Every transaction** changes the state in one of the ways of `Change`. -/
theorem action_change (h : transaction.action s = .ok (reply, s')) : Change s transaction s' := by
  cases transaction with
  | admitRequest =>
    obtain ⟨_, h, -⟩ := replying_eq_ok h
    exact admitRequest_change h
  | reserveAttempt => exact reserveAttempt_change (silent_eq_ok h)
  | beginDispatch =>
    obtain ⟨_, h, -⟩ := replying_eq_ok h
    exact beginDispatch_change h
  | selection | resetEligible =>
    simp only [Transaction.action, bind_eq_ok, pure_eq_ok, Prod.mk.injEq] at h
    obtain ⟨_, -, -, rfl⟩ := h
    exact Change.unchanged _
  | reselectSubscription =>
    obtain ⟨_, h, -⟩ := replying_eq_ok h
    exact reselectSubscription_change h
  | confirmDispatched => exact confirmDispatched_change (silent_eq_ok h)
  | releaseBeforeDispatch => exact releaseBeforeDispatch_change (silent_eq_ok h)
  | observeProof => exact observeProof_change (silent_eq_ok h)
  | observeTerminal =>
    exact observeTerminal_change (silent_eq_ok h)
  | observeDelivery => exact observeDelivery_change (silent_eq_ok h)
  | observeUsage =>
    exact observeUsage_change (silent_eq_ok h)
  | settle =>
    obtain ⟨_, h, -⟩ := replying_eq_ok h
    exact settle_change h
  | cancelUndispatched => exact cancelUndispatched_change (silent_eq_ok h)

end UbqGateway.Authority
