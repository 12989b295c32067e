import UbqGateway.Authority.Requests

/-!
# Conservation of the window counters

The seven counters of a window are redundant: each is a number that can be read off the admissions
of the window (`Conserved`).  `contribution` is what one admission accounts for, `tally` the sum
over a window.  A change of a request moves its contribution by exactly what it moves the window by
(`RequestChange.contribution_eq`), so the counters and the tally stay equal along every run, in
whatever order kernel and billing settlement arrive.

The exception is a name.  `admissions` and `attempts` are plain objects, and assigning to their
property `__proto__` stores nothing: such an admission or attempt moves the counters and is lost
(`Transaction.Stored` excludes it).
-/

namespace UbqGateway.Authority

open PrincipalWindow

/-! ### What the counters stand for -/

def admissionsOf (s : AuthorityState) (key : WindowKey) : List AdmissionRecord :=
  s.admissions.values.filter fun r => r.windowKey = key

/-- The attempts of the admissions charged to a window. -/
def attemptsOf (s : AuthorityState) (key : WindowKey) : List AttemptRecord :=
  (admissionsOf s key).flatMap fun r => r.attempts.values

/-- Every counter of the window is the number it stands for, and none is negative. -/
structure Conserved (s : AuthorityState) (key : WindowKey) (window : PrincipalWindow) : Prop where
  reserved : window.reserved
    = ((admissionsOf s key).filter fun r => r.dispatched = false ∧ r.settled = false).length
  dispatched : window.dispatched = ((admissionsOf s key).filter fun r => r.dispatched = true).length
  kernelReserved : window.kernelReserved
    = ((admissionsOf s key).filter fun r => r.kernelSettled = false).length
  kernelCompleted : window.kernelCompleted = ((admissionsOf s key).filter fun r =>
    r.kernelSettled = true ∧ r.semantic = some .completed).length
  active : window.active = ((admissionsOf s key).filter fun r => r.settled = false).length
  paidReserved : window.paidReservedMicrocredits = (((attemptsOf s key).filter fun attempt =>
    attempt.state ≠ .notDispatched ∧ attempt.billingSettled = false).map fun attempt =>
      attempt.input.maximumExposureMicrocredits).sum
  paidSettled : window.paidSettledMicrocredits = (((attemptsOf s key).filter fun attempt =>
    attempt.billingSettled = true ∧ attempt.input.provider ≠ .codex).map fun attempt =>
      attempt.settledSpendMicrocredits.getD 0).sum
  paidReserved_nonneg : 0 ≤ window.paidReservedMicrocredits
  paidSettled_nonneg : 0 ≤ window.paidSettledMicrocredits

/-- The transaction stores what it counts: it does not admit a request under the name `__proto__`,
nor reserve exposure for an attempt of that name. -/
def Transaction.Stored : Transaction → Prop
  | .admitRequest input => input.requestId ≠ "__proto__"
  | .reserveAttempt _ input _ =>
    input.attemptId = "__proto__" → input.maximumExposureMicrocredits = 0
  | _ => True

instance : DecidablePred Transaction.Stored
  | .admitRequest _ => inferInstanceAs (Decidable (_ ≠ _))
  | .reserveAttempt .. => inferInstanceAs (Decidable (_ → _))
  | .beginDispatch .. | .selection .. | .reselectSubscription .. | .confirmDispatched ..
  | .releaseBeforeDispatch .. | .observeProof .. | .observeTerminal .. | .observeDelivery ..
  | .observeUsage .. | .resetEligible .. | .settle .. | .cancelUndispatched .. => .isTrue trivial

/-! ### Contributions -/

/-- The exposure an attempt holds. -/
def heldBy (attempt : AttemptRecord) : ℤ :=
  if attempt.state ≠ .notDispatched ∧ attempt.billingSettled = false then
    attempt.input.maximumExposureMicrocredits
  else 0

/-- The spend an attempt was billed. -/
def spentBy (attempt : AttemptRecord) : ℤ :=
  if attempt.billingSettled = true ∧ attempt.input.provider ≠ .codex then
    attempt.settledSpendMicrocredits.getD 0
  else 0

def attemptShare (attempt : AttemptRecord) : PrincipalWindow :=
  { (0 : PrincipalWindow) with
    paidReservedMicrocredits := heldBy attempt
    paidSettledMicrocredits := spentBy attempt }

/-- What the flags of an admission account for. -/
def flagShare (dispatched settled kernelSettled : Bool) (semantic : Option SemanticTerminal) :
    PrincipalWindow :=
  { (0 : PrincipalWindow) with
    reserved := if dispatched = false ∧ settled = false then 1 else 0
    dispatched := if dispatched = true then 1 else 0
    kernelReserved := if kernelSettled = false then 1 else 0
    kernelCompleted := if kernelSettled = true ∧ semantic = some .completed then 1 else 0
    active := if settled = false then 1 else 0 }

def contribution (r : AdmissionRecord) : PrincipalWindow :=
  flagShare r.dispatched r.settled r.kernelSettled r.semantic +
    r.attempts.sum fun _ attempt => attemptShare attempt

/-- What the admissions of a window account for. -/
def tally (s : AuthorityState) (key : WindowKey) : PrincipalWindow :=
  s.admissions.sum fun _ r => if r.windowKey = key then contribution r else 0

/-- The counters of a window, all zero before its first admission. -/
def windowAt (s : AuthorityState) (key : WindowKey) : PrincipalWindow :=
  (s.windows.lookup key).getD 0

theorem windowAt_shiftWindow {key : WindowKey} {d : PrincipalWindow}
    (h : d = 0 ∨ (s.windows.lookup key).isSome = true) (other : WindowKey) :
    windowAt (shiftWindow s key d) other = windowAt s other + if other = key then d else 0 := by
  unfold windowAt
  rw [lookup_shiftWindow]
  by_cases ho : other = key
  · subst ho
    rw [if_pos rfl, if_pos rfl]
    cases hw : s.windows.lookup other with
    | some window => rfl
    | none =>
      rcases h with rfl | h
      · rfl
      · rw [hw] at h
        cases h
  · rw [if_neg ho, if_neg ho, add_zero]

theorem windowAt_insert (s : AuthorityState) (key : WindowKey) (window : PrincipalWindow)
    (other : WindowKey) : windowAt { s with windows := s.windows.insert key window } other
      = if other = key then window else windowAt s other := by
  unfold windowAt
  rw [Record.lookup_insert]
  split_ifs <;> rfl

theorem tally_putRequest (hr : s.admissions.lookup handle.requestId = some r)
    (hkey : r'.windowKey = r.windowKey) (key : WindowKey) : tally (putRequest s handle r') key
      = tally s key + if key = r.windowKey then contribution r' - contribution r else 0 := by
  have h := Record.sum_insert_old (w := fun (_ : String) (r : AdmissionRecord) =>
    if r.windowKey = key then contribution r else 0) hr r'
  change tally (putRequest s handle r') key + _ = tally s key + _ at h
  rw [eq_sub_of_add_eq h, hkey]
  by_cases hk : key = r.windowKey
  · rw [if_pos hk.symm, if_pos hk.symm, if_pos hk]
    abel
  · rw [if_neg (Ne.symm hk), if_neg (Ne.symm hk), if_neg hk]
    abel

/-! ### One step -/

variable {attempts : Record String AttemptRecord}

theorem attempts_sum_insert {id : String} {old : AttemptRecord} (h : attempts.lookup id = some old)
    (new : AttemptRecord) : (attempts.insert id new).sum (fun _ attempt => attemptShare attempt)
      = attempts.sum (fun _ attempt => attemptShare attempt) +
        (attemptShare new - attemptShare old) := by
  have hsum := Record.sum_insert_old (fun (_ : String) attempt => attemptShare attempt) h new
  rw [eq_sub_of_add_eq hsum, add_sub_assoc]

theorem attemptShare_fresh (input : AttemptInput) :
    attemptShare (freshAttempt input) = exposureDelta input.maximumExposureMicrocredits := by
  simp [attemptShare, heldBy, spentBy, freshAttempt, exposureDelta]

theorem attemptShare_undispatched (hbld : attempt.billingSettled = false)
    (hsta : attempt.state ≠ .dispatchIntent ∧ attempt.state ≠ .dispatched) :
    attemptShare attempt = exposureDelta
      (if attempt.state = .reserved then attempt.input.maximumExposureMicrocredits else 0) := by
  cases h : attempt.state with
  | reserved | notDispatched => simp [attemptShare, heldBy, spentBy, exposureDelta, hbld, h]
  | dispatchIntent => exact absurd h hsta.1
  | dispatched => exact absurd h hsta.2

theorem attemptShare_billed (spend : Option ℤ) (hsta : attempt.state = .dispatched) :
    attemptShare (billed attempt spend) = attemptShare attempt + billingDelta attempt spend := by
  unfold billed billingDelta
  cases spend with
  | none => rw [add_zero]
  | some amount =>
    by_cases hbld : attempt.billingSettled = true
    · simp only [if_pos hbld, add_zero]
    · have hunb : attempt.billingSettled = false := Bool.eq_false_iff.mpr hbld
      simp only [if_neg hbld]
      ext <;> simp [attemptShare, heldBy, spentBy, hsta, hunb]

theorem flagShare_kernel (r : AdmissionRecord) (semantic : Option SemanticTerminal)
    (h : r.kernelSettled = true → semantic = r.semantic) :
    flagShare r.dispatched r.settled true semantic
      = flagShare r.dispatched r.settled r.kernelSettled r.semantic + kernelDelta r semantic := by
  unfold kernelDelta
  by_cases hk : r.kernelSettled = true
  · rw [if_pos hk, add_zero, h hk, hk]
  · rw [if_neg hk, Bool.eq_false_iff.mpr hk]
    ext <;> simp [flagShare]

theorem attempts_sum_assign (hnew : attempts.lookup input.attemptId = none)
    (hst : input.attemptId = "__proto__" → input.maximumExposureMicrocredits = 0) :
    (assign attempts input.attemptId (freshAttempt input)).sum
        (fun _ attempt => attemptShare attempt)
      = attempts.sum (fun _ attempt => attemptShare attempt) +
        exposureDelta input.maximumExposureMicrocredits := by
  unfold assign
  split_ifs with hprt
  · rw [hst hprt, exposureDelta_zero, add_zero]
  · rw [Record.sum_insert_new _ hnew, attemptShare_fresh]

/-- Reserving exposure is additive. -/
def exposureHom : ℤ →+ PrincipalWindow where
  toFun := exposureDelta
  map_zero' := exposureDelta_zero
  map_add' a b := (exposureDelta_add a b).symm

section

variable (hr : RequestOk r)
  (hudp : ∀ attempt ∈ r.attempts.values, attempt.state ≠ .dispatchIntent ∧
    attempt.state ≠ .dispatched)

include hr hudp

theorem attempts_sum_undispatched : r.attempts.sum (fun _ attempt => attemptShare attempt)
      = exposureDelta (heldExposure r.attempts.values) := by
  have hheld : heldExposure r.attempts.values = r.attempts.sum fun _ attempt =>
      if attempt.state = .reserved then attempt.input.maximumExposureMicrocredits else 0 := by
    simp only [heldExposure, Record.values, Record.sum, List.map_map]
    rfl
  rw [hheld]
  refine (Record.sum_congr fun id attempt h => ?_).trans (Record.map_sum exposureHom _ _).symm
  have hmem := mem_values_of_lookup h
  have hsta := hudp attempt hmem
  exact attemptShare_undispatched ((hr.attempts attempt hmem).unbilled hsta.2) hsta

theorem attempts_sum_cancelled :
    r.attempts.sum (fun _ attempt => attemptShare { attempt with state := .notDispatched })
      = 0 := by
  refine (Record.sum_congr fun id attempt h => ?_).trans (Record.sum_zero _)
  have hmem := mem_values_of_lookup h
  have hbld := (hr.attempts attempt hmem).unbilled (hudp attempt hmem).2
  simp [attemptShare, heldBy, spentBy, hbld]
  rfl

end

theorem RequestOk.open_of_intent (hr : RequestOk r) (hdisp : r.dispatched ≠ true)
    (hmem : attempt ∈ r.attempts.values)
    (hsta : attempt.state = .dispatchIntent ∨ attempt.state = .dispatched) :
    r.settled = false := by
  refine Bool.eq_false_iff.mpr fun hset => ?_
  have hatt := hr.attempts attempt hmem
  rcases hsta with hint | hsent
  · -- settling waits for every intent to be resolved
    have hrsv := hatt.resolved hset
    simp [AttemptRecord.unresolved, hint] at hrsv
  · exact hdisp (hatt.dispatched hsent)

theorem flagShare_terminal (hr : RequestOk r)
    (hsem : finalAttempt = true → ∀ semantic ∈ r.semantic, semantic = outcome) :
    flagShare r.dispatched r.settled (r.kernelSettled || finalAttempt)
        (if finalAttempt = true then some outcome else r.semantic)
      = flagShare r.dispatched r.settled r.kernelSettled r.semantic +
        if finalAttempt = true then kernelDelta r (some outcome) else 0 := by
  cases finalAttempt with
  | true =>
    rw [if_pos rfl, if_pos rfl, Bool.or_true]
    refine flagShare_kernel r _ fun hker => ?_
    -- what was settled before was settled with the same outcome
    obtain ⟨semantic, hs⟩ := Option.ne_none_iff_exists'.mp (hr.kernel hker)
    rw [hs, hsem rfl semantic hs]
  | false => rw [if_neg Bool.false_ne_true, if_neg Bool.false_ne_true, Bool.or_false, add_zero]

/-- **A change of a request moves its contribution by what it moves the window by.** -/
theorem RequestChange.contribution_eq (hr : RequestOk r) (hst : tx.Stored)
    (h : RequestChange s handle r tx r' delta) : contribution r' = contribution r + delta := by
  unfold contribution
  cases h with
  | reserveSubscription _ _ _ hnew _ _ hexpo =>
    dsimp only
    rw [attempts_sum_assign hnew hst, hexpo, exposureDelta_zero, add_zero, add_zero]
  | reservePaid _ _ _ _ _ hnew =>
    dsimp only
    rw [attempts_sum_assign hnew hst, add_assoc]
  | begin _ _ attempt hatt hsta =>
    have hshare : attemptShare { attempt with state := .dispatchIntent }
        = attemptShare attempt := by
      simp [attemptShare, heldBy, spentBy, hsta]
    dsimp only
    rw [attempts_sum_insert hatt, hshare, sub_self, add_zero, add_zero]
  | reselect | delivery => exact (add_zero _).symm
  | confirm _ attempt hatt hsta =>
    have hshare : attemptShare { attempt with state := .dispatched } = attemptShare attempt := by
      rcases hsta with hsta | hsta <;> simp [attemptShare, heldBy, spentBy, hsta]
    dsimp only
    rw [attempts_sum_insert hatt, hshare, sub_self, add_zero, add_right_comm]
    refine congrArg (· + _) ?_
    by_cases hdisp : r.dispatched = true
    · rw [if_pos hdisp, hdisp, add_zero]
    · have hopen := hr.open_of_intent hdisp (mem_values_of_lookup hatt) hsta
      rw [if_neg hdisp, Bool.eq_false_iff.mpr hdisp, hopen]
      ext <;> simp [flagShare]
  | release _ attempt hatt hsta =>
    have hbld : attempt.billingSettled = false := by
      refine (hr.attempts attempt (mem_values_of_lookup hatt)).unbilled ?_
      rw [hsta]
      decide
    have hshare : attemptShare { attempt with state := .notDispatched } - attemptShare attempt
        = exposureDelta (-attempt.input.maximumExposureMicrocredits) := by
      refine sub_eq_of_eq_add' ?_
      ext <;> simp [attemptShare, heldBy, spentBy, hsta, hbld, exposureDelta]
    dsimp only
    rw [attempts_sum_insert hatt, hshare, add_assoc]
  | terminal _ evidence _ attempt hatt hsta _ hsem =>
    have hshare : attemptShare (billed { attempt with terminal := some evidence }
        evidence.spendMicrocredits) - attemptShare attempt
        = billingDelta attempt evidence.spendMicrocredits := by
      rw [@attemptShare_billed { attempt with terminal := some evidence } _ hsta]
      exact add_sub_cancel_left _ _
    dsimp only
    rw [attempts_sum_insert hatt, hshare, flagShare_terminal hr hsem]
    abel
  | usage _ _ _ _ hatt hsta =>
    dsimp only
    rw [attempts_sum_insert hatt, attemptShare_billed _ hsta, add_sub_cancel_left, add_assoc]
  | settle hopen =>
    dsimp only
    rw [add_right_comm, ← add_assoc]
    refine congrArg (· + _) ?_
    have hker := flagShare_kernel { r with settled := true } r.semantic fun _ => rfl
    dsimp only at hker
    rw [hker, hopen]
    refine congrArg (· + _) ?_
    cases r.dispatched <;> ext <;> simp [flagShare]
  | cancel hudp =>
    dsimp only
    rw [Record.sum_mapValues, attempts_sum_undispatched hr hudp, add_assoc,
      exposureDelta_add, add_neg_cancel, exposureDelta_zero, add_zero,
      attempts_sum_cancelled hr hudp, add_zero]
    cases hs : r.semantic with
    | some outcome => rfl
    | none =>
      -- the outcome counts for the kernel only once the charge is settled
      have hker : r.kernelSettled = false :=
        Bool.eq_false_iff.mpr fun hker => hr.kernel hker hs
      rw [hker]
      rfl

/-! ### Runs -/

theorem RequestChange.windowKey_eq (h : RequestChange s handle r tx r' delta) :
    r'.windowKey = r.windowKey := by
  cases h <;> rfl

@[simp]
theorem admittedRecord_windowKey (input : AdmitInput) (policy : PrincipalPolicy)
    (account : Option AccountBinding) (s : AuthorityState) :
    (admittedRecord input policy account s).windowKey
      = ⟨input.principalId, policy.windowResetAtMs⟩ := rfl

theorem contribution_admittedRecord (input : AdmitInput) (policy : PrincipalPolicy)
    (account : Option AccountBinding) (s : AuthorityState) :
    contribution (admittedRecord input policy account s)
      = { (0 : PrincipalWindow) with reserved := 1, kernelReserved := 1, active := 1 } := by
  ext <;> simp [contribution, admittedRecord, flagShare]

/-- **A transaction keeps counters and tally equal.** -/
theorem AuthorityStep.windowAt_eq_tally (h : AuthorityStep s c s') (hst : c.transaction.Stored)
    (hok : EveryRequest RequestOk s) (hs : ∀ key, windowAt s key = tally s key) (key : WindowKey) :
    windowAt s' key = tally s' key := by
  obtain ⟨transaction, reply⟩ := c
  have hcs : Change s transaction s' := h.change
  cases hcs with
  | unchanged | proof => exact hs key
  | admitted input policy _ account active hnew _ hwin =>
    -- the request is stored, so the tally grows by the contribution of a fresh request
    change input.requestId ≠ "__proto__" at hst
    have htally := Record.sum_insert_new (fun (_ : String) (r : AdmissionRecord) =>
      if r.windowKey = key then contribution r else 0) hnew
      (admittedRecord input policy account { s with active := active })
    change _ = tally s key + _ at htally
    unfold windowAt tally
    dsimp only
    rw [assign, if_neg hst, htally, Record.lookup_insert, contribution_admittedRecord,
      admittedRecord_windowKey, ← hs key]
    by_cases hk : key = ⟨input.principalId, policy.windowResetAtMs⟩
    · rw [if_pos hk, if_pos hk.symm, hwin, ← hk]
      ext <;> simp [windowAt] <;> rfl
    · rw [if_neg hk, if_neg (Ne.symm hk), add_zero]
      rfl
  | request handle r _ _ delta active hr hreq hwin =>
    -- both sides move by `delta`, in the window of the request and nowhere else
    have hcontribution := hreq.contribution_eq (hok _ r hr) hst
    have hlk : { shiftWindow s r.windowKey delta with active := active }.admissions.lookup
        handle.requestId = some r := by
      rw [← hr, shiftWindow_admissions]
    rw [tally_putRequest hlk hreq.windowKey_eq key, hcontribution, add_sub_cancel_left]
    change windowAt (shiftWindow s r.windowKey delta) key
      = tally (shiftWindow s r.windowKey delta) key + _
    rw [windowAt_shiftWindow hwin, hs key]
    unfold tally
    rw [shiftWindow_admissions]

/-! ### The counters, one by one -/

variable (φ : PrincipalWindow →+ ℤ)

theorem tally_map (s : AuthorityState) (key : WindowKey) :
    φ (tally s key) = ((admissionsOf s key).map fun r => φ (contribution r)).sum := by
  unfold tally
  rw [Record.sum_ite, map_list_sum, List.map_map]
  rfl

theorem length_filter_eq_sum (p : AdmissionRecord → Prop) [DecidablePred p]
    (requests : List AdmissionRecord) :
    ((requests.filter p).length : ℤ) = (requests.map fun r => if p r then 1 else 0).sum := by
  induction requests with
  | nil => rfl
  | cons r _ ih =>
    rw [List.filter_cons, List.map_cons, List.sum_cons, ← ih]
    by_cases hp : p r
    · simp [hp, add_comm]
    · simp [hp]

theorem sum_flatMap_attempts (p : AttemptRecord → Prop) [DecidablePred p] (f : AttemptRecord → ℤ)
    (requests : List AdmissionRecord) :
    (((requests.flatMap fun r => r.attempts.values).filter p).map f).sum
      = (requests.map fun r =>
        r.attempts.sum fun _ attempt => if p attempt then f attempt else 0).sum := by
  induction requests with
  | nil => rfl
  | cons _ _ ih =>
    rw [List.flatMap_cons, List.filter_append, List.map_append, List.sum_append, ih, List.map_cons,
      List.sum_cons, Record.sum_ite]

theorem contribution_map (r : AdmissionRecord) :
    φ (contribution r) = φ (flagShare r.dispatched r.settled r.kernelSettled r.semantic) +
      r.attempts.sum fun _ attempt => φ (attemptShare attempt) := by
  unfold contribution
  rw [map_add, Record.map_sum]

theorem tally_count {p : AdmissionRecord → Prop} [DecidablePred p]
    (hflg : ∀ r, φ (flagShare r.dispatched r.settled r.kernelSettled r.semantic)
      = if p r then 1 else 0)
    (hatts : ∀ attempt, φ (attemptShare attempt) = 0) (s : AuthorityState) (key : WindowKey) :
    φ (tally s key) = ((admissionsOf s key).filter p).length := by
  rw [tally_map, length_filter_eq_sum]
  refine congrArg List.sum (List.map_congr_left fun r _ => ?_)
  rw [contribution_map, hflg, Record.sum_congr fun _ attempt _ => hatts attempt,
    Record.sum_zero, add_zero]

theorem tally_amount [DecidablePred p] (hflg : ∀ d t k m, φ (flagShare d t k m) = 0)
    (hatts : ∀ attempt, φ (attemptShare attempt) = if p attempt then f attempt else 0)
    (s : AuthorityState) (key : WindowKey) :
    φ (tally s key) = (((attemptsOf s key).filter p).map f).sum := by
  rw [tally_map, attemptsOf, sum_flatMap_attempts]
  refine congrArg List.sum (List.map_congr_left fun r _ => ?_)
  rw [contribution_map, hflg, zero_add]
  exact Record.sum_congr fun _ attempt _ => hatts attempt

/-- The tally of a window is what its requests add up to. -/
theorem conserved_tally (hok : EveryRequest RequestOk s) (key : WindowKey) :
    Conserved s key (tally s key) := by
  have hatt : ∀ attempt ∈ attemptsOf s key, ∃ dispatched settled,
      AttemptOk dispatched settled attempt := by
    intro attempt hmem
    obtain ⟨r, hr, hmem⟩ := List.mem_flatMap.mp hmem
    obtain ⟨id, hid⟩ := (s.admissions.mem_values_iff r).mp (List.mem_of_mem_filter hr)
    exact ⟨_, _, (hok id r hid).attempts attempt hmem⟩
  have hres := tally_amount (AddMonoidHom.mk' paidReservedMicrocredits
    fun _ _ => rfl) (fun _ _ _ _ => rfl) (fun attempt => rfl) s key
  have hset := tally_amount (AddMonoidHom.mk' paidSettledMicrocredits
    fun _ _ => rfl) (fun _ _ _ _ => rfl) (fun attempt => rfl) s key
  refine ⟨?_, ?_, ?_, ?_, ?_, hres, hset, ?_, ?_⟩
  · exact tally_count (AddMonoidHom.mk' reserved fun _ _ => rfl)
      (fun r => rfl) (fun _ => rfl) s key
  · exact tally_count (AddMonoidHom.mk' dispatched fun _ _ => rfl)
      (fun r => rfl) (fun _ => rfl) s key
  · exact tally_count (AddMonoidHom.mk' kernelReserved fun _ _ => rfl)
      (fun r => rfl) (fun _ => rfl) s key
  · exact tally_count (AddMonoidHom.mk' kernelCompleted fun _ _ => rfl)
      (fun r => rfl) (fun _ => rfl) s key
  · exact tally_count (AddMonoidHom.mk' active fun _ _ => rfl) (fun r => rfl) (fun _ => rfl) s key
  · refine (List.sum_nonneg fun x hx => ?_).trans_eq hres.symm
    obtain ⟨attempt, hmem, rfl⟩ := List.mem_map.mp hx
    obtain ⟨_, _, hatt⟩ := hatt attempt (List.mem_of_mem_filter hmem)
    exact hatt.exposure
  · refine (List.sum_nonneg fun x hx => ?_).trans_eq hset.symm
    obtain ⟨attempt, hmem, rfl⟩ := List.mem_map.mp hx
    obtain ⟨_, _, hatt⟩ := hatt attempt (List.mem_of_mem_filter hmem)
    cases hsp : attempt.settledSpendMicrocredits with
    | none => rfl
    | some spend => exact hatt.spend spend hsp

theorem AuthorityRun.windowAt_eq_tally
    (hw : AuthorityRun (createAuthorityState scope accounts policies) w)
    (hst : ∀ s c s', CommittedStep w s c s' → c.transaction.Stored) (hs : stateOf w = some s)
    (key : WindowKey) : windowAt s key = tally s key := by
  obtain ⟨s₁, hs₁, -, h⟩ := AuthorityRun.induction (P := fun w s => EveryRequest RequestOk s ∧
      ((∀ s c s', CommittedStep w s c s' → c.transaction.Stored) →
        ∀ key, windowAt s key = tally s key))
    (fun t => ⟨fun id r h => absurd h (by simp [createAuthorityState]), fun _ key => rfl⟩)
    (fun w s _ h => h)
    (fun w s c s' hs ih hstep => by
      obtain ⟨hok, ih⟩ := ih
      refine ⟨hstep.everyRequest requestOk_admittedRecord RequestOk.step hok, fun hst => ?_⟩
      exact hstep.windowAt_eq_tally
        (hst _ _ _ ((committedStep_commit_iff hs).mpr (.inl ⟨rfl, rfl, rfl⟩))) hok
        (ih fun s₁ d s₂ h => hst s₁ d s₂ ((committedStep_commit_iff hs).mpr (.inr h))))
    hw
  cases hs.symm.trans hs₁
  exact h hst key

/-- **Conservation**: in every state the service reaches through transactions that store what they
count, every counter of every window is the number it stands for. -/
theorem windows_conserved (scope : AuthorityScope) (accounts : List AccountBinding)
    (policies : List PrincipalPolicy) (sys : AuthoritySystem)
    (h : AuthorityReachable (createAuthorityState scope accounts policies) sys)
    (hst : ∀ s c s', CommittedStep sys.world s c s' → c.transaction.Stored) (s : AuthorityState)
    (hs : stateOf sys.world = some s) (key : WindowKey) (window : PrincipalWindow)
    (hwin : s.windows.lookup key = some window) : Conserved s key window := by
  have hrun := reachable_run h
  have hcounters := hrun.windowAt_eq_tally hst hs key
  rw [windowAt, hwin, Option.getD_some] at hcounters
  rw [hcounters]
  exact conserved_tally (hrun.requestOk hs) key

/-! ### A sample service -/

def sampleScope : AuthorityScope := ⟨"gateway", 1⟩

/-- An account that serves one model. -/
def sampleAccount : AccountBinding where
  accountId := "account"
  fingerprint := "fingerprint"
  credentialGeneration := 1
  routingGeneration := 1
  resetGeneration := 1
  overageVersion := 1
  overageEnabled := false
  enabled := true
  models := ["model"]
  proof := none

/-- A policy with room for a few requests. -/
def samplePolicy : PrincipalPolicy where
  principalId := "principal"
  version := 1
  deleted := false
  windowResetAtMs := 1000
  requestLimit := 5
  kernelLimit := 5
  concurrencyLimit := 5
  paidLimitMicrocredits := 100

/-- The state the sample service starts from. -/
def sampleState : AuthorityState := createAuthorityState sampleScope [sampleAccount] [samplePolicy]

def sampleKey : WindowKey := ⟨"principal", 1000⟩

def sampleAdmit (requestId : String) : AdmitInput where
  scope := sampleScope
  requestId := requestId
  principalId := "principal"
  policyVersion := 1
  digest := "digest"
  route := .responses
  model := "model"
  nowMs := 10

theorem windows_conserved_admitted : ∃ sys s window, AuthorityReachable sampleState sys ∧
    stateOf sys.world = some s ∧ s.windows.lookup sampleKey = some window ∧ window.reserved = 2 ∧
    Conserved s sampleKey window := by
  have hrun : RunsTo sampleState
      [.admitRequest (sampleAdmit "first"), .admitRequest (sampleAdmit "second")]
      fun steps s => s.windows.lookup sampleKey = some ⟨2, 0, 2, 0, 2, 0, 0⟩ ∧
        ∀ step ∈ steps, step.commit.transaction.Stored := by decide
  obtain ⟨sys, s, steps, hsys, hs, hstps, hwin, hst⟩ := hrun.reachable
  refine ⟨sys, s, _, hsys, hs, hwin, rfl, ?_⟩
  refine windows_conserved sampleScope [sampleAccount] [samplePolicy] sys hsys
    (fun s₁ c s₂ h => ?_) s hs sampleKey _ hwin
  exact hst _ ((hstps s₁ c s₂).mp h)

/-- A request of the name `__proto__` is counted and not stored. -/
theorem proto_request_not_conserved : ¬ ∀ (scope : AuthorityScope) (accounts : List AccountBinding)
    (policies : List PrincipalPolicy) (sys : AuthoritySystem),
    AuthorityReachable (createAuthorityState scope accounts policies) sys →
    ∀ s, stateOf sys.world = some s → ∀ key window, s.windows.lookup key = some window →
      Conserved s key window := by
  intro h
  have hrun : RunsTo sampleState [.admitRequest (sampleAdmit "__proto__")]
      fun _ s => s.windows.lookup sampleKey = some ⟨1, 0, 1, 0, 1, 0, 0⟩ ∧
        admissionsOf s sampleKey = [] := by decide
  obtain ⟨sys, s, -, hsys, hs, -, hwin, hno⟩ := hrun.reachable
  have hres := (h _ _ _ sys hsys s hs sampleKey _ hwin).reserved
  rw [hno] at hres
  exact absurd hres (by decide)

end UbqGateway.Authority
