import UbqGateway.Library.Schedule
import UbqGateway.Paid.Scans
import UbqGateway.Paid.Erasure
import UbqGateway.Paid.Sweep

/-!
# The paid fallback as a service

Any number of clients run the operations of the paid fallback against one store: sessions of
requests, reconciliations, backfills, deletions and changes of a key's policy.  A session admits its
request and then makes any number of steps with the reservation it was given, each of which may
fail. `paidReachable_run` reduces the interleaved system to its history: every commit is a
`PaidStep` of the world it is made in.  The store may hold rows at first (`PaidStart`).
-/

namespace UbqGateway.Paid

open ClientM

/-! ### Operations -/

inductive SessionStep
  | update (patch : PaidFallbackRequestLifecyclePatchV3)
  | release (allowDispatchIntent : Bool)
  | markTerminal (terminalState : TerminalState) (provider : Option PaidFallbackProvider)
  | expedite
  | settleUsage (usage : PaidFallbackUsageSettlementV3)

def SessionStep.perform (reservation : PaidFallbackAdmissionV3) : SessionStep → PaidM Unit
  | .update patch => updatePaidFallbackRequestV3 reservation patch
  | .release allowDispatchIntent =>
    releasePaidFallbackBeforeDispatchV3 reservation allowDispatchIntent
  | .markTerminal terminalState provider =>
    markPaidFallbackTerminalV3 reservation terminalState provider
  | .expedite => do
    let now ← dateNow
    expeditePaidFallbackReconciliationV3 reservation now
  | .settleUsage usage => do
    let _ ← settlePaidFallbackUsageV3 reservation usage

/-- The steps of a session, one after the other; a step that throws does not end the session. -/
def performSteps (reservation : PaidFallbackAdmissionV3) : List SessionStep → PaidM Unit
  | [] => return ()
  | step :: steps => do
    let _ ← outcomeOf (step.perform reservation)
    performSteps reservation steps

/-- A session: the policy of the key is read, the request is admitted, and the steps follow. -/
def performSession (input : NativePaidAdmissionInput) (fenced : Bool) (steps : List SessionStep) :
    PaidM PaidFallbackAdmissionResult := do
  let policyEntry ← kvGetIf fenced (.policy input.keyId)
  let admission ← admitPaidFallbackV3
    { input with policyCheck := policyEntry.map fun entry => ⟨.policy input.keyId, entry⟩ }
  match admission with
  | .blocked reason => return .blocked reason
  | .reserved reservation =>
    performSteps reservation steps
    return .reserved reservation

inductive PaidOperation
  | changePolicy (keyId record : String)
  | session (input : NativePaidAdmissionInput) (fenced : Bool) (steps : List SessionStep)
  | reconcile (token : String) (logs : MeteredTokenLogs) (keyId : String)
  | reconcileDue (token : String) (logs : MeteredTokenLogs)
  | recomputeGate
  | backfillPass (limit scanBudget : ℕ)
  | backfill (force : Bool) (limit : Option ℤ) (token : String)
  | backfillWindows (limit : Option ℤ)
  | delete (keyId : String)

/-- What an operation answers. -/
inductive PaidReply
  | done
  | admission (result : PaidFallbackAdmissionResult)
  | settled (count : ℕ)
  | pass (limit scanBudget : ℕ) (result : PaidFallbackRollupBackfillResult)
  | deletion (keyId : String) (result : PaidFallbackDeletionV3)
deriving DecidableEq

/-- The program of an operation that looks at `fuel` entries of a listing. -/
def PaidOperation.invoke (fuel : ℕ) : PaidOperation → PaidM PaidReply
  | .changePolicy keyId record => do
    let _ ← kvCommit (.policy keyId) [] [.set (.policy keyId) (.policy record)]
    return .done
  | .session input fenced steps => do
    let result ← performSession input fenced steps
    return .admission result
  | .reconcile token logs keyId => do
    let now ← dateNow
    let count ← reconcilePaidFallbackV3 fuel token logs keyId now false
    return .settled count
  | .reconcileDue token logs => do
    let now ← dateNow
    let count ← reconcileDuePaidFallbacksV3 fuel token logs now
    return .settled count
  | .recomputeGate => do
    let _ ← recomputePaidFallbackReconciliationGateV3 fuel
    return .done
  | .backfillPass limit scanBudget => do
    let nowMs ← dateNow
    let result ← Paid.backfillPass fuel limit scanBudget nowMs
    return .pass limit scanBudget result
  | .backfill force limit token => do
    let _ ← runPaidFallbackBackfillV3 fuel force limit token
    return .done
  | .backfillWindows limit => do
    let nowMs ← dateNow
    let _ ← backfillPaidFallbackWindowTtls fuel limit nowMs
    return .done
  | .delete keyId => do
    let result ← deletePaidFallbackStateV3 fuel keyId
    return .deletion keyId result

/-! ### Guarantees of the operations -/

theorem settlePaidFallbackUsageV3_wp
    (hkn : Known w.store reservation.keyId reservation.requestId) :
    PaidGuarantees clockOk (settlePaidFallbackUsageV3 reservation usage) w := by
  refine dateNow_bind fun v hwv hv now hnow => ?_
  exact Guarantees.bind (settlePaidFallbackRequestV3_wp ⟨hnow, hkn.le hwv hv⟩)
    fun _ _ _ => by trivial

theorem SessionStep.perform_wp (step : SessionStep)
    (hbd : Bound w.store reservation.keyId reservation.requestId reservation.windowResetAtMs) :
    PaidGuarantees clockOk (step.perform reservation) w := by
  cases step with
  | update => exact updatePaidFallbackRequestV3_wp
  | release => exact releasePaidFallbackBeforeDispatchV3_wp hbd
  | markTerminal =>
    refine Guarantees.bind updatePaidFallbackRequestV3_wp fun u _ _ => ?_
    exact dateNow_bind fun v _ _ now hnow => expeditePaidFallbackReconciliationV3_wp hnow
  | expedite => exact dateNow_bind fun v _ _ now hnow =>
    expeditePaidFallbackReconciliationV3_wp hnow
  | settleUsage =>
    exact Guarantees.bind (settlePaidFallbackUsageV3_wp hbd.1) fun _ _ _ => by trivial

theorem performSteps_wp : ∀ {w : PaidWorld}, Bound w.store reservation.keyId reservation.requestId
      reservation.windowResetAtMs → PaidGuarantees clockOk (performSteps reservation steps) w := by
  induction steps with
  | nil => exact fun _ => trivial
  | cons step _ ih =>
    intro w hbd
    refine outcomeOf_bind (Wp.frame (R := fun v => Bound v.store reservation.keyId
      reservation.requestId reservation.windowResetAtMs) (fun _ _ h hle hrun => h.le hle hrun)
      hbd (step.perform_wp hbd)) fun v _ _ hv => ih hv.1

theorem performSession_wp : PaidGuarantees clockOk (performSession input fenced steps) w := by
  refine kvGetIf_bind fun u _ policyEntry _ _ => ?_
  refine Wp.seq admitPaidFallbackV3_wp (fun v admission _ hv => ?_) fun _ _ _ _ => trivial
  cases admission with
  | blocked => trivial
  | reserved => exact Guarantees.bind (performSteps_wp hv) fun _ _ _ => by trivial

/-- What an operation that starts in the world `w` ends with. -/
def PaidPost (w v : PaidWorld) : Except String PaidReply → Prop
  | .ok (.pass limit scanBudget result) => PassPost w limit scanBudget v (.ok result)
  | .ok (.deletion keyId result) => DeletionPost keyId v (.ok result)
  | _ => True

/-- **Every operation** commits steps only. -/
theorem PaidOperation.invoke_wp (fuel : ℕ) (operation : PaidOperation) (w : PaidWorld) :
    PaidWp clockOk (PaidPost w) (operation.invoke fuel) w := by
  -- most operations answer with nothing that is relied on
  have hpln : ∀ {α : Type} {x : PaidM α} {u : PaidWorld} {reply : α → PaidReply},
      (∀ v a, PaidPost w v (.ok (reply a))) → PaidGuarantees clockOk x u →
      PaidWp clockOk (PaidPost w) (do let a ← x; return reply a) u :=
    fun hpost hx => Wp.seq hx (fun v a _ _ => hpost v a) fun _ _ _ _ => trivial
  cases operation with
  | changePolicy =>
    refine hpln (fun _ _ => trivial) ?_
    exact kvCommit_auxiliary
  | session => exact hpln (fun _ _ => trivial) performSession_wp
  | reconcile =>
    exact dateNow_bind fun v _ _ now hnow =>
      hpln (fun _ _ => trivial) (reconcilePaidFallbackV3_wp hnow)
  | reconcileDue =>
    exact dateNow_bind fun v _ _ now hnow =>
      hpln (fun _ _ => trivial) (reconcileDuePaidFallbacksV3_wp hnow)
  | recomputeGate =>
    exact hpln (fun _ _ => trivial) recomputePaidFallbackReconciliationGateV3_wp
  | backfillPass =>
    refine dateNow_bind fun v hwv _ nowMs _ => ?_
    refine Wp.seq backfillPass_wp (fun t result _ ht => ?_) fun _ _ _ _ => trivial
    have hflds := foldings_le hwv
    refine ⟨ht.1, (Nat.add_le_add_right hflds _).trans ht.2.1,
      fun htrc hfail hlmt htwo hvan => ?_⟩
    refine (ht.2.2 htrc hfail hlmt htwo fun n n' hn => ?_).imp id ?_
    · exact hvan n n' (hwv.length_le.trans hn)
    · rintro ⟨n, hn, hrest⟩
      exact ⟨n, hwv.length_le.trans hn, hrest⟩
  | backfill =>
    exact hpln (fun _ _ => trivial) runPaidFallbackBackfillV3_wp
  | backfillWindows =>
    exact dateNow_bind fun v _ _ nowMs _ =>
      hpln (fun _ _ => trivial) backfillPaidFallbackWindowTtls_wp
  | delete =>
    exact Wp.seq deletePaidFallbackStateV3_wp (fun v result _ hv => hv) fun _ _ _ _ => trivial

/-! ### The system -/

/-- The clients of the paid fallback and their store. -/
abbrev PaidSystem := System PaidKey PaidValue PaidCommit (Except String PaidReply)

/-- The program of an operation that looks at `fuel` entries of a listing. -/
def paidProgram (run : ℕ × PaidOperation) :
    Prog PaidKey PaidValue PaidCommit (Except String PaidReply) :=
  (run.2.invoke run.1).run

/-- The systems that the clients can reach from the store `kv₀`; `clockOk` relates the time to what
a clock may show. -/
def PaidReachable (clockOk : ℤ → ℤ → Prop) (kv₀ : PaidKv) (sys : PaidSystem) : Prop :=
  Reachable clockOk (Set.range paidProgram) kv₀ sys

section Reachable

theorem paidProgram_wp : ∀ p ∈ Set.range paidProgram, ∀ w : PaidWorld, PaidRun clockOk w →
    Wp clockOk PaidStart (PaidStep clockOk) (PaidPost w) p w := by
  rintro _ ⟨⟨fuel, operation⟩, rfl⟩ w -
  exact operation.invoke_wp fuel w

/-- **The history of the interleaved service is a sequence of steps.** -/
theorem paidReachable_run (hstr : PaidStart kv₀) (h : PaidReachable clockOk kv₀ sys) :
    PaidRun clockOk sys.world :=
  (Reachable.clients (Q := fun _ => PaidPost) hstr paidProgram_wp h).1

theorem paidReachable_ended (hstr : PaidStart kv₀) (h : PaidReachable clockOk kv₀ sys)
    (hclt : ⟨v, .pure reply⟩ ∈ sys.clients) :
    v.Le sys.world ∧ PaidRun clockOk v ∧ ∃ u, u.Le v ∧ PaidPost u v reply := by
  obtain ⟨hle, hrun, p, -, u, hu, hpost⟩ :=
    Reachable.ended (Q := fun _ => PaidPost) hstr paidProgram_wp h hclt
  exact ⟨hle, hrun, u, hu, hpost⟩

theorem becomes_ended (hstr : PaidStart kv₀) (h₀ : PaidReachable clockOk kv₀ sys₀)
    (h : sys₀.Becomes clockOk (Set.range paidProgram) (paidProgram run) sys ⟨v, .pure reply⟩) :
    sys₀.world.Le v ∧ v.Le sys.world ∧ PaidPost sys₀.world v reply :=
  h.client (Q := fun _ => PaidPost) hstr paidProgram_wp h₀ (Set.mem_range_self run)

end Reachable

/-! ### Schedules -/

/-- The system before anything has happened. -/
def initialSystem (kv₀ : PaidKv) : PaidSystem := ⟨⟨kv₀, [], 0⟩, []⟩

def afterSchedule (kv₀ : PaidKv) (actions : List (Action (ℕ × PaidOperation))) : PaidSystem :=
  (initialSystem kv₀).runAll paidProgram actions

/-- A clock that shows the time, as far as a time value can. -/
def exactClock (time now : ℤ) : Prop := now = time ∧ 0 ≤ now ∧ now ≤ 8640000000000000

theorem afterSchedule_reachable (kv₀ : PaidKv) (actions : List (Action (ℕ × PaidOperation)))
    (hacts : ShowsOnly (fun t => 0 ≤ t ∧ t ≤ 8640000000000000) actions) :
    PaidReachable exactClock kv₀ (afterSchedule kv₀ actions) := by
  have hzero : (0 : ℤ) ≤ 0 ∧ (0 : ℤ) ≤ 8640000000000000 := by decide
  exact System.runAll_reachable (fun _ ht => ⟨rfl, ht⟩) (fun i => Set.mem_range_self i) actions
    hacts (initialSystem kv₀) hzero (.start 0)

/-- An admission of the request `requestId` of the key "key", in the window that ends at 1000. -/
def sampleInput (requestId : String) (limitMicrocredits : ℤ) (dispatchIntent : Bool) :
    NativePaidAdmissionInput where
  keyId := "key"
  requestId := requestId
  createdAtMs := 0
  policyVersion := "v1"
  limitMicrocredits := limitMicrocredits
  maximumExposureMicrocredits := some 60
  initialSettledMicrocredits := 0
  quotaPerCredit := 1000000
  windowResetAtMs := 1000
  model := "model"
  route := "route"
  path := "path"
  stream := false
  reasoning := none
  dispatchIntent := dispatchIntent

/-- A session lets the surplus provider serve its request and settles what it reports. -/
def settleSteps (spendMicrocredits inputTokens : ℤ) : List SessionStep :=
  [.update { provider := some .surplus },
    .settleUsage
      { settlementRequestId := "settlement"
        providerQuota := spendMicrocredits
        inputTokens := inputTokens
        cachedInputTokens := none
        outputTokens := 0
        model := "model"
        createdAtMs := 0
        buyerCostMicro := some spendMicrocredits }]

/-- One client runs a session to its end. -/
def runSession (input : NativePaidAdmissionInput) (steps : List SessionStep) :
    List (Action (ℕ × PaidOperation)) :=
  [.spawn (9, .session input false steps), .act 0 20]

end UbqGateway.Paid
