import UbqGateway.Paid.Windows
import Mathlib.Tactic.Linarith

/-!
# Windows with limited admissions only

A window all of whose admissions are limited is a ledger of its rows: every row has a reservation,
so the window is balanced, counts all outstanding rows, and has settled what the first admission
says and what the settled rows have spent, up to `2 ^ 53` (`window_ledger`).  It stays within its
limit (`limit_safety`).
-/

namespace UbqGateway.Paid

open PaidRun

/-! ### Admissions to a window -/

def PaidCommit.admissionTo (k : String) (resetAtMs : ℤ) : PaidCommit →
    Option NativePaidAdmissionInput
  | .admission input =>
    if input.keyId = k ∧ input.windowResetAtMs = resetAtMs then some input else none
  | _ => none

/-- The admissions to the window, newest first. -/
def admissionsTo (w : PaidWorld) (k : String) (resetAtMs : ℤ) : List NativePaidAdmissionInput :=
  w.events.filterMap fun event => event.label.admissionTo k resetAtMs

/-- What the window had settled when it was opened: the first admission says so. -/
def initialSettled (w : PaidWorld) (k : String) (resetAtMs : ℤ) : ℤ :=
  (admissionsTo w k resetAtMs).getLast?.elim 0 (·.initialSettledMicrocredits)

/-- Every admission to the window is limited. -/
def AllLimited (w : PaidWorld) (k : String) (resetAtMs : ℤ) : Prop :=
  ∀ input ∈ admissionsTo w k resetAtMs, input.unlimited = false

theorem admissionsTo_commit (w : PaidWorld) (label : PaidCommit)
    (writes : List (Write PaidKey PaidValue)) (k : String) (resetAtMs : ℤ) :
    admissionsTo (w.commit label writes) k resetAtMs
      = (label.admissionTo k resetAtMs).toList ++ admissionsTo w k resetAtMs := by
  unfold admissionsTo
  rw [show (w.commit label writes).events = ⟨label, w.store.apply writes, w.time⟩ :: w.events
    from rfl,
    List.filterMap_cons]
  cases label.admissionTo k resetAtMs <;> rfl

theorem AllLimited.of_le {v : PaidWorld} (h : AllLimited w k resetAtMs) (hvw : v.Le w) :
    AllLimited v k resetAtMs :=
  fun input hinp => h input ((hvw.events.sublist.filterMap _).subset hinp)

section

variable (hw : PaidRun clockOk w) (hinit : Unopened k resetAtMs w.init)

include hw hinit

theorem PaidRun.admissionsTo_ne_nil (hrow : requestOf w.store k r = some row)
    (hrst : row.windowResetAtMs = resetAtMs) : admissionsTo w k resetAtMs ≠ [] := by
  induction hw generalizing row with
  | start => exact absurd hrst (hinit.rows r row hrow)
  | advance _ _ _ _ ih => exact ih hinit hrow hrst
  | commit _ _ _ _ hstep ih =>
    rw [admissionsTo_commit]
    rcases hstep.admission_or_kept k r with ⟨input, new, rfl, rfl, rfl, -, -, hnew, hwin, -, -⟩ |
      ⟨-, hkept⟩
    · rw [World.store_commit, hnew] at hrow
      cases hrow
      rw [PaidCommit.admissionTo, if_pos ⟨rfl, hwin.symm.trans hrst⟩]
      exact List.cons_ne_nil _ _
    · obtain ⟨old, hold, hev⟩ := hkept row hrow
      exact List.append_ne_nil_of_right_ne_nil _
        (ih hinit hold (hev.windowResetAtMs.symm.trans hrst))

theorem PaidRun.reserved_pos (hlim : AllLimited w k resetAtMs)
    (hrow : requestOf w.store k r = some row) (hrst : row.windowResetAtMs = resetAtMs) :
    0 < row.reservedMicrocredits := by
  induction hw generalizing row with
  | start => exact absurd hrst (hinit.rows r row hrow)
  | advance _ _ _ _ ih => exact ih hinit hlim hrow hrst
  | commit w label writes _ hstep ih =>
    rcases hstep.admission_or_kept k r with ⟨input, new, rfl, rfl, rfl, -, -, hnew, hwin, -,
      hpos⟩ | ⟨-, hkept⟩
    · rw [World.store_commit, hnew] at hrow
      cases hrow
      refine hpos (hlim input.toNativePaidAdmissionInput ?_)
      rw [admissionsTo_commit, PaidCommit.admissionTo, if_pos ⟨rfl, hwin.symm.trans hrst⟩]
      exact List.mem_cons_self
    · obtain ⟨old, hold, hev⟩ := hkept row hrow
      rw [hev.reservedMicrocredits]
      exact ih hinit (hlim.of_le (w.le_commit label writes)) hold
        (hev.windowResetAtMs.symm.trans hrst)

theorem PaidRun.balanced_of_allLimited (hlim : AllLimited w k resetAtMs) :
    ∀ n ≤ w.length, Balanced k resetAtMs (w.storeAt n) := by
  refine hw.balanced hinit fun kv label kv' hcom => ?_
  obtain ⟨u, writes, hu, hle, rfl, -, -⟩ := hw.committed hcom
  intro r row window _ hrow hrst hzero _
  exact absurd (reserved_pos hu (hle.init ▸ hinit) (hlim.of_le hle) hrow hrst) hzero

end

/-- What the window has settled at first, and what its settled rows have spent. -/
def settledTotal (w : PaidWorld) (k : String) (resetAtMs : ℤ) : ℤ :=
  initialSettled w k resetAtMs + rowTotal w.store (spentIn k resetAtMs)

/-- What the window has settled agrees with the rows, up to `2 ^ 53`. -/
structure SettledAgrees (w : PaidWorld) (k : String) (resetAtMs : ℤ) : Prop where
  opened : (windowOf w.store k resetAtMs).isSome = true ↔ admissionsTo w k resetAtMs ≠ []
  unopened : admissionsTo w k resetAtMs = [] → rowTotal w.store (spentIn k resetAtMs) = 0
  nonneg : 0 ≤ settledTotal w k resetAtMs
  settled : settledTotal w k resetAtMs ≤ 2 ^ 53 →
    (windowOf w.store k resetAtMs).elim 0 (·.settledMicrocredits) = settledTotal w k resetAtMs

theorem SettledAgrees.kept (h : SettledAgrees w k resetAtMs)
    (hlab : label.admissionTo k resetAtMs = none)
    (hsome : (windowOf (w.store.apply writes) k resetAtMs).isSome
      = (windowOf w.store k resetAtMs).isSome)
    (hset : (windowOf (w.store.apply writes) k resetAtMs).elim 0 (·.settledMicrocredits)
      = (windowOf w.store k resetAtMs).elim 0 (·.settledMicrocredits))
    (hspt : rowTotal (w.store.apply writes) (spentIn k resetAtMs)
      = rowTotal w.store (spentIn k resetAtMs)) :
    SettledAgrees (w.commit label writes) k resetAtMs := by
  have hadms : admissionsTo (w.commit label writes) k resetAtMs = admissionsTo w k resetAtMs := by
    rw [admissionsTo_commit, hlab]
    rfl
  have htot : settledTotal (w.commit label writes) k resetAtMs = settledTotal w k resetAtMs := by
    unfold settledTotal initialSettled
    rw [hadms, World.store_commit, hspt]
  refine ⟨?_, ?_, ?_, ?_⟩
  · rw [hadms, World.store_commit, hsome]
    exact h.opened
  · rw [hadms, World.store_commit, hspt]
    exact h.unopened
  · rw [htot]
    exact h.nonneg
  · rw [htot, World.store_commit, hset]
    exact h.settled

theorem not_settled_of_billable (h : isBillableRequestV3 row = true) :
    row.billingState ≠ .settled := by
  intro hset
  simp [isBillableRequestV3, hset] at h

theorem spentIn_of_billable (h : isBillableRequestV3 row = true) :
    spentIn k resetAtMs keyId requestId row = 0 :=
  if_neg fun hin => not_settled_of_billable h hin.2.2

variable {rows : LedgerWrite}

/-- An admission keeps the settled amount in agreement. -/
theorem SettledAgrees.admits (h : SettledAgrees w k resetAtMs) (hkid : rows.keyId = input.keyId)
    (hno : requestOf w.store rows.keyId rows.requestId = none) (hrow : rows.request = some row)
    (hbil : row.billingState = .pending) (hnn : 0 ≤ input.initialSettledMicrocredits)
    (hwin : input.keyId = k → input.windowResetAtMs = resetAtMs →
      TakesReservation w.store rows input reservation now)
    (hoth : ¬ (input.keyId = k ∧ input.windowResetAtMs = resetAtMs) →
      windowOf (w.store.apply rows.toList) k resetAtMs = windowOf w.store k resetAtMs) :
    SettledAgrees (w.commit (.admission input.toNativePaidAdmissionInput) rows.toList) k
      resetAtMs := by
  have hspt : rowTotal (w.store.apply rows.toList) (spentIn k resetAtMs)
      = rowTotal w.store (spentIn k resetAtMs) := by
    rw [rowTotal_apply, hno, hrow, Option.some_or, Option.elim_none, Option.elim_some,
      spentIn_of_billable (isBillable_of_pending hbil), sub_zero, add_zero]
  by_cases hself : input.keyId = k ∧ input.windowResetAtMs = resetAtMs
  · obtain ⟨transitioned, hrsv, hwr⟩ := hwin hself.1 hself.2
    have hadms : admissionsTo (w.commit (.admission input.toNativePaidAdmissionInput)
        rows.toList) k resetAtMs
        = input.toNativePaidAdmissionInput :: admissionsTo w k resetAtMs := by
      rw [admissionsTo_commit, PaidCommit.admissionTo, if_pos hself]
      rfl
    obtain ⟨rfl, rfl⟩ := hself
    rw [← hkid] at h hspt hadms ⊢
    have haft : windowOf (w.store.apply rows.toList) rows.keyId input.windowResetAtMs = some _ :=
      windowOf_apply_self hwr
    have hset := hrsv.settled
    cases hst : windowOf w.store rows.keyId input.windowResetAtMs with
    | none =>
      -- the admission opens the window
      have hfst : admissionsTo w rows.keyId input.windowResetAtMs = [] := by
        by_contra hadm
        have hsome := h.opened.mpr hadm
        rw [hst] at hsome
        cases hsome
      have htot : settledTotal
        (w.commit (.admission input.toNativePaidAdmissionInput) rows.toList)
          rows.keyId input.windowResetAtMs = input.initialSettledMicrocredits := by
        unfold settledTotal initialSettled
        rw [World.store_commit, hspt, h.unopened hfst, hadms, hfst, add_zero]
        rfl
      refine ⟨?_, ?_, by rw [htot]; exact hnn, fun _ => ?_⟩
      · rw [World.store_commit, haft, hadms]
        simp
      · rw [hadms]
        exact nofun
      · rw [World.store_commit, haft, htot, Option.elim_some]
        rw [hst] at hset
        exact hset
    | some window =>
      have herl : admissionsTo w rows.keyId input.windowResetAtMs ≠ [] :=
        h.opened.mp (by rw [hst]; rfl)
      have htot : settledTotal
        (w.commit (.admission input.toNativePaidAdmissionInput) rows.toList)
          rows.keyId input.windowResetAtMs =
            settledTotal w rows.keyId input.windowResetAtMs := by
        unfold settledTotal initialSettled
        rw [World.store_commit, hspt, hadms, List.getLast?_cons_of_ne_nil herl]
      refine ⟨?_, ?_, by rw [htot]; exact h.nonneg, fun hle => ?_⟩
      · rw [World.store_commit, haft, hadms]
        simp
      · rw [hadms]
        exact nofun
      · rw [htot] at hle ⊢
        have hbef := h.settled hle
        rw [hst] at hbef hset
        rw [World.store_commit, haft, ← hbef]
        exact hset
  · refine h.kept ?_ ?_ ?_ hspt
    · exact if_neg hself
    · rw [hoth hself]
    · rw [hoth hself]

/-- The closing of a row keeps the settled amount in agreement. -/
theorem SettledAgrees.closes (h : SettledAgrees w k resetAtMs) {row' : PaidFallbackRequestV3}
    {spend : ℤ} (hrow : requestOf w.store rows.keyId rows.requestId = some row)
    (hbill : isBillableRequestV3 row = true)
    (hfd : rows.keyId = k → row.windowResetAtMs = resetAtMs →
      ∃ stored, windowOf w.store k resetAtMs = some stored ∧ window = some stored)
    (hreq : rows.request = some row') (hrst : row'.windowResetAtMs = row.windowResetAtMs)
    (hwin : rows.window = window.map fun window =>
      (row.windowResetAtMs, closedWindow window row spend now)) (hnn : 0 ≤ spend)
    (houtc : ClosedAs label rows window.isSome spend row') :
    SettledAgrees (w.commit label rows.toList) k resetAtMs := by
  have hlab : label.admissionTo k resetAtMs = none := by
    rcases houtc with ⟨rfl, -⟩ | ⟨fold, rfl, -⟩ <;> rfl
  have hspt : rowTotal (w.store.apply rows.toList) (spentIn k resetAtMs)
      = rowTotal w.store (spentIn k resetAtMs)
        + spentIn k resetAtMs rows.keyId rows.requestId row' := by
    rw [rowTotal_apply, hrow, hreq, Option.some_or, Option.elim_some, Option.elim_some,
      spentIn_of_billable hbill, sub_zero]
  by_cases hself : rows.keyId = k ∧ row.windowResetAtMs = resetAtMs
  · obtain ⟨rfl, rfl⟩ := hself
    obtain ⟨stored, hst, rfl⟩ := hfd rfl rfl
    have haft : windowOf (w.store.apply rows.toList) rows.keyId row.windowResetAtMs = some _ :=
      windowOf_apply_self hwin
    have hsp : spentIn rows.keyId row.windowResetAtMs rows.keyId rows.requestId row' = spend := by
      rcases houtc with ⟨-, rfl, hnotBilled⟩ | ⟨fold, -, hset, hsp⟩
      · exact if_neg fun hin => by rw [hnotBilled] at hin; cases hin.2.2
      · rw [spentIn, if_pos ⟨rfl, hrst, hset⟩, hsp]
        rfl
    have hadms : admissionsTo (w.commit label rows.toList) rows.keyId row.windowResetAtMs =
        admissionsTo w rows.keyId row.windowResetAtMs := by
      rw [admissionsTo_commit, hlab]
      rfl
    have hop : admissionsTo w rows.keyId row.windowResetAtMs ≠ [] :=
      h.opened.mp (by rw [hst]; rfl)
    have htot : settledTotal (w.commit label rows.toList) rows.keyId row.windowResetAtMs =
        settledTotal w rows.keyId row.windowResetAtMs + spend := by
      unfold settledTotal initialSettled
      rw [World.store_commit, hspt, hsp, hadms, add_assoc]
    have hbef := h.nonneg
    refine ⟨?_, fun hno => absurd (hadms.symm.trans hno) hop, by omega, fun hle => ?_⟩
    · rw [hadms, World.store_commit, haft]
      exact iff_of_true rfl hop
    · have hset := h.settled (by omega)
      rw [hst, Option.elim_some] at hset
      rw [World.store_commit, haft, htot, Option.elim_some]
      show addAmounts stored.settledMicrocredits spend = _
      rw [hset]
      exact addAmounts_eq_add (by omega) (by omega)
  · have hoth : windowOf (w.store.apply rows.toList) k resetAtMs =
      windowOf w.store k resetAtMs := by
      refine windowOf_apply_other fun written hwr hkey => ?_
      rw [hwin] at hwr
      obtain ⟨stored, -, rfl⟩ := Option.map_eq_some_iff.mp hwr
      exact hself hkey
    have hzero : spentIn k resetAtMs rows.keyId rows.requestId row' = 0 :=
      if_neg fun hin => hself ⟨hin.1, hrst.symm.trans hin.2.1⟩
    refine h.kept hlab ?_ ?_ ?_
    · rw [hoth]
    · rw [hoth]
    · rw [hspt, hzero, add_zero]

/-- **One step keeps what is settled**, in a balanced window with limited admissions only. -/
theorem SettledAgrees.step (hw : PaidRun clockOk w) (h : SettledAgrees w k resetAtMs)
    (hbal : ∀ n ≤ w.length, Balanced k resetAtMs (w.storeAt n))
    (hpos : ∀ r row, requestOf w.store k r = some row → row.windowResetAtMs = resetAtMs →
      0 < row.reservedMicrocredits) (hstep : PaidStep clockOk w label writes)
    (hlim : ∀ input ∈ (label.admissionTo k resetAtMs), input.unlimited = false)
    (hkept : label ≠ .delete k) : SettledAgrees (w.commit label writes) k resetAtMs := by
  have hnow : Balanced k resetAtMs w.store := by
    rw [← w.storeAt_length]
    exact hbal _ le_rfl
  rcases hstep.kind with ⟨rows, hled, rfl⟩ | ⟨keyId, keys, rfl, rfl, -, hkeys⟩ | ⟨haside, hsame⟩
  · cases hled.bill with
    | admits input reservation row now hkid hrid hgd hno hrow hrst hres hbil
        hunl hlw hamt =>
      have hself : input.keyId = k → input.windowResetAtMs = resetAtMs →
        input.unlimited = false := by
        intro hkey hwin
        refine hlim input.toNativePaidAdmissionInput ?_
        rw [PaidCommit.admissionTo, if_pos ⟨hkey, hwin⟩]
        rfl
      refine h.admits hkid hno hrow hbil hamt.1
        (fun hkey hwin => (hlw (hself hkey hwin)).2) fun hoth => ?_
      · refine windowOf_apply_other fun written hwr hkey => hoth ?_
        cases hcase : input.unlimited with
        | true =>
          rw [(hunl hcase).2] at hwr
          cases hwr
        | false =>
          obtain ⟨-, transitioned, -, hwdw⟩ := hlw hcase
          rw [hwdw] at hwr
          cases hwr
          exact ⟨hkid.symm.trans hkey.1, hkey.2⟩
    | closes label row row' window spend now hrow hbill hread hreq hrst hres hcl
        hwdw hsp houtc =>
      refine h.closes hrow hbill (fun hkey hwin => ?_) hreq hrst hwdw hsp houtc
      subst hkey hwin
      have hrowPos := hpos rows.requestId row hrow rfl
      obtain ⟨stored, hst⟩ := Option.isSome_iff_exists.mp
        (hnow.window_isSome hrow rfl hbill hrowPos)
      exact ⟨stored, hst, (hread.current hw hbal hrow rfl hbill hrowPos).trans hst⟩
    | keeps label hlab hrow hwdw =>
      obtain ⟨⟨-, -, hset, hsome⟩, -, -, hspt⟩ := Bill.kept hrow hwdw
      refine h.kept ?_ hsome hset hspt
      cases label <;> first | rfl | cases hlab
  · -- the deletion is one of another key
    have hne : keyId ≠ k := fun heq => hkept (by rw [heq])
    have hwdw : windowOf (w.store.apply (keys.map .delete)) k resetAtMs
        = windowOf w.store k resetAtMs := by
      unfold windowOf
      rw [get_apply_delete, if_neg]
      exact fun hmem => hne (hkeys _ hmem).symm
    have hspt : rowTotal (w.store.apply (keys.map .delete)) (spentIn k resetAtMs)
        = rowTotal w.store (spentIn k resetAtMs) := by
      refine rowTotal_apply_delete fun k' r row hmem _ => if_neg fun hin => ?_
      exact hne ((hkeys _ hmem).symm.trans hin.1)
    exact h.kept rfl (by rw [hwdw]) (by rw [hwdw]) hspt
  · have hwdw : windowOf (w.store.apply writes) k resetAtMs = windowOf w.store k resetAtMs := by
      unfold windowOf
      rw [hsame _ rfl]
    refine h.kept ?_ (by rw [hwdw]) (by rw [hwdw]) (hstep.rowTotal_aside haside _)
    cases label <;> first | rfl | cases haside

/-- **The run**: the settled amount agrees in every reachable store. -/
theorem PaidRun.settledAgrees (hw : PaidRun clockOk w) (hinit : Unopened k resetAtMs w.init)
    (hlim : AllLimited w k resetAtMs) (hkept : ∀ event ∈ w.events, event.label ≠ .delete k) :
    SettledAgrees w k resetAtMs := by
  induction hw with
  | start kv t =>
    have hspt : rowTotal kv (spentIn k resetAtMs) = 0 := by
      refine rowTotal_eq_zero fun k' r row hrow => if_neg fun hin => ?_
      obtain ⟨rfl, hrst, -⟩ := hin
      exact hinit.rows r row hrow hrst
    have htot : settledTotal ⟨kv, [], t⟩ k resetAtMs = 0 := by
      show 0 + rowTotal kv _ = 0
      rw [hspt, add_zero]
    refine ⟨?_, fun _ => hspt, htot.ge, fun _ => ?_⟩
    · show (windowOf kv k resetAtMs).isSome = true ↔ _
      rw [hinit.window]
      simp [admissionsTo]
    · show (windowOf kv k resetAtMs).elim 0 _ = _
      rw [hinit.window, htot]
      rfl
  | advance _ _ _ _ ih =>
    have hbef := ih hinit hlim hkept
    exact ⟨hbef.opened, hbef.unopened, hbef.nonneg, hbef.settled⟩
  | commit w label writes hw hstep ih =>
    have hle := w.le_commit label writes
    have hbef := hlim.of_le hle
    refine SettledAgrees.step hw
      (ih hinit hbef fun event hevt => hkept event (List.mem_cons_of_mem _ hevt))
      (balanced_of_allLimited hw hinit hbef)
      (fun r row hrow hrst => reserved_pos hw hinit hbef hrow hrst) hstep ?_
      (hkept _ List.mem_cons_self)
    intro input hinp
    refine hlim input ?_
    rw [admissionsTo_commit]
    exact List.mem_append_left _ (Option.mem_toList.mpr hinp)

/-- **The window is a ledger of its rows** while all admissions to it are limited, no `max 0` of a
release or a settlement changes a value, and it is stored as soon as it has a row.  What it has
settled is exact up to `2 ^ 53`. -/
theorem window_ledger {kv₀ : PaidKv} {sys : PaidSystem} (hstr : PaidStart kv₀)
    (hnew : Unopened k resetAtMs kv₀) (h : PaidReachable clockOk kv₀ sys)
    (hlim : AllLimited sys.world k resetAtMs)
    (hkept : ∀ event ∈ sys.world.events, event.label ≠ .delete k) :
    (∀ window, windowOf sys.world.store k resetAtMs = some window →
      window.reservedMicrocredits = rowTotal sys.world.store (fun keyId _ row =>
        if outstandingIn k resetAtMs keyId row = true then row.reservedMicrocredits else 0) ∧
      window.pendingCount = rowTotal sys.world.store (fun keyId _ row =>
        if outstandingIn k resetAtMs keyId row = true then 1 else 0) ∧
      (initialSettled sys.world k resetAtMs + rowTotal sys.world.store (spentIn k resetAtMs)
        ≤ 2 ^ 53 →
        window.settledMicrocredits = initialSettled sys.world k resetAtMs +
          rowTotal sys.world.store (spentIn k resetAtMs))) ∧
    (∀ r row, requestOf sys.world.store k r = some row → row.windowResetAtMs = resetAtMs →
      (windowOf sys.world.store k resetAtMs).isSome = true) ∧
    ∀ kv label kv', sys.world.Committed kv label kv' → ∀ r row window,
      label.closesFound k r = true → requestOf kv k r = some row → row.windowResetAtMs = resetAtMs →
      windowOf kv k resetAtMs = some window →
        max 0 (window.reservedMicrocredits - row.reservedMicrocredits)
          = window.reservedMicrocredits - row.reservedMicrocredits ∧
        max 0 (window.pendingCount - 1) = window.pendingCount - 1 := by
  have hrun := paidReachable_run hstr h
  have hinit : Unopened k resetAtMs sys.world.init := by rwa [Reachable.init_eq h]
  have hbal := balanced_of_allLimited hrun hinit hlim
  have hnow : Balanced k resetAtMs sys.world.store := by
    rw [← sys.world.storeAt_length]
    exact hbal _ le_rfl
  have hset := settledAgrees hrun hinit hlim hkept
  -- a row of the window has a reservation, so the rows that count are all outstanding ones
  have hctd : rowTotal sys.world.store (countedIn k resetAtMs)
      = rowTotal sys.world.store fun keyId _ row =>
        if outstandingIn k resetAtMs keyId row = true then 1 else 0 := by
    refine rowTotal_congr fun keyId r row hrow => ?_
    unfold countedIn
    by_cases hout : outstandingIn k resetAtMs keyId row = true
    · obtain ⟨rfl, hrst, -⟩ := outstandingIn_iff.mp hout
      rw [if_pos hout, if_pos ⟨hout, reserved_pos hrun hinit hlim hrow hrst⟩]
    · rw [if_neg hout, if_neg fun hin => hout hin.1]
  refine ⟨fun window hwin => ?_, fun r row hrow hrst => ?_, ?_⟩
  · have hres := hnow.reserved
    have hcnt := hnow.pendingCount
    have hspt := hset.settled
    rw [hwin, Option.elim_some] at hres hcnt hspt
    exact ⟨hres, hcnt.trans hctd, hspt⟩
  · exact hset.opened.mpr (admissionsTo_ne_nil hrun hinit hrow hrst)
  · intro kv label kv' hcom r row window hcls hrow hrst hwin
    obtain ⟨u, writes, hu, hle, rfl, hstep, -⟩ := hrun.committed hcom
    obtain ⟨-, old, -, -, -, -, -, -, -, hold, hbill, -⟩ := hstep.closes_of_label hcls
    rw [hrow] at hold
    cases hold
    have hpos := reserved_pos hu (hle.init ▸ hinit) (hlim.of_le hle) hrow hrst
    have hbef := hbal u.length hle.length_le
    rw [hle.storeAt_length_eq] at hbef
    exact hbef.closedWindow_eq hwin hrow hrst hbill hpos

/-- One request is admitted and settled, another one is admitted. -/
def ledgerSchedule : List (Action (ℕ × PaidOperation)) :=
  runSession (sampleInput "a" 100 false) (settleSteps 25 7) ++
    runSession (sampleInput "b" 100 false) []

theorem window_ledger_ledgerSchedule :
    ∃ window, windowOf (afterSchedule Kv.empty ledgerSchedule).world.store "key" 1000 =
      some window ∧
      window.reservedMicrocredits = 60 ∧ window.pendingCount = 1 ∧
      window.settledMicrocredits = initialSettled
        (afterSchedule Kv.empty ledgerSchedule).world "key"
        1000 + 25 := by
  have hrch := afterSchedule_reachable Kv.empty ledgerSchedule (by decide)
  have hlim : AllLimited (afterSchedule Kv.empty ledgerSchedule).world "key" 1000 := by
    unfold AllLimited
    decide +kernel
  have hkept : ∀ event ∈ (afterSchedule Kv.empty ledgerSchedule).world.events,
      event.label ≠ .delete "key" := by decide +kernel
  have hsome : (windowOf (afterSchedule Kv.empty ledgerSchedule).world.store "key" 1000).isSome
      = true := by decide +kernel
  obtain ⟨window, hwin⟩ := Option.isSome_iff_exists.mp hsome
  obtain ⟨hres, hcnt, hset⟩ :=
    (window_ledger paidStart_empty (unopened_empty "key" 1000) hrch hlim hkept).1 window
      hwin
  refine ⟨window, hwin, ?_, ?_, ?_⟩
  · rw [hres]
    decide +kernel
  · rw [hcnt]
    decide +kernel
  · have hspt : rowTotal (afterSchedule Kv.empty ledgerSchedule).world.store (spentIn "key" 1000)
        = 25 := by decide +kernel
    rw [hset (by decide +kernel), hspt]

/-- Two requests are admitted, and then settled. -/
def roundingSchedule : List (Action (ℕ × PaidOperation)) :=
  [.spawn (9, .session (sampleInput "a" 100 false) false (settleSteps 9007199254740991 7)),
    .act 0 4, .spawn (9, .session (sampleInput "b" 100 false) false (settleSteps 2 7)), .act 0 20,
    .act 1 20]

/-- **Beyond `2 ^ 53` the window is not what its rows have spent**: the sum is rounded. -/
theorem window_ledger_rounds :
    AllLimited (afterSchedule Kv.empty roundingSchedule).world "key" 1000 ∧
      (windowOf (afterSchedule Kv.empty roundingSchedule).world.store "key" 1000).map
        (·.settledMicrocredits) = some 9007199254740992 ∧
      initialSettled (afterSchedule Kv.empty roundingSchedule).world "key" 1000 +
        rowTotal (afterSchedule Kv.empty roundingSchedule).world.store (spentIn "key" 1000) =
          9007199254740993 := by
  unfold AllLimited
  decide +kernel

/-! ### The limit -/

/-- What the window has settled and reserved is within its limit. -/
def WithinLimit (k : String) (resetAtMs : ℤ) (kv : PaidKv) : Prop :=
  ∀ window, windowOf kv k resetAtMs = some window →
    window.settledMicrocredits + window.reservedMicrocredits ≤ window.limitMicrocredits

/-- No commit lowers the limit of the window. -/
def LimitNeverLowered (w : PaidWorld) (k : String) (resetAtMs : ℤ) : Prop :=
  ∀ kv label kv', w.Committed kv label kv' → ∀ window window',
    windowOf kv k resetAtMs = some window → windowOf kv' k resetAtMs = some window' →
      window.limitMicrocredits ≤ window'.limitMicrocredits

/-- Every settlement in the window spends at most what its row has reserved. -/
def SpendsReserved (w : PaidWorld) (k : String) (resetAtMs : ℤ) : Prop :=
  ∀ kv r spend fold found kv', w.Committed kv (.settle k r spend fold found) kv' → ∀ row,
    requestOf kv k r = some row → row.windowResetAtMs = resetAtMs →
      spend ≤ row.reservedMicrocredits

/-- What a limited admission that finds the window `window` leaves. -/
structure AdmittedWithin (input : NativePaidAdmissionInput) (window : Option PaidFallbackWindowV3)
    (window' : PaidFallbackWindowV3) (row : PaidFallbackRequestV3) : Prop where
  limit : window'.limitMicrocredits = input.limitMicrocredits
  within : window'.settledMicrocredits + window'.reservedMicrocredits ≤ window'.limitMicrocredits
  reserved : row.reservedMicrocredits = min (input.limitMicrocredits
    - window.elim input.initialSettledMicrocredits (·.settledMicrocredits)
    - window.elim 0 (·.reservedMicrocredits)) (input.maximumExposureMicrocredits.getD 0)
  pos : 0 < row.reservedMicrocredits

theorem Reserves.admittedWithin {transitioned : PaidFallbackWindowV3} (now : ℤ)
    (h : Reserves input window transitioned reservation) (hpos : 0 < reservation)
    (hrow : row.reservedMicrocredits = reservation) :
    AdmittedWithin input.toNativePaidAdmissionInput window { transitioned with
      reservedMicrocredits := transitioned.reservedMicrocredits + reservation
      pendingCount := transitioned.pendingCount + 1
      updatedAtMs := now } row where
  limit := h.limit
  within := by
    have hle : reservation ≤ transitioned.limitMicrocredits - transitioned.settledMicrocredits
        - transitioned.reservedMicrocredits := by
      rw [h.amount]
      exact min_le_left _ _
    show transitioned.settledMicrocredits + (transitioned.reservedMicrocredits + reservation)
      ≤ transitioned.limitMicrocredits
    omega
  reserved := by
    rw [hrow, h.amount, h.limit, h.settled, h.reserved]
    cases window <;> rfl
  pos := by rwa [hrow]

/-- A limited admission leaves its window within the limit. -/
theorem PaidStep.admittedWithin {input : NativePaidAdmissionInput}
    (h : PaidStep clockOk w (.admission input) writes) (hlim : input.unlimited = false) :
    ∃ window' row,
      windowOf (w.store.apply writes) input.keyId input.windowResetAtMs = some window' ∧
      requestOf (w.store.apply writes) input.keyId input.requestId = some row ∧
      AdmittedWithin input (windowOf w.store input.keyId input.windowResetAtMs) window' row := by
  rcases h.kind with ⟨rows, hled, rfl⟩ | ⟨keyId, keys, hlab, -, -, -⟩ | ⟨haside, -⟩
  · generalize hlab : PaidCommit.admission input = label at hled
    cases hled.bill with
    | admits input' reservation row now hkid hrid hgd hno hrow hrst hres hbil
        hunl hlw =>
      cases hlab
      obtain ⟨hpos, transitioned, hrsv, hwin⟩ := hlw hlim
      rw [← hkid, ← hrid]
      refine ⟨_, row, windowOf_apply_self hwin, ?_, hrsv.admittedWithin now hpos hres⟩
      rw [requestOf_apply, if_pos ⟨rfl, rfl⟩, hrow]
      rfl
    | closes label row row' window spend now hrow hbill hread hreq hrst hres hcl
        hwin hsp houtc =>
      subst hlab
      rcases houtc with ⟨hoth, -⟩ | ⟨fold, hoth, -⟩ <;> cases hoth
    | keeps _ hlabelKept =>
      subst hlab
      cases hlabelKept
  · cases hlab
  · cases haside

/-- The amounts of a window are within its limit, and add up exactly. -/
structure ExactWithin (window : PaidFallbackWindowV3) : Prop where
  limit : window.settledMicrocredits + window.reservedMicrocredits ≤ window.limitMicrocredits
  nonneg : 0 ≤ window.settledMicrocredits
  safe : window.settledMicrocredits + window.reservedMicrocredits ≤ 2 ^ 53

/-- **One step keeps the window within its limit**, if it does not lower the limit and spends at
most what was reserved. -/
theorem ExactWithin.step
    (h : ∀ window, windowOf w.store k resetAtMs = some window → ExactWithin window)
    (hnow : Balanced k resetAtMs w.store)
    (hpos : ∀ r row, requestOf w.store k r = some row → row.windowResetAtMs = resetAtMs →
      0 < row.reservedMicrocredits) (hstep : PaidStep clockOk w label writes)
    (hlmt : ∀ window window', windowOf w.store k resetAtMs = some window →
      windowOf (w.store.apply writes) k resetAtMs = some window' →
        window.limitMicrocredits ≤ window'.limitMicrocredits)
    (hspds : ∀ r spend fold found, label = .settle k r spend fold found → ∀ row,
      requestOf w.store k r = some row → row.windowResetAtMs = resetAtMs →
        spend ≤ row.reservedMicrocredits) :
    ∀ window, windowOf (w.store.apply writes) k resetAtMs = some window → ExactWithin window := by
  rcases hstep.kind with ⟨rows, hled, rfl⟩ | ⟨keyId, keys, rfl, rfl, -, _⟩ | ⟨_, hsame⟩
  · by_cases hself : ∃ written, rows.window = some written ∧ rows.keyId = k ∧ written.1 = resetAtMs
    · obtain ⟨⟨_, window'⟩, hwr, rfl, rfl⟩ := hself
      have haft : windowOf (w.store.apply rows.toList) rows.keyId _ = some window' :=
        windowOf_apply_self hwr
      intro window hwin
      obtain rfl : window' = window := Option.some.inj (haft.symm.trans hwin)
      cases hled.bill with
      | admits input reservation row now hkid hrid hgd hno hrow hrst hres
          hbil hunl hlw hamt =>
        cases hcase : input.unlimited with
        | true =>
          rw [(hunl hcase).2] at hwr
          cases hwr
        | false =>
          obtain ⟨hreservation, transitioned, hrsv, hwr'⟩ := hlw hcase
          obtain ⟨hrsa, rfl⟩ := Prod.mk.inj (Option.some.inj (hwr.symm.trans hwr'))
          have hadm := hrsv.admittedWithin now hreservation hres
          have hlmt' := hadm.limit
          have hsafe := hamt.2 hcase
          refine ⟨hadm.within, ?_, ?_⟩
          · show 0 ≤ transitioned.settledMicrocredits
            rw [hrsv.settled, ← hrsa]
            cases hold : windowOf w.store rows.keyId _ with
            | none => exact hamt.1
            | some old => exact (h old hold).nonneg
          · have hwth := hadm.within
            omega
      | closes label row row' read spend now hrow hbill hread hreq hrst hres hcl
          hplan hsp houtc =>
        -- what is spent comes out of the reservation of the row
        rw [hwr] at hplan
        obtain ⟨stored, hfd, heq⟩ := Option.map_eq_some_iff.mp hplan.symm
        obtain ⟨hrsa, rfl⟩ := Prod.mk.inj heq
        subst hfd
        have hrowPos := hpos rows.requestId row hrow hrsa
        have hcur : windowOf w.store rows.keyId row.windowResetAtMs = some stored := by
          rcases hread with hcur | ⟨hno, -⟩
          · exact hcur.symm
          · cases hno
        rw [hrsa] at hcur
        obtain ⟨hclamp, -⟩ := hnow.closedWindow_eq hcur hrow hrsa hbill hrowPos
        have hspt : spend ≤ row.reservedMicrocredits := by
          rcases houtc with ⟨-, rfl, -⟩ | ⟨fold, hlab, -⟩
          · exact hrowPos.le
          · exact hspds _ spend fold _ hlab row hrow hrsa
        obtain ⟨hlmt', hnn, hsafe⟩ := h stored hcur
        have hroom := max_eq_right_iff.mp hclamp
        have hadd : addAmounts stored.settledMicrocredits spend =
            stored.settledMicrocredits + spend := addAmounts_eq_add (by omega) (by omega)
        have hset : (closedWindow stored row spend now).settledMicrocredits =
            stored.settledMicrocredits + spend := hadd
        have hres' : (closedWindow stored row spend now).reservedMicrocredits =
            stored.reservedMicrocredits - row.reservedMicrocredits := hclamp
        refine ⟨?_, by omega, by omega⟩
        show _ ≤ stored.limitMicrocredits
        omega
      | keeps _ _ _ hkept =>
        obtain ⟨stored, hst, hamt⟩ := hkept _ hwr
        obtain ⟨hlmt', hnn, hsafe⟩ := h stored hst
        have hraised := hlmt stored window' hst haft
        have hset := hamt.settled
        have hres := hamt.reserved
        dsimp only at hset hres
        exact ⟨by omega, by omega, by omega⟩
    · rw [windowOf_apply_other fun written hwr hkey => hself ⟨written, hwr, hkey⟩]
      exact h
  · intro window hwin
    have hst : windowOf w.store k resetAtMs = some window := by
      unfold windowOf at hwin ⊢
      rw [get_apply_delete] at hwin
      split_ifs at hwin
      · cases hwin
      · exact hwin
    exact h window hst
  · have hwin : windowOf (w.store.apply writes) k resetAtMs = windowOf w.store k resetAtMs := by
      unfold windowOf
      rw [hsame _ rfl]
    rw [hwin]
    exact h

theorem PaidRun.withinLimit (hw : PaidRun clockOk w) (hinit : Unopened k resetAtMs w.init)
    (hlim : AllLimited w k resetAtMs) (hlmt : LimitNeverLowered w k resetAtMs)
    (hspds : SpendsReserved w k resetAtMs) :
    ∀ window, windowOf w.store k resetAtMs = some window → ExactWithin window := by
  induction hw with
  | start kv t =>
    intro window hwin
    have hno : windowOf kv k resetAtMs = none := hinit.window
    rw [show (World.mk kv [] t : PaidWorld).store = kv from rfl, hno] at hwin
    cases hwin
  | advance _ _ _ _ ih => exact ih hinit hlim hlmt hspds
  | commit w label writes hw hstep ih =>
    have hle := w.le_commit label writes
    have hbef := hlim.of_le hle
    have hcom : (w.commit label writes).Committed w.store label (w.store.apply writes) :=
      (w.committed_commit_iff _ _ _ _ _).mpr (Or.inl ⟨rfl, rfl, rfl⟩)
    have hnow : Balanced k resetAtMs w.store := by
      rw [← w.storeAt_length]
      exact balanced_of_allLimited hw hinit hbef _ le_rfl
    refine ExactWithin.step (ih hinit hbef (fun kv l kv' hc => hlmt kv l kv' (hc.mono hle))
      fun kv r spend fold found kv' hc => hspds kv r spend fold found kv' (hc.mono hle)) hnow
      (fun r row hrow hrst => reserved_pos hw hinit hbef hrow hrst) hstep
      (hlmt _ _ _ hcom) ?_
    rintro r spend fold found rfl
    exact hspds _ r spend fold found _ hcom

/-- **Paid-limit safety**: each admission leaves a window within its limit; and if no commit lowers
the limit and no settlement spends more than its row has reserved, the window is within its limit at
every moment. -/
theorem limit_safety {kv₀ : PaidKv} {sys : PaidSystem} (hstr : PaidStart kv₀)
    (hnew : Unopened k resetAtMs kv₀) (h : PaidReachable clockOk kv₀ sys)
    (hlim : AllLimited sys.world k resetAtMs) :
    (∀ kv input kv', sys.world.Committed kv (.admission input) kv' → input.keyId = k →
      input.windowResetAtMs = resetAtMs → ∃ window' row,
        windowOf kv' k resetAtMs = some window' ∧ requestOf kv' k input.requestId = some row ∧
        AdmittedWithin input (windowOf kv k resetAtMs) window' row) ∧
    (LimitNeverLowered sys.world k resetAtMs → SpendsReserved sys.world k resetAtMs →
      ∀ n ≤ sys.world.length, WithinLimit k resetAtMs (sys.world.storeAt n)) := by
  have hrun := paidReachable_run hstr h
  have hinit : Unopened k resetAtMs sys.world.init := by rwa [Reachable.init_eq h]
  refine ⟨?_, fun hlmt hspds n hn => ?_⟩
  · rintro kv input kv' hcom rfl rfl
    obtain ⟨u, writes, -, -, rfl, hstep, rfl⟩ := hrun.committed hcom
    refine hstep.admittedWithin (hlim input ?_)
    obtain ⟨event, hevt, hlab⟩ := List.mem_map.mp hcom.label_mem
    refine List.mem_filterMap.mpr ⟨event, hevt, ?_⟩
    rw [hlab]
    exact if_pos ⟨rfl, rfl⟩
  · obtain ⟨u, hu, hle, rfl⟩ := hrun.exists_storeAt hn
    rw [hle.storeAt_length_eq]
    exact fun window hwin => (withinLimit hu (hle.init ▸ hinit) (hlim.of_le hle)
      (fun kv l kv' hc => hlmt kv l kv' (hc.mono hle))
      (fun kv r spend fold found kv' hc => hspds kv r spend fold found kv' (hc.mono hle))
      window hwin).limit

/-- The request that a commit settles and what it spends. -/
def PaidCommit.settlement : PaidCommit → Option (String × ℤ)
  | .settle _ requestId spend _ _ => some (requestId, spend)
  | _ => none

theorem limit_safety_ledgerSchedule :
    (windowOf (afterSchedule Kv.empty ledgerSchedule).world.store "key" 1000).isSome = true ∧
      WithinLimit "key" 1000 (afterSchedule Kv.empty ledgerSchedule).world.store := by
  have hrch := afterSchedule_reachable Kv.empty ledgerSchedule (by decide)
  have hlim : AllLimited (afterSchedule Kv.empty ledgerSchedule).world "key" 1000 := by
    unfold AllLimited
    decide +kernel
  have hlen : (afterSchedule Kv.empty ledgerSchedule).world.length = 4 := by decide +kernel
  have hlimits : ∀ n < 4, ∀ window ∈
      windowOf ((afterSchedule Kv.empty ledgerSchedule).world.storeAt n) "key" 1000, ∀ window' ∈
      windowOf ((afterSchedule Kv.empty ledgerSchedule).world.storeAt (n + 1)) "key" 1000,
      window.limitMicrocredits ≤ window'.limitMicrocredits := by decide +kernel
  have hsts : ∀ event ∈ (afterSchedule Kv.empty ledgerSchedule).world.events,
      event.label.settlement = none ∨ event.label.settlement = some ("a", 25) := by decide +kernel
  have hrows : ∀ n < 4, ∀ row ∈
      requestOf ((afterSchedule Kv.empty ledgerSchedule).world.storeAt n) "key" "a",
      25 ≤ row.reservedMicrocredits := by decide +kernel
  have hwth := (limit_safety paidStart_empty (unopened_empty "key" 1000) hrch hlim).2
    ?_ ?_ _ le_rfl
  · rw [World.storeAt_length] at hwth
    exact ⟨by decide +kernel, hwth⟩
  · intro kv label kv' hcom window window' hwin hwin'
    obtain ⟨n, hn, rfl, rfl⟩ := hcom.storeAt
    rw [hlen] at hn
    exact hlimits n hn window hwin window' hwin'
  · intro kv r spend fold found kv' hcom row hrow _
    obtain ⟨event, hevt, hlab⟩ := List.mem_map.mp hcom.label_mem
    have hstl := hsts event hevt
    rw [hlab] at hstl
    rcases hstl with hno | hsome
    · cases hno
    · cases hsome
      obtain ⟨n, hn, rfl, -⟩ := hcom.storeAt
      rw [hlen] at hn
      exact hrows n hn row hrow

end UbqGateway.Paid
