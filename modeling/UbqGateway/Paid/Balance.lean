import UbqGateway.Paid.Service
import Mathlib.Algebra.Order.Ring.Int

/-!
# What a commit does to the bill

The amount of a request is kept twice: in its row and in the window of its key.  `LedgerStep.bill`
says once, for all commits of the ledger, what they do to both.  An admission stores a new row and
may reserve in the window, a release and a settlement close a billable row and take its reservation
out of the window they have read, and every other commit keeps the bill of the row and the amounts
of the window.

Sums over the rows of the store are taken with `rowTotal`.  A commit of the ledger changes such a
sum by the exchange of one row.
-/

namespace UbqGateway.Paid

/-! ### Sums over the rows -/

/-- The weight of an entry of the store: only request rows have one. -/
def rowWeight (f : String → String → PaidFallbackRequestV3 → ℤ) : PaidKey → PaidValue → ℤ
  | .request k r, .request row => f k r row
  | _, _ => 0

/-- The sum of `f` over the request rows of the store. -/
def rowTotal (kv : PaidKv) (f : String → String → PaidFallbackRequestV3 → ℤ) : ℤ :=
  kv.total (rowWeight f)

section RowTotal

variable {f g : String → String → PaidFallbackRequestV3 → ℤ}

theorem weightAt_request (kv : PaidKv) (f : String → String → PaidFallbackRequestV3 → ℤ)
    (k r : String) :
    kv.weightAt (rowWeight f) (.request k r) = (requestOf kv k r).elim 0 (f k r) := by
  unfold Kv.weightAt Kv.value requestOf
  rcases kv.get (.request k r) with _ | ⟨value, stamp⟩
  · rfl
  · cases value <;> rfl

theorem rowTotal_apply (kv : PaidKv) (rows : LedgerWrite)
    (f : String → String → PaidFallbackRequestV3 → ℤ) :
    rowTotal (kv.apply rows.toList) f = rowTotal kv f
      - (requestOf kv rows.keyId rows.requestId).elim 0 (f rows.keyId rows.requestId)
      + (rows.request.or (requestOf kv rows.keyId rows.requestId)).elim 0
          (f rows.keyId rows.requestId) := by
  have hoths : ∀ a ∈ rows.toList, a.key ≠ .request rows.keyId rows.requestId →
      ∀ value, rowWeight f a.key value = 0 := by
    intro a ha hne value
    simp only [LedgerWrite.toList, List.mem_append, Option.mem_toList, Option.map_eq_some_iff] at ha
    rcases ha with (((⟨row, -, rfl⟩ | ⟨marker, -, rfl⟩) | ⟨rollup, -, rfl⟩) | ⟨gate, -, rfl⟩) |
      ⟨window, -, rfl⟩
    · exact absurd rfl hne
    · rw [key_pendingWrite]
      rfl
    · rfl
    · rfl
    · rfl
  have htot := kv.total_apply (.request rows.keyId rows.requestId) hoths
  rw [weightAt_request, weightAt_request, requestOf_apply, if_pos ⟨rfl, rfl⟩] at htot
  exact htot

theorem rowTotal_apply_delete {keys : List PaidKey}
    (h : ∀ k r row, PaidKey.request k r ∈ keys → requestOf kv k r = some row → f k r row = 0) :
    rowTotal (kv.apply (keys.map .delete)) f = rowTotal kv f := by
  refine kv.total_apply_delete fun key hkey => ?_
  cases key with
  | request k r =>
    rw [weightAt_request]
    cases hrow : requestOf kv k r with
    | none => rfl
    | some row => exact h k r row hkey hrow
  | _ =>
    unfold Kv.weightAt
    cases kv.value _ <;> rfl

theorem requestOf_of_value (h : kv.value (.request k r) = some (.request row)) :
    requestOf kv k r = some row := by
  obtain ⟨⟨value, stamp⟩, hent, hval⟩ := Option.map_eq_some_iff.mp h
  obtain rfl : value = .request row := hval
  rw [requestOf, hent]
  rfl

theorem rowTotal_congr (h : ∀ k r row, requestOf kv k r = some row → f k r row = g k r row) :
    rowTotal kv f = rowTotal kv g := by
  refine Kv.total_congr fun key value hval => ?_
  cases key with
  | request k r =>
    cases value with
    | request row => exact h k r row (requestOf_of_value hval)
    | _ => rfl
  | _ => rfl

theorem rowTotal_eq_zero (h : ∀ k r row, requestOf kv k r = some row → f k r row = 0) :
    rowTotal kv f = 0 := by
  have hzero : rowTotal kv (fun _ _ _ => 0) = 0 := by
    have hweight : rowWeight (fun _ _ _ => 0) = fun _ _ => 0 := by
      funext key value
      unfold rowWeight
      split <;> rfl
    rw [rowTotal, hweight]
    exact Record.sum_zero kv.rows
  rw [← hzero]
  exact rowTotal_congr h

section

variable (h : ∀ k r row, requestOf kv k r = some row → 0 ≤ f k r row)

include h

theorem rowWeight_nonneg (key : PaidKey) (value : PaidValue) (hval : kv.value key = some value) :
    0 ≤ rowWeight f key value := by
  unfold rowWeight
  split
  · exact h _ _ _ (requestOf_of_value hval)
  · exact le_rfl

theorem rowTotal_nonneg : 0 ≤ rowTotal kv f :=
  Kv.total_nonneg (rowWeight_nonneg h)

theorem le_rowTotal (hrow : requestOf kv k r = some row) : f k r row ≤ rowTotal kv f := by
  have hle := Kv.weightAt_le_total (rowWeight_nonneg h) (.request k r)
  rwa [weightAt_request, hrow] at hle

end

theorem PaidStep.rowTotal_aside (h : PaidStep clockOk w label writes) (haside : label.aside = true)
    (f : String → String → PaidFallbackRequestV3 → ℤ) :
    rowTotal (w.store.apply writes) f = rowTotal w.store f := by
  refine w.store.total_apply_of_weightless fun a ha value => ?_
  cases h with
  | ledger _ _ hstep => cases hstep <;> cases haside
  | auxiliary label writes hlab haux =>
    have hkey := haux a ha
    unfold rowWeight
    split
    · next heq => rw [heq] at hkey; cases hkey
    · rfl
  | cursor | dropCursor | deletionGuard =>
    obtain rfl := List.mem_singleton.mp ha
    rfl
  | delete => cases haside

end RowTotal

/-! ### The window after a commit -/

variable {rows : LedgerWrite}

theorem windowOf_apply_self {kv : PaidKv} {window : PaidFallbackWindowV3}
    (h : rows.window = some (resetAtMs, window)) :
    windowOf (kv.apply rows.toList) rows.keyId resetAtMs = some window := by
  rw [windowOf_apply, if_pos rfl, h]
  exact if_pos rfl

theorem windowOf_apply_other {kv : PaidKv} {k : String}
    (h : ∀ written, rows.window = some written → ¬ (rows.keyId = k ∧ written.1 = resetAtMs)) :
    windowOf (kv.apply rows.toList) k resetAtMs = windowOf kv k resetAtMs := by
  rw [windowOf_apply]
  split_ifs with hkey
  · cases hwin : rows.window with
    | none => rfl
    | some written => exact if_neg fun hrst => h written hwin ⟨hkey, hrst⟩
  · rfl

/-! ### The bill of a commit -/

/-- `row'` bills what `row` bills. -/
structure SameBill (row row' : PaidFallbackRequestV3) : Prop where
  windowResetAtMs : row'.windowResetAtMs = row.windowResetAtMs
  reservedMicrocredits : row'.reservedMicrocredits = row.reservedMicrocredits
  billable : isBillableRequestV3 row' = isBillableRequestV3 row
  settled : row'.billingState = .settled ↔ row.billingState = .settled
  spendMicrocredits : row'.spendMicrocredits = row.spendMicrocredits

/-- `window'` holds the amounts of `window`; the policy may be another one. -/
structure SameAmounts (window window' : PaidFallbackWindowV3) : Prop where
  settled : window'.settledMicrocredits = window.settledMicrocredits
  reserved : window'.reservedMicrocredits = window.reservedMicrocredits
  pendingCount : window'.pendingCount = window.pendingCount

def PaidCommit.bills : PaidCommit → Bool
  | .admission _ | .release _ _ _ | .settle _ _ _ _ _ => true
  | _ => false

/-- The window takes the reservation of an admission. -/
def TakesReservation (kv : PaidKv) (rows : LedgerWrite) (input : AdmissionInput)
    (reservation now : ℤ) : Prop :=
  ∃ transitioned,
    Reserves input (windowOf kv rows.keyId input.windowResetAtMs) transitioned reservation ∧
    rows.window = some (input.windowResetAtMs, { transitioned with
      reservedMicrocredits := transitioned.reservedMicrocredits + reservation
      pendingCount := transitioned.pendingCount + 1
      updatedAtMs := now })

/-- A row is released without a bill, or settled with its spend. -/
def ClosedAs (label : PaidCommit) (rows : LedgerWrite) (found : Bool) (spend : ℤ)
    (row' : PaidFallbackRequestV3) : Prop :=
  (label = .release rows.keyId rows.requestId found ∧ spend = 0 ∧
      row'.billingState = .notBilled) ∨
    ∃ fold, label = .settle rows.keyId rows.requestId spend fold found ∧
      row'.billingState = .settled ∧ row'.spendMicrocredits = some spend

/-- What a commit of the ledger does to the bill of its request and to the window. -/
inductive Bill (w : PaidWorld) (rows : LedgerWrite) : PaidCommit → Prop
  | admits (input : AdmissionInput) (reservation : ℤ) (row : PaidFallbackRequestV3) (now : ℤ)
      (hkid : rows.keyId = input.keyId) (hrid : rows.requestId = input.requestId)
      (hgd : guardOf w.store rows.keyId = none)
      (hno : requestOf w.store rows.keyId rows.requestId = none)
      (hrow : rows.request = some row) (hrst : row.windowResetAtMs = input.windowResetAtMs)
      (hres : row.reservedMicrocredits = reservation) (hbil : row.billingState = .pending)
      (hunl : input.unlimited = true → reservation = 0 ∧ rows.window = none)
      (hlim : input.unlimited = false → 0 < reservation ∧
        TakesReservation w.store rows input reservation now)
      (hamt : 0 ≤ input.initialSettledMicrocredits ∧
        (input.unlimited = false → input.limitMicrocredits ≤ 2 ^ 53)) :
      Bill w rows (.admission input.toNativePaidAdmissionInput)
  | closes (label : PaidCommit) (row row' : PaidFallbackRequestV3)
      (window : Option PaidFallbackWindowV3) (spend now : ℤ)
      (hrow : requestOf w.store rows.keyId rows.requestId = some row)
      (hbill : isBillableRequestV3 row = true)
      (hread : WindowRead w rows.keyId rows.requestId row.windowResetAtMs window)
      (hreq : rows.request = some row')
      (hrst : row'.windowResetAtMs = row.windowResetAtMs)
      (hres : row'.reservedMicrocredits = row.reservedMicrocredits)
      (hcl : isBillableRequestV3 row' = false)
      (hwin : rows.window = window.map fun window =>
        (row.windowResetAtMs, closedWindow window row spend now))
      (hsp : 0 ≤ spend)
      (houtc : ClosedAs label rows window.isSome spend row') :
      Bill w rows label
  | keeps (label : PaidCommit) (hlab : label.bills = false)
      (hrow : ∀ row', rows.request = some row' → ∃ row,
        requestOf w.store rows.keyId rows.requestId = some row ∧ SameBill row row')
      (hwin : ∀ written, rows.window = some written → ∃ window,
        windowOf w.store rows.keyId written.1 = some window ∧ SameAmounts window written.2) :
      Bill w rows label

theorem Reserves.pos {input : AdmissionInput} {window : Option PaidFallbackWindowV3}
    {transitioned : PaidFallbackWindowV3} {reservation : ℤ}
    (h : Reserves input window transitioned reservation) (hlim : input.unlimited = false)
    (hvld : isInvalidAdmissionPolicy input.toNativePaidAdmissionInput input.unlimited
      input.maximumExposureMicrocredits = false) : 0 < reservation := by
  have hexpo : 0 < input.maximumExposureMicrocredits.getD 0 := by
    simp only [isInvalidAdmissionPolicy, hlim, Bool.not_false, Bool.true_and,
      Bool.or_eq_false_iff, Bool.not_eq_false_eq_eq_true] at hvld
    have hany := hvld.2
    cases hmaximum : input.maximumExposureMicrocredits with
    | none =>
      rw [hmaximum] at hany
      cases hany
    | some exposure =>
      rw [hmaximum, Option.any_some, isPositiveSafeInteger, Bool.and_eq_true,
        decide_eq_true_eq] at hany
      exact hany.2
  rw [h.amount]
  exact lt_min h.room hexpo

theorem amounts_of_valid {input : AdmissionInput} (h : isInvalidAdmissionPolicy
      input.toNativePaidAdmissionInput input.unlimited input.maximumExposureMicrocredits = false) :
    0 ≤ input.initialSettledMicrocredits ∧
      (input.unlimited = false → input.limitMicrocredits ≤ 2 ^ 53) := by
  simp only [isInvalidAdmissionPolicy, Bool.or_eq_false_iff, decide_eq_false_iff_not, not_lt] at h
  obtain ⟨⟨⟨⟨hlmt, -⟩, hset⟩, -⟩, -⟩ := h
  refine ⟨hset, fun hlim => ?_⟩
  rw [hlim, Bool.not_false, Bool.true_and, Bool.not_eq_false', isPositiveSafeInteger,
    Authority.isSafeInteger, Bool.and_eq_true, decide_eq_true_eq] at hlmt
  omega

theorem isSafeUsageCount_nonneg {value : ℤ} (h : isSafeUsageCount value = true) : 0 ≤ value := by
  rw [isSafeUsageCount, Bool.and_eq_true, decide_eq_true_eq] at h
  exact h.2

theorem SameBill.refl (row : PaidFallbackRequestV3) : SameBill row row :=
  ⟨rfl, rfl, rfl, Iff.rfl, rfl⟩

theorem Evolves.sameBill (h : Evolves row row') (hbil : row'.billingState = row.billingState)
    (hsp : row'.spendMicrocredits = row.spendMicrocredits) : SameBill row row' := by
  refine ⟨h.windowResetAtMs, h.reservedMicrocredits, ?_, by rw [hbil], hsp⟩
  unfold isBillableRequestV3
  rw [hbil]

theorem sameBill_deferral {row request : PaidFallbackRequestV3}
    {pending deferred : PaidFallbackPendingV3} {now delay : ℤ}
    (h : planPaidFallbackDeferralV3 (some row) (some pending) now = .write request deferred delay) :
    SameBill row request := by
  obtain ⟨hbill, hev, hbill', -⟩ := planPaidFallbackDeferralV3_eq_write h
  have hopen : ∀ {row : PaidFallbackRequestV3}, isBillableRequestV3 row = true →
      row.billingState ≠ .settled := by
    intro row hrow hset
    simp [isBillableRequestV3, hset] at hrow
  refine ⟨hev.windowResetAtMs, hev.reservedMicrocredits, by rw [hbill, hbill'],
    ⟨fun hs => absurd hs (hopen hbill'), fun hs => absurd hs (hopen hbill)⟩, ?_⟩
  unfold planPaidFallbackDeferralV3 at h
  dsimp only at h
  rw [if_pos hbill] at h
  cases h
  rfl

/-- Every step bills its row as one of the kinds of `Bill` says. -/
theorem LedgerStep.bill (h : LedgerStep clockOk w label rows) : Bill w rows label := by
  -- a commit that writes neither a row nor a window keeps the bill
  have hnth : ∀ {rows : LedgerWrite} {label : PaidCommit}, label.bills = false →
      rows.request = none → rows.window = none → Bill w rows label := by
    intro rows label hlab hreq hwdw
    refine .keeps label hlab (fun row hrow => ?_) fun written hwr => ?_
    · rw [hreq] at hrow
      cases hrow
    · rw [hwdw] at hwr
      cases hwr
  -- so does one that writes a row with the same bill and no window
  have hrow : ∀ {rows : LedgerWrite} {label : PaidCommit} {row row' : PaidFallbackRequestV3},
      label.bills = false → requestOf w.store rows.keyId rows.requestId = some row →
      rows.request = some row' → rows.window = none → SameBill row row' → Bill w rows label := by
    intro rows label row row' hlab hst hreq hwdw heq
    refine .keeps label hlab (fun row'' hrow'' => ⟨row, hst, ?_⟩) fun written hwr => ?_
    · rw [hreq] at hrow''
      rwa [← Option.some.inj hrow'']
    · rw [hwdw] at hwr
      cases hwr
  cases h with
  | admission input plan now _ hvld hreq hgd hplan =>
    obtain ⟨reservation, hdcd⟩ := planPaidFallbackAdmissionV3_eq_write hplan
    refine .admits input reservation plan.request now rfl rfl hgd hreq rfl ?_ ?_ ?_ ?_ ?_
      (amounts_of_valid hvld)
    · rw [hdcd.request]
      rfl
    · rw [hdcd.request]
      rfl
    · rw [hdcd.request]
      rfl
    · intro hunl
      obtain ⟨hzero, hno⟩ := hdcd.unlimited hunl
      exact ⟨hzero, by rw [hno]; rfl⟩
    · intro hlim
      obtain ⟨transitioned, hrsv, hwdw⟩ := hdcd.limited hlim
      refine ⟨hrsv.pos hlim hvld, transitioned, ?_, by rw [hwdw]; rfl⟩
      rwa [hlim, if_neg Bool.false_ne_true] at hrsv
  | exhaustedPolicy _ _ _ hlim _ hplan =>
    obtain ⟨current, hcur, rfl⟩ := planPaidFallbackAdmissionV3_eq_exhaustedPolicy hlim hplan
    refine .keeps _ rfl (fun row' hrow' => by cases hrow') fun written hwr => ?_
    cases hwr
    exact ⟨current, hcur, rfl, rfl, rfl⟩
  | lifecycle _ _ _ _ _ _ _ hst hplan =>
    obtain ⟨hev, hbil, -, hsp⟩ := evolves_lifecycle hplan
    exact hrow rfl hst rfl rfl (hev.sameBill hbil hsp)
  | release _ _ row window plan _ now _ hst hwdw hplan =>
    obtain ⟨hpnd, hreq, hplanWindow, -⟩ := planPaidFallbackReleaseV3_eq_some hplan
    refine .closes _ row plan.request window 0 now hst (isBillable_of_pending hpnd) hwdw
      rfl ?_ ?_ ?_ ?_ le_rfl (.inl ⟨rfl, rfl, ?_⟩)
    · rw [hreq]
      rfl
    · rw [hreq]
      rfl
    · rw [hreq]
      rfl
    · rw [hplanWindow, Option.map_map]
      rfl
    · rw [hreq]
      rfl
  | expedite | cleanup | recompute => exact hnth rfl rfl rfl
  | defer _ _ _ _ _ _ _ _ _ hst _ hplan =>
    exact hrow rfl hst rfl rfl (sameBill_deferral hplan)
  | settle _ _ row _ window _ _ _ spend now _ hst _ hwin heval _ _ _ hplan =>
    obtain ⟨hbill, hsafe⟩ := evaluatePaidFallbackSettlementV3_eq_settle heval
    subst hplan
    refine .closes _ row _ window spend now hst hbill hwin rfl rfl rfl rfl ?_
      (isSafeUsageCount_nonneg hsafe) (.inr ⟨_, rfl, rfl, rfl⟩)
    dsimp only [planPaidFallbackSettlementRowsV3]
    rw [Option.map_map]
    rfl
  | retention _ _ row hst => exact hrow rfl hst rfl rfl (SameBill.refl row)
  | fold _ _ _ _ hst _ _ _ _ hplan =>
    subst hplan
    exact hrow rfl hst rfl rfl ⟨rfl, rfl, rfl, Iff.rfl, rfl⟩
  | windowTtl _ _ window hwdw =>
    refine .keeps _ rfl (fun row' hrow' => by cases hrow') fun written hwr => ?_
    cases hwr
    exact ⟨window, hwdw, rfl, rfl, rfl⟩

/-! ### Rows along a run -/

theorem Evolves.trans {a b c : PaidFallbackRequestV3} (hab : Evolves a b) (hbc : Evolves b c) :
    Evolves a c where
  keyId := hbc.keyId.trans hab.keyId
  requestId := hbc.requestId.trans hab.requestId
  windowResetAtMs := hbc.windowResetAtMs.trans hab.windowResetAtMs
  reservedMicrocredits := hbc.reservedMicrocredits.trans hab.reservedMicrocredits
  model := hbc.model.trans hab.model
  createdAtMs := hbc.createdAtMs.trans hab.createdAtMs
  closed hcl := by
    obtain ⟨hbil, hsp, hquo⟩ := hab.closed hcl
    obtain ⟨hbil', hsp', hquo'⟩ := hbc.closed (hab.stays_closed hcl)
    exact ⟨hbil'.trans hbil, hsp'.trans hsp, hquo'.trans hquo⟩
  tokens hcl := by
    obtain ⟨hinp, hcached, hout⟩ := hab.tokens hcl
    obtain ⟨hinp', hcached', hout'⟩ := hbc.tokens (hab.stays_closed hcl)
    exact ⟨hinp'.trans hinp, hcached'.trans hcached, hout'.trans hout⟩
  marked hmkd := hbc.marked (hab.marked hmkd)

/-- How the row of a request may have changed from one moment to a later one. -/
def RowFollows (k r : String) (kv kv' : PaidKv) : Prop :=
  (∀ row, requestOf kv k r = some row →
    (∃ row', requestOf kv' k r = some row' ∧ Evolves row row') ∨ Gone kv' k r) ∧
  (Gone kv k r → Gone kv' k r)

theorem PaidStep.rowFollows (h : PaidStep clockOk w label writes) (k r : String) :
    RowFollows k r w.store (w.store.apply writes) := by
  refine ⟨fun row hrow => ?_, fun hgone => hgone.step h⟩
  have hch := h.request_change k r
  rw [hrow] at hch
  generalize hnew : requestOf (w.store.apply writes) k r = new at hch
  cases hch with
  | same => exact .inl ⟨row, rfl, Evolves.refl row⟩
  | evolved _ row' hev => exact .inl ⟨row', rfl, hev⟩
  | deleted _ hgd => exact .inr ⟨hnew, h.guard hgd⟩

theorem PaidRun.rowFollows (hw : PaidRun clockOk w) {m : ℕ} (hnm : n ≤ m) (hm : m ≤ w.length)
    (k r : String) : RowFollows k r (w.storeAt n) (w.storeAt m) := by
  refine hw.storeAt_rel_storeAt (R := RowFollows k r) ?_ ?_ ?_ hnm hm
  · exact fun kv => ⟨fun row hrow => .inl ⟨row, hrow, Evolves.refl row⟩, fun hgone => hgone⟩
  · intro a b c hab hbc
    refine ⟨fun row hrow => ?_, fun hgone => hbc.2 (hab.2 hgone)⟩
    rcases hab.1 row hrow with ⟨row', hrow', hev⟩ | hgone
    · rcases hbc.1 row' hrow' with ⟨row'', hrow'', hev'⟩ | hgone
      · exact .inl ⟨row'', hrow'', hev.trans hev'⟩
      · exact .inr hgone
    · exact .inr (hbc.2 hgone)
  · exact fun w label writes _ hstep => hstep.rowFollows k r

theorem PaidRun.evolves (hw : PaidRun clockOk w) (hn : n ≤ w.length) {k r : String}
    (hrow : requestOf (w.storeAt n) k r = some row)
    (hrow' : requestOf w.store k r = some row') : Evolves row row' := by
  have hfol := hw.rowFollows hn le_rfl k r
  rw [w.storeAt_length] at hfol
  rcases hfol.1 row hrow with ⟨row'', hrow'', hev⟩ | hgone
  · rw [hrow'] at hrow''
    rwa [Option.some.inj hrow'']
  · rw [hgone.1] at hrow'
    cases hrow'

end UbqGateway.Paid
