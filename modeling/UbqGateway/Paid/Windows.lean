import UbqGateway.Paid.Balance

/-!
# The windows of the paid fallback

A window keeps what its requests have reserved, how many of them are outstanding and what they have
spent.  `Balanced` says that the first two agree with the rows: with the outstanding rows that have
a reservation, since an unlimited admission reserves nothing and writes no window.  A window that is
not stored counts for nothing.

A release and a settlement take one off the count of whatever window they find.  For a row that was
admitted unlimited they take off a request that was never counted, and the window stays balanced
exactly if its count was zero: `window_counts_iff`.
-/

namespace UbqGateway.Paid

open PaidCommit PaidRun

variable {w : PaidWorld} {label : PaidCommit}

/-! ### What the rows say -/

section Weights

variable (k : String) (resetAtMs : ℤ)

/-- The row belongs to the window and is outstanding. -/
def outstandingIn (keyId : String) (row : PaidFallbackRequestV3) : Bool :=
  decide (keyId = k) && decide (row.windowResetAtMs = resetAtMs) && isBillableRequestV3 row

def reservedIn (keyId _requestId : String) (row : PaidFallbackRequestV3) : ℤ :=
  if outstandingIn k resetAtMs keyId row = true then row.reservedMicrocredits else 0

/-- Whether a row with a reservation is outstanding in the window. -/
def countedIn (keyId _requestId : String) (row : PaidFallbackRequestV3) : ℤ :=
  if outstandingIn k resetAtMs keyId row = true ∧ 0 < row.reservedMicrocredits then 1 else 0

/-- What a settled row has spent in the window. -/
def spentIn (keyId _requestId : String) (row : PaidFallbackRequestV3) : ℤ :=
  if keyId = k ∧ row.windowResetAtMs = resetAtMs ∧ row.billingState = .settled
  then row.spendMicrocredits.getD 0 else 0

/-- The window agrees with the rows. -/
structure Balanced (kv : PaidKv) : Prop where
  reserved : (windowOf kv k resetAtMs).elim 0 (·.reservedMicrocredits)
    = rowTotal kv (reservedIn k resetAtMs)
  pendingCount : (windowOf kv k resetAtMs).elim 0 (·.pendingCount)
    = rowTotal kv (countedIn k resetAtMs)
  nonneg : ∀ r row, requestOf kv k r = some row → row.windowResetAtMs = resetAtMs →
    0 ≤ row.reservedMicrocredits

end Weights

theorem outstandingIn_iff : outstandingIn k resetAtMs keyId row = true ↔
      keyId = k ∧ row.windowResetAtMs = resetAtMs ∧ isBillableRequestV3 row = true := by
  simp only [outstandingIn, Bool.and_eq_true, decide_eq_true_eq, and_assoc]

theorem weights_of_not_outstanding (h : outstandingIn k resetAtMs keyId row = false) :
    reservedIn k resetAtMs keyId requestId row = 0 ∧
      countedIn k resetAtMs keyId requestId row = 0 := by
  simp [reservedIn, countedIn, h]

theorem not_outstanding_of_closed (h : isBillableRequestV3 row = false) :
    outstandingIn k resetAtMs keyId row = false := by
  simp [outstandingIn, h]

variable {row' : PaidFallbackRequestV3}

theorem SameBill.weights (h : SameBill row row') (k : String) (resetAtMs : ℤ)
    (keyId requestId : String) :
    reservedIn k resetAtMs keyId requestId row' = reservedIn k resetAtMs keyId requestId row ∧
    countedIn k resetAtMs keyId requestId row' = countedIn k resetAtMs keyId requestId row ∧
    spentIn k resetAtMs keyId requestId row' = spentIn k resetAtMs keyId requestId row := by
  have hout : outstandingIn k resetAtMs keyId row' = outstandingIn k resetAtMs keyId row := by
    rw [outstandingIn, outstandingIn, h.windowResetAtMs, h.billable]
  refine ⟨?_, ?_, ?_⟩
  · rw [reservedIn, reservedIn, hout, h.reservedMicrocredits]
  · rw [countedIn, countedIn, hout, h.reservedMicrocredits]
  · simp only [spentIn, h.windowResetAtMs, h.settled, h.spendMicrocredits]

namespace Balanced

variable (h : Balanced k resetAtMs kv)
include h

theorem reservedIn_nonneg : ∀ keyId requestId row, requestOf kv keyId requestId = some row →
    0 ≤ reservedIn k resetAtMs keyId requestId row := by
  intro keyId requestId row hrow
  unfold reservedIn
  split_ifs with hout
  · obtain ⟨rfl, hrst, -⟩ := outstandingIn_iff.mp hout
    exact h.nonneg requestId row hrow hrst
  · exact le_rfl

omit h in
theorem countedIn_nonneg (keyId requestId : String) (row : PaidFallbackRequestV3) :
    0 ≤ countedIn k resetAtMs keyId requestId row := by
  unfold countedIn
  split_ifs
  · exact Int.one_nonneg
  · exact le_rfl

section

variable (hrow : requestOf kv k r = some row) (hrst : row.windowResetAtMs = resetAtMs)
  (hbill : isBillableRequestV3 row = true)

include hrow hrst hbill

theorem reserved_ge :
    row.reservedMicrocredits ≤ (windowOf kv k resetAtMs).elim 0 (·.reservedMicrocredits) := by
  have hle := le_rowTotal h.reservedIn_nonneg hrow
  rw [reservedIn, if_pos (outstandingIn_iff.mpr ⟨rfl, hrst, hbill⟩)] at hle
  rwa [h.reserved]

theorem pendingCount_pos (hpos : 0 < row.reservedMicrocredits) :
    1 ≤ (windowOf kv k resetAtMs).elim 0 (·.pendingCount) := by
  have hnn : ∀ keyId requestId row, requestOf kv keyId requestId = some row →
      0 ≤ countedIn k resetAtMs keyId requestId row :=
    fun keyId requestId row _ => countedIn_nonneg keyId requestId row
  have hle := le_rowTotal hnn hrow
  rw [countedIn, if_pos ⟨outstandingIn_iff.mpr ⟨rfl, hrst, hbill⟩, hpos⟩] at hle
  rwa [h.pendingCount]

theorem window_isSome (hpos : 0 < row.reservedMicrocredits) :
    (windowOf kv k resetAtMs).isSome = true := by
  have hcnt := h.pendingCount_pos hrow hrst hbill hpos
  cases hwin : windowOf kv k resetAtMs with
  | some window => rfl
  | none =>
    rw [hwin] at hcnt
    exact absurd hcnt (by decide)

end

end Balanced

/-! ### Closing a row -/

/-- The commit closes the request and has found its window. -/
def PaidCommit.closesFound (k r : String) : PaidCommit → Bool
  | .release keyId requestId true | .settle keyId requestId _ _ true =>
    decide (keyId = k) && decide (requestId = r)
  | _ => false

/-- No commit takes a row without a reservation off the count of a window that counts others. -/
def ClosesApart (kv : PaidKv) (label : PaidCommit) (k : String) (resetAtMs : ℤ) : Prop :=
  ∀ r row window, label.closesFound k r = true → requestOf kv k r = some row →
    row.windowResetAtMs = resetAtMs → ¬ 0 < row.reservedMicrocredits →
    windowOf kv k resetAtMs = some window → window.pendingCount = 0

/-- The window that a client closes a row with a reservation in is the one the store holds: at no
moment at which the row was stored the window was not. -/
theorem WindowRead.current (hw : PaidRun clockOk w)
    (hbal : ∀ n ≤ w.length, Balanced k resetAtMs (w.storeAt n))
    (hread : WindowRead w k r resetAtMs window) (hrow : requestOf w.store k r = some row)
    (hrst : row.windowResetAtMs = resetAtMs) (hbill : isBillableRequestV3 row = true)
    (hpos : 0 < row.reservedMicrocredits) : window = windowOf w.store k resetAtMs := by
  rcases hread with hcur | ⟨-, n, hn, hno, hst⟩
  · exact hcur
  · obtain ⟨old, hold⟩ := Option.isSome_iff_exists.mp hst
    have hev := hw.evolves hn hold hrow
    have hopen : isBillableRequestV3 old = true := hev.was_open hbill
    have hsome := (hbal n hn).window_isSome hold (hev.windowResetAtMs.symm.trans hrst)
      hopen (by rwa [← hev.reservedMicrocredits])
    rw [hno] at hsome
    cases hsome

/-! ### Admissions -/

def PaidCommit.admits (k r : String) : PaidCommit → Bool
  | .admission input => decide (input.keyId = k) && decide (input.requestId = r)
  | _ => false

/-- A row is new by an admission or is kept. -/
theorem PaidStep.admission_or_kept (h : PaidStep clockOk w label writes) (k r : String) :
    (∃ (input : AdmissionInput) (row : PaidFallbackRequestV3),
      label = .admission input.toNativePaidAdmissionInput ∧ input.keyId = k ∧ input.requestId = r ∧
      requestOf w.store k r = none ∧ guardOf w.store k = none ∧
      requestOf (w.store.apply writes) k r = some row ∧
      row.windowResetAtMs = input.windowResetAtMs ∧
      (input.unlimited = true → row.reservedMicrocredits = 0) ∧
      (input.unlimited = false → 0 < row.reservedMicrocredits)) ∨
    (label.admits k r = false ∧ ∀ row', requestOf (w.store.apply writes) k r = some row' →
      ∃ row, requestOf w.store k r = some row ∧ Evolves row row') := by
  -- a row that was stored before is a later version of itself
  have hkept : ((requestOf (w.store.apply writes) k r).isSome = true →
      (requestOf w.store k r).isSome = true) →
      ∀ row', requestOf (w.store.apply writes) k r = some row' →
        ∃ row, requestOf w.store k r = some row ∧ Evolves row row' := by
    intro hst row' hrow'
    obtain ⟨row, hrow⟩ := Option.isSome_iff_exists.mp (hst (by rw [hrow']; rfl))
    rcases (h.rowFollows k r).1 row hrow with ⟨row'', hrow'', hev⟩ | hgone
    · rw [hrow'] at hrow''
      exact ⟨row, hrow, by rwa [Option.some.inj hrow'']⟩
    · rw [hgone.1] at hrow'
      cases hrow'
  rcases h.kind with ⟨rows, hled, rfl⟩ | ⟨keyId, keys, rfl, rfl, -, -⟩ | ⟨haside, heq⟩
  · -- a commit of the ledger that does not admit finds the row that it writes
    have hledgerKept : ((rows.request.isSome = true →
        (requestOf w.store rows.keyId rows.requestId).isSome = true)) →
        (requestOf (w.store.apply rows.toList) k r).isSome = true →
        (requestOf w.store k r).isSome = true := by
      intro hfd hsome
      rw [requestOf_apply] at hsome
      split_ifs at hsome with hkey
      · obtain ⟨rfl, rfl⟩ := hkey
        cases hreq : rows.request with
        | none => rwa [hreq] at hsome
        | some row => exact hfd (by rw [hreq]; rfl)
      · exact hsome
    cases hled.bill with
    | admits input reservation row now hkid hrid hgd hno hrow hrst hres hbil
        hunl hlim =>
      by_cases hkey : rows.keyId = k ∧ rows.requestId = r
      · obtain ⟨rfl, rfl⟩ := hkey
        refine .inl ⟨input, row, rfl, hkid.symm, hrid.symm, hno, hgd, ?_, hrst,
          fun hu => hres.trans (hunl hu).1, fun hl => hres ▸ (hlim hl).1⟩
        rw [requestOf_apply, if_pos ⟨rfl, rfl⟩, hrow]
        rfl
      · refine .inr ⟨?_, hkept ?_⟩
        · rw [hkid, hrid] at hkey
          simpa [admits] using hkey
        · rw [requestOf_apply, if_neg hkey]
          exact fun hsome => hsome
    | closes label row row' window spend now hrow hbill hread hreq hrst hres hcl
        hwin hsp houtc =>
      refine .inr ⟨?_, hkept (hledgerKept fun _ => by rw [hrow]; rfl)⟩
      rcases houtc with ⟨rfl, -⟩ | ⟨fold, rfl, -⟩ <;> rfl
    | keeps label hlab hrow =>
      refine .inr ⟨?_, hkept (hledgerKept fun hsome => ?_)⟩
      · cases label <;> first | rfl | cases hlab
      · obtain ⟨row', hreq⟩ := Option.isSome_iff_exists.mp hsome
        obtain ⟨row, hst, -⟩ := hrow row' hreq
        rw [hst]
        rfl
  · refine .inr ⟨rfl, hkept fun hsome => ?_⟩
    rw [requestOf_apply_delete] at hsome
    split_ifs at hsome
    · cases hsome
    · exact hsome
  · refine .inr ⟨?_, hkept fun hsome => ?_⟩
    · cases label <;> first | rfl | cases haside
    · unfold requestOf at hsome ⊢
      rwa [heq _ rfl] at hsome

variable {input : AdmissionInput}

theorem PaidStep.opens (h : PaidStep clockOk w (.admission input.toNativePaidAdmissionInput) writes)
    (hlim : input.unlimited = false) :
    (windowOf (w.store.apply writes) input.keyId input.windowResetAtMs).isSome = true := by
  rcases h.kind with ⟨rows, hled, rfl⟩ | ⟨keyId, keys, hlab, -, -, -⟩ | ⟨haside, -⟩
  · generalize hlab : admission input.toNativePaidAdmissionInput = label at hled
    cases hled.bill with
    | admits input' reservation row now hkid hrid hgd hno hrow hrst hres hbil
        hunl hlw =>
      have heq := admission.inj hlab
      have hlim' : input'.unlimited = false := by rwa [← heq]
      obtain ⟨-, transitioned, -, hwin⟩ := hlw hlim'
      rw [heq, ← hkid, windowOf_apply_self hwin]
      rfl
    | closes label row row' window spend now hrow hbill hread hreq hrst hres hcl
        hwin hsp houtc =>
      subst hlab
      rcases houtc with ⟨hoth, -⟩ | ⟨fold, hoth, -⟩ <;> cases hoth
    | keeps _ hkept =>
      subst hlab
      cases hkept
  · cases hlab
  · cases haside

theorem PaidStep.reserved_nonneg (h : PaidStep clockOk w label writes)
    (hbef : ∀ r row, requestOf w.store k r = some row → row.windowResetAtMs = resetAtMs →
      0 ≤ row.reservedMicrocredits) (hrow : requestOf (w.store.apply writes) k r = some row)
    (hrst : row.windowResetAtMs = resetAtMs) : 0 ≤ row.reservedMicrocredits := by
  rcases h.admission_or_kept k r with ⟨input, new, -, -, -, -, -, hnew, -, hunl, hlim⟩ |
    ⟨-, hkept⟩
  · rw [hnew] at hrow
    cases hrow
    cases hcase : input.unlimited with
    | true => exact (hunl hcase).ge
    | false => exact (hlim hcase).le
  · obtain ⟨old, hold, hev⟩ := hkept row hrow
    rw [hev.reservedMicrocredits]
    exact hbef r old hold (hev.windowResetAtMs.symm.trans hrst)

/-! ### One step -/

theorem SameAmounts.elim_eq {kv kv' : PaidKv} {window' : PaidFallbackWindowV3}
    (heq : SameAmounts window window') (hold : windowOf kv k resetAtMs = some window)
    (hnew : windowOf kv' k resetAtMs = some window') :
    (windowOf kv' k resetAtMs).elim 0 (·.reservedMicrocredits)
      = (windowOf kv k resetAtMs).elim 0 (·.reservedMicrocredits) ∧
    (windowOf kv' k resetAtMs).elim 0 (·.pendingCount)
      = (windowOf kv k resetAtMs).elim 0 (·.pendingCount) ∧
    (windowOf kv' k resetAtMs).elim 0 (·.settledMicrocredits)
      = (windowOf kv k resetAtMs).elim 0 (·.settledMicrocredits) ∧
    (windowOf kv' k resetAtMs).isSome = (windowOf kv k resetAtMs).isSome := by
  rw [hold, hnew]
  exact ⟨heq.reserved, heq.pendingCount, heq.settled, rfl⟩

variable {rows : LedgerWrite}

theorem Bill.kept
    (hrow : ∀ row', rows.request = some row' → ∃ row,
      requestOf w.store rows.keyId rows.requestId = some row ∧ SameBill row row')
    (hwin : ∀ written, rows.window = some written → ∃ window,
      windowOf w.store rows.keyId written.1 = some window ∧ SameAmounts window written.2) :
    ((windowOf (w.store.apply rows.toList) k resetAtMs).elim 0 (·.reservedMicrocredits)
      = (windowOf w.store k resetAtMs).elim 0 (·.reservedMicrocredits) ∧
    (windowOf (w.store.apply rows.toList) k resetAtMs).elim 0 (·.pendingCount)
      = (windowOf w.store k resetAtMs).elim 0 (·.pendingCount) ∧
    (windowOf (w.store.apply rows.toList) k resetAtMs).elim 0 (·.settledMicrocredits)
      = (windowOf w.store k resetAtMs).elim 0 (·.settledMicrocredits) ∧
    (windowOf (w.store.apply rows.toList) k resetAtMs).isSome
      = (windowOf w.store k resetAtMs).isSome) ∧
    rowTotal (w.store.apply rows.toList) (reservedIn k resetAtMs)
      = rowTotal w.store (reservedIn k resetAtMs) ∧
    rowTotal (w.store.apply rows.toList) (countedIn k resetAtMs)
      = rowTotal w.store (countedIn k resetAtMs) ∧
    rowTotal (w.store.apply rows.toList) (spentIn k resetAtMs)
      = rowTotal w.store (spentIn k resetAtMs) := by
  refine ⟨?_, ?_⟩
  · by_cases hself : ∃ written, rows.window = some written ∧ rows.keyId = k ∧ written.1 = resetAtMs
    · obtain ⟨⟨reset, window'⟩, hwr, rfl, rfl⟩ := hself
      obtain ⟨window, hst, heq⟩ := hwin _ hwr
      exact heq.elim_eq hst (windowOf_apply_self hwr)
    · rw [windowOf_apply_other fun written hwr hkey => hself ⟨written, hwr, hkey⟩]
      exact ⟨rfl, rfl, rfl, rfl⟩
  · rw [rowTotal_apply, rowTotal_apply, rowTotal_apply]
    cases hreq : rows.request with
    | none => simp only [Option.none_or, sub_add_cancel, and_self]
    | some row' =>
      obtain ⟨row, hst, heq⟩ := hrow row' hreq
      obtain ⟨hres, hctd, hspt⟩ := heq.weights k resetAtMs rows.keyId rows.requestId
      simp only [hst, Option.some_or, Option.elim_some, hres, hctd, hspt,
        sub_add_cancel, and_self]

/-- An admission keeps the balance. -/
theorem Balanced.admits (h : Balanced k resetAtMs w.store) {reservation : ℤ}
    (hno : requestOf w.store rows.keyId rows.requestId = none) (hrow : rows.request = some row)
    (hrst : row.windowResetAtMs = input.windowResetAtMs)
    (hres : row.reservedMicrocredits = reservation) (hbil : row.billingState = .pending)
    (hunl : input.unlimited = true → reservation = 0 ∧ rows.window = none)
    (hlim : input.unlimited = false → 0 < reservation ∧
      TakesReservation w.store rows input reservation now) :
    (windowOf (w.store.apply rows.toList) k resetAtMs).elim 0 (·.reservedMicrocredits)
      = rowTotal (w.store.apply rows.toList) (reservedIn k resetAtMs) ∧
    (windowOf (w.store.apply rows.toList) k resetAtMs).elim 0 (·.pendingCount)
      = rowTotal (w.store.apply rows.toList) (countedIn k resetAtMs) := by
  rw [rowTotal_apply, rowTotal_apply, hno, hrow, Option.some_or, Option.elim_none,
    Option.elim_some, Option.elim_none, Option.elim_some, sub_zero, sub_zero, ← h.reserved,
    ← h.pendingCount]
  have hbill := isBillable_of_pending hbil
  cases hcase : input.unlimited with
  | true =>
    obtain ⟨rfl, hwin⟩ := hunl hcase
    rw [windowOf_apply_other fun written hwr => by rw [hwin] at hwr; cases hwr]
    simp [reservedIn, countedIn, hres]
  | false =>
    obtain ⟨hpos, transitioned, hrsv, hwin⟩ := hlim hcase
    by_cases hself : rows.keyId = k ∧ input.windowResetAtMs = resetAtMs
    · obtain ⟨rfl, rfl⟩ := hself
      have hout : outstandingIn rows.keyId input.windowResetAtMs rows.keyId row = true :=
        outstandingIn_iff.mpr ⟨rfl, hrst, hbill⟩
      have hcur : transitioned.reservedMicrocredits
          = (windowOf w.store rows.keyId input.windowResetAtMs).elim 0 (·.reservedMicrocredits) ∧
          transitioned.pendingCount
          = (windowOf w.store rows.keyId input.windowResetAtMs).elim 0 (·.pendingCount) := by
        rw [hrsv.reserved, hrsv.pendingCount]
        cases windowOf w.store rows.keyId input.windowResetAtMs <;> exact ⟨rfl, rfl⟩
      rw [windowOf_apply_self hwin, ← hcur.1, ← hcur.2, reservedIn, countedIn,
        if_pos hout, if_pos ⟨hout, hres ▸ hpos⟩, hres]
      exact ⟨rfl, rfl⟩
    · -- the admission is one of another window
      rw [windowOf_apply_other]
      · have hout : outstandingIn k resetAtMs rows.keyId row = false := by
          rw [Bool.eq_false_iff, Ne, outstandingIn_iff, hrst]
          exact fun hin => hself ⟨hin.1, hin.2.1⟩
        rw [(weights_of_not_outstanding hout).1, (weights_of_not_outstanding hout).2]
        exact ⟨(add_zero _).symm, (add_zero _).symm⟩
      · intro written hwr hkey
        rw [hwin] at hwr
        cases hwr
        exact hself hkey

theorem closesFound_of_outcome {found : Bool} (hfd : found = true)
    (houtc : ClosedAs label rows found spend row') :
    label.closesFound rows.keyId rows.requestId = true := by
  subst hfd
  rcases houtc with ⟨rfl, -⟩ | ⟨fold, rfl, -⟩ <;> simp [closesFound]

theorem Balanced.closedWindow_eq (h : Balanced k resetAtMs kv)
    (hwin : windowOf kv k resetAtMs = some window)
    (hrow : requestOf kv k r = some row) (hrst : row.windowResetAtMs = resetAtMs)
    (hbill : isBillableRequestV3 row = true) (hpos : 0 < row.reservedMicrocredits) :
    max 0 (window.reservedMicrocredits - row.reservedMicrocredits)
      = window.reservedMicrocredits - row.reservedMicrocredits ∧
    max 0 (window.pendingCount - 1) = window.pendingCount - 1 := by
  have hres := h.reserved_ge hrow hrst hbill
  have hcnt := h.pendingCount_pos hrow hrst hbill hpos
  rw [hwin, Option.elim_some] at hres hcnt
  exact ⟨max_eq_right (sub_nonneg.mpr hres), max_eq_right (sub_nonneg.mpr hcnt)⟩

/-- The closing of a row keeps the balance, where it is counted or nothing is. -/
theorem Balanced.closes (hw : PaidRun clockOk w)
    (hbal : ∀ n ≤ w.length, Balanced k resetAtMs (w.storeAt n))
    (hap : ClosesApart w.store label k resetAtMs) {window : Option PaidFallbackWindowV3}
    (hrow : requestOf w.store rows.keyId rows.requestId = some row)
    (hbill : isBillableRequestV3 row = true)
    (hread : WindowRead w rows.keyId rows.requestId row.windowResetAtMs window)
    (hreq : rows.request = some row') (hcl : isBillableRequestV3 row' = false)
    (hwin : rows.window = window.map fun window =>
      (row.windowResetAtMs, closedWindow window row spend now))
    (houtc : ClosedAs label rows window.isSome spend row') :
    (windowOf (w.store.apply rows.toList) k resetAtMs).elim 0 (·.reservedMicrocredits)
      = rowTotal (w.store.apply rows.toList) (reservedIn k resetAtMs) ∧
    (windowOf (w.store.apply rows.toList) k resetAtMs).elim 0 (·.pendingCount)
      = rowTotal (w.store.apply rows.toList) (countedIn k resetAtMs) := by
  have h : Balanced k resetAtMs w.store := by
    rw [← w.storeAt_length]
    exact hbal _ le_rfl
  have hnew : reservedIn k resetAtMs rows.keyId rows.requestId row' = 0 ∧
      countedIn k resetAtMs rows.keyId rows.requestId row' = 0 :=
    weights_of_not_outstanding (not_outstanding_of_closed hcl)
  rw [rowTotal_apply, rowTotal_apply, hrow, hreq, Option.some_or, Option.elim_some,
    Option.elim_some, Option.elim_some, Option.elim_some, hnew.1, hnew.2, add_zero, add_zero,
    ← h.reserved, ← h.pendingCount]
  by_cases hself : rows.keyId = k ∧ row.windowResetAtMs = resetAtMs
  · obtain ⟨rfl, rfl⟩ := hself
    have hout : outstandingIn rows.keyId row.windowResetAtMs rows.keyId row = true :=
      outstandingIn_iff.mpr ⟨rfl, rfl, hbill⟩
    rw [reservedIn, countedIn, if_pos hout]
    by_cases hpos : 0 < row.reservedMicrocredits
    · -- a row that is counted has found the window that counts it
      have hcur := hread.current hw hbal hrow rfl hbill hpos
      obtain ⟨stored, hst⟩ := Option.isSome_iff_exists.mp
        (h.window_isSome hrow rfl hbill hpos)
      rw [hcur, hst] at hwin
      obtain ⟨hres, hcnt⟩ := h.closedWindow_eq hst hrow rfl hbill hpos
      rw [windowOf_apply_self hwin, hst, if_pos ⟨hout, hpos⟩]
      exact ⟨hres, hcnt⟩
    · -- a row that is not counted finds a window that counts nothing, or none
      have hzero : row.reservedMicrocredits = 0 :=
        le_antisymm (not_lt.mp hpos) (h.nonneg _ row hrow rfl)
      rw [if_neg fun hin => hpos hin.2, hzero, sub_zero, sub_zero]
      cases window with
      | none =>
        rw [windowOf_apply_other fun written hwr => by rw [hwin] at hwr; cases hwr]
        exact ⟨rfl, rfl⟩
      | some window =>
        have hst : windowOf w.store rows.keyId row.windowResetAtMs = some window := by
          rcases hread with hcur | ⟨hno, -⟩
          · exact hcur.symm
          · cases hno
        have hcnt : window.pendingCount = 0 :=
          hap rows.requestId row window (closesFound_of_outcome rfl houtc) hrow rfl hpos
            hst
        have hres : 0 ≤ window.reservedMicrocredits := by
          have hnn := rowTotal_nonneg h.reservedIn_nonneg
          rwa [← h.reserved, hst, Option.elim_some] at hnn
        rw [windowOf_apply_self hwin, hst]
        simp only [Option.elim_some, closedWindow, hzero, hcnt, sub_zero]
        exact ⟨max_eq_right hres, by decide⟩
  · -- the row is one of another window
    have hout : outstandingIn k resetAtMs rows.keyId row = false := by
      rw [Bool.eq_false_iff, Ne, outstandingIn_iff]
      exact fun hin => hself ⟨hin.1, hin.2.1⟩
    rw [(weights_of_not_outstanding hout).1, (weights_of_not_outstanding hout).2, sub_zero,
      sub_zero,
      windowOf_apply_other]
    · exact ⟨rfl, rfl⟩
    · intro written hwr hkey
      rw [hwin] at hwr
      obtain ⟨found, -, rfl⟩ := Option.map_eq_some_iff.mp hwr
      exact hself hkey

theorem KeyClosed.not_outstanding (h : KeyClosed kv k)
    (hrow : requestOf kv keyId requestId = some row) :
    outstandingIn k resetAtMs keyId row = false := by
  rw [Bool.eq_false_iff, Ne, outstandingIn_iff]
  rintro ⟨rfl, -, hbill⟩
  rw [h.2 requestId row hrow] at hbill
  cases hbill

/-- A deletion keeps the balance, since the key is closed. -/
theorem Balanced.delete (h : Balanced k resetAtMs w.store) {keys : List PaidKey}
    (hcl : KeyClosed w.store keyId) (hkeys : ∀ key ∈ keys, key.belongsTo keyId) :
    Balanced k resetAtMs (w.store.apply (keys.map .delete)) := by
  have hweights : ∀ k' r row, PaidKey.request k' r ∈ keys → requestOf w.store k' r = some row →
      outstandingIn k resetAtMs k' row = false := by
    intro k' r row hmem hrow
    obtain rfl : k' = keyId := hkeys _ hmem
    exact not_outstanding_of_closed (hcl.2 r row hrow)
  have hres := rowTotal_apply_delete (f := reservedIn k resetAtMs) fun k' r row hmem hrow =>
    (weights_of_not_outstanding (hweights k' r row hmem hrow)).1
  have hctd := rowTotal_apply_delete (f := countedIn k resetAtMs) fun k' r row hmem hrow =>
    (weights_of_not_outstanding (hweights k' r row hmem hrow)).2
  have hwin : windowOf (w.store.apply (keys.map .delete)) k resetAtMs
      = if PaidKey.window k resetAtMs ∈ keys then none else windowOf w.store k resetAtMs := by
    unfold windowOf
    rw [get_apply_delete]
    split_ifs <;> rfl
  refine ⟨?_, ?_, ?_⟩
  · rw [hwin, hres]
    split_ifs with hmem
    · obtain rfl : k = keyId := hkeys _ hmem
      exact (rowTotal_eq_zero fun k' r row hrow =>
        (weights_of_not_outstanding (hcl.not_outstanding hrow)).1).symm
    · exact h.reserved
  · rw [hwin, hctd]
    split_ifs with hmem
    · obtain rfl : k = keyId := hkeys _ hmem
      exact (rowTotal_eq_zero fun k' r row hrow =>
        (weights_of_not_outstanding (hcl.not_outstanding hrow)).2).symm
    · exact h.pendingCount
  · intro r row hrow hrst
    rw [requestOf_apply_delete] at hrow
    split_ifs at hrow
    exact h.nonneg r row hrow hrst

/-- **One step keeps the balance**, if it takes no row without a reservation off the count. -/
theorem Balanced.step (hw : PaidRun clockOk w)
    (hbal : ∀ n ≤ w.length, Balanced k resetAtMs (w.storeAt n))
    (hstep : PaidStep clockOk w label writes) (hap : ClosesApart w.store label k resetAtMs) :
    Balanced k resetAtMs (w.store.apply writes) := by
  have h : Balanced k resetAtMs w.store := by
    rw [← w.storeAt_length]
    exact hbal _ le_rfl
  rcases hstep.kind with ⟨rows, hled, rfl⟩ | ⟨keyId, keys, rfl, rfl, hcl, hkeys⟩ |
    ⟨haside, heq⟩
  · have hnn : ∀ r row, requestOf (w.store.apply rows.toList) k r = some row →
        row.windowResetAtMs = resetAtMs → 0 ≤ row.reservedMicrocredits :=
      fun r row hrow hrst => hstep.reserved_nonneg h.nonneg hrow hrst
    cases hled.bill with
    | admits input reservation row now hkid hrid hgd hno hrow hrst hres hbil
        hunl hlim =>
      obtain ⟨hreservedSum, hcountSum⟩ := h.admits hno hrow hrst hres hbil hunl
        hlim
      exact ⟨hreservedSum, hcountSum, hnn⟩
    | closes label row row' window spend now hrow hbill hread hreq hrst hres hcl
        hwin hsp houtc =>
      obtain ⟨hreservedSum, hcountSum⟩ := Balanced.closes hw hbal hap hrow hbill hread
        hreq hcl hwin houtc
      exact ⟨hreservedSum, hcountSum, hnn⟩
    | keeps _ _ hrow hwin =>
      obtain ⟨⟨hres, hcnt, -⟩, hreservedSum, hcountSum, -⟩ := Bill.kept hrow hwin
      refine ⟨?_, ?_, hnn⟩
      · rw [hres, hreservedSum, h.reserved]
      · rw [hcnt, hcountSum, h.pendingCount]
  · exact h.delete hcl hkeys
  · have hwin : windowOf (w.store.apply writes) k resetAtMs = windowOf w.store k resetAtMs := by
      unfold windowOf
      rw [heq _ rfl]
    refine ⟨?_, ?_, ?_⟩
    · rw [hwin, hstep.rowTotal_aside haside, h.reserved]
    · rw [hwin, hstep.rowTotal_aside haside, h.pendingCount]
    · intro r row hrow hrst
      unfold requestOf at hrow
      rw [heq _ rfl] at hrow
      exact h.nonneg r row hrow hrst

/-! ### Runs -/

/-- Nothing of the window is stored. -/
structure Unopened (k : String) (resetAtMs : ℤ) (kv : PaidKv) : Prop where
  window : windowOf kv k resetAtMs = none
  rows : ∀ r row, requestOf kv k r = some row → row.windowResetAtMs ≠ resetAtMs

theorem Unopened.balanced (h : Unopened k resetAtMs kv) : Balanced k resetAtMs kv := by
  have hout : ∀ keyId r row, requestOf kv keyId r = some row →
      outstandingIn k resetAtMs keyId row = false := by
    intro keyId r row hrow
    rw [Bool.eq_false_iff, Ne, outstandingIn_iff]
    rintro ⟨rfl, hrst, -⟩
    exact h.rows r row hrow hrst
  refine ⟨?_, ?_, fun r row hrow hrst => absurd hrst (h.rows r row hrow)⟩
  · rw [h.window]
    exact (rowTotal_eq_zero fun keyId r row hrow =>
      (weights_of_not_outstanding (hout keyId r row hrow)).1).symm
  · rw [h.window]
    exact (rowTotal_eq_zero fun keyId r row hrow =>
      (weights_of_not_outstanding (hout keyId r row hrow)).2).symm

/-- **A window stays balanced** in every run in which no commit takes a row without a reservation
off the count of a window that counts others. -/
theorem PaidRun.balanced (hw : PaidRun clockOk w) (hinit : Unopened k resetAtMs w.init)
    (hap : ∀ kv label kv', w.Committed kv label kv' → ClosesApart kv label k resetAtMs) :
    ∀ n ≤ w.length, Balanced k resetAtMs (w.storeAt n) := by
  induction hw with
  | start =>
    intro n hn
    rw [World.storeAt, List.drop_nil]
    exact hinit.balanced
  | advance _ _ _ _ ih => exact ih hinit hap
  | commit w label writes hw hstep ih =>
    have hbef := ih hinit fun kv label kv' hcom =>
      hap kv label kv' (hcom.mono (w.le_commit _ _))
    intro n hn
    rcases w.storeAt_commit label writes hn with ⟨hlast, heq⟩ | heq
    · rw [heq]
      exact hbef n hlast
    · rw [heq]
      refine Balanced.step hw hbef hstep (hap w.store label (w.store.apply writes) ?_)
      exact (w.committed_commit_iff _ _ _ _ _).mpr (.inl ⟨rfl, rfl, rfl⟩)

/-! ### Limited admissions -/

def PaidCommit.admitsLimited (k r : String) : PaidCommit → Bool
  | .admission input =>
    decide (input.keyId = k) && decide (input.requestId = r) && !input.unlimited
  | _ => false

/-- The history has admitted the request with a limit, and with a write of the window. -/
def admittedLimited (w : PaidWorld) (k r : String) : Bool :=
  w.events.any fun event => event.label.admitsLimited k r

theorem PaidCommit.admits_of_admitsLimited (h : label.admitsLimited k r = true) :
    label.admits k r = true := by
  cases label with
  | admission =>
    simp only [admitsLimited, Bool.and_eq_true] at h
    simp only [admits, Bool.and_eq_true]
    exact h.1
  | _ => cases h

theorem PaidCommit.admitsLimited_eq_false (h : label.admits k r = false) :
    label.admitsLimited k r = false := by
  rw [Bool.eq_false_iff]
  intro htrue
  rw [admits_of_admitsLimited htrue] at h
  cases h

theorem PaidRun.known_of_admitted (hw : PaidRun clockOk w)
    (h : ∃ event ∈ w.events, event.label.admits k r = true) : Known w.store k r := by
  induction hw with
  | start =>
    obtain ⟨event, hevt, -⟩ := h
    cases hevt
  | advance _ _ _ _ ih => exact ih h
  | commit _ _ _ _ hstep ih =>
    rcases hstep.admission_or_kept k r with ⟨input, row, -, -, -, -, -, hrow, -⟩ | ⟨hoth, -⟩
    · intro hno
      rw [World.store_commit, hrow] at hno
      cases hno
    · obtain ⟨event, hevt, hadm⟩ := h
      rcases List.mem_cons.mp hevt with rfl | hevt
      · rw [hoth] at hadm
        cases hadm
      · exact (ih ⟨event, hevt, hadm⟩).step hstep

theorem PaidRun.known_of_admittedLimited (hw : PaidRun clockOk w)
    (h : admittedLimited w k r = true) :
    Known w.store k r := by
  obtain ⟨event, hevt, hadm⟩ := List.any_eq_true.mp h
  exact hw.known_of_admitted ⟨event, hevt, admits_of_admitsLimited hadm⟩

theorem admittedLimited_commit (w : PaidWorld) (label : PaidCommit)
    (writes : List (Write PaidKey PaidValue)) (k r : String) :
    admittedLimited (w.commit label writes) k r
      = (label.admitsLimited k r || admittedLimited w k r) := rfl

/-- The limited requests are those with a reservation. -/
theorem PaidRun.admittedLimited_iff (hw : PaidRun clockOk w) (hinit : Unopened k resetAtMs w.init) :
    ∀ n ≤ w.length, ∀ r row, requestOf (w.storeAt n) k r = some row →
      row.windowResetAtMs = resetAtMs →
      (admittedLimited w k r = true ↔ 0 < row.reservedMicrocredits) := by
  induction hw with
  | start =>
    intro n hn r row hrow hrst
    rw [World.storeAt, List.drop_nil] at hrow
    exact absurd hrst (hinit.rows r row hrow)
  | advance _ _ _ _ ih => exact ih hinit
  | commit w label writes hw hstep ih =>
    intro n hn r row hrow hrst
    rw [admittedLimited_commit]
    rcases w.storeAt_commit label writes hn with ⟨hlast, heq⟩ | heq
    · rw [heq] at hrow
      rw [← ih hinit n hlast r row hrow hrst]
      rcases hstep.admission_or_kept k r with ⟨input, new, -, -, -, hno, hgd, -⟩ | ⟨hoth, -⟩
      · -- a request that was stored is not admitted again
        have hkn : Known (w.storeAt n) k r := by
          intro habs
          rw [habs] at hrow
          cases hrow
        have hset := stable_store (P := fun kv => Known kv k r)
          (fun _ _ _ h hk => hk.step h) hw hlast hkn hno
        rw [hgd] at hset
        cases hset
      · rw [admitsLimited_eq_false hoth, Bool.false_or]
    · rw [heq] at hrow
      rcases hstep.admission_or_kept k r with ⟨input, new, rfl, rfl, rfl, hno, hgd, hnew, -,
        hunl, hlim⟩ | ⟨hoth, hevolved⟩
      · rw [hnew] at hrow
        cases hrow
        have hfst : admittedLimited w input.keyId input.requestId = false := by
          rw [Bool.eq_false_iff]
          intro htrue
          have hset := known_of_admittedLimited hw htrue hno
          rw [hgd] at hset
          cases hset
        rw [hfst, Bool.or_false]
        cases hcase : input.unlimited with
        | true => simp [admitsLimited, hcase, hunl hcase]
        | false => simp [admitsLimited, hcase, hlim hcase]
      · obtain ⟨old, hold, hev⟩ := hevolved row hrow
        rw [admitsLimited_eq_false hoth, Bool.false_or, hev.reservedMicrocredits]
        refine ih hinit w.length le_rfl r old ?_ (hev.windowResetAtMs.symm.trans hrst)
        rwa [w.storeAt_length]

/-! ### Limited and unlimited admissions in one window -/

/-- The window counts the outstanding rows that were admitted with a limit, and nothing else. -/
def CountsLimited (w : PaidWorld) (k : String) (resetAtMs : ℤ) (kv : PaidKv) : Prop :=
  ∀ window, windowOf kv k resetAtMs = some window →
    window.pendingCount = rowTotal kv (fun keyId requestId row =>
      if outstandingIn k resetAtMs keyId row = true ∧ admittedLimited w keyId requestId = true
      then 1 else 0) ∧
    window.reservedMicrocredits = rowTotal kv fun keyId requestId row =>
      if outstandingIn k resetAtMs keyId row = true ∧ admittedLimited w keyId requestId = true
      then row.reservedMicrocredits else 0

/-- Releasing or settling a row that was admitted without a limit keeps the count. -/
def KeepsCount (w : PaidWorld) (k : String) (resetAtMs : ℤ) : Prop :=
  ∀ kv label kv', w.Committed kv label kv' → ∀ r row window, label.closesFound k r = true →
    requestOf kv k r = some row → row.windowResetAtMs = resetAtMs →
    admittedLimited w k r = false → windowOf kv k resetAtMs = some window →
      (windowOf kv' k resetAtMs).map (·.pendingCount) = some window.pendingCount

/-- Whenever a release or a settlement of a row that was admitted without a limit finds the window,
the window counts nothing. -/
def UnlimitedApart (w : PaidWorld) (k : String) (resetAtMs : ℤ) : Prop :=
  ∀ kv label kv', w.Committed kv label kv' → ∀ r row window, label.closesFound k r = true →
    requestOf kv k r = some row → row.windowResetAtMs = resetAtMs →
    admittedLimited w k r = false → windowOf kv k resetAtMs = some window →
      window.pendingCount = 0

theorem PaidRun.countsLimited_iff (hw : PaidRun clockOk w) (hinit : Unopened k resetAtMs w.init)
    {n : ℕ} (hn : n ≤ w.length) (h : ∀ r row, requestOf (w.storeAt n) k r = some row →
      row.windowResetAtMs = resetAtMs → 0 ≤ row.reservedMicrocredits) :
    CountsLimited w k resetAtMs (w.storeAt n) ↔
      ∀ window, windowOf (w.storeAt n) k resetAtMs = some window →
        window.pendingCount = rowTotal (w.storeAt n) (countedIn k resetAtMs) ∧
        window.reservedMicrocredits = rowTotal (w.storeAt n) (reservedIn k resetAtMs) := by
  have hiff := hw.admittedLimited_iff hinit n hn
  have hcnt : rowTotal (w.storeAt n) (fun keyId requestId row =>
      if outstandingIn k resetAtMs keyId row = true ∧ admittedLimited w keyId requestId = true
      then 1 else 0) = rowTotal (w.storeAt n) (countedIn k resetAtMs) := by
    refine rowTotal_congr fun keyId r row hrow => ?_
    unfold countedIn
    by_cases hout : outstandingIn k resetAtMs keyId row = true
    · obtain ⟨rfl, hrst, -⟩ := outstandingIn_iff.mp hout
      simp only [hout, hiff r row hrow hrst]
    · rw [if_neg fun hin => hout hin.1, if_neg fun hin => hout hin.1]
  have hres : rowTotal (w.storeAt n) (fun keyId requestId row =>
      if outstandingIn k resetAtMs keyId row = true ∧ admittedLimited w keyId requestId = true
      then row.reservedMicrocredits else 0) = rowTotal (w.storeAt n) (reservedIn k resetAtMs) := by
    refine rowTotal_congr fun keyId r row hrow => ?_
    unfold reservedIn
    by_cases hout : outstandingIn k resetAtMs keyId row = true
    · obtain ⟨rfl, hrst, -⟩ := outstandingIn_iff.mp hout
      simp only [hout, hiff r row hrow hrst, true_and, if_true]
      split_ifs with hpos
      · rfl
      · exact le_antisymm (h r row hrow hrst) (not_lt.mp hpos)
    · rw [if_neg fun hin => hout hin.1, if_neg hout]
  unfold CountsLimited
  rw [hcnt, hres]

section

variable (h : PaidStep clockOk w label writes) (hcls : label.closesFound k r = true)

include h hcls

theorem PaidStep.closes_of_label :
    ∃ (rows : LedgerWrite) (row row' : PaidFallbackRequestV3) (window : PaidFallbackWindowV3)
      (spend now : ℤ), writes = rows.toList ∧ rows.keyId = k ∧ rows.requestId = r ∧
      requestOf w.store k r = some row ∧ isBillableRequestV3 row = true ∧
      windowOf w.store k row.windowResetAtMs = some window ∧ rows.request = some row' ∧
      isBillableRequestV3 row' = false ∧
      rows.window = some (row.windowResetAtMs, closedWindow window row spend now) := by
  rcases h.kind with ⟨rows, hled, rfl⟩ | ⟨keyId, keys, rfl, -, -, -⟩ | ⟨haside, -⟩
  · cases hled.bill with
    | admits => cases hcls
    | closes label row row' found spend now hrow hbill hread hreq hrst hres hcl
        hwr hsp houtc =>
      -- the label names the row and says that the window was found
      have hnms : rows.keyId = k ∧ rows.requestId = r ∧ found.isSome = true := by
        rcases houtc with ⟨rfl, -⟩ | ⟨fold, rfl, -⟩
        · cases hfd : found.isSome <;> rw [hfd] at hcls
          · cases hcls
          · simpa [closesFound] using hcls
        · cases hfd : found.isSome <;> rw [hfd] at hcls
          · cases hcls
          · simpa [closesFound] using hcls
      obtain ⟨rfl, rfl, hsome⟩ := hnms
      obtain ⟨window, rfl⟩ := Option.isSome_iff_exists.mp hsome
      refine ⟨rows, row, row', window, spend, now, rfl, rfl, rfl, hrow, hbill, ?_, hreq,
        hcl, hwr⟩
      rcases hread with hcur | ⟨hno, -⟩
      · exact hcur.symm
      · cases hno
    | keeps label hlab => cases label <;> first | cases hcls | cases hlab
  · cases hcls
  · cases label <;> first | cases hcls | cases haside

theorem PaidStep.closesUncounted (hrow : requestOf w.store k r = some row)
    (hrst : row.windowResetAtMs = resetAtMs) (hzero : ¬ 0 < row.reservedMicrocredits)
    (hwin : windowOf w.store k resetAtMs = some window) :
    (∃ window', windowOf (w.store.apply writes) k resetAtMs = some window' ∧
      window'.pendingCount = max 0 (window.pendingCount - 1)) ∧
    rowTotal (w.store.apply writes) (countedIn k resetAtMs)
      = rowTotal w.store (countedIn k resetAtMs) := by
  obtain ⟨rows, old, row', stored, spend, now, rfl, rfl, rfl, hold, -, hst, hreq, hcl,
    hwr⟩ := h.closes_of_label hcls
  rw [hrow] at hold
  cases hold
  subst hrst
  rw [hwin] at hst
  cases hst
  refine ⟨⟨_, windowOf_apply_self hwr, rfl⟩, ?_⟩
  rw [rowTotal_apply, hrow, hreq, Option.some_or, Option.elim_some, Option.elim_some,
    (weights_of_not_outstanding (not_outstanding_of_closed hcl)).2, countedIn,
    if_neg fun hin => hzero hin.2, sub_zero, add_zero]

end

theorem PaidRun.closesApart (hw : PaidRun clockOk w) (hinit : Unopened k resetAtMs w.init)
    (hap : UnlimitedApart w k resetAtMs) :
    ∀ kv label kv', w.Committed kv label kv' → ClosesApart kv label k resetAtMs := by
  intro kv label kv' hcom r row window hcls hrow hrst hzero hwin
  obtain ⟨u, writes, _, hle, rfl, -, -⟩ := hw.committed hcom
  refine hap _ label kv' hcom r row window hcls hrow hrst ?_ hwin
  rw [Bool.eq_false_iff]
  intro hlim
  rw [← hle.storeAt_length_eq] at hrow
  exact hzero ((hw.admittedLimited_iff hinit u.length hle.length_le r row hrow hrst).mp hlim)

/-- If the window counts right throughout, then no row is closed uncounted. -/
theorem PaidRun.closesApart_of_counts (hv : PaidRun clockOk v) (hinit : Unopened k resetAtMs v.init)
    (hw : PaidRun clockOk w) (hwv : w.Le v)
    (hcnts : ∀ n ≤ w.length, CountsLimited v k resetAtMs (v.storeAt n)) :
    ∀ kv label kv', w.Committed kv label kv' → ClosesApart kv label k resetAtMs := by
  induction hw with
  | start kv =>
    intro kv label kv' hcom
    exact absurd hcom (World.not_committed_start _ _ _ _ _)
  | advance w _ _ ht ih => exact ih ((w.le_advance ht).trans hwv) hcnts
  | commit w label writes hw hstep ih =>
    have hle := (w.le_commit label writes).trans hwv
    have hbef := ih hle fun n hn => hcnts n (Nat.le_succ_of_le hn)
    have hbal := balanced hw (by rwa [hle.init]) hbef w.length le_rfl
    rw [w.storeAt_length] at hbal
    intro kv label' kv' hcom
    rcases (w.committed_commit_iff _ _ _ _ _).mp hcom with ⟨rfl, rfl, rfl⟩ | hold
    · intro r row window hcls hrow hrst hzero hwin
      obtain ⟨⟨window', hwin', hcnt⟩, htot⟩ :=
        hstep.closesUncounted hcls hrow hrst hzero hwin
      -- the window counts as many rows after the commit as before it
      have haft : v.storeAt (w.commit label' writes).length = w.store.apply writes :=
        hwv.storeAt_length_eq
      have hcountsAfter := hcnts (w.commit label' writes).length le_rfl
      rw [countsLimited_iff hv hinit hwv.length_le ?_, haft] at hcountsAfter
      · have hsum := (hcountsAfter window' hwin').1
        have hpend := hbal.pendingCount
        rw [hwin, Option.elim_some] at hpend
        omega
      · intro r row hrow hrst
        rw [haft] at hrow
        exact hstep.reserved_nonneg hbal.nonneg hrow hrst
    · exact hbef kv label' kv' hold

/-- **Which windows count right**: the count and the reservations are those of the outstanding rows
that were admitted with a limit if and only if the window counts nothing whenever any other row is
closed in it. -/
theorem window_counts_iff {kv₀ : PaidKv} {sys : PaidSystem} (hstr : PaidStart kv₀)
    (hnew : Unopened k resetAtMs kv₀) (h : PaidReachable clockOk kv₀ sys) :
    ((∀ n ≤ sys.world.length, CountsLimited sys.world k resetAtMs (sys.world.storeAt n)) ∧
      KeepsCount sys.world k resetAtMs) ↔ UnlimitedApart sys.world k resetAtMs := by
  have hrun := paidReachable_run hstr h
  have hinit : Unopened k resetAtMs sys.world.init := by rwa [Reachable.init_eq h]
  constructor
  · rintro ⟨hcnts, -⟩ kv label kv' hcom r row window hcls hrow hrst hlim hwin
    have hap := closesApart_of_counts hrun hinit hrun (World.Le.refl _) hcnts kv label
      kv' hcom
    refine hap r row window hcls hrow hrst (fun hpos => ?_) hwin
    obtain ⟨u, writes, hu, hle, rfl, -, -⟩ := hrun.committed hcom
    rw [← hle.storeAt_length_eq] at hrow
    rw [(admittedLimited_iff hrun hinit u.length hle.length_le r row hrow hrst).mpr hpos]
      at hlim
    cases hlim
  · intro hunl
    have hap := closesApart hrun hinit hunl
    have hbal := balanced hrun hinit hap
    refine ⟨fun n hn => ?_, ?_⟩
    · refine (countsLimited_iff hrun hinit hn (hbal n hn).nonneg).mpr ?_
      intro window hwin
      have hres := (hbal n hn).reserved
      have hcnt := (hbal n hn).pendingCount
      rw [hwin] at hres hcnt
      exact ⟨hcnt, hres⟩
    · intro kv label kv' hcom r row window hcls hrow hrst hlim hwin
      have hcnt := hunl kv label kv' hcom r row window hcls hrow hrst hlim
        hwin
      obtain ⟨u, writes, hu, hle, rfl, hstep, rfl⟩ := hrun.committed hcom
      have hzero : ¬ 0 < row.reservedMicrocredits := by
        intro hpos
        rw [← hle.storeAt_length_eq] at hrow
        rw [(admittedLimited_iff hrun hinit u.length hle.length_le r row hrow hrst).mpr
          hpos] at hlim
        cases hlim
      obtain ⟨⟨window', hwin', hcnt'⟩, -⟩ :=
        hstep.closesUncounted hcls hrow hrst hzero hwin
      rw [hwin', Option.map_some, hcnt', hcnt]
      rfl

theorem unopened_empty (k : String) (resetAtMs : ℤ) : Unopened k resetAtMs Kv.empty :=
  ⟨rfl, fun _ _ hrow => by cases hrow⟩

/-- The key's policy is limited when "a" is admitted and unlimited when "b" is. -/
def policySwitchSchedule : List (Action (ℕ × PaidOperation)) :=
  runSession (sampleInput "a" 100 false) [] ++
    runSession (sampleInput "b" (-1) false) [.release false]

/-- **An unlimited request is taken off the count**: "b" is released, and the window does not count
"a" any more. -/
theorem policySwitch_miscounts : ¬ ∀ sys, PaidReachable exactClock Kv.empty sys →
      CountsLimited sys.world "key" 1000 sys.world.store := by
  intro h
  have hcnts := h _ (afterSchedule_reachable Kv.empty policySwitchSchedule (by decide))
  have hwin : (windowOf (afterSchedule Kv.empty policySwitchSchedule).world.store "key" 1000).map
      (·.pendingCount) = some 0 := by decide +kernel
  obtain ⟨window, hst, hcnt⟩ := Option.map_eq_some_iff.mp hwin
  have hsum := (hcnts window hst).1
  rw [hcnt] at hsum
  revert hsum
  decide +kernel

/-- A limited request is released before an unlimited one is admitted and released. -/
def apartSchedule : List (Action (ℕ × PaidOperation)) :=
  runSession (sampleInput "a" 100 false) [.release false] ++
    runSession (sampleInput "b" (-1) false) [.release false]

theorem window_counts_iff_apartSchedule :
    (windowOf (afterSchedule Kv.empty apartSchedule).world.store "key" 1000).isSome = true ∧
      CountsLimited (afterSchedule Kv.empty apartSchedule).world "key" 1000
        (afterSchedule Kv.empty apartSchedule).world.store := by
  have hrch := afterSchedule_reachable Kv.empty apartSchedule (by decide)
  have hlabs : (afterSchedule Kv.empty apartSchedule).world.events.map Event.label
      = [.release "key" "b" true, .admission (sampleInput "b" (-1) false),
        .release "key" "a" true, .admission (sampleInput "a" 100 false)] := by decide +kernel
  have hlen : (afterSchedule Kv.empty apartSchedule).world.length = 4 := by decide +kernel
  have hlim : admittedLimited (afterSchedule Kv.empty apartSchedule).world "key" "a" = true := by
    decide +kernel
  have hzero : ∀ n < 4, ∀ row ∈
      requestOf ((afterSchedule Kv.empty apartSchedule).world.storeAt n) "key" "b", ∀ window ∈
      windowOf ((afterSchedule Kv.empty apartSchedule).world.storeAt n) "key" 1000,
      window.pendingCount = 0 := by decide +kernel
  have hcnts := (window_counts_iff paidStart_empty (unopened_empty "key" 1000) hrch).mpr ?_
  · have hnow := hcnts.1 _ le_rfl
    rw [World.storeAt_length] at hnow
    exact ⟨by decide +kernel, hnow⟩
  · intro kv label kv' hcom r row window hcls hrow _ hunl hwin
    have hmem := hcom.label_mem
    rw [hlabs] at hmem
    obtain ⟨n, hn, rfl, -⟩ := hcom.storeAt
    rw [hlen] at hn
    simp only [List.mem_cons, List.not_mem_nil, or_false] at hmem
    rcases hmem with rfl | rfl | rfl | rfl
    · -- nothing is reserved while "b" is stored
      obtain rfl : "b" = r := by simpa [PaidCommit.closesFound] using hcls
      exact hzero n hn row hrow window hwin
    · cases hcls
    · obtain rfl : "a" = r := by simpa [PaidCommit.closesFound] using hcls
      rw [hlim] at hunl
      cases hunl
    · cases hcls

end UbqGateway.Paid
