import UbqGateway.Kernel.Service

/-!
# The life of a reservation row

A row is reserved, may be extended and given a terminal intent while it is reserved, and is settled
once (`KernelStep.rowChange`).  `row_settled_once` follows the row through the whole history,
whoever writes it.

The second half is about reclaimers.  A reclaimer decides on the row that it has listed and then
settles the row that it reads again, without looking at the lease a second time: it only settles
expired ones if no extension falls in between (`reclaimed_lease_expired`, `renewed_lease_released`).
-/

namespace UbqGateway.Kernel

/-! ### One step -/

/-- The row whose lease the commit extends. -/
def KernelCommit.extendedKey : KernelCommit → Option KvKey
  | .terminalIntent request => some request.key
  | .renew request => some request.key
  | _ => none

/-- What a step can write under the key of a row. -/
inductive RowWrite (kv : KernelKv) (label : KernelCommit) (key : KvKey) :
    KernelQuotaReservationRowV2 → Prop
  | reserve (row : KernelQuotaReservationRowV2) (habs : kv.value key = none)
      (hsta : row.state = .reserved) (hint : row.terminalIntent = none) :
      RowWrite kv label key row
  | extend (row : KernelQuotaReservationRowV2) (intent : Option TerminalState)
      (leaseExpiresAtMs : ℤ) (hlab : label.extendedKey = some key)
      (hst : rowOf kv key = some row) (hsta : row.state = .reserved)
      (hint : row.terminalIntent = none ∨ row.terminalIntent = intent) :
      RowWrite kv label key
        { row with terminalIntent := intent, leaseExpiresAtMs := leaseExpiresAtMs }
  | settle (row : KernelQuotaReservationRowV2) (terminalState : TerminalState) (reason : String)
      (nowMs : ℤ) (hst : rowOf kv key = some row) (hsta : row.state = .reserved)
      (hint : row.terminalIntent = none ∨ row.terminalIntent = some terminalState) :
      RowWrite kv label key (settledKernelReservationRow row terminalState reason nowMs)

section Step

/-- What a step writes to a row. -/
theorem KernelStep.row_cases (h : KernelStep clockOk w label writes)
    (identity : KernelQuotaIdentity) (createdAtMs : ℤ) (requestId : String) :
    Kv.written (.reservation identity createdAtMs requestId) writes = none ∨
      ∃ row, Kv.written (.reservation identity createdAtMs requestId) writes
          = some (some (.reservation row)) ∧
        RowWrite w.store label (.reservation identity createdAtMs requestId) row := by
  generalize hkey : KvKey.reservation identity createdAtMs requestId = key
  have hwin : ∀ other, KvKey.window other ≠ key := by simp [← hkey]
  cases h with
  | reserve reserved effective resolved reservedId route nowMs hnow hpol hcut hrsv hnew
      hroom =>
    by_cases heq : KvKey.reservation reserved resolved.window.createdAtMs reservedId = key
    · refine .inr ⟨reservedRow reserved resolved.window reservedId route nowMs, ?_,
        .reserve _ (heq ▸ hnew) rfl rfl⟩
      simp [Kv.written, heq]
    · exact .inl (by simp [Kv.written, heq, hwin])
  | terminalIntent request terminalState row leaseExpiresAtMs hstl =>
    by_cases heq : request.key = key
    · refine .inr ⟨_, ?_, .extend row (some terminalState) leaseExpiresAtMs (congrArg some heq)
        (heq ▸ hstl.stored) hstl.reserved hstl.intent⟩
      simp [Kv.written, heq]
    · exact .inl (by simp [Kv.written, heq])
  | settle _ request terminalState row _ window _ reason nowMs _ hstl hplan =>
    obtain ⟨rfl, -⟩ := decideKernelQuotaSettlement_eq_settle hplan
    by_cases heq : request.key = key
    · refine .inr ⟨_, ?_, .settle row terminalState reason nowMs (heq ▸ hstl.stored)
        hstl.reserved hstl.intent⟩
      cases window <;> simp [Kv.written, heq]
    · refine .inl (Kv.written_eq_none ?_)
      cases window <;> simp [Write.key, heq, hwin]
  | renew request row leaseExpiresAtMs hst hres =>
    by_cases heq : request.key = key
    · refine .inr ⟨_, ?_, .extend row row.terminalIntent leaseExpiresAtMs (congrArg some heq)
        (heq ▸ hst) hres (.inr rfl)⟩
      simp [Kv.written, heq]
    · exact .inl (by simp [Kv.written, heq])
  | updateDefaults cutover =>
    refine .inl (Kv.written_eq_none ?_)
    subst hkey
    cases cutover <;> simp [Write.key, or_imp, forall_and]
  | _ =>
    subst hkey
    exact .inl (by simp [Kv.written])

theorem KernelStep.get_eq_of_reserved (h : KernelStep clockOk w label writes)
    (hfd : w.store.value (.reservation identity createdAtMs requestId) ≠ none)
    (hrow : rowOf (w.store.apply writes) (.reservation identity createdAtMs requestId) = some row)
    (hsta : row.state = .reserved)
    (hlab : label.extendedKey ≠ some (.reservation identity createdAtMs requestId)) :
    (w.store.apply writes).get (.reservation identity createdAtMs requestId)
      = w.store.get (.reservation identity createdAtMs requestId) := by
  rcases h.row_cases identity createdAtMs requestId with huntouched | ⟨new, hwr, hwri⟩
  · exact Kv.get_apply_of_untouched _ huntouched
  · rw [rowOf_apply_of_set new hwr] at hrow
    cases hrow
    cases hwri with
    | reserve _ habs => exact absurd habs hfd
    | extend _ _ _ hext => exact absurd hext hlab
    | settle _ terminalState =>
      cases terminalState <;> cases hsta

end Step

/-! ### Whole histories -/

/-- What the rest of a history keeps of a row: it stays, its terminal state stays, and so does its
terminal intent, which is the only state it can be settled into. -/
def RowKept (old new : Option KernelQuotaReservationRowV2) : Prop :=
  ∀ row, old = some row → ∃ row', new = some row' ∧
    (row.state ≠ .reserved → row'.state = row.state) ∧
    ∀ intent, row.terminalIntent = some intent → row'.terminalIntent = some intent ∧
      (row'.state = row.state ∨ row'.state = intent.state)

theorem RowKept.refl (row : Option KernelQuotaReservationRowV2) : RowKept row row :=
  fun row h => ⟨row, h, fun _ => rfl, fun _ h => ⟨h, .inl rfl⟩⟩

theorem RowKept.trans (hab : RowKept a b) (hbc : RowKept b c) : RowKept a c := by
  intro row ha
  obtain ⟨row', hb, hsta, hint⟩ := hab row ha
  obtain ⟨row'', hc, hsta', hint'⟩ := hbc row' hb
  refine ⟨row'', hc, fun hne => ?_, fun intent h => ?_⟩
  · have hsame := hsta hne
    rw [hsta' (by rwa [hsame]), hsame]
  · obtain ⟨hkept, hor⟩ := hint intent h
    obtain ⟨hkept', hor'⟩ := hint' intent hkept
    refine ⟨hkept', ?_⟩
    rcases hor' with heq | heq
    · rwa [heq]
    · exact .inr heq

section Step

/-- **The step**: a row is kept, and moves forward at most. -/
theorem KernelStep.rowKept (h : KernelStep clockOk w label writes)
    (identity : KernelQuotaIdentity) (createdAtMs : ℤ) (requestId : String) :
    RowKept (rowOf w.store (.reservation identity createdAtMs requestId))
      (rowOf (w.store.apply writes) (.reservation identity createdAtMs requestId)) := by
  rcases h.row_cases identity createdAtMs requestId with huntouched | ⟨new, hwr, hwri⟩
  · rw [rowOf_apply_of_untouched huntouched]
    exact RowKept.refl _
  · rw [rowOf_apply_of_set new hwr]
    intro row hrow
    refine ⟨new, rfl, ?_⟩
    cases hwri with
    | reserve _ habs =>
      rw [rowOf_eq_some, habs] at hrow
      cases hrow
    | extend _ _ _ _ hst hsta hint =>
      cases hst.symm.trans hrow
      refine ⟨fun hne => absurd hsta hne, fun kept hkept => ?_⟩
      refine ⟨?_, .inl rfl⟩
      rcases hint with hno | heq
      · rw [hno] at hkept
        cases hkept
      · exact heq.symm.trans hkept
    | settle _ terminalState _ _ hst hsta hint =>
      cases hst.symm.trans hrow
      refine ⟨fun hne => absurd hsta hne, fun kept hkept => ?_⟩
      rcases hint with hno | heq
      · rw [hno] at hkept
        cases hkept
      · cases heq.symm.trans hkept
        cases terminalState <;> exact ⟨rfl, .inr rfl⟩

end Step

section History

theorem rowKept_storeAt (hw : KernelRun clockOk w) (hnm : n ≤ m) (hm : m ≤ w.length) :
    RowKept (rowOf (w.storeAt n) (.reservation identity createdAtMs requestId))
      (rowOf (w.storeAt m) (.reservation identity createdAtMs requestId)) :=
  hw.storeAt_rel_storeAt (R := fun a b =>
      RowKept (rowOf a (.reservation identity createdAtMs requestId))
        (rowOf b (.reservation identity createdAtMs requestId)))
    (fun _ => RowKept.refl _) (fun _ _ _ => RowKept.trans)
    (fun _ _ _ _ hstep => hstep.rowKept identity createdAtMs requestId) hnm hm

/-- A row is settled as it was intended, or not yet. -/
theorem state_of_terminalIntent (hw : KernelRun clockOk w)
    (hrow : rowOf w.store (.reservation identity createdAtMs requestId) = some row)
    (hint : row.terminalIntent = some intent) :
    row.state = .reserved ∨ row.state = intent.state := by
  refine Run.invariant (P := fun w => ∀ row,
    rowOf w.store (.reservation identity createdAtMs requestId) = some row →
      row.terminalIntent = some intent → row.state = .reserved ∨ row.state = intent.state)
    ?_ ?_ ?_ hw row hrow hint
  · rintro _ t rfl row hrow
    cases hrow
  · exact fun w t ih _ => ih
  · intro w label writes _ ih hstep row hrow hint
    rw [World.store_commit] at hrow
    rcases hstep.row_cases identity createdAtMs requestId with huntouched | ⟨new, hwr, hwri⟩
    · rw [rowOf_apply_of_untouched huntouched] at hrow
      exact ih row hrow hint
    · rw [rowOf_apply_of_set new hwr] at hrow
      cases hrow
      cases hwri with
      | reserve _ _ hsta | extend _ _ _ _ _ hsta => exact .inl hsta
      | settle _ terminalState =>
        cases terminalState <;> obtain rfl := Option.some.inj hint <;> exact .inr rfl

/-- Commit number `n` takes the row out of the state `reserved`. -/
def LeavesReserved (w : KernelWorld) (key : KvKey) (n : ℕ) : Prop :=
  (∃ row, rowOf (w.storeAt n) key = some row ∧ row.state = .reserved) ∧
    ∃ row, rowOf (w.storeAt (n + 1)) key = some row ∧ row.state ≠ .reserved

theorem LeavesReserved.not_lt (hw : KernelRun clockOk w) (hm : m < w.length)
    (hn : LeavesReserved w (.reservation identity createdAtMs requestId) n)
    (hm' : LeavesReserved w (.reservation identity createdAtMs requestId) m) : ¬ n < m := by
  intro hlt
  obtain ⟨-, row, hrow, hterm⟩ := hn
  obtain ⟨⟨later, hlat, hres⟩, -⟩ := hm'
  obtain ⟨row', hrow', hkept, -⟩ := rowKept_storeAt hw (Nat.succ_le_of_lt hlt) hm.le row hrow
  cases hlat.symm.trans hrow'
  exact hterm ((hkept hterm).symm.trans hres)

end History

/-- **A reservation is settled once**; a row and its terminal state stay, and a row that ever
carried a terminal intent is only ever found reserved or in the intended state. -/
theorem row_settled_once {sys : KernelSystem} (h : KernelReachable clockOk sys)
    (identity : KernelQuotaIdentity) (createdAtMs : ℤ) (requestId : String) :
    (∀ n m, n < sys.world.length → m < sys.world.length →
      LeavesReserved sys.world (.reservation identity createdAtMs requestId) n →
      LeavesReserved sys.world (.reservation identity createdAtMs requestId) m → n = m) ∧
    ∀ n m, n ≤ m → m ≤ sys.world.length → ∀ row,
      rowOf (sys.world.storeAt n) (.reservation identity createdAtMs requestId) = some row →
        ∃ row', rowOf (sys.world.storeAt m) (.reservation identity createdAtMs requestId)
            = some row' ∧
          (row.state ≠ .reserved → row'.state = row.state) ∧
          ∀ intent, row.terminalIntent = some intent →
            row'.state = .reserved ∨ row'.state = intent.state := by
  have hw := kernelReachable_run h
  constructor
  · intro n m hn hm hlvs hlvs'
    have hnm := LeavesReserved.not_lt hw hm hlvs hlvs'
    have hmn := LeavesReserved.not_lt hw hn hlvs' hlvs
    omega
  · intro n m hnm hm row hrow
    obtain ⟨row', hrow', hsta, hint⟩ := rowKept_storeAt hw hnm hm row hrow
    refine ⟨row', hrow', hsta, fun intent hsome => ?_⟩
    -- the later store is the current one of an earlier world
    obtain ⟨u, hu, hle, rfl⟩ := hw.exists_storeAt hm
    rw [hle.storeAt_length_eq] at hrow'
    exact state_of_terminalIntent hu hrow' (hint intent hsome).1

/-- A reservation whose owner records that it will commit, and then commits it. -/
def committingSchedule : List (Action (ℕ × KernelOperation)) :=
  [.spawn (1, .reserveOrg "acme" "request-1" "/v1/responses"), .act 0 4,
    .spawn (1, .launchSettlement ⟨.org "acme", 0, "request-1", "/v1/responses"⟩ .committed
      "completed"), .act 0 9]

theorem row_settled_once_committed : (afterSchedule committingSchedule).world.length = 3 ∧ ∃ row,
      rowOf ((afterSchedule committingSchedule).world.storeAt 3)
        (.reservation (.org "acme") 0 "request-1") = some row ∧
      (row.state = .reserved ∨ row.state = .committed) := by
  have hlen : (afterSchedule committingSchedule).world.length = 3 := by decide
  refine ⟨hlen, ?_⟩
  have hrch : KernelReachable Eq (afterSchedule committingSchedule) :=
    afterSchedule_reachable (fun _ => rfl) committingSchedule
  -- after the second commit the row carries the intent
  have hint : (rowOf ((afterSchedule committingSchedule).world.storeAt 2)
      (.reservation (.org "acme") 0 "request-1")).bind (·.terminalIntent) = some .committed := by
    decide
  obtain ⟨row, hrow, hterm⟩ := Option.bind_eq_some_iff.mp hint
  obtain ⟨row', hrow', -, hsta⟩ := (row_settled_once hrch (.org "acme") 0 "request-1").2 2 3
    (by omega) hlen.ge row hrow
  exact ⟨row', hrow', hsta .committed hterm⟩

/-! ### Reclaimers -/

/-- Every renewal and every terminal intent of a row that was committed before a reclaimer settled
the row was committed before the reclaimer listed it. -/
def NoExtensionSinceListing (w : KernelWorld) : Prop :=
  ∀ kv kv' request nowMs listed, w.Committed kv (.reclaim request nowMs listed) kv' →
    ∀ a label b, w.Committed a label b → label.extendedKey = some request.key →
      b.stamp ≤ kv.stamp → b.stamp ≤ listed.versionstamp

/-- A row whose lease was not extended since it was listed is stored as it was listed. -/
theorem get_eq_of_not_extended (hw : KernelRun clockOk w) :
    ∀ {n : ℕ} {listed : Entry KernelValue} {old row : KernelQuotaReservationRowV2}, n ≤ w.length →
      (w.storeAt n).get (.reservation identity createdAtMs requestId) = some listed →
      listed.value = .reservation old →
      rowOf w.store (.reservation identity createdAtMs requestId) = some row →
      row.state = .reserved →
      (∀ a label b, w.Committed a label b →
        label.extendedKey = some (.reservation identity createdAtMs requestId) →
          b.stamp ≤ listed.versionstamp) →
      w.store.get (.reservation identity createdAtMs requestId) = some listed := by
  induction hw with
  | start =>
    intro n listed old row hn hget _ _ _ _
    rwa [World.storeAt, List.drop_nil] at hget
  | advance _ _ _ _ ih => exact ih
  | commit w label writes hw hstep ih =>
    intro n listed old row hn hget hval hrow hsta hextd
    by_cases hold : n ≤ w.length
    · rw [(w.le_commit label writes).storeAt_eq hold] at hget
      -- the row is there before the commit too
      have hfd : rowOf (w.storeAt n) (.reservation identity createdAtMs requestId)
          = some old := by
        rw [rowOf_eq_some, Kv.value, hget, Option.map_some, hval]
      obtain ⟨before, hbef, -⟩ := rowKept_storeAt hw hold le_rfl old hfd
      rw [w.storeAt_length] at hbef
      have hprs : w.store.value (.reservation identity createdAtMs requestId) ≠ none := by
        rw [rowOf_eq_some.mp hbef]
        exact Option.some_ne_none _
      -- an extension now would be newer than the listed entry
      have hlab : label.extendedKey ≠ some (.reservation identity createdAtMs requestId) := by
        intro hext
        have hnew := hextd w.store label _
          ((w.committed_commit_iff label writes _ _ _).mpr (.inl ⟨rfl, rfl, rfl⟩)) hext
        have hstamp := (w.storeAt n).stamped _ listed hget
        have hle := (hw.precedes_storeAt n).1
        have hsucc : (w.store.apply writes).stamp = w.store.stamp + 1 := rfl
        omega
      have heq := hstep.get_eq_of_reserved hprs hrow hsta hlab
      have hrow' : rowOf w.store (.reservation identity createdAtMs requestId) = some row := by
        rw [rowOf_eq_some, Kv.value, ← heq]
        exact rowOf_eq_some.mp hrow
      rw [World.store_commit, heq]
      refine ih hold hget hval hrow' hsta fun a m b hab hext => hextd a m b ?_ hext
      exact hab.mono (w.le_commit label writes)
    · have hlength : n = (w.commit label writes).length := by
        have hlen : (w.commit label writes).length = w.length + 1 := rfl
        omega
      rwa [hlength, World.storeAt_length] at hget

/-- **Reclaimers settle expired reservations only**, as long as no renewal and no terminal intent
falls between a reclaimer's listing of a row and its settlement. -/
theorem reclaimed_lease_expired {sys : KernelSystem} (h : KernelReachable clockOk sys)
    (hextd : NoExtensionSinceListing sys.world) {kv kv' : KernelKv}
    {request : KernelQuotaReservationIdentity} {nowMs : ℤ} {listed : Entry KernelValue}
    (hcmt : sys.world.Committed kv (.reclaim request nowMs listed) kv') :
    ∃ row, rowOf kv request.key = some row ∧ row.leaseExpiresAtMs ≤ nowMs := by
  have hw := kernelReachable_run h
  obtain ⟨u, writes, hu, hle, rfl, hstep, -⟩ := hw.committed hcmt
  generalize hlab : KernelCommit.reclaim request nowMs listed = label at hstep
  cases hstep with
  | settle _ _ _ _ _ _ _ _ _ hby hstl =>
    cases hby with
    | owner => cases hlab
    | reclaimer _ _ old hn hget hval _ hls =>
      cases hlab
      have hcur := get_eq_of_not_extended hu hn hget hval hstl.stored hstl.reserved
        fun a m b hab hext => hextd _ _ _ _ _ hcmt a m b (hab.mono hle) hext
          (hu.committed_stamp_le hab)
      refine ⟨old, ?_, hls⟩
      change u.store.get request.key = some listed at hcur
      rw [rowOf_eq_some, Kv.value, hcur, Option.map_some, hval]
  | removeCutover _ hremove =>
    rcases hremove with rfl | rfl <;> cases hlab
  | _ => cases hlab

/-- A limit of one request, and a reservation whose lease holds until 300000. -/
def reservingSchedule : List (Action (ℕ × KernelOperation)) :=
  [.spawn (2, .setPolicy (.org "acme") 1 {}), .act 0 4,
    .spawn (2, .reserveOrg "acme" "request-1" "/v1/responses"), .act 0 4]

/-- The entry of the reservation, as a second request lists it. -/
def listedEntry : Entry KernelValue :=
  ⟨.reservation (reservedRow (.org "acme") (newWindow (.org "acme") defaultKernelPolicyWindowMs 0)
    "request-1" "/v1/responses" 0), 2⟩

/-- The owner does not come back.  When the lease has expired, a second request finds the window
full, lists the reservation and settles it. -/
def reclaimingSchedule : List (Action (ℕ × KernelOperation)) :=
  reservingSchedule ++
    [.tick 300000, .spawn (2, .reserveOrg "acme" "request-2" "/v1/responses"), .act 0 6]

theorem reclaimed_lease_expired_unrenewed :
    ∃ row, rowOf ((afterSchedule reclaimingSchedule).world.storeAt 2)
      (.reservation (.org "acme") 0 "request-1") = some row ∧ row.leaseExpiresAtMs ≤ 300000 := by
  have hrch : KernelReachable Eq (afterSchedule reclaimingSchedule) :=
    afterSchedule_reachable (fun _ => rfl) reclaimingSchedule
  have hnwt : ((afterSchedule reclaimingSchedule).world.events.map fun e =>
        (e.label, e.time)).head?
      = some (.reclaim ⟨.org "acme", 0, "request-1", "/v1/responses"⟩ 300000 listedEntry,
        300000) := by
    decide
  -- nobody extends a lease in this history
  have hno : ∀ label ∈ (afterSchedule reclaimingSchedule).world.events.map Event.label,
      label.extendedKey = none := by
    decide
  have hextd : NoExtensionSinceListing (afterSchedule reclaimingSchedule).world := by
    intro kv kv' request nowMs listed _ a label b hab hext
    rw [hno label hab.label_mem] at hext
    cases hext
  exact reclaimed_lease_expired hrch hextd ⟨_, World.committedAt_newest hnwt⟩

/-- The owner reads its row just before the lease expires, and its renewal is stored when the second
request has listed the row and has not settled it yet. -/
def renewingSchedule : List (Action (ℕ × KernelOperation)) :=
  reservingSchedule ++
    [.tick 299999, .spawn (2, .renew ⟨.org "acme", 0, "request-1", "/v1/responses"⟩), .act 0 2,
      .tick 300000, .spawn (2, .reserveOrg "acme" "request-2" "/v1/responses"), .act 0 4,
      .act 1 1, .act 0 2]

/-- A reclaimer can release a reservation whose lease was renewed after it listed the row. -/
theorem renewed_lease_released : ¬ ∀ sys, KernelReachable Eq sys → ∀ kv kv' request nowMs listed,
      sys.world.Committed kv (.reclaim request nowMs listed) kv' →
      (rowOf kv' request.key).map (·.state) = some .released →
        ∃ row, rowOf kv request.key = some row ∧ row.leaseExpiresAtMs ≤ nowMs := by
  intro hclm
  have hnwt : ((afterSchedule renewingSchedule).world.events.map fun e =>
        (e.label, e.time)).head?
      = some (.reclaim ⟨.org "acme", 0, "request-1", "/v1/responses"⟩ 300000 listedEntry,
        300000) := by
    decide
  obtain ⟨row, hrow, hls⟩ := hclm _ (afterSchedule_reachable (fun _ => rfl) renewingSchedule)
    _ _ _ _ _ ⟨_, World.committedAt_newest hnwt⟩ (by decide)
  -- the row that the settlement replaces has the renewed lease
  have hrenewed : (rowOf ((afterSchedule renewingSchedule).world.storeAt 3)
      (.reservation (.org "acme") 0 "request-1")).map (·.leaseExpiresAtMs) = some 599999 := by
    decide
  change rowOf ((afterSchedule renewingSchedule).world.storeAt 3)
    (.reservation (.org "acme") 0 "request-1") = some row at hrow
  rw [hrow] at hrenewed
  have hlat : row.leaseExpiresAtMs = 599999 := Option.some.inj hrenewed
  omega

end UbqGateway.Kernel
