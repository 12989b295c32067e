import UbqGateway.Paid.Balance

/-!
# Deletions and admissions

A deletion of a key's state races with admissions of the same key.  The guard is stored before
anything is looked at, every admission checks the guard in its commit, and the guard is never
removed: so an admission either commits before the guard, and then the deletion finds its row and
gives up, or never.
-/

namespace UbqGateway.Paid

theorem PaidStep.keeps_billable (h : PaidStep clockOk w label writes)
    (hrow : requestOf w.store k r = some row) (hbill : isBillableRequestV3 row = true) :
    (requestOf (w.store.apply writes) k r).isSome = true := by
  have hch := h.request_change k r
  rw [hrow] at hch
  generalize requestOf (w.store.apply writes) k r = new at hch
  cases hch with
  | same | evolved => rfl
  | deleted _ _ hcl =>
    rw [hbill] at hcl
    cases hcl

theorem Erased.step (h : PaidStep clockOk w label writes) (hers : Erased keyId w.store) :
    Erased keyId (w.store.apply writes) :=
  ⟨h.guard hers.1, fun key hkey => h.creates_nothing hers.1 hkey (hers.2 key hkey)⟩

theorem PaidStep.admit_unguarded (h : PaidStep clockOk w (.admission input) writes) :
    guardOf w.store input.keyId = none := by
  cases h with
  | ledger _ _ hstep =>
    cases hstep with
    | admission _ _ _ _ _ _ hgd => exact hgd
  | auxiliary _ _ hlab => cases hlab

/-- **Deletion is safe**: no commit removes an outstanding row, no admission commits once the guard
is stored, and once a deletion has answered that it has deleted, the key has no rows. -/
theorem deletion_safe {kv₀ : PaidKv} {sys : PaidSystem} (hstr : PaidStart kv₀)
    (h : PaidReachable clockOk kv₀ sys) :
    (∀ kv label kv', sys.world.Committed kv label kv' → ∀ k r row, requestOf kv k r = some row →
      row.billingState = .pending ∨ row.billingState = .unresolved →
        (requestOf kv' k r).isSome = true) ∧
    (∀ kv input kv', sys.world.Committed kv (.admission input) kv' →
      guardOf kv input.keyId = none) ∧
    ∀ v keyId requests windows pending leases,
      ⟨v, .pure (.ok (.deletion keyId (.deleted requests windows pending leases)))⟩ ∈ sys.clients →
      ∀ n, v.length ≤ n → n ≤ sys.world.length → ∀ key : PaidKey, key.rowOf keyId = true →
        (sys.world.storeAt n).get key = none := by
  have hrun := paidReachable_run hstr h
  refine ⟨fun kv label kv' hcom k r row hrow hopen => ?_,
    fun kv input kv' hcom => ?_, ?_⟩
  · obtain ⟨u, writes, -, -, rfl, hstep, rfl⟩ := hrun.committed hcom
    refine hstep.keeps_billable hrow ?_
    rcases hopen with hopen | hopen <;> simp [isBillableRequestV3, hopen]
  · obtain ⟨u, writes, -, -, rfl, hstep, rfl⟩ := hrun.committed hcom
    exact hstep.admit_unguarded
  · intro v keyId requests windows pending leases hclt n hvn hn key hkey
    obtain ⟨hle, -, u, -, hpost⟩ := paidReachable_ended hstr h hclt
    have hers : Erased keyId v.store := hpost
    rw [← hle.storeAt_length_eq] at hers
    exact (hrun.stable (P := Erased keyId) (fun _ _ _ hstep he => he.step hstep) hvn hn hers).2
      key hkey

/-- A request is admitted and released, then the key is deleted, and then another request comes. -/
def deletionSchedule : List (Action (ℕ × PaidOperation)) :=
  runSession (sampleInput "a" 100 false) [.release false] ++
    [.spawn (9, .delete "key"), .act 0 30] ++ runSession (sampleInput "b" 100 false) []

theorem deletion_safe_deletionSchedule :
    ∃ v, ⟨v, .pure (.ok (.deletion "key" (.deleted 1 1 0 0)))⟩ ∈
        (afterSchedule Kv.empty deletionSchedule).clients ∧
      requestOf (afterSchedule Kv.empty deletionSchedule).world.store "key" "a" = none ∧
      requestOf (afterSchedule Kv.empty deletionSchedule).world.store "key" "b" = none := by
  obtain ⟨v, hclt, hlen⟩ : ∃ v, ⟨v, .pure (.ok (.deletion "key" (.deleted 1 1 0 0)))⟩ ∈
      (afterSchedule Kv.empty deletionSchedule).clients ∧ v.length = 4 :=
    System.exists_ended (i := 1) (by decide +kernel)
  have hrch := afterSchedule_reachable Kv.empty deletionSchedule (by decide)
  have hnow : v.length ≤ (afterSchedule Kv.empty deletionSchedule).world.length := by
    rw [hlen]
    decide +kernel
  have hgone := (deletion_safe paidStart_empty hrch).2.2 v "key" 1 1 0 0 hclt _ hnow le_rfl
  rw [World.storeAt_length] at hgone
  refine ⟨v, hclt, ?_, ?_⟩
  · rw [requestOf, hgone (.request "key" "a") rfl]
    rfl
  · rw [requestOf, hgone (.request "key" "b") rfl]
    rfl

/-- **Rows only go forward**: a row of one state of the store is later a later version of itself, or
deleted behind the guard of its key, and then it is never stored again. The expiry of rows is left
out. -/
theorem rows_go_forward {kv₀ : PaidKv} {sys : PaidSystem} (hstr : PaidStart kv₀)
    (h : PaidReachable clockOk kv₀ sys) (n m : ℕ) (hnm : n ≤ m) (hm : m ≤ sys.world.length)
    (k r : String) : RowFollows k r (sys.world.storeAt n) (sys.world.storeAt m) :=
  (paidReachable_run hstr h).rowFollows hnm hm k r

theorem rows_go_forward_deletionSchedule :
    ∃ row, requestOf ((afterSchedule Kv.empty deletionSchedule).world.storeAt 1) "key" "a" =
      some row ∧
      Gone (afterSchedule Kv.empty deletionSchedule).world.store "key" "a" := by
  have hrch := afterSchedule_reachable Kv.empty deletionSchedule (by decide)
  obtain ⟨row, hrow⟩ := Option.isSome_iff_exists.mp (by decide +kernel :
    (requestOf ((afterSchedule Kv.empty deletionSchedule).world.storeAt 1) "key" "a").isSome = true)
  refine ⟨row, hrow, ?_⟩
  have hfol := rows_go_forward paidStart_empty hrch 1 _ (by decide +kernel) le_rfl "key" "a"
  rw [World.storeAt_length] at hfol
  rcases hfol.1 row hrow with ⟨row', hrow', -⟩ | hgone
  · have hno : requestOf (afterSchedule Kv.empty deletionSchedule).world.store "key" "a" =
      none := by
      decide +kernel
    cases hno.symm.trans hrow'
  · exact hgone

end UbqGateway.Paid
