import UbqGateway.Paid.Billing

/-!
# Folding exactly once

A commit of the backfill folds a row: it marks the row and, if the row is settled and named, merges
its usage into a rollup.  A settlement merges the usage of its own row and marks it.  `Folding` says
what the history knows of this: no request is folded twice, no usage is merged twice, and whatever
is marked was marked at first, folded, or merged by its settlement.

Together with what a pass ends with, this gives what the backfill is for: when a pass is not
truncated, every row that was stored throughout is marked, and marked by one commit only.
-/

namespace UbqGateway.Paid

variable {label : PaidCommit}

/-! ### The mark of one row -/

theorem rowOf_folding (h : request ∈ label.folding) :
    label.rowOf = some request ∧ label.isAdmission = false := by
  cases label <;> first | exact ⟨h, rfl⟩ | cases h

/-- What a commit that writes the row of a request does to its mark. -/
inductive Marking (old new : PaidFallbackRequestV3) (label : PaidCommit) : Prop
  | keeps (hfld : label.folding = none) (hmrg : label.merge = none)
      (hmark : new.usageRollupAtMs = old.usageRollupAtMs)
  | settles (hfld : label.folding = none) (hmrg : label.merge.isSome = true)
      (hold : isBillableRequestV3 old = true) (hcl : isBillableRequestV3 new = false)
      (hmark : new.usageRollupAtMs.isSome = true)
  | folds (hfld : label.folding.isSome = true) (hold : old.usageRollupAtMs = none)
      (hmark : new.usageRollupAtMs.isSome = true)
      (hcl : label.merge.isSome = true → isBillableRequestV3 new = false)

/-- A step marks a row as folded only together with its fold. -/
theorem LedgerStep.marking {rows : LedgerWrite} (h : LedgerStep clockOk w label rows)
    (hold : requestOf w.store rows.keyId rows.requestId = some old)
      (hnew : rows.request = some new) :
    Marking old new label := by
  cases h with
  | admission _ _ _ _ _ hreq =>
    rw [hreq] at hold
    cases hold
  | lifecycle _ _ _ _ _ _ _ hst hplan =>
    cases hnew
    cases hst.symm.trans hold
    exact .keeps rfl rfl (evolves_lifecycle hplan).2.2.1
  | release _ _ _ _ _ _ _ _ hst _ hplan =>
    cases hnew
    cases hst.symm.trans hold
    refine .keeps rfl rfl ?_
    rw [(planPaidFallbackReleaseV3_eq_some hplan).2.1]
    rfl
  | defer _ _ _ _ _ _ _ _ _ hst _ hplan =>
    cases hnew
    cases hst.symm.trans hold
    obtain ⟨-, -, -, -, hmark, -⟩ := planPaidFallbackDeferralV3_eq_write hplan
    exact .keeps rfl rfl hmark
  | settle k r row pending window log corr cost spend now hnow hst hpend hwin heval identity
      hidt plan hplan =>
    cases hnew
    cases hst.symm.trans hold
    subst hplan
    cases hfold : foldIntoRollup identity with
    | false => exact .keeps rfl rfl rfl
    | true =>
      exact .settles rfl rfl (evaluatePaidFallbackSettlementV3_eq_settle heval).1
        (closed_of_settled rfl) rfl
  | retention _ _ _ hst =>
    cases hnew
    cases hst.symm.trans hold
    exact .keeps rfl rfl rfl
  | fold _ _ row _ hst hunm _ _ _ hplan =>
    cases hnew
    obtain rfl := Option.some.inj (hst.symm.trans hold)
    subst hplan
    refine .folds rfl hunm rfl fun hmrg => ?_
    -- only a settled row has usage to merge
    have hset : row.billingState = .settled := by
      by_contra hopen
      simp [planPaidFallbackBackfillFoldV3, paidFallbackBackfillRollupEligibleV3, hopen,
        PaidCommit.merge] at hmrg
    exact closed_of_settled hset
  | _ => cases hnew

theorem PaidStep.marking (h : PaidStep clockOk w label writes)
    (hold : requestOf w.store k r = some old)
    (hnew : requestOf (w.store.apply writes) k r = some new) :
    Marking old new label ∧ label.rowOf = some (k, r) ∨ new = old ∧ label.rowOf ≠ some (k, r) := by
  rcases h.row hold hnew with ⟨rows, hled, rfl, rfl, hreq, hrow⟩ | heq
  · exact .inl ⟨hled.marking hold hreq, hrow⟩
  · exact .inr heq

theorem PaidStep.marking_stored (h : PaidStep clockOk w label writes)
    (hrow : label.rowOf = some request ∧ label.isAdmission = false) :
    ∃ old new, requestOf w.store request.1 request.2 = some old ∧
      requestOf (w.store.apply writes) request.1 request.2 = some new ∧ Marking old new label := by
  obtain ⟨old, new, hold, hnew⟩ := h.row_stored hrow.1 hrow.2
  refine ⟨old, new, hold, hnew, ?_⟩
  rcases h.marking hold hnew with ⟨hmkg, -⟩ | ⟨-, hnot⟩
  · exact hmkg
  · exact absurd hrow.1 hnot

/-! ### Runs -/

/-- The row was folded: it is marked, or it is gone. -/
def FoldedAway (kv : PaidKv) (request : String × String) : Prop :=
  Marked kv request.1 request.2 ∨ Gone kv request.1 request.2

/-- The usage was merged: the row is closed and marked, or it is gone. -/
def MergedAway (kv : PaidKv) (request : String × String) : Prop :=
  Closed kv request.1 request.2 ∧ FoldedAway kv request

/-- What the history knows of the folded requests. -/
structure Folding (w : PaidWorld) : Prop where
  /-- No request is folded twice. -/
  foldedOnce : (foldings w).Nodup
  folded : ∀ request ∈ foldings w, FoldedAway w.store request
  /-- No usage is merged twice. -/
  mergedOnce : ((merges w).map Merge.request).Nodup
  merged : ∀ request ∈ (merges w).map Merge.request, MergedAway w.store request
  /-- What is marked was marked at first, folded, or merged by its settlement. -/
  marks : ∀ k r, Marked w.store k r → Marked w.init k r ∨ (k, r) ∈ foldings w ∨
    (k, r) ∈ (merges w).map Merge.request

theorem foldings_commit (w : PaidWorld) (label : PaidCommit)
    (writes : List (Write PaidKey PaidValue)) :
    foldings (w.commit label writes) = label.folding.toList ++ foldings w :=
  filterMap_commit PaidCommit.folding w label writes

theorem FoldedAway.step (h : PaidStep clockOk w label writes) (haway : FoldedAway w.store request) :
    FoldedAway (w.store.apply writes) request :=
  haway.elim (fun hmkd => hmkd.step h) fun hgone => .inr (hgone.step h)

theorem MergedAway.step (h : PaidStep clockOk w label writes) (haway : MergedAway w.store request) :
    MergedAway (w.store.apply writes) request :=
  ⟨haway.1.step h, haway.2.step h⟩

theorem FoldedAway.marked (haway : FoldedAway kv request)
    (hrow : requestOf kv request.1 request.2 = some row) : row.usageRollupAtMs.isSome = true := by
  rcases haway with ⟨row', hrow', hmark⟩ | hgone
  · cases hrow'.symm.trans hrow
    exact hmark
  · rw [hgone.1] at hrow
    cases hrow

namespace Folding

variable (h : Folding w) (hstep : PaidStep clockOk w label writes)
include h hstep

theorem foldedOnce_step : (foldings (w.commit label writes)).Nodup := by
  rw [foldings_commit]
  cases hlab : label.folding with
  | none => exact h.foldedOnce
  | some request =>
    obtain ⟨old, new, hold, -, hmkg⟩ := hstep.marking_stored (rowOf_folding hlab)
    refine List.nodup_cons.mpr ⟨fun hmem => ?_, h.foldedOnce⟩
    -- a request that was folded before is marked, and only an unmarked one is folded
    have hmark := (h.folded request hmem).marked hold
    cases hmkg with
    | folds _ hunm =>
      rw [hunm] at hmark
      cases hmark
    | keeps hfld | settles hfld =>
      rw [hlab] at hfld
      cases hfld

theorem folded_step (request : String × String)
    (hmem : request ∈ foldings (w.commit label writes)) :
    FoldedAway (w.store.apply writes) request := by
  rw [foldings_commit, List.mem_append, Option.mem_toList] at hmem
  rcases hmem with hself | hmem
  · obtain ⟨old, new, -, hnew, hmkg⟩ := hstep.marking_stored (rowOf_folding hself)
    cases hmkg with
    | folds _ _ hmark => exact .inl ⟨new, hnew, hmark⟩
    | keeps hfld | settles hfld =>
      rw [hself] at hfld
      cases hfld
  · exact (h.folded request hmem).step hstep

theorem mergedOnce_step : ((merges (w.commit label writes)).map Merge.request).Nodup := by
  rw [merges_commit]
  cases hlab : label.merge with
  | none => exact h.mergedOnce
  | some merge =>
    obtain ⟨old, new, hold, -, hmkg⟩ := hstep.marking_stored (rowOf_merge hlab)
    refine List.nodup_cons.mpr ⟨fun hmem => ?_, h.mergedOnce⟩
    -- a settlement takes an outstanding row and a fold an unmarked one
    obtain ⟨hcl, haway⟩ := h.merged merge.request hmem
    cases hmkg with
    | keeps _ hmrg =>
      rw [hlab] at hmrg
      cases hmrg
    | settles _ _ hopen =>
      rw [hcl.2 old hold] at hopen
      cases hopen
    | folds _ hunm =>
      have hmark := haway.marked hold
      rw [hunm] at hmark
      cases hmark

theorem merged_step (request : String × String)
    (hmem : request ∈ (merges (w.commit label writes)).map Merge.request) :
    MergedAway (w.store.apply writes) request := by
  rw [merges_commit, List.map_append, List.mem_append] at hmem
  rcases hmem with hself | hmem
  · obtain ⟨merge, hmrg, rfl⟩ := List.mem_map.mp hself
    rw [Option.mem_toList] at hmrg
    obtain ⟨old, new, -, hnew, hmkg⟩ := hstep.marking_stored (rowOf_merge hmrg)
    have hsome : label.merge.isSome = true := by
      rw [hmrg]
      rfl
    have hrow : isBillableRequestV3 new = false ∧ new.usageRollupAtMs.isSome = true := by
      cases hmkg with
      | keeps _ hno =>
        rw [hno] at hsome
        cases hsome
      | settles _ _ _ hcl hmark => exact ⟨hcl, hmark⟩
      | folds _ _ hmark hcl => exact ⟨hcl hsome, hmark⟩
    refine ⟨⟨known_of_stored hnew, fun row hrow' => ?_⟩, .inl ⟨new, hnew, hrow.2⟩⟩
    cases hnew.symm.trans hrow'
    exact hrow.1
  · exact (h.merged request hmem).step hstep

/-- A commit marks no other row than the one it folds or merges. -/
theorem marks_step (k r : String) (hmkd : Marked (w.store.apply writes) k r) :
    Marked w.init k r ∨ (k, r) ∈ foldings (w.commit label writes) ∨
      (k, r) ∈ (merges (w.commit label writes)).map Merge.request := by
  rw [foldings_commit, merges_commit, List.map_append, List.mem_append, List.mem_append,
    Option.mem_toList]
  -- a row that was marked before
  have hbef : Marked w.store k r → Marked w.init k r ∨
      (label.folding = some (k, r) ∨ (k, r) ∈ foldings w) ∨
      ((k, r) ∈ label.merge.toList.map Merge.request ∨ (k, r) ∈ (merges w).map Merge.request) :=
    fun hmkd => (h.marks k r hmkd).imp id (Or.imp .inr .inr)
  obtain ⟨row, hrow, hmark⟩ := hmkd
  rcases hstep.stored_or_new hrow with ⟨old, hold, -⟩ | ⟨-, -, hunm⟩
  · rcases hstep.marking hold hrow with ⟨hmkg, hro⟩ | ⟨rfl, -⟩
    · cases hmkg with
      | keeps _ _ heq => exact hbef ⟨old, hold, by rw [← heq]; exact hmark⟩
      | settles _ hmrg =>
        obtain ⟨merge, hmrg⟩ := Option.isSome_iff_exists.mp hmrg
        have hself := Option.some.inj ((rowOf_merge hmrg).1.symm.trans hro)
        refine .inr (.inr (.inl ?_))
        rw [hmrg, ← hself]
        exact List.mem_cons_self
      | folds hfld =>
        obtain ⟨request, hfld⟩ := Option.isSome_iff_exists.mp hfld
        have hself := Option.some.inj ((rowOf_folding hfld).1.symm.trans hro)
        rw [hself] at hfld
        exact .inr (.inl (.inl hfld))
    · exact hbef ⟨row, hold, hmark⟩
  · rw [hunm] at hmark
    cases hmark

theorem step : Folding (w.commit label writes) where
  foldedOnce := h.foldedOnce_step hstep
  folded := h.folded_step hstep
  mergedOnce := h.mergedOnce_step hstep
  merged := h.merged_step hstep
  marks := h.marks_step hstep

end Folding

theorem PaidRun.folding (hw : PaidRun clockOk w) : Folding w := by
  induction hw with
  | start =>
    exact ⟨List.nodup_nil, nofun, List.nodup_nil, nofun, fun k r hmkd => .inl hmkd⟩
  | advance _ _ _ _ ih => exact ⟨ih.foldedOnce, ih.folded, ih.mergedOnce, ih.merged, ih.marks⟩
  | commit _ _ _ _ hstep ih => exact ih.step hstep

/-! ### The backfill -/

/-- The row was marked by one commit: a fold of the backfill, or else its own settlement. -/
def MarkedOnce (w : PaidWorld) (k r : String) : Prop :=
  Marked w.store k r ∧ ((merges w).map Merge.request).count (k, r) ≤ 1 ∧
    ((foldings w).count (k, r) = 1 ∨
      (foldings w).count (k, r) = 0 ∧ (k, r) ∈ (merges w).map Merge.request)

theorem PaidRun.markedOnce (hw : PaidRun clockOk w) (hmkd : Marked w.store k r)
    (hfst : ¬ Marked w.init k r) : MarkedOnce w k r := by
  have hfld := PaidRun.folding hw
  refine ⟨hmkd, List.nodup_iff_count_le_one.mp hfld.mergedOnce (k, r), ?_⟩
  by_cases hmem : (k, r) ∈ foldings w
  · exact .inl (List.count_eq_one_of_mem hfld.foldedOnce hmem)
  · refine .inr ⟨List.count_eq_zero_of_not_mem hmem, ?_⟩
    exact ((hfld.marks k r hmkd).resolve_left hfst).resolve_left hmem

/-- A pass that starts in `sys₀` has ended in the world `v` with a result. -/
def PassEnds (clockOk : ℤ → ℤ → Prop) (sys₀ sys : PaidSystem) (limit scanBudget : ℕ) (v : PaidWorld)
    (result : PaidFallbackRollupBackfillResult) : Prop :=
  ∃ fuel, sys₀.Becomes clockOk (Set.range paidProgram)
    (paidProgram (fuel, .backfillPass limit scanBudget)) sys
    ⟨v, .pure (.ok (.pass limit scanBudget result))⟩

/-- The pass that has ended in `v` has folded a row, or has left a cursor beyond the one that it has
read, at the moment `n` since its start in `u`. -/
def MakesProgress (u v : PaidWorld) (result : PaidFallbackRollupBackfillResult) : Prop :=
  0 < result.processed ∧ (foldings u).length + result.processed ≤ (foldings v).length ∨
    ∃ n, u.length ≤ n ∧ n ≤ v.length ∧ ∃ key, cursorOf v.store = some key ∧
      ∀ b, cursorOf (v.storeAt n) = some b → b < key

/-- **The backfill can be resumed**: no request is folded twice, the cursor passes over no row that
was stored throughout and is not marked, a pass that is not truncated leaves every such row marked
by one commit, and a truncated pass without a conflict makes progress. -/
theorem backfill_resumes {kv₀ : PaidKv} {sys₀ sys : PaidSystem} (hstr : PaidStart kv₀)
    (h₀ : PaidReachable clockOk kv₀ sys₀) {limit scanBudget : ℕ} {v : PaidWorld}
    {result : PaidFallbackRollupBackfillResult}
    (h : PassEnds clockOk sys₀ sys limit scanBudget v result) : (foldings v).Nodup ∧
    (∀ key, cursorOf v.store = some key → ∀ k r, PaidKey.request k r ≤ key →
      StoredThroughout v k r → Marked v.store k r) ∧
    (result.truncated = false → ∀ k r, StoredThroughout v k r → ¬ Marked kv₀ k r →
      MarkedOnce v k r) ∧
    (result.truncated = true → result.failed = 0 → 0 < limit → 2 ≤ scanBudget →
      NothingVanishes sys₀.world v → MakesProgress sys₀.world v result) := by
  obtain ⟨fuel, hbec⟩ := h
  have hrch : PaidReachable clockOk kv₀ sys :=
    (h₀.step (.spawn sys₀ _ (Set.mem_range_self _))).steps hbec.1
  have hmem : ⟨v, .pure (.ok (.pass limit scanBudget result))⟩ ∈ sys.clients :=
    List.mem_reverse.mp (List.mem_of_getElem? hbec.2)
  obtain ⟨hle, hrun, -⟩ := paidReachable_ended hstr hrch hmem
  obtain ⟨-, -, hswp, hflds, hprog⟩ := becomes_ended hstr h₀ hbec
  have hinit : v.init = kv₀ := by rw [hle.init, Reachable.init_eq hrch]
  refine ⟨(PaidRun.folding hrun).foldedOnce, fun key hkey => PaidRun.swept hrun hkey, ?_, ?_⟩
  · intro htrc k r hst hfst
    exact PaidRun.markedOnce hrun (hswp htrc k r hst) (by rwa [hinit])
  · intro htrc hfail hlmt htwo hvan
    exact (hprog htrc hfail hlmt htwo hvan).imp (fun hpos => ⟨hpos, hflds⟩) id

/-- A request that was settled before there were rollups. -/
def settledRow : PaidFallbackRequestV3 where
  keyId := "key"
  requestId := "a"
  policyVersion := "v1"
  route := "route"
  path := "path"
  model := "model"
  stream := false
  reasoning := none
  provider := some .metered
  windowResetAtMs := 1000
  reservedMicrocredits := 60
  quotaPerCredit := 1000000
  providerRequestId := some "provider"
  providerQuota := some 25
  inputTokens := some 7
  cachedInputTokens := none
  outputTokens := some 0
  dispatchState := .dispatched
  terminalState := .completed
  spendMicrocredits := some 25
  billingState := .settled
  reconciliationAttempts := 0
  lastReconciliationAtMs := none
  dispatchedAtMs := some 0
  terminalAtMs := some 0
  settledAtMs := some 0
  createdAtMs := 0
  updatedAtMs := 0
  usageRollupAtMs := none

/-- A store that holds that request only. -/
def settledStore : PaidKv := Kv.empty.apply [.set (.request "key" "a") (.request settledRow)]

theorem get_settledStore (key : PaidKey) : settledStore.get key =
    if key = .request "key" "a" then some ⟨.request settledRow, 1⟩ else none := by
  unfold settledStore
  rw [get_apply_set]
  simp only [eq_comm (a := key)]
  rfl

theorem requestOf_settledStore (h : requestOf settledStore k r = some row) :
    k = "key" ∧ r = "a" ∧ row = settledRow := by
  unfold requestOf at h
  rw [get_settledStore] at h
  split_ifs at h with hkey
  · cases hkey
    exact ⟨rfl, rfl, (Option.some.inj h).symm⟩
  · cases h

theorem paidStart_settledStore : PaidStart settledStore where
  typed k r h := by
    unfold requestOf
    rw [get_settledStore] at h ⊢
    split_ifs at h ⊢
    · rfl
    · cases h
  keyed k r row h := by
    obtain ⟨rfl, rfl, rfl⟩ := requestOf_settledStore h
    exact ⟨rfl, rfl⟩
  markers k r h := by
    unfold pendingOf at h
    rw [get_settledStore, if_neg (by simp)] at h
    cases h
  cursor key h := by
    unfold cursorOf at h
    rw [get_settledStore, if_neg (by simp)] at h
    cases h

/-- A pass over that store. -/
def settledPass : PaidSystem :=
  (initialSystem settledStore).runAll paidProgram [.spawn (40, .backfillPass 5 50), .act 0 40]

theorem backfill_resumes_settledPass : ∃ v : PaidWorld, v.Le settledPass.world ∧
    MarkedOnce v "key" "a" := by
  obtain ⟨v, _, hbec⟩ : ∃ v : PaidWorld, v.length = 2 ∧
      (initialSystem settledStore).Becomes exactClock (Set.range paidProgram) _ _
        ⟨v, .pure (.ok (.pass 5 50 ⟨1, 1, 1, 0, false⟩))⟩ :=
    System.runAll_becomes (fun _ ht => ⟨rfl, ht⟩) (fun i => Set.mem_range_self i)
      (40, PaidOperation.backfillPass 5 50) [.act 0 40]
      (by decide : ShowsOnly (fun t => 0 ≤ t ∧ t ≤ 8640000000000000) _) _ (by decide)
      (by decide +kernel)
  have hrch : PaidReachable exactClock settledStore (initialSystem settledStore) := .start 0
  have hle := (becomes_ended paidStart_settledStore hrch hbec).2.1
  have hst : StoredThroughout settledPass.world "key" "a" := by
    unfold StoredThroughout
    decide +kernel
  have hunm : ¬ Marked settledStore "key" "a" := by
    rintro ⟨row, hrow, hmark⟩
    obtain ⟨-, -, rfl⟩ := requestOf_settledStore hrow
    cases hmark
  exact ⟨v, hle, (backfill_resumes paidStart_settledStore hrch ⟨40, hbec⟩).2.2.1 rfl _ _
    (hst.of_le hle) hunm⟩

/-! ### Passes that stop where they have started -/

theorem not_makesProgress (hprocessed : result.processed = 0) (huv : u.length ≤ v.length)
    (hcsr : ∀ n ≤ v.length, u.length ≤ n → cursorOf (v.storeAt n) = cursor) :
    ¬ MakesProgress u v result := by
  rintro (⟨hpos, -⟩ | ⟨n, hun, hnv, key, hkey, hbyd⟩)
  · omega
  · rw [← v.storeAt_length, hcsr v.length le_rfl huv] at hkey
    have heq : cursorOf (v.storeAt n) = some key := (hcsr n hnv hun).trans hkey
    exact lt_irrefl key (hbyd key heq)

/-- Every truncated pass with these budgets and without a conflict makes progress. -/
def AlwaysProgress (limit scanBudget : ℕ) : Prop :=
  ∀ sys₀ sys v result, PaidReachable exactClock Kv.empty sys₀ →
    PassEnds exactClock sys₀ sys limit scanBudget v result → result.truncated = true →
    result.failed = 0 → MakesProgress sys₀.world v result

theorem not_alwaysProgress {limit scanBudget : ℕ} (before after : List (Action (ℕ × PaidOperation)))
    (hbef : ShowsOnly (fun t => 0 ≤ t ∧ t ≤ 8640000000000000) (before ++ after))
    (result : PaidFallbackRollupBackfillResult) (n : ℕ) (cursor : Option PaidKey)
    (htime : (afterSchedule Kv.empty before).world.time = 0)
    (hend : (((afterSchedule Kv.empty before).runAll paidProgram
      (.spawn (40, .backfillPass limit scanBudget) :: after)).clients.reverse.map
      fun c => (c.ended, c.ready.length))[(afterSchedule Kv.empty before).clients.length]?
      = some (some (.ok (.pass limit scanBudget result)), n))
    (htrc : result.truncated = true) (hfail : result.failed = 0)
    (hprocessed : result.processed = 0)
    (hcsr : ∀ m ≤ n, (afterSchedule Kv.empty before).world.length ≤ m →
      cursorOf (((afterSchedule Kv.empty before).runAll paidProgram
        (.spawn (40, .backfillPass limit scanBudget) :: after)).world.storeAt m) = cursor) :
    ¬ AlwaysProgress limit scanBudget := by
  intro halways
  have hrch := afterSchedule_reachable Kv.empty before
    fun a ha => hbef a (List.mem_append_left _ ha)
  obtain ⟨v, rfl, hbec⟩ : ∃ v : PaidWorld, v.length = n ∧
      (afterSchedule Kv.empty before).Becomes exactClock (Set.range paidProgram) _ _ ⟨v, .pure _⟩ :=
    System.runAll_becomes (fun _ ht => ⟨rfl, ht⟩) (fun i => Set.mem_range_self i) _ after
      (fun a ha => hbef a (List.mem_append_right _ ha)) _ (by rw [htime]; decide) hend
  obtain ⟨hstr, hle, -⟩ := becomes_ended paidStart_empty hrch hbec
  have heq : ∀ m ≤ v.length, (afterSchedule Kv.empty before).world.length ≤ m →
      cursorOf (v.storeAt m) = cursor := by
    intro m hm hum
    rw [← hle.storeAt_eq hm]
    exact hcsr m hm hum
  exact not_makesProgress hprocessed hstr.length_le heq
    (halways _ _ _ _ hrch ⟨40, hbec⟩ htrc hfail)

/-- Two requests are outstanding. -/
def outstandingSchedule : List (Action (ℕ × PaidOperation)) :=
  runSession (sampleInput "a" (-1) false) [] ++ runSession (sampleInput "b" (-1) false) []

/-- Two requests, the first of which a pass has folded. -/
def foldedSchedule : List (Action (ℕ × PaidOperation)) :=
  outstandingSchedule ++ [.spawn (40, .backfillPass 1 10), .act 0 40]

def releasedSchedule (keyIds : List String) : List (Action (ℕ × PaidOperation)) :=
  keyIds.flatMap fun keyId =>
    runSession { sampleInput "a" (-1) false with keyId := keyId } [.release true]

/-- A pass that lists the rows of the keys one after the other, each of which is deleted before the
pass reads it again. -/
def vanishingSchedule (keyIds : List String) : List (Action (ℕ × PaidOperation)) :=
  .act 0 2 :: (keyIds.zipIdx.flatMap fun keyId =>
    [.act keyId.2 1, .spawn (40, .delete keyId.1), .act 0 60, .act (keyId.2 + 1) 1]) ++
    [.act keyIds.length 20]

/-- **A truncated pass need not make progress**: without a budget for writes, with a scan budget of
one, or when the rows that it lists are deleted before it reads them. -/
theorem backfill_stalls : ¬ AlwaysProgress 0 10 ∧ ¬ AlwaysProgress 1 1 ∧ ¬ AlwaysProgress 1 10 := by
  refine ⟨?_, ?_, ?_⟩
  · exact not_alwaysProgress outstandingSchedule [.act 0 40] (by decide) ⟨1, 0, 0, 0, true⟩ 2 none
      (by decide +kernel) (by decide +kernel) rfl rfl rfl (by decide +kernel)
  · exact not_alwaysProgress foldedSchedule [.act 0 40] (by decide) ⟨2, 0, 0, 0, true⟩ 6
      (some (.request "key" "a")) (by decide +kernel) (by decide +kernel) rfl rfl rfl
      (by decide +kernel)
  · exact not_alwaysProgress
      (releasedSchedule ["a", "b", "c", "d", "e", "f", "g", "h", "i", "j", "k"])
      (vanishingSchedule ["a", "b", "c", "d", "e", "f", "g", "h", "i", "j"])
      (by decide) ⟨11, 0, 0, 0, true⟩ 42 none (by decide +kernel) (by decide +kernel) rfl rfl rfl
      (by decide +kernel)

end UbqGateway.Paid
