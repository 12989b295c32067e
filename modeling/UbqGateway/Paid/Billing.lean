import UbqGateway.Paid.Windows

/-!
# Billing exactly once

A request is closed by one release or one settlement, its spend is added to the window that the
settlement has found, and its usage is merged into one rollup: by its settlement if its model is not
blank, or by a backfill if it was settled before there were rollups.  The mark `usageRollupAtMs`
keeps the two apart.  A row that a backfill marks while it is outstanding has no usage yet and is
merged by its settlement.

A rollup that fails its validator is not read, so that the next merge starts it anew:
`rollupMerges` is what was merged into a rollup since.
-/

namespace UbqGateway.Paid

open PaidCommit

variable {label : PaidCommit}

/-! ### What the history says -/

/-- The usage of a request that a commit merged into a rollup. -/
structure Merge where
  keyId : String
  requestId : String
  identity : NativePaidRollupIdentity
  input : PaidFallbackUsageRollupInput

def Merge.request (merge : Merge) : String × String := (merge.keyId, merge.requestId)

def PaidCommit.merge : PaidCommit → Option Merge
  | .settle k r _ (some usage) _ => some ⟨k, r, usage.1, usage.2⟩
  | .fold k r (some usage) => some ⟨k, r, usage.1, usage.2⟩
  | _ => none

def PaidCommit.closing : PaidCommit → Option (String × String)
  | .release k r _ => some (k, r)
  | .settle k r _ _ _ => some (k, r)
  | _ => none

/-- What the history has merged, newest first. -/
def merges (w : PaidWorld) : List Merge := w.events.filterMap fun event => event.label.merge

/-- The requests that the history has closed, newest first. -/
def closings (w : PaidWorld) : List (String × String) :=
  w.events.filterMap fun event => event.label.closing

theorem filterMap_commit (f : PaidCommit → Option α) (w : PaidWorld) (label : PaidCommit)
    (writes : List (Write PaidKey PaidValue)) :
    (w.commit label writes).events.filterMap (fun event => f event.label)
      = (f label).toList ++ w.events.filterMap fun event => f event.label := by
  rw [show (w.commit label writes).events = ⟨label, w.store.apply writes, w.time⟩ :: w.events
    from rfl, List.filterMap_cons]
  cases f label <;> rfl

def PaidFallbackRequestV3.named (row : PaidFallbackRequestV3) : Bool := decide (trim row.model ≠ "")

variable {row' : PaidFallbackRequestV3}

theorem named_congr {row : PaidFallbackRequestV3} (h : row'.model = row.model) :
    row'.named = row.named := by
  unfold PaidFallbackRequestV3.named
  rw [h]

/-- The usage of the row is in a rollup: the row is settled, named and marked. -/
def folded (row : PaidFallbackRequestV3) : Bool :=
  decide (row.billingState = .settled) && row.named && row.usageRollupAtMs.isSome

/-- A settled row carries what the provider has reported. -/
def Complete (kv : PaidKv) : Prop :=
  ∀ k r row, requestOf kv k r = some row → row.billingState = .settled →
    row.providerQuota.isSome = true ∧ row.spendMicrocredits.isSome = true

structure Reports (row : PaidFallbackRequestV3) (input : PaidFallbackUsageRollupInput) : Prop where
  quota : row.providerQuota.getD 0 = input.quota
  spend : row.spendMicrocredits.getD 0 = input.spendMicrocredits
  inputTokens : row.inputTokens.getD 0 = input.inputTokens
  cachedInputTokens : row.cachedInputTokens = input.cachedInputTokens
  outputTokens : row.outputTokens.getD 0 = input.outputTokens

theorem Reports.evolves (h : Reports row input) (hev : Evolves row row')
    (hcl : isBillableRequestV3 row = false) : Reports row' input := by
  obtain ⟨-, hsp, hquo⟩ := hev.closed hcl
  obtain ⟨hinp, hcached, hout⟩ := hev.tokens hcl
  exact ⟨by rw [hquo, h.quota], by rw [hsp, h.spend], by rw [hinp, h.inputTokens],
    by rw [hcached, h.cachedInputTokens], by rw [hout, h.outputTokens]⟩

/-! ### The row that a commit writes -/

/-- The request whose row a commit writes. -/
def PaidCommit.rowOf : PaidCommit → Option (String × String)
  | .admission input => some (input.keyId, input.requestId)
  | .lifecycle k r | .release k r _ | .defer k r _ | .settle k r _ _ _ | .retention k r
  | .fold k r _ => some (k, r)
  | _ => none

/-- The commit stores a new row. -/
def PaidCommit.isAdmission : PaidCommit → Bool
  | .admission _ => true
  | _ => false

theorem rowOf_closing (h : request ∈ label.closing) :
    label.rowOf = some request ∧ label.isAdmission = false := by
  cases label <;> first | exact ⟨h, rfl⟩ | cases h

theorem rowOf_merge {merge : Merge} (h : merge ∈ label.merge) :
    label.rowOf = some merge.request ∧ label.isAdmission = false := by
  cases label with
  | settle _ _ _ fold | fold _ _ fold =>
    cases fold with
    | none => cases h
    | some usage =>
      cases h
      exact ⟨rfl, rfl⟩
  | _ => cases h

theorem LedgerStep.rowOf (h : LedgerStep clockOk w label rows) :
    label.rowOf = rows.request.map fun _ => (rows.keyId, rows.requestId) := by
  cases h <;> rfl

theorem LedgerStep.stored_before (h : LedgerStep clockOk w label rows)
    (hrow : label.rowOf.isSome = true) (hnew : label.isAdmission = false) :
    ∃ old, requestOf w.store rows.keyId rows.requestId = some old := by
  cases h with
  | lifecycle _ _ row _ _ _ _ hst | release _ _ row _ _ _ _ _ hst | defer _ _ row _ _ _ _ _ _ hst
  | settle _ _ row _ _ _ _ _ _ _ _ hst | retention _ _ row hst | fold _ _ row _ hst =>
    exact ⟨row, hst⟩
  | admission => cases hnew
  | _ => cases hrow

theorem rowOf_eq_none (h : label.aside = true) : label.rowOf = none := by
  cases label <;> first | rfl | cases h

/-- What a step does to a row that is stored before and after it: it writes the row and names it, or
it leaves the row as it is and does not name it. -/
theorem PaidStep.row (h : PaidStep clockOk w label writes) (hold : requestOf w.store k r = some old)
    (hnew : requestOf (w.store.apply writes) k r = some new) :
    (∃ rows, LedgerStep clockOk w label rows ∧ rows.keyId = k ∧ rows.requestId = r ∧
        rows.request = some new ∧ label.rowOf = some (k, r)) ∨
      new = old ∧ label.rowOf ≠ some (k, r) := by
  rcases h.kind with ⟨rows, hled, rfl⟩ | ⟨keyId, keys, rfl, rfl, -, -⟩ | ⟨haside, hsame⟩
  · have hrow := hled.rowOf
    rw [requestOf_apply] at hnew
    split_ifs at hnew with hkey
    · obtain ⟨rfl, rfl⟩ := hkey
      cases hreq : rows.request with
      | some row =>
        rw [hreq, Option.some_or] at hnew
        cases hnew
        rw [hreq] at hrow
        exact .inl ⟨rows, hled, rfl, rfl, hreq, hrow⟩
      | none =>
        rw [hreq, Option.none_or, hold] at hnew
        rw [hreq] at hrow
        refine .inr ⟨(Option.some.inj hnew).symm, fun heq => ?_⟩
        rw [hrow] at heq
        cases heq
    · rw [hold] at hnew
      refine .inr ⟨(Option.some.inj hnew).symm, fun heq => hkey ?_⟩
      rw [hrow] at heq
      obtain ⟨row, -, hpair⟩ := Option.map_eq_some_iff.mp heq
      exact Prod.mk.inj hpair
  · rw [requestOf_apply_delete, hold] at hnew
    split_ifs at hnew
    exact .inr ⟨(Option.some.inj hnew).symm, nofun⟩
  · unfold requestOf at hnew hold
    rw [hsame _ rfl, hold] at hnew
    refine .inr ⟨(Option.some.inj hnew).symm, fun heq => ?_⟩
    rw [rowOf_eq_none haside] at heq
    cases heq

theorem PaidStep.row_stored (h : PaidStep clockOk w label writes) (hrow : label.rowOf = some (k, r))
    (hadmission : label.isAdmission = false) : ∃ old new, requestOf w.store k r = some old ∧
      requestOf (w.store.apply writes) k r = some new := by
  rcases h.kind with ⟨rows, hled, rfl⟩ | ⟨keyId, keys, rfl, -, -, -⟩ | ⟨haside, -⟩
  · have hnmd := hled.rowOf
    rw [hrow] at hnmd
    obtain ⟨new, hnew, hpair⟩ := Option.map_eq_some_iff.mp hnmd.symm
    cases hpair
    obtain ⟨old, hold⟩ := hled.stored_before (by rw [hrow]; rfl) hadmission
    refine ⟨old, new, hold, ?_⟩
    rw [requestOf_apply, if_pos ⟨rfl, rfl⟩, hnew]
    rfl
  · cases hrow
  · rw [rowOf_eq_none haside] at hrow
    cases hrow

/-! ### One row -/

theorem closed_of_settled {row : PaidFallbackRequestV3} (h : row.billingState = .settled) :
    isBillableRequestV3 row = false := by
  simp [isBillableRequestV3, h]

theorem folded_eq_false_of_billable {row : PaidFallbackRequestV3}
    (h : isBillableRequestV3 row = true) : folded row = false := by
  unfold folded
  cases hbil : row.billingState <;> simp [isBillableRequestV3, hbil] at h ⊢

theorem foldIntoRollup_eq (row : PaidFallbackRequestV3) (correlation : NativePaidCorrelation) :
    foldIntoRollup (paidFallbackRequestRollupIdentity row correlation) = row.named := by
  have hprv : (paidFallbackRequestRollupIdentity row correlation).provider ≠ "" := by
    unfold paidFallbackRequestRollupIdentity
    dsimp only
    cases row.provider.getD (if correlation = .surplusReservation then .surplus else .metered) <;>
      decide
  simp only [foldIntoRollup, hprv, ne_eq, not_false_eq_true, decide_true, Bool.and_true]
  rfl

/-- What a commit that writes the row of a request does to its bill and its mark. -/
inductive Billing (old new : PaidFallbackRequestV3) : PaidCommit → Prop
  -- a row that is not closed and whose usage is not merged
  | keeps (label : PaidCommit) (hclg : label.closing = none) (hmrg : label.merge = none)
      (hbill : isBillableRequestV3 new = isBillableRequestV3 old)
      (hset : new.billingState = .settled ↔ old.billingState = .settled)
      (hfdd : folded new = folded old) : Billing old new label
  | releases (k r : String) (found : Bool) (hold : isBillableRequestV3 old = true)
      (hnew : new.billingState = .notBilled) : Billing old new (.release k r found)
  | settles (k r : String) (spend : ℤ) (fold : Option RollupFold) (found : Bool)
      (hold : isBillableRequestV3 old = true) (hnew : new.billingState = .settled)
      (hsp : new.spendMicrocredits = some spend) (hquo : new.providerQuota.isSome = true)
      (hnmd : new.named = old.named) (hfold : fold.isSome = old.named)
      (hmkd : old.named = true → new.usageRollupAtMs.isSome = true)
      (hrep : ∀ f ∈ fold, Reports new f.2) : Billing old new (.settle k r spend fold found)
  | folds (k r : String) (f : RollupFold) (hold : folded old = false) (hnew : folded new = true)
      (hset : old.billingState = .settled) (hrep : Reports new f.2) :
      Billing old new (.fold k r (some f))

/-- **What a commit of the ledger does to the row that it writes.** -/
theorem LedgerStep.billing (h : LedgerStep clockOk w label rows) (hcomp : Complete w.store)
    (hold : requestOf w.store rows.keyId rows.requestId = some old)
    (hnew : rows.request = some new) : Billing old new label := by
  -- the commits that write a row with the same bill and the same mark
  have hkps : ∀ {label : PaidCommit} {new : PaidFallbackRequestV3}, label.closing = none →
      label.merge = none → SameBill old new → new.model = old.model →
      new.usageRollupAtMs = old.usageRollupAtMs → Billing old new label := by
    intro label new hclg hmrg heq hmodel hmkd
    refine .keeps label hclg hmrg heq.billable heq.settled ?_
    unfold folded
    rw [named_congr hmodel, hmkd]
    simp only [heq.settled]
  cases h with
  | admission _ _ _ _ _ hreq =>
    rw [hreq] at hold
    cases hold
  | exhaustedPolicy | expedite | cleanup | recompute | windowTtl => cases hnew
  | lifecycle _ _ _ _ _ _ _ hst hplan =>
    cases hnew
    obtain rfl := Option.some.inj (hst.symm.trans hold)
    obtain ⟨hev, hbil, hmkd, hsp⟩ := evolves_lifecycle hplan
    exact hkps rfl rfl (hev.sameBill hbil hsp) hev.model hmkd
  | release _ _ _ _ _ _ _ _ hst _ hplan =>
    cases hnew
    obtain rfl := Option.some.inj (hst.symm.trans hold)
    obtain ⟨hpnd, hreq, -⟩ := planPaidFallbackReleaseV3_eq_some hplan
    refine .releases _ _ _ (isBillable_of_pending hpnd) ?_
    rw [hreq]
    rfl
  | defer _ _ _ _ _ _ _ _ _ hst _ hplan =>
    cases hnew
    obtain rfl := Option.some.inj (hst.symm.trans hold)
    obtain ⟨-, hev, -, -, hmkd, -⟩ := planPaidFallbackDeferralV3_eq_write hplan
    exact hkps rfl rfl (sameBill_deferral hplan) hev.model hmkd
  | settle _ _ row _ _ _ corr _ _ _ _ hst _ _ heval _ hidt _ hplan =>
    cases hnew
    obtain rfl := Option.some.inj (hst.symm.trans hold)
    subst hplan hidt
    have hbill := (evaluatePaidFallbackSettlementV3_eq_settle heval).1
    have hfold := foldIntoRollup_eq row corr
    rw [hfold]
    refine .settles _ _ _ _ _ hbill rfl rfl rfl (named_congr rfl) ?_ ?_ ?_
    · cases row.named <;> rfl
    · intro hnmd
      rw [hnmd]
      rfl
    · intro usage husg
      split_ifs at husg
      · cases husg
        exact ⟨rfl, rfl, rfl, rfl, rfl⟩
      · cases husg
  | retention _ _ _ hst =>
    cases hnew
    obtain rfl := Option.some.inj (hst.symm.trans hold)
    exact hkps rfl rfl (SameBill.refl _) rfl rfl
  | fold _ _ row now hst hunm _ hidt _ hplan =>
    cases hnew
    obtain rfl := Option.some.inj (hst.symm.trans hold)
    subst hplan hidt
    have hbef : folded row = false := by simp [folded, hunm]
    have haft : folded (planPaidFallbackBackfillFoldV3 row
        (usageRollupOf w.store (paidFallbackRequestRollupIdentity row)) now).request
        = paidFallbackBackfillRollupEligibleV3 row := by
      unfold folded paidFallbackBackfillRollupEligibleV3
      by_cases hset : row.billingState = .settled
      · obtain ⟨hquo, hsp⟩ := hcomp _ _ row hold hset
        simp [planPaidFallbackBackfillFoldV3, PaidFallbackRequestV3.named, hset, hquo, hsp]
      · simp [planPaidFallbackBackfillFoldV3, hset]
    by_cases helig : paidFallbackBackfillRollupEligibleV3 row = true
    · have hroll : (planPaidFallbackBackfillFoldV3 row
          (usageRollupOf w.store (paidFallbackRequestRollupIdentity row)) now).rollup
          = some _ := if_pos helig
      rw [hroll]
      refine .folds _ _ _ hbef (haft.trans helig) ?_ ⟨rfl, rfl, rfl, rfl, rfl⟩
      simp only [paidFallbackBackfillRollupEligibleV3, Bool.and_eq_true, decide_eq_true_eq]
        at helig
      exact helig.1.1.1
    · have hroll : (planPaidFallbackBackfillFoldV3 row
          (usageRollupOf w.store (paidFallbackRequestRollupIdentity row)) now).rollup
          = none := if_neg helig
      rw [hroll]
      refine .keeps _ rfl rfl rfl Iff.rfl ?_
      rw [haft, hbef]
      exact Bool.eq_false_iff.mpr helig

theorem PaidStep.billing (h : PaidStep clockOk w label writes) (hcomp : Complete w.store)
    (hold : requestOf w.store k r = some old)
    (hnew : requestOf (w.store.apply writes) k r = some new) :
    Billing old new label ∧ label.rowOf = some (k, r) ∨ new = old ∧ label.rowOf ≠ some (k, r) := by
  rcases h.row hold hnew with ⟨rows, hled, rfl, rfl, hreq, hrow⟩ | heq
  · exact .inl ⟨hled.billing hcomp hold hreq, hrow⟩
  · exact .inr heq

/-! ### Runs -/

/-- The stores that the billing may start with: there is no rollup yet, a settled row carries what
the provider has reported and is not marked unless its model is blank, and the window of an
outstanding row with a reservation is stored. -/
structure BillingStart (kv : PaidKv) : Prop extends PaidStart kv where
  rollups : ∀ identity, kv.get (.usageRollup identity) = none
  complete : Complete kv
  unfolded : ∀ k r row, requestOf kv k r = some row → folded row = false
  windows : ∀ k r row, requestOf kv k r = some row → isBillableRequestV3 row = true →
    0 < row.reservedMicrocredits → (windowOf kv k row.windowResetAtMs).isSome = true

/-- What the history has done to the requests. -/
structure Billed (w : PaidWorld) : Prop where
  complete : Complete w.store
  /-- No request is closed twice. -/
  closedOnce : (closings w).Nodup
  /-- What was closed is closed. -/
  closed : ∀ k r, (k, r) ∈ closings w → Closed w.store k r
  /-- No request is merged twice. -/
  mergedOnce : ((merges w).map Merge.request).Nodup
  mergedKnown : ∀ k r, (k, r) ∈ (merges w).map Merge.request → Known w.store k r
  /-- What was merged is settled, named and marked. -/
  merged : ∀ k r row, requestOf w.store k r = some row →
    ((k, r) ∈ (merges w).map Merge.request ↔ folded row = true)
  /-- What was merged is what the row reports. -/
  reports : ∀ merge ∈ merges w, ∀ row,
    requestOf w.store merge.keyId merge.requestId = some row → Reports row merge.input
  /-- A named row that is settled and not marked was settled at first. -/
  settledFirst : ∀ k r row, requestOf w.store k r = some row → row.billingState = .settled →
    row.named = true → row.usageRollupAtMs = none →
      ∃ row₀, requestOf w.init k r = some row₀ ∧ row₀.billingState = .settled

theorem closings_commit (w : PaidWorld) (label : PaidCommit)
    (writes : List (Write PaidKey PaidValue)) :
    closings (w.commit label writes) = label.closing.toList ++ closings w :=
  filterMap_commit closing w label writes

theorem merges_commit (w : PaidWorld) (label : PaidCommit)
    (writes : List (Write PaidKey PaidValue)) :
    merges (w.commit label writes) = label.merge.toList ++ merges w :=
  filterMap_commit merge w label writes

section

variable (h : PaidStep clockOk w label writes)

include h

theorem Complete.step (hcomp : Complete w.store) : Complete (w.store.apply writes) := by
  intro k r row hrow hset
  rcases h.stored_or_new hrow with ⟨old, hold, hev⟩ | ⟨-, hbill, -⟩
  · by_cases hcl : isBillableRequestV3 old = false
    · obtain ⟨hbil, hsp, hquo⟩ := hev.closed hcl
      rw [hsp, hquo]
      exact hcomp k r old hold (hbil.symm.trans hset)
    · rw [Bool.not_eq_false] at hcl
      rcases h.billing hcomp hold hrow with ⟨hbil, -⟩ | ⟨rfl, -⟩
      · cases hbil with
        | keeps _ _ _ hbill =>
          rw [closed_of_settled hset, hcl] at hbill
          cases hbill
        | releases _ _ _ _ hnew =>
          rw [hnew] at hset
          cases hset
        | settles _ _ _ _ _ _ _ hsp hquo =>
          exact ⟨hquo, by rw [hsp]; rfl⟩
        | folds _ _ _ _ _ hwas =>
          rw [closed_of_settled hwas] at hcl
          cases hcl
      · exact hcomp k r row hold hset
  · rw [closed_of_settled hset] at hbill
    cases hbill

theorem PaidStep.named_stored (hcomp : Complete w.store)
    (hrow : label.rowOf = some (k, r) ∧ label.isAdmission = false) :
    ∃ old new, requestOf w.store k r = some old ∧
      requestOf (w.store.apply writes) k r = some new ∧ Billing old new label := by
  obtain ⟨old, new, hold, hnew⟩ := h.row_stored hrow.1 hrow.2
  refine ⟨old, new, hold, hnew, ?_⟩
  rcases h.billing hcomp hold hnew with ⟨hbil, -⟩ | ⟨-, hnot⟩
  · exact hbil
  · exact absurd hrow.1 hnot

end

theorem known_of_stored {row : PaidFallbackRequestV3} (h : requestOf kv k r = some row) :
    Known kv k r := by
  intro hno
  rw [hno] at h
  cases h

theorem Billing.closing (h : Billing old new label) (hin : request ∈ label.closing) :
    isBillableRequestV3 old = true ∧ isBillableRequestV3 new = false := by
  cases h with
  | keeps _ hclg =>
    rw [hclg] at hin
    cases hin
  | releases _ _ _ hold hnew => exact ⟨hold, by simp [isBillableRequestV3, hnew]⟩
  | settles _ _ _ _ _ hold hnew => exact ⟨hold, closed_of_settled hnew⟩
  | folds => cases hin

theorem Billing.merge (h : Billing old new label) {merge : Merge} (hin : merge ∈ label.merge) :
    folded old = false ∧ folded new = true ∧ Reports new merge.input := by
  cases h with
  | keeps _ _ hmrg =>
    rw [hmrg] at hin
    cases hin
  | releases => cases hin
  | settles _ _ _ fold _ hold hnew _ _ hnmd hfold hmkd hrep =>
    cases fold with
    | none => cases hin
    | some usage =>
      cases hin
      have hold' : old.named = true := hfold.symm
      refine ⟨folded_eq_false_of_billable hold, ?_, hrep usage rfl⟩
      unfold folded
      rw [hnew, hnmd, hold', hmkd hold']
      rfl
  | folds _ _ _ hold hnew _ hrep =>
    cases hin
    exact ⟨hold, hnew, hrep⟩

theorem Billing.folded_eq (h : Billing old new label) (hmrg : label.merge = none) :
    folded new = folded old := by
  cases h with
  | keeps _ _ _ _ _ hfdd => exact hfdd
  | releases _ _ _ hold hnew =>
    rw [folded_eq_false_of_billable hold]
    simp [folded, hnew]
  | settles _ _ _ fold _ hold _ _ _ hnmd hfold =>
    cases fold with
    | none =>
      have hblk : new.named = false := hnmd.trans hfold.symm
      rw [folded_eq_false_of_billable hold]
      simp [folded, hblk]
    | some usage => cases hmrg
  | folds => cases hmrg

namespace Billed

variable (h : Billed w) (hstep : PaidStep clockOk w label writes)
include h hstep

theorem closedOnce_step : (closings (w.commit label writes)).Nodup := by
  rw [closings_commit]
  cases hlab : label.closing with
  | none => exact h.closedOnce
  | some request =>
    obtain ⟨old, new, hold, -, hbil⟩ :=
      hstep.named_stored h.complete (rowOf_closing hlab)
    refine List.nodup_cons.mpr ⟨fun hmem => ?_, h.closedOnce⟩
    -- a request that was closed before is not outstanding
    have hcl := (h.closed request.1 request.2 hmem).2 old hold
    rw [(hbil.closing hlab).1] at hcl
    cases hcl

variable (k r : String)

theorem closed_step (hmem : (k, r) ∈ closings (w.commit label writes)) :
    Closed (w.store.apply writes) k r := by
  rw [closings_commit, List.mem_append, Option.mem_toList] at hmem
  rcases hmem with hnew | hmem
  · obtain ⟨old, new, -, hrow, hbil⟩ := hstep.named_stored h.complete (rowOf_closing hnew)
    refine ⟨known_of_stored hrow, fun row hrow' => ?_⟩
    rw [hrow] at hrow'
    rw [← Option.some.inj hrow']
    exact (hbil.closing hnew).2
  · exact (h.closed k r hmem).step hstep

theorem mergedKnown_step (hmem : (k, r) ∈ (merges (w.commit label writes)).map Merge.request) :
    Known (w.store.apply writes) k r := by
  rw [merges_commit, List.map_append, List.mem_append] at hmem
  rcases hmem with hnew | hmem
  · obtain ⟨merge, hmrg, heq⟩ := List.mem_map.mp hnew
    rw [Option.mem_toList] at hmrg
    have hro := rowOf_merge hmrg
    rw [heq] at hro
    obtain ⟨old, new, -, hrow, -⟩ := hstep.named_stored h.complete hro
    exact known_of_stored hrow
  · exact (h.mergedKnown k r hmem).step hstep

theorem mergedOnce_step : ((merges (w.commit label writes)).map Merge.request).Nodup := by
  rw [merges_commit]
  cases hlab : label.merge with
  | none => exact h.mergedOnce
  | some merge =>
    obtain ⟨old, new, hold, -, hbil⟩ :=
      hstep.named_stored h.complete (rowOf_merge hlab)
    refine List.nodup_cons.mpr ⟨fun hmem => ?_, h.mergedOnce⟩
    have hfdd := (h.merged merge.keyId merge.requestId old hold).mp hmem
    rw [(hbil.merge hlab).1] at hfdd
    cases hfdd

/-- A commit merges a row exactly if it leaves it marked as folded. -/
theorem merged_step (row : PaidFallbackRequestV3)
    (hrow : requestOf (w.store.apply writes) k r = some row) :
    (k, r) ∈ (merges (w.commit label writes)).map Merge.request ↔ folded row = true := by
  rw [merges_commit, List.map_append, List.mem_append]
  rcases hstep.stored_or_new hrow with ⟨old, hold, hev⟩ | ⟨hnew, hbill, -⟩
  · rw [h.merged k r old hold]
    rcases hstep.billing h.complete hold hrow with ⟨hbil, hro⟩ | ⟨rfl, hro⟩
    · cases hlab : label.merge with
      | none =>
        rw [hbil.folded_eq hlab]
        simp
      | some merge =>
        have hself : merge.request = (k, r) :=
          Option.some.inj ((rowOf_merge hlab).1.symm.trans hro)
        have hmrg := hbil.merge hlab
        simp [hself, hmrg.1, hmrg.2.1]
    · refine ⟨fun hmem => hmem.resolve_left fun hself => ?_, .inr⟩
      obtain ⟨merge, hmrg, heq⟩ := List.mem_map.mp hself
      have hnmd := (rowOf_merge (Option.mem_toList.mp hmrg)).1
      rw [heq] at hnmd
      exact hro hnmd
  · -- a request that is new was never merged
    rw [folded_eq_false_of_billable hbill]
    refine ⟨fun hmem => ?_, nofun⟩
    rcases hmem with hself | hmem
    · obtain ⟨merge, hmrg, heq⟩ := List.mem_map.mp hself
      have hro := rowOf_merge (Option.mem_toList.mp hmrg)
      rw [heq] at hro
      obtain ⟨old, -, hold, -, -⟩ := hstep.named_stored h.complete hro
      exact absurd (known_of_stored hold) hnew
    · exact absurd (h.mergedKnown k r hmem) hnew

theorem reports_step (merge : Merge) (hmem : merge ∈ merges (w.commit label writes))
    (row : PaidFallbackRequestV3)
    (hrow : requestOf (w.store.apply writes) merge.keyId merge.requestId = some row) :
    Reports row merge.input := by
  rw [merges_commit, List.mem_append, Option.mem_toList] at hmem
  rcases hmem with hself | hmem
  · obtain ⟨old, new, -, hnew, hbil⟩ :=
      hstep.named_stored h.complete (rowOf_merge hself)
    rw [hrow] at hnew
    rw [Option.some.inj hnew]
    exact (hbil.merge hself).2.2
  · have hreq : (merge.keyId, merge.requestId) ∈ (merges w).map Merge.request :=
      List.mem_map_of_mem (f := Merge.request) hmem
    rcases hstep.stored_or_new hrow with ⟨old, hold, hev⟩ | ⟨hnew, -, -⟩
    · have hfdd := (h.merged _ _ old hold).mp hreq
      simp only [folded, Bool.and_eq_true, decide_eq_true_eq] at hfdd
      exact (h.reports merge hmem old hold).evolves hev (closed_of_settled hfdd.1.1)
    · exact absurd (h.mergedKnown _ _ hreq) hnew

/-- A settled row that no commit marked was settled before the run. -/
theorem settledFirst_step (row : PaidFallbackRequestV3)
    (hrow : requestOf (w.store.apply writes) k r = some row) (hset : row.billingState = .settled)
    (hnmd : row.named = true) (hunm : row.usageRollupAtMs = none) :
    ∃ row₀, requestOf w.init k r = some row₀ ∧ row₀.billingState = .settled := by
  rcases hstep.stored_or_new hrow with ⟨old, hold, hev⟩ | ⟨-, hbill, -⟩
  · have hnamedOld : old.named = true := (named_congr hev.model).symm.trans hnmd
    have hunmarkedOld : old.usageRollupAtMs = none := by
      by_contra hmkd
      have hsty := hev.marked (Option.isSome_iff_ne_none.mpr hmkd)
      rw [hunm] at hsty
      cases hsty
    refine h.settledFirst k r old hold ?_ hnamedOld hunmarkedOld
    rcases hstep.billing h.complete hold hrow with ⟨hbil, -⟩ | ⟨rfl, -⟩
    · cases hbil with
      | keeps _ _ _ _ heq => exact heq.mp hset
      | releases _ _ _ _ hnew =>
        rw [hnew] at hset
        cases hset
      | settles _ _ _ _ _ _ _ _ _ _ _ hmkd =>
        have hmark := hmkd hnamedOld
        rw [hunm] at hmark
        cases hmark
      | folds _ _ _ _ _ hwas => exact hwas
    · exact hset
  · rw [closed_of_settled hset] at hbill
    cases hbill

theorem step : Billed (w.commit label writes) where
  complete := h.complete.step hstep
  closedOnce := h.closedOnce_step hstep
  closed := h.closed_step hstep
  mergedOnce := h.mergedOnce_step hstep
  mergedKnown := h.mergedKnown_step hstep
  merged := h.merged_step hstep
  reports := h.reports_step hstep
  settledFirst := h.settledFirst_step hstep

end Billed

theorem PaidRun.billed (hw : PaidRun clockOk w) (hinit : BillingStart w.init) : Billed w := by
  induction hw with
  | start =>
    refine ⟨hinit.complete, List.nodup_nil, fun k r hmem => (by cases hmem), List.nodup_nil,
      fun k r hmem => (by cases hmem), fun k r row hrow => ?_, fun _ h => (by cases h),
      fun k r row hrow hset _ _ => ⟨row, hrow, hset⟩⟩
    rw [hinit.unfolded k r row hrow]
    simp [merges]
  | advance _ _ _ _ ih =>
    have hbef := ih hinit
    exact ⟨hbef.complete, hbef.closedOnce, hbef.closed, hbef.mergedOnce,
      hbef.mergedKnown, hbef.merged, hbef.reports, hbef.settledFirst⟩
  | commit _ _ _ _ hstep ih => exact (ih hinit).step hstep

/-! ### The spend of a settlement -/

/-- What a commit on the store `kv` adds to what the window has settled. -/
def PaidCommit.spendIn (kv : PaidKv) (k : String) (resetAtMs : ℤ) : PaidCommit → ℤ
  | .settle keyId requestId spend _ true =>
    if keyId = k ∧ (requestOf kv keyId requestId).map (·.windowResetAtMs) = some resetAtMs
    then spend else 0
  | _ => 0

theorem PaidCommit.spendIn_of_bills (h : label.bills = false) :
    label.spendIn kv k resetAtMs = 0 := by
  cases label <;> first | rfl | cases h

theorem PaidCommit.spendIn_of_aside (h : label.aside = true) :
    label.spendIn kv k resetAtMs = 0 := by
  cases label <;> first | rfl | cases h

/-- **What a step adds to a window**: the spend of a settlement that has found it. -/
theorem PaidStep.settled_change (h : PaidStep clockOk w label writes)
    (hold : windowOf w.store k resetAtMs = some window)
    (hnew : windowOf (w.store.apply writes) k resetAtMs = some window') :
    window'.settledMicrocredits
      = addAmounts window.settledMicrocredits (label.spendIn w.store k resetAtMs) := by
  have hkept : windowOf (w.store.apply writes) k resetAtMs = windowOf w.store k resetAtMs →
      label.spendIn w.store k resetAtMs = 0 → window'.settledMicrocredits
        = addAmounts window.settledMicrocredits (label.spendIn w.store k resetAtMs) := by
    intro hsame hsp
    rw [hnew, hold] at hsame
    rw [Option.some.inj hsame, hsp, addAmounts_zero]
  rcases h.kind with ⟨rows, hled, rfl⟩ | ⟨keyId, keys, rfl, rfl, -, -⟩ | ⟨haside, hsame⟩
  · by_cases hself : ∃ written, rows.window = some written ∧ rows.keyId = k ∧ written.1 = resetAtMs
    · obtain ⟨⟨_, written⟩, hwr, rfl, rfl⟩ := hself
      have haft : windowOf (w.store.apply rows.toList) rows.keyId _ = some written :=
        windowOf_apply_self hwr
      obtain rfl : written = window' := Option.some.inj (haft.symm.trans hnew)
      cases hled.bill with
      | admits input reservation row now hkid hrid hgd hno hrow hrst hres
          hbil hunl hlim =>
        cases hcase : input.unlimited with
        | true =>
          rw [(hunl hcase).2] at hwr
          cases hwr
        | false =>
          obtain ⟨-, transitioned, hrsv, hwr'⟩ := hlim hcase
          cases hwr.symm.trans hwr'
          have hset := hrsv.settled
          rw [hold] at hset
          show transitioned.settledMicrocredits = addAmounts window.settledMicrocredits 0
          rw [hset, addAmounts_zero]
          rfl
      | closes label row row' read spend now hrow hbill hread hreq hrst hres hcl
          hplan hsp houtc =>
        rw [hwr] at hplan
        obtain ⟨stored, hfd, heq⟩ := Option.map_eq_some_iff.mp hplan.symm
        obtain ⟨hrsa, rfl⟩ := Prod.mk.inj heq
        subst hfd hrsa
        obtain rfl : window = stored := by
          rcases hread with hcur | ⟨hno, -⟩
          · exact Option.some.inj (hold.symm.trans hcur.symm)
          · cases hno
        have hspt : label.spendIn w.store rows.keyId row.windowResetAtMs = spend := by
          rcases houtc with ⟨rfl, rfl, -⟩ | ⟨fold, rfl, -⟩
          · rfl
          · refine if_pos ⟨rfl, ?_⟩
            rw [hrow]
            rfl
        rw [hspt]
        rfl
      | keeps _ hlab _ hkept =>
        obtain ⟨stored, hst, hamt⟩ := hkept _ hwr
        obtain rfl : window = stored := Option.some.inj (hold.symm.trans hst)
        rw [spendIn_of_bills hlab, addAmounts_zero]
        exact hamt.settled
    · -- a settlement that does not write the window has not found it, or is one of another window
      refine hkept (windowOf_apply_other fun written hwr hkey => hself
        ⟨written, hwr, hkey⟩) ?_
      cases hled.bill with
      | admits => rfl
      | closes label row row' read spend now hrow hbill hread hreq hrst hres hcl
          hplan hsp houtc =>
        rcases houtc with ⟨rfl, -⟩ | ⟨fold, rfl, -⟩
        · rfl
        · cases read with
          | none => rfl
          | some stored =>
            refine if_neg fun hin => hself ⟨_, hplan, hin.1, ?_⟩
            rw [hrow] at hin
            exact Option.some.inj hin.2
      | keeps _ hlab => exact spendIn_of_bills hlab
  · have hst : windowOf w.store k resetAtMs = some window' := by
      unfold windowOf at hnew ⊢
      rw [get_apply_delete] at hnew
      split_ifs at hnew
      · cases hnew
      · exact hnew
    exact hkept (hnew.trans hst.symm) rfl
  · refine hkept ?_ (spendIn_of_aside haside)
    unfold windowOf
    rw [hsame _ rfl]

/-- The window of an outstanding row with a reservation is stored. -/
def WindowsHeld (kv : PaidKv) : Prop :=
  ∀ k r row, requestOf kv k r = some row → isBillableRequestV3 row = true →
    0 < row.reservedMicrocredits → (windowOf kv k row.windowResetAtMs).isSome = true

theorem PaidStep.window_stays (h : PaidStep clockOk w label writes)
    (hst : (windowOf w.store k resetAtMs).isSome = true) :
    (windowOf (w.store.apply writes) k resetAtMs).isSome = true ∨ KeyClosed w.store k := by
  rcases h.kind with ⟨rows, _, rfl⟩ | ⟨keyId, keys, rfl, rfl, hcl, hkeys⟩ | ⟨-, heq⟩
  · refine .inl ?_
    by_cases hself : ∃ written, rows.window = some written ∧ rows.keyId = k ∧ written.1 = resetAtMs
    · obtain ⟨⟨_, written⟩, hwr, rfl, rfl⟩ := hself
      rw [windowOf_apply_self hwr]
      rfl
    · rwa [windowOf_apply_other fun written hwr hkey => hself ⟨written, hwr, hkey⟩]
  · by_cases hmem : PaidKey.window k resetAtMs ∈ keys
    · obtain rfl : k = keyId := hkeys _ hmem
      exact .inr hcl
    · refine .inl ?_
      unfold windowOf at hst ⊢
      rwa [get_apply_delete, if_neg hmem]
  · refine .inl ?_
    unfold windowOf at hst ⊢
    rwa [heq _ rfl]

theorem WindowsHeld.step (hheld : WindowsHeld w.store) (h : PaidStep clockOk w label writes) :
    WindowsHeld (w.store.apply writes) := by
  intro k r row hrow hbill hpos
  rcases h.admission_or_kept k r with ⟨input, new, rfl, rfl, rfl, -, -, hnew, hrst, hunl, -⟩ |
    ⟨-, hkept⟩
  · rw [hnew] at hrow
    cases hrow
    have hlim : input.unlimited = false := by
      rw [Bool.eq_false_iff]
      intro hcase
      rw [hunl hcase] at hpos
      exact absurd hpos (lt_irrefl _)
    rw [hrst]
    exact h.opens hlim
  · obtain ⟨old, hold, hev⟩ := hkept row hrow
    have hopen : isBillableRequestV3 old = true := hev.was_open hbill
    rw [hev.reservedMicrocredits] at hpos
    rw [hev.windowResetAtMs]
    rcases h.window_stays (hheld k r old hold hopen hpos) with hsty | hcl
    · exact hsty
    · rw [hcl.2 r old hold] at hopen
      cases hopen

theorem PaidRun.windowsHeld (hw : PaidRun clockOk w) (hinit : WindowsHeld w.init) :
    WindowsHeld w.store := by
  induction hw with
  | start => exact hinit
  | advance _ _ _ _ ih => exact ih hinit
  | commit _ _ _ _ hstep ih => exact (ih hinit).step hstep

theorem WindowRead.found (hw : PaidRun clockOk w) (hinit : WindowsHeld w.init)
    (hread : WindowRead w k r row.windowResetAtMs window) (hrow : requestOf w.store k r = some row)
    (hbill : isBillableRequestV3 row = true) (hpos : 0 < row.reservedMicrocredits) :
    window.isSome = true := by
  rcases hread with rfl | ⟨-, n, hn, hno, hst⟩
  · exact hw.windowsHeld hinit k r row hrow hbill hpos
  · -- at no moment at which the row was stored the window was not
    obtain ⟨old, hold⟩ := Option.isSome_iff_exists.mp hst
    have hev := hw.evolves hn hold hrow
    have hopen : isBillableRequestV3 old = true := hev.was_open hbill
    obtain ⟨u, hu, hle, rfl⟩ := hw.exists_storeAt hn
    rw [hle.storeAt_length_eq] at hold hno
    have hheld := PaidRun.windowsHeld hu (hle.init ▸ hinit) k r old hold hopen
      (by rwa [← hev.reservedMicrocredits])
    rw [← hev.windowResetAtMs, hno] at hheld
    cases hheld

/-! ### Rollups -/

/-- The rollup that the store holds, whether or not it passes its validator. -/
def storedRollupOf (kv : PaidKv) (identity : NativePaidRollupIdentity) :
    Option PaidFallbackUsageRollup :=
  match kv.get (.usageRollup identity) with
  | some ⟨.rollup rollup, _⟩ => some rollup
  | _ => none

/-- What the commits have merged into a rollup since it was started, newest first.  A commit that
finds no rollup that passes its validator starts it. -/
def rollupMerges (init : PaidKv) (identity : NativePaidRollupIdentity) :
    List (Event PaidKey PaidValue PaidCommit) → List Merge
  | [] => []
  | event :: past =>
    match event.label.merge with
    | some merge =>
      if merge.identity = identity then
        if (usageRollupOf (storeOf init past) identity).isSome = true
        then merge :: rollupMerges init identity past else [merge]
      else rollupMerges init identity past
    | none => rollupMerges init identity past

/-- The rollup counts what was merged into it; its totals are added up one merge after the other,
and are exact up to `2 ^ 53`. -/
structure RollupSums (rollup : PaidFallbackUsageRollup) (merged : List Merge) : Prop where
  requestCount : rollup.requestCount = merged.length
  quotaSum : DoubleTotal rollup.quotaSum (merged.map (·.input.quota))
  inputTokens : AmountTotal rollup.inputTokens (merged.map (·.input.inputTokens))
  cachedInputTokens : AmountTotal rollup.cachedInputTokens
    (merged.map (·.input.cachedInputTokens.getD 0))
  outputTokens : AmountTotal rollup.outputTokens (merged.map (·.input.outputTokens))
  spendMicrocredits : AmountTotal rollup.spendMicrocredits (merged.map (·.input.spendMicrocredits))

theorem rollupSums_start (merge : Merge) :
    RollupSums (mergePaidFallbackUsageRollup none merge.input) [merge] where
  requestCount := rfl
  quotaSum := DoubleTotal.nil.cons merge.input.quota
  inputTokens := AmountTotal.nil.cons merge.input.inputTokens
  cachedInputTokens := AmountTotal.nil.cons _
  outputTokens := AmountTotal.nil.cons merge.input.outputTokens
  spendMicrocredits := AmountTotal.nil.cons merge.input.spendMicrocredits

theorem RollupSums.merge (h : RollupSums rollup merged) (merge : Merge) :
    RollupSums (mergePaidFallbackUsageRollup (some rollup) merge.input) (merge :: merged) where
  requestCount := by
    rw [List.length_cons, Nat.cast_add, ← h.requestCount]
    rfl
  quotaSum := h.quotaSum.cons merge.input.quota
  inputTokens := h.inputTokens.cons merge.input.inputTokens
  cachedInputTokens := h.cachedInputTokens.cons _
  outputTokens := h.outputTokens.cons merge.input.outputTokens
  spendMicrocredits := h.spendMicrocredits.cons merge.input.spendMicrocredits

theorem LedgerStep.rollup (h : LedgerStep clockOk w label rows) :
    rows.rollup = label.merge.map fun merge => (merge.identity,
      mergePaidFallbackUsageRollup (usageRollupOf w.store merge.identity) merge.input) := by
  cases h with
  | settle k r row pending window log corr cost spend now hnow hst hpend hwin heval identity
      hidt plan hplan =>
    subst hidt
    split_ifs <;> rfl
  | fold _ _ _ _ _ _ _ hidt _ hplan =>
    subst hplan hidt
    dsimp only [planPaidFallbackBackfillFoldV3]
    split_ifs <;> rfl
  | _ => rfl

theorem usageRollupOf_eq_some (h : usageRollupOf kv identity = some rollup) :
    storedRollupOf kv identity = some rollup := by
  unfold usageRollupOf at h
  unfold storedRollupOf
  generalize kv.get (.usageRollup identity) = entry at h ⊢
  cases entry with
  | none => cases h
  | some entry =>
    obtain ⟨value, stamp⟩ := entry
    cases value with
    | rollup =>
      unfold asUsageRollup at h
      dsimp only at h
      split_ifs at h
      exact h
    | _ => cases h

theorem rollupMerges_cons_of_other (h : ∀ merge ∈ event.label.merge, merge.identity ≠ identity) :
    rollupMerges init identity (event :: past) = rollupMerges init identity past := by
  rw [rollupMerges]
  cases hmrg : event.label.merge with
  | none => rfl
  | some merge => exact if_neg (h merge hmrg)

theorem rollupMerges_cons_of_merge {merge : Merge} (h : event.label.merge = some merge) :
    rollupMerges init merge.identity (event :: past)
      = if (usageRollupOf (storeOf init past) merge.identity).isSome = true
        then merge :: rollupMerges init merge.identity past else [merge] := by
  rw [rollupMerges, h]
  exact if_pos rfl

/-- A commit merges one input into one rollup or leaves the rollups. -/
theorem PaidStep.rollup (h : PaidStep clockOk w label writes)
    (identity : NativePaidRollupIdentity) :
    (∃ merge, label.merge = some merge ∧ merge.identity = identity ∧
      storedRollupOf (w.store.apply writes) identity
        = some (mergePaidFallbackUsageRollup (usageRollupOf w.store identity) merge.input)) ∨
    (∀ merge ∈ label.merge, merge.identity ≠ identity) ∧
      storedRollupOf (w.store.apply writes) identity = storedRollupOf w.store identity := by
  unfold storedRollupOf
  rcases h.kind with ⟨rows, hled, rfl⟩ | ⟨keyId, keys, rfl, rfl, -, hkeys⟩ | ⟨haside, heq⟩
  · have hroll := hled.rollup
    rw [get_usageRollup_apply, hroll]
    cases hmrg : label.merge with
    | none => exact .inr ⟨fun _ h => (by cases h), rfl⟩
    | some merge =>
      by_cases hidt : merge.identity = identity
      · subst hidt
        refine .inl ⟨merge, rfl, rfl, ?_⟩
        simp
      · refine .inr ⟨fun merge' hin => ?_, ?_⟩
        · cases hin
          exact hidt
        · simp [hidt]
  · refine .inr ⟨fun _ h => (by cases h), ?_⟩
    rw [get_apply_delete, if_neg fun hmem => hkeys (.usageRollup identity) hmem]
  · refine .inr ⟨fun merge hin => ?_, ?_⟩
    · have hro := (rowOf_merge hin).1
      rw [rowOf_eq_none haside] at hro
      cases hro
    · rw [heq _ rfl]

/-- **A rollup sums up what was merged into it** since it was started. -/
theorem PaidRun.rollupSums (hw : PaidRun clockOk w)
    (hinit : ∀ identity, w.init.get (.usageRollup identity) = none)
    (hroll : storedRollupOf w.store identity = some rollup) :
    RollupSums rollup (rollupMerges w.init identity w.events) := by
  induction hw generalizing rollup with
  | start kv t =>
    unfold storedRollupOf at hroll
    rw [show (World.mk kv [] t : PaidWorld).store = kv from rfl, hinit identity] at hroll
    cases hroll
  | advance _ _ _ _ ih => exact ih hinit hroll
  | commit w label writes _ hstep ih =>
    rw [World.store_commit] at hroll
    rcases hstep.rollup identity with ⟨merge, hmrg, rfl, haft⟩ | ⟨hoth, heq⟩
    · rw [haft] at hroll
      cases hroll
      have hcons : rollupMerges w.init merge.identity (w.commit label writes).events
          = if (usageRollupOf w.store merge.identity).isSome = true
            then merge :: rollupMerges w.init merge.identity w.events else [merge] :=
        rollupMerges_cons_of_merge hmrg
      rw [show (w.commit label writes).init = w.init from rfl, hcons]
      cases hfd : usageRollupOf w.store merge.identity with
      | none => exact rollupSums_start merge
      | some old => exact (ih hinit (usageRollupOf_eq_some hfd)).merge merge
    · rw [heq] at hroll
      have hcons : rollupMerges w.init identity (w.commit label writes).events
          = rollupMerges w.init identity w.events := rollupMerges_cons_of_other hoth
      rw [show (w.commit label writes).init = w.init from rfl, hcons]
      exact ih hinit hroll

theorem rollupMerges_sublist (init : PaidKv) (identity : NativePaidRollupIdentity)
    (events : List (Event PaidKey PaidValue PaidCommit)) :
    (rollupMerges init identity events).Sublist
      (events.filterMap fun event => event.label.merge) := by
  induction events with
  | nil => exact List.Sublist.slnil
  | cons event _ ih =>
    rw [rollupMerges, List.filterMap_cons]
    cases event.label.merge with
    | none => exact ih
    | some merge =>
      dsimp only
      split_ifs
      · exact ih.cons_cons merge
      · exact (List.nil_sublist _).cons_cons merge
      · exact ih.cons merge

/-! ### The whole history -/

/-- Every request of the history is billed once. -/
structure BilledOnce (w : PaidWorld) : Prop where
  /-- A row that is settled or not billed stays so. -/
  final : ∀ n m, n ≤ m → m ≤ w.length → ∀ k r row row', requestOf (w.storeAt n) k r = some row →
    isBillableRequestV3 row = false → requestOf (w.storeAt m) k r = some row' →
      row'.billingState = row.billingState
  /-- No request is released or settled twice. -/
  closedOnce : (closings w).Nodup
  /-- Only a settlement that has found the window adds to what it has settled, and it adds its
  spend, which is exact up to `2 ^ 53`. -/
  spend : ∀ kv label kv', w.Committed kv label kv' → ∀ k resetAtMs window window',
    windowOf kv k resetAtMs = some window → windowOf kv' k resetAtMs = some window' →
      window'.settledMicrocredits =
        addAmounts window.settledMicrocredits (label.spendIn kv k resetAtMs)
  /-- A settlement takes an outstanding row and leaves it settled with its spend; if the row has a
  reservation, the settlement has found the window. -/
  settles : ∀ kv k r spend fold found kv', w.Committed kv (.settle k r spend fold found) kv' →
    ∃ row row', requestOf kv k r = some row ∧ isBillableRequestV3 row = true ∧
      requestOf kv' k r = some row' ∧ row'.billingState = .settled ∧
      row'.spendMicrocredits = some spend ∧ (0 < row.reservedMicrocredits → found = true) ∧
      (found = true → (windowOf kv k row.windowResetAtMs).isSome = true ∧
        (windowOf kv' k row.windowResetAtMs).isSome = true)
  /-- No request is merged twice. -/
  mergedOnce : ((merges w).map Merge.request).Nodup
  /-- The stored rows that were merged are those that are settled, named and marked. -/
  merged : ∀ k r row, requestOf w.store k r = some row →
    ((k, r) ∈ (merges w).map Merge.request ↔
      row.billingState = .settled ∧ trim row.model ≠ "" ∧ row.usageRollupAtMs.isSome = true)
  /-- A named row that was settled in this history was merged. -/
  mergedHere : ∀ k r row, requestOf w.store k r = some row → row.billingState = .settled →
    trim row.model ≠ "" →
    (∀ row₀, requestOf w.init k r = some row₀ → row₀.billingState ≠ .settled) →
      (k, r) ∈ (merges w).map Merge.request
  /-- A rollup sums up distinct rows, those merged since it was started. -/
  rollups : ∀ identity rollup, storedRollupOf w.store identity = some rollup →
    RollupSums rollup (rollupMerges w.init identity w.events) ∧
      ((rollupMerges w.init identity w.events).map Merge.request).Nodup
  /-- What was merged is what the row reports. -/
  reports : ∀ merge ∈ merges w, ∀ row,
    requestOf w.store merge.keyId merge.requestId = some row → Reports row merge.input

/-- What a settlement does to its row and its window. -/
theorem PaidStep.settles (hw : PaidRun clockOk w) (hheld : WindowsHeld w.init)
    {fold : Option RollupFold} (h : PaidStep clockOk w (.settle k r spend fold found) writes) :
    ∃ row row', requestOf w.store k r = some row ∧ isBillableRequestV3 row = true ∧
      requestOf (w.store.apply writes) k r = some row' ∧ row'.billingState = .settled ∧
      row'.spendMicrocredits = some spend ∧ (0 < row.reservedMicrocredits → found = true) ∧
      (found = true → (windowOf w.store k row.windowResetAtMs).isSome = true ∧
        (windowOf (w.store.apply writes) k row.windowResetAtMs).isSome = true) := by
  rcases h.kind with ⟨rows, hled, rfl⟩ | ⟨keyId, keys, hlab, -, -, -⟩ | ⟨haside, -⟩
  · generalize hlab : settle k r spend fold found = label at hled
    cases hled.bill with
    | admits => cases hlab
    | closes label row row' window spend' now hrow hbill hread hreq hrst hres hcl
        hwin hsp houtc =>
      subst hlab
      rcases houtc with ⟨hoth, -⟩ | ⟨fold', hstl, hset, hspt⟩
      · cases hoth
      · cases hstl
        refine ⟨row, row', hrow, hbill, ?_, hset, hspt,
          hread.found hw hheld hrow hbill, fun hfd => ?_⟩
        · rw [requestOf_apply, if_pos ⟨rfl, rfl⟩, hreq]
          rfl
        · obtain ⟨stored, rfl⟩ := Option.isSome_iff_exists.mp hfd
          refine ⟨?_, by rw [windowOf_apply_self hwin]; rfl⟩
          rcases hread with hcur | ⟨hno, -⟩
          · rw [← hcur]
            rfl
          · cases hno
    | keeps _ hkept =>
      subst hlab
      cases hkept
  · cases hlab
  · cases haside

/-- **Every request is billed exactly once**, in every state that the clients reach. -/
theorem billed_once {kv₀ : PaidKv} {sys : PaidSystem} (hstr : BillingStart kv₀)
    (h : PaidReachable clockOk kv₀ sys) : BilledOnce sys.world := by
  have hrun := paidReachable_run hstr.toPaidStart h
  have hinit : BillingStart sys.world.init := by rwa [Reachable.init_eq h]
  have hbld := PaidRun.billed hrun hinit
  constructor
  case final =>
    intro n m hnm hm k r row row' hrow hcl hrow'
    rcases (PaidRun.rowFollows hrun hnm hm k r).1 row hrow with ⟨later, hlat, hev⟩ | hgone
    · cases hrow'.symm.trans hlat
      exact (hev.closed hcl).1
    · rw [hgone.1] at hrow'
      cases hrow'
  case closedOnce => exact hbld.closedOnce
  case spend =>
    intro kv label kv' hcom k resetAtMs window window' hwin hwin'
    obtain ⟨u, writes, -, -, rfl, hstep, rfl⟩ := hrun.committed hcom
    exact hstep.settled_change hwin hwin'
  case settles =>
    intro kv k r spend fold found kv' hcom
    obtain ⟨u, writes, hu, hle, rfl, hstep, rfl⟩ := hrun.committed hcom
    exact hstep.settles hu (by rw [hle.init]; exact hinit.windows)
  case mergedOnce => exact hbld.mergedOnce
  case merged =>
    intro k r row hrow
    rw [hbld.merged k r row hrow]
    simp [folded, PaidFallbackRequestV3.named, and_assoc]
  case mergedHere =>
    intro k r row hrow hset hnmd hfst
    have hnmd' : row.named = true := by simpa [PaidFallbackRequestV3.named] using hnmd
    refine (hbld.merged k r row hrow).mpr ?_
    -- an unmarked row would have been settled at first
    cases hmkd : row.usageRollupAtMs with
    | some markedAt => simp [folded, hset, hnmd', hmkd]
    | none =>
      obtain ⟨row₀, hrow₀, hset₀⟩ := hbld.settledFirst k r row hrow hset hnmd' hmkd
      exact absurd hset₀ (hfst row₀ hrow₀)
  case rollups =>
    intro identity rollup hroll
    refine ⟨PaidRun.rollupSums hrun hinit.rollups hroll, ?_⟩
    exact hbld.mergedOnce.sublist ((rollupMerges_sublist _ identity _).map Merge.request)
  case reports => exact hbld.reports

theorem billingStart_empty : BillingStart Kv.empty where
  toPaidStart := paidStart_empty
  rollups _ := rfl
  complete _ _ _ hrow := by cases hrow
  unfolded _ _ _ hrow := by cases hrow
  windows _ _ _ hrow := by cases hrow

/-- One limited request is settled. -/
def settledSchedule : List (Action (ℕ × PaidOperation)) :=
  runSession (sampleInput "a" 100 false) (settleSteps 25 7)

theorem billed_once_settledSchedule :
    closings (afterSchedule Kv.empty settledSchedule).world = [("key", "a")] ∧
      ("key", "a") ∈ (merges (afterSchedule Kv.empty settledSchedule).world).map Merge.request := by
  have hrch := afterSchedule_reachable Kv.empty settledSchedule (by decide)
  have hbld := billed_once billingStart_empty hrch
  have hrow : (requestOf (afterSchedule Kv.empty settledSchedule).world.store "key" "a").map
      (fun row => (row.billingState, row.model, row.usageRollupAtMs))
      = some (.settled, "model", some 0) := by decide +kernel
  obtain ⟨row, hst, hfds⟩ := Option.map_eq_some_iff.mp hrow
  obtain ⟨hset, hrest⟩ := Prod.mk.inj hfds
  obtain ⟨hmodel, hmkd⟩ := Prod.mk.inj hrest
  refine ⟨by decide +kernel, (hbld.merged _ _ row hst).mpr ⟨hset, ?_, ?_⟩⟩
  · rw [hmodel]
    decide
  · rw [hmkd]
    rfl

/-- An unlimited request is settled. -/
def unlimitedSchedule : List (Action (ℕ × PaidOperation)) :=
  runSession (sampleInput "a" (-1) false) (settleSteps 25 7)

def unlimitedSettlement : PaidCommit :=
  .settle "key" "a" 25 (some (⟨0, "model", "surplus", 12⟩,
    { bucketStartAtMs := 0
      model := "model"
      provider := "surplus"
      requestId := "a"
      quota := 25
      inputTokens := 7
      cachedInputTokens := none
      outputTokens := 0
      spendMicrocredits := 25
      requestCreatedAtMs := 0
      updatedAtMs := 0 })) false

/-- Three requests of one rollup report as many tokens as a number holds exactly. -/
def overflowSchedule : List (Action (ℕ × PaidOperation)) :=
  runSession (sampleInput "a" (-1) false) (settleSteps 1 9007199254740991) ++
    runSession (sampleInput "q" (-1) false) (settleSteps 1 9007199254740991) ++
    runSession (sampleInput "A" (-1) false) (settleSteps 1 9007199254740991)

/-- Two requests of one rollup spend more than a number holds exactly. -/
def roundedSchedule : List (Action (ℕ × PaidOperation)) :=
  runSession (sampleInput "a" (-1) false) (settleSteps 9007199254740991 7) ++
    runSession (sampleInput "q" (-1) false) (settleSteps 2 7)

/-- **Not every spend is added to a window, and not every rollup counts all it was given**: an
unlimited request has no window, a rollup with more tokens than a number holds exactly is started
anew, and one that has spent more is rounded. -/
theorem billing_exceptions :
    (¬ ∀ sys, PaidReachable exactClock Kv.empty sys → ∀ kv k r spend fold found kv',
      sys.world.Committed kv (.settle k r spend fold found) kv' → ∀ row,
        requestOf kv k r = some row →
          (windowOf kv' k row.windowResetAtMs).elim 0 (·.settledMicrocredits)
            = (windowOf kv k row.windowResetAtMs).elim 0 (·.settledMicrocredits) + spend) ∧
    (¬ ∀ sys, PaidReachable exactClock Kv.empty sys → ∀ identity rollup,
      storedRollupOf sys.world.store identity = some rollup → rollup.requestCount
        = ((merges sys.world).filter fun merge => decide (merge.identity = identity)).length) ∧
    ¬ ∀ sys, PaidReachable exactClock Kv.empty sys → ∀ identity rollup,
      storedRollupOf sys.world.store identity = some rollup → rollup.spendMicrocredits
        = ((rollupMerges Kv.empty identity sys.world.events).map
          (·.input.spendMicrocredits)).sum := by
  refine ⟨fun hadd => ?_, fun hcnts => ?_, fun hspds => ?_⟩
  · have hrch := afterSchedule_reachable Kv.empty unlimitedSchedule (by decide)
    have hnwt : ((afterSchedule Kv.empty unlimitedSchedule).world.events.map fun event =>
        (event.label, event.time)).head? = some (unlimitedSettlement, 0) := by decide +kernel
    have hrow : (requestOf ((afterSchedule Kv.empty unlimitedSchedule).world.storeAt
        ((afterSchedule Kv.empty unlimitedSchedule).world.length - 1)) "key" "a").map
        (·.windowResetAtMs) = some 1000 := by decide +kernel
    obtain ⟨row, hst, hrst⟩ := Option.map_eq_some_iff.mp hrow
    have hsp := hadd _ hrch _ "key" "a" 25 _ _ _ ⟨0, World.committedAt_newest hnwt⟩ row
      hst
    rw [hrst] at hsp
    revert hsp
    decide +kernel
  · have hrch := afterSchedule_reachable Kv.empty overflowSchedule (by decide)
    have hcnt := hcnts _ hrch ⟨0, "model", "surplus", 12⟩
    revert hcnt
    decide +kernel
  · have hrch := afterSchedule_reachable Kv.empty roundedSchedule (by decide)
    have hsp := hspds _ hrch ⟨0, "model", "surplus", 12⟩
    revert hsp
    decide +kernel

end UbqGateway.Paid
