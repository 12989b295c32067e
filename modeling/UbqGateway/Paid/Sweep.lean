import UbqGateway.Paid.Guarantee

/-!
# The programs that backfill

A pass of the backfill reads the cursor, visits the rows from there on, and stores the cursor again
or drops it.  It checks the row and its rollup when it folds, but never the cursor, so any number of
passes may overlap.  `SweptTo` is what a cursor stands for: every row up to it that was stored from
the first moment on is marked.  Since a mark is never taken back, what a pass has found of a row
holds for all passes after it.

`PassPost` says what one pass ends with: it has swept everything unless it is truncated, and a
truncated pass without a conflict has folded a row or advanced the cursor.
-/

namespace UbqGateway.Paid

open ClientM

/-! ### What a cursor stands for -/

/-- The rows up to `key` that were stored at every moment of the history are marked. -/
def SweptTo (key : PaidKey) (w : PaidWorld) : Prop :=
  ∀ k r, PaidKey.request k r ≤ key → StoredThroughout w k r → Marked w.store k r

theorem StoredThroughout.of_le (h : StoredThroughout w k r) (hvw : v.Le w) :
    StoredThroughout v k r := by
  intro n hn
  rw [← hvw.storeAt_eq hn]
  exact h n (hn.trans hvw.length_le)

theorem StoredThroughout.now (h : StoredThroughout w k r) :
    (requestOf w.store k r).isSome = true := by
  have hnow := h w.length le_rfl
  rwa [w.storeAt_length] at hnow

theorem marked_of_marked (hw : PaidRun clockOk w) (hn : n ≤ w.length) (h : Marked (w.storeAt n) k r)
    (hst : (requestOf w.store k r).isSome = true) : Marked w.store k r := by
  have hstb := hw.stable_store (P := fun kv => Marked kv k r ∨ Gone kv k r)
    (fun _ _ _ hstep h => h.elim (fun hm => hm.step hstep) fun hg => .inr (hg.step hstep)) hn
    (.inl h)
  refine hstb.resolve_right fun hgone => ?_
  rw [hgone.1] at hst
  cases hst

theorem SweptTo.le (h : SweptTo key v) (hvw : v.Le w) (hw : PaidRun clockOk w) : SweptTo key w := by
  intro k r hkey hst
  refine marked_of_marked hw hvw.length_le ?_ hst.now
  rw [hvw.storeAt_length_eq]
  exact h k r hkey (hst.of_le hvw)

theorem SweptTo.mono (h : SweptTo key w) (hle : key' ≤ key) : SweptTo key' w :=
  fun k r hkey hst => h k r (hkey.trans hle) hst

/-- A commit moves the cursor only to where a sweep has come. -/
theorem PaidStep.cursor_change (h : PaidStep clockOk w label writes)
    (hcsr : cursorOf (w.store.apply writes) = some key) :
    cursorOf w.store = some key ∨ SweptTo key w := by
  cases h with
  | ledger =>
    rw [cursorOf_apply] at hcsr
    exact .inl hcsr
  | auxiliary _ _ _ haux =>
    unfold cursorOf at hcsr
    rw [get_apply_auxiliary haux rfl] at hcsr
    exact .inl hcsr
  | cursor _ hswp =>
    unfold cursorOf at hcsr
    rw [get_apply_set, if_pos rfl] at hcsr
    cases hcsr
    exact .inr hswp
  | dropCursor =>
    unfold cursorOf at hcsr
    rw [show [Write.delete PaidKey.backfillCursor] = [PaidKey.backfillCursor].map Write.delete
      from rfl, get_apply_delete, if_pos List.mem_cons_self] at hcsr
    cases hcsr
  | deletionGuard =>
    unfold cursorOf at hcsr
    rw [get_apply_set, if_neg (by simp)] at hcsr
    exact .inl hcsr
  | delete _ _ _ _ hkeys =>
    unfold cursorOf at hcsr
    rw [get_apply_delete, if_neg fun hmem => hkeys .backfillCursor hmem] at hcsr
    exact .inl hcsr

/-- **The cursor never passes over a row that still has to be folded.** -/
theorem PaidRun.swept (hw : PaidRun clockOk w) (hcsr : cursorOf w.store = some key) :
    SweptTo key w := by
  induction hw generalizing key with
  | start _ _ hstr =>
    intro k r hkey hst
    exact hstr.cursor key hcsr k r hkey hst.now
  | advance _ _ _ _ ih => exact ih hcsr
  | commit w label writes hw hstep ih =>
    refine SweptTo.le ?_ (w.le_commit label writes) (Run.commit w label writes hw hstep)
    rcases hstep.cursor_change hcsr with heq | hswp
    · exact ih heq
    · exact hswp

theorem swept_of_read (hread : ReadIn u w .backfillCursor entry) (hw : PaidRun clockOk w)
    (hkey : asCursor entry = some key) : SweptTo key w := by
  obtain ⟨n, -, hn, rfl⟩ := hread
  obtain ⟨v, hv, hvw, rfl⟩ := Run.exists_storeAt hw hn
  rw [hvw.storeAt_length_eq] at hkey
  exact (PaidRun.swept hv hkey).le hvw hw

/-! ### The folds of the history -/

/-- The request that a commit of the backfill folds. -/
def PaidCommit.folding : PaidCommit → Option (String × String)
  | .fold k r _ => some (k, r)
  | _ => none

/-- The requests that the backfill has folded, newest first. -/
def foldings (w : PaidWorld) : List (String × String) :=
  w.events.filterMap fun event => event.label.folding

theorem foldings_le (h : v.Le w) : (foldings v).length ≤ (foldings w).length := by
  obtain ⟨-, hsfx, -⟩ := h
  exact (hsfx.sublist.filterMap _).length_le

/-! ### One row -/

section Row

theorem marked_apply_request (kv : PaidKv) (rows : LedgerWrite) (hrow : rows.request = some row)
    (hmark : row.usageRollupAtMs.isSome = true) :
    Marked (kv.apply rows.toList) rows.keyId rows.requestId := by
  refine ⟨row, ?_, hmark⟩
  rw [requestOf_apply, if_pos ⟨rfl, rfl⟩, hrow]
  rfl

theorem rewriteMarkedRequestRowTtlV3_wp (hread : ReadIn u w (.request keyId requestId) requestEntry)
    (hrow : asRequest requestEntry = some request) (hmark : request.usageRollupAtMs.isSome = true) :
    PaidWp clockOk (fun v result => result = .ok true → Marked v.store keyId requestId)
      (rewriteMarkedRequestRowTtlV3 keyId requestId requestEntry request) w := by
  refine fun v hwv hv => ⟨fun hpass => ⟨?_, fun _ => ?_⟩, nofun⟩
  · refine .ledger _ _ (.retention keyId requestId request ?_)
    rw [readIn_requestOf hread hwv hv (hpass _ (by simp)), hrow]
  · exact marked_apply_request v.store
      { keyId := keyId, requestId := requestId, request := some request } rfl hmark

theorem planPaidFallbackBackfillFoldV3_congr
    (h : paidFallbackBackfillRollupEligibleV3 request = true → existing = existing') :
    planPaidFallbackBackfillFoldV3 request existing nowMs
      = planPaidFallbackBackfillFoldV3 request existing' nowMs := by
  unfold planPaidFallbackBackfillFoldV3
  split_ifs with helig
  · rw [h helig]
  · rfl

theorem foldRequestRowIntoRollupV3_wp (hread : ReadIn u w (.request keyId requestId) requestEntry)
    (hrow : asRequest requestEntry = some request) (hunm : request.usageRollupAtMs = none) :
    PaidWp clockOk (fun v result => ∀ outcome, result = .ok outcome → outcome ≠ .failed →
      Marked v.store keyId requestId ∧ (foldings w).length < (foldings v).length)
      (foldRequestRowIntoRollupV3 keyId requestId requestEntry request nowMs) w := by
  refine kvGetIf_bind fun v hwv rollupEntry hasked hroll => ?_
  refine kvCommit_bind (fun t hvt ht hpass => ⟨?_, fun outcome _ _ => ?_⟩) fun t _ _ => ?_
  · have hrow' := (readIn_requestOf hread (hwv.trans hvt) ht (hpass _ (by simp))).trans hrow
    have hexi : paidFallbackBackfillRollupEligibleV3 request = true →
        asUsageRollup rollupEntry.join
          = usageRollupOf t.store (paidFallbackRequestRollupIdentity request) := by
      intro helig
      rw [helig] at hasked
      obtain ⟨entry, rfl⟩ := Option.isSome_iff_exists.mp hasked
      refine (readIn_usageRollupOf (hroll entry rfl) hvt ht (hpass _ ?_)).symm
      simp [planPaidFallbackBackfillFoldV3, helig]
    rw [planPaidFallbackBackfillFoldV3_congr hexi]
    exact .ledger _ _ (.fold keyId requestId request nowMs hrow' hunm _ rfl _ rfl)
  · refine ⟨marked_apply_request t.store _ rfl rfl, ?_⟩
    exact Nat.lt_succ_of_le (foldings_le (hwv.trans hvt))
  · rintro outcome hok hfail
    exact absurd (Except.ok.inj hok).symm hfail

/-- What one row of a sweep ends with: the row is gone, or it is visited and marked, or the sweep
stops before it. -/
def AdvancePost (w : PaidWorld) (keyId requestId : String) (progress : BackfillProgress)
    (v : PaidWorld) : Except String (BackfillProgress × Option RollupBackfillTruncation) → Prop
  | .ok (progress', none) =>
    (progress' = progress ∧
      ∃ n, w.length ≤ n ∧ n ≤ v.length ∧ requestOf (v.storeAt n) keyId requestId = none) ∨
    (Marked v.store keyId requestId ∧
      progress'.lastVisitedKey = some (.request keyId requestId) ∧
      progress'.scanned = progress.scanned ∧ progress'.scanRemaining = progress.scanRemaining ∧
      progress'.failed = progress.failed ∧
      progress'.processed + progress'.budget = progress.processed + progress.budget ∧
      (foldings w).length + progress'.processed ≤ (foldings v).length + progress.processed)
  | .ok (progress', some step) => step = .writeBudget ∧
    progress'.lastVisitedKey = progress.lastVisitedKey ∧
    progress'.processed = progress.processed ∧
    (progress.failed < progress'.failed ∨ progress' = progress ∧ progress.budget = 0)
  | .error _ => True

theorem advanceBackfillSweepV3_wp : PaidWp clockOk (AdvancePost w keyId requestId progress)
      (advanceBackfillSweepV3 keyId requestId progress nowMs) w := by
  refine kvGet_bind fun u hwu _ requestEntry hread => ?_
  split
  · next hno =>
    obtain ⟨n, hwn, hn, rfl⟩ := hread
    exact .inl ⟨rfl, n, hwn, hn, hno⟩
  · next request hrow =>
    split_ifs with hretention hbudget
    · have hmark : request.usageRollupAtMs.isSome = true := by
        by_contra hunm
        simp [paidFallbackRequestBackfillStateV3, hunm] at hretention
      refine Wp.seq (rewriteMarkedRequestRowTtlV3_wp hread hrow hmark)
        (fun v rewritten huv hv => ?_) fun _ _ _ _ => trivial
      cases rewritten with
      | true =>
        refine .inr ⟨hv rfl, rfl, rfl, rfl, rfl, rfl, ?_⟩
        exact Nat.add_le_add_right (foldings_le (hwu.trans huv)) _
      | false => exact ⟨rfl, rfl, rfl, .inl (Nat.lt_succ_self _)⟩
    · exact ⟨rfl, rfl, rfl, .inr ⟨rfl, hbudget⟩⟩
    · have hunm : request.usageRollupAtMs = none := by
        by_contra hmark
        have hsome := Option.isSome_iff_ne_none.mpr hmark
        simp [paidFallbackRequestBackfillStateV3, hsome] at hretention
      refine Wp.seq (foldRequestRowIntoRollupV3_wp hread hrow hunm)
        (fun v outcome _ hv => ?_) fun _ _ _ _ => trivial
      have hbudgets : progress.processed + 1 + (progress.budget - 1)
          = progress.processed + progress.budget := by
        have hpos : 0 < progress.budget := Nat.pos_of_ne_zero hbudget
        omega
      have hflds : (foldings u).length < (foldings v).length →
          (foldings w).length + (progress.processed + 1)
            ≤ (foldings v).length + progress.processed := by
        intro hlt
        have hle := foldings_le hwu
        omega
      cases outcome with
      | failed => exact ⟨rfl, rfl, rfl, .inl (Nat.lt_succ_self _)⟩
      | processed | rollupWritten =>
        obtain ⟨hmkd, hlt⟩ := hv _ rfl (by simp)
        exact .inr ⟨hmkd, rfl, rfl, rfl, rfl, hbudgets, hflds hlt⟩

end Row

/-! ### The loop -/

/-- No row that was stored at a moment between `w` and `v` is gone at a later one. -/
def NothingVanishes (w v : PaidWorld) : Prop :=
  ∀ n n', w.length ≤ n → n ≤ n' → n' ≤ v.length → ∀ k r,
    (requestOf (v.storeAt n) k r).isSome = true → (requestOf (v.storeAt n') k r).isSome = true

theorem NothingVanishes.of_le (h : NothingVanishes u w) (hvw : v.Le w) : NothingVanishes u v := by
  intro n n' hun hnn' hn' k r hst
  rw [← hvw.storeAt_eq (hnn'.trans hn')] at hst
  rw [← hvw.storeAt_eq hn']
  exact h n n' hun hnn' (hn'.trans hvw.length_le) k r hst

section Loop

/-- A sweep from `resumeKey` that has listed the keys up to `a`. -/
structure Sweeping (w₀ : PaidWorld) (resumeKey : Option PaidKey) (limit scanBudget : ℕ)
    (w : PaidWorld) (a : Option PaidKey) (progress : BackfillProgress) : Prop where
  swept : ∀ key, resumeKey = some key ∨ a = some key → SweptTo key w
  visited : ∀ key, progress.lastVisitedKey = some key → ∃ b, a = some b ∧ key ≤ b
  failed : progress.failed = 0
  budget : progress.processed + progress.budget = limit
  scans : progress.scanned + progress.scanRemaining = scanBudget
  folds : (foldings w₀).length + progress.processed ≤ (foldings w).length
  -- unless rows vanish, the last row that was listed was visited, and the second one lies beyond
  -- the cursor
  advanced : NothingVanishes w₀ w → (progress.scanned = 0 ∧ a = none) ∨
    ∃ key, a = some key ∧ progress.lastVisitedKey = some key ∧
      (∀ b, resumeKey = some b → b ≤ key) ∧
      (2 ≤ progress.scanned → ∀ b, resumeKey = some b → b < key)

def SweepPost (w₀ : PaidWorld) (resumeKey : Option PaidKey) (limit scanBudget : ℕ) (v : PaidWorld) :
    Except String (BackfillProgress × Option RollupBackfillTruncation) → Prop
  | .ok (progress, truncatedWith) =>
    (truncatedWith = none → ∀ k r, StoredThroughout v k r → Marked v.store k r) ∧
    (∀ key, progress.lastVisitedKey.or resumeKey = some key → SweptTo key v) ∧
    (foldings w₀).length + progress.processed ≤ (foldings v).length ∧
    (truncatedWith.isSome = true → progress.failed = 0 → 0 < limit → 2 ≤ scanBudget →
      NothingVanishes w₀ v → 0 < progress.processed ∨ truncatedWith = some .scanBudget ∧
        ∃ key, progress.lastVisitedKey = some key ∧ ∀ b, resumeKey = some b → b < key)
  | .error _ => True

theorem Sweeping.le (h : Sweeping w₀ resumeKey limit scanBudget v a progress) (hvw : v.Le w)
    (hw : PaidRun clockOk w) : Sweeping w₀ resumeKey limit scanBudget w a progress where
  swept key hkey := (h.swept key hkey).le hvw hw
  visited := h.visited
  failed := h.failed
  budget := h.budget
  scans := h.scans
  folds := h.folds.trans (foldings_le hvw)
  advanced hvan := h.advanced (hvan.of_le hvw)

theorem Sweeping.lastVisited (h : Sweeping w₀ resumeKey limit scanBudget w a progress)
    (hkey : progress.lastVisitedKey.or resumeKey = some key) : SweptTo key w := by
  cases hlast : progress.lastVisitedKey with
  | none =>
    rw [hlast, Option.none_or] at hkey
    exact h.swept key (.inl hkey)
  | some last =>
    rw [hlast, Option.some_or] at hkey
    obtain rfl := Option.some.inj hkey
    obtain ⟨b, hb, hle⟩ := h.visited last hlast
    exact (h.swept b (.inr hb)).mono hle

theorem not_from_resume (h : ¬ isRequestFrom resumeKey (.request k r) = true) :
    ∃ b, resumeKey = some b ∧ PaidKey.request k r ≤ b := by
  cases resumeKey with
  | none => exact absurd rfl h
  | some b =>
    simp only [isRequestFrom, Option.all_some, decide_eq_true_eq, not_le] at h
    exact ⟨b, rfl, h.le⟩

theorem Sweeping.next (h : Sweeping w₀ resumeKey limit scanBudget w a progress) (hn : n ≤ w.length)
    (hfst : FirstAfter (w.storeAt n) (isRequestFrom resumeKey) a (some (key, entry)))
    (hkey : PaidKey.request k r < key) (hst : StoredThroughout w k r) : Marked w.store k r := by
  obtain ⟨-, -, -, hlst⟩ := hfst
  by_cases hfrom : isRequestFrom resumeKey (.request k r) = true
  · by_cases hlisted : ∃ b, a = some b ∧ PaidKey.request k r ≤ b
    · obtain ⟨b, hb, hle⟩ := hlisted
      exact h.swept b (.inr hb) k r hle hst
    · have hprs := hst n hn
      unfold requestOf at hprs
      cases hget : (w.storeAt n).get (.request k r) with
      | none =>
        rw [hget] at hprs
        cases hprs
      | some found =>
        have hle := hlst _ _ hget hfrom fun b hb => not_le.mp fun hle => hlisted ⟨b, hb, hle⟩
        exact absurd hkey (not_lt.mpr hle)
  · obtain ⟨b, hb, hle⟩ := not_from_resume hfrom
    exact h.swept b (.inl hb) k r hle hst

/-- The progress with one more row of the scan budget used. -/
def BackfillProgress.scan (progress : BackfillProgress) : BackfillProgress :=
  { progress with
    scanned := progress.scanned + 1
    scanRemaining := progress.scanRemaining - 1 }

/-- The sweep visits one more row. -/
theorem Sweeping.visit (h : Sweeping w₀ resumeKey limit scanBudget w a progress)
    (hw : PaidRun clockOk w) (hw₀ : w₀.length ≤ n) (hn : n ≤ w.length)
    (hfst : FirstAfter (w.storeAt n) (isRequestFrom resumeKey) a (some (.request k r, entry)))
    (hscan : progress.scanRemaining ≠ 0) (hwt : w.Le t) (ht : PaidRun clockOk t)
    (hpost : AdvancePost w k r progress.scan t (.ok (progress', none))) :
    Sweeping w₀ resumeKey limit scanBudget t (some (.request k r)) progress' := by
  have hscans : progress.scanned + 1 + (progress.scanRemaining - 1) = scanBudget := by
    have hscans := h.scans
    omega
  have hfrom : ∀ b, resumeKey = some b → b ≤ PaidKey.request k r := by
    rintro b rfl
    simpa [isRequestFrom] using hfst.2.1
  have haft : ∀ b, a = some b → b < PaidKey.request k r := hfst.2.2.1
  have hswp : (StoredThroughout t k r → Marked t.store k r) → SweptTo (.request k r) t := by
    intro hrow k' r' hle hst
    rcases hle.lt_or_eq with hlt | heq
    · refine marked_of_marked ht hwt.length_le ?_ hst.now
      rw [hwt.storeAt_length_eq]
      exact h.next hn hfst hlt (hst.of_le hwt)
    · cases heq
      exact hrow hst
  have hkeys : (StoredThroughout t k r → Marked t.store k r) → ∀ key,
      resumeKey = some key ∨ some (PaidKey.request k r) = some key → SweptTo key t := by
    rintro hrow key (hrsm | hkey)
    · exact (h.swept key (.inl hrsm)).le hwt ht
    · cases hkey
      exact hswp hrow
  rcases hpost with ⟨rfl, n', hn', hn't, hgone⟩ |
    ⟨hmkd, hlast, hscanned, hrem, hfail, hbudget, hflds⟩
  · refine ⟨hkeys fun hst => ?_, fun key hkey => ?_, h.failed, h.budget, hscans,
      h.folds.trans (foldings_le hwt), fun hvan => ?_⟩
    · have hprs := hst n' hn't
      rw [hgone] at hprs
      cases hprs
    · obtain ⟨b, hb, hle⟩ := h.visited key hkey
      exact ⟨_, rfl, hle.trans (haft b hb).le⟩
    · -- the row was stored when it was listed
      have hlst : (requestOf (t.storeAt n) k r).isSome = true := by
        rw [hwt.storeAt_eq hn]
        refine Run.forall_storeAt (P := fun kv => (kv.get (.request k r)).isSome = true →
          (requestOf kv k r).isSome = true) (fun v hv => PaidRun.typed hv) hw hn ?_
        rw [hfst.1]
        rfl
      have hprs := hvan n n' hw₀ (hn.trans hn') hn't k r hlst
      rw [hgone] at hprs
      cases hprs
  · refine ⟨hkeys fun _ => hmkd, fun key hkey => ?_, hfail.trans h.failed,
      hbudget.trans h.budget, ?_, ?_,
      fun hvan => .inr ⟨_, rfl, hlast, hfrom, fun htwo => ?_⟩⟩
    · rw [hlast] at hkey
      cases hkey
      exact ⟨_, rfl, le_rfl⟩
    · rw [hscanned, hrem]
      exact hscans
    · have hbef := h.folds
      have hsame : progress.scan.processed = progress.processed := rfl
      omega
    · rw [hscanned] at htwo
      rcases h.advanced (hvan.of_le hwt) with ⟨hzero, -⟩ | ⟨key, hkey, -, hrsm, -⟩
      · have hone : progress.scan.scanned = progress.scanned + 1 := rfl
        omega
      · exact fun b hb => (hrsm b hb).trans_lt (haft key hkey)

/-- The sweep goes on until its budget is used up or the listing ends. -/
theorem sweepLoop_wp (fuel : ℕ) : ∀ {cursor : Cursor PaidKey} {progress : BackfillProgress}
    {w : PaidWorld}, w₀.length ≤ cursor.since.getD w.length → w₀.length ≤ w.length →
    Sweeping w₀ resumeKey limit scanBudget w cursor.after progress →
    PaidWp clockOk (SweepPost w₀ resumeKey limit scanBudget)
      (sweepLoop resumeKey nowMs fuel cursor progress) w := by
  induction fuel with
  | zero => exact fun _ _ _ => trivial
  | succ fuel ih =>
    intro cursor progress w hsnc hw₀ hswg
    refine kvNext_bind fun v hwv hv c listed hnext => ?_
    obtain ⟨n, hn, hnv, hfst, rfl⟩ := hnext
    have hswg' := hswg.le hwv hv
    have hdone : FirstAfter (v.storeAt n) (isRequestFrom resumeKey) cursor.after none →
        SweepPost w₀ resumeKey limit scanBudget v
          (.ok (progress, if 0 < progress.failed then some .writeBudget else none)) := by
      intro hfst
      rw [if_neg (by simp [hswg.failed])]
      refine ⟨fun _ k r hst => ?_, fun key => hswg'.lastVisited, hswg'.folds,
        fun htrc => ?_⟩
      · by_cases hfrom : isRequestFrom resumeKey (.request k r) = true
        · have hprs := hst n hnv
          unfold requestOf at hprs
          cases hget : (v.storeAt n).get (.request k r) with
          | none =>
            rw [hget] at hprs
            cases hprs
          | some found =>
            obtain ⟨b, hb, hle⟩ := hfst _ _ hget hfrom
            exact hswg'.swept b (.inr hb) k r hle hst
        · obtain ⟨b, hb, hle⟩ := not_from_resume hfrom
          exact hswg'.swept b (.inl hb) k r hle hst
      · cases htrc
    dsimp only
    split
    · next k r entry =>
      split_ifs with hscan
      · refine ⟨fun h => (Option.some_ne_none _ h).elim, fun key => hswg'.lastVisited,
          hswg'.folds, fun _ _ _ htwo hvan => .inr ⟨rfl, ?_⟩⟩
        have hscans := hswg'.scans
        have hzero : progress.scanRemaining = 0 := hscan
        rcases hswg'.advanced hvan with ⟨hno, -⟩ | ⟨key, -, hlast, -, hbyd⟩
        · omega
        · exact ⟨key, hlast, hbyd (by omega)⟩
      · refine Wp.seq (Wp.frame (R := fun t => v.Le t ∧ PaidRun clockOk t)
          (fun _ _ hs hle hrun => ⟨hs.1.trans hle, hrun⟩) ⟨World.Le.refl v, hv⟩
          advanceBackfillSweepV3_wp) (fun t advanced _ ht => ?_) fun _ _ _ _ => trivial
        obtain ⟨⟨hvt, hrun⟩, hpost⟩ := ht
        obtain ⟨progress', step⟩ := advanced
        cases step with
        | none =>
          exact ih (hsnc.trans hn) (hw₀.trans (hwv.trans hvt).length_le)
            (hswg'.visit hv (hsnc.trans hn) hnv hfst hscan hvt hrun hpost)
        | some step =>
          obtain ⟨rfl, hlast, hprocessed, hstop⟩ := hpost
          refine ⟨fun h => (Option.some_ne_none _ h).elim, fun key hkey => ?_, ?_,
            fun _ hfail hlmt _ _ => .inl ?_⟩
          · rw [hlast] at hkey
            exact (hswg'.le hvt hrun).lastVisited hkey
          · rw [hprocessed]
            exact (hswg'.le hvt hrun).folds
          · rcases hstop with hlt | ⟨rfl, hbudget⟩
            · omega
            · have hspt := hswg'.budget
              have hzero : progress.budget = 0 := hbudget
              show 0 < progress.processed
              omega
    · next hoth =>
      cases listed with
      | none => exact hdone hfst
      | some listed =>
        obtain ⟨key, entry⟩ := listed
        cases key with
        | request k r => exact absurd rfl (hoth k r entry)
        | _ => cases hfst.2.1

end Loop

/-! ### A pass -/

section Pass

/-- What a pass ends with: everything is swept unless it is truncated, and a truncated pass that met
no conflict has folded a row or left a cursor beyond the one it has read. -/
def PassPost (w₀ : PaidWorld) (limit scanBudget : ℕ) (v : PaidWorld) :
    Except String PaidFallbackRollupBackfillResult → Prop
  | .ok result =>
    (result.truncated = false → ∀ k r, StoredThroughout v k r → Marked v.store k r) ∧
    (foldings w₀).length + result.processed ≤ (foldings v).length ∧
    (result.truncated = true → result.failed = 0 → 0 < limit → 2 ≤ scanBudget →
      NothingVanishes w₀ v → 0 < result.processed ∨
        ∃ n, w₀.length ≤ n ∧ n ≤ v.length ∧ ∃ key, cursorOf v.store = some key ∧
          ∀ b, cursorOf (v.storeAt n) = some b → b < key)
  | .error _ => True

theorem persistBackfillCursorV3_wp (hswp : SweptTo key w) :
    PaidWp clockOk (fun v result => result = .ok () ∧ PaidRun clockOk v ∧
      cursorOf v.store = some key) (persistBackfillCursorV3 key) w := by
  refine kvCommit_bind_unchecked fun v hwv hv => ?_
  have hstep : PaidStep clockOk v (.cursor (some key)) [.set .backfillCursor (.cursor key)] :=
    .cursor key (hswp.le hwv hv)
  refine ⟨hstep, rfl, Run.commit v _ _ hv hstep, ?_⟩
  unfold cursorOf
  rw [World.store_commit, get_apply_set, if_pos rfl]
  rfl

theorem concludeBackfill_wp (hw : PaidRun clockOk w)
    (hswp : ∀ key, progress.lastVisitedKey.or resumeKey = some key → SweptTo key w) :
    PaidWp clockOk (fun v _ => PaidRun clockOk v ∧ ∀ key, truncatedWith = some .scanBudget →
      progress.lastVisitedKey = some key → cursorOf v.store = some key)
      (concludeBackfill resumeKey progress truncatedWith) w := by
  rcases truncatedWith with _ | _ | _
  · refine kvCommit_bind_unchecked fun v _ hv => ⟨.dropCursor, ?_⟩
    exact ⟨Run.commit v _ _ hv .dropCursor, nofun⟩
  · unfold concludeBackfill
    dsimp only
    split
    · next lastVisitedKey hlast =>
      refine Wp.mono ?_ (persistBackfillCursorV3_wp (hswp lastVisitedKey (by simp [hlast])))
      rintro v result ⟨-, hv, hcsr⟩
      refine ⟨hv, fun key _ hkey => ?_⟩
      rw [hlast] at hkey
      cases hkey
      exact hcsr
    · next hno =>
      refine ⟨hw, fun key _ hkey => ?_⟩
      rw [hno] at hkey
      cases hkey
  · unfold concludeBackfill
    dsimp only
    split
    · next key hkey =>
      refine Wp.mono ?_ (persistBackfillCursorV3_wp (hswp key hkey))
      rintro v result ⟨-, hv, -⟩
      exact ⟨hv, nofun⟩
    · exact ⟨hw, nofun⟩

theorem loadBackfillCursorV3_bind {α : Type} {cursorKey : PaidKey} {f : Option PaidKey → PaidM α}
    {Q : PaidWorld → Except String α → Prop}
    (h : ∀ v, w.Le v → PaidRun clockOk v → ∀ entry, ReadIn w v cursorKey entry →
      PaidWp clockOk Q (f (asCursor entry)) v) :
    PaidWp clockOk Q (loadBackfillCursorV3 cursorKey >>= f) w :=
  Wp.bindExcept (kvGet_bind fun v hwv hv entry hread => h v hwv hv entry hread)

/-- A pass ends behind the last row that it visited. -/
theorem backfillPass_wp :
    PaidWp clockOk (PassPost w limit scanBudget) (backfillPass fuel limit scanBudget nowMs) w := by
  refine loadBackfillCursorV3_bind fun u hwu hu entry hread => ?_
  have hstr : Sweeping w (asCursor entry) limit scanBudget u none
      ⟨0, 0, 0, 0, limit, scanBudget, none⟩ := by
    refine ⟨?_, by simp, rfl, Nat.zero_add _, Nat.zero_add _, foldings_le hwu,
      fun _ => .inl ⟨rfl, rfl⟩⟩
    rintro key (hkey | hkey)
    · exact swept_of_read hread hu hkey
    · cases hkey
  refine Wp.seq (Wp.frame (R := fun t => PaidRun clockOk t ∧ u.Le t)
    (fun _ _ ht hle hrun => ⟨hrun, ht.2.trans hle⟩) ⟨hu, World.Le.refl u⟩
    (sweepLoop_wp fuel hwu.length_le hwu.length_le hstr)) (fun s swept _ hs => ?_)
    fun _ _ _ _ => trivial
  obtain ⟨⟨hrun, hus⟩, hpost⟩ := hs
  obtain ⟨progress, truncatedWith⟩ := swept
  obtain ⟨hall, hvisited, hflds, hprog⟩ := hpost
  refine Wp.seq (Wp.le (concludeBackfill_wp hrun hvisited)) (fun v _ _ hv => ?_)
    fun _ _ _ _ => trivial
  obtain ⟨hsv, hv, hcsr⟩ := hv
  refine ⟨fun htrc k r hst => ?_, hflds.trans (foldings_le hsv),
    fun htrc hfail hlmt htwo hvan => ?_⟩
  · refine marked_of_marked hv hsv.length_le ?_ hst.now
    rw [hsv.storeAt_length_eq]
    refine hall ?_ k r (hst.of_le hsv)
    simpa using htrc
  · rcases hprog htrc hfail hlmt htwo (hvan.of_le hsv) with
      hfdd | ⟨hscan, key, hlast, hbyd⟩
    · exact .inl hfdd
    · obtain ⟨n, hwn, hnu, rfl⟩ := hread
      refine .inr ⟨n, hwn, hnu.trans (hus.trans hsv).length_le, key, hcsr key hscan hlast, ?_⟩
      rw [(hus.trans hsv).storeAt_eq hnu]
      exact hbyd

theorem backfillPaidFallbackUsageRollups_wp {limit : Option ℤ} :
    PaidGuarantees clockOk (backfillPaidFallbackUsageRollups fuel limit nowMs) w := by
  unfold backfillPaidFallbackUsageRollups
  split_ifs
  · exact Wp.mono (fun _ _ _ => trivial) backfillPass_wp
  · trivial

end Pass

/-! ### The windows -/

section Windows

theorem rewriteWindowTtlV3_wp : PaidGuarantees clockOk (rewriteWindowTtlV3 keyId resetAtMs) w := by
  refine kvGet_bind fun u _ _ windowEntry hread => ?_
  split
  · trivial
  · next window hwin =>
    split_ifs
    · refine Guarantees.bind (Guarantees.kvCommit fun v huv hv hpass => ?_) fun _ _ _ => by trivial
      refine .ledger _ _ (.windowTtl keyId resetAtMs window ?_)
      rw [readIn_windowOf hread huv hv (hpass _ (by simp)), hwin]
    · trivial

theorem persistWindowCursorV3_wp : PaidGuarantees clockOk (persistWindowCursorV3 windowKey) w :=
  Guarantees.bind kvCommit_auxiliary fun _ _ _ => by trivial

theorem windowSweepLoop_wp (n : ℕ) :
    ∀ {cursor : Cursor PaidKey} {skippingResumeRow : Bool} {sweep : WindowTtlSweep}
      {w : PaidWorld}, PaidGuarantees clockOk
        (windowSweepLoop fuel resumeKey limit n cursor skippingResumeRow sweep) w := by
  induction n with
  | zero => exact trivial
  | succ _ ih =>
    intro cursor skippingResumeRow sweep w
    refine kvNext_bind fun v _ _ c listed _ => ?_
    dsimp only
    split
    · split
      · exact ih
      · refine Guarantees.bind rewriteWindowTtlV3_wp fun u rewritten _ => ?_
        split
        · exact ih
        · trivial
        · split_ifs
          · exact ih
          · refine Guarantees.bind (Guarantees.bind (Guarantees.kvFold _ _ _ _ _)
              fun _ _ _ => by trivial) fun s hasMore _ => ?_
            split_ifs
            · exact Guarantees.bind persistWindowCursorV3_wp fun _ _ _ => by trivial
            · trivial
    · trivial

theorem backfillPaidFallbackWindowTtls_wp :
    PaidGuarantees clockOk (backfillPaidFallbackWindowTtls fuel limit nowMs) w := by
  unfold backfillPaidFallbackWindowTtls
  split_ifs
  · refine loadBackfillCursorV3_bind fun u _ _ entry _ => ?_
    refine Guarantees.bind (windowSweepLoop_wp fuel) fun v sweep _ => ?_
    split_ifs
    · split
      · exact Guarantees.bind persistWindowCursorV3_wp fun _ _ _ => by trivial
      · trivial
    · trivial
    · exact Guarantees.bind kvCommit_auxiliary fun _ _ _ => by trivial
  · trivial

end Windows

/-! ### The automatic backfill -/

section Automatic

theorem paidFallbackBackfillNeedsRun_wp :
    PaidGuarantees clockOk (paidFallbackBackfillNeedsRun fuel) w := by
  refine kvGets_bind fun u _ _ got _ => ?_
  dsimp only
  split_ifs
  · trivial
  · refine kvNext_bind fun v _ _ c firstRollup _ => ?_
    dsimp only
    split_ifs
    · trivial
    · exact Guarantees.kvFold _ _ _ _ _

theorem runBackfillSweeps_wp : PaidGuarantees clockOk (runBackfillSweeps fuel limit nowMs) w := by
  refine Guarantees.bind backfillPaidFallbackUsageRollups_wp fun u requests _ => ?_
  refine Guarantees.bind backfillPaidFallbackWindowTtls_wp fun v windowsTruncated _ => ?_
  dsimp only
  split_ifs
  · exact Guarantees.bind kvCommit_auxiliary fun _ _ _ => by trivial
  · trivial

theorem releasePaidFallbackBackfillLease_wp :
    PaidGuarantees clockOk (releasePaidFallbackBackfillLease lease) w := by
  refine kvGet_bind fun u _ _ entry _ => ?_
  split_ifs
  · exact Guarantees.bind kvCommit_auxiliary fun _ _ _ => by trivial
  · trivial

theorem acquireBackfillLease_wp : PaidGuarantees clockOk
    (retrying (attemptBackfillLease token nowMs) (return none) maxCasAttempts) w := by
  refine Guarantees.retrying (R := fun _ => True) (fun _ _ _ _ _ => trivial) (fun v _ => ?_)
    (fun _ _ => by trivial) maxCasAttempts w trivial
  refine kvGet_bind fun u _ _ entry _ => ?_
  split_ifs
  · trivial
  · exact Guarantees.bind kvCommit_auxiliary fun _ _ _ => by trivial

theorem runPaidFallbackBackfillV3_wp :
    PaidGuarantees clockOk (runPaidFallbackBackfillV3 fuel force limit token) w := by
  refine dateNow_bind fun u _ _ nowMs _ => ?_
  split
  · trivial
  · -- what follows the answer whether a pass is needed
    extract_lets rest
    have hrest : ∀ (v : PaidWorld) (needed : Bool), PaidGuarantees clockOk (rest needed) v := by
      intro v needed
      dsimp only [rest]
      split_ifs
      · trivial
      · refine Guarantees.bind acquireBackfillLease_wp fun s lease _ => ?_
        cases lease with
        | none => trivial
        | some lease =>
          exact Guarantees.tryFinally runBackfillSweeps_wp
            fun _ _ => releasePaidFallbackBackfillLease_wp
    split
    · exact Guarantees.bind (by trivial) fun v needed _ => hrest v needed
    · exact Guarantees.bind paidFallbackBackfillNeedsRun_wp fun v needed _ => hrest v needed

end Automatic

end UbqGateway.Paid
