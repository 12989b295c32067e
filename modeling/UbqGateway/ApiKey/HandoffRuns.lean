import UbqGateway.ApiKey.CounterHandoff
import UbqGateway.Library.Schedule

/-!
# The requests that a window counts across the handoff

The committed requests of a V3 window are its V3 commits and the largest legacy usage that the
handoff has observed, less what the seeding of the baseline dropped: it does not add the two counts
that it finds but takes the larger (`handoff_counts`).  Every run after the seeding adds exactly
what is new.

`Tally` is what the history of the commits says about a window, and `UsageStep` is what a commit can
do. The two agree because every transaction checks the rows from which it computes what it writes.
-/

namespace UbqGateway.ApiKey

variable {kv : UsageKv}

/-! ### The counts of a window -/

/-- The committed requests of a window in the store. -/
def committedCount (kv : UsageKv) (scope : ApiKeyUsagePolicyScope) : ℤ :=
  (windowOf (kv.get (.window scope))).elim 0 ApiKeyUsageWindowV3.committedRequests

/-- The reserved requests of a window in the store. -/
def reservedCount (kv : UsageKv) (scope : ApiKeyUsagePolicyScope) : ℤ :=
  (windowOf (kv.get (.window scope))).elim 0 ApiKeyUsageWindowV3.reservedRequests

/-- The window that a handoff finds in the store. -/
def existingWindow (kv : UsageKv) (scope : ApiKeyUsagePolicyScope) : Option ApiKeyUsageWindowV3 :=
  normalizeApiKeyUsageWindowV3 (windowOf (kv.get (.window scope)))

/-- The committed requests that a handoff finds in the store. -/
def foundCount (kv : UsageKv) (scope : ApiKeyUsagePolicyScope) : ℤ :=
  (existingWindow kv scope).elim 0 ApiKeyUsageWindowV3.committedRequests

/-- The row of a window is missing or is one that the checks accept. -/
def WindowUsable (kv : UsageKv) (scope : ApiKeyUsagePolicyScope) : Prop :=
  existingWindow kv scope = windowOf (kv.get (.window scope))

theorem existingWindow_eq_some (h : existingWindow kv scope = some window) :
    windowOf (kv.get (.window scope)) = some window :=
  (Option.filter_eq_some_iff.mp h).1

theorem foundCount_of_usable (h : WindowUsable kv scope) :
    foundCount kv scope = committedCount kv scope := by
  unfold foundCount
  rw [h]
  rfl

/-! ### The history of a window -/

/-- What the history says about a window: the V3 commits, the largest legacy usage that was
observed, and how much the seeding dropped. -/
structure Tally where
  commits : ℤ
  largest : ℤ
  dropped : ℤ
  seeded : Bool

/-- A commit on the store `kv` is tallied.  A cancellation takes a commit back, and a seeding drops
what the larger of its two counts lacks of their sum. -/
def Tally.next (scope : ApiKeyUsagePolicyScope) (kv : UsageKv) (t : Tally) : UsageLabel → Tally
  | .dispatch s => if s = scope then { t with commits := t.commits + 1 } else t
  | .cancel s => if s = scope then { t with commits := t.commits - 1 } else t
  | .handoff s observed =>
    if s = scope then
      if t.seeded = true then { t with largest := max t.largest observed }
      else
        { commits := t.commits
          largest := observed
          dropped := t.commits + observed - max (foundCount kv scope) observed
          seeded := true }
    else t
  | _ => t

/-- The tally of the commits of a history, which are given newest first. -/
def tally (scope : ApiKeyUsagePolicyScope) (init : UsageKv) :
    List (Event UsageKey UsageValue UsageLabel) → Tally
  | [] => ⟨committedCount init scope, 0, 0, false⟩
  | e :: past => (tally scope init past).next scope (storeOf init past) e.label

/-! ### The steps -/

/-- The window of a request's transaction, and by how much it moves the committed requests. -/
def UsageLabel.moves : UsageLabel → Option (ApiKeyUsagePolicyScope × ℤ)
  | .reserve s => some (s, 0)
  | .dispatch s => some (s, 1)
  | .release s => some (s, 0)
  | .cancel s => some (s, -1)
  | _ => none

/-- What a commit can do. -/
inductive UsageStep (kv : UsageKv) : UsageLabel → List (Write UsageKey UsageValue) → Prop
  | request (label : UsageLabel) (scope : ApiKeyUsagePolicyScope) (delta : ℤ) (requestId : String)
      (request : ApiKeyUsageRequestV3) (window : ApiKeyUsageWindowV3)
      (hmove : label.moves = some (scope, delta))
      (hcnts : window.committedRequests = committedCount kv scope + delta) :
      UsageStep kv label (requestWrites requestId scope request window)
  | count (scope : ApiKeyUsagePolicyScope) (value : ℕ) :
      UsageStep kv .count [.set (apiKeyUsageV2Key scope) (.counter value)]
  | seed (policy : ApiKeyPolicy) (observed nowMs : ℤ) (initialized : Bool)
      (habs : kv.get (.baseline policy.scope) = none) (hnn : 0 ≤ observed) :
      UsageStep kv (.handoff policy.scope observed)
        (handoffWrites policy (seededBaseline policy observed nowMs initialized)
          (seededWindow policy observed (existingWindow kv policy.scope) nowMs))
  | update (policy : ApiKeyPolicy) (baseline : ApiKeyUsageV2MigrationBaseline) (stamp : ℕ)
      (window : ApiKeyUsageWindowV3) (observed nowMs : ℤ) (initialized : Bool)
      (hin : kv.get (.baseline policy.scope) = some ⟨.baseline baseline, stamp⟩)
      (hfd : existingWindow kv policy.scope = some window) :
      UsageStep kv (.handoff policy.scope observed)
        (handoffWrites policy (updatedBaseline baseline observed nowMs initialized)
          (updatedWindow baseline window observed nowMs))

/-! ### What a step leaves -/

section Left

theorem committedCount_apply (h : Kv.written (.window scope) ws = some (some (.window window))) :
    committedCount (kv.apply ws) scope = window.committedRequests := by
  unfold committedCount
  rw [Kv.get_apply, h]
  rfl

theorem committedCount_apply_of_untouched (h : Kv.written (.window scope) ws = none) :
    committedCount (kv.apply ws) scope = committedCount kv scope := by
  unfold committedCount
  rw [kv.get_apply_of_untouched h]

theorem written_window_request (scope s : ApiKeyUsagePolicyScope) (requestId : String)
    (request : ApiKeyUsageRequestV3) (window : ApiKeyUsageWindowV3) :
    Kv.written (.window scope) (requestWrites requestId s request window)
      = if s = scope then some (some (UsageValue.window window)) else none := by
  simp [requestWrites, Kv.written]

theorem written_baseline_request (scope s : ApiKeyUsagePolicyScope) (requestId : String)
    (request : ApiKeyUsageRequestV3) (window : ApiKeyUsageWindowV3) :
    Kv.written (.baseline scope) (requestWrites requestId s request window) = none := by
  simp [requestWrites, Kv.written]

theorem written_window_handoff (scope : ApiKeyUsagePolicyScope) (policy : ApiKeyPolicy)
    (baseline : ApiKeyUsageV2MigrationBaseline) (window : ApiKeyUsageWindowV3) :
    Kv.written (.window scope) (handoffWrites policy baseline window)
      = if policy.scope = scope then some (some (UsageValue.window window)) else none := by
  simp [handoffWrites, Kv.written]

theorem written_baseline_handoff (scope : ApiKeyUsagePolicyScope) (policy : ApiKeyPolicy)
    (baseline : ApiKeyUsageV2MigrationBaseline) (window : ApiKeyUsageWindowV3) :
    Kv.written (.baseline scope) (handoffWrites policy baseline window)
      = if policy.scope = scope then some (some (UsageValue.baseline baseline)) else none := by
  simp [handoffWrites, Kv.written]

end Left

/-- The tally agrees with the rows of the window. -/
structure Tallied (scope : ApiKeyUsagePolicyScope) (kv : UsageKv) (t : Tally) : Prop where
  counts : committedCount kv scope = t.commits + t.largest - t.dropped
  unseeded : t.seeded = false → kv.get (.baseline scope) = none ∧ t.largest = 0 ∧ t.dropped = 0
  seeded : t.seeded = true →
    ∃ baseline stamp, kv.get (.baseline scope) = some ⟨.baseline baseline, stamp⟩ ∧
    baseline.lastLegacyUsageRequests = t.largest

theorem Tally.next_of_moves (hmove : label.moves = some (s, delta)) (t : Tally) :
    t.next scope kv label = if s = scope then { t with commits := t.commits + delta } else t := by
  cases label with
  | reserve | release =>
    cases hmove
    simp [Tally.next]
  | dispatch | cancel =>
    cases hmove
    rfl
  | count | handoff => cases hmove

namespace Tallied

theorem untouched (h : Tallied scope kv t) (hwdw : Kv.written (.window scope) ws = none)
    (hbl : Kv.written (.baseline scope) ws = none) : Tallied scope (kv.apply ws) t where
  counts := by rw [committedCount_apply_of_untouched hwdw, h.counts]
  unseeded := by
    intro hnew
    rw [kv.get_apply_of_untouched hbl]
    exact h.unseeded hnew
  seeded := by
    intro hold
    rw [kv.get_apply_of_untouched hbl]
    exact h.seeded hold

theorem request (h : Tallied scope kv t) {request : ApiKeyUsageRequestV3}
    (hcnts : window.committedRequests = committedCount kv s + delta) :
    Tallied scope (kv.apply (requestWrites requestId s request window))
      (if s = scope then { t with commits := t.commits + delta } else t) := by
  have hbl := written_baseline_request scope s requestId request window
  have hwr := written_window_request scope s requestId request window
  by_cases here : s = scope
  · subst here
    rw [if_pos rfl] at hwr ⊢
    refine ⟨?_, ?_, ?_⟩
    · have hold := h.counts
      rw [committedCount_apply hwr, hcnts]
      dsimp only
      omega
    · intro hnew
      rw [kv.get_apply_of_untouched hbl]
      exact h.unseeded hnew
    · intro hold
      rw [kv.get_apply_of_untouched hbl]
      exact h.seeded hold
  · rw [if_neg here] at hwr ⊢
    exact h.untouched hwr hbl

theorem handoff (policy : ApiKeyPolicy) (hseeded : t'.seeded = true)
    (hlgt : baseline.lastLegacyUsageRequests = t'.largest)
    (hcnts : window.committedRequests = t'.commits + t'.largest - t'.dropped) :
    Tallied policy.scope (kv.apply (handoffWrites policy baseline window)) t' where
  counts := by
    have hwr := written_window_handoff policy.scope policy baseline window
    rw [if_pos rfl] at hwr
    rw [committedCount_apply hwr, hcnts]
  unseeded := fun hnew => Bool.noConfusion (hnew.symm.trans hseeded)
  seeded := by
    intro _
    have hwr := written_baseline_handoff policy.scope policy baseline window
    rw [if_pos rfl] at hwr
    rw [Kv.get_apply, hwr]
    exact ⟨baseline, _, rfl, hlgt⟩

/-- **What one commit does to the tally.** -/
theorem step (h : Tallied scope kv t) (hstep : UsageStep kv label ws) :
    Tallied scope (kv.apply ws) (t.next scope kv label) := by
  cases hstep with
  | request _ _ _ _ request _ hmove hcnts =>
    rw [Tally.next_of_moves hmove]
    exact h.request hcnts
  | count s value =>
    have hoth (key : UsageKey) (hdiff : apiKeyUsageV2Key s ≠ key) :
        Kv.written key [Write.set (apiKeyUsageV2Key s) (UsageValue.counter value)] = none := by
      simp [Kv.written, hdiff]
    have hwdw : apiKeyUsageV2Key s ≠ .window scope := by
      intro heq
      cases heq
    have hbl : apiKeyUsageV2Key s ≠ .baseline scope := by
      intro heq
      cases heq
    exact h.untouched (hoth _ hwdw) (hoth _ hbl)
  | seed policy observed nowMs initialized habs hnn =>
    by_cases here : policy.scope = scope
    · subst here
      have hnew : t.seeded = false := by
        by_contra hold
        obtain ⟨baseline, stamp, hin, -⟩ := h.seeded (by simpa using hold)
        rw [habs] at hin
        cases hin
      have hnext : t.next policy.scope kv (.handoff policy.scope observed)
          = ⟨t.commits, observed, t.commits + observed - max (foundCount kv policy.scope) observed,
            true⟩ := by
        simp [Tally.next, hnew]
      rw [hnext]
      refine handoff policy rfl rfl ?_
      show max (foundCount kv policy.scope) observed
        = t.commits + observed - (t.commits + observed - max (foundCount kv policy.scope) observed)
      omega
    · have hnext : t.next scope kv (.handoff policy.scope observed) = t := if_neg here
      rw [hnext]
      refine h.untouched ?_ ?_
      · rw [written_window_handoff, if_neg here]
      · rw [written_baseline_handoff, if_neg here]
  | update policy baseline stamp window observed nowMs initialized hin hfd =>
    by_cases here : policy.scope = scope
    · subst here
      have hold : t.seeded = true := by
        by_contra hnew
        have habs := (h.unseeded (by simpa using hnew)).1
        rw [habs] at hin
        cases hin
      obtain ⟨baseline', stamp', hin', hlgt⟩ := h.seeded hold
      obtain ⟨rfl, rfl⟩ : baseline' = baseline ∧ stamp' = stamp := by
        rw [hin] at hin'
        cases hin'
        exact ⟨rfl, rfl⟩
      have hnext : t.next policy.scope kv (.handoff policy.scope observed)
          = { t with largest := max t.largest observed } := by
        simp [Tally.next, hold]
      rw [hnext]
      refine handoff policy hold ?_ ?_
      · show max baseline'.lastLegacyUsageRequests observed = max t.largest observed
        rw [hlgt]
      · have hcnt : committedCount kv policy.scope = window.committedRequests := by
          unfold committedCount
          rw [existingWindow_eq_some hfd]
          rfl
        have hbef := h.counts
        show window.committedRequests +
            (max baseline'.lastLegacyUsageRequests observed - baseline'.lastLegacyUsageRequests)
          = t.commits + max t.largest observed - t.dropped
        rw [hlgt]
        omega
    · have hnext : t.next scope kv (.handoff policy.scope observed) = t := if_neg here
      rw [hnext]
      refine h.untouched ?_ ?_
      · rw [written_window_handoff, if_neg here]
      · rw [written_baseline_handoff, if_neg here]

end Tallied

/-! ### The programs -/

section Programs

/-- The runs whose commits are steps. -/
abbrev UsageRun : World UsageKey UsageValue UsageLabel → Prop :=
  Run (fun _ => True) fun w label ws => UsageStep w.store label ws

/-- A program all of whose commits are steps. -/
abbrev UsageSafe {α : Type} (clockOk : ℤ → ℤ → Prop) (p : UsageM α)
    (w : World UsageKey UsageValue UsageLabel) : Prop :=
  Wp clockOk (fun _ => True) (fun w label ws => UsageStep w.store label ws) (fun _ _ => True) p w

theorem UsageSafe.map (h : UsageSafe clockOk p w) : UsageSafe clockOk (f <$> p) w :=
  Wp.bind (Wp.mono (fun _ _ _ => trivial) h)

/-- The committed requests that a plan has read. -/
def snapshotCount (snapshot : ApiKeyUsageSnapshot) : ℤ :=
  snapshot.window.elim 0 ApiKeyUsageWindowV3.committedRequests

theorem commitPlan_safe {plan : ApiKeyUsageWritePlan}
    (hrds : ∀ key ∈ requestKeys policy requestId, ReadIn u w key (got key))
    (hmove : label.moves = some (policy.scope, delta)) (hcnts : plan.window.committedRequests
      = snapshotCount (usageSnapshotOf policy requestId got) + delta) :
    UsageSafe clockOk (commitPlan policy requestId label got plan) w := by
  refine Wp.transaction (fun v hle hv hpss => ⟨?_, trivial⟩) fun _ _ _ => trivial
  have hcur : v.store.get (.window policy.scope) = got (.window policy.scope) :=
    (hrds _ (by simp [requestKeys])).get_eq hle hv (hpss _ (by simp))
  refine .request label policy.scope delta requestId plan.request plan.window hmove ?_
  rw [hcnts]
  unfold committedCount
  rw [hcur]
  rfl

/-! ### What the plans count -/

section Plans

theorem snapshotCount_of_matching
    (h : matchingApiKeyUsageWindowV3 snapshot.window policy = some window) :
    snapshotCount snapshot = window.committedRequests := by
  unfold snapshotCount
  rw [(matchingApiKeyUsageWindowV3_eq_some h).1]
  rfl

theorem planApiKeyUsageReservation_counts
    (h : planApiKeyUsageReservation policy requestId route snapshot nowMs = .write plan) :
    plan.window.committedRequests = snapshotCount snapshot + 0 := by
  unfold planApiKeyUsageReservation at h
  split at h
  · cases h
  · split_ifs at h
  · dsimp only at h
    split at h
    · cases h
    · next window hfd =>
      split_ifs at h
      cases h
      show window.committedRequests = _
      split_ifs at hfd with habs
      · rw [← Option.some.inj hfd, snapshotCount, habs]
        rfl
      · rw [snapshotCount_of_matching hfd, add_zero]

theorem planApiKeyUsageDispatch_counts
    (h : planApiKeyUsageDispatch policy requestId route provider snapshot nowMs = .write plan) :
    plan.window.committedRequests = snapshotCount snapshot + 1 := by
  unfold planApiKeyUsageDispatch at h
  split at h
  · cases h
  · split_ifs at h
    split at h
    · cases h
    · next window hfd =>
      split_ifs at h
      cases h
      rw [snapshotCount_of_matching hfd]
      rfl

theorem planApiKeyUsageReservedRelease_counts {reason : String} {expectedRoute : Option String}
    (h : planApiKeyUsageReservedRelease policy requestId reason snapshot nowMs expectedRoute
      = .write plan) : plan.window.committedRequests = snapshotCount snapshot + 0 := by
  unfold planApiKeyUsageReservedRelease at h
  split at h
  · split_ifs at h
  · split_ifs at h
    split at h
    · cases h
    · next window hfd =>
      split_ifs at h
      cases h
      rw [snapshotCount_of_matching hfd, add_zero]
      rfl

theorem planApiKeyUsageDispatchCancellation_counts
    (h : planApiKeyUsageDispatchCancellation policy requestId route provider snapshot nowMs
      = .write plan) : plan.window.committedRequests = snapshotCount snapshot + -1 := by
  unfold planApiKeyUsageDispatchCancellation at h
  split at h
  · split_ifs at h
  · split_ifs at h
    split at h
    · cases h
    · next window hfd =>
      split_ifs at h
      cases h
      rw [snapshotCount_of_matching hfd]
      rfl

end Plans

/-! ### The requests -/

theorem attemptApiKeyUsageReservation_safe (nowMs : ℤ) :
    UsageSafe clockOk (attemptApiKeyUsageReservation policy requestId route nowMs) w := by
  refine Wp.gets_bind fun v _ _ got hrds => ?_
  cases hplan : planApiKeyUsageReservation policy requestId route
    (usageSnapshotOf policy requestId got)
    nowMs with
  | write writes => exact commitPlan_safe hrds rfl (planApiKeyUsageReservation_counts hplan)
  | reuse => trivial
  | full window => trivial
  | unavailable reason => trivial

theorem dispatchLoop_safe (provider : ApiKeyUsageProvider) : ∀ (attempts : ℕ)
    {w : World UsageKey UsageValue UsageLabel},
    UsageSafe clockOk (dispatchLoop policy requestId route provider attempts) w
  | 0, _ => trivial
  | attempts + 1, _ => by
    refine Wp.gets_bind fun v _ _ got hrds => ?_
    refine Wp.clock_bind fun v' hle _ nowMs _ => ?_
    have hrds' : ∀ key ∈ requestKeys policy requestId, ReadIn _ v' key (got key) :=
      fun key hmem => (hrds key hmem).mono hle
    cases hplan : planApiKeyUsageDispatch policy requestId route provider
      (usageSnapshotOf policy requestId got) nowMs with
    | write writes =>
      have hcommitting : UsageSafe clockOk
        (commitPlan policy requestId (.dispatch policy.scope) got writes) v' :=
        commitPlan_safe hrds' rfl (planApiKeyUsageDispatch_counts hplan)
      refine Wp.bind (Wp.mono ?_ hcommitting)
      intro v'' committed _
      cases committed with
      | true => trivial
      | false => exact dispatchLoop_safe provider attempts
    | alreadyDispatched => trivial
    | invalid => trivial

theorem releaseReservedRequest_safe (reason : String) (nowMs : ℤ) (expectedRoute : Option String) :
    UsageSafe clockOk (releaseReservedRequest policy requestId reason nowMs expectedRoute) w := by
  refine Wp.gets_bind fun v _ _ got hrds => ?_
  cases hplan : planApiKeyUsageReservedRelease policy requestId reason
    (usageSnapshotOf policy requestId got) nowMs expectedRoute with
  | write writes => exact commitPlan_safe hrds rfl (planApiKeyUsageReservedRelease_counts hplan)
  | missing => trivial
  | invalid => trivial
  | settled => trivial

theorem releaseDispatchedRequest_safe (provider : ApiKeyUsageProvider) (nowMs : ℤ) :
    UsageSafe clockOk (releaseDispatchedRequest policy requestId route provider nowMs) w := by
  refine Wp.gets_bind fun v _ _ got hrds => ?_
  cases hplan : planApiKeyUsageDispatchCancellation policy requestId route provider
    (usageSnapshotOf policy requestId got) nowMs with
  | write writes =>
    exact commitPlan_safe hrds rfl (planApiKeyUsageDispatchCancellation_counts hplan)
  | missing => trivial
  | invalid => trivial
  | settled => trivial

/-! ### The handoff -/

section Handoff

theorem handoff_current (hrds : ∀ key ∈ handoffKeys policy, ReadIn u w key (got key))
    (hle : w.Le v) (hv : UsageRun v) (hpss : v.store.PassesAll (handoffChecks policy got)) :
    v.store.get (.baseline policy.scope) = got (.baseline policy.scope) ∧
      existingWindow v.store policy.scope
        = normalizeApiKeyUsageWindowV3 (windowOf (got (.window policy.scope))) := by
  have hcur (key : UsageKey) (hmem : key ∈ handoffKeys policy) : v.store.get key = got key :=
    (hrds key hmem).get_eq hle hv (hpss _ (List.mem_map_of_mem hmem))
  refine ⟨hcur _ (by simp [handoffKeys]), ?_⟩
  unfold existingWindow
  rw [hcur _ (by simp [handoffKeys])]

theorem observedUsage_nonneg (h : observedUsage entry legacyUsageRequests = .ok observed) :
    0 ≤ observed := by
  have hsafe {value : ℤ} (h : (if isSafeNonNegativeInteger value = true then .ok value
      else .error HandoffError.counterOutOfRange) = Except.ok observed) : 0 ≤ observed := by
    split_ifs at h with hbds
    cases h
    exact (of_decide_eq_true hbds).1
  unfold observedUsage at h
  split at h
  · exact hsafe h
  · exact hsafe h
  · cases h

theorem normalizeApiKeyUsageV2MigrationBaseline_eq_some
    (h : normalizeApiKeyUsageV2MigrationBaseline entry = some baseline) :
    ∃ stamp, entry = some ⟨.baseline baseline, stamp⟩ := by
  unfold normalizeApiKeyUsageV2MigrationBaseline at h
  split at h
  · next stored stamp =>
    obtain rfl := Option.some.inj (Option.filter_eq_some_iff.mp h).1
    exact ⟨stamp, rfl⟩
  · cases h

theorem attemptHandoff_safe (legacyUsageRequests : ℤ)
    (hrds : ∀ key ∈ handoffKeys policy, ReadIn u w key (got key)) :
    UsageSafe clockOk (attemptHandoff policy legacyUsageRequests nowMs initialized got) w := by
  unfold attemptHandoff
  cases hobserving : observedUsage (got (apiKeyUsageV2Key policy.scope)) legacyUsageRequests with
  | error error => trivial
  | ok observed =>
    dsimp only
    split_ifs with hmismatch hfr
    · trivial
    · -- the baseline is seeded
      refine Wp.bind (Wp.transaction_bind (fun v hle hv hpss => ⟨?_, trivial⟩)
        fun _ _ _ => trivial)
      obtain ⟨hbl, hwdw⟩ := handoff_current hrds hle hv hpss
      rw [← hwdw]
      exact .seed policy observed nowMs initialized (hbl.trans hfr)
        (observedUsage_nonneg hobserving)
    · unfold updateBoundedCounterBaseline
      cases hst : normalizeApiKeyUsageV2MigrationBaseline (got (.baseline policy.scope)) with
      | none => trivial
      | some baseline =>
        dsimp only
        split_ifs with hforeign
        · trivial
        · cases hfd : normalizeApiKeyUsageWindowV3 (windowOf (got (.window policy.scope))) with
          | none => trivial
          | some window =>
            refine Wp.transaction_bind (fun v hle hv hpss => ⟨?_, trivial⟩) fun _ _ _ => trivial
            obtain ⟨hcur, hexi⟩ := handoff_current hrds hle hv hpss
            obtain ⟨stamp, hent⟩ := normalizeApiKeyUsageV2MigrationBaseline_eq_some hst
            exact .update policy baseline stamp window observed nowMs initialized
              (hcur.trans hent) (hexi.trans hfd)

theorem handoffLoop_safe (legacyUsageRequests : ℤ) : ∀ (attempts : ℕ)
    {w : World UsageKey UsageValue UsageLabel},
    UsageSafe clockOk (handoffLoop policy legacyUsageRequests nowMs initialized attempts) w
  | 0, _ => trivial
  | attempts + 1, _ => by
    refine Wp.gets_bind fun v _ _ got hrds => ?_
    have hattempt : UsageSafe clockOk
      (attemptHandoff policy legacyUsageRequests nowMs initialized got) v :=
      attemptHandoff_safe legacyUsageRequests hrds
    refine Wp.bind (Wp.mono ?_ hattempt)
    intro v' handoff _
    match handoff with
    | .error _ => trivial
    | .ok (some _) => trivial
    | .ok none => exact handoffLoop_safe legacyUsageRequests attempts

end Handoff

theorem usagePrograms_safe : ∀ p ∈ usagePrograms, ∀ w, UsageRun w → UsageSafe clockOk p w := by
  rintro _ ⟨call, rfl⟩ w -
  cases call with
  | reserve _ _ _ nowMs => exact (attemptApiKeyUsageReservation_safe nowMs).map
  | dispatch _ _ _ provider => exact (dispatchLoop_safe provider 5).map
  | release _ _ reason nowMs expectedRoute =>
    exact (releaseReservedRequest_safe reason nowMs expectedRoute).map
  | cancel _ _ _ provider nowMs =>
    exact (releaseDispatchedRequest_safe provider nowMs).map
  | count scope value =>
    refine UsageSafe.map ?_
    exact Wp.transaction (fun v _ _ _ => ⟨.count scope value, trivial⟩) fun _ _ _ => trivial
  | handoff _ legacyUsageRequests =>
    exact (handoffLoop_safe legacyUsageRequests 5).map

/-! ### What a handoff returns -/

section Ends

theorem attemptHandoff_ends
    (h : (attemptHandoff policy legacyUsageRequests nowMs initialized got).Ends changed reply) :
    changed = true ↔ ∃ result, reply = .ok (some result) := by
  have hunch {reply' : Except HandoffError (Option BoundedCounterHandoffResult)}
      (hfls : ¬ ∃ result, reply' = .ok (some result))
      (h : (pure reply' : UsageM _).Ends changed reply) :
      changed = true ↔ ∃ result, reply = .ok (some result) := by
    cases h
    exact ⟨Bool.noConfusion, fun hsucceeds => absurd hsucceeds hfls⟩
  have hcom {result : BoundedCounterHandoffResult} {label : UsageLabel}
      {checks : List (Check UsageKey UsageValue)} {writes : List (Write UsageKey UsageValue)}
      (h : (do
        let committed ← Prog.transaction label checks writes
        return .ok (if committed = true then some result else none) :
          UsageM (Except HandoffError (Option BoundedCounterHandoffResult))).Ends changed reply) :
      changed = true ↔ ∃ result, reply = .ok (some result) := by
    obtain ⟨first, ok, second, htransaction, hrest, rfl⟩ := h.of_bind
    obtain rfl := htransaction.of_transaction
    cases hrest
    cases first with
    | true => exact ⟨fun _ => ⟨result, rfl⟩, fun _ => rfl⟩
    | false => exact ⟨Bool.noConfusion, nofun⟩
  unfold attemptHandoff at h
  split at h
  · exact hunch (by simp) h
  · dsimp only at h
    split_ifs at h with hmismatch hfr
    · exact hunch (by simp) h
    · exact hcom h
    · unfold updateBoundedCounterBaseline at h
      cases hst : normalizeApiKeyUsageV2MigrationBaseline (got (.baseline policy.scope)) with
      | none =>
        rw [hst] at h
        exact hunch (by simp) h
      | some baseline =>
        rw [hst] at h
        dsimp only at h
        split_ifs at h with hforeign
        · exact hunch (by simp) h
        · split at h
          · exact hunch (by simp) h
          · exact hcom h

/-- The loop ends with a result exactly if it has committed. -/
theorem handoffLoop_ends : ∀ (attempts : ℕ) {changed : Bool}
    {reply : Except HandoffError BoundedCounterHandoffResult},
    (handoffLoop policy legacyUsageRequests nowMs initialized attempts).Ends changed reply →
      (changed = true ↔ ∃ result, reply = .ok result)
  | 0, _, _, h => by
    cases h
    exact ⟨Bool.noConfusion, nofun⟩
  | attempts + 1, changed, reply, h => by
    obtain ⟨first, got, second, hrdg, hrest, rfl⟩ := h.of_bind
    obtain ⟨third, handoff, fourth, hattempting, hrest, rfl⟩ := hrest.of_bind
    have hsil : first = false := by
      cases hrdg with
      | getAll _ _ _ h => cases h; rfl
    have hattempt := attemptHandoff_ends hattempting
    rw [hsil, Bool.false_or]
    match handoff with
    | .error error =>
      cases hrest
      have hunch : third = false := by
        by_contra hdone
        obtain ⟨result, his⟩ := hattempt.mp (by simpa using hdone)
        cases his
      rw [hunch]
      exact ⟨Bool.noConfusion, nofun⟩
    | .ok (some result) =>
      cases hrest
      rw [hattempt.mpr ⟨result, rfl⟩]
      exact ⟨fun _ => ⟨result, rfl⟩, fun _ => rfl⟩
    | .ok none =>
      have hunch : third = false := by
        by_contra hdone
        obtain ⟨result, his⟩ := hattempt.mp (by simpa using hdone)
        cases his
      rw [hunch, Bool.false_or]
      exact handoffLoop_ends attempts hrest

end Ends

end Programs

/-! ### Runs -/

section Runs

theorem UsageRun.tallied (hw : UsageRun w) (hstr : w.init.get (.baseline scope) = none) :
    Tallied scope w.store (tally scope w.init w.events) := by
  induction hw with
  | start kv =>
    refine ⟨?_, fun _ => ⟨hstr, rfl, rfl⟩, Bool.noConfusion⟩
    show committedCount kv scope = committedCount kv scope + 0 - 0
    omega
  | advance _ _ _ _ ih => exact ih hstr
  | commit _ _ _ _ hstep ih => exact (ih hstr).step hstep

/-- A handoff leaves the counts as they are. -/
theorem Tallied.unchanged (h : Tallied scope kv t)
    (hstep : UsageStep kv (.handoff scope observed) ws) (hold : observed ≤ t.largest)
    (husable : WindowUsable kv scope) :
    committedCount (kv.apply ws) scope = committedCount kv scope ∧
      reservedCount (kv.apply ws) scope = reservedCount kv scope := by
  have hlvs {policy : ApiKeyPolicy} {baseline : ApiKeyUsageV2MigrationBaseline}
      {window : ApiKeyUsageWindowV3}
      (hcom : window.committedRequests = committedCount kv policy.scope)
      (hreserved : window.reservedRequests = reservedCount kv policy.scope) :
      committedCount (kv.apply (handoffWrites policy baseline window)) policy.scope
          = committedCount kv policy.scope ∧
        reservedCount (kv.apply (handoffWrites policy baseline window)) policy.scope
          = reservedCount kv policy.scope := by
    have hwr := written_window_handoff policy.scope policy baseline window
    rw [if_pos rfl] at hwr
    rw [committedCount_apply hwr, hcom]
    refine ⟨rfl, ?_⟩
    unfold reservedCount at hreserved ⊢
    rw [Kv.get_apply, hwr, ← hreserved]
    rfl
  cases hstep with
  | request _ _ _ _ _ _ hmove => cases hmove
  | seed policy _ _ _ habs =>
    have hnew : t.seeded = false := by
      by_contra hold
      obtain ⟨baseline, stamp, hin, -⟩ := h.seeded (by simpa using hold)
      rw [habs] at hin
      cases hin
    have hzero : observed = 0 := by
      have hlgt := (h.unseeded hnew).2.1
      omega
    subst hzero
    have hfd : existingWindow kv policy.scope = windowOf (kv.get (.window policy.scope)) := husable
    have hcnt : 0 ≤ foundCount kv policy.scope := by
      unfold foundCount
      cases his : existingWindow kv policy.scope with
      | none => exact le_rfl
      | some window =>
        have hchks := (Option.filter_eq_some_iff.mp his).2
        simp only [Bool.and_eq_true] at hchks
        exact (of_decide_eq_true hchks.1.1.2).1
    refine hlvs ?_ ?_
    · show max (foundCount kv policy.scope) 0 = _
      rw [max_eq_left hcnt, foundCount_of_usable husable]
    · unfold reservedCount
      rw [← hfd]
      cases existingWindow kv policy.scope <;> rfl
  | update _ baseline _ window _ _ _ hin hfd =>
    have hseeded : t.seeded = true := by
      by_contra hnew
      have habs := (h.unseeded (by simpa using hnew)).1
      rw [habs] at hin
      cases hin
    obtain ⟨baseline', stamp', hin', hlgt⟩ := h.seeded hseeded
    obtain rfl : baseline' = baseline := by
      rw [hin] at hin'
      cases hin'
      rfl
    have hst := existingWindow_eq_some hfd
    refine hlvs ?_ ?_
    · show window.committedRequests +
        (max baseline'.lastLegacyUsageRequests observed - baseline'.lastLegacyUsageRequests) = _
      unfold committedCount
      rw [hst, hlgt, max_eq_left hold, sub_self, add_zero]
      rfl
    · unfold reservedCount
      rw [hst]
      rfl

/-- **The requests that a window counts** are the V3 commits and the largest legacy usage observed,
less what the seeding dropped.  A committed handoff that observes nothing new leaves the counts as
they are, and one that throws has committed nothing. -/
theorem handoff_counts {clockOk : ℤ → ℤ → Prop} {kv₀ : UsageKv}
    (hstr : kv₀.get (.baseline scope) = none)
    {s : System UsageKey UsageValue UsageLabel UsageReply}
    (hs : Reachable clockOk usagePrograms kv₀ s) : committedCount s.world.store scope
        = (tally scope kv₀ s.world.events).commits + (tally scope kv₀ s.world.events).largest
          - (tally scope kv₀ s.world.events).dropped ∧
    (∀ e past observed, e :: past <:+ s.world.events → e.label = .handoff scope observed →
      WindowUsable (storeOf kv₀ past) scope →
        (tally scope kv₀ (e :: past)).dropped
            = (if (tally scope kv₀ past).seeded = true then (tally scope kv₀ past).dropped
              else min (tally scope kv₀ past).commits observed) ∧
          (observed ≤ (tally scope kv₀ past).largest →
            committedCount e.store scope = committedCount (storeOf kv₀ past) scope ∧
              reservedCount e.store scope = reservedCount (storeOf kv₀ past) scope)) ∧
    ∀ policy legacyUsageRequests nowMs handoffAlreadyInitialized changed error,
      (migrateBoundedCounterHandoff policy legacyUsageRequests nowMs handoffAlreadyInitialized).Ends
        changed (.error error) → changed = false := by
  have hinit := hs.init_eq
  have hrun : UsageRun s.world := Reachable.run trivial usagePrograms_safe hs
  subst hinit
  refine ⟨(hrun.tallied hstr).counts, ?_, ?_⟩
  · intro e past observed hsfx hlab husable
    obtain ⟨u, ws, hu, hinits, rfl, hstep, hstore⟩ := hrun.event hsfx
    have hbef : Tallied scope u.store (tally scope u.init u.events) :=
      UsageRun.tallied hu (by rw [hinits]; exact hstr)
    rw [← hinits] at husable ⊢
    rw [hlab] at hstep
    refine ⟨?_, fun hold => ?_⟩
    · have hnext : tally scope u.init (e :: u.events)
          = (tally scope u.init u.events).next scope u.store (.handoff scope observed) := by
        rw [← hlab]
        rfl
      rw [hnext]
      cases hnew : (tally scope u.init u.events).seeded with
      | true => simp [Tally.next, hnew]
      | false =>
        have hcnts := hbef.counts
        have hfd : foundCount u.store scope = committedCount u.store scope :=
          foundCount_of_usable husable
        obtain ⟨-, hlgt, hdrp⟩ := hbef.unseeded hnew
        simp only [Tally.next, hnew, if_true, Bool.false_eq_true, if_false]
        show _ + observed - max (foundCount u.store scope) observed = _
        rw [hfd]
        omega
    · rw [hstore]
      exact hbef.unchanged hstep hold husable
  · intro policy legacyUsageRequests nowMs handoffAlreadyInitialized changed error h
    cases changed with
    | false => rfl
    | true =>
      obtain ⟨result, his⟩ := (handoffLoop_ends 5 h).mp rfl
      cases his

end Runs

/-! ### A window that is seeded after V3 traffic -/

/-- A key without a limit. -/
def samplePolicy : ApiKeyPolicy := ⟨"hash", "key", -1, -1, 60000, 0, 60000, "v3:60000"⟩

/-- A request is reserved and dispatched, an old revision counts a request, and a handoff runs
twice. -/
def sampleCall : ℕ → UsageCall
  | 0 => .reserve samplePolicy "request" "/v1/responses" 1
  | 1 => .dispatch samplePolicy "request" "/v1/responses" .voyage
  | 2 => .count samplePolicy.scope 1
  | _ => .handoff samplePolicy 0 1 false

/-- The calls one after the other. -/
def sampleActions : List (Action ℕ) :=
  [.spawn 0, .act 0 9, .spawn 1, .act 0 9, .spawn 2, .act 0 9, .spawn 3, .act 0 9, .spawn 4,
    .act 0 9]

/-- What the calls lead to. -/
def sampleSystem : System UsageKey UsageValue UsageLabel UsageReply :=
  System.runAll (fun n => (sampleCall n).perform) ⟨⟨Kv.empty, [], 0⟩, []⟩ sampleActions

theorem sampleSystem_reachable : Reachable Eq usagePrograms Kv.empty sampleSystem :=
  System.runAll_reachable (P := fun _ => True) (fun _ _ => rfl) (fun n =>
    Set.mem_range_self (sampleCall n))
    sampleActions (by decide) ⟨⟨Kv.empty, [], 0⟩, []⟩ trivial (.start 0)

/-- One V3 commit and one legacy request are counted once: the seeding has dropped one of them. -/
theorem handoff_counts_sample : committedCount sampleSystem.world.store samplePolicy.scope = 1 ∧
    sampleSystem.clients.map Client.ended
      = [some (.handoff (.ok ⟨false, false, 0⟩)), some (.handoff (.ok ⟨true, false, 1⟩)),
        some (.settled true), some (.settled true), some (.settled true)] ∧
    committedCount sampleSystem.world.store samplePolicy.scope
      = (tally samplePolicy.scope Kv.empty sampleSystem.world.events).commits
        + (tally samplePolicy.scope Kv.empty sampleSystem.world.events).largest
        - (tally samplePolicy.scope Kv.empty sampleSystem.world.events).dropped :=
  ⟨by decide +kernel, by decide +kernel, (handoff_counts rfl sampleSystem_reachable).1⟩

/-- The count need not be the sum of the V3 commits and the largest legacy usage. -/
theorem not_sum_of_counts : ¬ ∀ (kv₀ : UsageKv) (scope : ApiKeyUsagePolicyScope)
        (s : System UsageKey UsageValue UsageLabel UsageReply),
      kv₀.get (.baseline scope) = none → Reachable Eq usagePrograms kv₀ s →
        (tally scope kv₀ s.world.events).seeded = true →
          committedCount s.world.store scope
            = (tally scope kv₀ s.world.events).commits
              + (tally scope kv₀ s.world.events).largest := by
  intro hsum
  have hsums := hsum Kv.empty samplePolicy.scope sampleSystem rfl sampleSystem_reachable
    (by decide +kernel)
  have hdiff : committedCount sampleSystem.world.store samplePolicy.scope
      ≠ (tally samplePolicy.scope Kv.empty sampleSystem.world.events).commits
        + (tally samplePolicy.scope Kv.empty sampleSystem.world.events).largest := by decide +kernel
  exact hdiff hsums

end UbqGateway.ApiKey
