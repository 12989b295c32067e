import UbqGateway.ApiKey.NativeAuthorityApi
import Mathlib.Tactic.Linarith

/-!
# What the commands do to the usage ledger

A command changes the ledger by charges: each moves one request from one state to another and the
two counts of its window with it.  `Charge.Allowed` says what a charge finds and what it writes, and
the lemmas about the plans say that they make no other writes.  `Ledger now s` is the invariant: a
window that is seen at the time `now` counts the rows that are seen, and a window and its rows
expire together.  `Ledger.charged` and `Ledger.advance` are its two steps.
-/

namespace UbqGateway.ApiKey

open NativeAuthorityApi

/-! ### Charges -/

inductive ChargeKind
  | reserve
  | dispatch
  | release
  | cancel
deriving DecidableEq

/-- The state that a charge finds its request in; a request that is reserved has no row. -/
def ChargeKind.source : ChargeKind → Option UsageState
  | .reserve => none
  | .dispatch => some .reserved
  | .release => some .reserved
  | .cancel => some .dispatched

/-- The state that a charge leaves its request in. -/
def ChargeKind.target : ChargeKind → UsageState
  | .reserve => .reserved
  | .dispatch => .dispatched
  | .release => .released
  | .cancel => .released

/-- A charge of the window of a policy. -/
structure Charge where
  kind : ChargeKind
  policy : ApiKeyPolicy
  requestId : String

def Charge.key (charge : Charge) : ApiRequestKey := requestKey charge.policy charge.requestId

/-- How much a request in this state adds to the count of `state`. -/
def weight (state : UsageState) (current : Option UsageState) : ℤ :=
  if current = some state then 1 else 0

/-- The window after a request was moved. -/
def moved (window : ApiKeyUsageWindowV3) (kind : ChargeKind) (now : ℤ) : ApiKeyUsageWindowV3 :=
  { window with
    committedRequests := window.committedRequests - weight .dispatched kind.source
      + weight .dispatched (some kind.target)
    reservedRequests := window.reservedRequests - weight .reserved kind.source
      + weight .reserved (some kind.target)
    updatedAtMs := now }

/-- The window that a charge starts from: the one that is seen, or a new one. -/
structure Charge.Base (charge : Charge) (now : ℤ) (s : SqlState) (base : ApiKeyUsageWindowV3) :
    Prop where
  seen : s.windows.read (windowKey charge.policy) now = some base ∨
    s.windows.read (windowKey charge.policy) now = none ∧ charge.kind = .reserve ∧
      base = makeApiKeyUsageWindowV3 charge.policy now
  reset : base.windowResetAtMs = charge.policy.usageResetAtMs
  limit : charge.kind = .reserve → charge.policy.usageLimitRequests = -1 ∨
    base.committedRequests + base.reservedRequests < charge.policy.usageLimitRequests

structure Charge.Allowed (charge : Charge) (now : ℤ) (s : SqlState) (plan : ApiKeyUsageWritePlan) :
    Prop where
  requestId : plan.request.requestId = charge.requestId
  keyId : plan.request.keyId = charge.policy.keyId
  row : (s.requests.read charge.key now).map (·.state) = charge.kind.source
  state : plan.request.state = charge.kind.target
  base : ∃ base, charge.Base now s base ∧ plan.window = moved base charge.kind now
  expireIn : plan.expireIn = apiKeyUsageV3RetentionMs charge.policy.usageResetAtMs now

/-- The tables after a charge. -/
def SqlState.charged (s : SqlState) (policy : ApiKeyPolicy) (plan : ApiKeyUsageWritePlan)
    (now : ℤ) : SqlState :=
  { s with
    requests := s.requests.write (requestKey policy plan.request.requestId) plan.request
      (now + plan.expireIn)
    windows := s.windows.write (windowKey policy) plan.window (now + plan.expireIn) }

/-- The tables `s'` come from `s` by the charges, newest first; the other tables may change. -/
inductive Charged (now : ℤ) (s : SqlState) : List Charge → SqlState → Prop
  | refl : Charged now s [] s
  | charge {charges : List Charge} {s₁ : SqlState} (charge : Charge) (plan : ApiKeyUsageWritePlan)
      (h : Charged now s charges s₁) (halw : charge.Allowed now s₁ plan) :
      Charged now s (charge :: charges) (s₁.charged charge.policy plan now)
  | other {charges : List Charge} {s₁ s₂ : SqlState} (h : Charged now s charges s₁)
      (hwins : s₂.windows = s₁.windows) (hreqs : s₂.requests = s₁.requests) :
      Charged now s charges s₂

theorem Charged.trans (h : Charged now s₀ charges s₁) (h' : Charged now s₁ charges' s₂) :
    Charged now s₀ (charges' ++ charges) s₂ := by
  induction h' with
  | refl => exact h
  | charge charge plan _ halw ih => exact .charge charge plan ih halw
  | other _ hwins hreqs ih => exact .other ih hwins hreqs

/-! ### The plans -/

section Plans

variable {request : ApiKeyUsageRequestV3}

theorem normalizeApiKeyUsageRequestV3_eq_some
    (h : normalizeApiKeyUsageRequestV3 value = some request) : value = some request :=
  (Option.filter_eq_some_iff.mp h).1

/-- The snapshot that a command decides with. -/
def snapshotIn (s : SqlState) (policy : ApiKeyPolicy) (requestId : String) (now : ℤ) :
    ApiKeyUsageSnapshot :=
  ⟨s.requests.read (requestKey policy requestId) now, s.windows.read (windowKey policy) now⟩

/-- A planned reservation is allowed. -/
theorem planApiKeyUsageReservation_allowed
    (h : planApiKeyUsageReservation policy requestId route (snapshotIn s policy requestId now) now
      = .write plan) : Charge.Allowed ⟨.reserve, policy, requestId⟩ now s plan := by
  unfold planApiKeyUsageReservation at h
  split at h
  · cases h
  · split_ifs at h
  · next hno _ =>
    have hrow : s.requests.read (requestKey policy requestId) now = none := hno
    dsimp only at h
    split at h
    · cases h
    · next window hwin =>
      split_ifs at h with hfull
      cases h
      have hbase : Charge.Base ⟨.reserve, policy, requestId⟩ now s window := by
        refine ⟨?_, ?_, fun _ => ?_⟩
        · split_ifs at hwin with hread
          · exact .inr ⟨hread, rfl, (Option.some.inj hwin).symm⟩
          · exact .inl (matchingApiKeyUsageWindowV3_eq_some hwin).1
        · split_ifs at hwin with hread
          · rw [← Option.some.inj hwin]
            rfl
          · exact (matchingApiKeyUsageWindowV3_eq_some hwin).2
        · by_contra hlmt
          rw [not_or, not_lt] at hlmt
          exact hfull hlmt
      refine ⟨rfl, rfl, ?_, rfl, ⟨window, hbase, ?_⟩, ?_⟩
      · show (s.requests.read (requestKey policy requestId) now).map (·.state) = none
        rw [hrow]
        rfl
      · simp [writePlan, moved, weight, ChargeKind.source, ChargeKind.target]
      · show apiKeyUsageV3RetentionMs window.windowResetAtMs now = _
        rw [hbase.reset]

theorem allowed_of_found {kind : ChargeKind} {window : ApiKeyUsageWindowV3}
    (hrow : s.requests.read (requestKey policy requestId) now = some request)
    (hkey : request.keyId = policy.keyId ∧ request.requestId = requestId)
    (hsta : some request.state = kind.source)
    (hwin : matchingApiKeyUsageWindowV3 (s.windows.read (windowKey policy) now) policy
      = some window)
    (hreq : plan.request.requestId = request.requestId ∧ plan.request.keyId = request.keyId ∧
      plan.request.state = kind.target) (hplan : plan.window = moved window kind now)
    (hexpire : plan.expireIn = apiKeyUsageV3RetentionMs window.windowResetAtMs now) :
    Charge.Allowed ⟨kind, policy, requestId⟩ now s plan := by
  obtain ⟨hread, hrst⟩ := matchingApiKeyUsageWindowV3_eq_some hwin
  have hkind : kind ≠ .reserve := by
    rintro rfl
    cases hsta
  refine ⟨hreq.1.trans hkey.2, hreq.2.1.trans hkey.1, ?_, hreq.2.2,
    ⟨window, ⟨.inl hread, hrst, fun h => absurd h hkind⟩, hplan⟩, by rw [hexpire, hrst]⟩
  show (s.requests.read (requestKey policy requestId) now).map (·.state) = kind.source
  rw [hrow]
  exact hsta

theorem planApiKeyUsageDispatch_allowed
    (h : planApiKeyUsageDispatch policy requestId route provider
      (snapshotIn s policy requestId now) now = .write plan) :
    Charge.Allowed ⟨.dispatch, policy, requestId⟩ now s plan := by
  unfold planApiKeyUsageDispatch at h
  split at h
  · cases h
  · next request hreq =>
    split_ifs at h with hidt hdisp
    rw [not_or, not_or, not_or, not_not, not_not, not_not] at hidt
    split at h
    · cases h
    · next window hwin =>
      split_ifs at h
      cases h
      have hsta : request.state = .reserved := by
        cases hcase : request.state with
        | reserved => rfl
        | dispatched => exact absurd hcase hdisp
        | released => exact absurd hcase hidt.2.2.2
      refine allowed_of_found (normalizeApiKeyUsageRequestV3_eq_some hreq)
        ⟨hidt.1, hidt.2.1⟩ (congrArg some hsta) hwin ⟨rfl, rfl, rfl⟩ ?_ rfl
      simp [writePlan, moved, weight, ChargeKind.source, ChargeKind.target]

theorem planApiKeyUsageReservedRelease_allowed {reason : String} {expectedRoute : Option String}
    {request : Option ApiKeyUsageRequestV3}
    (hread : s.requests.read (requestKey policy requestId) now = request)
    (h : planApiKeyUsageReservedRelease policy requestId reason
      ⟨request, s.windows.read (windowKey policy) now⟩ now expectedRoute = .write plan) :
    Charge.Allowed ⟨.release, policy, requestId⟩ now s plan := by
  unfold planApiKeyUsageReservedRelease at h
  split at h
  · split_ifs at h
  · next request hreq =>
    split_ifs at h with hidt hres
    rw [not_or, not_or, not_not, not_not] at hidt
    rw [not_not] at hres
    split at h
    · cases h
    · next window hwin =>
      split_ifs at h
      cases h
      refine allowed_of_found (hread.trans (normalizeApiKeyUsageRequestV3_eq_some hreq))
        ⟨hidt.1, hidt.2.1⟩ (congrArg some hres) hwin ⟨rfl, rfl, rfl⟩ ?_ rfl
      simp [writePlan, moved, weight, ChargeKind.source, ChargeKind.target]

theorem planApiKeyUsageDispatchCancellation_allowed
    (h : planApiKeyUsageDispatchCancellation policy requestId route provider
      (snapshotIn s policy requestId now) now = .write plan) :
    Charge.Allowed ⟨.cancel, policy, requestId⟩ now s plan := by
  unfold planApiKeyUsageDispatchCancellation at h
  split at h
  · split_ifs at h
  · next request hreq =>
    split_ifs at h with hidt hdisp hprv
    rw [not_or, not_or, not_not, not_not] at hidt
    rw [not_not] at hdisp
    split at h
    · cases h
    · next window hwin =>
      split_ifs at h
      cases h
      refine allowed_of_found (normalizeApiKeyUsageRequestV3_eq_some hreq)
        ⟨hidt.1, hidt.2.1⟩ (congrArg some hdisp) hwin ⟨rfl, rfl, rfl⟩ ?_ rfl
      simp [writePlan, moved, weight, ChargeKind.source, ChargeKind.target]

end Plans

/-! ### The invariant -/

/-- The number of requests of a window that are seen in a state. -/
def rowsIn (s : SqlState) (now : ℤ) (w : ApiWindowKey) (state : UsageState) : ℤ :=
  s.requests.total now fun key row => if key.window = w ∧ row.state = state then 1 else 0

/-- A window that is seen counts its rows, and expires together with them. -/
structure Counted (now : ℤ) (s : SqlState) (w : ApiWindowKey) (window : ApiKeyUsageWindowV3)
    (expiresAtMs : ℤ) : Prop where
  reserved : window.reservedRequests = rowsIn s now w .reserved
  committed : window.committedRequests = rowsIn s now w .dispatched
  rows : ∀ key row, s.requests.lookup key = some row → key.window = w →
    row.expiresAtMs ≤ now ∨ row.expiresAtMs = expiresAtMs
  expiry : ∃ writtenAtMs ≤ now, expiresAtMs = max (writtenAtMs + 1)
    (window.windowResetAtMs + retentionMs)

/-- The ledger at the time `now`. -/
structure Ledger (now : ℤ) (s : SqlState) : Prop where
  counted : ∀ w window expiresAtMs, s.windows.lookup w = some ⟨window, expiresAtMs⟩ →
    now < expiresAtMs → Counted now s w window expiresAtMs
  /-- A window that is not seen has no row that is seen. -/
  hidden : ∀ w, s.windows.read w now = none → ∀ key row, s.requests.lookup key = some row →
    key.window = w → row.expiresAtMs ≤ now
  keyed : ∀ key row, s.requests.lookup key = some row →
    row.value.requestId = key.requestId ∧ row.value.keyId = key.window.keyId

section Invariant

variable {charge : Charge}

theorem rowsIn_eq_of_expiry {w : ApiWindowKey} {state : UsageState} (hle : now ≤ now')
    (h : ∀ key row, s.requests.lookup key = some row → key.window = w →
      row.expiresAtMs ≤ now ∨ now' < row.expiresAtMs) :
    rowsIn s now' w state = rowsIn s now w state := by
  refine Table.total_congr fun key row hrow => ?_
  by_cases hw : key.window = w
  · rcases h key row hrow hw with hexp | hlive
    · simp [Table.seen, not_lt.mpr hexp, not_lt.mpr (hexp.trans hle)]
    · simp [Table.seen, hlive, hle.trans_lt hlive]
  · cases Table.seen now row <;> cases Table.seen now' row <;> simp [hw]

/-- The ledger holds at a later time. -/
theorem Ledger.advance (h : Ledger now s) (hle : now ≤ now') : Ledger now' s where
  keyed := h.keyed
  counted w window expiresAtMs hwin hlive := by
    have hctd := h.counted w window expiresAtMs hwin (hle.trans_lt hlive)
    have hrows : ∀ key row, s.requests.lookup key = some row → key.window = w →
        row.expiresAtMs ≤ now ∨ now' < row.expiresAtMs := by
      intro key row hrow hw
      rcases hctd.rows key row hrow hw with hexp | heq
      · exact .inl hexp
      · exact .inr (heq ▸ hlive)
    obtain ⟨writtenAtMs, hwr, hexpiry⟩ := hctd.expiry
    refine ⟨?_, ?_, fun key row hrow hw => ?_, writtenAtMs, hwr.trans hle, hexpiry⟩
    · rw [rowsIn_eq_of_expiry hle hrows]
      exact hctd.reserved
    · rw [rowsIn_eq_of_expiry hle hrows]
      exact hctd.committed
    · exact (hctd.rows key row hrow hw).imp (fun h => h.trans hle) id
  hidden w hno key row hrow hw := by
    cases hread : s.windows.read w now with
    | none => exact (h.hidden w hread key row hrow hw).trans hle
    | some window =>
      -- the window has expired in between, and its rows with it
      obtain ⟨expiresAtMs, hlk, hlive⟩ := Table.read_eq_some.mp hread
      have hexp : expiresAtMs ≤ now' := by
        by_contra hlt
        rw [Table.read_eq_some.mpr ⟨expiresAtMs, hlk, not_le.mp hlt⟩] at hno
        cases hno
      rcases (h.counted w window expiresAtMs hlk hlive).rows key row hrow hw with hrow | hrow
      · exact hrow.trans hle
      · exact hrow.le.trans hexp

section

variable (halw : charge.Allowed now s plan)

include halw

theorem charge_key : requestKey charge.policy plan.request.requestId = charge.key := by
  rw [halw.requestId]
  rfl

theorem charge_expiry :
    now + plan.expireIn = max (now + 1) (charge.policy.usageResetAtMs + retentionMs) := by
  rw [halw.expireIn]
  unfold apiKeyUsageV3RetentionMs
  omega

/-- A charge moves one row of its window. -/
theorem rowsIn_charged (w : ApiWindowKey) (state : UsageState) :
    rowsIn (s.charged charge.policy plan now) now w state
      = if windowKey charge.policy = w then rowsIn s now w state
          - weight state charge.kind.source + weight state (some charge.kind.target)
        else rowsIn s now w state := by
  have hlive : now < now + plan.expireIn := by
    rw [charge_expiry halw]
    omega
  have hrow := halw.row
  unfold rowsIn SqlState.charged
  rw [charge_key halw, Table.total_write, if_pos hlive, halw.state]
  show _ - _ + (if windowKey charge.policy = w ∧ charge.kind.target = state then 1 else 0) = _
  by_cases hw : windowKey charge.policy = w
  · have hold : (s.requests.read charge.key now).elim 0 (fun row =>
        if charge.key.window = w ∧ row.state = state then (1 : ℤ) else 0)
        = weight state charge.kind.source := by
      rw [← hrow]
      cases s.requests.read charge.key now with
      | none => rfl
      | some row => simp [weight, Charge.key, requestKey, hw]
    rw [if_pos hw, hold]
    simp [weight, hw]
  · have hold : (s.requests.read charge.key now).elim 0 (fun row =>
        if charge.key.window = w ∧ row.state = state then (1 : ℤ) else 0) = 0 := by
      cases s.requests.read charge.key now with
      | none => rfl
      | some row => simp [Charge.key, requestKey, hw]
    rw [if_neg hw, hold]
    simp [hw]

end

/-- The window that a charge starts from counts its rows, and the rows that are seen expire when
the charge does. -/
theorem Ledger.base (h : Ledger now s) (halw : charge.Allowed now s plan)
    {base : ApiKeyUsageWindowV3} (hbase : charge.Base now s base) :
    base.reservedRequests = rowsIn s now (windowKey charge.policy) .reserved ∧
      base.committedRequests = rowsIn s now (windowKey charge.policy) .dispatched ∧
      ∀ key row, s.requests.lookup key = some row → key.window = windowKey charge.policy →
        row.expiresAtMs ≤ now ∨ row.expiresAtMs = now + plan.expireIn := by
  rcases hbase.seen with hread | ⟨hno, -, rfl⟩
  · obtain ⟨expiresAtMs, hlk, hlive⟩ := Table.read_eq_some.mp hread
    have hctd := h.counted _ base expiresAtMs hlk hlive
    -- a window that is seen is written with the expiry that it has
    have heq : expiresAtMs = now + plan.expireIn := by
      obtain ⟨writtenAtMs, hwr, hexpiry⟩ := hctd.expiry
      rw [charge_expiry halw, ← hbase.reset]
      omega
    exact ⟨hctd.reserved, hctd.committed, fun key row hrow hw => heq ▸
      hctd.rows key row hrow hw⟩
  · have hrows := h.hidden _ hno
    have hzero : ∀ state, rowsIn s now (windowKey charge.policy) state = 0 := by
      intro state
      refine Table.total_eq_zero fun key row hrow => ?_
      by_cases hw : key.window = windowKey charge.policy
      · simp [Table.seen, not_lt.mpr (hrows key row hrow hw)]
      · cases Table.seen now row <;> simp [hw]
    refine ⟨?_, ?_, fun key row hrow hw => .inl (hrows key row hrow hw)⟩
    · rw [hzero]
      rfl
    · rw [hzero]
      rfl

/-- An allowed charge keeps the ledger. -/
theorem Ledger.charged (h : Ledger now s) (halw : charge.Allowed now s plan) :
    Ledger now (s.charged charge.policy plan now) := by
  obtain ⟨base, hbase, hwin⟩ := halw.base
  obtain ⟨hres, hcom, hexpiries⟩ := h.base halw hbase
  have hlk : ∀ key, (s.charged charge.policy plan now).requests.lookup key
      = if key = charge.key then some ⟨plan.request, now + plan.expireIn⟩
        else s.requests.lookup key := by
    intro key
    unfold SqlState.charged Table.write
    rw [charge_key halw]
    exact Record.lookup_insert _ _ _ _
  have hwins : ∀ w, (s.charged charge.policy plan now).windows.lookup w
      = if w = windowKey charge.policy then some ⟨plan.window, now + plan.expireIn⟩
        else s.windows.lookup w := fun w => Record.lookup_insert _ _ _ _
  have hlive : now < now + plan.expireIn := by
    rw [charge_expiry halw]
    omega
  refine ⟨fun w window expiresAtMs hw hlt => ?_, fun w hno key row hrow hw => ?_,
    fun key row hrow => ?_⟩
  · rw [hwins] at hw
    split_ifs at hw with heq
    · cases hw
      subst heq
      refine ⟨?_, ?_, fun key row hrow hkey => ?_, now, le_rfl, ?_⟩
      · rw [rowsIn_charged halw, if_pos rfl, hwin, ← hres]
        rfl
      · rw [rowsIn_charged halw, if_pos rfl, hwin, ← hcom]
        rfl
      · rw [hlk] at hrow
        split_ifs at hrow
        · cases hrow
          exact .inr rfl
        · exact hexpiries key row hrow hkey
      · rw [charge_expiry halw, hwin, ← hbase.reset]
        rfl
    · -- the other windows have the rows that they had
      have hctd := h.counted w window expiresAtMs hw hlt
      refine ⟨?_, ?_, fun key row hrow hkey => ?_, hctd.expiry⟩
      · rw [rowsIn_charged halw, if_neg (Ne.symm heq)]
        exact hctd.reserved
      · rw [rowsIn_charged halw, if_neg (Ne.symm heq)]
        exact hctd.committed
      · rw [hlk] at hrow
        split_ifs at hrow with hself
        · rw [hself] at hkey
          exact absurd hkey.symm heq
        · exact hctd.rows key row hrow hkey
  · unfold Table.read at hno
    rw [hwins] at hno
    split_ifs at hno with heq
    · simp [Table.seen, hlive] at hno
    · rw [hlk] at hrow
      split_ifs at hrow with hself
      · rw [hself] at hw
        exact absurd hw.symm heq
      · exact h.hidden w hno key row hrow hw
  · rw [hlk] at hrow
    split_ifs at hrow with hself
    · cases hrow
      rw [hself]
      exact ⟨halw.requestId, halw.keyId⟩
    · exact h.keyed key row hrow

theorem Ledger.other (h : Ledger now s) (hwins : s'.windows = s.windows)
    (hreqs : s'.requests = s.requests) : Ledger now s' := by
  obtain ⟨windows, requests, _, _, _⟩ := s
  obtain ⟨windows', requests', _, _, _⟩ := s'
  obtain rfl : windows' = windows := hwins
  obtain rfl : requests' = requests := hreqs
  refine ⟨fun w window expiresAtMs hw hlive => ?_, h.hidden, h.keyed⟩
  have hctd := h.counted w window expiresAtMs hw hlive
  exact ⟨hctd.reserved, hctd.committed, hctd.rows, hctd.expiry⟩

theorem Ledger.charges {charges : List Charge} (h : Ledger now s)
    (hchd : Charged now s charges s') : Ledger now s' := by
  induction hchd with
  | refl => exact h
  | charge _ _ _ halw ih => exact ih.charged halw
  | other _ hwins hreqs ih => exact ih.other hwins hreqs

end Invariant

/-! ### The commands -/

section Commands

/-- A body that changes the ledger by releases only. -/
def Releases (now : ℤ) (s s' : SqlState) : Prop :=
  ∃ charges, Charged now s charges s' ∧ ∀ charge ∈ charges, charge.kind = .release

theorem Releases.refl (now : ℤ) (s : SqlState) : Releases now s s :=
  ⟨[], .refl, nofun⟩

theorem Releases.trans (h : Releases now s₀ s₁) (h' : Releases now s₁ s₂) : Releases now s₀ s₂ := by
  obtain ⟨charges, hchd, hkind⟩ := h
  obtain ⟨charges', hchd', hkind'⟩ := h'
  refine ⟨charges' ++ charges, hchd.trans hchd', fun charge hmem => ?_⟩
  exact (List.mem_append.mp hmem).elim (hkind' charge) (hkind charge)

structure SameRequests (s s' : SqlState) : Prop where
  lifetimes : s'.lifetimes = s.lifetimes
  opened : s'.opened = s.opened

theorem SameRequests.refl (s : SqlState) : SameRequests s s := ⟨rfl, rfl⟩

theorem SameRequests.trans (h : SameRequests s₀ s₁) (h' : SameRequests s₁ s₂) :
    SameRequests s₀ s₂ :=
  ⟨h'.lifetimes.trans h.lifetimes, h'.opened.trans h.opened⟩

theorem request_bind {f : NativeRequest → SqlM β} (h : ∀ row, s.lifetimes.lookup handle = some row →
    row.keyId = cap.keyId → Returns (f row) s Q) : Returns (request cap handle >>= f) s Q := by
  refine Returns.bind (Returns.get_bind ?_)
  split
  · exact Returns.throw
  · next row hrow =>
    split_ifs with hforeign
    · exact Returns.throw
    · rw [not_or, not_or, not_not, not_not] at hforeign
      exact Returns.pure (h row hrow hforeign.2.1)

theorem snapshotOf_bind {f : ApiKeyUsageSnapshot → SqlM β}
    (h : Returns (f (snapshotIn s policy requestId now)) s Q) :
    Returns (snapshotOf policy requestId now >>= f) s Q :=
  Returns.bind (Returns.get_bind (Returns.bind (Returns.get_bind (Returns.pure (Returns.pure h)))))

theorem writeUsage_returns :
    Returns (writeUsage policy plan now) s fun _ s' => s' = s.charged policy plan now := by
  unfold writeUsage
  split_ifs
  · exact Returns.throw
  · exact Returns.modify rfl

theorem writeUsage_bind {f : Unit → SqlM β} (h : Returns (f ()) (s.charged policy plan now) Q) :
    Returns (writeUsage policy plan now >>= f) s Q :=
  Returns.bind (Returns.mono writeUsage_returns fun _ _ heq => heq ▸ h)

theorem save_bind {f : Unit → SqlM β}
    (h : Returns (f ()) { s with lifetimes := s.lifetimes.insert row.handle row } Q) :
    Returns (save row >>= f) s Q :=
  Returns.bind (Returns.modify h)

theorem writeRelease_returns (halw : Charge.Allowed ⟨.release, policy, requestId⟩ now s plan) :
    Returns (writeUsage policy plan now) s fun _ s' => Releases now s s' ∧ SameRequests s s' ∧
      ∀ key, key ≠ requestKey policy requestId →
        s'.requests.read key now = s.requests.read key now := by
  refine Returns.mono writeUsage_returns ?_
  rintro _ _ rfl
  refine ⟨⟨[⟨.release, policy, requestId⟩], .charge _ plan .refl halw, by simp⟩, ⟨rfl, rfl⟩, ?_⟩
  intro key hkey
  unfold SqlState.charged
  rw [charge_key halw, Table.read_write]
  exact if_neg hkey

/-- The rows of a page that are still to come are as they were listed. -/
def Listed (now : ℤ) (s : SqlState) (page : List (ApiRequestKey × Stored ApiKeyUsageRequestV3)) :
    Prop :=
  ∀ entry ∈ page, s.requests.read entry.1 now = some entry.2.value

/-- A page of expired rows is released. -/
theorem reclaimPage_returns : ∀ {s : SqlState}, Ledger now s →
      Listed now s page → (∀ entry ∈ page, entry.1.window = windowKey policy) →
      (page.map Prod.fst).Nodup →
      Returns (reclaimPage policy now page) s fun _ s' => Releases now s s' ∧
        SameRequests s s' := by
  induction page with
  | nil => exact fun _ _ _ _ => Returns.pure ⟨Releases.refl now _, SameRequests.refl _⟩
  | cons entry page ih =>
    intro s hled hlst hparent hnd
    obtain ⟨key, stored⟩ := entry
    have hread := hlst (key, stored) List.mem_cons_self
    rw [List.map_cons, List.nodup_cons] at hnd
    have hrest : ∀ {s' : SqlState}, Releases now s s' → SameRequests s s' →
        Listed now s' page → Returns (reclaimPage policy now page) s' fun _ s'' =>
          Releases now s s'' ∧ SameRequests s s'' := by
      intro s' hrels hreqs hlst'
      have hled' : Ledger now s' := hled.charges hrels.choose_spec.1
      refine Returns.mono (ih hled' hlst'
        (fun entry hmem => hparent entry (List.mem_cons_of_mem _ hmem)) hnd.2) ?_
      rintro _ s'' ⟨hmore, heq⟩
      exact ⟨hrels.trans hmore, hreqs.trans heq⟩
    rw [reclaimPage]
    split
    · exact Returns.throw
    · next row hnrm =>
      obtain rfl : stored.value = row :=
        Option.some.inj (normalizeApiKeyUsageRequestV3_eq_some hnrm)
      have hsame : Listed now s page := fun entry hmem =>
        hlst entry (List.mem_cons_of_mem _ hmem)
      -- the row is stored under the key that its release is written to
      have hkey : requestKey policy stored.value.requestId = key := by
        obtain ⟨expiresAtMs, hlk, -⟩ := Table.read_eq_some.mp hread
        have hkyd := (hled.keyed key _ hlk).1
        have hwin := hparent (key, stored) List.mem_cons_self
        obtain ⟨window, requestId⟩ := key
        obtain rfl : window = windowKey policy := hwin
        obtain rfl : stored.value.requestId = requestId := hkyd
        rfl
      refine Returns.bind ?_
      unfold releaseExpired
      split_ifs
      · refine Returns.bind (Returns.get_bind (Returns.pure ?_))
        split
        · next plan hplan =>
          rw [← hkey] at hread
          refine Returns.mono (writeRelease_returns
            (planApiKeyUsageReservedRelease_allowed hread hplan)) ?_
          rintro _ s' ⟨hrels, hreqs, hoths⟩
          refine hrest hrels hreqs fun entry hmem => ?_
          rw [hoths entry.1 ?_]
          · exact hsame entry hmem
          · rw [hkey]
            rintro rfl
            exact hnd.1 (List.mem_map.mpr ⟨entry, hmem, rfl⟩)
        · exact Returns.pure (hrest (Releases.refl now s) (SameRequests.refl s) hsame)
      · exact Returns.pure (hrest (Releases.refl now s) (SameRequests.refl s) hsame)

theorem reclaimPages_returns (fuel : ℕ) :
    ∀ {s : SqlState} {after : Option ApiRequestKey}, Ledger now s →
      Returns (reclaimPages policy now fuel after) s fun _ s' => Releases now s s' ∧
        SameRequests s s' := by
  induction fuel with
  | zero => exact fun _ => Returns.throw
  | succ _ ih =>
    intro s after hled
    refine Returns.get_bind (Returns.bind ?_)
    refine Returns.mono (reclaimPage_returns hled (fun entry hmem => (Table.mem_page hmem).1)
      (fun entry hmem => of_decide_eq_true (Table.mem_page hmem).2) (Table.page_nodup _ _ _ _ _)) ?_
    rintro _ s' ⟨hrels, hreqs⟩
    split_ifs
    · exact Returns.pure ⟨hrels, hreqs⟩
    · refine Returns.mono (ih (hled.charges hrels.choose_spec.1)) ?_
      rintro _ s'' ⟨hmore, heq⟩
      exact ⟨hrels.trans hmore, hreqs.trans heq⟩

theorem reclaim_returns (hled : Ledger now s) :
    Returns (reclaim policy now) s fun _ s' => Releases now s s' ∧ SameRequests s s' :=
  Returns.get_bind (reclaimPages_returns _ hled)

/-- One listed row is released. -/
theorem resetReservation_returns (hled : Ledger now s)
    (hread : s.requests.read key now = some value) :
    Returns (resetReservation keyId key value now) s fun _ s' => Releases now s s' ∧
      SameRequests s s' ∧
      ∀ key', key' ≠ key → s'.requests.read key' now = s.requests.read key' now := by
  have hnth : Releases now s s ∧ SameRequests s s ∧ ∀ key', key' ≠ key →
      s.requests.read key' now = s.requests.read key' now :=
    ⟨Releases.refl now s, SameRequests.refl s, fun _ _ => rfl⟩
  unfold resetReservation
  split
  · exact Returns.throw
  · next row hnrm =>
    obtain rfl : value = row := Option.some.inj (normalizeApiKeyUsageRequestV3_eq_some hnrm)
    split
    · exact Returns.throw
    split
    · exact Returns.pure hnth
    · refine Returns.get_bind ?_
      split
      · next lifetime howners =>
        split
        · exact Returns.throw
        · next policy hpol =>
          split_ifs
          · exact Returns.throw
          · exact Returns.pure hnth
          · refine Returns.bind (Returns.get_bind (Returns.pure ?_))
            split
            · next plan hplan =>
              -- the only owner of the row has the policy that the row was stored under
              have hkey : requestKey policy value.requestId = key := by
                have hmem : lifetime ∈ ownersOf s.lifetimes key := by rw [howners]; simp
                have hownr := (List.mem_filter.mp hmem).2
                rw [hpol, Option.any_some, decide_eq_true_eq] at hownr
                obtain ⟨expiresAtMs, hlk, -⟩ := Table.read_eq_some.mp hread
                have hkyd := (hled.keyed key _ hlk).1
                rw [show value.requestId = key.requestId from hkyd, ← hownr]
                rfl
              rw [← hkey] at hread
              refine Returns.bind (Returns.mono (writeRelease_returns
                (planApiKeyUsageReservedRelease_allowed hread hplan)) ?_)
              rintro _ s' ⟨hrels, hreqs, hoths⟩
              rw [hkey] at hoths
              exact Returns.pure ⟨hrels, hreqs, hoths⟩
            · exact Returns.throw
      · exact Returns.throw

theorem inspectPage_returns :
    ∀ {s : SqlState} {live : Bool}, Ledger now s → Listed now s page → (page.map Prod.fst).Nodup →
      Returns (inspectPage keyId now page live) s fun _ s' => Releases now s s' ∧
        SameRequests s s' := by
  induction page with
  | nil => exact fun _ _ _ => Returns.pure ⟨Releases.refl now _, SameRequests.refl _⟩
  | cons entry page ih =>
    intro s live hled hlst hnd
    rw [List.map_cons, List.nodup_cons] at hnd
    refine Returns.bind (Returns.mono (resetReservation_returns hled
      (hlst entry List.mem_cons_self)) ?_)
    rintro _ s' ⟨hrels, hreqs, hoths⟩
    have hlst' : Listed now s' page := by
      intro other hmem
      rw [hoths other.1 ?_]
      · exact hlst other (List.mem_cons_of_mem _ hmem)
      · intro heq
        exact hnd.1 (heq ▸ List.mem_map_of_mem hmem)
    refine Returns.mono (ih (hled.charges hrels.choose_spec.1) hlst' hnd.2) ?_
    rintro _ s'' ⟨hmore, heq⟩
    exact ⟨hrels.trans hmore, hreqs.trans heq⟩

theorem inspectPages_returns (fuel : ℕ) :
    ∀ {s : SqlState} {after : Option ApiRequestKey} {live : Bool}, Ledger now s →
      Returns (inspectPages keyId now fuel after live) s fun _ s' => Releases now s s' ∧
        SameRequests s s' := by
  induction fuel with
  | zero => exact fun _ => Returns.throw
  | succ _ ih =>
    intro s after live hled
    refine Returns.get_bind (Returns.bind ?_)
    refine Returns.mono (inspectPage_returns hled (fun entry hmem => (Table.mem_page hmem).1)
      (Table.page_nodup _ _ _ _ _)) ?_
    rintro _ s' ⟨hrels, hreqs⟩
    split_ifs
    · exact Returns.pure ⟨hrels, hreqs⟩
    · refine Returns.mono (ih (hled.charges hrels.choose_spec.1)) ?_
      rintro _ s'' ⟨hmore, heq⟩
      exact ⟨hrels.trans hmore, hreqs.trans heq⟩

end Commands

end UbqGateway.ApiKey
