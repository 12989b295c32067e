import UbqGateway.Kernel.Steps

/-!
# What the kernel quota writes, it reads

The source states the format of its records twice: in the functions that make them and in the
validators through which every later operation reads them.  A `Writer` is one application of a
function that makes records.  `writers_closed` says for which inputs the two agree: exactly when
`Writer.Fits` holds, the validator of the key accepts what the writer makes and returns it
unchanged.  A store that is only ever written in this way holds no malformed record.

The inputs that do not fit are clocks, lengths and counts at the ends of the safe integers, a clock
that has gone back by more than a lease, and a release reason of white space only, which the
validator trims (`blank_reason_malformed`).
-/

namespace UbqGateway.Kernel

open Authority (isSafeInteger)

/-! ### Writers -/

def maxSafeInteger : ℤ := 2 ^ 53 - 1

/-- One application of a function that makes records, with everything it is applied to.  An
`existing` window and the `row` of a settlement are what the caller has read. -/
inductive Writer
  | makeKernelQuotaPolicy (identity : KernelQuotaIdentity) (current : KernelQuotaEffectivePolicy)
      (usageLimitRequests : ℤ) (options : KernelQuotaPolicySetOptions) (nowMs : ℤ)
  | newWindow (identity : KernelQuotaIdentity) (windowMs nowMs : ℤ)
  | reserve (identity : KernelQuotaIdentity) (effective : KernelQuotaEffectivePolicy)
      (existing : Option KernelQuotaWindowV2) (entry : Option KernelValue)
      (requestId route : String) (nowMs : ℤ)
  | settlement (row : KernelQuotaReservationRowV2) (existing : Option KernelQuotaWindowV2)
      (windowPresent : Bool) (terminalState : TerminalState) (reason : String) (nowMs : ℤ)
  | settledRow (row : KernelQuotaReservationRowV2) (terminalState : TerminalState)
      (reason : String) (nowMs : ℤ)
  | policyWrite (identity : KernelQuotaIdentity) (policy : KernelQuotaPolicyV2)
      (existing : Option KernelQuotaWindowV2) (reset : Bool) (nowMs : ℤ)
  | policyDeleteWindow (identity : KernelQuotaIdentity) (current : KernelQuotaEffectivePolicy)
      (defaults : KernelQuotaDefaults) (existing : Option KernelQuotaWindowV2) (nowMs : ℤ)
  | terminalIntent (request : KernelQuotaReservationIdentity) (snapshot : Option KernelValue)
      (terminalState : TerminalState) (nowMs : ℤ)
  | renewal (request : KernelQuotaReservationIdentity) (snapshot : Option KernelValue) (nowMs : ℤ)

def KernelQuotaReservationRowV2.key (row : KernelQuotaReservationRowV2) : KvKey :=
  .reservation row.identity row.windowCreatedAtMs row.requestId

namespace Writer

/-- The records that the writer makes, under their keys. -/
def outputs : Writer → List (KvKey × KernelValue)
  | .makeKernelQuotaPolicy identity current usageLimitRequests options nowMs =>
    let timing := resolveKernelPolicyTiming options current
    [(.policy identity, .policy (Kernel.makeKernelQuotaPolicy identity current usageLimitRequests
      timing.1 timing.2 nowMs))]
  | .newWindow identity windowMs nowMs =>
    [(.window identity, .window (Kernel.newWindow identity windowMs nowMs))]
  | .reserve identity effective existing entry requestId route nowMs =>
    match decideKernelQuotaReserve identity effective
        (windowForEffectivePolicy existing identity effective.windowMs nowMs).window entry requestId
        route nowMs with
    | .reserve row window => [(.window identity, .window window), (row.key, .reservation row)]
    | _ => []
  | .settlement row existing windowPresent terminalState reason nowMs =>
    match decideKernelQuotaSettlement row existing windowPresent terminalState reason nowMs with
    | .settle settled window =>
      (settled.key, .reservation settled) ::
        window.toList.map fun window => (.window row.identity, .window window)
    | .unchanged _ => []
  | .settledRow row terminalState reason nowMs =>
    [(row.key, .reservation (settledKernelReservationRow row terminalState reason nowMs))]
  | .policyWrite identity policy existing reset nowMs =>
    [(.window identity,
      .window (decideKernelQuotaPolicyWrite identity policy existing reset nowMs).window)]
  | .policyDeleteWindow identity current defaults existing nowMs =>
    [(.window identity, .window
      (decideKernelQuotaPolicyDeleteWindow identity current defaults existing nowMs).window)]
  | .terminalIntent request snapshot terminalState nowMs =>
    match decideKernelQuotaTerminalIntent request snapshot terminalState nowMs with
    | .intent row _ => [(row.key, .reservation row)]
    | .unchanged _ => []
  | .renewal request snapshot nowMs =>
    match decideKernelQuotaRenewal request snapshot nowMs with
    | .ok (row, _) => [(row.key, .reservation row)]
    | .error _ => []

/-- The clock that the writer uses. -/
def nowMs : Writer → ℤ
  | .makeKernelQuotaPolicy _ _ _ _ nowMs | .newWindow _ _ nowMs | .reserve _ _ _ _ _ _ nowMs
  | .settlement _ _ _ _ _ nowMs | .settledRow _ _ _ nowMs | .policyWrite _ _ _ _ nowMs
  | .policyDeleteWindow _ _ _ _ nowMs | .terminalIntent _ _ _ nowMs | .renewal _ _ nowMs => nowMs

end Writer

/-! ### What the callers admit -/

/-- The policies in force: what `policyFor` answers for some entries of the store. -/
def PolicyInForce (identity : KernelQuotaIdentity) (current : KernelQuotaEffectivePolicy) : Prop :=
  ∃ entry limit window, policyFor entry identity (loadDefaults limit window) = .ok current

/-- A row that the callers settle: a valid one that nothing speaks against settling. -/
def Settling (row : KernelQuotaReservationRowV2) (terminalState : TerminalState) : Prop :=
  validReservation row row.identity = true ∧ row.state = .reserved ∧
    (row.terminalIntent = none ∨ row.terminalIntent = some terminalState)

namespace Writer

/-- The inputs that the callers admit beside the clock: what is read has passed its validator, a
length has passed `normalizeWindow`, and a reservation names its request and its route. -/
def Inputs : Writer → Prop
  | .makeKernelQuotaPolicy identity current _ _ _ => PolicyInForce identity current
  | .newWindow _ windowMs _ => 0 < windowMs
  | .reserve identity effective existing _ requestId route _ =>
    PolicyInForce identity effective ∧ (∀ window ∈ existing, validWindow window identity = true) ∧
      requestId ≠ "" ∧ route ≠ ""
  | .settlement row existing _ terminalState _ _ =>
    Settling row terminalState ∧ ∀ window ∈ existing, validWindow window row.identity = true
  | .settledRow row terminalState _ _ => Settling row terminalState
  | .policyWrite identity policy existing _ _ =>
    0 < policy.windowMs ∧ ∀ window ∈ existing, validWindow window identity = true
  | .policyDeleteWindow identity _ defaults existing _ =>
    (∃ limit window, defaults = loadDefaults limit window) ∧
      ∀ window ∈ existing, validWindow window identity = true
  | .terminalIntent _ _ _ _ => True
  | .renewal _ _ _ => True

/-- The inputs that the callers admit. -/
def Admitted (writer : Writer) : Prop := writer.Inputs ∧ isSafeInteger writer.nowMs = true

end Writer

/-- The value is accepted by the validator of its key and returned unchanged; a reservation is
accepted by the listing of its window. -/
def Accepted : KvKey → KernelValue → Prop
  | .policy identity, value => ∃ policy, value = .policy policy ∧
      normalizeKernelQuotaPolicyV2 (some value) identity = some policy
  | .window identity, value => ∃ window, value = .window window ∧
      normalizeKernelQuotaWindowV2 (some value) identity = some window
  | .reservation identity windowCreatedAtMs requestId, value =>
    ∃ row, value = .reservation row ∧
      normalizeKernelQuotaReservationRowV2 (some value) identity = some row ∧
      requireKernelReservationRow (.reservation identity windowCreatedAtMs requestId) value identity
        windowCreatedAtMs = .ok row
  | _, _ => True

/-- Everything that the writer makes is accepted. -/
def Writer.Closed (writer : Writer) : Prop := ∀ e ∈ writer.outputs, Accepted e.1 e.2

/-! ### When writers and validators agree -/

/-- The reason is empty, or not all of what is kept of it is white space. -/
def KeptReason (reason : String) : Prop := reason = "" ∨ isBlank (sliceUnits reason 120) = false

/-- A policy of this length finds no window that it keeps. -/
def Replaced (existing : Option KernelQuotaWindowV2) (windowMs nowMs : ℤ) : Prop :=
  ∀ window ∈ existing, window.appliedWindowMs ≠ windowMs ∨ window.usageResetAtMs ≤ nowMs

/-- The new lease of the row ends at a safe integer, and after the row was reserved. -/
def LeaseFits (row : KernelQuotaReservationRowV2) (nowMs : ℤ) : Prop :=
  row.reservedAtMs < nowMs + reservationLeaseMs ∧ nowMs + reservationLeaseMs ≤ maxSafeInteger

def WindowOf (row : KernelQuotaReservationRowV2) (window : KernelQuotaWindowV2) : Prop :=
  window.createdAtMs = row.windowCreatedAtMs

/-- The condition under which the validators accept what the writer makes. -/
def Writer.Fits : Writer → Prop
  | .makeKernelQuotaPolicy _ current usageLimitRequests options nowMs =>
    0 ≤ nowMs ∧ (resolveKernelPolicyTiming options current).1 ≤ maxSafeInteger ∧
      normalizeUsageLimit (some usageLimitRequests) current.limit ≤ maxSafeInteger
  | .newWindow _ windowMs nowMs => 0 ≤ nowMs ∧ nowMs + windowMs ≤ maxSafeInteger
  | .reserve identity effective existing entry _ _ nowMs =>
    let window := (windowForEffectivePolicy existing identity effective.windowMs nowMs).window
    entry = none → (effective.limit = noUsageLimit ∨
        window.usageRequests + window.reservedRequests < effective.limit) →
      0 ≤ nowMs ∧ nowMs + reservationLeaseMs ≤ maxSafeInteger ∧
        window.reservedRequests < maxSafeInteger ∧ window.usageResetAtMs ≤ maxSafeInteger ∧
        window.createdAtMs < window.usageResetAtMs
  | .settlement row existing windowPresent terminalState reason nowMs =>
    (existing = none → windowPresent = false) →
      (∀ window ∈ existing, WindowOf row window → 1 ≤ window.reservedRequests) →
      0 ≤ nowMs ∧ (terminalState = .released → KeptReason reason) ∧
        (terminalState = .committed → ∀ window ∈ existing, WindowOf row window →
          window.usageRequests < maxSafeInteger)
  | .settledRow _ terminalState reason nowMs =>
    0 ≤ nowMs ∧ (terminalState = .released → KeptReason reason)
  | .policyWrite _ policy existing reset nowMs =>
    0 ≤ nowMs ∧ (reset = true ∨ Replaced existing policy.windowMs nowMs →
      nowMs + policy.windowMs ≤ maxSafeInteger)
  | .policyDeleteWindow _ current defaults existing nowMs =>
    current.windowMs ≠ defaults.windowMs ∨ Replaced existing defaults.windowMs nowMs →
      0 ≤ nowMs ∧ nowMs + defaults.windowMs ≤ maxSafeInteger
  | .terminalIntent request snapshot terminalState nowMs =>
    ∀ row, normalizeKernelQuotaReservationRowV2 snapshot request.identity = some row →
      kernelReservationPrecondition row request.requestId request.route request.windowCreatedAtMs
        terminalState = none → LeaseFits row nowMs
  | .renewal request snapshot nowMs =>
    ∀ row, normalizeKernelQuotaReservationRowV2 snapshot request.identity = some row →
      kernelReservationMatchesRequest (some row) request.requestId request.route
        request.windowCreatedAtMs = true → row.state = .reserved → LeaseFits row nowMs

/-! ### The validators as bounds -/

theorem nonNegativeSafeInteger_iff :
    nonNegativeSafeInteger value = true ↔ 0 ≤ value ∧ value ≤ maxSafeInteger := by
  simp only [nonNegativeSafeInteger, isSafeInteger, maxSafeInteger, Bool.and_eq_true,
    decide_eq_true_eq]
  omega

theorem positiveSafeInteger_iff :
    positiveSafeInteger value = true ↔ 0 < value ∧ value ≤ maxSafeInteger := by
  simp only [positiveSafeInteger, isSafeInteger, maxSafeInteger, Bool.and_eq_true,
    decide_eq_true_eq]
  omega

theorem le_maxSafeInteger (h : isSafeInteger value = true) : value ≤ maxSafeInteger := by
  simp only [isSafeInteger, decide_eq_true_eq] at h
  exact h.2

theorem validWindow_iff : validWindow window identity = true ↔ window.identity = identity ∧
      (0 ≤ window.usageRequests ∧ window.usageRequests ≤ maxSafeInteger) ∧
      (0 ≤ window.reservedRequests ∧ window.reservedRequests ≤ maxSafeInteger) ∧
      (0 < window.usageResetAtMs ∧ window.usageResetAtMs ≤ maxSafeInteger) ∧
      (0 < window.appliedWindowMs ∧ window.appliedWindowMs ≤ maxSafeInteger) ∧
      (0 ≤ window.createdAtMs ∧ window.createdAtMs ≤ maxSafeInteger) ∧
      0 ≤ window.updatedAtMs ∧ window.updatedAtMs ≤ maxSafeInteger := by
  simp only [validWindow, Bool.and_eq_true, decide_eq_true_eq, nonNegativeSafeInteger_iff,
    positiveSafeInteger_iff, and_assoc]

theorem validReservation_iff :
    validReservation row identity = true ↔ row.identity = identity ∧ row.requestId ≠ "" ∧
      row.route ≠ "" ∧ (0 ≤ row.windowCreatedAtMs ∧ row.windowCreatedAtMs ≤ maxSafeInteger) ∧
      (0 < row.windowResetAtMs ∧ row.windowResetAtMs ≤ maxSafeInteger) ∧
      (0 ≤ row.reservedAtMs ∧ row.reservedAtMs ≤ maxSafeInteger) ∧
      (0 < row.leaseExpiresAtMs ∧ row.leaseExpiresAtMs ≤ maxSafeInteger) ∧
      (row.committedAtMs.all nonNegativeSafeInteger = true ∧
        row.releasedAtMs.all nonNegativeSafeInteger = true) ∧
      row.windowCreatedAtMs < row.windowResetAtMs ∧ row.reservedAtMs < row.leaseExpiresAtMs ∧
      validReservationState row = true := by
  simp only [validReservation, Bool.and_eq_true, decide_eq_true_eq, nonNegativeSafeInteger_iff,
    positiveSafeInteger_iff, and_assoc]

theorem accepted_window_iff :
    Accepted (.window identity) (.window window) ↔ validWindow window identity = true := by
  simp [Accepted, normalizeKernelQuotaWindowV2]

theorem accepted_reservation_iff :
    Accepted row.key (.reservation row) ↔ validReservation row row.identity = true := by
  simp only [Accepted, KernelQuotaReservationRowV2.key, normalizeKernelQuotaReservationRowV2,
    requireKernelReservationRow]
  by_cases hvld : validReservation row row.identity = true <;> simp [hvld]

theorem accepted_policy_iff :
    Accepted (.policy identity) (.policy policy) ↔ policy.identity = identity ∧
      (0 ≤ policy.createdAtMs ∧ policy.createdAtMs ≤ maxSafeInteger) ∧
      (0 ≤ policy.updatedAtMs ∧ policy.updatedAtMs ≤ maxSafeInteger) ∧
      (0 < policy.windowMs ∧ policy.windowMs ≤ maxSafeInteger) ∧
      (policy.usageLimitRequests = noUsageLimit ∨
        0 ≤ policy.usageLimitRequests ∧ policy.usageLimitRequests ≤ maxSafeInteger) ∧
      (policy.expiresAtMs = noExpirationMs ∨ 0 ≤ policy.expiresAtMs) := by
  rw [← nonNegativeSafeInteger_iff, ← nonNegativeSafeInteger_iff, ← nonNegativeSafeInteger_iff,
    ← positiveSafeInteger_iff]
  constructor
  · rintro ⟨_, hval, h⟩
    cases hval
    simp only [normalizeKernelQuotaPolicyV2] at h
    split_ifs at h with hids
    split at h
    · cases h
    · next limit _ =>
      split_ifs at h with hbds
      obtain ⟨hwin, hrg⟩ := hbds
      -- the fields that the validator recomputes have kept their values
      have heq := Option.some.inj h
      have hlmt' : limit = policy.usageLimitRequests :=
        congrArg KernelQuotaPolicyV2.usageLimitRequests heq
      have hwin' : normalizeWindow (some policy.windowMs) 0 = policy.windowMs :=
        congrArg KernelQuotaPolicyV2.windowMs heq
      have hexp : normalizeExpiration (some policy.expiresAtMs) = policy.expiresAtMs :=
        congrArg KernelQuotaPolicyV2.expiresAtMs heq
      rw [hlmt'] at hrg
      rw [hwin'] at hwin
      refine ⟨hids.1, hids.2.1, hids.2.2, hwin, hrg, ?_⟩
      simp only [normalizeExpiration] at hexp
      split_ifs at hexp with hok
      · exact hok
      · exact .inl hexp.symm
  · rintro ⟨hidt, hcr, hupdated, hwin, hlmt, hexp⟩
    have hlmt' : usageLimit? (some policy.usageLimitRequests)
        = some policy.usageLimitRequests := by
      refine if_pos (hlmt.imp id fun h => ?_)
      exact (nonNegativeSafeInteger_iff.mp h).1
    have hwin' : normalizeWindow (some policy.windowMs) 0 = policy.windowMs :=
      if_pos (positiveSafeInteger_iff.mp hwin).1
    have hexp' : normalizeExpiration (some policy.expiresAtMs) = policy.expiresAtMs :=
      if_pos hexp
    refine ⟨policy, rfl, ?_⟩
    simp only [normalizeKernelQuotaPolicyV2, hlmt', hwin', hexp']
    rw [if_pos ⟨hidt, hcr, hupdated⟩, if_pos ⟨hwin, hlmt⟩]

/-! ### The policies in force -/

theorem normalizeExpiration_cases (value : Option ℤ) :
    normalizeExpiration value = noExpirationMs ∨ 0 ≤ normalizeExpiration value := by
  unfold normalizeExpiration
  split
  · exact .inl rfl
  · split_ifs with hok
    · exact hok
    · exact .inl rfl

theorem accepted_of_normalizeKernelQuotaPolicyV2
    (h : normalizeKernelQuotaPolicyV2 value identity = some policy) :
    Accepted (.policy identity) (.policy policy) := by
  unfold normalizeKernelQuotaPolicyV2 at h
  split at h
  · split_ifs at h with hids
    split at h
    · cases h
    · next limit _ =>
      dsimp only at h
      split_ifs at h with hbds
      cases h
      rw [accepted_policy_iff, ← nonNegativeSafeInteger_iff, ← nonNegativeSafeInteger_iff,
        ← nonNegativeSafeInteger_iff, ← positiveSafeInteger_iff]
      exact ⟨hids.1, hids.2.1, hids.2.2, hbds.1, hbds.2, normalizeExpiration_cases (some _)⟩
  · cases h

theorem loadDefaults_windowMs_pos (limit window : Option KernelValue) :
    0 < (loadDefaults limit window).windowMs := by
  simp only [loadDefaults, normalizeWindow]
  split
  · decide
  · split_ifs with hpos
    · exact hpos
    · decide

theorem loadDefaults_limit_cases (limit window : Option KernelValue) :
    (loadDefaults limit window).limit = noUsageLimit ∨ 0 ≤ (loadDefaults limit window).limit :=
  normalizeUsageLimit_cases _ (.inl rfl)

/-- What can be in force: a length that is positive, a limit and an expiry that their validators
accept, and, if it is a stored policy, the time of its creation. -/
theorem PolicyInForce.bounds (h : PolicyInForce identity current) :
    0 < current.windowMs ∧ (current.limit = noUsageLimit ∨ 0 ≤ current.limit) ∧
      (current.expiresAtMs = noExpirationMs ∨ 0 ≤ current.expiresAtMs) ∧
      ∀ policy ∈ current.policy, 0 ≤ policy.createdAtMs ∧ policy.createdAtMs ≤ maxSafeInteger := by
  obtain ⟨entry, limit, window, hpol⟩ := h
  cases entry with
  | none =>
    cases hpol
    exact ⟨loadDefaults_windowMs_pos limit window, loadDefaults_limit_cases limit window,
      .inl rfl, nofun⟩
  | some value =>
    simp only [policyFor] at hpol
    split at hpol
    · cases hpol
    · next stored hst =>
      cases hpol
      obtain ⟨-, hcr, -, hwin, hlmt, hexp⟩ :=
        accepted_policy_iff.mp (accepted_of_normalizeKernelQuotaPolicyV2 hst)
      refine ⟨hwin.1, hlmt.imp id And.left, hexp, ?_⟩
      rintro _ ⟨⟩
      exact hcr

theorem PolicyInForce.timing_bounds (h : PolicyInForce identity current)
    (options : KernelQuotaPolicySetOptions) : 0 < (resolveKernelPolicyTiming options current).1 ∧
      ((resolveKernelPolicyTiming options current).2 = noExpirationMs ∨
        0 ≤ (resolveKernelPolicyTiming options current).2) := by
  obtain ⟨hwin, -, hexp, -⟩ := h.bounds
  unfold resolveKernelPolicyTiming
  constructor
  · cases options.windowMs with
    | none => exact hwin
    | some windowMs =>
      simp only [normalizeWindow]
      split_ifs with hpos
      · exact hpos
      · exact hwin
  · cases options.expiresAtMs with
    | none => exact hexp
    | some expiresAtMs => exact normalizeExpiration_cases (some expiresAtMs)

/-! ### The windows -/

section Windows

theorem validWindow_newWindow_iff (hlen : 0 < windowMs) :
    validWindow (newWindow identity windowMs nowMs) identity = true ↔
      0 ≤ nowMs ∧ nowMs + windowMs ≤ maxSafeInteger := by
  have hmax : 0 ≤ maxSafeInteger := by decide
  rw [validWindow_iff]
  simp only [newWindow, true_and]
  omega

theorem windowForEffectivePolicy_replaced (existing : Option KernelQuotaWindowV2)
    (identity : KernelQuotaIdentity) (windowMs nowMs : ℤ) : (Replaced existing windowMs nowMs ∧
      windowForEffectivePolicy existing identity windowMs nowMs
        = ⟨newWindow identity windowMs nowMs, true⟩) ∨
    (¬ Replaced existing windowMs nowMs ∧ ∃ window ∈ existing,
      windowForEffectivePolicy existing identity windowMs nowMs = ⟨window, false⟩) := by
  cases existing with
  | none => exact .inl ⟨nofun, rfl⟩
  | some window =>
    by_cases hold : window.appliedWindowMs ≠ windowMs ∨ window.usageResetAtMs ≤ nowMs
    · refine .inl ⟨?_, if_pos hold⟩
      rintro _ ⟨⟩
      exact hold
    · exact .inr ⟨fun h => hold (h window rfl), window, rfl, if_neg hold⟩

theorem validWindow_settledWindow_iff (terminalState : TerminalState)
    (hvld : validWindow window identity = true) (hres : 1 ≤ window.reservedRequests)
    (hsafe : isSafeInteger nowMs = true) :
    validWindow (settledWindow window terminalState nowMs) identity = true ↔
      0 ≤ nowMs ∧ (terminalState = .committed → window.usageRequests < maxSafeInteger) := by
  have hmax := le_maxSafeInteger hsafe
  rw [validWindow_iff] at hvld ⊢
  obtain ⟨hidt, husg, hcnt, hrst, happ, hcr, _⟩ := hvld
  simp only [settledWindow, hidt, hrst, happ, hcr, hmax, true_and, and_true]
  cases terminalState <;> simp <;> omega

theorem validReservation_reserved_iff (hid : requestId ≠ "") (hrt : route ≠ "")
    (hnow : 0 ≤ nowMs) (hmax : nowMs ≤ maxSafeInteger) (hidt : window.identity = identity)
    (husg : 0 ≤ window.usageRequests ∧ window.usageRequests ≤ maxSafeInteger)
    (hres : 0 ≤ window.reservedRequests) (hrst : 0 < window.usageResetAtMs)
    (happ : 0 < window.appliedWindowMs ∧
      (window.usageResetAtMs ≤ maxSafeInteger → window.appliedWindowMs ≤ maxSafeInteger))
    (hcr : 0 ≤ window.createdAtMs ∧ window.createdAtMs ≤ maxSafeInteger) :
    validWindow { window with
        reservedRequests := window.reservedRequests + 1, updatedAtMs := nowMs } identity = true ∧
      validReservation (reservedRow identity window requestId route nowMs) identity = true ↔
      nowMs + reservationLeaseMs ≤ maxSafeInteger ∧ window.reservedRequests < maxSafeInteger ∧
        window.usageResetAtMs ≤ maxSafeInteger ∧ window.createdAtMs < window.usageResetAtMs := by
  have hls : 0 < reservationLeaseMs := by decide
  rw [validWindow_iff, validReservation_iff]
  simp only [reservedRow, validReservationState, Option.all_none, Option.isNone_none, hidt]
  simp only [ne_eq, hid, hrt, not_false_iff, true_and, Bool.and_self, and_true, hnow, hmax]
  omega

end Windows

/-! ### The rows -/

@[simp]
theorem settledKernelReservationRow_key (row : KernelQuotaReservationRowV2)
    (terminalState : TerminalState) (reason : String) (nowMs : ℤ) :
    (settledKernelReservationRow row terminalState reason nowMs).key = row.key := by
  cases terminalState <;> rfl

@[simp]
theorem settledKernelReservationRow_identity (row : KernelQuotaReservationRowV2)
    (terminalState : TerminalState) (reason : String) (nowMs : ℤ) :
    (settledKernelReservationRow row terminalState reason nowMs).identity = row.identity := by
  cases terminalState <;> rfl

theorem sliceUnits_eq_empty_iff : sliceUnits text (n + 1) = "" ↔ text = "" := by
  unfold sliceUnits
  rw [String.ofList_eq_empty_iff, ← String.toList_eq_nil_iff]
  cases text.toList with
  | nil => simp [sliceUnits.go]
  | cons c cs =>
    rw [sliceUnits.go]
    split_ifs <;> simp

theorem isBlank_releaseReason_iff :
    isBlank (if sliceUnits reason 120 = "" then "request_incomplete" else sliceUnits reason 120)
      = false ↔ KeptReason reason := by
  unfold KeptReason
  split_ifs with hemp
  · exact iff_of_true (by decide) (.inl (sliceUnits_eq_empty_iff.mp hemp))
  · exact (or_iff_right fun h => hemp (sliceUnits_eq_empty_iff.mpr h)).symm

variable {nowMs : ℤ}

theorem validReservation_settled_iff (reason : String)
    (hrow : Settling row terminalState) (hsafe : isSafeInteger nowMs = true) :
    validReservation (settledKernelReservationRow row terminalState reason nowMs) row.identity
      = true ↔ 0 ≤ nowMs ∧ (terminalState = .released → KeptReason reason) := by
  obtain ⟨hvld, hsta, -⟩ := hrow
  have hmax := le_maxSafeInteger hsafe
  rw [validReservation_iff] at hvld ⊢
  simp only [validReservationState, hsta, Bool.and_eq_true, Option.isNone_iff_eq_none] at hvld
  obtain ⟨_, hid, hrt, hcr, hrst, hres, hls, -, hord, hlive, hfds⟩ :=
    hvld
  cases terminalState with
  | committed =>
    simp only [settledKernelReservationRow, validReservationState, Option.all_some,
      nonNegativeSafeInteger_iff, hfds.1.2, hfds.2]
    simp [hid, hrt, hcr, hrst, hres, hls, hord, hlive, hmax]
  | released =>
    simp only [settledKernelReservationRow, validReservationState, Option.all_some,
      nonNegativeSafeInteger_iff, hfds.1.1, Option.any_some]
    simp [hid, hrt, hcr, hrst, hres, hls, hord, hlive, hmax,
      isBlank_releaseReason_iff]

theorem validReservation_of_normalized
    (h : normalizeKernelQuotaReservationRowV2 value identity = some row) :
    validReservation row row.identity = true := by
  obtain rfl := normalizeKernelQuotaReservationRowV2_eq_some h
  simp only [normalizeKernelQuotaReservationRowV2] at h
  split_ifs at h with hvld
  rwa [(validReservation_iff.mp hvld).1]

theorem validReservation_lease_iff (intent : Option TerminalState)
    (hvld : validReservation row row.identity = true) (hsta : row.state = .reserved) :
    validReservation { row with
      terminalIntent := intent, leaseExpiresAtMs := nowMs + reservationLeaseMs } row.identity = true
      ↔ LeaseFits row nowMs := by
  rw [validReservation_iff] at hvld ⊢
  simp only [validReservationState, hsta] at hvld ⊢
  obtain ⟨-, hid, hrt, hcr, hrst, hres, -, htms, hord, -, hfds⟩ := hvld
  constructor
  · rintro ⟨-, -, -, -, -, -, hls, -, -, hlive, -⟩
    exact ⟨hlive, hls.2⟩
  · rintro ⟨hlive, hls⟩
    exact ⟨trivial, hid, hrt, hcr, hrst, hres,
      ⟨hres.1.trans_lt hlive, hls⟩, htms, hord, hlive, hfds⟩

theorem decideKernelQuotaReserve_of_room
    (h : effective.limit = noUsageLimit ∨
      window.usageRequests + window.reservedRequests < effective.limit) :
    decideKernelQuotaReserve identity effective window none requestId route nowMs
      = .reserve (reservedRow identity window requestId route nowMs) { window with
        reservedRequests := window.reservedRequests + 1, updatedAtMs := nowMs } := by
  unfold decideKernelQuotaReserve
  rw [if_neg (by decide), if_neg]
  rintro ⟨hlmt, hle⟩
  exact h.elim hlmt fun hlt => absurd hle (not_le.mpr hlt)

/-! ### One writer -/

namespace Writer

variable {writer : Writer}

theorem closed_singleton {value : KernelValue} (h : writer.outputs = [(key, value)]) :
    writer.Closed ↔ Accepted key value := by
  simp [Closed, h]

theorem makeKernelQuotaPolicy_closed_iff (hcur : PolicyInForce identity current)
    (hsafe : isSafeInteger nowMs = true) :
    (makeKernelQuotaPolicy identity current usageLimitRequests options nowMs).Closed ↔
      (makeKernelQuotaPolicy identity current usageLimitRequests options nowMs).Fits := by
  have hmax := le_maxSafeInteger hsafe
  obtain ⟨-, hlmt, -, hcr⟩ := hcur.bounds
  obtain ⟨hwin, hexp⟩ := hcur.timing_bounds options
  have hlmt' := normalizeUsageLimit_cases (some usageLimitRequests) hlmt
  have houtputs : (makeKernelQuotaPolicy identity current usageLimitRequests options nowMs).outputs
      = [(.policy identity, .policy (Kernel.makeKernelQuotaPolicy identity current
          usageLimitRequests (resolveKernelPolicyTiming options current).1
          (resolveKernelPolicyTiming options current).2 nowMs))] := rfl
  rw [closed_singleton houtputs, accepted_policy_iff]
  simp only [Kernel.makeKernelQuotaPolicy, Fits, true_and, hwin, hexp, and_true, hmax]
  have hsentinel : noUsageLimit ≤ maxSafeInteger := by decide
  constructor
  · rintro ⟨-, hnow, hlen, hrg⟩
    exact ⟨hnow, hlen, hrg.elim (fun h => h ▸ hsentinel) And.right⟩
  · rintro ⟨hnow, hlen, hrg⟩
    refine ⟨?_, hnow, hlen, hlmt'.imp id fun h => ⟨h, hrg⟩⟩
    cases hpol : current.policy with
    | none => exact ⟨hnow, hmax⟩
    | some policy => exact hcr policy hpol

theorem newWindow_closed_iff {windowMs : ℤ} (hlen : 0 < windowMs) :
    (newWindow identity windowMs nowMs).Closed ↔ (newWindow identity windowMs nowMs).Fits := by
  rw [closed_singleton rfl, accepted_window_iff, validWindow_newWindow_iff hlen]
  rfl

theorem policyWrite_closed_iff {reset : Bool} (hlen : 0 < policy.windowMs)
    (hexi : ∀ window ∈ existing, validWindow window identity = true)
    (hsafe : isSafeInteger nowMs = true) :
    (policyWrite identity policy existing reset nowMs).Closed ↔
      (policyWrite identity policy existing reset nowMs).Fits := by
  have hmax := le_maxSafeInteger hsafe
  rw [closed_singleton rfl, accepted_window_iff, Fits]
  by_cases hrst : reset = true
  · rw [decideKernelQuotaPolicyWrite, if_pos hrst, validWindow_newWindow_iff hlen]
    simp [hrst]
  · rw [decideKernelQuotaPolicyWrite, if_neg hrst]
    rcases windowForEffectivePolicy_replaced existing identity policy.windowMs nowMs with
      ⟨hrepl, hnew⟩ | ⟨hkept, window, hwin, heq⟩
    · rw [hnew]
      simp only [hrepl, or_true, true_imp_iff]
      exact validWindow_newWindow_iff hlen
    · rw [heq]
      have hvld := validWindow_iff.mp (hexi window hwin)
      rw [validWindow_iff]
      simp [hrst, hkept, hvld, hmax]

theorem policyDeleteWindow_closed_iff {defaults : KernelQuotaDefaults}
    (hdef : 0 < defaults.windowMs)
    (hexi : ∀ window ∈ existing, validWindow window identity = true) :
    (policyDeleteWindow identity current defaults existing nowMs).Closed ↔
      (policyDeleteWindow identity current defaults existing nowMs).Fits := by
  rw [closed_singleton rfl, accepted_window_iff, Fits, decideKernelQuotaPolicyDeleteWindow]
  split_ifs with heq
  · rcases windowForEffectivePolicy_replaced existing identity defaults.windowMs nowMs with
      ⟨hrepl, hnew⟩ | ⟨hkept, window, hwin, hst⟩
    · rw [hnew]
      simp only [hrepl, or_true, true_imp_iff]
      exact validWindow_newWindow_iff hdef
    · rw [hst]
      simp [hexi window hwin, heq, hkept]
  · simp only [ne_eq, heq, not_false_iff, true_or, true_imp_iff]
    exact validWindow_newWindow_iff hdef

theorem settledRow_closed_iff (hrow : Settling row terminalState)
    (hsafe : isSafeInteger nowMs = true) : (settledRow row terminalState reason nowMs).Closed ↔
      (settledRow row terminalState reason nowMs).Fits := by
  rw [closed_singleton rfl, ← settledKernelReservationRow_key row terminalState reason nowMs,
    accepted_reservation_iff, settledKernelReservationRow_identity,
    validReservation_settled_iff reason hrow hsafe]
  rfl

theorem settlement_closed_iff (hrow : Settling row terminalState)
    (hexi : ∀ window ∈ existing, validWindow window row.identity = true)
    (hsafe : isSafeInteger nowMs = true) :
    (settlement row existing windowPresent terminalState reason nowMs).Closed ↔
      (settlement row existing windowPresent terminalState reason nowMs).Fits := by
  have hset := validReservation_settled_iff reason hrow hsafe
  have hacc : Accepted row.key (.reservation
      (settledKernelReservationRow row terminalState reason nowMs)) ↔
      0 ≤ nowMs ∧ (terminalState = .released → KeptReason reason) := by
    rw [← settledKernelReservationRow_key row terminalState reason nowMs, accepted_reservation_iff,
      settledKernelReservationRow_identity, hset]
  unfold Closed outputs Fits decideKernelQuotaSettlement
  cases existing with
  | none =>
    by_cases hprs : windowPresent = true
    · simp [hprs]
    · simp [hprs, hacc]
  | some window =>
    by_cases hcr : window.createdAtMs = row.windowCreatedAtMs
    · by_cases hres : window.reservedRequests < 1
      · simp [hcr, hres, WindowOf]
      · have hwin := validWindow_settledWindow_iff terminalState (hexi window rfl)
          (not_lt.mp hres) hsafe
        simp only [hcr, hres, ne_eq, not_true_eq_false, if_false,
          settledKernelReservationRow_key, Option.toList_some, List.map_cons, List.map_nil,
          List.forall_mem_cons, hacc, accepted_window_iff, hwin]
        simp [WindowOf, hcr, not_lt.mp hres]
        tauto
    · simp [hcr, WindowOf, hacc]

theorem reserve_closed_iff (heff : PolicyInForce identity effective)
    (hexi : ∀ window ∈ existing, validWindow window identity = true) (hid : requestId ≠ "")
    (hrt : route ≠ "") (hsafe : isSafeInteger nowMs = true) :
    (reserve identity effective existing entry requestId route nowMs).Closed ↔
      (reserve identity effective existing entry requestId route nowMs).Fits := by
  have hmax := le_maxSafeInteger hsafe
  obtain ⟨hlen, -⟩ := heff.bounds
  simp only [Closed, outputs, Fits]
  have hrsv := windowForEffectivePolicy_replaced existing identity effective.windowMs nowMs
  generalize windowForEffectivePolicy existing identity effective.windowMs nowMs = resolved
    at hrsv ⊢
  cases hplan : decideKernelQuotaReserve identity effective resolved.window entry requestId route
      nowMs with
  | reserve row window =>
    obtain ⟨hent, hroom, rfl, rfl⟩ := decideKernelQuotaReserve_eq_reserve hplan
    simp only [hent, hroom, true_imp_iff, List.forall_mem_cons, List.not_mem_nil, false_imp_iff,
      implies_true, and_true]
    rw [accepted_window_iff, accepted_reservation_iff]
    by_cases hnow : 0 ≤ nowMs
    · rw [and_iff_right hnow]
      rcases hrsv with ⟨-, rfl⟩ | ⟨-, window, hwin, rfl⟩
      · refine validReservation_reserved_iff hid hrt hnow hmax rfl ?_ ?_ ?_ ?_ ?_ <;>
          simp only [Kernel.newWindow] <;> omega
      · obtain ⟨hidt, husg, hres, hrst, happ, hcr, -⟩ :=
          validWindow_iff.mp (hexi window hwin)
        exact validReservation_reserved_iff hid hrt hnow hmax hidt husg hres.1
          hrst.1 ⟨happ.1, fun _ => happ.2⟩ hcr
    · -- the window carries the time at which it was written
      refine iff_of_false (fun h => hnow ?_) fun h => hnow h.1
      exact (validWindow_iff.mp h.1).2.2.2.2.2.2.1
  | full window limit =>
    refine iff_of_true (by simp) fun hent hroom => ?_
    subst hent
    rw [decideKernelQuotaReserve_of_room hroom] at hplan
    cases hplan
  | refused refusal =>
    refine iff_of_true (by simp) fun hent hroom => ?_
    subst hent
    rw [decideKernelQuotaReserve_of_room hroom] at hplan
    cases hplan

theorem terminalIntent_closed_iff : (terminalIntent request snapshot terminalState nowMs).Closed ↔
      (terminalIntent request snapshot terminalState nowMs).Fits := by
  unfold Closed outputs Fits decideKernelQuotaTerminalIntent
  cases hrow : normalizeKernelQuotaReservationRowV2 snapshot request.identity with
  | none => simp [hrow]
  | some row =>
    cases hpre : kernelReservationPrecondition row request.requestId request.route
        request.windowCreatedAtMs terminalState with
    | some outcome => simp [hrow, hpre]
    | none =>
      obtain ⟨-, hsta, -⟩ := kernelReservationPrecondition_eq_none.mp hpre
      have hvld := validReservation_of_normalized hrow
      simp only [hrow, hpre, List.forall_mem_cons, List.not_mem_nil, false_imp_iff, implies_true,
        and_true, Option.some.injEq, forall_eq', true_imp_iff]
      rw [accepted_reservation_iff, validReservation_lease_iff _ hvld hsta]

theorem renewal_closed_iff :
    (renewal request snapshot nowMs).Closed ↔ (renewal request snapshot nowMs).Fits := by
  unfold Closed outputs Fits decideKernelQuotaRenewal
  cases hrow : normalizeKernelQuotaReservationRowV2 snapshot request.identity with
  | none => simp [hrow]
  | some row =>
    have hvld := validReservation_of_normalized hrow
    simp only [hrow, Option.some.injEq, forall_eq']
    by_cases hmat : kernelReservationMatchesRequest (some row) request.requestId request.route
        request.windowCreatedAtMs = true
    · by_cases hsta : row.state = .reserved
      · simp only [hmat, if_true, if_neg (not_not.mpr hsta), true_imp_iff,
          List.forall_mem_cons, List.not_mem_nil, false_imp_iff, implies_true, and_true]
        rw [accepted_reservation_iff, imp_iff_right hsta]
        exact validReservation_lease_iff row.terminalIntent hvld hsta
      · simp [hmat, hsta]
    · simp [hmat]

/-- **A writer and its validator agree exactly on the inputs that fit.** -/
theorem closed_iff_fits (h : writer.Admitted) : writer.Closed ↔ writer.Fits := by
  obtain ⟨hins, hsafe⟩ := h
  cases writer with
  | makeKernelQuotaPolicy =>
    exact makeKernelQuotaPolicy_closed_iff hins hsafe
  | newWindow => exact newWindow_closed_iff hins
  | reserve =>
    obtain ⟨heff, hexi, hid, hrt⟩ := hins
    exact reserve_closed_iff heff hexi hid hrt hsafe
  | settlement =>
    exact settlement_closed_iff hins.1 hins.2 hsafe
  | settledRow => exact settledRow_closed_iff hins hsafe
  | policyWrite =>
    exact policyWrite_closed_iff hins.1 hins.2 hsafe
  | policyDeleteWindow =>
    obtain ⟨⟨limit, window, rfl⟩, hexi⟩ := hins
    exact policyDeleteWindow_closed_iff (loadDefaults_windowMs_pos limit window) hexi
  | terminalIntent => exact terminalIntent_closed_iff
  | renewal => exact renewal_closed_iff

end Writer

/-! ### Sequences of writers -/

namespace Writer

/-- The writer is applied to what the store holds. -/
def ReadsFrom (kv : KernelKv) : Writer → Prop
  | .makeKernelQuotaPolicy identity current _ _ _ => effectivePolicy kv identity = .ok current
  | .newWindow _ _ _ => True
  | .reserve identity effective existing _ _ _ _ =>
    effectivePolicy kv identity = .ok effective ∧
      existing = normalizeKernelQuotaWindowV2 (kv.value (.window identity)) identity
  | .settlement row existing windowPresent terminalState _ _ =>
    normalizeKernelQuotaReservationRowV2 (kv.value row.key) row.identity = some row ∧
      kernelReservationPrecondition row row.requestId row.route row.windowCreatedAtMs terminalState
        = none ∧
      existing = normalizeKernelQuotaWindowV2 (kv.value (.window row.identity)) row.identity ∧
      windowPresent = (kv.value (.window row.identity)).isSome
  | .settledRow row terminalState _ _ =>
    normalizeKernelQuotaReservationRowV2 (kv.value row.key) row.identity = some row ∧
      kernelReservationPrecondition row row.requestId row.route row.windowCreatedAtMs terminalState
        = none
  | .policyWrite identity _ existing _ _ =>
    existing = normalizeKernelQuotaWindowV2 (kv.value (.window identity)) identity
  | .policyDeleteWindow identity current defaults existing _ =>
    effectivePolicy kv identity = .ok current ∧ defaults = defaultsOf kv ∧
      existing = normalizeKernelQuotaWindowV2 (kv.value (.window identity)) identity
  | .terminalIntent request snapshot _ _ => snapshot = kv.value request.key
  | .renewal request snapshot _ => snapshot = kv.value request.key

/-- What the callers check of the inputs that do not come from the store: the clock is a safe
integer, a new length is positive, and a reservation names its request and its route. -/
def Checked (writer : Writer) : Prop :=
  isSafeInteger writer.nowMs = true ∧
    match writer with
    | .newWindow _ windowMs _ => 0 < windowMs
    | .reserve _ _ _ _ requestId route _ => requestId ≠ "" ∧ route ≠ ""
    | .policyWrite _ policy _ _ _ => 0 < policy.windowMs
    | _ => True

/-- The writes of the records that the writer makes. -/
def writes (writer : Writer) : List (Write KvKey KernelValue) :=
  writer.outputs.map fun e => .set e.1 e.2

end Writer

/-- The stores that a sequence of writers leaves, whatever is deleted in between and however the
defaults change. -/
inductive WrittenStore : KernelKv → Prop
  | empty : WrittenStore Kv.empty
  | write (kv : KernelKv) (writer : Writer) (h : WrittenStore kv) (hrds : writer.ReadsFrom kv)
      (hchkd : writer.Checked) (hfits : writer.Fits) : WrittenStore (kv.apply writer.writes)
  | delete (kv : KernelKv) (key : KvKey) (h : WrittenStore kv) :
      WrittenStore (kv.apply [.delete key])
  | setDefault (kv : KernelKv) (key : KvKey) (value : ℤ) (h : WrittenStore kv)
      (hkey : key = .defaultLimit ∨ key = .defaultWindow) :
      WrittenStore (kv.apply [.set key (.number value)])

theorem validWindow_of_normalized :
    ∀ window ∈ normalizeKernelQuotaWindowV2 value identity, validWindow window identity = true := by
  intro window h
  unfold normalizeKernelQuotaWindowV2 at h
  split at h
  · split_ifs at h with hvld
    · cases h
      exact hvld
    · cases h
  · dsimp only at h
    split_ifs at h with hvld
    · cases h
      exact hvld
    · cases h
  · cases h

theorem settling_of_normalized
    (hrow : normalizeKernelQuotaReservationRowV2 value row.identity = some row)
    (hpre : kernelReservationPrecondition row row.requestId row.route row.windowCreatedAtMs
      terminalState = none) : Settling row terminalState :=
  ⟨validReservation_of_normalized hrow, (kernelReservationPrecondition_eq_none.mp hpre).2⟩

variable {kv : KernelKv}

theorem Writer.ReadsFrom.admitted {writer : Writer} (hrds : writer.ReadsFrom kv)
    (hchkd : writer.Checked) : writer.Admitted := by
  obtain ⟨hsafe, hchkd⟩ := hchkd
  refine ⟨?_, hsafe⟩
  cases writer with
  | makeKernelQuotaPolicy => exact ⟨_, _, _, hrds⟩
  | newWindow => exact hchkd
  | reserve =>
    obtain ⟨heff, rfl⟩ := hrds
    exact ⟨⟨_, _, _, heff⟩, validWindow_of_normalized, hchkd⟩
  | settlement =>
    obtain ⟨hrow, hpre, rfl, -⟩ := hrds
    exact ⟨settling_of_normalized hrow hpre, validWindow_of_normalized⟩
  | settledRow => exact settling_of_normalized hrds.1 hrds.2
  | policyWrite =>
    obtain rfl := hrds
    exact ⟨hchkd, validWindow_of_normalized⟩
  | policyDeleteWindow =>
    obtain ⟨-, rfl, rfl⟩ := hrds
    exact ⟨⟨_, _, rfl⟩, validWindow_of_normalized⟩
  | terminalIntent | renewal => trivial

theorem accepted_apply (hkv : ∀ value, kv.value key = some value → Accepted key value)
    (hwrs : ∀ value, Write.set key value ∈ writes → Accepted key value) (value : KernelValue)
    (h : (kv.apply writes).value key = some value) : Accepted key value := by
  rw [Kv.value_apply] at h
  cases hwr : Kv.written key writes with
  | none =>
    rw [hwr] at h
    exact hkv value h
  | some left =>
    rw [hwr, Option.getD_some] at h
    subst h
    exact hwrs value (Kv.mem_of_written hwr)

theorem WrittenStore.accepted (h : WrittenStore kv) :
    ∀ key value, kv.value key = some value → Accepted key value := by
  induction h with
  | empty =>
    intro key value h
    cases h
  | write _ _ _ hrds hchkd hfits ih =>
    have hcl := (Writer.closed_iff_fits (hrds.admitted hchkd)).mpr hfits
    refine fun key => accepted_apply (ih key) fun value hmem => ?_
    obtain ⟨e, he, hset⟩ := List.mem_map.mp hmem
    cases hset
    exact hcl e he
  | delete _ key _ ih =>
    refine fun key => accepted_apply (ih key) fun value hmem => ?_
    simp at hmem
  | setDefault _ _ _ _ hkey ih =>
    refine fun key' => accepted_apply (ih key') fun value' hmem => ?_
    cases List.mem_singleton.mp hmem
    rcases hkey with rfl | rfl <;> trivial

/-- **What is written is read back, exactly when it fits**; and in every store that is left by
writers whose inputs fit, every record is accepted. -/
theorem writers_closed (writer : Writer) (kv : KernelKv) :
    (writer.Admitted → (writer.Closed ↔ writer.Fits)) ∧
      (WrittenStore kv → ∀ key value, kv.value key = some value → Accepted key value) :=
  ⟨fun h => Writer.closed_iff_fits h, fun h => h.accepted⟩

/-- The row that the examples below settle. -/
def heldRow : KernelQuotaReservationRowV2 :=
  reservedRow (.org "ubiquity") (newWindow (.org "ubiquity") 1000 0) "request" "/v1/responses" 0

/-- **A reason of white space makes a malformed row.**  The row is valid and can be released, and
what its release leaves is not accepted. -/
theorem blank_reason_malformed : ¬ ∀ writer : Writer, writer.Admitted → writer.Closed := by
  intro h
  have hcl := h (.settledRow heldRow .released "   " 10)
    ⟨⟨by decide, rfl, .inl rfl⟩, by decide⟩
  have hacc := hcl (heldRow.key, .reservation
    (settledKernelReservationRow heldRow .released "   " 10)) List.mem_cons_self
  obtain ⟨row, -, hrow, -⟩ := hacc
  have href : normalizeKernelQuotaReservationRowV2 (some (.reservation
      (settledKernelReservationRow heldRow .released "   " 10))) heldRow.identity = none := by
    decide
  rw [href] at hrow
  cases hrow

/-- A release with a reason that is not blank is read back. -/
theorem writers_closed_released :
    (Writer.settledRow heldRow .released "client_disconnected" 10).Admitted ∧
      (Writer.settledRow heldRow .released "client_disconnected" 10).Closed := by
  have hadm : (Writer.settledRow heldRow .released "client_disconnected" 10).Admitted :=
    ⟨⟨by decide, rfl, .inl rfl⟩, by decide⟩
  refine ⟨hadm, ((writers_closed _ .empty).1 hadm).mpr ⟨by decide, fun _ => .inr ?_⟩⟩
  decide

end UbqGateway.Kernel
