import UbqGateway.Authority.Contracts
import UbqGateway.Kernel.Contracts

/-!
# The kernel quota's decisions

The pure functions of `src/authority/native-kernel.ts`: what a client decides from the entries it
has read.  A value read from the store is an `Option KernelValue`, `none` when the key is absent;
the validators (`normalize…`) answer `none` for whatever is not a well-formed record of the identity
in question.  Functions that throw answer an `Except` with the text of the error.

The time after which the store drops an entry (`expireIn`) is not part of a plan here: the store
keeps what it is given.
-/

namespace UbqGateway.Kernel

open Authority (isSafeInteger)

/-! ### Constants -/

/-- `KERNEL_QUOTA_RESERVATION_LEASE_MS` -/
def reservationLeaseMs : ℤ := 5 * 60000

/-- `KERNEL_DEFAULT_WINDOW_CUTOVER_LEASE_MS` -/
def cutoverLeaseMs : ℤ := 5 * 60000

def maxKvRetries : ℕ := 3

/-- `API_KEY_NO_USAGE_LIMIT` -/
def noUsageLimit : ℤ := -1

/-- `API_KEY_NO_EXPIRATION_MS` -/
def noExpirationMs : ℤ := -1

def defaultKernelPolicyLimitRequests : ℤ := noUsageLimit

def defaultKernelPolicyWindowMs : ℤ := 7 * 24 * 60 * 60 * 1000

/-! ### Validators -/

def positiveSafeInteger (value : ℤ) : Bool := isSafeInteger value && decide (0 < value)

def nonNegativeSafeInteger (value : ℤ) : Bool := isSafeInteger value && decide (0 ≤ value)

def KernelValue.toNumber : Option KernelValue → Option ℤ
  | some (.number value) => some value
  | _ => none

/-- `normalizeUsageLimit` before its fallback: the number if it is a limit. -/
def usageLimit? (value : Option ℤ) : Option ℤ :=
  match value with
  | none => none
  | some parsed => if parsed = noUsageLimit ∨ 0 ≤ parsed then some parsed else none

def normalizeUsageLimit (value : Option ℤ) (fallback : ℤ) : ℤ := (usageLimit? value).getD fallback

def normalizeWindow (value : Option ℤ) (fallback : ℤ) : ℤ :=
  match value with
  | none => fallback
  | some parsed => if 0 < parsed then parsed else fallback

def normalizeExpiration (value : Option ℤ) : ℤ :=
  match value with
  | none => noExpirationMs
  | some parsed => if parsed = noExpirationMs ∨ 0 ≤ parsed then parsed else noExpirationMs

/-- `normalizeKernelQuotaPolicyV2`.  The fallback of the limit is `NaN`, which is no limit. -/
def normalizeKernelQuotaPolicyV2 (value : Option KernelValue) (identity : KernelQuotaIdentity) :
    Option KernelQuotaPolicyV2 :=
  match value with
  | some (.policy policy) =>
    if policy.identity = identity ∧ nonNegativeSafeInteger policy.createdAtMs = true ∧
        nonNegativeSafeInteger policy.updatedAtMs = true then
      match usageLimit? (some policy.usageLimitRequests) with
      | none => none
      | some limit =>
        let windowMs := normalizeWindow (some policy.windowMs) 0
        if positiveSafeInteger windowMs = true ∧
            (limit = noUsageLimit ∨ nonNegativeSafeInteger limit = true) then
          some { policy with
            usageLimitRequests := limit
            windowMs := windowMs
            expiresAtMs := normalizeExpiration (some policy.expiresAtMs) }
        else none
    else none
  | _ => none

/-- The checks of `normalizeKernelQuotaWindowV2` on the fields of a window. -/
def validWindow (window : KernelQuotaWindowV2) (identity : KernelQuotaIdentity) : Bool :=
  decide (window.identity = identity) && nonNegativeSafeInteger window.usageRequests &&
    nonNegativeSafeInteger window.reservedRequests && positiveSafeInteger window.usageResetAtMs &&
    positiveSafeInteger window.appliedWindowMs && nonNegativeSafeInteger window.createdAtMs &&
    nonNegativeSafeInteger window.updatedAtMs

/-- `normalizeKernelQuotaWindowV2`.  A missing `reserved_requests` counts as 0. -/
def normalizeKernelQuotaWindowV2 (value : Option KernelValue) (identity : KernelQuotaIdentity) :
    Option KernelQuotaWindowV2 :=
  match value with
  | some (.window window) => if validWindow window identity = true then some window else none
  | some (.legacyWindow window) =>
    let window := { window with reservedRequests := 0 }
    if validWindow window identity = true then some window else none
  | _ => none

/-- The characters that `String.prototype.trim` removes. -/
def jsWhitespace (c : Char) : Bool :=
  [0x9, 0xA, 0xB, 0xC, 0xD, 0x20, 0xA0, 0x1680, 0x2028, 0x2029, 0x202F, 0x205F, 0x3000,
    0xFEFF].contains c.toNat || (0x2000 ≤ c.toNat && c.toNat ≤ 0x200A)

/-- `text.trim() === ""` -/
def isBlank (text : String) : Bool := text.toList.all jsWhitespace

/-- The fields of a row agree with its state. -/
def validReservationState (row : KernelQuotaReservationRowV2) : Bool :=
  match row.state with
  | .reserved => row.committedAtMs.isNone && row.releasedAtMs.isNone && row.releaseReason.isNone
  | .committed => row.committedAtMs.isSome && row.releasedAtMs.isNone &&
      row.releaseReason.isNone && decide (row.terminalIntent ≠ some .released)
  | .released => row.committedAtMs.isNone && row.releasedAtMs.isSome &&
      (row.releaseReason.any fun reason => !isBlank reason) &&
      decide (row.terminalIntent ≠ some .committed)

/-- The checks of `normalizeKernelQuotaReservationRowV2`. -/
def validReservation (row : KernelQuotaReservationRowV2) (identity : KernelQuotaIdentity) : Bool :=
  decide (row.identity = identity) && decide (row.requestId ≠ "") && decide (row.route ≠ "") &&
    nonNegativeSafeInteger row.windowCreatedAtMs && positiveSafeInteger row.windowResetAtMs &&
    nonNegativeSafeInteger row.reservedAtMs && positiveSafeInteger row.leaseExpiresAtMs &&
    row.committedAtMs.all nonNegativeSafeInteger && row.releasedAtMs.all nonNegativeSafeInteger &&
    decide (row.windowCreatedAtMs < row.windowResetAtMs) &&
    decide (row.reservedAtMs < row.leaseExpiresAtMs) && validReservationState row

def normalizeKernelQuotaReservationRowV2 (value : Option KernelValue)
    (identity : KernelQuotaIdentity) : Option KernelQuotaReservationRowV2 :=
  match value with
  | some (.reservation row) => if validReservation row identity = true then some row else none
  | _ => none

def normalizeKernelDefaultWindowCutoverV2 (value : Option KernelValue) :
    Option KernelDefaultWindowCutoverV2 :=
  match value with
  | some (.cutover marker) =>
    if marker.id ≠ "" ∧ nonNegativeSafeInteger marker.createdAtMs = true ∧
        positiveSafeInteger marker.expiresAtMs = true ∧
        marker.createdAtMs < marker.expiresAtMs then some marker else none
  | _ => none

/-! ### Windows and policies -/

def hasLiveKernelReservations (window : Option KernelQuotaWindowV2) (nowMs : ℤ) : Bool :=
  window.any fun window =>
    decide (nowMs < window.usageResetAtMs) && decide (0 < window.reservedRequests)

def newWindow (identity : KernelQuotaIdentity) (windowMs nowMs : ℤ) : KernelQuotaWindowV2 where
  identity := identity
  usageRequests := 0
  reservedRequests := 0
  usageResetAtMs := nowMs + windowMs
  appliedWindowMs := windowMs
  createdAtMs := nowMs
  updatedAtMs := nowMs

def windowForEffectivePolicy (existing : Option KernelQuotaWindowV2)
    (identity : KernelQuotaIdentity) (effectiveWindowMs nowMs : ℤ) : KernelQuotaEffectiveWindow :=
  match existing with
  | none => ⟨newWindow identity effectiveWindowMs nowMs, true⟩
  | some window =>
    if window.appliedWindowMs ≠ effectiveWindowMs ∨ window.usageResetAtMs ≤ nowMs then
      ⟨newWindow identity effectiveWindowMs nowMs, true⟩
    else ⟨window, false⟩

def policyFor (entry : Option KernelValue) (identity : KernelQuotaIdentity)
    (defaults : KernelQuotaDefaults) : Except String KernelQuotaEffectivePolicy :=
  match entry with
  | none => .ok ⟨none, defaults.limit, defaults.windowMs, noExpirationMs, .default⟩
  | some value =>
    match normalizeKernelQuotaPolicyV2 (some value) identity with
    -- A corrupt explicit policy must never silently turn into a permissive default.
    | none => .error "kernel quota policy is malformed"
    | some policy => .ok
        ⟨some policy, policy.usageLimitRequests, policy.windowMs, policy.expiresAtMs, .kv⟩

def isExpired (expiresAtMs nowMs : ℤ) : Bool :=
  decide (expiresAtMs ≠ noExpirationMs ∧ expiresAtMs ≤ nowMs)

def kernelQuotaDefaultCutoverBlocks (current : KernelQuotaEffectivePolicy)
    (marker : Option KernelValue) : Bool :=
  decide (current.source = .default) && marker.isSome

/-! ### Reservation rows -/

def kernelReservationMatchesRequest (reservation : Option KernelQuotaReservationRowV2)
    (requestId route : String) (windowCreatedAtMs : ℤ) : Bool :=
  reservation.any fun row => decide (row.requestId = requestId) && decide (row.route = route) &&
    decide (row.windowCreatedAtMs = windowCreatedAtMs)

def requireKernelReservationRow (key : KvKey) (value : KernelValue)
    (identity : KernelQuotaIdentity) (windowCreatedAtMs : ℤ) :
    Except String KernelQuotaReservationRowV2 :=
  match normalizeKernelQuotaReservationRowV2 (some value) identity, key with
  | some row, .reservation _ _ requestId =>
    if requestId = row.requestId ∧ row.windowCreatedAtMs = windowCreatedAtMs then .ok row
    else .error "Kernel quota reservation is malformed"
  | _, _ => .error "Kernel quota reservation is malformed"

def kernelReservationPrecondition (reservation : KernelQuotaReservationRowV2)
    (requestId route : String) (windowCreatedAtMs : ℤ) (terminalState : TerminalState) :
    Option KernelReservationSettlement :=
  if kernelReservationMatchesRequest (some reservation) requestId route windowCreatedAtMs
      = true then
    if reservation.state ≠ .reserved then
      some (if reservation.state = terminalState.state then .settled else .terminalMismatch)
    else if reservation.terminalIntent ≠ none ∧ reservation.terminalIntent ≠ some terminalState then
      some .terminalMismatch
    else none
  else some .invalid

/-- The number of UTF-16 code units of a character. -/
def utf16Units (c : Char) : ℕ := if c.toNat < 0x10000 then 1 else 2

/-- `text.slice(0, n)`, which counts UTF-16 code units.  A character of two units that the cut
splits leaves half of it, which is no character: U+FFFD stands for it. -/
def sliceUnits (text : String) (n : ℕ) : String := String.ofList (go n text.toList)
where
  /-- The characters that fit into `n` units. -/
  go : ℕ → List Char → List Char
  | 0, _ => []
  | _, [] => []
  | n + 1, c :: cs =>
    if utf16Units c ≤ n + 1 then c :: go (n + 1 - utf16Units c) cs else ['\uFFFD']

def settledKernelReservationRow (reservation : KernelQuotaReservationRowV2)
    (terminalState : TerminalState) (reason : String) (nowMs : ℤ) : KernelQuotaReservationRowV2 :=
  match terminalState with
  | .committed => { reservation with
      state := .committed
      terminalIntent := some .committed
      committedAtMs := some nowMs }
  | .released => { reservation with
      state := .released
      terminalIntent := some .released
      releasedAtMs := some nowMs
      releaseReason := some (if sliceUnits reason 120 = "" then "request_incomplete"
        else sliceUnits reason 120) }

/-! ### Decisions of a reservation -/

inductive KernelQuotaScope
  | repo
  | org

def decideKernelQuotaScope (repoPolicy orgPolicy : Option KernelValue) (owner repo : String) :
    Except String (KernelQuotaScope × Bool) :=
  if repoPolicy.isSome = true ∧
      normalizeKernelQuotaPolicyV2 repoPolicy (.repo owner repo) = none then
    .error "Kernel repo quota policy is malformed"
  else if orgPolicy.isSome = true ∧ normalizeKernelQuotaPolicyV2 orgPolicy (.org owner) = none then
    .error "Kernel org quota policy is malformed"
  else if repoPolicy.isSome = true then .ok (.repo, true)
  else .ok (.org, orgPolicy.isSome)

/-- What a caller expects of the repository's policy. -/
inductive ExpectedRepoPolicy
  | present
  | absent
deriving DecidableEq

/-- `KernelQuotaEligibilitySnapshot`; the guard is `none` when no repository is guarded. -/
structure KernelQuotaEligibilitySnapshot where
  policy : Option KernelValue
  repoGuard : Option (Option KernelValue)
  defaultCutover : Option KernelValue
  expectedRepoPolicy : Option ExpectedRepoPolicy

def decideKernelQuotaEligibility (identity : KernelQuotaIdentity)
    (snapshot : KernelQuotaEligibilitySnapshot) (defaults : KernelQuotaDefaults) (nowMs : ℤ) :
    Except String KernelQuotaEligibilityPlan :=
  if (snapshot.expectedRepoPolicy = some .present ∧ snapshot.policy = none) ∨
      (snapshot.expectedRepoPolicy = some .absent ∧
        (snapshot.repoGuard.any Option.isSome) = true) then
    .ok (.refused ⟨503, "Kernel quota policy scope changed; retry"⟩)
  else do
    let effective ← policyFor snapshot.policy identity defaults
    if kernelQuotaDefaultCutoverBlocks effective snapshot.defaultCutover = true then
      return .refused ⟨503, "Kernel quota defaults are changing; retry"⟩
    if isExpired effective.expiresAtMs nowMs = true then
      return .refused ⟨429, "Kernel auth usage limit expired; update it via /admin/kernel-usage."⟩
    if effective.limit = 0 then
      return .refused ⟨429, "Kernel auth usage limit is 0; update it via /admin/kernel-usage."⟩
    return .eligible effective

/-- The row of a new reservation. -/
def reservedRow (identity : KernelQuotaIdentity) (window : KernelQuotaWindowV2)
    (requestId route : String) (nowMs : ℤ) : KernelQuotaReservationRowV2 where
  identity := identity
  requestId := requestId
  route := route
  windowCreatedAtMs := window.createdAtMs
  windowResetAtMs := window.usageResetAtMs
  state := .reserved
  terminalIntent := none
  reservedAtMs := nowMs
  leaseExpiresAtMs := nowMs + reservationLeaseMs
  committedAtMs := none
  releasedAtMs := none
  releaseReason := none

def decideKernelQuotaReserve (identity : KernelQuotaIdentity)
    (effective : KernelQuotaEffectivePolicy) (window : KernelQuotaWindowV2)
    (reservationEntry : Option KernelValue) (requestId route : String) (nowMs : ℤ) :
    KernelQuotaReservePlan :=
  if reservationEntry.isSome = true then
    if kernelReservationMatchesRequest
        (normalizeKernelQuotaReservationRowV2 reservationEntry identity) requestId route
        window.createdAtMs = true then
      .refused ⟨503, "Kernel quota request already has a reservation"⟩
    else .refused ⟨503, "Kernel quota request identity conflicts"⟩
  else if effective.limit ≠ noUsageLimit ∧
      effective.limit ≤ window.usageRequests + window.reservedRequests then
    .full window effective.limit
  else .reserve (reservedRow identity window requestId route nowMs)
    { window with reservedRequests := window.reservedRequests + 1, updatedAtMs := nowMs }

def decideKernelQuotaTerminalIntent (request : KernelQuotaReservationIdentity)
    (snapshot : Option KernelValue) (terminalState : TerminalState) (nowMs : ℤ) :
    KernelQuotaTerminalPlan :=
  match normalizeKernelQuotaReservationRowV2 snapshot request.identity with
  | none => .unchanged (if snapshot.isNone = true then .missing else .invalid)
  | some reservation =>
    match kernelReservationPrecondition reservation request.requestId request.route
        request.windowCreatedAtMs terminalState with
    | some outcome => .unchanged outcome
    | none =>
      .intent { reservation with
          terminalIntent := some terminalState
          leaseExpiresAtMs := nowMs + reservationLeaseMs } (nowMs + reservationLeaseMs)

/-- The window after the settlement of one of its reservations. -/
def settledWindow (window : KernelQuotaWindowV2) (terminalState : TerminalState) (nowMs : ℤ) :
    KernelQuotaWindowV2 :=
  { window with
    usageRequests := window.usageRequests + if terminalState = .committed then 1 else 0
    reservedRequests := window.reservedRequests - 1
    updatedAtMs := nowMs }

def decideKernelQuotaSettlement (reservation : KernelQuotaReservationRowV2)
    (window : Option KernelQuotaWindowV2) (windowPresent : Bool) (terminalState : TerminalState)
    (reason : String) (nowMs : ℤ) : KernelQuotaSettlePlan :=
  let settled := settledKernelReservationRow reservation terminalState reason nowMs
  match window with
  | none => if windowPresent = true then .unchanged .invalid else .settle settled none
  | some window =>
    if window.createdAtMs ≠ reservation.windowCreatedAtMs then .settle settled none
    else if window.reservedRequests < 1 then .unchanged .invalid
    else .settle settled (some (settledWindow window terminalState nowMs))

def ReservationState.text : ReservationState → String
  | .reserved => "reserved"
  | .committed => "committed"
  | .released => "released"

def decideKernelQuotaRenewal (request : KernelQuotaReservationIdentity)
    (snapshot : Option KernelValue) (nowMs : ℤ) : Except String (KernelQuotaReservationRowV2 × ℤ) :=
  match normalizeKernelQuotaReservationRowV2 snapshot request.identity with
  | none => .error "Kernel quota reservation is missing or malformed"
  | some reservation =>
    if kernelReservationMatchesRequest (some reservation) request.requestId request.route
        request.windowCreatedAtMs = true then
      if reservation.state ≠ .reserved then
        .error ("Kernel quota reservation was already " ++ reservation.state.text)
      else .ok ({ reservation with leaseExpiresAtMs := nowMs + reservationLeaseMs },
        nowMs + reservationLeaseMs)
    else .error "Kernel quota reservation is missing or malformed"

def decideKernelQuotaReclaim (reservation : KernelQuotaReservationRowV2) (nowMs : ℤ) :
    Option TerminalState :=
  if reservation.state ≠ .reserved ∨ nowMs < reservation.leaseExpiresAtMs then none
  else some (reservation.terminalIntent.getD .released)

/-! ### Decisions of a policy change -/

def decideKernelDefaultWindowCutover (snapshot : Option KernelValue) (id : String) (nowMs : ℤ) :
    KernelQuotaCutoverPlan :=
  if snapshot.isSome = true then
    .refused (if (normalizeKernelDefaultWindowCutoverV2 snapshot).isSome = true
      then .concurrentChange else .unavailable)
  else .acquire ⟨id, nowMs, nowMs + cutoverLeaseMs⟩

/-- `kernelDefaultWindowCutoverAcquired`; an entry that is there has a revision. -/
def kernelDefaultWindowCutoverAcquired (snapshot : Option KernelValue) (id : String) : Bool :=
  (normalizeKernelDefaultWindowCutoverV2 snapshot).any fun marker => decide (marker.id = id)

/-- `resolveKernelPolicyTiming`: the window length and the expiration. -/
def resolveKernelPolicyTiming (options : KernelQuotaPolicySetOptions)
    (current : KernelQuotaEffectivePolicy) : ℤ × ℤ :=
  (match options.windowMs with
    | none => current.windowMs
    | some windowMs => normalizeWindow (some windowMs) current.windowMs,
  match options.expiresAtMs with
    | none => current.expiresAtMs
    | some expiresAtMs => normalizeExpiration (some expiresAtMs))

/-- The answers of `decideKernelPolicyWindowGuard`. -/
inductive PolicyWindowGuard
  | abort
  | proceed
  | reclaim (window : KernelQuotaWindowV2)

def decideKernelPolicyWindowGuard (window : Option KernelQuotaWindowV2)
    (windowPresent reset : Bool) (nowMs : ℤ) : PolicyWindowGuard :=
  match window with
  | none => if windowPresent = true then .abort else .proceed
  | some live =>
    if reset = true ∧ hasLiveKernelReservations window nowMs = true then .reclaim live else .proceed

def makeKernelQuotaPolicy (identity : KernelQuotaIdentity) (current : KernelQuotaEffectivePolicy)
    (usageLimitRequests windowMs expiresAtMs nowMs : ℤ) : KernelQuotaPolicyV2 where
  identity := identity
  usageLimitRequests := normalizeUsageLimit (some usageLimitRequests) current.limit
  windowMs := windowMs
  expiresAtMs := expiresAtMs
  createdAtMs := (current.policy.map KernelQuotaPolicyV2.createdAtMs).getD nowMs
  updatedAtMs := nowMs

/-- `decideKernelQuotaPolicyWrite`: the window that goes with the policy.  `needsWrite` tells
whether it is a new one. -/
def decideKernelQuotaPolicyWrite (identity : KernelQuotaIdentity) (policy : KernelQuotaPolicyV2)
    (currentWindow : Option KernelQuotaWindowV2) (reset : Bool) (nowMs : ℤ) :
    KernelQuotaEffectiveWindow :=
  if reset = true then ⟨newWindow identity policy.windowMs nowMs, true⟩
  else
    let base := windowForEffectivePolicy currentWindow identity policy.windowMs nowMs
    { base with window := { base.window with updatedAtMs := nowMs } }

/-- `decideKernelQuotaPolicyDeleteWindow`.  `needsWrite` tells whether the window is a new one. -/
def decideKernelQuotaPolicyDeleteWindow (identity : KernelQuotaIdentity)
    (current : KernelQuotaEffectivePolicy) (defaults : KernelQuotaDefaults)
    (oldWindow : Option KernelQuotaWindowV2) (nowMs : ℤ) : KernelQuotaEffectiveWindow :=
  if current.windowMs = defaults.windowMs then
    windowForEffectivePolicy oldWindow identity defaults.windowMs nowMs
  else ⟨newWindow identity defaults.windowMs nowMs, true⟩

def kernelQuotaPolicyResetRequested (options : KernelQuotaPolicySetOptions)
    (currentWindowMs nextWindowMs : ℤ) : Bool :=
  options.resetUsage || decide (currentWindowMs ≠ nextWindowMs)

/-- The answers of `decideKernelQuotaPolicyDeletePrecondition`. -/
inductive PolicyDeletePrecondition
  | absent
  | conflict
  | proceed

def decideKernelQuotaPolicyDeletePrecondition (policy defaultCutover : Option KernelValue) :
    PolicyDeletePrecondition :=
  if policy.isNone = true then .absent
  else if defaultCutover.isSome = true then .conflict
  else .proceed

/-! ### What the validators accept -/

theorem normalizeKernelQuotaReservationRowV2_eq_some
    (h : normalizeKernelQuotaReservationRowV2 value identity = some row) :
    value = some (.reservation row) := by
  unfold normalizeKernelQuotaReservationRowV2 at h
  split at h
  · split_ifs at h with hvld
    cases h
    rfl
  · cases h

theorem normalizeKernelQuotaWindowV2_eq_some (hleg : ∀ old, value ≠ some (.legacyWindow old))
    (h : normalizeKernelQuotaWindowV2 value identity = some window) :
    value = some (.window window) := by
  unfold normalizeKernelQuotaWindowV2 at h
  split at h
  · split_ifs at h with hvld
    cases h
    rfl
  · next old => exact absurd rfl (hleg old)
  · cases h

theorem kernelReservationMatchesRequest_some :
    kernelReservationMatchesRequest (some row) requestId route windowCreatedAtMs = true ↔
      row.requestId = requestId ∧ row.route = route ∧
        row.windowCreatedAtMs = windowCreatedAtMs := by
  simp [kernelReservationMatchesRequest, and_assoc]

theorem kernelReservationPrecondition_eq_none :
    kernelReservationPrecondition row requestId route windowCreatedAtMs terminalState = none ↔
      (row.requestId = requestId ∧ row.route = route ∧
        row.windowCreatedAtMs = windowCreatedAtMs) ∧ row.state = .reserved ∧
        (row.terminalIntent = none ∨ row.terminalIntent = some terminalState) := by
  rw [← kernelReservationMatchesRequest_some]
  unfold kernelReservationPrecondition
  split_ifs with hmat hsta hint
  · simp [hsta]
  · constructor
    · intro h
      cases h
    · rintro ⟨-, -, hno | heq⟩
      · exact absurd hno hint.1
      · exact absurd heq hint.2
  · rw [not_and_or, not_not, not_not] at hint
    simp [hmat, not_not.mp hsta, hint]
  · simp [hmat]

theorem requireKernelReservationRow_eq_ok
    (h : requireKernelReservationRow key value identity windowCreatedAtMs = .ok row) :
    value = .reservation row ∧ row.windowCreatedAtMs = windowCreatedAtMs ∧
      ∃ rowIdentity createdAtMs, key = .reservation rowIdentity createdAtMs row.requestId := by
  unfold requireKernelReservationRow at h
  split at h
  · next row' rowIdentity createdAtMs requestId hrow =>
    split_ifs at h with hids
    cases h
    obtain ⟨rfl, hcr⟩ := hids
    have hval := normalizeKernelQuotaReservationRowV2_eq_some hrow
    exact ⟨Option.some.inj hval, hcr, rowIdentity, createdAtMs, rfl⟩
  · cases h

theorem decideKernelQuotaReclaim_eq_some
    (h : decideKernelQuotaReclaim row nowMs = some terminalState) :
    row.state = .reserved ∧ row.leaseExpiresAtMs ≤ nowMs := by
  unfold decideKernelQuotaReclaim at h
  split_ifs at h with hlive
  rw [not_or, not_not, not_lt] at hlive
  exact hlive

theorem decideKernelQuotaRenewal_eq_ok
    (h : decideKernelQuotaRenewal request snapshot nowMs = .ok (renewed, leaseExpiresAtMs)) :
    ∃ row, snapshot = some (.reservation row) ∧ row.state = .reserved ∧
      renewed = { row with leaseExpiresAtMs := nowMs + reservationLeaseMs } := by
  unfold decideKernelQuotaRenewal at h
  split at h
  · cases h
  · next row hrow =>
    split_ifs at h with hmat hsta
    cases h
    exact ⟨row, normalizeKernelQuotaReservationRowV2_eq_some hrow, not_not.mp hsta, rfl⟩

/-! ### What the decisions say -/

@[simp]
theorem settledKernelReservationRow_state (row : KernelQuotaReservationRowV2)
    (terminalState : TerminalState) (reason : String) (nowMs : ℤ) :
    (settledKernelReservationRow row terminalState reason nowMs).state = terminalState.state := by
  cases terminalState <;> rfl

@[simp]
theorem settledKernelReservationRow_windowCreatedAtMs (row : KernelQuotaReservationRowV2)
    (terminalState : TerminalState) (reason : String) (nowMs : ℤ) :
    (settledKernelReservationRow row terminalState reason nowMs).windowCreatedAtMs
      = row.windowCreatedAtMs := by
  cases terminalState <;> rfl

theorem policyFor_congr (h : policyFor entry identity defaults = .ok effective)
    (hdef : effective.source = .default → defaults' = defaults) :
    policyFor entry identity defaults' = .ok effective := by
  cases entry with
  | none =>
    cases h
    rw [hdef rfl]
    rfl
  | some value => exact h

theorem usageLimit?_eq_some {value : Option ℤ} (h : usageLimit? value = some limit) :
    limit = noUsageLimit ∨ 0 ≤ limit := by
  unfold usageLimit? at h
  split at h
  · cases h
  · split_ifs at h with hlmt
    cases h
    exact hlmt

theorem normalizeUsageLimit_cases (value : Option ℤ) (h : fallback = noUsageLimit ∨ 0 ≤ fallback) :
    normalizeUsageLimit value fallback = noUsageLimit ∨ 0 ≤ normalizeUsageLimit value fallback := by
  unfold normalizeUsageLimit
  cases hval : usageLimit? value with
  | none => exact h
  | some limit => exact usageLimit?_eq_some hval

theorem policyFor_some_eq_ok (h : policyFor (some value) identity defaults = .ok effective) :
    ∃ policy, value = .policy policy ∧ effective.windowMs = policy.windowMs ∧
      (effective.limit = noUsageLimit ∨ 0 ≤ effective.limit) := by
  unfold policyFor at h
  dsimp only at h
  split at h
  · cases h
  · next normalized hnorm =>
    cases h
    unfold normalizeKernelQuotaPolicyV2 at hnorm
    split at hnorm
    · next policy hval =>
      split_ifs at hnorm
      split at hnorm
      · cases hnorm
      · next limit hlmt =>
        dsimp only at hnorm
        split_ifs at hnorm with hvld
        cases hnorm
        refine ⟨policy, Option.some.inj hval, ?_, usageLimit?_eq_some hlmt⟩
        -- a length that is not positive would have been refused
        have hpos := hvld.1
        simp only [positiveSafeInteger, normalizeWindow, Bool.and_eq_true] at hpos ⊢
        split_ifs at hpos ⊢ with hlen
        · rfl
        · exact absurd (of_decide_eq_true hpos.2) (lt_irrefl 0)
    · cases hnorm

theorem policyFor_limit_cases (h : policyFor entry identity defaults = .ok effective)
    (hdef : defaults.limit = noUsageLimit ∨ 0 ≤ defaults.limit) :
    effective.limit = noUsageLimit ∨ 0 ≤ effective.limit := by
  cases entry with
  | none =>
    cases h
    exact hdef
  | some value =>
    obtain ⟨policy, -, -, hlmt⟩ := policyFor_some_eq_ok h
    exact hlmt

theorem decideKernelQuotaEligibility_eq_eligible {snapshot : KernelQuotaEligibilitySnapshot}
    (h : decideKernelQuotaEligibility identity snapshot defaults nowMs
      = .ok (.eligible effective)) :
    policyFor snapshot.policy identity defaults = .ok effective ∧
      kernelQuotaDefaultCutoverBlocks effective snapshot.defaultCutover = false := by
  unfold decideKernelQuotaEligibility at h
  split_ifs at h with hscp
  · cases Except.ok.inj h
  · cases hpol : policyFor snapshot.policy identity defaults with
    | error e =>
      rw [hpol] at h
      cases h
    | ok policy =>
      rw [hpol] at h
      change (if _ then _ else _) = Except.ok _ at h
      split_ifs at h with hblk hexp hlmt
      · cases Except.ok.inj h
      · cases Except.ok.inj h
      · cases Except.ok.inj h
      · cases h
        exact ⟨rfl, eq_false_of_ne_true hblk⟩

theorem kernelQuotaDefaultCutoverBlocks_eq_false
    (h : kernelQuotaDefaultCutoverBlocks current marker = false)
    (hsrc : current.source = .default) : marker = none := by
  cases marker with
  | none => rfl
  | some value => simp [kernelQuotaDefaultCutoverBlocks, hsrc] at h

theorem decideKernelQuotaReserve_eq_reserve {window reservedWindow : KernelQuotaWindowV2}
    (h : decideKernelQuotaReserve identity effective window entry requestId route nowMs
      = .reserve row reservedWindow) : entry = none ∧ (effective.limit = noUsageLimit ∨
        window.usageRequests + window.reservedRequests < effective.limit) ∧
      row = reservedRow identity window requestId route nowMs ∧
      reservedWindow = { window with
        reservedRequests := window.reservedRequests + 1, updatedAtMs := nowMs } := by
  unfold decideKernelQuotaReserve at h
  split_ifs at h with hent hmat hfull
  cases h
  rw [not_and_or, not_not, not_le] at hfull
  refine ⟨?_, hfull, rfl, rfl⟩
  cases entry with
  | none => rfl
  | some value => exact absurd rfl hent

theorem decideKernelQuotaSettlement_eq_settle {settled : KernelQuotaReservationRowV2}
    {stored : Option KernelQuotaWindowV2} {present : Bool} {reason : String}
    (h : decideKernelQuotaSettlement row stored present terminalState reason nowMs
      = .settle settled window) :
    settled = settledKernelReservationRow row terminalState reason nowMs ∧
      ((∃ old, stored = some old ∧ old.createdAtMs = row.windowCreatedAtMs ∧
          1 ≤ old.reservedRequests ∧ window = some (settledWindow old terminalState nowMs)) ∨
        window = none ∧ ∀ old, stored = some old → old.createdAtMs ≠ row.windowCreatedAtMs) := by
  unfold decideKernelQuotaSettlement at h
  cases stored with
  | none =>
    dsimp only at h
    split_ifs at h with hprs
    cases h
    exact ⟨rfl, .inr ⟨rfl, nofun⟩⟩
  | some old =>
    dsimp only at h
    split_ifs at h with hcr hres
    · cases h
      refine ⟨rfl, .inr ⟨rfl, ?_⟩⟩
      intro old' hold
      cases hold
      exact hcr
    · cases h
      exact ⟨rfl, .inl ⟨old, rfl, not_not.mp hcr, not_lt.mp hres, rfl⟩⟩

theorem windowForEffectivePolicy_cases (existing : Option KernelQuotaWindowV2)
    (identity : KernelQuotaIdentity) (windowMs nowMs : ℤ) :
    (windowForEffectivePolicy existing identity windowMs nowMs
        = ⟨newWindow identity windowMs nowMs, true⟩ ∧
      ∀ window, existing = some window → window.appliedWindowMs = windowMs →
        window.usageResetAtMs ≤ nowMs) ∨
    ∃ window, existing = some window ∧ window.appliedWindowMs = windowMs ∧
      windowForEffectivePolicy existing identity windowMs nowMs = ⟨window, false⟩ := by
  unfold windowForEffectivePolicy
  cases existing with
  | none => exact .inl ⟨rfl, nofun⟩
  | some window =>
    dsimp only
    split_ifs with hrepl
    · refine .inl ⟨rfl, ?_⟩
      rintro _ ⟨⟩ happ
      exact hrepl.resolve_left (not_not.mpr happ)
    · rw [not_or, not_not] at hrepl
      exact .inr ⟨window, rfl, hrepl.1, rfl⟩

theorem decideKernelPolicyWindowGuard_eq_proceed
    (h : decideKernelPolicyWindowGuard window windowPresent reset nowMs = .proceed) :
    ¬ (windowPresent = true ∧ window = none) ∧
      (reset = true → hasLiveKernelReservations window nowMs = false) := by
  unfold decideKernelPolicyWindowGuard at h
  split at h
  · split_ifs at h with hprs
    exact ⟨fun hmissing => hprs hmissing.1, fun _ => rfl⟩
  · next live =>
    split_ifs at h with hrst
    constructor
    · rintro ⟨-, hno⟩
      cases hno
    · intro hr
      exact eq_false_of_ne_true fun hl => hrst ⟨hr, hl⟩

theorem hasLiveKernelReservations_mono (h : hasLiveKernelReservations window nowMs = false)
    (ht : nowMs ≤ t) : hasLiveKernelReservations window t = false := by
  cases window with
  | none => rfl
  | some window =>
    simp only [hasLiveKernelReservations, Option.any_some, Bool.and_eq_false_iff,
      decide_eq_false_iff_not, not_lt] at h ⊢
    omega

theorem decideKernelQuotaPolicyWrite_cases (identity : KernelQuotaIdentity)
    (policy : KernelQuotaPolicyV2) (existing : Option KernelQuotaWindowV2) (reset : Bool)
    (nowMs : ℤ) : (decideKernelQuotaPolicyWrite identity policy existing reset nowMs
        = ⟨newWindow identity policy.windowMs nowMs, true⟩ ∧
      (reset = true ∨ ∀ window, existing = some window →
        window.appliedWindowMs = policy.windowMs → window.usageResetAtMs ≤ nowMs)) ∨
    ∃ window, existing = some window ∧ window.appliedWindowMs = policy.windowMs ∧
      decideKernelQuotaPolicyWrite identity policy existing reset nowMs
        = ⟨{ window with updatedAtMs := nowMs }, false⟩ := by
  unfold decideKernelQuotaPolicyWrite
  by_cases hrst : reset = true
  · exact .inl ⟨if_pos hrst, .inl hrst⟩
  · rw [if_neg hrst]
    rcases windowForEffectivePolicy_cases existing identity policy.windowMs nowMs with
      ⟨hnew, hexp⟩ | ⟨window, hst, happ, hkept⟩
    · rw [hnew]
      exact .inl ⟨rfl, .inr hexp⟩
    · rw [hkept]
      exact .inr ⟨window, hst, happ, rfl⟩

theorem decideKernelQuotaPolicyDeleteWindow_cases (identity : KernelQuotaIdentity)
    (current : KernelQuotaEffectivePolicy) (defaults : KernelQuotaDefaults)
    (existing : Option KernelQuotaWindowV2) (nowMs : ℤ) :
    decideKernelQuotaPolicyDeleteWindow identity current defaults existing nowMs
        = ⟨newWindow identity defaults.windowMs nowMs, true⟩ ∨
    ∃ window, existing = some window ∧ window.appliedWindowMs = defaults.windowMs ∧
      decideKernelQuotaPolicyDeleteWindow identity current defaults existing nowMs
        = ⟨window, false⟩ := by
  unfold decideKernelQuotaPolicyDeleteWindow
  split_ifs with heq
  · rcases windowForEffectivePolicy_cases existing identity defaults.windowMs nowMs with
      ⟨hnew, -⟩ | hkept
    · exact .inl hnew
    · exact .inr hkept
  · exact .inl rfl

theorem decideKernelQuotaPolicyDeletePrecondition_eq_proceed
    (h : decideKernelQuotaPolicyDeletePrecondition policy defaultCutover = .proceed) :
    defaultCutover = none := by
  unfold decideKernelQuotaPolicyDeletePrecondition at h
  split_ifs at h with hpol hcut
  cases defaultCutover with
  | none => rfl
  | some value => exact absurd rfl hcut

end UbqGateway.Kernel
