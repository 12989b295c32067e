import UbqGateway.Library.Sequential
import UbqGateway.Kernel.QuotaReserve

/-!
# The SQL driver of the kernel quota

The functions of `src/authority/native-authority-kernel.ts` that a request runs: reserving,
recording the terminal intent, settling and renewing.  They take the same decisions as the programs
of `QuotaReservations` and `QuotaReserve`, but each runs in one transaction of the authority's
database, and a full window is tried again after all expired reservations of its scope were
reclaimed.

The tables `kernel_policy`, `kernel_window`, `kernel_reservation`, `kernel_cutover` and
`kernel_default` are one store, whose keys tell the tables apart; `request_lifetime` is a table of
its own.  A function that throws leaves both as they were, because the transaction is rolled back
(`SqlM.transaction`).
-/

namespace UbqGateway.Kernel

/-! ### The database -/

/-- The part of `NativeCapability` that the kernel quota reads. -/
structure NativeCapability where
  id : String
  principalId : String
  keyId : Option String
  /-- The owner and the repository of the kernel scope. -/
  kernel : Option (String × String)
deriving DecidableEq

/-- The part of `NativeRequest` that the kernel quota reads; `api` tells whether the policy of an
admission is stored. -/
structure NativeRequest where
  runtimeBindingId : String
  principalId : String
  keyId : Option String
  requestId : String
  route : String
  apiApplicable : Bool
  kernelApplicable : Bool
  api : Bool
  kernel : Option KernelQuotaReservationIdentity

structure SqlState where
  rows : KernelKv
  /-- `request_lifetime`, by handle -/
  requests : Record String NativeRequest

/-- The body of a transaction; an error is the code of a `NativeAuthorityError`. -/
abbrev SqlM := StateT SqlState (Except String)

/-- `transaction`: what the body returns and the tables after it, which are the old ones if it
throws. -/
def SqlM.transaction {α : Type} (body : SqlM α) (state : SqlState) : Except String α × SqlState :=
  match body.run state with
  | .ok (a, state) => (.ok a, state)
  | .error e => (.error e, state)

/-- `read` -/
def sqlRead (key : KvKey) : SqlM (Option KernelValue) := do
  return (← get).rows.value key

/-- `write` -/
def sqlWrite (key : KvKey) (value : KernelValue) : SqlM Unit :=
  modify fun state => { state with rows := state.rows.apply [.set key value] }

/-- The entries that come after a key, at most `limit` of them, in the order of the keys. -/
def pageFrom (rows : KernelKv) (p : KvKey → Bool) : ℕ → Option KvKey → List (KvKey × KernelValue)
  | 0, _ => []
  | limit + 1, after =>
    match rows.firstAfter p after with
    | none => []
    | some (key, entry) => (key, entry.value) :: pageFrom rows p limit (some key)

/-- `page` -/
def sqlPage (p : KvKey → Bool) (after : Option KvKey) (limit : ℕ) :
    SqlM (List (KvKey × KernelValue)) := do
  return pageFrom (← get).rows p limit after

namespace NativeAuthorityKernel

def request (cap : NativeCapability) (handle : String) : SqlM NativeRequest := do
  match (← get).requests.lookup handle with
  | none => throw "request_ownership_mismatch"
  | some row =>
    if row.principalId ≠ cap.principalId ∨ row.keyId ≠ cap.keyId ∨
        row.runtimeBindingId ≠ cap.id then throw "request_ownership_mismatch"
    else return row

def save (handle : String) (row : NativeRequest) : SqlM Unit :=
  modify fun state => { state with requests := state.requests.insert handle row }

inductive NativeReply
  | notApplicable
  | refused (refusal : KernelQuotaRefusal)
  | full (window : KernelQuotaWindowV2) (limit : ℤ)
  | reserved (row : KernelQuotaReservationRowV2)
  | unchanged (outcome : KernelReservationSettlement)
  | intent (row : KernelQuotaReservationRowV2)
  | settle (row : KernelQuotaReservationRowV2)
  | renewed (row : KernelQuotaReservationRowV2)

/-! ### Reading -/

def defaults : SqlM KernelQuotaDefaults := do
  return loadDefaults (← sqlRead .defaultLimit) (← sqlRead .defaultWindow)

/-- `_readWindow`: the window, and whether there is an entry. -/
def readWindow (identity : KernelQuotaIdentity) : SqlM (Option KernelQuotaWindowV2 × Bool) := do
  let row ← sqlRead (.window identity)
  let value := normalizeKernelQuotaWindowV2 row identity
  if row.isSome = true ∧ value = none then throw "kernel_window_malformed"
  else return (value, row.isSome)

/-- The rows whose parent is the window of the scope. -/
def isReservationIn (identity : KernelQuotaIdentity) : KvKey → Bool
  | .reservation rowIdentity _ _ => decide (rowIdentity = identity)
  | _ => false

def writeReservation (identity : KernelQuotaIdentity) (row : KernelQuotaReservationRowV2) :
    SqlM Unit :=
  sqlWrite (.reservation identity row.windowCreatedAtMs row.requestId) (.reservation row)

/-! ### Settling -/

/-- `_settle` -/
def settleRow (identity : KernelQuotaReservationIdentity) (target : TerminalState)
    (reason : String) (now : ℤ) : SqlM NativeReply := do
  let read ← sqlRead identity.key
  match normalizeKernelQuotaReservationRowV2 read identity.identity with
  | none => return .unchanged (if read.isNone = true then .missing else .invalid)
  | some row =>
    match kernelReservationPrecondition row identity.requestId identity.route
        identity.windowCreatedAtMs target with
    | some precondition => return .unchanged precondition
    | none =>
      let (window, present) ← readWindow identity.identity
      match decideKernelQuotaSettlement row window present target reason now with
      | .unchanged outcome => return .unchanged outcome
      | .settle reservation window =>
        writeReservation identity.identity reservation
        match window with
        | none => return .settle reservation
        | some window =>
          sqlWrite (.window identity.identity) (.window window)
          return .settle reservation

/-- The rows of one page in `_reclaimWindow`: how many of them were reclaimed. -/
def reclaimPage (identity : KernelQuotaIdentity) (now : ℤ) : List (KvKey × KernelValue) → ℕ → SqlM ℕ
  | [], count => return count
  | (_, value) :: page, count => do
    match normalizeKernelQuotaReservationRowV2 (some value) identity with
    | none => throw "kernel_reservation_malformed"
    | some row =>
      match decideKernelQuotaReclaim row now with
      | none => reclaimPage identity now page count
      | some target =>
        let _ ← settleRow ⟨identity, row.windowCreatedAtMs, row.requestId, row.route⟩ target
          "reservation_lease_expired" now
        reclaimPage identity now page (count + 1)

/-- The loop of `_reclaimWindow`, for at most `fuel` pages. -/
def reclaimPages (identity : KernelQuotaIdentity) (now : ℤ) : ℕ → Option KvKey → ℕ → SqlM ℕ
  | 0, _, _ => throw "listing interrupted"
  | fuel + 1, after, count => do
    let page ← sqlPage (isReservationIn identity) after 100
    let count ← reclaimPage identity now page count
    if page.length < 100 then return count
    else reclaimPages identity now fuel (page.getLast?.map Prod.fst) count

/-- `_reclaimWindow`.  It looks at all rows, so their number bounds the number of pages. -/
def reclaimWindow (identity : KernelQuotaIdentity) (now : ℤ) : SqlM ℕ := do
  reclaimPages identity now ((← get).rows.rows.entries.length + 1) none 0

/-! ### The operations -/

/-- The inner function `decide` of `reserve`. -/
def decideReserve (identity : KernelQuotaIdentity) (effective : KernelQuotaEffectivePolicy)
    (request : NativeRequest) (now : ℤ) : SqlM KernelQuotaReservePlan := do
  let (current, _) ← readWindow identity
  let window := (windowForEffectivePolicy current identity effective.windowMs now).window
  let entry ← sqlRead (.reservation identity window.createdAtMs request.requestId)
  return decideKernelQuotaReserve identity effective window entry request.requestId request.route
    now

/-- What `reserve` does with a plan. -/
def reserveFrom (handle : String) (request : NativeRequest) (identity : KernelQuotaIdentity) :
    KernelQuotaReservePlan → SqlM NativeReply
  | .refused refusal => return .refused refusal
  | .full window limit => return .full window limit
  | .reserve reservation window => do
    sqlWrite (.window identity) (.window window)
    writeReservation identity reservation
    save handle { request with
      kernel := some ⟨identity, window.createdAtMs, request.requestId, request.route⟩ }
    return .reserved reservation

/-- The part of `reserve` that comes after the policies were looked at. -/
def reserveEligible (handle : String) (request : NativeRequest) (identity : KernelQuotaIdentity)
    (effective : KernelQuotaEffectivePolicy) (now : ℤ) : SqlM NativeReply := do
  match ← decideReserve identity effective request now with
  | .full window limit =>
    -- the window is looked at again only if something was reclaimed
    let reclaimed ← reclaimWindow identity now
    if 0 < reclaimed then
      reserveFrom handle request identity (← decideReserve identity effective request now)
    else return .full window limit
  | plan => reserveFrom handle request identity plan

/-- The scope of a request and the policies that were read for it. -/
def scopeOf (owner repo : String) (repoPolicy orgPolicy : Option KernelValue) :
    KernelQuotaScope → KernelQuotaIdentity × KernelQuotaEligibilitySnapshot
  | .repo => (.repo owner repo, ⟨repoPolicy, none, none, some .present⟩)
  | .org => (.org owner, ⟨orgPolicy, some repoPolicy, none, some .absent⟩)

def reserve (cap : NativeCapability) (handle : String) (now : ℤ) : SqlM NativeReply := do
  let request ← NativeAuthorityKernel.request cap handle
  if request.kernelApplicable = false then return .notApplicable
  else if request.apiApplicable = true ∧ request.api = false then throw "api_admission_required"
  else match cap.kernel with
  | none => throw "kernel_scope_not_applicable"
  | some (owner, repo) =>
    if request.kernel.isSome = true then
      return .refused ⟨503, "Kernel quota request already has a reservation"⟩
    else
      let repoPolicy ← sqlRead (.policy (.repo owner repo))
      let orgPolicy ← sqlRead (.policy (.org owner))
      match decideKernelQuotaScope repoPolicy orgPolicy owner repo with
      | .error e => throw e
      | .ok (scope, _) =>
        let (identity, snapshot) := scopeOf owner repo repoPolicy orgPolicy scope
        let cutover ← sqlRead .defaultWindowCutover
        match decideKernelQuotaEligibility identity { snapshot with defaultCutover := cutover }
            (← defaults) now with
        | .error e => throw e
        | .ok (.refused refusal) => return .refused refusal
        | .ok (.eligible effective) => reserveEligible handle request identity effective now

/-- `_identity` -/
def identityOf (cap : NativeCapability) (handle : String) :
    SqlM KernelQuotaReservationIdentity := do
  match (← NativeAuthorityKernel.request cap handle).kernel with
  | none => throw "kernel_reservation_missing"
  | some identity => return identity

def intent (cap : NativeCapability) (handle : String) (terminalState : TerminalState) (now : ℤ) :
    SqlM NativeReply := do
  let identity ← identityOf cap handle
  match decideKernelQuotaTerminalIntent identity (← sqlRead identity.key) terminalState now with
  | .unchanged outcome => return .unchanged outcome
  | .intent reservation _ =>
    writeReservation identity.identity reservation
    return .intent reservation

def settle (cap : NativeCapability) (handle : String) (terminalState : TerminalState)
    (reason : String) (now : ℤ) : SqlM NativeReply := do
  settleRow (← identityOf cap handle) terminalState reason now

def renew (cap : NativeCapability) (handle : String) (now : ℤ) : SqlM NativeReply := do
  let identity ← identityOf cap handle
  match decideKernelQuotaRenewal identity (← sqlRead identity.key) now with
  | .error e => throw e
  | .ok (reservation, _) =>
    writeReservation identity.identity reservation
    return .renewed reservation

end NativeAuthorityKernel

end UbqGateway.Kernel
