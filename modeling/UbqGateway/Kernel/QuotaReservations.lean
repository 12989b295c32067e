import UbqGateway.Kernel.NativeKernel

/-!
# The programs of a reservation

The functions of `src/kernel/quota-reservations.ts` as programs against the shared store: settling,
renewing and reclaiming a reservation, and the guard of a change of the default window.  An error
that the source throws ends the program with that error, and `try … catch` is `tryCatch`.

A `for await` over `kv.list` has no bound of its own, so a program takes the number `fuel` of
entries it will look at and ends with an error after that many, as a listing does that fails.  The
clients run the programs of every `fuel`.  `withKernelQuotaLock` serializes the clients of one
process only and is left out: the clients here are those of all processes.

Each commit carries a `KernelCommit`, which names the operation for the history and is not stored.
-/

namespace UbqGateway.Kernel

/-- What a commit of the history is labelled with.  `created` tells whether the window it stores is
a new one, and `listed` is the entry in which a reclaimer saw the reservation. -/
inductive KernelCommit
  | reserve (identity : KernelQuotaIdentity) (windowCreatedAtMs : ℤ) (created : Bool)
  | terminalIntent (request : KernelQuotaReservationIdentity)
  | settle (request : KernelQuotaReservationIdentity)
  | reclaim (request : KernelQuotaReservationIdentity) (nowMs : ℤ) (listed : Entry KernelValue)
  | renew (request : KernelQuotaReservationIdentity)
  | setPolicy (identity : KernelQuotaIdentity) (windowCreatedAtMs : ℤ) (created : Bool)
  | deletePolicy (identity : KernelQuotaIdentity) (windowCreatedAtMs : ℤ) (created : Bool)
  | acquireCutover
  | releaseCutover
  | expireCutover
  | updateDefaults
deriving DecidableEq

/-- Programs of the kernel quota; an error is the text of a thrown `Error`. -/
abbrev KernelM := ExceptT String (Prog KvKey KernelValue KernelCommit)

/-! ### Instructions -/

/-- `kv.get` -/
def kvGet (key : KvKey) : KernelM (Option (Entry KernelValue)) := ExceptT.lift (Prog.get key)

/-- `Promise.all` of several `kv.get` -/
def kvGets (keys : List KvKey) : KernelM (KvKey → Option (Entry KernelValue)) :=
  ExceptT.lift (Prog.gets keys)

/-- `Date.now()` -/
def dateNow : KernelM ℤ := ExceptT.lift Prog.clock

/-- `kv.atomic()…commit()` -/
def kvCommit (label : KernelCommit) (checks : List (Check KvKey KernelValue))
    (writes : List (Write KvKey KernelValue)) : KernelM Bool :=
  ExceptT.lift (Prog.transaction label checks writes)

/-- The next entry of `kv.list` among the keys that satisfy `p`. -/
def kvNext (p : KvKey → Bool) (cursor : Cursor KvKey) :
    KernelM (Cursor KvKey × Option (KvKey × Entry KernelValue)) :=
  ExceptT.lift (.next p cursor fun cursor entry => .pure (cursor, entry))

/-- The result of a function that may throw. -/
def orThrow {α : Type} (result : Except String α) : KernelM α := ExceptT.mk (.pure result)

/-- The value of an entry, `none` for an absent key. -/
def valueOf (entry : Option (Entry KernelValue)) : Option KernelValue := entry.map Entry.value

/-- The prefix `kernelReservationWindowPrefix`. -/
def isReservationOf (identity : KernelQuotaIdentity) (windowCreatedAtMs : ℤ) : KvKey → Bool
  | .reservation rowIdentity createdAtMs _ =>
    decide (rowIdentity = identity) && decide (createdAtMs = windowCreatedAtMs)
  | _ => false

/-- The prefixes `KERNEL_REPO_WINDOW_V2_PREFIX` and `KERNEL_ORG_WINDOW_V2_PREFIX`. -/
def isWindowOf : KernelQuotaScope → KvKey → Bool
  | .repo, .window (.repo _ _) => true
  | .org, .window (.org _) => true
  | _, _ => false

namespace KernelQuotaReservationIdentity

/-- `kernelReservationKey` -/
def key (request : KernelQuotaReservationIdentity) : KvKey :=
  .reservation request.identity request.windowCreatedAtMs request.requestId

end KernelQuotaReservationIdentity

/-! ### Reading a window -/

/-- The loop of `reconcileKernelQuotaWindowReservations`, with `count` rows counted. -/
def countReservedRows (identity : KernelQuotaIdentity) (windowCreatedAtMs : ℤ) :
    ℕ → Cursor KvKey → ℤ → KernelM ℤ
  | 0, _, _ => throw "listing interrupted"
  | fuel + 1, cursor, count => do
    let (cursor, listed) ← kvNext (isReservationOf identity windowCreatedAtMs) cursor
    match listed with
    | none => return count
    | some (key, entry) =>
      let row ← orThrow (requireKernelReservationRow key entry.value identity windowCreatedAtMs)
      countReservedRows identity windowCreatedAtMs fuel cursor
        (if row.state = .reserved then count + 1 else count)

def reconcileKernelQuotaWindowReservations (fuel : ℕ) (entry : Option (Entry KernelValue))
    (identity : KernelQuotaIdentity) : KernelM (Option KernelQuotaWindowV2) :=
  match normalizeKernelQuotaWindowV2 (valueOf entry) identity, valueOf entry with
  | some window, some (.legacyWindow _) => do
    let reservedRequests ← countReservedRows identity window.createdAtMs fuel .start 0
    return some { window with reservedRequests := reservedRequests }
  | window, _ => return window

/-! ### The owner of a reservation -/

/-- `recordKernelReservationTerminalIntentUnlocked`: the new expiry of the lease, or why there is
none. -/
def recordKernelReservationTerminalIntentUnlocked (request : KernelQuotaReservationIdentity)
    (terminalState : TerminalState) (nowMs : ℤ) :
    KernelM (Except KernelReservationSettlement ℤ) := do
  let reservationEntry ← kvGet request.key
  match decideKernelQuotaTerminalIntent request (valueOf reservationEntry) terminalState nowMs with
  | .unchanged outcome => return .error outcome
  | .intent reservation leaseExpiresAtMs =>
    let committed ← kvCommit (.terminalIntent request) [⟨request.key, reservationEntry⟩]
      [.set request.key (.reservation reservation)]
    return if committed = true then .ok leaseExpiresAtMs else .error .conflict

/-- The error for an outcome that cannot be settled. -/
def settlementError (terminalState : TerminalState) : KernelReservationSettlement → String
  | .terminalMismatch => "Kernel quota reservation was already " ++
      (if terminalState = .committed then "released" else "committed")
  | .missing => "Kernel quota reservation is missing"
  | _ => "Kernel quota reservation is malformed"

/-- `attemptRecordKernelReservationTerminalIntent`: `none` is `"retry"`, `some none` that the
reservation was already settled. -/
def attemptRecordKernelReservationTerminalIntent (request : KernelQuotaReservationIdentity)
    (terminalState : TerminalState) (nowMs : ℤ) : KernelM (Option (Option ℤ)) := do
  match ← recordKernelReservationTerminalIntentUnlocked request terminalState nowMs with
  | .ok leaseExpiresAtMs => return some (some leaseExpiresAtMs)
  | .error .settled => return some none
  | .error .conflict => return none
  | .error outcome => throw (settlementError terminalState outcome)

/-- `recordKernelReservationTerminalIntent` with `n` attempts left. -/
def recordTerminalIntentLoop (request : KernelQuotaReservationIdentity)
    (terminalState : TerminalState) : ℕ → KernelM (Option ℤ)
  | 0 => throw "Kernel quota reservation terminal intent could not be recorded"
  | n + 1 => do
    let outcome ← tryCatch
      (do attemptRecordKernelReservationTerminalIntent request terminalState (← dateNow))
      fun _ => return none
    match outcome with
    | some outcome => return outcome
    | none => recordTerminalIntentLoop request terminalState n

def recordKernelReservationTerminalIntent (request : KernelQuotaReservationIdentity)
    (terminalState : TerminalState) : KernelM (Option ℤ) :=
  recordTerminalIntentLoop request terminalState maxKvRetries

def settleKernelReservationUnlocked (fuel : ℕ) (label : KernelCommit)
    (request : KernelQuotaReservationIdentity) (terminalState : TerminalState) (reason : String)
    (nowMs : ℤ) : KernelM KernelReservationSettlement := do
  let got ← kvGets [.window request.identity, request.key]
  let windowEntry := got (.window request.identity)
  let reservationEntry := got request.key
  match normalizeKernelQuotaReservationRowV2 (valueOf reservationEntry) request.identity with
  | none => return if reservationEntry.isNone = true then .missing else .invalid
  | some reservation =>
    match kernelReservationPrecondition reservation request.requestId request.route
        request.windowCreatedAtMs terminalState with
    | some precondition => return precondition
    | none =>
      let window ← reconcileKernelQuotaWindowReservations fuel windowEntry request.identity
      match decideKernelQuotaSettlement reservation window windowEntry.isSome terminalState reason
          nowMs with
      | .unchanged outcome => return outcome
      | .settle reservation window =>
        let committed ← kvCommit label
          [⟨.window request.identity, windowEntry⟩, ⟨request.key, reservationEntry⟩]
          ((window.map fun window => .set (.window request.identity) (.window window)).toList ++
            [.set request.key (.reservation reservation)])
        return if committed = true then .settled else .conflict

/-- `settleKernelReservation` with `n` attempts left. -/
def settleLoop (fuel : ℕ) (request : KernelQuotaReservationIdentity)
    (terminalState : TerminalState) (reason : String) : ℕ → KernelM Unit
  | 0 => throw "Kernel quota reservation could not be settled"
  | n + 1 => do
    let outcome ← tryCatch
      (do settleKernelReservationUnlocked fuel (.settle request) request terminalState reason
            (← dateNow))
      fun _ => return .conflict
    -- what is not settled is tried again, also after an error
    if outcome = .settled then return ()
    else settleLoop fuel request terminalState reason n

def settleKernelReservation (fuel : ℕ) (request : KernelQuotaReservationIdentity)
    (terminalState : TerminalState) (reason : String) : KernelM Unit :=
  settleLoop fuel request terminalState reason maxKvRetries

/-- `launchSettlement` of `kernelReservationContext`: the intent is stored before the settlement. -/
def launchSettlement (fuel : ℕ) (request : KernelQuotaReservationIdentity)
    (terminalState : TerminalState) (reason : String) : KernelM Unit := do
  let _ ← recordKernelReservationTerminalIntent request terminalState
  settleKernelReservation fuel request terminalState reason

/-- One attempt of `renewKernelReservation`. -/
def attemptRenewKernelReservation (request : KernelQuotaReservationIdentity) :
    KernelM (Option ℤ) := do
  let entry ← kvGet request.key
  let nowMs ← dateNow
  let (reservation, leaseExpiresAtMs) ←
    orThrow (decideKernelQuotaRenewal request (valueOf entry) nowMs)
  let committed ← kvCommit (.renew request) [⟨request.key, entry⟩]
    [.set request.key (.reservation reservation)]
  return if committed = true then some leaseExpiresAtMs else none

/-- `renewKernelReservation` with `n` attempts left. -/
def renewLoop (request : KernelQuotaReservationIdentity) : ℕ → KernelM ℤ
  | 0 => throw "Kernel quota reservation lease could not be renewed"
  | n + 1 => do
    match ← tryCatch (attemptRenewKernelReservation request) fun _ => return none with
    | some leaseExpiresAtMs => return leaseExpiresAtMs
    | none => renewLoop request n

def renewKernelReservation (request : KernelQuotaReservationIdentity) : KernelM ℤ :=
  renewLoop request maxKvRetries

/-! ### Reclaiming -/

/-- `settleExpiredKernelReservation` with `n` attempts left. -/
def settleExpiredLoop (fuel : ℕ) (request : KernelQuotaReservationIdentity)
    (listed : Entry KernelValue) (terminalState : TerminalState) (nowMs : ℤ) : ℕ → KernelM Bool
  | 0 => return false
  | n + 1 => do
    match ← settleKernelReservationUnlocked fuel (.reclaim request nowMs listed) request
        terminalState (if terminalState = .committed then "completed" else "lease_expired")
        nowMs with
    | .conflict => settleExpiredLoop fuel request listed terminalState nowMs n
    | .invalid => throw "Kernel quota reservation is malformed"
    | _ => return true

/-- The loop of `reclaimExpiredKernelReservationUnlocked`. -/
def reclaimLoop (fuel : ℕ) (identity : KernelQuotaIdentity) (window : KernelQuotaWindowV2)
    (nowMs : ℤ) : ℕ → Cursor KvKey → Bool → KernelM Bool
  | 0, _, _ => throw "listing interrupted"
  | n + 1, cursor, sawExpired => do
    let (cursor, listed) ← kvNext (isReservationOf identity window.createdAtMs) cursor
    match listed with
    | none =>
      if sawExpired = true then throw "Kernel quota reservation changed concurrently"
      else return false
    | some (key, entry) =>
      let reservation ←
        orThrow (requireKernelReservationRow key entry.value identity window.createdAtMs)
      match decideKernelQuotaReclaim reservation nowMs with
      | none => reclaimLoop fuel identity window nowMs n cursor sawExpired
      | some terminalState =>
        -- the settlement reads the row again
        let settled ← settleExpiredLoop fuel
          ⟨identity, window.createdAtMs, reservation.requestId, reservation.route⟩ entry
          terminalState nowMs maxKvRetries
        if settled = true then return true
        else reclaimLoop fuel identity window nowMs n cursor true

def reclaimExpiredKernelReservationUnlocked (fuel : ℕ) (identity : KernelQuotaIdentity)
    (window : KernelQuotaWindowV2) (nowMs : ℤ) : KernelM Bool :=
  reclaimLoop fuel identity window nowMs fuel .start false

/-! ### The guard of the default window -/

def kernelScopeHasPolicy (identity : KernelQuotaIdentity) : KernelM Bool := do
  let policyEntry ← kvGet (.policy identity)
  if policyEntry.isNone = true then return false
  else if normalizeKernelQuotaPolicyV2 (valueOf policyEntry) identity = none then
    throw "Kernel quota policy is malformed"
  else return true

/-- `kernelWindowHasLiveReservations` with `n` attempts left. -/
def windowHasLiveLoop (fuel : ℕ) (identity : KernelQuotaIdentity) : ℕ → KernelM Bool
  | 0 => throw "Kernel quota reservations changed concurrently"
  | n + 1 => do
    let nowMs ← dateNow
    let windowEntry ← kvGet (.window identity)
    let window ← reconcileKernelQuotaWindowReservations fuel windowEntry identity
    match window with
    | none =>
      if windowEntry.isSome = true then throw "Kernel quota window is malformed"
      else return false
    | some live =>
      if hasLiveKernelReservations window nowMs = true then
        let reclaimed ← reclaimExpiredKernelReservationUnlocked fuel identity live nowMs
        if reclaimed = true then windowHasLiveLoop fuel identity n else return true
      else return false

def kernelWindowHasLiveReservations (fuel : ℕ) (identity : KernelQuotaIdentity) : KernelM Bool :=
  windowHasLiveLoop fuel identity maxKvRetries

def kernelWindowScopeTarget : KvKey → Except String KernelQuotaIdentity
  | .window (.repo owner repo) =>
    if owner = "" then .error "Kernel quota window key is malformed"
    else if repo = "" then .error "Kernel repo quota window key is malformed"
    else .ok (.repo owner repo)
  | .window (.org owner) =>
    if owner = "" then .error "Kernel quota window key is malformed" else .ok (.org owner)
  | _ => .error "Kernel quota window key is malformed"

/-- The locked part of `hasLiveDefaultBackedKernelReservations`: one scope. -/
def hasLiveDefaultBacked (fuel : ℕ) (identity : KernelQuotaIdentity) : KernelM Bool := do
  let hasPolicy ← kernelScopeHasPolicy identity
  if hasPolicy = true then return false
  else kernelWindowHasLiveReservations fuel identity

/-- The windows of one scope in `hasLiveDefaultBackedKernelReservations`. -/
def hasLiveInScope (fuel : ℕ) (scope : KernelQuotaScope) : ℕ → Cursor KvKey → KernelM Bool
  | 0, _ => throw "listing interrupted"
  | n + 1, cursor => do
    let (cursor, listed) ← kvNext (isWindowOf scope) cursor
    match listed with
    | none => return false
    | some (key, _) =>
      let identity ← orThrow (kernelWindowScopeTarget key)
      let hasLive ← hasLiveDefaultBacked fuel identity
      if hasLive = true then return true
      else hasLiveInScope fuel scope n cursor

def hasLiveDefaultBackedKernelReservations (fuel : ℕ) : KernelM Bool := do
  let repoLive ← hasLiveInScope fuel .repo fuel .start
  if repoLive = true then return true
  else hasLiveInScope fuel .org fuel .start

def releaseKernelDefaultWindowCutover (guard : Entry KernelValue) : KernelM Unit := do
  let _ ← kvCommit .releaseCutover [⟨.defaultWindowCutover, some guard⟩]
    [.delete .defaultWindowCutover]

/-- What `acquireKernelDefaultWindowCutover` does once its marker is stored: the guard is kept only
if no reservation rests on the defaults. -/
def checkCutoverGuard (fuel : ℕ) (guard : Entry KernelValue) :
    KernelM (Except CutoverRefusal (Entry KernelValue)) :=
  tryCatch
    (do
      let hasLive ← hasLiveDefaultBackedKernelReservations fuel
      if hasLive = true then do
        releaseKernelDefaultWindowCutover guard
        return .error .activeReservations
      else return .ok guard)
    fun _ => do
      releaseKernelDefaultWindowCutover guard
      return .error .unavailable

/-- `acquireKernelDefaultWindowCutover`; `id` is the result of `crypto.randomUUID()`. -/
def acquireKernelDefaultWindowCutover (fuel : ℕ) (id : String)
    (expectedLimitEntry expectedWindowEntry : Option (Entry KernelValue)) :
    KernelM (Except CutoverRefusal (Entry KernelValue)) := do
  let markerEntry ← kvGet .defaultWindowCutover
  match decideKernelDefaultWindowCutover (valueOf markerEntry) id (← dateNow) with
  | .refused reason => return .error reason
  | .acquire marker =>
    let acquired ← kvCommit .acquireCutover
      [⟨.defaultWindowCutover, markerEntry⟩, ⟨.defaultLimit, expectedLimitEntry⟩,
        ⟨.defaultWindow, expectedWindowEntry⟩]
      [.set .defaultWindowCutover (.cutover marker)]
    if acquired = true then
      match ← kvGet .defaultWindowCutover with
      | none => return .error .unavailable
      | some guard =>
        if kernelDefaultWindowCutoverAcquired (some guard.value) marker.id = true then
          checkCutoverGuard fuel guard
        else return .error .unavailable
    else return .error .concurrentChange

end UbqGateway.Kernel
