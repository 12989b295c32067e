import UbqGateway.Kernel.QuotaWrite

/-!
# What a commit of the kernel quota does

`KernelStep w label writes` says once, for each kind of commit, what it does to the store of the
world `w` it is made in and what held there.  A client decides from entries that it read earlier;
because it checks them, they are the current ones when the commit succeeds, and the step relation
speaks about the current store only.  That the programs make no other commits is proved in
`Guarantee`.
-/

namespace UbqGateway.Kernel

/-- The histories of the kernel quota's store. -/
abbrev KernelWorld := World KvKey KernelValue KernelCommit

/-! ### Reading the store -/

/-- The window that the store holds for an identity. -/
def windowOf (kv : KernelKv) (identity : KernelQuotaIdentity) : Option KernelQuotaWindowV2 :=
  match kv.value (.window identity) with
  | some (.window window) => some window
  | _ => none

/-- The reservation row that the store holds under a key. -/
def rowOf (kv : KernelKv) (key : KvKey) : Option KernelQuotaReservationRowV2 :=
  match kv.value key with
  | some (.reservation row) => some row
  | _ => none

/-- The defaults that the store holds. -/
def defaultsOf (kv : KernelKv) : KernelQuotaDefaults :=
  loadDefaults (kv.value .defaultLimit) (kv.value .defaultWindow)

def effectivePolicy (kv : KernelKv) (identity : KernelQuotaIdentity) :
    Except String KernelQuotaEffectivePolicy :=
  policyFor (kv.value (.policy identity)) identity (defaultsOf kv)

/-- No reservation of the identity rests on the defaults at time `t`: it has a policy of its own, or
its window holds no live reservation. -/
def Quiet (kv : KernelKv) (t : ℤ) (identity : KernelQuotaIdentity) : Prop :=
  (kv.value (.policy identity)).isSome = true ∨
    hasLiveKernelReservations (windowOf kv identity) t = false

theorem windowOf_eq_some :
    windowOf kv identity = some window ↔ kv.value (.window identity) = some (.window window) := by
  unfold windowOf
  split
  · next h => rw [h]; simp
  · next h =>
    constructor
    · intro hno
      cases hno
    · intro hsome
      exact absurd hsome (h window)

theorem rowOf_eq_some : rowOf kv key = some row ↔ kv.value key = some (.reservation row) := by
  unfold rowOf
  split
  · next h => rw [h]; simp
  · next h =>
    constructor
    · intro hno
      cases hno
    · intro hsome
      exact absurd hsome (h row)

/-! ### Reading after a commit -/

section Apply

variable {kv : KernelKv}

theorem value_apply_of_untouched (h : Kv.written key writes = none) :
    (kv.apply writes).value key = kv.value key := by
  rw [Kv.value_apply, h]
  rfl

theorem windowOf_apply_of_untouched (h : Kv.written (.window identity) writes = none) :
    windowOf (kv.apply writes) identity = windowOf kv identity := by
  unfold windowOf
  rw [value_apply_of_untouched h]

theorem windowOf_apply_of_set (window : KernelQuotaWindowV2)
    (h : Kv.written (.window identity) writes = some (some (.window window))) :
    windowOf (kv.apply writes) identity = some window := by
  rw [windowOf_eq_some, Kv.value_apply, h]
  rfl

theorem rowOf_apply_of_untouched (h : Kv.written key writes = none) :
    rowOf (kv.apply writes) key = rowOf kv key := by
  unfold rowOf
  rw [value_apply_of_untouched h]

theorem rowOf_apply_of_set (row : KernelQuotaReservationRowV2)
    (h : Kv.written key writes = some (some (.reservation row))) :
    rowOf (kv.apply writes) key = some row := by
  rw [rowOf_eq_some, Kv.value_apply, h]
  rfl

end Apply

/-! ### The steps -/

section Step

variable (clockOk : ℤ → ℤ → Prop) (w : KernelWorld)

def NotAhead : Prop := ∀ time t, clockOk time t → t ≤ time

/-- A clock showed `t`, now or earlier. -/
def Showed (t : ℤ) : Prop := ∃ time ≤ w.time, clockOk time t

/-- Who settles: the owner of the reservation, or a reclaimer that saw its lease expired in a
listing, now or earlier. -/
inductive SettledBy (request : KernelQuotaReservationIdentity) (nowMs : ℤ) : KernelCommit → Prop
  | owner : SettledBy request nowMs (.settle request)
  | reclaimer (n : ℕ) (listed : Entry KernelValue) (row : KernelQuotaReservationRowV2)
      (hn : n ≤ w.length) (hlst : (w.storeAt n).get request.key = some listed)
      (hrow : listed.value = .reservation row) (hsta : row.state = .reserved)
      (hls : row.leaseExpiresAtMs ≤ nowMs) :
      SettledBy request nowMs (.reclaim request nowMs listed)

/-- The row that the store holds for the request is reserved, and nothing speaks against settling
it into `terminalState`. -/
structure Settleable (request : KernelQuotaReservationIdentity) (terminalState : TerminalState)
    (row : KernelQuotaReservationRowV2) : Prop where
  stored : rowOf w.store request.key = some row
  created : row.windowCreatedAtMs = request.windowCreatedAtMs
  reserved : row.state = .reserved
  intent : row.terminalIntent = none ∨ row.terminalIntent = some terminalState

inductive KernelStep : KernelCommit → List (Write KvKey KernelValue) → Prop
  | reserve (identity : KernelQuotaIdentity) (effective : KernelQuotaEffectivePolicy)
      (resolved : KernelQuotaEffectiveWindow) (requestId route : String) (nowMs : ℤ)
      (hnow : Showed clockOk w nowMs)
      (hpol : effectivePolicy w.store identity = .ok effective)
      (hcut : effective.source = .default → w.store.value .defaultWindowCutover = none)
      (hrsv : resolved = windowForEffectivePolicy (windowOf w.store identity) identity
        effective.windowMs nowMs)
      (hnew : w.store.value (.reservation identity resolved.window.createdAtMs requestId) = none)
      (hroom : effective.limit = noUsageLimit ∨
        resolved.window.usageRequests + resolved.window.reservedRequests < effective.limit) :
      KernelStep (.reserve identity resolved.window.createdAtMs resolved.needsWrite)
        [.set (.window identity) (.window { resolved.window with
            reservedRequests := resolved.window.reservedRequests + 1, updatedAtMs := nowMs }),
          .set (.reservation identity resolved.window.createdAtMs requestId)
            (.reservation (reservedRow identity resolved.window requestId route nowMs))]
  -- the intent takes a new lease
  | terminalIntent (request : KernelQuotaReservationIdentity) (terminalState : TerminalState)
      (row : KernelQuotaReservationRowV2) (leaseExpiresAtMs : ℤ)
      (h : Settleable w request terminalState row) :
      KernelStep (.terminalIntent request)
        [.set request.key (.reservation { row with
          terminalIntent := some terminalState, leaseExpiresAtMs := leaseExpiresAtMs })]
  -- the window is written only if the row was reserved in it
  | settle (label : KernelCommit) (request : KernelQuotaReservationIdentity)
      (terminalState : TerminalState) (row settled : KernelQuotaReservationRowV2)
      (window : Option KernelQuotaWindowV2) (present : Bool) (reason : String) (nowMs : ℤ)
      (hlab : SettledBy w request nowMs label)
      (h : Settleable w request terminalState row)
      (hplan : decideKernelQuotaSettlement row (windowOf w.store request.identity) present
        terminalState reason nowMs = .settle settled window) :
      KernelStep label
        ((window.map fun window => .set (.window request.identity) (.window window)).toList ++
          [.set request.key (.reservation settled)])
  -- a renewal keeps the intent, whichever it is
  | renew (request : KernelQuotaReservationIdentity) (row : KernelQuotaReservationRowV2)
      (leaseExpiresAtMs : ℤ) (hst : rowOf w.store request.key = some row)
      (hres : row.state = .reserved) :
      KernelStep (.renew request)
        [.set request.key (.reservation { row with leaseExpiresAtMs := leaseExpiresAtMs })]
  -- the first policy of a repository takes it out of its organisation, which must be quiet
  | setPolicy (identity : KernelQuotaIdentity) (effective : KernelQuotaEffectivePolicy)
      (policy : KernelQuotaPolicyV2) (written : KernelQuotaEffectiveWindow) (reset : Bool)
      (nowMs : ℤ) (hnow : Showed clockOk w nowMs)
      (hpol : effectivePolicy w.store identity = .ok effective)
      (hcut : effective.source = .default → w.store.value .defaultWindowCutover = none)
      (hwr : written = decideKernelQuotaPolicyWrite identity policy
        (windowOf w.store identity) reset nowMs)
      (hrst : reset = true →
        hasLiveKernelReservations (windowOf w.store identity) nowMs = false)
      (hkeep : reset = false → policy.windowMs = effective.windowMs)
      (horg : ∀ owner repo, identity = .repo owner repo →
        w.store.value (.policy identity) = none →
          hasLiveKernelReservations (windowOf w.store (.org owner)) nowMs = false) :
      KernelStep (.setPolicy identity written.window.createdAtMs written.needsWrite)
        [.set (.policy identity) (.policy policy),
          .set (.window identity) (.window written.window)]
  | deletePolicy (identity : KernelQuotaIdentity) (effective : KernelQuotaEffectivePolicy)
      (next : KernelQuotaEffectiveWindow) (nowMs : ℤ) (hnow : Showed clockOk w nowMs)
      (hpol : effectivePolicy w.store identity = .ok effective)
      (hcut : w.store.value .defaultWindowCutover = none)
      (hnext : next = decideKernelQuotaPolicyDeleteWindow identity effective (defaultsOf w.store)
        (windowOf w.store identity) nowMs)
      (hlive : hasLiveKernelReservations (windowOf w.store identity) nowMs = false) :
      KernelStep (.deletePolicy identity next.window.createdAtMs next.needsWrite)
        [.delete (.policy identity), .set (.window identity) (.window next.window)]
  | acquireCutover (marker : KernelDefaultWindowCutoverV2) :
      KernelStep .acquireCutover [.set .defaultWindowCutover (.cutover marker)]
  -- a client releases its marker, or the store drops it when it expires
  | removeCutover (label : KernelCommit) (h : label = .releaseCutover ∨ label = .expireCutover) :
      KernelStep label [.delete .defaultWindowCutover]
  -- a new length of the default window is written only when no reservation rests on the old one
  | updateDefaults (cutover : Bool) (runtime : Option String) (limit window : Option ℤ)
      (hqt : (∀ windowMs ∈ window,
          normalizeWindow (some windowMs) defaultKernelPolicyWindowMs =
            (defaultsOf w.store).windowMs) ∨
        (NotAhead clockOk → ∀ identity, Quiet w.store w.time identity)) :
      KernelStep .updateDefaults
        ((if cutover = true then [.delete .defaultWindowCutover] else []) ++
          runtime.toList.map (fun config => .set .runtimeConfig (.runtimeConfig config)) ++
          limit.toList.map (fun limit => .set .defaultLimit (.number limit)) ++
          window.toList.map fun windowMs => .set .defaultWindow (.number windowMs))

end Step

end UbqGateway.Kernel
