import UbqGateway.Kernel.Transactions

/-!
# The two drivers of the kernel quota

Requests are reserved, settled and renewed by programs against a key-value store or by transactions
of a database.  `drivers_admit_alike` runs the same operations through both, one after the other and
with the same clock: from corresponding stores, the drivers admit the same requests in every run
whose steps meet `StepOk`.

What a window would count without its lapsed reservations, the `demand`, is the same in
corresponding stores.  The SQL driver reclaims all expired reservations of a full window before it
refuses, so it admits a request exactly if the demand leaves room (`sql_reserve_admits_iff`).  The
key-value driver reclaims one, which may turn into usage (`expired_reservations_part_the_drivers`).
-/

namespace UbqGateway.Kernel

/-! ### One reservation in both drivers -/

section Capacity

variable {effective : KernelQuotaEffectivePolicy} {requestId route owner repo : String}

/-- What the window of a reservation would count without its lapsed reservations. -/
def demand (kv : KernelKv) (identity : KernelQuotaIdentity) (windowMs nowMs : ℤ) : ℤ :=
  (currentFrame (frameOf kv identity) windowMs nowMs).settledBefore
    + heldCount kv identity (currentWindow kv identity windowMs nowMs).createdAtMs nowMs

/-- What the window of a reservation counts. -/
def taken (kv : KernelKv) (identity : KernelQuotaIdentity) (windowMs nowMs : ℤ) : ℤ :=
  (currentWindow kv identity windowMs nowMs).usageRequests
    + (currentWindow kv identity windowMs nowMs).reservedRequests

/-- The lapsed reservations of the window of a reservation. -/
def lapsed (kv : KernelKv) (identity : KernelQuotaIdentity) (windowMs nowMs : ℤ) : ℕ :=
  lapsedCount kv identity (currentWindow kv identity windowMs nowMs).createdAtMs nowMs

theorem Sound.taken_eq (h : Sound nowMs a)
    (heff : effectivePolicy a identity = .ok effective) :
    taken a identity effective.windowMs nowMs = demand a identity effective.windowMs nowMs
      + lapsed a identity effective.windowMs nowMs :=
  h.usage_add_reserved heff

section

variable (h : Corresponding nowMs a b) (heff : effectivePolicy a identity = .ok effective)

include h heff

theorem Corresponding.createdAtMs_eq :
    (currentWindow b identity effective.windowMs nowMs).createdAtMs
      = (currentWindow a identity effective.windowMs nowMs).createdAtMs :=
  h.frames.currentWindow_createdAtMs h.left h.right heff

theorem Corresponding.currentWindow_rows (requestId : String) : Option.Rel (RowCorr nowMs)
      (rowOf a (.reservation identity
        (currentWindow a identity effective.windowMs nowMs).createdAtMs requestId))
      (rowOf b (.reservation identity
        (currentWindow a identity effective.windowMs nowMs).createdAtMs requestId)) := by
  obtain ⟨-, hfrm, -⟩ := h.left.currentWindow_spec heff
  have hrows := h.current_rows heff requestId
  rw [hfrm] at hrows
  exact hrows

theorem Corresponding.demand_eq :
    demand a identity effective.windowMs nowMs = demand b identity effective.windowMs nowMs := by
  unfold demand
  rw [h.frames.frames identity, h.createdAtMs_eq heff,
    heldCount_eq h.left.consistent h.right.consistent (h.currentWindow_rows heff)]

theorem Corresponding.rowOf_eq_none_iff (requestId : String) :
    rowOf a (.reservation identity (currentWindow a identity effective.windowMs nowMs).createdAtMs
        requestId) = none ↔
      rowOf b (.reservation identity (currentWindow b identity effective.windowMs nowMs).createdAtMs
        requestId) = none := by
  have hrel := h.currentWindow_rows heff requestId
  rw [h.createdAtMs_eq heff]
  generalize rowOf a _ = ra at hrel ⊢
  generalize rowOf b _ = rb at hrel ⊢
  cases hrel <;> simp

end

/-- Reclaiming leaves no more expired places than there were. -/
theorem Becomes.lapsed_le (h : Becomes (Reclaimed nowMs) nowMs a after) (ha : Sound nowMs a)
    (heff : effectivePolicy a identity = .ok effective) :
    lapsed after identity effective.windowMs nowMs
      ≤ lapsed a identity effective.windowMs nowMs := by
  unfold lapsed
  rw [h.frames.currentWindow_createdAtMs ha h.sound heff]
  generalize (currentWindow a identity effective.windowMs nowMs).createdAtMs = createdAtMs
  unfold lapsedCount
  rw [Kv.count_eq_card, Kv.count_eq_card]
  refine Finset.card_le_card fun key hkey => ?_
  rw [Kv.mem_matching] at hkey ⊢
  obtain ⟨value, hval, hrow⟩ := hkey
  obtain ⟨requestId, row, rfl, hst, hlapsed⟩ :=
    (isRowWith_eq_true_iff h.sound.consistent hval).mp hrow
  have hrel := h.rows identity createdAtMs requestId
  rw [hst] at hrel
  generalize hold : rowOf a (.reservation identity createdAtMs requestId) = old at hrel
  cases hrel with
  | some hreclaimed =>
    rcases hreclaimed with rfl | ⟨target, reason, -, rfl⟩
    · have hvalueA := rowOf_eq_some.mp hold
      exact ⟨_, hvalueA, (isRowWith_eq_true_iff ha.consistent hvalueA).mpr
        ⟨requestId, _, rfl, hold, hlapsed⟩⟩
    · -- a settled row has not lapsed
      have hsta := (of_decide_eq_true hlapsed).1
      rw [settledKernelReservationRow_state] at hsta
      cases target <;> cases hsta

theorem expired_released_iff :
    Expired nowMs row .released ↔ row.state = .reserved ∧ row.outcome nowMs = .released := by
  unfold Expired decideKernelQuotaReclaim KernelQuotaReservationRowV2.outcome
  by_cases hsta : row.state = .reserved
  · by_cases hls : row.leaseExpiresAtMs ≤ nowMs
    · cases hint : row.terminalIntent with
      | none => simp [hsta, hls]
      | some intent => cases intent <;> simp [hsta, hls]
    · simp only [hsta, hls, not_le.mp hls, or_true, if_true, if_false, reduceCtorEq, ne_eq,
        not_true_eq_false, true_and, false_iff]
      split_ifs <;> simp
  · simp [hsta]

theorem LiveAt.lapsed_eq_zero (h : LiveAt after nowMs
      (NativeAuthorityKernel.isReservationIn identity · = true)) (hsnd : Sound nowMs after) :
    lapsed after identity effective.windowMs nowMs = 0 := by
  unfold lapsed
  rw [lapsedCount_eq_zero_iff hsnd.consistent]
  rintro requestId row hrow ⟨hsta, houtc⟩
  exact h _ row .released (by simp [NativeAuthorityKernel.isReservationIn]) hrow
    (expired_released_iff.mpr ⟨hsta, houtc⟩)

/-- Releasing the first expired reservation frees one place. -/
theorem FirstExpired.taken_eq (h : Sound nowMs a)
    (heff : effectivePolicy a identity = .ok effective) (hfst : FirstExpired a identity
      (currentWindow a identity effective.windowMs nowMs).createdAtMs nowMs row .released) :
    taken (a.apply (settleWrites a row .released (reclaimReason .released) nowMs)) identity
      effective.windowMs nowMs = taken a identity effective.windowMs nowMs - 1 := by
  obtain ⟨hidt, hcr, -⟩ := KvKey.reservation.inj (h.consistent.row_spec hfst.stored).1
  unfold taken currentWindow at *
  rcases windowForEffectivePolicy_replaced (windowOf a identity) identity effective.windowMs nowMs
    with ⟨hrepl, hwin⟩ | ⟨hkept, window, hst, hwin⟩
  · -- a new window has no rows
    have hrow := hfst.stored
    rw [hwin] at hrow
    change rowOf a (.reservation identity nowMs row.requestId) = some row at hrow
    rw [h.rowOf_eq_none_of_replaced heff hrepl] at hrow
    cases hrow
  · rw [hwin] at hcr ⊢
    rw [Option.mem_def] at hst
    have hset : windowOf (a.apply (settleWrites a row .released (reclaimReason .released)
        nowMs)) identity = some (settledWindow window .released nowMs) := by
      rw [windowOf_settle, hst, Option.map_some, if_pos ⟨hidt.symm, hcr.symm⟩]
    have hin : ¬ ((settledWindow window .released nowMs).appliedWindowMs ≠ effective.windowMs ∨
        (settledWindow window .released nowMs).usageResetAtMs ≤ nowMs) := by
      intro hout
      refine hkept fun found hfd => ?_
      cases hst.symm.trans hfd
      exact hout
    rw [hset]
    unfold windowForEffectivePolicy
    dsimp only
    rw [if_neg hin]
    simp only [settledWindow]
    simp only [reduceCtorEq, if_false]
    omega

theorem FirstExpired.unique (hc : Consistent a)
    (h : FirstExpired a identity createdAtMs nowMs row target)
    (h' : FirstExpired a identity createdAtMs nowMs other otherTarget) :
    other = row ∧ otherTarget = target := by
  have hle := h.first _ _ _ h'.stored h'.expired
  have hge := h'.first _ _ _ h.stored h.expired
  rw [← (hc.row_spec h.stored).1] at hge
  rw [← (hc.row_spec h'.stored).1] at hle
  have hkey := le_antisymm hle hge
  obtain ⟨-, -, hid⟩ := KvKey.reservation.inj hkey
  have hrow := h.stored
  rw [hid, h'.stored] at hrow
  cases hrow
  exact ⟨rfl, Option.some.inj (h'.expired.symm.trans h.expired)⟩

/-- One reclaimed reservation is enough: where the window is full and has lapsed reservations
without which it is not, the first expired one is among them and makes room. -/
def ReclaimSuffices (kv : KernelKv) (identity : KernelQuotaIdentity)
    (effective : KernelQuotaEffectivePolicy) (nowMs : ℤ) : Prop :=
  effective.limit ≤ taken kv identity effective.windowMs nowMs →
    taken kv identity effective.windowMs nowMs - lapsed kv identity effective.windowMs nowMs
      < effective.limit →
    taken kv identity effective.windowMs nowMs ≤ effective.limit ∧
      ∃ row, FirstExpired kv identity
        (currentWindow kv identity effective.windowMs nowMs).createdAtMs nowMs row .released

/-- A reservation is answered as it is found, or decided after reclaiming. -/
theorem ReserveIn.mid {reclaim : KernelKv → KernelQuotaIdentity → ℤ → ℤ → KernelKv → Prop}
    {admitted : Option KernelQuotaReservationIdentity} (hsnd : Sound nowMs a)
    (hrcl : ∀ createdAtMs mid, reclaim a identity createdAtMs nowMs mid →
      Becomes (Reclaimed nowMs) nowMs a mid)
    (h : ReserveIn reclaim a identity effective requestId route nowMs admitted after) :
    (rowOf a (.reservation identity (currentWindow a identity effective.windowMs nowMs).createdAtMs
        requestId) ≠ none ∧ admitted = none ∧ after = a) ∨
    (rowOf a (.reservation identity (currentWindow a identity effective.windowMs nowMs).createdAtMs
        requestId) = none ∧ ∃ mid, Becomes (Reclaimed nowMs) nowMs a mid ∧
      ((Room effective (currentWindow mid identity effective.windowMs nowMs) ∧
          admitted = some ⟨identity,
            (currentWindow mid identity effective.windowMs nowMs).createdAtMs, requestId, route⟩ ∧
          after = mid.apply (reserveWrites identity
            (currentWindow mid identity effective.windowMs nowMs) requestId route nowMs)) ∨
        (¬ Room effective (currentWindow a identity effective.windowMs nowMs) ∧
          reclaim a identity (currentWindow a identity effective.windowMs nowMs).createdAtMs nowMs
            mid ∧
          ¬ Room effective (currentWindow mid identity effective.windowMs nowMs) ∧
          admitted = none ∧ after = mid))) := by
  cases h with
  | conflict hrow => exact .inl ⟨hrow, rfl, rfl⟩
  | reserve hrow hroom =>
    exact .inr ⟨hrow, a, .reclaimed_refl hsnd, .inl ⟨hroom, rfl, rfl⟩⟩
  | reclaimed hrow _ hmid hroom =>
    exact .inr ⟨hrow, _, hrcl _ _ hmid, .inl ⟨hroom, rfl, rfl⟩⟩
  | full hrow hfull hmid hstll =>
    exact .inr ⟨hrow, after, hrcl _ _ hmid, .inr ⟨hfull, hmid, hstll, rfl, rfl⟩⟩

/-- The demand leaves room. -/
def Wanted (kv : KernelKv) (identity : KernelQuotaIdentity) (effective : KernelQuotaEffectivePolicy)
    (nowMs : ℤ) : Prop :=
  effective.limit = noUsageLimit ∨ demand kv identity effective.windowMs nowMs < effective.limit

theorem Room.wanted (h : Room effective (currentWindow a identity effective.windowMs nowMs))
    (hsnd : Sound nowMs a) (heff : effectivePolicy a identity = .ok effective) :
    Wanted a identity effective nowMs := by
  have htkn := hsnd.taken_eq heff
  refine h.imp id fun hroom => ?_
  change taken a identity effective.windowMs nowMs < effective.limit at hroom
  omega

theorem ReclaimAll.not_wanted (h : ReclaimAll b identity createdAtMs nowMs after)
    (heff : effectivePolicy after identity = .ok effective)
    (hstll : ¬ Room effective (currentWindow after identity effective.windowMs nowMs)) :
    ¬ Wanted after identity effective nowMs := by
  have htkn := h.1.sound.taken_eq heff
  have hzero : lapsed after identity effective.windowMs nowMs = 0 := h.2.lapsed_eq_zero h.1.sound
  intro hwnt
  refine hstll (hwnt.imp id fun hlt => ?_)
  change taken after identity effective.windowMs nowMs < effective.limit
  omega

/-- Where reclaiming one row does not make room, the demand leaves none. -/
theorem ReclaimFirst.not_wanted (h : Sound nowMs a)
    (heff : effectivePolicy a identity = .ok effective)
    (hsuffices : ReclaimSuffices a identity effective nowMs)
    (hfull : ¬ Room effective (currentWindow a identity effective.windowMs nowMs))
    (hrcl : ReclaimFirst a identity
      (currentWindow a identity effective.windowMs nowMs).createdAtMs nowMs after)
    (hstll : ¬ Room effective (currentWindow after identity effective.windowMs nowMs)) :
    ¬ Wanted a identity effective nowMs := by
  rintro (hno | hlt)
  · exact hfull (.inl hno)
  · have htkn := h.taken_eq heff
    have hle : effective.limit ≤ taken a identity effective.windowMs nowMs :=
      not_lt.mp fun hroom => hfull (.inr hroom)
    obtain ⟨hlmt, row, hfst⟩ := hsuffices hle (by omega)
    rcases hrcl with ⟨other, target, hoth, rfl⟩ | ⟨hno, -⟩
    · obtain ⟨rfl, rfl⟩ := hfst.unique h.consistent hoth
      have hset := hfst.taken_eq h heff
      refine hstll (.inr ?_)
      change taken (a.apply (settleWrites a other .released (reclaimReason .released) nowMs))
        identity effective.windowMs nowMs < effective.limit
      omega
    · exact hno _ _ _ hfst.stored hfst.expired

/-- What a reservation needs of the two stores. -/
structure ReserveOk (a b : KernelKv) (identity : KernelQuotaIdentity)
    (effective : KernelQuotaEffectivePolicy) (requestId route : String) (nowMs : ℤ) : Prop where
  fitsLeft : ReserveFits (currentWindow a identity effective.windowMs nowMs) requestId route
  fitsRight : ReserveFits (currentWindow b identity effective.windowMs nowMs) requestId route
  reclaim : ReclaimSuffices a identity effective nowMs

theorem ReserveFits.reclaimed (hfits : ReserveFits
      (currentWindow a identity effective.windowMs nowMs) requestId route) (h : Sound nowMs a)
    (heff : effectivePolicy a identity = .ok effective)
    (hbec : Becomes (Reclaimed nowMs) nowMs a after)
    (hdemand : demand after identity effective.windowMs nowMs
      = demand a identity effective.windowMs nowMs) :
    ReserveFits (currentWindow after identity effective.windowMs nowMs) requestId route := by
  have heffectiveAfter : effectivePolicy after identity = .ok effective := by
    rwa [← hbec.frames.effectivePolicy]
  obtain ⟨-, hfrm, -⟩ := h.currentWindow_spec heff
  obtain ⟨-, hframeAfter, -⟩ := hbec.sound.currentWindow_spec heffectiveAfter
  rw [hbec.frames.frames, hframeAfter] at hfrm
  refine ⟨hfits.id, hfits.route, ?_, ?_⟩
  · have htkn := h.taken_eq heff
    have htakenAfter := hbec.sound.taken_eq heffectiveAfter
    have hlapsed := hbec.lapsed_le h heff
    have hbd : taken a identity effective.windowMs nowMs < maxSafeInteger := hfits.bound
    change taken after identity effective.windowMs nowMs < maxSafeInteger
    omega
  · rw [(WindowFrame.mk.inj hfrm).2.1]
    exact hfits.reset

/-- **The drivers admit the same reservation.** -/
theorem reserve_agrees (h : Corresponding nowMs a b) (hclk : ClockOk nowMs)
    (heff : effectivePolicy a identity = .ok effective)
    (hok : ReserveOk a b identity effective requestId route nowMs)
    (ha : ReserveIn ReclaimFirst a identity effective requestId route nowMs admittedA a')
    (hb : ReserveIn ReclaimAll b identity effective requestId route nowMs admittedB b') :
    admittedA = admittedB ∧ Corresponding nowMs a' b' := by
  have heffectiveB : effectivePolicy b identity = .ok effective := by
    rwa [← h.frames.effectivePolicy]
  have hrow := h.rowOf_eq_none_iff heff requestId
  rcases ha.mid h.left fun _ _ hmid => ReclaimFirst.becomes h.left hclk hmid with
    ⟨hconf, rfl, rfl⟩ | ⟨hrowA, midA, hbecomesA, hcaseA⟩
  · rcases hb.mid h.right fun _ _ hmid => hmid.1 with ⟨-, rfl, rfl⟩ | ⟨hrowB, -⟩
    · exact ⟨rfl, h⟩
    · exact absurd (hrow.mpr hrowB) hconf
  · rcases hb.mid h.right fun _ _ hmid => hmid.1 with
      ⟨hconf, -⟩ | ⟨hrowB, midB, hbecomesB, hcaseB⟩
    · exact absurd (hrow.mp hrowA) hconf
    · have heffMidA : effectivePolicy midA identity = .ok effective := by
        rwa [← hbecomesA.frames.effectivePolicy]
      have heffMidB : effectivePolicy midB identity = .ok effective := by
        rwa [← hbecomesB.frames.effectivePolicy]
      have hleft := h.reclaim_left hbecomesA
      have hmid : Corresponding nowMs midA midB := (hleft.symm.reclaim_left hbecomesB).symm
      -- the demand is the same everywhere
      have hdemandA := hleft.demand_eq heffMidA
      have hdemand := h.demand_eq heff
      have hdemandMid := hmid.demand_eq heffMidA
      rcases hcaseA with ⟨hroomA, rfl, rfl⟩ | ⟨hfullA, hreclaimA, hstillA, rfl, rfl⟩
      · have hwnt := hroomA.wanted hleft.left heffMidA
        rcases hcaseB with ⟨_, rfl, rfl⟩ | ⟨-, hreclaimB, hstillB, -, -⟩
        · refine ⟨by rw [hmid.createdAtMs_eq heffMidA], hmid.reserve heffMidA hclk ?_ ?_ ?_ ?_⟩
          · exact hok.fitsLeft.reclaimed h.left heff hbecomesA (hdemandA.trans hdemand.symm)
          · exact hok.fitsRight.reclaimed h.right heffectiveB hbecomesB
              (hdemandMid.symm.trans hdemandA)
          · rw [hleft.left.consistent.value_row,
              hbecomesA.frames.currentWindow_createdAtMs h.left hbecomesA.sound heff,
              (hbecomesA.rowOf_eq_none_iff _ _ _).mpr hrowA]
            rfl
          · rw [hbecomesB.sound.consistent.value_row,
              hbecomesB.frames.currentWindow_createdAtMs h.right hbecomesB.sound heffectiveB,
              (hbecomesB.rowOf_eq_none_iff _ _ _).mpr hrowB]
            rfl
        · refine absurd ?_ (hreclaimB.not_wanted heffMidB hstillB)
          unfold Wanted
          rwa [← hdemandMid]
      · rcases hcaseB with ⟨hroomB, -, -⟩ | ⟨-, -, -, rfl, rfl⟩
        · refine absurd ?_ (hreclaimA.not_wanted h.left heff hok.reclaim hfullA hstillA)
          have hwnt := hroomB.wanted hbecomesB.sound heffMidB
          unfold Wanted at hwnt ⊢
          rwa [hdemand, ← hdemandA, hdemandMid]
        · exact ⟨rfl, hmid⟩

end Capacity

/-! ### Runs -/

/-- The key-value driver: the store, and the reservation of each request that has one. -/
structure KvState where
  rows : KernelKv
  /-- `kernelReservationContext`, by handle -/
  contexts : Record String KernelQuotaReservationIdentity

inductive DriverOp
  | reserve (client : KernelClient)
  | act (client : KernelClient) (action : OwnerAction)

def DriverOp.client : DriverOp → KernelClient
  | .reserve client => client
  | .act client _ => client

/-- The owner's action against the key-value store. -/
def kvAct (fuel : ℕ) (request : KernelQuotaReservationIdentity) : OwnerAction → KernelM Unit
  | .intent terminalState => do
    let _ ← recordKernelReservationTerminalIntent request terminalState
  | .settle terminalState reason => settleKernelReservation fuel request terminalState reason
  | .renew => do
    let _ ← renewKernelReservation request

/-- The reservation that a program of `reserveEffectiveKernelUsageLimit` made. -/
def kvAdmitted : Except String KernelQuotaReservationDecision →
    Option KernelQuotaReservationIdentity
  | .ok decision => decision.admitted
  | .error _ => none

def contextsAfter (contexts : Record String KernelQuotaReservationIdentity) (handle : String) :
    Option KernelQuotaReservationIdentity → Record String KernelQuotaReservationIdentity
  | none => contexts
  | some reservation => contexts.insert handle reservation

/-- A step of the key-value driver, and whether it admits the request.  A listing of a store that
nobody else changes yields each entry once, so the number of entries bounds it. -/
def kvStep (nowMs : ℤ) (state : KvState) : DriverOp → Bool × KvState
  | .reserve client =>
    let result := alone nowMs (reserveEffectiveKernelUsageLimit
      (state.rows.rows.entries.length + 1) client.owner client.repo client.requestId client.route)
      state.rows
    ((kvAdmitted result.1).isSome,
      ⟨result.2, contextsAfter state.contexts client.handle (kvAdmitted result.1)⟩)
  | .act client action =>
    match state.contexts.lookup client.handle with
    | none => (false, state)
    | some request => (false, { state with rows :=
        (alone nowMs (kvAct (state.rows.rows.entries.length + 1) request action) state.rows).2 })

/-- A step of the SQL driver, and whether it admits the request. -/
def sqlStep (nowMs : ℤ) (state : SqlState) : DriverOp → Bool × SqlState
  | .reserve client =>
    let result := (NativeAuthorityKernel.reserve client.cap client.handle nowMs).transaction state
    ((sqlAdmitted result.1).isSome, result.2)
  | .act client action => (false, ((sqlAct client nowMs action).transaction state).2)

/-- The answers of the key-value driver to operations, each with what the clock shows. -/
def kvRun : List (ℤ × DriverOp) → KvState → List Bool
  | [], _ => []
  | (nowMs, op) :: ops, state => (kvStep nowMs state op).1 :: kvRun ops (kvStep nowMs state op).2

def sqlRun : List (ℤ × DriverOp) → SqlState → List Bool
  | [], _ => []
  | (nowMs, op) :: ops, state => (sqlStep nowMs state op).1 :: sqlRun ops (sqlStep nowMs state op).2

/-! ### Corresponding drivers -/

/-- The drivers hold corresponding stores and know the same reservations. -/
structure Related (clock : ℤ) (kv : KvState) (sql : SqlState) : Prop where
  rows : Corresponding clock kv.rows sql.rows
  contexts : ∀ handle, kv.contexts.lookup handle
    = (sql.requests.lookup handle).bind NativeRequest.kernel

/-- The request is known to the SQL driver. -/
def Known (sql : SqlState) (client : KernelClient) : Prop :=
  ∃ row, sql.requests.lookup client.handle = some row ∧ Registered client row

/-- The condition of an operation: a request reserves once, within the safe integers, in a full
window a single reclaimed reservation helps if reclaiming helps at all, and nobody but to release it
touches a reservation that one of the stores holds and the other has released. -/
def StepOk (nowMs : ℤ) (kv : KvState) (sql : SqlState) : DriverOp → Prop
  | .reserve client => kv.contexts.lookup client.handle = none ∧
      ∀ identity effective, eligible kv.rows client.owner client.repo nowMs
        = some (identity, effective) →
        ReserveOk kv.rows sql.rows identity effective client.requestId client.route nowMs
  | .act client action =>
    (∀ reason, action = .settle .released reason → KeptReason reason) ∧
      ∀ request frame ra rb, kv.contexts.lookup client.handle = some request →
        frameOf kv.rows request.identity = some frame →
        frame.createdAtMs = request.windowCreatedAtMs → rowOf kv.rows request.key = some ra →
        rowOf sql.rows request.key = some rb → Overtaken ra rb →
          action.Releases ∨ ¬ Applies request ra action ∧ ¬ Applies request rb action

/-- Every step of the run meets its condition, and the clock does not go back. -/
def RunOk : List (ℤ × DriverOp) → ℤ → KvState → SqlState → Prop
  | [], _, _, _ => True
  | (nowMs, op) :: ops, clock, kv, sql =>
    clock ≤ nowMs ∧ ClockOk nowMs ∧ StepOk nowMs kv sql op ∧
      RunOk ops nowMs (kvStep nowMs kv op).2 (sqlStep nowMs sql op).2

section Run

variable {kv : KvState}

theorem eligible_congr (h : SameFrames a b) (owner repo : String) (nowMs : ℤ) :
    eligible a owner repo nowMs = eligible b owner repo nowMs := by
  have hpol : ∀ identity, a.value (.policy identity) = b.value (.policy identity) :=
    fun identity => h.shared _ ⟨by simp, by simp⟩
  have hcut := h.shared .defaultWindowCutover ⟨by simp, by simp⟩
  have hlmt := h.shared .defaultLimit ⟨by simp, by simp⟩
  have hwin := h.shared .defaultWindow ⟨by simp, by simp⟩
  unfold eligible defaultsOf
  simp only [hpol, hcut, hlmt, hwin]

theorem eligible_eq_some (h : eligible a owner repo nowMs = some (identity, effective)) :
    effectivePolicy a identity = .ok effective := by
  unfold eligible at h
  split at h
  · cases h
  · split at h
    · next helig =>
      cases h
      exact (decideKernelQuotaEligibility_eq_eligible helig).1
    · cases h

theorem kvAct_alone (h : Consistent kv.rows) (fuel : ℕ) (request : KernelQuotaReservationIdentity)
    (action : OwnerAction) : (alone nowMs (kvAct fuel request action) kv.rows).2
      = applyIf kv.rows (ownerWrites kv.rows request nowMs action) := by
  have hthen : ∀ {α : Type} (x : KernelM α), (alone nowMs (x >>= fun _ => (pure () : KernelM Unit))
      kv.rows).2 = (alone nowMs x kv.rows).2 := by
    intro α x
    cases hx : alone nowMs x kv.rows with
    | mk result after =>
      cases result with
      | ok a => rw [alone_bind_ok hx]; rfl
      | error e => rw [alone_bind_error hx]
  cases action with
  | intent terminalState =>
    exact (hthen _).trans (recordTerminalIntentLoop_alone request nowMs h terminalState 2)
  | settle terminalState reason =>
    exact settleLoop_alone request nowMs h fuel terminalState reason 2
  | renew => exact (hthen _).trans (renewLoop_alone request nowMs h 2)

theorem Registered.congr (h : Registered client row)
    (kernel : Option KernelQuotaReservationIdentity) :
    Registered client { row with kernel := kernel } :=
  ⟨h.principal, h.key, h.binding, h.applicable, h.admitted, h.scope, h.requestId, h.route, h.id_ne,
    h.route_ne⟩

theorem requestsAfter_lookup (hrow : requests.lookup handle = some row)
    (admitted : Option KernelQuotaReservationIdentity) (other : String) :
    (requestsAfter requests handle row admitted).lookup other
      = if other = handle then some { row with kernel := admitted.or row.kernel }
        else requests.lookup other := by
  cases admitted with
  | none =>
    split_ifs with heq
    · rw [heq]
      exact hrow
    · rfl
  | some reservation =>
    simp only [requestsAfter, Record.lookup_insert]
    rfl

/-- A client stays known while others act. -/
theorem Known.step (h : Known sql client) (nowMs : ℤ) (op : DriverOp) (hop : Known sql op.client)
    (hsnd : Sound nowMs sql.rows) (hclk : ClockOk nowMs)
    (hnew : ∀ client, op = .reserve client → (sql.requests.lookup client.handle).bind
      NativeRequest.kernel = none) : Known (sqlStep nowMs sql op).2 client := by
  obtain ⟨row, hrow, hreg⟩ := hop
  cases op with
  | reserve opClient =>
    dsimp only [DriverOp.client] at hrow hreg
    have hker := hnew opClient rfl
    rw [hrow, Option.bind_some] at hker
    obtain ⟨reply, rows, after, hrun, -⟩ := reserve_transaction hsnd hclk hrow hreg hker
    obtain ⟨found, hfd, hregistered⟩ := h
    unfold Known
    dsimp only [sqlStep]
    rw [hrun]
    dsimp only
    rw [requestsAfter_lookup hrow]
    split_ifs with heq
    · rw [heq] at hfd
      cases hrow.symm.trans hfd
      exact ⟨_, rfl, hregistered.congr _⟩
    · exact ⟨found, hfd, hregistered⟩
  | act _ action =>
    dsimp only [DriverOp.client] at hrow hreg
    cases hker : row.kernel with
    | none =>
      dsimp only [sqlStep]
      rw [sqlAct_transaction_none nowMs hrow hreg hker]
      exact h
    | some request =>
      obtain ⟨rows, hrun, -⟩ := sqlAct_transaction nowMs hsnd.consistent hrow hreg hker action
      dsimp only [sqlStep]
      rw [hrun]
      exact h

/-- **One step**: the drivers answer the same and go on with corresponding stores. -/
theorem Related.step (h : Related clock kv sql) (hle : clock ≤ nowMs) (hclk : ClockOk nowMs)
    (hkn : Known sql op.client) (hok : StepOk nowMs kv sql op) :
    (kvStep nowMs kv op).1 = (sqlStep nowMs sql op).1 ∧
      Related nowMs (kvStep nowMs kv op).2 (sqlStep nowMs sql op).2 := by
  have hrows := h.rows.mono hle
  obtain ⟨row, hrow, hreg⟩ := hkn
  have hctx := h.contexts op.client.handle
  rw [hrow, Option.bind_some] at hctx
  cases op with
  | reserve client =>
    obtain ⟨hno, hrsv⟩ := hok
    dsimp only [DriverOp.client] at hrow hreg hctx
    rw [hno] at hctx
    obtain ⟨decision, kvAfter, hkvRun, hkv⟩ := reserveEffectiveKernelUsageLimit_alone hrows.left
      hclk (Nat.lt_succ_self kv.rows.rows.entries.length) client.owner client.repo hreg.id_ne
      hreg.route_ne
    obtain ⟨reply, rows, sqlAfter, hsqlRun, hsql, hsame⟩ := reserve_transaction hrows.right hclk
      hrow hreg hctx.symm
    -- the policies decide the same, and then the windows do
    have hagr : decision.admitted = sqlAdmitted reply ∧ Corresponding nowMs kvAfter sqlAfter := by
      unfold Reserves at hkv hsql
      rw [← eligible_congr hrows.frames] at hsql
      cases helig : eligible kv.rows client.owner client.repo nowMs with
      | none =>
        rw [helig] at hkv hsql
        obtain ⟨hkvNone, rfl⟩ := hkv
        obtain ⟨hsqlNone, rfl⟩ := hsql
        exact ⟨hkvNone.trans hsqlNone.symm, hrows⟩
      | some scope =>
        obtain ⟨identity, effective⟩ := scope
        rw [helig] at hkv hsql
        exact reserve_agrees hrows hclk (eligible_eq_some helig)
          (hrsv identity effective helig) hkv hsql
    dsimp only [kvStep, sqlStep]
    rw [hkvRun, hsqlRun]
    dsimp only [kvAdmitted]
    rw [hagr.1]
    refine ⟨rfl, ?_, fun handle => ?_⟩
    · exact ⟨hagr.2.left, hagr.2.right.congr hsame.symm,
        hagr.2.frames.trans (.of_sameValues hsame.symm), fun identity frame hfrm requestId => by
          rw [rowOf_congr hsame]
          exact hagr.2.rows identity frame hfrm requestId⟩
    · rw [requestsAfter_lookup hrow]
      cases hadm : sqlAdmitted reply with
      | none =>
        split_ifs with heq
        · rw [heq, contextsAfter, hno]
          exact hctx
        · exact h.contexts handle
      | some reservation =>
        rw [contextsAfter, Record.lookup_insert]
        split_ifs with heq
        · rfl
        · exact h.contexts handle
  | act client action =>
    obtain ⟨hrsn, hovertaken⟩ := hok
    dsimp only [DriverOp.client] at hrow hreg hctx
    dsimp only [kvStep, sqlStep]
    cases hker : row.kernel with
    | none =>
      rw [hker] at hctx
      rw [hctx, sqlAct_transaction_none nowMs hrow hreg hker]
      exact ⟨rfl, hrows, h.contexts⟩
    | some request =>
      rw [hker] at hctx
      obtain ⟨rows, hrun, hsame⟩ := sqlAct_transaction nowMs hrows.right.consistent hrow hreg
        hker action
      rw [hctx, hrun]
      dsimp only
      refine ⟨rfl, ?_, h.contexts⟩
      rw [kvAct_alone hrows.left.consistent]
      exact hrows.act (ownerWrites_becomes hrows.left request hclk action hrsn)
        ((ownerWrites_becomes hrows.right request hclk action hrsn).congr hsame.symm)
        fun frame ra rb hfrm hcr => hovertaken request frame ra rb hctx hfrm hcr

/-- **The two drivers admit the same requests** in every run whose steps meet their condition. -/
theorem drivers_admit_alike (ops : List (ℤ × DriverOp)) (clock : ℤ) (kv : KvState) (sql : SqlState)
    (h : Related clock kv sql) (hkn : ∀ e ∈ ops, Known sql e.2.client)
    (hok : RunOk ops clock kv sql) : kvRun ops kv = sqlRun ops sql := by
  induction ops generalizing clock kv sql with
  | nil => rfl
  | cons e _ ih =>
    obtain ⟨nowMs, op⟩ := e
    obtain ⟨hle, hclk, hstep, hrest⟩ := hok
    obtain ⟨hans, hrelated⟩ := h.step hle hclk (hkn _ List.mem_cons_self) hstep
    have hnew : ∀ client, op = .reserve client →
        (sql.requests.lookup client.handle).bind NativeRequest.kernel = none := by
      rintro client rfl
      rw [← h.contexts]
      exact hstep.1
    have hsnd : Sound nowMs sql.rows := (h.rows.mono hle).right
    rw [kvRun, sqlRun, hans]
    congr 1
    refine ih nowMs _ _ hrelated (fun other hmem => ?_) hrest
    exact (hkn other (List.mem_cons_of_mem _ hmem)).step nowMs op (hkn _ List.mem_cons_self)
      hsnd hclk hnew

theorem Sound.corresponding (h : Sound clock a) : Corresponding clock a a := by
  refine ⟨h, h, .refl a, fun identity frame _ requestId => ?_⟩
  cases rowOf a (.reservation identity frame.createdAtMs requestId) with
  | none => exact .none
  | some row => exact .some (.refl row)

/-- **Which reservations the SQL driver admits**: those of a request that has none and whose scope
has room for it, where expired reservations without a committed intent count for nothing. -/
theorem sql_reserve_admits_iff {sql : SqlState} {client : KernelClient} {row : NativeRequest}
    (h : Sound nowMs sql.rows) (hclk : ClockOk nowMs)
    (hrow : sql.requests.lookup client.handle = some row) (hreg : Registered client row)
    (hnew : row.kernel = none) : (sqlStep nowMs sql (.reserve client)).1 = true ↔
      ∃ identity effective,
        eligible sql.rows client.owner client.repo nowMs = some (identity, effective) ∧
        rowOf sql.rows (.reservation identity
          (currentWindow sql.rows identity effective.windowMs nowMs).createdAtMs client.requestId)
            = none ∧
        Wanted sql.rows identity effective nowMs := by
  obtain ⟨reply, rows, after, hrun, hrsv, -⟩ := reserve_transaction h hclk hrow hreg hnew
  unfold sqlStep
  simp only [hrun]
  unfold Reserves at hrsv
  cases hscp : eligible sql.rows client.owner client.repo nowMs with
  | none =>
    rw [hscp] at hrsv
    simp [hrsv.1]
  | some scope =>
    obtain ⟨identity, effective⟩ := scope
    rw [hscp] at hrsv
    have heff := eligible_eq_some hscp
    simp only [Option.some.injEq, Prod.mk.injEq, exists_and_left, exists_eq_left', and_assoc]
    rcases hrsv.mid h fun _ _ hmid => hmid.1 with
      ⟨hconf, hno, -⟩ | ⟨hfree, mid, hbec, hcase⟩
    · simp [hno, hconf]
    · have heffectiveMid : effectivePolicy mid identity = .ok effective := by
        rwa [← hbec.frames.effectivePolicy]
      -- reclaiming leaves the demand as it is
      have hdemand := (h.corresponding.reclaim_left hbec).demand_eq heffectiveMid
      have hwnt : Wanted mid identity effective nowMs ↔
        Wanted sql.rows identity effective nowMs := by
        unfold Wanted
        rw [hdemand]
      rw [← hwnt]
      rcases hcase with ⟨hroom, hadm, -⟩ | ⟨-, hrcl, hstll, hadm, -⟩
      · simp [hadm, hfree, hroom.wanted hbec.sound heffectiveMid]
      · simp [hadm, hrcl.not_wanted heffectiveMid hstll]

end Run

/-! ### Where the drivers part -/

/-- The default limit and nothing else. -/
def limitedStore (limit : ℤ) : KernelKv := Kv.empty.apply [.set .defaultLimit (.number limit)]

/-- A request of the organization. -/
def orgClient (handle : String) : KernelClient where
  cap := ⟨"runtime", "principal", none, some ("owner", "repo")⟩
  handle := handle
  owner := "owner"
  repo := "repo"
  requestId := handle
  route := "/v1/chat/completions"

/-- The request as the SQL driver stores it. -/
def orgRequest (handle : String) : NativeRequest where
  runtimeBindingId := "runtime"
  principalId := "principal"
  keyId := none
  requestId := handle
  route := "/v1/chat/completions"
  apiApplicable := false
  kernelApplicable := true
  api := false
  kernel := none

/-- The requests `a`, `b` and `c`. -/
def orgRequests : Record String NativeRequest :=
  ((Record.empty.insert "a" (orgRequest "a")).insert "b" (orgRequest "b")).insert "c"
    (orgRequest "c")

/-- Two reservations expire, and the first of them was to be committed. -/
def expiredRun : List (ℤ × DriverOp) :=
  [(0, .reserve (orgClient "a")), (1, .act (orgClient "a") (.intent .committed)),
    (2, .reserve (orgClient "b")), (400000, .reserve (orgClient "c"))]

/-- The drivers may start from a store with a default limit alone. -/
theorem related_limitedStore (limit : ℤ) :
    Related 0 ⟨limitedStore limit, .empty⟩ ⟨limitedStore limit, orgRequests⟩ := by
  have hwin : ∀ identity, (limitedStore limit).value (.window identity) = none := fun _ => rfl
  have hrow : ∀ identity createdAtMs requestId,
      (limitedStore limit).value (.reservation identity createdAtMs requestId) = none :=
    fun _ _ _ => rfl
  have hfrm : ∀ identity, frameOf (limitedStore limit) identity = none := fun identity => by
    rw [frameOf, windowOf, hwin]
    rfl
  have hro : ∀ identity createdAtMs requestId,
      rowOf (limitedStore limit) (.reservation identity createdAtMs requestId) = none :=
    fun identity createdAtMs requestId => by rw [rowOf, hrow]
  have hwindowOf : ∀ identity, windowOf (limitedStore limit) identity = none :=
    fun identity => by rw [windowOf, hwin]
  have hsnd : Sound 0 (limitedStore limit) := by
    refine ⟨⟨?_, ?_, ?_, ?_⟩, ⟨?_, ?_⟩⟩
    · intro identity value hval
      rw [hwin] at hval
      cases hval
    · intro identity createdAtMs requestId value hval
      rw [hrow] at hval
      cases hval
    · intro identity window hval
      rw [hwindowOf] at hval
      cases hval
    · intro identity window hval
      rw [hwindowOf] at hval
      cases hval
    · intro identity frame hval
      rw [hfrm] at hval
      cases hval
    · intro identity createdAtMs requestId row hval
      rw [hro] at hval
      cases hval
  refine ⟨⟨hsnd, hsnd, .refl _, fun identity frame hval => ?_⟩, fun handle => ?_⟩
  · rw [hfrm] at hval
    cases hval
  · simp only [orgRequests, Record.lookup_insert, Record.lookup_empty]
    split_ifs <;> rfl

theorem known_orgClient (h : handle = "a" ∨ handle = "b" ∨ handle = "c") (limit : ℤ) :
    Known ⟨limitedStore limit, orgRequests⟩ (orgClient handle) := by
  refine ⟨orgRequest handle, ?_, ⟨rfl, rfl, rfl, rfl, (nomatch ·), rfl, rfl, rfl, ?_, ?_⟩⟩
  · rcases h with rfl | rfl | rfl <;> rfl
  · rcases h with rfl | rfl | rfl <;> decide
  · exact (by decide : "/v1/chat/completions" ≠ "")

/-- The key-value driver reclaims one expired reservation, which counts as used after it, and
refuses the next request; the SQL driver reclaims both and admits it. -/
theorem expired_reservations_part_the_drivers :
    Related 0 ⟨limitedStore 2, .empty⟩ ⟨limitedStore 2, orgRequests⟩ ∧
      (∀ e ∈ expiredRun, Known ⟨limitedStore 2, orgRequests⟩ e.2.client) ∧
      kvRun expiredRun ⟨limitedStore 2, .empty⟩ = [true, false, true, false] ∧
      sqlRun expiredRun ⟨limitedStore 2, orgRequests⟩ = [true, false, true, true] := by
  refine ⟨related_limitedStore 2, ?_, by decide +kernel, by decide +kernel⟩
  intro e he
  simp only [expiredRun, List.mem_cons, List.not_mem_nil, or_false] at he
  rcases he with rfl | rfl | rfl | rfl
  · exact known_orgClient (.inl rfl) 2
  · exact known_orgClient (.inl rfl) 2
  · exact known_orgClient (.inr (.inl rfl)) 2
  · exact known_orgClient (.inr (.inr rfl)) 2

/-- A window with one place, which is given back. -/
def releasedRun : List (ℤ × DriverOp) :=
  [(0, .reserve (orgClient "a")), (1, .reserve (orgClient "b")),
    (2, .act (orgClient "a") (.settle .released "stopped")), (3, .reserve (orgClient "c"))]

/-- What a reservation needs, where reclaiming does not help. -/
def reserveCheck (nowMs : ℤ) (kv : KvState) (sql : SqlState) (client : KernelClient) : Bool :=
  (kv.contexts.lookup client.handle).isNone &&
    (eligible kv.rows client.owner client.repo nowMs).all fun scope =>
      decide (taken kv.rows scope.1 scope.2.windowMs nowMs < maxSafeInteger ∧
        taken sql.rows scope.1 scope.2.windowMs nowMs < maxSafeInteger ∧
        (currentWindow kv.rows scope.1 scope.2.windowMs nowMs).usageResetAtMs ≤ maxSafeInteger ∧
        (currentWindow sql.rows scope.1 scope.2.windowMs nowMs).usageResetAtMs ≤ maxSafeInteger ∧
        lapsed kv.rows scope.1 scope.2.windowMs nowMs = 0)

theorem stepOk_of_reserveCheck (hid : client.requestId ≠ "") (hrt : client.route ≠ "")
    (h : reserveCheck nowMs kv sql client = true) : StepOk nowMs kv sql (.reserve client) := by
  unfold reserveCheck at h
  rw [Bool.and_eq_true, Option.isNone_iff_eq_none] at h
  refine ⟨h.1, fun identity effective helig => ?_⟩
  have hfits := h.2
  rw [helig, Option.all_some, decide_eq_true_eq] at hfits
  obtain ⟨hkv, hsql, hkvReset, hsqlReset, hlapsed⟩ := hfits
  refine ⟨⟨hid, hrt, hkv, hkvReset⟩, ⟨hid, hrt, hsql, hsqlReset⟩, fun hfull hroom => ?_⟩
  rw [hlapsed] at hroom
  exact absurd hroom (by omega)

theorem clockOk_of_le {nowMs : ℤ} (hpos : 0 ≤ nowMs) (hsml : nowMs ≤ 400000) : ClockOk nowMs := by
  refine ⟨hpos, ?_⟩
  simp only [reservationLeaseMs, maxSafeInteger]
  omega

/-- A client reserves with both drivers. -/
theorem Related.reserves (h : Related clock kv sql) (hle : clock ≤ nowMs) (hclk : ClockOk nowMs)
    (hrow : sql.requests.lookup client.handle = some row) (hreg : Registered client row)
    (hchk : reserveCheck nowMs kv sql client = true) :
    Related nowMs (kvStep nowMs kv (.reserve client)).2
      (sqlStep nowMs sql (.reserve client)).2 := by
  have hkn : Known sql (DriverOp.reserve client).client := ⟨row, hrow, hreg⟩
  exact (h.step hle hclk hkn (stepOk_of_reserveCheck hreg.id_ne hreg.route_ne hchk)).2

/-- Both places are reserved, and the first reservation expires before the second. -/
def crowdedSql : SqlState :=
  (sqlStep 200000 (sqlStep 0 ⟨limitedStore 2, orgRequests⟩ (.reserve (orgClient "a"))).2
    (.reserve (orgClient "b"))).2

/-- The window is full, and the request is admitted since one of its reservations has expired. -/
theorem sql_reserve_admits_reclaimed : ∃ identity effective,
    eligible crowdedSql.rows "owner" "repo" 350000 = some (identity, effective) ∧
      taken crowdedSql.rows identity effective.windowMs 350000 = effective.limit ∧
      lapsed crowdedSql.rows identity effective.windowMs 350000 = 1 ∧
      Wanted crowdedSql.rows identity effective 350000 := by
  have hreg : ∀ handle, handle = "a" ∨ handle = "b" ∨ handle = "c" →
      Registered (orgClient handle) (orgRequest handle) := by
    intro handle hhd
    obtain ⟨row, hrow, hreg⟩ := known_orgClient hhd 2
    rcases hhd with rfl | rfl | rfl <;> exact Option.some.inj hrow ▸ hreg
  have hclk : ∀ nowMs : ℤ, 0 ≤ nowMs → nowMs ≤ 400000 → ClockOk nowMs := fun _ => clockOk_of_le
  have hone := (related_limitedStore 2).reserves le_rfl (hclk 0 le_rfl (by decide))
    rfl (hreg "a" (.inl rfl)) (by decide +kernel)
  have htwo := hone.reserves (by decide) (hclk 200000 (by decide) (by decide))
    rfl (hreg "b" (.inr (.inl rfl))) (by decide +kernel)
  obtain ⟨identity, effective, hscp, -, hwnt⟩ := (sql_reserve_admits_iff
    (htwo.rows.mono (by decide)).right (hclk 350000 (by decide) (by decide))
    rfl (hreg "c" (.inr (.inr rfl))) rfl).mp (by decide +kernel)
  have hfull : (eligible crowdedSql.rows "owner" "repo" 350000).all (fun scope =>
      decide (taken crowdedSql.rows scope.1 scope.2.windowMs 350000 = scope.2.limit ∧
        lapsed crowdedSql.rows scope.1 scope.2.windowMs 350000 = 1)) = true := by decide +kernel
  rw [show eligible crowdedSql.rows "owner" "repo" 350000 = _ from hscp, Option.all_some,
    decide_eq_true_eq] at hfull
  exact ⟨identity, effective, hscp, hfull.1, hfull.2, hwnt⟩

/-- With one place, the second request is refused and the third admitted, by both drivers. -/
theorem drivers_admit_alike_released :
    kvRun releasedRun ⟨limitedStore 1, .empty⟩ = [true, false, false, true] ∧
      kvRun releasedRun ⟨limitedStore 1, .empty⟩
        = sqlRun releasedRun ⟨limitedStore 1, orgRequests⟩ := by
  refine ⟨by decide +kernel, drivers_admit_alike releasedRun 0 _ _ (related_limitedStore 1) ?_ ?_⟩
  · intro e he
    simp only [releasedRun, List.mem_cons, List.not_mem_nil, or_false] at he
    rcases he with rfl | rfl | rfl | rfl
    · exact known_orgClient (.inl rfl) 1
    · exact known_orgClient (.inr (.inl rfl)) 1
    · exact known_orgClient (.inl rfl) 1
    · exact known_orgClient (.inr (.inr rfl)) 1
  · refine ⟨by decide, clockOk_of_le (by decide) (by decide),
      stepOk_of_reserveCheck (by decide) (by decide) (by decide +kernel),
      by decide, clockOk_of_le (by decide) (by decide),
      stepOk_of_reserveCheck (by decide) (by decide) (by decide +kernel),
      by decide, clockOk_of_le (by decide) (by decide),
      ⟨?_, fun _ _ _ _ _ _ _ _ _ _ => .inl trivial⟩,
      by decide, clockOk_of_le (by decide) (by decide),
      stepOk_of_reserveCheck (by decide) (by decide) (by decide +kernel), trivial⟩
    rintro reason hrsn
    cases hrsn
    exact .inr (by decide)

end UbqGateway.Kernel
