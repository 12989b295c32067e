import UbqGateway.Library.Reservoir
import Mathlib.Data.List.Sort
import Mathlib.Data.Rat.Floor

/-!
# The refill-aware runway

`refillProjection` of `src/quota-projection.ts` over exact rationals.  The events and the amount of
the refills, which `refillEvents` and `refillAmount` read from the snapshot and the history, are
arguments.  The closed form of the source is compared with the wallet as a `Reservoir`.
-/

namespace UbqGateway.QuotaProjection

/-- `HOUR_MS` -/
def hourMs : ℚ := 60 * 60 * 1000

theorem hourMs_pos : 0 < hourMs := by norm_num [hourMs]

def positiveFinite (value : Option ℚ) : Bool := value.any (0 < ·)

/-- `Math.trunc` -/
def trunc (x : ℚ) : ℤ := if 0 ≤ x then ⌊x⌋ else ⌈x⌉

theorem trunc_eq (h : 0 ≤ x) : trunc x = ⌊x⌋ := if_pos h

def median (values : List ℚ) : Option ℚ :=
  let sorted := values.insertionSort (· ≤ ·)
  let middle := sorted.length / 2
  if values.length = 0 then none
  else if sorted.length % 2 = 1 then sorted[middle]?
  else some ((sorted[middle - 1]?.getD 0 + sorted[middle]?.getD 0) / 2)

theorem median_pos (hpos : ∀ v ∈ values, 0 < v) (h : median values = some m) : 0 < m := by
  have hsrt : ∀ v ∈ values.insertionSort (· ≤ ·), 0 < v := by simpa using hpos
  have hlen := (List.perm_insertionSort (· ≤ ·) values).length_eq
  dsimp only [median] at h
  split_ifs at h
  · exact hsrt m (List.mem_of_getElem? h)
  · rw [List.getElem?_eq_getElem (by omega), List.getElem?_eq_getElem (by omega)] at h
    obtain rfl := Option.some.inj h
    exact half_pos (add_pos (hsrt _ (List.getElem_mem _)) (hsrt _ (List.getElem_mem _)))

/-! ### The source -/

structure RefillEvent where
  atMs : ℚ

structure RefillAmount where
  amountQuota : Option ℚ
  amountCredits : Option ℚ

structure RefillCadence where
  cadenceMs : Option ℚ
  rateQuotaPerHour : Option ℚ

def refillCadence (events : List RefillEvent) (amountQuota : Option ℚ) : RefillCadence :=
  let intervals := (List.zipWith (fun event before => event.atMs - before.atMs) events.tail
    events).filter (positiveFinite ∘ some)
  let cadenceMs := median intervals
  let calculated := amountQuota.bind fun amount => cadenceMs.map fun cadence =>
    amount / (cadence / hourMs)
  { cadenceMs, rateQuotaPerHour := if positiveFinite calculated then calculated else none }

def nextRefillAt (events : List RefillEvent) (cadenceMs : ℚ) (nowMs : ℕ) : Option ℚ :=
  events.getLast?.map fun latest =>
    let periodsUntilNext : ℤ :=
      if latest.atMs < (nowMs : ℚ) then ⌈(nowMs - latest.atMs) / cadenceMs⌉
      else if latest.atMs = (nowMs : ℚ) then 1 else 0
    latest.atMs + periodsUntilNext * cadenceMs

inductive RefillStatus
  | unknown | sustainable | exhaustsWithoutRefill | exhaustsWithRefill
  deriving DecidableEq

structure RefillProjection where
  status : RefillStatus := .unknown
  timeRemainingMs : Option ℤ := none
  exhaustedAtMs : Option ℤ := none
  amountCredits : Option ℚ := none
  cadenceMs : Option ℚ := none
  rateQuotaPerHour : Option ℚ := none
  nextRefillAtMs : Option ℚ := none

/-- `walletQuota` is `quota.balance_quota`, and `history` says that there is one. -/
def refillProjection (walletQuota : Option ℚ) (events : List RefillEvent) (refill : RefillAmount)
    (balanceQuota burnQuotaPerHour : Option ℚ) (history : Bool) (nowMs : ℕ) : RefillProjection :=
  if walletQuota.isNone then {}
  else
  let ⟨amountQuota, amountCredits⟩ := refill
  let ⟨cadenceMs, rateQuotaPerHour⟩ := refillCadence events amountQuota
  let unknown : RefillProjection := { amountCredits, cadenceMs, rateQuotaPerHour }
  match balanceQuota, burnQuotaPerHour with
  | some balance, some burn =>
    if ¬ positiveFinite (some burn) then unknown
    else
    let noRefillTimeRemainingMs := trunc (balance / burn * hourMs)
    let noRefill : RefillProjection :=
      { unknown with
        status := .exhaustsWithoutRefill
        timeRemainingMs := some noRefillTimeRemainingMs
        exhaustedAtMs := some (trunc (nowMs + noRefillTimeRemainingMs)) }
    if 0 < events.length ∧ amountQuota = none then unknown
    else
    match cadenceMs, amountQuota, rateQuotaPerHour with
    | some cadence, some amount, some rate =>
      if ¬ positiveFinite (some rate) then if history then noRefill else unknown
      else
      match nextRefillAt events cadence nowMs with
      | none => if history then noRefill else unknown
      | some next =>
        let hoursUntilNextRefill := max 0 ((next - nowMs) / hourMs)
        let balanceAtNextRefill := balance - burn * hoursUntilNextRefill
        if balanceAtNextRefill < 0 then { noRefill with nextRefillAtMs := some next }
        else
        let cycleBurnQuota := burn * (cadence / hourMs)
        if rate ≥ burn then
          { unknown with status := .sustainable, nextRefillAtMs := some next }
        else
        let balanceAfterFirstRefill := balanceAtNextRefill + amount
        let cycleLossQuota := cycleBurnQuota - amount
        let cyclesUntilExhaustion : ℤ :=
          if balanceAfterFirstRefill < cycleBurnQuota then 0
          else ⌊(balanceAfterFirstRefill - cycleBurnQuota) / cycleLossQuota⌋ + 1
        let balanceBeforeExhaustion :=
          balanceAfterFirstRefill - cyclesUntilExhaustion * cycleLossQuota
        let exhausted := trunc (next + cyclesUntilExhaustion * cadence +
          balanceBeforeExhaustion / burn * hourMs)
        { unknown with
          status := .exhaustsWithRefill
          timeRemainingMs := some (max 0 (exhausted - nowMs))
          exhaustedAtMs := some exhausted
          nextRefillAtMs := some next }
    | _, _, _ => if history then noRefill else unknown
  | _, _ => unknown

/-! ### The simulation -/

/-- A wallet that burns, with its refill events up to now. -/
structure Wallet where
  nowMs : ℕ
  events : List RefillEvent
  balance : ℚ
  burn : ℚ
  amount : ℚ
  cadence : ℚ
  past : ∀ event ∈ events, event.atMs ≤ nowMs
  balance_nonneg : 0 ≤ balance
  burn_pos : 0 < burn
  amount_pos : 0 < amount
  cadence_eq : (refillCadence events (some amount)).cadenceMs = some cadence

namespace Wallet

variable (w : Wallet)

theorem cadence_pos : 0 < w.cadence :=
  median_pos (by simp [positiveFinite]) w.cadence_eq

theorem events_ne_nil : w.events ≠ [] := fun h => by
  simpa [refillCadence, h, median] using w.cadence_eq

/-- The first refill to come. -/
def next : ℚ := (nextRefillAt w.events w.cadence w.nowMs).getD 0

theorem nextRefillAt_eq : nextRefillAt w.events w.cadence w.nowMs = some w.next := by
  simp [next, nextRefillAt, List.getLast?_eq_some_getLast w.events_ne_nil]

theorem now_le_next : (w.nowMs : ℚ) ≤ w.next := by
  have hpos := w.cadence_pos
  have hpast := w.past _ (List.getLast_mem w.events_ne_nil)
  simp only [next, nextRefillAt, List.getLast?_eq_some_getLast w.events_ne_nil, Option.map_some,
    Option.getD_some]
  split_ifs with hlt heq
  · have := (div_le_iff₀ hpos).mp (Int.le_ceil (((w.nowMs : ℚ) -
      (w.events.getLast w.events_ne_nil).atMs) / w.cadence))
    linarith
  · push_cast
    linarith
  · exact absurd (lt_of_le_of_ne hpast heq) hlt

/-- The balance falls at the burn rate, and the amount is added at each refill. -/
def simulation : Reservoir ℚ where
  start := w.nowMs
  level := w.balance
  rate := w.burn / hourMs
  first := w.next
  period := w.cadence
  refill := w.amount
  level_nonneg := w.balance_nonneg
  rate_pos := div_pos w.burn_pos (by norm_num [hourMs])
  start_le := w.now_le_next
  period_pos := w.cadence_pos
  refill_pos := w.amount_pos

theorem refillCadence_eq : refillCadence w.events (some w.amount) =
    ⟨some w.cadence, some (w.amount / (w.cadence / hourMs))⟩ := by
  have hrate : 0 < w.amount / (w.cadence / hourMs) :=
    div_pos w.amount_pos (div_pos w.cadence_pos hourMs_pos)
  have hcadence := w.cadence_eq
  simp only [refillCadence] at hcadence
  simp [refillCadence, hcadence, positiveFinite, hrate]

theorem ending_zero : w.simulation.ending 0 =
    w.balance - w.burn * max 0 ((w.next - w.nowMs) / hourMs) := by
  rw [max_eq_right (div_nonneg (sub_nonneg.mpr w.now_le_next) hourMs_pos.le)]
  simp only [Reservoir.ending, Reservoir.held, Reservoir.begins, simulation]
  push_cast
  ring

theorem cycle_burn : w.burn * (w.cadence / hourMs) = w.simulation.rate * w.simulation.period := by
  simp only [simulation]
  ring

/-- The cycles that the source counts: those that the surplus over one cycle's burn lasts for. -/
theorem exists_cycles (surplus : ℚ) (hloss : 0 < loss) :
    ∃ n : ℕ, (if surplus < 0 then 0 else ⌊surplus / loss⌋ + 1) = (n : ℤ) ∧
      (∀ i < n, i * loss ≤ surplus) ∧ surplus < n * loss := by
  split_ifs with hneg
  · exact ⟨0, rfl, by simp, by simpa using hneg⟩
  · have hquot : 0 ≤ surplus / loss := div_nonneg (not_lt.mp hneg) hloss.le
    refine ⟨⌊surplus / loss⌋₊ + 1, ?_, fun i hi => ?_, ?_⟩
    · rw [Nat.cast_succ, Int.natCast_floor_eq_floor hquot]
    · have : (i : ℚ) ≤ surplus / loss :=
        (Nat.cast_le.mpr (Nat.lt_succ_iff.mp hi)).trans (Nat.floor_le hquot)
      exact (le_div_iff₀ hloss).mp this
    · exact_mod_cast (div_lt_iff₀ hloss).mp (Nat.lt_floor_add_one (surplus / loss))

/-- The wallet lasts through the cycles that the source counts, and no longer. -/
theorem exhausted_with_refill {afterFirst cycleBurn loss : ℚ}
    (haft : afterFirst = w.simulation.ending 0 + w.amount)
    (hburn : cycleBurn = w.burn * (w.cadence / hourMs)) (hloss : loss = cycleBurn - w.amount)
    (hpos : 0 < loss) (hfst : 0 ≤ w.simulation.ending 0) {cycles : ℤ}
    (hcycles : cycles = if afterFirst < cycleBurn then 0
      else ⌊(afterFirst - cycleBurn) / loss⌋ + 1) : w.simulation.FirstNegativeAfter
      (w.next + cycles * w.cadence + (afterFirst - cycles * loss) / w.burn * hourMs) := by
  obtain ⟨n, hn, hlasts, hends⟩ := exists_cycles (afterFirst - cycleBurn) hpos
  simp only [sub_neg, ← hcycles] at hn
  subst hn
  rw [w.cycle_burn] at hburn
  have hending (j : ℕ) : w.simulation.ending j = w.simulation.ending 0 - j * loss := by
    rw [Reservoir.ending_eq, hloss, hburn, show w.simulation.refill = w.amount from rfl]
    ring
  have hheld : w.simulation.held (n + 1) = afterFirst - n * loss := by
    rw [Reservoir.held_succ, hending, haft, show w.simulation.refill = w.amount from rfl]
    ring
  have hdate : w.next + ((n : ℤ) : ℚ) * w.cadence + (afterFirst - ((n : ℤ) : ℚ) * loss) /
      w.burn * hourMs = w.simulation.begins (n + 1) +
        w.simulation.held (n + 1) / w.simulation.rate := by
    rw [hheld, Reservoir.begins]
    simp only [simulation, Int.cast_natCast]
    rw [div_div_eq_mul_div, div_mul_eq_mul_div]
  rw [hdate]
  refine Reservoir.firstNegative_of_ends (fun j hj => ?_) ?_
  · cases j with
    | zero => exact hfst
    | succ i =>
      have := hlasts i (by omega)
      rw [hending]
      push_cast
      linarith
  · have hstep : w.simulation.begins (n + 1 + 1) =
        w.simulation.begins (n + 1) + w.simulation.period := by
      simp only [Reservoir.begins]
      push_cast
      ring
    have : w.simulation.held (n + 1) / w.simulation.rate < w.simulation.period :=
      (div_lt_iff₀ w.simulation.rate_pos).mpr (by rw [hheld]; linarith)
    linarith

end Wallet

theorem trunc_mono (hx : 0 ≤ x) (hxy : x ≤ y) : trunc x ≤ trunc y := by
  rw [trunc_eq hx, trunc_eq (hx.trans hxy)]
  exact Int.floor_mono hxy

theorem trunc_now_add (nowMs : ℕ) (hx : 0 ≤ x) : trunc (nowMs + trunc x) = trunc (nowMs + x) := by
  rw [trunc_eq hx, trunc_eq (by positivity), trunc_eq (by positivity)]
  simp

/-- What the projection tells of the end: there is none, or it is this instant. -/
inductive Foretells (w : Wallet) : RefillProjection → Prop
  | sustainable {p} (hsts : p.status = .sustainable) (hends : ∀ k, 0 ≤ w.simulation.ending k) :
    Foretells w p
  | exhausts {p} (T) (hsts : p.status ≠ .sustainable) (hT : w.simulation.FirstNegativeAfter T)
    (hp : p.exhaustedAtMs = some (trunc T)) : Foretells w p

/-- The projection foretells what the wallet does. -/
theorem foretells (w : Wallet) (walletQuota : ℚ) (amountCredits : Option ℚ) (history : Bool) :
    Foretells w (refillProjection (some walletQuota) w.events ⟨some w.amount, amountCredits⟩
      (some w.balance) (some w.burn) history w.nowMs) := by
  have hcycle : 0 < w.cadence / hourMs := div_pos w.cadence_pos hourMs_pos
  have hburn : positiveFinite (some w.burn) = true := by simpa [positiveFinite] using w.burn_pos
  have hrate : positiveFinite (some (w.amount / (w.cadence / hourMs))) = true := by
    simpa [positiveFinite] using div_pos w.amount_pos hcycle
  simp only [refillProjection, w.refillCadence_eq, w.nextRefillAt_eq, hburn, hrate,
    Option.isNone_some, Bool.false_eq_true, if_false, not_true_eq_false, reduceCtorEq, and_false,
    ← w.ending_zero]
  by_cases hneg : w.simulation.ending 0 < 0
  · rw [if_pos hneg]
    refine .exhausts _ (by simp) (Reservoir.firstNegative_of_ends (k := 0) (by simp) ?_) ?_
    · rw [Reservoir.ending, sub_neg, mul_comm, ← div_lt_iff₀ w.simulation.rate_pos] at hneg
      linarith
    · have hx : 0 ≤ w.balance / w.burn * hourMs :=
        mul_nonneg (div_nonneg w.balance_nonneg w.burn_pos.le) hourMs_pos.le
      simp only [trunc_now_add _ hx, Reservoir.begins, Reservoir.held, Wallet.simulation]
      rw [div_div_eq_mul_div, div_mul_eq_mul_div]
  rw [if_neg hneg]
  by_cases hge : w.amount / (w.cadence / hourMs) ≥ w.burn
  · rw [if_pos hge]
    refine .sustainable rfl fun k => ?_
    have hgain : 0 ≤ w.simulation.refill - w.simulation.rate * w.simulation.period := by
      rw [← w.cycle_burn]
      exact sub_nonneg.mpr ((le_div_iff₀ hcycle).mp hge)
    rw [Reservoir.ending_eq]
    exact add_nonneg (not_lt.mp hneg) (mul_nonneg k.cast_nonneg hgain)
  · rw [if_neg hge]
    have hloss : 0 < w.burn * (w.cadence / hourMs) - w.amount :=
      sub_pos.mpr ((div_lt_iff₀ hcycle).mp (not_le.mp hge))
    exact .exhausts _ (by simp) (w.exhausted_with_refill rfl rfl rfl hloss (not_lt.mp hneg) rfl) rfl

/-- The projection agrees with the simulation: it is sustainable exactly when the balance never
goes below zero, and else it tells the first instant after which it does. -/
theorem refillProjection_simulates (w : Wallet) (walletQuota : ℚ) (amountCredits : Option ℚ)
    (history : Bool) :
    let p := refillProjection (some walletQuota) w.events ⟨some w.amount, amountCredits⟩
      (some w.balance) (some w.burn) history w.nowMs
    (p.status = .sustainable ↔ ∀ t, (w.nowMs : ℚ) ≤ t → 0 ≤ w.simulation.levelAt t) ∧
    (p.status ≠ .sustainable → ∃ T, w.simulation.FirstNegativeAfter T ∧
      p.exhaustedAtMs = some (trunc T) ∧
      trunc (w.nowMs + trunc (w.balance / w.burn * hourMs)) ≤ trunc T ∧
      (w.nowMs : ℤ) ≤ trunc T) := by
  intro p
  cases foretells w walletQuota amountCredits history with
  | sustainable hsts hends =>
    exact ⟨iff_of_true hsts fun t ht => Reservoir.levelAt_nonneg hends ht,
      fun h => absurd hsts h⟩
  | exhausts T hsts hT hp =>
    have hx : 0 ≤ w.balance / w.burn * hourMs :=
      mul_nonneg (div_nonneg w.balance_nonneg w.burn_pos.le) hourMs_pos.le
    have hle : (w.nowMs : ℚ) + w.balance / w.burn * hourMs ≤ T := by
      have := hT.le
      simpa only [Wallet.simulation, div_div_eq_mul_div, div_mul_eq_mul_div] using this
    refine ⟨iff_of_false hsts fun h => ?_, fun _ => ⟨T, hT, hp, ?_, ?_⟩⟩
    · obtain ⟨t, hgt, -, hneg⟩ := hT.2.2 1 one_pos
      exact absurd (h t (hT.1.trans hgt.le)) (not_le.mpr hneg)
    · rw [trunc_now_add _ hx]
      exact trunc_mono (by positivity) hle
    · have hnow : trunc (w.nowMs : ℚ) = w.nowMs := by simp [trunc]
      rw [← hnow]
      exact trunc_mono (by positivity) hT.1

theorem refillProjection_simulates_hourly : ∃ w : Wallet, w.events.length = 2 ∧
    ∃ T, w.simulation.FirstNegativeAfter T :=
  ⟨{ nowMs := 7200000, events := [⟨0⟩, ⟨3600000⟩], balance := 10, burn := 5, amount := 4
     cadence := 3600000
     past := by norm_num
     balance_nonneg := by norm_num
     burn_pos := by norm_num
     amount_pos := by norm_num
     cadence_eq := by norm_num [refillCadence, median, positiveFinite] }, rfl,
    ((refillProjection_simulates _ 10 none true).2 (by decide +kernel)).imp fun _ h => h.1⟩
end UbqGateway.QuotaProjection
