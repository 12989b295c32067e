import Mathlib.Algebra.Order.Field.Basic
import Mathlib.Algebra.Order.Floor.Semiring
import Mathlib.Tactic.Linarith
import Mathlib.Tactic.Ring

/-!
# A level that drains and is refilled

The level falls at a constant rate and is raised by a constant amount at `first`,
`first + period`, ….  The run is cut into stretches between refills; `firstNegative_of_ends`
finds the instant from which the level is negative in the stretch in which it runs out.
-/

namespace UbqGateway

/-- A level at `start`, the rate at which it falls, and its refills. -/
structure Reservoir (K : Type*) [Field K] [LinearOrder K] where
  start : K
  level : K
  rate : K
  first : K
  period : K
  refill : K
  level_nonneg : 0 ≤ level
  rate_pos : 0 < rate
  start_le : start ≤ first
  period_pos : 0 < period
  refill_pos : 0 < refill

namespace Reservoir

variable [Field K] [LinearOrder K]

/-- When stretch `k` begins: at the start, and then at each refill. -/
def begins (r : Reservoir K) : ℕ → K
  | 0 => r.start
  | k + 1 => r.first + k * r.period

/-- The level at the beginning of stretch `k`, with the refill that begins it. -/
def held (r : Reservoir K) : ℕ → K
  | 0 => r.level
  | k + 1 => r.held k - r.rate * (r.begins (k + 1) - r.begins k) + r.refill

/-- The level at the end of stretch `k`, just before the next refill. -/
def ending (r : Reservoir K) (k : ℕ) : K :=
  r.held k - r.rate * (r.begins (k + 1) - r.begins k)

/-- The stretch that the instant `t` belongs to; a refill counts from its own instant on. -/
def stretchAt [FloorSemiring K] (r : Reservoir K) (t : K) : ℕ :=
  if t < r.first then 0 else ⌊(t - r.first) / r.period⌋₊ + 1

/-- The level at the instant `t`. -/
def levelAt [FloorSemiring K] (r : Reservoir K) (t : K) : K :=
  r.held (r.stretchAt t) - r.rate * (t - r.begins (r.stretchAt t))

/-- Up to `T` the level is not negative, and right after `T` it is. -/
def FirstNegativeAfter [FloorSemiring K] (r : Reservoir K) (T : K) : Prop :=
  r.start ≤ T ∧ (∀ t, r.start ≤ t → t ≤ T → 0 ≤ r.levelAt t) ∧
    ∀ δ, 0 < δ → ∃ t, T < t ∧ t < T + δ ∧ r.levelAt t < 0

variable (r : Reservoir K)

theorem held_succ (k : ℕ) : r.held (k + 1) = r.ending k + r.refill := rfl

theorem ending_succ (k : ℕ) : r.ending (k + 1) = r.ending k + r.refill - r.rate * r.period := by
  simp only [ending, held, begins]
  push_cast
  ring

/-- Every cycle changes the level by the same amount. -/
theorem ending_eq (k : ℕ) : r.ending k = r.ending 0 + k * (r.refill - r.rate * r.period) := by
  induction k with
  | zero => simp
  | succ _ ih => rw [ending_succ, ih]; push_cast; ring

variable [IsStrictOrderedRing K]

theorem begins_mono : Monotone r.begins :=
  monotone_nat_of_le_succ fun k => by
    cases k with
    | zero => simpa [begins] using r.start_le
    | succ k =>
      have := r.period_pos
      simp only [begins, Nat.cast_succ, add_mul]
      linarith

/-- Refills only add to what is left without them. -/
theorem le_held (k : ℕ) : r.level - r.rate * (r.begins k - r.start) ≤ r.held k := by
  induction k with
  | zero => simp [begins, held]
  | succ k ih =>
    have := r.refill_pos
    rw [held]
    linarith

variable {r} [FloorSemiring K]

theorem begins_stretchAt (ht : r.start ≤ t) :
    r.begins (r.stretchAt t) ≤ t ∧ t < r.begins (r.stretchAt t + 1) := by
  unfold stretchAt
  split_ifs with hfst
  · exact ⟨ht, by simpa [begins] using hfst⟩
  · have hpos := r.period_pos
    have hquot : 0 ≤ (t - r.first) / r.period := div_nonneg (by linarith) hpos.le
    have hle := (le_div_iff₀ hpos).mp (Nat.floor_le hquot)
    have hlt := (div_lt_iff₀ hpos).mp (Nat.lt_floor_add_one ((t - r.first) / r.period))
    simp only [begins, Nat.cast_succ]
    constructor <;> linarith

theorem stretchAt_eq (ht : r.start ≤ t) (hle : r.begins k ≤ t) (hlt : t < r.begins (k + 1)) :
    r.stretchAt t = k := by
  obtain ⟨hle', hlt'⟩ := r.begins_stretchAt ht
  have h₁ := r.begins_mono.reflect_lt (hle.trans_lt hlt')
  have h₂ := r.begins_mono.reflect_lt (hle'.trans_lt hlt)
  omega

theorem ending_le_levelAt (ht : r.start ≤ t) : r.ending (r.stretchAt t) ≤ r.levelAt t := by
  have := (r.begins_stretchAt ht).2.le
  have := r.rate_pos
  unfold ending levelAt
  gcongr

/-- The level never runs out when no stretch ends below zero. -/
theorem levelAt_nonneg (hends : ∀ k, 0 ≤ r.ending k) (ht : r.start ≤ t) : 0 ≤ r.levelAt t :=
  (hends _).trans (ending_le_levelAt ht)

/-- The level runs out in the first stretch that it does not last through. -/
theorem firstNegative_of_ends (hends : ∀ j < k, 0 ≤ r.ending j)
    (hlast : r.begins k + r.held k / r.rate < r.begins (k + 1)) :
    r.FirstNegativeAfter (r.begins k + r.held k / r.rate) := by
  have hrate := r.rate_pos
  have hheld : 0 ≤ r.held k := by
    cases k with
    | zero => exact r.level_nonneg
    | succ k => exact add_nonneg (hends k k.lt_succ_self) r.refill_pos.le
  have hquot : 0 ≤ r.held k / r.rate := div_nonneg hheld hrate.le
  have hbegins : r.start ≤ r.begins k := r.begins_mono (Nat.zero_le k)
  refine ⟨by linarith, fun t ht hle => ?_, fun δ hδ => ?_⟩
  · have hstretch := r.begins_mono.reflect_lt
      ((r.begins_stretchAt ht).1.trans_lt (hle.trans_lt hlast))
    rcases (Nat.lt_succ_iff.mp hstretch).lt_or_eq with h | h
    · exact (hends _ h).trans (ending_le_levelAt ht)
    · have := (le_div_iff₀ hrate).mp (sub_le_iff_le_add'.mpr hle)
      rw [levelAt, h]
      linarith
  · -- half way to the next refill, or to the end of the interval
    obtain ⟨t, hgt, hlt⟩ := exists_between (lt_min (lt_add_of_pos_right _ hδ) hlast)
    obtain ⟨hδt, hnext⟩ := lt_min_iff.mp hlt
    have := (div_lt_iff₀ hrate).mp (lt_sub_iff_add_lt'.mpr hgt)
    refine ⟨t, hgt, hδt, ?_⟩
    rw [levelAt, stretchAt_eq (by linarith) (by linarith) hnext]
    linarith

/-- Refills put the end off. -/
theorem FirstNegativeAfter.le (h : r.FirstNegativeAfter T) : r.start + r.level / r.rate ≤ T := by
  by_contra hlt
  obtain ⟨t, _, hbef, hneg⟩ := h.2.2 _ (sub_pos.mpr (not_le.mp hlt))
  have hleft : (t - r.start) * r.rate < r.level :=
    (lt_div_iff₀ r.rate_pos).mp (by linarith)
  have := r.le_held (r.stretchAt t)
  rw [levelAt] at hneg
  linarith

end Reservoir

end UbqGateway
