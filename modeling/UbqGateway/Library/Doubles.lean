import Mathlib.Data.Int.Log
import Mathlib.Data.Rat.Floor
import Mathlib.Tactic.Linarith
import Mathlib.Tactic.Positivity
import Mathlib.Tactic.NormNum.Inv

/-!
# Sums of doubles

The value of a double is rational, and one from `2 ^ 1024` on stands for the infinity.  A sum is
rounded to the nearest double (`roundDouble`).  Amounts are doubles that are integers: a sum of
amounts that is added up one after the other (`amountSum`) is exact as long as it is at most `2 ^
53` (`amountSum_eq_sum`).
-/

namespace UbqGateway

/-- The nearest integer, the even one of two that are equally near. -/
def roundEven (x : ℚ) : ℤ :=
  if Int.fract x < 1 / 2 ∨ Int.fract x = 1 / 2 ∧ ⌊x⌋ % 2 = 0 then ⌊x⌋ else ⌊x⌋ + 1

/-- The distance of the doubles around a value: they have 53 bits, the last of which is not below
the bit `-1074`. -/
def doubleSpacing (x : ℚ) : ℚ := 2 ^ max (Int.log 2 |x| - 52) (-1074)

/-- The double that is nearest to a value. -/
def roundDouble (x : ℚ) : ℚ := roundEven (x / doubleSpacing x) * doubleSpacing x

/-- `Math.round` -/
def mathRound (x : ℚ) : ℤ := ⌊x + 1 / 2⌋

/-- The sum of two doubles. -/
def addDoubles (a b : ℚ) : ℚ := roundDouble (a + b)

/-- The sum of two amounts.  Nothing is rounded when nothing is added. -/
def addAmounts (a b : ℤ) : ℤ := if b = 0 then a else ⌊addDoubles a b⌋

/-- Doubles added up, the last one of the list first. -/
def doubleSum (values : List ℚ) : ℚ := values.foldr (fun value sum => addDoubles sum value) 0

/-- Amounts added up, the last one of the list first. -/
def amountSum (amounts : List ℤ) : ℤ := amounts.foldr (fun amount sum => addAmounts sum amount) 0

theorem roundEven_intCast (k : ℤ) : roundEven k = k := by
  unfold roundEven
  rw [Int.fract_intCast, Int.floor_intCast]
  exact if_pos (.inl (by norm_num))

theorem doubleSpacing_ne_zero (x : ℚ) : doubleSpacing x ≠ 0 := zpow_ne_zero _ two_ne_zero

/-- A multiple of the spacing is a double itself. -/
theorem roundDouble_of_multiple {k : ℤ} (h : x = k * doubleSpacing x) : roundDouble x = x := by
  have hk : x / doubleSpacing x = k := by
    rw [div_eq_iff (doubleSpacing_ne_zero x)]
    exact h
  unfold roundDouble
  rw [hk, roundEven_intCast, ← h]

/-- **Integers up to `2 ^ 53` are doubles.** -/
theorem roundDouble_intCast {n : ℤ} (h0 : 0 ≤ n) (hn : n ≤ 2 ^ 53) : roundDouble n = n := by
  have hn' : (n : ℚ) ≤ 2 ^ (53 : ℤ) := by exact_mod_cast hn
  have habs : |(n : ℚ)| = n := abs_of_nonneg (by exact_mod_cast h0)
  rcases hn.lt_or_eq with hlt | rfl
  · -- the last bit is not above that of the units
    have hlog : Int.log 2 |(n : ℚ)| ≤ 52 := by
      rw [habs]
      rcases h0.lt_or_eq with hpos | rfl
      · have hlt' : (n : ℚ) < (2 : ℕ) ^ (53 : ℤ) := by exact_mod_cast hlt
        have := (Int.lt_zpow_iff_log_lt one_lt_two (by exact_mod_cast hpos)).mp hlt'
        omega
      · simp
    obtain ⟨m, hm⟩ : ∃ m : ℕ, max (Int.log 2 |(n : ℚ)| - 52) (-1074) = -(m : ℤ) :=
      ⟨(-max (Int.log 2 |(n : ℚ)| - 52) (-1074)).toNat, by omega⟩
    refine roundDouble_of_multiple (k := n * 2 ^ m) ?_
    unfold doubleSpacing
    rw [hm, zpow_neg, zpow_natCast]
    push_cast
    field_simp
  · have hlog : Int.log 2 |((2 ^ 53 : ℤ) : ℚ)| = 53 := by
      rw [habs]
      have hpow : ((2 ^ 53 : ℤ) : ℚ) = ((2 : ℕ) : ℚ) ^ (53 : ℤ) := by norm_num
      rw [hpow, Int.log_zpow one_lt_two]
    refine roundDouble_of_multiple (k := 2 ^ 52) ?_
    unfold doubleSpacing
    rw [hlog]
    norm_num

theorem addAmounts_zero (a : ℤ) : addAmounts a 0 = a := if_pos rfl

/-- A sum up to `2 ^ 53` is exact. -/
theorem addAmounts_eq_add (h0 : 0 ≤ a + b) (h : a + b ≤ 2 ^ 53) : addAmounts a b = a + b := by
  unfold addAmounts addDoubles
  split_ifs with hb
  · rw [hb, add_zero]
  · rw [← Int.cast_add, roundDouble_intCast h0 h, Int.floor_intCast]

/-- A total of amounts that were added one after the other; it is exact up to `2 ^ 53`. -/
structure AmountTotal (total : ℤ) (amounts : List ℤ) : Prop where
  added : total = amountSum amounts
  whole : (∀ a ∈ amounts, 0 ≤ a) → amounts.sum ≤ 2 ^ 53 → total = amounts.sum

theorem AmountTotal.nil : AmountTotal 0 [] := ⟨rfl, fun _ _ => rfl⟩

theorem AmountTotal.cons (h : AmountTotal total amounts) (amount : ℤ) :
    AmountTotal (addAmounts total amount) (amount :: amounts) := by
  refine ⟨by rw [h.added]; rfl, fun h0 hsum => ?_⟩
  obtain ⟨hamount, hrest⟩ := List.forall_mem_cons.mp h0
  have hnn := List.sum_nonneg hrest
  rw [List.sum_cons] at hsum ⊢
  rw [h.whole hrest (by omega), addAmounts_eq_add (by omega) (by omega), add_comm]

/-- A total of doubles that were added one after the other; if they are integers, it is exact up to
`2 ^ 53`. -/
structure DoubleTotal (total : ℚ) (values : List ℚ) : Prop where
  added : total = doubleSum values
  whole : (∀ v ∈ values, 0 ≤ v ∧ (⌊v⌋ : ℚ) = v) → values.sum ≤ 2 ^ 53 → total = values.sum

theorem DoubleTotal.nil : DoubleTotal 0 [] := ⟨rfl, fun _ _ => rfl⟩

theorem sum_floor {values : List ℚ} (h : ∀ v ∈ values, (⌊v⌋ : ℚ) = v) :
    (((values.map Int.floor).sum : ℤ) : ℚ) = values.sum := by
  induction values with
  | nil => rfl
  | cons _ _ ih =>
    obtain ⟨hval, hrest⟩ := List.forall_mem_cons.mp h
    rw [List.map_cons, List.sum_cons, List.sum_cons, Int.cast_add, hval, ih hrest]

theorem DoubleTotal.cons (h : DoubleTotal total values) (value : ℚ) :
    DoubleTotal (addDoubles total value) (value :: values) := by
  refine ⟨by rw [h.added]; rfl, fun h0 hsum => ?_⟩
  have hwhl := sum_floor fun v hv => (h0 v hv).2
  obtain ⟨hval, hrest⟩ := List.forall_mem_cons.mp h0
  have hnn := List.sum_nonneg fun v hv => (hrest v hv).1
  have hle : ((((value :: values).map Int.floor).sum : ℤ) : ℚ) ≤ ((2 ^ 53 : ℤ) : ℚ) := by
    rw [hwhl]
    exact_mod_cast hsum
  have hpos : (0 : ℚ) ≤ (((value :: values).map Int.floor).sum : ℤ) := by
    rw [hwhl, List.sum_cons]
    exact add_nonneg hval.1 hnn
  rw [List.sum_cons] at hsum
  rw [h.whole hrest ((le_add_of_nonneg_left hval.1).trans hsum)]
  unfold addDoubles
  rw [add_comm, ← List.sum_cons, ← hwhl,
    roundDouble_intCast (by exact_mod_cast hpos) (by exact_mod_cast hle)]

end UbqGateway
