import Mathlib.Algebra.Order.Ring.Nat
import Mathlib.Data.List.Induction
import Mathlib.Data.List.Lex
import Mathlib.Order.Fin.Basic

/-!
# Order-preserving codes

A code of a type by lists of words is ordered if a smaller value has a smaller code whatever follows
both (`OrderedCode`).  What may follow is a set of lists, so that a code can rely on the first word
of the next one.  The concatenation of the codes of a list is then strictly monotone, hence
injective, in the lexicographic order (`OrderedCode.flatMap_lt_iff`,
`OrderedCode.flatMap_injective`).

Big-endian numerals of one length are ordered as their values (`beBytes_lt`).
-/

namespace UbqGateway

/-- A smaller value has a smaller code, whatever follows from `C`. -/
structure OrderedCode {α β : Type*} [LT β] (r : α → α → Prop) (C : Set (List β))
    (enc : α → List β) : Prop where
  lt : ∀ a b, r a b → ∀ x ∈ C, ∀ y ∈ C, enc a ++ x < enc b ++ y
  nil_mem : [] ∈ C
  append_mem : ∀ a x, enc a ++ x ∈ C
  ne_nil : ∀ a, enc a ≠ []

namespace OrderedCode

variable {α β : Type*} [LinearOrder β] {r : α → α → Prop} {C : Set (List β)} {enc : α → List β}

theorem flatMap_mem (h : OrderedCode r C enc) (as : List α) : as.flatMap enc ∈ C := by
  cases as with
  | nil => exact h.nil_mem
  | cons a as =>
    rw [List.flatMap_cons]
    exact h.append_mem a _

variable {as : List α}

theorem flatMap_ne_nil (h : OrderedCode r C enc) (has : as ≠ []) : as.flatMap enc ≠ [] := by
  cases as with
  | nil => exact absurd rfl has
  | cons a as =>
    rw [List.flatMap_cons]
    exact List.append_ne_nil_of_left_ne_nil (h.ne_nil a) _

variable {bs : List α}

theorem flatMap_lt (h : OrderedCode r C enc) (hlex : List.Lex r as bs) :
    as.flatMap enc < bs.flatMap enc := by
  induction hlex with
  | @nil b bs =>
    obtain ⟨c, cs, hcode⟩ :=
      List.exists_cons_of_ne_nil (h.flatMap_ne_nil (List.cons_ne_nil b bs))
    rw [hcode]
    exact List.nil_lt_cons c cs
  | @cons _ _ _ _ ih =>
    rw [List.flatMap_cons, List.flatMap_cons]
    exact List.append_left_lt ih
  | @rel a as b bs hab =>
    rw [List.flatMap_cons, List.flatMap_cons]
    exact h.lt a b hab _ (h.flatMap_mem as) _ (h.flatMap_mem bs)

variable [Std.Trichotomous r]

theorem flatMap_injective (h : OrderedCode r C enc) (heq : as.flatMap enc = bs.flatMap enc) :
    as = bs := by
  refine (Std.Trichotomous.trichotomous (r := List.Lex r) as bs) (fun hlt => ?_) (fun hgt => ?_)
  · exact absurd (h.flatMap_lt hlt) (by rw [heq]; exact lt_irrefl _)
  · exact absurd (h.flatMap_lt hgt) (by rw [heq]; exact lt_irrefl _)

theorem flatMap_lt_iff (h : OrderedCode r C enc) (as bs : List α) :
    as.flatMap enc < bs.flatMap enc ↔ List.Lex r as bs := by
  refine ⟨fun hlt => ?_, h.flatMap_lt⟩
  by_contra hnot
  by_cases hgt : List.Lex r bs as
  · exact lt_asymm hlt (h.flatMap_lt hgt)
  · have heq : as = bs := Std.Trichotomous.trichotomous (r := List.Lex r) as bs hnot hgt
    rw [heq] at hlt
    exact lt_irrefl _ hlt

end OrderedCode

/-! ### Numerals -/

abbrev Byte : Type := Fin 256

instance Byte.neZero : NeZero 256 := ⟨by decide⟩

/-- The last `width` bytes of a number, the highest first. -/
def beBytes : ℕ → ℕ → List Byte
  | 0, _ => []
  | width + 1, n => beBytes width (n / 256) ++ [Fin.ofNat 256 n]

/-- The number that bytes stand for, the highest first. -/
def beNat (bytes : List Byte) : ℕ := bytes.foldl (fun n byte => 256 * n + byte.val) 0

@[simp]
theorem beBytes_length (width n : ℕ) : (beBytes width n).length = width := by
  induction width generalizing n with
  | zero => rfl
  | succ _ ih => rw [beBytes, List.length_append, ih, List.length_singleton]

theorem beNat_append (bytes : List Byte) (byte : Byte) :
    beNat (bytes ++ [byte]) = 256 * beNat bytes + byte.val := by
  unfold beNat
  rw [List.foldl_append]
  rfl

variable {width n : ℕ} {β : Type*}

theorem beNat_beBytes (hn : n < 256 ^ width) : beNat (beBytes width n) = n := by
  induction width generalizing n with
  | zero =>
    have hzero : n = 0 := by simpa using hn
    rw [hzero]
    rfl
  | succ _ ih =>
    rw [pow_succ] at hn
    rw [beBytes, beNat_append, ih (by omega)]
    show 256 * (n / 256) + n % 256 = n
    omega

theorem beBytes_beNat (bytes : List Byte) : beBytes bytes.length (beNat bytes) = bytes := by
  induction bytes using List.reverseRec with
  | nil => rfl
  | append_singleton bytes byte ih =>
    have hbyte := byte.isLt
    rw [List.length_append, List.length_singleton, beBytes, beNat_append]
    have hdiv : (256 * beNat bytes + byte.val) / 256 = beNat bytes := by omega
    have hmod : (Fin.ofNat 256 (256 * beNat bytes + byte.val) : Byte) = byte := by
      ext
      show (256 * beNat bytes + byte.val) % 256 = byte.val
      omega
    rw [hdiv, hmod, ih]

theorem beNat_lt (bytes : List Byte) : beNat bytes < 256 ^ bytes.length := by
  induction bytes using List.reverseRec with
  | nil => exact Nat.one_pos
  | append_singleton _ byte ih =>
    have hbyte := byte.isLt
    rw [List.length_append, List.length_singleton, beNat_append, pow_succ]
    omega

theorem append_lt_append_of_lt [LinearOrder β] (hlen : u.length = v.length) (hlt : u < v)
    (x y : List β) : u ++ x < v ++ y := by
  induction u generalizing v with
  | nil =>
    have hv : v = [] := List.length_eq_zero_iff.mp hlen.symm
    rw [hv] at hlt
    exact absurd hlt (lt_irrefl _)
  | cons _ _ ih =>
    cases v with
    | nil => cases hlen
    | cons b v =>
      rw [List.cons_append, List.cons_append, List.cons_lt_cons_iff]
      rcases List.cons_lt_cons_iff.mp hlt with hab | ⟨hab, hlt⟩
      · exact .inl hab
      · exact .inr ⟨hab, ih (Nat.succ.inj hlen) hlt⟩

theorem append_le_append_left [LinearOrder β] (w : List β) (hle : u ≤ v) : w ++ u ≤ w ++ v := by
  rcases hle.eq_or_lt with heq | hlt
  · rw [heq]
  · exact (List.append_left_lt hlt).le

/-- A word that another does not extend is ordered with it whatever follows. -/
theorem append_lt_append_of_not_prefix [LinearOrder β] (hlt : u < v) (hnot : ¬ u <+: v)
    (x y : List β) : u ++ x < v ++ y := by
  induction hlt with
  | nil => exact absurd (List.nil_prefix) hnot
  | cons _ ih =>
    refine List.cons_lt_cons_iff.mpr (.inr ⟨rfl, ih fun h => hnot ?_⟩)
    exact (List.prefix_cons_inj _).mpr h
  | rel hab => exact List.cons_lt_cons_iff.mpr (.inl hab)

variable {m : ℕ}

theorem beBytes_lt (hn : n < 256 ^ width) (hmn : m < n) : beBytes width m < beBytes width n := by
  induction width generalizing m n with
  | zero =>
    rw [pow_zero] at hn
    omega
  | succ _ ih =>
    rw [pow_succ] at hn
    rw [beBytes, beBytes]
    by_cases hdiv : m / 256 < n / 256
    · have hlt := ih (by omega) hdiv
      exact append_lt_append_of_lt (by simp) hlt _ _
    · have heq : m / 256 = n / 256 := by omega
      rw [heq]
      refine List.append_left_lt ?_
      rw [List.cons_lt_cons_iff]
      left
      show m % 256 < n % 256
      omega

/-- The bytes of a number without leading zeros. -/
def minBytes (n : ℕ) : List Byte :=
  if n = 0 then [] else minBytes (n / 256) ++ [Fin.ofNat 256 n]
termination_by n
decreasing_by omega

@[simp]
theorem minBytes_zero : minBytes 0 = [] := by
  unfold minBytes
  rfl

theorem minBytes_pos (hn : 0 < n) : minBytes n = minBytes (n / 256) ++ [Fin.ofNat 256 n] := by
  rw [minBytes, if_neg (by omega)]

theorem minBytes_bounds (n : ℕ) :
    n < 256 ^ (minBytes n).length ∧ (0 < n → 256 ^ (minBytes n).length ≤ 256 * n) := by
  induction n using Nat.strongRecOn with
  | ind n ih =>
    by_cases hn : n = 0
    · rw [hn, minBytes_zero]
      exact ⟨Nat.one_pos, fun h => absurd h (lt_irrefl 0)⟩
    · obtain ⟨hlt, hle⟩ := ih (n / 256) (by omega)
      rw [minBytes_pos (by omega), List.length_append, List.length_singleton, pow_succ]
      refine ⟨by omega, fun _ => ?_⟩
      by_cases hdiv : n / 256 = 0
      · rw [hdiv, minBytes_zero, List.length_nil, pow_zero]
        omega
      · have hle' := hle (by omega)
        omega

theorem minBytes_eq_beBytes (n : ℕ) : minBytes n = beBytes (minBytes n).length n := by
  induction n using Nat.strongRecOn with
  | ind n ih =>
    by_cases hn : n = 0
    · rw [hn, minBytes_zero]
      rfl
    · have hrec := ih (n / 256) (by omega)
      rw [minBytes_pos (by omega), List.length_append, List.length_singleton, beBytes, ← hrec]

theorem beNat_minBytes (n : ℕ) : beNat (minBytes n) = n := by
  rw [minBytes_eq_beBytes]
  exact beNat_beBytes (minBytes_bounds n).1

/-- A larger number has no fewer bytes, and with as many it has larger ones. -/
theorem minBytes_lt (hmn : m < n) : (minBytes m).length < (minBytes n).length ∨
      (minBytes m).length = (minBytes n).length ∧ minBytes m < minBytes n := by
  have hm := (minBytes_bounds m).2
  have hn := (minBytes_bounds n).1
  rcases lt_trichotomy (minBytes m).length (minBytes n).length with hlt | heq | hgt
  · exact .inl hlt
  · right
    refine ⟨heq, ?_⟩
    rw [minBytes_eq_beBytes m, minBytes_eq_beBytes n, heq]
    exact beBytes_lt hn hmn
  · exfalso
    by_cases hzero : m = 0
    · rw [hzero, minBytes_zero] at hgt
      exact Nat.not_lt_zero _ hgt
    · have hle := hm (by omega)
      have hpow : 256 ^ ((minBytes n).length + 1) ≤ 256 ^ (minBytes m).length :=
        Nat.pow_le_pow_right (by omega) hgt
      rw [pow_succ] at hpow
      omega

/-- Bytes without a leading zero are those of their number. -/
theorem minBytes_beNat (hfst : bytes.head? ≠ some 0) : minBytes (beNat bytes) = bytes := by
  induction bytes using List.reverseRec with
  | nil => exact minBytes_zero
  | append_singleton bytes byte ih =>
    have hbyte := byte.isLt
    have hmod : (Fin.ofNat 256 (256 * beNat bytes + byte.val) : Byte) = byte := by
      ext
      show (256 * beNat bytes + byte.val) % 256 = byte.val
      omega
    have hdiv : (256 * beNat bytes + byte.val) / 256 = beNat bytes := by omega
    have hfst' : bytes.head? ≠ some 0 := by
      cases bytes with
      | nil => exact nofun
      | cons b bytes => exact hfst
    have hpos : 0 < 256 * beNat bytes + byte.val := by
      cases hby : bytes with
      | nil =>
        rw [hby] at hfst
        have hne : byte ≠ 0 := fun heq => hfst (by rw [heq]; rfl)
        have hval : byte.val ≠ 0 := fun heq => hne (Fin.ext heq)
        omega
      | cons b rest =>
        have hnonempty : minBytes (beNat bytes) ≠ [] := by
          rw [ih hfst', hby]
          exact List.cons_ne_nil _ _
        have hne : beNat bytes ≠ 0 := fun heq => hnonempty (by rw [heq, minBytes_zero])
        rw [← hby]
        omega
    rw [beNat_append, minBytes_pos hpos, hdiv, hmod, ih hfst']

end UbqGateway
