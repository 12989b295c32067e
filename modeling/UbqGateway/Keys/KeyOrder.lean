import UbqGateway.Keys.NativeKey

/-!
# The order of keys

Parts are ordered by their kind and then by their value: bytes and texts lexicographically, integers
and finite numbers by their value, `-0` before `0`, `false` before `true`.  The bytes of a part are
an ordered code for whatever follows without an initial `0xff` (`partBytes_ordered`), since every
part begins with a smaller tag.
-/

namespace UbqGateway.Keys

open Double

/-! ### The order of parts -/

def NativeKeyPart.rank : NativeKeyPart → ℕ
  | .bytes _ => 0
  | .string _ => 1
  | .bigint _ => 2
  | .number _ => 3
  | .boolean _ => 4

/-- The order of finite numbers, with `-0` before `0`. -/
def Double.Precedes (a b : Double) : Prop :=
  a.scaled < b.scaled ∨ a.scaled = b.scaled ∧ a.negative = true ∧ b.negative = false

def NativeKeyPart.Precedes : NativeKeyPart → NativeKeyPart → Prop
  | .bytes a, .bytes b => a < b
  | .string a, .string b => a < b
  | .bigint a, .bigint b => a < b
  | .number a, .number b => a.Precedes b
  | .boolean a, .boolean b => a < b
  | a, b => a.rank < b.rank

/-- A part that has a place in the order: no infinity, no NaN, and no integer of more than 255
bytes. -/
def NativeKeyPart.WellFormed : NativeKeyPart → Prop
  | .number value => value.isFinite = true
  | .bigint value => value.natAbs < 256 ^ 255
  | _ => True

instance : DecidablePred NativeKeyPart.WellFormed := fun part => by
  cases part <;> unfold NativeKeyPart.WellFormed <;> infer_instance

/-- The order of keys: that of the first parts that differ, and a proper prefix before the longer
key. -/
def KeyPrecedes : List NativeKeyPart → List NativeKeyPart → Prop := List.Lex NativeKeyPart.Precedes

/-! ### Texts and bytes -/

/-- What can follow a part: nothing, or a byte other than `0xff`. -/
def continuations : Set (List Byte) := { x | x.head? ≠ some 0xff }

theorem nil_mem_continuations : [] ∈ continuations := nofun

theorem mem_continuations_cons (hbyte : byte < 0xff) (x : List Byte) :
    byte :: x ∈ continuations := by
  intro hhead
  exact hbyte.ne (Option.some.inj hhead)

theorem escaped_cons (byte : Byte) (u : List Byte) :
    escaped (byte :: u) = (if byte = 0 then [byte, 0xff] else [byte]) ++ escaped u :=
  List.flatMap_cons

theorem escaped_lt (huv : u < v) (hx : x ∈ continuations) :
    escaped u ++ 0 :: x < escaped v ++ 0 :: y := by
  induction huv with
  | @nil b v =>
    show 0 :: x < escaped (b :: v) ++ 0 :: y
    rw [escaped_cons]
    split_ifs with hb
    · -- the terminator and the escaped zero differ in what follows them
      rw [hb]
      refine List.cons_lt_cons_iff.mpr (.inr ⟨rfl, ?_⟩)
      cases x with
      | nil => exact List.nil_lt_cons _ _
      | cons first x =>
        have hne : first ≠ 0xff := fun heq => hx (by rw [heq]; rfl)
        have hle : first ≤ 0xff := Fin.le_last first
        exact List.cons_lt_cons_iff.mpr (.inl (lt_of_le_of_ne hle hne))
    · exact List.cons_lt_cons_iff.mpr (.inl (Fin.pos_iff_ne_zero.mpr hb))
  | @cons _ _ _ _ ih =>
    rw [escaped_cons, escaped_cons, List.append_assoc, List.append_assoc]
    exact List.append_left_lt ih
  | @rel a _ b _ hab =>
    rw [escaped_cons, escaped_cons]
    have hb : b ≠ 0 := (lt_of_le_of_lt (Fin.zero_le a) hab).ne'
    rw [if_neg hb]
    split_ifs with ha
    · exact List.cons_lt_cons_iff.mpr (.inl hab)
    · exact List.cons_lt_cons_iff.mpr (.inl hab)

theorem char_toNat_lt (c : Char) : c.toNat < 0x110000 := by
  rcases c.valid with hvld | ⟨-, hvld⟩
  · have hlt : c.toNat < 0xd800 := hvld
    omega
  · exact hvld

theorem utf8Char_ordered : OrderedCode (fun c d : Char => c < d) Set.univ utf8Char where
  lt c d hcd x _ y _ := by
    have hlt : c.toNat < d.toNat := hcd
    have hc := char_toNat_lt c
    have hd := char_toNat_lt d
    have hc₁ : c.toNat / 64 / 64 = c.toNat / 4096 := Nat.div_div_eq_div_mul _ _ _
    have hd₁ : d.toNat / 64 / 64 = d.toNat / 4096 := Nat.div_div_eq_div_mul _ _ _
    have hc₂ : c.toNat / 4096 / 64 = c.toNat / 262144 := Nat.div_div_eq_div_mul _ _ _
    have hd₂ : d.toNat / 4096 / 64 = d.toNat / 262144 := Nat.div_div_eq_div_mul _ _ _
    unfold utf8Char
    split_ifs <;>
      simp only [List.cons_append, List.nil_append, List.cons_lt_cons_iff, Fin.lt_def, Fin.ext_iff,
        Fin.val_ofNat] <;>
      simp (disch := omega) only [Nat.mod_eq_of_lt (b := 256)] <;>
      omega
  nil_mem := Set.mem_univ _
  append_mem _ _ := Set.mem_univ _
  ne_nil c := by
    unfold utf8Char
    split_ifs <;> exact List.cons_ne_nil _ _

theorem utf8_lt (hst : s < t) : utf8 s < utf8 t :=
  utf8Char_ordered.flatMap_lt hst

/-! ### Numbers -/

/-- The bits without the sign. -/
def Double.unsigned (value : Double) : ℕ := value.bits.toNat % 2 ^ 63

/-- The absolute value that exponent and fraction stand for, in units of `2 ^ -1074`. -/
def magnitudeOf (m : ℕ) : ℕ :=
  if m / 2 ^ 52 = 0 then m % 2 ^ 52 else (2 ^ 52 + m % 2 ^ 52) * 2 ^ (m / 2 ^ 52 - 1)

variable (value : Double)

theorem Double.magnitude_eq : value.magnitude = magnitudeOf value.unsigned := by
  have hlt := value.bits.isLt
  have hexponent : value.exponent = value.unsigned / 2 ^ 52 := by
    unfold Double.exponent unsigned
    omega
  have hfraction : value.fraction = value.unsigned % 2 ^ 52 := by
    unfold Double.fraction unsigned
    omega
  unfold Double.magnitude magnitudeOf
  rw [hexponent, hfraction]

theorem magnitudeOf_lt_pow (m : ℕ) : magnitudeOf m < 2 ^ 52 * 2 ^ (m / 2 ^ 52) := by
  have hmod : m % 2 ^ 52 < 2 ^ 52 := Nat.mod_lt _ (Nat.two_pow_pos 52)
  unfold magnitudeOf
  split_ifs with hzero
  · rw [hzero, pow_zero, mul_one]
    exact hmod
  · obtain ⟨e, he⟩ : ∃ e, m / 2 ^ 52 = e + 1 := ⟨m / 2 ^ 52 - 1, by omega⟩
    have hdouble : 2 ^ 52 * 2 ^ (e + 1) = (2 ^ 52 * 2) * 2 ^ e := by
      rw [pow_succ' 2 e, ← mul_assoc]
    rw [he, Nat.add_sub_cancel, hdouble]
    exact Nat.mul_lt_mul_of_pos_right (by omega) (Nat.two_pow_pos e)

theorem pow_le_magnitudeOf (he : m / 2 ^ 52 = e + 1) : 2 ^ 52 * 2 ^ e ≤ magnitudeOf m := by
  unfold magnitudeOf
  rw [if_neg (by omega), he, Nat.add_sub_cancel]
  exact Nat.mul_le_mul_right _ (Nat.le_add_right _ _)

theorem magnitudeOf_lt (hmn : m < n) : magnitudeOf m < magnitudeOf n := by
  rcases Nat.lt_or_ge (m / 2 ^ 52) (n / 2 ^ 52) with hexponent | hexponent
  · obtain ⟨e, he⟩ : ∃ e, n / 2 ^ 52 = e + 1 := ⟨n / 2 ^ 52 - 1, by omega⟩
    have hle : 2 ^ (m / 2 ^ 52) ≤ 2 ^ e := Nat.pow_le_pow_right (by omega) (by omega)
    calc magnitudeOf m < 2 ^ 52 * 2 ^ (m / 2 ^ 52) := magnitudeOf_lt_pow m
      _ ≤ 2 ^ 52 * 2 ^ e := Nat.mul_le_mul_left _ hle
      _ ≤ magnitudeOf n := pow_le_magnitudeOf he
  · have heq : m / 2 ^ 52 = n / 2 ^ 52 := by omega
    have hfraction : m % 2 ^ 52 < n % 2 ^ 52 := by omega
    unfold magnitudeOf
    rw [heq]
    split_ifs
    · exact hfraction
    · exact Nat.mul_lt_mul_of_pos_right (by omega) (Nat.two_pow_pos _)

theorem magnitudeOf_lt_iff (m n : ℕ) : magnitudeOf m < magnitudeOf n ↔ m < n := by
  refine ⟨fun hlt => ?_, magnitudeOf_lt⟩
  by_contra hnot
  rcases (not_lt.mp hnot).eq_or_lt with heq | hgt
  · rw [heq] at hlt
    exact lt_irrefl _ hlt
  · exact lt_asymm hlt (magnitudeOf_lt hgt)

/-- The number whose bytes `appendNumber` writes. -/
def Double.ordered (value : Double) : ℕ :=
  if value.negative = true then 2 ^ 64 - 1 - value.bits.toNat else value.bits.toNat + 2 ^ 63

theorem Double.ordered_lt : value.ordered < 2 ^ 64 := by
  have hlt := value.bits.isLt
  unfold Double.ordered negative
  split_ifs with hneg
  · omega
  · have hsml : ¬ 2 ^ 63 ≤ value.bits.toNat := fun h => hneg (decide_eq_true h)
    omega

theorem Double.ordered_eq :
    value.ordered = if value.negative = true then 2 ^ 63 - 1 - value.unsigned
      else 2 ^ 63 + value.unsigned := by
  have hlt := value.bits.isLt
  unfold Double.ordered unsigned
  split_ifs with hneg
  · have hlrg : 2 ^ 63 ≤ value.bits.toNat := of_decide_eq_true hneg
    omega
  · have hsml : ¬ 2 ^ 63 ≤ value.bits.toNat := fun h => hneg (decide_eq_true h)
    omega

theorem Double.unsigned_lt : value.unsigned < 2 ^ 63 :=
  Nat.mod_lt _ (Nat.two_pow_pos 63)

theorem Double.precedes_ordered {a b : Double} (h : a.Precedes b) : a.ordered < b.ordered := by
  have ha := a.unsigned_lt
  have hb := b.unsigned_lt
  have hlt : ∀ {m n : ℕ}, magnitudeOf m < magnitudeOf n → m < n := fun {m n} =>
    (magnitudeOf_lt_iff m n).mp
  unfold Double.Precedes scaled at h
  rw [a.magnitude_eq, b.magnitude_eq] at h
  rw [a.ordered_eq, b.ordered_eq]
  cases hna : a.negative with
  | true =>
    cases hnb : b.negative with
    | true =>
      simp only [hna, hnb, if_true, Bool.true_eq_false, and_false, or_false] at h ⊢
      have hab := hlt (m := b.unsigned) (n := a.unsigned) (by omega)
      omega
    | false =>
      simp only [if_true, Bool.false_eq_true, if_false]
      omega
  | false =>
    cases hnb : b.negative with
    | true =>
      simp only [hna, hnb, if_true, Bool.false_eq_true, if_false, false_and, and_false,
        or_false] at h
      omega
    | false =>
      simp only [hna, hnb, Bool.false_eq_true, if_false, false_and, and_false, or_false] at h ⊢
      have hab := hlt (m := a.unsigned) (n := b.unsigned) (by omega)
      omega

theorem Double.precedes_trichotomous {a b : Double} (hab : ¬ a.Precedes b) (hba : ¬ b.Precedes a) :
    a = b := by
  have ha := a.bits.isLt
  have hb := b.bits.isLt
  have hlt := magnitudeOf_lt_iff a.unsigned b.unsigned
  have hgt := magnitudeOf_lt_iff b.unsigned a.unsigned
  unfold Double.Precedes scaled at hab hba
  rw [a.magnitude_eq, b.magnitude_eq] at hab hba
  have hsign : a.negative = b.negative := by
    cases hna : a.negative <;> cases hnb : b.negative <;> simp [hna, hnb] at hab hba ⊢ <;> omega
  have hunsigned : a.unsigned = b.unsigned := by
    rw [hsign] at hab hba
    cases hnb : b.negative <;> simp [hnb] at hab hba <;> omega
  have hbits : a.bits.toNat = b.bits.toNat := by
    have hlrg : (2 ^ 63 ≤ a.bits.toNat) ↔ 2 ^ 63 ≤ b.bits.toNat := by
      unfold Double.negative at hsign
      exact decide_eq_decide.mp hsign
    unfold Double.unsigned at hunsigned
    omega
  have hvec : a.bits = b.bits := BitVec.eq_of_toNat_eq hbits
  cases a
  cases b
  cases hvec
  rfl

/-! ### The bytes of a number -/

theorem and_signBit (bits : BitVec 64) : bits &&& signBit ≠ 0 ↔ 2 ^ 63 ≤ bits.toNat := by
  have hmsb : bits.getLsbD 63 = decide (2 ^ 63 ≤ bits.toNat) := by
    rw [← BitVec.msb_eq_decide (w := 64)]
    exact (BitVec.msb_eq_getLsbD_last bits).symm
  unfold signBit
  rw [BitVec.and_twoPow, hmsb]
  by_cases hlrg : 2 ^ 63 ≤ bits.toNat
  · rw [if_pos (decide_eq_true hlrg)]
    exact iff_of_true (by decide) hlrg
  · rw [if_neg (by simpa using hlrg)]
    exact iff_of_false (fun h => h rfl) hlrg

theorem xor_signBit (bits : BitVec 64) (h : bits.toNat < 2 ^ 63) :
    (bits ^^^ signBit).toNat = bits.toNat + 2 ^ 63 := by
  have hand : bits &&& signBit = 0#64 := by
    by_contra hne
    exact absurd ((and_signBit bits).mp hne) (by omega)
  have hxor : bits ^^^ signBit = bits + signBit := by
    rw [BitVec.add_eq_or_of_and_eq_zero bits signBit hand]
    ext i hi
    have hbit : (bits &&& signBit)[i] = false := by
      rw [hand]
      exact BitVec.getElem_zero hi
    rw [BitVec.getElem_and] at hbit
    rw [BitVec.getElem_xor, BitVec.getElem_or]
    cases hx : bits[i] <;> cases hs : signBit[i] <;> simp [hx, hs] at hbit ⊢
  have hsign : signBit.toNat = 2 ^ 63 := rfl
  rw [hxor, BitVec.toNat_add, hsign, Nat.mod_eq_of_lt (by omega)]

theorem negative_iff : value.negative = true ↔ 2 ^ 63 ≤ value.bits.toNat :=
  decide_eq_true_iff

theorem orderedBits_toNat : (orderedBits value.bits).toNat = value.ordered := by
  unfold orderedBits ordered
  by_cases hneg : value.negative = true
  · rw [if_pos ((and_signBit _).mpr ((negative_iff value).mp hneg)), if_pos hneg,
      BitVec.toNat_not]
  · have hsml : ¬ 2 ^ 63 ≤ value.bits.toNat := fun h => hneg ((negative_iff value).mpr h)
    rw [if_neg (mt (and_signBit _).mp hsml), if_neg hneg, xor_signBit _ (by omega)]

theorem beBytes_rev {width n : ℕ} (hn : n < 256 ^ width) :
    (beBytes width n).map Fin.rev = beBytes width (256 ^ width - 1 - n) := by
  induction width generalizing n with
  | zero => rfl
  | succ width ih =>
    rw [pow_succ] at hn ⊢
    have hdiv : (256 ^ width * 256 - 1 - n) / 256 = 256 ^ width - 1 - n / 256 := by omega
    have hlast : (Fin.ofNat 256 n : Byte).rev = Fin.ofNat 256 (256 ^ width * 256 - 1 - n) := by
      ext
      show 256 - (n % 256 + 1) = (256 ^ width * 256 - 1 - n) % 256
      omega
    rw [beBytes, beBytes, List.map_append, ih (by omega), hdiv, List.map_singleton, hlast]

theorem beBytes_cons (width n : ℕ) :
    beBytes (width + 1) n = Fin.ofNat 256 (n / 256 ^ width) :: beBytes width n := by
  induction width generalizing n with
  | zero => simp [beBytes]
  | succ _ ih =>
    rw [beBytes, ih, beBytes, Nat.div_div_eq_div_mul, ← pow_succ', List.cons_append]

theorem beBytes_add (width n k : ℕ) : beBytes width (n + k * 256 ^ width) = beBytes width n := by
  induction width generalizing n with
  | zero => rfl
  | succ width ih =>
    have hspl : n + k * 256 ^ (width + 1) = n + k * 256 ^ width * 256 := by
      rw [pow_succ, ← mul_assoc]
    have hdiv : (n + k * 256 ^ width * 256) / 256 = n / 256 + k * 256 ^ width := by omega
    have hlast : (Fin.ofNat 256 (n + k * 256 ^ width * 256) : Byte) = Fin.ofNat 256 n := by
      ext
      show (n + k * 256 ^ width * 256) % 256 = n % 256
      omega
    rw [beBytes, beBytes, hspl, hdiv, ih, hlast]

set_option maxRecDepth 4000 in
theorem byte_xor_255 (byte : Byte) : byte ^^^ 255 = byte.rev := by
  revert byte
  decide

set_option maxRecDepth 4000 in
theorem byte_and_128 (byte : Byte) : byte &&& 128 ≠ 0 ↔ 128 ≤ byte := by
  revert byte
  decide

set_option maxRecDepth 4000 in
theorem byte_xor_128 {byte : Byte} (h : ¬ 128 ≤ byte) : byte ^^^ 128 = byte + 128 := by
  revert byte
  decide

theorem flipSign_cons (first : Byte) (rest : List Byte) : flipSign (first :: rest) =
      if first &&& 128 ≠ 0 then (first :: rest).map fun byte => byte ^^^ 255
      else (first ^^^ 128) :: rest := rfl

theorem flipSign_beBytes : flipSign (beBytes 8 value.bits.toNat) = beBytes 8 value.ordered := by
  have hlt := value.bits.isLt
  have hfst : (128 ≤ (Fin.ofNat 256 (value.bits.toNat / 256 ^ 7) : Byte)) ↔
      value.negative = true := by
    rw [negative_iff, Fin.le_def]
    show 128 ≤ value.bits.toNat / 256 ^ 7 % 256 ↔ _
    omega
  have hby := beBytes_cons 7 value.bits.toNat
  rw [hby, flipSign_cons]
  unfold Double.ordered
  by_cases hneg : value.negative = true
  · rw [if_pos ((byte_and_128 _).mpr (hfst.mpr hneg)), if_pos hneg, ← hby]
    have hrev : (beBytes 8 value.bits.toNat).map Fin.rev =
        beBytes 8 (256 ^ 8 - 1 - value.bits.toNat) := beBytes_rev (by omega)
    simp only [byte_xor_255]
    exact hrev
  · have hsml := mt hfst.mp hneg
    have hsml' : ¬ 2 ^ 63 ≤ value.bits.toNat := fun h => hneg ((negative_iff value).mpr h)
    have hhigh : (Fin.ofNat 256 (value.bits.toNat / 256 ^ 7) : Byte) + 128 =
        Fin.ofNat 256 ((value.bits.toNat + 2 ^ 63) / 256 ^ 7) := by
      ext
      show (value.bits.toNat / 256 ^ 7 % 256 + 128) % 256 =
        (value.bits.toNat + 2 ^ 63) / 256 ^ 7 % 256
      omega
    have hlow : beBytes 7 (value.bits.toNat + 2 ^ 63) = beBytes 7 value.bits.toNat :=
      beBytes_add 7 value.bits.toNat 128
    rw [if_neg (mt (byte_and_128 _).mp hsml), if_neg hneg, byte_xor_128 hsml, hhigh,
      beBytes_cons 7, ← hlow]

end UbqGateway.Keys
