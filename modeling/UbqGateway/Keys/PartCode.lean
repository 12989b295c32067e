import Mathlib.Tactic.IntervalCases
import UbqGateway.Keys.KeyOrder

/-!
# The bytes of parts

One description of the bytes of a part (`partBytes`), that both encoders compute on the parts that
have a place in the order (`packedPart_eq`, `appendPart_eq`).  It is an ordered code
(`partBytes_ordered`), so that keys compare as the hexadecimal texts of their bytes do.
-/

namespace UbqGateway.Keys

open Native (NativeAuthorityError)

/-- The bytes of an integer, given those of its absolute value. -/
def bigintCode (negative : Bool) (body : List Byte) : List Byte :=
  bigintHeader negative body.length ++ if negative = true then body.map Fin.rev else body

def partBytes : NativeKeyPart → List Byte
  | .bytes value => appendEscaped 1 value
  | .string value => appendEscaped 2 (utf8 value)
  | .bigint value => bigintCode (decide (value < 0)) (minBytes value.natAbs)
  | .number value => 33 :: beBytes 8 value.ordered
  | .boolean value => [if value = true then 39 else 38]

/-! ### Both encoders compute them -/

theorem Double.not_isNaN_of_isFinite {value : Double} (hfn : value.isFinite = true) :
    ¬ value.isNaN = true := by
  unfold Double.isFinite at hfn
  unfold Double.isNaN
  intro h
  exact of_decide_eq_true hfn (of_decide_eq_true h).1

theorem bigintBody_eq (fuel value : ℕ) (body : List Byte) (hfuel : value ≤ fuel) :
    bigintBody fuel value body = minBytes value ++ body := by
  induction fuel generalizing value body with
  | zero =>
    have hzero : value = 0 := by omega
    rw [bigintBody, hzero, minBytes_zero, List.nil_append]
  | succ _ ih =>
    rw [bigintBody]
    split_ifs with hpos
    · rw [ih _ _ (by omega), minBytes_pos hpos, List.append_assoc, List.singleton_append]
    · have hzero : value = 0 := by omega
      rw [hzero, minBytes_zero, List.nil_append]

theorem minBytes_length_le (hn : n < 256 ^ width) : (minBytes n).length ≤ width := by
  by_contra hlen
  have hpos : 0 < n := by
    by_contra hzero
    have heq : n = 0 := by omega
    rw [heq, minBytes_zero] at hlen
    exact hlen (Nat.zero_le _)
  have hle := (minBytes_bounds n).2 hpos
  have hpow : 256 ^ (width + 1) ≤ 256 ^ (minBytes n).length :=
    Nat.pow_le_pow_right (by omega) (by omega)
  rw [pow_succ] at hpow
  omega

theorem minBytes_eq_nil (hnil : minBytes n = []) : n = 0 := by
  rw [← beNat_minBytes n, hnil]
  rfl

theorem byte_255_sub (byte : Byte) : 255 - byte = byte.rev := by
  apply Fin.ext
  simp [Fin.sub_def, Fin.rev]
  omega

theorem signedBody_eq (hlen : body.length ≤ 255) (hsgd : negative = true → body ≠ []) :
    signedBody negative body = .ok (bigintCode negative body) := by
  unfold signedBody bigintCode
  by_cases hnil : body = []
  · have hneg : negative = false := by
      cases negative with
      | true => exact absurd hnil (hsgd rfl)
      | false => rfl
    rw [hnil, hneg]
    rfl
  · rw [if_neg (mt List.length_eq_zero_iff.mp hnil), if_neg (by omega)]
    cases negative with
    | true => simp only [if_true, byte_255_sub]
    | false => simp only [Bool.false_eq_true, if_false, List.map_id']

theorem natAbs_minBytes {value : ℤ} (hneg : decide (value < 0) = true) :
    minBytes value.natAbs ≠ [] := by
  intro hnil
  have hlt : value < 0 := of_decide_eq_true hneg
  have hzero := minBytes_eq_nil hnil
  omega

theorem packedPart_eq (hpart : part.WellFormed) : packedPart part = .ok (partBytes part) := by
  cases part with
  | bytes | string | boolean => rfl
  | number value =>
    have hnan := Double.not_isNaN_of_isFinite hpart
    show numberPart value = .ok (33 :: beBytes 8 value.ordered)
    unfold numberPart
    rw [if_neg hnan, flipSign_beBytes]
  | bigint value =>
    have hbody := bigintBody_eq value.natAbs value.natAbs [] (le_refl _)
    rw [List.append_nil] at hbody
    show signedBody _ (bigintBody value.natAbs value.natAbs []) = .ok (bigintCode _ _)
    rw [hbody]
    exact signedBody_eq (minBytes_length_le hpart) natAbs_minBytes

theorem packedParts_eq (hkey : ∀ part ∈ key, part.WellFormed) :
    packedParts key = .ok (key.flatMap partBytes) := by
  induction key with
  | nil => rfl
  | cons _ _ ih =>
    obtain ⟨hpart, hkey⟩ := List.forall_mem_cons.mp hkey
    rw [packedParts, packedPart_eq hpart, ih hkey, List.flatMap_cons]
    rfl

theorem significant_eq (magnitude : List Byte) :
    significant magnitude = minBytes (beNat magnitude) := by
  have heq : beNat (significant magnitude) = beNat magnitude := by
    unfold significant
    induction magnitude with
    | nil => rfl
    | cons byte _ ih =>
      rw [List.dropWhile_cons]
      split_ifs with hbyte
      · have hzero : byte = 0 := of_decide_eq_true hbyte
        rw [ih, hzero]
        rfl
      · rfl
  rw [← heq]
  exact (minBytes_beNat (significant_head magnitude)).symm

/-- The integer that a sign and an absolute value stand for. -/
def BigIntKey.toInt (value : BigIntKey) : ℤ :=
  if value.negative = true then -(beNat value.magnitude : ℤ) else beNat value.magnitude

/-- A part of a portable key as one of a native key. -/
def KeyPart.native : KeyPart → NativeKeyPart
  | .bytes value => .bytes value
  | .string value => .string value
  | .bigInt value => .bigint value.toInt
  | .number value => .number value
  | .boolean value => .boolean value

variable (value : BigIntKey)

theorem BigIntKey.beNat_pos (hneg : value.negative = true) : 0 < beNat value.magnitude := by
  by_contra hzero
  have heq : beNat value.magnitude = 0 := by omega
  have hmag := minBytes_beNat value.minimal
  rw [heq, minBytes_zero] at hmag
  exact value.signed hneg hmag.symm

theorem BigIntKey.toInt_natAbs : value.toInt.natAbs = beNat value.magnitude := by
  unfold BigIntKey.toInt
  split_ifs <;> omega

theorem BigIntKey.toInt_negative : decide (value.toInt < 0) = value.negative := by
  have hpos := value.beNat_pos
  unfold BigIntKey.toInt
  cases hneg : value.negative with
  | true =>
    have hpos' := hpos hneg
    rw [if_pos rfl]
    exact decide_eq_true (by omega)
  | false =>
    rw [if_neg Bool.false_ne_true]
    exact decide_eq_false (by omega)

theorem ofNat_rev (hn : n ≤ 255) : (Fin.ofNat 256 n : Byte).rev = Fin.ofNat 256 (255 - n) := by
  ext
  show 256 - (n % 256 + 1) = (255 - n) % 256
  omega

theorem appendBigint_eq : appendBigint value = bigintCode value.negative value.magnitude := by
  have hshrt := value.short
  unfold appendBigint bigintCode bigintHeader
  cases hneg : value.negative with
  | true =>
    simp only [if_true]
    split_ifs with hlong
    · rw [ofNat_rev hshrt]
    · have htag : (0x14 - Fin.ofNat 256 value.magnitude.length : Byte) =
          Fin.ofNat 256 (20 - value.magnitude.length) := by
        ext
        rw [Fin.sub_def]
        show (256 - value.magnitude.length % 256 + 20) % 256 = (20 - value.magnitude.length) % 256
        omega
      rw [htag]
  | false =>
    simp only [Bool.false_eq_true, if_false, List.map_id']
    split_ifs with hlong
    · rfl
    · have htag : (0x14 + Fin.ofNat 256 value.magnitude.length : Byte) =
          Fin.ofNat 256 (20 + value.magnitude.length) := by
        ext
        rw [Fin.add_def]
        show (20 + value.magnitude.length % 256) % 256 = (20 + value.magnitude.length) % 256
        omega
      rw [htag]

theorem appendPart_eq {part : KeyPart} (hpart : part.native.WellFormed) :
    appendPart part = .ok (partBytes part.native) := by
  cases part with
  | bytes | string | boolean => rfl
  | number value =>
    have hnan := Double.not_isNaN_of_isFinite hpart
    show (if _ then _ else Except.ok (appendNumber value)) = .ok (33 :: beBytes 8 value.ordered)
    unfold appendNumber
    rw [if_neg (fun h => hnan h.1), if_neg hnan, orderedBits_toNat]
  | bigInt value =>
    show Except.ok (appendBigint value) = .ok (bigintCode _ (minBytes value.toInt.natAbs))
    rw [appendBigint_eq, value.toInt_negative, value.toInt_natAbs, minBytes_beNat value.minimal]

theorem appendParts_eq (hpts : ∀ part ∈ parts, part.native.WellFormed) :
    appendParts parts = .ok ((parts.map KeyPart.native).flatMap partBytes) := by
  induction parts with
  | nil => rfl
  | cons _ _ ih =>
    obtain ⟨hpart, hpts⟩ := List.forall_mem_cons.mp hpts
    rw [appendParts, appendPart_eq hpart, ih hpts, List.map_cons, List.flatMap_cons]
    rfl

/-! ### The order of the bytes -/

variable {u v : List Byte}

theorem map_rev_lt (hlen : u.length = v.length) (huv : u < v) :
    v.map Fin.rev < u.map Fin.rev := by
  induction huv with
  | nil => cases hlen
  | cons _ ih => exact List.cons_lt_cons_iff.mpr (.inr ⟨rfl, ih (Nat.succ.inj hlen)⟩)
  | rel hab => exact List.cons_lt_cons_iff.mpr (.inl (Fin.rev_lt_rev.mpr hab))

variable {j : ℕ}

theorem bigintHeader_lt {m n : Bool} {k : ℕ} (hj : j ≤ 255) (hk : k ≤ 255)
    (hjk : (if m = true then -(j : ℤ) else j) < if n = true then -(k : ℤ) else k)
      (x y : List Byte) :
    bigintHeader m j ++ x < bigintHeader n k ++ y := by
  have hlow : (11 : Byte).val = 11 := rfl
  have hhigh : (29 : Byte).val = 29 := rfl
  unfold bigintHeader
  cases m <;> cases n <;> simp only [if_true, Bool.false_eq_true, if_false] at hjk ⊢ <;>
    split_ifs <;>
    simp only [List.cons_append, List.nil_append, List.cons_lt_cons_iff, Fin.lt_def, Fin.ext_iff,
      Fin.val_ofNat, hlow, hhigh, true_and] <;>
    simp (disch := omega) only [Nat.mod_eq_of_lt (b := 256)] <;>
    omega

/-- The codes of integers are ordered as the integers. -/
theorem bigintCode_lt {a b : ℤ} (ha : a.natAbs < 256 ^ 255) (hb : b.natAbs < 256 ^ 255)
    (hab : a < b)
    (x y : List Byte) : bigintCode (decide (a < 0)) (minBytes a.natAbs) ++ x <
      bigintCode (decide (b < 0)) (minBytes b.natAbs) ++ y := by
  have hla := minBytes_length_le ha
  have hlb := minBytes_length_le hb
  unfold bigintCode
  rw [List.append_assoc, List.append_assoc]
  by_cases hna : a < 0
  · have hpos : (minBytes a.natAbs).length ≠ 0 := fun h =>
      natAbs_minBytes (decide_eq_true hna) (List.length_eq_zero_iff.mp h)
    by_cases hnb : b < 0
    · rw [decide_eq_true hna, decide_eq_true hnb, if_pos rfl, if_pos rfl]
      rcases minBytes_lt (m := b.natAbs) (n := a.natAbs) (by omega) with hlt | ⟨heq, hlt⟩
      · refine bigintHeader_lt hla hlb ?_ _ _
        rw [if_pos rfl, if_pos rfl]
        omega
      · rw [heq]
        refine List.append_left_lt (append_lt_append_of_lt ?_ (map_rev_lt heq hlt) x y)
        rw [List.length_map, List.length_map, heq]
    · refine bigintHeader_lt hla hlb ?_ _ _
      rw [decide_eq_true hna, decide_eq_false hnb, if_pos rfl, if_neg Bool.false_ne_true]
      omega
  · have hnb : ¬ b < 0 := by omega
    rw [decide_eq_false hna, decide_eq_false hnb, if_neg Bool.false_ne_true,
      if_neg Bool.false_ne_true]
    rcases minBytes_lt (m := a.natAbs) (n := b.natAbs) (by omega) with hlt | ⟨heq, hlt⟩
    · refine bigintHeader_lt hla hlb ?_ _ _
      rw [if_neg Bool.false_ne_true, if_neg Bool.false_ne_true]
      omega
    · rw [heq]
      exact List.append_left_lt (append_lt_append_of_lt heq hlt x y)

/-- The least tag of a kind. -/
def firstTag : ℕ → ℕ
  | 0 => 1
  | 1 => 2
  | 2 => 11
  | 3 => 33
  | _ => 38

/-- The greatest tag of a kind. -/
def lastTag : ℕ → ℕ
  | 0 => 1
  | 1 => 2
  | 2 => 29
  | 3 => 33
  | _ => 39

theorem lastTag_lt_firstTag (hij : i < j) (hj : j ≤ 4) : lastTag i < firstTag j := by
  interval_cases j <;> interval_cases i <;> decide

theorem bigintHeader_head (negative : Bool) (hlen : length ≤ 255) :
    ∃ tag rest, bigintHeader negative length = tag :: rest ∧ 11 ≤ tag.val ∧ tag.val ≤ 29 := by
  unfold bigintHeader
  split_ifs with hlong hneg hneg
  · exact ⟨11, _, rfl, by decide⟩
  · exact ⟨29, _, rfl, by decide⟩
  · refine ⟨_, _, rfl, ?_⟩
    rw [Fin.val_ofNat]
    omega
  · refine ⟨_, _, rfl, ?_⟩
    rw [Fin.val_ofNat]
    omega

theorem partBytes_head (hpart : part.WellFormed) :
    ∃ tag rest, partBytes part = tag :: rest ∧ firstTag part.rank ≤ tag.val ∧
      tag.val ≤ lastTag part.rank := by
  cases part with
  | bytes => exact ⟨1, _, rfl, le_refl _, le_refl _⟩
  | string => exact ⟨2, _, rfl, le_refl _, le_refl _⟩
  | number => exact ⟨33, _, rfl, le_refl _, le_refl _⟩
  | boolean value =>
    cases value with
    | true => exact ⟨39, [], rfl, Nat.le_succ _, le_refl _⟩
    | false => exact ⟨38, [], rfl, le_refl _, Nat.le_succ _⟩
  | bigint value =>
    obtain ⟨tag, rest, hheader, htag⟩ :=
      bigintHeader_head (decide (value < 0)) (minBytes_length_le hpart)
    refine ⟨tag, rest ++ if decide (value < 0) = true then (minBytes value.natAbs).map Fin.rev
      else minBytes value.natAbs, ?_, htag⟩
    show bigintHeader _ _ ++ _ = _
    rw [hheader]
    rfl

theorem NativeKeyPart.rank_le (part : NativeKeyPart) : part.rank ≤ 4 := by
  cases part <;> exact Nat.le_of_ble_eq_true rfl

variable {a b : NativeKeyPart}

theorem NativeKeyPart.precedes_of_rank (hrank : a.rank ≠ b.rank) :
    a.Precedes b ↔ a.rank < b.rank := by
  cases a <;> cases b <;> first | exact absurd rfl hrank | exact Iff.rfl

theorem NativeKeyPart.precedes_trichotomous (hab : ¬ a.Precedes b) (hba : ¬ b.Precedes a) :
    a = b := by
  by_cases hrank : a.rank = b.rank
  · cases a with
    | bytes =>
      cases b with
      | bytes => exact congrArg _ (le_antisymm (not_lt.mp hba) (not_lt.mp hab))
      | _ => cases hrank
    | string =>
      cases b with
      | string =>
        exact congrArg _ (String.le_antisymm (String.not_lt.mp hba) (String.not_lt.mp hab))
      | _ => cases hrank
    | bigint =>
      cases b with
      | bigint => exact congrArg _ (le_antisymm (not_lt.mp hba) (not_lt.mp hab))
      | _ => cases hrank
    | number =>
      cases b with
      | number => exact congrArg _ (Double.precedes_trichotomous hab hba)
      | _ => cases hrank
    | boolean =>
      cases b with
      | boolean => exact congrArg _ (le_antisymm (not_lt.mp hba) (not_lt.mp hab))
      | _ => cases hrank
  · rw [NativeKeyPart.precedes_of_rank hrank] at hab
    rw [NativeKeyPart.precedes_of_rank (Ne.symm hrank)] at hba
    omega

theorem appendEscaped_lt (tag : Byte) (huv : u < v) (hx : x ∈ continuations) :
    appendEscaped tag u ++ x < appendEscaped tag v ++ y := by
  unfold appendEscaped
  rw [List.cons_append, List.cons_append, List.append_assoc, List.append_assoc]
  exact List.cons_lt_cons_iff.mpr (.inr ⟨rfl, escaped_lt huv hx⟩)

/-- The codes of parts are ordered as the parts. -/
theorem partBytes_lt (ha : a.WellFormed) (hb : b.WellFormed) (hab : a.Precedes b)
    (hx : x ∈ continuations) : partBytes a ++ x < partBytes b ++ y := by
  by_cases hrank : a.rank = b.rank
  · cases a with
    | bytes =>
      cases b with
      | bytes => exact appendEscaped_lt 1 hab hx
      | _ => cases hrank
    | string =>
      cases b with
      | string => exact appendEscaped_lt 2 (utf8_lt hab) hx
      | _ => cases hrank
    | bigint =>
      cases b with
      | bigint => exact bigintCode_lt ha hb hab x y
      | _ => cases hrank
    | number =>
      cases b with
      | number v =>
        have hlt : v.ordered < 256 ^ 8 := v.ordered_lt
        have hby := beBytes_lt hlt (Double.precedes_ordered hab)
        refine List.cons_lt_cons_iff.mpr (.inr ⟨rfl, ?_⟩)
        exact append_lt_append_of_lt (by simp) hby x y
      | _ => cases hrank
    | boolean =>
      cases b with
      | boolean =>
        obtain ⟨rfl, rfl⟩ := Bool.lt_iff.mp hab
        exact List.cons_lt_cons_iff.mpr (.inl (by decide))
      | _ => cases hrank
  · have hlt := (NativeKeyPart.precedes_of_rank hrank).mp hab
    have htags := lastTag_lt_firstTag hlt b.rank_le
    obtain ⟨tag, rest, hby, -, hlast⟩ := partBytes_head ha
    obtain ⟨tag', rest', hby', hfst, -⟩ := partBytes_head hb
    rw [hby, hby']
    refine List.cons_lt_cons_iff.mpr (.inl ?_)
    show tag.val < tag'.val
    omega

/-- Parts that have a place in the order. -/
abbrev OrderedPart : Type := { part : NativeKeyPart // part.WellFormed }

instance : Std.Trichotomous fun a b : OrderedPart => a.val.Precedes b.val where
  trichotomous _ _ hab hba := Subtype.ext (NativeKeyPart.precedes_trichotomous hab hba)

theorem lastTag_le (rank : ℕ) : lastTag rank ≤ 39 := by
  unfold lastTag
  split <;> decide

theorem partBytes_ordered :
    OrderedCode (fun a b : OrderedPart => a.val.Precedes b.val) continuations
      fun part => partBytes part.val where
  lt a b hab _ hx _ _ := partBytes_lt a.property b.property hab hx
  nil_mem := nofun
  append_mem part x := by
    obtain ⟨tag, rest, hby, -, hlast⟩ := partBytes_head part.property
    have hle := lastTag_le part.val.rank
    rw [hby, List.cons_append]
    refine mem_continuations_cons ?_ _
    show tag.val < 255
    omega
  ne_nil part := by
    obtain ⟨tag, rest, hby, -⟩ := partBytes_head part.property
    rw [hby]
    exact List.cons_ne_nil _ _

/-! ### Hexadecimal digits -/

set_option maxRecDepth 4000 in
theorem hexByte_eq (byte : Byte) :
    hexByte byte = [Nat.digitChar (byte.val / 16), Nat.digitChar (byte.val % 16)] := by
  revert byte
  decide

theorem digitChar_lt (m n : Fin 16) (hmn : m < n) : Nat.digitChar m < Nat.digitChar n := by
  revert m n
  decide

theorem hexByte_ordered : OrderedCode (fun a b : Byte => a < b) Set.univ hexByte where
  lt a b hab x _ y _ := by
    have hlt : a.val < b.val := hab
    have ha := a.isLt
    have hb := b.isLt
    rw [hexByte_eq, hexByte_eq]
    rcases Nat.lt_or_ge (a.val / 16) (b.val / 16) with hhigh | hhigh
    · have hchar := digitChar_lt ⟨a.val / 16, by omega⟩ ⟨b.val / 16, by omega⟩ hhigh
      exact List.cons_lt_cons_iff.mpr (.inl hchar)
    · have heq : a.val / 16 = b.val / 16 := by omega
      have hlow : a.val % 16 < b.val % 16 := by omega
      have hchar := digitChar_lt ⟨a.val % 16, by omega⟩ ⟨b.val % 16, by omega⟩ hlow
      rw [heq]
      exact List.cons_lt_cons_iff.mpr (.inr ⟨rfl, List.cons_lt_cons_iff.mpr (.inl hchar)⟩)
  nil_mem := Set.mem_univ _
  append_mem _ _ := Set.mem_univ _
  ne_nil byte := by
    rw [hexByte_eq]
    exact List.cons_ne_nil _ _

end UbqGateway.Keys
