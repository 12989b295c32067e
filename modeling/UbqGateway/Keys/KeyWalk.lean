import UbqGateway.Keys.PartCode
import UbqGateway.Library.Results

/-!
# Walking the bytes of a key

What the walker accepts: the bytes of a key are forms of its parts, one after the other
(`walkSourceBytes_iff`).  A part has one form, except that an integer of at most eight bytes also
has the one that is meant for longer ones (`WireForm`).  Whatever follows a form, the form of its
part with its tag is the only one that the bytes begin with (`Wire.unique`).
-/

namespace UbqGateway.Keys

/-- What the walker makes of a part. -/
def KeyPart.decoded : KeyPart → DecodedKeyPart
  | .bytes value => .bytes value
  | .string value => .string (utf8 value)
  | .bigInt value => .bigInt value.negative value.magnitude
  | .number value => .number value
  | .boolean value => .boolean value

/-! ### Texts and bytes -/

theorem walkEscaped_escaped (acc value : List Byte) (hrest : rest ∈ continuations) :
    walkEscaped acc (escaped value ++ 0 :: rest) = .ok (acc ++ value, rest) := by
  induction value generalizing acc with
  | nil =>
    show walkEscaped acc (0 :: rest) = _
    unfold walkEscaped
    rw [if_pos rfl, List.append_nil]
    cases rest with
    | nil => rfl
    | cons next rest =>
      have hne : next ≠ 0xff := fun heq => hrest (by rw [heq]; rfl)
      show (if next = 0xff then _ else _) = _
      rw [if_neg hne]
  | cons byte value ih =>
    have hacc : acc ++ byte :: value = acc ++ [byte] ++ value := by
      rw [List.append_assoc, List.singleton_append]
    rw [escaped_cons, hacc, ← ih]
    split_ifs with hbyte
    · -- the escaped zero is read back as one zero
      show walkEscaped acc (byte :: 0xff :: (escaped value ++ 0 :: rest)) = _
      conv_lhs => unfold walkEscaped
      rw [if_pos hbyte]
      rfl
    · rw [List.singleton_append, List.cons_append]
      conv_lhs => unfold walkEscaped
      rw [if_neg hbyte]

/-! ### Integers -/

theorem map_rev_rev (body : List Byte) : (body.map Fin.rev).map Fin.rev = body := by
  rw [List.map_map]
  conv_rhs => rw [← List.map_id body]
  congr 1
  funext byte
  exact Fin.rev_rev byte

theorem bigintLength_short (hlow : 12 ≤ tag.val) (hhigh : tag.val ≤ 28) (bytes : List Byte) :
    bigintLength tag bytes = .ok ((tag.val - 0x14) + (0x14 - tag.val), bytes) := by
  unfold bigintLength
  rw [if_neg]
  rintro (htag | htag)
  · have hval : tag.val = 11 := congrArg Fin.val htag
    omega
  · have hval : tag.val = 29 := congrArg Fin.val htag
    omega

/-! ### The forms of a part -/

/-- The absolute value of an integer with the tag's sign. -/
def payload (negative : Bool) (body : List Byte) : List Byte :=
  if negative = true then body.map Fin.rev else body

/-- An integer with its length after the tag. -/
def longForm (negative : Bool) (magnitude : List Byte) : List Byte :=
  (if negative = true then [0x0b, (Fin.ofNat 256 magnitude.length).rev]
    else [0x1d, Fin.ofNat 256 magnitude.length]) ++ payload negative magnitude

/-- An integer with its length in the tag. -/
def shortForm (negative : Bool) (magnitude : List Byte) : List Byte :=
  (if negative = true then Fin.ofNat 256 (20 - magnitude.length)
    else Fin.ofNat 256 (20 + magnitude.length)) :: payload negative magnitude

/-- The bytes that the walker takes for a part. -/
inductive WireForm : DecodedKeyPart → List Byte → Prop
  | bytes (value) : WireForm (.bytes value) (appendEscaped 0x01 value)
  | string (value) : WireForm (.string value) (appendEscaped 0x02 value)
  | long (negative) {magnitude} (hlen : magnitude.length ≤ 255) :
    WireForm (.bigInt negative magnitude) (longForm negative magnitude)
  | short (negative) {magnitude} (hlen : magnitude.length ≤ 8)
    (hsgd : negative = true → magnitude ≠ []) :
    WireForm (.bigInt negative magnitude) (shortForm negative magnitude)
  | number {value : Double} (hportable : ¬ (value.isNaN = true ∧ value.negative = true)) :
    WireForm (.number value) (0x21 :: beBytes 8 value.ordered)
  | boolean (value) : WireForm (.boolean value) [if value = true then 0x27 else 0x26]

theorem payload_length (negative : Bool) (body : List Byte) :
    (payload negative body).length = body.length := by
  unfold payload
  split_ifs
  · exact List.length_map _
  · rfl

theorem walkBigint_payload (hsign : tag < 0x14 ↔ negative = true)
    (hread : bigintLength tag bytes = .ok (magnitude.length, payload negative magnitude ++ rest)) :
    walkBigint tag bytes = .ok (.bigInt negative magnitude, rest) := by
  have hlen := payload_length negative magnitude
  have hlong : ¬ (payload negative magnitude ++ rest).length < magnitude.length := by
    rw [List.length_append, hlen]
    omega
  have htake : (payload negative magnitude ++ rest).take magnitude.length =
      payload negative magnitude := List.take_left' hlen
  have hdrop : (payload negative magnitude ++ rest).drop magnitude.length = rest :=
    List.drop_left' hlen
  have hback : ((payload negative magnitude).map fun byte =>
      if tag < 0x14 then byte.rev else byte) = magnitude := by
    simp only [hsign]
    unfold payload
    cases negative with
    | true => exact map_rev_rev magnitude
    | false => simp only [Bool.false_eq_true, if_false, List.map_id']
  have hdecide : decide (tag < 0x14) = negative := by
    rw [Bool.eq_iff_iff, decide_eq_true_iff]
    exact hsign
  unfold walkBigint
  rw [hread]
  show (if (payload negative magnitude ++ rest).length < magnitude.length then _ else _) = _
  rw [if_neg hlong, htake, hdrop, hback, hdecide]
  rfl

theorem walkPart_bigint (hlow : 0x0b ≤ tag) (hhigh : tag ≤ 0x1d) (bytes : List Byte) :
    walkPart tag bytes = walkBigint tag bytes := by
  have htag : ¬ (tag = 0x01 ∨ tag = 0x02) := by
    rintro (rfl | rfl)
    · exact absurd hlow (by decide)
    · exact absurd hlow (by decide)
  unfold walkPart
  rw [if_neg htag, if_pos ⟨hlow, hhigh⟩]

theorem walkPart_long (negative : Bool) (hlen : magnitude.length ≤ 255) (rest : List Byte) :
    ∃ tag body, longForm negative magnitude = tag :: body ∧
      walkPart tag (body ++ rest) = .ok (.bigInt negative magnitude, rest) := by
  have hval : (Fin.ofNat 256 magnitude.length : Byte).val = magnitude.length :=
    Nat.mod_eq_of_lt (by omega)
  cases negative with
  | true =>
    refine ⟨0x0b, (Fin.ofNat 256 magnitude.length).rev :: payload true magnitude, rfl, ?_⟩
    rw [walkPart_bigint (by decide) (by decide)]
    refine walkBigint_payload (by decide) ?_
    show Except.ok ((Fin.ofNat 256 magnitude.length : Byte).rev.rev.val, _) = _
    rw [Fin.rev_rev, hval]
    rfl
  | false =>
    refine ⟨0x1d, Fin.ofNat 256 magnitude.length :: payload false magnitude, rfl, ?_⟩
    rw [walkPart_bigint (by decide) (by decide)]
    refine walkBigint_payload (by decide) ?_
    show Except.ok ((Fin.ofNat 256 magnitude.length : Byte).val, _) = _
    rw [hval]
    rfl

/-- A short integer is read. -/
theorem walkPart_short (hlen : magnitude.length ≤ 8) (hsgd : negative = true → magnitude ≠ [])
    (rest : List Byte) : ∃ tag body, shortForm negative magnitude = tag :: body ∧
      walkPart tag (body ++ rest) = .ok (.bigInt negative magnitude, rest) := by
  refine ⟨_, _, rfl, ?_⟩
  cases negative with
  | true =>
    have hpos : 0 < magnitude.length := List.length_pos_iff.mpr (hsgd rfl)
    have hval : (Fin.ofNat 256 (20 - magnitude.length) : Byte).val = 20 - magnitude.length :=
      Nat.mod_eq_of_lt (by omega)
    rw [if_pos rfl, walkPart_bigint]
    · refine walkBigint_payload ?_ ?_
      · rw [Fin.lt_def, hval]
        exact iff_of_true (show 20 - magnitude.length < 20 by omega) rfl
      · rw [bigintLength_short (by omega) (by omega), hval]
        congr 2
        omega
    · rw [Fin.le_def, hval]
      show 11 ≤ 20 - magnitude.length
      omega
    · rw [Fin.le_def, hval]
      show 20 - magnitude.length ≤ 29
      omega
  | false =>
    have hval : (Fin.ofNat 256 (20 + magnitude.length) : Byte).val = 20 + magnitude.length :=
      Nat.mod_eq_of_lt (by omega)
    rw [if_neg Bool.false_ne_true, walkPart_bigint]
    · refine walkBigint_payload ?_ ?_
      · rw [Fin.lt_def, hval]
        exact iff_of_false (fun h : 20 + magnitude.length < 20 => by omega) Bool.false_ne_true
      · rw [bigintLength_short (by omega) (by omega), hval]
        congr 2
        omega
    · rw [Fin.le_def, hval]
      show 11 ≤ 20 + magnitude.length
      omega
    · rw [Fin.le_def, hval]
      show 20 + magnitude.length ≤ 29
      omega

/-! ### Numbers -/

theorem fromOrdered_orderedBits (value : Double) :
    fromOrdered (orderedBits value.bits) = value := by
  have hlt := value.bits.isLt
  unfold fromOrdered orderedBits
  by_cases hlrg : 2 ^ 63 ≤ value.bits.toNat
  · have hsml : ¬ (~~~value.bits &&& signBit ≠ 0) := by
      rw [and_signBit, BitVec.toNat_not]
      omega
    rw [if_pos ((and_signBit _).mpr hlrg), if_neg hsml, BitVec.not_not]
  · have hxor := xor_signBit value.bits (by omega)
    have hsign : (value.bits ^^^ signBit) &&& signBit ≠ 0 := by
      rw [and_signBit, hxor]
      omega
    rw [if_neg (mt (and_signBit _).mp hlrg), if_pos hsign, BitVec.xor_assoc, BitVec.xor_self,
      BitVec.xor_zero]

theorem xor_signBit_large (h : 2 ^ 63 ≤ bits.toNat) : ¬ 2 ^ 63 ≤ (bits ^^^ signBit).toNat := by
  intro hlrg
  have hlast : ∀ x : BitVec 64, 2 ^ 63 ≤ x.toNat → x.getLsbD 63 = true := fun x hx => by
    rw [← BitVec.msb_eq_getLsbD_last x, BitVec.msb_eq_decide]
    exact decide_eq_true hx
  have hxor := hlast _ hlrg
  rw [BitVec.getLsbD_xor, hlast bits h] at hxor
  exact absurd hxor (by decide)

theorem orderedBits_fromOrdered (ordered : BitVec 64) :
    orderedBits (fromOrdered ordered).bits = ordered := by
  have hlt := ordered.isLt
  unfold fromOrdered orderedBits
  by_cases hlrg : 2 ^ 63 ≤ ordered.toNat
  · have hsml := xor_signBit_large hlrg
    rw [if_pos ((and_signBit _).mpr hlrg), if_neg (mt (and_signBit _).mp hsml),
      BitVec.xor_assoc, BitVec.xor_self, BitVec.xor_zero]
  · have hnot : ~~~ordered &&& signBit ≠ 0 := by
      rw [and_signBit, BitVec.toNat_not]
      omega
    rw [if_neg (mt (and_signBit _).mp hlrg), if_pos hnot, BitVec.not_not]

theorem ordered_fromOrdered (ordered : BitVec 64) :
    (fromOrdered ordered).ordered = ordered.toNat := by
  rw [← orderedBits_toNat, orderedBits_fromOrdered]

theorem walkNumber_ordered (hportable : ¬ (value.isNaN = true ∧ value.negative = true))
    (rest : List Byte) :
    walkNumber (beBytes 8 value.ordered ++ rest) = .ok (.number value, rest) := by
  have hlt : value.ordered < 256 ^ 8 := value.ordered_lt
  have hlen := beBytes_length 8 value.ordered
  have htake : (beBytes 8 value.ordered ++ rest).take 8 = beBytes 8 value.ordered :=
    List.take_left' hlen
  have hdrop : (beBytes 8 value.ordered ++ rest).drop 8 = rest := List.drop_left' hlen
  have hval : fromOrdered (BitVec.ofNat 64 value.ordered) = value := by
    rw [← orderedBits_toNat, BitVec.ofNat_toNat, BitVec.setWidth_eq]
    exact fromOrdered_orderedBits value
  have hlong : ¬ (beBytes 8 value.ordered ++ rest).length < 8 := by
    rw [List.length_append, hlen]
    omega
  unfold walkNumber
  rw [if_neg hlong, htake, hdrop, beNat_beBytes hlt, hval, if_neg hportable]

theorem WireForm.walk (h : WireForm part form) (hrest : rest ∈ continuations) :
    ∃ tag body, form = tag :: body ∧ walkPart tag (body ++ rest) = .ok (part, rest) := by
  cases h with
  | bytes value =>
    refine ⟨1, escaped value ++ [0], rfl, ?_⟩
    unfold walkPart
    rw [if_pos (.inl rfl), List.append_assoc, List.singleton_append,
      walkEscaped_escaped [] value hrest]
    rfl
  | string value =>
    refine ⟨2, escaped value ++ [0], rfl, ?_⟩
    unfold walkPart
    rw [if_pos (.inr rfl), List.append_assoc, List.singleton_append,
      walkEscaped_escaped [] value hrest]
    rfl
  | long negative hlen => exact walkPart_long negative hlen rest
  | short _ hlen hsgd => exact walkPart_short hlen hsgd rest
  | number hportable => exact ⟨33, _, rfl, walkNumber_ordered hportable rest⟩
  | boolean value =>
    cases value with
    | true => exact ⟨39, [], rfl, rfl⟩
    | false => exact ⟨38, [], rfl, rfl⟩

/-! ### What is read has a form -/

/-- What was read was escaped so. -/
theorem escaped_of_walkEscaped (hwalk : walkEscaped acc bytes = .ok (value, rest)) :
    ∃ read, value = acc ++ read ∧ bytes = escaped read ++ 0 :: rest := by
  induction acc, bytes using walkEscaped.induct with
  | case1 =>
    unfold walkEscaped at hwalk
    cases hwalk
  | case2 =>
    -- the terminator ends the bytes
    unfold walkEscaped at hwalk
    cases hwalk
    exact ⟨[], (List.append_nil _).symm, rfl⟩
  | case3 _ _ ih =>
    unfold walkEscaped at hwalk
    obtain ⟨read, hval, hby⟩ := ih hwalk
    refine ⟨0 :: read, ?_, ?_⟩
    · rw [hval, List.append_assoc, List.singleton_append]
    · rw [hby, escaped_cons, if_pos rfl]
      rfl
  | case4 _ _ _ hnext =>
    unfold walkEscaped at hwalk
    rw [if_pos rfl] at hwalk
    dsimp only at hwalk
    rw [if_neg hnext] at hwalk
    cases hwalk
    exact ⟨[], (List.append_nil _).symm, rfl⟩
  | case5 _ byte _ hbyte ih =>
    unfold walkEscaped at hwalk
    rw [if_neg hbyte] at hwalk
    obtain ⟨read, hval, hby⟩ := ih hwalk
    refine ⟨byte :: read, ?_, ?_⟩
    · rw [hval, List.append_assoc, List.singleton_append]
    · rw [hby, escaped_cons, if_neg hbyte]
      rfl

theorem payload_of_map (tag : Byte) (read : List Byte) :
    payload (decide (tag < 0x14)) (read.map fun byte => if tag < 0x14 then byte.rev else byte) =
      read := by
  unfold payload
  by_cases htag : tag < 0x14
  · rw [decide_eq_true htag, if_pos rfl]
    simp only [htag, if_true]
    exact map_rev_rev read
  · rw [decide_eq_false htag, if_neg Bool.false_ne_true]
    simp only [htag, if_false, List.map_id']

theorem bigintLength_cases (hlow : 0x0b ≤ tag) (hhigh : tag ≤ 0x1d)
    (hread : bigintLength tag bytes = .ok (length, front)) :
    (tag = 0x0b ∧ ∃ byte : Byte, bytes = byte :: front ∧ length = byte.rev.val) ∨
    (tag = 0x1d ∧ ∃ byte : Byte, bytes = byte :: front ∧ length = byte.val) ∨
    (12 ≤ tag.val ∧ tag.val ≤ 28 ∧ bytes = front ∧ length = (tag.val - 20) + (20 - tag.val)) := by
  have hlow' : 11 ≤ tag.val := hlow
  have hhigh' : tag.val ≤ 29 := hhigh
  by_cases hneg : tag = 0x0b
  · subst hneg
    cases bytes with
    | nil => cases hread
    | cons byte bytes =>
      cases hread
      exact .inl ⟨rfl, byte, rfl, rfl⟩
  · by_cases hpos : tag = 0x1d
    · subst hpos
      cases bytes with
      | nil => cases hread
      | cons byte bytes =>
        cases hread
        exact .inr (.inl ⟨rfl, byte, rfl, rfl⟩)
    · have hne : tag.val ≠ 11 := fun h => hneg (Fin.ext h)
      have hne' : tag.val ≠ 29 := fun h => hpos (Fin.ext h)
      rw [bigintLength_short (by omega) (by omega)] at hread
      cases hread
      exact .inr (.inr ⟨by omega, by omega, rfl, rfl⟩)

/-- An integer that was read has a wire form. -/
theorem form_of_walkBigint (hlow : 0x0b ≤ tag) (hhigh : tag ≤ 0x1d)
    (hwalk : walkBigint tag bytes = .ok (part, rest)) :
    ∃ form, WireForm part form ∧ tag :: bytes = form ++ rest := by
  unfold walkBigint at hwalk
  obtain ⟨⟨length, front⟩, hread, hwalk⟩ := Results.of_bind hwalk
  change (if front.length < length then _ else _) = _ at hwalk
  by_cases hlong : front.length < length
  · rw [if_pos hlong] at hwalk
    cases hwalk
  · rw [if_neg hlong] at hwalk
    cases hwalk
    have hfront : front.take length ++ front.drop length = front :=
      List.take_append_drop length front
    have hpayload := payload_of_map tag (front.take length)
    have hlen : ((front.take length).map fun byte =>
        if tag < 0x14 then byte.rev else byte).length = length := by
      rw [List.length_map, List.length_take]
      omega
    revert hpayload hlen
    generalize ((front.take length).map fun byte => if tag < 0x14 then byte.rev else byte) =
      magnitude
    intro hpayload hlen
    rcases bigintLength_cases hlow hhigh hread with
      ⟨rfl, byte, rfl, hbyte⟩ | ⟨rfl, byte, rfl, hbyte⟩ | ⟨hlow', hhigh', rfl, htag⟩
    · have hlt := byte.rev.isLt
      have hcode : (Fin.ofNat 256 magnitude.length : Byte).rev = byte := by
        rw [hlen, hbyte, Fin.ofNat_eq_cast, Fin.cast_val_eq_self, Fin.rev_rev]
      refine ⟨_, WireForm.long _ (by omega), ?_⟩
      unfold longForm
      rw [hpayload, hcode, List.append_assoc, hfront]
      rfl
    · have hlt := byte.isLt
      have hcode : (Fin.ofNat 256 magnitude.length : Byte) = byte := by
        rw [hlen, hbyte, Fin.ofNat_eq_cast, Fin.cast_val_eq_self]
      refine ⟨_, WireForm.long _ (by omega), ?_⟩
      unfold longForm
      rw [hpayload, hcode, List.append_assoc, hfront]
      rfl
    · refine ⟨_, WireForm.short _ (by omega) ?_, ?_⟩
      · intro hneg hnil
        have hlt : tag.val < 20 := of_decide_eq_true hneg
        rw [hnil, List.length_nil] at hlen
        omega
      · unfold shortForm
        rw [hpayload, List.cons_append, hfront]
        congr 1
        by_cases hneg : tag < 0x14
        · have hlt : tag.val < 20 := hneg
          rw [decide_eq_true hneg, if_pos rfl]
          ext
          show tag.val = (20 - magnitude.length) % 256
          omega
        · have hge : ¬ tag.val < 20 := hneg
          rw [decide_eq_false hneg, if_neg Bool.false_ne_true]
          ext
          show tag.val = (20 + magnitude.length) % 256
          omega

theorem form_of_walkNumber (hwalk : walkNumber bytes = .ok (part, rest)) :
    ∃ form, WireForm part form ∧ 0x21 :: bytes = form ++ rest := by
  unfold walkNumber at hwalk
  by_cases hshrt : bytes.length < 8
  · rw [if_pos hshrt] at hwalk
    cases hwalk
  · have hlen : (bytes.take 8).length = 8 := by
      rw [List.length_take]
      omega
    have hlt : beNat (bytes.take 8) < 2 ^ 64 := by
      have h := beNat_lt (bytes.take 8)
      rw [hlen] at h
      exact h
    have hread : beBytes 8 (beNat (bytes.take 8)) = bytes.take 8 := by
      have h := beBytes_beNat (bytes.take 8)
      rw [hlen] at h
      exact h
    rw [if_neg hshrt] at hwalk
    split_ifs at hwalk with hportable
    cases hwalk
    refine ⟨_, WireForm.number hportable, ?_⟩
    rw [ordered_fromOrdered, BitVec.toNat_ofNat, Nat.mod_eq_of_lt hlt, hread, List.cons_append,
      List.take_append_drop]

/-- Whatever part was read has a wire form. -/
theorem form_of_walkPart (hwalk : walkPart tag bytes = .ok (part, rest)) :
    ∃ form, WireForm part form ∧ tag :: bytes = form ++ rest := by
  unfold walkPart at hwalk
  by_cases htext : tag = 0x01 ∨ tag = 0x02
  · rw [if_pos htext] at hwalk
    cases hescaped : walkEscaped [] bytes with
    | error e =>
      rw [hescaped] at hwalk
      cases hwalk
    | ok read =>
      obtain ⟨value, rest'⟩ := read
      rw [hescaped] at hwalk
      obtain ⟨value, rfl, rfl⟩ := escaped_of_walkEscaped hescaped
      rcases htext with rfl | rfl
      · cases hwalk
        refine ⟨_, WireForm.bytes value, ?_⟩
        unfold appendEscaped
        rw [List.cons_append, List.append_assoc, List.singleton_append]
      · cases hwalk
        refine ⟨_, WireForm.string value, ?_⟩
        unfold appendEscaped
        rw [List.cons_append, List.append_assoc, List.singleton_append]
  · rw [if_neg htext] at hwalk
    by_cases hbigint : 0x0b ≤ tag ∧ tag ≤ 0x1d
    · rw [if_pos hbigint] at hwalk
      exact form_of_walkBigint hbigint.1 hbigint.2 hwalk
    · rw [if_neg hbigint] at hwalk
      by_cases hnbr : tag = 0x21
      · rw [if_pos hnbr] at hwalk
        rw [hnbr]
        exact form_of_walkNumber hwalk
      · rw [if_neg hnbr] at hwalk
        by_cases hboolean : tag = 0x26 ∨ tag = 0x27
        · rw [if_pos hboolean] at hwalk
          cases hwalk
          refine ⟨_, WireForm.boolean _, ?_⟩
          rcases hboolean with rfl | rfl
          · rfl
          · rfl
        · rw [if_neg hboolean] at hwalk
          cases hwalk

/-! ### Keys -/

/-- Forms of parts, one after the other. -/
inductive Wire : List DecodedKeyPart → List Byte → Prop
  | nil : Wire [] []
  | cons {part form parts bytes} (hform : WireForm part form) (hrest : Wire parts bytes) :
    Wire (part :: parts) (form ++ bytes)

theorem WireForm.append_mem (h : WireForm part form) (x : List Byte) :
    form ++ x ∈ continuations := by
  obtain ⟨tag, body, rfl, hwalk⟩ := h.walk nil_mem_continuations
  intro hhead
  have htag : tag = 0xff := Option.some.inj hhead
  rw [htag] at hwalk
  cases hwalk

section

variable (h : Wire parts bytes)

include h

theorem Wire.append_mem (hx : x ∈ continuations) : bytes ++ x ∈ continuations := by
  cases h with
  | nil => exact hx
  | cons hform hrest =>
    rw [List.append_assoc]
    exact hform.append_mem _

theorem Wire.mem : bytes ∈ continuations := by
  have hmem := h.append_mem (x := []) nofun
  rw [List.append_nil] at hmem
  exact hmem

theorem Wire.ne_nil (hpts : parts ≠ []) : bytes ≠ [] := by
  cases h with
  | nil => exact absurd rfl hpts
  | cons hform hrest =>
    obtain ⟨tag, body, rfl, -⟩ := hform.walk nil_mem_continuations
    exact List.cons_ne_nil _ _

theorem Wire.walkLoop_eq (hfuel : bytes.length ≤ fuel) : walkLoop fuel bytes = .ok parts := by
  induction h generalizing fuel with
  | nil =>
    unfold walkLoop
    rfl
  | cons hform hrest ih =>
    obtain ⟨tag, body, rfl, hwalk⟩ := hform.walk hrest.mem
    rw [List.length_append, List.length_cons] at hfuel
    obtain ⟨fuel, rfl⟩ : ∃ n, fuel = n + 1 := ⟨fuel - 1, by omega⟩
    rw [List.cons_append, walkLoop, hwalk]
    show (walkLoop fuel _).bind _ = _
    rw [ih (by omega)]
    rfl

end

theorem wire_of_walkLoop (hfuel : bytes.length ≤ fuel) (hwalk : walkLoop fuel bytes = .ok parts) :
    Wire parts bytes := by
  induction fuel generalizing bytes parts with
  | zero =>
    have hnil : bytes = [] := List.length_eq_zero_iff.mp (by omega)
    rw [hnil] at hwalk ⊢
    cases hwalk
    exact Wire.nil
  | succ fuel ih =>
    cases bytes with
    | nil =>
      cases hwalk
      exact Wire.nil
    | cons tag bytes =>
      rw [walkLoop] at hwalk
      obtain ⟨⟨part, rest⟩, hpart, hwalk⟩ := Results.of_bind hwalk
      change (walkLoop fuel rest).bind _ = _ at hwalk
      obtain ⟨form, hform, hby⟩ := form_of_walkPart hpart
      obtain ⟨first, body, rfl, -⟩ := hform.walk nil_mem_continuations
      have hlen := congrArg List.length hby
      rw [List.length_append, List.length_cons, List.length_cons] at hlen
      rw [List.length_cons] at hfuel
      obtain ⟨parts', hloop, rfl⟩ := Results.of_map hwalk
      rw [hby]
      exact Wire.cons hform (ih (by omega) hloop)

theorem walkSourceBytes_iff (bytes : List Byte) (parts : List DecodedKeyPart) :
    walkSourceBytes bytes = .ok parts ↔ Wire parts bytes :=
  ⟨wire_of_walkLoop (le_refl _), fun h => h.walkLoop_eq (le_refl _)⟩

theorem Wire.append (ha : Wire p a) (hb : Wire q b) : Wire (p ++ q) (a ++ b) := by
  induction ha with
  | nil => exact hb
  | cons hform _ ih =>
    rw [List.append_assoc]
    exact Wire.cons hform ih

theorem Wire.split (h : Wire (p ++ q) bytes) : ∃ a b, bytes = a ++ b ∧ Wire p a ∧ Wire q b := by
  induction p generalizing bytes with
  | nil => exact ⟨[], bytes, rfl, Wire.nil, h⟩
  | cons _ _ ih =>
    cases h with
    | cons hform hrest =>
      obtain ⟨a, b, rfl, ha, hb⟩ := ih hrest
      exact ⟨_, b, (List.append_assoc _ _ _).symm, Wire.cons hform ha, hb⟩

theorem Wire.of_append (ha : Wire p a) (hx : x ∈ continuations) (h : Wire parts (a ++ x)) :
    ∃ q, parts = p ++ q ∧ Wire q x := by
  induction ha generalizing parts with
  | nil => exact ⟨parts, rfl, h⟩
  | @cons _ _ _ a hform ha ih =>
    rw [List.append_assoc] at h
    obtain ⟨tag, body, rfl, hwalk⟩ := hform.walk (ha.append_mem hx)
    generalize hby : tag :: body ++ (a ++ x) = bytes at h
    cases h with
    | nil => cases hby
    | @cons _ _ _ bytes' hform' hrest =>
      obtain ⟨tag', body', rfl, hwalk'⟩ := hform'.walk hrest.mem
      have hbody : body ++ (a ++ x) = body' ++ bytes' := (List.cons.inj hby).2
      obtain rfl := (List.cons.inj hby).1
      rw [hbody, hwalk'] at hwalk
      cases hwalk
      obtain ⟨q, rfl, hq⟩ := ih hrest
      exact ⟨q, rfl, hq⟩

theorem longForm_head_ne (hlen : magnitude.length ≤ 8)
    (hsgd : negative = true → magnitude ≠ []) :
    (longForm negative magnitude).head? ≠ (shortForm negative magnitude).head? := by
  intro hhead
  unfold longForm shortForm at hhead
  cases negative with
  | true =>
    have htag := congrArg Fin.val (Option.some.inj hhead)
    change 11 = (20 - magnitude.length) % 256 at htag
    omega
  | false =>
    have htag := congrArg Fin.val (Option.some.inj hhead)
    change 29 = (20 + magnitude.length) % 256 at htag
    omega

theorem WireForm.eq_of_head (h : WireForm part form) (h' : WireForm part form')
    (hhead : form.head? = form'.head?) : form = form' := by
  cases h with
  | bytes | string | number | boolean =>
    cases h'
    rfl
  | long =>
    cases h' with
    | long => rfl
    | short _ hlen' hsgd => exact absurd hhead (longForm_head_ne hlen' hsgd)
  | short _ hlen hsgd =>
    cases h' with
    | long => exact absurd hhead.symm (longForm_head_ne hlen hsgd)
    | short => rfl

theorem Wire.unique (ha : Wire p a) (hb : Wire p b) (heq : a ++ x = b ++ y) : a = b := by
  induction ha generalizing b with
  | nil =>
    cases hb
    rfl
  | cons hform _ ih =>
    cases hb with
    | cons hform' hb =>
      obtain ⟨tag, body, hby, -⟩ := hform.walk nil_mem_continuations
      obtain ⟨tag', body', hby', -⟩ := hform'.walk nil_mem_continuations
      have hhead := congrArg List.head? heq
      rw [hby, hby'] at hhead
      have hsame := hform.eq_of_head hform' (by rw [hby, hby']; exact hhead)
      rw [hsame, List.append_assoc, List.append_assoc] at heq
      rw [hsame, ih hb (List.append_cancel_left heq)]

/-! ### Keys made of parts -/

theorem bigintCode_eq (hlen : magnitude.length ≤ 255) : bigintCode negative magnitude =
      if magnitude.length > 8 then longForm negative magnitude else shortForm negative
        magnitude := by
  unfold bigintCode bigintHeader longForm shortForm
  cases negative with
  | true =>
    simp only [if_true]
    split_ifs
    · rw [ofNat_rev hlen]
      rfl
    · rfl
  | false =>
    simp only [Bool.false_eq_true, if_false]
    split_ifs
    · rfl
    · rfl

theorem wireForm_partBytes {part : KeyPart} (hpart : part.native.WellFormed) :
    WireForm part.decoded (partBytes part.native) := by
  cases part with
  | bytes value => exact WireForm.bytes value
  | string value => exact WireForm.string (utf8 value)
  | number => exact WireForm.number fun h => Double.not_isNaN_of_isFinite hpart h.1
  | boolean value => exact WireForm.boolean value
  | bigInt value =>
    have hshrt := value.short
    show WireForm (.bigInt value.negative value.magnitude)
      (bigintCode (decide (value.toInt < 0)) (minBytes value.toInt.natAbs))
    rw [value.toInt_negative, value.toInt_natAbs, minBytes_beNat value.minimal,
      bigintCode_eq hshrt]
    split_ifs
    · exact WireForm.long _ hshrt
    · exact WireForm.short _ (by omega) value.signed

theorem wire_parts {parts : List KeyPart} (hpts : ∀ part ∈ parts, part.native.WellFormed) :
    Wire (parts.map KeyPart.decoded) ((parts.map KeyPart.native).flatMap partBytes) := by
  induction parts with
  | nil => exact Wire.nil
  | cons _ _ ih =>
    obtain ⟨hpart, hpts⟩ := List.forall_mem_cons.mp hpts
    rw [List.map_cons, List.map_cons, List.flatMap_cons]
    exact Wire.cons (wireForm_partBytes hpart) (ih hpts)

theorem walkSourceBytes_parts {parts : List KeyPart}
    (hpts : ∀ part ∈ parts, part.native.WellFormed) :
    walkSourceBytes ((parts.map KeyPart.native).flatMap partBytes) =
      .ok (parts.map KeyPart.decoded) :=
  (walkSourceBytes_iff _ _).mpr (wire_parts hpts)

end UbqGateway.Keys
