import Mathlib.Data.Char
import UbqGateway.Keys.KeyWalk

/-!
# Native keys and portable keys

The hexadecimal text of a native key orders, separates and extends keys as their parts do, and
spells the bytes of the portable key with the same parts, from which those parts are read back
(`native_key_exact`).
-/

namespace UbqGateway.Keys

open Native (NativeAuthorityError)

def hexText (bytes : List Byte) : String := String.ofList (bytes.flatMap hexByte)

theorem hexText_encodeHex (bytes : List Byte) :
    hexText bytes = String.ofList (encodeHex bytes) := by
  unfold hexText encodeHex hexDigit
  congr 2
  funext byte
  exact hexByte_eq byte

theorem hexText_lt_iff (u v : List Byte) : hexText u < hexText v ↔ u < v := by
  show (hexText u).toList < (hexText v).toList ↔ u < v
  unfold hexText
  rw [String.toList_ofList, String.toList_ofList]
  exact hexByte_ordered.flatMap_lt_iff u v

theorem hexText_injective (heq : hexText u = hexText v) : u = v :=
  hexByte_ordered.flatMap_injective (String.ofList_injective heq)

theorem nativeKey_eq (hkey : ∀ part ∈ key, part.WellFormed) :
    nativeKey key = .ok (hexText (key.flatMap partBytes)) := by
  unfold nativeKey
  rw [packedParts_eq hkey]
  rfl

/-! ### Parts with a place in the order -/

theorem exists_ordered (hkey : ∀ part ∈ key, part.WellFormed) :
    ∃ parts : List OrderedPart, parts.map Subtype.val = key :=
  ⟨key.attachWith _ hkey, List.attachWith_map_subtype_val hkey⟩

theorem lex_map_val (as bs : List OrderedPart) :
    List.Lex (fun a b : OrderedPart => a.val.Precedes b.val) as bs ↔
      KeyPrecedes (as.map Subtype.val) (bs.map Subtype.val) := by
  constructor
  · intro hlex
    induction hlex with
    | nil => exact List.Lex.nil
    | cons _ ih => exact List.Lex.cons ih
    | rel hab => exact List.Lex.rel hab
  · intro hlex
    induction as generalizing bs with
    | nil =>
      cases bs with
      | nil => cases hlex
      | cons b bs => exact List.Lex.nil
    | cons _ _ ih =>
      cases bs with
      | nil => cases hlex
      | cons _ bs =>
        rcases List.cons_lex_cons_iff.mp hlex with hab | ⟨hab, hlex⟩
        · exact List.Lex.rel hab
        · rw [Subtype.ext hab]
          exact List.Lex.cons (ih bs hlex)

theorem flatMap_map_val (parts : List OrderedPart) :
    (parts.map Subtype.val).flatMap partBytes = parts.flatMap fun part => partBytes part.val :=
  List.flatMap_map _ _ _

variable {a b : List NativeKeyPart}

section

variable (ha : ∀ part ∈ a, part.WellFormed) (hb : ∀ part ∈ b, part.WellFormed)

include ha hb

theorem keyBytes_injective (heq : a.flatMap partBytes = b.flatMap partBytes) : a = b := by
  obtain ⟨as, rfl⟩ := exists_ordered ha
  obtain ⟨bs, rfl⟩ := exists_ordered hb
  rw [flatMap_map_val, flatMap_map_val] at heq
  rw [partBytes_ordered.flatMap_injective heq]

theorem keyBytes_lt_iff : a.flatMap partBytes < b.flatMap partBytes ↔ KeyPrecedes a b := by
  obtain ⟨as, rfl⟩ := exists_ordered ha
  obtain ⟨bs, rfl⟩ := exists_ordered hb
  rw [flatMap_map_val, flatMap_map_val, partBytes_ordered.flatMap_lt_iff, lex_map_val]

end

/-! ### Portable parts -/

theorem BigIntKey.eq_of_magnitude {a b : BigIntKey} (hneg : a.negative = b.negative)
    (hmag : a.magnitude = b.magnitude) : a = b := by
  cases a
  cases b
  cases hneg
  cases hmag
  rfl

theorem KeyPart.decoded_injective : Function.Injective KeyPart.decoded := by
  intro a b hab
  cases a with
  | bytes =>
    cases b with
    | bytes => exact congrArg _ (DecodedKeyPart.bytes.inj hab)
    | _ => cases hab
  | string =>
    cases b with
    | string =>
      have hchrs := utf8Char_ordered.flatMap_injective (DecodedKeyPart.string.inj hab)
      exact congrArg _ (String.toList_injective hchrs)
    | _ => cases hab
  | bigInt =>
    cases b with
    | bigInt =>
      obtain ⟨hneg, hmag⟩ := DecodedKeyPart.bigInt.inj hab
      exact congrArg _ (BigIntKey.eq_of_magnitude hneg hmag)
    | _ => cases hab
  | number =>
    cases b with
    | number => exact congrArg _ (DecodedKeyPart.number.inj hab)
    | _ => cases hab
  | boolean =>
    cases b with
    | boolean => exact congrArg _ (DecodedKeyPart.boolean.inj hab)
    | _ => cases hab

theorem fromSignedMagnitude_toInt (hmag : beNat magnitude = value.natAbs)
    (hval : value.natAbs < 256 ^ 255) :
    ∃ key, BigIntKey.fromSignedMagnitude (decide (value < 0)) magnitude = .ok key ∧
      key.toInt = value := by
  have hby : significant magnitude = minBytes value.natAbs := by
    rw [significant_eq, hmag]
  have hlen : (significant magnitude).length ≤ 255 := by
    rw [hby]
    exact minBytes_length_le hval
  unfold BigIntKey.fromSignedMagnitude
  rw [dif_pos hlen]
  refine ⟨_, rfl, ?_⟩
  show (if (decide (value < 0) && !(significant magnitude).isEmpty) = true then
    -(beNat (significant magnitude) : ℤ) else beNat (significant magnitude)) = value
  rw [hby, beNat_minBytes]
  by_cases hneg : value < 0
  · have hnonempty : (minBytes value.natAbs).isEmpty = false := by
      rw [List.isEmpty_eq_false_iff]
      exact natAbs_minBytes (decide_eq_true hneg)
    rw [hnonempty, decide_eq_true hneg]
    show -(value.natAbs : ℤ) = value
    omega
  · rw [decide_eq_false hneg]
    show (value.natAbs : ℤ) = value
    omega

theorem exists_portable (hkey : ∀ part ∈ key, part.WellFormed) :
    ∃ parts : List KeyPart, parts.map KeyPart.native = key := by
  induction key with
  | nil => exact ⟨[], rfl⟩
  | cons part _ ih =>
    obtain ⟨hpart, hkey⟩ := List.forall_mem_cons.mp hkey
    obtain ⟨parts, rfl⟩ := ih hkey
    cases part with
    | bytes value => exact ⟨.bytes value :: parts, rfl⟩
    | string value => exact ⟨.string value :: parts, rfl⟩
    | number value => exact ⟨.number value :: parts, rfl⟩
    | boolean value => exact ⟨.boolean value :: parts, rfl⟩
    | bigint value =>
      obtain ⟨big, -, hbig⟩ := fromSignedMagnitude_toInt (beNat_minBytes value.natAbs) hpart
      refine ⟨.bigInt big :: parts, ?_⟩
      rw [List.map_cons, ← hbig]
      rfl

theorem fromParts_eq (hpts : ∀ part ∈ parts, part.native.WellFormed) :
    fromParts parts = .ok ⟨(parts.map KeyPart.native).flatMap partBytes⟩ := by
  unfold fromParts
  rw [appendParts_eq hpts]
  rfl

/-- Native keys are equal, ordered and extended as their parts are, and have the bytes of the
portable key of the same parts, which is walked back to exactly these. -/
theorem native_key_exact {a b : List NativeKeyPart} (ha : ∀ part ∈ a, part.WellFormed)
    (hb : ∀ part ∈ b, part.WellFormed) :
    ∃ s t, nativeKey a = .ok s ∧ nativeKey b = .ok t ∧ (s = t ↔ a = b) ∧ (s < t ↔ KeyPrecedes a b) ∧
      (a <+: b → a ≠ b → s.toList <+: t.toList ∧ s ≠ t) ∧
      (∃ parts : List KeyPart, parts.map KeyPart.native = a) ∧
      ∀ parts : List KeyPart, parts.map KeyPart.native = a → ∃ key, fromParts parts = .ok key ∧
        String.ofList (encodeHex key.sortBytes) = s ∧
        ∀ parts' : List KeyPart, key.decodedParts = .ok (parts'.map KeyPart.decoded) ↔
          parts' = parts := by
  have hequal : hexText (a.flatMap partBytes) = hexText (b.flatMap partBytes) ↔ a = b :=
    ⟨fun heq => keyBytes_injective ha hb (hexText_injective heq), fun heq => by rw [heq]⟩
  refine ⟨_, _, nativeKey_eq ha, nativeKey_eq hb, hequal, ?_, ?_, exists_portable ha, ?_⟩
  · rw [hexText_lt_iff]
    exact keyBytes_lt_iff ha hb
  · rintro ⟨rest, rfl⟩ hne
    refine ⟨?_, fun heq => hne (hequal.mp heq)⟩
    unfold hexText
    rw [String.toList_ofList, String.toList_ofList, List.flatMap_append, List.flatMap_append]
    exact List.prefix_append _ _
  · intro parts hpts
    have hwell : ∀ part ∈ parts, part.native.WellFormed := by
      rw [← List.forall_mem_map, hpts]
      exact ha
    refine ⟨_, fromParts_eq hwell, ?_, fun parts' => ?_⟩
    · rw [hpts, hexText_encodeHex]
    · show walkSourceBytes _ = _ ↔ _
      rw [walkSourceBytes_parts hwell]
      constructor
      · exact fun h => (KeyPart.decoded_injective.list_map (Except.ok.inj h)).symm
      · exact fun h => by rw [h]

/-- A negative integer of nine bytes comes before one of one byte, whatever follows. -/
theorem native_key_exact_integers : ∃ s t, nativeKey [.string "a", .bigint (-2 ^ 64)] = .ok s ∧
      nativeKey [.string "a", .bigint (-1), .number ⟨0⟩] = .ok t ∧ s < t := by
  obtain ⟨s, t, hs, ht, -, hlt, -⟩ := native_key_exact
    (a := [.string "a", .bigint (-2 ^ 64)]) (b := [.string "a", .bigint (-1), .number ⟨0⟩])
    (by decide +kernel) (by decide +kernel)
  refine ⟨s, t, hs, ht, hlt.mpr (List.Lex.cons (List.Lex.rel ?_))⟩
  show (-2 ^ 64 : ℤ) < -1
  decide

end UbqGateway.Keys
