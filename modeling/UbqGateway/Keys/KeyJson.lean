import UbqGateway.Keys.NativeKey
import UbqGateway.Library.Utf16
import Mathlib.Data.UInt

/-!
# Keys as JSON

`keyJson` and `parseKey` of `src/authority/native-authority-sql.ts`, by which a listing names the
rows it found.  A JSON text is represented by the value that it denotes: what `JSON.parse` gives of
what `JSON.stringify` writes is `stringify`.  Strings are lists of code units, lone surrogates
included.
-/

namespace UbqGateway.Keys

open Native (NativeAuthorityError)

/-! ### Values -/

/-- A value that is written as JSON, with the doubles of JavaScript as its numbers. -/
inductive JsValue
  | null
  | boolean (value : Bool)
  | number (value : Double)
  | string (value : Utf16)
  | array (items : List JsValue)
  | object (members : List (String × JsValue))

/-- `-0` -/
def negativeZero : Double := ⟨2 ^ 63⟩

mutual

/-- `JSON.parse(JSON.stringify(value))` -/
def stringify : JsValue → JsValue
  | .number value =>
    if value.isFinite = false then .null
    else if value = negativeZero then .number ⟨0⟩ else .number value
  | .array items => .array (stringifyItems items)
  | .object members => .object (stringifyMembers members)
  | value => value

def stringifyItems : List JsValue → List JsValue
  | [] => []
  | item :: items => stringify item :: stringifyItems items

def stringifyMembers : List (String × JsValue) → List (String × JsValue)
  | [] => []
  | (name, value) :: members => (name, stringify value) :: stringifyMembers members

end

/-! ### Integers in JSON -/

def byteNumber (byte : Byte) : Double :=
  if byte = 0 then ⟨0⟩
  else ⟨BitVec.ofNat 64 ((1023 + Nat.log2 byte) * 2 ^ 52 +
    (byte - 2 ^ Nat.log2 byte) * 2 ^ (52 - Nat.log2 byte))⟩

/-- The byte that a value is: `Number.isInteger(byte) && byte >= 0 && byte <= 255`. -/
def byte? : JsValue → Option Byte
  | .number value =>
    if value.isFinite = true ∧ 0 ≤ value.scaled ∧ value.scaled ≤ 255 * 2 ^ 1074 ∧
        value.scaled % 2 ^ 1074 = 0 then
      some (Fin.ofNat 256 (value.scaled / 2 ^ 1074).toNat)
    else none
  | _ => none

/-- The digits of an integer without its sign. -/
def numerals (n : ℕ) : Utf16 := if n = 0 then [Utf16.digit 0] else Utf16.numeral n

/-- `String(n)` -/
def bigintText (n : ℤ) : Utf16 := if n < 0 then 45 :: numerals n.natAbs else numerals n.natAbs

/-- The number that decimal digits read as. -/
def digitsValue? (text : Utf16) : Option ℕ :=
  text.foldlM (fun value u =>
    if 48 ≤ u.toNat ∧ u.toNat ≤ 57 then some (value * 10 + (u.toNat - 48)) else none) 0

/-- `BigInt(text)`, of a text in decimal digits. -/
def bigInt? : Utf16 → Option ℤ
  | 45 :: digits => if digits = [] then none else (digitsValue? digits).map fun n => -(n : ℤ)
  | digits => (digitsValue? digits).map fun n => (n : ℤ)

/-! ### Keys -/

/-- A part of a key, whose strings are those of JavaScript. -/
inductive JsKeyPart
  | bytes (value : List Byte)
  | string (value : Utf16)
  | bigint (value : ℤ)
  | number (value : Double)
  | boolean (value : Bool)

/-- The text that `TextEncoder` encodes: a lone surrogate is replaced. -/
def scalars : Utf16 → List Char
  | [] => []
  | u :: v :: rest =>
    if 0xd800 ≤ u ∧ u < 0xdc00 ∧ 0xdc00 ≤ v ∧ v < 0xe000 then
      Char.ofNat (0x10000 + (u.toNat - 0xd800) * 0x400 + (v.toNat - 0xdc00)) :: scalars rest
    else (if 0xd800 ≤ u ∧ u < 0xe000 then '\ufffd' else Char.ofNat u.toNat) :: scalars (v :: rest)
  | [u] => [if 0xd800 ≤ u ∧ u < 0xe000 then '\ufffd' else Char.ofNat u.toNat]

/-- The part as `nativeKey` packs it. -/
def JsKeyPart.native : JsKeyPart → NativeKeyPart
  | .bytes value => .bytes value
  | .string value => .string (String.ofList (scalars value))
  | .bigint value => .bigint value
  | .number value => .number value
  | .boolean value => .boolean value

def jsonPart : JsKeyPart → JsValue
  | .bytes value => .object [("bytes", .array (value.map fun byte => .number (byteNumber byte)))]
  | .bigint value => .object [("bigint", .string (bigintText value))]
  | .number value =>
    if value = negativeZero then .object [("negativeZero", .boolean true)] else .number value
  | .string value => .string value
  | .boolean value => .boolean value

/-- The value that the text of a key denotes. -/
def keyJson (key : List JsKeyPart) : JsValue := stringify (.array (key.map jsonPart))

/-- What reading a key can throw. -/
inductive KeyError
  | authority (error : NativeAuthorityError)
  | syntaxError

def malformedNativeKey : KeyError := .authority ⟨"malformed_native_key", 503⟩

/-- `part.bytes`, where it is an array of bytes. -/
def bytes? (members : List (String × JsValue)) : Option (List Byte) :=
  match members.lookup "bytes" with
  | some (.array items) => items.mapM byte?
  | _ => none

def parsedPart : JsValue → Except KeyError JsKeyPart
  | .string value => .ok (.string value)
  | .number value => .ok (.number value)
  | .boolean value => .ok (.boolean value)
  | .object members =>
    match bytes? members, members.lookup "bigint", members.lookup "negativeZero" with
    | some value, _, _ => .ok (.bytes value)
    | none, some (.string text), _ => (bigInt? text).elim (.error .syntaxError) (.ok <| .bigint ·)
    | none, _, some (.boolean true) => .ok (.number negativeZero)
    | none, _, _ => .error malformedNativeKey
  | _ => .error malformedNativeKey

/-- `parseKey`, given the value of the text. -/
def parseKey : JsValue → Except KeyError (List JsKeyPart)
  | .array values => values.mapM parsedPart
  | _ => .error malformedNativeKey

/-! ### Reading back -/

theorem digitsValue?_map {digits : List ℕ} (hdgs : ∀ d ∈ digits, d < 10) :
    digitsValue? (digits.reverse.map Utf16.digit) = some (Nat.ofDigits 10 digits) := by
  unfold digitsValue?
  induction digits with
  | nil => rfl
  | cons d _ ih =>
    have hd := hdgs d List.mem_cons_self
    have hunit : (Utf16.digit d).toNat = 48 + d := by
      unfold Utf16.digit
      rw [UInt16.toNat_ofNat']
      omega
    rw [List.reverse_cons, List.map_append, List.foldlM_append,
      ih fun d hd => hdgs d (List.mem_cons_of_mem _ hd)]
    simp only [List.map_cons, List.map_nil, List.foldlM_cons, List.foldlM_nil,
      Option.bind_eq_bind, Option.bind_some, hunit]
    rw [if_pos (by omega), Nat.ofDigits_cons, Option.bind_some]
    show some _ = some _
    congr 1
    show _ = d + 10 * _
    omega

theorem digitsValue?_numerals (n : ℕ) : digitsValue? (numerals n) = some n := by
  unfold numerals
  split_ifs with hzero
  · rw [hzero]
    rfl
  · unfold Utf16.numeral
    rw [digitsValue?_map fun d hd => Nat.digits_lt_base (by decide) hd, Nat.ofDigits_digits]

theorem numerals_head (n : ℕ) : ∃ d < 10, ∃ rest, numerals n = Utf16.digit d :: rest := by
  unfold numerals
  split_ifs with hzero
  · exact ⟨0, by decide, [], rfl⟩
  · unfold Utf16.numeral
    cases hdgs : (Nat.digits 10 n).reverse with
    | nil =>
      rw [List.reverse_eq_nil_iff, Nat.digits_eq_nil_iff_eq_zero] at hdgs
      exact absurd hdgs hzero
    | cons d rest =>
      have hd : d ∈ Nat.digits 10 n := List.mem_reverse.mp (hdgs ▸ List.mem_cons_self)
      exact ⟨d, Nat.digits_lt_base (by decide) hd, _, rfl⟩

theorem bigInt?_bigintText (n : ℤ) : bigInt? (bigintText n) = some n := by
  obtain ⟨d, hd, rest, hhead⟩ := numerals_head n.natAbs
  have hval := digitsValue?_numerals n.natAbs
  unfold bigintText
  split_ifs with hneg
  · show (if numerals n.natAbs = [] then none else _) = _
    rw [if_neg (by rw [hhead]; exact List.cons_ne_nil _ _), hval]
    exact congrArg some (show -(n.natAbs : ℤ) = n by omega)
  · have hunit : Utf16.digit d ≠ 45 := by
      interval_cases d <;> decide
    rw [hhead] at hval ⊢
    rw [bigInt?.eq_2 _ fun digits heq => hunit (List.cons.inj heq).1, hval]
    exact congrArg some (show (n.natAbs : ℤ) = n by omega)

theorem byteNumber_kept : ∀ byte : Byte, byte? (.number (byteNumber byte)) = some byte ∧
    (byteNumber byte).isFinite = true ∧ byteNumber byte ≠ negativeZero := by
  decide +kernel

theorem stringify_bytes (value : List Byte) :
    stringifyItems (value.map fun byte => .number (byteNumber byte))
      = value.map fun byte => .number (byteNumber byte) := by
  induction value with
  | nil => rfl
  | cons byte _ ih =>
    obtain ⟨-, hfn, hzero⟩ := byteNumber_kept byte
    have hkept : stringify (.number (byteNumber byte)) = .number (byteNumber byte) := by
      unfold stringify
      rw [if_neg (by rw [hfn]; decide), if_neg hzero]
    rw [List.map_cons, stringifyItems, ih, hkept]

theorem mapM_bytes (value : List Byte) :
    (value.map fun byte => JsValue.number (byteNumber byte)).mapM byte? = some value := by
  induction value with
  | nil => rfl
  | cons byte _ ih => rw [List.map_cons, List.mapM_cons, (byteNumber_kept byte).1, ih]; rfl

theorem parsedPart_jsonPart (hfn : ∀ value, part = .number value → value.isFinite = true) :
    parsedPart (stringify (jsonPart part)) = .ok part := by
  cases part with
  | bytes value =>
    have hby : bytes? [("bytes", .array (stringifyItems
        (value.map fun byte => .number (byteNumber byte))))] = some value := by
      rw [stringify_bytes]
      exact mapM_bytes value
    show parsedPart (.object [("bytes", .array (stringifyItems _))]) = _
    simp only [parsedPart, hby]
  | string | boolean => rfl
  | bigint value =>
    show (bigInt? (bigintText value)).elim _ _ = _
    rw [bigInt?_bigintText]
    rfl
  | number value =>
    by_cases hzero : value = negativeZero
    · rw [hzero, jsonPart, if_pos rfl]
      rfl
    · have hstringify : stringify (.number value) = .number value := by
        unfold stringify
        rw [if_neg (by rw [hfn value rfl]; decide), if_neg hzero]
      rw [show jsonPart (.number value) = .number value from if_neg hzero, hstringify]
      rfl

/-- Where the part is an infinity or `NaN`, its text is `null`. -/
theorem parsedPart_infinite (hinfinite : value.isFinite = false) :
    parsedPart (stringify (jsonPart (.number value))) = .error malformedNativeKey := by
  have hzero : value ≠ negativeZero := by
    rintro rfl
    exact absurd hinfinite (by decide +kernel)
  have hstringify : stringify (.number value) = .null := by
    unfold stringify
    rw [if_pos hinfinite]
  rw [show jsonPart (.number value) = .number value from if_neg hzero, hstringify]
  rfl

theorem parsedParts_iff (key : List JsKeyPart) :
    (stringifyItems (key.map jsonPart)).mapM parsedPart = .ok key ↔
      ∀ value, .number value ∈ key → value.isFinite = true := by
  induction key with
  | nil => exact iff_of_true rfl nofun
  | cons part key ih =>
    rw [List.map_cons, stringifyItems, List.mapM_cons]
    by_cases hfn : ∀ value, part = .number value → value.isFinite = true
    · rw [parsedPart_jsonPart hfn]
      constructor
      · intro hread value hmem
        obtain rfl | hmem := List.mem_cons.mp hmem
        · exact hfn value rfl
        · cases hrest : (stringifyItems (key.map jsonPart)).mapM parsedPart with
          | error error =>
            rw [hrest] at hread
            cases hread
          | ok rest =>
            rw [hrest] at hread
            obtain rfl := (List.cons.inj (Except.ok.inj hread)).2
            exact ih.mp hrest value hmem
      · intro hall
        rw [ih.mpr fun value hmem => hall value (List.mem_cons_of_mem _ hmem)]
        rfl
    · simp only [not_forall, Bool.not_eq_true] at hfn
      obtain ⟨value, rfl, hinfinite⟩ := hfn
      rw [parsedPart_infinite hinfinite]
      refine iff_of_false nofun fun hall => ?_
      rw [hall value List.mem_cons_self] at hinfinite
      cases hinfinite

/-- A key is read back from its text, part by part, just if it has no infinite number. -/
theorem parseKey_keyJson_iff (key : List JsKeyPart) :
    parseKey (keyJson key) = .ok key ↔ ∀ value, .number value ∈ key → value.isFinite = true :=
  parsedParts_iff key

/-- `Infinity` -/
def infinity : Double := ⟨0x7ff0000000000000⟩

/-- The key of one infinite number is packed, but not read back. -/
theorem infinity_not_read : nativeKey ([.number infinity].map JsKeyPart.native)
      = .ok "21fff0000000000000" ∧
    parseKey (keyJson [.number infinity]) = .error malformedNativeKey := by
  have hread := @parsedPart_infinite infinity (by decide)
  refine ⟨rfl, ?_⟩
  show [stringify (jsonPart (.number infinity))].mapM parsedPart = _
  rw [List.mapM_cons, hread]
  rfl

end UbqGateway.Keys
