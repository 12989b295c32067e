import UbqGateway.Library.OrderedCode

/-!
# Tuple keys

`rust/crates/gateway-core/src/tuple_key.rs`: parts of keys as bytes that sort as the parts do, and
the walker that reads them back.
-/

namespace UbqGateway.Keys

structure GatewayError where
  status : ℕ
  message : String
  code : Option String

def invalidKey (message : String) : GatewayError :=
  ⟨400, message, some "invalid_portable_tuple_key"⟩

/-! ### Numbers -/

/-- A 64-bit floating-point number by its bits. -/
structure Double where
  bits : BitVec 64
deriving DecidableEq

namespace Double

def negative (value : Double) : Bool := decide (2 ^ 63 ≤ value.bits.toNat)

def exponent (value : Double) : ℕ := value.bits.toNat / 2 ^ 52 % 2048

def fraction (value : Double) : ℕ := value.bits.toNat % 2 ^ 52

def isNaN (value : Double) : Bool := decide (value.exponent = 2047 ∧ value.fraction ≠ 0)

/-- Neither a NaN nor an infinity. -/
def isFinite (value : Double) : Bool := decide (value.exponent ≠ 2047)

/-- The absolute value of a finite number, in units of `2 ^ -1074`. -/
def magnitude (value : Double) : ℕ :=
  if value.exponent = 0 then value.fraction
  else (2 ^ 52 + value.fraction) * 2 ^ (value.exponent - 1)

/-- A finite number, in units of `2 ^ -1074`. -/
def scaled (value : Double) : ℤ :=
  if value.negative = true then -(value.magnitude : ℤ) else value.magnitude

end Double

/-! ### Parts -/

/-- `BigIntKey`: a sign and the bytes of an absolute value, the highest first. -/
structure BigIntKey where
  negative : Bool
  magnitude : List Byte
  short : magnitude.length ≤ 255
  minimal : magnitude.head? ≠ some 0
  signed : negative = true → magnitude ≠ []
deriving DecidableEq

inductive KeyPart
  | bytes (value : List Byte)
  | string (value : String)
  | bigInt (value : BigIntKey)
  | number (value : Double)
  | boolean (value : Bool)

inductive DecodedKeyPart
  | bytes (value : List Byte)
  | string (value : List Byte)
  | bigInt (negative : Bool) (magnitude : List Byte)
  | number (value : Double)
  | boolean (value : Bool)

/-- The bytes of a magnitude from its first one that is not zero on. -/
def significant (magnitude : List Byte) : List Byte := magnitude.dropWhile fun byte => byte = 0

theorem significant_head (magnitude : List Byte) : (significant magnitude).head? ≠ some 0 := by
  unfold significant
  induction magnitude with
  | nil => exact nofun
  | cons _ _ ih =>
    rw [List.dropWhile_cons]
    split_ifs with hbyte
    · exact ih
    · intro hhead
      exact hbyte (decide_eq_true (Option.some.inj hhead))

def BigIntKey.fromSignedMagnitude (negative : Bool) (magnitude : List Byte) :
    Except GatewayError BigIntKey :=
  if hlen : (significant magnitude).length ≤ 255 then
    .ok
      { negative := negative && !(significant magnitude).isEmpty
        magnitude := significant magnitude
        short := hlen
        minimal := significant_head magnitude
        signed := fun h hnil => by rw [hnil, List.isEmpty_nil] at h; simp at h }
  else .error (invalidKey "A bigint exceeds the tuple encoding's one-byte length field.")

def utf8Char (c : Char) : List Byte :=
  if c.toNat < 0x80 then [Fin.ofNat 256 c.toNat]
  else if c.toNat < 0x800 then
    [Fin.ofNat 256 (0xc0 + c.toNat / 64), Fin.ofNat 256 (0x80 + c.toNat % 64)]
  else if c.toNat < 0x10000 then
    [Fin.ofNat 256 (0xe0 + c.toNat / 4096), Fin.ofNat 256 (0x80 + c.toNat / 64 % 64),
      Fin.ofNat 256 (0x80 + c.toNat % 64)]
  else
    [Fin.ofNat 256 (0xf0 + c.toNat / 262144), Fin.ofNat 256 (0x80 + c.toNat / 4096 % 64),
      Fin.ofNat 256 (0x80 + c.toNat / 64 % 64), Fin.ofNat 256 (0x80 + c.toNat % 64)]

def utf8 (value : String) : List Byte := value.toList.flatMap utf8Char

/-! ### Encoding -/

/-- The bytes of a value with `0xff` after each zero. -/
def escaped (value : List Byte) : List Byte :=
  value.flatMap fun byte => if byte = 0 then [byte, 0xff] else [byte]

def appendEscaped (tag : Byte) (value : List Byte) : List Byte := tag :: (escaped value ++ [0])

def signBit : BitVec 64 := BitVec.twoPow 64 63

/-- `ordered` of `append_number` -/
def orderedBits (bits : BitVec 64) : BitVec 64 :=
  if bits &&& signBit ≠ 0 then ~~~bits else bits ^^^ signBit

def appendNumber (value : Double) : List Byte :=
  0x21 :: beBytes 8
    (orderedBits (if value.isNaN = true then 0x7ff8000000000000 else value.bits)).toNat

def appendBigint (value : BigIntKey) : List Byte :=
  (if value.magnitude.length > 8 then
    if value.negative = true then [0x0b, (Fin.ofNat 256 value.magnitude.length).rev]
    else [0x1d, Fin.ofNat 256 value.magnitude.length]
  else if value.negative = true then [0x14 - Fin.ofNat 256 value.magnitude.length]
  else [0x14 + Fin.ofNat 256 value.magnitude.length]) ++
    value.magnitude.map fun byte => if value.negative = true then byte.rev else byte

def appendPart : KeyPart → Except GatewayError (List Byte)
  | .bytes value => .ok (appendEscaped 0x01 value)
  | .string value => .ok (appendEscaped 0x02 (utf8 value))
  | .boolean value => .ok [if value = true then 0x27 else 0x26]
  | .bigInt value => .ok (appendBigint value)
  | .number value =>
    if value.isNaN = true ∧ value.negative = true then
      .error (invalidKey "Negative NaN tuple keys are not portable.")
    else .ok (appendNumber value)

structure TupleKey where
  sortBytes : List Byte
deriving DecidableEq

/-- The bytes of parts, in their order. -/
def appendParts : List KeyPart → Except GatewayError (List Byte)
  | [] => .ok []
  | part :: parts => do
    let bytes ← appendPart part
    let rest ← appendParts parts
    return bytes ++ rest

def fromParts (parts : List KeyPart) : Except GatewayError TupleKey :=
  (appendParts parts).map TupleKey.mk

/-! ### Walking -/

/-- The payload of a string or of bytes up to its terminator, and what follows. -/
def walkEscaped : List Byte → List Byte → Except GatewayError (List Byte × List Byte)
  | _, [] => .error (invalidKey "A tuple string/bytes part is truncated.")
  | value, byte :: rest =>
    if byte = 0 then
      match rest with
      | [] => .ok (value, [])
      | next :: rest' =>
        if next = 0xff then walkEscaped (value ++ [byte]) rest' else .ok (value, next :: rest')
    else walkEscaped (value ++ [byte]) rest

/-- The length of a bigint with this tag, and what follows the length. -/
def bigintLength (tag : Byte) (bytes : List Byte) : Except GatewayError (ℕ × List Byte) :=
  if tag = 0x0b ∨ tag = 0x1d then
    match bytes with
    | [] => .error (invalidKey "A tuple bigint length is truncated.")
    | length :: rest => .ok (if tag = 0x0b then length.rev.val else length.val, rest)
  else .ok ((tag.val - 0x14) + (0x14 - tag.val), bytes)

/-- The part of a bigint with this tag, and what follows. -/
def walkBigint (tag : Byte) (bytes : List Byte) :
    Except GatewayError (DecodedKeyPart × List Byte) := do
  let (length, rest) ← bigintLength tag bytes
  if rest.length < length then
    throw (invalidKey "A tuple key part is truncated.")
  return (.bigInt (decide (tag < 0x14))
    ((rest.take length).map fun byte => if tag < 0x14 then byte.rev else byte), rest.drop length)

/-- `f64::from_bits` of the bits that `ordered` stands for. -/
def fromOrdered (ordered : BitVec 64) : Double :=
  ⟨if ordered &&& signBit ≠ 0 then ordered ^^^ signBit else ~~~ordered⟩

/-- The part of a number, and what follows. -/
def walkNumber (bytes : List Byte) : Except GatewayError (DecodedKeyPart × List Byte) :=
  if bytes.length < 8 then .error (invalidKey "A tuple number is truncated.")
  else if (fromOrdered (BitVec.ofNat 64 (beNat (bytes.take 8)))).isNaN = true ∧
      (fromOrdered (BitVec.ofNat 64 (beNat (bytes.take 8)))).negative = true then
    .error (invalidKey "Negative NaN tuple keys are not portable.")
  else .ok (.number (fromOrdered (BitVec.ofNat 64 (beNat (bytes.take 8)))), bytes.drop 8)

/-- The part with this tag, and what follows. -/
def walkPart (tag : Byte) (bytes : List Byte) : Except GatewayError (DecodedKeyPart × List Byte) :=
  if tag = 0x01 ∨ tag = 0x02 then do
    let (value, rest) ← walkEscaped [] bytes
    return (if tag = 0x01 then .bytes value else .string value, rest)
  else if 0x0b ≤ tag ∧ tag ≤ 0x1d then walkBigint tag bytes
  else if tag = 0x21 then walkNumber bytes
  else if tag = 0x26 ∨ tag = 0x27 then .ok (.boolean (decide (tag = 0x27)), bytes)
  else .error (invalidKey "A tuple key contains an unsupported part tag.")

/-- The loop of `walk_source_bytes`, for at most so many parts. -/
def walkLoop : ℕ → List Byte → Except GatewayError (List DecodedKeyPart)
  | _, [] => .ok []
  | 0, _ :: _ => .ok []
  | fuel + 1, tag :: bytes => do
    let (part, rest) ← walkPart tag bytes
    let parts ← walkLoop fuel rest
    return part :: parts

/-- `walk_source_bytes`.  A part has at least one byte. -/
def walkSourceBytes (bytes : List Byte) : Except GatewayError (List DecodedKeyPart) :=
  walkLoop bytes.length bytes

def TupleKey.decodedParts (key : TupleKey) : Except GatewayError (List DecodedKeyPart) :=
  walkSourceBytes key.sortBytes

def fromSortBytes (bytes : List Byte) : Except GatewayError TupleKey := do
  let _ ← walkSourceBytes bytes
  return ⟨bytes⟩

def TupleKey.validateStoredKey (key : TupleKey) : Except GatewayError Unit :=
  if key.sortBytes = [] then .error (invalidKey "A stored tuple key cannot be empty.") else .ok ()

def TupleKey.isStrictDescendantOf (key stem : TupleKey) : Bool :=
  decide (stem.sortBytes.length < key.sortBytes.length) && stem.sortBytes.isPrefixOf key.sortBytes

/-! ### Record keys -/

structure RecordKey where
  text : String
deriving DecidableEq

def keyPrefix : List Char := "tuple-v1:".toList

/-- `HEX` -/
def hexDigit (n : ℕ) : Char := Nat.digitChar n

def encodeHex (bytes : List Byte) : List Char :=
  bytes.flatMap fun byte => [hexDigit (byte.val / 16), hexDigit (byte.val % 16)]

/-- `digit` of `decode_hex` -/
def hexValue (c : Char) : Option ℕ :=
  if '0' ≤ c ∧ c ≤ '9' then some (c.toNat - '0'.toNat)
  else if 'a' ≤ c ∧ c ≤ 'f' then some (c.toNat - 'a'.toNat + 10)
  else none

def decodeHex : List Char → Option (List Byte)
  | [] => some []
  | [_] => none
  | high :: low :: rest => do
    let h ← hexValue high
    let l ← hexValue low
    let bytes ← decodeHex rest
    return Fin.ofNat 256 (h * 16 + l) :: bytes

def fromRecordKey (key : RecordKey) : Except GatewayError TupleKey :=
  match keyPrefix.isPrefixOf? key.text.toList with
  | none => .error (invalidKey "The portable tuple key codec is unsupported.")
  | some encoded =>
    match decodeHex encoded with
    | none => .error (invalidKey "A tuple key has invalid lowercase hex.")
    | some bytes => fromSortBytes bytes

def TupleKey.toRecordKey (key : TupleKey) : RecordKey :=
  ⟨String.ofList (keyPrefix ++ encodeHex key.sortBytes)⟩

end UbqGateway.Keys
