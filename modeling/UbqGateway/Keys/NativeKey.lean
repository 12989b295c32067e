import UbqGateway.Keys.TupleKey
import UbqGateway.Native.Commands

/-!
# Native keys

`nativeKey` of `src/authority/native-authority-sql.ts`: the parts of a key as hex digits.
-/

namespace UbqGateway.Keys

open Native (NativeAuthorityError)

/-- `NativeKey[number]` -/
inductive NativeKeyPart
  | bytes (value : List Byte)
  | string (value : String)
  | bigint (value : ℤ)
  | number (value : Double)
  | boolean (value : Bool)
deriving DecidableEq

/-- `bytesPart` of bytes, or of the UTF-8 bytes of a string. -/
def bytesPart (tag : Byte) (input : List Byte) : List Byte :=
  tag :: (input.flatMap fun byte => if byte = 0 then [byte, 255] else [byte]) ++ [0]

/-- `numberPart`, given the eight bytes of the number. -/
def flipSign : List Byte → List Byte
  | [] => []
  | first :: rest =>
    if first &&& 128 ≠ 0 then (first :: rest).map fun byte => byte ^^^ 255
    else (first ^^^ 128) :: rest

def numberPart (part : Double) : Except NativeAuthorityError (List Byte) :=
  if part.isNaN = true then .error ⟨"nonportable_native_key", 500⟩
  else .ok (33 :: flipSign (beBytes 8 part.bits.toNat))

/-- The loop of `bigintPart`: the bytes of `value` in front of `body`.  Every iteration makes the
value smaller. -/
def bigintBody : ℕ → ℕ → List Byte → List Byte
  | 0, _, body => body
  | fuel + 1, value, body =>
    if 0 < value then bigintBody fuel (value / 256) (Fin.ofNat 256 value :: body) else body

/-- The tag of `bigintPart`, and the length if it is not in the tag. -/
def bigintHeader (negative : Bool) (length : ℕ) : List Byte :=
  if length > 8 then
    if negative = true then [11, Fin.ofNat 256 (255 - length)] else [29, Fin.ofNat 256 length]
  else if negative = true then [Fin.ofNat 256 (20 - length)] else [Fin.ofNat 256 (20 + length)]

/-- `bigintPart`, given the bytes of the absolute value. -/
def signedBody (negative : Bool) (body : List Byte) : Except NativeAuthorityError (List Byte) :=
  if body.length = 0 then .ok [20]
  else if body.length > 255 then .error ⟨"native_bigint_key_too_large", 500⟩
  else
    .ok (bigintHeader negative body.length ++
      body.map fun byte => if negative = true then 255 - byte else byte)

def bigintPart (part : ℤ) : Except NativeAuthorityError (List Byte) :=
  signedBody (decide (part < 0)) (bigintBody part.natAbs part.natAbs [])

def packedPart : NativeKeyPart → Except NativeAuthorityError (List Byte)
  | .bytes value => .ok (bytesPart 1 value)
  | .string value => .ok (bytesPart 2 (utf8 value))
  | .number value => numberPart value
  | .bigint value => bigintPart value
  | .boolean value => .ok [if value = true then 39 else 38]

/-- `key.flatMap(packedPart)` -/
def packedParts : List NativeKeyPart → Except NativeAuthorityError (List Byte)
  | [] => .ok []
  | part :: key => do
    let bytes ← packedPart part
    let rest ← packedParts key
    return bytes ++ rest

/-- `byte.toString(16).padStart(2, "0")` -/
def hexByte (byte : Byte) : List Char := (Nat.toDigits 16 byte.val).leftpad 2 '0'

def nativeKey (key : List NativeKeyPart) : Except NativeAuthorityError String :=
  (packedParts key).map fun bytes => String.ofList (bytes.flatMap hexByte)

end UbqGateway.Keys
