import UbqGateway.Library.Utf16

/-!
# JSON texts

The grammar of JSON over code units.  A `Value` is a derivation: it has the white space and the
escapes of its text, so that `Value.text` is the text it derives.  `Value.objectNames` has the names
of the members of each object at any depth, as they are after unescaping.
-/

namespace UbqGateway.JsonText

/-- The code unit of an ASCII character. -/
def code (c : Char) : UInt16 := UInt16.ofNat c.toNat

/-! ### Code units -/

def isBlank (u : UInt16) : Bool :=
  u == code ' ' || u == code '\t' || u == code '\n' || u == code '\r'

def isDigit (u : UInt16) : Bool := decide (code '0' ≤ u) && decide (u ≤ code '9')

def hexValue? (u : UInt16) : Option ℕ :=
  if isDigit u = true then some (u.toNat - '0'.toNat)
  else if code 'a' ≤ u ∧ u ≤ code 'f' then some (u.toNat - 'a'.toNat + 10)
  else if code 'A' ≤ u ∧ u ≤ code 'F' then some (u.toNat - 'A'.toNat + 10)
  else none

/-- The code unit with four hexadecimal digits. -/
def hexUnit? (a b c d : UInt16) : Option UInt16 :=
  (hexValue? a).bind fun a => (hexValue? b).bind fun b => (hexValue? c).bind fun c =>
    (hexValue? d).map fun d => UInt16.ofNat (((a * 16 + b) * 16 + c) * 16 + d)

/-- What a backslash and a code unit stand for. -/
def escaped? (u : UInt16) : Option UInt16 :=
  [(code '"', code '"'), (code '\\', code '\\'), (code '/', code '/'), (code 'b', 8),
    (code 'f', 12),
    (code 'n', code '\n'), (code 'r', code '\r'), (code 't', code '\t')].lookup u

/-! ### Strings and numbers -/

/-- A code unit of a string, as it is written. -/
inductive StringUnit
  | plain (u : UInt16) (h : 0x20 ≤ u ∧ u ≠ code '"' ∧ u ≠ code '\\')
  | escape (u value : UInt16) (h : escaped? u = some value)
  | unicode (a b c d value : UInt16) (h : hexUnit? a b c d = some value)

def StringUnit.text : StringUnit → Utf16
  | .plain u _ => [u]
  | .escape u _ _ => [code '\\', u]
  | .unicode a b c d _ _ => [code '\\', code 'u', a, b, c, d]

def StringUnit.value : StringUnit → UInt16
  | .plain u _ => u
  | .escape _ value _ => value
  | .unicode _ _ _ _ value _ => value

/-- What stands between the quotation marks. -/
def body (string : List StringUnit) : Utf16 := string.flatMap StringUnit.text

def stringText (string : List StringUnit) : Utf16 := code '"' :: (body string ++ [code '"'])

def stringValue (string : List StringUnit) : Utf16 := string.map StringUnit.value

structure Digits where
  text : Utf16
  nonempty : text ≠ []
  digits : text.all isDigit = true

/-- A number without leading zeros. -/
inductive IntegerPart
  | zero
  | positive (first : UInt16) (h : isDigit first = true ∧ first ≠ code '0') (rest : Utf16)
      (hdgs : rest.all isDigit = true)

def IntegerPart.text : IntegerPart → Utf16
  | .zero => [code '0']
  | .positive first _ rest _ => first :: rest

structure Exponent where
  mark : UInt16
  isMark : mark = code 'e' ∨ mark = code 'E'
  sign : Option UInt16
  isSign : ∀ u ∈ sign, u = code '+' ∨ u = code '-'
  digits : Digits

structure Number where
  negative : Bool
  integer : IntegerPart
  fraction : Option Digits
  exponent : Option Exponent

def fractionText (fraction : Option Digits) : Utf16 :=
  fraction.elim [] fun digits => code '.' :: digits.text

def exponentText (exponent : Option Exponent) : Utf16 :=
  exponent.elim [] fun exponent => exponent.mark :: (exponent.sign.toList ++ exponent.digits.text)

def Number.text (n : Number) : Utf16 :=
  (if n.negative = true then [code '-'] else []) ++
    (n.integer.text ++ (fractionText n.fraction ++ exponentText n.exponent))

/-! ### Values -/

/-- White space. -/
structure Blank where
  text : Utf16
  blank : text.all isBlank = true

inductive Literal
  | true
  | false
  | null

def Literal.text : Literal → Utf16
  | .true => Utf16.ofString "true"
  | .false => Utf16.ofString "false"
  | .null => Utf16.ofString "null"

mutual

inductive Value
  | literal (literal : Literal)
  | number (number : Number)
  | string (string : List StringUnit)
  | emptyArray (blank : Blank)
  | array (elements : Elements)
  | emptyObject (blank : Blank)
  | object (members : Members)

/-- The elements of an array, to its end. -/
inductive Elements
  | last (before : Blank) (value : Value) (after : Blank)
  | more (before : Blank) (value : Value) (after : Blank) (rest : Elements)

/-- The members of an object, to its end. -/
inductive Members
  | last (before : Blank) (name : List StringUnit) (colon inner : Blank) (value : Value)
    (after : Blank)
  | more (before : Blank) (name : List StringUnit) (colon inner : Blank) (value : Value)
    (after : Blank)
      (rest : Members)

end

mutual

def Value.text : Value → Utf16
  | .literal literal => literal.text
  | .number number => number.text
  | .string string => stringText string
  | .emptyArray blank => code '[' :: (blank.text ++ [code ']'])
  | .array elements => code '[' :: elements.text
  | .emptyObject blank => code '\x7b' :: (blank.text ++ [code '\x7d'])
  | .object members => code '\x7b' :: members.text

def Elements.text : Elements → Utf16
  | .last before value after => before.text ++ (value.text ++ (after.text ++ [code ']']))
  | .more before value after rest =>
    before.text ++ (value.text ++ (after.text ++ code ',' :: rest.text))

def Members.text : Members → Utf16
  | .last before name colon inner value after =>
    before.text ++ (stringText name ++ (colon.text ++ code ':' ::
      (inner.text ++ (value.text ++ (after.text ++ [code '\x7d'])))))
  | .more before name colon inner value after rest =>
    before.text ++ (stringText name ++ (colon.text ++ code ':' ::
      (inner.text ++ (value.text ++ (after.text ++ code ',' :: rest.text)))))

end

def Members.names : Members → List Utf16
  | .last _ name _ _ _ _ => [stringValue name]
  | .more _ name _ _ _ _ rest => stringValue name :: rest.names

mutual

def Value.objectNames : Value → List (List Utf16)
  | .literal _ | .number _ | .string _ | .emptyArray _ | .emptyObject _ => []
  | .array elements => elements.objectNames
  | .object members => members.names :: members.objectNames

def Elements.objectNames : Elements → List (List Utf16)
  | .last _ value _ => value.objectNames
  | .more _ value _ rest => value.objectNames ++ rest.objectNames

def Members.objectNames : Members → List (List Utf16)
  | .last _ _ _ _ value _ => value.objectNames
  | .more _ _ _ _ value _ rest => value.objectNames ++ rest.objectNames

end

end UbqGateway.JsonText
