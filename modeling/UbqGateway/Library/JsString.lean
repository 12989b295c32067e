import Mathlib.Algebra.Group.Nat.Defs
import Mathlib.Data.List.Basic
import Mathlib.Data.Rat.Defs
import Std.Data.String.ToInt

/-!
# Strings as JavaScript has them

The operations on strings that the program uses, on strings of characters.
-/

namespace UbqGateway.JsString

/-- The characters that `String.prototype.trim` removes. -/
def isSpace (c : Char) : Bool :=
  decide (0x9 ≤ c.toNat ∧ c.toNat ≤ 0xd) || decide (0x2000 ≤ c.toNat ∧ c.toNat ≤ 0x200a) ||
    [0x20, 0xa0, 0x1680, 0x2028, 0x2029, 0x202f, 0x205f, 0x3000, 0xfeff].contains c.toNat

def trim (text : String) : String :=
  String.ofList ((text.toList.dropWhile isSpace).reverse.dropWhile isSpace).reverse

/-- `text.trim() === ""` -/
def isBlank (text : String) : Bool := text.toList.all isSpace

/-- What follows `front` in `text`, if `text.startsWith(front)`. -/
def after? (front text : String) : Option String :=
  (front.toList.isPrefixOf? text.toList).map String.ofList

/-- `text.startsWith(front)` -/
def startsWith (text front : String) : Bool := front.toList.isPrefixOf text.toList

/-- `text.split(/\r\n|\r|\n/)`, of the characters that are left and those of the line so far. -/
def splitLines : List Char → List Char → List String
  | line, [] => [String.ofList line]
  | line, '\r' :: '\n' :: rest => String.ofList line :: splitLines [] rest
  | line, c :: rest =>
    if c = '\r' ∨ c = '\n' then String.ofList line :: splitLines [] rest
    else splitLines (line ++ [c]) rest

/-- `texts.join(separator)` -/
def join (separator : String) (texts : List String) : String :=
  String.ofList ((texts.map String.toList).intersperse separator.toList).flatten

/-- How many decimals a fraction with this denominator has. -/
def decimals (den : ℕ) : ℕ := ((List.range (den + 1)).find? fun k => decide (den ∣ 10 ^ k)).getD 0

/-- `String(q)`, of the numbers that are written without an exponent. -/
def numberText (q : ℚ) : String :=
  if q.den = 1 then q.num.repr
  else
    (if q.num < 0 then "-" else "") ++
      String.ofList
        (((q.num.natAbs / q.den).repr.toList ++ ['.']) ++
          (q.num.natAbs % q.den * 10 ^ decimals q.den / q.den).repr.toList.leftpad
            (decimals q.den) '0')

variable {front text : String}

theorem after?_eq_some : after? front text = some rest ↔ text = front ++ rest := by
  unfold after?
  rw [Option.map_eq_some_iff]
  constructor
  · rintro ⟨letters, hfd, rfl⟩
    rw [List.isPrefixOf?_eq_some_iff_append_eq] at hfd
    apply String.toList_inj.mp
    rw [String.toList_append, String.toList_ofList]
    exact hfd.symm
  · rintro rfl
    refine ⟨rest.toList, ?_, String.ofList_toList⟩
    rw [List.isPrefixOf?_eq_some_iff_append_eq, String.toList_append]

theorem startsWith_iff : startsWith text front = true ↔ ∃ rest, text = front ++ rest := by
  unfold startsWith
  rw [List.isPrefixOf_iff_prefix]
  constructor
  · rintro ⟨letters, hfd⟩
    refine ⟨String.ofList letters, String.toList_inj.mp ?_⟩
    rw [String.toList_append, String.toList_ofList]
    exact hfd.symm
  · rintro ⟨rest, rfl⟩
    exact ⟨rest.toList, by rw [String.toList_append]⟩

theorem numberText_natCast (n : ℕ) : numberText n = n.repr := by
  unfold numberText
  rw [Rat.den_natCast, if_pos rfl, Rat.num_natCast]
  rfl

end UbqGateway.JsString
