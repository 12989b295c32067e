import Mathlib.Data.Rat.Defs

/-!
# JSON values

The values that a row of a table is decoded to.  A property that is not there reads as `none`, which
stands for `undefined`; an array is an object too, but has none of the properties asked for here.
Numbers are rational, and `safeInteger` recognizes those that a double holds exactly together with
all smaller integers.
-/

namespace UbqGateway

inductive Json
  | null
  | bool (b : Bool)
  | num (q : ℚ)
  | str (s : String)
  | arr (items : List Json)
  | obj (fields : List (String × Json))

namespace Json

/-- The greatest integer that a double holds exactly together with all smaller ones. -/
def maxSafeInteger : ℤ := 9007199254740991

/-- An integer that a double holds exactly together with all smaller ones. -/
def isSafeInteger (n : ℤ) : Bool := decide (-maxSafeInteger ≤ n ∧ n ≤ maxSafeInteger)

/-- The property of an object; a property that is not there is undefined. -/
def get : Json → String → Option Json
  | obj fields, key => fields.lookup key
  | _, _ => none

/-- Whether a property may be read from the value. -/
def isRecord : Json → Bool
  | arr _ | obj _ => true
  | _ => false

/-- Strict equality of two properties.  Objects are compared by identity, and no object occurs at
two places of a decoded value. -/
def strictEq : Option Json → Option Json → Bool
  | none, none => true
  | some null, some null => true
  | some (bool a), some (bool b) => decide (a = b)
  | some (num p), some (num q) => decide (p = q)
  | some (str s), some (str t) => decide (s = t)
  | _, _ => false

/-- The string that a property holds. -/
def string? : Option Json → Option String
  | some (str s) => some s
  | _ => none

/-- The number that a property holds. -/
def number? : Option Json → Option ℚ
  | some (num q) => some q
  | _ => none

/-- The safe integer that a property holds. -/
def safeInteger? (value : Option Json) : Option ℤ :=
  (number? value).bind fun q => if q.den = 1 ∧ isSafeInteger q.num = true then some q.num else none

/-- The non-negative safe integer that a property holds. -/
def safeNonNegative? (value : Option Json) : Option ℤ :=
  (safeInteger? value).filter fun n => decide (0 ≤ n)

/-- Whether a property is the boolean `true`. -/
def isTrue : Option Json → Bool
  | some (bool b) => b
  | _ => false

/-- Whether a property is the boolean `false`. -/
def isFalse : Option Json → Bool
  | some (bool b) => !b
  | _ => false

/-- Whether a property is `null`. -/
def isNull : Option Json → Bool
  | some null => true
  | _ => false

def items? : Option Json → Option (List Json)
  | some (arr items) => some items
  | _ => none

/-- A value that may be missing. -/
def ofOption {α : Type} (f : α → Json) (value : Option α) : Json := value.elim null f

def int (n : ℤ) : Json := num n

/-! ### Deciding equality -/

mutual

/-- Whether two values are the same. -/
def same : Json → Json → Bool
  | null, null => true
  | bool a, bool b => decide (a = b)
  | num p, num q => decide (p = q)
  | str s, str t => decide (s = t)
  | arr items, arr items' => sameItems items items'
  | obj fields, obj fields' => sameFields fields fields'
  | _, _ => false

/-- Whether two arrays have the same items. -/
def sameItems : List Json → List Json → Bool
  | [], [] => true
  | a :: items, b :: items' => same a b && sameItems items items'
  | _, _ => false

/-- Whether two objects have the same fields, in the same order. -/
def sameFields : List (String × Json) → List (String × Json) → Bool
  | [], [] => true
  | (key, a) :: fields, (key', b) :: fields' =>
    decide (key = key') && (same a b && sameFields fields fields')
  | _, _ => false

end

mutual

theorem same_iff : ∀ a b : Json, same a b = true ↔ a = b
  | null, b => by cases b <;> simp [same]
  | bool a, b => by cases b <;> simp [same]
  | num p, b => by cases b <;> simp [same]
  | str s, b => by cases b <;> simp [same]
  | arr items, b => by
    cases b with
    | arr items' => simp [same, sameItems_iff items items']
    | _ => simp [same]
  | obj fields, b => by
    cases b with
    | obj fields' => simp [same, sameFields_iff fields fields']
    | _ => simp [same]

theorem sameItems_iff : ∀ items items' : List Json, sameItems items items' = true ↔ items = items'
  | [], items' => by cases items' <;> simp [sameItems]
  | a :: items, [] => by simp [sameItems]
  | a :: items, b :: items' => by simp [sameItems, same_iff a b, sameItems_iff items items']

theorem sameFields_iff : ∀ fields fields' : List (String × Json),
    sameFields fields fields' = true ↔ fields = fields'
  | [], fields' => by cases fields' <;> simp [sameFields]
  | (key, a) :: fields, [] => by simp [sameFields]
  | (key, a) :: fields, (key', b) :: fields' => by
    simp [sameFields, same_iff a b, sameFields_iff fields fields', and_assoc]

end

instance : DecidableEq Json := fun a b => decidable_of_iff _ (same_iff a b)

/-! ### Reading back what was written -/

theorem safeInteger?_int (n : ℤ) :
    safeInteger? (some (int n)) = if isSafeInteger n = true then some n else none := by
  show (if (n : ℚ).den = 1 ∧ isSafeInteger (n : ℚ).num = true then some (n : ℚ).num else none) = _
  rw [Rat.den_intCast, Rat.num_intCast]
  simp

theorem safeNonNegative?_int (n : ℤ) :
    safeNonNegative? (some (int n)) = if 0 ≤ n ∧ isSafeInteger n = true then some n else none := by
  unfold safeNonNegative?
  rw [safeInteger?_int]
  by_cases hsafe : isSafeInteger n = true
  · rw [if_pos hsafe, Option.filter_some]
    simp [hsafe]
  · simp [hsafe]

theorem safeNonNegative?_ofOption (value : Option ℤ) : safeNonNegative? (some (ofOption int value))
      = value.filter fun n => decide (0 ≤ n) && isSafeInteger n := by
  cases value with
  | none => rfl
  | some n =>
    show safeNonNegative? (some (int n)) = _
    rw [safeNonNegative?_int, Option.filter_some]
    simp

theorem string?_ofOption (value : Option String) : string? (some (ofOption str value)) = value := by
  cases value <;> rfl

theorem number?_ofOption (value : Option ℚ) : number? (some (ofOption num value)) = value := by
  cases value <;> rfl

theorem isNull_ofOption {f : α → Json} (hf : ∀ a, f a ≠ null) (value : Option α) :
    isNull (some (ofOption f value)) = value.isNone := by
  cases value with
  | none => rfl
  | some a =>
    show isNull (some (f a)) = false
    cases h : f a with
    | null => exact absurd h (hf a)
    | _ => rfl

theorem strings_arr (values : List String) :
    (values.map str).mapM (fun item => string? (some item)) = some values := by
  induction values with
  | nil => rfl
  | cons _ _ ih =>
    rw [List.map_cons, List.mapM_cons, ih]
    rfl

end Json

end UbqGateway
