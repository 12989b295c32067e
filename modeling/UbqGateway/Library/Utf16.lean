import Mathlib.Data.Nat.Digits.Lemmas

/-!
# Strings of UTF-16 code units

A JavaScript string is a list of code units.  `slice` may cut between the two units of a character,
so a cut string need not be one of characters.
-/

namespace UbqGateway

/-- A JavaScript string. -/
abbrev Utf16 := List UInt16

instance Utf16.lawfulBEq : LawfulBEq Utf16 := inferInstance

namespace Utf16

/-- The code units of a character. -/
def ofChar (c : Char) : Utf16 :=
  if c.toNat < 0x10000 then [UInt16.ofNat c.toNat]
  else
    [UInt16.ofNat (0xd800 + (c.toNat - 0x10000) / 0x400),
      UInt16.ofNat (0xdc00 + (c.toNat - 0x10000) % 0x400)]

/-- The code units of a string of characters. -/
def ofString (text : String) : Utf16 := text.toList.flatMap ofChar

theorem ofChar_ne_nil (c : Char) : ofChar c ≠ [] := by
  unfold ofChar
  split_ifs <;> exact List.cons_ne_nil _ _

theorem ofString_eq_nil : ofString text = [] ↔ text = "" := by
  unfold ofString
  rw [List.flatMap_eq_nil_iff]
  constructor
  · intro hno
    apply String.toList_inj.mp
    cases hltr : text.toList with
    | nil => rfl
    | cons c rest =>
      rw [hltr] at hno
      exact absurd (hno c List.mem_cons_self) (ofChar_ne_nil c)
  · rintro rfl
    exact fun c hmem => absurd hmem List.not_mem_nil

/-- The code unit of `_`. -/
def underscore : UInt16 := 95

/-- The code unit of a digit. -/
def digit (d : ℕ) : UInt16 := UInt16.ofNat (48 + d)

/-- The digits of a positive number. -/
def numeral (n : ℕ) : Utf16 := (Nat.digits 10 n).reverse.map digit

theorem length_numeral_le (h : n < 10 ^ k) : (numeral n).length ≤ k := by
  unfold numeral
  rw [List.length_map, List.length_reverse]
  exact (Nat.digits_length_le_iff (by decide) n).mpr h

end Utf16

/-- The first of `count` numbers from `start` on whose candidate is not used. -/
def firstUnused {α : Type} [DecidableEq α] (candidate : ℕ → α) (used : List α) (start count : ℕ) :
    Option ℕ :=
  (List.range' start count).find? fun n => decide (candidate n ∉ used)

theorem firstUnused_not_mem [DecidableEq α] {used : List α}
    (h : firstUnused candidate used start count = some n) :
    candidate n ∉ used ∧ n < start + count := by
  unfold firstUnused at h
  have hfd : decide (candidate n ∉ used) = true :=
    List.find?_some (p := fun n => decide (candidate n ∉ used)) h
  refine ⟨of_decide_eq_true hfd, ?_⟩
  have hmem := List.mem_of_find?_eq_some h
  rw [List.mem_range'_1] at hmem
  exact hmem.2

end UbqGateway
