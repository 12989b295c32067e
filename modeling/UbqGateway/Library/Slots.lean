import Mathlib.Data.List.Basic

/-!
# Slots

Things are announced one after the other and done in any order.  A slot holds what is known of one
of them. The slots that are not done are owned: each by one owner, which knows the same of it
(`Owned`).  Results are stored in an array under the positions of their slots (`assign`, `Stored`);
when no owner owns a slot any more, the array has no holes (`Owned.complete`).
-/

namespace UbqGateway

/-- What is known of something that was announced. -/
inductive Slot (α β : Type*)
  | opened (content : α)
  | done (result : β)
deriving DecidableEq

namespace Slot

variable {α β ω : Type*} {output : List (Option β)}

def done? : Slot α β → Option β
  | .opened _ => none
  | .done result => some result

/-- What is known of the slot, if it is not done. -/
def content? : Slot α β → Option α
  | .opened content => some content
  | .done _ => none

/-- An element of an array is assigned.  Assignments beyond the end leave holes. -/
def assign (output : List (Option β)) (i : ℕ) (result : β) : List (Option β) :=
  if i < output.length then output.set i (some result)
  else output ++ (List.replicate (i - output.length) none ++ [some result])

theorem assign_self (output : List (Option β)) (i : ℕ) (result : β) :
    (assign output i result)[i]? = some (some result) := by
  unfold assign
  by_cases hins : i < output.length
  · rw [if_pos hins, List.getElem?_set_self hins]
  · rw [if_neg hins, List.getElem?_append_right (by omega), List.getElem?_append_right (by simp),
      List.length_replicate, Nat.sub_self]
    rfl

theorem assign_of_ne (hdiff : j ≠ i) (h : output[j]? = some (some other)) :
    (assign output i result)[j]? = some (some other) := by
  unfold assign
  by_cases hins : i < output.length
  · rw [if_pos hins, List.getElem?_set_ne hdiff.symm]
    exact h
  · have hbd : j < output.length := (List.getElem?_eq_some_iff.mp h).1
    rw [if_neg hins, List.getElem?_append_left hbd]
    exact h

theorem length_assign_le (result : β) (hsml : output.length ≤ n) (hins : i < n) :
    (assign output i result).length ≤ n := by
  unfold assign
  by_cases hprs : i < output.length
  · rw [if_pos hprs, List.length_set]
    exact hsml
  · rw [if_neg hprs, List.length_append, List.length_append, List.length_replicate,
      List.length_singleton]
    omega

/-! ### Owners -/

structure Owned (slots : List (Slot α β)) (owns : ω → Option (ℕ × α)) : Prop where
  holds : ∀ {w i a}, owns w = some (i, a) → slots[i]? = some (.opened a)
  unique : ∀ {w v i a b}, owns w = some (i, a) → owns v = some (i, b) → w = v
  owned : ∀ {i a}, slots[i]? = some (.opened a) → ∃ w, owns w = some (i, a)

namespace Owned

variable {slots : List (Slot α β)} {owns owns' : ω → Option (ℕ × α)} {w : ω} {i : ℕ} {a : α}

theorem empty (owns : ω → Option (ℕ × α)) (hno : ∀ w, owns w = none) :
    Owned ([] : List (Slot α β)) owns where
  holds hfd := by
    rw [hno] at hfd
    cases hfd
  unique hfd := by
    rw [hno] at hfd
    cases hfd
  owned hfd := by cases hfd

section

variable (h : Owned slots owns)

include h

theorem lt_length (hfd : owns w = some (i, a)) : i < slots.length :=
  (List.getElem?_eq_some_iff.mp (h.holds hfd)).1

theorem congr (heq : ∀ v, owns' v = owns v) : Owned slots owns' := by
  rw [funext heq]
  exact h

/-- An owner announces something. -/
theorem announce (hnew : owns w = none) (here : owns' w = some (slots.length, a))
    (hin : ∀ v, v ≠ w → owns' v = owns v) : Owned (slots ++ [.opened a]) owns' where
  holds {v j b} hfd := by
    by_cases heq : v = w
    · subst heq
      rw [here] at hfd
      cases hfd
      exact List.getElem?_concat_length
    · rw [hin v heq] at hfd
      rw [List.getElem?_append_left (h.lt_length hfd)]
      exact h.holds hfd
  unique {v u j b c} hfd hfd' := by
    by_cases heq : v = w
    · by_cases heq' : u = w
      · rw [heq, heq']
      · rw [heq, here] at hfd
        cases hfd
        rw [hin u heq'] at hfd'
        exact absurd (h.lt_length hfd') (Nat.lt_irrefl _)
    · rw [hin v heq] at hfd
      by_cases heq' : u = w
      · rw [heq', here] at hfd'
        cases hfd'
        exact absurd (h.lt_length hfd) (Nat.lt_irrefl _)
      · rw [hin u heq'] at hfd'
        exact h.unique hfd hfd'
  owned {j b} hfd := by
    by_cases hins : j < slots.length
    · rw [List.getElem?_append_left hins] at hfd
      obtain ⟨v, hown⟩ := h.owned hfd
      have hdiff : v ≠ w := by
        rintro rfl
        rw [hnew] at hown
        cases hown
      exact ⟨v, (hin v hdiff).trans hown⟩
    · rw [List.getElem?_append_right (by omega)] at hfd
      obtain ⟨hbd, heq⟩ := List.getElem?_eq_some_iff.mp hfd
      rw [List.length_singleton] at hbd
      have hlast : j = slots.length := by omega
      subst hlast
      simp only [Nat.sub_self, List.getElem_cons_zero, opened.injEq] at heq
      subst heq
      exact ⟨w, here⟩

/-- One slot is replaced. -/
theorem set (hold : owns w = some (i, a))
    (here : ∀ j b, owns' w = some (j, b) ↔ j = i ∧ slot = .opened b)
    (hin : ∀ v, v ≠ w → owns' v = owns v) : Owned (slots.set i slot) owns' where
  holds {v j b} hfd := by
    by_cases heq : v = w
    · rw [heq] at hfd
      obtain ⟨rfl, rfl⟩ := (here j b).mp hfd
      exact List.getElem?_set_self (h.lt_length hold)
    · rw [hin v heq] at hfd
      have hdiff : i ≠ j := by
        rintro rfl
        exact heq (h.unique hfd hold)
      rw [List.getElem?_set_ne hdiff]
      exact h.holds hfd
  unique {v u j b c} hfd hfd' := by
    by_cases heq : v = w
    · by_cases heq' : u = w
      · rw [heq, heq']
      · rw [heq] at hfd
        obtain ⟨rfl, rfl⟩ := (here j b).mp hfd
        rw [hin u heq'] at hfd'
        exact absurd (h.unique hfd' hold) heq'
    · rw [hin v heq] at hfd
      by_cases heq' : u = w
      · rw [heq'] at hfd'
        obtain ⟨rfl, rfl⟩ := (here j c).mp hfd'
        exact absurd (h.unique hfd hold) heq
      · rw [hin u heq'] at hfd'
        exact h.unique hfd hfd'
  owned {j b} hfd := by
    by_cases heq : i = j
    · subst heq
      rw [List.getElem?_set_self (h.lt_length hold)] at hfd
      exact ⟨w, (here i b).mpr ⟨rfl, Option.some.inj hfd⟩⟩
    · rw [List.getElem?_set_ne heq] at hfd
      obtain ⟨v, hown⟩ := h.owned hfd
      have hdiff : v ≠ w := by
        rintro rfl
        rw [hold] at hown
        cases hown
        exact heq rfl
      exact ⟨v, (hin v hdiff).trans hown⟩

/-- An owner learns more. -/
theorem change (hold : owns w = some (i, a)) (here : owns' w = some (i, b))
    (hin : ∀ v, v ≠ w → owns' v = owns v) : Owned (slots.set i (.opened b)) owns' := by
  refine h.set hold (fun j c => ?_) hin
  rw [here, Option.some.injEq, Prod.mk.injEq, opened.injEq, eq_comm]

theorem close (hold : owns w = some (i, a)) (here : owns' w = none)
    (hin : ∀ v, v ≠ w → owns' v = owns v) : Owned (slots.set i (.done result)) owns' := by
  refine h.set hold (fun j c => ?_) hin
  rw [here]
  constructor
  · intro hfd
    cases hfd
  · rintro ⟨-, heq⟩
    cases heq

theorem settled (hno : ∀ w, owns w = none) : ∀ slot ∈ slots, ∃ result, slot = .done result := by
  intro slot hmem
  cases slot with
  | done result => exact ⟨result, rfl⟩
  | opened =>
    obtain ⟨j, hfd⟩ := List.mem_iff_getElem?.mp hmem
    obtain ⟨w, hown⟩ := h.owned hfd
    rw [hno] at hown
    cases hown

end

end Owned

/-! ### Stored results -/

/-- The results of the slots that are done are stored. -/
structure Stored (slots : List (Slot α β)) (output : List (Option β)) : Prop where
  short : output.length ≤ slots.length
  stored : ∀ {i : ℕ} {result : β}, slots[i]? = some (Slot.done result) →
    output[i]? = some (some result)

namespace Stored

variable {slots : List (Slot α β)} {i : ℕ}

theorem empty : Stored ([] : List (Slot α β)) [] where
  short := Nat.le_refl 0
  stored hfd := by cases hfd

section

variable (h : Stored slots output)

include h

theorem announce (a : α) : Stored (slots ++ [.opened a]) output where
  short := by
    rw [List.length_append]
    exact Nat.le_add_right_of_le h.short
  stored {j result} hfd := by
    by_cases hins : j < slots.length
    · rw [List.getElem?_append_left hins] at hfd
      exact h.stored hfd
    · rw [List.getElem?_append_right (by omega)] at hfd
      have hmem := List.mem_of_getElem? hfd
      cases List.mem_singleton.mp hmem

theorem push (hfull : output.length = slots.length) (a : α) (result : Option β) :
    Stored (slots ++ [.opened a]) (output ++ [result]) where
  short := by
    rw [List.length_append, List.length_append, hfull]
    exact Nat.le_refl _
  stored {j other} hfd := by
    have hann := (h.announce a).stored hfd
    rw [List.getElem?_append_left (List.getElem?_eq_some_iff.mp hann).1]
    exact hann

theorem change (i : ℕ) (a : α) : Stored (slots.set i (.opened a)) output where
  short := by
    rw [List.length_set]
    exact h.short
  stored {j result} hfd := by
    by_cases heq : i = j
    · subst heq
      rw [List.getElem?_set, if_pos rfl] at hfd
      split_ifs at hfd with hins
      cases hfd
    · rw [List.getElem?_set_ne heq] at hfd
      exact h.stored hfd

theorem close (hins : i < slots.length) (result : β) :
    Stored (slots.set i (.done result)) (assign output i result) where
  short := by
    rw [List.length_set]
    exact length_assign_le result h.short hins
  stored {j other} hfd := by
    by_cases heq : i = j
    · subst heq
      rw [List.getElem?_set_self hins] at hfd
      cases hfd
      exact assign_self output i result
    · rw [List.getElem?_set_ne heq] at hfd
      exact assign_of_ne (Ne.symm heq) (h.stored hfd)

theorem replace (hins : i < slots.length) (hfull : output.length = slots.length)
    (result : β) : Stored (slots.set i (.done result)) (output.set i (some result)) := by
  have hst := h.close hins result
  unfold assign at hst
  rw [if_pos (by omega)] at hst
  exact hst

/-- If all slots are done, the stored results are theirs, without holes. -/
theorem complete (hset : ∀ slot ∈ slots, ∃ result, slot = .done result) :
    output = slots.map done? := by
  refine List.ext_getElem? fun j => ?_
  rw [List.getElem?_map]
  by_cases hins : j < slots.length
  · obtain ⟨result, heq⟩ := hset slots[j] (List.getElem_mem hins)
    have hfd : slots[j]? = some (.done result) := by rw [List.getElem?_eq_getElem hins, heq]
    rw [h.stored hfd, hfd]
    rfl
  · have hshrt := h.short
    have hbyd : output.length ≤ j := by omega
    have houtside : slots.length ≤ j := by omega
    rw [List.getElem?_eq_none hbyd, List.getElem?_eq_none houtside]
    rfl

end

end Stored

end Slot

end UbqGateway
