import Mathlib.Logic.Basic

/-!
# Results of computations that may fail

A computation that succeeds succeeds at each of its steps.  `of_bind` and `of_map` take a successful
result apart; a long computation is followed by applying them step by step.
-/

namespace UbqGateway.Results

variable {ε α β : Type} {x : Except ε α} {b : β}

/-- The steps of a sequence that succeeds. -/
theorem of_bind (h : x.bind f = .ok b) : ∃ a, x = .ok a ∧ f a = .ok b := by
  cases x with
  | error e => cases h
  | ok a => exact ⟨a, rfl, h⟩

/-- The value that a map was applied to. -/
theorem of_map (h : x.map f = .ok b) : ∃ a, x = .ok a ∧ f a = b := by
  cases x with
  | error e => cases h
  | ok a => exact ⟨a, rfl, Except.ok.inj h⟩

end UbqGateway.Results
