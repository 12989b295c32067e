import Mathlib.Init

/-!
# Transactions

The body of a transaction reads and writes a state and may throw; what it has written is dropped if
it throws.  `Returns body s Q` says that `Q` holds of what the body returns and of the state it
leaves, if it returns.  The rules follow the steps of a body, so that a proof reads like the body.
-/

namespace UbqGateway

variable {σ ε α β : Type} {s : σ} {body : StateT σ (Except ε) α}

/-- What the body of a transaction returns and the state after it, which is the old one if it
throws. -/
def transaction (body : StateT σ (Except ε) α) (state : σ) : Except ε α × σ :=
  match body.run state with
  | .ok (a, state) => (.ok a, state)
  | .error e => (.error e, state)

/-- If the body returns, `Q` holds of what it returns and leaves. -/
def Returns (body : StateT σ (Except ε) α) (s : σ) (Q : α → σ → Prop) : Prop :=
  ∀ a s', body.run s = .ok (a, s') → Q a s'

namespace Returns

variable {f : α → StateT σ (Except ε) β} {Q : α → σ → Prop}
  {R : β → σ → Prop}

theorem mono (h : Returns body s Q) (hQ : ∀ a s', Q a s' → Q' a s') : Returns body s Q' :=
  fun a s' heq => hQ a s' (h a s' heq)

theorem pure (h : Q a s) : Returns (Pure.pure a : StateT σ (Except ε) α) s Q := by
  intro b s' heq
  cases heq
  exact h

theorem throw : Returns (MonadExcept.throw e : StateT σ (Except ε) α) s Q := by
  intro a s' heq
  cases heq

/-- The rule of composition. -/
theorem bind (h : Returns body s fun a s' => Returns (f a) s' R) : Returns (body >>= f) s R := by
  intro b s'' heq
  rw [StateT.run_bind] at heq
  cases hbody : body.run s with
  | error e =>
    rw [hbody] at heq
    cases heq
  | ok result =>
    obtain ⟨a, s'⟩ := result
    rw [hbody] at heq
    exact h a s' hbody b s'' heq

theorem get_bind {f : σ → StateT σ (Except ε) β} (h : Returns (f s) s R) :
    Returns (get >>= f) s R := by
  refine bind fun a s' heq => ?_
  cases heq
  exact h

theorem modify {Q : PUnit → σ → Prop} (h : Q ⟨⟩ (g s)) :
    Returns (modify g : StateT σ (Except ε) PUnit) s Q := by
  intro a s' heq
  cases heq
  exact h

end Returns

/-! ### What a body keeps -/

/-- From whatever state the body starts, it leaves one that is related to it. -/
def Preserves (R : σ → σ → Prop) (body : StateT σ (Except ε) α) : Prop :=
  ∀ s, Returns body s fun _ s' => R s s'

namespace Preserves

variable {R : σ → σ → Prop} {f : α → StateT σ (Except ε) β}

theorem pure (hrefl : ∀ s, R s s) (a : α) : Preserves R (Pure.pure a : StateT σ (Except ε) α) :=
  fun s => Returns.pure (hrefl s)

theorem throw (e : ε) : Preserves R (MonadExcept.throw e : StateT σ (Except ε) α) :=
  fun _ => Returns.throw

theorem bind (htr : ∀ s t u, R s t → R t u → R s u) (h : Preserves R body)
    (hf : ∀ a, Preserves R (f a)) : Preserves R (body >>= f) := by
  intro s
  apply Returns.bind
  refine (h s).mono ?_
  intro a t hst
  exact (hf a t).mono fun _ u htu => htr s t u hst htu

/-- What only reads preserves everything. -/
theorem of_eq (hrefl : ∀ s, R s s) (h : Preserves Eq body) : Preserves R body := by
  intro s
  refine (h s).mono ?_
  intro a t hst
  rw [← hst]
  exact hrefl s

end Preserves

theorem Returns.read_bind (h : Preserves Eq body) (hf : ∀ a, Returns (f a) s R) :
    Returns (body >>= f) s R := by
  apply Returns.bind
  refine (h s).mono ?_
  intro a t hst
  rw [← hst]
  exact hf a

/-- A transaction that returns ends with what its body ends with, and one that throws changes
nothing. -/
theorem Returns.transaction (h : Returns body s Q) :
    (∃ a, (transaction body s).1 = .ok a ∧ Q a (transaction body s).2) ∨
      (∃ e, (transaction body s).1 = .error e) ∧ (transaction body s).2 = s := by
  unfold UbqGateway.transaction
  cases hbody : body.run s with
  | error e => exact .inr ⟨⟨e, rfl⟩, rfl⟩
  | ok result => exact .inl ⟨result.1, rfl, h result.1 result.2 hbody⟩

end UbqGateway
