import UbqGateway.Library.Interleaving

/-!
# Rules for programs

The rules of composition for the single instructions, in the form in which a `do` block uses them,
the ways in which a program can end, and programs that are interrupted.  An instruction of a client
may throw, either before it has had its effect or after: the acknowledgement of a commit can be
lost.  Where a client catches what its program throws, it goes on without knowing how far the
program came.  `Prog.cut n` runs at most `n` instructions and gives `none` if the program has not
ended by then.
-/

namespace UbqGateway

variable {κ ν lbl α β : Type} [DecidableEq κ]

/-- At most `n` instructions of a program. -/
def Prog.cut : Prog κ ν lbl α → ℕ → Prog κ ν lbl (Option α)
  | .pure a, _ => .pure (some a)
  | .now f, n => match n with
    | 0 => .pure none
    | n + 1 => .now fun t => (f t).cut n
  | .getAll ks f, n => match n with
    | 0 => .pure none
    | n + 1 => .getAll ks fun got => (f got).cut n
  | .next p c f, n => match n with
    | 0 => .pure none
    | n + 1 => .next p c fun c' e => (f c' e).cut n
  | .commit l cs ws f, n => match n with
    | 0 => .pure none
    | n + 1 => .commit l cs ws fun ok => (f ok).cut n

/-! ### How a program ends -/

/-- The program can end with `a`, whatever the store answers.  The flag tells whether the store has
accepted one of its commits. -/
inductive Prog.Ends : Prog κ ν lbl α → Bool → α → Prop
  | pure (a : α) : Ends (.pure a) false a
  | now (f : ℤ → Prog κ ν lbl α) (t : ℤ) {changed : Bool} {a : α} (h : Ends (f t) changed a) :
      Ends (.now f) changed a
  | getAll (ks : List κ) (f : (κ → Option (Entry ν)) → Prog κ ν lbl α) (got : κ → Option (Entry ν))
      {changed : Bool} {a : α} (h : Ends (f got) changed a) : Ends (.getAll ks f) changed a
  | next (p : κ → Bool) (c : Cursor κ) (f : Cursor κ → Option (κ × Entry ν) → Prog κ ν lbl α)
      (c' : Cursor κ) (r : Option (κ × Entry ν)) {changed : Bool} {a : α}
      (h : Ends (f c' r) changed a) : Ends (.next p c f) changed a
  | commit (l : lbl) (cs : List (Check κ ν)) (ws : List (Write κ ν)) (f : Bool → Prog κ ν lbl α)
      {changed : Bool} {a : α} (h : Ends (f true) changed a) : Ends (.commit l cs ws f) true a
  | conflict (l : lbl) (cs : List (Check κ ν)) (ws : List (Write κ ν)) (f : Bool → Prog κ ν lbl α)
      {changed : Bool} {a : α} (h : Ends (f false) changed a) : Ends (.commit l cs ws f) changed a

variable {p : Prog κ ν lbl α}

omit [DecidableEq κ] in
/-- A composition ends as its parts do. -/
theorem Prog.Ends.of_bind {g : α → Prog κ ν lbl β} :
    ∀ {changed : Bool} {b : β}, (p >>= g).Ends changed b →
      ∃ first a second, p.Ends first a ∧ (g a).Ends second b ∧ changed = (first || second) := by
  induction p with
  | pure a => exact fun {changed b} h => ⟨false, a, changed, .pure a, h, rfl⟩
  | now f ih =>
    intro changed b h
    cases h with
    | now _ t h =>
      obtain ⟨first, a, second, hp, hg, rfl⟩ := ih t h
      exact ⟨first, a, second, .now f t hp, hg, rfl⟩
  | getAll ks f ih =>
    intro changed b h
    cases h with
    | getAll _ _ got h =>
      obtain ⟨first, a, second, hp, hg, rfl⟩ := ih got h
      exact ⟨first, a, second, .getAll ks f got hp, hg, rfl⟩
  | next p c f ih =>
    intro changed b h
    cases h with
    | next _ _ _ c' r h =>
      obtain ⟨first, a, second, hp, hg, rfl⟩ := ih c' r h
      exact ⟨first, a, second, .next p c f c' r hp, hg, rfl⟩
  | commit l cs ws f ih =>
    intro changed b h
    cases h with
    | commit _ _ _ _ h =>
      obtain ⟨first, a, second, hp, hg, -⟩ := ih true h
      exact ⟨true, a, second, .commit l cs ws f hp, hg, rfl⟩
    | conflict _ _ _ _ h =>
      obtain ⟨first, a, second, hp, hg, rfl⟩ := ih false h
      exact ⟨first, a, second, .conflict l cs ws f hp, hg, rfl⟩

omit [DecidableEq κ] in
variable {l : lbl} {cs : List (Check κ ν)} {ws : List (Write κ ν)}

/-- What a transaction answers is whether it was accepted. -/
theorem Prog.Ends.of_transaction (h : (Prog.transaction l cs ws).Ends changed ok) :
    changed = ok := by
  cases h with
  | commit _ _ _ _ h | conflict _ _ _ _ h => cases h; rfl

variable [LinearOrder κ] {clockOk : ℤ → ℤ → Prop} {I : Kv κ ν → Prop}
  {G : World κ ν lbl → lbl → List (Write κ ν) → Prop}

section Rules

variable {Q : World κ ν lbl → β → Prop} {w : World κ ν lbl}

theorem Wp.get_bind
    (h : ∀ v, w.Le v → Run I G v → ∀ entry, ReadIn w v k entry → Wp clockOk I G Q (f entry) v) :
    Wp clockOk I G Q (Prog.get k >>= f) w :=
  Wp.bind (Wp.get h)

theorem Wp.gets_bind {ks : List κ} {f : (κ → Option (Entry ν)) → Prog κ ν lbl β}
    (h : ∀ v, w.Le v → Run I G v → ∀ got, (∀ k ∈ ks, ReadIn w v k (got k)) →
      Wp clockOk I G Q (f got) v) : Wp clockOk I G Q (Prog.gets ks >>= f) w :=
  Wp.bind fun v hle hv got hgot => h v hle hv got hgot

theorem Wp.clock_bind
    (h : ∀ v, w.Le v → Run I G v → ∀ t, clockOk v.time t → Wp clockOk I G Q (f t) v) :
    Wp clockOk I G Q (Prog.clock >>= f) w :=
  Wp.bind fun v hle hv t ht => h v hle hv t ht

variable {f : Bool → Prog κ ν lbl β}

theorem Wp.transaction_bind
    (hok : ∀ v, w.Le v → Run I G v → v.store.PassesAll cs →
      G v l ws ∧ Wp clockOk I G Q (f true) (v.commit l ws))
    (hconf : ∀ v, w.Le v → Run I G v → Wp clockOk I G Q (f false) v) :
    Wp clockOk I G Q (Prog.transaction l cs ws >>= f) w :=
  Wp.bind (Wp.transaction hok hconf)

theorem Wp.write_bind
    (hok : ∀ v, w.Le v → Run I G v → G v l ws ∧ Wp clockOk I G Q (f true) (v.commit l ws)) :
    Wp clockOk I G Q (Prog.transaction l [] ws >>= f) w := by
  apply Wp.bind
  intro v hle hv
  constructor
  · exact fun _ => hok v hle hv
  · intro hfail
    have hpass : v.store.PassesAll [] := fun c hc => absurd hc List.not_mem_nil
    exact absurd hpass hfail

end Rules

/-- **Interruptions**: a program guarantees as much when it is interrupted, and what it ends with if
it is not. -/
theorem Wp.cut {Q : World κ ν lbl → α → Prop} :
    ∀ {w : World κ ν lbl} (n : ℕ), Wp clockOk I G Q p w →
      Wp clockOk I G (fun w r => ∀ a, r = some a → Q w a) (p.cut n) w := by
  have hno : ∀ w, Wp clockOk I G (fun w r => ∀ a, r = some a → Q w a)
      (.pure none : Prog κ ν lbl (Option α)) w := by
    intro w a ha
    cases ha
  induction p with
  | pure =>
    intro w n h b hb
    cases hb
    exact h
  | now _ ih =>
    intro w n h
    cases n with
    | zero => exact hno w
    | succ n => exact fun w' hle hw' t ht => ih t n (h w' hle hw' t ht)
  | getAll _ _ ih =>
    intro w n h
    cases n with
    | zero => exact hno w
    | succ n => exact fun w' hle hw' got hgot => ih got n (h w' hle hw' got hgot)
  | next _ _ _ ih =>
    intro w n h
    cases n with
    | zero => exact hno w
    | succ n => exact fun w' hle hw' c' r hr => ih c' r n (h w' hle hw' c' r hr)
  | commit _ _ _ _ ih =>
    intro w n h
    cases n with
    | zero => exact hno w
    | succ n =>
      intro w' hle hw'
      have hcmt := h w' hle hw'
      constructor
      · intro hpass
        have hok := hcmt.1 hpass
        exact ⟨hok.1, ih true n hok.2⟩
      · exact fun hfail => ih false n (hcmt.2 hfail)

end UbqGateway
