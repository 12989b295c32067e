import Mathlib.Data.List.Basic

/-!
# Scanners that may stop

A scanner reads words one by one: each gives some outputs, and then the scanner goes on in a new
state or stops for a reason.  `scan` runs a step over a list of words.  A scan over the words of
several lists is the scan over the lists of the scans over their words (`scan_flatten`), so that
what a scanner makes of its input does not depend on how the input is cut.
-/

namespace UbqGateway

variable {σ τ υ β γ ε : Type*}

/-- Outputs, and the state to go on in or the reason to stop. -/
abbrev Scanned (γ ε σ : Type*) := List γ × Except ε σ

namespace Scanned

/-- Go on in a state without an output. -/
def pure (s : σ) : Scanned γ ε σ := ([], .ok s)

/-- Stop without an output. -/
def stop (e : ε) : Scanned γ ε σ := ([], .error e)

/-- Go on, if the first did not stop. -/
def bind (x : Scanned γ ε σ) (f : σ → Scanned γ ε τ) : Scanned γ ε τ :=
  match x.2 with
  | .error e => (x.1, .error e)
  | .ok s => (x.1 ++ (f s).1, (f s).2)

@[simp]
theorem bind_ok (out : List γ) (s : σ) (f : σ → Scanned γ ε τ) :
    bind (out, .ok s) f = (out ++ (f s).1, (f s).2) := rfl

theorem pure_bind (s : σ) (f : σ → Scanned γ ε τ) : bind (pure s) f = f s := rfl

theorem bind_assoc (x : Scanned γ ε σ) (f : σ → Scanned γ ε τ) (g : τ → Scanned γ ε υ) :
    bind (bind x f) g = bind x fun s => bind (f s) g := by
  obtain ⟨out, e | s⟩ := x
  · rfl
  · rw [bind_ok, bind_ok]
    generalize f s = y
    obtain ⟨out', e | t⟩ := y
    · rfl
    · show (out ++ out' ++ (g t).1, (g t).2) = (out ++ (out' ++ (g t).1), (g t).2)
      rw [List.append_assoc]

end Scanned

/-- Run a step over words until it stops. -/
def scan (step : σ → β → Scanned γ ε σ) : σ → List β → Scanned γ ε σ
  | s, [] => .pure s
  | s, word :: words => (step s word).bind fun s => scan step s words

theorem scan_append (step : σ → β → Scanned γ ε σ) (s : σ) (u v : List β) :
    scan step s (u ++ v) = (scan step s u).bind fun s => scan step s v := by
  induction u generalizing s with
  | nil => rfl
  | cons word u ih =>
    rw [List.cons_append, scan, scan, Scanned.bind_assoc]
    congr 1
    funext s'
    exact ih s'

/-- A scan does not depend on how its input is cut. -/
theorem scan_flatten (step : σ → β → Scanned γ ε σ) (s : σ) (chunks : List (List β)) :
    scan (fun s chunk => scan step s chunk) s chunks = scan step s chunks.flatten := by
  induction chunks generalizing s with
  | nil => rfl
  | cons chunk chunks ih =>
    rw [List.flatten_cons, scan_append, scan]
    congr 1
    funext s'
    exact ih s'

end UbqGateway
