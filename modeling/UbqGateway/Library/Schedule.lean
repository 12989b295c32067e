import UbqGateway.Library.Interleaving
import Mathlib.Data.List.MinMax

/-!
# Schedules that can be executed

A `Schedule` says which client starts, how time passes and which client executes its next
instruction.  `System.runAll` executes it: every read sees the present store, every clock shows the
present time and a listing continues from the present store.  These are some of the choices that the
step relation allows, so what a schedule leads to is reachable (`runAll_reachable`); concrete runs
are evaluated with it.
-/

namespace UbqGateway

variable {κ ν lbl α ι : Type} [DecidableEq κ] [LinearOrder κ]

/-- The first entry of the store after the cursor among the keys with `p`. -/
def Kv.firstAfter (kv : Kv κ ν) (p : κ → Bool) (after : Option κ) : Option (κ × Entry ν) :=
  (kv.rows.entries.filter fun e => p e.1 && after.all fun a => decide (a < e.1)).argmin Prod.fst

theorem Kv.firstAfter_spec (kv : Kv κ ν) (p : κ → Bool) (after : Option κ) :
    FirstAfter kv p after (kv.firstAfter p after) := by
  have hmem : ∀ k e, (k, e) ∈ kv.rows.entries.filter (fun e => p e.1 && after.all fun a =>
      decide (a < e.1)) ↔ kv.get k = some e ∧ p k = true ∧ ∀ a, after = some a → a < k := by
    intro k e
    rw [List.mem_filter, kv.rows.mem_entries_iff, Bool.and_eq_true]
    cases after <;> simp [get]
  unfold firstAfter
  cases hfst : List.argmin Prod.fst (kv.rows.entries.filter fun e => p e.1 && after.all fun a =>
      decide (a < e.1)) with
  | none =>
    rw [List.argmin_eq_none] at hfst
    intro k e hk hp
    by_contra hno
    have hin := (hmem k e).mpr ⟨hk, hp, fun a ha => not_le.mp fun hle => hno ⟨a, ha, hle⟩⟩
    rw [hfst] at hin
    cases hin
  | some first =>
    obtain ⟨k, e⟩ := first
    obtain ⟨hk, hp, haft⟩ := (hmem k e).mp (List.argmin_mem hfst)
    refine ⟨hk, hp, haft, fun j e' hj hp' haft' => ?_⟩
    exact List.le_of_mem_argmin ((hmem j e').mpr ⟨hj, hp', haft'⟩) hfst

/-- One action of a schedule; clients are numbered from the newest, which is 0. -/
inductive Action (ι : Type)
  /-- The program `i` starts. -/
  | spawn (i : ι)
  /-- Time passes until `t`. -/
  | tick (t : ℤ)
  /-- A client executes `n` instructions. -/
  | act (client n : ℕ)

/-- The time after the action satisfies `P`, if the action sets it. -/
def Action.Shows (P : ℤ → Prop) : Action ι → Prop
  | .tick t => P t
  | _ => True

instance (P : ℤ → Prop) [DecidablePred P] (action : Action ι) : Decidable (action.Shows P) :=
  match action with
  | .tick t => inferInstanceAs (Decidable (P t))
  | .spawn _ => .isTrue trivial
  | .act _ _ => .isTrue trivial

/-- All times of the schedule satisfy `P`. -/
def ShowsOnly (P : ℤ → Prop) (actions : List (Action ι)) : Prop :=
  ∀ action ∈ actions, action.Shows P

instance (P : ℤ → Prop) [DecidablePred P] (actions : List (Action ι)) :
    Decidable (ShowsOnly P actions) :=
  inferInstanceAs (Decidable (∀ action ∈ actions, action.Shows P))

/-- A client executes its next instruction in the present.  It waits if the present is not later
than what it has seen, which does not happen in a run. -/
def Client.perform (w : World κ ν lbl) (c : Client κ ν lbl α) : World κ ν lbl × Client κ ν lbl α :=
  match c.prog with
  | .pure _ => (w, c)
  | .now f => (w, ⟨w, f w.time⟩)
  | .getAll _ f => if c.ready.length ≤ w.length then (w, ⟨w, f w.store.get⟩) else (w, c)
  | .next p cursor f =>
    let first := w.store.firstAfter p cursor.after
    if cursor.since.getD c.ready.length ≤ w.length then
      (w, ⟨w, f ⟨(first.map Prod.fst).or cursor.after, some w.length⟩ first⟩)
    else (w, c)
  | .commit l checks writes f =>
    if w.store.PassesAll checks then (w.commit l writes, ⟨w.commit l writes, f true⟩)
    else (w, ⟨w, f false⟩)

/-- The client at a position of the list executes its next instruction. -/
def performAt (w : World κ ν lbl) :
    List (Client κ ν lbl α) → ℕ → World κ ν lbl × List (Client κ ν lbl α)
  | [], _ => (w, [])
  | c :: cs, 0 => ((c.perform w).1, (c.perform w).2 :: cs)
  | c :: cs, i + 1 => ((performAt w cs i).1, c :: (performAt w cs i).2)

namespace System

/-- `n` instructions of one client. -/
def actTimes (s : System κ ν lbl α) (client : ℕ) : ℕ → System κ ν lbl α
  | 0 => s
  | n + 1 =>
    actTimes ⟨(performAt s.world s.clients client).1, (performAt s.world s.clients client).2⟩
      client n

def run (prog : ι → Prog κ ν lbl α) (s : System κ ν lbl α) : Action ι → System κ ν lbl α
  | .spawn i => ⟨s.world, ⟨s.world, prog i⟩ :: s.clients⟩
  | .tick t => if s.world.time ≤ t then ⟨s.world.advance t, s.clients⟩ else s
  | .act client n => s.actTimes client n

/-- All actions of a schedule, one after the other. -/
def runAll (prog : ι → Prog κ ν lbl α) (s : System κ ν lbl α) (actions : List (Action ι)) :
    System κ ν lbl α :=
  actions.foldl (run prog) s

end System

def Client.ended (c : Client κ ν lbl α) : Option α :=
  match c.prog with
  | .pure a => some a
  | _ => none

variable {n : ℕ} {a : α}

omit [LinearOrder κ] in
/-- A client that has ended with `a` when `n` commits had been made. -/
theorem System.exists_ended {s : System κ ν lbl α} {i : ℕ}
    (h : (s.clients.map fun c => (c.ended, c.ready.length))[i]? = some (some a, n)) :
    ∃ v : World κ ν lbl, ⟨v, .pure a⟩ ∈ s.clients ∧ v.length = n := by
  rw [List.getElem?_map, Option.map_eq_some_iff] at h
  obtain ⟨⟨v, p⟩, hclt, heq⟩ := h
  obtain ⟨hend, hlen⟩ := Prod.mk.inj heq
  cases p with
  | pure =>
    cases hend
    exact ⟨v, List.mem_of_getElem? hclt, hlen⟩
  | _ => cases hend

/-- The commits of a history, newest first, each with the store before it. -/
def commitsOf (init : Kv κ ν) : List (Event κ ν lbl) → List (Kv κ ν × lbl)
  | [] => []
  | e :: past => (storeOf init past, e.label) :: commitsOf init past

omit [LinearOrder κ] in
theorem mem_commitsOf {e : Event κ ν lbl} (h : e :: past <:+ events) :
    (storeOf init past, e.label) ∈ commitsOf init events := by
  induction events with
  | nil => exact absurd (List.suffix_nil.mp h) (List.cons_ne_nil _ _)
  | cons _ _ ih =>
    rcases List.suffix_cons_iff.mp h with heq | hsfx
    · cases heq
      exact List.mem_cons_self
    · exact List.mem_cons_of_mem _ (ih hsfx)

omit [LinearOrder κ] in
/-- What holds of the commits of a concrete history. -/
theorem World.Committed.mem_commitsOf {w : World κ ν lbl} {l : lbl} (h : w.Committed kv l kv') :
    (kv, l) ∈ commitsOf w.init w.events := by
  obtain ⟨t, past, hsfx, rfl⟩ := h
  exact UbqGateway.mem_commitsOf hsfx

section Reachable

variable {clockOk : ℤ → ℤ → Prop} {programs : Set (Prog κ ν lbl α)} {kv : Kv κ ν}

variable (w : World κ ν lbl)

theorem Client.perform_step (hclk : clockOk w.time w.time) (c : Client κ ν lbl α) :
    c.perform w = (w, c) ∨ Client.Step clockOk w c (c.perform w).1 (c.perform w).2 := by
  obtain ⟨r, p⟩ := c
  cases p with
  | pure => exact .inl rfl
  | now f => exact .inr (.now r f w.time hclk)
  | getAll ks f =>
    by_cases hrdy : r.length ≤ w.length
    · right
      simp only [perform, if_pos hrdy]
      refine .getAll r ks f w.store.get fun k _ => ⟨w.length, hrdy, le_rfl, ?_⟩
      rw [w.storeAt_length]
    · exact .inl (if_neg hrdy)
  | next p cursor f =>
    by_cases hrdy : cursor.since.getD r.length ≤ w.length
    · right
      simp only [perform, if_pos hrdy]
      refine .next r p cursor f _ _ ⟨w.length, hrdy, le_rfl, ?_, rfl⟩
      rw [w.storeAt_length]
      exact w.store.firstAfter_spec p cursor.after
    · exact .inl (if_neg hrdy)
  | commit l checks writes f =>
    right
    by_cases hpass : w.store.PassesAll checks
    · simp only [perform, if_pos hpass]
      exact .commit r l checks writes f hpass
    · simp only [perform, if_neg hpass]
      exact .conflict r l checks writes f hpass

theorem performAt_steps (hclk : clockOk w.time w.time)
    (cs : List (Client κ ν lbl α)) : ∀ (before : List (Client κ ν lbl α)) (i : ℕ),
      Relation.ReflTransGen (System.Step clockOk programs) ⟨w, before ++ cs⟩
        ⟨(performAt w cs i).1, before ++ (performAt w cs i).2⟩ := by
  induction cs with
  | nil => exact fun before _ => .refl
  | cons c cs ih =>
    intro before i
    cases i with
    | zero =>
      rcases Client.perform_step w hclk c with hwait | hstep
      · rw [performAt, hwait]
      · exact .single (.act w _ c _ before cs hstep)
    | succ i =>
      have hnext := ih (before ++ [c]) i
      rwa [List.append_assoc, List.singleton_append, List.append_assoc, List.singleton_append]
        at hnext

/-- An instruction takes no time. -/
theorem Client.perform_time (c : Client κ ν lbl α) : (c.perform w).1.time = w.time := by
  obtain ⟨r, p⟩ := c
  cases p with
  | pure | now => rfl
  | getAll | next | commit =>
    unfold perform
    dsimp only
    split_ifs <;> rfl

theorem performAt_time (cs : List (Client κ ν lbl α)) :
    ∀ i, (performAt w cs i).1.time = w.time := by
  induction cs with
  | nil => exact fun i => rfl
  | cons c _ ih =>
    intro i
    cases i with
    | zero => exact c.perform_time w
    | succ i => exact ih i

variable {P : ℤ → Prop}

theorem System.actTimes_steps (hclk : ∀ t, P t → clockOk t t) (client n : ℕ) :
    ∀ s : System κ ν lbl α, P s.world.time → P (s.actTimes client n).world.time ∧
      Relation.ReflTransGen (System.Step clockOk programs) s (s.actTimes client n) := by
  induction n with
  | zero => exact fun s ht => ⟨ht, .refl⟩
  | succ _ ih =>
    intro s ht
    obtain ⟨ht', hpath⟩ := ih ⟨(performAt s.world s.clients client).1,
      (performAt s.world s.clients client).2⟩ (by rwa [performAt_time])
    exact ⟨ht', (performAt_steps s.world (hclk _ ht) s.clients [] client).trans hpath⟩

variable {prog : ι → Prog κ ν lbl α}

section

variable (hclk : ∀ t, P t → clockOk t t) (hprog : ∀ i, prog i ∈ programs)

include hclk hprog

theorem System.runAll_steps (hacts : ShowsOnly P actions) :
    ∀ s : System κ ν lbl α, P s.world.time → P (s.runAll prog actions).world.time ∧
      Relation.ReflTransGen (System.Step clockOk programs) s (s.runAll prog actions) := by
  induction actions with
  | nil => exact fun s ht => ⟨ht, .refl⟩
  | cons action actions ih =>
    intro s ht
    have hrest : ShowsOnly P actions := fun a ha => hacts a (List.mem_cons_of_mem _ ha)
    cases action with
    | spawn i =>
      obtain ⟨ht', hpath⟩ := ih hrest ⟨s.world, ⟨s.world, prog i⟩ :: s.clients⟩ ht
      exact ⟨ht', .head (.spawn s (prog i) (hprog i)) hpath⟩
    | tick t =>
      rw [runAll, List.foldl_cons, run]
      split_ifs with hle
      · obtain ⟨ht', hpath⟩ := ih hrest ⟨s.world.advance t, s.clients⟩
          (hacts _ List.mem_cons_self)
        exact ⟨ht', .head (.tick s t hle) hpath⟩
      · exact ih hrest s ht
    | act client n =>
      obtain ⟨htime, hact⟩ := actTimes_steps hclk client n s ht
      obtain ⟨ht', hpath⟩ := ih hrest _ htime
      exact ⟨ht', hact.trans hpath⟩

/-- **What a schedule leads to is reachable.** -/
theorem System.runAll_reachable (actions : List (Action ι)) (hacts : ShowsOnly P actions)
    (s : System κ ν lbl α) (ht : P s.world.time) (h : Reachable clockOk programs kv s) :
    Reachable clockOk programs kv (s.runAll prog actions) :=
  h.steps (System.runAll_steps hclk hprog hacts s ht).2

theorem System.runAll_becomes (i : ι) (actions : List (Action ι)) (hacts : ShowsOnly P actions)
    (s : System κ ν lbl α) (ht : P s.world.time)
    (hend : ((s.runAll prog (.spawn i :: actions)).clients.reverse.map fun c =>
      (c.ended, c.ready.length))[s.clients.length]? = some (some a, n)) :
    ∃ v : World κ ν lbl, v.length = n ∧
      s.Becomes clockOk programs (prog i) (s.runAll prog (.spawn i :: actions)) ⟨v, .pure a⟩ := by
  rw [List.getElem?_map, Option.map_eq_some_iff] at hend
  obtain ⟨⟨v, p⟩, hclt, heq⟩ := hend
  obtain ⟨hpure, hlen⟩ := Prod.mk.inj heq
  have hpath := (System.runAll_steps hclk hprog hacts
    ⟨s.world, ⟨s.world, prog i⟩ :: s.clients⟩ ht).2
  cases p with
  | pure =>
    cases hpure
    exact ⟨v, hlen, hpath, hclt⟩
  | _ => cases hpure

end

end Reachable

end UbqGateway
