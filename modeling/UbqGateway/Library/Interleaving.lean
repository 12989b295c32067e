import UbqGateway.Library.Kv

/-!
# Interleaved clients of a versioned store

A client is a program of atomic instructions against one shared `Kv`: read the clock, read several
keys, take the next entry of a listing, commit a transaction.  Any number of clients run at once and
a step of the system is one instruction of one client, so between two instructions of a client
every other client may commit.  A client that is never scheduled again has crashed.

* `World` is the store with its past: the commits in order, each with the label of the client that
  made it, the store it left and the time.  `World.Le` is the order of worlds of one run.
* `Prog` is the syntax of client programs, a monad.
* Reads linearize anywhere between the issue of the instruction and its completion, and the keys of
  one `getAll` at different moments (`ReadIn`); a listing is read in batches, each of which may be
  older than the loop body that consumes it (`NextIn`).
* `Wp G Q p w` says that the program `p`, started in world `w`, guarantees `G` of each of its
  commits whatever the other clients do meanwhile, and that it ends with `Q`.  The other clients are
  only assumed to guarantee `G` too (`Run`), which is the rely of the usual rely-guarantee rule.
* `Reachable.run`: if every program of the system satisfies `Wp G`, the history of every reachable
  system is a run all of whose commits satisfy `G`.
-/

namespace UbqGateway

variable {κ ν lbl α β : Type} [DecidableEq κ]

/-! ### Worlds -/

/-- One commit of the history. -/
structure Event (κ ν lbl : Type) [DecidableEq κ] where
  label : lbl
  /-- The store the commit left. -/
  store : Kv κ ν
  time : ℤ

/-- A store with its history. -/
structure World (κ ν lbl : Type) [DecidableEq κ] where
  init : Kv κ ν
  /-- The commits, newest first. -/
  events : List (Event κ ν lbl)
  time : ℤ

/-- The store after the commits `es` on top of `init`. -/
def storeOf (init : Kv κ ν) : List (Event κ ν lbl) → Kv κ ν
  | [] => init
  | e :: _ => e.store

namespace World

def store (w : World κ ν lbl) : Kv κ ν := storeOf w.init w.events

/-- The number of commits so far. -/
def length (w : World κ ν lbl) : ℕ := w.events.length

/-- The store after the first `n` commits. -/
def storeAt (w : World κ ν lbl) (n : ℕ) : Kv κ ν := storeOf w.init (w.events.drop (w.length - n))

/-- The world after one more commit. -/
def commit (w : World κ ν lbl) (l : lbl) (ws : List (Write κ ν)) : World κ ν lbl :=
  { w with events := ⟨l, w.store.apply ws, w.time⟩ :: w.events }

def advance (w : World κ ν lbl) (t : ℤ) : World κ ν lbl := { w with time := t }

@[simp]
theorem store_commit (w : World κ ν lbl) (l : lbl) (ws : List (Write κ ν)) :
    (w.commit l ws).store = w.store.apply ws := rfl

theorem storeAt_length (w : World κ ν lbl) : w.storeAt w.length = w.store := by
  simp [storeAt, store]

/-- `w'` is a later world of the same run. -/
structure Le (w w' : World κ ν lbl) : Prop where
  init : w.init = w'.init
  events : w.events <:+ w'.events
  time : w.time ≤ w'.time

theorem Le.refl (w : World κ ν lbl) : w.Le w := ⟨rfl, List.suffix_refl _, le_rfl⟩

variable {u v w : World κ ν lbl}

theorem Le.trans (huv : u.Le v) (hvw : v.Le w) : u.Le w :=
  ⟨huv.init.trans hvw.init, huv.events.trans hvw.events, huv.time.trans hvw.time⟩

theorem le_commit (w : World κ ν lbl) (l : lbl) (ws : List (Write κ ν)) : w.Le (w.commit l ws) :=
  ⟨rfl, List.suffix_cons _ _, le_rfl⟩

variable {t : ℤ}

theorem le_advance (w : World κ ν lbl) (h : w.time ≤ t) : w.Le (w.advance t) :=
  ⟨rfl, List.suffix_refl _, h⟩

variable {w' : World κ ν lbl}

theorem Le.length_le (h : w.Le w') : w.length ≤ w'.length :=
  h.events.length_le

variable {n : ℕ}

/-- The past does not change: an earlier store of `w` is the same store of a later world. -/
theorem Le.storeAt_eq (h : w.Le w') (hn : n ≤ w.length) : w'.storeAt n = w.storeAt n := by
  obtain ⟨new, hnew⟩ := h.events
  have hlen : w'.length = new.length + w.length := by
    rw [length, ← hnew, List.length_append, length]
  rw [storeAt, storeAt, ← h.init, ← hnew, hlen, Nat.add_sub_assoc hn, ← List.drop_drop,
    List.drop_append_of_le_length le_rfl, List.drop_length, List.nil_append]

theorem Le.storeAt_length_eq (h : w.Le w') : w'.storeAt w.length = w.store := by
  rw [h.storeAt_eq le_rfl, storeAt_length]

theorem storeAt_commit (w : World κ ν lbl) (l : lbl) (ws : List (Write κ ν))
    (hn : n ≤ (w.commit l ws).length) : n ≤ w.length ∧ (w.commit l ws).storeAt n = w.storeAt n ∨
      (w.commit l ws).storeAt n = w.store.apply ws := by
  by_cases hold : n ≤ w.length
  · exact .inl ⟨hold, (w.le_commit l ws).storeAt_eq hold⟩
  · have hlen : (w.commit l ws).length = w.length + 1 := rfl
    have hlast : n = (w.commit l ws).length := by omega
    rw [hlast, storeAt_length]
    exact .inr rfl

/-- A commit of the history: at time `t`, `l` was committed on the store `kv` and left `kv'`. -/
def CommittedAt (w : World κ ν lbl) (t : ℤ) (kv : Kv κ ν) (l : lbl) (kv' : Kv κ ν) : Prop :=
  ∃ past, Event.mk l kv' t :: past <:+ w.events ∧ storeOf w.init past = kv

/-- A commit of the history: `l` was committed on the store `kv` and left `kv'`. -/
def Committed (w : World κ ν lbl) (kv : Kv κ ν) (l : lbl) (kv' : Kv κ ν) : Prop :=
  ∃ t, w.CommittedAt t kv l kv'

theorem not_committedAt_start (kv₀ : Kv κ ν) (t₀ t : ℤ) (kv kv' : Kv κ ν) (l : lbl) :
    ¬ (World.mk kv₀ [] t₀).CommittedAt t kv l kv' := by
  rintro ⟨past, hsfx, -⟩
  exact absurd (List.suffix_nil.mp hsfx) (List.cons_ne_nil _ _)

theorem not_committed_start (kv₀ : Kv κ ν) (t₀ : ℤ) (kv kv' : Kv κ ν) (l : lbl) :
    ¬ (World.mk kv₀ [] t₀).Committed kv l kv' := by
  rintro ⟨t, hat⟩
  exact not_committedAt_start kv₀ t₀ t kv kv' l hat

theorem committedAt_commit_iff (w : World κ ν lbl) (m : lbl) (ws : List (Write κ ν)) (t : ℤ)
    (kv kv' : Kv κ ν) (l : lbl) : (w.commit m ws).CommittedAt t kv l kv'
      ↔ (t = w.time ∧ l = m ∧ kv = w.store ∧ kv' = w.store.apply ws) ∨
        w.CommittedAt t kv l kv' := by
  constructor
  · rintro ⟨past, hsfx, rfl⟩
    rcases List.suffix_cons_iff.mp hsfx with heq | hsfx
    · obtain ⟨hevt, rfl⟩ := List.cons.inj heq
      cases hevt
      exact .inl ⟨rfl, rfl, rfl, rfl⟩
    · exact .inr ⟨past, hsfx, rfl⟩
  · rintro (⟨rfl, rfl, rfl, rfl⟩ | ⟨past, hsfx, rfl⟩)
    · exact ⟨w.events, List.suffix_refl _, rfl⟩
    · exact ⟨past, hsfx.trans (List.suffix_cons _ _), rfl⟩

theorem committed_commit_iff (w : World κ ν lbl) (m : lbl) (ws : List (Write κ ν)) (kv kv' : Kv κ ν)
    (l : lbl) : (w.commit m ws).Committed kv l kv'
      ↔ (l = m ∧ kv = w.store ∧ kv' = w.store.apply ws) ∨ w.Committed kv l kv' := by
  simp only [Committed, committedAt_commit_iff, exists_or, exists_eq_left]

variable {kv kv' : Kv κ ν} {l : lbl}

theorem Committed.mono (h : w.Committed kv l kv') (hle : w.Le w') : w'.Committed kv l kv' := by
  obtain ⟨t, past, hsfx, rfl⟩ := h
  exact ⟨t, past, hsfx.trans hle.events, by rw [hle.init]⟩

theorem Committed.label_mem (h : w.Committed kv l kv') : l ∈ w.events.map Event.label := by
  obtain ⟨t, past, hsfx, -⟩ := h
  exact List.mem_map_of_mem (f := Event.label) (hsfx.subset List.mem_cons_self)

/-- A commit leads from one store of the history to the next. -/
theorem Committed.storeAt (h : w.Committed kv l kv') :
    ∃ n < w.length, w.storeAt n = kv ∧ w.storeAt (n + 1) = kv' := by
  obtain ⟨t, past, hsfx, rfl⟩ := h
  have hpast : past <:+ w.events := (List.suffix_cons _ _).trans hsfx
  refine ⟨past.length, hsfx.length_le, ?_, ?_⟩
  · rw [World.storeAt, length, ← List.suffix_iff_eq_drop.mp hpast]
  · have hdrop := List.suffix_iff_eq_drop.mp hsfx
    rw [List.length_cons] at hdrop
    rw [World.storeAt, length, ← hdrop]
    rfl

theorem committedAt_newest (h : (w.events.map fun e => (e.label, e.time)).head? = some (l, t)) :
    w.CommittedAt t (w.storeAt (w.length - 1)) l w.store := by
  obtain ⟨init, events, time⟩ := w
  cases events with
  | nil => cases h
  | cons _ past =>
    cases h
    refine ⟨past, List.suffix_refl _, ?_⟩
    -- the history without its newest commit is its tail
    simp [storeAt, length]

end World

/-! ### Runs -/

variable {w w' : World κ ν lbl}

section Run

variable (I : Kv κ ν → Prop) (G : World κ ν lbl → lbl → List (Write κ ν) → Prop)

/-- The histories that start in a store with `I` and all of whose commits satisfy `G` in the world
they are made in. -/
inductive Run : World κ ν lbl → Prop
  | start (kv : Kv κ ν) (t : ℤ) (h : I kv) : Run ⟨kv, [], t⟩
  | advance (w : World κ ν lbl) (t : ℤ) (hw : Run w) (ht : w.time ≤ t) : Run (w.advance t)
  | commit (w : World κ ν lbl) (l : lbl) (ws : List (Write κ ν)) (hw : Run w) (h : G w l ws) :
      Run (w.commit l ws)

variable {I G}

variable {R : Kv κ ν → Kv κ ν → Prop}

/-- **Relations along a run**: a reflexive and transitive relation that every commit satisfies holds
between every store of the run and the current one. -/
theorem Run.storeAt_rel (hrefl : ∀ kv, R kv kv) (htr : ∀ a b c, R a b → R b c → R a c)
    (hstep : ∀ w l ws, Run I G w → G w l ws → R w.store (w.store.apply ws)) (hw : Run I G w) :
    ∀ n, R (w.storeAt n) w.store := by
  induction hw with
  | start kv =>
    intro n
    rw [World.storeAt, List.drop_nil]
    exact hrefl kv
  | advance _ _ _ _ ih => exact ih
  | commit w l ws hw h ih =>
    intro n
    by_cases hn : n ≤ w.length
    · rw [(w.le_commit l ws).storeAt_eq hn]
      exact htr _ _ _ (ih n) (hstep w l ws hw h)
    · -- a count past the end of the history names the current store
      have hlen : (w.commit l ws).length = w.length + 1 := rfl
      have hdrop : (w.commit l ws).length - n = 0 := by omega
      rw [World.storeAt, hdrop]
      exact hrefl _

theorem Run.precedes_storeAt (hw : Run I G w) (n : ℕ) : (w.storeAt n).Precedes w.store :=
  hw.storeAt_rel Kv.Precedes.refl (fun _ _ _ => Kv.Precedes.trans)
    (fun w _ ws _ _ => w.store.precedes_apply ws) n

theorem Run.precedes (hw : Run I G w') (h : w.Le w') : w.store.Precedes w'.store := by
  rw [← h.storeAt_length_eq]
  exact hw.precedes_storeAt _

theorem Run.invariant {P : World κ ν lbl → Prop} (hstr : ∀ kv t, I kv → P ⟨kv, [], t⟩)
    (hadvance : ∀ w t, P w → w.time ≤ t → P (w.advance t))
    (hcmt : ∀ w l ws, Run I G w → P w → G w l ws → P (w.commit l ws)) (hw : Run I G w) :
    P w := by
  induction hw with
  | start kv t h => exact hstr kv t h
  | advance w t _ ht ih => exact hadvance w t ih ht
  | commit w l ws hw h ih => exact hcmt w l ws hw ih h

/-- Every store of a run is the current store of an earlier world of it. -/
theorem Run.exists_storeAt (hw : Run I G w) (hn : n ≤ w.length) :
    ∃ u, Run I G u ∧ u.Le w ∧ u.length = n := by
  induction hw with
  | start kv t h =>
    refine ⟨⟨kv, [], t⟩, Run.start kv t h, World.Le.refl _, ?_⟩
    exact (Nat.le_zero.mp hn).symm
  | advance w _ _ ht ih =>
    obtain ⟨u, hu, hle, hlen⟩ := ih hn
    exact ⟨u, hu, hle.trans (w.le_advance ht), hlen⟩
  | commit w l ws hw h ih =>
    by_cases hn' : n ≤ w.length
    · obtain ⟨u, hu, hle, hlen⟩ := ih hn'
      exact ⟨u, hu, hle.trans (w.le_commit l ws), hlen⟩
    · refine ⟨w.commit l ws, Run.commit w l ws hw h, World.Le.refl _, ?_⟩
      have hlen : (w.commit l ws).length = w.length + 1 := rfl
      omega

/-- What holds of the current store of every run holds of every store of a run. -/
theorem Run.forall_storeAt {P : Kv κ ν → Prop} (h : ∀ w, Run I G w → P w.store) (hw : Run I G w)
    (hn : n ≤ w.length) : P (w.storeAt n) := by
  obtain ⟨u, hu, hle, rfl⟩ := hw.exists_storeAt hn
  rw [hle.storeAt_length_eq]
  exact h u hu

/-- A relation as in `storeAt_rel` holds between any two stores of a run, in their order. -/
theorem Run.storeAt_rel_storeAt (hrefl : ∀ kv, R kv kv) (htr : ∀ a b c, R a b → R b c → R a c)
    (hstep : ∀ w l ws, Run I G w → G w l ws → R w.store (w.store.apply ws)) (hw : Run I G w)
    (hnm : n ≤ m) (hm : m ≤ w.length) : R (w.storeAt n) (w.storeAt m) := by
  obtain ⟨u, hu, hle, rfl⟩ := hw.exists_storeAt hm
  rw [hle.storeAt_length_eq, hle.storeAt_eq hnm]
  exact hu.storeAt_rel hrefl htr hstep n

section

variable (hw : Run I G w)

include hw

/-- Every commit of a run was made in an earlier world of it and satisfied `G` there. -/
theorem Run.committedAt (h : w.CommittedAt t kv l kv') :
    ∃ u ws, Run I G u ∧ u.Le w ∧ u.time = t ∧ u.store = kv ∧ G u l ws ∧ kv' = kv.apply ws := by
  induction hw with
  | start kv t => exact absurd h (World.not_committedAt_start kv t _ _ _ l)
  | advance w _ _ ht ih =>
    obtain ⟨u, ws, hu, hle, hrest⟩ := ih h
    exact ⟨u, ws, hu, hle.trans (w.le_advance ht), hrest⟩
  | commit w m ws hw hG ih =>
    rcases (w.committedAt_commit_iff m ws t kv kv' l).mp h with ⟨rfl, rfl, rfl, rfl⟩ | h
    · exact ⟨w, ws, hw, w.le_commit l ws, rfl, rfl, hG, rfl⟩
    · obtain ⟨u, ws', hu, hle, hrest⟩ := ih h
      exact ⟨u, ws', hu, hle.trans (w.le_commit m ws), hrest⟩

theorem Run.committed (h : w.Committed kv l kv') :
    ∃ u ws, Run I G u ∧ u.Le w ∧ u.store = kv ∧ G u l ws ∧ kv' = kv.apply ws := by
  obtain ⟨t, hat⟩ := h
  obtain ⟨u, ws, hu, hle, -, hrest⟩ := hw.committedAt hat
  exact ⟨u, ws, hu, hle, hrest⟩

/-- Every event of a run was a commit in the world that its past makes. -/
theorem Run.event (h : e :: past <:+ w.events) :
    ∃ u ws, Run I G u ∧ u.init = w.init ∧ u.events = past ∧ G u e.label ws ∧
      e.store = u.store.apply ws := by
  induction hw with
  | start => exact absurd (List.suffix_nil.mp h) (List.cons_ne_nil _ _)
  | advance _ _ _ _ ih => exact ih h
  | commit w _ ws hw hG ih =>
    rcases List.suffix_cons_iff.mp h with heq | h
    · cases heq
      exact ⟨w, ws, hw, rfl, rfl, hG, rfl⟩
    · exact ih h

/-- A run that starts in a store with a property. -/
theorem Run.of_init (h : J w.init) : Run J G w := by
  induction hw with
  | start kv t => exact .start kv t h
  | advance w t _ ht ih => exact .advance w t (ih h) ht
  | commit w l ws _ hG ih => exact .commit w l ws (ih h) hG

/-- A run all of whose commits satisfy a condition is a run of commits that satisfy it. -/
theorem Run.restrict {C : Kv κ ν → lbl → Prop} (h : ∀ kv l kv', w.Committed kv l kv' → C kv l) :
    Run I (fun u l ws => G u l ws ∧ C u.store l) w := by
  induction hw with
  | start kv t hI => exact .start kv t hI
  | advance w t _ ht ih => exact .advance w t (ih h) ht
  | commit w l ws _ hG ih =>
    have hlast := (w.committed_commit_iff l ws _ _ l).mpr (.inl ⟨rfl, rfl, rfl⟩)
    refine .commit w l ws (ih fun kv m kv' hm => ?_) ⟨hG, h _ _ _ hlast⟩
    exact h kv m kv' (hm.mono (w.le_commit l ws))

/-- A commit of the history left a store that is not newer than the current one. -/
theorem Run.committed_stamp_le (h : w.Committed kv l kv') : kv'.stamp ≤ w.store.stamp := by
  induction hw with
  | start kv t => exact absurd h (World.not_committed_start kv t _ _ l)
  | advance _ _ _ _ ih => exact ih h
  | commit w m ws _ _ ih =>
    rcases (w.committed_commit_iff m ws kv kv' l).mp h with ⟨rfl, rfl, rfl⟩ | h
    · exact le_rfl
    · exact Nat.le_succ_of_le (ih h)

end

end Run

/-! ### Programs -/

/-- Where a listing stands: the last key it yielded, and how many commits the batch it reads from
has seen. -/
structure Cursor (κ : Type) where
  after : Option κ
  since : Option ℕ

def Cursor.start : Cursor κ := ⟨none, none⟩

/-- A client program. -/
inductive Prog (κ ν lbl α : Type)
  /-- The program has ended. -/
  | pure (a : α)
  /-- Read the clock. -/
  | now (f : ℤ → Prog κ ν lbl α)
  /-- Read the keys `ks`, each at a moment of its own. -/
  | getAll (ks : List κ) (f : (κ → Option (Entry ν)) → Prog κ ν lbl α)
  /-- Take the next entry of the listing of the keys that satisfy `p`. -/
  | next (p : κ → Bool) (c : Cursor κ) (f : Cursor κ → Option (κ × Entry ν) → Prog κ ν lbl α)
  /-- Commit a transaction; the reply tells whether its checks passed. -/
  | commit (l : lbl) (checks : List (Check κ ν)) (writes : List (Write κ ν))
      (f : Bool → Prog κ ν lbl α)

namespace Prog

/-- Sequential composition. -/
def bind : Prog κ ν lbl α → (α → Prog κ ν lbl β) → Prog κ ν lbl β
  | .pure a, g => g a
  | .now f, g => .now fun t => (f t).bind g
  | .getAll ks f, g => .getAll ks fun got => (f got).bind g
  | .next p c f, g => .next p c fun c' e => (f c' e).bind g
  | .commit l cs ws f, g => .commit l cs ws fun ok => (f ok).bind g

instance : Monad (Prog κ ν lbl) where
  pure := Prog.pure
  bind := Prog.bind

/-- Read one key. -/
def get (k : κ) : Prog κ ν lbl (Option (Entry ν)) := .getAll [k] fun got => .pure (got k)

/-- Read several keys, as `Promise.all` does. -/
def gets (ks : List κ) : Prog κ ν lbl (κ → Option (Entry ν)) := .getAll ks .pure

def clock : Prog κ ν lbl ℤ := .now .pure

def transaction (l : lbl) (checks : List (Check κ ν)) (writes : List (Write κ ν)) :
    Prog κ ν lbl Bool := .commit l checks writes .pure

end Prog

/-! ### What an instruction may see -/

/-- `r` is what `k` held at some moment between the worlds `w` and `w'`. -/
def ReadIn (w w' : World κ ν lbl) (k : κ) (r : Option (Entry ν)) : Prop :=
  ∃ n, w.length ≤ n ∧ n ≤ w'.length ∧ r = (w'.storeAt n).get k

/-- `r` is the first entry of `kv` after the cursor among the keys with `p`. -/
def FirstAfter [LinearOrder κ] (kv : Kv κ ν) (p : κ → Bool) (after : Option κ) :
    Option (κ × Entry ν) → Prop
  | none => ∀ k e, kv.get k = some e → p k = true → ∃ a, after = some a ∧ k ≤ a
  | some (k, e) => kv.get k = some e ∧ p k = true ∧ (∀ a, after = some a → a < k) ∧
      ∀ j e', kv.get j = some e' → p j = true → (∀ a, after = some a → a < j) → k ≤ j

/-- The next entry of a listing, read from a batch not older than the one before it. -/
def NextIn [LinearOrder κ] (w w' : World κ ν lbl) (p : κ → Bool) (c c' : Cursor κ)
    (r : Option (κ × Entry ν)) : Prop :=
  ∃ n, c.since.getD w.length ≤ n ∧ n ≤ w'.length ∧ FirstAfter (w'.storeAt n) p c.after r ∧
    c' = ⟨(r.map Prod.fst).or c.after, some n⟩

variable {k : κ} {r : Option (Entry ν)}

theorem ReadIn.mono {u v w : World κ ν lbl} (hr : ReadIn u v k r) (hvw : v.Le w) :
    ReadIn u w k r := by
  obtain ⟨n, hun, hnv, rfl⟩ := hr
  exact ⟨n, hun, hnv.trans hvw.length_le, by rw [hvw.storeAt_eq hnv]⟩

/-- A read that still passes its check saw the current entry. -/
theorem ReadIn.get_eq {I : Kv κ ν → Prop}
    {G : World κ ν lbl → lbl → List (Write κ ν) → Prop} (hr : ReadIn u v k r) (hvw : v.Le w)
      (hw : Run I G w)
    (hchk : w.store.Passes ⟨k, r⟩) : w.store.get k = r := by
  obtain ⟨n, -, hn, rfl⟩ := hr
  rw [← hvw.storeAt_eq hn] at hchk ⊢
  exact Kv.get_eq_of_check (hw.precedes_storeAt n) rfl hchk

/-! ### Guarantees of a program -/

variable {Q : World κ ν lbl → α → Prop}

section Wp

variable [LinearOrder κ] (clockOk : ℤ → ℤ → Prop) (I : Kv κ ν → Prop)
  (G : World κ ν lbl → lbl → List (Write κ ν) → Prop)

/-- Every commit of the program satisfies `G`, and the program ends with `Q`, if each instruction
is executed in a later world of a run of `G` than the one before it.  `clockOk` relates the time to
what a clock may show. -/
def Wp (Q : World κ ν lbl → α → Prop) : Prog κ ν lbl α → World κ ν lbl → Prop
  | .pure a, w => Q w a
  | .now f, w => ∀ w', w.Le w' → Run I G w' → ∀ t, clockOk w'.time t → Wp Q (f t) w'
  | .getAll ks f, w => ∀ w', w.Le w' → Run I G w' →
      ∀ got, (∀ k ∈ ks, ReadIn w w' k (got k)) → Wp Q (f got) w'
  | .next p c f, w => ∀ w', w.Le w' → Run I G w' →
      ∀ c' r, NextIn w w' p c c' r → Wp Q (f c' r) w'
  | .commit l cs ws f, w => ∀ w', w.Le w' → Run I G w' →
      (w'.store.PassesAll cs → G w' l ws ∧ Wp Q (f true) (w'.commit l ws)) ∧
      (¬ w'.store.PassesAll cs → Wp Q (f false) w')

variable {clockOk I G}

variable {p : Prog κ ν lbl α}

theorem Wp.mono {Q Q' : World κ ν lbl → α → Prop} (hQ : ∀ w a, Q w a → Q' w a) :
    ∀ {w : World κ ν lbl}, Wp clockOk I G Q p w → Wp clockOk I G Q' p w := by
  induction p with
  | pure a => exact fun h => hQ _ a h
  | now _ ih | getAll _ _ ih => exact fun h w' hle hw' r hr => ih r (h w' hle hw' r hr)
  | next _ _ _ ih => exact fun h w' hle hw' c' r hr => ih c' r (h w' hle hw' c' r hr)
  | commit _ _ _ _ ih =>
    intro w h w' hle hw'
    obtain ⟨hok, hconf⟩ := h w' hle hw'
    exact ⟨fun hp => ⟨(hok hp).1, ih true (hok hp).2⟩, fun hp => ih false (hconf hp)⟩

/-- **The frame rule**: what every later world of a run keeps holds when the program ends. -/
theorem Wp.frame {R : World κ ν lbl → Prop} (hR : ∀ v v', R v → v.Le v' → Run I G v' → R v') :
    ∀ {w : World κ ν lbl}, R w →
      Wp clockOk I G Q p w → Wp clockOk I G (fun v a => R v ∧ Q v a) p w := by
  induction p with
  | pure => exact fun hw h => ⟨hw, h⟩
  | now _ ih | getAll _ _ ih =>
    intro w hw h w' hle hw' r hr
    exact ih r (hR w w' hw hle hw') (h w' hle hw' r hr)
  | next _ _ _ ih =>
    intro w hw h w' hle hw' c' r hr
    exact ih c' r (hR w w' hw hle hw') (h w' hle hw' c' r hr)
  | commit l _ ws _ ih =>
    intro w hw h w' hle hw'
    obtain ⟨hok, hconf⟩ := h w' hle hw'
    have hR' := hR w w' hw hle hw'
    constructor
    · intro hp
      have hcmt := Run.commit w' l ws hw' (hok hp).1
      exact ⟨(hok hp).1, ih true (hR w' _ hR' (w'.le_commit l ws) hcmt) (hok hp).2⟩
    · exact fun hp => ih false hR' (hconf hp)

/-- A program ends in a later world than it started in. -/
theorem Wp.le (h : Wp clockOk I G Q p w) : Wp clockOk I G (fun v a => w.Le v ∧ Q v a) p w :=
  Wp.frame (R := fun v => w.Le v) (fun _ _ hv hle _ => hv.trans hle) (World.Le.refl w) h

/-- The rule of composition. -/
theorem Wp.bind {Q : World κ ν lbl → β → Prop} {w : World κ ν lbl} :
    Wp clockOk I G (fun w a => Wp clockOk I G Q (g a) w) p w → Wp clockOk I G Q (p >>= g) w := by
  change _ → Wp clockOk I G Q (p.bind g) w
  apply Iff.mp
  induction p generalizing w with
  | pure => exact Iff.rfl
  | now _ ih | getAll _ _ ih | next _ _ _ ih | commit _ _ _ _ ih => simp only [Prog.bind, Wp, ih]

theorem Wp.get {Q : World κ ν lbl → Option (Entry ν) → Prop} {w : World κ ν lbl}
    (h : ∀ w', w.Le w' → Run I G w' → ∀ r, ReadIn w w' k r → Q w' r) :
    Wp clockOk I G Q (Prog.get k) w :=
  fun w' hle hw' got hgot => h w' hle hw' (got k) (hgot k (List.mem_singleton_self k))

theorem Wp.transaction {Q : World κ ν lbl → Bool → Prop}
    (hok : ∀ w', w.Le w' → Run I G w' → w'.store.PassesAll cs → G w' l ws ∧ Q (w'.commit l ws) true)
    (hconf : ∀ w', w.Le w' → Run I G w' → Q w' false) :
    Wp clockOk I G Q (Prog.transaction l cs ws) w :=
  fun w' hle hw' => ⟨hok w' hle hw', fun _ => hconf w' hle hw'⟩

/-! ### Programs that throw -/

section Throws

variable {ε : Type} {Q : World κ ν lbl → Except ε β → Prop}

/-- The rule of composition: an error ends the program. -/
theorem Wp.bindExcept {x : ExceptT ε (Prog κ ν lbl) α} {f : α → ExceptT ε (Prog κ ν lbl) β}
    {w : World κ ν lbl} (h : Wp clockOk I G (fun w r => match r with
      | .ok a => Wp clockOk I G Q (f a).run w
      | .error e => Q w (.error e)) x.run w) : Wp clockOk I G Q (x >>= f).run w := by
  change Wp clockOk I G Q (x.run >>= ExceptT.bindCont f) w
  refine Wp.bind (Wp.mono ?_ h)
  intro w r hr
  cases r with
  | ok a | error e => exact hr

/-- The rule of `try … catch`. -/
theorem Wp.tryCatch {x : ExceptT ε (Prog κ ν lbl) β} {handle : ε → ExceptT ε (Prog κ ν lbl) β}
    {w : World κ ν lbl} (h : Wp clockOk I G (fun w r => match r with
      | .ok a => Q w (.ok a)
      | .error e => Wp clockOk I G Q (handle e).run w) x.run w) :
    Wp clockOk I G Q (tryCatchThe ε x handle).run w := by
  unfold tryCatchThe
  refine Wp.bind (p := x.run) (Wp.mono ?_ h)
  intro w r hr
  cases r with
  | ok a | error e => exact hr

end Throws

end Wp

/-! ### The system -/

/-- A client: what is left of its program, and the world in which its last instruction ended. -/
structure Client (κ ν lbl α : Type) [DecidableEq κ] where
  ready : World κ ν lbl
  prog : Prog κ ν lbl α

/-- All clients and the store they share. -/
structure System (κ ν lbl α : Type) [DecidableEq κ] where
  world : World κ ν lbl
  clients : List (Client κ ν lbl α)

section Steps

variable [LinearOrder κ] (clockOk : ℤ → ℤ → Prop)

/-- One instruction of one client in world `w`. -/
inductive Client.Step (w : World κ ν lbl) :
    Client κ ν lbl α → World κ ν lbl → Client κ ν lbl α → Prop
  | now (r : World κ ν lbl) (f : ℤ → Prog κ ν lbl α) (t : ℤ) (h : clockOk w.time t) :
      Step w ⟨r, .now f⟩ w ⟨w, f t⟩
  | getAll (r : World κ ν lbl) (ks : List κ) (f : (κ → Option (Entry ν)) → Prog κ ν lbl α)
      (got : κ → Option (Entry ν)) (h : ∀ k ∈ ks, ReadIn r w k (got k)) :
      Step w ⟨r, .getAll ks f⟩ w ⟨w, f got⟩
  | next (r : World κ ν lbl) (p : κ → Bool) (c : Cursor κ)
      (f : Cursor κ → Option (κ × Entry ν) → Prog κ ν lbl α) (c' : Cursor κ)
      (e : Option (κ × Entry ν)) (h : NextIn r w p c c' e) :
      Step w ⟨r, .next p c f⟩ w ⟨w, f c' e⟩
  | commit (r : World κ ν lbl) (l : lbl) (cs : List (Check κ ν)) (ws : List (Write κ ν))
      (f : Bool → Prog κ ν lbl α) (h : w.store.PassesAll cs) :
      Step w ⟨r, .commit l cs ws f⟩ (w.commit l ws) ⟨w.commit l ws, f true⟩
  | conflict (r : World κ ν lbl) (l : lbl) (cs : List (Check κ ν)) (ws : List (Write κ ν))
      (f : Bool → Prog κ ν lbl α) (h : ¬ w.store.PassesAll cs) :
      Step w ⟨r, .commit l cs ws f⟩ w ⟨w, f false⟩

variable (programs : Set (Prog κ ν lbl α))

/-- One step of the system: a client starts, time passes, or a client executes an instruction. -/
inductive System.Step : System κ ν lbl α → System κ ν lbl α → Prop
  | spawn (s : System κ ν lbl α) (p : Prog κ ν lbl α) (h : p ∈ programs) :
      Step s ⟨s.world, ⟨s.world, p⟩ :: s.clients⟩
  | tick (s : System κ ν lbl α) (t : ℤ) (h : s.world.time ≤ t) :
      Step s ⟨s.world.advance t, s.clients⟩
  | act (w w' : World κ ν lbl) (c c' : Client κ ν lbl α) (before after : List (Client κ ν lbl α))
      (h : Client.Step clockOk w c w' c') :
      Step ⟨w, before ++ c :: after⟩ ⟨w', before ++ c' :: after⟩

/-- The systems that clients running `programs` can reach from the store `kv`. -/
inductive Reachable (kv : Kv κ ν) : System κ ν lbl α → Prop
  | start (t : ℤ) : Reachable kv ⟨⟨kv, [], t⟩, []⟩
  | step {s s' : System κ ν lbl α} (h : Reachable kv s) (hs : System.Step clockOk programs s s') :
      Reachable kv s'

variable {clockOk programs} {I : Kv κ ν → Prop}
  {G : World κ ν lbl → lbl → List (Write κ ν) → Prop}

variable {c c' : Client κ ν lbl α}

theorem Client.Step.le (h : Client.Step clockOk w c w' c') : w.Le w' ∧ c'.ready = w' := by
  cases h with
  | now | getAll | next | conflict => exact ⟨World.Le.refl w, rfl⟩
  | commit _ l _ ws => exact ⟨w.le_commit l ws, rfl⟩

theorem Client.Step.run (h : Client.Step clockOk w c w' c') (hw : Run I G w) (hle : c.ready.Le w)
    (hc : Wp clockOk I G Q c.prog c.ready) : Run I G w' ∧ Wp clockOk I G Q c'.prog c'.ready := by
  cases h with
  | now _ _ t h => exact ⟨hw, hc w hle hw t h⟩
  | getAll _ _ _ got h => exact ⟨hw, hc w hle hw got h⟩
  | next _ _ _ _ c' e h => exact ⟨hw, hc w hle hw c' e h⟩
  | commit _ l _ ws _ h =>
    obtain ⟨hg, hnext⟩ := (hc w hle hw).1 h
    exact ⟨Run.commit w l ws hw hg, hnext⟩
  | conflict _ _ _ _ _ h => exact ⟨hw, (hc w hle hw).2 h⟩

variable {s : System κ ν lbl α} {Q : Prog κ ν lbl α → World κ ν lbl → World κ ν lbl → α → Prop}

variable {kv : Kv κ ν}

/-- **Soundness of the guarantee rule**: if every program of the system guarantees `G` of its
commits, the history of every reachable system is a run of `G`, and every client still guarantees
what its program ends with.  `Q p u` is what the program `p` ends with when it starts in the
world `u`. -/
theorem Reachable.clients (hkv : I kv)
    (hprog : ∀ p ∈ programs, ∀ w, Run I G w → Wp clockOk I G (Q p w) p w)
    (hs : Reachable clockOk programs kv s) :
    Run I G s.world ∧ ∀ c ∈ s.clients, c.ready.Le s.world ∧ Run I G c.ready ∧
      ∃ p ∈ programs, ∃ u, u.Le c.ready ∧ Wp clockOk I G (Q p u) c.prog c.ready := by
  induction hs with
  | start t => exact ⟨Run.start kv t hkv, by simp⟩
  | step _ hstep ih =>
    obtain ⟨hrun, hclients⟩ := ih
    cases hstep with
    | spawn _ p hp =>
      refine ⟨hrun, fun c hc => ?_⟩
      rcases List.mem_cons.mp hc with rfl | hc
      · exact ⟨World.Le.refl _, hrun, p, hp, _, World.Le.refl _, hprog p hp _ hrun⟩
      · exact hclients c hc
    | tick _ t ht =>
      refine ⟨Run.advance _ t hrun ht, fun c hc => ?_⟩
      exact ⟨(hclients c hc).1.trans (World.le_advance _ ht), (hclients c hc).2⟩
    | act _ _ c _ _ _ hact =>
      obtain ⟨hle, -, p, hp, u, hu, hwp⟩ := hclients c (List.mem_append_right _ List.mem_cons_self)
      obtain ⟨hrun', hwp'⟩ := hact.run hrun hle hwp
      refine ⟨hrun', fun d hd => ?_⟩
      rcases List.mem_append.mp hd with hd | hd
      · obtain ⟨h1, h2⟩ := hclients d (List.mem_append_left _ hd)
        exact ⟨h1.trans hact.le.1, h2⟩
      · rcases List.mem_cons.mp hd with rfl | hd
        · rw [hact.le.2] at hwp' ⊢
          exact ⟨World.Le.refl _, hrun', p, hp, u, (hu.trans hle).trans hact.le.1, hwp'⟩
        · obtain ⟨h1, h2⟩ := hclients d (List.mem_append_right _ (List.mem_cons_of_mem _ hd))
          exact ⟨h1.trans hact.le.1, h2⟩

theorem Reachable.run (hkv : I kv)
    (hprog : ∀ p ∈ programs, ∀ w, Run I G w → Wp clockOk I G (fun _ _ => True) p w)
    (hs : Reachable clockOk programs kv s) : Run I G s.world :=
  (Reachable.clients (Q := fun _ _ _ _ => True) hkv hprog hs).1

/-- A client that has ended has ended with what its program guarantees. -/
theorem Reachable.ended (hkv : I kv)
    (hprog : ∀ p ∈ programs, ∀ w, Run I G w → Wp clockOk I G (Q p w) p w)
    (hs : Reachable clockOk programs kv s) (hc : ⟨v, .pure a⟩ ∈ s.clients) :
    v.Le s.world ∧ Run I G v ∧ ∃ p ∈ programs, ∃ u, u.Le v ∧ Q p u v a :=
  (Reachable.clients hkv hprog hs).2 _ hc

variable {s' : System κ ν lbl α}

theorem Reachable.steps (hs : Reachable clockOk programs kv s)
    (hpath : Relation.ReflTransGen (System.Step clockOk programs) s s') :
    Reachable clockOk programs kv s' := by
  induction hpath with
  | refl => exact hs
  | tail _ hstep ih => exact ih.step hstep

omit [LinearOrder κ] in
/-- The client of a list that is replaced is the one at its place, counted from the end. -/
theorem getElem?_reverse_replace (before after : List (Client κ ν lbl α)) (c c' : Client κ ν lbl α)
    (j : ℕ) : (before ++ c' :: after).reverse[j]? = if j = after.length then some c'
      else (before ++ c :: after).reverse[j]? := by
  have hrev : ∀ d, (before ++ d :: after).reverse = after.reverse ++ d :: before.reverse := by
    simp
  rw [hrev c, hrev c', List.getElem?_append, List.getElem?_append, List.length_reverse]
  rcases Nat.lt_trichotomy j after.length with hlt | rfl | hgt
  · rw [if_pos hlt, if_pos hlt, if_neg hlt.ne]
  · rw [if_neg (Nat.lt_irrefl _), if_pos rfl, Nat.sub_self]
    rfl
  · obtain ⟨d, rfl⟩ := Nat.exists_eq_add_of_lt hgt
    rw [if_neg (by omega), if_neg (by omega), if_neg (by omega), Nat.add_assoc,
      Nat.add_sub_cancel_left, List.getElem?_cons_succ, List.getElem?_cons_succ]

/-- No client is ever dropped. -/
theorem System.length_clients_le
    (hpath : Relation.ReflTransGen (System.Step clockOk programs) s s') :
    s.clients.length ≤ s'.clients.length := by
  induction hpath with
  | refl => exact le_rfl
  | tail _ hstep ih =>
    cases hstep with
    | spawn => exact Nat.le_succ_of_le ih
    | tick => exact ih
    | act => simpa using ih

variable (clockOk programs) in
/-- The client that starts the program `p` in the system `s₀` stands at `c` in the system `s`.
Clients are counted from the end of the list, where a new client changes nothing. -/
def System.Becomes (s₀ : System κ ν lbl α) (p : Prog κ ν lbl α) (s : System κ ν lbl α)
    (c : Client κ ν lbl α) : Prop :=
  Relation.ReflTransGen (System.Step clockOk programs) ⟨s₀.world, ⟨s₀.world, p⟩ :: s₀.clients⟩ s ∧
    s.clients.reverse[s₀.clients.length]? = some c

/-- A client still guarantees what its program ends with, from the world it has started in. -/
theorem System.Becomes.client (hkv : I kv)
    (hprog : ∀ p ∈ programs, ∀ w, Run I G w → Wp clockOk I G (Q p w) p w)
    (hs₀ : Reachable clockOk programs kv s₀) (hp : p ∈ programs)
    (h : s₀.Becomes clockOk programs p s c) :
    s₀.world.Le c.ready ∧ c.ready.Le s.world ∧ Wp clockOk I G (Q p s₀.world) c.prog c.ready := by
  obtain ⟨hpath, hc⟩ := h
  have hspawned := hs₀.step (.spawn s₀ p hp)
  induction hpath generalizing c with
  | refl =>
    rw [List.reverse_cons, List.getElem?_append_right (by simp), List.length_reverse,
      Nat.sub_self] at hc
    cases hc
    exact ⟨World.Le.refl _, World.Le.refl _, hprog p hp _ (Reachable.clients hkv hprog hs₀).1⟩
  | tail hpath hstep ih =>
    have hrun := (Reachable.clients hkv hprog (hspawned.steps hpath)).1
    cases hstep with
    | spawn =>
      have hlen := System.length_clients_le hpath
      rw [List.reverse_cons,
        List.getElem?_append_left (by rw [List.length_reverse]; exact hlen)] at hc
      exact ih hc
    | tick _ _ ht =>
      obtain ⟨hstr, hle, hwp⟩ := ih hc
      exact ⟨hstr, hle.trans (World.le_advance _ ht), hwp⟩
    | act w w' d d' before after hact =>
      rw [getElem?_reverse_replace before after d] at hc
      split_ifs at hc with hj
      · cases hc
        have hd : (before ++ d :: after).reverse[s₀.clients.length]? = some d := by
          rw [getElem?_reverse_replace before after d, if_pos hj]
        obtain ⟨hstr, hle, hwp⟩ := ih hd
        have hnext := hact.run hrun hle hwp
        rw [hact.le.2] at hnext ⊢
        exact ⟨(hstr.trans hle).trans hact.le.1, World.Le.refl _, hnext.2⟩
      · obtain ⟨hstr, hle, hwp⟩ := ih hc
        exact ⟨hstr, hle.trans hact.le.1, hwp⟩

/-- All systems of a run have the store they started from in their past. -/
theorem Reachable.init_eq (hs : Reachable clockOk programs kv s) : s.world.init = kv := by
  induction hs with
  | start => rfl
  | step _ hstep ih =>
    cases hstep with
    | spawn | tick => exact ih
    | act _ _ _ _ _ _ hact =>
      rw [← hact.le.1.init]
      exact ih

end Steps

end UbqGateway
