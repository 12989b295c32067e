import UbqGateway.Authority.Change

/-!
# The authority as a service

Any number of clients run the operations of `PortableAuthority` against one store that holds the
whole state.  `reachable_run` reduces the interleaved system to its history: every commit is the
atomic action of one transaction on the state it replaces (`AuthorityStep`).
`AuthorityReachable.commit` is the converse, so a concrete run of transactions can be evaluated
(`runTransactions`) and is a run of the service (`RunsTo.reachable`).
-/

namespace UbqGateway.Authority

/-- The histories of the authority's store. -/
abbrev AuthorityWorld := World Unit AuthorityState Commit

/-- The clients of the authority and their store. -/
abbrev AuthoritySystem := System Unit AuthorityState Commit (Except Thrown Reply)

/-- The operations of all instances of `PortableAuthority`. -/
def authorityPrograms : Set AuthorityProg :=
  {p | ∃ scope operation, p = PortableAuthority.invoke scope operation}

/-- The systems the clients can reach from the state `s₀`. -/
def AuthorityReachable (s₀ : AuthorityState) (sys : AuthoritySystem) : Prop :=
  Reachable (fun _ _ => True) authorityPrograms (storeOfState s₀) sys

/-- The committed state of a history. -/
def stateOf (w : AuthorityWorld) : Option AuthorityState := w.store.value ()

/-- `c` is a commit of the history, made on the state `s`, and left `s'`. -/
def CommittedStep (w : AuthorityWorld) (s : AuthorityState) (c : Commit) (s' : AuthorityState) :
    Prop :=
  ∃ kv kv', w.Committed kv c kv' ∧ kv.value () = some s ∧ kv'.value () = some s'

/-- `c` takes the state `s` to `s'` in one transaction. -/
structure AuthorityStep (s : AuthorityState) (c : Commit) (s' : AuthorityState) : Prop where
  precheck : c.transaction.precheck = .ok ()
  scope : s.scope = c.transaction.scope
  action : c.transaction.action s = .ok (c.reply, s')

theorem AuthorityStep.change (h : AuthorityStep s c s') : Change s c.transaction s' :=
  action_change h.action

/-! ### Histories are sequences of atomic actions -/

def AuthorityGuarantee (w : AuthorityWorld) (c : Commit) (ws : List (Write Unit AuthorityState)) :
    Prop :=
  ∃ s s', stateOf w = some s ∧ AuthorityStep s c s' ∧ ws = [.set () s']

section Run

theorem transactLoop_wp (hpre : transaction.precheck = .ok ()) (n : ℕ) :
    ∀ w, Wp clockOk I AuthorityGuarantee (fun _ _ => True) (transactLoop transaction n) w := by
  induction n with
  | zero => exact fun _ => trivial
  | succ _ ih =>
    intro w
    refine Wp.bind (Wp.get fun v _ _ r hr => ?_)
    cases r with
    | none => trivial
    | some entry =>
      by_cases hscp : entry.value.scope = transaction.scope
      · simp only [if_pos hscp]
        cases hactn : transaction.action entry.value with
        | error thrown => trivial
        | ok result =>
          obtain ⟨reply, s'⟩ := result
          refine Wp.bind (Wp.transaction (fun u hvu hu hpass => ⟨?_, trivial⟩) fun u _ _ => ih u)
          -- the check passed, so the state the action ran on is the one it replaces
          have hget : u.store.get () = some entry :=
            hr.get_eq hvu hu (hpass _ (List.mem_singleton_self _))
          refine ⟨entry.value, s', ?_, ⟨hpre, hscp, hactn⟩, rfl⟩
          rw [stateOf, Kv.value, hget, Option.map_some]
      · simp only [if_neg hscp]
        trivial

theorem transact_wp (scope : AuthorityScope) (transaction : Transaction) (w : AuthorityWorld) :
    Wp clockOk I AuthorityGuarantee (fun _ _ => True) (transact scope transaction) w := by
  unfold transact
  cases hpre : transaction.precheck with
  | error thrown => trivial
  | ok u =>
    by_cases hscp : transaction.scope = scope
    · simp only [if_pos hscp]
      exact transactLoop_wp hpre 8 w
    · simp only [if_neg hscp]
      trivial

theorem invoke_wp (scope : AuthorityScope) (operation : Transaction) (w : AuthorityWorld) :
    Wp clockOk I AuthorityGuarantee (fun _ _ => True)
      (PortableAuthority.invoke scope operation) w := by
  refine Wp.bind (Wp.mono ?_ (transact_wp scope operation w))
  rintro v reply -
  split
  · exact Wp.bind (Wp.mono (fun _ _ _ => trivial) (transact_wp scope _ v))
  · trivial

end Run

/-- The histories of the service that starts with the state `s₀`. -/
abbrev AuthorityRun (s₀ : AuthorityState) : AuthorityWorld → Prop :=
  Run (· = storeOfState s₀) AuthorityGuarantee

/-- **The history of the interleaved service is a sequence of atomic transactions.** -/
theorem reachable_run (h : AuthorityReachable s₀ sys) : AuthorityRun s₀ sys.world := by
  refine Reachable.run (I := (· = storeOfState s₀)) rfl ?_ h
  rintro _ ⟨scope, operation, rfl⟩ w -
  exact invoke_wp scope operation w

theorem stateOf_commit_set (w : AuthorityWorld) (c : Commit) (s : AuthorityState) :
    stateOf (w.commit c [.set () s]) = some s := by
  rw [stateOf, World.store_commit, Kv.value_apply]
  rfl

theorem AuthorityRun.induction {P : AuthorityWorld → AuthorityState → Prop}
    (hstr : ∀ t, P ⟨storeOfState s₀, [], t⟩ s₀) (hadvance : ∀ w s t, P w s → P (w.advance t) s)
    (hcmt : ∀ w s c s', stateOf w = some s → P w s → AuthorityStep s c s' →
      P (w.commit c [.set () s']) s') (hw : AuthorityRun s₀ w) : ∃ s, stateOf w = some s ∧
        P w s := by
  refine Run.invariant (P := fun w => ∃ s, stateOf w = some s ∧ P w s) ?_ ?_ ?_ hw
  · rintro _ t rfl
    exact ⟨s₀, rfl, hstr t⟩
  · rintro w t ⟨s, hs, hP⟩ -
    exact ⟨s, hs, hadvance w s t hP⟩
  · rintro w c ws - ⟨s, hs, hP⟩ ⟨s₁, s', hs₁, hstep, rfl⟩
    cases hs.symm.trans hs₁
    exact ⟨s', stateOf_commit_set w c s', hcmt w s c s' hs hP hstep⟩

/-- **Invariants of the service**: what holds of the first state and is kept by every transaction
holds of every committed state. -/
theorem AuthorityRun.invariant {P : AuthorityState → Prop} (hstr : P s₀)
    (hstep : ∀ s c s', P s → AuthorityStep s c s' → P s') (hw : AuthorityRun s₀ w)
    (hs : stateOf w = some s) : P s := by
  obtain ⟨s₁, hs₁, hP⟩ := AuthorityRun.induction (P := fun _ s => P s) (fun _ => hstr)
    (fun _ _ _ hP => hP) (fun _ s c s' _ hP h => hstep s c s' hP h) hw
  cases hs.symm.trans hs₁
  exact hP

theorem committedStep_commit_iff (hs : stateOf w = some s₁) :
    CommittedStep (w.commit d [.set () s₂]) s c s'
      ↔ (c = d ∧ s = s₁ ∧ s' = s₂) ∨ CommittedStep w s c s' := by
  have hs₂ := stateOf_commit_set w d s₂
  constructor
  · rintro ⟨kv, kv', h, hv, hv'⟩
    rcases (w.committed_commit_iff _ _ _ _ _).mp h with ⟨rfl, rfl, rfl⟩ | h
    · exact .inl ⟨rfl, Option.some.inj (hv.symm.trans hs), Option.some.inj (hv'.symm.trans hs₂)⟩
    · exact .inr ⟨kv, kv', h, hv, hv'⟩
  · rintro (⟨rfl, rfl, rfl⟩ | ⟨kv, kv', h, hv, hv'⟩)
    · exact ⟨w.store, _, (w.committed_commit_iff _ _ _ _ _).mpr (.inl ⟨rfl, rfl, rfl⟩), hs, hs₂⟩
    · exact ⟨kv, kv', (w.committed_commit_iff _ _ _ _ _).mpr (.inr h), hv, hv'⟩

theorem not_committedStep_start (s₀ s s' : AuthorityState) (t : ℤ) (c : Commit) :
    ¬ CommittedStep ⟨storeOfState s₀, [], t⟩ s c s' := by
  rintro ⟨kv, kv', h, -⟩
  exact World.not_committed_start _ t _ _ _ h

/-- Every commit of a history is an atomic transaction, and the state it was made on was the state
of a history. -/
theorem AuthorityRun.committedStep (hw : AuthorityRun s₀ w) (h : CommittedStep w s c s') :
    AuthorityStep s c s' ∧ ∃ u, AuthorityRun s₀ u ∧ stateOf u = some s := by
  obtain ⟨kv, kv', hcom, hv, hv'⟩ := h
  obtain ⟨u, ws, hu, -, rfl, ⟨s₁, s₂, hs₁, hstep, rfl⟩, rfl⟩ := hw.committed hcom
  obtain rfl : s₁ = s := Option.some.inj (hs₁.symm.trans hv)
  obtain rfl : s₂ = s' := by
    rw [Kv.value_apply] at hv'
    exact Option.some.inj hv'
  exact ⟨hstep, u, hu, hs₁⟩

/-- **Stable facts**: what every transaction keeps, once true after a commit, is true ever after. -/
theorem AuthorityRun.stable {Q : AuthorityState → Prop}
    (hstb : ∀ s c s', AuthorityStep s c s' → Q s → Q s') (hw : AuthorityRun s₀ w)
    (hs : stateOf w = some s) (hc : CommittedStep w s₁ c s₂) (hQ : Q s₂) : Q s := by
  obtain ⟨s', hs', h⟩ := AuthorityRun.induction
    (P := fun w s => ∀ s₁ c s₂, CommittedStep w s₁ c s₂ → Q s₂ → Q s)
    (fun t s₁ c s₂ h => absurd h (not_committedStep_start s₀ s₁ s₂ t c)) (fun w s _ h => h)
    (fun w s c s' hs ih hstep s₁ d s₂ h hQ => by
      rcases (committedStep_commit_iff hs).mp h with ⟨rfl, rfl, rfl⟩ | h
      · exact hQ
      · exact hstb s c s' hstep (ih s₁ d s₂ h hQ))
    hw
  cases hs.symm.trans hs'
  exact h s₁ c s₂ hc hQ

/-! ### Every sequence of atomic actions is a history -/

theorem AuthorityReachable.commit (h : AuthorityReachable s₀ sys) (hs : stateOf sys.world = some s)
    (hstep : AuthorityStep s c s') :
    ∃ sys', AuthorityReachable s₀ sys' ∧ sys'.world = sys.world.commit c [.set () s'] := by
  obtain ⟨⟨entry, hget⟩, hval⟩ : (∃ entry, sys.world.store.get () = some entry) ∧
      (sys.world.store.get ()).map Entry.value = some s := by
    refine ⟨?_, hs⟩
    obtain ⟨entry, hget, -⟩ := Option.map_eq_some_iff.mp hs
    exact ⟨entry, hget⟩
  rw [hget] at hval
  obtain rfl : entry.value = s := Option.some.inj hval
  -- the client starts and reads the current entry
  have hspawn := Reachable.step h (System.Step.spawn sys
    (PortableAuthority.invoke c.transaction.scope c.transaction) ⟨_, _, rfl⟩)
  have hprog : ∃ f, PortableAuthority.invoke c.transaction.scope c.transaction = .getAll [()] f ∧
      ∃ g, f (fun k => sys.world.store.get k) = .commit c [⟨(), some entry⟩] [.set () s'] g := by
    unfold PortableAuthority.invoke transact
    simp only [hstep.precheck, if_true]
    refine ⟨_, rfl, ?_⟩
    simp only [hget, Prog.bind, if_pos hstep.scope, hstep.action]
    exact ⟨_, rfl⟩
  obtain ⟨f, hf, g, hg⟩ := hprog
  rw [hf] at hspawn
  have hread := Reachable.step hspawn (System.Step.act sys.world sys.world _ _ [] sys.clients
    (Client.Step.getAll sys.world [()] f _ fun k _ =>
      ⟨sys.world.length, le_rfl, le_rfl, by rw [World.storeAt_length]⟩))
  rw [hg] at hread
  -- and commits on it
  refine ⟨_, Reachable.step hread (System.Step.act sys.world _ _ _ [] sys.clients
    (Client.Step.commit sys.world c _ _ g fun check hchk => ?_)), rfl⟩
  rw [List.mem_singleton.mp hchk, Kv.Passes, hget]

/-- One commit of a run, with the states before and after it. -/
structure AppliedStep where
  before : AuthorityState
  commit : Commit
  after : AuthorityState

/-- The steps of the transactions `ts`, in order, each of which must commit, and the last state. -/
def runTransactions :
    List Transaction → AuthorityState → Except Thrown (List AppliedStep × AuthorityState)
  | [], state => .ok ([], state)
  | transaction :: rest, state => do
    transaction.precheck
    require (state.scope = transaction.scope) "namespace_or_epoch_mismatch" 403
    let (reply, next) ← transaction.action state
    let (steps, last) ← runTransactions rest next
    pure (⟨state, ⟨transaction, reply⟩, next⟩ :: steps, last)

theorem AuthorityReachable.runTransactions :
    ∀ {sys : AuthoritySystem} {s : AuthorityState} {r : List AppliedStep × AuthorityState},
      AuthorityReachable s₀ sys → stateOf sys.world = some s → runTransactions ts s = .ok r →
      ∃ sys', AuthorityReachable s₀ sys' ∧ stateOf sys'.world = some r.2 ∧
        ∀ s₁ c s₂, CommittedStep sys'.world s₁ c s₂
          ↔ CommittedStep sys.world s₁ c s₂ ∨ ⟨s₁, c, s₂⟩ ∈ r.1 := by
  induction ts with
  | nil =>
    intro sys s r h hs hr
    cases hr
    exact ⟨sys, h, hs, by simp⟩
  | cons transaction rest ih =>
    intro sys s r h hs hr
    simp only [Authority.runTransactions, bind_eq_ok, require_eq_ok, pure_eq_ok] at hr
    obtain ⟨_, hpre, -, hscp, ⟨reply, next⟩, hactn, ⟨steps, last⟩, hrest, rfl⟩ := hr
    obtain ⟨sys₁, h₁, hworld⟩ := h.commit (c := ⟨transaction, reply⟩) hs ⟨hpre, hscp, hactn⟩
    have hs₁ : stateOf sys₁.world = some next := by rw [hworld, stateOf_commit_set]
    obtain ⟨sys', h', hs', hstps⟩ := ih h₁ hs₁ hrest
    refine ⟨sys', h', hs', fun s₁ c s₂ => ?_⟩
    rw [hstps, hworld, committedStep_commit_iff hs, List.mem_cons, AppliedStep.mk.injEq]
    tauto

/-- The transactions `ts` all commit from `s₀`, and their steps and the last state satisfy `P`. -/
def RunsTo (s₀ : AuthorityState) (ts : List Transaction)
    (P : List AppliedStep → AuthorityState → Prop) : Prop :=
  match runTransactions ts s₀ with
  | .ok (steps, s) => P steps s
  | .error _ => False

instance (s₀ : AuthorityState) (ts : List Transaction)
    (P : List AppliedStep → AuthorityState → Prop) [∀ steps s, Decidable (P steps s)] :
    Decidable (RunsTo s₀ ts P) := by
  unfold RunsTo
  exact match runTransactions ts s₀ with
    | .ok (steps, s) => inferInstanceAs (Decidable (P steps s))
    | .error _ => .isFalse id

theorem RunsTo.reachable (h : RunsTo s₀ ts P) :
    ∃ sys s steps, AuthorityReachable s₀ sys ∧ stateOf sys.world = some s ∧
      (∀ s₁ c s₂, CommittedStep sys.world s₁ c s₂ ↔ ⟨s₁, c, s₂⟩ ∈ steps) ∧ P steps s := by
  unfold RunsTo at h
  split at h
  · rename_i steps s hrun
    have hstr : AuthorityReachable s₀ ⟨⟨storeOfState s₀, [], 0⟩, []⟩ := Reachable.start 0
    obtain ⟨sys, hsys, hs, hstps⟩ := hstr.runTransactions rfl hrun
    refine ⟨sys, s, steps, hsys, hs, fun s₁ c s₂ => ?_, h⟩
    rw [hstps]
    exact or_iff_right (not_committedStep_start s₀ s₁ s₂ 0 c)
  · exact h.elim

end UbqGateway.Authority
