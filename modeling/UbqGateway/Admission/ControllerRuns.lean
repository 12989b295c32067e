import UbqGateway.Admission.Turns
import Mathlib.Data.List.Induction

/-!
# Runs of the controller

`Floor` is what every call keeps, also in the middle of it: the rotation, the limits, one result for
each request, and one permit for each grant that is not released.  `Busy` is what only the end of a
call restores: somebody waits only while all permits are taken.
-/

namespace UbqGateway.Admission

open Admission Controller

/-- The numbers of the requests that are resolved. -/
def Controller.resolvedIds (c : Controller) : List ℕ := c.resolved.map Prod.fst

def Controller.grants (c : Controller) : List (ℕ × Decision) :=
  c.resolved.filter fun r => r.2.isAdmitted

/-- The grants that are not released. -/
def Controller.outstanding (c : Controller) : List (ℕ × Decision) :=
  c.grants.filter fun r => r.1 ∉ c.released

/-- What holds between two steps of a call. -/
structure Floor (limits : InferenceAdmissionLimits) (c : Controller) : Prop where
  rotation : Rotation c.state
  active_le : c.state.active ≤ limits.maxActive
  waiting_le : c.state.waitingCount ≤ limits.maxWaiting
  /-- A waiter has the number of its request. -/
  known : ∀ id w, c.waiters id = some w → w.id = id ∧ id < c.nextId
  /-- A waiter in a queue is not settled. -/
  waiting : ∀ w, Waiting c.state w → c.waiters w.id = some w ∧ w.id ∉ c.resolvedIds
  /-- A request that does not wait is resolved. -/
  answered : ∀ id < c.nextId, id ∈ c.resolvedIds ∨ ∃ w, w.id = id ∧ Waiting c.state w
  made : ∀ id ∈ c.resolvedIds, id < c.nextId
  once : c.resolvedIds.Nodup
  taken : ∀ id ∈ c.taken, id ∈ c.resolvedIds
  released_once : c.released.Nodup
  released : ∀ id ∈ c.released, id ∈ c.taken ∧ id ∈ c.grants.map Prod.fst
  permits : c.state.active + c.released.length = c.grants.length

/-- No permit idles while somebody waits. -/
def Busy (limits : InferenceAdmissionLimits) (c : Controller) : Prop :=
  0 < c.state.waitingCount → c.state.active = limits.maxActive

variable {c : Controller}

theorem floor_create : Floor limits createInferenceAdmissionController where
  rotation := rotation_empty
  active_le := Nat.zero_le _
  waiting_le := Nat.zero_le _
  known id w h := by cases h
  waiting w h := absurd h (not_waiting_empty w)
  answered id h := absurd h (Nat.not_lt_zero id)
  made id h := absurd h List.not_mem_nil
  once := List.nodup_nil
  taken id h := absurd h List.not_mem_nil
  released_once := List.nodup_nil
  released id h := absurd h List.not_mem_nil
  permits := rfl

theorem decision_eq_none_iff (id : ℕ) : c.decision id = none ↔ id ∉ c.resolvedIds := by
  unfold Controller.decision resolvedIds
  rw [List.lookup_eq_none_iff]
  simp only [List.mem_map, not_exists, not_and, bne_iff_ne]
  exact ⟨fun h p hp heq => h p hp heq.symm, fun h p hp heq => h p hp heq.symm⟩

theorem decision_isSome_iff (id : ℕ) : (c.decision id).isSome = true ↔ id ∈ c.resolvedIds := by
  rw [Option.isSome_iff_ne_none, ne_eq, decision_eq_none_iff, not_not]

theorem decision_eq_some_iff (h : c.resolvedIds.Nodup) (id : ℕ) (d : Decision) :
    c.decision id = some d ↔ (id, d) ∈ c.resolved :=
  (Record.mem_entries_iff ⟨c.resolved, h⟩ id d).symm

theorem mem_grants_iff (h : c.resolvedIds.Nodup) (id : ℕ) :
    id ∈ c.grants.map Prod.fst ↔ (c.decision id).any Decision.isAdmitted = true := by
  unfold Controller.grants
  constructor
  · intro hmem
    obtain ⟨⟨id', d⟩, hd, rfl⟩ := List.mem_map.mp hmem
    obtain ⟨hrsv, hadm⟩ := List.mem_filter.mp hd
    rw [(decision_eq_some_iff h id' d).mpr hrsv]
    exact hadm
  · intro hany
    cases hd : c.decision id with
    | none =>
      rw [hd] at hany
      cases hany
    | some d =>
      rw [hd] at hany
      have hrsv := (decision_eq_some_iff h id d).mp hd
      exact List.mem_map.mpr ⟨(id, d), List.mem_filter.mpr ⟨hrsv, hany⟩, rfl⟩

theorem grants_resolve (f : AdmissionState → AdmissionState) (id : ℕ) (result : Decision) :
    ((c.mapState f).resolve id result).grants =
      if result.isAdmitted = true then (id, result) :: c.grants else c.grants := by
  unfold Controller.grants resolve mapState
  rw [List.filter_cons]

/-! ### Settling a waiter -/

/-- The state when a waiter has left its queue, with so many permits taken and these turns. -/
def AdmissionState.left (waiter : Waiter) (active : ℕ) (turnOrder : List (Option String))
    (s : AdmissionState) : AdmissionState :=
  { detachWaiter waiter s with active := active, turnOrder := turnOrder }

/-- A waiter leaves its queue and its promise is resolved; a grant takes a permit. -/
structure Settles (limits : InferenceAdmissionLimits) (c c' : Controller) : Prop where
  settled : ∃ waiter result turns, Waiting c.state waiter ∧
    turns.Perm (detachWaiter waiter c.state).turnOrder ∧
    (result.isAdmitted = true → c.state.active < limits.maxActive) ∧
    c' = (c.mapState (AdmissionState.left waiter
      (c.state.active + (if result.isAdmitted = true then 1 else 0)) turns)).resolve waiter.id
        result

/-- A waiter that is settled leaves the invariant. -/
theorem Floor.settles (h : Floor limits c) (hsts : Settles limits c c') : Floor limits c' := by
  obtain ⟨waiter, result, turns, hw, hperm, hactv, rfl⟩ := hsts.settled
  obtain ⟨hwtr, hfr⟩ := h.waiting waiter hw
  have hdetached := h.rotation.detach hw
  have hcnt := h.rotation.detach_count hw
  have hgone := h.rotation.waiting_detach hw
  constructor
  · exact hdetached.reorder hperm
  · show c.state.active + _ ≤ limits.maxActive
    have hle := h.active_le
    split_ifs with hadm
    · exact hactv hadm
    · exact hle
  · show (detachWaiter waiter c.state).waitingCount ≤ limits.maxWaiting
    have hle := h.waiting_le
    omega
  · exact h.known
  · intro w hwts
    obtain ⟨hold, hne⟩ := (hgone w).mp hwts
    obtain ⟨hw', hw''⟩ := h.waiting w hold
    refine ⟨hw', fun hmem => ?_⟩
    rcases List.mem_cons.mp hmem with heq | hmem
    · have hsame : some w = some waiter := by rw [← hw', ← hwtr]; exact congrArg c.waiters heq
      exact hne (Option.some.inj hsame)
    · exact hw'' hmem
  · intro id hid
    rcases h.answered id hid with hmem | ⟨w, rfl, hw'⟩
    · exact .inl (List.mem_cons_of_mem _ hmem)
    · by_cases hne : w = waiter
      · left
        rw [hne]
        exact List.mem_cons_self
      · exact .inr ⟨w, rfl, (hgone w).mpr ⟨hw', hne⟩⟩
  · intro id hid
    rcases List.mem_cons.mp hid with rfl | hid
    · exact (h.known _ _ hwtr).2
    · exact h.made id hid
  · exact List.nodup_cons.mpr ⟨hfr, h.once⟩
  · exact fun id hid => List.mem_cons_of_mem _ (h.taken id hid)
  · exact h.released_once
  · intro id hid
    obtain ⟨htkn, hgrt⟩ := h.released id hid
    refine ⟨htkn, ?_⟩
    rw [grants_resolve]
    split_ifs
    · exact List.mem_cons_of_mem _ hgrt
    · exact hgrt
  · have hpermits := h.permits
    rw [grants_resolve]
    show c.state.active + _ + c.released.length = _
    split_ifs
    · rw [List.length_cons]
      omega
    · exact hpermits

theorem settleWaiter_fresh (hfr : waiter.id ∉ c.resolvedIds) (result : Decision) :
    settleWaiter waiter result c = (c.mapState (detachWaiter waiter)).resolve waiter.id result :=
  if_neg hfr

theorem Floor.refuses (h : Floor limits c) (hw : Waiting c.state waiter)
    (href : result.isAdmitted = false) : Settles limits c (settleWaiter waiter result c) := by
  refine ⟨waiter, result, (detachWaiter waiter c.state).turnOrder, hw, List.Perm.refl _,
    fun hadm => ?_, ?_⟩
  · rw [href] at hadm
    cases hadm
  · rw [settleWaiter_fresh (h.waiting waiter hw).2, href, if_neg Bool.false_ne_true,
      Nat.add_zero, ← detachWaiter_active c.state]
    rfl

/-- An iteration of `admitWaiting` settles the waiter whose turn it is. -/
theorem Floor.admitTurn (h : Floor limits c) (htrn : c.state.turnOrder = p :: turnOrder)
    (hfree : c.state.active < limits.maxActive) :
    Settles limits c (admitTurn limits p (c.mapState (AdmissionState.withTurns turnOrder))) := by
  have hp : p ∈ c.state.turnOrder := by
    rw [htrn]
    exact List.mem_cons_self
  obtain ⟨waiter, hhead, rfl, hw⟩ := h.rotation.head hp
  have hfr := (h.waiting waiter hw).2
  have href : ∀ result : Decision, result.isAdmitted = false →
      Settles limits c (refuseWaiter waiter waiter.principal result
        (c.mapState (AdmissionState.withTurns turnOrder))) := by
    intro result hres
    have hstl := h.refuses hw hres
    have hrefuse := h.rotation.refuse hw htrn
    rw [settleWaiter_fresh hfr] at hstl
    unfold refuseWaiter
    rw [settleWaiter_fresh (c := c.mapState (AdmissionState.withTurns turnOrder)) hfr]
    unfold Controller.mapState resolve at hstl ⊢
    dsimp only
    rw [hrefuse]
    exact hstl
  unfold Admission.admitTurn
  have hhead' : ((c.mapState (AdmissionState.withTurns turnOrder)).state.waitingByPrincipal.lookup
      waiter.principal).bind List.head? = some waiter := hhead
  rw [hhead']
  dsimp only
  split_ifs with habt hover
  · exact href _ rfl
  · exact href _ rfl
  · obtain ⟨turns, hperm, hgrt⟩ := h.rotation.grant hw htrn
    refine ⟨waiter, .admitted (elapsedMs c.now waiter.queuedAt), turns, hw, hperm,
      fun _ => hfree, ?_⟩
    unfold grantWaiter admitOne
    rw [settleWaiter_fresh
      (c := (c.mapState (AdmissionState.withTurns turnOrder)).mapState AdmissionState.grant) hfr]
    unfold Controller.mapState resolve
    dsimp only
    rw [hgrt]
    rfl

theorem Floor.admitWaitingLoop {P : Controller → Prop}
    (hP : ∀ c c', Floor limits c → P c → Settles limits c c' → P c') :
    ∀ (fuel : ℕ) (c : Controller), Floor limits c → P c →
      Floor limits (admitWaitingLoop limits fuel c) ∧ P (admitWaitingLoop limits fuel c) := by
  intro fuel
  induction fuel with
  | zero => exact fun c h hc => ⟨h, hc⟩
  | succ _ ih =>
    intro c h hc
    unfold Admission.admitWaitingLoop
    split_ifs with hfree
    · cases htrn : c.state.turnOrder with
      | nil => exact ⟨h, hc⟩
      | cons p turnOrder =>
        have hsts := h.admitTurn htrn hfree.1
        exact ih _ (h.settles hsts) (hP c _ h hc hsts)
    · exact ⟨h, hc⟩

theorem Settles.count (h : Floor limits c) (hsts : Settles limits c c') :
    c'.state.waitingCount + 1 = c.state.waitingCount := by
  obtain ⟨waiter, result, turns, hw, -, -, rfl⟩ := hsts.settled
  exact h.rotation.detach_count hw

theorem Floor.admitWaitingLoop_busy :
    ∀ (fuel : ℕ) (c : Controller), Floor limits c → c.state.waitingCount ≤ fuel →
      Busy limits (Admission.admitWaitingLoop limits fuel c) := by
  intro fuel
  induction fuel with
  | zero =>
    intro c h hfuel hpos
    have hcnt : 0 < c.state.waitingCount := hpos
    omega
  | succ _ ih =>
    intro c h hfuel
    unfold Admission.admitWaitingLoop
    split_ifs with hfree
    · cases htrn : c.state.turnOrder with
      | nil => exact absurd htrn (h.rotation.exists_turn hfree.2)
      | cons p turnOrder =>
        have hsts := h.admitTurn htrn hfree.1
        have hcnt := Settles.count h hsts
        exact ih _ (h.settles hsts) (by omega)
    · intro hpos
      have hle := h.active_le
      have hfull : ¬ c.state.active < limits.maxActive := fun hlt => hfree ⟨hlt, hpos⟩
      omega

theorem Floor.admitWaiting (h : Floor limits c) :
    Floor limits (admitWaiting limits c) ∧ Busy limits (admitWaiting limits c) := by
  unfold Admission.admitWaiting
  constructor
  · exact (Floor.admitWaitingLoop (P := fun _ => True) (fun _ _ _ _ _ => trivial) _ c h trivial).1
  · exact Floor.admitWaitingLoop_busy _ c h (Nat.le_add_right _ _)

/-! ### Calls -/

/-- A request is decided at once. -/
theorem Floor.resolveNow (h : Floor limits c) (result : Decision)
    (hfree : result.isAdmitted = true → c.state.active < limits.maxActive) :
    Floor limits (Admission.resolveNow result
      (if result.isAdmitted = true then admitOne c else c)) := by
  have hnew : c.nextId ∉ c.resolvedIds := fun hmem => lt_irrefl _ (h.made _ hmem)
  have hsta : (Admission.resolveNow result (if result.isAdmitted = true then admitOne c else c)) =
      { (c.mapState fun s => { s with
          active := s.active + (if result.isAdmitted = true then 1 else 0) }).resolve c.nextId
            result with nextId := c.nextId + 1 } := by
    split_ifs <;> rfl
  rw [hsta]
  constructor
  · exact h.rotation.reorder (List.Perm.refl _)
  · show c.state.active + _ ≤ limits.maxActive
    have hle := h.active_le
    split_ifs with hadm
    · exact hfree hadm
    · exact hle
  · exact h.waiting_le
  · intro id w hw
    obtain ⟨hid, hlt⟩ := h.known id w hw
    exact ⟨hid, Nat.lt_succ_of_lt hlt⟩
  · intro w hw
    obtain ⟨hwtr, hfr⟩ := h.waiting w hw
    refine ⟨hwtr, fun hmem => ?_⟩
    rcases List.mem_cons.mp hmem with heq | hmem
    · have hlt := (h.known _ _ hwtr).2
      have heq' : w.id = c.nextId := heq
      omega
    · exact hfr hmem
  · intro id hid
    by_cases heq : id = c.nextId
    · left
      rw [heq]
      exact List.mem_cons_self
    · have hlt : id < c.nextId + 1 := hid
      rcases h.answered id (by omega) with hmem | hw
      · exact .inl (List.mem_cons_of_mem _ hmem)
      · exact .inr hw
  · intro id hid
    rcases List.mem_cons.mp hid with rfl | hid
    · exact Nat.lt_succ_self _
    · exact Nat.lt_succ_of_lt (h.made id hid)
  · exact List.nodup_cons.mpr ⟨hnew, h.once⟩
  · exact fun id hid => List.mem_cons_of_mem _ (h.taken id hid)
  · exact h.released_once
  · intro id hid
    obtain ⟨htkn, hgrt⟩ := h.released id hid
    refine ⟨htkn, ?_⟩
    show id ∈ ((c.mapState _).resolve c.nextId result).grants.map Prod.fst
    rw [grants_resolve]
    split_ifs
    · exact List.mem_cons_of_mem _ hgrt
    · exact hgrt
  · have hpermits := h.permits
    show c.state.active + _ + c.released.length =
      ((c.mapState _).resolve c.nextId result).grants.length
    rw [grants_resolve]
    split_ifs
    · rw [List.length_cons]
      omega
    · exact hpermits

/-- A request waits. -/
theorem Floor.enqueueRequest (h : Floor limits c) (hid : waiter.id = c.nextId)
    (hroom : c.state.waitingCount < limits.maxWaiting) :
    Floor limits (enqueueRequest waiter c) := by
  have hnew : ¬ Waiting c.state waiter := by
    intro hw
    have hlt := (h.known _ _ (h.waiting waiter hw).1).2
    omega
  constructor
  · exact h.rotation.enqueue hnew
  · show (enqueueWaiter waiter c.state).active ≤ limits.maxActive
    rw [enqueueWaiter_active]
    exact h.active_le
  · show (enqueueWaiter waiter c.state).waitingCount ≤ limits.maxWaiting
    rw [enqueueWaiter_count]
    omega
  · intro id w hw
    have hw' : Function.update c.waiters c.nextId (some waiter) id = some w := hw
    by_cases heq : id = c.nextId
    · rw [heq, Function.update_self] at hw'
      cases hw'
      exact ⟨hid.trans heq.symm, by rw [heq]; exact Nat.lt_succ_self _⟩
    · rw [Function.update_of_ne heq] at hw'
      obtain ⟨hw'', hlt⟩ := h.known id w hw'
      exact ⟨hw'', Nat.lt_succ_of_lt hlt⟩
  · intro w hw
    show Function.update c.waiters c.nextId (some waiter) w.id = some w ∧ _
    rcases (waiting_enqueue waiter w).mp hw with hold | rfl
    · obtain ⟨hwtr, hfr⟩ := h.waiting w hold
      have hlt := (h.known _ _ hwtr).2
      rw [Function.update_of_ne (by omega)]
      exact ⟨hwtr, hfr⟩
    · rw [hid, Function.update_self]
      exact ⟨rfl, fun hmem => lt_irrefl _ (h.made _ hmem)⟩
  · intro id hlt
    by_cases heq : id = c.nextId
    · exact .inr ⟨waiter, hid.trans heq.symm, (waiting_enqueue waiter waiter).mpr (.inr rfl)⟩
    · have hlt' : id < c.nextId + 1 := hlt
      rcases h.answered id (by omega) with hmem | ⟨w, hw, hwts⟩
      · exact .inl hmem
      · exact .inr ⟨w, hw, (waiting_enqueue waiter w).mpr (.inl hwts)⟩
  · exact fun id hmem => Nat.lt_succ_of_lt (h.made id hmem)
  · exact h.once
  · exact h.taken
  · exact h.released_once
  · exact h.released
  · show (enqueueWaiter waiter c.state).active + c.released.length = c.grants.length
    rw [enqueueWaiter_active]
    exact h.permits

variable {id : ℕ}

/-- A grant is given back. -/
theorem Floor.giveBack (h : Floor limits c) (htkn : id ∈ c.taken)
    (hgrt : id ∈ c.grants.map Prod.fst) (hheld : id ∉ c.released) : 0 < c.state.active ∧
      Floor limits { c with
        released := id :: c.released
        state := { c.state with active := c.state.active - 1 } } := by
  have hpermits := h.permits
  have hnd : (id :: c.released).Nodup := List.nodup_cons.mpr ⟨hheld, h.released_once⟩
  have hsubset : id :: c.released ⊆ c.grants.map Prod.fst := by
    intro j hj
    rcases List.mem_cons.mp hj with rfl | hj
    · exact hgrt
    · exact (h.released j hj).2
  have hlen := (List.subperm_of_subset hnd hsubset).length_le
  rw [List.length_cons, List.length_map] at hlen
  have hle := h.active_le
  refine ⟨by omega, ?_⟩
  constructor
  · exact h.rotation.reorder (List.Perm.refl _)
  · show c.state.active - 1 ≤ limits.maxActive
    omega
  · exact h.waiting_le
  · exact h.known
  · exact h.waiting
  · exact h.answered
  · exact h.made
  · exact h.once
  · exact h.taken
  · exact hnd
  · intro j hj
    rcases List.mem_cons.mp hj with rfl | hj
    · exact ⟨htkn, hgrt⟩
    · exact h.released j hj
  · show c.state.active - 1 + (c.released.length + 1) = c.grants.length
    omega

theorem Floor.take (h : Floor limits c) (id : ℕ) : Floor limits (take id c) := by
  unfold Admission.take
  split_ifs with htake
  · have hmem := (decision_isSome_iff id).mp htake.1
    exact { h with
      taken := by
        intro j hj
        rcases List.mem_cons.mp hj with rfl | hj
        · exact hmem
        · exact h.taken j hj
      released := fun j hj => ⟨List.mem_cons_of_mem _ (h.released j hj).1, (h.released j hj).2⟩ }
  · exact h

/-- What holds whenever a call returns. -/
structure Sound (limits : InferenceAdmissionLimits) (c : Controller) : Prop where
  floor : Floor limits c
  busy : Busy limits c

theorem Sound.settles (h : Sound limits c) (hsts : Settles limits c c')
    (hactv : c'.state.active = c.state.active) : Sound limits c' := by
  refine ⟨h.floor.settles hsts, fun hpos => ?_⟩
  have hcnt := hsts.count h.floor
  rw [hactv]
  exact h.busy (by omega)

theorem Sound.acquire (h : Sound limits c) (principal : Option String) (callerSignal : Option ℕ) :
    Sound limits (acquire limits principal callerSignal c) := by
  have hle := h.floor.active_le
  unfold Admission.acquire
  split_ifs with habt hfree hfull
  · have hfl := h.floor.resolveNow (.callerAborted 0) nofun
    exact ⟨hfl, h.busy⟩
  · have hfl := h.floor.resolveNow (.admitted 0) (fun _ => hfree.1)
    refine ⟨hfl, fun hpos => ?_⟩
    have hcnt : 0 < c.state.waitingCount := hpos
    omega
  · have hfl := h.floor.resolveNow (.localOverload .queueLimit 0) nofun
    exact ⟨hfl, h.busy⟩
  · refine ⟨h.floor.enqueueRequest rfl (not_le.mp hfull), fun _ => ?_⟩
    show (enqueueWaiter _ c.state).active = limits.maxActive
    rw [enqueueWaiter_active]
    by_cases hcnt : c.state.waitingCount = 0
    · have hnot : ¬ c.state.active < limits.maxActive := fun hlt => hfree ⟨hlt, hcnt⟩
      omega
    · exact h.busy (Nat.pos_of_ne_zero hcnt)

theorem Floor.waiting_of_fresh (h : Floor limits c) (hwtr : c.waiters id = some waiter)
    (hfr : waiter.id ∉ c.resolvedIds) : Waiting c.state waiter := by
  obtain ⟨hid, hlt⟩ := h.known id waiter hwtr
  rcases h.answered id hlt with hmem | ⟨w, hw, hwts⟩
  · exact absurd (hid ▸ hmem) hfr
  · have heq : some w = some waiter := by
      rw [← (h.waiting w hwts).1, hw, hwtr]
    rw [← Option.some.inj heq]
    exact hwts

section

variable (h : Sound limits c)

include h

theorem Sound.settleWaiter (hwtr : c.waiters id = some waiter)
    (href : result.isAdmitted = false) :
    Sound limits (settleWaiter waiter result c) := by
  by_cases hfr : waiter.id ∈ c.resolvedIds
  · have hset : waiter.id ∈ c.resolved.map Prod.fst := hfr
    unfold Admission.settleWaiter
    rw [if_pos hset]
    exact h
  · have hsts := h.floor.refuses (h.floor.waiting_of_fresh hwtr hfr) href
    refine h.settles hsts ?_
    rw [settleWaiter_fresh hfr]
    exact detachWaiter_active c.state

theorem Sound.onWaitAbort (hwtr : c.waiters id = some waiter) :
    Sound limits (onWaitAbort waiter c) := by
  unfold Admission.onWaitAbort
  refine h.settleWaiter hwtr ?_
  split_ifs <;> rfl

theorem Sound.waitTimeout (id : ℕ) : Sound limits (waitTimeout id c) := by
  unfold Admission.waitTimeout
  split
  · exact h
  · next waiter hwtr => exact h.onWaitAbort hwtr

theorem Sound.abortWaiter (id : ℕ) : Sound limits (abortWaiter id c) := by
  unfold Admission.abortWaiter
  split
  · exact h
  · next waiter hwtr => exact h.settleWaiter hwtr rfl

theorem Sound.take (id : ℕ) : Sound limits (take id c) := by
  refine ⟨h.floor.take id, ?_⟩
  have hbusy := h.busy
  unfold Admission.take
  split_ifs
  · exact hbusy
  · exact hbusy

end

theorem settleWaiter_waiters (waiter : Waiter) (result : Decision) (c : Controller) :
    (settleWaiter waiter result c).waiters = c.waiters := by
  unfold settleWaiter
  split_ifs <;> rfl

theorem Sound.runListeners : ∀ (waiters : List Waiter) (c : Controller), Sound limits c →
    (∀ w ∈ waiters, ∃ id, c.waiters id = some w) →
      Sound limits (waiters.foldl (fun c waiter => Admission.onWaitAbort waiter c) c) := by
  intro waiters
  induction waiters with
  | nil => exact fun c h _ => h
  | cons waiter _ ih =>
    intro c h hkn
    obtain ⟨id, hwtr⟩ := hkn waiter List.mem_cons_self
    refine ih _ (h.onWaitAbort hwtr) fun w hw => ?_
    obtain ⟨id', hw'⟩ := hkn w (List.mem_cons_of_mem _ hw)
    refine ⟨id', ?_⟩
    unfold Admission.onWaitAbort
    rw [settleWaiter_waiters]
    exact hw'

theorem mem_listeners : waiter ∈ listeners σ c ↔
      (∃ id < c.nextId, c.waiters id = some waiter) ∧ waiter.callerSignal = some σ := by
  unfold Admission.listeners
  rw [List.mem_filter, List.mem_filterMap, decide_eq_true_iff]
  simp only [List.mem_range]

section

variable (h : Sound limits c)

include h

theorem Sound.abortSignal (σ : ℕ) : Sound limits (abortSignal σ c) := by
  unfold Admission.abortSignal
  have habt : Sound limits { c with aborted := σ :: c.aborted } :=
    ⟨{ h.floor with }, h.busy⟩
  refine Sound.runListeners _ _ habt fun w hw => ?_
  obtain ⟨⟨id, -, hwtr⟩, -⟩ := mem_listeners.mp hw
  exact ⟨id, hwtr⟩

theorem Sound.releaseGrant (htkn : id ∈ c.taken) (hgrt : id ∈ c.grants.map Prod.fst)
    (hheld : id ∉ c.released) : Sound limits (releaseGrant limits id c) := by
  obtain ⟨-, hfl⟩ := h.floor.giveBack htkn hgrt hheld
  obtain ⟨hfl', hbusy⟩ := hfl.admitWaiting
  exact ⟨hfl', hbusy⟩

theorem Sound.release (id : ℕ) : Sound limits (release limits id c) := by
  unfold Admission.release
  split_ifs with hheld
  · exact h.releaseGrant hheld.1 ((mem_grants_iff h.floor.once id).mpr hheld.2.1) hheld.2.2
  · exact h

theorem Sound.abandon (id : ℕ) : Sound limits (abandon limits id c) := by
  unfold Admission.abandon
  split_ifs with htkn hgrt
  · exact h
  · have hmem := (mem_grants_iff h.floor.once id).mpr hgrt
    have hrsv : id ∈ c.resolvedIds := by
      obtain ⟨r, hr, hid⟩ := List.mem_map.mp hmem
      exact List.mem_map.mpr ⟨r, (List.mem_filter.mp hr).1, hid⟩
    have hheld : id ∉ c.released := fun hrld => htkn (h.floor.released id hrld).1
    have hsnd : Sound limits { c with taken := id :: c.taken } := by
      refine ⟨?_, h.busy⟩
      exact { h.floor with
        taken := by
          intro j hj
          rcases List.mem_cons.mp hj with rfl | hj
          · exact hrsv
          · exact h.floor.taken j hj
        released := fun j hj =>
          ⟨List.mem_cons_of_mem _ (h.floor.released j hj).1, (h.floor.released j hj).2⟩ }
    exact hsnd.releaseGrant List.mem_cons_self hmem hheld
  · exact (h.abortWaiter id).take id

theorem Sound.step (event : AdmissionEvent) : Sound limits (c.step limits event) := by
  cases event with
  | acquire principal callerSignal => exact h.acquire principal callerSignal
  | poll id =>
    unfold Controller.step
    refine Sound.take ?_ id
    split_ifs
    · exact h.waitTimeout id
    · exact h
  | release id => exact h.release id
  | drop id => exact h.abandon id
  | abort σ => exact h.abortSignal σ
  | advance => exact ⟨{ h.floor with }, h.busy⟩

end

theorem sound_create : Sound limits createInferenceAdmissionController :=
  ⟨floor_create, fun hpos => absurd hpos (lt_irrefl 0)⟩

theorem sound_run (limits : InferenceAdmissionLimits) (events : List AdmissionEvent) :
    Sound limits (run limits events) := by
  unfold Controller.run
  induction events using List.reverseRec with
  | nil => exact sound_create
  | append_singleton _ event ih =>
    rw [List.foldl_append]
    exact ih.step event

end UbqGateway.Admission
