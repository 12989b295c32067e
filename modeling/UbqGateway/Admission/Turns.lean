import UbqGateway.Admission.InferenceAdmission

/-!
# The rotation of turns

A principal has a turn exactly while it has waiters (`Rotation`).  Waiters enter and leave in two
ways only, and an iteration of `admitWaiting` leaves the queues as `detachWaiter` does, with the
turns in another order at most (`Rotation.refuse`, `Rotation.grant`).
-/

namespace UbqGateway.Admission

open AdmissionState

/-- Every queue is that of a principal with one turn, and the count is that of all waiters. -/
structure Rotation (s : AdmissionState) : Prop where
  nodup : s.turnOrder.Nodup
  turn : ∀ p, p ∈ s.turnOrder ↔ s.waitingByPrincipal.lookup p ≠ none
  nonempty : ∀ p queue, s.waitingByPrincipal.lookup p = some queue → queue ≠ []
  principal : ∀ p queue, s.waitingByPrincipal.lookup p = some queue → ∀ w ∈ queue, w.principal = p
  distinct : ∀ p queue, s.waitingByPrincipal.lookup p = some queue → queue.Nodup
  count : s.waitingCount = s.waitingByPrincipal.sum fun _ queue => queue.length

/-- `waiter` is in the queue of its principal. -/
def Waiting (s : AdmissionState) (waiter : Waiter) : Prop :=
  ∃ queue, s.waitingByPrincipal.lookup waiter.principal = some queue ∧ waiter ∈ queue

theorem rotation_empty : Rotation .empty where
  nodup := List.nodup_nil
  turn p := by simp [empty]
  nonempty p queue h := by simp [empty] at h
  principal p queue h := by simp [empty] at h
  distinct p queue h := by simp [empty] at h
  count := rfl

variable (waiter : Waiter)

theorem not_waiting_empty : ¬ Waiting .empty waiter := by
  rintro ⟨queue, hqu, -⟩
  simp [empty] at hqu

variable {s : AdmissionState} {waiter}

theorem waiting_congr (h : s'.waitingByPrincipal = s.waitingByPrincipal) (w : Waiter) :
    Waiting s' w ↔ Waiting s w := by
  unfold Waiting
  rw [h]

variable {turnOrder : List (Option String)}

theorem Rotation.reorder {active : ℕ} (h : Rotation s) (hperm : turnOrder.Perm s.turnOrder) :
    Rotation { s with active := active, turnOrder := turnOrder } where
  nodup := hperm.nodup_iff.mpr h.nodup
  turn p := hperm.mem_iff.trans (h.turn p)
  nonempty := h.nonempty
  principal := h.principal
  distinct := h.distinct
  count := h.count

theorem Rotation.turns_nodup (h : Rotation s) (htrn : s.turnOrder = p :: turnOrder) :
    p ∉ turnOrder ∧ turnOrder.Nodup := by
  have hnd := h.nodup
  rw [htrn] at hnd
  exact List.nodup_cons.mp hnd

theorem Rotation.exists_turn (h : Rotation s) (hcnt : 0 < s.waitingCount) : s.turnOrder ≠ [] := by
  intro hnil
  have hno : ∀ p, s.waitingByPrincipal.lookup p = none := by
    intro p
    by_contra hsome
    have hmem := (h.turn p).mpr hsome
    rw [hnil] at hmem
    exact List.not_mem_nil hmem
  have hents := (Record.entries_eq_nil_iff s.waitingByPrincipal).mpr hno
  have hzero : s.waitingCount = 0 := by
    rw [h.count]
    simp [Record.sum, hents]
  omega

theorem Rotation.count_pos (h : Rotation s) (hw : Waiting s waiter) : 0 < s.waitingCount := by
  obtain ⟨queue, hqu, hmem⟩ := hw
  have hsum := Record.sum_erase (fun _ (queue : List Waiter) => queue.length) hqu
  have hlen : 0 < queue.length := List.length_pos_of_mem hmem
  have hcnt := h.count
  omega

theorem Rotation.head (h : Rotation s) (hp : p ∈ s.turnOrder) :
    ∃ w, (s.waitingByPrincipal.lookup p).bind List.head? = some w ∧ w.principal = p ∧
      Waiting s w := by
  obtain ⟨queue, hqu⟩ := Option.ne_none_iff_exists'.mp ((h.turn p).mp hp)
  cases hlist : queue with
  | nil => exact absurd hlist (h.nonempty p queue hqu)
  | cons w rest =>
    have hmem : w ∈ queue := by
      rw [hlist]
      exact List.mem_cons_self
    have hprc := h.principal p queue hqu w hmem
    refine ⟨w, ?_, hprc, queue, ?_, hmem⟩
    · rw [hqu, hlist]
      rfl
    · rw [hprc]
      exact hqu

/-! ### Another queue -/

/-- A principal gets another queue, and its turn if it had none. -/
theorem Rotation.withQueue (h : Rotation s) (hnd : s'.turnOrder.Nodup)
    (htrn : ∀ q, q ∈ s'.turnOrder ↔ q ∈ s.turnOrder ∨ q = p)
    (hqus : s'.waitingByPrincipal = s.waitingByPrincipal.insert p queue) (hne : queue ≠ [])
    (hprc : ∀ w ∈ queue, w.principal = p) (hdist : queue.Nodup)
    (hcnt : s'.waitingCount =
      (s.waitingByPrincipal.insert p queue).sum fun _ queue => queue.length) :
    Rotation s' := by
  have hlk : ∀ q, s'.waitingByPrincipal.lookup q =
      if q = p then some queue else s.waitingByPrincipal.lookup q := by
    rw [hqus]
    exact s.waitingByPrincipal.lookup_insert p queue
  have hold : ∀ q found, s'.waitingByPrincipal.lookup q = some found →
      q = p ∧ found = queue ∨ s.waitingByPrincipal.lookup q = some found := by
    intro q found hfd
    rw [hlk] at hfd
    split_ifs at hfd with hp
    · exact .inl ⟨hp, (Option.some.inj hfd).symm⟩
    · exact .inr hfd
  constructor
  · exact hnd
  · intro q
    rw [htrn, h.turn, hlk]
    split_ifs with hp <;> simp [hp]
  · intro q found hfd
    rcases hold q found hfd with ⟨-, rfl⟩ | hfd
    · exact hne
    · exact h.nonempty q found hfd
  · intro q found hfd
    rcases hold q found hfd with ⟨rfl, rfl⟩ | hfd
    · exact hprc
    · exact h.principal q found hfd
  · intro q found hfd
    rcases hold q found hfd with ⟨-, rfl⟩ | hfd
    · exact hdist
    · exact h.distinct q found hfd
  · rw [hcnt, hqus]

theorem Rotation.turn_of_queue (h : Rotation s) (hqu : s.waitingByPrincipal.lookup p = some queue)
    (q : Option String) : q ∈ s.turnOrder ↔ q ∈ s.turnOrder ∨ q = p := by
  refine ⟨.inl, fun hq => hq.elim id ?_⟩
  rintro rfl
  exact (h.turn q).mpr (hqu ▸ Option.some_ne_none queue)

theorem waiting_insert (hqus : s'.waitingByPrincipal = s.waitingByPrincipal.insert p queue)
    (w : Waiter) : Waiting s' w ↔ if w.principal = p then w ∈ queue else Waiting s w := by
  unfold Waiting
  rw [hqus, s.waitingByPrincipal.lookup_insert]
  split_ifs <;> simp

/-! ### A waiter leaves -/

section

variable (hqu : s.waitingByPrincipal.lookup waiter.principal = some queue) (hmem : waiter ∈ queue)

include hqu hmem

theorem detachWaiter_last (hlast : queue.erase waiter = []) : detachWaiter waiter s =
      { s with
        waitingCount := s.waitingCount - 1
        waitingByPrincipal := s.waitingByPrincipal.erase waiter.principal
        turnOrder := s.turnOrder.erase waiter.principal } := by
  unfold detachWaiter
  rw [hqu]
  dsimp only
  rw [if_neg (not_not.mpr hmem), if_neg (by rw [hlast]; exact lt_irrefl 0)]

theorem detachWaiter_rest (hrest : queue.erase waiter ≠ []) : detachWaiter waiter s =
      { s with
        waitingCount := s.waitingCount - 1
        waitingByPrincipal :=
          s.waitingByPrincipal.insert waiter.principal (queue.erase waiter) } := by
  unfold detachWaiter
  rw [hqu]
  dsimp only
  rw [if_neg (not_not.mpr hmem), if_pos (List.length_pos_iff.mpr hrest)]

end

section

variable (h : Rotation s) (hw : Waiting s waiter)

include h hw

/-- A waiter leaves. -/
theorem Rotation.detach : Rotation (detachWaiter waiter s) := by
  obtain ⟨queue, hqu, hmem⟩ := hw
  have hlen : (queue.erase waiter).length = queue.length - 1 := List.length_erase_of_mem hmem
  have hpos : 0 < queue.length := List.length_pos_of_mem hmem
  have hcnt := h.count
  by_cases hlast : queue.erase waiter = []
  · rw [detachWaiter_last hqu hmem hlast]
    have hzero : (queue.erase waiter).length = 0 := by rw [hlast]; rfl
    have hlk : ∀ p, (s.waitingByPrincipal.erase waiter.principal).lookup p =
        if p = waiter.principal then none else s.waitingByPrincipal.lookup p :=
      s.waitingByPrincipal.lookup_erase waiter.principal
    have hold : ∀ p q, (s.waitingByPrincipal.erase waiter.principal).lookup p = some q →
        s.waitingByPrincipal.lookup p = some q := by
      intro p q hq
      rw [hlk] at hq
      split_ifs at hq
      exact hq
    constructor
    · exact h.nodup.erase waiter.principal
    · intro p
      show p ∈ s.turnOrder.erase waiter.principal ↔ _
      rw [h.nodup.mem_erase_iff, h.turn, hlk]
      by_cases hp : p = waiter.principal
      · simp [hp]
      · simp [hp]
    · exact fun p q hq => h.nonempty p q (hold p q hq)
    · exact fun p q hq => h.principal p q (hold p q hq)
    · exact fun p q hq => h.distinct p q (hold p q hq)
    · have hsum := Record.sum_erase (fun _ (queue : List Waiter) => queue.length) hqu
      show s.waitingCount - 1 =
        (s.waitingByPrincipal.erase waiter.principal).sum fun _ queue => queue.length
      omega
  · rw [detachWaiter_rest hqu hmem hlast]
    refine h.withQueue h.nodup (h.turn_of_queue hqu) rfl hlast (fun w hwq => ?_)
      ((h.distinct _ queue hqu).erase waiter) ?_
    · exact h.principal _ queue hqu w (List.mem_of_mem_erase hwq)
    · have hsum := Record.sum_insert_old (fun _ (queue : List Waiter) => queue.length) hqu
        (queue.erase waiter)
      show s.waitingCount - 1 = _
      omega

theorem Rotation.detach_count : (detachWaiter waiter s).waitingCount + 1 = s.waitingCount := by
  have hpos := h.count_pos hw
  obtain ⟨queue, hqu, hmem⟩ := hw
  by_cases hlast : queue.erase waiter = []
  · rw [detachWaiter_last hqu hmem hlast]
    show s.waitingCount - 1 + 1 = s.waitingCount
    omega
  · rw [detachWaiter_rest hqu hmem hlast]
    show s.waitingCount - 1 + 1 = s.waitingCount
    omega

theorem Rotation.waiting_detach (w : Waiter) :
    Waiting (detachWaiter waiter s) w ↔ Waiting s w ∧ w ≠ waiter := by
  obtain ⟨queue, hqu, hmem⟩ := hw
  have hnd := h.distinct _ queue hqu
  by_cases hlast : queue.erase waiter = []
  · rw [detachWaiter_last hqu hmem hlast]
    unfold Waiting
    dsimp only
    rw [s.waitingByPrincipal.lookup_erase]
    split_ifs with hp
    · rw [hp, hqu]
      have hno : ∀ v ∈ queue, v = waiter := by
        intro v hv
        by_contra hne
        have hv' := (hnd.mem_erase_iff (b := waiter)).mpr ⟨hne, hv⟩
        rw [hlast] at hv'
        exact List.not_mem_nil hv'
      constructor
      · rintro ⟨q, hq, -⟩
        cases hq
      · rintro ⟨⟨q, hq, hwq⟩, hne⟩
        cases hq
        exact absurd (hno w hwq) hne
    · refine ⟨fun hwq => ⟨hwq, ?_⟩, fun hwq => hwq.1⟩
      rintro rfl
      exact hp rfl
  · rw [detachWaiter_rest hqu hmem hlast, waiting_insert rfl]
    split_ifs with hp
    · rw [Waiting, hp, hqu, hnd.mem_erase_iff]
      simp [and_comm]
    · refine ⟨fun hwq => ⟨hwq, ?_⟩, fun hwq => hwq.1⟩
      rintro rfl
      exact hp rfl

end

@[simp]
theorem detachWaiter_active (s : AdmissionState) : (detachWaiter waiter s).active = s.active := by
  unfold detachWaiter
  split
  · rfl
  · split_ifs <;> rfl

/-! ### A waiter enters -/

theorem enqueueWaiter_new (hno : s.waitingByPrincipal.lookup waiter.principal = none) :
    enqueueWaiter waiter s =
      { s with
        waitingByPrincipal := s.waitingByPrincipal.insert waiter.principal [waiter]
        turnOrder := s.turnOrder ++ [waiter.principal]
        waitingCount := s.waitingCount + 1 } := by
  unfold enqueueWaiter
  rw [hno]

theorem enqueueWaiter_old (hqu : s.waitingByPrincipal.lookup waiter.principal = some queue) :
    enqueueWaiter waiter s =
      { s with
        waitingByPrincipal := s.waitingByPrincipal.insert waiter.principal (queue ++ [waiter])
        waitingCount := s.waitingCount + 1 } := by
  unfold enqueueWaiter
  rw [hqu]

/-- A waiter enters. -/
theorem Rotation.enqueue (h : Rotation s) (hw : ¬ Waiting s waiter) :
    Rotation (enqueueWaiter waiter s) := by
  have hcnt := h.count
  cases hqu : s.waitingByPrincipal.lookup waiter.principal with
  | none =>
    rw [enqueueWaiter_new hqu]
    refine h.withQueue ?_ (fun q => ?_) rfl (List.cons_ne_nil _ _) (fun w hwq => ?_)
      (List.nodup_singleton _) ?_
    · refine List.nodup_append.mpr ⟨h.nodup, List.nodup_singleton _, ?_⟩
      intro a ha b hb hab
      rw [List.mem_singleton.mp hb] at hab
      exact (h.turn waiter.principal).mp (hab ▸ ha) hqu
    · rw [List.mem_append, List.mem_singleton]
    · rw [List.mem_singleton.mp hwq]
    · have hsum := Record.sum_insert_new (fun _ (queue : List Waiter) => queue.length) hqu [waiter]
      show s.waitingCount + 1 = _
      rw [hsum, hcnt]
      rfl
  | some queue =>
    rw [enqueueWaiter_old hqu]
    have hnew : waiter ∉ queue := fun hmem => hw ⟨queue, hqu, hmem⟩
    refine h.withQueue h.nodup (h.turn_of_queue hqu) rfl (by simp) (fun w hwq => ?_) ?_ ?_
    · rw [List.mem_append, List.mem_singleton] at hwq
      rcases hwq with hwq | rfl
      · exact h.principal _ queue hqu w hwq
      · rfl
    · refine List.nodup_append.mpr ⟨h.distinct _ queue hqu, List.nodup_singleton _, ?_⟩
      intro a ha b hb hab
      rw [List.mem_singleton.mp hb] at hab
      exact hnew (hab ▸ ha)
    · have hsum := Record.sum_insert_old (fun _ (queue : List Waiter) => queue.length) hqu
        (queue ++ [waiter])
      rw [List.length_append, List.length_singleton] at hsum
      show s.waitingCount + 1 = _
      omega

theorem waiting_enqueue (waiter w : Waiter) :
    Waiting (enqueueWaiter waiter s) w ↔ Waiting s w ∨ w = waiter := by
  obtain ⟨queue, hqus, hin⟩ : ∃ queue, (enqueueWaiter waiter s).waitingByPrincipal =
      s.waitingByPrincipal.insert waiter.principal queue ∧
        ∀ w, w ∈ queue ↔ (∃ queue', s.waitingByPrincipal.lookup waiter.principal = some queue' ∧
          w ∈ queue') ∨ w = waiter := by
    cases hqu : s.waitingByPrincipal.lookup waiter.principal with
    | none => exact ⟨_, by rw [enqueueWaiter_new hqu], by simp⟩
    | some queue => exact ⟨_, by rw [enqueueWaiter_old hqu], by simp⟩
  rw [waiting_insert hqus]
  split_ifs with hp
  · rw [hin, Waiting, hp]
  · exact ⟨.inl, fun hw => hw.elim id fun heq => absurd (congrArg Waiter.principal heq) hp⟩

@[simp]
theorem enqueueWaiter_active (s : AdmissionState) : (enqueueWaiter waiter s).active = s.active := by
  unfold enqueueWaiter
  split <;> rfl

@[simp]
theorem enqueueWaiter_count (s : AdmissionState) :
    (enqueueWaiter waiter s).waitingCount = s.waitingCount + 1 := by
  unfold enqueueWaiter
  split <;> rfl

/-! ### An iteration -/

section

variable (h : Rotation s) (hw : Waiting s waiter)
  (htrn : s.turnOrder = waiter.principal :: turnOrder)

include h hw htrn

theorem Rotation.refuse :
    unshiftTurn waiter.principal (detachWaiter waiter (s.withTurns turnOrder)) =
      detachWaiter waiter s := by
  obtain ⟨queue, hqu, hmem⟩ := hw
  have hnotin := (h.turns_nodup htrn).1
  by_cases hlast : queue.erase waiter = []
  · rw [detachWaiter_last (s := s.withTurns turnOrder) hqu hmem hlast,
      detachWaiter_last hqu hmem hlast, htrn, List.erase_cons_head]
    unfold unshiftTurn
    rw [if_pos (by simp [withTurns, Record.lookup_erase])]
    show AdmissionState.mk _ _ _ (turnOrder.erase waiter.principal) = _
    rw [List.erase_of_not_mem hnotin]
    rfl
  · rw [detachWaiter_rest (s := s.withTurns turnOrder) hqu hmem hlast,
      detachWaiter_rest hqu hmem hlast, htrn]
    unfold unshiftTurn
    rw [if_neg (by simp)]
    rfl

theorem Rotation.grant : ∃ turns, turns.Perm (detachWaiter waiter s).turnOrder ∧
      pushTurn waiter.principal (detachWaiter waiter (s.withTurns turnOrder).grant) =
        { detachWaiter waiter s with active := s.active + 1, turnOrder := turns } := by
  obtain ⟨queue, hqu, hmem⟩ := hw
  have hnotin := (h.turns_nodup htrn).1
  by_cases hlast : queue.erase waiter = []
  · rw [detachWaiter_last (s := (s.withTurns turnOrder).grant) hqu
      hmem hlast, detachWaiter_last hqu hmem hlast, htrn]
    refine ⟨turnOrder, ?_, ?_⟩
    · rw [List.erase_cons_head]
    · unfold pushTurn
      rw [if_pos (by simp [withTurns, Record.lookup_erase])]
      show AdmissionState.mk _ _ _ (turnOrder.erase waiter.principal) = _
      rw [List.erase_of_not_mem hnotin]
      rfl
  · rw [detachWaiter_rest (s := (s.withTurns turnOrder).grant) hqu
      hmem hlast, detachWaiter_rest hqu hmem hlast]
    refine ⟨turnOrder ++ [waiter.principal], ?_, ?_⟩
    · rw [htrn]
      exact List.perm_append_singleton _ _
    · unfold pushTurn
      rw [if_neg (by simp)]
      rfl

end

end UbqGateway.Admission
