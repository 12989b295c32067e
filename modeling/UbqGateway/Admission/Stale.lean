import UbqGateway.Admission.Turns
import UbqGateway.Admission.GatewayAdmission

/-!
# Waiters whose caller has aborted

The gateway's controller keeps such a waiter in its queue until its acquisition is polled, or until
its turn comes.  `AdmissionState.purge` is the state without them: it does not change when one of
them leaves (`Rotation.purge_detach`), it is the state itself when there are none
(`Rotation.purge_eq_self`), and the others leave it as they leave the state (`purge_detachWaiter`).
-/

namespace UbqGateway.Admission

/-- The waiters of a queue whose callers have not aborted, if there are any. -/
def liveQueue (signals : List ℕ) (queue : List Waiter) : Option (List Waiter) :=
  if queue.filter (fun w => !isAborted signals w.callerSignal) = [] then none
  else some (queue.filter fun w => !isAborted signals w.callerSignal)

/-- The state without the waiters whose callers have aborted. -/
def AdmissionState.purge (signals : List ℕ) (s : AdmissionState) : AdmissionState where
  active := s.active
  waitingCount := (s.waitingByPrincipal.filterMap (liveQueue signals)).sum fun _ queue =>
    queue.length
  waitingByPrincipal := s.waitingByPrincipal.filterMap (liveQueue signals)
  turnOrder := s.turnOrder.filter fun p =>
    ((s.waitingByPrincipal.filterMap (liveQueue signals)).lookup p).isSome

theorem Rotation.purge_eq_self (h : Rotation s)
    (hlive : ∀ w, Waiting s w → isAborted signals w.callerSignal = false) :
    s.purge signals = s := by
  have hqs : s.waitingByPrincipal.filterMap (liveQueue signals) = s.waitingByPrincipal := by
    refine Record.filterMap_eq_self fun p queue hqu => ?_
    have hflt : queue.filter (fun w => !isAborted signals w.callerSignal) = queue := by
      refine List.filter_eq_self.mpr fun w hw => ?_
      have hp := h.principal p queue hqu w hw
      rw [hlive w ⟨queue, by rw [hp]; exact hqu, hw⟩]
      rfl
    unfold liveQueue
    rw [hflt, if_neg (h.nonempty p queue hqu)]
  have htrn : s.turnOrder.filter (fun p => (s.waitingByPrincipal.lookup p).isSome) =
      s.turnOrder := by
    refine List.filter_eq_self.mpr fun p hp => ?_
    exact Option.isSome_iff_ne_none.mpr ((h.turn p).mp hp)
  unfold AdmissionState.purge
  rw [hqs, htrn, ← h.count]

theorem liveQueue_erase (hstl : isAborted signals waiter.callerSignal = true) :
    liveQueue signals (queue.erase waiter) = liveQueue signals queue := by
  have hflt : (queue.erase waiter).filter (fun w => !isAborted signals w.callerSignal) =
      queue.filter fun w => !isAborted signals w.callerSignal := by
    induction queue with
    | nil => rfl
    | cons w _ ih =>
      rw [List.erase_cons]
      by_cases heq : w = waiter
      · simp [heq, hstl]
      · have hbeq : (w == waiter) = false := beq_eq_false_iff_ne.mpr heq
        rw [hbeq, if_neg Bool.false_ne_true, List.filter_cons, List.filter_cons, ih]
  unfold liveQueue
  rw [hflt]

/-- Taking a stale waiter out changes nothing of what is purged of stale ones. -/
theorem Rotation.purge_detach (h : Rotation s) (hw : Waiting s waiter)
    (hstl : isAborted signals waiter.callerSignal = true) :
    (detachWaiter waiter s).purge signals = s.purge signals := by
  obtain ⟨queue, hqu, hmem⟩ := hw
  have hlive : liveQueue signals (queue.erase waiter) = liveQueue signals queue :=
    liveQueue_erase hstl
  by_cases hlast : queue.erase waiter = []
  · have hno : liveQueue signals queue = none := by
      rw [← hlive, hlast]
      rfl
    have hqs := Record.filterMap_erase_of_none hqu hno
    rw [detachWaiter_last hqu hmem hlast]
    unfold AdmissionState.purge
    dsimp only
    rw [hqs, h.nodup.erase_eq_filter, List.filter_filter]
    have htrn : s.turnOrder.filter (fun p =>
        ((s.waitingByPrincipal.filterMap (liveQueue signals)).lookup p).isSome &&
          (p != waiter.principal)) =
        s.turnOrder.filter fun p =>
          ((s.waitingByPrincipal.filterMap (liveQueue signals)).lookup p).isSome := by
      refine List.filter_congr fun p _ => ?_
      by_cases hp : p = waiter.principal
      · simp [hp, hqu, hno]
      · simp [hp]
    rw [htrn]
  · have hqs := Record.filterMap_insert_of_eq hqu hlive
    rw [detachWaiter_rest hqu hmem hlast]
    unfold AdmissionState.purge
    dsimp only
    rw [hqs]

/-! ### The other waiters -/

section Live

variable {s : AdmissionState} {waiter : Waiter} {signals : List ℕ}
  (hlive : isAborted signals waiter.callerSignal = false)

theorem mem_liveQueue (hqu : liveQueue signals queue = some live) :
    waiter ∈ live ↔ waiter ∈ queue ∧ isAborted signals waiter.callerSignal = false := by
  unfold liveQueue at hqu
  split_ifs at hqu
  rw [← Option.some.inj hqu, List.mem_filter, Bool.not_eq_true']

/-- Who waits in the purged state is who waits, and whose caller has not aborted. -/
theorem waiting_purge (w : Waiter) : Waiting (s.purge signals) w ↔
    Waiting s w ∧ isAborted signals w.callerSignal = false := by
  have hlk : (s.purge signals).waitingByPrincipal.lookup w.principal =
      (s.waitingByPrincipal.lookup w.principal).bind (liveQueue signals) :=
    Record.lookup_filterMap _ _ _
  unfold Waiting
  rw [hlk]
  constructor
  · rintro ⟨live, hlive, hw⟩
    obtain ⟨queue, hqu, hpurged⟩ := Option.bind_eq_some_iff.mp hlive
    obtain ⟨hmem, hsig⟩ := (mem_liveQueue hpurged).mp hw
    exact ⟨⟨queue, hqu, hmem⟩, hsig⟩
  · rintro ⟨⟨queue, hqu, hmem⟩, hsig⟩
    have hne : liveQueue signals queue ≠ none := by
      intro hno
      unfold liveQueue at hno
      split_ifs at hno with hnil
      exact List.filter_eq_nil_iff.mp hnil w hmem (by rw [hsig]; rfl)
    obtain ⟨live, hlive⟩ := Option.ne_none_iff_exists'.mp hne
    exact ⟨live, by rw [hqu]; exact hlive, (mem_liveQueue hlive).mpr ⟨hmem, hsig⟩⟩

include hlive

theorem liveQueue_of_mem (hmem : waiter ∈ queue) : ∃ live,
    liveQueue signals queue = some live ∧ waiter ∈ live ∧
      liveQueue signals (queue.erase waiter) =
        if live.erase waiter = [] then none else some (live.erase waiter) := by
  have hmem' : waiter ∈ queue.filter fun w => !isAborted signals w.callerSignal :=
    List.mem_filter.mpr ⟨hmem, by rw [hlive]; rfl⟩
  refine ⟨_, if_neg (List.ne_nil_of_mem hmem'), hmem', ?_⟩
  unfold liveQueue
  rw [← List.erase_filter]

theorem purge_head (hhead : (s.waitingByPrincipal.lookup p).bind List.head? = some waiter) :
    ((s.purge signals).waitingByPrincipal.lookup p).bind List.head? = some waiter := by
  obtain ⟨queue, hqu, hfst⟩ := Option.bind_eq_some_iff.mp hhead
  have hlk : (s.purge signals).waitingByPrincipal.lookup p = liveQueue signals queue := by
    show (s.waitingByPrincipal.filterMap (liveQueue signals)).lookup p = _
    rw [Record.lookup_filterMap, hqu]
    rfl
  obtain ⟨rest, rfl⟩ := List.head?_eq_some_iff.mp hfst
  rw [hlk]
  unfold liveQueue
  rw [List.filter_cons, hlive]
  rfl

/-- A waiter whose caller has not aborted leaves the purged state as it leaves the state. -/
theorem purge_detachWaiter (hnd : s.turnOrder.Nodup) (hw : Waiting s waiter) :
    (detachWaiter waiter s).purge signals = detachWaiter waiter (s.purge signals) := by
  obtain ⟨queue, hqu, hmem⟩ := hw
  obtain ⟨live, hold, hmem', hnew⟩ := liveQueue_of_mem hlive hmem
  have hlk : (s.purge signals).waitingByPrincipal.lookup waiter.principal = some live := by
    show (s.waitingByPrincipal.filterMap (liveQueue signals)).lookup waiter.principal = _
    rw [Record.lookup_filterMap, hqu]
    exact hold
  have hlk' : (s.waitingByPrincipal.filterMap (liveQueue signals)).lookup waiter.principal =
      some live := hlk
  have hlen : (live.erase waiter).length + 1 = live.length := by
    have hpos := List.length_pos_of_mem hmem'
    rw [List.length_erase_of_mem hmem']
    omega
  by_cases hlast : live.erase waiter = []
  · -- the last live waiter of its principal, with others of the queue left or not
    rw [if_pos hlast] at hnew
    rw [detachWaiter_last hlk hmem' hlast]
    have hsum := Record.sum_erase (fun _ (queue : List Waiter) => queue.length) hlk'
    have hone : live.length = 1 := by
      rw [← hlen, hlast]
      rfl
    have hcnt : ((s.waitingByPrincipal.filterMap (liveQueue signals)).erase
        waiter.principal).sum (fun _ queue => queue.length) =
        (s.waitingByPrincipal.filterMap (liveQueue signals)).sum (fun _ queue =>
          queue.length) - 1 := by
      omega
    have htrn : s.turnOrder.filter (fun p =>
        (((s.waitingByPrincipal.filterMap (liveQueue signals)).erase
          waiter.principal).lookup p).isSome) =
        (s.turnOrder.filter fun p =>
          ((s.waitingByPrincipal.filterMap (liveQueue signals)).lookup p).isSome).erase
            waiter.principal := by
      rw [(hnd.filter _).erase_eq_filter, List.filter_filter]
      refine List.filter_congr fun p _ => ?_
      rw [Record.lookup_erase]
      by_cases hp : p = waiter.principal <;> simp [hp]
    by_cases hlast' : queue.erase waiter = []
    · rw [detachWaiter_last hqu hmem hlast']
      unfold AdmissionState.purge
      dsimp only
      rw [Record.filterMap_erase, hcnt, ← htrn, hnd.erase_eq_filter, List.filter_filter]
      congr 1
      refine List.filter_congr fun p _ => ?_
      rw [Record.lookup_erase]
      by_cases hp : p = waiter.principal <;> simp [hp]
    · rw [detachWaiter_rest hqu hmem hlast']
      unfold AdmissionState.purge
      dsimp only
      rw [Record.filterMap_insert_of_none _ _ hnew, hcnt, htrn]
  · rw [if_neg hlast] at hnew
    have hlast' : queue.erase waiter ≠ [] := by
      intro hnil
      rw [hnil] at hnew
      cases hnew
    rw [detachWaiter_rest hlk hmem' hlast, detachWaiter_rest hqu hmem hlast']
    have hsum := Record.sum_insert_old (fun _ (queue : List Waiter) => queue.length) hlk'
      (live.erase waiter)
    have hcnt : ((s.waitingByPrincipal.filterMap (liveQueue signals)).insert waiter.principal
        (live.erase waiter)).sum (fun _ queue => queue.length) =
        (s.waitingByPrincipal.filterMap (liveQueue signals)).sum (fun _ queue =>
          queue.length) - 1 := by
      omega
    unfold AdmissionState.purge
    dsimp only
    rw [Record.filterMap_insert_of_some hqu hold hnew, hcnt]
    congr 1
    refine List.filter_congr fun p _ => ?_
    rw [Record.lookup_insert]
    by_cases hp : p = waiter.principal
    · rw [if_pos hp, hp, hlk']
      rfl
    · rw [if_neg hp]

end Live

theorem purge_pushTurn (p : Option String) (s : AdmissionState) :
    (pushTurn p s).purge signals = pushTurn p (s.purge signals) := by
  have hlk : (s.purge signals).waitingByPrincipal.lookup p =
      (s.waitingByPrincipal.lookup p).bind (liveQueue signals) := Record.lookup_filterMap _ _ _
  unfold pushTurn
  rw [hlk]
  cases hqu : s.waitingByPrincipal.lookup p with
  | none => rfl
  | some queue =>
    rw [if_neg (Option.some_ne_none queue), Option.bind_some]
    unfold AdmissionState.purge
    dsimp only
    cases hlive : liveQueue signals queue with
    | none =>
      rw [if_pos rfl, List.filter_append]
      simp [hqu, hlive]
    | some live =>
      rw [if_neg (Option.some_ne_none live), List.filter_append]
      simp [hqu, hlive]

/-- Purging for fewer signals before makes no difference. -/
theorem purge_purge (hsub : ∀ signal, isAborted signals signal = true →
    isAborted signals' signal = true)
    (s : AdmissionState) : (s.purge signals).purge signals' = s.purge signals' := by
  have hflt : ∀ queue : List Waiter, (queue.filter fun w =>
    !isAborted signals w.callerSignal).filter
      (fun w => !isAborted signals' w.callerSignal) =
        queue.filter fun w => !isAborted signals' w.callerSignal := by
    intro queue
    rw [List.filter_filter]
    refine List.filter_congr fun w _ => ?_
    cases hold : isAborted signals w.callerSignal with
    | false => simp
    | true => simp [hsub _ hold]
  have hqs : (fun queue => (liveQueue signals queue).bind (liveQueue signals')) =
      liveQueue signals' := by
    funext queue
    unfold liveQueue
    split_ifs with hnil hnil' hnil'
    · rfl
    · rw [← hflt, hnil] at hnil'
      exact absurd rfl hnil'
    · rw [Option.bind_some, hflt, if_pos hnil']
    · rw [Option.bind_some, hflt, if_neg hnil']
  unfold AdmissionState.purge
  dsimp only
  rw [Record.filterMap_filterMap, hqs, List.filter_filter]
  congr 1
  refine List.filter_congr fun p _ => ?_
  rw [Record.lookup_filterMap, Record.lookup_filterMap, ← hqs]
  cases hqu : s.waitingByPrincipal.lookup p with
  | none => rfl
  | some queue => cases hlive : liveQueue signals queue <;> simp [hlive]

/-! ### The code of the gateway -/

theorem detachQueued_eq (hnd : s.turnOrder.Nodup)
    (hdist : ∀ queue, s.waitingByPrincipal.lookup waiter.principal = some queue → queue.Nodup)
    (hw : Waiting s waiter) : detachQueued waiter s = detachWaiter waiter s := by
  obtain ⟨queue, hqu, hmem⟩ := hw
  have herase : queue.filter (fun candidate => candidate ≠ waiter) = queue.erase waiter := by
    rw [(hdist queue hqu).erase_eq_filter]
    refine List.filter_congr fun w _ => ?_
    by_cases heq : w = waiter <;> simp [heq]
  have htrn : s.turnOrder.filter (fun turn => turn ≠ waiter.principal) =
      s.turnOrder.erase waiter.principal := by
    rw [hnd.erase_eq_filter]
    refine List.filter_congr fun p _ => ?_
    by_cases heq : p = waiter.principal <;> simp [heq]
  unfold detachQueued
  rw [hqu]
  dsimp only
  rw [herase, htrn]
  split_ifs with hlast
  · rw [detachWaiter_last hqu hmem hlast]
  · rw [detachWaiter_rest hqu hmem hlast]

theorem Rotation.detachQueued (h : Rotation s) (hw : Waiting s waiter) :
    detachQueued waiter s = detachWaiter waiter s :=
  detachQueued_eq h.nodup (h.distinct waiter.principal) hw

theorem enqueueGateway_eq (waiter : Waiter) (s : AdmissionState) :
    enqueueGateway waiter s = enqueueWaiter waiter s := by
  unfold enqueueGateway
  cases hqu : s.waitingByPrincipal.lookup waiter.principal with
  | none =>
    rw [enqueueWaiter_new hqu]
    rfl
  | some queue =>
    rw [enqueueWaiter_old hqu]
    rfl

/-! ### Elapsed time -/

theorem gatewayElapsedMs_eq (now since : ℕ) :
    gatewayElapsedMs now since = min (elapsedMs now since) u64Max := by
  have hround : elapsedMs now since =
      (now - since) / 1000000 + (if 500000 ≤ (now - since) % 1000000 then 1 else 0) := by
    unfold elapsedMs mathRound
    have hcast : ((now : ℚ) - since) / 1000000 + 1 / 2 =
        (((now : ℤ) - since + 500000 : ℤ) : ℚ) / ((1000000 : ℕ) : ℚ) := by
      push_cast
      ring
    rw [hcast, Rat.floor_intCast_div_natCast]
    split_ifs <;> omega
  unfold gatewayElapsedMs
  rw [hround]

theorem le_gatewayElapsedMs (limits : InferenceAdmissionLimits) (now since : ℕ) :
    limits.maxQueueWaitMs ≤ gatewayElapsedMs now since ↔
      limits.maxQueueWaitMs ≤ elapsedMs now since := by
  have hsafe := limits.queueWait_safe
  have hmax : (9007199254740991 : ℕ) ≤ u64Max := by decide
  rw [gatewayElapsedMs_eq]
  omega

end UbqGateway.Admission
