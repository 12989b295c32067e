import UbqGateway.Admission.Events

/-!
# The decisions of both controllers

A run is prompt when no request comes while an acquisition whose caller has aborted still waits, and
no poll comes between the end of a wait and its timer.  In a prompt run the two controllers make the
same decisions (`agrees_run`).
-/

namespace UbqGateway.Admission

open Controller

/-- No request comes while an acquisition whose caller has aborted still waits, and no poll finds a
wait over before its timer has run. -/
def PromptEvent (limits : InferenceAdmissionLimits) (g : Gateway) : AdmissionEvent → Prop
  | .acquire _ _ _ => ∀ id, ¬ Stale g id
  | .poll id waitReady => waitReady = false → ¬ Overdue limits g id
  | _ => True

/-- All events of a run from `g` are prompt. -/
def Prompt (limits : InferenceAdmissionLimits) : Gateway → List AdmissionEvent → Prop
  | _, [] => True
  | g, event :: events => PromptEvent limits g event ∧ Prompt limits (g.step limits event) events

/-- **Every prompt event** keeps the agreement. -/
theorem Agrees.step (h : Agrees g c) (hsnd : Sound limits c)
    (hpmt : PromptEvent limits g event) :
    Agrees (g.step limits event) (c.step limits event) := by
  have hfl := hsnd.floor
  cases event with
  | acquire principal callerSignal route =>
    exact h.acquire hfl hpmt principal callerSignal route (hsnd.acquire _ _).floor
  | poll id waitReady => exact h.poll hfl id waitReady hpmt
  | release id => exact h.release hfl id
  | drop id => exact h.drop hfl id
  | abort σ => exact h.abort hfl σ
  | advance elapsed =>
    have hm := h.matched
    exact ⟨{ hm with now := congrArg (· + elapsed) hm.now }, h.rotation, h.state, h.stale⟩

theorem Agrees.run : ∀ (events : List AdmissionEvent) (g : Gateway) (c : Controller), Agrees g c →
    Sound limits c → Prompt limits g events →
      Agrees (events.foldl (Gateway.step limits) g) (events.foldl (Controller.step limits) c) := by
  intro events
  induction events with
  | nil => exact fun g c h _ _ => h
  | cons event _ ih =>
    intro g c h hsnd hpmt
    exact ih _ _ (h.step hsnd hpmt.1) (hsnd.step event) hpmt.2

theorem agrees_run (hpmt : Prompt limits withLimits events) :
    Agrees (Gateway.run limits events) (run limits events) :=
  Agrees.run events _ _ agrees_start sound_create hpmt

/-- The active places are the grants that are not given back. -/
theorem Floor.outstanding (h : Floor limits c) : c.state.active = c.outstanding.length := by
  have hpermits := h.permits
  have hnd : (c.grants.map Prod.fst).Nodup := by
    refine List.Sublist.nodup ?_ h.once
    exact List.filter_sublist.map Prod.fst
  have hspl : c.outstanding.length + (c.grants.filter fun r => r.1 ∈ c.released).length =
      c.grants.length := by
    have hlen := List.length_eq_length_filter_add (l := c.grants) fun r => decide (r.1 ∈ c.released)
    unfold Controller.outstanding
    simp only [decide_not] at hlen ⊢
    omega
  have hrld : (c.grants.filter fun r => r.1 ∈ c.released).length = c.released.length := by
    have hperm : ((c.grants.filter fun r => r.1 ∈ c.released).map Prod.fst).Perm c.released := by
      rw [List.perm_ext_iff_of_nodup ((List.filter_sublist.map Prod.fst).nodup hnd)
        h.released_once]
      intro id
      rw [List.mem_map]
      constructor
      · rintro ⟨r, hr, rfl⟩
        exact of_decide_eq_true (List.mem_filter.mp hr).2
      · intro hid
        obtain ⟨r, hr, rfl⟩ := List.mem_map.mp (h.released id hid).2
        exact ⟨r, List.mem_filter.mpr ⟨hr, decide_eq_true hid⟩, rfl⟩
    rw [← hperm.length_eq, List.length_map]
  omega

theorem Floor.poll_resolved {id : ℕ} (h : Floor limits c) (hlt : id < c.nextId) :
    id ∈ (c.step limits (.poll id true)).resolvedIds := by
  have htake : ∀ c' : Controller, (Admission.take id c').resolvedIds = c'.resolvedIds := by
    intro c'
    unfold Admission.take
    split_ifs <;> rfl
  unfold Controller.step
  dsimp only
  rw [if_pos rfl, htake]
  rcases h.answered id hlt with hrsv | ⟨w, rfl, hw⟩
  · rw [h.waitTimeout_resolved hrsv]
    exact hrsv
  · unfold waitTimeout onWaitAbort
    rw [(h.waiting w hw).1]
    dsimp only
    rw [settleWaiter_fresh (h.waiting w hw).2]
    exact List.mem_cons_self

/-- **The admission controller** after every sequence of events: its counts are right and within
their limits, the turns are those of the queues, somebody waits only while all permits are taken,
and a request waits or is resolved, once.  In a prompt run the gateway's controller makes the same
decisions. -/
theorem inference_admission (limits : InferenceAdmissionLimits) (events : List AdmissionEvent) :
    ((run limits events).state.active = (run limits events).outstanding.length ∧
      (run limits events).state.active ≤ limits.maxActive) ∧
    ((run limits events).state.waitingCount =
        ((run limits events).state.waitingByPrincipal.sum fun _ queue => queue.length) ∧
      (run limits events).state.waitingCount ≤ limits.maxWaiting) ∧
    ((run limits events).state.turnOrder.Nodup ∧
      ∀ p, p ∈ (run limits events).state.turnOrder ↔
        ∃ queue, (run limits events).state.waitingByPrincipal.lookup p = some queue ∧ queue ≠ []) ∧
    (0 < (run limits events).state.waitingCount →
      (run limits events).state.active = limits.maxActive) ∧
    (∀ id < (run limits events).nextId,
      (((run limits events).resolvedIds.count id = 1 ∧
          ¬ ∃ w, w.id = id ∧ Waiting (run limits events).state w) ∨
        ((run limits events).resolvedIds.count id = 0 ∧
          ∃ w, w.id = id ∧ Waiting (run limits events).state w)) ∧
      id ∈ (run limits (events ++ [.poll id true])).resolvedIds) ∧
    (Prompt limits withLimits events →
      ∀ id, SameDecision (Gateway.run limits events) (run limits events) id) := by
  have hsnd := sound_run limits events
  have hfl := hsnd.floor
  have hrot := hfl.rotation
  refine ⟨⟨hfl.outstanding, hfl.active_le⟩, ⟨hrot.count, hfl.waiting_le⟩,
    ⟨hrot.nodup, fun p => ?_⟩, hsnd.busy, fun id hid => ⟨?_, ?_⟩,
    fun hpmt => (agrees_run hpmt).matched.decisions⟩
  · rw [hrot.turn]
    constructor
    · intro hsome
      obtain ⟨queue, hqu⟩ := Option.ne_none_iff_exists'.mp hsome
      exact ⟨queue, hqu, hrot.nonempty p queue hqu⟩
    · rintro ⟨queue, hqu, -⟩
      rw [hqu]
      exact Option.some_ne_none queue
  · by_cases hrsv : id ∈ (run limits events).resolvedIds
    · left
      refine ⟨List.count_eq_one_of_mem hfl.once hrsv, ?_⟩
      rintro ⟨w, rfl, hw⟩
      exact (hfl.waiting w hw).2 hrsv
    · exact .inr ⟨List.count_eq_zero_of_not_mem hrsv,
        (hfl.answered id hid).resolve_left hrsv⟩
  · unfold Controller.run
    rw [List.foldl_append]
    exact hfl.poll_resolved hid

/-- One permit, one place to wait, and a wait of a second. -/
def smallLimits : InferenceAdmissionLimits where
  maxActive := 1
  maxWaiting := 1
  maxQueueWaitMs := 1000
  active_pos := by decide
  active_safe := by decide
  waiting_safe := by decide
  queueWait_safe := by decide

def chatRoute : AdmissionRoute := ⟨"chat.completions", by decide⟩

/-- The second of three requests is aborted while it waits.  Time passes and the permit is released
before it is polled; the third request comes then. -/
def releasedAbort : List AdmissionEvent :=
  [.acquire none none chatRoute, .acquire (some "p") (some 7) chatRoute, .abort 7, .advance 5000000,
    .poll 0 false, .release 0, .poll 1 false, .acquire (some "q") none chatRoute]

/-- The same requests, the third one before the poll of the second. -/
def unpolledAbort : List AdmissionEvent :=
  [.acquire none none chatRoute, .acquire (some "p") (some 7) chatRoute, .abort 7,
    .acquire (some "q") none chatRoute, .poll 1 false, .poll 0 false, .release 0]

/-- The second request is polled when its wait is over, to the millisecond, but not yet its
timer. -/
def earlyPoll : List AdmissionEvent :=
  [.acquire none none chatRoute, .acquire (some "p") none chatRoute, .advance 999600000,
    .poll 1 false]

theorem not_stale_of_values
    (h : ∀ queue ∈ g.state.waitingByPrincipal.values, ∀ w ∈ queue,
      isAborted g.cancelled w.callerSignal = false) (id : ℕ) : ¬ Stale g id := by
  rintro ⟨w, -, ⟨queue, hqu, hw⟩, habt⟩
  rw [h queue ((Record.mem_values_iff _ _).mpr ⟨_, hqu⟩) w hw] at habt
  cases habt

theorem not_overdue_of_values
    (h : ∀ queue ∈ g.state.waitingByPrincipal.values, ∀ w ∈ queue,
      gatewayElapsedMs g.now w.queuedAt < limits.maxQueueWaitMs) (id : ℕ) :
        ¬ Overdue limits g id := by
  rintro ⟨w, -, ⟨queue, hqu, hw⟩, -, hover⟩
  have hlt := h queue ((Record.mem_values_iff _ _).mpr ⟨_, hqu⟩) w hw
  omega

theorem releasedAbort_prompt : Prompt smallLimits withLimits releasedAbort :=
  ⟨not_stale_of_values (by decide +kernel), not_stale_of_values (by decide +kernel), trivial,
    trivial,
    fun _ => not_overdue_of_values (by decide +kernel) 0, trivial,
    fun _ => not_overdue_of_values (by decide +kernel) 1, not_stale_of_values (by decide +kernel),
    trivial⟩

/-- The release refuses the aborted request in the gateway, and the permit goes to the third one in
both controllers. -/
theorem inference_admission_released :
    (run smallLimits releasedAbort).decision 2 = some (.admitted 0) ∧
      (Gateway.run smallLimits releasedAbort).decision 2 = some (.admitted 0) ∧
      (run smallLimits releasedAbort).decision 1 = some (.callerAborted 0) ∧
      (Gateway.run smallLimits releasedAbort).decision 1 = some (.callerAborted 5) := by
  have heq := (inference_admission smallLimits releasedAbort).2.2.2.2.2 releasedAbort_prompt 2
  have hdec : (run smallLimits releasedAbort).decision 2 = some (.admitted 0) := by
    decide +kernel
  refine ⟨hdec, ?_, by decide +kernel, by decide +kernel⟩
  rcases heq with heq | ⟨⟨waitedMs, habt⟩, -⟩
  · rw [heq, hdec]
    rfl
  · rw [hdec] at habt
    cases habt

/-- **Neither condition can be left out.**  While the aborted acquisition is not polled it keeps its
place in the gateway's queue: the third request is refused there, and gets the permit in the other
controller. A poll before the timer refuses in the gateway only. -/
theorem inference_admission_unpolled :
    ((run smallLimits unpolledAbort).decision 2 = some (.admitted 0) ∧
      (Gateway.run smallLimits unpolledAbort).decision 2 = some (.localOverload .queueLimit 0)) ∧
    (run smallLimits earlyPoll).decision 1 = none ∧
      (Gateway.run smallLimits earlyPoll).decision 1 =
        some (.localOverload .queueWaitTimeout 1000) := by
  decide +kernel

end UbqGateway.Admission
