import UbqGateway.Admission.Agreement

/-!
# Events of both controllers

Every event keeps the agreement of the two controllers, apart from two kinds.  A request that comes
while somebody is stale (`Agrees.acquire`) may find a place or a permit in one of them only.  A poll
that finds a wait over before its timer has run (`Overdue`) ends it in the gateway only.
-/

namespace UbqGateway.Admission

open AdmissionState Decision

variable {g : Gateway} {c : Controller} {id : ℕ} {w : Waiter} {s : AdmissionState}
  {result : Option Decision}

/-! ### `acquire` -/

/-- The gateway after an acquisition is entered, with the queues `s`. -/
def Gateway.entered (w : Waiter) (result : Option Decision) (s : AdmissionState) (g : Gateway) :
    Gateway :=
  { g with
    nextId := g.nextId + 1
    waiters := Function.update g.waiters g.nextId (some w)
    queued := Function.update g.queued g.nextId result.isNone
    results := Function.update g.results g.nextId result
    state := s
    decided := enterDecided g.nextId result g.decided }

theorem Matched.decision_none (h : Matched g c) (hno : c.decision id = none) :
    g.decision id = none := by
  rcases h.decisions id with heq | ⟨⟨waitedMs, habt⟩, -⟩
  · rw [heq, hno]
    rfl
  · rw [hno] at habt
    cases habt

theorem Matched.fresh (h : Matched g c) (hfl : Floor limits c) :
    g.decision g.nextId = none ∧ c.decision g.nextId = none ∧ g.nextId ∉ g.finished ∧
      g.nextId ∉ g.dropped := by
  have hudc : c.decision g.nextId = none := by
    rw [decision_eq_none_iff, h.nextId]
    exact fun hmem => lt_irrefl _ (hfl.made _ hmem)
  have hunt : g.nextId ∉ c.taken := by
    rw [h.nextId]
    exact fun hmem => lt_irrefl _ (hfl.made _ (hfl.taken _ hmem))
  refine ⟨h.decision_none hudc, hudc, fun hmem => ?_, fun hmem => ?_⟩
  · exact hunt ((h.taken _).mpr (.inl hmem))
  · exact hunt ((h.taken _).mpr (.inr hmem))

theorem Matched.known_next (h : Matched g c) (hid : w.id = g.nextId)
    (hv : Function.update g.waiters g.nextId (some w) id = some v) :
    v.id = id ∧ id < g.nextId + 1 := by
  by_cases heq : id = g.nextId
  · rw [heq, Function.update_self] at hv
    cases hv
    exact ⟨hid.trans heq.symm, by rw [heq]; exact Nat.lt_succ_self _⟩
  · rw [Function.update_of_ne heq] at hv
    obtain ⟨hv', hlt⟩ := h.known id v hv
    exact ⟨hv', Nat.lt_succ_of_lt hlt⟩

theorem Matched.made_next (h : Matched g c) (hlt : id < g.nextId + 1) :
    ∃ v, Function.update g.waiters g.nextId (some w) id = some v := by
  by_cases heq : id = g.nextId
  · exact ⟨w, by rw [heq, Function.update_self]⟩
  · rw [Function.update_of_ne heq]
    exact h.made id (by omega)

theorem entered_decision_of_ne (hne : id ≠ g.nextId) :
    (g.entered w result s).decision id = g.decision id := by
  unfold Gateway.decision Gateway.entered enterDecided
  split
  · rfl
  · exact gateway_decide_of_ne hne _ _

theorem entered_decision_self (hfr : g.decision g.nextId = none) :
    (g.entered w result s).decision g.nextId = result := by
  unfold Gateway.decision Gateway.entered enterDecided
  split
  · exact hfr
  · exact gateway_decide_self _ _ _

theorem Gateway.Aborts.entered (h : g.Aborts id) (hne : id ≠ g.nextId)
    (hwtg : ∀ v, Waiting g.state v → Waiting s v) : (g.entered w result s).Aborts id := by
  have hdec : (g.entered w result s).decision id = g.decision id := entered_decision_of_ne hne
  rcases h with ⟨waitedMs, habt⟩ | ⟨hno, hdrp | ⟨v, hv, hwts, hsig⟩⟩
  · exact .inl ⟨waitedMs, hdec.trans habt⟩
  · exact .inr ⟨hdec.trans hno, .inl hdrp⟩
  · exact .inr ⟨hdec.trans hno, .inr ⟨v, hv, hwtg v hwts, hsig⟩⟩

section

variable (h : Matched g c) (hid : w.id = g.nextId)
  (hwtg : ∀ v, Waiting s v ↔ Waiting g.state v ∨ (result = none ∧ v = w))

include h hid hwtg

theorem Matched.queued_next (hv : (g.entered w result s).waiters id = some v) :
    (g.entered w result s).queued id = true ↔ Waiting s v := by
  have hv' : Function.update g.waiters g.nextId (some w) id = some v := hv
  show Function.update g.queued g.nextId result.isNone id = true ↔ Waiting s v
  rw [hwtg]
  by_cases heq : id = g.nextId
  · rw [heq, Function.update_self] at hv' ⊢
    cases hv'
    have hnew : ¬ Waiting g.state w := fun hw => (h.known _ _ (h.waiting w hw).1).2.ne hid
    simp [hnew]
  · rw [Function.update_of_ne heq] at hv' ⊢
    have hne : v ≠ w := by
      rintro rfl
      exact heq ((h.known id v hv').1.symm.trans hid)
    rw [h.queued id v hv']
    simp [hne]

variable (hfl : Floor limits c)

include hfl

theorem Matched.waiting_next (hv : Waiting s v) :
    (g.entered w result s).waiters v.id = some v ∧ (g.entered w result s).decision v.id = none ∧
      v.id ∉ g.finished ∧ v.id ∉ g.dropped := by
  obtain ⟨hudc, _, hufn, hudr⟩ := h.fresh hfl
  show Function.update g.waiters g.nextId (some w) v.id = some v ∧ _
  rcases (hwtg v).mp hv with hold | ⟨rfl, rfl⟩
  · have hne : v.id ≠ g.nextId := (h.known _ _ (h.waiting v hold).1).2.ne
    rw [Function.update_of_ne hne, entered_decision_of_ne hne]
    exact h.waiting v hold
  · rw [hid, Function.update_self, entered_decision_self hudc]
    exact ⟨rfl, rfl, hufn, hudr⟩

/-- A request is entered on both sides, with the same result or with none. -/
theorem Matched.enter (c' : Controller) (hnow : c'.now = c.now) (habd : c'.aborted = c.aborted)
    (hnextId : c'.nextId = c.nextId + 1) (hrld : c'.released = c.released)
    (htkn : c'.taken = c.taken)
    (hwaiters : ∀ id v, c'.waiters id = some v →
      (g.entered w result s).waiters id = some v)
    (hoth : ∀ id, id ≠ g.nextId → c'.decision id = c.decision id)
    (hself : result = (c'.decision g.nextId).map clamp) : Matched (g.entered w result s) c' := by
  obtain ⟨hudc, _, hufn, hudr⟩ := h.fresh hfl
  have hself' : (g.entered w result s).decision g.nextId = result := entered_decision_self hudc
  have hoth' : ∀ id, id ≠ g.nextId → (g.entered w result s).decision id = g.decision id :=
    fun id hne => entered_decision_of_ne hne
  constructor
  · exact h.now.trans hnow.symm
  · exact h.signals.trans habd.symm
  · rw [hnextId]
    exact congrArg (· + 1) h.nextId
  · exact h.released.trans hrld.symm
  · rw [htkn]
    exact h.taken
  · exact hwaiters
  · exact fun id v => h.known_next hid
  · exact fun id => h.made_next
  · exact fun v hv => h.waiting_next hid hwtg hfl hv
  · exact fun id v hv => h.queued_next hid hwtg hv
  · intro id hfnd hdrp
    show Function.update g.results g.nextId result id = _
    by_cases heq : id = g.nextId
    · rw [heq, Function.update_self, hself']
    · rw [Function.update_of_ne heq, hoth' id heq]
      exact h.results id hfnd hdrp
  · intro id
    unfold SameDecision
    by_cases heq : id = g.nextId
    · left
      rw [heq, hself', hself]
    · rw [hoth id heq, hoth' id heq]
      exact (h.decisions id).imp_right fun habt =>
        ⟨habt.1, habt.2.entered heq fun v hv => (hwtg v).mpr (.inl hv)⟩
  · intro id
    by_cases heq : id = g.nextId
    · have hold := h.permits id
      rw [heq] at hold ⊢
      refine ⟨fun hpermit => absurd (hold.mp hpermit).1 hufn, fun hfnd => ?_⟩
      exact absurd hfnd.1 hufn
    · rw [hoth' id heq]
      exact h.permits id
  · intro id hdrp hadm
    by_cases heq : id = g.nextId
    · have hdrp' : id ∈ g.dropped := hdrp
      rw [heq] at hdrp'
      exact absurd hdrp' hudr
    · rw [hoth' id heq] at hadm
      exact h.dropped id hdrp hadm

end

section

variable (h : Agrees g c) (hfl : Floor limits c) (hsta : g.state = c.state)

include h hfl hsta

/-- A request that is answered at once. -/
theorem Agrees.answer (w : Waiter) (hid : w.id = g.nextId) (hclamp : d.clamp = d)
    (hs : s.waitingByPrincipal = c.state.waitingByPrincipal) : Matched (g.entered w (some d) s)
      { (c.mapState fun _ => s).resolve c.nextId d with nextId := c.nextId + 1 } := by
  have hm := h.matched
  refine hm.enter hid (fun v => ?_) hfl _ rfl rfl rfl rfl rfl (fun id v hv => ?_)
    (fun id hne => ?_) ?_
  · rw [hsta, waiting_congr hs]
    simp
  · have hold := hm.waiters id v hv
    have hne : id ≠ g.nextId := (hm.known id v hold).2.ne
    show Function.update g.waiters g.nextId (some w) id = some v
    rw [Function.update_of_ne hne]
    exact hold
  · rw [hm.nextId] at hne
    exact gateway_decide_of_ne hne _ _
  · show some d = (((c.nextId, d) :: c.resolved).lookup g.nextId).map clamp
    rw [← hm.nextId, gateway_decide_self, Option.map_some, hclamp]

/-- A request that is queued. -/
theorem Agrees.queue (w : Waiter) (hid : w.id = g.nextId) :
    Matched (g.entered w none (enqueueWaiter w c.state)) (enqueueRequest w c) := by
  have hm := h.matched
  obtain ⟨_, hudc, _, _⟩ := hm.fresh hfl
  refine hm.enter hid (fun v => ?_) hfl _ rfl rfl rfl rfl rfl (fun id v hv => ?_)
    (fun _ _ => rfl) ?_
  · rw [hsta, waiting_enqueue w v]
    simp
  · have hv' : Function.update c.waiters c.nextId (some w) id = some v := hv
    show Function.update g.waiters g.nextId (some w) id = some v
    rw [hm.nextId]
    by_cases heq : id = c.nextId
    · rw [heq, Function.update_self] at hv' ⊢
      exact hv'
    · rw [Function.update_of_ne heq] at hv' ⊢
      exact hm.waiters id v hv'
  · show none = (c.decision g.nextId).map clamp
    rw [hudc]
    rfl

end

/-- What a request is answered at once depends on what both have in common. -/
theorem Matched.gatewayEntry (h : Matched g c) (hsta : g.state = c.state) (route : AdmissionRoute)
    (callerSignal : Option ℕ) :
    gatewayEntry limits route.1 callerSignal g =
      if isAborted c.aborted callerSignal = true then some (.callerAborted 0)
      else if c.state.active < limits.maxActive ∧ c.state.waitingCount = 0 then some (.admitted 0)
      else if limits.maxWaiting ≤ c.state.waitingCount then some (.localOverload .queueLimit 0)
      else none := by
  have hrt : requiresAdmission route.1 ≠ false := by
    rw [route.2]
    exact Bool.true_eq_false.mp
  unfold Admission.gatewayEntry
  rw [if_neg hrt, h.signals, hsta]

/-- **A request** that comes while nobody is stale. -/
theorem Agrees.acquire (h : Agrees g c) (hfl : Floor limits c) (hlive : ∀ id, ¬ Stale g id)
    (principal : Option String) (callerSignal : Option ℕ) (route : AdmissionRoute)
    (haft : Floor limits (acquire limits principal callerSignal c)) :
    Agrees (gatewayAcquire limits principal callerSignal route.1 g)
      (acquire limits principal callerSignal c) := by
  have hm := h.matched
  have hsta := h.state_eq hlive
  have hnobody := not_stale_iff.mp hlive
  have hwtr : (⟨c.nextId, principal, c.now, callerSignal⟩ : Waiter) =
      ⟨g.nextId, principal, g.now, callerSignal⟩ := by
    rw [hm.nextId, hm.now]
  unfold gatewayAcquire enterRequest
  rw [hm.gatewayEntry hsta, hsta]
  unfold Admission.acquire at haft ⊢
  split_ifs at haft ⊢ with habt hfree hfull
  · have hans := h.answer hfl hsta (d := .callerAborted 0) (s := c.state)
      ⟨g.nextId, principal, g.now, callerSignal⟩ rfl rfl rfl
    refine hans.agrees rfl haft.rotation fun w hw => hnobody w ?_
    rw [hsta]
    exact hw
  · have hans := h.answer hfl hsta (d := .admitted 0) (s := c.state.grant)
      ⟨g.nextId, principal, g.now, callerSignal⟩ rfl rfl rfl
    refine hans.agrees rfl haft.rotation fun w hw => hnobody w ?_
    rw [hsta]
    exact hw
  · have hans := h.answer hfl hsta (d := .localOverload .queueLimit 0) (s := c.state)
      ⟨g.nextId, principal, g.now, callerSignal⟩ rfl rfl rfl
    refine hans.agrees rfl haft.rotation fun w hw => hnobody w ?_
    rw [hsta]
    exact hw
  · have hqu := h.queue hfl hsta ⟨g.nextId, principal, g.now, callerSignal⟩ rfl
    rw [hwtr] at haft ⊢
    show Agrees (g.entered _ none (enqueueGateway _ c.state)) _
    rw [enqueueGateway_eq]
    refine hqu.agrees rfl haft.rotation fun w hw => ?_
    rcases (waiting_enqueue _ w).mp hw with hold | rfl
    · rw [← hsta] at hold
      exact hnobody w hold
    · show isAborted g.cancelled callerSignal = false
      rw [hm.signals]
      exact Bool.eq_false_of_not_eq_true habt

/-! ### What an acquisition has come to -/

theorem Floor.waiter_of_undecided (h : Floor limits c) (hlt : id < c.nextId)
    (hno : c.decision id = none) : ∃ w, w.id = id ∧ c.waiters id = some w ∧
      Waiting c.state w := by
  rcases h.answered id hlt with hmem | ⟨w, rfl, hw⟩
  · exact absurd hmem ((decision_eq_none_iff id).mp hno)
  · exact ⟨w, rfl, (h.waiting w hw).1, hw⟩

theorem Floor.settleWaiter_resolved (h : Floor limits c) (hw : c.waiters id = some w)
    (hrsv : id ∈ c.resolvedIds) (d : Decision) : settleWaiter w d c = c := by
  unfold settleWaiter
  refine if_pos ?_
  rw [(h.known id w hw).1]
  exact hrsv

theorem Floor.waitTimeout_resolved (h : Floor limits c) (hrsv : id ∈ c.resolvedIds) :
    waitTimeout id c = c := by
  unfold waitTimeout
  split
  · rfl
  · next w hw =>
    unfold onWaitAbort
    exact h.settleWaiter_resolved hw hrsv _

theorem take_taken (htkn : id ∈ c.taken) : take id c = c :=
  if_neg fun h => h.2 htkn

theorem take_undecided (hno : c.decision id = none) : take id c = c := by
  unfold take
  rw [hno]
  exact if_neg fun h => absurd h.1 Bool.false_ne_true

/-- An acquisition is unknown, done with, waiting in both, waiting in the gateway only, or decided
but not taken. -/
inductive Stage (g : Gateway) (c : Controller) (id : ℕ) : Prop
  | unknown (hg : g.waiters id = none) (hc : c.waiters id = none) (hno : c.decision id = none)
  | done (w : Waiter) (hg : g.waiters id = some w) (hdone : id ∈ g.finished ∨ id ∈ g.dropped)
  | live (w : Waiter) (hid : w.id = id) (hw : Waiting g.state w)
      (hlive : isAborted g.cancelled w.callerSignal = false)
  | stale (w : Waiter) (hid : w.id = id) (hw : Waiting g.state w)
      (habt : isAborted g.cancelled w.callerSignal = true)
  | decided (w : Waiter) (hid : w.id = id) (hg : g.waiters id = some w)
      (hopen : ¬ (id ∈ g.finished ∨ id ∈ g.dropped)) (hnot : ¬ Waiting g.state w)
      (hdcd : g.decision id ≠ none) (hdcd' : c.decision id ≠ none)

theorem Agrees.stage (h : Agrees g c) (hfl : Floor limits c) (id : ℕ) : Stage g c id := by
  have hm := h.matched
  cases hg : g.waiters id with
  | none =>
    refine .unknown hg ?_ ((decision_eq_none_iff id).mpr fun hmem => ?_)
    · refine Option.eq_none_iff_forall_ne_some.mpr fun w hc => ?_
      rw [hm.waiters id w hc] at hg
      cases hg
    · have hlt := hfl.made id hmem
      rw [← hm.nextId] at hlt
      obtain ⟨w, hw⟩ := hm.made id hlt
      rw [hw] at hg
      cases hg
  | some w =>
    obtain ⟨hid, hlt⟩ := hm.known id w hg
    by_cases hdone : id ∈ g.finished ∨ id ∈ g.dropped
    · exact .done w hg hdone
    · by_cases hw : Waiting g.state w
      · cases habt : isAborted g.cancelled w.callerSignal with
        | false => exact .live w hid hw habt
        | true => exact .stale w hid hw habt
      · -- nobody who is undecided in the controller has left the gateway's queues
        have hdcd' : c.decision id ≠ none := by
          intro hno
          rw [hm.nextId] at hlt
          obtain ⟨v, -, hc, hwts⟩ := hfl.waiter_of_undecided hlt hno
          have hv := hm.waiters id v hc
          rw [hg] at hv
          cases hv
          exact hw ((h.waiting_iff w).mp hwts).1
        refine .decided w hid hg hdone hw (fun hno => ?_) hdcd'
        rcases hm.decisions id with heq | ⟨-, ⟨waitedMs, habt⟩ | ⟨-, hdrp | hstl⟩⟩
        · rw [heq, Option.map_eq_none_iff] at hno
          exact hdcd' hno
        · rw [hno] at habt
          cases habt
        · exact hdone (.inr hdrp)
        · obtain ⟨v, hv, hwts, -⟩ := hstl
          have hv' := (hm.waiting v hwts).1
          rw [hv, hg] at hv'
          cases hv'
          exact hw hwts

theorem Agrees.waiter (h : Agrees g c) (hfl : Floor limits c) (hw : Waiting g.state w)
    (hlive : isAborted g.cancelled w.callerSignal = false) :
    Waiting c.state w ∧ c.waiters w.id = some w ∧ w.id ∉ c.resolvedIds := by
  have hwc := (h.waiting_iff w).mpr ⟨hw, hlive⟩
  exact ⟨hwc, hfl.waiting w hwc⟩

theorem Matched.untaken (h : Matched g c) (hopen : ¬ (id ∈ g.finished ∨ id ∈ g.dropped)) :
    id ∉ c.taken := fun htkn => hopen ((h.taken id).mp htkn)

/-! ### `poll` -/

/-- Both sides hand a decision out. -/
theorem Matched.finish (h : Matched g c) (hfnd : id ∉ g.finished) (hdrp : id ∉ g.dropped)
    (hboth : g.decision id = none ↔ c.decision id = none) : Matched (finish id g) (take id c) := by
  have hres := h.results id hfnd hdrp
  have hunt : id ∉ c.taken := by
    rw [h.taken]
    exact fun hmem => hmem.elim hfnd hdrp
  cases hd : g.decision id with
  | none =>
    have hd' := hboth.mp hd
    unfold Admission.finish take
    rw [hres, hd, hd']
    exact h
  | some d =>
    have hd' : c.decision id ≠ none := fun hno => by
      rw [hboth.mpr hno] at hd
      cases hd
    unfold Admission.finish take
    rw [hres, hd, if_pos ⟨Option.isSome_iff_ne_none.mpr hd', hunt⟩]
    constructor
    · exact h.now
    · exact h.signals
    · exact h.nextId
    · exact h.released
    · intro j
      show j ∈ id :: c.taken ↔ j ∈ id :: g.finished ∨ j ∈ g.dropped
      rw [List.mem_cons, List.mem_cons, h.taken, or_assoc]
    · exact h.waiters
    · exact h.known
    · exact h.made
    · intro w hw
      obtain ⟨hwtr, hudc, hufn, hudr⟩ := h.waiting w hw
      refine ⟨hwtr, hudc, fun hmem => ?_, hudr⟩
      rcases List.mem_cons.mp hmem with heq | hmem
      · rw [heq, hd] at hudc
        cases hudc
      · exact hufn hmem
    · exact h.queued
    · intro j hj hj'
      have hne : j ≠ id := fun heq => hj (heq ▸ List.mem_cons_self)
      show Function.update g.results id none j = g.decision j
      rw [Function.update_of_ne hne]
      exact h.results j (fun hmem => hj (List.mem_cons_of_mem _ hmem)) hj'
    · exact h.decisions
    · intro j
      show j ∈ (if d.isAdmitted = true then id :: g.permits else g.permits) ↔
        j ∈ id :: g.finished ∧ (g.decision j).any isAdmitted = true
      have hold := h.permits j
      by_cases heq : j = id
      · rw [heq] at hold ⊢
        have hpermit : id ∉ g.permits := fun hmem => hfnd (hold.mp hmem).1
        rw [hd]
        split_ifs with hadm
        · exact ⟨fun _ => ⟨List.mem_cons_self, hadm⟩, fun _ => List.mem_cons_self⟩
        · exact ⟨fun hmem => absurd hmem hpermit, fun hmem => absurd hmem.2 hadm⟩
      · rw [List.mem_cons, or_iff_right heq]
        split_ifs
        · rw [List.mem_cons, or_iff_right heq]
          exact hold
        · exact hold
    · exact h.dropped

theorem finish_state (id : ℕ) (g : Gateway) :
    (finish id g).state = g.state ∧ (finish id g).cancelled = g.cancelled := by
  unfold finish
  split <;> exact ⟨rfl, rfl⟩

theorem take_state (id : ℕ) (c : Controller) : (take id c).state = c.state := by
  unfold take
  split_ifs <;> rfl

theorem take_decision (id j : ℕ) (c : Controller) : (take id c).decision j = c.decision j := by
  unfold take
  split_ifs <;> rfl

theorem Agrees.finish (h : Agrees g c) (hopen : ¬ (id ∈ g.finished ∨ id ∈ g.dropped))
    (hboth : g.decision id = none ↔ c.decision id = none) : Agrees (finish id g) (take id c) := by
  obtain ⟨hfnd, hdrp⟩ := not_or.mp hopen
  obtain ⟨hsta, hcan⟩ := finish_state id g
  refine ⟨h.matched.finish hfnd hdrp hboth, ?_, ?_, fun w hw habt => ?_⟩
  · rw [hsta]
    exact h.rotation
  · rw [hsta, hcan, take_state]
    exact h.state
  · rw [hsta] at hw
    rw [hcan] at habt
    rw [take_decision]
    exact h.stale w hw habt

/-- A waiter whose wait has lasted its time by the clock, and whose caller has not aborted. -/
def Overdue (limits : InferenceAdmissionLimits) (g : Gateway) (id : ℕ) : Prop :=
  ∃ w, w.id = id ∧ Waiting g.state w ∧ isAborted g.cancelled w.callerSignal = false ∧
    limits.maxQueueWaitMs ≤ gatewayElapsedMs g.now w.queuedAt

/-- A waiter whose caller is gone is polled. -/
theorem Agrees.pollStale (h : Agrees g c) (hfl : Floor limits c) (hw : Waiting g.state w)
    (habt : isAborted g.cancelled w.callerSignal = true) (waitReady : Bool) :
    Agrees (pollAcquisition limits w.id waitReady g) (c.step limits (.poll w.id waitReady)) := by
  have hm := h.matched
  obtain ⟨hwtr, hudc, hufn, hudr⟩ := hm.waiting w hw
  have hopen := not_or.mpr ⟨hufn, hudr⟩
  obtain ⟨waitedMs, href⟩ := h.stale w hw habt
  have hrsv : w.id ∈ c.resolvedIds := by
    rw [← decision_isSome_iff, href]
    rfl
  have hpoll : pollAcquisition limits w.id waitReady g = Admission.finish w.id
      (g.settled w (.callerAborted (gatewayElapsedMs g.now w.queuedAt))
        (detachWaiter w g.state)) := by
    unfold pollAcquisition expire
    rw [hwtr]
    dsimp only
    rw [if_neg hopen, hm.results w.id hufn hudr, if_pos hudc,
      if_pos (.inl habt), if_pos habt, hm.settle hw, h.rotation.detachQueued hw]
  have hset := h.settlesStale hw habt (gatewayElapsedMs g.now w.queuedAt)
  have hdcd : (g.settled w (.callerAborted (gatewayElapsedMs g.now w.queuedAt))
      (detachWaiter w g.state)).decision w.id ≠ none := by
    show ((w.id, _) :: g.decided).lookup w.id ≠ none
    rw [gateway_decide_self]
    exact Option.some_ne_none _
  unfold Controller.step
  dsimp only
  rw [hpoll, hfl.waitTimeout_resolved hrsv, ite_self]
  exact hset.finish hopen (iff_of_false hdcd (by rw [href]; exact Option.some_ne_none _))

/-- A waiter is polled that still waits. -/
theorem Agrees.pollLive (h : Agrees g c) (hfl : Floor limits c) (hw : Waiting g.state w)
    (hlive : isAborted g.cancelled w.callerSignal = false) (waitReady : Bool)
    (hdue : waitReady = false → ¬ Overdue limits g w.id) :
    Agrees (pollAcquisition limits w.id waitReady g) (c.step limits (.poll w.id waitReady)) := by
  have hm := h.matched
  obtain ⟨hwtr, hudc, hufn, hudr⟩ := hm.waiting w hw
  have hopen := not_or.mpr ⟨hufn, hudr⟩
  obtain ⟨hwc, hcw, hfr⟩ := h.waiter hfl hw hlive
  have hudc' : c.decision w.id = none := (decision_eq_none_iff _).mpr hfr
  unfold pollAcquisition Controller.step expire
  rw [hwtr]
  dsimp only
  rw [if_neg hopen, hm.results w.id hufn hudr, if_pos hudc, hlive,
    if_neg Bool.false_ne_true]
  cases waitReady with
  | false =>
    have hearl : ¬ (False ∨ limits.maxQueueWaitMs ≤ gatewayElapsedMs g.now w.queuedAt ∨
      False) := by
      rintro (hfls | hover | hfls)
      · exact hfls
      · exact hdue rfl ⟨w, rfl, hw, hlive, hover⟩
      · exact hfls
    rw [if_neg (by simpa using hearl), if_neg Bool.false_ne_true]
    exact h.finish hopen (iff_of_true hudc hudc')
  | true =>
    have hlive' : isAborted c.aborted w.callerSignal = false := by
      rw [← hm.signals]
      exact hlive
    rw [if_pos (.inr (.inr rfl)), if_pos rfl]
    unfold waitTimeout onWaitAbort
    rw [hcw]
    dsimp only
    rw [hlive', if_neg Bool.false_ne_true, settleWaiter_fresh hfr, hm.settle hw,
      h.rotation.detachQueued hw, hm.now, gatewayElapsedMs_eq, ← clamp_localOverload]
    have hsts := h.settles hw (.localOverload .queueWaitTimeout (elapsedMs c.now w.queuedAt))
      (h.rotation.detach hw) (h.rotation.waiting_detach hw)
      (purge_detachWaiter hlive h.rotation.nodup hw)
    rw [h.state] at hsts
    refine hsts.finish hopen (iff_of_false ?_ ?_)
    · exact fun hno => absurd ((gateway_decide_self _ _ _).symm.trans hno)
        (Option.some_ne_none _)
    · exact fun hno => absurd ((gateway_decide_self _ _ _).symm.trans hno)
        (Option.some_ne_none _)

/-- **A poll**, unless the wait is over before its timer has run. -/
theorem Agrees.poll (h : Agrees g c) (hfl : Floor limits c) (id : ℕ) (waitReady : Bool)
    (hdue : waitReady = false → ¬ Overdue limits g id) :
    Agrees (pollAcquisition limits id waitReady g) (c.step limits (.poll id waitReady)) := by
  have hm := h.matched
  cases h.stage hfl id with
  | unknown hg hc hno =>
    have htimeout : waitTimeout id c = c := by
      unfold waitTimeout
      rw [hc]
    unfold pollAcquisition Controller.step
    rw [hg]
    dsimp only
    rw [htimeout, ite_self, take_undecided hno]
    exact h
  | done _ hg hdone =>
    have htkn : id ∈ c.taken := (hm.taken id).mpr hdone
    unfold pollAcquisition Controller.step
    rw [hg]
    dsimp only
    rw [if_pos hdone, hfl.waitTimeout_resolved (hfl.taken id htkn), ite_self,
      take_taken htkn]
    exact h
  | live _ hid hw hlive =>
    subst hid
    exact h.pollLive hfl hw hlive waitReady hdue
  | stale _ hid hw habt =>
    subst hid
    exact h.pollStale hfl hw habt waitReady
  | decided _ _ hg hopen _ hdcd hdcd' =>
    obtain ⟨hfnd, hdrp⟩ := not_or.mp hopen
    have hrsv : id ∈ c.resolvedIds := by
      rw [← decision_isSome_iff, Option.isSome_iff_ne_none]
      exact hdcd'
    unfold pollAcquisition Controller.step
    rw [hg]
    dsimp only
    rw [if_neg hopen, hm.results id hfnd hdrp, if_neg hdcd,
      hfl.waitTimeout_resolved hrsv, ite_self]
    exact h.finish hopen (iff_of_false hdcd hdcd')

/-! ### `release` -/

theorem SameDecision.admitted (h : SameDecision g c id) :
    (g.decision id).any isAdmitted = (c.decision id).any isAdmitted := by
  rcases h with heq | ⟨⟨waitedMs, href⟩, ⟨waitedMs', habt⟩ | ⟨hno, -⟩⟩
  · rw [heq]
    cases c.decision id with
    | none => rfl
    | some d => exact d.clamp_isAdmitted
  · rw [href, habt]
    rfl
  · rw [href, hno]
    rfl

theorem Agrees.giveBack (h : Agrees g c) (id : ℕ) : Agrees
      { g with
        released := id :: g.released
        state := { g.state with active := g.state.active - 1 } }
      { c with
        released := id :: c.released
        state := { c.state with active := c.state.active - 1 } } := by
  have hm := h.matched
  refine ⟨?_, h.rotation.reorder (List.Perm.refl _), ?_, h.stale⟩
  · exact { hm with
      released := congrArg (id :: ·) hm.released
      dropped := fun j hj hadm => List.mem_cons_of_mem _ (hm.dropped j hj hadm) }
  · show _ = { c.state with active := c.state.active - 1 }
    rw [← h.state]
    rfl

/-- **A release.** -/
theorem Agrees.release (h : Agrees g c) (hfl : Floor limits c) (id : ℕ) :
    Agrees (releasePermit limits id g) (release limits id c) := by
  have hm := h.matched
  have hiff : (id ∈ g.permits ∧ id ∉ g.released) ↔
      (id ∈ c.taken ∧ (c.decision id).any isAdmitted = true ∧ id ∉ c.released) := by
    rw [hm.permits, (hm.decisions id).admitted, hm.taken, ← hm.released]
    constructor
    · rintro ⟨⟨hfnd, hadm⟩, hheld⟩
      exact ⟨.inl hfnd, hadm, hheld⟩
    · rintro ⟨hfnd | hdrp, hadm, hheld⟩
      · exact ⟨⟨hfnd, hadm⟩, hheld⟩
      · rw [← (hm.decisions id).admitted] at hadm
        exact absurd (hm.dropped id hdrp hadm) hheld
  unfold releasePermit Admission.release
  by_cases hheld : id ∈ g.permits ∧ id ∉ g.released
  · obtain ⟨htkn, hgrt, hheld'⟩ := hiff.mp hheld
    obtain ⟨-, hfl'⟩ := hfl.giveBack htkn ((mem_grants_iff hfl.once id).mpr hgrt) hheld'
    rw [if_pos hheld, if_pos (hiff.mp hheld)]
    exact (h.giveBack id).pump hfl'
  · rw [if_neg hheld, if_neg (mt hiff.mpr hheld)]
    exact h

/-! ### `drop` -/

/-- A decided acquisition is dropped. -/
theorem Matched.drop (h : Matched g c) (hdcd : g.decision id ≠ none)
    (hrld : (g.decision id).any isAdmitted = true → id ∈ g.released) :
    Matched { g with dropped := id :: g.dropped } { c with taken := id :: c.taken } where
  now := h.now
  signals := h.signals
  nextId := h.nextId
  released := h.released
  taken j := by
    show j ∈ id :: c.taken ↔ j ∈ g.finished ∨ j ∈ id :: g.dropped
    rw [List.mem_cons, List.mem_cons, h.taken]
    exact or_left_comm
  waiters := h.waiters
  known := h.known
  made := h.made
  waiting w hw := by
    obtain ⟨hwtr, hudc, hufn, hudr⟩ := h.waiting w hw
    refine ⟨hwtr, hudc, hufn, fun hmem => ?_⟩
    rcases List.mem_cons.mp hmem with heq | hmem
    · rw [heq] at hudc
      exact hdcd hudc
    · exact hudr hmem
  queued := h.queued
  results j hfnd hdrp :=
    h.results j hfnd fun hmem => hdrp (List.mem_cons_of_mem _ hmem)
  decisions j := (h.decisions j).imp_right fun habt => ⟨habt.1,
    habt.2.imp_right fun hleft => ⟨hleft.1, hleft.2.imp_left (List.mem_cons_of_mem _)⟩⟩
  permits := h.permits
  dropped j hdrp hadm := by
    rcases List.mem_cons.mp hdrp with rfl | hdrp
    · exact hrld hadm
    · exact h.dropped j hdrp hadm

/-- A waiter is dropped. -/
theorem Matched.dropWaiting (h : Matched g c) (hw : Waiting g.state w)
    (hleft : ∀ v, Waiting s v ↔ Waiting g.state v ∧ v ≠ w) (c' : Controller)
    (hsame : SameBooks c c') (htkn : c'.taken = w.id :: c.taken)
    (hoth : ∀ id, id ≠ w.id → c'.decision id = c.decision id)
    (hself : c'.decision w.id = some (.callerAborted waitedMs)) : Matched
      { g with
        dropped := w.id :: g.dropped
        queued := Function.update g.queued w.id false
        state := s } c' := by
  obtain ⟨_, hudc, _, _⟩ := h.waiting w hw
  constructor
  · exact h.now.trans hsame.now.symm
  · exact h.signals.trans hsame.aborted.symm
  · exact h.nextId.trans hsame.nextId.symm
  · exact h.released.trans hsame.released.symm
  · intro j
    show j ∈ c'.taken ↔ j ∈ g.finished ∨ j ∈ w.id :: g.dropped
    rw [htkn, List.mem_cons, List.mem_cons, h.taken]
    exact or_left_comm
  · rw [hsame.waiters]
    exact h.waiters
  · exact h.known
  · exact h.made
  · intro v hv
    obtain ⟨hold, hvw⟩ := h.waiting_ne hw hleft hv
    obtain ⟨hv', hudc', hufn', hudr'⟩ := h.waiting v hold
    refine ⟨hv', hudc', hufn', fun hmem => ?_⟩
    rcases List.mem_cons.mp hmem with heq | hmem
    · exact hvw heq
    · exact hudr' hmem
  · exact fun id v hv => h.queued_left hw hleft hv
  · exact fun j hfnd hdrp =>
      h.results j hfnd fun hmem => hdrp (List.mem_cons_of_mem _ hmem)
  · intro j
    unfold SameDecision
    by_cases heq : j = w.id
    · rw [heq]
      exact .inr ⟨⟨waitedMs, hself⟩, .inr ⟨hudc, .inl List.mem_cons_self⟩⟩
    · rw [hoth j heq]
      exact (h.decisions j).imp_right fun habt => ⟨habt.1,
        habt.2.left heq _ hleft rfl rfl fun _ hj => List.mem_cons_of_mem _ hj⟩
  · exact h.permits
  · intro j hdrp hadm
    rcases List.mem_cons.mp hdrp with rfl | hdrp
    · have hadm' : (g.decision w.id).any isAdmitted = true := hadm
      rw [hudc] at hadm'
      cases hadm'
    · exact h.dropped j hdrp hadm

/-- An acquisition that waits, alive or stale, is dropped. -/
theorem Agrees.dropWaiting (h : Agrees g c) (hw : Waiting g.state w)
    (heq : SameBooks c c') (htkn : c'.taken = w.id :: c.taken)
    (hoth : ∀ id, id ≠ w.id → c'.decision id = c.decision id)
    (hself : c'.decision w.id = some (.callerAborted waitedMs))
    (hsta : (detachWaiter w g.state).purge g.cancelled = c'.state) :
    Agrees (dropAcquisition limits w.id g) c' := by
  have hm := h.matched
  obtain ⟨hwtr, hudc, hufn, hudr⟩ := hm.waiting w hw
  have hleft := h.rotation.waiting_detach hw
  have hqd : ({ g with dropped := w.id :: g.dropped } : Gateway).queued w.id = true :=
    (hm.queued w.id w hwtr).mpr hw
  have hdrop : dropAcquisition limits w.id g =
      { g with
        dropped := w.id :: g.dropped
        queued := Function.update g.queued w.id false
        state := detachWaiter w g.state } := by
    unfold dropAcquisition detach
    rw [hwtr]
    dsimp only
    rw [if_neg (not_or.mpr ⟨hufn, hudr⟩), hm.results w.id hufn hudr,
      hudc, if_neg (by exact Bool.false_ne_true), if_pos hqd,
      ← h.rotation.detachQueued hw]
    rfl
  rw [hdrop]
  exact h.leaves hw (hm.dropWaiting hw hleft c' heq htkn hoth hself)
    (h.rotation.detach hw) hleft
    rfl hsta hoth

theorem Agrees.dropLive (h : Agrees g c) (hfl : Floor limits c) (hw : Waiting g.state w)
    (hlive : isAborted g.cancelled w.callerSignal = false) :
    Agrees (dropAcquisition limits w.id g) (abandon limits w.id c) := by
  have hm := h.matched
  obtain ⟨_, _, hufn, hudr⟩ := hm.waiting w hw
  obtain ⟨hwc, hcw, hfr⟩ := h.waiter hfl hw hlive
  have hunt := hm.untaken (not_or.mpr ⟨hufn, hudr⟩)
  have habt : abortWaiter w.id c = (c.mapState (detachWaiter w)).resolve w.id
      (.callerAborted (elapsedMs c.now w.queuedAt)) := by
    unfold abortWaiter
    rw [hcw]
    exact settleWaiter_fresh hfr _
  have habandon : abandon limits w.id c = { (c.mapState (detachWaiter w)).resolve w.id
      (.callerAborted (elapsedMs c.now w.queuedAt)) with taken := w.id :: c.taken } := by
    unfold abandon
    rw [if_neg hunt, (decision_eq_none_iff _).mpr hfr, if_neg (by exact Bool.false_ne_true),
      habt]
    unfold take
    exact if_pos ⟨Option.isSome_iff_exists.mpr ⟨_, gateway_decide_self _ _ _⟩, hunt⟩
  rw [habandon]
  refine h.dropWaiting hw ⟨rfl, rfl, rfl, rfl, rfl⟩ rfl (fun j hj => gateway_decide_of_ne hj _ _)
    (gateway_decide_self _ _ _) ?_
  rw [purge_detachWaiter hlive h.rotation.nodup hw, h.state]
  rfl

theorem Floor.abortWaiter_resolved (h : Floor limits c) (hrsv : id ∈ c.resolvedIds) :
    abortWaiter id c = c := by
  unfold abortWaiter
  split
  · rfl
  · next w hw => exact h.settleWaiter_resolved hw hrsv _

/-- A caller that has its refusal already only takes it. -/
theorem Floor.abandon_refused (h : Floor limits c) (hunt : id ∉ c.taken)
    (hsome : c.decision id ≠ none) (href : (c.decision id).any isAdmitted ≠ true) :
    abandon limits id c = { c with taken := id :: c.taken } := by
  have hrsv : id ∈ c.resolvedIds := by
    rw [← decision_isSome_iff, Option.isSome_iff_ne_none]
    exact hsome
  unfold abandon
  rw [if_neg hunt, if_neg href, h.abortWaiter_resolved hrsv]
  exact if_pos ⟨(decision_isSome_iff id).mpr hrsv, hunt⟩

theorem Agrees.dropStale (h : Agrees g c) (hfl : Floor limits c) (hw : Waiting g.state w)
    (habt : isAborted g.cancelled w.callerSignal = true) :
    Agrees (dropAcquisition limits w.id g) (abandon limits w.id c) := by
  have hm := h.matched
  obtain ⟨_, _, hufn, hudr⟩ := hm.waiting w hw
  obtain ⟨waitedMs, href⟩ := h.stale w hw habt
  have hunt := hm.untaken (not_or.mpr ⟨hufn, hudr⟩)
  rw [hfl.abandon_refused hunt (by rw [href]; exact Option.some_ne_none _)
    (by rw [href]; exact Bool.false_ne_true)]
  exact h.dropWaiting hw ⟨rfl, rfl, rfl, rfl, rfl⟩ rfl (fun _ _ => rfl) href
    ((h.rotation.purge_detach hw habt).trans h.state)

theorem Agrees.dropped (h : Agrees g c) (hdcd : g.decision id ≠ none)
    (hrld : (g.decision id).any isAdmitted = true → id ∈ g.released) :
    Agrees { g with dropped := id :: g.dropped } { c with taken := id :: c.taken } :=
  ⟨h.matched.drop hdcd hrld, h.rotation, h.state, h.stale⟩

/-- A grant that is not taken goes back. -/
theorem Agrees.dropGrant (h : Agrees g c) (hfl : Floor limits c) (hunt : id ∉ c.taken)
    (hdcd : g.decision id ≠ none) (hgrt : (c.decision id).any isAdmitted = true) :
    Agrees (innerRelease limits id { g with dropped := id :: g.dropped })
      (releaseGrant limits id { c with taken := id :: c.taken }) := by
  have hmem := (mem_grants_iff hfl.once id).mpr hgrt
  have hheld : id ∉ c.released := fun hrld => hunt (hfl.released id hrld).1
  have hfl' : Floor limits { c with taken := id :: c.taken } := by
    have htake := hfl.take id
    unfold take at htake
    rwa [if_pos ⟨by cases hd : c.decision id with
      | none => rw [hd] at hgrt; cases hgrt
      | some d => rfl, hunt⟩] at htake
  obtain ⟨-, hfl''⟩ := hfl'.giveBack List.mem_cons_self hmem hheld
  have hback : Agrees
      { g with
        dropped := id :: g.dropped
        released := id :: g.released
        state := { g.state with active := g.state.active - 1 } }
      { c with
        taken := id :: c.taken
        released := id :: c.released
        state := { c.state with active := c.state.active - 1 } } :=
    (h.giveBack id).dropped hdcd fun _ => List.mem_cons_self
  exact hback.pump hfl''

/-- **A drop.** -/
theorem Agrees.drop (h : Agrees g c) (hfl : Floor limits c) (id : ℕ) :
    Agrees (dropAcquisition limits id g) (abandon limits id c) := by
  have hm := h.matched
  cases h.stage hfl id with
  | unknown hg hc hno =>
    have hunt : id ∉ c.taken := fun htkn =>
      (decision_eq_none_iff id).mp hno (hfl.taken id htkn)
    have habt : abortWaiter id c = c := by
      unfold abortWaiter
      rw [hc]
    unfold dropAcquisition abandon
    rw [hg]
    dsimp only
    rw [if_neg hunt, hno, if_neg (by exact Bool.false_ne_true), habt, take_undecided hno]
    exact h
  | done _ hg hdone =>
    unfold dropAcquisition abandon
    rw [hg]
    dsimp only
    rw [if_pos hdone, if_pos ((hm.taken id).mpr hdone)]
    exact h
  | live _ hid hw hlive =>
    subst hid
    exact h.dropLive hfl hw hlive
  | stale _ hid hw habd =>
    subst hid
    exact h.dropStale hfl hw habd
  | decided w hid hg hopen hnot hdcd hdcd' =>
    obtain ⟨hfnd, hdrp⟩ := not_or.mp hopen
    have hunt := hm.untaken hopen
    have hadm := (hm.decisions id).admitted
    unfold dropAcquisition
    rw [hg]
    dsimp only
    rw [if_neg hopen, hm.results id hfnd hdrp, hadm]
    by_cases hgrt : (c.decision id).any isAdmitted = true
    · rw [if_pos hgrt]
      unfold abandon
      rw [if_neg hunt, if_pos hgrt]
      exact h.dropGrant hfl hunt hdcd hgrt
    · -- a refusal is not taken
      have hunqueued : ({ g with dropped := id :: g.dropped } : Gateway).queued w.id ≠ true := by
        rw [hid]
        exact fun hqd => hnot ((hm.queued id w hg).mp hqd)
      rw [if_neg hgrt, hfl.abandon_refused hunt hdcd' hgrt]
      unfold detach
      rw [if_neg hunqueued]
      refine h.dropped hdcd fun hadm' => ?_
      rw [hadm] at hadm'
      exact absurd hadm' hgrt

/-! ### An abort -/

/-- What the listeners of an aborted signal leave. -/
structure Listened (ws : List Waiter) (c c' : Controller) : Prop where
  rotation : Rotation c'.state
  now : c'.now = c.now
  aborted : c'.aborted = c.aborted
  nextId : c'.nextId = c.nextId
  waiters : c'.waiters = c.waiters
  taken : c'.taken = c.taken
  released : c'.released = c.released
  purge : c'.state.purge c.aborted = c.state.purge c.aborted
  waiting : ∀ v, Waiting c'.state v ↔ Waiting c.state v ∧ v ∉ ws
  settled : ∀ w ∈ ws, Waiting c.state w →
    c'.decision w.id = some (.callerAborted (elapsedMs c.now w.queuedAt))
  other : ∀ id, (∀ w ∈ ws, Waiting c.state w → w.id ≠ id) → c'.decision id = c.decision id

/-- The listeners of an abort take every waiter of it out. -/
theorem Floor.listened : ∀ (waiters : List Waiter) (c : Controller), Floor limits c →
    (∀ w ∈ waiters, isAborted c.aborted w.callerSignal = true ∧ ∃ id, c.waiters id = some w) →
    Listened waiters c (waiters.foldl (fun c waiter => onWaitAbort waiter c) c) := by
  intro waiters
  induction waiters with
  | nil =>
    intro c hfl _
    exact ⟨hfl.rotation, rfl, rfl, rfl, rfl, rfl, rfl, rfl, fun v => by simp,
      fun w hw => absurd hw List.not_mem_nil, fun id _ => rfl⟩
  | cons w waiters ih =>
    intro c hfl hwaiters
    obtain ⟨habd, id, hw⟩ := hwaiters w List.mem_cons_self
    have hrest : ∀ v ∈ waiters,
        isAborted c.aborted v.callerSignal = true ∧ ∃ id, c.waiters id = some v :=
      fun v hv => hwaiters v (List.mem_cons_of_mem _ hv)
    have habt : onWaitAbort w c =
        settleWaiter w (.callerAborted (elapsedMs c.now w.queuedAt)) c := by
      unfold onWaitAbort
      rw [if_pos habd]
    show Listened (w :: waiters) c
      (waiters.foldl (fun c waiter => onWaitAbort waiter c) (onWaitAbort w c))
    rw [habt]
    by_cases hfr : w.id ∈ c.resolvedIds
    · -- the waiter is settled already
      have hnot : ¬ Waiting c.state w := fun hwts => (hfl.waiting w hwts).2 hfr
      have hset : settleWaiter w (.callerAborted (elapsedMs c.now w.queuedAt)) c = c :=
        if_pos hfr
      have htail := ih c hfl hrest
      rw [hset]
      refine ⟨htail.rotation, htail.now, htail.aborted, htail.nextId, htail.waiters, htail.taken,
        htail.released,
        htail.purge, fun v => ?_, fun v hv hwts => ?_, fun j hj => ?_⟩
      · rw [htail.waiting v, List.mem_cons, not_or]
        refine ⟨fun hv => ⟨hv.1, ?_, hv.2⟩, fun hv => ⟨hv.1, hv.2.2⟩⟩
        rintro rfl
        exact hnot hv.1
      · rcases List.mem_cons.mp hv with rfl | hv
        · exact absurd hwts hnot
        · exact htail.settled v hv hwts
      · exact htail.other j fun v hv => hj v (List.mem_cons_of_mem _ hv)
    · have hwts := hfl.waiting_of_fresh hw hfr
      have hgone := hfl.rotation.waiting_detach hwts
      have href : Settles limits c
          (settleWaiter w (.callerAborted (elapsedMs c.now w.queuedAt)) c) :=
        hfl.refuses hwts rfl
      have hsts := hfl.settles href
      rw [settleWaiter_fresh hfr] at hsts ⊢
      have htail := ih _ hsts hrest
      have hoth : ∀ j, j ≠ w.id → ((c.mapState (detachWaiter w)).resolve w.id
          (.callerAborted (elapsedMs c.now w.queuedAt))).decision j = c.decision j :=
        fun j hj => gateway_decide_of_ne hj _ _
      have hid : ∀ v, Waiting (detachWaiter w c.state) v → v.id ≠ w.id := by
        intro v hv hvw
        obtain ⟨hold, hne⟩ := (hgone v).mp hv
        have hv' := (hfl.waiting v hold).1
        rw [hvw, (hfl.waiting w hwts).1] at hv'
        exact hne (Option.some.inj hv').symm
      refine ⟨htail.rotation, htail.now, htail.aborted, htail.nextId, htail.waiters, htail.taken,
        htail.released,
        ?_, fun v => ?_, fun v hv hv' => ?_, fun j hj => ?_⟩
      · exact htail.purge.trans (hfl.rotation.purge_detach hwts habd)
      · rw [htail.waiting v, List.mem_cons, not_or]
        show Waiting (detachWaiter w c.state) v ∧ _ ↔ _
        rw [hgone v, and_assoc]
      · by_cases heq : v = w
        · rw [heq, htail.other w.id fun u _ hu' => ?_]
          · exact gateway_decide_self _ _ _
          · exact hid u hu'
        · refine htail.settled v ((List.mem_cons.mp hv).resolve_left heq) ?_
          exact (hgone v).mpr ⟨hv', heq⟩
      · have hne : j ≠ w.id := fun heq => hj w List.mem_cons_self hwts heq.symm
        rw [htail.other j fun u hu hu' => ?_]
        · exact hoth j hne
        · exact hj u (List.mem_cons_of_mem _ hu) ((hgone u).mp hu').1

theorem isAborted_cons :
    isAborted (σ :: signals) signal = true ↔ signal = some σ ∨ isAborted signals signal = true := by
  cases signal with
  | none => simp [isAborted]
  | some τ => simp [isAborted]

theorem Agrees.listened (h : Agrees g c) (hfl : Floor limits c) (σ : ℕ) :
    Listened (listeners σ c) { c with aborted := σ :: c.aborted } (abortSignal σ c) ∧
      ∀ w, Waiting c.state w → (w ∈ listeners σ c ↔
        isAborted (σ :: g.cancelled) w.callerSignal = true) := by
  have hfl' : Floor limits { c with aborted := σ :: c.aborted } := { hfl with }
  refine ⟨hfl'.listened _ _ fun w hw => ?_, fun w hw => ?_⟩
  · obtain ⟨⟨id, -, hwtr⟩, hsig⟩ := mem_listeners.mp hw
    exact ⟨isAborted_cons.mpr (.inl hsig), id, hwtr⟩
  · have hwtr := (hfl.waiting w hw).1
    rw [mem_listeners, isAborted_cons, ((h.waiting_iff w).mp hw).2]
    simp only [Bool.false_eq_true, or_false, and_iff_right_iff_imp]
    exact fun _ => ⟨w.id, (hfl.known _ _ hwtr).2, hwtr⟩

/-- **An abort** settles its waiters on the one side, and makes them stale on the other. -/
theorem Agrees.abort (h : Agrees g c) (hfl : Floor limits c) (σ : ℕ) :
    Agrees { g with cancelled := σ :: g.cancelled } (abortSignal σ c) := by
  have hm := h.matched
  obtain ⟨hlsn, hlistens⟩ := h.listened hfl σ
  have hmono : ∀ signal, isAborted g.cancelled signal = true →
      isAborted (σ :: g.cancelled) signal = true := fun signal hold =>
        isAborted_cons.mpr (.inr hold)
  have hstl : ∀ w, Waiting g.state w → isAborted (σ :: g.cancelled) w.callerSignal = true →
      ∃ waitedMs, (abortSignal σ c).decision w.id = some (.callerAborted waitedMs) := by
    intro w hw habd
    cases hold : isAborted g.cancelled w.callerSignal with
    | false =>
      have hwc : Waiting c.state w := (h.waiting_iff w).mpr ⟨hw, hold⟩
      exact ⟨_, hlsn.settled w ((hlistens w hwc).mpr habd) hwc⟩
    | true =>
      -- refused before, so that no listener of the signal has settled it
      obtain ⟨waitedMs, href⟩ := h.stale w hw hold
      refine ⟨waitedMs, (hlsn.other w.id fun v _ hv heq => ?_).trans href⟩
      have hv' := ((h.waiting_iff v).mp hv)
      have hsame := (hm.waiting v hv'.1).1
      rw [heq, (hm.waiting w hw).1] at hsame
      cases hsame
      rw [hold] at hv'
      cases hv'.2
  refine ⟨?_, h.rotation, ?_, hstl⟩
  · constructor
    · exact hm.now.trans hlsn.now.symm
    · show σ :: g.cancelled = _
      rw [hlsn.aborted, hm.signals]
    · exact hm.nextId.trans hlsn.nextId.symm
    · exact hm.released.trans hlsn.released.symm
    · rw [hlsn.taken]
      exact hm.taken
    · rw [hlsn.waiters]
      exact hm.waiters
    · exact hm.known
    · exact hm.made
    · exact hm.waiting
    · exact hm.queued
    · exact hm.results
    · intro id
      by_cases hid : Stale { g with cancelled := σ :: g.cancelled } id
      · obtain ⟨w, rfl, hw, habd⟩ := hid
        exact .inr ⟨hstl w hw habd, .inr ⟨(hm.waiting w hw).2.1, .inr ⟨w, rfl, hw, habd⟩⟩⟩
      · have hsame : (abortSignal σ c).decision id = c.decision id := by
          refine hlsn.other id fun w hw hwts heq => hid ⟨w, heq, ?_⟩
          exact ⟨((h.waiting_iff w).mp hwts).1, (hlistens w hwts).mp hw⟩
        unfold SameDecision
        rw [hsame]
        refine (hm.decisions id).imp_right fun habt => ⟨habt.1, habt.2.imp_right fun hno =>
          ⟨hno.1, hno.2.imp_right fun hold => ?_⟩⟩
        obtain ⟨w, hw, hwts, habd⟩ := hold
        exact ⟨w, hw, hwts, hmono _ habd⟩
    · exact hm.permits
    · exact hm.dropped
  · -- nobody aborted is left in the queues of the controller
    have hlive : ∀ w, Waiting (abortSignal σ c).state w →
        isAborted (σ :: c.aborted) w.callerSignal = false := by
      intro w hw
      obtain ⟨hold, hnot⟩ := (hlsn.waiting w).mp hw
      rw [← hm.signals]
      exact Bool.eq_false_of_not_eq_true (mt (hlistens w hold).mpr hnot)
    have hpurge : (abortSignal σ c).state.purge (σ :: c.aborted) =
        c.state.purge (σ :: c.aborted) := hlsn.purge
    show g.state.purge (σ :: g.cancelled) = _
    rw [← purge_purge hmono, h.state, hm.signals, ← hpurge, hlsn.rotation.purge_eq_self hlive]

end UbqGateway.Admission
