import UbqGateway.Admission.ControllerRuns
import UbqGateway.Admission.Stale

/-!
# The two admission controllers

The gateway's controller simulates that of `src/inference-admission.ts` (`Agrees`): without the
waiters whose callers have aborted it has the same queues and turns.  An abort settles such waiters
at once in the one and leaves them in the queues of the other, where a poll, a drop or their turn
settles them.  An iteration of `State::pump` for one of them is no step of `admitWaiting`
(`Agrees.pumpStale`), every other one is one (`Agrees.pumpLive`).
-/

namespace UbqGateway.Admission

open AdmissionState Decision

/-- A decision whose waited time is a `u64`. -/
def Decision.clamp : Decision → Decision
  | .admitted waitedMs => .admitted (min waitedMs u64Max)
  | .bypassed => .bypassed
  | .localOverload cause waitedMs => .localOverload cause (min waitedMs u64Max)
  | .callerAborted waitedMs => .callerAborted (min waitedMs u64Max)

@[simp]
theorem Decision.clamp_isAdmitted (d : Decision) : d.clamp.isAdmitted = d.isAdmitted := by
  cases d <;> rfl

theorem Decision.clamp_localOverload (cause : LocalOverloadCause) (waitedMs : ℕ) :
    (localOverload cause waitedMs).clamp = .localOverload cause (min waitedMs u64Max) := rfl

/-- A waiting acquisition whose caller has aborted. -/
def Stale (g : Gateway) (id : ℕ) : Prop :=
  ∃ w, w.id = id ∧ Waiting g.state w ∧ isAborted g.cancelled w.callerSignal = true

/-- What the gateway has of an acquisition that is refused as aborted: the same refusal, maybe with
another waited time, or none, if it was dropped while it waited or waits for its poll. -/
def Gateway.Aborts (g : Gateway) (id : ℕ) : Prop :=
  (∃ waitedMs, g.decision id = some (.callerAborted waitedMs)) ∨
    (g.decision id = none ∧ (id ∈ g.dropped ∨ Stale g id))

/-- The same decision, up to the waited time of an acquisition whose caller has aborted. -/
def SameDecision (g : Gateway) (c : Controller) (id : ℕ) : Prop :=
  g.decision id = (c.decision id).map clamp ∨
    ((∃ waitedMs, c.decision id = some (.callerAborted waitedMs)) ∧ g.Aborts id)

/-- What the two controllers have in common, apart from the queues. -/
structure Matched (g : Gateway) (c : Controller) : Prop where
  now : g.now = c.now
  signals : g.cancelled = c.aborted
  nextId : g.nextId = c.nextId
  released : g.released = c.released
  taken : ∀ id, id ∈ c.taken ↔ id ∈ g.finished ∨ id ∈ g.dropped
  waiters : ∀ id w, c.waiters id = some w → g.waiters id = some w
  known : ∀ id w, g.waiters id = some w → w.id = id ∧ id < g.nextId
  made : ∀ id < g.nextId, ∃ w, g.waiters id = some w
  waiting : ∀ w, Waiting g.state w → g.waiters w.id = some w ∧ g.decision w.id = none ∧
    w.id ∉ g.finished ∧ w.id ∉ g.dropped
  queued : ∀ id w, g.waiters id = some w → (g.queued id = true ↔ Waiting g.state w)
  results : ∀ id, id ∉ g.finished → id ∉ g.dropped → g.results id = g.decision id
  decisions : ∀ id, SameDecision g c id
  permits : ∀ id, id ∈ g.permits ↔ id ∈ g.finished ∧ (g.decision id).any isAdmitted = true
  dropped : ∀ id ∈ g.dropped, (g.decision id).any isAdmitted = true → id ∈ g.released

/-- The queues of one side are those of the other without the waiters whose callers have aborted,
and those are refused as aborted. -/
structure Agrees (g : Gateway) (c : Controller) : Prop where
  matched : Matched g c
  rotation : Rotation g.state
  state : g.state.purge g.cancelled = c.state
  stale : ∀ w, Waiting g.state w → isAborted g.cancelled w.callerSignal = true →
    ∃ waitedMs, c.decision w.id = some (.callerAborted waitedMs)

variable {g : Gateway} {c : Controller}

theorem matched_start : Matched withLimits createInferenceAdmissionController where
  now := rfl
  signals := rfl
  nextId := rfl
  released := rfl
  taken id := by simp [withLimits, createInferenceAdmissionController]
  waiters id w h := by cases h
  known id w h := by cases h
  made id h := absurd h (Nat.not_lt_zero id)
  waiting w h := absurd h (not_waiting_empty w)
  queued id w h := by cases h
  results id _ _ := rfl
  decisions id := .inl rfl
  permits id := by simp [withLimits]
  dropped id h := absurd h List.not_mem_nil

/-- With the same queues, and nobody stale in them, the two agree. -/
theorem Matched.agrees (h : Matched g c) (hsta : g.state = c.state) (hrot : Rotation c.state)
    (hlive : ∀ w, Waiting g.state w → isAborted g.cancelled w.callerSignal = false) :
      Agrees g c := by
  have hrot' : Rotation g.state := by
    rw [hsta]
    exact hrot
  refine ⟨h, hrot', ?_, fun w hw habt => ?_⟩
  · rw [hrot'.purge_eq_self hlive]
    exact hsta
  · rw [hlive w hw] at habt
    cases habt

theorem agrees_start : Agrees withLimits createInferenceAdmissionController :=
  matched_start.agrees rfl rotation_empty fun w h => absurd h (not_waiting_empty w)

theorem not_stale_iff : (∀ id, ¬ Stale g id) ↔
    ∀ w, Waiting g.state w → isAborted g.cancelled w.callerSignal = false := by
  constructor
  · exact fun h w hw => Bool.eq_false_of_not_eq_true fun habt => h w.id ⟨w, rfl, hw, habt⟩
  · rintro h id ⟨w, -, hw, habt⟩
    rw [h w hw] at habt
    cases habt

theorem Agrees.state_eq (h : Agrees g c) (hlive : ∀ id, ¬ Stale g id) : g.state = c.state := by
  rw [← h.state, h.rotation.purge_eq_self (not_stale_iff.mp hlive)]

theorem Agrees.active (h : Agrees g c) : c.state.active = g.state.active := by
  rw [← h.state]
  rfl

/-- Who waits in both is who waits in the gateway, and whose caller has not aborted. -/
theorem Agrees.waiting_iff (h : Agrees g c) (w : Waiter) :
    Waiting c.state w ↔ Waiting g.state w ∧ isAborted g.cancelled w.callerSignal = false := by
  rw [← h.state]
  exact waiting_purge w

theorem gateway_decide_self (id : ℕ) (d : Decision) (l : List (ℕ × Decision)) :
    ((id, d) :: l).lookup id = some d := by
  rw [List.lookup_cons, beq_self_eq_true]

variable {id : ℕ}

theorem gateway_decide_of_ne (h : j ≠ id) (d : Decision) (l : List (ℕ × Decision)) :
    ((id, d) :: l).lookup j = l.lookup j := by
  rw [List.lookup_cons, beq_eq_false_iff_ne.mpr h]

/-! ### A waiter leaves -/

/-- The gateway after a waiter is settled, with the queues `s`. -/
def Gateway.settled (waiter : Waiter) (d : Decision) (s : AdmissionState) (g : Gateway) : Gateway :=
  Gateway.decide waiter d
    { g with state := s, queued := Function.update g.queued waiter.id false }

/-- Clock, signals, requests and releases stay. -/
structure SameBooks (c c' : Controller) : Prop where
  now : c'.now = c.now
  aborted : c'.aborted = c.aborted
  nextId : c'.nextId = c.nextId
  waiters : c'.waiters = c.waiters
  released : c'.released = c.released

section

variable (h : Matched g c) (hw : Waiting g.state w)
  (hleft : ∀ v, Waiting s v ↔ Waiting g.state v ∧ v ≠ w)

include h hw hleft

theorem Matched.waiting_ne (hv : Waiting s v) : Waiting g.state v ∧ v.id ≠ w.id := by
  obtain ⟨hold, hvw⟩ := (hleft v).mp hv
  refine ⟨hold, fun hid => hvw ?_⟩
  have hv' := (h.waiting v hold).1
  rw [hid, (h.waiting w hw).1] at hv'
  exact (Option.some.inj hv').symm

theorem Matched.queued_left (hv : g.waiters id = some v) :
    Function.update g.queued w.id false id = true ↔ Waiting s v := by
  have hvid := (h.known id v hv).1
  by_cases heq : id = w.id
  · rw [heq, Function.update_self]
    refine ⟨fun hfls => absurd hfls Bool.false_ne_true, fun hwts => ?_⟩
    exact absurd (hvid.trans heq) (h.waiting_ne hw hleft hwts).2
  · rw [Function.update_of_ne heq, h.queued id v hv, hleft v]
    refine ⟨fun hwts => ⟨hwts, ?_⟩, fun hwts => hwts.1⟩
    rintro rfl
    exact heq hvid.symm

end

theorem stale_left (hleft : ∀ v, Waiting s v ↔ Waiting g.state v ∧ v ≠ w) (g' : Gateway)
    (hsta : g'.state = s) (hcan : g'.cancelled = g.cancelled) (hid : id ≠ w.id)
    (h : Stale g id) : Stale g' id := by
  obtain ⟨v, rfl, hv, hsig⟩ := h
  refine ⟨v, rfl, ?_, by rw [hcan]; exact hsig⟩
  rw [hsta, hleft]
  refine ⟨hv, ?_⟩
  rintro rfl
  exact hid rfl

theorem Gateway.Aborts.left (h : g.Aborts id) (hid : id ≠ w.id) (g' : Gateway)
    (hleft : ∀ v, Waiting g'.state v ↔ Waiting g.state v ∧ v ≠ w)
    (hcan : g'.cancelled = g.cancelled) (hdec : g'.decision id = g.decision id)
    (hdrp : ∀ j ∈ g.dropped, j ∈ g'.dropped) : g'.Aborts id := by
  rcases h with ⟨waitedMs, habt⟩ | ⟨hno, hdrp' | hstl⟩
  · exact .inl ⟨waitedMs, hdec.trans habt⟩
  · exact .inr ⟨hdec.trans hno, .inl (hdrp id hdrp')⟩
  · exact .inr ⟨hdec.trans hno, .inr (stale_left hleft g' rfl hcan hid hstl)⟩

/-- A waiter is decided on the one side as on the other, or aborted on both. -/
theorem Matched.settles (h : Matched g c) (hw : Waiting g.state w) (d d' : Decision)
    (hagr : d = d'.clamp ∨ ∃ waitedMs waitedMs', d = .callerAborted waitedMs ∧
      d' = .callerAborted waitedMs')
    (hleft : ∀ v, Waiting s v ↔ Waiting g.state v ∧ v ≠ w) (c' : Controller)
    (hsame : SameBooks c c') (htkn : c'.taken = c.taken)
    (hoth : ∀ id, id ≠ w.id → c'.decision id = c.decision id)
    (hself : c'.decision w.id = some d') : Matched (g.settled w d s) c' := by
  obtain ⟨_, _, hufn, hudr⟩ := h.waiting w hw
  have hself' : (g.settled w d s).decision w.id = some d := gateway_decide_self _ _ _
  have hoth' : ∀ id, id ≠ w.id → (g.settled w d s).decision id = g.decision id :=
    fun id hid => gateway_decide_of_ne hid _ _
  constructor
  · exact h.now.trans hsame.now.symm
  · exact h.signals.trans hsame.aborted.symm
  · exact h.nextId.trans hsame.nextId.symm
  · exact h.released.trans hsame.released.symm
  · rw [htkn]
    exact h.taken
  · rw [hsame.waiters]
    exact h.waiters
  · exact h.known
  · exact h.made
  · intro v hv
    obtain ⟨hold, hid⟩ := h.waiting_ne hw hleft hv
    rw [hoth' v.id hid]
    exact h.waiting v hold
  · exact fun id v hv => h.queued_left hw hleft hv
  · intro id hfnd hdrp
    show Function.update g.results w.id (some d) id = _
    by_cases heq : id = w.id
    · rw [heq, Function.update_self, hself']
    · rw [Function.update_of_ne heq, hoth' id heq]
      exact h.results id hfnd hdrp
  · intro id
    unfold SameDecision
    by_cases heq : id = w.id
    · rw [heq, hself, hself']
      rcases hagr with rfl | ⟨waitedMs, waitedMs', rfl, rfl⟩
      · exact .inl rfl
      · exact .inr ⟨⟨waitedMs', rfl⟩, .inl ⟨waitedMs, hself'⟩⟩
    · rw [hoth id heq, hoth' id heq]
      exact (h.decisions id).imp_right fun habt => ⟨habt.1,
        habt.2.left heq _ hleft rfl (hoth' id heq) fun _ hj => hj⟩
  · intro id
    by_cases heq : id = w.id
    · have hold := h.permits id
      rw [heq] at hold ⊢
      refine ⟨fun hpermit => absurd (hold.mp hpermit).1 hufn, fun hfnd => ?_⟩
      exact absurd hfnd.1 hufn
    · rw [hoth' id heq]
      exact h.permits id
  · intro id hdrp hadm
    by_cases heq : id = w.id
    · rw [heq] at hdrp
      exact absurd hdrp hudr
    · rw [hoth' id heq] at hadm
      exact h.dropped id hdrp hadm

/-- A waiter leaves the gateway's queues, and those of the controller if it is in them. -/
theorem Agrees.leaves (h : Agrees g c) (hw : Waiting g.state w) (hmatched : Matched g' c')
    (hrot : Rotation g'.state) (hleft : ∀ v, Waiting g'.state v ↔ Waiting g.state v ∧ v ≠ w)
    (hcan : g'.cancelled = g.cancelled) (hsta : g'.state.purge g.cancelled = c'.state)
    (hdec : ∀ id, id ≠ w.id → c'.decision id = c.decision id) : Agrees g' c' := by
  refine ⟨hmatched, hrot, ?_, fun v hv habt => ?_⟩
  · rw [hcan]
    exact hsta
  · obtain ⟨hold, hid⟩ := h.matched.waiting_ne hw hleft hv
    rw [hcan] at habt
    rw [hdec v.id hid]
    exact h.stale v hold habt

/-- A waiter of both is settled on both sides. -/
theorem Agrees.settles (h : Agrees g c) (hw : Waiting g.state w) (d : Decision)
    (hrot : Rotation s) (hleft : ∀ v, Waiting s v ↔ Waiting g.state v ∧ v ≠ w)
    (hsta : s.purge g.cancelled = s') :
    Agrees (g.settled w d.clamp s) ((c.mapState fun _ => s').resolve w.id d) := by
  have hoth : ∀ id, id ≠ w.id →
      ((c.mapState fun _ => s').resolve w.id d).decision id = c.decision id :=
    fun id hid => gateway_decide_of_ne hid _ _
  refine h.leaves hw ?_ hrot hleft rfl hsta hoth
  exact h.matched.settles hw d.clamp d (.inl rfl) hleft _ ⟨rfl, rfl, rfl, rfl, rfl⟩ rfl hoth
    (gateway_decide_self _ _ _)

/-- A waiter that is refused as aborted already is refused so by the gateway. -/
theorem Agrees.settlesStale (h : Agrees g c) (hw : Waiting g.state w)
    (habt : isAborted g.cancelled w.callerSignal = true) (waitedMs : ℕ) :
    Agrees (g.settled w (.callerAborted waitedMs) (detachWaiter w g.state)) c := by
  have hleft := h.rotation.waiting_detach hw
  obtain ⟨waitedMs', href⟩ := h.stale w hw habt
  refine h.leaves hw ?_ (h.rotation.detach hw) hleft rfl ?_ fun _ _ => rfl
  · exact h.matched.settles hw _ _ (.inr ⟨waitedMs, waitedMs', rfl, rfl⟩) hleft c
      ⟨rfl, rfl, rfl, rfl, rfl⟩ rfl (fun _ _ => rfl) href
  · exact (h.rotation.purge_detach hw habt).trans h.state

theorem Matched.settle (h : Matched g c) (hw : Waiting g.state w) (d : Decision) :
    settle w d g = g.settled w d (detachQueued w g.state) := by
  have hqd := (h.queued w.id w (h.waiting w hw).1).mpr hw
  unfold Admission.settle detach
  rw [if_pos hqd]
  rfl

/-! ### The loops -/

theorem refuse_shifted (hqd : g.queued w.id = true) (d : Decision)
    (turnOrder : List (Option String)) : refuse w w.principal d (g.mapState (withTurns turnOrder)) =
      g.settled w d (unshiftTurn w.principal (detachQueued w (g.state.withTurns turnOrder))) := by
  have hqd' : (g.mapState (withTurns turnOrder)).queued w.id = true := hqd
  unfold refuse settle detach
  rw [if_pos hqd']
  rfl

theorem admitHead_shifted (hqd : g.queued w.id = true) (waited : ℕ)
    (turnOrder : List (Option String)) :
    admitHead w w.principal waited (g.mapState (withTurns turnOrder)) =
      g.settled w (.admitted waited)
        (pushTurn w.principal (detachQueued w (g.state.withTurns turnOrder).grant)) := by
  have hqd' : ((g.mapState (withTurns turnOrder)).mapState grant).queued w.id = true := hqd
  unfold admitHead settle detach
  rw [if_pos hqd']
  rfl

theorem refuseWaiter_shifted (hfr : w.id ∉ c.resolvedIds) (d : Decision)
    (turnOrder : List (Option String)) :
    refuseWaiter w w.principal d (c.mapState (withTurns turnOrder)) =
      (c.mapState fun _ =>
        unshiftTurn w.principal (detachWaiter w (c.state.withTurns turnOrder))).resolve w.id d := by
  unfold refuseWaiter
  rw [settleWaiter_fresh (c := c.mapState (withTurns turnOrder)) hfr]
  rfl

theorem grantWaiter_shifted (hfr : w.id ∉ c.resolvedIds) (waitedMs : ℕ)
    (turnOrder : List (Option String)) :
    grantWaiter w w.principal waitedMs (c.mapState (withTurns turnOrder)) =
      (c.mapState fun _ => pushTurn w.principal
        (detachWaiter w (c.state.withTurns turnOrder).grant)).resolve w.id
          (.admitted waitedMs) := by
  unfold grantWaiter admitOne
  rw [settleWaiter_fresh (c := (c.mapState (withTurns turnOrder)).mapState grant) hfr]
  rfl

variable {turnOrder : List (Option String)}

section

variable (h : Agrees g c) (hw : Waiting g.state w)
  (htrn : g.state.turnOrder = w.principal :: turnOrder)

include h hw htrn

theorem Agrees.refuse_eq (d : Decision) :
    refuse w w.principal d (g.mapState (withTurns turnOrder)) =
    g.settled w d (detachWaiter w g.state) := by
  have hqd := (h.matched.queued w.id w (h.matched.waiting w hw).1).mpr hw
  have hdetach : detachQueued w (g.state.withTurns turnOrder) =
      detachWaiter w (g.state.withTurns turnOrder) :=
    detachQueued_eq (h.rotation.turns_nodup htrn).2 (h.rotation.distinct w.principal) hw
  rw [refuse_shifted hqd, hdetach, h.rotation.refuse hw htrn]

/-- **An iteration for a waiter whose caller has aborted** is no step of the controller. -/
theorem Agrees.pumpStale (limits : InferenceAdmissionLimits)
    (hhead : (g.state.waitingByPrincipal.lookup w.principal).bind List.head? = some w)
    (habt : isAborted g.cancelled w.callerSignal = true) :
    Agrees (pumpTurn limits w.principal (g.mapState (withTurns turnOrder))) c ∧
      (pumpTurn limits w.principal (g.mapState (withTurns turnOrder))).state =
        detachWaiter w g.state := by
  have hhead' : ((g.mapState (withTurns turnOrder)).state.waitingByPrincipal.lookup
      w.principal).bind List.head? = some w := hhead
  have habt' : isAborted (g.mapState (withTurns turnOrder)).cancelled w.callerSignal = true :=
    habt
  have hturn : pumpTurn limits w.principal (g.mapState (withTurns turnOrder)) =
      g.settled w (.callerAborted (gatewayElapsedMs g.now w.queuedAt))
        (detachWaiter w g.state) := by
    unfold Admission.pumpTurn refusal
    rw [hhead']
    dsimp only
    rw [if_pos habt']
    exact h.refuse_eq hw htrn _
  rw [hturn]
  exact ⟨h.settlesStale hw habt _, rfl⟩

variable (hlive : isAborted g.cancelled w.callerSignal = false)

include hlive

/-- The turn of a waiter of both is at the front on both sides. -/
theorem Agrees.front : ∃ turnOrder', c.state.turnOrder = w.principal :: turnOrder' ∧
    (g.state.withTurns turnOrder).purge g.cancelled = c.state.withTurns turnOrder' := by
  obtain ⟨queue, hqu, -⟩ := (h.waiting_iff w).mpr ⟨hw, hlive⟩
  have hsome : ((g.state.waitingByPrincipal.filterMap (liveQueue g.cancelled)).lookup
      w.principal).isSome = true := by
    show ((g.state.purge g.cancelled).waitingByPrincipal.lookup w.principal).isSome = true
    rw [h.state, hqu]
    rfl
  refine ⟨turnOrder.filter fun p =>
    ((g.state.waitingByPrincipal.filterMap (liveQueue g.cancelled)).lookup p).isSome, ?_, ?_⟩
  · rw [← h.state]
    show g.state.turnOrder.filter _ = _
    rw [htrn, List.filter_cons, if_pos hsome]
  · rw [← h.state]
    rfl

variable (hfl : Floor limits c)

include hfl

theorem Agrees.refuses (htrn' : c.state.turnOrder = w.principal :: turnOrder') (d : Decision) :
    Agrees (refuse w w.principal d.clamp (g.mapState (withTurns turnOrder)))
      (refuseWaiter w w.principal d (c.mapState (withTurns turnOrder'))) := by
  have hwc : Waiting c.state w := (h.waiting_iff w).mpr ⟨hw, hlive⟩
  rw [h.refuse_eq hw htrn, refuseWaiter_shifted (hfl.waiting w hwc).2,
    hfl.rotation.refuse hwc htrn']
  refine h.settles hw d (h.rotation.detach hw) (h.rotation.waiting_detach hw) ?_
  rw [purge_detachWaiter hlive h.rotation.nodup hw, h.state]

/-- Both sides grant the same waiter. -/
theorem Agrees.grants (hshifted : (g.state.withTurns turnOrder).purge g.cancelled =
      c.state.withTurns turnOrder') (waitedMs : ℕ) :
    Agrees (admitHead w w.principal (min waitedMs u64Max) (g.mapState (withTurns turnOrder)))
      (grantWaiter w w.principal waitedMs (c.mapState (withTurns turnOrder'))) ∧
    (admitHead w w.principal (min waitedMs u64Max)
      (g.mapState (withTurns turnOrder))).state.waitingCount =
        (detachWaiter w g.state).waitingCount := by
  have hwc : Waiting c.state w := (h.waiting_iff w).mpr ⟨hw, hlive⟩
  have hqd := (h.matched.queued w.id w (h.matched.waiting w hw).1).mpr hw
  have hrest := (h.rotation.turns_nodup htrn).2
  have hdetach : detachQueued w (g.state.withTurns turnOrder).grant =
      detachWaiter w (g.state.withTurns turnOrder).grant :=
    detachQueued_eq hrest (h.rotation.distinct w.principal) hw
  have hpurged : (g.state.withTurns turnOrder).grant.purge g.cancelled =
      (c.state.withTurns turnOrder').grant := by
    rw [← hshifted]
    rfl
  obtain ⟨turns, hperm, hgrt⟩ := h.rotation.grant hw htrn
  rw [admitHead_shifted hqd, grantWaiter_shifted (hfl.waiting w hwc).2, hdetach]
  constructor
  · refine h.settles (s := pushTurn w.principal
      (detachWaiter w (g.state.withTurns turnOrder).grant))
      hw (.admitted waitedMs) ?_ ?_ ?_
    · rw [hgrt]
      exact (h.rotation.detach hw).reorder hperm
    · rw [hgrt]
      exact h.rotation.waiting_detach hw
    · rw [purge_pushTurn, purge_detachWaiter (s := (g.state.withTurns turnOrder).grant) hlive hrest
        hw,
        hpurged]
  · show (pushTurn w.principal (detachWaiter w (g.state.withTurns turnOrder).grant)).waitingCount =
      _
    rw [hgrt]

end

/-- **One iteration of both loops**, for the waiter whose turn it is in both. -/
theorem Agrees.pumpLive (h : Agrees g c) (hfl : Floor limits c) (hw : Waiting g.state w)
    (hhead : (g.state.waitingByPrincipal.lookup w.principal).bind List.head? = some w)
    (htrn : g.state.turnOrder = w.principal :: turnOrder)
    (hlive : isAborted g.cancelled w.callerSignal = false) :
    ∃ turnOrder', c.state.turnOrder = w.principal :: turnOrder' ∧
      Agrees (pumpTurn limits w.principal (g.mapState (withTurns turnOrder)))
        (admitTurn limits w.principal (c.mapState (withTurns turnOrder'))) ∧
      (pumpTurn limits w.principal (g.mapState (withTurns turnOrder))).state.waitingCount =
        (detachWaiter w g.state).waitingCount := by
  obtain ⟨turnOrder', htrn', hshifted⟩ := h.front hw htrn hlive
  have hhead' : ((c.mapState (withTurns turnOrder')).state.waitingByPrincipal.lookup
      w.principal).bind List.head? = some w := by
    show (c.state.waitingByPrincipal.lookup w.principal).bind List.head? = some w
    rw [← h.state]
    exact purge_head hlive hhead
  have hhead'' : ((g.mapState (withTurns turnOrder)).state.waitingByPrincipal.lookup
      w.principal).bind List.head? = some w := hhead
  have hlive' : isAborted (c.mapState (withTurns turnOrder')).aborted w.callerSignal = false := by
    rw [← hlive, h.matched.signals]
    rfl
  have hlive'' : isAborted (g.mapState (withTurns turnOrder)).cancelled
      w.callerSignal = false := hlive
  have helapsed : gatewayElapsedMs (g.mapState (withTurns turnOrder)).now w.queuedAt =
      min (elapsedMs (c.mapState (withTurns turnOrder')).now w.queuedAt) u64Max := by
    rw [show (g.mapState (withTurns turnOrder)).now = c.now from h.matched.now, gatewayElapsedMs_eq]
    rfl
  have hover : limits.maxQueueWaitMs ≤ gatewayElapsedMs (g.mapState (withTurns turnOrder)).now
      w.queuedAt ↔ limits.maxQueueWaitMs ≤
        elapsedMs (c.mapState (withTurns turnOrder')).now w.queuedAt := by
    rw [show (g.mapState (withTurns turnOrder)).now = c.now from h.matched.now]
    exact le_gatewayElapsedMs limits _ _
  refine ⟨turnOrder', htrn', ?_⟩
  unfold Admission.pumpTurn admitTurn refusal
  rw [hhead', hhead'']
  dsimp only
  rw [hlive', hlive'', if_neg Bool.false_ne_true, if_neg Bool.false_ne_true]
  by_cases hlong : limits.maxQueueWaitMs ≤ elapsedMs
    (c.mapState (withTurns turnOrder')).now w.queuedAt
  · rw [if_pos hlong, if_pos (hover.mpr hlong), helapsed, ← clamp_localOverload]
    refine ⟨h.refuses hw htrn hlive hfl htrn' _, ?_⟩
    dsimp only
    rw [h.refuse_eq hw htrn]
    rfl
  · rw [if_neg hlong, if_neg (mt hover.mp hlong), helapsed]
    exact h.grants hw htrn hlive hfl hshifted _

theorem Agrees.idle (h : Agrees g c) (hfl : Floor limits c)
    (hidle : ¬ (g.state.active < limits.maxActive ∧ 0 < g.state.waitingCount)) (fuel : ℕ) :
    admitWaitingLoop limits fuel c = c := by
  cases fuel with
  | zero => rfl
  | succ fuel =>
    unfold Admission.admitWaitingLoop
    refine if_neg fun hbusy => hidle ⟨?_, ?_⟩
    · rw [← h.active]
      exact hbusy.1
    · obtain ⟨p, hp⟩ := List.exists_mem_of_ne_nil _ (hfl.rotation.exists_turn hbusy.2)
      obtain ⟨w, -, -, hw⟩ := hfl.rotation.head hp
      exact h.rotation.count_pos ((h.waiting_iff w).mp hw).1

/-- **Both loops** to their end. -/
theorem Agrees.pumpLoop : ∀ (fuel fuel' : ℕ) (g : Gateway) (c : Controller), Agrees g c →
    Floor limits c → g.state.waitingCount ≤ fuel → c.state.waitingCount ≤ fuel' →
      Agrees (pumpLoop limits fuel g) (admitWaitingLoop limits fuel' c) := by
  intro fuel
  induction fuel with
  | zero =>
    intro fuel' g c h hfl hfuel _
    rw [h.idle hfl fun hbusy => absurd hbusy.2 (by omega)]
    exact h
  | succ _ ih =>
    intro fuel' g c h hfl hfuel hfuel'
    unfold Admission.pumpLoop
    by_cases hbusy : g.state.active < limits.maxActive ∧ 0 < g.state.waitingCount
    · rw [if_pos hbusy]
      cases htrn : g.state.turnOrder with
      | nil => exact absurd htrn (h.rotation.exists_turn hbusy.2)
      | cons p turnOrder =>
        obtain ⟨w, hhead, rfl, hw⟩ := h.rotation.head (by rw [htrn]; exact List.mem_cons_self)
        have hcnt := h.rotation.detach_count hw
        cases habt : isAborted g.cancelled w.callerSignal with
        | true =>
          obtain ⟨hstep, hsta⟩ := h.pumpStale hw htrn limits hhead habt
          refine ih fuel' _ _ hstep hfl ?_ hfuel'
          rw [hsta]
          omega
        | false =>
          obtain ⟨turnOrder', htrn', hstep, hsta⟩ := h.pumpLive hfl hw hhead htrn habt
          have hpos := hfl.rotation.count_pos ((h.waiting_iff w).mpr ⟨hw, habt⟩)
          have hfree : c.state.active < limits.maxActive := by
            rw [h.active]
            exact hbusy.1
          have hsts := hfl.admitTurn htrn' hfree
          have hcnt' := hsts.count hfl
          obtain ⟨fuel', rfl⟩ := Nat.exists_eq_succ_of_ne_zero (n := fuel') (by omega)
          unfold Admission.admitWaitingLoop
          rw [if_pos ⟨hfree, hpos⟩, htrn']
          exact ih fuel' _ _ hstep (hfl.settles hsts) (by omega) (by omega)
    · rw [if_neg hbusy, h.idle hfl hbusy]
      exact h

theorem Agrees.pump (h : Agrees g c) (hfl : Floor limits c) :
    Agrees (pump limits g) (admitWaiting limits c) :=
  Agrees.pumpLoop _ _ g c h hfl (Nat.le_add_right _ _) (Nat.le_add_right _ _)

end UbqGateway.Admission
