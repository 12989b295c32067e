import UbqGateway.Telemetry.QueueInvariant

/-!
# Runs of the optional telemetry queue

Every step keeps the invariant of the queue (`QueueStep.inv`), and once a `close` has given up
nothing is passed to the writer any more (`QueueStep.shutdown`).  Between two turns of the event
loop no job is waiting, and the invariant says what the snapshot of the queue promises
(`telemetry_queue`).
-/

namespace UbqGateway.Telemetry

variable {ε : Type} {options : QueueOptions ε} {s s' : QueueState ε}

/-! ### Calls -/

theorem QueueInv.count (h : QueueInv options s) {counters : QueueCounters}
    (hcounters : counters.enqueued = s.counters.enqueued ∧
      counters.delivered = s.counters.delivered ∧ counters.failed = s.counters.failed ∧
      counters.droppedByAge = s.counters.droppedByAge ∧
      counters.drainTimeouts = s.counters.drainTimeouts) :
    QueueInv options { s with counters := counters } := by
  obtain ⟨henqueued, hdelivered, hfail, hage, htmo⟩ := hcounters
  constructor
  · exact h.accounting.congr rfl rfl rfl rfl rfl ⟨henqueued, hdelivered, hfail, hage⟩
  · refine ⟨h.flags.active, h.flags.current, h.flags.bounded, h.flags.writing, fun hzero => ?_⟩
    exact h.flags.calm (htmo.symm.trans hzero)
  · exact fun hzero => h.drained (htmo.symm.trans hzero)

theorem inHand_congr (hloop : s'.loop = s.loop) : s'.inHand = s.inHand := by
  unfold QueueState.inHand
  rw [hloop]

/-- Expired entries are dropped. -/
theorem QueueInv.dropExpiredQueued (h : QueueInv options s) :
    QueueInv options (dropExpiredQueued options s) := by
  have hctl : SameControl s (Telemetry.dropExpiredQueued options s) := dropExpiredQueued_control s
  have hret : (Telemetry.dropExpiredQueued options s).retainedEntries ≤ s.retainedEntries :=
    dropExpiredQueued_retained s
  have hacct := h.accounting.dropExpiredQueued
  have hnn := hacct.retained_nonneg
  have hhd := inHand_congr hctl.loop
  constructor
  · rw [hhd]
    exact hacct
  · constructor
    · rw [hctl.drainLoopActive, hctl.loop]
      exact h.flags.active
    · rw [hctl.loop, hctl.drain, hctl.nextDrain, hctl.settledDrains,
        hctl.returned]
      exact h.flags.current
    · rw [hctl.nextDrain, hctl.settledDrains, hctl.returned]
      exact h.flags.bounded
    · rw [hhd, hctl.shutdownIncomplete]
      exact h.flags.writing
    · rw [hctl.drainTimeouts, hctl.stalled, hctl.shutdownIncomplete, hctl.closes,
        hctl.closed, hctl.loop]
      intro hzero
      obtain ⟨hstd, hshut, hcls⟩ := h.flags.calm hzero
      refine ⟨hstd, hshut, fun d hd => ⟨(hcls d hd).1, ?_⟩⟩
      exact (hcls d hd).2.imp_left fun hno => by omega
  · intro hzero hloop
    rw [hctl.drainTimeouts] at hzero
    rw [hctl.loop] at hloop
    have hno := h.drained hzero hloop
    omega

/-- Nothing is passed to the writer once a `close` has given up. -/
def ShutDown (s s' : QueueState ε) : Prop :=
  s.shutdownIncomplete = true → s'.shutdownIncomplete = true ∧ s'.written = s.written

theorem startDrain_inv (hshut : s'.shutdownIncomplete = s.shutdownIncomplete)
    (hwr : s'.written = s.written) (hacct : Accounting options s' s'.inHand.toList)
    (hflg : Flags s') :
    QueueInv options (startDrain options s').1 ∧ ShutDown s (startDrain options s').1 := by
  have hstrd := startDrain_spec hacct hflg
  refine ⟨hstrd.inv, fun htrue => ?_⟩
  have htrue' := hshut.trans htrue
  exact ⟨hstrd.shutdownIncomplete.trans htrue', (hstrd.written htrue').trans hwr⟩

section

variable (h : QueueInv options s)

include h

/-- An entry is accepted. -/
theorem acceptEntry_spec (entry : ε) {bytes : ℕ} (hopen : s.closed = false)
    (hents : s.retainedEntries < options.bounds.maxEntries)
    (hby : s.retainedBytes + bytes ≤ options.bounds.maxBytes) :
    QueueInv options (acceptEntry options entry bytes s) ∧
      ShutDown s (acceptEntry options entry bytes s) := by
  have hacct := h.accounting
  have hold := hacct.entries
  have holdBytes := hacct.bytes
  have hcons := hacct.conserved
  unfold acceptEntry
  refine startDrain_inv rfl rfl ?_ ?_
  · have hperm : (s.queued ++ [(⟨s.counters.enqueued, entry, bytes, options.timestamp s.reads⟩ :
        PendingEntry ε)] ++ s.written).Perm
        (⟨s.counters.enqueued, entry, bytes, options.timestamp s.reads⟩ ::
          (s.queued ++ s.written)) := by
      rw [List.append_assoc]
      exact List.perm_middle
    constructor
    · show s.retainedEntries + 1 = ((s.queued ++ [_]).length : ℤ) + s.inFlight.length +
        s.inHand.toList.length
      rw [List.length_append, List.length_singleton]
      omega
    · show s.retainedBytes + bytes = totalBytes (s.queued ++ [_]) + _ + totalBytes s.inHand.toList
      rw [totalBytes_append, totalBytes_cons, totalBytes_nil]
      dsimp only
      omega
    · exact hents
    · exact hby
    · exact hacct.writes
    · show ((s.counters.enqueued + 1 : ℕ) : ℤ) + settledWrites s
        = s.counters.delivered + s.counters.failed + s.counters.droppedByAge +
          (s.retainedEntries + 1)
      push_cast
      omega
    · refine (hperm.map PendingEntry.id).nodup_iff.mpr ?_
      refine List.nodup_cons.mpr ⟨fun hmem => ?_, hacct.ids⟩
      obtain ⟨item, hitem, hid⟩ := List.mem_map.mp hmem
      exact absurd hid (hacct.fresh item hitem).ne
    · intro item hitem
      rcases List.mem_cons.mp (hperm.mem_iff.mp hitem) with rfl | hitem
      · exact Nat.lt_succ_self _
      · exact Nat.lt_succ_of_lt (hacct.fresh item hitem)
  · refine ⟨h.flags.active, h.flags.current, h.flags.bounded, h.flags.writing, fun hzero => ?_⟩
    obtain ⟨hstd, hshut, hcls⟩ := h.flags.calm hzero
    refine ⟨hstd, hshut, fun d hd => ?_⟩
    -- the queue is open, so no `close` has been called
    have hcl := (hcls d hd).1
    rw [hopen] at hcl
    cases hcl

/-- An entry is offered. -/
theorem enqueue_spec (entry : ε) :
    QueueInv options (enqueue options entry s).1 ∧ ShutDown s (enqueue options entry s).1 := by
  have hdrp := h.dropExpiredQueued
  have hctl : SameControl s (dropExpiredQueued options s) := dropExpiredQueued_control s
  have hcl := hctl.closed
  have hshut : ShutDown s (dropExpiredQueued options s) :=
    fun htrue => ⟨hctl.shutdownIncomplete.trans htrue, dropExpiredQueued_written s⟩
  unfold enqueue
  split
  · exact ⟨h.count ⟨rfl, rfl, rfl, rfl, rfl⟩, fun htrue => ⟨htrue, rfl⟩⟩
  · next hopen =>
    dsimp only
    split
    · exact ⟨hdrp.count ⟨rfl, rfl, rfl, rfl, rfl⟩, hshut⟩
    · next size hsize =>
      split
      · exact ⟨hdrp.count ⟨rfl, rfl, rfl, rfl, rfl⟩, hshut⟩
      · next hents =>
        split
        · exact ⟨hdrp.count ⟨rfl, rfl, rfl, rfl, rfl⟩, hshut⟩
        · next hby =>
          have hnn : 0 ≤ size := of_decide_eq_true (Option.filter_eq_some_iff.mp hsize).2
          have hceil : ((⌈size⌉.toNat : ℕ) : ℤ) = ⌈size⌉ :=
            Int.toNat_of_nonneg (Int.ceil_nonneg hnn)
          have haccept := @acceptEntry_spec _ _ _ hdrp entry ⌈size⌉.toNat
            (hcl.trans (Bool.eq_false_of_not_eq_true hopen)) (not_le.mp hents) (by
              rw [hceil]
              exact not_lt.mp hby)
          refine ⟨haccept.1, fun htrue => ?_⟩
          obtain ⟨htrue', hwr⟩ := hshut htrue
          obtain ⟨htrue'', hwr'⟩ := haccept.2 htrue'
          exact ⟨htrue'', hwr'.trans hwr⟩

theorem flush_inv : QueueInv options (flush options s) :=
  (startDrain_spec h.accounting h.flags).inv

/-- The queue is closed. -/
theorem close_inv : QueueInv options (close options s) := by
  have hcl : QueueInv options { s with closed := true } := by
    constructor
    · exact h.accounting.congr rfl rfl rfl rfl rfl ⟨rfl, rfl, rfl, rfl⟩
    · refine ⟨h.flags.active, h.flags.current, h.flags.bounded, h.flags.writing, fun hzero => ?_⟩
      obtain ⟨hstd, hshut, hcls⟩ := h.flags.calm hzero
      exact ⟨hstd, hshut, fun d hd => ⟨rfl, (hcls d hd).2⟩⟩
    · exact h.drained
  have hstrd := startDrain_spec hcl.accounting hcl.flags
  unfold close drainClosed
  split
  · exact hcl
  · generalize startDrain options { s with closed := true } = r at hstrd
    obtain ⟨r, d⟩ := r
    have hinv := hstrd.inv
    constructor
    · exact hinv.accounting.congr rfl rfl rfl rfl rfl ⟨rfl, rfl, rfl, rfl⟩
    · refine ⟨hinv.flags.active, hinv.flags.current, hinv.flags.bounded, hinv.flags.writing,
        fun hzero => ?_⟩
      obtain ⟨hstd, hshut, hcls⟩ := hinv.flags.calm hzero
      refine ⟨hstd, hshut, fun c hc => ?_⟩
      rcases List.mem_cons.mp hc with rfl | hc
      · refine ⟨hstrd.closed, ?_⟩
        rcases hstrd.awaited with hloop | hno
        · exact .inr hloop
        · exact .inl (hno hzero)
      · have hmem : c ∈ r.closes := by
          rw [hstrd.closes]
          exact hc
        exact hcls c hmem
    · exact hinv.drained

end

/-! ### Jobs -/

variable {loop : DrainLoop ε} {item : PendingEntry ε}

theorem inHand_writing (hloop : s.loop = some loop) (hpt : loop.point = .writing item) :
    s.inHand = some item := by
  obtain ⟨d, deadlineAtMs, point⟩ := loop
  cases hpt
  unfold QueueState.inHand
  rw [hloop]

/-- An entry is handed to a write. -/
theorem Accounting.handOver (h : Accounting options s [item]) (settled : Bool) : Accounting options
      { s with
        inFlight := s.inFlight ++ [⟨item, settled⟩]
        counters := { s.counters with failed := s.counters.failed + settled.toNat } } [] := by
  have hents := h.entries
  have hby := h.bytes
  have hwrs := h.writes
  have hcons := h.conserved
  rw [List.length_singleton] at hents hwrs
  rw [totalBytes_cons, totalBytes_nil] at hby
  constructor
  · show s.retainedEntries = (s.queued.length : ℤ) + (s.inFlight ++ [_]).length + _
    rw [List.length_append, List.length_singleton, List.length_nil]
    push_cast
    omega
  · show s.retainedBytes = totalBytes s.queued + totalBytes ((s.inFlight ++ [_]).map _) + _
    rw [List.map_append, totalBytes_append, List.map_singleton, totalBytes_cons, totalBytes_nil]
    dsimp only
    omega
  · exact h.maxEntries
  · exact h.maxBytes
  · show (s.inFlight ++ [_]).length + _ ≤ _
    rw [List.length_append, List.length_singleton, List.length_nil]
    omega
  · have hset : (s.inFlight ++ [InFlightWrite.mk item settled]).countP InFlightWrite.settled
        = settledWrites s + settled.toNat := by
      unfold settledWrites
      cases settled <;> simp
    show (s.counters.enqueued : ℤ) +
        ((s.inFlight ++ [InFlightWrite.mk item settled]).countP InFlightWrite.settled : ℕ)
      = s.counters.delivered + ((s.counters.failed + settled.toNat : ℕ) : ℤ) +
        s.counters.droppedByAge + s.retainedEntries
    rw [hset]
    push_cast
    omega
  · exact h.ids
  · exact h.fresh

theorem wrote_inv (h : QueueInv options s) (threw : Option String) (hloop : s.loop = some loop)
    (hpt : loop.point = .writing item) : QueueInv options (wrote options loop item threw s) := by
  have hhd := inHand_writing hloop hpt
  have hshut : s.shutdownIncomplete = false := by
    apply h.flags.writing
    rw [hhd]
    exact Option.some_ne_none _
  have hrdy := h.flags.ready hloop
  have hacct := h.accounting
  rw [hhd] at hacct
  have hhanded := hacct.handOver threw.isSome
  unfold wrote
  cases threw with
  | none =>
    have hran := @loopDispatch_ran _ _ _ hhanded loop.drain loop.deadlineAtMs hshut
    obtain ⟨hflg, hdrd⟩ := hran.flags
      ⟨hrdy.active, hrdy.drain, hrdy.fresh, hrdy.bounded, hrdy.calm⟩
    exact ⟨hran.accounting, hflg, hdrd⟩
  | some errorClass =>
    have hnext : Accounting options
        { countOutcome (.threw errorClass) s with inFlight := s.inFlight ++ [⟨item, true⟩] } [] :=
      hhanded.congr rfl rfl rfl rfl rfl ⟨rfl, rfl, rfl, rfl⟩
    have hran := @loopDispatch_ran _ _ _ hnext loop.drain loop.deadlineAtMs hshut
    obtain ⟨hflg, hdrd⟩ := hran.flags
      ⟨hrdy.active, hrdy.drain, hrdy.fresh, hrdy.bounded, hrdy.calm⟩
    exact ⟨hran.accounting, hflg, hdrd⟩

theorem countOutcome_counters (outcome : WriteOutcome) (s : QueueState ε) :
    (countOutcome outcome s).counters.delivered + (countOutcome outcome s).counters.failed
        = s.counters.delivered + s.counters.failed + 1 ∧
      (countOutcome outcome s).counters.enqueued = s.counters.enqueued ∧
      (countOutcome outcome s).counters.droppedByAge = s.counters.droppedByAge ∧
      (countOutcome outcome s).counters.drainTimeouts = s.counters.drainTimeouts := by
  cases outcome <;> refine ⟨?_, rfl, rfl, rfl⟩ <;> dsimp only [countOutcome] <;> omega

variable {before after : List (InFlightWrite ε)}

/-- A write is settled. -/
theorem settle_inv (h : QueueInv options s) (outcome : WriteOutcome)
    (hwri : s.inFlight = before ++ ⟨item, false⟩ :: after) :
    QueueInv options (settle before item after outcome s) := by
  obtain ⟨hctd, henqueued, hage, htmo⟩ := countOutcome_counters outcome s
  have hacct := h.accounting
  have hents := hacct.entries
  have hby := hacct.bytes
  have hwrs := hacct.writes
  have hcons := hacct.conserved
  have hrest : (countOutcome outcome s).retainedEntries = s.retainedEntries ∧
      (countOutcome outcome s).retainedBytes = s.retainedBytes ∧
      (countOutcome outcome s).queued = s.queued ∧
        (countOutcome outcome s).written = s.written := by
    cases outcome <;> exact ⟨rfl, rfl, rfl, rfl⟩
  obtain ⟨hret, hretainedBytes, hqd, hwr⟩ := hrest
  have hflg : (settle before item after outcome s).inHand = s.inHand ∧
      Flags (settle before item after outcome s) ∧
        Drained (settle before item after outcome s) := by
    cases outcome <;>
      exact ⟨rfl, ⟨h.flags.active, h.flags.current, h.flags.bounded, h.flags.writing, h.flags.calm⟩,
        h.drained⟩
  refine ⟨?_, hflg.2.1, hflg.2.2⟩
  rw [hflg.1]
  unfold settle
  rw [hwri] at hents hby hwrs
  unfold settledWrites at hcons
  rw [hwri, List.countP_append, List.countP_cons] at hcons
  constructor
  · rw [hret, hqd]
    simpa using hents
  · rw [hretainedBytes, hqd]
    simpa using hby
  · rw [hret]
    exact hacct.maxEntries
  · rw [hretainedBytes]
    exact hacct.maxBytes
  · simpa using hwrs
  · unfold settledWrites
    rw [hret, henqueued, hage, List.countP_append, List.countP_cons]
    simp only [Bool.false_eq_true, if_false, if_true] at hcons ⊢
    push_cast at hcons ⊢
    omega
  · rw [hqd, hwr]
    exact hacct.ids
  · rw [hqd, hwr, henqueued]
    exact hacct.fresh

/-- A settled write is released. -/
theorem release_inv (h : QueueInv options s) (hwri : s.inFlight = before ++ ⟨item, true⟩ :: after) :
    QueueInv options (release before item after s) := by
  have hacct := h.accounting
  have hents := hacct.entries
  have hby := hacct.bytes
  have hwrs := hacct.writes
  have hcons := hacct.conserved
  have hmaxEntries := hacct.maxEntries
  have hmaxBytes := hacct.maxBytes
  rw [hwri, List.length_append, List.length_cons] at hents hwrs
  rw [hwri, List.map_append, totalBytes_append, List.map_cons, totalBytes_cons] at hby
  unfold settledWrites at hcons
  rw [hwri, List.countP_append, List.countP_cons] at hcons
  simp only [if_true] at hcons
  dsimp only at hby
  have hpos : s.retainedEntries ≠ 0 := by omega
  constructor
  · have hhd : (release before item after s).inHand = s.inHand := rfl
    rw [hhd]
    unfold release
    constructor
    · dsimp only [releaseCharge]
      rw [List.length_append]
      omega
    · dsimp only [releaseCharge]
      rw [List.map_append, totalBytes_append]
      omega
    · dsimp only [releaseCharge]
      omega
    · dsimp only [releaseCharge]
      omega
    · dsimp only
      rw [List.length_append]
      omega
    · unfold settledWrites
      dsimp only [releaseCharge]
      rw [List.countP_append]
      push_cast at hcons ⊢
      omega
    · exact hacct.ids
    · exact hacct.fresh
  · refine ⟨h.flags.active, h.flags.current, h.flags.bounded, h.flags.writing, fun hzero => ?_⟩
    obtain ⟨hstd, hshut, hcls⟩ := h.flags.calm hzero
    refine ⟨?_, hshut, fun d hd => ⟨(hcls d hd).1, .inr ?_⟩⟩
    · show (if before ++ after = [] then false else s.stalled) = false
      rw [hstd, ite_self]
    · exact (hcls d hd).2.resolve_left hpos
  · intro hzero hloop
    exact absurd (h.drained hzero hloop) hpos

/-- The drain loop goes on. -/
theorem QueueInv.movePoint (h : QueueInv options s) (hloop : s.loop = some loop)
    (hold : s.inHand = none) (hpt : ∀ item, point ≠ .writing item) :
    QueueInv options { s with loop := some { loop with point := point } } := by
  have hhd : QueueState.inHand { s with loop := some { loop with point := point } } = none := by
    cases point with
    | writing item => exact absurd rfl (hpt item)
    | waiting | resumed => rfl
  have hacct := h.accounting
  rw [hold] at hacct
  constructor
  · rw [hhd]
    exact hacct.congr rfl rfl rfl rfl rfl ⟨rfl, rfl, rfl, rfl⟩
  · constructor
    · have hactv := h.flags.active
      rw [hloop] at hactv
      exact hactv
    · intro loop' hloop'
      cases hloop'
      exact h.flags.current loop hloop
    · exact h.flags.bounded
    · exact fun hsome => absurd hhd hsome
    · intro hzero
      obtain ⟨hstd, hshut, hcls⟩ := h.flags.calm hzero
      refine ⟨hstd, hshut, fun d hd => ⟨(hcls d hd).1, ?_⟩⟩
      rcases (hcls d hd).2 with hret | ⟨loop', hloop', hdr⟩
      · exact .inl hret
      · rw [hloop] at hloop'
        cases hloop'
        exact .inr ⟨_, rfl, hdr⟩
  · intro _ hno
    cases hno

theorem inHand_waiting (hloop : s.loop = some loop) (hpt : ∀ item, loop.point ≠ .writing item) :
    s.inHand = none := by
  obtain ⟨d, deadlineAtMs, point⟩ := loop
  unfold QueueState.inHand
  rw [hloop]
  cases point with
  | writing item => exact absurd rfl (hpt item)
  | waiting | resumed => rfl

theorem resume_inv (h : QueueInv options s) (hloop : s.loop = some loop)
    (hpt : loop.point = .resumed progress) :
    QueueInv options (resume options loop progress s) := by
  have hhd : s.inHand = none := by
    refine inHand_waiting hloop fun item hwrg => ?_
    rw [hpt] at hwrg
    cases hwrg
  have hacct := h.accounting
  rw [hhd] at hacct
  have hrdy := h.flags.ready hloop
  have hran : LoopRan options loop.drain s (resume options loop progress s) := by
    unfold resume
    split
    · exact loopTop_ran hacct
    · exact loopTimeout_ran hacct
  obtain ⟨hflg, hdrd⟩ := hran.flags hrdy
  exact ⟨hran.accounting, hflg, hdrd⟩

variable {d : ℕ}

theorem retire_inv (h : QueueInv options s) (hretd : d ∈ s.returned) :
    QueueInv options (retire d s) := by
  have hcur : ∀ loop, s.loop = some loop → loop.drain ≠ d := by
    rintro loop hloop rfl
    exact (h.flags.current loop hloop).2.2.2 hretd
  constructor
  · exact h.accounting.congr rfl rfl rfl rfl rfl ⟨rfl, rfl, rfl, rfl⟩
  · constructor
    · exact h.flags.active
    · intro loop hloop
      obtain ⟨hdr, hlt, hset, hret⟩ := h.flags.current loop hloop
      have hne := hcur loop hloop
      refine ⟨?_, hlt, ?_, fun hmem => hret (List.mem_of_mem_erase hmem)⟩
      · show (if s.drain = some d then none else s.drain) = some loop.drain
        rw [hdr, if_neg fun heq => hne (Option.some.inj heq)]
      · intro hmem
        rcases List.mem_cons.mp hmem with heq | hmem
        · exact hne heq
        · exact hset hmem
    · intro c hc
      rcases hc with hc | hc
      · rcases List.mem_cons.mp hc with rfl | hc
        · exact h.flags.bounded _ (.inr hretd)
        · exact h.flags.bounded c (.inl hc)
      · exact h.flags.bounded c (.inr (List.mem_of_mem_erase hc))
    · exact h.flags.writing
    · exact h.flags.calm
  · exact h.drained

theorem endClose_inv (h : QueueInv options s) (hhd : s.inHand = none) (hclose : d ∈ s.closes)
    (hset : d ∈ s.settledDrains) : QueueInv options (endClose d s) := by
  constructor
  · exact h.accounting.congr rfl rfl rfl rfl rfl ⟨rfl, rfl, rfl, rfl⟩
  · refine ⟨h.flags.active, h.flags.current, h.flags.bounded, fun hsome => absurd hhd hsome,
      fun hzero => ?_⟩
    obtain ⟨hstd, hshut, hcls⟩ := h.flags.calm hzero
    refine ⟨hstd, ?_, fun c hc => hcls c (List.mem_of_mem_erase hc)⟩
    have hno : s.retainedEntries = 0 := by
      rcases (hcls d hclose).2 with hno | ⟨loop, hloop, hdr⟩
      · exact hno
      · -- the promise of the current drain has not settled
        rw [← hdr] at hset
        exact absurd hset (h.flags.current loop hloop).2.2.1
    obtain ⟨hqd, hinFlight⟩ := h.accounting.empty hno
    show (s.shutdownIncomplete || _) = false
    rw [hshut, hno, hqd, hinFlight]
    simp
  · exact h.drained

/-! ### Runs -/

/-- **One step keeps the invariant.** -/
theorem QueueStep.inv (h : QueueStep options s s') (hinv : QueueInv options s) :
    QueueInv options s' := by
  cases h with
  | enqueue entry => exact (enqueue_spec hinv entry).1
  | flush => exact flush_inv hinv
  | close => exact close_inv hinv
  | wrote _ _ threw hloop hpt => exact wrote_inv hinv threw hloop hpt
  | settle _ _ _ outcome _ hwri => exact settle_inv hinv outcome hwri
  | release _ _ _ _ hwri => exact release_inv hinv hwri
  | race _ _ _ hloop hpt | timer _ _ hloop hpt =>
    have hhd := inHand_waiting hloop fun item hwrg => by
      rw [hpt] at hwrg
      cases hwrg
    exact hinv.movePoint hloop hhd fun item => by simp
  | resume _ _ hloop hpt => exact resume_inv hinv hloop hpt
  | retire _ _ hretd => exact retire_inv hinv hretd
  | endClose _ hjob hclose hset => exact endClose_inv hinv hjob hclose hset

theorem queueInv_initial : QueueInv options (QueueState.initial ε) := by
  constructor
  · constructor
    · rfl
    · rfl
    · exact Int.natCast_nonneg _
    · exact Int.natCast_nonneg _
    · exact Nat.zero_le _
    · rfl
    · exact List.nodup_nil
    · exact fun item hitem => absurd hitem List.not_mem_nil
  · constructor
    · rfl
    · intro loop hloop
      cases hloop
    · intro d hd
      rcases hd with hd | hd
      · exact absurd hd List.not_mem_nil
      · exact absurd hd List.not_mem_nil
    · exact fun hhd => absurd rfl hhd
    · exact fun _ => ⟨rfl, rfl, fun d hd => absurd hd List.not_mem_nil⟩
  · exact fun _ _ => rfl

/-- **Every state that the queue can reach.** -/
theorem QueueReachable.inv (h : QueueReachable options s) : QueueInv options s := by
  induction h with
  | refl => exact queueInv_initial
  | tail _ hstep ih => exact hstep.inv ih

/-- **One step after a `close` has given up** passes nothing to the writer. -/
theorem QueueStep.shutdown (h : QueueStep options s s') (hinv : QueueInv options s)
    (hshut : s.shutdownIncomplete = true) :
    s'.shutdownIncomplete = true ∧ s'.written = s.written := by
  have hhd : s.inHand = none := by
    by_contra hsome
    have hopen := hinv.flags.writing hsome
    rw [hshut] at hopen
    cases hopen
  cases h with
  | enqueue entry => exact (enqueue_spec hinv entry).2 hshut
  | flush => exact (startDrain_inv rfl rfl hinv.accounting hinv.flags).2 hshut
  | close =>
    unfold Telemetry.close drainClosed
    rw [if_pos hshut]
    exact ⟨hshut, rfl⟩
  | wrote _ _ _ hloop hpt =>
    rw [inHand_writing hloop hpt] at hhd
    cases hhd
  | settle _ _ _ outcome =>
    cases outcome <;> exact ⟨hshut, rfl⟩
  | release | race | timer | retire => exact ⟨hshut, rfl⟩
  | resume loop =>
    have hacct := hinv.accounting
    rw [hhd] at hacct
    unfold Telemetry.resume
    split
    · have hran := @loopTop_ran _ _ _ hacct loop.drain loop.deadlineAtMs
      exact ⟨hran.shutdownIncomplete.trans hshut, hran.written hshut⟩
    · exact ⟨hshut, rfl⟩
  | endClose =>
    refine ⟨?_, rfl⟩
    show (s.shutdownIncomplete || _) = true
    rw [hshut]
    rfl

/-- **A run after a `close` has given up** passes nothing to the writer. -/
theorem QueueReachable.shutdown (h : QueueReachable options s)
    (hshut : s.shutdownIncomplete = true)
    (hrun : Relation.ReflTransGen (QueueStep options) s s') :
    s'.shutdownIncomplete = true ∧ s'.written = s.written := by
  induction hrun with
  | refl => exact ⟨hshut, rfl⟩
  | tail hrun hstep ih =>
    have hinv := QueueReachable.inv (h.trans hrun)
    obtain ⟨htrue, hwr⟩ := hstep.shutdown hinv ih.1
    exact ⟨htrue, hwr.trans ih.2⟩

/-- **The optional telemetry queue.**  Between two turns of the event loop the charges are right and
within the bounds, every entry is counted once and passed to the writer at most once, and not after
a `close` has given up, and before the first timeout a queue that is not empty has an active
drain. -/
theorem telemetry_queue (h : QueueReachable options s) :
    (s.BetweenTurns → s.retainedEntries = s.queued.length + s.inFlight.length ∧
      s.retainedEntries ≤ options.bounds.maxEntries ∧
      s.retainedBytes = totalBytes s.queued + totalBytes (s.inFlight.map InFlightWrite.item) ∧
      s.retainedBytes ≤ options.bounds.maxBytes ∧
      s.inFlight.length ≤ options.bounds.maxConcurrentWrites ∧
      (s.counters.enqueued : ℤ) = s.counters.delivered + s.counters.failed +
        s.counters.droppedByAge + s.retainedEntries) ∧
    ((s.queued ++ s.written).map PendingEntry.id).Nodup ∧
    (s.shutdownIncomplete = true → ∀ s', Relation.ReflTransGen (QueueStep options) s s' →
      s'.written = s.written) ∧
    (s.counters.drainTimeouts = 0 → s.queued ≠ [] →
      s.drainLoopActive = true ∧ ∃ loop, s.loop = some loop ∧ s.drain = some loop.drain) := by
  have hinv := QueueReachable.inv h
  have hacct := hinv.accounting
  refine ⟨fun hturn => ?_, hacct.ids, fun hshut s' hrun => ?_, fun hzero hqd => ?_⟩
  · have hset : settledWrites s = 0 := by
      refine List.countP_eq_zero.mpr fun w hw => ?_
      rw [hturn.settled w hw]
      exact Bool.false_ne_true
    have hents := hacct.entries
    have hby := hacct.bytes
    have hwrs := hacct.writes
    have hcons := hacct.conserved
    rw [hturn.writing, Option.toList_none] at hents hby hwrs
    rw [hset] at hcons
    rw [totalBytes_nil] at hby
    rw [List.length_nil] at hents hwrs
    refine ⟨by omega, hacct.maxEntries, by omega, hacct.maxBytes, hwrs, by omega⟩
  · exact (h.shutdown hshut hrun).2
  · cases hloop : s.loop with
    | none => exact absurd (hacct.empty (hinv.drained hzero hloop)).1 hqd
    | some loop =>
      refine ⟨?_, loop, rfl, (hinv.flags.current loop hloop).1⟩
      rw [hinv.flags.active, hloop]
      rfl

/-! ### A run -/

/-- A queue of two entries, one at a time with the writer, whose clock stands. -/
def sampleOptions : QueueOptions String where
  maxEntries := some 2
  maxBytes := none
  maxAgeMs := none
  maxConcurrentWrites := some 1
  maxDrainWaitMs := none
  now := fun _ => some 7
  dateNow := fun _ => 7
  measure := fun entry => some entry.utf8ByteSize

/-- The state after two entries, the first of which is with the writer. -/
def sampleState : QueueState String :=
  (enqueue sampleOptions "b"
    (wrote sampleOptions ⟨0, 5007, .writing ⟨0, "a", 1, 7⟩⟩ ⟨0, "a", 1, 7⟩ none
      (enqueue sampleOptions "a" (QueueState.initial String)).1)).1

theorem telemetry_queue_two : sampleState.retainedEntries = 2 ∧
    sampleState.queued.map PendingEntry.entry = ["b"] ∧
    (sampleState.counters.enqueued : ℤ) = sampleState.counters.delivered +
      sampleState.counters.failed + sampleState.counters.droppedByAge +
      sampleState.retainedEntries := by
  have hrch : QueueReachable sampleOptions sampleState := by
    refine .tail (.tail (.tail .refl (.enqueue "a")) (.wrote _ _ none ?_ rfl)) (.enqueue "b")
    decide +kernel
  have hturn : sampleState.BetweenTurns := by
    have hloop : sampleState.loop = some ⟨0, 5007, .waiting [0]⟩ := by decide +kernel
    constructor
    · unfold QueueState.inHand
      rw [hloop]
    · decide +kernel
    · intro loop progress hloop'
      rw [hloop] at hloop'
      cases hloop'
      exact nofun
    · decide +kernel
    · decide +kernel
  refine ⟨by decide +kernel, by decide +kernel, ?_⟩
  exact ((telemetry_queue hrch).1 hturn).2.2.2.2.2

end UbqGateway.Telemetry
