import UbqGateway.Telemetry.OptionalTelemetryQueue
import Mathlib.Algebra.Order.BigOperators.Group.List

/-!
# Invariants of the optional telemetry queue

Two invariants hold in every state that the queue can reach.  `Accounting` says where each accepted
entry is and that the charges and counters agree with it; `Control` says what the flags of the
drains mean.  Both are proved for the two loops of a drain first (`dispatchQueued`, `loopTop`), and
then for every step.
-/

namespace UbqGateway.Telemetry

/-! ### Charges -/

@[simp]
theorem totalBytes_nil : totalBytes ([] : List (PendingEntry ε)) = 0 := rfl

@[simp]
theorem totalBytes_cons (item : PendingEntry ε) (items : List (PendingEntry ε)) :
    totalBytes (item :: items) = item.bytes + totalBytes items := by
  simp [totalBytes]

@[simp]
theorem totalBytes_append (items items' : List (PendingEntry ε)) :
    totalBytes (items ++ items') = totalBytes items + totalBytes items' := by
  simp [totalBytes]

theorem totalBytes_filter_add (p : PendingEntry ε → Prop) [DecidablePred p]
    (items : List (PendingEntry ε)) : totalBytes (items.filter fun item => decide (p item)) +
      totalBytes (items.filter fun item => decide (¬ p item)) = totalBytes items := by
  induction items with
  | nil => rfl
  | cons item items ih =>
    by_cases hp : p item
    · simp only [List.filter_cons, hp, decide_true, if_true, not_true, decide_false,
        Bool.false_eq_true, if_false, totalBytes_cons]
      omega
    · simp only [List.filter_cons, hp, decide_false, Bool.false_eq_true, if_false,
        not_false_eq_true,
        decide_true, if_true, totalBytes_cons]
      omega

theorem length_filter_add (p : PendingEntry ε → Prop) [DecidablePred p]
    (items : List (PendingEntry ε)) : (items.filter fun item => decide (p item)).length +
      (items.filter fun item => decide (¬ p item)).length = items.length := by
  induction items with
  | nil => rfl
  | cons item items ih =>
    by_cases hp : p item
    · simp only [List.filter_cons, hp, decide_true, if_true, not_true, decide_false,
        Bool.false_eq_true, if_false, List.length_cons]
      omega
    · simp only [List.filter_cons, hp, decide_false, Bool.false_eq_true, if_false,
        not_false_eq_true,
        decide_true, if_true, List.length_cons]
      omega

/-- The writes that have settled and are still charged. -/
def settledWrites (s : QueueState ε) : ℕ := s.inFlight.countP InFlightWrite.settled

/-- The entries that were accepted and not dropped are queued or were passed to the writer, the
latter are in flight, in the hands of a loop (`hand`), or released; charges and counters agree. -/
structure Accounting (options : QueueOptions ε) (s : QueueState ε) (hand : List (PendingEntry ε)) :
    Prop where
  entries : s.retainedEntries = s.queued.length + s.inFlight.length + hand.length
  bytes : s.retainedBytes = totalBytes s.queued + totalBytes (s.inFlight.map InFlightWrite.item) +
    totalBytes hand
  maxEntries : s.retainedEntries ≤ options.bounds.maxEntries
  maxBytes : s.retainedBytes ≤ options.bounds.maxBytes
  writes : s.inFlight.length + hand.length ≤ options.bounds.maxConcurrentWrites
  conserved : (s.counters.enqueued : ℤ) + settledWrites s
    = s.counters.delivered + s.counters.failed + s.counters.droppedByAge + s.retainedEntries
  ids : ((s.queued ++ s.written).map PendingEntry.id).Nodup
  fresh : ∀ item ∈ s.queued ++ s.written, item.id < s.counters.enqueued

/-- What the operations on the queue of entries leave alone. -/
structure SameControl (s s' : QueueState ε) : Prop where
  inFlight : s'.inFlight = s.inFlight
  drain : s'.drain = s.drain
  drainLoopActive : s'.drainLoopActive = s.drainLoopActive
  closed : s'.closed = s.closed
  stalled : s'.stalled = s.stalled
  shutdownIncomplete : s'.shutdownIncomplete = s.shutdownIncomplete
  loop : s'.loop = s.loop
  returned : s'.returned = s.returned
  settledDrains : s'.settledDrains = s.settledDrains
  closes : s'.closes = s.closes
  nextDrain : s'.nextDrain = s.nextDrain
  drainTimeouts : s'.counters.drainTimeouts = s.counters.drainTimeouts

theorem SameControl.refl (s : QueueState ε) : SameControl s s := by
  constructor <;> rfl

variable {s s' s'' : QueueState ε}

theorem SameControl.trans (h : SameControl s s') (h' : SameControl s' s'') : SameControl s s'' where
  inFlight := h'.inFlight.trans h.inFlight
  drain := h'.drain.trans h.drain
  drainLoopActive := h'.drainLoopActive.trans h.drainLoopActive
  closed := h'.closed.trans h.closed
  stalled := h'.stalled.trans h.stalled
  shutdownIncomplete := h'.shutdownIncomplete.trans h.shutdownIncomplete
  loop := h'.loop.trans h.loop
  returned := h'.returned.trans h.returned
  settledDrains := h'.settledDrains.trans h.settledDrains
  closes := h'.closes.trans h.closes
  nextDrain := h'.nextDrain.trans h.nextDrain
  drainTimeouts := h'.drainTimeouts.trans h.drainTimeouts

/-! ### The queue of entries -/

theorem dropExpiredQueued_control (s : QueueState ε) :
    SameControl s (dropExpiredQueued options s) := by
  unfold dropExpiredQueued
  split
  · exact .refl s
  · constructor <;> rfl

theorem dropExpiredQueued_written (s : QueueState ε) :
    (dropExpiredQueued options s).written = s.written := by
  unfold dropExpiredQueued
  split <;> rfl

theorem dropExpiredQueued_retained (s : QueueState ε) :
    (dropExpiredQueued options s).retainedEntries ≤ s.retainedEntries := by
  unfold dropExpiredQueued
  split
  · exact le_rfl
  · dsimp only
    omega

/-- Dropped entries are accounted for. -/
theorem Accounting.dropExpiredQueued (h : Accounting options s hand) :
    Accounting options (dropExpiredQueued options s) hand := by
  unfold Telemetry.dropExpiredQueued
  split
  · exact h
  · set cutoff : ℤ := options.timestamp s.reads - options.bounds.maxAgeMs
    have hlen := length_filter_add (fun item => (item.enqueuedAtMs : ℤ) ≤ cutoff) s.queued
    have hby := totalBytes_filter_add (fun item => (item.enqueuedAtMs : ℤ) ≤ cutoff) s.queued
    have hnn : 0 ≤ totalBytes (s.queued.filter fun item =>
        decide ((item.enqueuedAtMs : ℤ) ≤ cutoff)) := by
      refine List.sum_nonneg fun b hb => ?_
      obtain ⟨item, -, rfl⟩ := List.mem_map.mp hb
      exact Int.natCast_nonneg _
    have hents := h.entries
    have hold := h.bytes
    have hcons := h.conserved
    have hsub : List.Sublist
        ((s.queued.filter fun item => decide (¬ (item.enqueuedAtMs : ℤ) ≤ cutoff)) ++ s.written)
        (s.queued ++ s.written) := List.filter_sublist.append (List.Sublist.refl _)
    constructor
    · show s.retainedEntries - _ = _
      dsimp only
      omega
    · show s.retainedBytes - _ = _
      dsimp only
      omega
    · show s.retainedEntries - _ ≤ _
      have := h.maxEntries
      omega
    · show s.retainedBytes - _ ≤ _
      have := h.maxBytes
      omega
    · exact h.writes
    · show (s.counters.enqueued : ℤ) + settledWrites s
        = s.counters.delivered + s.counters.failed + ((s.counters.droppedByAge + _ : ℕ) : ℤ) +
          (s.retainedEntries - _)
      push_cast
      omega
    · exact h.ids.sublist (hsub.map _)
    · exact fun item hitem => h.fresh item (hsub.subset hitem)

/-- What `dispatchQueued` comes to. -/
structure Dispatched (options : QueueOptions ε) (s : QueueState ε)
    (r : QueueState ε × Option (PendingEntry ε)) : Prop where
  accounting : Accounting options r.1 r.2.toList
  control : SameControl s r.1
  retained : r.1.retainedEntries ≤ s.retainedEntries
  written : r.1.written = r.2.toList ++ s.written
  /-- Without an entry for the writer, the queue is empty or the writer bound is reached. -/
  idle : r.2 = none → r.1.queued = [] ∨ options.bounds.maxConcurrentWrites ≤ r.1.inFlight.length

/-- **The dispatch loop**, by induction on the entries that are queued. -/
theorem dispatchQueued_spec : ∀ s : QueueState ε, s.queued = items →
    Accounting options s [] → Dispatched options s (dispatchQueued options items s) := by
  induction items with
  | nil =>
    intro s hqd h
    exact ⟨h, .refl s, le_rfl, rfl, fun _ => .inl hqd⟩
  | cons item rest ih =>
    intro s hqd h
    have hents := h.entries
    have hby := h.bytes
    have hcons := h.conserved
    have hids := h.ids
    have hfr := h.fresh
    have hmaxEntries := h.maxEntries
    have hmaxBytes := h.maxBytes
    have hwrs := h.writes
    rw [hqd, List.length_cons, List.length_nil] at hents
    rw [hqd, totalBytes_cons, totalBytes_nil] at hby
    rw [hqd] at hids hfr
    rw [List.length_nil] at hwrs
    rw [dispatchQueued]
    split
    · next hcapacity =>
      split
      · -- the entry has outlived the age ceiling
        have hnext : Accounting options
            { releaseCharge s item with
              queued := rest, counters := s.counters.age 1, reads := s.reads + 1 } [] := by
          constructor
          · dsimp only [releaseCharge, List.length_nil]
            omega
          · dsimp only [releaseCharge]
            rw [totalBytes_nil]
            omega
          · dsimp only [releaseCharge]
            omega
          · dsimp only [releaseCharge]
            omega
          · exact h.writes
          · show (s.counters.enqueued : ℤ) + settledWrites s
              = s.counters.delivered + s.counters.failed + ((s.counters.droppedByAge + 1 : ℕ) : ℤ) +
                (s.retainedEntries - 1)
            push_cast
            omega
          · exact (List.nodup_cons.mp hids).2
          · exact fun i hi => hfr i (List.mem_cons_of_mem _ hi)
        have hrest := ih _ rfl hnext
        have hctl : SameControl s
            { releaseCharge s item with
              queued := rest, counters := s.counters.age 1, reads := s.reads + 1 } := by
          constructor <;> rfl
        have hret : s.retainedEntries - 1 ≤ s.retainedEntries := by omega
        exact ⟨hrest.accounting, hctl.trans hrest.control, hrest.retained.trans hret,
          hrest.written, hrest.idle⟩
      · refine ⟨?_, ?_, le_rfl, rfl, nofun⟩
        · have hperm : (item :: (rest ++ s.written)).Perm (rest ++ item :: s.written) :=
            List.perm_middle.symm
          constructor
          · dsimp only [Option.toList_some, List.length_singleton]
            push_cast
            omega
          · dsimp only [Option.toList_some]
            rw [totalBytes_cons, totalBytes_nil]
            omega
          · exact hmaxEntries
          · exact hmaxBytes
          · exact hcapacity
          · exact hcons
          · exact (hperm.map PendingEntry.id).nodup_iff.mp hids
          · exact fun i hi => hfr i (hperm.mem_iff.mpr hi)
        · constructor <;> rfl
    · next hfull =>
      exact ⟨h, .refl s, le_rfl, rfl, fun _ => .inr (not_lt.mp hfull)⟩

section

variable (h : Accounting options s hand)

include h

theorem Accounting.retained_nonneg : 0 ≤ s.retainedEntries := by
  have hents := h.entries
  omega

theorem Accounting.empty (hzero : s.retainedEntries = 0) : s.queued = [] ∧ s.inFlight = [] := by
  have hents := h.entries
  constructor <;> apply List.length_eq_zero_iff.mp <;> omega

theorem Accounting.congr (hqd : s'.queued = s.queued) (hinFlight : s'.inFlight = s.inFlight)
    (hents : s'.retainedEntries = s.retainedEntries) (hby : s'.retainedBytes = s.retainedBytes)
    (hwr : s'.written = s.written)
    (hcounters : s'.counters.enqueued = s.counters.enqueued ∧
      s'.counters.delivered = s.counters.delivered ∧ s'.counters.failed = s.counters.failed ∧
      s'.counters.droppedByAge = s.counters.droppedByAge) :
    Accounting options s' hand := by
  obtain ⟨henqueued, hdelivered, hfail, hage⟩ := hcounters
  constructor
  · rw [hents, hqd, hinFlight]
    exact h.entries
  · rw [hby, hqd, hinFlight]
    exact h.bytes
  · rw [hents]
    exact h.maxEntries
  · rw [hby]
    exact h.maxBytes
  · rw [hinFlight]
    exact h.writes
  · unfold settledWrites
    rw [henqueued, hdelivered, hfail, hage, hents, hinFlight]
    exact h.conserved
  · rw [hqd, hwr]
    exact h.ids
  · rw [hqd, hwr, henqueued]
    exact h.fresh

end

/-! ### The loop of a drain -/

/-- What the loop of the drain `d` comes to. -/
structure LoopRan (options : QueueOptions ε) (d : ℕ) (s s' : QueueState ε) : Prop where
  accounting : Accounting options s' s'.inHand.toList
  drain : s'.drain = s.drain
  closed : s'.closed = s.closed
  shutdownIncomplete : s'.shutdownIncomplete = s.shutdownIncomplete
  settledDrains : s'.settledDrains = s.settledDrains
  closes : s'.closes = s.closes
  nextDrain : s'.nextDrain = s.nextDrain
  retained : s'.retainedEntries ≤ s.retainedEntries
  written : s.shutdownIncomplete = true → s'.written = s.written
  /-- The loop goes on, or it has returned. -/
  outcome : (∃ loop, s'.loop = some loop ∧ loop.drain = d ∧ s.shutdownIncomplete = false ∧
      s'.drainLoopActive = s.drainLoopActive ∧ s'.returned = s.returned ∧
      s'.stalled = s.stalled ∧ s'.counters.drainTimeouts = s.counters.drainTimeouts) ∨
    (s'.loop = none ∧ s'.drainLoopActive = false ∧ s'.returned = d :: s.returned ∧
      (s'.counters.drainTimeouts = 0 → s'.stalled = s.stalled ∧ s.counters.drainTimeouts = 0 ∧
        (s.stalled = true ∨ s.shutdownIncomplete = true ∨ s'.retainedEntries = 0)))

theorem LoopRan.of_control (hctl : SameControl s s')
    (hret : s'.retainedEntries ≤ s.retainedEntries)
    (hwr : s.shutdownIncomplete = true → s'.written = s.written) (h : LoopRan options d s' s'') :
    LoopRan options d s s'' where
  accounting := h.accounting
  drain := h.drain.trans hctl.drain
  closed := h.closed.trans hctl.closed
  shutdownIncomplete := h.shutdownIncomplete.trans hctl.shutdownIncomplete
  settledDrains := h.settledDrains.trans hctl.settledDrains
  closes := h.closes.trans hctl.closes
  nextDrain := h.nextDrain.trans hctl.nextDrain
  retained := h.retained.trans hret
  written := by
    intro hshut
    have hshut' : s'.shutdownIncomplete = true := by
      rw [hctl.shutdownIncomplete, hshut]
    exact (h.written hshut').trans (hwr hshut)
  outcome := by
    have houtc := h.outcome
    rw [hctl.shutdownIncomplete, hctl.drainLoopActive, hctl.returned, hctl.stalled,
      hctl.drainTimeouts] at houtc
    exact houtc

section

variable (h : Accounting options s [])

include h

theorem loopReturn_ran
    (hrsn : s.stalled = true ∨ s.shutdownIncomplete = true ∨ s.retainedEntries = 0) :
    LoopRan options d s (loopReturn d s) where
  accounting := h.congr rfl rfl rfl rfl rfl ⟨rfl, rfl, rfl, rfl⟩
  drain := rfl
  closed := rfl
  shutdownIncomplete := rfl
  settledDrains := rfl
  closes := rfl
  nextDrain := rfl
  retained := le_rfl
  written := fun _ => rfl
  outcome := .inr ⟨rfl, rfl, rfl, fun hzero => ⟨rfl, hzero, hrsn⟩⟩

theorem loopTimeout_ran : LoopRan options d s (loopTimeout d s) where
  accounting := h.congr rfl rfl rfl rfl rfl ⟨rfl, rfl, rfl, rfl⟩
  drain := rfl
  closed := rfl
  shutdownIncomplete := rfl
  settledDrains := rfl
  closes := rfl
  nextDrain := rfl
  retained := le_rfl
  written := fun _ => rfl
  outcome := .inr ⟨rfl, rfl, rfl, fun hzero => absurd hzero (Nat.succ_ne_zero _)⟩

theorem loopWait_ran (hshut : s.shutdownIncomplete = false) :
    LoopRan options d s (loopWait options d deadlineAtMs s) := by
  unfold loopWait
  split
  · next hidle =>
    refine loopReturn_ran h (.inr (.inr ?_))
    have hents := h.entries
    rw [hidle.1, hidle.2] at hents
    simpa using hents
  · split
    · have hhd : ∀ point : LoopPoint ε, (∀ item, point ≠ .writing item) →
          QueueState.inHand { s with
            reads := s.reads + 1, loop := some ⟨d, deadlineAtMs, point⟩ } = none := by
        intro point hpt
        cases point with
        | writing item => exact absurd rfl (hpt item)
        | waiting | resumed => rfl
      refine ⟨?_, rfl, rfl, rfl, rfl, rfl, rfl, le_rfl, fun _ => rfl,
        .inl ⟨_, rfl, rfl, hshut, rfl, rfl, rfl, rfl⟩⟩
      rw [hhd _ fun item => by split <;> simp]
      exact h.congr rfl rfl rfl rfl rfl ⟨rfl, rfl, rfl, rfl⟩
    · have hctl : SameControl s { s with reads := s.reads + 1 } := by
        constructor <;> rfl
      refine LoopRan.of_control hctl le_rfl (fun _ => rfl) (loopTimeout_ran ?_)
      exact h.congr rfl rfl rfl rfl rfl ⟨rfl, rfl, rfl, rfl⟩

theorem loopDispatch_ran (hshut : s.shutdownIncomplete = false) :
    LoopRan options d s (loopDispatch options d deadlineAtMs s) := by
  have hdisp := dispatchQueued_spec s rfl h
  unfold loopDispatch
  generalize dispatchQueued options s.queued s = r at hdisp
  obtain ⟨s', item⟩ := r
  have hctl := hdisp.control
  have hshut' : s'.shutdownIncomplete = false := hctl.shutdownIncomplete.trans hshut
  have hnever : s.shutdownIncomplete = true → ∀ P : Prop, P := by
    intro htrue
    rw [hshut] at htrue
    cases htrue
  cases item with
  | none =>
    refine LoopRan.of_control hctl hdisp.retained (fun htrue => hnever htrue _) ?_
    exact loopWait_ran hdisp.accounting hshut'
  | some item =>
    refine LoopRan.of_control hctl hdisp.retained (fun htrue => hnever htrue _) ?_
    refine ⟨?_, rfl, rfl, rfl, rfl, rfl, rfl, le_rfl, fun _ => rfl,
      .inl ⟨_, rfl, rfl, hshut', rfl, rfl, rfl, rfl⟩⟩
    exact hdisp.accounting.congr rfl rfl rfl rfl rfl ⟨rfl, rfl, rfl, rfl⟩

theorem loopTop_ran : LoopRan options d s (loopTop options d deadlineAtMs s) := by
  have hctl : SameControl s (dropExpiredQueued options s) := dropExpiredQueued_control s
  refine LoopRan.of_control hctl (dropExpiredQueued_retained s)
    (fun _ => dropExpiredQueued_written s) ?_
  have hacct := h.dropExpiredQueued
  unfold loopTop
  generalize dropExpiredQueued options s = s' at hacct
  dsimp only
  split
  · next hshut => exact loopReturn_ran hacct (.inr (.inl hshut))
  · next hshut =>
    split
    · next hstd => exact loopReturn_ran hacct (.inl hstd.1)
    · exact loopDispatch_ran hacct (Bool.eq_false_of_not_eq_true hshut)

end

/-! ### Flags -/

/-- What the flags and promises of the drains mean, up to what a loop that has returned leaves. -/
structure Flags (s : QueueState ε) : Prop where
  active : s.drainLoopActive = s.loop.isSome
  current : ∀ loop, s.loop = some loop → s.drain = some loop.drain ∧ loop.drain < s.nextDrain ∧
    loop.drain ∉ s.settledDrains ∧ loop.drain ∉ s.returned
  bounded : ∀ d, d ∈ s.settledDrains ∨ d ∈ s.returned → d < s.nextDrain
  writing : s.inHand ≠ none → s.shutdownIncomplete = false
  /-- Before the first timeout, an entry outlives a `close` only in the drain that it waits for. -/
  calm : s.counters.drainTimeouts = 0 → s.stalled = false ∧ s.shutdownIncomplete = false ∧
    ∀ d ∈ s.closes, s.closed = true ∧
      (s.retainedEntries = 0 ∨ ∃ loop, s.loop = some loop ∧ loop.drain = d)

/-- Before the first timeout, no charge is left without a drain. -/
def Drained (s : QueueState ε) : Prop :=
  s.counters.drainTimeouts = 0 → s.loop = none → s.retainedEntries = 0

/-- A state from which the loop of the drain `d` runs. -/
structure Ready (d : ℕ) (s : QueueState ε) : Prop where
  active : s.drainLoopActive = true
  drain : s.drain = some d
  fresh : d < s.nextDrain ∧ d ∉ s.settledDrains ∧ d ∉ s.returned
  bounded : ∀ d, d ∈ s.settledDrains ∨ d ∈ s.returned → d < s.nextDrain
  calm : s.counters.drainTimeouts = 0 → s.stalled = false ∧ s.shutdownIncomplete = false ∧
    ∀ c ∈ s.closes, s.closed = true ∧ (s.retainedEntries = 0 ∨ c = d)

theorem Flags.ready (h : Flags s) (hloop : s.loop = some loop) : Ready loop.drain s where
  active := by
    rw [h.active, hloop]
    rfl
  drain := (h.current loop hloop).1
  fresh := (h.current loop hloop).2
  bounded := h.bounded
  calm := by
    intro hzero
    obtain ⟨hstd, hshut, hcls⟩ := h.calm hzero
    refine ⟨hstd, hshut, fun c hc => ⟨(hcls c hc).1, ?_⟩⟩
    rcases (hcls c hc).2 with hret | ⟨loop', hloop', hdr⟩
    · exact .inl hret
    · rw [hloop] at hloop'
      cases hloop'
      exact .inr hdr.symm

/-- **The loop of a drain keeps the flags**, and it leaves no charge when it returns. -/
theorem LoopRan.flags (h : LoopRan options d s s') (hrdy : Ready d s) :
    Flags s' ∧ Drained s' := by
  have hret : s.retainedEntries = 0 → s'.retainedEntries = 0 := by
    intro hzero
    have hle := h.retained
    have hnn := h.accounting.retained_nonneg
    omega
  rcases h.outcome with ⟨loop, hloop, hdr, hshut, hactv, hretd, hstd, htmo⟩ |
    ⟨hloop, hactv, hretd, hzero⟩
  · constructor
    · constructor
      · rw [hactv, hrdy.active, hloop]
        rfl
      · intro loop' hloop'
        rw [hloop] at hloop'
        cases hloop'
        rw [h.drain, h.nextDrain, h.settledDrains, hretd, hdr]
        exact ⟨hrdy.drain, hrdy.fresh⟩
      · rw [h.nextDrain, h.settledDrains, hretd]
        exact hrdy.bounded
      · intro _
        rw [h.shutdownIncomplete]
        exact hshut
      · intro htmo'
        rw [htmo] at htmo'
        obtain ⟨hcalm, -, hcls⟩ := hrdy.calm htmo'
        rw [hstd, h.shutdownIncomplete, h.closes, h.closed]
        refine ⟨hcalm, hshut, fun c hc => ⟨(hcls c hc).1, ?_⟩⟩
        rcases (hcls c hc).2 with hno | heq
        · exact .inl (hret hno)
        · exact .inr ⟨loop, hloop, hdr.trans heq.symm⟩
    · intro _ hno
      rw [hloop] at hno
      cases hno
  · have hemp : s'.counters.drainTimeouts = 0 → s'.stalled = false ∧
        s'.shutdownIncomplete = false ∧ s'.retainedEntries = 0 := by
      intro htmo'
      obtain ⟨hstd, htmo, hrsn⟩ := hzero htmo'
      obtain ⟨hcalm, hshut, -⟩ := hrdy.calm htmo
      rw [hcalm, hshut] at hrsn
      refine ⟨hstd.trans hcalm, h.shutdownIncomplete.trans hshut, ?_⟩
      simpa using hrsn
    constructor
    · constructor
      · rw [hactv, hloop]
        rfl
      · intro loop hloop'
        rw [hloop] at hloop'
        cases hloop'
      · rw [h.nextDrain, h.settledDrains, hretd]
        intro c hc
        rcases hc with hc | hc
        · exact hrdy.bounded c (.inl hc)
        · rcases List.mem_cons.mp hc with rfl | hc
          · exact hrdy.fresh.1
          · exact hrdy.bounded c (.inr hc)
      · intro hhd
        unfold QueueState.inHand at hhd
        rw [hloop] at hhd
        exact absurd rfl hhd
      · intro htmo'
        obtain ⟨hstd, hshut, hno⟩ := hemp htmo'
        refine ⟨hstd, hshut, fun c hc => ⟨?_, .inl hno⟩⟩
        rw [h.closes] at hc
        rw [h.closed]
        exact ((hrdy.calm (hzero htmo').2.1).2.2 c hc).1
    · exact fun htmo' _ => (hemp htmo').2.2

/-! ### Starting a drain -/

/-- **The invariant of the queue.** -/
structure QueueInv (options : QueueOptions ε) (s : QueueState ε) : Prop where
  accounting : Accounting options s s.inHand.toList
  flags : Flags s
  drained : Drained s

/-- What `startDrain` comes to. -/
structure Started (options : QueueOptions ε) (s : QueueState ε) (r : QueueState ε × ℕ) : Prop where
  inv : QueueInv options r.1
  closed : r.1.closed = s.closed
  closes : r.1.closes = s.closes
  /-- The drain whose promise is returned is the current one, or it has left no charge. -/
  awaited : (∃ loop, r.1.loop = some loop ∧ loop.drain = r.2) ∨
    (r.1.counters.drainTimeouts = 0 → r.1.retainedEntries = 0)
  shutdownIncomplete : r.1.shutdownIncomplete = s.shutdownIncomplete
  written : s.shutdownIncomplete = true → r.1.written = s.written

theorem inHand_of_none (h : s.loop = none) : s.inHand = none := by
  unfold QueueState.inHand
  rw [h]

/-- **Starting a drain**: it joins the drain whose loop is active, or its own loop runs. -/
theorem startDrain_spec (hacct : Accounting options s s.inHand.toList) (hflg : Flags s) :
    Started options s (startDrain options s) := by
  unfold startDrain
  split
  · next running hdr hactv =>
    -- the active loop is that of the published promise
    have hsome : s.loop.isSome = true := hflg.active.symm.trans hactv
    obtain ⟨loop, hloop⟩ := Option.isSome_iff_exists.mp hsome
    have heq : loop.drain = running :=
      Option.some.inj ((hflg.current loop hloop).1.symm.trans hdr)
    refine ⟨⟨?_, ?_, ?_⟩, rfl, rfl, .inl ⟨loop, hloop, heq⟩, rfl, fun _ => rfl⟩
    · exact hacct.congr rfl rfl rfl rfl rfl ⟨rfl, rfl, rfl, rfl⟩
    · exact ⟨hflg.active, hflg.current, hflg.bounded, hflg.writing, hflg.calm⟩
    · intro _ hno
      rw [show s.loop = none from hno] at hloop
      cases hloop
  · next hoth =>
    have hloop : s.loop = none := by
      cases hloop : s.loop with
      | none => rfl
      | some loop =>
        have hactv : s.drainLoopActive = true := by
          rw [hflg.active, hloop]
          rfl
        exact absurd hactv (hoth loop.drain (hflg.current loop hloop).1)
    have hhd := inHand_of_none hloop
    rw [hhd] at hacct
    have hrdy : Ready s.nextDrain
        { s with
          drain := some s.nextDrain
          nextDrain := s.nextDrain + 1
          drainLoopActive := true } := by
      constructor
      · rfl
      · rfl
      · have hfr : ∀ d, d ∈ s.settledDrains ∨ d ∈ s.returned → d ≠ s.nextDrain :=
          fun d hd => (hflg.bounded d hd).ne
        exact ⟨Nat.lt_succ_self _, fun hd => hfr _ (.inl hd) rfl, fun hd => hfr _ (.inr hd) rfl⟩
      · exact fun d hd => Nat.lt_succ_of_lt (hflg.bounded d hd)
      · intro hzero
        obtain ⟨hstd, hshut, hcls⟩ := hflg.calm hzero
        refine ⟨hstd, hshut, fun c hc => ⟨(hcls c hc).1, ?_⟩⟩
        rcases (hcls c hc).2 with hret | ⟨loop, hloop', -⟩
        · exact .inl hret
        · rw [hloop] at hloop'
          cases hloop'
    have hran : LoopRan options s.nextDrain
        { s with drain := some s.nextDrain, nextDrain := s.nextDrain + 1, drainLoopActive := true }
        (drainPending options s.nextDrain
          { s with drain := some s.nextDrain, nextDrain := s.nextDrain + 1 }) := by
      unfold drainPending
      dsimp only
      split
      · next hshut =>
        refine loopReturn_ran ?_ (.inr (.inl hshut))
        exact hacct.congr rfl rfl rfl rfl rfl ⟨rfl, rfl, rfl, rfl⟩
      · have hctl : SameControl
            { s with
              drain := some s.nextDrain, nextDrain := s.nextDrain + 1, drainLoopActive := true }
            { s with
              drain := some s.nextDrain, nextDrain := s.nextDrain + 1, drainLoopActive := true,
              reads := s.reads + 1 } := by
          constructor <;> rfl
        refine LoopRan.of_control hctl le_rfl (fun _ => rfl) (loopTop_ran ?_)
        exact hacct.congr rfl rfl rfl rfl rfl ⟨rfl, rfl, rfl, rfl⟩
    obtain ⟨hflg', hdrd⟩ := hran.flags hrdy
    refine ⟨⟨hran.accounting, hflg', hdrd⟩, hran.closed, hran.closes, ?_,
      hran.shutdownIncomplete, hran.written⟩
    rcases hran.outcome with ⟨loop, hloop', hdr, -⟩ | ⟨hno, -⟩
    · exact .inl ⟨loop, hloop', hdr⟩
    · exact .inr fun hzero => hdrd hzero hno

end UbqGateway.Telemetry
