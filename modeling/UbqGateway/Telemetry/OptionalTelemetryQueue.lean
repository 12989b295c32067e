import UbqGateway.Library.Json
import Mathlib.Data.Rat.Floor

/-!
# The optional telemetry queue

`src/optional-telemetry-queue.ts` as a transition system.  A step is one call of the queue, or one
job of the event loop: a writer that settles, the release of its charge, the race that ends a wait,
the loop of a drain that goes on, the retirement of a drain, the continuation of a `close`.  A drain
loop runs without interruption until it calls the writer or waits; calls can come from within the
writer.

What `now()` and the writer do is not known: the readings of the clock are a sequence of options,
and writers settle in any order, or never.
-/

namespace UbqGateway.Telemetry

open Json (isSafeInteger)

/-! ### Options -/

/-- `OptionalTelemetryQueueBounds` -/
structure QueueBounds where
  maxEntries : ℕ
  maxBytes : ℕ
  maxAgeMs : ℕ
  maxConcurrentWrites : ℕ
  maxDrainWaitMs : ℕ

def optionalTelemetryQueueBounds : QueueBounds := ⟨256, 256 * 1024, 60000, 4, 5000⟩

/-- `boundedInteger`; a value that is missing or no finite number is `none`. -/
def boundedInteger (value : Option ℚ) (fallback : ℕ) : ℕ :=
  match value with
  | some q => if q.den = 1 ∧ isSafeInteger q.num = true ∧ 0 < q then q.num.toNat else fallback
  | none => fallback

/-- `OptionalTelemetryQueueOptions`: the bounds that are given, the result of the `k`-th call of
`now` and of `Date.now`, and the measure; numbers that are not finite are `none`. -/
structure QueueOptions (ε : Type) where
  maxEntries : Option ℚ
  maxBytes : Option ℚ
  maxAgeMs : Option ℚ
  maxConcurrentWrites : Option ℚ
  maxDrainWaitMs : Option ℚ
  now : ℕ → Option ℚ
  dateNow : ℕ → ℕ
  measure : ε → Option ℚ

def QueueOptions.bounds {ε : Type} (options : QueueOptions ε) : QueueBounds where
  maxEntries := boundedInteger options.maxEntries optionalTelemetryQueueBounds.maxEntries
  maxBytes := boundedInteger options.maxBytes optionalTelemetryQueueBounds.maxBytes
  maxAgeMs := boundedInteger options.maxAgeMs optionalTelemetryQueueBounds.maxAgeMs
  maxConcurrentWrites :=
    boundedInteger options.maxConcurrentWrites optionalTelemetryQueueBounds.maxConcurrentWrites
  maxDrainWaitMs := boundedInteger options.maxDrainWaitMs
    optionalTelemetryQueueBounds.maxDrainWaitMs

/-- `Math.trunc` -/
def truncate (q : ℚ) : ℤ := if 0 ≤ q then ⌊q⌋ else ⌈q⌉

/-- `timestamp`, when the clock is read for the `k`-th time. -/
def QueueOptions.timestamp {ε : Type} (options : QueueOptions ε) (k : ℕ) : ℕ :=
  match options.now k with
  | some q =>
    if isSafeInteger (truncate q) = true ∧ 0 ≤ truncate q then (truncate q).toNat
    else options.dateNow k
  | none => options.dateNow k

/-! ### States -/

/-- `PendingEntry`; entries are objects, and `id` tells them apart. -/
structure PendingEntry (ε : Type) where
  id : ℕ
  entry : ε
  bytes : ℕ
  enqueuedAtMs : ℕ
deriving DecidableEq

/-- A write of `inFlight`: its task may have settled before its charge is released. -/
structure InFlightWrite (ε : Type) where
  item : PendingEntry ε
  settled : Bool

/-- Where the loop of a drain stands: it has called the writer, it waits for one of the writes it
has listed, or its wait has ended. -/
inductive LoopPoint (ε : Type)
  | writing (item : PendingEntry ε)
  | waiting (raced : List ℕ)
  | resumed (progress : Bool)
deriving DecidableEq

/-- The loop of a drain: the number of its promise, its deadline, and where it stands. -/
structure DrainLoop (ε : Type) where
  drain : ℕ
  deadlineAtMs : ℕ
  point : LoopPoint ε
deriving DecidableEq

structure QueueCounters where
  enqueued : ℕ
  delivered : ℕ
  failed : ℕ
  droppedByEntries : ℕ
  droppedByBytes : ℕ
  droppedByAge : ℕ
  droppedAfterClosed : ℕ
  coalescedFlushes : ℕ
  drainTimeouts : ℕ

/-- The state of a queue.  `drain` names the promise that is published; `returned` are the drains
whose loop has returned and that are still to be retired, `settledDrains` the promises that have
settled, and `closes` the promises that the calls of `close` wait for.  `reads` counts the readings
of the clock, and `written` lists what was passed to the writer, newest first. -/
structure QueueState (ε : Type) where
  queued : List (PendingEntry ε)
  inFlight : List (InFlightWrite ε)
  counters : QueueCounters
  retainedEntries : ℤ
  retainedBytes : ℤ
  drain : Option ℕ
  drainLoopActive : Bool
  closed : Bool
  stalled : Bool
  shutdownIncomplete : Bool
  lastErrorClass : Option String
  loop : Option (DrainLoop ε)
  returned : List ℕ
  settledDrains : List ℕ
  closes : List ℕ
  nextDrain : ℕ
  reads : ℕ
  written : List (PendingEntry ε)

def QueueState.initial (ε : Type) : QueueState ε where
  queued := []
  inFlight := []
  counters := ⟨0, 0, 0, 0, 0, 0, 0, 0, 0⟩
  retainedEntries := 0
  retainedBytes := 0
  drain := none
  drainLoopActive := false
  closed := false
  stalled := false
  shutdownIncomplete := false
  lastErrorClass := none
  loop := none
  returned := []
  settledDrains := []
  closes := []
  nextDrain := 0
  reads := 0
  written := []

section Queue

variable (options : QueueOptions ε)

/-- The charged bytes of some entries. -/
def totalBytes (items : List (PendingEntry ε)) : ℤ := (items.map fun item => (item.bytes : ℤ)).sum

def releaseCharge (s : QueueState ε) (item : PendingEntry ε) : QueueState ε :=
  { s with
    retainedEntries := s.retainedEntries - 1
    retainedBytes := s.retainedBytes - item.bytes }

/-- One more entry was dropped for its age. -/
def QueueCounters.age (c : QueueCounters) (n : ℕ) : QueueCounters :=
  { c with droppedByAge := c.droppedByAge + n }

def dropExpiredQueued (s : QueueState ε) : QueueState ε :=
  if s.queued = [] then s
  else
    let cutoff : ℤ := options.timestamp s.reads - options.bounds.maxAgeMs
    let expired := s.queued.filter fun item => decide ((item.enqueuedAtMs : ℤ) ≤ cutoff)
    { s with
      queued := s.queued.filter fun item => decide (¬ (item.enqueuedAtMs : ℤ) ≤ cutoff)
      retainedEntries := s.retainedEntries - expired.length
      retainedBytes := s.retainedBytes - totalBytes expired
      counters := s.counters.age expired.length
      reads := s.reads + 1 }

def isExpired (s : QueueState ε) (item : PendingEntry ε) : Bool :=
  decide ((options.bounds.maxAgeMs : ℤ) ≤ options.timestamp s.reads - item.enqueuedAtMs)

/-- The dispatch loop of a drain, with the entries that are queued: it ends when the queue is empty
or the writer bound is reached, or has an entry that is passed to the writer. -/
def dispatchQueued : List (PendingEntry ε) → QueueState ε → QueueState ε × Option (PendingEntry ε)
  | [], s => (s, none)
  | item :: rest, s =>
    if s.inFlight.length < options.bounds.maxConcurrentWrites then
      if isExpired options s item = true then
        dispatchQueued rest
          { releaseCharge s item with
            queued := rest, counters := s.counters.age 1, reads := s.reads + 1 }
      else
        ({ s with queued := rest, reads := s.reads + 1, written := item :: s.written }, some item)
    else (s, none)

/-! ### Drains -/

def loopReturn (d : ℕ) (s : QueueState ε) : QueueState ε :=
  { s with loop := none, drainLoopActive := false, returned := d :: s.returned }

/-- The loop of a drain runs out of its wait bound. -/
def loopTimeout (d : ℕ) (s : QueueState ε) : QueueState ε :=
  loopReturn d
    { s with
      counters := { s.counters with drainTimeouts := s.counters.drainTimeouts + 1 }
      stalled := true }

/-- The loop of a drain when it can dispatch nothing more: it returns, or `waitForProgress`. -/
def loopWait (d deadlineAtMs : ℕ) (s : QueueState ε) : QueueState ε :=
  if s.queued = [] ∧ s.inFlight = [] then loopReturn d s
  else if options.timestamp s.reads < deadlineAtMs then
    { s with
      reads := s.reads + 1
      loop := some ⟨d, deadlineAtMs,
        if s.inFlight = [] then .resumed true else .waiting (s.inFlight.map fun w => w.item.id)⟩ }
  else loopTimeout d { s with reads := s.reads + 1 }

def loopDispatch (d deadlineAtMs : ℕ) (s : QueueState ε) : QueueState ε :=
  match dispatchQueued options s.queued s with
  | (s, some item) => { s with loop := some ⟨d, deadlineAtMs, .writing item⟩ }
  | (s, none) => loopWait options d deadlineAtMs s

def loopTop (d deadlineAtMs : ℕ) (s : QueueState ε) : QueueState ε :=
  let s := dropExpiredQueued options s
  if s.shutdownIncomplete = true then loopReturn d s
  else if s.stalled = true ∧ s.inFlight ≠ [] then loopReturn d s
  else loopDispatch options d deadlineAtMs s

/-- `drainPending`, until it calls the writer or waits. -/
def drainPending (d : ℕ) (s : QueueState ε) : QueueState ε :=
  let s := { s with drainLoopActive := true }
  if s.shutdownIncomplete = true then loopReturn d s
  else loopTop options d (options.timestamp s.reads + options.bounds.maxDrainWaitMs)
    { s with reads := s.reads + 1 }

/-- `startDrain`: the state, and the promise that it returns. -/
def startDrain (s : QueueState ε) : QueueState ε × ℕ :=
  match s.drain, s.drainLoopActive with
  | some running, true =>
    ({ s with
        counters := { s.counters with coalescedFlushes := s.counters.coalescedFlushes + 1 } },
          running)
  | _, _ =>
    (drainPending options s.nextDrain
      { s with drain := some s.nextDrain, nextDrain := s.nextDrain + 1 }, s.nextDrain)

/-! ### Calls -/

/-- `OptionalTelemetryEnqueueOutcome` -/
inductive EnqueueOutcome
  | enqueued
  | droppedClosed
  | droppedCapacity
  | droppedBytes

/-- The end of `enqueue`, for an entry that is accepted. -/
def acceptEntry (entry : ε) (bytes : ℕ) (s : QueueState ε) : QueueState ε :=
  (startDrain options
    { s with
      queued := s.queued ++ [⟨s.counters.enqueued, entry, bytes, options.timestamp s.reads⟩]
      reads := s.reads + 1
      retainedEntries := s.retainedEntries + 1
      retainedBytes := s.retainedBytes + bytes
      counters := { s.counters with enqueued := s.counters.enqueued + 1 } }).1

/-- An entry is refused for its size. -/
def dropBytes (s : QueueState ε) : QueueState ε :=
  { s with counters := { s.counters with droppedByBytes := s.counters.droppedByBytes + 1 } }

/-- An entry is refused for the number of entries. -/
def dropEntries (s : QueueState ε) : QueueState ε :=
  { s with counters := { s.counters with droppedByEntries := s.counters.droppedByEntries + 1 } }

/-- An entry is refused because the queue is closed. -/
def dropClosed (s : QueueState ε) : QueueState ε :=
  { s with counters := { s.counters with droppedAfterClosed := s.counters.droppedAfterClosed + 1 } }

def enqueue (entry : ε) (s : QueueState ε) : QueueState ε × EnqueueOutcome :=
  if s.closed = true then (dropClosed s, .droppedClosed)
  else
    let s := dropExpiredQueued options s
    match (options.measure entry).filter fun size => decide (0 ≤ size) with
    | none => (dropBytes s, .droppedBytes)
    | some size =>
      if (options.bounds.maxEntries : ℤ) ≤ s.retainedEntries then (dropEntries s, .droppedCapacity)
      else if (options.bounds.maxBytes : ℤ) < s.retainedBytes + ⌈size⌉ then
        (dropBytes s, .droppedBytes)
      else (acceptEntry options entry ⌈size⌉.toNat s, .enqueued)

def flush (s : QueueState ε) : QueueState ε := (startDrain options s).1

/-- A closed queue is drained for the last time, unless a `close` has given up before. -/
def drainClosed (s : QueueState ε) : QueueState ε :=
  if s.shutdownIncomplete = true then s
  else { (startDrain options s).1 with closes := (startDrain options s).2 :: s.closes }

/-- `close`, until it waits. -/
def close (s : QueueState ε) : QueueState ε := drainClosed options { s with closed := true }

/-! ### Jobs -/

/-- How a writer settles. -/
inductive WriteOutcome
  | delivered
  | refused
  | threw (errorClass : String)

/-- What a settled writer does to the counters and to `lastErrorClass`. -/
def countOutcome (outcome : WriteOutcome) (s : QueueState ε) : QueueState ε :=
  match outcome with
  | .delivered => { s with counters := { s.counters with delivered := s.counters.delivered + 1 } }
  | .refused => { s with counters := { s.counters with failed := s.counters.failed + 1 } }
  | .threw errorClass =>
    { s with
      counters := { s.counters with failed := s.counters.failed + 1 }
      lastErrorClass := some errorClass }

/-- The writer has returned a promise, or has thrown at once: `writeOne` ends and the loop goes
on. -/
def wrote (loop : DrainLoop ε) (item : PendingEntry ε) (threw : Option String) (s : QueueState ε) :
    QueueState ε :=
  let s := threw.elim s fun errorClass => countOutcome (.threw errorClass) s
  loopDispatch options loop.drain loop.deadlineAtMs
    { s with inFlight := s.inFlight ++ [⟨item, threw.isSome⟩] }

/-- A task settles: the writes before it, the write itself and the writes after it. -/
def settle (before : List (InFlightWrite ε)) (item : PendingEntry ε)
    (after : List (InFlightWrite ε))
    (outcome : WriteOutcome) (s : QueueState ε) : QueueState ε :=
  { countOutcome outcome s with inFlight := before ++ ⟨item, true⟩ :: after }

/-- `finally` of a task: the write is forgotten and its charge released. -/
def release (before : List (InFlightWrite ε)) (item : PendingEntry ε)
    (after : List (InFlightWrite ε))
    (s : QueueState ε) : QueueState ε :=
  { releaseCharge s item with
    inFlight := before ++ after
    stalled := if before ++ after = [] then false else s.stalled }

/-- The end of a wait. -/
def resume (loop : DrainLoop ε) (progress : Bool) (s : QueueState ε) : QueueState ε :=
  if progress = true then loopTop options loop.drain loop.deadlineAtMs s
  else loopTimeout loop.drain s

/-- A drain is retired and its promise settles. -/
def retire (d : ℕ) (s : QueueState ε) : QueueState ε :=
  { s with
    returned := s.returned.erase d
    settledDrains := d :: s.settledDrains
    drain := if s.drain = some d then none else s.drain }

/-- The end of `close`. -/
def endClose (d : ℕ) (s : QueueState ε) : QueueState ε :=
  { s with
    closes := s.closes.erase d
    shutdownIncomplete := s.shutdownIncomplete ||
      decide (0 < s.retainedEntries ∨ s.inFlight ≠ [] ∨ s.queued ≠ []) }

/-- The entry that was passed to the writer and is not yet in flight. -/
def QueueState.inHand (s : QueueState ε) : Option (PendingEntry ε) :=
  match s.loop with
  | some ⟨_, _, .writing item⟩ => some item
  | _ => none

/-- A step of the queue.  Calls can come at any time; jobs do not run within the writer. -/
inductive QueueStep (s : QueueState ε) : QueueState ε → Prop
  | enqueue (entry : ε) : QueueStep s (enqueue options entry s).1
  | flush : QueueStep s (flush options s)
  | close : QueueStep s (close options s)
  | wrote (loop : DrainLoop ε) (item : PendingEntry ε) (threw : Option String)
      (hloop : s.loop = some loop) (hpt : loop.point = .writing item) :
      QueueStep s (wrote options loop item threw s)
  | settle (before : List (InFlightWrite ε)) (item : PendingEntry ε)
      (after : List (InFlightWrite ε)) (outcome : WriteOutcome) (hjob : s.inHand = none)
      (hwri : s.inFlight = before ++ ⟨item, false⟩ :: after) :
      QueueStep s (settle before item after outcome s)
  | release (before : List (InFlightWrite ε)) (item : PendingEntry ε)
      (after : List (InFlightWrite ε)) (hjob : s.inHand = none)
      (hwri : s.inFlight = before ++ ⟨item, true⟩ :: after) :
      QueueStep s (release before item after s)
  | race (loop : DrainLoop ε) (raced : List ℕ) (id : ℕ) (hloop : s.loop = some loop)
      (hpt : loop.point = .waiting raced) (hraced : id ∈ raced)
      (hset : ∀ w ∈ s.inFlight, w.item.id = id → w.settled = true) :
      QueueStep s { s with loop := some { loop with point := .resumed true } }
  | timer (loop : DrainLoop ε) (raced : List ℕ) (hloop : s.loop = some loop)
      (hpt : loop.point = .waiting raced) :
      QueueStep s { s with loop := some { loop with point := .resumed false } }
  | resume (loop : DrainLoop ε) (progress : Bool) (hloop : s.loop = some loop)
      (hpt : loop.point = .resumed progress) : QueueStep s (resume options loop progress s)
  | retire (d : ℕ) (hjob : s.inHand = none) (hretd : d ∈ s.returned) : QueueStep s (retire d s)
  | endClose (d : ℕ) (hjob : s.inHand = none) (hclose : d ∈ s.closes)
      (hset : d ∈ s.settledDrains) : QueueStep s (endClose d s)

/-- The states that a new queue can reach. -/
def QueueReachable (s : QueueState ε) : Prop :=
  Relation.ReflTransGen (QueueStep options) (QueueState.initial ε) s

/-- A point between two turns of the event loop: no job is waiting. -/
structure QueueState.BetweenTurns (s : QueueState ε) : Prop where
  writing : s.inHand = none
  settled : ∀ w ∈ s.inFlight, w.settled = false
  resumed : ∀ loop progress, s.loop = some loop → loop.point ≠ .resumed progress
  returned : s.returned = []
  closes : ∀ d ∈ s.closes, d ∉ s.settledDrains

end Queue

end UbqGateway.Telemetry
