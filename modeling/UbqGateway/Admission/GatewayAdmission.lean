import UbqGateway.Admission.InferenceAdmission

/-!
# The admission controller of the gateway

`rust/crates/gateway-admission/src/lib.rs`.  An acquisition is a future: the cancellation of its
caller is a flag that it reads when it is polled or when a permit becomes free, and a result stays
with its waiter until a poll takes it.  The decisions of all acquisitions are kept, newest first, so
that they can be compared.
-/

namespace UbqGateway.Admission

/-- `State` and what the waiters, the acquisitions and the permits hold. -/
structure Gateway where
  state : AdmissionState
  now : ℕ
  /-- The signals whose `is_cancelled` is true. -/
  cancelled : List ℕ
  nextId : ℕ
  waiters : ℕ → Option Waiter
  /-- `queued` of the waiters. -/
  queued : ℕ → Bool
  /-- `result` of the waiters. -/
  results : ℕ → Option Decision
  /-- The acquisitions that are `finished`. -/
  finished : List ℕ
  /-- The acquisitions that were dropped before they were. -/
  dropped : List ℕ
  /-- The acquisitions that have handed out a permit. -/
  permits : List ℕ
  /-- The grants that were released. -/
  released : List ℕ
  /-- All results so far. -/
  decided : List (ℕ × Decision)

/-- `AdmissionController::with_limits`, with nothing acquired. -/
def withLimits : Gateway :=
  ⟨.empty, 0, [], 0, fun _ => none, fun _ => false, fun _ => none, [], [], [], [], []⟩

def Gateway.decision (g : Gateway) (id : ℕ) : Option Decision := g.decided.lookup id

/-- `u64::MAX` -/
def u64Max : ℕ := 2 ^ 64 - 1

/-- `elapsed_ms` -/
def gatewayElapsedMs (now since : ℕ) : ℕ :=
  min ((now - since) / 1000000 + (if 500000 ≤ (now - since) % 1000000 then 1 else 0)) u64Max

/-- `State::detach` of a waiter that is queued. -/
def detachQueued (waiter : Waiter) (s : AdmissionState) : AdmissionState :=
  match s.waitingByPrincipal.lookup waiter.principal with
  | none => s
  | some queue =>
    if queue.filter (fun candidate => candidate ≠ waiter) = [] then
      { s with
        waitingCount := s.waitingCount - 1
        waitingByPrincipal := s.waitingByPrincipal.erase waiter.principal
        turnOrder := s.turnOrder.filter fun turn => turn ≠ waiter.principal }
    else
      { s with
        waitingCount := s.waitingCount - 1
        waitingByPrincipal := s.waitingByPrincipal.insert waiter.principal
          (queue.filter fun candidate => candidate ≠ waiter) }

/-- The gateway with its counters and queues changed by `f`. -/
def Gateway.mapState (f : AdmissionState → AdmissionState) (g : Gateway) : Gateway :=
  { g with state := f g.state }

def detach (waiter : Waiter) (g : Gateway) : Gateway :=
  if g.queued waiter.id = true then
    { g.mapState (detachQueued waiter) with queued := Function.update g.queued waiter.id false }
  else g

/-- `result = Some(decision)` -/
def Gateway.decide (waiter : Waiter) (decision : Decision) (g : Gateway) : Gateway :=
  { g with
    results := Function.update g.results waiter.id (some decision)
    decided := (waiter.id, decision) :: g.decided }

/-- `State::settle`, apart from the wakers. -/
def settle (waiter : Waiter) (decision : Decision) (g : Gateway) : Gateway :=
  (detach waiter g).decide waiter decision

/-- `refused` of an iteration of `State::pump`. -/
def refusal (maxQueueWaitMs : ℕ) (cancelled : Bool) (waited : ℕ) : Option Decision :=
  if cancelled = true then some (.callerAborted waited)
  else if maxQueueWaitMs ≤ waited then some (.localOverload .queueWaitTimeout waited)
  else none

/-- The end of an iteration of `State::pump` that refuses. -/
def refuse (waiter : Waiter) (principal : Option String) (reason : Decision) (g : Gateway) :
    Gateway :=
  (settle waiter reason g).mapState (unshiftTurn principal)

/-- The end of an iteration of `State::pump` that admits. -/
def admitHead (waiter : Waiter) (principal : Option String) (waited : ℕ) (g : Gateway) : Gateway :=
  (settle waiter (.admitted waited) (g.mapState AdmissionState.grant)).mapState (pushTurn principal)

variable (limits : InferenceAdmissionLimits)

/-- An iteration of `State::pump` for a principal whose turn has been popped. -/
def pumpTurn (principal : Option String) (g : Gateway) : Gateway :=
  match (g.state.waitingByPrincipal.lookup principal).bind List.head? with
  | none => g
  | some waiter =>
    match refusal limits.maxQueueWaitMs (isAborted g.cancelled waiter.callerSignal)
        (gatewayElapsedMs g.now waiter.queuedAt) with
    | some reason => refuse waiter principal reason g
    | none => admitHead waiter principal (gatewayElapsedMs g.now waiter.queuedAt) g

/-- The loop of `State::pump`, for at most so many iterations. -/
def pumpLoop : ℕ → Gateway → Gateway
  | 0, g => g
  | fuel + 1, g =>
    if g.state.active < limits.maxActive ∧ 0 < g.state.waitingCount then
      match g.state.turnOrder with
      | [] => g
      | principal :: turns =>
        pumpLoop fuel
          (pumpTurn limits principal (g.mapState (AdmissionState.withTurns turns)))
    else g

def pump (g : Gateway) : Gateway :=
  pumpLoop limits (g.state.waitingCount + g.state.turnOrder.length) g

/-- `Inner::release` of the grant of an acquisition. -/
def innerRelease (id : ℕ) (g : Gateway) : Gateway :=
  pump limits
    { g with
      released := id :: g.released
      state := { g.state with active := g.state.active - 1 } }

/-- `result` of a new waiter, and the permit that it takes. -/
def gatewayEntry (route : String) (callerSignal : Option ℕ) (g : Gateway) : Option Decision :=
  if requiresAdmission route = false then some .bypassed
  else if isAborted g.cancelled callerSignal = true then some (.callerAborted 0)
  else if g.state.active < limits.maxActive ∧ g.state.waitingCount = 0 then some (.admitted 0)
  else if limits.maxWaiting ≤ g.state.waitingCount then some (.localOverload .queueLimit 0)
  else none

/-- `waiting.entry(principal).or_default().push_back(waiter)`, with the turn of a new principal. -/
def enqueueGateway (waiter : Waiter) (s : AdmissionState) : AdmissionState :=
  { s with
    turnOrder :=
      if s.waitingByPrincipal.lookup waiter.principal = none then
        s.turnOrder ++ [waiter.principal]
      else s.turnOrder
    waitingByPrincipal := s.waitingByPrincipal.insert waiter.principal
      ((s.waitingByPrincipal.lookup waiter.principal).getD [] ++ [waiter])
    waitingCount := s.waitingCount + 1 }

/-- `active` after the entry of an acquisition. -/
def enterGateway (waiter : Waiter) (result : Option Decision) (s : AdmissionState) :
    AdmissionState :=
  match result with
  | none => enqueueGateway waiter s
  | some (.admitted _) => s.grant
  | some _ => s

/-- The results after the entry of an acquisition. -/
def enterDecided (id : ℕ) (result : Option Decision) (decided : List (ℕ × Decision)) :
    List (ℕ × Decision) :=
  match result with
  | none => decided
  | some decision => (id, decision) :: decided

/-- An acquisition with the result of its entry. -/
def enterRequest (waiter : Waiter) (result : Option Decision) (g : Gateway) : Gateway :=
  { g with
    nextId := g.nextId + 1
    waiters := Function.update g.waiters g.nextId (some waiter)
    queued := Function.update g.queued g.nextId result.isNone
    results := Function.update g.results g.nextId result
    state := enterGateway waiter result g.state
    decided := enterDecided g.nextId result g.decided }

/-- `AdmissionController::acquire` -/
def gatewayAcquire (principal : Option String) (callerSignal : Option ℕ) (route : String)
    (g : Gateway) : Gateway :=
  enterRequest ⟨g.nextId, principal, g.now, callerSignal⟩
    (gatewayEntry limits route callerSignal g) g

/-- The first half of `Acquisition::poll`: a waiter without a result whose wait is over. -/
def expire (waiter : Waiter) (waitReady : Bool) (g : Gateway) : Gateway :=
  if isAborted g.cancelled waiter.callerSignal = true ∨
      limits.maxQueueWaitMs ≤ gatewayElapsedMs g.now waiter.queuedAt ∨ waitReady = true then
    settle waiter
      (if isAborted g.cancelled waiter.callerSignal = true then
        .callerAborted (gatewayElapsedMs g.now waiter.queuedAt)
      else .localOverload .queueWaitTimeout (gatewayElapsedMs g.now waiter.queuedAt)) g
  else g

/-- The second half of `Acquisition::poll`: a result is taken. -/
def finish (id : ℕ) (g : Gateway) : Gateway :=
  match g.results id with
  | none => g
  | some decision =>
    { g with
      results := Function.update g.results id none
      finished := id :: g.finished
      permits := if decision.isAdmitted = true then id :: g.permits else g.permits }

/-- `Acquisition::poll`; an acquisition that is finished or dropped is not polled. -/
def pollAcquisition (id : ℕ) (waitReady : Bool) (g : Gateway) : Gateway :=
  match g.waiters id with
  | none => g
  | some waiter =>
    if id ∈ g.finished ∨ id ∈ g.dropped then g
    else if g.results id = none then finish id (expire limits waiter waitReady g)
    else finish id g

/-- `Permit::release` -/
def releasePermit (id : ℕ) (g : Gateway) : Gateway :=
  if id ∈ g.permits ∧ id ∉ g.released then innerRelease limits id g else g

/-- `Drop for Acquisition` -/
def dropAcquisition (id : ℕ) (g : Gateway) : Gateway :=
  match g.waiters id with
  | none => g
  | some waiter =>
    if id ∈ g.finished ∨ id ∈ g.dropped then g
    else if (g.results id).any Decision.isAdmitted = true then
      innerRelease limits id { g with dropped := id :: g.dropped }
    else detach waiter { g with dropped := id :: g.dropped }

/-- What an event does to the gateway's controller. -/
def Gateway.step (g : Gateway) : AdmissionEvent → Gateway
  | .acquire principal callerSignal route =>
    gatewayAcquire limits principal callerSignal route.1 g
  | .poll id waitReady => pollAcquisition limits id waitReady g
  | .release id => releasePermit limits id g
  | .drop id => dropAcquisition limits id g
  | .abort σ => { g with cancelled := σ :: g.cancelled }
  | .advance elapsed => { g with now := g.now + elapsed }

/-- A run of the gateway's controller. -/
def Gateway.run (events : List AdmissionEvent) : Gateway :=
  events.foldl (Gateway.step limits) withLimits

end UbqGateway.Admission
