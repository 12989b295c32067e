import UbqGateway.Library.Record
import UbqGateway.Library.Doubles

/-!
# Inference admission

`src/inference-admission.ts`: a bounded number of permits, a bounded number of waiters, and turns
that rotate over the principals that have waiters.  Times are in nanoseconds.  Promises become a
list of results in the order in which they are resolved, newest first; requests are numbered in the
order of their calls of `acquire`.
-/

namespace UbqGateway.Admission

/-- `InferenceAdmissionLimits` that `validateLimits` accepts. -/
structure InferenceAdmissionLimits where
  maxActive : ℕ
  maxWaiting : ℕ
  maxQueueWaitMs : ℕ
  active_pos : 1 ≤ maxActive
  active_safe : maxActive ≤ 9007199254740991
  waiting_safe : maxWaiting ≤ 9007199254740991
  queueWait_safe : maxQueueWaitMs ≤ 9007199254740991

/-- `InferenceAdmissionLocalOverloadCause` -/
inductive LocalOverloadCause
  | queueLimit
  | queueWaitTimeout
deriving DecidableEq

/-- `InferenceAdmissionResult`, and `Decision` of the gateway.  The `release` of an admission is the
event `release` with the number of the request. -/
inductive Decision
  | admitted (waitedMs : ℕ)
  | bypassed
  | localOverload (cause : LocalOverloadCause) (waitedMs : ℕ)
  | callerAborted (waitedMs : ℕ)
deriving DecidableEq

/-- Whether a decision hands out a permit. -/
def Decision.isAdmitted : Decision → Bool
  | .admitted _ => true
  | _ => false

/-- `Waiter`: the number of its request, its principal, the time at which it was queued and the
signal of its caller. -/
structure Waiter where
  id : ℕ
  principal : Option String
  queuedAt : ℕ
  callerSignal : Option ℕ
deriving DecidableEq

/-- The counters, the queues of the principals and the order of their turns. -/
structure AdmissionState where
  active : ℕ
  waitingCount : ℕ
  waitingByPrincipal : Record (Option String) (List Waiter)
  turnOrder : List (Option String)

/-- A state in which nobody holds a permit or waits for one. -/
def AdmissionState.empty : AdmissionState := ⟨0, 0, .empty, []⟩

/-- A controller with its clock, the signals that are aborted, the listeners of the waiters by
number, the resolved promises, the requests whose caller is done with its promise, and the grants
that were released. -/
structure Controller where
  state : AdmissionState
  now : ℕ
  aborted : List ℕ
  nextId : ℕ
  waiters : ℕ → Option Waiter
  resolved : List (ℕ × Decision)
  taken : List ℕ
  released : List ℕ

def createInferenceAdmissionController : Controller :=
  ⟨.empty, 0, [], 0, fun _ => none, [], [], []⟩

/-- The result that a request was resolved with. -/
def Controller.decision (c : Controller) (id : ℕ) : Option Decision := c.resolved.lookup id

/-- `elapsedMs`, at the time `now`. -/
def elapsedMs (now since : ℕ) : ℕ := (max 0 (mathRound (((now : ℚ) - since) / 1000000))).toNat

/-- `signal?.aborted` -/
def isAborted (signals : List ℕ) (signal : Option ℕ) : Bool :=
  match signal with
  | none => false
  | some σ => decide (σ ∈ signals)

/-! ### Waiters -/

/-- `detachWaiter`, apart from the listener. -/
def detachWaiter (waiter : Waiter) (s : AdmissionState) : AdmissionState :=
  match s.waitingByPrincipal.lookup waiter.principal with
  | none => s
  | some queue =>
    if waiter ∉ queue then s
    else if 0 < (queue.erase waiter).length then
      { s with
        waitingCount := s.waitingCount - 1
        waitingByPrincipal := s.waitingByPrincipal.insert waiter.principal (queue.erase waiter) }
    else
      { s with
        waitingCount := s.waitingCount - 1
        waitingByPrincipal := s.waitingByPrincipal.erase waiter.principal
        turnOrder := s.turnOrder.erase waiter.principal }

def enqueueWaiter (waiter : Waiter) (s : AdmissionState) : AdmissionState :=
  match s.waitingByPrincipal.lookup waiter.principal with
  | some queue =>
    { s with
      waitingByPrincipal := s.waitingByPrincipal.insert waiter.principal (queue ++ [waiter])
      waitingCount := s.waitingCount + 1 }
  | none =>
    { s with
      waitingByPrincipal := s.waitingByPrincipal.insert waiter.principal [waiter]
      turnOrder := s.turnOrder ++ [waiter.principal]
      waitingCount := s.waitingCount + 1 }

/-- `turnOrder.unshift(principal)`, if the principal still has waiters. -/
def unshiftTurn (principal : Option String) (s : AdmissionState) : AdmissionState :=
  if s.waitingByPrincipal.lookup principal = none then s
  else { s with turnOrder := principal :: s.turnOrder }

/-- `turnOrder.push(principal)`, if the principal still has waiters. -/
def pushTurn (principal : Option String) (s : AdmissionState) : AdmissionState :=
  if s.waitingByPrincipal.lookup principal = none then s
  else { s with turnOrder := s.turnOrder ++ [principal] }

/-- The turns after one was shifted out. -/
def AdmissionState.withTurns (turnOrder : List (Option String)) (s : AdmissionState) :
    AdmissionState :=
  { s with turnOrder := turnOrder }

/-- `active += 1` -/
def AdmissionState.grant (s : AdmissionState) : AdmissionState := { s with active := s.active + 1 }

/-- The controller with its counters and queues changed by `f`. -/
def Controller.mapState (f : AdmissionState → AdmissionState) (c : Controller) : Controller :=
  { c with state := f c.state }

/-- `resolve(result)` -/
def Controller.resolve (id : ℕ) (result : Decision) (c : Controller) : Controller :=
  { c with resolved := (id, result) :: c.resolved }

/-- `settleWaiter`; a waiter is `settled` when its promise is resolved. -/
def settleWaiter (waiter : Waiter) (result : Decision) (c : Controller) : Controller :=
  if waiter.id ∈ c.resolved.map Prod.fst then c
  else (c.mapState (detachWaiter waiter)).resolve waiter.id result

/-- `admit`, until the permit is released. -/
def admitOne (c : Controller) : Controller := c.mapState AdmissionState.grant

def refuseWaiter (waiter : Waiter) (principal : Option String) (result : Decision)
    (c : Controller) :
    Controller :=
  (settleWaiter waiter result c).mapState (unshiftTurn principal)

/-- The end of an iteration of `admitWaiting` that admits. -/
def grantWaiter (waiter : Waiter) (principal : Option String) (waitedMs : ℕ) (c : Controller) :
    Controller :=
  (settleWaiter waiter (.admitted waitedMs) (admitOne c)).mapState (pushTurn principal)

variable (limits : InferenceAdmissionLimits)

/-- An iteration of `admitWaiting` for a principal whose turn has been shifted out. -/
def admitTurn (principal : Option String) (c : Controller) : Controller :=
  match (c.state.waitingByPrincipal.lookup principal).bind List.head? with
  | none => c
  | some waiter =>
    if isAborted c.aborted waiter.callerSignal = true then
      refuseWaiter waiter principal (.callerAborted (elapsedMs c.now waiter.queuedAt)) c
    else if limits.maxQueueWaitMs ≤ elapsedMs c.now waiter.queuedAt then
      refuseWaiter waiter principal
        (.localOverload .queueWaitTimeout (elapsedMs c.now waiter.queuedAt)) c
    else grantWaiter waiter principal (elapsedMs c.now waiter.queuedAt) c

/-- The loop of `admitWaiting`, for at most so many iterations. -/
def admitWaitingLoop : ℕ → Controller → Controller
  | 0, c => c
  | fuel + 1, c =>
    if c.state.active < limits.maxActive ∧ 0 < c.state.waitingCount then
      match c.state.turnOrder with
      | [] => c
      | principal :: turnOrder =>
        admitWaitingLoop fuel
          (admitTurn limits principal (c.mapState (AdmissionState.withTurns turnOrder)))
    else c

/-- `admitWaiting`.  Every iteration settles a waiter or drops a turn. -/
def admitWaiting (c : Controller) : Controller :=
  admitWaitingLoop limits (c.state.waitingCount + c.state.turnOrder.length) c

/-! ### Calls and events -/

/-- A promise that is resolved at once. -/
def resolveNow (result : Decision) (c : Controller) : Controller :=
  { c.resolve c.nextId result with nextId := c.nextId + 1 }

/-- A promise whose waiter is queued. -/
def enqueueRequest (waiter : Waiter) (c : Controller) : Controller :=
  { c with
    nextId := c.nextId + 1
    waiters := Function.update c.waiters c.nextId (some waiter)
    state := enqueueWaiter waiter c.state }

/-- `acquire`.  A timeout is not over before its task runs, so the wait signal of a new waiter is
aborted only with its caller's. -/
def acquire (principal : Option String) (callerSignal : Option ℕ) (c : Controller) : Controller :=
  if isAborted c.aborted callerSignal = true then resolveNow (.callerAborted 0) c
  else if c.state.active < limits.maxActive ∧ c.state.waitingCount = 0 then
    resolveNow (.admitted 0) (admitOne c)
  else if limits.maxWaiting ≤ c.state.waitingCount then
    resolveNow (.localOverload .queueLimit 0) c
  else enqueueRequest ⟨c.nextId, principal, c.now, callerSignal⟩ c

def onWaitAbort (waiter : Waiter) (c : Controller) : Controller :=
  settleWaiter waiter
    (if isAborted c.aborted waiter.callerSignal = true then
      .callerAborted (elapsedMs c.now waiter.queuedAt)
    else .localOverload .queueWaitTimeout (elapsedMs c.now waiter.queuedAt)) c

/-- The waiters that have listened to a signal, oldest first. -/
def listeners (σ : ℕ) (c : Controller) : List Waiter :=
  ((List.range c.nextId).filterMap c.waiters).filter fun waiter => waiter.callerSignal = some σ

/-- A caller aborts its signal: the listeners run before `abort` returns. -/
def abortSignal (σ : ℕ) (c : Controller) : Controller :=
  (listeners σ c).foldl (fun c waiter => onWaitAbort waiter c) { c with aborted := σ :: c.aborted }

/-- The first call of the `release` of a grant. -/
def releaseGrant (id : ℕ) (c : Controller) : Controller :=
  admitWaiting limits
    { c with
      released := id :: c.released
      state := { c.state with active := c.state.active - 1 } }

/-- `release` of the grant of a request; the caller has it from the resolved promise. -/
def release (id : ℕ) (c : Controller) : Controller :=
  if id ∈ c.taken ∧ (c.decision id).any Decision.isAdmitted = true ∧ id ∉ c.released then
    releaseGrant limits id c
  else c

/-- The timer of a waiter's wait runs. -/
def waitTimeout (id : ℕ) (c : Controller) : Controller :=
  match c.waiters id with
  | none => c
  | some waiter => onWaitAbort waiter c

/-- The caller takes what its promise is resolved with. -/
def take (id : ℕ) (c : Controller) : Controller :=
  if (c.decision id).isSome = true ∧ id ∉ c.taken then { c with taken := id :: c.taken } else c

/-- The caller's own abort of one waiter. -/
def abortWaiter (id : ℕ) (c : Controller) : Controller :=
  match c.waiters id with
  | none => c
  | some waiter => settleWaiter waiter (.callerAborted (elapsedMs c.now waiter.queuedAt)) c

/-- A caller goes away before it has taken its result: a grant is given back, a wait is aborted. -/
def abandon (id : ℕ) (c : Controller) : Controller :=
  if id ∈ c.taken then c
  else if (c.decision id).any Decision.isAdmitted = true then
    releaseGrant limits id { c with taken := id :: c.taken }
  else take id (abortWaiter id c)

def requiresAdmission (route : String) : Bool :=
  decide (route ∈ ["embeddings", "embeddings.jobs.create", "embeddings.jobs.get",
    "chat.completions",
    "responses", "systemone", "images.generations", "images.edits"])

/-- The routes that need a permit. -/
def AdmissionRoute : Type := { route : String // requiresAdmission route = true }

/-- What can happen to a controller. -/
inductive AdmissionEvent
  /-- A request for a permit. -/
  | acquire (principal : Option String) (callerSignal : Option ℕ) (route : AdmissionRoute)
  /-- A request is looked at; its timer has run, or not. -/
  | poll (id : ℕ) (waitReady : Bool)
  /-- A grant is released. -/
  | release (id : ℕ)
  /-- A caller goes away. -/
  | drop (id : ℕ)
  /-- A caller aborts its signal. -/
  | abort (callerSignal : ℕ)
  /-- So many nanoseconds pass. -/
  | advance (elapsed : ℕ)

def Controller.step (c : Controller) : AdmissionEvent → Controller
  | .acquire principal callerSignal _ => acquire limits principal callerSignal c
  | .poll id waitReady => take id (if waitReady = true then waitTimeout id c else c)
  | .release id => release limits id c
  | .drop id => abandon limits id c
  | .abort σ => abortSignal σ c
  | .advance elapsed => { c with now := c.now + elapsed }

def Controller.run (events : List AdmissionEvent) : Controller :=
  events.foldl (Controller.step limits) createInferenceAdmissionController

end UbqGateway.Admission
