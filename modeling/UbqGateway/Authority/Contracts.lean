import UbqGateway.Library.Record

/-!
# The authority's data model

The types of `src/authority/contracts.ts` and the checks that go with them.

Two kinds of numbers occur.  What the store holds went through `stateGuard` of
`src/authority/durable-store.ts`, which refuses everything but non-negative safe integers: the
limits of a policy are natural numbers here.  What a caller passes is an integer, and the operations
that store it check it first (`assertAmount`).  The window counters are integers, because the
operations subtract from them; that they never become negative is a result, not a type.

`JSON.stringify` is used as an equality test (`sameEvidence`) and to name a window
(`WindowKey`).  The JSON text of a record of strings, integers, booleans and nulls determines the
record, and the text of `[principalId, windowResetAtMs]` determines both, so the model compares the
records themselves and keeps the pair.
-/

namespace UbqGateway.Authority

structure AuthorityScope where
  nameSpace : String
  epoch : ℤ
deriving DecidableEq

/-- `GatewayRoute`: `/v1/responses` or `/v1/chat/completions` -/
inductive GatewayRoute
  | responses
  | chatCompletions
deriving DecidableEq

inductive DispatchProvider
  | codex
  | surplus
  | openlux
deriving DecidableEq

inductive DeliveryOutcome
  | delivered
  | interrupted
  | unobserved
deriving DecidableEq

inductive SemanticTerminal
  | completed
  | incomplete
  | failed
  | cancelled
deriving DecidableEq

/-- The kinds of an `AccountProof`. -/
inductive ProofKind
  | quotaExhausted
  | credentialInvalid
  | transient
deriving DecidableEq

structure AccountProof where
  kind : ProofKind
  model : String
  fingerprint : String
  observedAtMs : ℤ
  validUntilMs : ℤ
deriving DecidableEq

structure AccountBinding where
  accountId : String
  fingerprint : String
  credentialGeneration : ℤ
  routingGeneration : ℤ
  resetGeneration : ℤ
  overageVersion : ℤ
  overageEnabled : Bool
  enabled : Bool
  models : List String
  proof : Option AccountProof
deriving DecidableEq

structure ActiveAccount where
  accountId : String
  fingerprint : String
  generation : ℤ
deriving DecidableEq

structure PrincipalPolicy where
  principalId : String
  version : ℤ
  deleted : Bool
  windowResetAtMs : ℤ
  requestLimit : ℕ
  kernelLimit : ℕ
  concurrencyLimit : ℕ
  paidLimitMicrocredits : ℕ
deriving DecidableEq

/-- The name of a window: `JSON.stringify([principalId, windowResetAtMs])`. -/
structure WindowKey where
  principalId : String
  windowResetAtMs : ℤ
deriving DecidableEq

@[ext]
structure PrincipalWindow where
  reserved : ℤ
  dispatched : ℤ
  kernelReserved : ℤ
  kernelCompleted : ℤ
  active : ℤ
  paidReservedMicrocredits : ℤ
  paidSettledMicrocredits : ℤ
deriving DecidableEq

structure AdmissionHandle where
  scope : AuthorityScope
  requestId : String
  fence : ℤ
deriving DecidableEq

structure AttemptInput where
  attemptId : String
  provider : DispatchProvider
  maximumExposureMicrocredits : ℤ
  account : Option AccountBinding
deriving DecidableEq

/-- The capacity a provider reports to have run out of. -/
inductive Fallback
  | quotaExhausted
  | capacityExhausted
deriving DecidableEq

/-- `TerminalEvidence`; without `spendMicrocredits` billing remains pending. -/
structure TerminalEvidence where
  outcome : SemanticTerminal
  providerRequestId : Option String
  spendMicrocredits : Option ℤ
  fallback : Option Fallback
deriving DecidableEq

inductive AttemptState
  | reserved
  | dispatchIntent
  | dispatched
  | notDispatched
deriving DecidableEq

structure AttemptRecord where
  input : AttemptInput
  state : AttemptState
  terminal : Option TerminalEvidence
  billingSettled : Bool
  settledSpendMicrocredits : Option ℤ
deriving DecidableEq

structure AdmissionRecord where
  handle : AdmissionHandle
  principalId : String
  policyVersion : ℤ
  windowKey : WindowKey
  digest : String
  route : GatewayRoute
  model : String
  account : Option AccountBinding
  activeGeneration : Option ℤ
  attempts : Record String AttemptRecord
  dispatched : Bool
  semantic : Option SemanticTerminal
  kernelSettled : Bool
  delivery : Option DeliveryOutcome
  settled : Bool
deriving DecidableEq

/-- `AuthorityState`, without the published credentials, which no admission operation reads. -/
structure AuthorityState where
  scope : AuthorityScope
  sequence : ℤ
  accounts : List AccountBinding
  active : Option ActiveAccount
  policies : Record String PrincipalPolicy
  windows : Record WindowKey PrincipalWindow
  admissions : Record String AdmissionRecord
deriving DecidableEq

structure AdmitInput where
  scope : AuthorityScope
  requestId : String
  principalId : String
  policyVersion : ℤ
  digest : String
  route : GatewayRoute
  model : String
  nowMs : ℤ
deriving DecidableEq

/-- What an operation throws: an `AuthorityError` with its code and status, or the `TypeError` of
reading a property of `undefined`. -/
inductive Thrown
  | authorityError (code : String) (status : ℕ)
  | typeError

/-- `throw new AuthorityError(code, status)` unless the condition holds. -/
def require (condition : Prop) [Decidable condition] (code : String) (status : ℕ := 409) :
    Except Thrown Unit :=
  if condition then .ok () else .error (.authorityError code status)

/-- `throw new AuthorityError(code, status)` when the value is missing. -/
def demand {α : Type} (value : Option α) (code : String) (status : ℕ := 409) : Except Thrown α :=
  match value with
  | some a => .ok a
  | none => .error (.authorityError code status)

def isSafeInteger (value : ℤ) : Bool := decide (-(2 ^ 53 - 1) ≤ value ∧ value ≤ 2 ^ 53 - 1)

def assertAmount (value : ℤ) : Except Thrown Unit :=
  require (isSafeInteger value = true ∧ 0 ≤ value) "invalid_amount" 400

/-- The property assignment `values[key] = value`.  On the name `__proto__` it calls the setter
that every object inherits: the prototype of the object changes and no property is created. -/
def assign {α : Type} (values : Record String α) (key : String) (value : α) : Record String α :=
  if key = "__proto__" then values else values.insert key value

theorem mem_values_assign (h : v ∈ (assign values key u).values) : v = u ∨ v ∈ values.values := by
  unfold assign at h
  split_ifs at h with hkey
  · exact Or.inr h
  · exact Record.mem_values_insert h

/-! ### Inversion of the checks -/

theorem require_eq_ok [Decidable condition] :
    require condition code status = .ok u ↔ condition := by
  unfold require
  split_ifs with h <;> simp [h]

theorem demand_eq_ok : demand value code status = .ok a ↔ value = some a := by
  cases value <;> simp [demand]

theorem bind_eq_ok {f : α → Except Thrown β} :
    (x >>= f) = .ok b ↔ ∃ a, x = .ok a ∧ f a = .ok b := by
  cases x <;> simp [bind, Except.bind]

theorem pure_eq_ok : (pure a : Except Thrown α) = .ok b ↔ a = b := by
  simp [pure, Except.pure]

theorem assertAmount_eq_ok :
    assertAmount value = .ok u ↔ isSafeInteger value = true ∧ 0 ≤ value := require_eq_ok

end UbqGateway.Authority
