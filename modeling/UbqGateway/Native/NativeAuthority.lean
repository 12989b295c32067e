import UbqGateway.Library.Record
import UbqGateway.Library.Transaction
import UbqGateway.Native.Commands

/-!
# Executing commands

`NativeAuthority._execute` of `src/authority/native-authority.ts`, with `authorize` of
`native-authority-runtime.ts` and the transactions of `native-authority-sql.ts`.

An execution waits for its verifier, authorizes the command in one transaction, has the routing of
some methods decided and the answer of a signal classified, and does the rest in a last transaction:
there it authorizes again, looks for the receipt of the operation, and either answers with the
receipt or dispatches the command and writes one.  Other executions may run whenever one waits.

What the families of operations do with their own tables is a parameter, `NativeAuthority`: the
tables of capabilities and of receipts are not among these.  The receipts of retained history and of
private routing, whose keys have five parts, are among the other rows.
-/

namespace UbqGateway.Native

/-! ### Identities and grants -/

inductive NativeRuntimeIdentity
  | kvApiKey (keyId : String)
  | localDevelopmentKey (keyId : String)
  | githubToken (owner repo : String)
  | passkeySession (userId : String)
  | authTokensAllowlist
  | adminAllowlist
  | denoDeployToken
  | disabledLocal (bearerDigest : Option String)

def principal : NativeRuntimeIdentity → String
  | .kvApiKey keyId | .localDevelopmentKey keyId => "api-key:" ++ keyId
  | .githubToken owner repo => "github-repo:" ++ owner.toLower ++ "/" ++ repo.toLower
  | .passkeySession userId => "passkey-user:" ++ userId
  | .disabledLocal none => "local-auth-disabled"
  | .disabledLocal (some digest) => "bearer-sha256:" ++ digest
  | .authTokensAllowlist => "auth-method:auth_tokens_allowlist"
  | .adminAllowlist => "auth-method:admin_allowlist"
  | .denoDeployToken => "auth-method:deno_deploy_token"

def NativeRuntimeIdentity.keyId : NativeRuntimeIdentity → Option String
  | .kvApiKey keyId | .localDevelopmentKey keyId => some keyId
  | _ => none

/-- `NativeRuntimeGrant`; only valid grants are in the table. -/
structure NativeRuntimeGrant where
  id : String
  epoch : String
  subjectId : String
  contextBinding : String
  roles : List NativeRole
  expiresAtMs : ℤ
  revoked : Bool

/-- `NativeRuntimeBinding`, without the private context that only the verifier reads. -/
structure NativeRuntimeBinding where
  grantId : String
  contextBinding : String

/-- `NativeRuntimeApiScope`, with the parts of its principal reference. -/
structure NativeRuntimeApiScope where
  principalRefId : String
  keyId : String
  principalId : String
  tokenHash : String

structure VerifiedNativeRuntime where
  bindingId : String
  subjectId : String
  contextBinding : String
  intentDigest : Json
  identity : NativeRuntimeIdentity
  api : Option NativeRuntimeApiScope
  kernel : Option (String × String)

structure NativeRuntimeAuthorization where
  binding : NativeRuntimeBinding
  verified : VerifiedNativeRuntime

/-- `NativeCapability`, without the fields that are the same in all of them. -/
structure NativeCapability where
  id : String
  epoch : String
  principalId : String
  keyId : Option String
  tokenHash : Option String
  kernel : Option (String × String)
  roles : List NativeRole
  revoked : Bool
  runtimeGrantId : String
  contextBinding : String
  subjectId : String
  principalRefId : Option String
deriving DecidableEq

/-- The part of `NativePrincipalResolution` that `authorize` reads. -/
structure NativePrincipalResolution where
  epoch : String
  keyId : String
  principalId : String
  tokenHash : String

/-- The part of `NativeRequest` that `_execute` itself reads, its routing decision: whether the
request may use Codex, and the providers. -/
structure NativeRequest where
  routingDecision : Option (String × List String)

/-! ### The database -/

/-- The key of a receipt: `[epoch, principalId, capabilityId, operationId]`. -/
structure ReceiptKey where
  epoch : String
  principalId : String
  capabilityId : String
  operationId : String
deriving DecidableEq

/-- A row of `operation_receipt`. -/
structure OperationReceipt where
  command : Json
  reply : Json
  codexAuthorization : Option Json

/-- The revision counter and the rows of the other tables, which are all that a family of operations
may change. -/
structure Tables (Rows : Type) where
  sequence : ℕ
  rows : Rows

/-- The database: the row of `uos_native_authority_meta`, the capabilities, the receipts and the
rows of the other tables. -/
structure Database (Rows : Type) extends Tables Rows where
  schemaVersion : ℕ
  namespaceName : String
  epoch : String
  capability : Record String NativeCapability
  operationReceipt : Record ReceiptKey OperationReceipt

/-- The body of a transaction. -/
abbrev SqlM (Rows : Type) := StateT (Database Rows) (Except NativeAuthorityError)

/-- What a function of a family reads. -/
abbrev Reading (Rows α : Type) := Rows → Except NativeAuthorityError α

/-- What a function of a family does with its tables. -/
abbrev Operation (Rows α : Type) := StateT (Tables Rows) (Except NativeAuthorityError) α

/-- The authority: the arguments of its constructor, and the functions of the families.  A reply is
the value that `JSON.parse` makes of its text. -/
structure NativeAuthority (Rows : Type) where
  namespaceName : String
  epoch : String
  byteLength : Json → ℕ
  /-- the table `runtime_grant` -/
  runtimeGrant : Rows → String → Option NativeRuntimeGrant
  principalReference : String → String → ℤ → Reading Rows (Option NativePrincipalResolution)
  -- `NativeAuthorityRuntime`
  assertCurrentApi : NativeCapability → ℤ → Reading Rows Unit
  assertRouting : NativeCapability → NativeRequest → Json → ℤ → Reading Rows Unit
  openRequest : NativeCapability → Json → ℤ → Operation Rows Json
  metadata : NativeCapability → Json → ℤ → Operation Rows Json
  -- `NativeAuthorityApi`
  request : NativeCapability → String → ℤ → Reading Rows NativeRequest
  validated : NativeCapability → String → ℤ → Reading Rows NativeRequest
  assertDispatchReceipt : NativeCapability → String → ℤ → Reading Rows Unit
  assertTransportReceipt : NativeCapability → String → String → ℤ → Reading Rows Unit
  apiReserve : NativeCapability → Json → ℤ → Operation Rows Json
  apiStart : NativeCapability → Json → String → ℤ → Operation Rows Json
  apiDispatch : NativeCapability → Json → ℤ → Operation Rows Json
  apiRelease : NativeCapability → Json → ℤ → Operation Rows Json
  apiCancel : NativeCapability → String → ℤ → Operation Rows Json
  -- `NativeAuthorityKernel`
  kernelReserve : NativeCapability → String → ℤ → Operation Rows Json
  kernelIntent : NativeCapability → Json → ℤ → Operation Rows Json
  kernelSettle : NativeCapability → Json → ℤ → Operation Rows Json
  kernelRenew : NativeCapability → String → ℤ → Operation Rows Json
  kernelReclaim : NativeCapability → Json → ℤ → Operation Rows Json
  kernelPolicy : NativeCapability → Json → ℤ → Operation Rows Json
  kernelCutover : ℤ → Operation Rows Json
  -- `NativeAuthorityCodex`
  codexFence : NativeCapability → String → ℤ → Option Json → Reading Rows Unit
  codexAuthorization : NativeCapability → String → ℤ → Reading Rows Json
  codexSelect : NativeCapability → String → ℤ → Operation Rows Json
  codexSignal : NativeCapability → Json → Option Json → ℤ → Operation Rows Json
  codexRelease : NativeCapability → String → ℤ → Operation Rows Json
  codexElect : NativeCapability → Json → ℤ → Operation Rows Json
  codexRefresh : NativeCapability → String → ℤ → Operation Rows Json
  -- `NativeAuthorityPaid`
  paidAttempt : NativeCapability → String → ℤ → Reading Rows Unit
  paidAssertStart : NativeCapability → Json → ℤ → Reading Rows Unit
  paidStart : NativeCapability → Json → ℤ → Operation Rows Unit
  paidReserve : NativeCapability → Json → ℤ → Operation Rows Json
  paidLifecycle : NativeCapability → Json → ℤ → Operation Rows Json
  paidRelease : NativeCapability → String → ℤ → Operation Rows Json
  paidBilling : NativeCapability → Json → ℤ → Operation Rows Json
  paidDefer : NativeCapability → String → ℤ → Operation Rows Json
  paidClaim : NativeCapability → Json → ℤ → Operation Rows Json
  paidFinish : NativeCapability → Json → ℤ → Operation Rows Json
  paidBackfill : NativeCapability → Json → ℤ → Operation Rows Json
  paidDeletion : NativeCapability → ℤ → Operation Rows Json
  -- the private functions `_observation` and `_status`
  observation : NativeCapability → Json → ℤ → Operation Rows Json
  status : NativeCapability → Json → ℤ → Operation Rows Json

namespace NativeAuthority

variable (A : NativeAuthority Rows)

/-- Throwing unless a condition holds. -/
def require (condition : Bool) (code : String) (status : ℕ) : SqlM Rows Unit :=
  if condition = true then pure () else throw ⟨code, status⟩

/-- A statement that is run only under a condition. -/
def onlyIf (condition : Bool) (body : SqlM Rows Unit) : SqlM Rows Unit :=
  if condition = true then body else pure ()

def observe {α : Type} (read : Reading Rows α) : SqlM Rows α := fun db =>
  (read db.rows).map fun a => (a, db)

/-- Running an operation of a family on the tables that are its own. -/
def operate {α : Type} (operation : Operation Rows α) : SqlM Rows α := fun db =>
  (operation.run db.toTables).map fun result => (result.1, { db with toTables := result.2 })

def assertEpoch : SqlM Rows Unit := do
  let db ← get
  require (decide (db.schemaVersion = 3 ∧ db.namespaceName = A.namespaceName ∧
    db.epoch = A.epoch ∧ db.sequence ≤ 9007199254740991)) "authority_schema_or_epoch_mismatch" 503

/-- The revision that `write` gives to a row. -/
def nextRevision : SqlM Rows Unit := do
  let db ← get
  if db.sequence < 9007199254740991 then
    set { db with sequence := db.sequence + 1 }
  else throw ⟨"authority_revision_exhausted", 503⟩

def writeCapability (cap : NativeCapability) : SqlM Rows Unit := do
  nextRevision
  modify fun db => { db with capability := db.capability.insert cap.id cap }

def writeReceipt (key : ReceiptKey) (receipt : OperationReceipt) : SqlM Rows Unit := do
  nextRevision
  modify fun db => { db with operationReceipt := db.operationReceipt.insert key receipt }

/-! ### Authorization -/

/-- The capability that a grant gives to a verified binding. -/
def capabilityOf (grant : NativeRuntimeGrant) (verified : VerifiedNativeRuntime) :
    NativeCapability where
  id := verified.bindingId
  epoch := grant.epoch
  principalId := principal verified.identity
  keyId := verified.api.map fun api => api.keyId
  tokenHash := verified.api.map fun api => api.tokenHash
  kernel := verified.kernel
  roles := grant.roles
  revoked := false
  runtimeGrantId := grant.id
  contextBinding := grant.contextBinding
  subjectId := grant.subjectId
  principalRefId := verified.api.map fun api => api.principalRefId

def grantValid (grant : NativeRuntimeGrant) (binding : NativeRuntimeBinding) (now : ℤ) : Bool :=
  decide (grant.id = binding.grantId ∧ grant.epoch = A.epoch ∧ grant.revoked = false ∧
    now < grant.expiresAtMs)

/-- Whether the scope of a verified binding fits its identity. -/
def scopeValid (verified : VerifiedNativeRuntime) : Bool :=
  decide (verified.api.map (fun api => api.keyId) = verified.identity.keyId)

/-- Whether the principal reference of a scope resolves to the scope, or is the one that the
capability was made with. -/
def referenceValid (api : NativeRuntimeApiScope) (existing : Option NativeCapability) :
    Option NativePrincipalResolution → Bool
  | none => decide (existing.bind NativeCapability.principalRefId = some api.principalRefId)
  | some resolution => decide (resolution.epoch = A.epoch ∧ resolution.keyId = api.keyId ∧
      resolution.principalId = api.principalId ∧ resolution.tokenHash = api.tokenHash)

/-- The check of the principal reference in `authorize`. -/
def checkReference (existing : Option NativeCapability) (now : ℤ) :
    Option NativeRuntimeApiScope → SqlM Rows Unit
  | none => pure ()
  | some api => do
    let resolution ← observe (A.principalReference api.principalRefId api.keyId now)
    require (A.referenceValid api existing resolution) "runtime_principal_reference_mismatch" 403

/-- The end of `authorize`: the capability is written when its binding is used for the first
time. -/
def retainCapability (existing : Option NativeCapability) (next : NativeCapability) :
    SqlM Rows NativeCapability :=
  match existing with
  | none => do
    writeCapability next
    return next
  | some cap => do
    require (decide (cap.revoked = false ∧ cap.epoch = next.epoch))
      "capability_revoked_or_wrong_epoch" 403
    require (decide (cap = next)) "runtime_binding_scope_changed" 403
    return next

/-- `authorize` of the runtime, for the grant of the binding. -/
def authorizeGrant (auth : NativeRuntimeAuthorization) (now : ℤ) :
    Option NativeRuntimeGrant → SqlM Rows NativeCapability
  | none => throw ⟨"runtime_grant_revoked_or_expired", 403⟩
  | some grant => do
    require (A.grantValid grant auth.binding now) "runtime_grant_revoked_or_expired" 403
    require (decide (grant.contextBinding = auth.binding.contextBinding ∧
      grant.subjectId = auth.verified.subjectId)) "runtime_grant_context_mismatch" 403
    require (scopeValid auth.verified) "runtime_api_scope_mismatch" 403
    require (decide (auth.verified.bindingId ≠ "")) "runtime_binding_identity_missing" 403
    let db ← get
    A.checkReference (db.capability.lookup auth.verified.bindingId) now auth.verified.api
    retainCapability (db.capability.lookup auth.verified.bindingId)
      (capabilityOf grant auth.verified)

/-- `authorize` of the runtime. -/
def runtimeAuthorize (auth : NativeRuntimeAuthorization) (now : ℤ) : SqlM Rows NativeCapability :=
    do
  let db ← get
  A.authorizeGrant auth now (A.runtimeGrant db.rows auth.binding.grantId)

/-- The methods for which the policy of the key has to be the current one. -/
def needsCurrentApi : NativeMethod → Bool
  | .bindValidatedRequestMetadata | .reserveKernelUsage | .selectCodexAccount
  | .electCodexResetProbe | .refreshCodexAdmission => true
  | _ => false

/-- Reading something of an argument, if the command has it. -/
def observeArgument {α : Type} (read : String → Reading Rows α) : Option String → SqlM Rows Unit
  | none => pure ()
  | some argument => do
    let _ ← observe (read argument)

def authorize (auth : NativeRuntimeAuthorization) (command : NativeCommand) (now : ℤ) :
    SqlM Rows NativeCapability := do
  A.assertEpoch
  require (decide (command.epoch = A.epoch)) "authority_epoch_mismatch" 403
  let cap ← A.runtimeAuthorize auth now
  require (cap.roles.contains (nativeMethodRoles command.method)) "authority_capability_denied" 403
  onlyIf (needsCurrentApi command.method) (observe (A.assertCurrentApi cap now))
  observeArgument (fun handle => A.request cap handle now) command.handle
  observeArgument (fun attempt => A.paidAttempt cap attempt now) command.attemptHandle
  return cap

/-! ### The last transaction -/

def providerOf (command : NativeCommand) : String :=
  (Json.string? (command.args.get "provider")).getD ""

/-- The handle of a command whose method has one. -/
def handleOf (command : NativeCommand) : String := command.handle.getD ""

def requestForDispatch (cap : NativeCapability) (command : NativeCommand) (now : ℤ) :
    SqlM Rows Unit := do
  let request ← observe (A.validated cap (handleOf command) now)
  observe (A.assertCurrentApi cap now)
  match request.routingDecision with
  | none => throw ⟨"trusted_routing_missing", 409⟩
  | some (_, providers) =>
    require (providers.contains (providerOf command)) "request_provider_not_authorized" 403
    onlyIf (decide (providerOf command = "chatgpt_codex"))
      (observe (A.codexFence cap (handleOf command) now none))

def kindOf (reply : Json) : Option String := Json.string? (reply.get "kind")

/-- The methods whose receipts are not answered with under a policy that is not the current one. -/
def receiptNeedsCurrentApi : NativeMethod → Bool
  | .openAuthenticatedRequest | .reserveApiUsage | .reservePaidAttempt
  | .bindValidatedRequestMetadata => true
  | _ => false

/-- The part of `_validateReceipt` for the start of a transport. -/
def validateTransport (cap : NativeCapability) (command : NativeCommand)
    (receipt : OperationReceipt) (now : ℤ) : SqlM Rows Unit := do
  A.requestForDispatch cap command now
  observe (A.paidAssertStart cap command.args now)
  if kindOf receipt.reply = some "started" then
    observe (A.assertTransportReceipt cap (handleOf command) command.operationId now)
  else observe (A.assertDispatchReceipt cap (handleOf command) now)

/-- The part of `_validateReceipt` for the refresh of an admission. -/
def validateRefresh (cap : NativeCapability) (command : NativeCommand) (now : ℤ) :
    Option Json → SqlM Rows Unit
  | none => throw ⟨"cached_codex_authorization_missing", 409⟩
  | some authorization => observe (A.codexFence cap (handleOf command) now (some authorization))

def validateReceipt (cap : NativeCapability) (command : NativeCommand) (receipt : OperationReceipt)
    (now : ℤ) : SqlM Rows Unit := do
  require (decide (receipt.command = command.bytes)) "authority_operation_replay_conflict" 409
  onlyIf (receiptNeedsCurrentApi command.method) (observe (A.assertCurrentApi cap now))
  onlyIf (decide (command.method = .markApiDispatch ∧ kindOf receipt.reply = some "dispatched"))
    (observe (A.assertDispatchReceipt cap (handleOf command) now))
  onlyIf (decide (command.method = .refreshCodexAdmission ∧ kindOf receipt.reply = some "current"))
    (A.validateRefresh cap command now receipt.codexAuthorization)
  onlyIf (decide (command.method = .recordTransportStarted))
    (A.validateTransport cap command receipt now)

/-- The case `selectCodexAccount` of the dispatch. -/
def selectCodexAccount (cap : NativeCapability) (command : NativeCommand) (now : ℤ) :
    SqlM Rows Json := do
  let request ← observe (A.validated cap (handleOf command) now)
  require (decide (request.routingDecision.map Prod.fst = some "eligible"))
    "request_codex_not_authorized" 403
  operate (A.codexSelect cap (handleOf command) now)

/-- The case `recordTransportStarted` of the dispatch. -/
def recordTransportStarted (cap : NativeCapability) (command : NativeCommand) (now : ℤ) :
    SqlM Rows Json := do
  A.requestForDispatch cap command now
  operate (A.paidStart cap command.args now)
  operate (A.apiStart cap command.args command.operationId now)

/-- The attempt of a command whose method has one. -/
def attemptOf (command : NativeCommand) : String := command.attemptHandle.getD ""

/-- The `switch` of `_execute`. -/
def dispatch (cap : NativeCapability) (command : NativeCommand) (parsed : Option Json) (now : ℤ) :
    SqlM Rows Json :=
  match command.method with
  | .openAuthenticatedRequest => operate (A.openRequest cap command.args now)
  | .bindValidatedRequestMetadata => operate (A.metadata cap command.args now)
  | .reserveApiUsage => operate (A.apiReserve cap command.args now)
  | .recordTransportStarted => A.recordTransportStarted cap command now
  | .markApiDispatch => operate (A.apiDispatch cap command.args now)
  | .releaseApiUndispatched => operate (A.apiRelease cap command.args now)
  | .recordApiDispatchCancellation => operate (A.apiCancel cap (handleOf command) now)
  | .reserveKernelUsage => operate (A.kernelReserve cap (handleOf command) now)
  | .recordKernelTerminalIntent => operate (A.kernelIntent cap command.args now)
  | .settleKernelUsage => operate (A.kernelSettle cap command.args now)
  | .renewKernelReservation => operate (A.kernelRenew cap (handleOf command) now)
  | .reclaimExpiredKernelReservations => operate (A.kernelReclaim cap command.args now)
  | .setKernelQuota | .deleteKernelQuota => operate (A.kernelPolicy cap command.args now)
  | .acquireKernelDefaultCutover => operate (A.kernelCutover now)
  | .selectCodexAccount => A.selectCodexAccount cap command now
  | .recordCodexAttemptSignal => operate (A.codexSignal cap command.args parsed now)
  | .releaseCodexProbe => operate (A.codexRelease cap (handleOf command) now)
  | .electCodexResetProbe => operate (A.codexElect cap command.args now)
  | .refreshCodexAdmission => operate (A.codexRefresh cap (handleOf command) now)
  | .reservePaidAttempt => operate (A.paidReserve cap command.args now)
  | .recordPaidAttemptLifecycle => operate (A.paidLifecycle cap command.args now)
  | .releasePaidBeforeFetch => operate (A.paidRelease cap (attemptOf command) now)
  | .recordVerifiedPaidBilling => operate (A.paidBilling cap command.args now)
  | .deferPaidReconciliation => operate (A.paidDefer cap (attemptOf command) now)
  | .claimPaidReconciliation => operate (A.paidClaim cap command.args now)
  | .finishPaidReconciliation => operate (A.paidFinish cap command.args now)
  | .foldPaidBackfillPage => operate (A.paidBackfill cap command.args now)
  | .beginPaidKeyDeletion => operate (A.paidDeletion cap now)
  | .recordSemanticTerminal | .recordDeliveryObservation =>
    operate (A.observation cap command.args now)
  | .readRequestStatus => operate (A.status cap command.args now)

/-- The authorization that the receipt of a refresh keeps. -/
def authorizationFor (cap : NativeCapability) (command : NativeCommand) (committed : Json)
    (now : ℤ) : SqlM Rows (Option Json) :=
  if command.method = .refreshCodexAdmission ∧ kindOf committed = some "current" then do
    let authorization ← observe (A.codexAuthorization cap (handleOf command) now)
    return some authorization
  else return none

def receiptKey (cap : NativeCapability) (command : NativeCommand) : ReceiptKey :=
  ⟨A.epoch, cap.principalId, cap.id, command.operationId⟩

/-- What is done for an operation that has a receipt, and for one that has none. -/
def answer (cap : NativeCapability) (command : NativeCommand) (parsed : Option Json) (now : ℤ) :
    Option OperationReceipt → SqlM Rows Json
  | some receipt => do
    A.validateReceipt cap command receipt now
    return receipt.reply
  | none => do
    let committed ← A.dispatch cap command parsed now
    let authorization ← A.authorizationFor cap command committed now
    writeReceipt (A.receiptKey cap command) ⟨command.bytes, committed, authorization⟩
    return committed

/-- The check of a routing decision at the beginning of the last transaction. -/
def checkRouting (cap : NativeCapability) (command : NativeCommand) (now : ℤ) :
    Option Json → SqlM Rows Unit
  | none => pure ()
  | some routing => do
    let request ← observe (A.validated cap (handleOf command) now)
    observe (A.assertRouting cap request routing now)

/-- The last transaction of `_execute`. -/
def commit (auth : NativeRuntimeAuthorization) (command : NativeCommand)
    (routing parsed : Option Json)
    (now : ℤ) : SqlM Rows Json := do
  let cap ← A.authorize auth command now
  A.checkRouting cap command now routing
  -- a lost reply cannot revive revoked authority: the checks of a dispatch come before its receipt
  onlyIf (decide (command.method = .markApiDispatch)) (A.requestForDispatch cap command now)
  let db ← get
  A.answer cap command parsed now (db.operationReceipt.lookup (A.receiptKey cap command))

/-! ### Executions -/

/-- What an execution does next, or how it has ended. -/
inductive Phase
  | authorizing
  | validating
  | routing
  | classifying (routing : Option Json)
  | committing (routing parsed : Option Json)
  | returned (reply : Json)
  | threw (error : NativeAuthorityError)
deriving DecidableEq

/-- A call of `_execute` that has been verified. -/
structure Execution where
  command : NativeCommand
  auth : NativeRuntimeAuthorization
  observedAt : ℤ
  phase : Phase

/-- The key under which an execution looks for a receipt. -/
def keyOf (e : Execution) : ReceiptKey :=
  ⟨A.epoch, principal e.auth.verified.identity, e.auth.verified.bindingId, e.command.operationId⟩

/-- The beginning of `_execute`, up to the answer of the verifier. -/
def begin (binding : NativeRuntimeBinding) (input : Json) (observedAt : ℤ)
    (verified : Except NativeAuthorityError VerifiedNativeRuntime) :
    Except NativeAuthorityError Execution := do
  let command ← parseNativeCommand A.byteLength input
  let verified ← verified
  if verified.intentDigest = command.bytes ∧ verified.contextBinding = binding.contextBinding then
    return ⟨command, ⟨binding, verified⟩, observedAt, .authorizing⟩
  else throw ⟨"runtime_context_or_intent_mismatch", 403⟩

/-- The methods whose routing is decided again. -/
def needsRouting (command : NativeCommand) : Bool :=
  command.handle.isSome && match command.method with
    | .selectCodexAccount | .reservePaidAttempt | .markApiDispatch | .recordTransportStarted
    | .refreshCodexAdmission => true
    | _ => false

/-- Whether the command brings an answer that has to be classified. -/
def needsClassification (command : NativeCommand) : Bool :=
  decide (command.method = .recordCodexAttemptSignal ∧
    Json.string? (command.args.get "signal") = some "quota" ∧
    (command.args.get "response").isSome = true)

/-- What the world gives to an execution that goes on: the readings of the clock, the routing that
was decided, and the class of the answer. -/
structure Answers where
  now : ℤ
  later : ℤ
  decision : Except NativeAuthorityError Json
  parsed : Except NativeAuthorityError (Option Json)

def sqlTransaction {α : Type} (body : SqlM Rows α) (db : Database Rows) :
    Except NativeAuthorityError α × Database Rows :=
  transaction (do A.assertEpoch; body) db

/-- The phase after a part of an execution. -/
def phaseAfter {α : Type} (next : α → Phase) : Except NativeAuthorityError α → Phase
  | .ok a => next a
  | .error e => .threw e

/-- The next part of an execution. -/
def advance (answers : Answers) (db : Database Rows) (e : Execution) : Phase × Database Rows :=
  match e.phase with
  | .authorizing =>
    let result := A.sqlTransaction (A.authorize e.auth e.command e.observedAt) db
    (phaseAfter (fun _ => if needsRouting e.command = true then .validating else .classifying none)
      result.1, result.2)
  | .validating =>
    let result := A.sqlTransaction (do
      let cap ← A.authorize e.auth e.command answers.now
      observe (A.validated cap (handleOf e.command) answers.later)) db
    (phaseAfter (fun _ => .routing) result.1, result.2)
  | .routing => (phaseAfter (fun decision => .classifying (some decision)) answers.decision, db)
  | .classifying routing =>
    if needsClassification e.command = true then
      (phaseAfter (fun parsed => .committing routing parsed) answers.parsed, db)
    else (.committing routing none, db)
  | .committing routing parsed =>
    let result := A.sqlTransaction (A.commit e.auth e.command routing parsed answers.now) db
    (phaseAfter .returned result.1, result.2)
  | .returned reply => (.returned reply, db)
  | .threw error => (.threw error, db)

/-- The database, the executions that have been verified, and, newest first, what their parts have
made of the database. -/
structure World (Rows : Type) where
  db : Database Rows
  executions : List Execution
  history : List (ℕ × Database Rows × Database Rows)

/-- What happens: a call is verified, an execution goes on, or something else happens to the other
tables. -/
inductive Event (Rows : Type)
  | call (binding : NativeRuntimeBinding) (input : Json) (observedAt : ℤ)
      (verified : Except NativeAuthorityError VerifiedNativeRuntime)
  | proceed (i : ℕ) (answers : Answers)
  | other (tables : Tables Rows)

def step (w : World Rows) : Event Rows → World Rows
  | .call binding input observedAt verified =>
    match A.begin binding input observedAt verified with
    | .ok e => { w with executions := w.executions ++ [e] }
    | .error _ => w
  | .proceed i answers =>
    match w.executions[i]? with
    | none => w
    | some e =>
      { db := (A.advance answers w.db e).2
        executions := w.executions.set i { e with phase := (A.advance answers w.db e).1 }
        history := (i, w.db, (A.advance answers w.db e).2) :: w.history }
  | .other tables => { w with db := { w.db with toTables := tables } }

/-- The world before anything was executed: nothing has been written to the two tables yet. -/
def World.Initial (w : World Rows) : Prop :=
  w.db.capability = Record.empty ∧ w.db.operationReceipt = Record.empty ∧ w.executions = [] ∧
    w.history = []

/-- The world after some events. -/
def run (w : World Rows) (events : List (Event Rows)) : World Rows := events.foldl A.step w

end NativeAuthority

end UbqGateway.Native
