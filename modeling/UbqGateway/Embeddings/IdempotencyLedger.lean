import UbqGateway.Library.Programs
import Mathlib.Data.Prod.Lex
import Mathlib.Data.String.Basic

/-!
# The idempotency ledger of the embeddings

The functions of `src/embeddings/ledger.ts` on the record of one principal and one
`Idempotency-Key`, and what a request of `src/embeddings/handlers.ts` does with them.  A request
acquires the record, marks it dispatched before it calls the provider, and stores its response in
chunks under a generation of its own before the record says that it has succeeded.

Texts are lists of UTF-16 code units, and `sha256Hex` is a parameter.  Rows do not expire here, so
the lifetimes that the writes ask for are left out, and times are integers, which `Math.trunc`
leaves as they are.
-/

namespace UbqGateway.Embeddings

/-- `EMBEDDINGS_IDEMPOTENCY_LEASE_MS` -/
def idempotencyLeaseMs : ℤ := 60000

/-- `EMBEDDINGS_IDEMPOTENCY_RESPONSE_CHUNK_CHARS` -/
def responseChunkChars : ℕ := 48000

/-- `EMBEDDINGS_IDEMPOTENCY_MAX_RESPONSE_CHUNKS` -/
def maxResponseChunks : ℕ := 256

/-- A text, as its UTF-16 code units. -/
abbrev Text := List UInt16

inductive EmbeddingsIdempotencyState
  | reserved
  | dispatched
  | succeeded
  | indeterminate
deriving DecidableEq

structure EmbeddingsIdempotencyRecord where
  fingerprint : String
  state : EmbeddingsIdempotencyState
  ownerRequestId : Option String
  createdAtMs : ℤ
  updatedAtMs : ℤ
  leaseUntilMs : Option ℤ
  responseStatus : Option ℤ
  responseContentType : Option String
  responseGeneration : Option String
  responseChunkCount : Option ℕ
  responseSha256 : Option String
deriving DecidableEq

/-! ### The store -/

/-- The keys: `embeddingsIdempotencyKey`, and the chunks under
`embeddingsIdempotencyResponseKeyPrefix`. -/
inductive LedgerKey
  | record
  | chunk (generation : String) (index : ℕ)
deriving DecidableEq

/-- The parts of a key in the order of the store. -/
def LedgerKey.parts : LedgerKey → ℕ ×ₗ String ×ₗ ℕ
  | .record => toLex (0, toLex ("", 0))
  | .chunk generation index => toLex (1, toLex (generation, index))

theorem LedgerKey.parts_injective : Function.Injective LedgerKey.parts := by
  intro j k h
  cases j <;> cases k <;> simp_all [LedgerKey.parts]

/-- The order in which the store lists its keys. -/
instance : LinearOrder LedgerKey := LinearOrder.lift' LedgerKey.parts LedgerKey.parts_injective

/-- The values; a value that is no record of the ledger is malformed. -/
inductive LedgerValue
  | record (record : EmbeddingsIdempotencyRecord)
  | chunk (text : Text)
  | malformed

/-- What a commit did, and for which request. -/
inductive LedgerLabel
  | reserve (requestId : String)
  | dispatch (requestId : String)
  | release (requestId : String)
  | succeed (requestId : String)
  | retire (requestId : String)
  | chunk (requestId : String) (index : ℕ)

abbrev LedgerM (α : Type) := Prog LedgerKey LedgerValue LedgerLabel α

abbrev LedgerKv := Kv LedgerKey LedgerValue

/-- `isEmbeddingsIdempotencyChunkCount` -/
def isChunkCount (count : Option ℕ) : Bool :=
  count.all fun n => decide (1 ≤ n ∧ n ≤ maxResponseChunks)

/-- `normalizeEmbeddingsIdempotencyRecord` -/
def normalizeRecord : Option (Entry LedgerValue) → Option EmbeddingsIdempotencyRecord
  | some ⟨.record record, _⟩ => if isChunkCount record.responseChunkCount = true then some record
    else none
  | _ => none

/-- `EmbeddingsIdempotencyLease`, without the store and its keys. -/
structure EmbeddingsIdempotencyLease where
  fingerprint : String
  ownerRequestId : String

/-- A response: its status, content type and body. -/
structure EmbeddingsResponse where
  status : ℤ
  contentType : String
  body : Text
deriving DecidableEq

/-- The errors of the ledger: the responses that are not the response of a request. -/
inductive LedgerError
  | conflict
  | inProgress
  | indeterminate
  | unavailable
deriving DecidableEq

/-- `EmbeddingsIdempotencyAcquireResult` -/
inductive AcquireResult
  | acquired
  | replay (response : EmbeddingsResponse)
  | error (error : LedgerError)
deriving DecidableEq

section Ledger

variable (sha256Hex : Text → String)

/-! ### Responses -/

/-- The chunks that `storeEmbeddingsIdempotencySuccess` cuts a body into. -/
def responseChunks (body : Text) : List Text :=
  if body = [] then [[]]
  else (List.range ((body.length + (responseChunkChars - 1)) / responseChunkChars)).map fun i =>
    (body.drop (i * responseChunkChars)).take responseChunkChars

def chunkText : Option (Entry LedgerValue) → Option Text
  | some ⟨.chunk text, _⟩ => some text
  | _ => none

/-- What a record says about a response that can be loaded: content type, generation, number of
chunks and hash. -/
def responseParts (record : EmbeddingsIdempotencyRecord) : Option (String × String × ℕ × String) :=
  if record.state = .succeeded ∧ record.responseStatus = some 200 then do
    let contentType ← record.responseContentType.filter fun s => decide (s ≠ "")
    let generation ← record.responseGeneration.filter fun s => decide (s ≠ "")
    let count ← record.responseChunkCount
    let sha ← record.responseSha256.filter fun s => decide (s ≠ "")
    return (contentType, generation, count, sha)
  else none

def chunkKeys (generation : String) (count : ℕ) : List LedgerKey :=
  (List.range count).map (LedgerKey.chunk generation)

/-- The response that the chunks make up, if they are all there and have the hash. -/
def assembleResponse (contentType sha : String) (chunks : List (Option Text)) :
    Option EmbeddingsResponse :=
  (chunks.mapM id).bind fun texts =>
    if sha256Hex texts.flatten = sha then some ⟨200, contentType, texts.flatten⟩ else none

/-- `loadEmbeddingsIdempotencyResponse` -/
def loadResponse (record : EmbeddingsIdempotencyRecord) : LedgerM (Option EmbeddingsResponse) :=
  match responseParts record with
  | none => return none
  | some (contentType, generation, count, sha) => do
    let got ← Prog.gets (chunkKeys generation count)
    return assembleResponse sha256Hex contentType sha
      ((chunkKeys generation count).map fun key => chunkText (got key))

/-! ### The record -/

/-- `buildEmbeddingsIdempotencyIndeterminateRecord` -/
def indeterminateRecord (record : EmbeddingsIdempotencyRecord) (now : ℤ) :
    EmbeddingsIdempotencyRecord :=
  { record with
    state := .indeterminate
    ownerRequestId := none
    updatedAtMs := now
    leaseUntilMs := none
    responseStatus := none
    responseContentType := none
    responseGeneration := none
    responseChunkCount := none
    responseSha256 := none }

/-- The record of a first reservation. -/
def newRecord (fingerprint requestId : String) (now : ℤ) : EmbeddingsIdempotencyRecord where
  fingerprint := fingerprint
  state := .reserved
  ownerRequestId := some requestId
  createdAtMs := now
  updatedAtMs := now
  leaseUntilMs := some (now + idempotencyLeaseMs)
  responseStatus := none
  responseContentType := none
  responseGeneration := none
  responseChunkCount := none
  responseSha256 := none

/-- The record of a reservation that is taken over. -/
def reservedRecord (record : EmbeddingsIdempotencyRecord) (requestId : String) (now : ℤ) :
    EmbeddingsIdempotencyRecord :=
  { record with
    state := .reserved
    ownerRequestId := some requestId
    updatedAtMs := now
    leaseUntilMs := some (now + idempotencyLeaseMs)
    responseStatus := none
    responseContentType := none
    responseGeneration := none
    responseChunkCount := none
    responseSha256 := none }

/-- The record of a request that is about to call the provider. -/
def dispatchedRecord (record : EmbeddingsIdempotencyRecord) (now : ℤ) :
    EmbeddingsIdempotencyRecord :=
  { record with
    state := .dispatched
    updatedAtMs := now
    leaseUntilMs := some (now + idempotencyLeaseMs) }

/-- The record of a request whose response was stored. -/
def succeededRecord (record : EmbeddingsIdempotencyRecord) (requestId : String)
    (response : EmbeddingsResponse) (now : ℤ) : EmbeddingsIdempotencyRecord :=
  { record with
    state := .succeeded
    ownerRequestId := none
    updatedAtMs := now
    leaseUntilMs := none
    responseStatus := some response.status
    responseContentType := some response.contentType
    responseGeneration := some requestId
    responseChunkCount := some (responseChunks response.body).length
    responseSha256 := some (sha256Hex response.body) }

/-- `commitEmbeddingsIdempotencyRecordReplacement` -/
def commitReplacement (label : LedgerLabel) (entry : Option (Entry LedgerValue))
    (record : EmbeddingsIdempotencyRecord) : LedgerM Bool :=
  Prog.transaction label [⟨.record, entry⟩] [.set .record (.record record)]

/-- `retireDispatchedEmbeddingsIdempotencyLease`, and the end of
`resolveSucceededEmbeddingsIdempotencyLease`. -/
def retireRecord (lease : EmbeddingsIdempotencyLease) (entry : Option (Entry LedgerValue))
    (record : EmbeddingsIdempotencyRecord) (now : ℤ) : LedgerM (Option AcquireResult) := do
  let committed ← commitReplacement (.retire lease.ownerRequestId) entry
    (indeterminateRecord record now)
  if committed = true then return some (.error .indeterminate) else return none

/-- `resolveSucceededEmbeddingsIdempotencyLease` -/
def resolveSucceeded (lease : EmbeddingsIdempotencyLease) (entry : Option (Entry LedgerValue))
    (record : EmbeddingsIdempotencyRecord) (now : ℤ) : LedgerM (Option AcquireResult) := do
  let replay ← loadResponse sha256Hex record
  match replay with
  | some response => return some (.replay response)
  | none => retireRecord lease entry record now

def reserveRecord (lease : EmbeddingsIdempotencyLease) (entry : Option (Entry LedgerValue))
    (record : EmbeddingsIdempotencyRecord) : LedgerM (Option AcquireResult) := do
  let committed ← commitReplacement (.reserve lease.ownerRequestId) entry record
  if committed = true then return some .acquired else return none

/-- What `attemptEmbeddingsIdempotencyLeaseAcquire` does with a record that it finds. -/
def attemptWith (lease : EmbeddingsIdempotencyLease) (entry : Option (Entry LedgerValue))
    (record : EmbeddingsIdempotencyRecord) (now : ℤ) : LedgerM (Option AcquireResult) :=
  if record.fingerprint ≠ lease.fingerprint then return some (.error .conflict)
  else match record.state with
  | .succeeded => resolveSucceeded sha256Hex lease entry record now
  | .indeterminate => return some (.error .indeterminate)
  | .dispatched =>
    if record.leaseUntilMs.any (fun until_ => decide (now < until_)) = true then
      return some (.error .inProgress)
    else retireRecord lease entry record now
  | .reserved =>
    if record.leaseUntilMs.any (fun until_ => decide (now < until_)) = true then
      return some (.error .inProgress)
    else reserveRecord lease entry (reservedRecord record lease.ownerRequestId now)

/-- `attemptEmbeddingsIdempotencyLeaseAcquire` -/
def attemptAcquire (lease : EmbeddingsIdempotencyLease) : LedgerM (Option AcquireResult) := do
  let entry ← Prog.get .record
  let now ← Prog.clock
  match entry, normalizeRecord entry with
  | none, _ => reserveRecord lease entry (newRecord lease.fingerprint lease.ownerRequestId now)
  | some _, none => return some (.error .indeterminate)
  | some _, some record => attemptWith sha256Hex lease entry record now

/-- The loop of `acquireEmbeddingsIdempotencyLease`. -/
def acquireLoop (lease : EmbeddingsIdempotencyLease) : ℕ → LedgerM AcquireResult
  | 0 => return .error .unavailable
  | attempts + 1 => do
    let result ← attemptAcquire sha256Hex lease
    match result with
    | some result => return result
    | none => acquireLoop lease attempts

/-- `acquireEmbeddingsIdempotencyLease` -/
def acquire (lease : EmbeddingsIdempotencyLease) : LedgerM AcquireResult :=
  acquireLoop sha256Hex lease 8

/-- The loop of `markEmbeddingsIdempotencyIndeterminate`. -/
def markIndeterminateLoop (lease : EmbeddingsIdempotencyLease) : ℕ → LedgerM Unit
  | 0 => return ()
  | attempts + 1 => do
    let entry ← Prog.get .record
    match normalizeRecord entry with
    | none => return ()
    | some record =>
      if record.fingerprint ≠ lease.fingerprint ∨ record.state = .indeterminate ∨
          record.state = .succeeded then return ()
      else do
        let now ← Prog.clock
        let committed ← commitReplacement (.retire lease.ownerRequestId) entry
          (indeterminateRecord record now)
        if committed = true then return () else markIndeterminateLoop lease attempts

/-- `markEmbeddingsIdempotencyIndeterminate` -/
def markIndeterminate (lease : EmbeddingsIdempotencyLease) : LedgerM Unit :=
  markIndeterminateLoop lease 4

/-- The loop of `markEmbeddingsIdempotencyDispatched`. -/
def markDispatchedLoop (lease : EmbeddingsIdempotencyLease) : ℕ → LedgerM Bool
  | 0 => return false
  | attempts + 1 => do
    let entry ← Prog.get .record
    match normalizeRecord entry with
    | none => return false
    | some record =>
      if record.fingerprint ≠ lease.fingerprint ∨ record.state ≠ .reserved ∨
          record.ownerRequestId ≠ some lease.ownerRequestId then return false
      else do
        let now ← Prog.clock
        let committed ← commitReplacement (.dispatch lease.ownerRequestId) entry
          (dispatchedRecord record now)
        if committed = true then return true else markDispatchedLoop lease attempts

/-- `markEmbeddingsIdempotencyDispatched` -/
def markDispatched (lease : EmbeddingsIdempotencyLease) : LedgerM Bool := markDispatchedLoop lease 4

/-- The loop of `releaseEmbeddingsIdempotencyReservation`. -/
def releaseLoop (lease : EmbeddingsIdempotencyLease) (allowDispatched : Bool) : ℕ → LedgerM Bool
  | 0 => return false
  | attempts + 1 => do
    let entry ← Prog.get .record
    match normalizeRecord entry with
    | none => return false
    | some record =>
      if record.fingerprint ≠ lease.fingerprint ∨
          record.ownerRequestId ≠ some lease.ownerRequestId ∨
          ¬ (record.state = .reserved ∨ (allowDispatched = true ∧ record.state = .dispatched)) then
        return false
      else do
        let committed ← Prog.transaction (.release lease.ownerRequestId) [⟨.record, entry⟩]
          [.delete .record]
        if committed = true then return true else releaseLoop lease allowDispatched attempts

/-- `releaseEmbeddingsIdempotencyReservation` -/
def releaseReservation (lease : EmbeddingsIdempotencyLease) (allowDispatched : Bool) :
    LedgerM Bool :=
  releaseLoop lease allowDispatched 4

/-- Writing the chunks of a response, from an index on. -/
def writeChunks (requestId : String) : ℕ → List Text → LedgerM Unit
  | _, [] => return ()
  | index, text :: texts => do
    let _ ← Prog.transaction (.chunk requestId index) []
      [.set (.chunk requestId index) (.chunk text)]
    writeChunks requestId (index + 1) texts

/-- The loop at the end of `storeEmbeddingsIdempotencySuccess`. -/
def storeLoop (lease : EmbeddingsIdempotencyLease) (response : EmbeddingsResponse) : ℕ →
    LedgerM Bool
  | 0 => return false
  | attempts + 1 => do
    let entry ← Prog.get .record
    match normalizeRecord entry with
    | none => return false
    | some record =>
      if record.fingerprint ≠ lease.fingerprint ∨
          ¬ (record.state = .reserved ∨ record.state = .dispatched) ∨
          record.ownerRequestId ≠ some lease.ownerRequestId then return false
      else do
        let now ← Prog.clock
        let committed ← commitReplacement (.succeed lease.ownerRequestId) entry
          (succeededRecord sha256Hex record lease.ownerRequestId response now)
        if committed = true then return true else storeLoop lease response attempts

/-- `storeEmbeddingsIdempotencySuccess` -/
def storeSuccess (lease : EmbeddingsIdempotencyLease) (response : EmbeddingsResponse) :
    LedgerM Bool :=
  if maxResponseChunks < (responseChunks response.body).length then return false
  else do
    writeChunks lease.ownerRequestId 0 (responseChunks response.body)
    storeLoop sha256Hex lease response 4

/-! ### Requests -/

/-- The response that `completeEmbeddingsResponse` makes of a body. -/
def completeResponse (body : Text) : EmbeddingsResponse := ⟨200, "application/json", body⟩

/-- What a request does with its lease, apart from storing its response. -/
inductive LeaseStep
  | markDispatched
  | release (allowDispatched : Bool)
  | markIndeterminate

def LeaseStep.perform (lease : EmbeddingsIdempotencyLease) : LeaseStep → LedgerM Unit
  | .markDispatched => do
    let _ ← Embeddings.markDispatched lease
  | .release allowDispatched => do
    let _ ← releaseReservation lease allowDispatched
  | .markIndeterminate => Embeddings.markIndeterminate lease

/-- A request: its fingerprint, the steps it takes with its lease, each with the number of
instructions after which it is interrupted, and the body of its response, if it comes to one. -/
structure EmbeddingsRequest where
  fingerprint : String
  acquireCut : ℕ
  before : List (LeaseStep × ℕ)
  body : Option (Text × ℕ)
  after : List (LeaseStep × ℕ)

/-- The steps of a request, one after the other. -/
def performSteps (lease : EmbeddingsIdempotencyLease) : List (LeaseStep × ℕ) → LedgerM Unit
  | [] => return ()
  | (step, cut) :: steps => do
    let _ ← (step.perform lease).cut cut
    performSteps lease steps

/-- `storeSuccessOrFailure`, without the steps that follow a failure. -/
def storeBody (lease : EmbeddingsIdempotencyLease) : Option (Text × ℕ) → LedgerM Unit
  | none => return ()
  | some (body, cut) => do
    let _ ← (storeSuccess sha256Hex lease (completeResponse body)).cut cut

/-- `handleEmbeddingsRequest`, as far as the ledger sees it: once it has the lease, a request marks
it and gives it back in whatever way the answers of the provider ask for. -/
def performRequest (request : EmbeddingsRequest) (requestId : String) : LedgerM AcquireResult := do
  let acquired ← (acquire sha256Hex ⟨request.fingerprint, requestId⟩).cut request.acquireCut
  match acquired with
  | none => return .error .unavailable
  | some .acquired =>
    performSteps ⟨request.fingerprint, requestId⟩ request.before
    storeBody sha256Hex ⟨request.fingerprint, requestId⟩ request.body
    performSteps ⟨request.fingerprint, requestId⟩ request.after
    return .acquired
  | some result => return result

end Ledger

end UbqGateway.Embeddings
