import UbqGateway.Library.Programs
import Mathlib.Algebra.Order.Floor.Div

/-!
# Embeddings jobs

The job functions of `src/embeddings/jobs.ts` on the record of one job: `runEmbeddingsJobAttempt`
with the decisions that it takes on the way, and its two callers.  An attempt takes the lock of the
record by a checked transaction; the record of its outcome is written without a check.

What the cache of vectors, the stored inputs and the provider answer is given to an attempt as
`AttemptAnswers`: it may be anything, so every run of the code is one of the runs here.
-/

namespace UbqGateway.Embeddings

/-- `EMBEDDINGS_JOB_LOCK_MS` -/
def jobLockMs : ℤ := 30000

def embeddingsTimeoutMs : ℤ := 20000

/-- `EMBEDDINGS_MAX_INPUTS_PER_REQUEST` -/
def maxInputsPerRequest : ℕ := 128

def voyageRateLimitTpm : ℕ := 10000

/-- `EMBEDDINGS_RETRYABLE_UPSTREAM_STATUSES` -/
def retryableUpstreamStatuses : List ℤ := [429, 500, 502, 503, 504]

inductive EmbeddingsJobStatus
  | queued
  | running
  | succeeded
  | failed
deriving DecidableEq

structure EmbeddingsJobError where
  message : String
  type : String
  code : String
deriving DecidableEq

structure EmbeddingsJobRecord where
  id : String
  status : EmbeddingsJobStatus
  createdAtMs : ℤ
  updatedAtMs : ℤ
  model : String
  cacheProfileKey : String
  inputType : String
  dimensions : ℕ
  encodingFormat : String
  truncation : Bool
  inputHashes : List String
  inputCount : ℕ
  totalChars : ℕ
  usageTotalTokens : ℕ
  retryAfterSeconds : Option ℤ
  lockedUntilMs : Option ℤ
  error : Option EmbeddingsJobError
deriving DecidableEq

/-! ### The store -/

/-- `embeddingsJobKey` and `embeddingsJobLookupKey` of the job. -/
inductive JobKey
  | job
  | lookup
deriving DecidableEq

/-- The place of a key in the order of the store. -/
def JobKey.place : JobKey → ℕ
  | .job => 0
  | .lookup => 1

theorem JobKey.place_injective : Function.Injective JobKey.place := by
  intro j k h
  cases j <;> cases k <;> simp_all [JobKey.place]

/-- The order in which the store lists its keys. -/
instance : LinearOrder JobKey := LinearOrder.lift' JobKey.place JobKey.place_injective

/-- The values under the two keys. -/
inductive JobValue
  | job (job : EmbeddingsJobRecord)
  | lookup (cacheProfileKey : String)

/-- What a commit did: an attempt that was given a record took its lock, an attempt wrote its
outcome over the record that it had locked, or a read gave up the result of a record. -/
inductive JobLabel
  | lock (given locked : EmbeddingsJobRecord)
  | finish (locked outcome : EmbeddingsJobRecord)
  | unavailable (given outcome : EmbeddingsJobRecord)
deriving DecidableEq

/-- The programs on the record of the job. -/
abbrev JobM (α : Type) := Prog JobKey JobValue JobLabel α

/-- The store with the record of the job. -/
abbrev JobKv := Kv JobKey JobValue

def jobOf : Option (Entry JobValue) → Option EmbeddingsJobRecord
  | some ⟨.job job, _⟩ => some job
  | _ => none

/-- The profile in an entry that was read from the lookup key. -/
def lookupOf : Option (Entry JobValue) → Option String
  | some ⟨.lookup cacheProfileKey, _⟩ => some cacheProfileKey
  | _ => none

/-- The writes of `updateEmbeddingsJobRecord`, which are those of the lock too. -/
def recordWrites (job : EmbeddingsJobRecord) : List (Write JobKey JobValue) :=
  [.set .job (.job job), .set .lookup (.lookup job.cacheProfileKey)]

/-! ### Answers -/

inductive StoredInput
  | unavailable
  | undecryptable
  | text (text : String)

/-- What `fetchVoyageEmbeddings` returns or throws: the lengths of its vectors and its tokens, the
refusal of a quota, a status, or an error with its snippet. -/
inductive FetchAnswer
  | ok (lengths : List ℕ) (totalTokens : Option ℕ)
  | quotaDispatch
  | status (status : ℤ) (retryAfterMs : Option ℤ) (snippet : String)
  | error (snippet : String)

/-- What comes of one chunk: the wait that `reserveVoyageBudgetForJob` asks for, if it refuses, and
the answer of the provider. -/
structure ChunkAnswer where
  reserved : Option ℤ
  fetched : FetchAnswer

/-- What an attempt finds: the hashes that `computeMissing` finds at the start and at the end, the
stored inputs, the answers to the chunks, and whether all vectors are in the cache when it comes to
the result. -/
structure AttemptAnswers where
  missingBefore : List String
  input : String → StoredInput
  chunk : ℕ → ChunkAnswer
  missingAfter : List String
  vectors : Bool

/-- The response to a request for the job: its status, the record that its body shows, its
`Retry-After` and whether it has a result; or an error with its status. -/
inductive JobResponse
  | job (status : ℤ) (body : EmbeddingsJobRecord) (retryAfter : Option ℤ) (result : Bool)
  | error (status : ℤ)

/-! ### Records -/

/-- The record of an attempt that takes the lock. -/
def lockedRecord (job : EmbeddingsJobRecord) (now : ℤ) : EmbeddingsJobRecord :=
  { job with
    status := .running
    lockedUntilMs := some (now + jobLockMs)
    updatedAtMs := now
    retryAfterSeconds := none }

def failedRecord (job : EmbeddingsJobRecord) (message code : String) (now : ℤ) :
    EmbeddingsJobRecord :=
  { job with
    status := .failed
    updatedAtMs := now
    lockedUntilMs := none
    retryAfterSeconds := none
    error := some ⟨message, "server_error", code⟩ }

/-- `Math.max(1, Math.ceil(waitMs / 1000))` -/
def retrySeconds (waitMs : ℤ) : ℤ := max 1 (-(-waitMs / 1000))

/-- The record of a job that waits for its next attempt. -/
def queuedRecord (job : EmbeddingsJobRecord) (waitMs now : ℤ) : EmbeddingsJobRecord :=
  { job with
    status := .queued
    updatedAtMs := now
    lockedUntilMs := none
    retryAfterSeconds := some (retrySeconds waitMs)
    error := none }

def succeededJob (job : EmbeddingsJobRecord) (now : ℤ) : EmbeddingsJobRecord :=
  { job with
    status := .succeeded
    updatedAtMs := now
    lockedUntilMs := none
    retryAfterSeconds := none
    error := none }

/-! ### Attempts -/

/-- An input: its hash and its text. -/
structure InputItem where
  hash : String
  text : String

def estimateTokens (text : String) : ℕ := text.utf8ByteSize ⌈/⌉ 4

/-- The chunk that `chunkByTokenBudget` is filling, its tokens, and the chunks it has filled. -/
structure Chunking where
  out : List (List InputItem)
  current : List InputItem
  currentTokens : ℕ

/-- One item of `chunkByTokenBudget`. -/
def Chunking.push (itemLimit tokenLimit : ℕ) (c : Chunking) (item : InputItem) : Chunking :=
  if itemLimit ≤ c.current.length ∨
      (tokenLimit < c.currentTokens + estimateTokens item.text ∧ 0 < c.current.length) then
    ⟨c.out ++ [c.current], [item], estimateTokens item.text⟩
  else ⟨c.out, c.current ++ [item], c.currentTokens + estimateTokens item.text⟩

def chunkByTokenBudget (items : List InputItem) (maxItems maxTokens : ℕ) : List (List InputItem) :=
  let chunks := items.foldl (Chunking.push (max 1 maxItems) (max 1 maxTokens)) ⟨[], [], 0⟩
  if chunks.current = [] then chunks.out else chunks.out ++ [chunks.current]

/-- The job that an attempt has locked, and what it has made of it so far (`currentJob`). -/
structure AttemptState where
  locked : EmbeddingsJobRecord
  currentJob : EmbeddingsJobRecord

/-- The attempt after the provider has reported its tokens. -/
def AttemptState.addUsage (state : AttemptState) (totalTokens : ℕ) : AttemptState :=
  { state with
    currentJob := { state.currentJob with
      usageTotalTokens := state.currentJob.usageTotalTokens + totalTokens } }

/-- `updateEmbeddingsJobRecord`, at the end of an attempt. -/
def finishJob (state : AttemptState) (outcome : EmbeddingsJobRecord) : JobM Unit := do
  let _ ← Prog.transaction (.finish state.locked outcome) [] (recordWrites outcome)

def failJob (state : AttemptState) (message code : String) : JobM JobResponse := do
  let now ← Prog.clock
  finishJob state (failedRecord state.currentJob message code now)
  return .job 200 (failedRecord state.currentJob message code now) none false

def queueJob (state : AttemptState) (waitMs : ℤ) : JobM JobResponse := do
  let now ← Prog.clock
  finishJob state (queuedRecord state.currentJob waitMs now)
  return .job 202 (queuedRecord state.currentJob waitMs now) (some (retrySeconds waitMs)) false

def succeedJob (state : AttemptState) (vectors : Bool) : JobM JobResponse :=
  if vectors = true then do
    let now ← Prog.clock
    finishJob state (succeededJob state.currentJob now)
    return .job 200 (succeededJob state.currentJob now) none true
  else failJob state "Embeddings job completed but cache entries were missing."
    "embeddings_job_cache_miss"

/-- `loadInputItems`: the items, or the message and code it fails with. -/
def loadInputItems (input : String → StoredInput) :
    List String → Except (String × String) (List InputItem)
  | [] => .ok []
  | hash :: hashes => match input hash with
    | .unavailable =>
      .error ("Embeddings job input expired or was unavailable.", "embeddings_job_input_missing")
    | .undecryptable =>
      .error ("Embeddings job input could not be decrypted.", "embeddings_job_input_decrypt_failed")
    | .text text => (loadInputItems input hashes).map (⟨hash, text⟩ :: ·)

/-- What `processChunk` comes to: the next chunk follows, the loop stops, or the attempt has
ended. -/
inductive ChunkOutcome
  | next (state : AttemptState)
  | stop (waitMs : ℤ)
  | response (response : JobResponse)

def upstreamErrorMessage (snippet : String) : String :=
  if snippet = "" then "Embeddings upstream request failed."
  else "Embeddings upstream request failed: " ++ snippet

/-- The end of `processChunk`, with the vectors of the provider. -/
def processVectors (state : AttemptState) (chunk : List InputItem) (lengths : List ℕ)
    (totalTokens : Option ℕ) : JobM ChunkOutcome :=
  if lengths.length ≠ chunk.length then do
    let response ← failJob state "Embeddings upstream returned a size mismatch."
      "embeddings_job_upstream_mismatch"
    return .response response
  else match lengths.find? fun length => decide (length ≠ state.currentJob.dimensions) with
    | some actualLength => do
      let response ← failJob state
        ("Embeddings upstream returned vector length " ++ toString actualLength ++ "; expected " ++
          toString state.currentJob.dimensions ++ ".")
        "embeddings_job_upstream_dimension_mismatch"
      return .response response
    | none => return .next (state.addUsage (totalTokens.getD 0))

/-- `processChunk`, with `fetchChunkVectors`. -/
def processChunk (state : AttemptState) (deadlineMs : ℤ) (answer : ChunkAnswer)
    (chunk : List InputItem) : JobM ChunkOutcome := do
  let now ← Prog.clock
  if deadlineMs ≤ now then return .stop 1000
  else match answer.reserved with
  | some waitMs => return .stop (if 0 < waitMs then waitMs else 1000)
  | none => match answer.fetched with
    | .ok lengths totalTokens => processVectors state chunk lengths totalTokens
    | .quotaDispatch => do
      let response ← queueJob state 1000
      return .response response
    | .status status retryAfterMs snippet =>
      if status ∈ retryableUpstreamStatuses then
        return .stop (retryAfterMs.getD (if status = 429 then 60000 else 1000))
      else do
        let response ← failJob state (upstreamErrorMessage snippet) "embeddings_job_upstream_error"
        return .response response
    | .error snippet => do
      let response ← failJob state (upstreamErrorMessage snippet) "embeddings_job_upstream_error"
      return .response response

/-- The end of an attempt: `missingAfter` decides between success and another wait. -/
def endAttempt (state : AttemptState) (answers : AttemptAnswers) (queueRetryAfterMs : Option ℤ) :
    JobM JobResponse :=
  if answers.missingAfter = [] then succeedJob state answers.vectors
  else queueJob state (queueRetryAfterMs.getD 60000)

/-- The loop over the chunks, from the chunk with the number `index` on. -/
def processChunks (answers : AttemptAnswers) (deadlineMs : ℤ) :
    AttemptState → ℕ → List (List InputItem) → JobM JobResponse
  | state, _, [] => endAttempt state answers none
  | state, index, chunk :: chunks => do
    let outcome ← processChunk state deadlineMs (answers.chunk index) chunk
    match outcome with
    | .response response => return response
    | .stop waitMs => endAttempt state answers (some waitMs)
    | .next state => processChunks answers deadlineMs state (index + 1) chunks

def attemptLocked (answers : AttemptAnswers) (deadlineMs : ℤ) (locked : EmbeddingsJobRecord) :
    JobM JobResponse :=
  if answers.missingBefore = [] then succeedJob ⟨locked, locked⟩ answers.vectors
  else match loadInputItems answers.input answers.missingBefore with
    | .error (message, code) => failJob ⟨locked, locked⟩ message code
    | .ok items => processChunks answers deadlineMs ⟨locked, locked⟩ 0
        (chunkByTokenBudget items maxInputsPerRequest voyageRateLimitTpm)

def runEmbeddingsJobAttempt (answers : AttemptAnswers) (deadlineMs : ℤ)
    (jobEntry : Option (Entry JobValue)) (job : EmbeddingsJobRecord) : JobM JobResponse := do
  let now ← Prog.clock
  match job.lockedUntilMs.filter fun until_ => decide (until_ ≠ 0 ∧ now < until_) with
  | some until_ =>
    return .job 202 job (some (retrySeconds (until_ - now))) false
  | none =>
    let committed ← Prog.transaction (.lock job (lockedRecord job now)) [⟨.job, jobEntry⟩]
      (recordWrites (lockedRecord job now))
    if committed = true then attemptLocked answers deadlineMs (lockedRecord job now)
    else return .job 202 job (some 1) false

/-! ### Requests -/

/-- The end of `handleEmbeddingsJobCreateInternal`, after it has persisted the job. -/
def handleCreated (answers : AttemptAnswers) : JobM JobResponse := do
  let startedAtMs ← Prog.clock
  let entry ← Prog.get .job
  match jobOf entry with
  | none => return .error 502
  | some job => runEmbeddingsJobAttempt answers (startedAtMs + embeddingsTimeoutMs) entry job

/-- The result of a job that has succeeded: it is given up when vectors are missing. -/
def showSucceeded (job : EmbeddingsJobRecord) (vectors : Bool) : JobM JobResponse :=
  if vectors = true then return .job 200 job none true
  else do
    let now ← Prog.clock
    let failed := failedRecord job "Embeddings job result was unavailable; please resubmit."
      "embeddings_job_result_missing" now
    let _ ← Prog.transaction (.unavailable job failed) [] (recordWrites failed)
    return .job 200 failed none false

/-- `handleEmbeddingsJobGetInternal`; `vectors` says whether the result of a job that has succeeded
is in the cache, and `apiKey` whether the provider is configured. -/
def handleEmbeddingsJobGet (vectors apiKey : Bool) (answers : AttemptAnswers) :
    JobM JobResponse := do
  let startedAtMs ← Prog.clock
  let lookup ← Prog.get .lookup
  match (lookupOf lookup).filter fun profile => decide (profile ≠ "") with
  | none => return .error 404
  | some cacheProfileKey =>
    let entry ← Prog.get .job
    match (jobOf entry).filter fun job => decide (job.cacheProfileKey = cacheProfileKey) with
    | none => return .error 404
    | some job => match job.status with
      | .succeeded => showSucceeded job vectors
      | .failed => return .job 200 job none false
      | .queued | .running =>
        if apiKey = true then
          runEmbeddingsJobAttempt answers (startedAtMs + embeddingsTimeoutMs) entry job
        else return .error 503

/-- The requests for the job, after it was created. -/
inductive JobRequest
  | created (answers : AttemptAnswers)
  | get (vectors apiKey : Bool) (answers : AttemptAnswers)

def JobRequest.perform : JobRequest → JobM JobResponse
  | .created answers => handleCreated answers
  | .get vectors apiKey answers => handleEmbeddingsJobGet vectors apiKey answers

/-- The programs of all requests, each of which may be interrupted anywhere. -/
def jobPrograms : Set (JobM (Option JobResponse)) :=
  { p | ∃ (request : JobRequest) (n : ℕ), p = request.perform.cut n }

end UbqGateway.Embeddings
