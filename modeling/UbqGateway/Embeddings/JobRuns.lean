import UbqGateway.Embeddings.Jobs
import UbqGateway.Library.Schedule

/-!
# Runs of the attempts on a job

Every commit is a `JobStep`.  The lock of an attempt is taken on the record that the attempt was
given, but its outcome is written over whatever the record is by then: an attempt whose lock was
taken over meanwhile can undo a settled job (`jobs_settle_overtaken`).
-/

namespace UbqGateway.Embeddings

/-- The history of the store with the record of the job. -/
abbrev JobWorld := World JobKey JobValue JobLabel

def storedJob (kv : JobKv) : Option EmbeddingsJobRecord := jobOf (kv.get .job)

/-- The job has succeeded or failed. -/
def EmbeddingsJobRecord.Settled (job : EmbeddingsJobRecord) : Prop :=
  job.status = .succeeded ∨ job.status = .failed

/-! ### Steps -/

inductive JobStep (w : JobWorld) : JobLabel → List (Write JobKey JobValue) → Prop
  | lock (given locked : EmbeddingsJobRecord) (hgvn : storedJob w.store = some given)
      (hsts : locked.status = .running)
      (husg : locked.usageTotalTokens = given.usageTotalTokens) :
      JobStep w (.lock given locked) (recordWrites locked)
  | finish (locked outcome : EmbeddingsJobRecord) (hsts : locked.status = .running)
      (husg : locked.usageTotalTokens ≤ outcome.usageTotalTokens) :
      JobStep w (.finish locked outcome) (recordWrites outcome)
  | unavailable (given outcome : EmbeddingsJobRecord)
      (husg : outcome.usageTotalTokens = given.usageTotalTokens) :
      JobStep w (.unavailable given outcome) (recordWrites outcome)

/-- The runs of the requests for a job, from any store. -/
abbrev JobRun (w : JobWorld) : Prop := Run (fun _ => True) JobStep w

/-- The record that a commit writes. -/
def JobLabel.written : JobLabel → EmbeddingsJobRecord
  | .lock _ locked => locked
  | .finish _ outcome => outcome
  | .unavailable _ outcome => outcome

theorem storedJob_recordWrites (kv : JobKv) (job : EmbeddingsJobRecord) :
    storedJob (kv.apply (recordWrites job)) = some job := by
  unfold storedJob
  rw [Kv.get_apply]
  rfl

theorem JobStep.stored (h : JobStep w l ws) : storedJob (w.store.apply ws) = some l.written := by
  cases h <;> exact storedJob_recordWrites _ _

/-! ### Programs -/

section Programs

/-- What a program guarantees of its commits. -/
abbrev JobSafe (clockOk : ℤ → ℤ → Prop) {α : Type} (p : JobM α) (w : JobWorld) : Prop :=
  Wp clockOk (fun _ => True) JobStep (fun _ _ => True) p w

/-- What an attempt has made of the job that it has locked. -/
structure AttemptState.Valid (state : AttemptState) : Prop where
  status : state.locked.status = .running
  usage : state.locked.usageTotalTokens ≤ state.currentJob.usageTotalTokens

variable {state : AttemptState}

section

variable (h : state.Valid)

include h

theorem AttemptState.Valid.addUsage (totalTokens : ℕ) : (state.addUsage totalTokens).Valid where
  status := h.status
  usage := h.usage.trans (Nat.le_add_right _ _)

theorem finishJob_safe (husg : outcome.usageTotalTokens = state.currentJob.usageTotalTokens) :
    JobSafe clockOk (finishJob state outcome) w := by
  refine Wp.write_bind fun v _ _ => ?_
  exact ⟨.finish _ _ h.status (h.usage.trans_eq husg.symm), trivial⟩

theorem failJob_safe (message code : String) : JobSafe clockOk (failJob state message code) w := by
  refine Wp.clock_bind fun v _ _ now _ => ?_
  apply Wp.bind
  exact Wp.mono (fun _ _ _ => trivial) (finishJob_safe h rfl)

theorem queueJob_safe (waitMs : ℤ) : JobSafe clockOk (queueJob state waitMs) w := by
  refine Wp.clock_bind fun v _ _ now _ => ?_
  apply Wp.bind
  exact Wp.mono (fun _ _ _ => trivial) (finishJob_safe h rfl)

theorem succeedJob_safe (vectors : Bool) : JobSafe clockOk (succeedJob state vectors) w := by
  unfold succeedJob
  split
  · refine Wp.clock_bind fun v _ _ now _ => ?_
    apply Wp.bind
    exact Wp.mono (fun _ _ _ => trivial) (finishJob_safe h rfl)
  · exact failJob_safe h _ _

end

/-- What a chunk leaves to the loop. -/
def ChunkOutcome.Valid : ChunkOutcome → Prop
  | .next state => state.Valid
  | _ => True

theorem response_safe (h : JobSafe clockOk p w) :
    Wp clockOk (fun _ => True) JobStep (fun _ (outcome : ChunkOutcome) => outcome.Valid)
      (do let response ← p; return .response response) w := by
  apply Wp.bind
  exact Wp.mono (fun _ _ _ => trivial) h

theorem processVectors_safe (h : state.Valid) (chunk : List InputItem) (lengths : List ℕ)
    (totalTokens : Option ℕ) :
    Wp clockOk (fun _ => True) JobStep (fun _ (outcome : ChunkOutcome) => outcome.Valid)
      (processVectors state chunk lengths totalTokens) w := by
  unfold processVectors
  split
  · exact response_safe (failJob_safe h _ _)
  · split
    · exact response_safe (failJob_safe h _ _)
    · exact h.addUsage _

theorem processChunk_safe (h : state.Valid) (deadlineMs : ℤ) (answer : ChunkAnswer)
    (chunk : List InputItem) :
    Wp clockOk (fun _ => True) JobStep (fun _ (outcome : ChunkOutcome) => outcome.Valid)
      (processChunk state deadlineMs answer chunk) w := by
  refine Wp.clock_bind fun v _ _ now _ => ?_
  split
  · trivial
  · split
    · trivial
    · split
      · exact processVectors_safe h chunk _ _
      · exact response_safe (queueJob_safe h _)
      · split
        · trivial
        · exact response_safe (failJob_safe h _ _)
      · exact response_safe (failJob_safe h _ _)

theorem endAttempt_safe (h : state.Valid) (answers : AttemptAnswers)
    (queueRetryAfterMs : Option ℤ) :
    JobSafe clockOk (endAttempt state answers queueRetryAfterMs) w := by
  unfold endAttempt
  split
  · exact succeedJob_safe h _
  · exact queueJob_safe h _

variable (answers : AttemptAnswers)

theorem processChunks_safe (deadlineMs : ℤ)
    (chunks : List (List InputItem)) : ∀ {state : AttemptState} {w : JobWorld} (index : ℕ),
      state.Valid → JobSafe clockOk (processChunks answers deadlineMs state index chunks) w := by
  induction chunks with
  | nil => exact fun _ h => endAttempt_safe h answers none
  | cons chunk chunks ih =>
    intro state w index h
    apply Wp.bind
    refine Wp.mono ?_ (processChunk_safe h deadlineMs (answers.chunk index) chunk)
    intro v outcome hvld
    cases outcome with
    | next => exact ih (index + 1) hvld
    | stop waitMs => exact endAttempt_safe h answers (some waitMs)
    | response => trivial

theorem attemptLocked_safe (deadlineMs : ℤ) (hlocked : locked.status = .running) :
    JobSafe clockOk (attemptLocked answers deadlineMs locked) w := by
  have hvld : (AttemptState.mk locked locked).Valid := ⟨hlocked, le_rfl⟩
  unfold attemptLocked
  split
  · exact succeedJob_safe hvld _
  · split
    · exact failJob_safe hvld _ _
    · exact processChunks_safe answers deadlineMs _ 0 hvld

theorem storedJob_of_check (hread : ReadIn u v .job entry) (hle : v.Le v') (hv' : JobRun v')
    (hpass : v'.store.PassesAll [⟨.job, entry⟩]) : storedJob v'.store = jobOf entry :=
  congrArg jobOf (hread.get_eq hle hv' (hpass _ (List.mem_singleton_self _)))

theorem runEmbeddingsJobAttempt_safe (deadlineMs : ℤ) (hread : ReadIn u w .job jobEntry)
    (hjob : jobOf jobEntry = some job) :
    JobSafe clockOk (runEmbeddingsJobAttempt answers deadlineMs jobEntry job) w := by
  refine Wp.clock_bind fun v hle _ now _ => ?_
  split
  · trivial
  · apply Wp.transaction_bind
    · intro v' hle' hv' hpass
      have hst := storedJob_of_check hread (hle.trans hle') hv' hpass
      rw [hjob] at hst
      refine ⟨.lock job _ hst rfl rfl, ?_⟩
      exact attemptLocked_safe answers deadlineMs rfl
    · exact fun v' _ _ => trivial

theorem handleCreated_safe : JobSafe clockOk (handleCreated answers) w := by
  refine Wp.clock_bind fun v _ _ startedAtMs _ => ?_
  refine Wp.get_bind fun v' _ _ entry hread => ?_
  cases hjob : jobOf entry with
  | none => trivial
  | some job => exact runEmbeddingsJobAttempt_safe answers _ hread hjob

theorem showSucceeded_safe (job : EmbeddingsJobRecord) (vectors : Bool) :
    JobSafe clockOk (showSucceeded job vectors) w := by
  unfold showSucceeded
  split
  · trivial
  · refine Wp.clock_bind fun v _ _ now _ => ?_
    refine Wp.write_bind fun v' _ _ => ?_
    exact ⟨.unavailable job _ rfl, trivial⟩

theorem handleEmbeddingsJobGet_safe (vectors apiKey : Bool) (answers : AttemptAnswers) :
    JobSafe clockOk (handleEmbeddingsJobGet vectors apiKey answers) w := by
  refine Wp.clock_bind fun v _ _ startedAtMs _ => ?_
  refine Wp.get_bind fun v' _ _ lookup _ => ?_
  split
  · trivial
  · refine Wp.get_bind fun v'' _ _ entry hread => ?_
    split
    · trivial
    · next job hflt =>
      have hjob := (Option.filter_eq_some_iff.mp hflt).1
      split
      · exact showSucceeded_safe job vectors
      · trivial
      · split
        · exact runEmbeddingsJobAttempt_safe answers _ hread hjob
        · trivial
      · split
        · exact runEmbeddingsJobAttempt_safe answers _ hread hjob
        · trivial

theorem jobPrograms_safe : ∀ p ∈ jobPrograms, ∀ w, JobRun w → JobSafe clockOk p w := by
  rintro _ ⟨request, n, rfl⟩ w -
  have hperform : JobSafe clockOk request.perform w := by
    cases request with
    | created answers => exact handleCreated_safe answers
    | get vectors apiKey answers => exact handleEmbeddingsJobGet_safe vectors apiKey answers
  exact Wp.mono (fun _ _ _ => trivial) (Wp.cut n hperform)

end Programs

/-! ### Runs -/

/-- The record is what the commit was computed from: for the outcome of an attempt, the record that
the attempt has locked. -/
def JobLabel.Current (kv : JobKv) : JobLabel → Prop
  | .lock _ _ => True
  | .finish locked _ => storedJob kv = some locked
  | .unavailable given _ => storedJob kv = some given

instance (kv : JobKv) (l : JobLabel) : Decidable (l.Current kv) :=
  match l with
  | .lock _ _ => .isTrue trivial
  | .finish locked _ => inferInstanceAs (Decidable (storedJob kv = some locked))
  | .unavailable given _ => inferInstanceAs (Decidable (storedJob kv = some given))

/-- The commit is one of an attempt that has begun before the job was settled. -/
def JobLabel.InProgress : JobLabel → Prop
  | .lock given _ => ¬ given.Settled
  | .finish _ _ => True
  | .unavailable _ _ => False

/-- A settled job is left as it is by the attempts in progress, and no commit lowers the usage. -/
structure JobsSettle (w : JobWorld) : Prop where
  settled : ∀ kv l kv', w.Committed kv l kv' → l.InProgress → ∀ job, storedJob kv = some job →
    job.Settled → ∃ job', storedJob kv' = some job' ∧ job'.status = job.status
  usage : ∀ n m, n ≤ m → m ≤ w.length → ∀ job, storedJob (w.storeAt n) = some job →
    ∃ job', storedJob (w.storeAt m) = some job' ∧ job.usageTotalTokens ≤ job'.usageTotalTokens

theorem JobStep.usage_le (h : JobStep w l ws) (hcur : l.Current w.store)
    (hjob : storedJob w.store = some job) : job.usageTotalTokens ≤ l.written.usageTotalTokens := by
  cases h with
  | lock _ _ hgvn _ husg =>
    cases hjob.symm.trans hgvn
    exact husg.ge
  | finish _ _ _ husg =>
    cases hjob.symm.trans hcur
    exact husg
  | unavailable _ _ husg =>
    cases hjob.symm.trans hcur
    exact husg.ge

/-- An attempt in progress that writes over the record it was computed from finds the job
unsettled. -/
theorem JobStep.not_settled (h : JobStep w l ws) (hcur : l.Current w.store)
    (hprog : l.InProgress) (hjob : storedJob w.store = some job) : ¬ job.Settled := by
  cases h with
  | lock _ _ hgvn =>
    cases hjob.symm.trans hgvn
    exact hprog
  | finish _ _ hsts =>
    cases hjob.symm.trans hcur
    rintro (hsucc | hfail)
    · rw [hsts] at hsucc
      cases hsucc
    · rw [hsts] at hfail
      cases hfail
  | unavailable => exact hprog.elim

/-- **The jobs settle** in every run in which every outcome is written over the record that its own
attempt has locked. -/
theorem jobs_settle {clockOk : ℤ → ℤ → Prop} {kv₀ : JobKv}
    {s : System JobKey JobValue JobLabel (Option JobResponse)}
    (hs : Reachable clockOk jobPrograms kv₀ s)
    (hcur : ∀ kv l kv', s.world.Committed kv l kv' → l.Current kv) : JobsSettle s.world := by
  have hrun : JobRun s.world := Reachable.run trivial jobPrograms_safe hs
  constructor
  · intro kv l kv' hcom hprog job hjob hset
    obtain ⟨u, ws, -, -, rfl, hstep, -⟩ := hrun.committed hcom
    exact absurd hset (hstep.not_settled (hcur _ _ _ hcom) hprog hjob)
  · intro n m hnm hm
    refine (hrun.restrict hcur).storeAt_rel_storeAt
      (R := fun kv kv' : JobKv => ∀ job, storedJob kv = some job → ∃ job',
        storedJob kv' = some job' ∧ job.usageTotalTokens ≤ job'.usageTotalTokens) ?_ ?_ ?_ hnm hm
    · exact fun kv job hjob => ⟨job, hjob, le_rfl⟩
    · intro a b c hab hbc job hjob
      obtain ⟨job', hjob', hle⟩ := hab job hjob
      obtain ⟨job'', hjob'', hle'⟩ := hbc job' hjob'
      exact ⟨job'', hjob'', hle.trans hle'⟩
    · intro u l ws _ hstep job hjob
      exact ⟨l.written, hstep.1.stored, hstep.1.usage_le hstep.2 hjob⟩

/-! ### Schedules -/

/-- A job with one input that was just created. -/
def sampleJob : EmbeddingsJobRecord where
  id := "embjob_1"
  status := .queued
  createdAtMs := 0
  updatedAtMs := 0
  model := "voyage-4-large"
  cacheProfileKey := "profile"
  inputType := "document"
  dimensions := 256
  encodingFormat := "float"
  truncation := true
  inputHashes := ["hash"]
  inputCount := 1
  totalChars := 2
  usageTotalTokens := 0
  retryAfterSeconds := none
  lockedUntilMs := none
  error := none

/-- The store when the job was created. -/
def sampleKv : JobKv := Kv.empty.apply (recordWrites sampleJob)

/-- The two requests of the schedules: the first finds its vector missing and the budget used up,
and the second finds it in the cache. -/
def samplePrograms : Bool → JobM (Option JobResponse)
  | false => (JobRequest.created ⟨["hash"], fun _ => .text "hi", fun _ =>
    ⟨some 1000, .quotaDispatch⟩,
      ["hash"], false⟩).perform.cut 20
  | true => (JobRequest.get true true ⟨[], fun _ => .unavailable, fun _ =>
    ⟨none, .quotaDispatch⟩, [],
      true⟩).perform.cut 20

theorem samplePrograms_mem (i : Bool) : samplePrograms i ∈ jobPrograms := by
  cases i
  · exact ⟨_, 20, rfl⟩
  · exact ⟨_, 20, rfl⟩

/-- What a schedule leads to. -/
def sampleRun (actions : List (Action Bool)) :
    System JobKey JobValue JobLabel (Option JobResponse) :=
  System.runAll samplePrograms ⟨⟨sampleKv, [], 0⟩, []⟩ actions

theorem sampleRun_reachable (actions : List (Action Bool)) :
    Reachable Eq jobPrograms sampleKv (sampleRun actions) :=
  System.runAll_reachable (P := fun _ => True) (fun t _ => rfl) samplePrograms_mem actions
    (fun action _ => by cases action <;> trivial) ⟨⟨sampleKv, [], 0⟩, []⟩ trivial (.start 0)

/-- The first attempt queues the job before the second begins. -/
def orderlyActions : List (Action Bool) :=
  [.spawn false, .act 0 20, .tick 1000, .spawn true, .act 0 20]

/-- The second attempt begins when the lock of the first has expired, and ends before it. -/
def overtakenActions : List (Action Bool) :=
  [.spawn false, .act 0 5, .tick 30001, .spawn true, .act 0 20, .act 1 20]

theorem jobs_settle_orderly : storedJob (sampleRun orderlyActions).world.store ≠ none ∧
    JobsSettle (sampleRun orderlyActions).world := by
  refine ⟨by decide +kernel, jobs_settle (sampleRun_reachable orderlyActions) ?_⟩
  intro kv l kv' hcom
  have hall : ∀ c ∈ commitsOf (sampleRun orderlyActions).world.init
      (sampleRun orderlyActions).world.events, c.2.Current c.1 := by
    decide +kernel
  exact hall _ hcom.mem_commitsOf

/-- **An attempt that outlives its lock** puts a job that has succeeded back into the queue. -/
theorem jobs_settle_overtaken : Reachable Eq jobPrograms sampleKv (sampleRun overtakenActions) ∧
    ¬ JobsSettle (sampleRun overtakenActions).world := by
  refine ⟨sampleRun_reachable overtakenActions, fun hstl => ?_⟩
  have hcom := World.committedAt_newest (w := (sampleRun overtakenActions).world) (t := 30001)
    (l := .finish (lockedRecord sampleJob 0) (queuedRecord (lockedRecord sampleJob 0) 1000 30001))
    (by decide +kernel)
  -- the second attempt has locked the job at 30001, when the lock of the first had expired
  have hbef : storedJob ((sampleRun overtakenActions).world.storeAt
      ((sampleRun overtakenActions).world.length - 1))
      = some (succeededJob (lockedRecord (lockedRecord sampleJob 0) 30001) 30001) := by
    decide +kernel
  have haft : storedJob (sampleRun overtakenActions).world.store
      = some (queuedRecord (lockedRecord sampleJob 0) 1000 30001) := by
    decide +kernel
  obtain ⟨job, hjob, hsts⟩ := hstl.settled _ _ _ ⟨30001, hcom⟩ trivial _ hbef (.inl rfl)
  rw [haft] at hjob
  cases hjob
  cases hsts

end UbqGateway.Embeddings
