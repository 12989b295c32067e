import UbqGateway.Native.Receipts

/-!
# Commands sent again

The runs of the authority: any number of executions whose transactions come in any order, with
anything else happening to the other tables in between.  `execute_replayed` says what a command that
is sent again can do.
-/

namespace UbqGateway.Native

namespace NativeAuthority

variable {A : NativeAuthority Rows}

/-! ### One part of an execution -/

/-- What a part of an execution does: the rows that it may write, and when it may answer. -/
structure Progress (A : NativeAuthority Rows) (e : Execution) (db : Database Rows) (phase : Phase)
    (db' : Database Rows) : Prop where
  capability : ∀ id, db.capability.lookup id ≠ none → db'.capability.lookup id ≠ none
  receipt : ∀ key receipt, db.operationReceipt.lookup key = some receipt →
    db'.operationReceipt.lookup key = some receipt
  owned : ∀ key, db'.operationReceipt.lookup key ≠ none →
    db.operationReceipt.lookup key ≠ none ∨ db'.capability.lookup key.capabilityId ≠ none
  answered : ∀ reply, phase = .returned reply → e.phase = .returned reply ∨
    ∃ authorization, db'.operationReceipt.lookup (A.keyOf e) =
      some ⟨e.command.bytes, reply, authorization⟩
  replayed : db.operationReceipt.lookup (A.keyOf e) ≠ none →
    db' = db ∨ FirstUse e.auth.verified.bindingId db db'
  unanswered : (∀ reply, phase ≠ .returned reply) →
    db' = db ∨ FirstUse e.auth.verified.bindingId db db'
  ended : ∀ reply, e.phase = .returned reply → phase = .returned reply ∧ db' = db

variable {id : String}

theorem lookup_withCapability {db : Database Rows} (cap : NativeCapability)
    (h : db.capability.lookup id ≠ none) : (db.withCapability cap).capability.lookup id ≠ none := by
  show (db.capability.insert cap.id cap).lookup id ≠ none
  rw [Record.lookup_insert]
  split
  · exact Option.some_ne_none cap
  · exact h

theorem keeps_of_change (h : db' = db ∨ FirstUse id db db') :
    (∀ other, db.capability.lookup other ≠ none → db'.capability.lookup other ≠ none) ∧
      db'.operationReceipt = db.operationReceipt := by
  rcases h with hsame | hfst
  · rw [hsame]
    exact ⟨fun _ hoth => hoth, rfl⟩
  · obtain ⟨-, cap, -, heq⟩ := hfst
    rw [heq]
    exact ⟨fun other hoth => lookup_withCapability cap hoth, rfl⟩

theorem Progress.of_change (hph : ∀ reply, phase ≠ .returned reply)
    (hend : ∀ reply, e.phase ≠ .returned reply)
    (h : db' = db ∨ FirstUse e.auth.verified.bindingId db db') : Progress A e db phase db' := by
  have hkps := keeps_of_change h
  constructor
  · exact hkps.1
  · intro key receipt hrcp
    rw [hkps.2]
    exact hrcp
  · intro key hkey
    rw [hkps.2] at hkey
    exact .inl hkey
  · exact fun reply hrpl => absurd hrpl (hph reply)
  · exact fun _ => h
  · exact fun _ => h
  · exact fun reply hrpl => absurd hrpl (hend reply)

theorem Progress.of_error {α : Type} {next : α → Phase}
    {result : Except NativeAuthorityError α × Database Rows}
    (hend : ∀ reply, e.phase ≠ .returned reply) (h : (∃ e, result.1 = .error e) ∧ result.2 = db) :
    Progress A e db (phaseAfter next result.1) result.2 := by
  obtain ⟨⟨error, herr⟩, heq⟩ := h
  refine .of_change (fun reply => ?_) hend (.inl heq)
  rw [herr]
  exact Phase.noConfusion

/-- An execution that gets its answer has progressed. -/
theorem Progress.of_answered (hend : ∀ reply, e.phase ≠ .returned reply)
    (hauth : Authorized e.auth db cap db₁)
    (hanswered : Answered (A.receiptKey cap e.command) e.command.bytes db₁ reply db') :
    Progress A e db (.returned reply) db' := by
  have hkey : A.receiptKey cap e.command = A.keyOf e := by
    unfold receiptKey keyOf
    rw [hauth.id_eq, hauth.principalId_eq]
  have hkps := keeps_of_change hauth.change
  rw [hkey] at hanswered
  cases hanswered with
  | replayed receipt hfd hby hrpl hsame =>
    have hch : db' = db ∨ FirstUse e.auth.verified.bindingId db db' := by
      rw [hsame]
      exact hauth.change
    have hrec : db'.operationReceipt.lookup (A.keyOf e) =
        some ⟨e.command.bytes, reply, receipt.codexAuthorization⟩ := by
      rw [hsame, hfd, ← hby, hrpl]
    rw [hsame] at hrec hch ⊢
    constructor
    · exact hkps.1
    · intro key other hoth
      rw [hkps.2]
      exact hoth
    · intro key hlk
      rw [hkps.2] at hlk
      exact .inl hlk
    · intro reply' hrpl'
      cases hrpl'
      exact .inr ⟨_, hrec⟩
    · exact fun _ => hch
    · exact fun hno => absurd rfl (hno reply)
    · exact fun reply' hrpl' => absurd hrpl' (hend reply')
  | executed authorization hnew hcapability hrcp =>
    rw [hkps.2] at hnew
    constructor
    · intro id hid
      rw [hcapability]
      exact hkps.1 id hid
    · intro key other hoth
      have hne : key ≠ A.keyOf e := by
        intro heq
        rw [heq, hnew] at hoth
        cases hoth
      rw [hrcp, Record.lookup_insert_of_ne _ _ hne, hkps.2]
      exact hoth
    · intro key hlk
      by_cases heq : key = A.keyOf e
      · right
        rw [heq, hcapability]
        exact hauth.present
      · left
        rw [hrcp, Record.lookup_insert_of_ne _ _ heq, hkps.2] at hlk
        exact hlk
    · intro reply' hrpl'
      cases hrpl'
      right
      use authorization
      rw [hrcp, Record.lookup_insert_self]
    · exact fun hlk => absurd hnew hlk
    · exact fun hno => absurd rfl (hno reply)
    · exact fun reply' hrpl' => absurd hrpl' (hend reply')

theorem sqlTransaction_cases (h : Returns body db Q) :
    (∃ a, (A.sqlTransaction body db).1 = .ok a ∧ Q a (A.sqlTransaction body db).2) ∨
      (∃ e, (A.sqlTransaction body db).1 = .error e) ∧ (A.sqlTransaction body db).2 = db :=
  Returns.transaction (Returns.read_bind preserves_assertEpoch fun _ => h)

/-- **The step**: every call of an execution progresses as `Progress` says. -/
theorem advance_progress (answers : Answers) (db : Database Rows) (e : Execution) :
    Progress A e db (A.advance answers db e).1 (A.advance answers db e).2 := by
  unfold advance
  cases hph : e.phase with
  | authorizing =>
    have hend : ∀ reply, e.phase ≠ .returned reply := by simp [hph]
    rcases sqlTransaction_cases (A := A)
        (returns_authorize e.auth e.command e.observedAt db) with h | h
    · obtain ⟨cap, hok, hauth⟩ := h
      apply Progress.of_change _ hend hauth.change
      intro reply
      show phaseAfter _ _ ≠ _
      rw [hok]
      show (if _ then _ else _) ≠ _
      split <;> simp
    · exact .of_error hend h
  | validating =>
    have hend : ∀ reply, e.phase ≠ .returned reply := by simp [hph]
    have hbody : Returns (do
        let cap ← A.authorize e.auth e.command answers.now
        observe (A.validated cap (handleOf e.command) answers.later) : SqlM Rows NativeRequest) db
        fun _ db' => db' = db ∨ FirstUse e.auth.verified.bindingId db db' := by
      apply Returns.bind
      refine (returns_authorize e.auth e.command answers.now db).mono ?_
      intro cap db₁ hauth
      refine (preserves_observe _ db₁).mono ?_
      intro _ db' heq
      rw [← heq]
      exact hauth.change
    rcases sqlTransaction_cases (A := A) hbody with h | h
    · obtain ⟨request, hok, hch⟩ := h
      apply Progress.of_change _ hend hch
      intro reply
      show phaseAfter _ _ ≠ _
      rw [hok]
      simp [phaseAfter]
    · exact .of_error hend h
  | routing =>
    have hend : ∀ reply, e.phase ≠ .returned reply := by simp [hph]
    apply Progress.of_change _ hend (.inl rfl)
    intro reply
    cases hdec : answers.decision <;> simp [phaseAfter]
  | classifying =>
    have hend : ∀ reply, e.phase ≠ .returned reply := by simp [hph]
    by_cases hneeds : needsClassification e.command = true
    · simp only [hneeds, if_true]
      apply Progress.of_change _ hend (.inl rfl)
      intro reply
      cases hprs : answers.parsed <;> simp [phaseAfter]
    · simp only [hneeds]
      exact Progress.of_change (by simp) hend (.inl rfl)
  | committing routing parsed =>
    have hend : ∀ reply, e.phase ≠ .returned reply := by simp [hph]
    rcases sqlTransaction_cases (A := A)
        (returns_commit e.auth e.command routing parsed answers.now db) with h | h
    · obtain ⟨reply, hok, cap, db₁, hauth, hanswered⟩ := h
      have hprog := Progress.of_answered hend hauth hanswered
      show Progress A e db (phaseAfter _ _) _
      rw [hok]
      exact hprog
    · exact .of_error hend h
  | returned =>
    constructor
    · exact fun _ h => h
    · exact fun _ _ h => h
    · exact fun _ h => .inl h
    · exact fun _ h => .inl (hph.trans h)
    · exact fun _ => .inl rfl
    · exact fun _ => .inl rfl
    · exact fun _ h => ⟨hph.symm.trans h, rfl⟩
  | threw =>
    exact Progress.of_change (by simp) (by simp [hph]) (.inl rfl)

/-! ### An answer from the receipt -/

/-- What the last transaction of `_execute` checks before it answers with a receipt. -/
def replayChecks (A : NativeAuthority Rows) (auth : NativeRuntimeAuthorization)
    (command : NativeCommand) (routing : Option Json) (receipt : OperationReceipt) (now : ℤ) :
    SqlM Rows Unit := do
  let cap ← A.authorize auth command now
  A.checkRouting cap command now routing
  onlyIf (decide (command.method = .markApiDispatch)) (A.requestForDispatch cap command now)
  A.validateReceipt cap command receipt now

/-- When the checks pass, the answer is the recorded reply. -/
theorem commit_of_replayChecks (parsed : Option Json)
    (hlk : db.operationReceipt.lookup ⟨A.epoch, principal auth.verified.identity,
      auth.verified.bindingId, command.operationId⟩ = some receipt)
    (h : A.replayChecks auth command routing receipt now db = .ok ((), db')) :
    A.commit auth command routing parsed now db = .ok (receipt.reply, db') := by
  obtain ⟨⟨cap, db₁⟩, hauth, h⟩ := Results.of_bind h
  obtain ⟨⟨_, db₂⟩, hrouting, h⟩ := Results.of_bind h
  obtain ⟨⟨_, db₃⟩, hdispatch, hvalid⟩ := Results.of_bind h
  have hauthorized := returns_authorize auth command now db cap db₁ hauth
  obtain rfl := preserves_checkRouting cap command now routing db₁ _ db₂ hrouting
  obtain rfl := preserves_onlyIf _ (preserves_requestForDispatch cap command now) db₁ _ db₃
    hdispatch
  have hrcp : db₁.operationReceipt.lookup (A.receiptKey cap command) = some receipt := by
    unfold receiptKey
    rw [hauthorized.id_eq, hauthorized.principalId_eq, (keeps_of_change hauthorized.change).2]
    exact hlk
  show (A.authorize auth command now db).bind _ = _
  rw [hauth]
  show (A.checkRouting cap command now routing db₁).bind _ = _
  rw [hrouting]
  show (onlyIf _ (A.requestForDispatch cap command now) db₁).bind _ = _
  rw [hdispatch]
  show A.answer cap command parsed now (db₁.operationReceipt.lookup _) db₁ = _
  rw [hrcp]
  change A.validateReceipt cap command receipt now db₁ = .ok ((), db') at hvalid
  show (A.validateReceipt cap command receipt now db₁).bind _ = _
  rw [hvalid]
  rfl

theorem sqlTransaction_eq_ok {α : Type} {a : α} {body : SqlM Rows α} {db : Database Rows} :
    (A.sqlTransaction body db).1 = .ok a ↔
      A.assertEpoch db = .ok ((), db) ∧ ∃ db', body db = .ok (a, db') := by
  have hrun : (do A.assertEpoch; body : SqlM Rows α).run db =
      (A.assertEpoch db).bind fun r => body r.2 := rfl
  unfold sqlTransaction transaction
  rw [hrun]
  cases hfirst : A.assertEpoch db with
  | error e => simp [Except.bind]
  | ok r =>
    obtain ⟨_, db₁⟩ := r
    obtain rfl := preserves_assertEpoch db _ db₁ hfirst
    simp only [Except.bind, true_and]
    cases body db with
    | error e => simp
    | ok result => simp [Prod.ext_iff]

/-! ### Runs -/

/-- What holds in every world that a run reaches. -/
structure Consistent (A : NativeAuthority Rows) (w : World Rows) : Prop where
  owned : ∀ key, w.db.operationReceipt.lookup key ≠ none →
    w.db.capability.lookup key.capabilityId ≠ none
  returned : ∀ e ∈ w.executions, ∀ reply, e.phase = .returned reply →
    ∃ authorization, w.db.operationReceipt.lookup (A.keyOf e) =
      some ⟨e.command.bytes, reply, authorization⟩
  kept : ∀ part ∈ w.history, ∀ key receipt, part.2.1.operationReceipt.lookup key = some receipt →
    w.db.operationReceipt.lookup key = some receipt
  replayed : ∀ part ∈ w.history, ∃ e, w.executions[part.1]? = some e ∧
    (part.2.1.operationReceipt.lookup (A.keyOf e) ≠ none → part.2.2 = part.2.1) ∧
    ((∀ reply, e.phase ≠ .returned reply) →
      part.2.2 = part.2.1 ∨ FirstUse e.auth.verified.bindingId part.2.1 part.2.2)

theorem Consistent.initial (h : w.Initial) : Consistent A w := by
  obtain ⟨_, hrcp, hexecutions, hhistory⟩ := h
  constructor
  · intro key hkey
    rw [hrcp, Record.lookup_empty] at hkey
    exact absurd rfl hkey
  · simp [hexecutions]
  · simp [hhistory]
  · simp [hhistory]

theorem Consistent.call (h : Consistent A w) (he : ∀ reply, e.phase ≠ .returned reply) :
    Consistent A { w with executions := w.executions ++ [e] } := by
  constructor
  · exact h.owned
  · intro f hf reply hrpl
    rcases List.mem_append.mp hf with hold | hnew
    · exact h.returned f hold reply hrpl
    · rw [List.mem_singleton.mp hnew] at hrpl
      exact absurd hrpl (he reply)
  · exact h.kept
  · intro part hpart
    obtain ⟨f, hf, hrest⟩ := h.replayed part hpart
    have hlt := (List.getElem?_eq_some_iff.mp hf).1
    exact ⟨f, by rw [List.getElem?_append_left hlt]; exact hf, hrest⟩

theorem Consistent.other (h : Consistent A w) (tables : Tables Rows) :
    Consistent A { w with db := { w.db with toTables := tables } } :=
  ⟨h.owned, h.returned, h.kept, h.replayed⟩

/-- Progress keeps the receipts consistent. -/
theorem Consistent.proceed (h : Consistent A w) (he : w.executions[i]? = some e)
    (hprog : Progress A e w.db phase db') : Consistent A
      { db := db'
        executions := w.executions.set i { e with phase := phase }
        history := (i, w.db, db') :: w.history } := by
  have hlt := (List.getElem?_eq_some_iff.mp he).1
  have hmem : e ∈ w.executions := List.mem_of_getElem? he
  have hself : (w.executions.set i { e with phase := phase })[i]? =
    some { e with phase := phase } := by
    rw [List.getElem?_set_self hlt]
  constructor
  · intro key hkey
    rcases hprog.owned key hkey with hold | hnew
    · exact hprog.capability _ (h.owned key hold)
    · exact hnew
  · intro f hf reply hrpl
    rcases List.mem_or_eq_of_mem_set hf with hold | hnew
    · obtain ⟨authorization, hlk⟩ := h.returned f hold reply hrpl
      exact ⟨authorization, hprog.receipt _ _ hlk⟩
    · rw [hnew] at hrpl ⊢
      rcases hprog.answered reply hrpl with hbef | hnow
      · obtain ⟨authorization, hlk⟩ := h.returned e hmem reply hbef
        exact ⟨authorization, hprog.receipt _ _ hlk⟩
      · exact hnow
  · intro part hpart key receipt hrcp
    rcases List.mem_cons.mp hpart with hnew | hold
    · rw [hnew] at hrcp
      exact hprog.receipt key receipt hrcp
    · exact hprog.receipt key receipt (h.kept part hold key receipt hrcp)
  · intro part hpart
    rcases List.mem_cons.mp hpart with hnew | hold
    · rw [hnew]
      refine ⟨_, hself, ?_, hprog.unanswered⟩
      intro hlk
      -- the receipt is there, so the binding has been used before
      have hused := h.owned _ hlk
      rcases hprog.replayed hlk with heq | hfst
      · exact heq
      · exact absurd hfst.1 hused
    · obtain ⟨f, hf, hreplay, hthrew⟩ := h.replayed part hold
      by_cases hi : part.1 = i
      · rw [hi, he] at hf
        cases hf
        rw [hi]
        refine ⟨_, hself, hreplay, ?_⟩
        intro hph
        apply hthrew
        intro reply hrpl
        exact hph reply (hprog.ended reply hrpl).1
      · refine ⟨f, ?_, hreplay, hthrew⟩
        rw [List.getElem?_set_ne (Ne.symm hi)]
        exact hf

/-- An execution that finds the receipt of its operation, and passes the checks, is answered from
it. -/
theorem Consistent.answers (h : Consistent A w) {answers : Answers} {receipt : OperationReceipt}
    (hph : e.phase = .committing routing parsed)
    (hrcp : w.db.operationReceipt.lookup (A.keyOf e) = some receipt)
    (hchks : (A.sqlTransaction
      (A.replayChecks e.auth e.command routing receipt answers.now) w.db).1 = .ok ()) :
    A.advance answers w.db e = (.returned receipt.reply, w.db) := by
  obtain ⟨hepoch, db', hchks⟩ := sqlTransaction_eq_ok.mp hchks
  have hcmt := sqlTransaction_eq_ok.mpr
    ⟨hepoch, db', commit_of_replayChecks parsed hrcp hchks⟩
  have hans : (A.advance answers w.db e).1 = .returned receipt.reply := by
    unfold advance
    rw [hph]
    exact congrArg (phaseAfter .returned) hcmt
  have hprog := advance_progress answers w.db e (A := A)
  rcases hprog.replayed (by rw [hrcp]; exact Option.some_ne_none _) with heq | hfst
  · exact Prod.ext hans heq
  · exact absurd hfst.1 (h.owned _ (by rw [hrcp]; exact Option.some_ne_none _))

theorem begin_phase (h : A.begin binding input observedAt verified = .ok e) :
    e.phase = .authorizing := by
  unfold begin at h
  obtain ⟨command, _, h⟩ := Results.of_bind h
  obtain ⟨verified, -, h⟩ := Results.of_bind h
  split at h
  · cases h
    rfl
  · cases h

/-- One event keeps what the receipts say, whatever execution it moves. -/
theorem Consistent.step (h : Consistent A w) (event : Event Rows) :
    Consistent A (A.step w event) := by
  cases event with
  | call binding input observedAt verified =>
    cases hbegin : A.begin binding input observedAt verified with
    | error error =>
      simp only [NativeAuthority.step, hbegin]
      exact h
    | ok e =>
      have hph := begin_phase hbegin
      simp only [NativeAuthority.step, hbegin]
      exact h.call (by simp [hph])
  | proceed i answers =>
    cases he : w.executions[i]? with
    | none =>
      simp only [NativeAuthority.step, he]
      exact h
    | some e =>
      simp only [NativeAuthority.step, he]
      exact h.proceed he (advance_progress answers w.db e)
  | other tables => exact h.other tables

/-- So does every run. -/
theorem Consistent.run (h : Consistent A w) (events : List (Event Rows)) :
    Consistent A (A.run w events) := by
  induction events generalizing w with
  | nil => exact h
  | cons event _ ih => exact ih (h.step event)

/-- **A command that is sent again.**  Two executions under one capability and operation that have
both answered had the same command and gave the same reply; an execution that finds a receipt
changes nothing; one that has not answered has changed nothing but the row of its capability, at its
first use; and one that passes the checks of its receipt is answered from it. -/
theorem execute_replayed (A : NativeAuthority Rows) {w : World Rows} (hw : w.Initial)
    (events : List (Event Rows)) :
    (∀ e ∈ (A.run w events).executions, ∀ f ∈ (A.run w events).executions,
      A.keyOf e = A.keyOf f → ∀ reply reply', e.phase = .returned reply →
        f.phase = .returned reply' → e.command.bytes = f.command.bytes ∧ reply = reply') ∧
    (∀ i before after, (i, before, after) ∈ (A.run w events).history →
      ∃ e, (A.run w events).executions[i]? = some e ∧
        (before.operationReceipt.lookup (A.keyOf e) ≠ none → after = before) ∧
        (∀ receipt, before.operationReceipt.lookup (A.keyOf e) = some receipt →
          ∀ reply, e.phase = .returned reply →
            receipt.command = e.command.bytes ∧ reply = receipt.reply) ∧
        ((∀ reply, e.phase ≠ .returned reply) →
          after = before ∨ FirstUse e.auth.verified.bindingId before after)) ∧
    (∀ e ∈ (A.run w events).executions, ∀ routing parsed receipt answers,
      e.phase = .committing routing parsed →
      (A.run w events).db.operationReceipt.lookup (A.keyOf e) = some receipt →
      (A.sqlTransaction (A.replayChecks e.auth e.command routing receipt answers.now)
        (A.run w events).db).1 = .ok () →
      A.advance answers (A.run w events).db e =
        (.returned receipt.reply, (A.run w events).db)) := by
  have hcst : Consistent A (A.run w events) := (Consistent.initial hw).run events
  refine ⟨?_, ?_, fun e _ routing parsed receipt answers => hcst.answers⟩
  · intro e he f hf hkey reply reply' hrpl hrpl'
    obtain ⟨authorization, hlk⟩ := hcst.returned e he reply hrpl
    obtain ⟨authorization', hlk'⟩ := hcst.returned f hf reply' hrpl'
    rw [hkey, hlk'] at hlk
    have hrcp := Option.some.inj hlk
    constructor
    · exact (congrArg OperationReceipt.command hrcp).symm
    · exact (congrArg OperationReceipt.reply hrcp).symm
  · intro i before after hpart
    obtain ⟨e, he, hreplay, hthrew⟩ := hcst.replayed _ hpart
    refine ⟨e, he, hreplay, ?_, hthrew⟩
    intro receipt hrcp reply hrpl
    obtain ⟨authorization, hlk⟩ :=
      hcst.returned e (List.mem_of_getElem? he) reply hrpl
    have hkept := hcst.kept _ hpart _ receipt hrcp
    rw [hlk] at hkept
    have heq := Option.some.inj hkept
    constructor
    · exact (congrArg OperationReceipt.command heq).symm
    · exact congrArg OperationReceipt.reply heq

/-! ### A run -/

def sampleOperation : Operation ℕ Json := throw ⟨"not_applicable", 409⟩

/-- An authority whose other tables are a counter: a cutover increases it, and nothing else is
possible. -/
def sampleAuthority : NativeAuthority ℕ where
  namespaceName := "uos"
  epoch := "epoch-1"
  byteLength := fun _ => 0
  runtimeGrant := fun _ id =>
    if id = "grant" then some ⟨"grant", "epoch-1", "subject", "context", [.quotaAdmin], 100, false⟩
    else none
  principalReference := fun _ _ _ _ => .ok none
  assertCurrentApi := fun _ _ _ => .ok ()
  assertRouting := fun _ _ _ _ _ => .ok ()
  openRequest := fun _ _ _ => sampleOperation
  metadata := fun _ _ _ => sampleOperation
  request := fun _ _ _ _ => .ok ⟨none⟩
  validated := fun _ _ _ _ => .ok ⟨none⟩
  assertDispatchReceipt := fun _ _ _ _ => .ok ()
  assertTransportReceipt := fun _ _ _ _ _ => .ok ()
  apiReserve := fun _ _ _ => sampleOperation
  apiStart := fun _ _ _ _ => sampleOperation
  apiDispatch := fun _ _ _ => sampleOperation
  apiRelease := fun _ _ _ => sampleOperation
  apiCancel := fun _ _ _ => sampleOperation
  kernelReserve := fun _ _ _ => sampleOperation
  kernelIntent := fun _ _ _ => sampleOperation
  kernelSettle := fun _ _ _ => sampleOperation
  kernelRenew := fun _ _ _ => sampleOperation
  kernelReclaim := fun _ _ _ => sampleOperation
  kernelPolicy := fun _ _ _ => sampleOperation
  kernelCutover := fun now => do
    modify fun tables => ⟨tables.sequence + 1, tables.rows + 1⟩
    return .obj [("kind", .str "cutover"), ("detail", .num now)]
  codexFence := fun _ _ _ _ _ => .ok ()
  codexAuthorization := fun _ _ _ _ => .ok .null
  codexSelect := fun _ _ _ => sampleOperation
  codexSignal := fun _ _ _ _ => sampleOperation
  codexRelease := fun _ _ _ => sampleOperation
  codexElect := fun _ _ _ => sampleOperation
  codexRefresh := fun _ _ _ => sampleOperation
  paidAttempt := fun _ _ _ _ => .ok ()
  paidAssertStart := fun _ _ _ _ => .ok ()
  paidStart := fun _ _ _ => pure ()
  paidReserve := fun _ _ _ => sampleOperation
  paidLifecycle := fun _ _ _ => sampleOperation
  paidRelease := fun _ _ _ => sampleOperation
  paidBilling := fun _ _ _ => sampleOperation
  paidDefer := fun _ _ _ => sampleOperation
  paidClaim := fun _ _ _ => sampleOperation
  paidFinish := fun _ _ _ => sampleOperation
  paidBackfill := fun _ _ _ => sampleOperation
  paidDeletion := fun _ _ => sampleOperation
  observation := fun _ _ _ => sampleOperation
  status := fun _ _ _ => sampleOperation

/-- The world before the run. -/
def sampleWorld : World ℕ where
  db := ⟨⟨0, 0⟩, 3, "uos", "epoch-1", Record.empty, Record.empty⟩
  executions := []
  history := []

/-- A command of the operation `op`. -/
def sampleCommand (method : String) (args : Json) : Json :=
  .obj [("epoch", .str "epoch-1"), ("operationId", .str "op"), ("method", .str method),
    ("args", args)]

/-- A call of the command at a time, and its three parts. -/
def sampleCall (i : ℕ) (input : Json) (now : ℤ) : List (Event ℕ) :=
  [.call ⟨"grant", "context"⟩ input now
      (.ok ⟨"binding", "subject", "context", canonical input, .adminAllowlist, none, none⟩),
    .proceed i ⟨now, now, .ok .null, .ok none⟩, .proceed i ⟨now, now, .ok .null, .ok none⟩,
    .proceed i ⟨now, now, .ok .null, .ok none⟩]

/-- The ends of the executions of a run from the sample world. -/
def samplePhases (events : List (Event ℕ)) : List Phase :=
  (sampleAuthority.run sampleWorld events).executions.map Execution.phase

def sampleReply : Json := .obj [("kind", .str "cutover"), ("detail", .num 1)]

/-- A cutover, the same command again, and another command under the same operation. -/
def sampleEvents : List (Event ℕ) :=
  sampleCall 0 (sampleCommand "acquireKernelDefaultCutover" (.obj [])) 1 ++
    sampleCall 1 (sampleCommand "acquireKernelDefaultCutover" (.obj [])) 2 ++
    sampleCall 2 (sampleCommand "deleteKernelQuota" (.obj [("scope", .str "org")])) 3

theorem execute_replayed_cutover :
    samplePhases sampleEvents = [.returned sampleReply, .returned sampleReply,
        .threw ⟨"authority_operation_replay_conflict", 409⟩] ∧
      ∀ e ∈ (sampleAuthority.run sampleWorld sampleEvents).executions,
        ∀ f ∈ (sampleAuthority.run sampleWorld sampleEvents).executions,
          sampleAuthority.keyOf e = sampleAuthority.keyOf f → ∀ reply reply',
            e.phase = .returned reply → f.phase = .returned reply' →
              e.command.bytes = f.command.bytes ∧ reply = reply' :=
  ⟨by decide +kernel, (execute_replayed sampleAuthority ⟨rfl, rfl, rfl, rfl⟩ sampleEvents).1⟩

/-- The same command is refused after its grant has expired, instead of being answered with the
first reply; and a command that throws may leave the row of its capability. -/
theorem execute_replayed_expired :
    samplePhases (sampleCall 0 (sampleCommand "acquireKernelDefaultCutover" (.obj [])) 1 ++
        sampleCall 1 (sampleCommand "acquireKernelDefaultCutover" (.obj [])) 100) =
      [.returned sampleReply, .threw ⟨"runtime_grant_revoked_or_expired", 403⟩] ∧
    samplePhases (sampleCall 0 (sampleCommand "beginPaidKeyDeletion" (.obj [])) 1) =
      [.threw ⟨"not_applicable", 409⟩] ∧
    ((sampleAuthority.run sampleWorld
        (sampleCall 0 (sampleCommand "beginPaidKeyDeletion" (.obj [])) 1)).db.capability.lookup
      "binding").isSome = true := by
  decide +kernel

end NativeAuthority

end UbqGateway.Native
