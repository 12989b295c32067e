import UbqGateway.Native.NativeAuthority
import UbqGateway.Library.Results

/-!
# Receipts and replays

The only two things that an execution changes by itself are the row of its capability, when the
binding is used for the first time, and the receipt of its operation, which is written together with
what the command does.  A receipt is never written again, so that an execution that finds one
changes nothing, and answers with the recorded reply if it answers at all.
-/

namespace UbqGateway.Native

variable (cap : NativeCapability) (command : NativeCommand)

namespace NativeAuthority

variable {A : NativeAuthority Rows}

/-! ### What only reads -/

theorem preserves_require (condition : Bool) (code : String) (status : ℕ) :
    Preserves Eq (require condition code status : SqlM Rows Unit) := by
  unfold require
  split
  · exact Preserves.pure (fun _ => rfl) ()
  · exact Preserves.throw _

theorem preserves_observe (read : Reading Rows α) : Preserves Eq (observe read) := by
  intro db a db' heq
  unfold observe at heq
  cases hread : read db.rows with
  | error e =>
    have hthrow : (Except.error e : Except NativeAuthorityError (α × Database Rows)) = .ok
      (a, db') := by
      rw [← heq]
      show _ = (read db.rows).map _
      rw [hread]
      rfl
    cases hthrow
  | ok b =>
    have hok : (Except.ok (b, db) : Except NativeAuthorityError (α × Database Rows)) = .ok
      (a, db') := by
      rw [← heq]
      show _ = (read db.rows).map _
      rw [hread]
      rfl
    cases hok
    rfl

theorem preserves_onlyIf (condition : Bool) (h : Preserves Eq body) :
    Preserves Eq (onlyIf condition body) := by
  unfold onlyIf
  split
  · exact h
  · exact Preserves.pure (fun _ => rfl) ()

theorem eq_trans_states (s t u : Database Rows) (hst : s = t) (htu : t = u) : s = u := hst.trans htu

theorem preserves_get : Preserves Eq (get : SqlM Rows (Database Rows)) := by
  intro db a db' heq
  cases heq
  rfl

theorem preserves_assertEpoch : Preserves Eq A.assertEpoch :=
  Preserves.bind eq_trans_states preserves_get fun _ => preserves_require _ _ _

theorem preserves_observeArgument (read : String → Reading Rows α) (argument : Option String) :
    Preserves Eq (observeArgument read argument) := by
  cases argument with
  | none => exact Preserves.pure (fun _ => rfl) ()
  | some argument =>
    exact Preserves.bind eq_trans_states (preserves_observe _) fun _ =>
      Preserves.pure (fun _ => rfl) ()

theorem preserves_checkReference (existing : Option NativeCapability) (now : ℤ)
    (api : Option NativeRuntimeApiScope) : Preserves Eq (A.checkReference existing now api) := by
  cases api with
  | none => exact Preserves.pure (fun _ => rfl) ()
  | some api =>
    exact Preserves.bind eq_trans_states (preserves_observe _) fun _ => preserves_require _ _ _

theorem preserves_requestForDispatch (now : ℤ) :
    Preserves Eq (A.requestForDispatch cap command now) := by
  apply Preserves.bind eq_trans_states (preserves_observe _)
  intro request
  apply Preserves.bind eq_trans_states (preserves_observe _)
  intro _
  cases request.routingDecision with
  | none => exact Preserves.throw _
  | some decision =>
    exact Preserves.bind eq_trans_states (preserves_require _ _ _) fun _ =>
      preserves_onlyIf _ (preserves_observe _)

theorem preserves_validateTransport (receipt : OperationReceipt) (now : ℤ) :
    Preserves Eq (A.validateTransport cap command receipt now) := by
  apply Preserves.bind eq_trans_states (preserves_requestForDispatch cap command now)
  intro _
  apply Preserves.bind eq_trans_states (preserves_observe _)
  intro _
  split
  · exact preserves_observe _
  · exact preserves_observe _

theorem preserves_validateRefresh (now : ℤ)
    (authorization : Option Json) : Preserves Eq
      (A.validateRefresh cap command now authorization) := by
  cases authorization with
  | none => exact Preserves.throw _
  | some authorization => exact preserves_observe _

theorem preserves_checkRouting (now : ℤ)
    (routing : Option Json) : Preserves Eq (A.checkRouting cap command now routing) := by
  cases routing with
  | none => exact Preserves.pure (fun _ => rfl) ()
  | some routing =>
    exact Preserves.bind eq_trans_states (preserves_observe _) fun _ => preserves_observe _

theorem preserves_authorizationFor (committed : Json) (now : ℤ) :
    Preserves Eq (A.authorizationFor cap command committed now) := by
  unfold authorizationFor
  split
  · exact Preserves.bind eq_trans_states (preserves_observe _) fun _ =>
      Preserves.pure (fun _ => rfl) _
  · exact Preserves.pure (fun _ => rfl) _

theorem returns_validateReceipt (receipt : OperationReceipt) (now : ℤ) (db : Database Rows) :
    Returns (A.validateReceipt cap command receipt now) db fun _ db' =>
      db' = db ∧ receipt.command = command.bytes := by
  unfold validateReceipt
  by_cases hby : receipt.command = command.bytes
  · refine Returns.read_bind (preserves_require _ _ _) fun _ => ?_
    refine Returns.read_bind (preserves_onlyIf _ (preserves_observe _)) fun _ => ?_
    refine Returns.read_bind (preserves_onlyIf _ (preserves_observe _)) fun _ => ?_
    refine Returns.read_bind (preserves_onlyIf _ (preserves_validateRefresh cap command now _))
      fun _ => ?_
    have hlast := preserves_onlyIf (decide (command.method = .recordTransportStarted))
      (preserves_validateTransport (A := A) cap command receipt now)
    exact (hlast db).mono fun _ db' heq => ⟨heq.symm, hby⟩
  · apply Returns.bind
    have hfls : decide (receipt.command = command.bytes) = false := decide_eq_false hby
    rw [hfls]
    exact Returns.throw

end NativeAuthority

/-- The database after the row of a capability was written. -/
def Database.withCapability {Rows : Type} (db : Database Rows) (cap : NativeCapability) :
    Database Rows :=
  { db with sequence := db.sequence + 1, capability := db.capability.insert cap.id cap }

/-- The binding of an authorization has been used for the first time. -/
def FirstUse {Rows : Type} (bindingId : String) (db db' : Database Rows) : Prop :=
  db.capability.lookup bindingId = none ∧
    ∃ cap : NativeCapability, cap.id = bindingId ∧ db' = db.withCapability cap

namespace NativeAuthority

variable {A : NativeAuthority Rows}

/-- What `authorize` gives and leaves. -/
structure Authorized (auth : NativeRuntimeAuthorization) (db : Database Rows)
    (cap : NativeCapability)
    (db' : Database Rows) : Prop where
  id_eq : cap.id = auth.verified.bindingId
  principalId_eq : cap.principalId = principal auth.verified.identity
  present : db'.capability.lookup auth.verified.bindingId ≠ none
  change : db' = db ∨ FirstUse auth.verified.bindingId db db'

theorem returns_writeCapability (db : Database Rows) :
    Returns (writeCapability cap) db fun _ db' => db' = db.withCapability cap := by
  apply Returns.bind
  apply Returns.get_bind
  split_ifs with hseq
  · intro _ db' heq
    cases heq
    exact Returns.modify rfl
  · exact Returns.throw

variable (auth : NativeRuntimeAuthorization)

theorem returns_retainCapability (grant : NativeRuntimeGrant) (db : Database Rows) :
    Returns (retainCapability (db.capability.lookup auth.verified.bindingId)
      (capabilityOf grant auth.verified)) db (Authorized auth db) := by
  cases hexi : db.capability.lookup auth.verified.bindingId with
  | none =>
    apply Returns.bind
    refine (returns_writeCapability (capabilityOf grant auth.verified) db).mono ?_
    intro _ db' heq
    apply Returns.pure
    have hprs : db'.capability.lookup auth.verified.bindingId ≠ none := by
      rw [heq]
      show (db.capability.insert auth.verified.bindingId _).lookup auth.verified.bindingId ≠ none
      rw [Record.lookup_insert_self]
      exact Option.some_ne_none _
    exact ⟨rfl, rfl, hprs, .inr ⟨hexi, capabilityOf grant auth.verified, rfl, heq⟩⟩
  | some cap =>
    simp only [retainCapability]
    refine Returns.read_bind (preserves_require _ _ _) fun _ => ?_
    refine Returns.read_bind (preserves_require _ _ _) fun _ => ?_
    apply Returns.pure
    have hprs : db.capability.lookup auth.verified.bindingId ≠ none := by
      rw [hexi]
      exact Option.some_ne_none cap
    exact ⟨rfl, rfl, hprs, .inl rfl⟩

theorem returns_runtimeAuthorize (now : ℤ) (db : Database Rows) :
    Returns (A.runtimeAuthorize auth now) db (Authorized auth db) := by
  apply Returns.get_bind
  cases A.runtimeGrant db.rows auth.binding.grantId with
  | none => exact Returns.throw
  | some grant =>
    simp only [authorizeGrant]
    refine Returns.read_bind (preserves_require _ _ _) fun _ => ?_
    refine Returns.read_bind (preserves_require _ _ _) fun _ => ?_
    refine Returns.read_bind (preserves_require _ _ _) fun _ => ?_
    refine Returns.read_bind (preserves_require _ _ _) fun _ => ?_
    apply Returns.get_bind
    refine Returns.read_bind (preserves_checkReference _ _ _) fun _ => ?_
    exact returns_retainCapability auth grant db

/-- **Authorization**: it changes nothing, or it is the first use of the binding. -/
theorem returns_authorize (command : NativeCommand) (now : ℤ)
    (db : Database Rows) : Returns (A.authorize auth command now) db (Authorized auth db) := by
  unfold authorize
  refine Returns.read_bind preserves_assertEpoch fun _ => ?_
  refine Returns.read_bind (preserves_require _ _ _) fun _ => ?_
  apply Returns.bind
  refine (returns_runtimeAuthorize auth now db).mono ?_
  intro cap db' hauth
  refine Returns.read_bind (preserves_require _ _ _) fun _ => ?_
  refine Returns.read_bind (preserves_onlyIf _ (preserves_observe _)) fun _ => ?_
  refine Returns.read_bind (preserves_observeArgument _ _) fun _ => ?_
  refine Returns.read_bind (preserves_observeArgument _ _) fun _ => ?_
  exact Returns.pure hauth

/-! ### The dispatch -/

/-- The capabilities and the receipts are the same. -/
def SameRecords (db db' : Database Rows) : Prop :=
  db'.capability = db.capability ∧ db'.operationReceipt = db.operationReceipt

theorem SameRecords.refl (db : Database Rows) : SameRecords db db := ⟨rfl, rfl⟩

theorem SameRecords.trans (s t u : Database Rows) (hst : SameRecords s t) (htu : SameRecords t u) :
    SameRecords s u :=
  ⟨htu.1.trans hst.1, htu.2.trans hst.2⟩

theorem preserves_operate (operation : Operation Rows α) :
    Preserves SameRecords (operate operation) := by
  intro db a db' heq
  have hrun : (operation.run db.toTables).map
      (fun result => (result.1, ({ db with toTables := result.2 } : Database Rows))) = .ok
        (a, db') :=
    heq
  obtain ⟨result, _, hsame⟩ := Results.of_map hrun
  cases hsame
  exact ⟨rfl, rfl⟩

/-- **The families leave the capabilities and the receipts alone.** -/
theorem preserves_dispatch (parsed : Option Json)
    (now : ℤ) : Preserves SameRecords (A.dispatch cap command parsed now) := by
  unfold dispatch
  cases command.method with
  | recordTransportStarted =>
    apply Preserves.bind SameRecords.trans
      (Preserves.of_eq SameRecords.refl (preserves_requestForDispatch cap command now))
    intro _
    exact Preserves.bind SameRecords.trans (preserves_operate _) fun _ => preserves_operate _
  | selectCodexAccount =>
    apply Preserves.bind SameRecords.trans (Preserves.of_eq SameRecords.refl (preserves_observe _))
    intro request
    apply Preserves.bind SameRecords.trans
      (Preserves.of_eq SameRecords.refl (preserves_require _ _ _))
    intro _
    exact preserves_operate _
  | _ => exact preserves_operate _

theorem returns_writeReceipt (key : ReceiptKey) (receipt : OperationReceipt) (db : Database Rows) :
    Returns (writeReceipt key receipt) db fun _ db' =>
      db'.capability = db.capability ∧
        db'.operationReceipt = db.operationReceipt.insert key receipt := by
  apply Returns.bind
  apply Returns.get_bind
  split_ifs with hseq
  · intro _ db' heq
    cases heq
    exact Returns.modify ⟨rfl, rfl⟩
  · exact Returns.throw

/-- What an execution with a given key and command has been answered: with the receipt that was
there, or by doing what the command says and writing one. -/
inductive Answered (key : ReceiptKey) (bytes : Json) (db : Database Rows) (reply : Json)
    (db' : Database Rows) : Prop
  | replayed (receipt : OperationReceipt) (hfd : db.operationReceipt.lookup key = some receipt)
      (hby : receipt.command = bytes) (hrpl : reply = receipt.reply) (heq : db' = db)
  | executed (authorization : Option Json) (hnew : db.operationReceipt.lookup key = none)
      (hcapability : db'.capability = db.capability)
      (hrcp : db'.operationReceipt =
        db.operationReceipt.insert key ⟨bytes, reply, authorization⟩)

theorem returns_answer (parsed : Option Json) (now : ℤ) (db : Database Rows) :
    Returns (A.answer cap command parsed now
        (db.operationReceipt.lookup (A.receiptKey cap command))) db
      (Answered (A.receiptKey cap command) command.bytes db) := by
  cases hlk : db.operationReceipt.lookup (A.receiptKey cap command) with
  | some receipt =>
    apply Returns.bind
    refine (returns_validateReceipt cap command receipt now db).mono ?_
    intro _ db' hvld
    exact Returns.pure (.replayed receipt hlk hvld.2 rfl hvld.1)
  | none =>
    apply Returns.bind
    refine (preserves_dispatch cap command parsed now db).mono ?_
    intro committed db₁ hdispatch
    refine Returns.read_bind (preserves_authorizationFor cap command committed now)
      fun authorization => ?_
    apply Returns.bind
    refine (returns_writeReceipt _ _ db₁).mono ?_
    intro _ db₂ hwri
    apply Returns.pure
    have hcapability : db₂.capability = db.capability := hwri.1.trans hdispatch.1
    have hrcp := hwri.2
    rw [hdispatch.2] at hrcp
    exact .executed authorization hlk hcapability hrcp

/-- **The last transaction** authorizes once more and then answers. -/
theorem returns_commit (command : NativeCommand)
    (routing parsed : Option Json) (now : ℤ) (db : Database Rows) :
    Returns (A.commit auth command routing parsed now) db fun reply db' =>
      ∃ cap db₁, Authorized auth db cap db₁ ∧
        Answered (A.receiptKey cap command) command.bytes db₁ reply db' := by
  apply Returns.bind
  refine (returns_authorize auth command now db).mono ?_
  intro cap db₁ hauth
  refine Returns.read_bind (preserves_checkRouting cap command now routing) fun _ => ?_
  refine Returns.read_bind (preserves_onlyIf _ (preserves_requestForDispatch cap command now))
    fun _ => ?_
  apply Returns.get_bind
  refine (returns_answer cap command parsed now db₁).mono ?_
  intro reply db' hanswered
  exact ⟨cap, db₁, hauth, hanswered⟩

end NativeAuthority

end UbqGateway.Native
