import UbqGateway.Authority.Contracts
import Mathlib.Data.List.Chain

/-!
# Published credentials

`src/authority/credential-publication.ts`: the owner of an account publishes an access token for the
next generation of its credentials.  A publication is applied to the state as it is read, and
written by compare-and-swap, so that a sequence of publications is a sequence of applications.

The published evidence of an account is a chain (`publications_chain`): each generation is the next
one, refreshed later, and does not expire earlier.  The comparison with it is lost for the account
`__proto__`, because what is assigned to that name is not found again.
-/

namespace UbqGateway.Authority

/-- `/^\d+$/` -/
def isDigits (text : String) : Bool := text.toList ≠ [] && text.toList.all Char.isDigit

/-- A time in nanoseconds, as a text of digits. -/
structure Nanoseconds where
  text : String
  digits : isDigits text = true
deriving DecidableEq

/-- `BigInt(text)` -/
def Nanoseconds.bigInt (ns : Nanoseconds) : ℤ :=
  ns.text.toList.foldl (fun value c => 10 * value + (c.toNat - '0'.toNat : ℕ)) 0

/-- `CredentialOwnerBinding`, with the number that its text is. -/
structure CredentialOwnerBinding where
  scope : AuthorityScope
  ownerId : String
  ownerEpoch : ℤ
  accountId : String
  workspaceId : String
  minimumNativeRefreshedAtNs : ℤ

/-- `AccessAuthorization`; its time of refresh was checked before it was stored. -/
structure AccessAuthorization (Time : Type := Nanoseconds) where
  ownerId : String
  ownerEpoch : ℤ
  accountId : String
  workspaceId : String
  generation : ℤ
  nativeRefreshedAtNs : Time
  fingerprint : String
  accessToken : String
  idToken : String
  issuedAtMs : ℤ
  expiresAtMs : ℤ
deriving DecidableEq

/-- `AccessPublication`, without fields of other names, which are refused. -/
structure AccessPublication extends AccessAuthorization String where
  previousGeneration : ℤ

structure VerifiedAccessIdentity where
  accountId : String
  workspaceId : String
  fingerprint : String
  issuedAtMs : ℤ
  expiresAtMs : ℤ
deriving DecidableEq

structure CredentialState extends AuthorityState where
  publications : Record String AccessAuthorization

inductive PublicationOutcome
  | published
  | duplicate

/-- A call of `publish`: the publisher's binding, what its verifier says of the input, and the
time. -/
structure Publication where
  binding : CredentialOwnerBinding
  identity : VerifiedAccessIdentity
  input : AccessPublication
  nowMs : ℤ

namespace Publication

variable (p : Publication)

/-- `_validateBinding` -/
def validateBinding : Except Thrown Unit :=
  require (p.input.ownerId = p.binding.ownerId ∧ p.input.ownerEpoch = p.binding.ownerEpoch ∧
    p.input.accountId = p.binding.accountId ∧ p.input.workspaceId = p.binding.workspaceId)
    "credential_owner_binding_mismatch" 403

/-- `_validateGeneration`, with the time of refresh that it accepts. -/
def validateGeneration : Except Thrown Nanoseconds :=
  if h : isDigits p.input.nativeRefreshedAtNs = true ∧ isSafeInteger p.input.generation = true ∧
      1 ≤ p.input.generation ∧ p.input.previousGeneration = p.input.generation - 1 ∧
      p.input.accessToken ≠ "" ∧ p.input.idToken ≠ "" ∧ p.input.fingerprint ≠ "" ∧
      isSafeInteger p.input.expiresAtMs = true ∧ isSafeInteger p.input.issuedAtMs = true ∧
      p.input.issuedAtMs ≤ p.nowMs ∧ p.nowMs + 120000 < p.input.expiresAtMs then
    .ok ⟨p.input.nativeRefreshedAtNs, h.1⟩
  else .error (.authorityError "credential_generation_invalid" 403)

/-- The verified identity is that of the input, which was refreshed after the publisher's
minimum. -/
def validateIdentity (refreshedAt : Nanoseconds) : Except Thrown Unit :=
  require (p.identity = ⟨p.input.accountId, p.input.workspaceId, p.input.fingerprint,
      p.input.issuedAtMs, p.input.expiresAtMs⟩ ∧
    p.binding.minimumNativeRefreshedAtNs < refreshedAt.bigInt) "credential_identity_mismatch" 403

def authorization (refreshedAt : Nanoseconds) : AccessAuthorization :=
  { p.input.toAccessAuthorization with nativeRefreshedAtNs := refreshedAt }

/-- The account after a publication: its proof was one of the credential before. -/
def publishedAccount (account : AccountBinding) : AccountBinding :=
  { account with
    fingerprint := p.input.fingerprint
    credentialGeneration := p.input.generation
    proof := none }

/-- What `_applyPublication` writes. -/
def written (account : AccountBinding) (authorization : AccessAuthorization)
    (state : CredentialState) : CredentialState :=
  { state with
    publications := assign state.publications p.input.accountId authorization
    accounts := state.accounts.set
      (state.accounts.findIdx fun account => account.accountId = p.input.accountId)
      (p.publishedAccount account)
    active := state.active.map fun active =>
      if active.accountId = p.input.accountId then
        { active with fingerprint := p.input.fingerprint }
      else active }

/-- `_applyPublication` -/
def applyPublication (authorization : AccessAuthorization) (state : CredentialState) :
    Except Thrown (PublicationOutcome × CredentialState) := do
  let current := state.publications.lookup p.input.accountId
  let account ← demand (state.accounts.find? fun account => account.accountId = p.input.accountId)
    "credential_account_missing" 403
  if current.map (·.generation) = some p.input.generation then do
    require (current = some authorization) "credential_generation_conflict"
    pure (.duplicate, state)
  else do
    require (∀ prior ∈ current, prior.ownerId = p.binding.ownerId ∧
      prior.ownerEpoch = p.binding.ownerEpoch ∧ prior.workspaceId = p.binding.workspaceId)
      "credential_owner_binding_mismatch" 403
    require ((current.map (·.generation)).getD account.credentialGeneration =
        p.input.previousGeneration ∧
      ∀ prior ∈ current,
        prior.nativeRefreshedAtNs.bigInt < authorization.nativeRefreshedAtNs.bigInt ∧
          prior.expiresAtMs ≤ p.input.expiresAtMs) "credential_generation_conflict"
    pure (.published, p.written account authorization state)

/-- The evidence that is published, if the input is valid and verified. -/
def evidence : Except Thrown AccessAuthorization := do
  p.validateBinding
  let refreshedAt ← p.validateGeneration
  p.validateIdentity refreshedAt
  return p.authorization refreshedAt

/-- `publish`, applied to a state. -/
def publish (state : CredentialState) : Except Thrown (PublicationOutcome × CredentialState) := do
  let authorization ← p.evidence
  require (state.scope = p.binding.scope) "namespace_or_epoch_mismatch" 403
  p.applyPublication authorization state

end Publication

/-! ### Sequences of publications -/

variable (p : Publication) (state : CredentialState)

/-- The state after a call: one that throws writes nothing. -/
def CredentialState.after : CredentialState :=
  match p.publish state with
  | .ok (_, next) => next
  | .error _ => state

/-- The evidence that a call publishes. -/
def Publication.accepted : Option AccessAuthorization :=
  match p.publish state with
  | .ok (.published, _) => p.evidence.toOption
  | _ => none

/-- The state after a sequence of calls, and the evidence that was accepted, in order. -/
def publishAll : List Publication → CredentialState → CredentialState × List AccessAuthorization
  | [], state => (state, [])
  | p :: rest, state =>
    let after := publishAll rest (state.after p)
    (after.1, (p.accepted state).toList ++ after.2)

def acceptedFor (accountId : String) (calls : List Publication) (state : CredentialState) :
    List AccessAuthorization :=
  (publishAll calls state).2.filter fun evidence => evidence.accountId = accountId

/-- The next generation, refreshed later, which does not expire earlier. -/
def Succeeds (prior next : AccessAuthorization) : Prop :=
  next.generation = prior.generation + 1 ∧
    prior.nativeRefreshedAtNs.bigInt < next.nativeRefreshedAtNs.bigInt ∧
      prior.expiresAtMs ≤ next.expiresAtMs

variable {p state} {calls : List Publication}

/-- The account of a published credential has it as its next generation. -/
structure Accepts (state : CredentialState) (evidence : AccessAuthorization)
    (account : AccountBinding) : Prop where
  found : state.accounts.find? (fun account => account.accountId = evidence.accountId) =
    some account
  first : state.publications.lookup evidence.accountId = none →
    evidence.generation = account.credentialGeneration + 1
  later : ∀ prior, state.publications.lookup evidence.accountId = some prior →
    Succeeds prior evidence

theorem evidence_ok (h : p.evidence = .ok evidence) :
    ∃ refreshedAt, evidence = p.authorization refreshedAt ∧
      p.input.previousGeneration = p.input.generation - 1 := by
  unfold Publication.evidence at h
  obtain ⟨-, -, h⟩ := bind_eq_ok.mp h
  obtain ⟨refreshedAt, hvld, h⟩ := bind_eq_ok.mp h
  obtain ⟨-, -, h⟩ := bind_eq_ok.mp h
  refine ⟨refreshedAt, (pure_eq_ok.mp h).symm, ?_⟩
  unfold Publication.validateGeneration at hvld
  split_ifs at hvld with hall
  exact hall.2.2.2.1

/-- **What a call does**: it writes nothing, or publishes the next evidence of its account. -/
theorem publish_ok (h : p.publish state = .ok (outcome, next)) :
    ∃ evidence, p.evidence = .ok evidence ∧
      ((outcome = .duplicate ∧ next = state ∧
          state.publications.lookup evidence.accountId = some evidence) ∨
        (outcome = .published ∧
          ∃ account, Accepts state evidence account ∧
            next = p.written account evidence state)) := by
  unfold Publication.publish at h
  obtain ⟨evidence, hevid, h⟩ := bind_eq_ok.mp h
  obtain ⟨-, -, h⟩ := bind_eq_ok.mp h
  obtain ⟨refreshedAt, rfl, hprev⟩ := evidence_ok hevid
  refine ⟨_, hevid, ?_⟩
  unfold Publication.applyPublication at h
  obtain ⟨account, hacn, h⟩ := bind_eq_ok.mp h
  split_ifs at h with heq
  · obtain ⟨_, hduplicate, h⟩ := bind_eq_ok.mp h
    cases pure_eq_ok.mp h
    exact .inl ⟨rfl, rfl, require_eq_ok.mp hduplicate⟩
  · obtain ⟨-, -, h⟩ := bind_eq_ok.mp h
    obtain ⟨_, hlat, h⟩ := bind_eq_ok.mp h
    cases pure_eq_ok.mp h
    obtain ⟨hgen, hlat⟩ := require_eq_ok.mp hlat
    have hnext : ∀ prior, state.publications.lookup p.input.accountId = some prior →
        p.input.generation = prior.generation + 1 := by
      intro prior hpri
      rw [hpri, Option.map_some, Option.getD_some] at hgen
      omega
    refine .inr ⟨rfl, account, ⟨demand_eq_ok.mp hacn, fun hno => ?_, ?_⟩, rfl⟩
    · have hno : state.publications.lookup p.input.accountId = none := hno
      rw [hno, Option.map_none, Option.getD_none] at hgen
      show p.input.generation = _
      omega
    · intro prior hpri
      exact ⟨hnext prior hpri, hlat prior hpri⟩

theorem evidence_accountId (h : p.evidence = .ok evidence) :
    evidence.accountId = p.input.accountId := by
  obtain ⟨refreshedAt, rfl, -⟩ := evidence_ok h
  rfl

theorem call_cases (p : Publication) (state : CredentialState) :
    (p.accepted state = none ∧ state.after p = state) ∨
      ∃ evidence account, p.accepted state = some evidence ∧ p.evidence = .ok evidence ∧
        Accepts state evidence account ∧ state.after p = p.written account evidence state := by
  unfold Publication.accepted CredentialState.after
  cases h : p.publish state with
  | error e => exact .inl ⟨rfl, rfl⟩
  | ok result =>
    obtain ⟨outcome, next⟩ := result
    obtain ⟨evidence, hevid, ⟨rfl, hnext, -⟩ | ⟨rfl, account, hacc, hnext⟩⟩ := publish_ok h
    · exact .inl ⟨rfl, hnext⟩
    · refine .inr ⟨evidence, account, ?_, hevid, hacc, hnext⟩
      dsimp only
      rw [hevid]
      rfl

/-! ### The published evidence is a chain -/

theorem lookup_written (hevid : p.evidence = .ok evidence)
    (hprt : p.input.accountId ≠ "__proto__") (accountId : String) :
    (p.written account evidence state).publications.lookup accountId =
      if evidence.accountId = accountId then some evidence
      else state.publications.lookup accountId := by
  show (assign state.publications p.input.accountId evidence).lookup accountId = _
  unfold assign
  rw [if_neg hprt, Record.lookup_insert, evidence_accountId hevid]
  simp only [eq_comm]

/-- Another account is found as before. -/
theorem find?_written (hacn : account.accountId = p.input.accountId)
    (hoth : p.input.accountId ≠ accountId) :
    (p.written account evidence state).accounts.find? (fun account =>
      account.accountId = accountId) =
      state.accounts.find? (fun account => account.accountId = accountId) := by
  show (state.accounts.set (state.accounts.findIdx fun account =>
    account.accountId = p.input.accountId) (p.publishedAccount account)).find? _ = _
  have hpublished : (p.publishedAccount account).accountId ≠ accountId := by
    show account.accountId ≠ accountId
    rw [hacn]
    exact hoth
  induction state.accounts with
  | nil => rfl
  | cons head _ ih =>
    rw [List.findIdx_cons]
    by_cases hhead : head.accountId = p.input.accountId
    · rw [decide_eq_true hhead, cond_true, List.set_cons_zero,
        List.find?_cons_of_neg (by simpa using hpublished),
        List.find?_cons_of_neg (by simpa using hhead ▸ hoth)]
    · rw [decide_eq_false hhead, cond_false, List.set_cons_succ, List.find?_cons, List.find?_cons,
        ih]

theorem acceptedFor_cons (accountId : String) (p : Publication) (calls : List Publication)
    (state : CredentialState) : acceptedFor accountId (p :: calls) state =
      ((p.accepted state).toList.filter fun evidence => evidence.accountId = accountId) ++
        acceptedFor accountId calls (state.after p) := List.filter_append ..

section

variable (hprt : ∀ p ∈ calls, p.input.accountId ≠ "__proto__")

include hprt

theorem acceptedFor_chain :
    ((state.publications.lookup accountId).toList ++ acceptedFor accountId calls state).IsChain
      Succeeds := by
  induction calls generalizing state with
  | nil =>
    cases state.publications.lookup accountId with
    | none => exact .nil
    | some prior => exact .singleton prior
  | cons p _ ih =>
    have hrest := @ih (state.after p) fun q hq => hprt q (List.mem_cons_of_mem _ hq)
    rw [acceptedFor_cons]
    rcases call_cases p state with ⟨hno, haft⟩ |
      ⟨evidence, account, hacc, hevid, haccepts, haft⟩
    · rw [haft] at hrest ⊢
      rw [hno]
      exact hrest
    · rw [haft, lookup_written hevid (hprt p List.mem_cons_self)] at hrest
      rw [hacc, haft, Option.toList_some, List.filter_singleton]
      split_ifs at hrest with hown
      · rw [decide_eq_true hown, cond_true]
        cases hpri : state.publications.lookup accountId with
        | none => exact hrest
        | some prior =>
          rw [← hown] at hpri
          exact List.isChain_cons_cons.mpr ⟨haccepts.later prior hpri, hrest⟩
      · rw [decide_eq_false hown, cond_false]
        exact hrest

theorem lookup_publishAll : (publishAll calls state).1.publications.lookup accountId =
      (acceptedFor accountId calls state).getLast?.or (state.publications.lookup accountId) := by
  induction calls generalizing state with
  | nil => rfl
  | cons p _ ih =>
    have hrest := @ih (state.after p) fun q hq => hprt q (List.mem_cons_of_mem _ hq)
    rw [acceptedFor_cons, List.getLast?_append, Option.or_assoc]
    refine hrest.trans (congrArg _ ?_)
    rcases call_cases p state with ⟨hno, haft⟩ |
      ⟨evidence, account, hacc, hevid, -, haft⟩
    · rw [hno, haft]
      rfl
    · rw [hacc, haft, lookup_written hevid (hprt p List.mem_cons_self),
        Option.toList_some, List.filter_singleton]
      split_ifs with hown
      · rw [decide_eq_true hown]
        rfl
      · rw [decide_eq_false hown]
        rfl

theorem acceptedFor_first (hno : state.publications.lookup accountId = none)
    (hfst : (acceptedFor accountId calls state).head? = some evidence) :
    ∃ account, state.accounts.find? (fun account => account.accountId = accountId) = some account ∧
      evidence.generation = account.credentialGeneration + 1 := by
  induction calls generalizing state with
  | nil => cases hfst
  | cons p _ ih =>
    have hrest := @ih (state.after p) fun q hq => hprt q (List.mem_cons_of_mem _ hq)
    rw [acceptedFor_cons] at hfst
    rcases call_cases p state with ⟨hnth, haft⟩ |
      ⟨accepted, account, hacc, hevid, haccepts, haft⟩
    · rw [hnth, haft] at hfst
      rw [haft] at hrest
      exact hrest hno hfst
    · rw [hacc, Option.toList_some, List.filter_singleton] at hfst
      by_cases hown : accepted.accountId = accountId
      · rw [decide_eq_true hown] at hfst
        cases hfst
        rw [← hown] at hno
        exact ⟨account, hown ▸ haccepts.found, haccepts.first hno⟩
      · have hoth : p.input.accountId ≠ accountId := evidence_accountId hevid ▸ hown
        have hfd := List.find?_some haccepts.found
        have hacn : account.accountId = p.input.accountId :=
          (of_decide_eq_true hfd).trans (evidence_accountId hevid)
        rw [decide_eq_false hown] at hfst
        rw [haft, lookup_written hevid (hprt p List.mem_cons_self), if_neg hown,
          find?_written hacn hoth] at hrest
        rw [haft] at hfst
        exact hrest hno hfst

theorem publish_again
    (hmem : evidence ∈ (publishAll calls state).2) (hevid : p.evidence = .ok evidence)
    (h : p.publish (publishAll calls state).1 = .ok (outcome, next)) :
    outcome = .duplicate ∧ next = (publishAll calls state).1 := by
  obtain ⟨evidence', hevid', ⟨houtc, hnext, -⟩ | ⟨-, account, hacc, -⟩⟩ := publish_ok h
  · exact ⟨houtc, hnext⟩
  · rw [hevid] at hevid'
    cases hevid'
    have hown : evidence ∈ acceptedFor evidence.accountId calls state :=
      List.mem_filter.mpr ⟨hmem, decide_eq_true rfl⟩
    obtain ⟨last, hlast⟩ := Option.ne_none_iff_exists'.mp
      (mt List.getLast?_eq_none_iff.mp (List.ne_nil_of_mem hown))
    have hlat := hacc.later last (by rw [lookup_publishAll hprt, hlast]; rfl)
    have hchain : (acceptedFor evidence.accountId calls state).IsChain
        fun prior next => prior.generation < next.generation :=
      (acceptedFor_chain hprt).right_of_append.imp fun prior next h => by
        have hgen := h.1
        omega
    obtain ⟨before, hspl⟩ := List.getLast?_eq_some_iff.mp hlast
    have hpairwise := List.isChain_iff_pairwise.mp hchain
    rw [hspl, List.pairwise_append] at hpairwise
    rw [hspl] at hown
    have hle : evidence.generation ≤ last.generation := by
      rcases List.mem_append.mp hown with hbef | hlast
      · exact (hpairwise.2.2 evidence hbef last List.mem_cons_self).le
      · rw [List.mem_singleton.mp hlast]
    have hgen := hlat.1
    omega

end

/-- The active selection keeps its account, and has the fingerprint that was published last for
it. -/
theorem active_publishAll (calls : List Publication) (state : CredentialState) :
    (publishAll calls state).1.active = state.active.map fun active =>
      { active with
        fingerprint := ((acceptedFor active.accountId calls state).getLast?.map
          (·.fingerprint)).getD active.fingerprint } := by
  induction calls generalizing state with
  | nil => exact Option.map_id'.symm
  | cons p calls ih =>
    refine (ih (state.after p)).trans ?_
    rcases call_cases p state with ⟨hno, haft⟩ |
      ⟨evidence, account, hacc, hevid, -, haft⟩
    · rw [haft]
      refine congrArg (Option.map · state.active) (funext fun active => ?_)
      rw [acceptedFor_cons, hno, haft]
      rfl
    · have hactv : (state.after p).active = state.active.map fun active =>
          if active.accountId = p.input.accountId then
            { active with fingerprint := p.input.fingerprint }
          else active := by
        rw [haft]
        rfl
      obtain ⟨refreshedAt, hauthorization, -⟩ := evidence_ok hevid
      rw [hactv, Option.map_map]
      refine congrArg (Option.map · state.active) (funext fun active => ?_)
      dsimp only [Function.comp_apply]
      rw [acceptedFor_cons, hacc, Option.toList_some, List.filter_singleton,
        List.getLast?_append]
      split_ifs with hown
      · rw [decide_eq_true (by rw [evidence_accountId hevid, hown])]
        dsimp only
        cases (acceptedFor active.accountId calls (state.after p)).getLast? with
        | some last => rfl
        | none =>
          rw [hauthorization]
          rfl
      · rw [decide_eq_false (by rw [evidence_accountId hevid]; exact Ne.symm hown)]
        cases (acceptedFor active.accountId calls (state.after p)).getLast? <;> rfl

/-- **The published evidence of an account is a chain** whose last link is stored; accepted evidence
that is published again leaves the state; the active selection follows its account. -/
theorem publications_chain (state : CredentialState) (calls : List Publication)
    (hprt : ∀ p ∈ calls, p.input.accountId ≠ "__proto__") : (∀ accountId,
      ((state.publications.lookup accountId).toList ++ acceptedFor accountId calls state).IsChain
        Succeeds ∧
      (state.publications.lookup accountId = none →
        ∀ first, (acceptedFor accountId calls state).head? = some first →
          ∃ account, state.accounts.find? (fun account => account.accountId = accountId)
              = some account ∧ first.generation = account.credentialGeneration + 1) ∧
      (publishAll calls state).1.publications.lookup accountId =
        (acceptedFor accountId calls state).getLast?.or (state.publications.lookup accountId)) ∧
    (∀ evidence ∈ (publishAll calls state).2, ∀ (p : Publication) outcome next,
      p.evidence = .ok evidence → p.publish (publishAll calls state).1 = .ok (outcome, next) →
        outcome = .duplicate ∧ next = (publishAll calls state).1) ∧
    (publishAll calls state).1.active = state.active.map fun active =>
      { active with
        fingerprint := ((acceptedFor active.accountId calls state).getLast?.map
          (·.fingerprint)).getD active.fingerprint } := by
  refine ⟨fun accountId => ⟨acceptedFor_chain hprt, fun hno first hfst => ?_,
    lookup_publishAll hprt⟩, fun evidence hmem p outcome next hevid h => ?_,
    active_publishAll calls state⟩
  · exact acceptedFor_first hprt hno hfst
  · exact publish_again hprt hmem hevid h

def samplePublication (accountId : String) (generation : ℤ) (refreshedAt : String) :
    Publication where
  binding := ⟨⟨"scope", 1⟩, "owner", 1, accountId, "workspace", 0⟩
  identity := ⟨accountId, "workspace", "fingerprint", 0, 1000000⟩
  input := ⟨⟨"owner", 1, accountId, "workspace", generation, refreshedAt, "fingerprint", "access",
    "id",
    0, 1000000⟩, generation - 1⟩
  nowMs := 1000

def sampleCredentials (accountId : String) : CredentialState where
  scope := ⟨"scope", 1⟩
  sequence := 0
  accounts := [⟨accountId, "before", 0, 0, 0, 0, false, true, [], none⟩]
  active := none
  policies := .empty
  windows := .empty
  admissions := .empty
  publications := .empty

theorem publications_chain_two :
    ((acceptedFor "account" [samplePublication "account" 1 "100",
      samplePublication "account" 2 "200"]
      (sampleCredentials "account"))).IsChain Succeeds :=
  ((publications_chain (sampleCredentials "account") [samplePublication "account" 1 "100",
    samplePublication "account" 2 "200"] (by decide)).1 "account").1

/-- An account named `__proto__` publishes a credential that was refreshed before the last one. -/
theorem publications_proto : (acceptedFor "__proto__" [samplePublication "__proto__" 1 "200",
        samplePublication "__proto__" 2 "100"] (sampleCredentials "__proto__")).map
      (fun evidence => (evidence.generation, evidence.nativeRefreshedAtNs.bigInt)) =
        [(1, 200), (2, 100)] := by
  decide +kernel

end UbqGateway.Authority
