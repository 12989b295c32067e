import UbqGateway.Auth.Passkeys
import UbqGateway.Library.Schedule

/-!
# The passkey store is consistent

The handles, the users and the credentials name each other (`Consistent`).  A registration checks
the user and the handle that it writes, but not the credential: one that another user has is taken
away from it.
-/

namespace UbqGateway.Passkeys

/-! ### Consistent stores -/

section Views

variable (kv : PasskeyKv)

def userAt (userId : String) : Option PasskeyUserRecord := userOf (kv.get (.user userId))

/-- The user that a handle maps to. -/
def handleAt (handle : String) : Option String := handleOf (kv.get (.handle handle))

def credentialAt (credentialId : String) : Option PasskeyCredentialRecord :=
  credentialOf (kv.get (.credential credentialId))

def challengeAt (challenge : String) : Option PasskeyChallengeRecord :=
  challengeOf (kv.get (.challenge challenge))

/-- Handles, users and credentials name each other. -/
structure Consistent : Prop where
  handles : ∀ handle userId, handleAt kv handle = some userId →
    ∃ user, userAt kv userId = some user ∧ user.handle = handle
  users : ∀ userId user, userAt kv userId = some user →
    user.id = userId ∧ userId ≠ "" ∧ handleAt kv user.handle = some userId
  credentials : ∀ credentialId credential, credentialAt kv credentialId = some credential →
    ∃ user, userAt kv credential.userId = some user ∧ credentialId ∈ user.credentialIds
  listed : ∀ userId user, userAt kv userId = some user → ∀ credentialId ∈ user.credentialIds,
    ∃ credential, credentialAt kv credentialId = some credential ∧ credential.userId = userId

end Views

theorem consistent_empty : Consistent Kv.empty := ⟨nofun, nofun, nofun, nofun⟩

variable {kv : PasskeyKv}

theorem Consistent.untouched (h : Consistent kv)
    (huser : ∀ userId, userAt (kv.apply ws) userId = userAt kv userId)
    (handle : ∀ handle, handleAt (kv.apply ws) handle = handleAt kv handle)
    (hcrd : ∀ id, credentialAt (kv.apply ws) id = credentialAt kv id) :
    Consistent (kv.apply ws) where
  handles := by simpa only [huser, handle] using h.handles
  users := by simpa only [huser, handle] using h.users
  credentials := by simpa only [huser, hcrd] using h.credentials
  listed := by simpa only [huser, hcrd] using h.listed

/-! ### The steps -/

/-- What a commit can do. -/
inductive PasskeyStep (kv : PasskeyKv) : PasskeyLabel → List (Write PasskeyKey PasskeyValue) → Prop
  | saveChallenge (challenge : String) (record : PasskeyChallengeRecord) :
      PasskeyStep kv (.saveChallenge challenge) [.set (.challenge challenge) (.challenge record)]
  | consumeChallenge (challenge : String) (record : PasskeyChallengeRecord)
      (hin : challengeAt kv challenge = some record) :
      PasskeyStep kv (.consumeChallenge challenge) [.delete (.challenge challenge)]
  | dropChallenge (challenge : String) :
      PasskeyStep kv (.dropChallenge challenge) [.delete (.challenge challenge)]
  | session (token : String) (w : Write PasskeyKey PasskeyValue) (hkey : w.key = .session token) :
      PasskeyStep kv (.session token) [w]
  | register (input : SaveVerifiedPasskeyRegistrationInput) (createdAtMs : ℤ)
      (hname : input.userId ≠ "")
      (hown : ∀ userId, handleAt kv input.handle = some userId → userId = "" ∨
        userId = input.userId) :
      PasskeyStep kv (.register input.credentialId input.userId input.publicKey)
        (input.writes (userAt kv input.userId) createdAtMs)
  | signCount (credentialId : String) (credential : PasskeyCredentialRecord) (signCount : ℕ)
      (hin : credentialAt kv credentialId = some credential) :
      PasskeyStep kv (.signCount credentialId)
        [.set (.credential credentialId) (.credential { credential with signCount := signCount })]
  | adminUpdate (id : String) (user : PasskeyUserRecord) (isAdmin : Bool) (nowMs : ℤ)
      (hin : userAt kv id = some user) :
      PasskeyStep kv (.adminUpdate id)
        [.set (.user id) (.user { user with isAdmin := isAdmin, updatedAtMs := nowMs })]

/-- The credential of a registration is new, or it is the user's and has the same key. -/
def RegistersFree (kv : PasskeyKv) : PasskeyLabel → Prop
  | .register credentialId userId publicKey => ∀ credential ∈ credentialAt kv credentialId,
      credential.userId = userId ∧ credential.publicKey = publicKey
  | _ => True

instance (kv : PasskeyKv) : (label : PasskeyLabel) → Decidable (RegistersFree kv label)
  | .register credentialId userId publicKey => inferInstanceAs (Decidable
      (∀ credential ∈ credentialAt kv credentialId,
        credential.userId = userId ∧ credential.publicKey = publicKey))
  | .saveChallenge _ | .consumeChallenge _ | .dropChallenge _ | .signCount _ | .session _
  | .adminUpdate _ => isTrue trivial

/-! ### What a single write leaves -/

section Single

theorem get_apply_single (hoth : w.key ≠ key) : (kv.apply [w]).get key = kv.get key :=
  kv.get_apply_of_untouched (Kv.written_eq_none (List.forall_mem_singleton.mpr hoth))

theorem get_apply_set (key : PasskeyKey) (value : PasskeyValue) :
    (kv.apply [.set key value]).get key = some ⟨value, kv.stamp + 1⟩ := by
  rw [Kv.get_apply]
  simp [Kv.written]

theorem get_apply_delete (key : PasskeyKey) : (kv.apply [.delete key]).get key = none := by
  rw [Kv.get_apply]
  simp [Kv.written]

theorem Consistent.other (h : Consistent kv) (huser : ∀ userId, w.key ≠ .user userId)
    (handle : ∀ handle, w.key ≠ .handle handle) (hcrd : ∀ id, w.key ≠ .credential id) :
    Consistent (kv.apply [w]) :=
  h.untouched (fun userId => congrArg userOf (get_apply_single (huser userId)))
    (fun name => congrArg handleOf (get_apply_single (handle name)))
    fun id => congrArg credentialOf (get_apply_single (hcrd id))

end Single

/-- A login counts. -/
theorem Consistent.signCount (h : Consistent kv)
    (hin : credentialAt kv credentialId = some credential) (signCount : ℕ) : Consistent (kv.apply
      [.set (.credential credentialId) (.credential { credential with signCount := signCount })])
        := by
  have huser (userId : String) : userAt (kv.apply
      [.set (.credential credentialId) (.credential { credential with signCount := signCount })])
        userId
        = userAt kv userId := congrArg userOf (get_apply_single nofun)
  have handle (name : String) : handleAt (kv.apply
      [.set (.credential credentialId) (.credential { credential with signCount := signCount })])
        name
        = handleAt kv name := congrArg handleOf (get_apply_single nofun)
  have here : credentialAt (kv.apply
      [.set (.credential credentialId) (.credential { credential with signCount := signCount })])
        credentialId = some { credential with signCount := signCount } :=
    congrArg credentialOf (get_apply_set _ _)
  have hels (id : String) (hdiff : id ≠ credentialId) : credentialAt (kv.apply
      [.set (.credential credentialId) (.credential { credential with signCount := signCount })]) id
        = credentialAt kv id :=
    congrArg credentialOf (get_apply_single fun heq =>
      hdiff (PasskeyKey.credential.inj heq).symm)
  refine ⟨?_, ?_, ?_, ?_⟩
  · simpa only [huser, handle] using h.handles
  · simpa only [huser, handle] using h.users
  · intro id stored his
    rw [huser]
    by_cases heq : id = credentialId
    · subst heq
      rw [here] at his
      cases his
      exact h.credentials id credential hin
    · rw [hels id heq] at his
      exact h.credentials id stored his
  · intro userId stored his id hmem
    rw [huser] at his
    obtain ⟨listed, hfd, hnms⟩ := h.listed userId stored his id hmem
    by_cases heq : id = credentialId
    · subst heq
      rw [hin] at hfd
      cases hfd
      exact ⟨_, here, hnms⟩
    · exact ⟨listed, (hels id heq).trans hfd, hnms⟩

/-- An admin changes a user's rights. -/
theorem Consistent.adminUpdate (h : Consistent kv) {id : String} (hin : userAt kv id = some user)
    (isAdmin : Bool) (nowMs : ℤ) : Consistent (kv.apply
      [.set (.user id) (.user { user with isAdmin := isAdmin, updatedAtMs := nowMs })]) := by
  have handle (name : String) : handleAt (kv.apply
      [.set (.user id) (.user { user with isAdmin := isAdmin, updatedAtMs := nowMs })]) name
        = handleAt kv name := congrArg handleOf (get_apply_single nofun)
  have hcrd (credentialId : String) : credentialAt (kv.apply
      [.set (.user id) (.user { user with isAdmin := isAdmin, updatedAtMs := nowMs })]) credentialId
        = credentialAt kv credentialId := congrArg credentialOf (get_apply_single nofun)
  have here : userAt (kv.apply
      [.set (.user id) (.user { user with isAdmin := isAdmin, updatedAtMs := nowMs })]) id
        = some { user with isAdmin := isAdmin, updatedAtMs := nowMs } :=
    congrArg userOf (get_apply_set _ _)
  have hels (userId : String) (hdiff : userId ≠ id) : userAt (kv.apply
      [.set (.user id) (.user { user with isAdmin := isAdmin, updatedAtMs := nowMs })]) userId
        = userAt kv userId :=
    congrArg userOf (get_apply_single fun heq => hdiff (PasskeyKey.user.inj heq).symm)
  -- a user that is read keeps its handle and its credentials
  have hforward (userId : String) (stored : PasskeyUserRecord)
    (his : userAt kv userId = some stored) :
      ∃ stored', userAt (kv.apply
        [.set (.user id) (.user { user with isAdmin := isAdmin, updatedAtMs := nowMs })]) userId
          = some stored' ∧ stored'.handle = stored.handle ∧
        stored'.credentialIds = stored.credentialIds := by
    by_cases heq : userId = id
    · subst heq
      rw [hin] at his
      cases his
      exact ⟨_, here, rfl, rfl⟩
    · exact ⟨stored, (hels userId heq).trans his, rfl, rfl⟩
  have hbackward (userId : String) (stored' : PasskeyUserRecord) (his : userAt (kv.apply
      [.set (.user id) (.user { user with isAdmin := isAdmin, updatedAtMs := nowMs })]) userId
        = some stored') :
      ∃ stored, userAt kv userId = some stored ∧ stored'.id = stored.id ∧
        stored'.handle = stored.handle ∧ stored'.credentialIds = stored.credentialIds := by
    by_cases heq : userId = id
    · subst heq
      rw [here] at his
      cases his
      exact ⟨user, hin, rfl, rfl, rfl⟩
    · exact ⟨stored', (hels userId heq).symm.trans his, rfl, rfl, rfl⟩
  refine ⟨?_, ?_, ?_, ?_⟩
  · intro name userId his
    rw [handle] at his
    obtain ⟨stored, hfd, hnms⟩ := h.handles name userId his
    obtain ⟨stored', hfd', heq, -⟩ := hforward userId stored hfd
    exact ⟨stored', hfd', heq.trans hnms⟩
  · intro userId stored' his
    obtain ⟨stored, hfd, hsameId, hsameHandle, -⟩ := hbackward userId stored' his
    rw [hsameId, hsameHandle, handle]
    exact h.users userId stored hfd
  · intro credentialId stored his
    rw [hcrd] at his
    obtain ⟨owner, hfd, hmem⟩ := h.credentials credentialId stored his
    obtain ⟨owner', hfd', -, heq⟩ := hforward _ owner hfd
    exact ⟨owner', hfd', by rwa [heq]⟩
  · intro userId stored' his credentialId hmem
    obtain ⟨stored, hfd, -, -, heq⟩ := hbackward userId stored' his
    rw [heq] at hmem
    rw [hcrd]
    exact h.listed userId stored hfd credentialId hmem

/-! ### A registration -/

section Register

open SaveVerifiedPasskeyRegistrationInput

theorem mem_foldl_unique {ids seen : List String} {id : String} :
    id ∈ ids.foldl (fun seen id => if id ∈ seen then seen else seen ++ [id]) seen ↔ id ∈ seen ∨
      id ∈ ids := by
  induction ids generalizing seen with
  | nil => simp
  | cons _ _ ih =>
    rw [List.foldl_cons, ih]
    split_ifs with hkn
    · rw [List.mem_cons]
      constructor
      · rintro (hmem | hmem)
        · exact .inl hmem
        · exact .inr (.inr hmem)
      · rintro (hmem | rfl | hmem)
        · exact .inl hmem
        · exact .inl hkn
        · exact .inr hmem
    · rw [List.mem_append, List.mem_singleton, List.mem_cons, or_assoc]

theorem mem_withCredential {ids : List String} {id new : String} :
    id ∈ withCredential ids new ↔ id ∈ ids ∨ id = new := by
  unfold withCredential
  rw [mem_foldl_unique, List.mem_append, List.mem_singleton]
  simp

variable (input : SaveVerifiedPasskeyRegistrationInput) (createdAtMs : ℤ)

/-- The user that a registration leaves. -/
def registeredUser (kv : PasskeyKv) : PasskeyUserRecord :=
  input.userRecord (userAt kv input.userId) createdAtMs

variable {input createdAtMs}

theorem registeredUser_handle : (registeredUser input createdAtMs kv).handle = input.handle := by
  unfold registeredUser userRecord
  cases userAt kv input.userId <;> rfl

theorem registeredUser_id (h : Consistent kv) :
    (registeredUser input createdAtMs kv).id = input.userId := by
  unfold registeredUser userRecord
  cases his : userAt kv input.userId with
  | none => rfl
  | some existing => exact (h.users _ existing his).1

theorem mem_registeredUser {id : String} :
    id ∈ (registeredUser input createdAtMs kv).credentialIds ↔
      (∃ existing, userAt kv input.userId = some existing ∧ id ∈ existing.credentialIds) ∨
        id = input.credentialId := by
  unfold registeredUser userRecord
  cases userAt kv input.userId with
  | none => simp
  | some existing => simp [mem_withCredential]

section

variable (h : Consistent kv)

include h

theorem writes_eq : input.writes (userAt kv input.userId) createdAtMs =
    [.set (.user input.userId) (.user (registeredUser input createdAtMs kv)),
      .set (.handle input.handle) (.handle input.userId),
      .set (.credential input.credentialId) (.credential (input.credentialRecord createdAtMs))] ++
    ((input.formerHandle (userAt kv input.userId)).map fun name =>
      Write.delete (.handle name)).toList := by
  have hid : (registeredUser input createdAtMs kv).id = input.userId := registeredUser_id h
  unfold registeredUser at hid
  dsimp only [writes]
  rw [hid]
  rfl

theorem userAt_register (userId : String) :
    userAt (kv.apply (input.writes (userAt kv input.userId) createdAtMs)) userId
      = if userId = input.userId then some (registeredUser input createdAtMs kv)
        else userAt kv userId := by
  rw [writes_eq h, userAt, Kv.get_apply]
  split_ifs with heq
  · rw [← heq]
    cases input.formerHandle (userAt kv userId) <;> simp [Kv.written, userOf]
  · cases input.formerHandle (userAt kv input.userId) <;> simp [Kv.written, Ne.symm heq, userAt]

theorem handleAt_register (name : String) :
    handleAt (kv.apply (input.writes (userAt kv input.userId) createdAtMs)) name
      = if name = input.handle then some input.userId
        else if input.formerHandle (userAt kv input.userId) = some name then none
          else handleAt kv name := by
  have hkept : input.formerHandle (userAt kv input.userId) ≠ some input.handle := by
    intro hfmr
    obtain ⟨existing, his, heq⟩ := Option.map_eq_some_iff.mp hfmr
    exact of_decide_eq_true (Option.filter_eq_some_iff.mp his).2 heq
  rw [writes_eq h, handleAt, Kv.get_apply]
  by_cases heq : name = input.handle
  · rw [if_pos heq]
    subst heq
    cases hfmr : input.formerHandle (userAt kv input.userId) with
    | none => simp [Kv.written, handleOf]
    | some other =>
      have hdiff : other ≠ input.handle := fun his => hkept (hfmr.trans (congrArg some his))
      simp [Kv.written, handleOf, hdiff]
  · rw [if_neg heq]
    cases hfmr : input.formerHandle (userAt kv input.userId) with
    | none => simp [Kv.written, Ne.symm heq, handleAt]
    | some other =>
      by_cases his : other = name
      · simp [Kv.written, his, handleOf]
      · simp [Kv.written, Ne.symm heq, his, handleAt]

theorem credentialAt_register (id : String) :
    credentialAt (kv.apply (input.writes (userAt kv input.userId) createdAtMs)) id
      = if id = input.credentialId then some (input.credentialRecord createdAtMs)
        else credentialAt kv id := by
  rw [writes_eq h, credentialAt, Kv.get_apply]
  split_ifs with heq
  · rw [← heq]
    cases input.formerHandle (userAt kv input.userId) <;> simp [Kv.written, credentialOf, heq]
  · cases input.formerHandle (userAt kv input.userId) <;> simp [Kv.written, Ne.symm heq,
      credentialAt]

/-- **A registration** of a credential that is new, or that is the user's. -/
theorem Consistent.register (hname : input.userId ≠ "")
    (hown : ∀ userId, handleAt kv input.handle = some userId → userId = "" ∨ userId = input.userId)
    (hfree : ∀ credential, credentialAt kv input.credentialId = some credential →
      credential.userId = input.userId) :
    Consistent (kv.apply (input.writes (userAt kv input.userId) createdAtMs)) where
  handles := by
    intro name userId his
    rw [handleAt_register h] at his
    rw [userAt_register h]
    split_ifs at his with hnew hfmr
    · cases his
      rw [if_pos rfl]
      exact ⟨_, rfl, registeredUser_handle.trans hnew.symm⟩
    · obtain ⟨user, hfd, hnms⟩ := h.handles name userId his
      by_cases heq : userId = input.userId
      · -- the handle would be the one that the user had before
        subst heq
        refine absurd ?_ hfmr
        unfold formerHandle
        rw [hfd, Option.filter_some, decide_eq_true (hnms ▸ hnew)]
        exact congrArg some hnms
      · rw [if_neg heq]
        exact ⟨user, hfd, hnms⟩
  users := by
    intro userId user his
    rw [userAt_register h] at his
    rw [handleAt_register h]
    split_ifs at his with heq
    · cases his
      rw [if_pos registeredUser_handle, heq]
      exact ⟨registeredUser_id h, hname, rfl⟩
    · obtain ⟨hid, hsome, hmaps⟩ := h.users userId user his
      refine ⟨hid, hsome, ?_⟩
      have hoth : user.handle ≠ input.handle := by
        intro htkn
        rw [htkn] at hmaps
        rcases hown userId hmaps with hemp | hmine
        · exact hsome hemp
        · exact heq hmine
      rw [if_neg hoth, if_neg]
      · exact hmaps
      · intro hfmr
        obtain ⟨existing, hfd, htkn⟩ := Option.map_eq_some_iff.mp hfmr
        have hexi' := (h.users _ _ (Option.filter_eq_some_iff.mp hfd).1).2.2
        rw [htkn, hmaps] at hexi'
        exact heq (Option.some.inj hexi')
  credentials := by
    intro id credential his
    rw [credentialAt_register h] at his
    split_ifs at his with hnew
    · cases his
      rw [userAt_register h]
      exact ⟨_, if_pos rfl, mem_registeredUser.mpr (.inr hnew)⟩
    · obtain ⟨user, hfd, hmem⟩ := h.credentials id credential his
      rw [userAt_register h]
      split_ifs with heq
      · rw [heq] at hfd
        exact ⟨_, rfl, mem_registeredUser.mpr (.inl ⟨user, hfd, hmem⟩)⟩
      · exact ⟨user, hfd, hmem⟩
  listed := by
    intro userId user his id hmem
    rw [userAt_register h] at his
    rw [credentialAt_register h]
    split_ifs with hnew
    · refine ⟨_, rfl, ?_⟩
      split_ifs at his with heq
      · exact heq.symm
      · -- another user lists the credential, which the condition excludes
        obtain ⟨credential, hfd, hnms⟩ := h.listed userId user his id hmem
        rw [hnew] at hfd
        exact absurd (hnms.symm.trans (hfree credential hfd)) heq
    · split_ifs at his with heq
      · cases his
        rcases mem_registeredUser.mp hmem with ⟨existing, hfd, hlst⟩ | here
        · obtain ⟨credential, hst, hnms⟩ := h.listed _ existing hfd id hlst
          exact ⟨credential, hst, hnms.trans heq.symm⟩
        · exact absurd here hnew
      · exact h.listed userId user his id hmem

end

end Register

/-! ### What a step keeps -/

section

variable (hstep : PasskeyStep kv label ws) (h : Consistent kv)

include hstep h

/-- **Every step keeps the store consistent**, as long as registrations are free. -/
theorem PasskeyStep.consistent (hfree : RegistersFree kv label) : Consistent (kv.apply ws) := by
  cases hstep with
  | saveChallenge | consumeChallenge | dropChallenge => exact h.other nofun nofun nofun
  | session _ _ hkey =>
    refine h.other ?_ ?_ ?_
    · intro userId heq
      cases hkey.symm.trans heq
    · intro name heq
      cases hkey.symm.trans heq
    · intro id heq
      cases hkey.symm.trans heq
  | register _ _ hname hown =>
    exact h.register hname hown fun credential hfd => (hfree credential hfd).1
  | signCount _ _ signCount hin => exact h.signCount hin signCount
  | adminUpdate _ _ isAdmin nowMs hin => exact h.adminUpdate hin isAdmin nowMs

/-- A credential keeps its user and its key. -/
theorem PasskeyStep.credential (hfree : RegistersFree kv label) {id : String}
    {credential : PasskeyCredentialRecord} (his : credentialAt kv id = some credential) :
    ∃ credential', credentialAt (kv.apply ws) id = some credential' ∧
      credential'.userId = credential.userId ∧ credential'.publicKey = credential.publicKey := by
  have hkept {w : Write PasskeyKey PasskeyValue} (hoth : w.key ≠ .credential id) :
      ∃ credential', credentialAt (kv.apply [w]) id = some credential' ∧
        credential'.userId = credential.userId ∧ credential'.publicKey = credential.publicKey :=
    ⟨credential, (congrArg credentialOf (get_apply_single hoth)).trans his, rfl, rfl⟩
  cases hstep with
  | saveChallenge | consumeChallenge | dropChallenge | adminUpdate => exact hkept nofun
  | session _ _ hkey => exact hkept (hkey ▸ nofun)
  | register input =>
    rw [credentialAt_register h]
    by_cases heq : id = input.credentialId
    · subst heq
      rw [if_pos rfl]
      obtain ⟨huser, hkey⟩ := hfree credential his
      exact ⟨_, rfl, huser.symm, hkey.symm⟩
    · rw [if_neg heq]
      exact ⟨credential, his, rfl, rfl⟩
  | signCount credentialId _ _ hin =>
    by_cases heq : credentialId = id
    · subst heq
      rw [hin] at his
      cases his
      exact ⟨_, congrArg credentialOf (get_apply_set _ _), rfl, rfl⟩
    · exact hkept fun hkey => heq (PasskeyKey.credential.inj hkey)

/-- A user keeps its rights unless an admin changes them. -/
theorem PasskeyStep.user {user : PasskeyUserRecord} (his : userAt kv userId = some user) :
    ∃ user', userAt (kv.apply ws) userId = some user' ∧
      (label ≠ .adminUpdate userId → user'.isAdmin = user.isAdmin) := by
  have hkept {w : Write PasskeyKey PasskeyValue} (hoth : w.key ≠ .user userId) :
      ∃ user', userAt (kv.apply [w]) userId = some user' ∧
        (label ≠ .adminUpdate userId → user'.isAdmin = user.isAdmin) :=
    ⟨user, (congrArg userOf (get_apply_single hoth)).trans his, fun _ => rfl⟩
  cases hstep with
  | saveChallenge | consumeChallenge | dropChallenge | signCount => exact hkept nofun
  | session _ _ hkey => exact hkept (hkey ▸ nofun)
  | register input =>
    rw [userAt_register h]
    by_cases heq : userId = input.userId
    · subst heq
      rw [if_pos rfl]
      refine ⟨_, rfl, fun _ => ?_⟩
      unfold registeredUser SaveVerifiedPasskeyRegistrationInput.userRecord
      rw [his]
    · rw [if_neg heq]
      exact ⟨user, his, fun _ => rfl⟩
  | adminUpdate id =>
    by_cases heq : id = userId
    · subst heq
      exact ⟨_, congrArg userOf (get_apply_set _ _), fun hoth => absurd rfl hoth⟩
    · exact hkept fun hkey => heq (PasskeyKey.user.inj hkey)

end

/-! ### The programs -/

section Programs

/-- The runs whose commits are steps. -/
abbrev PasskeyRun (I : PasskeyKv → Prop) : World PasskeyKey PasskeyValue PasskeyLabel → Prop :=
  Run I fun w label ws => PasskeyStep w.store label ws

/-- A program all of whose commits are steps. -/
abbrev PasskeySafe {α : Type} (clockOk : ℤ → ℤ → Prop) (p : PasskeyM α)
    (w : World PasskeyKey PasskeyValue PasskeyLabel) : Prop :=
  Wp clockOk (fun _ => True) (fun w label ws => PasskeyStep w.store label ws) (fun _ _ => True) p w

theorem PasskeySafe.bind (h : PasskeySafe clockOk p w) (hf : ∀ a v, PasskeySafe clockOk (f a) v) :
    PasskeySafe clockOk (p >>= f) w :=
  Wp.bind (Wp.mono (fun v a _ => hf a v) h)

theorem PasskeySafe.pure (a : α) : PasskeySafe clockOk (pure a) w := trivial

theorem getUserByHandle_safe (handle : String) :
    PasskeySafe clockOk (getUserByHandle handle) w := by
  refine Wp.get_bind fun v _ _ userIdEntry _ => ?_
  cases handleOf userIdEntry with
  | none => trivial
  | some userId =>
    dsimp only
    split_ifs with hemp
    · trivial
    · exact Wp.get_bind fun _ _ _ _ _ => trivial

theorem saveChallenge_safe (input : PasskeyChallengeRecord) :
    PasskeySafe clockOk (saveChallenge input) w := by
  refine Wp.clock_bind fun v _ _ createdAtMs _ => ?_
  exact Wp.write_bind fun v' _ _ => ⟨.saveChallenge _ _, trivial⟩

theorem consumeChallenge_safe (challenge : String) :
    PasskeySafe clockOk (consumeChallenge challenge) w := by
  refine Wp.get_bind fun v _ _ entry hread => ?_
  cases his : challengeOf entry with
  | none => trivial
  | some record =>
    refine Wp.clock_bind fun v' hle _ nowMs _ => ?_
    split_ifs with hexp
    · exact Wp.transaction_bind (fun _ _ _ _ => ⟨.dropChallenge challenge, trivial⟩) fun _ _ _ =>
        trivial
    · refine Wp.transaction_bind (fun v'' hle' hv hpss => ⟨?_, trivial⟩) fun _ _ _ => trivial
      have hcur : v''.store.get (.challenge challenge) = entry :=
        (hread.mono hle).get_eq hle' hv (hpss _ List.mem_cons_self)
      refine .consumeChallenge challenge record ?_
      rw [challengeAt, hcur, his]

theorem createSession_safe (token userId : String) (audienceOrigin : Option String) :
    PasskeySafe clockOk (createSession token userId audienceOrigin) w := by
  refine Wp.clock_bind fun v _ _ createdAtMs _ => ?_
  exact Wp.write_bind fun v' _ _ => ⟨.session token _ rfl, trivial⟩

theorem getPasskeySession_safe (token : String) :
    PasskeySafe clockOk (getPasskeySession token) w := by
  refine Wp.get_bind fun v _ _ sessionEntry _ => ?_
  cases sessionOf sessionEntry with
  | none => trivial
  | some session =>
    refine Wp.clock_bind fun v' _ _ nowMs _ => ?_
    split_ifs with hexp
    · exact Wp.transaction_bind (fun _ _ _ _ => ⟨.session token _ rfl, trivial⟩) fun _ _ _ =>
        trivial
    · exact Wp.get_bind fun _ _ _ _ _ => trivial

variable (rt : PasskeyRuntime)

theorem handlePasskeyRegisterStart_safe (request : RegisterStart) :
    PasskeySafe clockOk (handlePasskeyRegisterStart rt request) w := by
  have hses : PasskeySafe clockOk (existingSessionUser request) w := by
    unfold existingSessionUser
    split_ifs
    · exact PasskeySafe.pure _
    · exact PasskeySafe.bind (getPasskeySession_safe request.token) fun _ _ => PasskeySafe.pure _
  have huser (handle : String) (v : World PasskeyKey PasskeyValue PasskeyLabel) :
      PasskeySafe clockOk (userOfHandle handle) v := by
    unfold userOfHandle
    split_ifs
    · exact PasskeySafe.pure _
    · exact getUserByHandle_safe handle
  refine PasskeySafe.bind hses fun existingSession v => ?_
  generalize rt.normalizePasskeyHandle request.handle = requestedHandle
  generalize rt.tokenHandle request.token = tokenHandle
  dsimp only
  split_ifs with href
  · exact PasskeySafe.pure _
  refine PasskeySafe.bind (huser _ v) fun requestedUser v => ?_
  refine PasskeySafe.bind (huser _ v) fun tokenUser v => ?_
  split_ifs with htkn hunnamed
  · exact PasskeySafe.pure _
  · exact PasskeySafe.pure _
  · exact PasskeySafe.bind (saveChallenge_safe _) fun _ _ => PasskeySafe.pure _

theorem saveVerifiedPasskeyRegistration_safe {input : SaveVerifiedPasskeyRegistrationInput}
    (hname : input.userId ≠ "") : PasskeySafe clockOk
      (saveVerifiedPasskeyRegistration input) w := by
  refine Wp.get_bind fun v _ _ handleEntry hreadHandle => ?_
  split_ifs with htkn
  · exact PasskeySafe.pure _
  refine Wp.clock_bind fun v' hle _ createdAtMs _ => ?_
  refine Wp.get_bind fun v'' hle' _ existingUserEntry hreadUser => ?_
  refine Wp.transaction_bind (fun v₃ hle'' hv hpss => ⟨?_, trivial⟩) fun _ _ _ => trivial
  have huser : v₃.store.get (.user input.userId) = existingUserEntry :=
    hreadUser.get_eq hle'' hv (hpss _ List.mem_cons_self)
  have handle : v₃.store.get (.handle input.handle) = handleEntry :=
    hreadHandle.get_eq ((hle.trans hle').trans hle'') hv
      (hpss _ (List.mem_cons_of_mem _ List.mem_cons_self))
  have heq : userOf existingUserEntry = userAt v₃.store input.userId := by rw [userAt, huser]
  rw [heq]
  refine .register input createdAtMs hname ?_
  intro userId hmaps
  rw [handleAt, handle] at hmaps
  rw [hmaps] at htkn
  by_contra hoth
  rw [not_or] at hoth
  exact htkn (decide_eq_true hoth)

/-- The end of a registration commits steps only. -/
theorem handlePasskeyRegisterFinish_safe (challenge : Option String)
    (verify : PasskeyChallengeRecord → Option RegistrationInfo) (token : String) :
    PasskeySafe clockOk (handlePasskeyRegisterFinish rt challenge verify token) w := by
  unfold handlePasskeyRegisterFinish
  cases challenge with
  | none => exact PasskeySafe.pure _
  | some challenge =>
    dsimp only
    split_ifs with hemp
    · exact PasskeySafe.pure _
    refine PasskeySafe.bind (consumeChallenge_safe challenge) fun record v => ?_
    cases record with
    | none => exact PasskeySafe.pure _
    | some record =>
      by_cases href : record.type ≠ .registration ∨ record.userId.getD "" = ""
      · dsimp only
        rw [if_pos href]
        exact PasskeySafe.pure _
      dsimp only
      rw [if_neg href]
      cases verify record with
      | none => exact PasskeySafe.pure _
      | some info =>
        dsimp only
        generalize rt.normalizePasskeyHandle record.handle = handle
        split_ifs with hunnamed
        · exact PasskeySafe.pure _
        have hname : record.userId.getD "" ≠ "" := fun hno => href (.inr hno)
        refine PasskeySafe.bind (saveVerifiedPasskeyRegistration_safe hname) fun saved v' => ?_
        cases saved with
        | error response => exact PasskeySafe.pure _
        | ok user => exact PasskeySafe.bind (createSession_safe token user.id none) fun _ _ =>
          PasskeySafe.pure _

/-- The end of a login commits steps only. -/
theorem handlePasskeyLoginFinish_safe (credentialId : String) (challenge : Option String)
    (verify : PasskeyChallengeRecord → PasskeyCredentialRecord → PasskeyUserRecord → Option ℕ)
    (token : String) : PasskeySafe clockOk
      (handlePasskeyLoginFinish credentialId challenge verify token) w := by
  unfold handlePasskeyLoginFinish
  cases challenge with
  | none => trivial
  | some challenge =>
    dsimp only
    split_ifs with hemp
    · trivial
    refine PasskeySafe.bind (consumeChallenge_safe challenge) fun record v => ?_
    cases record with
    | none => trivial
    | some record =>
      dsimp only
      split_ifs with href
      · trivial
      refine Wp.get_bind fun v₁ _ _ credentialEntry hread => ?_
      cases his : credentialOf credentialEntry with
      | none => trivial
      | some credential =>
        refine Wp.get_bind fun v₂ hle _ userEntry _ => ?_
        cases userOf userEntry with
        | none => trivial
        | some user =>
          dsimp only
          cases verify record credential user with
          | none => trivial
          | some newCounter =>
            refine Wp.transaction_bind (fun v₃ hle' hv hpss => ⟨?_, ?_⟩) fun _ _ _ => trivial
            · have hcur : v₃.store.get (.credential credentialId) = credentialEntry :=
                (hread.mono hle).get_eq hle' hv (hpss _ List.mem_cons_self)
              refine .signCount credentialId credential newCounter ?_
              rw [credentialAt, hcur, his]
            · exact PasskeySafe.bind
                (createSession_safe token credential.userId record.audienceOrigin)
                fun _ _ => trivial

theorem handlePasskeyUsersUpdate_safe (id : String) (isAdmin : Bool) :
    PasskeySafe clockOk (handlePasskeyUsersUpdate id isAdmin) w := by
  refine Wp.get_bind fun v _ _ entry hread => ?_
  cases his : userOf entry with
  | none => trivial
  | some user =>
    refine Wp.clock_bind fun v' hle _ nowMs _ => ?_
    refine Wp.transaction_bind (fun v'' hle' hv hpss => ⟨?_, trivial⟩) fun _ _ _ => trivial
    have hcur : v''.store.get (.user id) = entry :=
      (hread.mono hle).get_eq hle' hv (hpss _ List.mem_cons_self)
    refine .adminUpdate id user isAdmin nowMs ?_
    rw [userAt, hcur, his]

theorem passkeyPrograms_safe :
    ∀ p ∈ passkeyPrograms rt, ∀ w, PasskeyRun (fun _ => True) w → PasskeySafe clockOk p w := by
  rintro _ ⟨call, rfl⟩ w -
  cases call with
  | registerStart request => exact handlePasskeyRegisterStart_safe rt request
  | registerFinish challenge verify token =>
    exact handlePasskeyRegisterFinish_safe rt challenge verify token
  | loginStart =>
    exact PasskeySafe.bind (saveChallenge_safe _) fun _ _ => trivial
  | loginFinish credentialId challenge verify token =>
    exact handlePasskeyLoginFinish_safe credentialId challenge verify token
  | usersUpdate id isAdmin => exact handlePasskeyUsersUpdate_safe id isAdmin
  | challengeExpires challenge =>
    exact Wp.write_bind fun v _ _ => ⟨.dropChallenge challenge, trivial⟩
  | sessionExpires token => exact Wp.write_bind fun v _ _ => ⟨.session token _ rfl, trivial⟩

end Programs

/-! ### Runs -/

section Runs

/-- How often a label occurs in a history. -/
def occurrences (label : PasskeyLabel)
    (events : List (Event PasskeyKey PasskeyValue PasskeyLabel)) : ℕ :=
  events.countP fun e => decide (e.label = label)

/-- A commit consumes a challenge only if it is stored. -/
theorem PasskeyStep.challenge (hstep : PasskeyStep kv label ws) (challenge : String) :
    (decide (label = .consumeChallenge challenge)).toNat
        + (challengeAt (kv.apply ws) challenge).isSome.toNat
      ≤ (decide (label = .saveChallenge challenge)).toNat
        + (challengeAt kv challenge).isSome.toNat := by
  have hkept {w : Write PasskeyKey PasskeyValue} (hoth : w.key ≠ .challenge challenge) :
      challengeAt (kv.apply [w]) challenge = challengeAt kv challenge :=
    congrArg challengeOf (get_apply_single hoth)
  have hels {text : String} (hdiff : text ≠ challenge) :
      PasskeyKey.challenge text ≠ .challenge challenge := fun heq =>
        hdiff (PasskeyKey.challenge.inj heq)
  have hgone : challengeAt (kv.apply [.delete (.challenge challenge)]) challenge = none :=
    congrArg challengeOf (get_apply_delete _)
  cases hstep with
  | saveChallenge text record =>
    by_cases heq : text = challenge
    · subst heq
      have hin := Bool.toNat_le (challengeAt (kv.apply
        [.set (.challenge text) (.challenge record)]) text).isSome
      simp
      omega
    · rw [hkept (w := .set (.challenge text) (.challenge record)) (hels heq)]
      simp [heq]
  | consumeChallenge text _ hin =>
    by_cases heq : text = challenge
    · subst heq
      rw [hgone, hin]
      simp
    · rw [hkept (w := .delete (.challenge text)) (hels heq)]
      simp [heq]
  | dropChallenge text =>
    by_cases heq : text = challenge
    · subst heq
      rw [hgone]
      simp
    · rw [hkept (w := .delete (.challenge text)) (hels heq)]
      simp
  | session _ _ hkey =>
    rw [hkept (hkey ▸ nofun)]
    simp
  | register input createdAtMs =>
    have huntouched : challengeAt (kv.apply (input.writes (userAt kv input.userId) createdAtMs))
      challenge
        = challengeAt kv challenge := by
      refine congrArg challengeOf (kv.get_apply_of_untouched (Kv.written_eq_none fun write hmem =>
        ?_))
      dsimp only [SaveVerifiedPasskeyRegistrationInput.writes] at hmem
      rw [List.mem_append] at hmem
      rcases hmem with hmem | hmem
      · simp only [List.mem_cons, List.not_mem_nil, or_false] at hmem
        rcases hmem with rfl | rfl | rfl <;> exact nofun
      · rw [Option.mem_toList] at hmem
        obtain ⟨name, -, rfl⟩ := Option.map_eq_some_iff.mp hmem
        exact nofun
    rw [huntouched]
    simp
  | signCount credentialId stored signCount =>
    rw [hkept (w := .set (.credential credentialId)
      (.credential { stored with signCount := signCount })) nofun]
    simp
  | adminUpdate id stored isAdmin nowMs =>
    rw [hkept (w := .set (.user id)
      (.user { stored with isAdmin := isAdmin, updatedAtMs := nowMs })) nofun]
    simp

/-- A challenge is consumed at most as often as it was saved. -/
theorem consumed_le_saved (hw : PasskeyRun I w) (challenge : String) :
    occurrences (.consumeChallenge challenge) w.events
      + (challengeAt w.store challenge).isSome.toNat
      ≤ occurrences (.saveChallenge challenge) w.events
        + (challengeAt w.init challenge).isSome.toNat := by
  induction hw with
  | start => exact le_rfl
  | advance _ _ _ _ ih => exact ih
  | commit w label ws _ hstep =>
    have hone := hstep.challenge challenge
    have hcsm : occurrences (.consumeChallenge challenge) (w.commit label ws).events
        = occurrences (.consumeChallenge challenge) w.events
          + (decide (label = .consumeChallenge challenge)).toNat := by
      unfold occurrences World.commit
      rw [List.countP_cons]
      by_cases his : label = .consumeChallenge challenge <;> simp [his]
    have hsaved : occurrences (.saveChallenge challenge) (w.commit label ws).events
        = occurrences (.saveChallenge challenge) w.events
          + (decide (label = .saveChallenge challenge)).toNat := by
      unfold occurrences World.commit
      rw [List.countP_cons]
      by_cases his : label = .saveChallenge challenge <;> simp [his]
    rw [hcsm, hsaved]
    show _ + (challengeAt (w.store.apply ws) challenge).isSome.toNat
      ≤ _ + (challengeAt w.init challenge).isSome.toNat
    omega

theorem PasskeyRun.consistent
    (hw : Run Consistent (fun w label ws => PasskeyStep w.store label ws ∧
      RegistersFree w.store label) w) :
    Consistent w.store := by
  induction hw with
  | start _ _ hI => exact hI
  | advance _ _ _ _ ih => exact ih
  | commit _ _ _ _ hstep ih => exact hstep.1.consistent ih hstep.2

/-- **The passkey store stays consistent** under registrations of credentials that are new, or the
user's with the same key.  Then no credential changes its user or its key, only an admin update
changes who is an admin, and no challenge is consumed more often than it was saved. -/
theorem passkeys_consistent {clockOk : ℤ → ℤ → Prop} (rt : PasskeyRuntime) {kv₀ : PasskeyKv}
    (hstr : Consistent kv₀) {s : System PasskeyKey PasskeyValue PasskeyLabel PasskeyReply}
    (hs : Reachable clockOk (passkeyPrograms rt) kv₀ s)
    (hfree : ∀ kv label kv', s.world.Committed kv label kv' → RegistersFree kv label) :
    Consistent s.world.store ∧
    (∀ kv label kv', s.world.Committed kv label kv' →
      (∀ id credential, credentialAt kv id = some credential →
        ∃ credential', credentialAt kv' id = some credential' ∧
          credential'.userId = credential.userId ∧ credential'.publicKey = credential.publicKey) ∧
      ∀ userId user, userAt kv userId = some user →
        ∃ user', userAt kv' userId = some user' ∧
          (label ≠ .adminUpdate userId → user'.isAdmin = user.isAdmin)) ∧
    ∀ challenge, occurrences (.consumeChallenge challenge) s.world.events
      ≤ occurrences (.saveChallenge challenge) s.world.events
        + (challengeAt kv₀ challenge).isSome.toNat := by
  have hrun : PasskeyRun (fun _ => True) s.world :=
    Reachable.run trivial (passkeyPrograms_safe rt) hs
  have hrestricted := hrun.restrict hfree
  have hinit := hs.init_eq
  subst hinit
  have hcst : Run Consistent
      (fun w label ws => PasskeyStep w.store label ws ∧ RegistersFree w.store label) s.world :=
    hrestricted.of_init hstr
  refine ⟨PasskeyRun.consistent hcst, ?_, ?_⟩
  · intro kv label kv' hcom
    obtain ⟨u, ws, hu, -, rfl, ⟨hstep, hfree'⟩, rfl⟩ := hcst.committed hcom
    have hold := PasskeyRun.consistent hu
    exact ⟨fun id credential his => hstep.credential hold hfree' his, fun userId user his =>
      hstep.user hold his⟩
  · intro challenge
    have hbd := consumed_le_saved hrun challenge
    omega

end Runs

/-! ### Two registrations of one credential -/

/-- An environment for handles that are in lower case already. -/
def sampleRuntime : PasskeyRuntime := ⟨id, id⟩

/-- The start of a registration of a new user. -/
def sampleStart (userId handle challenge : String) : RegisterStart where
  token := ""
  authenticated := false
  requestAudienceOrigin := none
  handle := some handle
  defaultIsAdmin := false
  origin := "https://ai.ubq.fi"
  rpId := "ai.ubq.fi"
  randomUserId := userId
  challenge := challenge

/-- Two users register the credentials "key" and `second`; the first is made an admin before that
and logs in after it. -/
def sampleCall (second : String) : ℕ → PasskeyCall
  | 0 => .registerStart (sampleStart "u1" "ann" "c1")
  | 1 => .registerFinish (some "c1") (fun _ => some ⟨"key", "public1", 0, []⟩) "t1"
  | 2 => .usersUpdate "u1" true
  | 3 => .registerStart (sampleStart "u2" "bob" "c2")
  | 4 => .registerFinish (some "c2") (fun _ => some ⟨second, "public2", 0, []⟩) "t2"
  | 5 => .loginStart "c3" "https://ai.ubq.fi" "ai.ubq.fi" none
  | _ => .loginFinish "key" (some "c3") (fun _ credential _ => some (credential.signCount + 1)) "t3"

/-- The first calls of the sample, one after the other. -/
def sampleActions (n : ℕ) : List (Action ℕ) := (List.range n).flatMap fun i => [.spawn i, .act 0 9]

/-- What the first calls lead to. -/
def sampleRun (second : String) (n : ℕ) :
    System PasskeyKey PasskeyValue PasskeyLabel PasskeyReply :=
  System.runAll (fun i => (sampleCall second i).perform sampleRuntime) ⟨⟨Kv.empty, [], 0⟩, []⟩
    (sampleActions n)

theorem sampleRun_reachable (second : String) (n : ℕ) :
    Reachable Eq (passkeyPrograms sampleRuntime) Kv.empty (sampleRun second n) := by
  refine System.runAll_reachable (P := fun _ => True) (fun _ _ => rfl)
    (fun i => Set.mem_range_self (sampleCall second i)) (sampleActions n) ?_ ⟨⟨Kv.empty, [], 0⟩,
      []⟩ trivial (.start 0)
  intro action hmem
  obtain ⟨i, -, hlst⟩ := List.mem_flatMap.mp hmem
  rcases List.mem_cons.mp hlst with rfl | hlst
  · trivial
  · rw [List.mem_singleton] at hlst
    subst hlst
    trivial

/-- Two registrations, the update that makes the first user an admin, and its login. -/
theorem passkeys_consistent_login :
    (userAt (sampleRun "other" 7).world.store "u1").map (fun user => (user.handle, user.isAdmin))
      = some ("ann", true) ∧
    (userAt (sampleRun "other" 7).world.store "u2").map (fun user => (user.handle, user.isAdmin))
      = some ("bob", false) ∧
    (credentialAt (sampleRun "other" 7).world.store "key").map (·.signCount) = some 1 ∧
    Consistent (sampleRun "other" 7).world.store := by
  have hfree : ∀ c ∈ commitsOf (sampleRun "other" 7).world.init (sampleRun "other" 7).world.events,
      RegistersFree c.1 c.2 := by decide +kernel
  exact ⟨by decide +kernel, by decide +kernel, by decide +kernel,
    (passkeys_consistent sampleRuntime consistent_empty (sampleRun_reachable "other" 7)
    fun kv label kv' hcom => hfree (kv, label) hcom.mem_commitsOf).1⟩

/-- The second registration takes the credential away from the first user, which still lists it. -/
theorem registration_takes_over :
    ¬ ∀ s, Reachable Eq (passkeyPrograms sampleRuntime) Kv.empty s → Consistent s.world.store := by
  intro halways
  have hlst := (halways _ (sampleRun_reachable "key" 5)).listed
  have huser : ((userAt (sampleRun "key" 5).world.store "u1").map PasskeyUserRecord.credentialIds) =
    some ["key"] := by
    decide +kernel
  have hownr : (credentialAt (sampleRun "key" 5).world.store "key").map
      PasskeyCredentialRecord.userId = some "u2" := by
    decide +kernel
  obtain ⟨ann, his, hids⟩ := Option.map_eq_some_iff.mp huser
  obtain ⟨credential, hfd, hnms⟩ :=
    hlst "u1" ann his "key" (by rw [hids]; exact List.mem_singleton_self _)
  rw [hfd, Option.map_some, hnms] at hownr
  exact absurd hownr (by decide)

end UbqGateway.Passkeys
