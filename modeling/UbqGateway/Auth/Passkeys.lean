import UbqGateway.Library.JsString
import UbqGateway.Library.Programs
import Mathlib.Data.Prod.Lex
import Mathlib.Data.String.Basic

/-!
# The passkey store

The accounts of `src/auth/passkeys.ts`: a user has a record, a key from its handle and a record for
each of its credentials, and a registration writes the three in one transaction.  A registration and
a login each start with a challenge and finish by consuming it.

What the WebAuthn library verifies is a parameter of the calls, and so are the random values and the
hash of a token.  The parsing of the requests and the limit on the starts of anonymous logins are
left out.
-/

namespace UbqGateway.Passkeys

/-! ### The rows -/

structure PasskeyUserRecord where
  id : String
  handle : String
  isAdmin : Bool
  credentialIds : List String
  createdAtMs : ℤ
  updatedAtMs : ℤ
deriving DecidableEq

structure PasskeyCredentialRecord where
  credentialId : String
  userId : String
  publicKey : String
  signCount : ℕ
  transports : List String
  createdAtMs : ℤ
deriving DecidableEq

structure PasskeySessionRecord where
  token : String
  userId : String
  createdAtMs : ℤ
  expiresAtMs : ℤ
  audienceOrigin : Option String
deriving DecidableEq

inductive ChallengeType
  | registration
  | authentication
deriving DecidableEq

structure PasskeyChallengeRecord where
  challenge : String
  type : ChallengeType
  origin : String
  rpId : String
  audienceOrigin : Option String
  userId : Option String
  handle : Option String
  isAdmin : Option Bool
  createdAtMs : ℤ
  expiresAtMs : ℤ
deriving DecidableEq

/-- The keys: `passkeyUserKey`, `passkeyHandleKey`, `passkeyCredentialKey`, `passkeyChallengeKey`
and `passkeySessionKey`. -/
inductive PasskeyKey
  | user (userId : String)
  | handle (handle : String)
  | credential (credentialId : String)
  | challenge (challenge : String)
  | session (token : String)
deriving DecidableEq

def PasskeyKey.parts : PasskeyKey → ℕ ×ₗ String
  | .user userId => toLex (0, userId)
  | .handle name => toLex (1, name)
  | .credential credentialId => toLex (2, credentialId)
  | .challenge text => toLex (3, text)
  | .session token => toLex (4, token)

theorem PasskeyKey.parts_injective : Function.Injective PasskeyKey.parts := by
  intro j k h
  cases j <;> cases k <;> simp_all [PasskeyKey.parts]

/-- The order in which the store lists its keys. -/
instance : LinearOrder PasskeyKey := LinearOrder.lift' PasskeyKey.parts PasskeyKey.parts_injective

/-- The values. -/
inductive PasskeyValue
  | user (user : PasskeyUserRecord)
  | handle (userId : String)
  | credential (credential : PasskeyCredentialRecord)
  | challenge (challenge : PasskeyChallengeRecord)
  | session (session : PasskeySessionRecord)

/-- What a commit did. -/
inductive PasskeyLabel
  | saveChallenge (challenge : String)
  | consumeChallenge (challenge : String)
  | dropChallenge (challenge : String)
  | register (credentialId userId publicKey : String)
  | signCount (credentialId : String)
  | session (token : String)
  | adminUpdate (userId : String)
deriving DecidableEq

/-- The store of the passkeys. -/
abbrev PasskeyKv := Kv PasskeyKey PasskeyValue

/-- The programs on the passkeys. -/
abbrev PasskeyM (α : Type) := Prog PasskeyKey PasskeyValue PasskeyLabel α

/-- A row that is read as a user. -/
def userOf : Option (Entry PasskeyValue) → Option PasskeyUserRecord
  | some ⟨.user user, _⟩ => some user
  | _ => none

/-- A row that is read as the user of a handle. -/
def handleOf : Option (Entry PasskeyValue) → Option String
  | some ⟨.handle userId, _⟩ => some userId
  | _ => none

/-- A row that is read as a credential. -/
def credentialOf : Option (Entry PasskeyValue) → Option PasskeyCredentialRecord
  | some ⟨.credential credential, _⟩ => some credential
  | _ => none

/-- A row that is read as a challenge. -/
def challengeOf : Option (Entry PasskeyValue) → Option PasskeyChallengeRecord
  | some ⟨.challenge challenge, _⟩ => some challenge
  | _ => none

/-- A row that is read as a session. -/
def sessionOf : Option (Entry PasskeyValue) → Option PasskeySessionRecord
  | some ⟨.session session, _⟩ => some session
  | _ => none

/-! ### Handles -/

/-- `PASSKEY_CHALLENGE_TTL_MS` -/
def challengeTtlMs : ℤ := 5 * 60 * 1000

/-- `PASSKEY_SESSION_TTL_MS` -/
def sessionTtlMs : ℤ := 7 * 24 * 60 * 60 * 1000

def trimPasskeyHandleSeparators (value : List Char) : List Char :=
  ((value.dropWhile (· == '-')).reverse.dropWhile (· == '-')).reverse

/-- The characters that a handle may have. -/
def isHandleChar (c : Char) : Bool :=
  ('a' ≤ c && c ≤ 'z') || ('0' ≤ c && c ≤ '9') || c == '.' || c == '_' || c == '-'

/-- `.replace(/[^a-z0-9._-]+/g, "-")`; the flag tells whether the last character was replaced. -/
def replaceRuns : Bool → List Char → List Char
  | _, [] => []
  | replaced, c :: rest =>
    if isHandleChar c = true then c :: replaceRuns false rest
    else if replaced = true then replaceRuns true rest
    else '-' :: replaceRuns true rest

/-- Several separators in a row become one; the flag tells whether the last character was a
separator. -/
def collapseSeparators : Bool → List Char → List Char
  | _, [] => []
  | separated, c :: rest =>
    if c = '-' then
      if separated = true then collapseSeparators true rest else c :: collapseSeparators true rest
    else c :: collapseSeparators false rest

/-- What the environment of the program computes. -/
structure PasskeyRuntime where
  /-- `String.prototype.toLowerCase` -/
  toLowerCase : String → String
  /-- `sha256Hex` -/
  sha256Hex : String → String

namespace PasskeyRuntime

variable (rt : PasskeyRuntime)

def normalizePasskeyHandle (value : Option String) : String :=
  let text := (value.map fun text => rt.toLowerCase (JsString.trim text)).getD ""
  String.ofList ((collapseSeparators false
    (trimPasskeyHandleSeparators (replaceRuns false text.toList))).take 96)

def buildPasskeyHandle (seed : String) : String :=
  if JsString.trim seed = "" then ""
  else "uos-passkey-" ++ String.ofList ((rt.sha256Hex (JsString.trim seed)).toList.take 16)

def tokenHandle (token : String) : String := if token = "" then "" else rt.buildPasskeyHandle token

end PasskeyRuntime

/-! ### The parts of the handlers -/

/-- The status, the message and the code of `openaiError`. -/
structure ErrorResponse where
  status : ℕ
  message : String
  code : String
deriving DecidableEq

/-- No credential of the request is accepted. -/
def unauthorized : ErrorResponse := ⟨401, "Unauthorized", "invalid_api_key"⟩

def invalidRequest (message : String) : ErrorResponse := ⟨400, message, "invalid_request_error"⟩

/-- The handle belongs to another user. -/
def accountExists : ErrorResponse :=
  ⟨409, "A passkey account already exists for this username", "invalid_request_error"⟩

/-- Something has changed. -/
def modifiedConcurrently (what : String) : ErrorResponse :=
  ⟨409, what ++ " was modified concurrently; retry", "invalid_request_error"⟩

def getUserByHandle (handle : String) : PasskeyM (Option PasskeyUserRecord) := do
  let userIdEntry ← Prog.get (.handle handle)
  match handleOf userIdEntry with
  | none => return none
  | some userId =>
    if userId = "" then return none
    else do
      let userEntry ← Prog.get (.user userId)
      return userOf userEntry

/-- `saveChallenge`; the times of the record are set here. -/
def saveChallenge (input : PasskeyChallengeRecord) : PasskeyM Unit := do
  let createdAtMs ← Prog.clock
  let _ ← Prog.transaction (.saveChallenge input.challenge) []
    [.set (.challenge input.challenge)
      (.challenge { input with
        createdAtMs := createdAtMs
        expiresAtMs := createdAtMs + challengeTtlMs })]
  return ()

def consumeChallenge (challenge : String) : PasskeyM (Option PasskeyChallengeRecord) := do
  let entry ← Prog.get (.challenge challenge)
  match challengeOf entry with
  | none => return none
  | some record => do
    let nowMs ← Prog.clock
    if record.expiresAtMs ≤ nowMs then do
      let _ ← Prog.transaction (.dropChallenge challenge) [⟨.challenge challenge, entry⟩]
        [.delete (.challenge challenge)]
      return none
    else do
      let committed ← Prog.transaction (.consumeChallenge challenge) [⟨.challenge challenge, entry⟩]
        [.delete (.challenge challenge)]
      return if committed = true then some record else none

/-- `createSession` with the token of the session. -/
def createSession (token userId : String) (audienceOrigin : Option String) :
    PasskeyM PasskeySessionRecord := do
  let createdAtMs ← Prog.clock
  let record : PasskeySessionRecord :=
    ⟨token, userId, createdAtMs, createdAtMs + sessionTtlMs, audienceOrigin⟩
  let _ ← Prog.transaction (.session token) [] [.set (.session token) (.session record)]
  return record

/-- `getPasskeySession`: the user and the session. -/
def getPasskeySession (token : String) :
    PasskeyM (Option (PasskeyUserRecord × PasskeySessionRecord)) := do
  let sessionEntry ← Prog.get (.session token)
  match sessionOf sessionEntry with
  | none => return none
  | some session => do
    let nowMs ← Prog.clock
    if session.expiresAtMs ≤ nowMs then do
      let _ ← Prog.transaction (.session token) [⟨.session token, sessionEntry⟩]
        [.delete (.session token)]
      return none
    else do
      let userEntry ← Prog.get (.user session.userId)
      return (userOf userEntry).map fun user => (user, session)

/-- `getPasskeySessionForRequest`: the user of a session that may be used from the request's
origin. -/
def getPasskeySessionForRequest (token : String) (requestAudienceOrigin : Option String) :
    PasskeyM (Option PasskeyUserRecord) := do
  let session ← getPasskeySession token
  return (session.filter fun session =>
    session.2.audienceOrigin.all fun origin =>
      decide (origin = "") || decide (requestAudienceOrigin = some origin)).map Prod.fst

/-! ### Registration -/

structure SaveVerifiedPasskeyRegistrationInput where
  userId : String
  handle : String
  isAdmin : Bool
  credentialId : String
  publicKey : String
  signCount : ℕ
  transports : List String

namespace SaveVerifiedPasskeyRegistrationInput

variable (input : SaveVerifiedPasskeyRegistrationInput)

def credentialRecord (createdAtMs : ℤ) : PasskeyCredentialRecord :=
  ⟨input.credentialId, input.userId, input.publicKey, input.signCount, input.transports,
    createdAtMs⟩

/-- `Array.from(new Set([...ids, id]))` -/
def withCredential (ids : List String) (id : String) : List String :=
  (ids ++ [id]).foldl (fun seen id => if id ∈ seen then seen else seen ++ [id]) []

def userRecord (existing : Option PasskeyUserRecord) (createdAtMs : ℤ) : PasskeyUserRecord :=
  match existing with
  | some existing =>
    { existing with
      handle := input.handle
      credentialIds := withCredential existing.credentialIds input.credentialId
      updatedAtMs := createdAtMs }
  | none => ⟨input.userId, input.handle, input.isAdmin, [input.credentialId], createdAtMs,
    createdAtMs⟩

def formerHandle (existing : Option PasskeyUserRecord) : Option String :=
  (existing.filter fun existing => decide (existing.handle ≠ input.handle)).map
    PasskeyUserRecord.handle

def writes (existing : Option PasskeyUserRecord) (createdAtMs : ℤ) :
    List (Write PasskeyKey PasskeyValue) :=
  let user := input.userRecord existing createdAtMs
  [.set (.user user.id) (.user user), .set (.handle input.handle) (.handle user.id),
    .set (.credential input.credentialId) (.credential (input.credentialRecord createdAtMs))] ++
  ((input.formerHandle existing).map fun handle => Write.delete (.handle handle)).toList

end SaveVerifiedPasskeyRegistrationInput

def saveVerifiedPasskeyRegistration (input : SaveVerifiedPasskeyRegistrationInput) :
    PasskeyM (Except ErrorResponse PasskeyUserRecord) := do
  let handleEntry ← Prog.get (.handle input.handle)
  if (handleOf handleEntry).any (fun userId => decide (userId ≠ "" ∧ userId ≠ input.userId)) =
    true then
    return .error accountExists
  else do
    let createdAtMs ← Prog.clock
    let existingUserEntry ← Prog.get (.user input.userId)
    let existing := userOf existingUserEntry
    let committed ← Prog.transaction (.register input.credentialId input.userId input.publicKey)
      [⟨.user input.userId, existingUserEntry⟩, ⟨.handle input.handle, handleEntry⟩]
      (input.writes existing createdAtMs)
    return if committed = true then .ok (input.userRecord existing createdAtMs)
      else .error (modifiedConcurrently "Passkey account")

/-- What a client is answered. -/
inductive PasskeyReply
  | error (response : ErrorResponse)
  | challenge (challenge : String) (handle : Option String) (excludeCredentials : List String)
  | session (session : PasskeySessionRecord) (handle : String) (credentialCount : ℕ)
  | user (user : PasskeyUserRecord)
  | none

/-- What the start of a registration is given: the token of the request, which is authenticated
already or may be that of a session, the handle that is asked for and random values. -/
structure RegisterStart where
  token : String
  authenticated : Bool
  requestAudienceOrigin : Option String
  handle : Option String
  defaultIsAdmin : Bool
  origin : String
  rpId : String
  randomUserId : String
  challenge : String

def existingSessionUser (request : RegisterStart) : PasskeyM (Option PasskeyUserRecord) :=
  if request.token = "" then return none
  else getPasskeySessionForRequest request.token request.requestAudienceOrigin

def userOfHandle (handle : String) : PasskeyM (Option PasskeyUserRecord) :=
  if handle = "" then return none else getUserByHandle handle

def handlePasskeyRegisterStart (rt : PasskeyRuntime) (request : RegisterStart) :
    PasskeyM PasskeyReply := do
  let existingSession ← existingSessionUser request
  if request.authenticated = true ∧ existingSession = none then return .error unauthorized
  else do
    let requestedHandle := rt.normalizePasskeyHandle request.handle
    let tokenHandle := rt.tokenHandle request.token
    let requestedUser ← userOfHandle requestedHandle
    let tokenUser ← userOfHandle tokenHandle
    if requestedUser.any (fun user =>
        decide (some user.id ≠ existingSession.map PasskeyUserRecord.id ∧
          some user.id ≠ tokenUser.map PasskeyUserRecord.id)) = true then
      return .error accountExists
    else do
      let existingUser := (existingSession.or tokenUser).or requestedUser
      let userId := (existingUser.map PasskeyUserRecord.id).getD request.randomUserId
      let handle := (([(existingSession.map PasskeyUserRecord.handle).getD "", requestedHandle,
        tokenHandle].find? fun candidate => decide (candidate ≠ "")).getD
          (rt.buildPasskeyHandle userId))
      if handle = "" then return .error (invalidRequest "username is required")
      else do
        let isAdmin := (existingUser.map PasskeyUserRecord.isAdmin).getD request.defaultIsAdmin
        saveChallenge
          { challenge := request.challenge
            type := .registration
            origin := request.origin
            rpId := request.rpId
            audienceOrigin := none
            userId := some userId
            handle := some handle
            isAdmin := some isAdmin
            createdAtMs := 0
            expiresAtMs := 0 }
        return .challenge request.challenge (some handle)
          ((existingUser.map PasskeyUserRecord.credentialIds).getD [])

/-- `verification.registrationInfo`: the public key as base64 text. -/
structure RegistrationInfo where
  credentialId : String
  publicKey : String
  counter : ℕ
  transports : List String

/-- `handlePasskeyRegisterFinish`: `verify` is what the library makes of the response for a
challenge. -/
def handlePasskeyRegisterFinish (rt : PasskeyRuntime) (challenge : Option String)
    (verify : PasskeyChallengeRecord → Option RegistrationInfo) (token : String) :
    PasskeyM PasskeyReply :=
  match challenge with
  | none => return .error (invalidRequest "Invalid passkey response")
  | some challenge =>
    if challenge = "" then return .error (invalidRequest "Invalid passkey response")
    else do
      let record ← consumeChallenge challenge
      match record with
      | none => return .error (invalidRequest "Invalid passkey challenge")
      | some record =>
        if record.type ≠ .registration ∨ record.userId.getD "" = "" then
          return .error (invalidRequest "Invalid passkey challenge")
        else match verify record with
        | none => return .error (invalidRequest "Invalid passkey attestation")
        | some info =>
          let handle := rt.normalizePasskeyHandle record.handle
          if handle = "" then return .error (invalidRequest "username is required")
          else do
            let saved ← saveVerifiedPasskeyRegistration
              ⟨record.userId.getD "", handle, record.isAdmin.getD false, info.credentialId,
                info.publicKey,
                info.counter, info.transports⟩
            match saved with
            | .error response => return .error response
            | .ok user => do
              let session ← createSession token user.id none
              return .session session user.handle user.credentialIds.length

/-! ### Logins -/

/-- `handlePasskeyLoginStart` with the challenge that the library has made. -/
def handlePasskeyLoginStart (challenge origin rpId : String) (audienceOrigin : Option String) :
    PasskeyM PasskeyReply := do
  saveChallenge
    { challenge := challenge
      type := .authentication
      origin := origin
      rpId := rpId
      audienceOrigin := audienceOrigin
      userId := none
      handle := none
      isAdmin := none
      createdAtMs := 0
      expiresAtMs := 0 }
  return .challenge challenge none []

/-- `updatePasskeyCredentialSignCount`, of a credential that was read. -/
def updatePasskeyCredentialSignCount (credentialId : String) (entry : Option (Entry PasskeyValue))
    (credential : PasskeyCredentialRecord) (signCount : ℕ) : PasskeyM Bool :=
  Prog.transaction (.signCount credentialId) [⟨.credential credentialId, entry⟩]
    [.set (.credential credentialId) (.credential { credential with signCount := signCount })]

/-- `handlePasskeyLoginFinish`: `verify` is the counter that the library returns. -/
def handlePasskeyLoginFinish (credentialId : String) (challenge : Option String)
    (verify : PasskeyChallengeRecord → PasskeyCredentialRecord → PasskeyUserRecord → Option ℕ)
    (token : String) : PasskeyM PasskeyReply :=
  match challenge with
  | none => return .error (invalidRequest "Invalid passkey response")
  | some challenge =>
    if credentialId = "" then return .error (invalidRequest "Invalid passkey response")
    else do
      let record ← consumeChallenge challenge
      match record with
      | none => return .error (invalidRequest "Invalid passkey challenge")
      | some record =>
        if record.type ≠ .authentication then
          return .error (invalidRequest "Invalid passkey challenge")
        else do
          let credentialEntry ← Prog.get (.credential credentialId)
          match credentialOf credentialEntry with
          | none => return .error (invalidRequest "Unknown passkey")
          | some credential => do
            let userEntry ← Prog.get (.user credential.userId)
            match userOf userEntry with
            | none => return .error unauthorized
            | some user =>
              match verify record credential user with
              | none => return .error (invalidRequest "Invalid passkey assertion")
              | some newCounter => do
                let updated ← updatePasskeyCredentialSignCount credentialId credentialEntry
                  credential
                  newCounter
                if updated = true then do
                  let session ← createSession token credential.userId record.audienceOrigin
                  return .session session user.handle user.credentialIds.length
                else return .error (modifiedConcurrently "Passkey credential")

/-! ### Admin updates -/

def handlePasskeyUsersUpdate (id : String) (isAdmin : Bool) : PasskeyM PasskeyReply := do
  let entry ← Prog.get (.user id)
  match userOf entry with
  | none => return .error ⟨404, "Passkey user not found", "not_found"⟩
  | some user => do
    let nowMs ← Prog.clock
    let next : PasskeyUserRecord := { user with isAdmin := isAdmin, updatedAtMs := nowMs }
    let committed ← Prog.transaction (.adminUpdate id) [⟨.user id, entry⟩]
      [.set (.user id) (.user next)]
    return if committed = true then .user next else .error (modifiedConcurrently "Passkey user")

/-! ### The clients -/

/-- What a client does; a challenge or a session also disappears when its time is over. -/
inductive PasskeyCall
  | registerStart (request : RegisterStart)
  | registerFinish (challenge : Option String)
      (verify : PasskeyChallengeRecord → Option RegistrationInfo) (token : String)
  | loginStart (challenge origin rpId : String) (audienceOrigin : Option String)
  | loginFinish (credentialId : String) (challenge : Option String)
      (verify : PasskeyChallengeRecord → PasskeyCredentialRecord → PasskeyUserRecord → Option ℕ)
      (token : String)
  | usersUpdate (id : String) (isAdmin : Bool)
  | challengeExpires (challenge : String)
  | sessionExpires (token : String)

/-- The program of a client. -/
def PasskeyCall.perform (rt : PasskeyRuntime) : PasskeyCall → PasskeyM PasskeyReply
  | .registerStart request => handlePasskeyRegisterStart rt request
  | .registerFinish challenge verify token => handlePasskeyRegisterFinish rt challenge verify token
  | .loginStart challenge origin rpId audienceOrigin =>
    handlePasskeyLoginStart challenge origin rpId audienceOrigin
  | .loginFinish credentialId challenge verify token =>
    handlePasskeyLoginFinish credentialId challenge verify token
  | .usersUpdate id isAdmin => handlePasskeyUsersUpdate id isAdmin
  | .challengeExpires challenge => do
    let _ ← Prog.transaction (.dropChallenge challenge) [] [.delete (.challenge challenge)]
    return .none
  | .sessionExpires token => do
    let _ ← Prog.transaction (.session token) [] [.delete (.session token)]
    return .none

def passkeyPrograms (rt : PasskeyRuntime) : Set (PasskeyM PasskeyReply) :=
  Set.range (PasskeyCall.perform rt)

end UbqGateway.Passkeys
