import NewApi.Machinery.Calls
import NewApi.Machinery.Table
import NewApi.Session.Cache
import NewApi.Verification.Operation

/-!
# Verification/Proof — issuing and consuming security proofs, step by step

`CompleteSecurityVerification` with `IssueSecurityProof`, and `ConsumeOperationProof` with
`ConsumeAuthFlowWithAction` and `ValidateAuthSessionWithTx`, as tasks over the flow, user and session
rows.  A task stops before every statement and every reading of the clock.  The transaction that
consumes a flow holds its row from the first statement to its end, and those of the user and the
session from the moment they are validated.

A proof is a signed set of claims.  That signatures cannot be forged is the model's: only claims the
server has signed are ever parsed.
-/

namespace Verification

open Session (UserSession SessionStatus unix nanos)

/-- `AuthSessionIdentity`. -/
structure AuthIdentity where
  userId : ℤ
  sessionId : String
  userAuthVersion : ℤ
  sessionVersion : ℤ
  deriving DecidableEq

/-- How a user proves who they are. -/
inductive VerificationMethod where
  | twoFA | passkey | password | oauth | session
  deriving DecidableEq

/-- The claims of a security proof; `id` is the token of the flow it consumes, of type `T`. -/
structure AuthClaims (T D : Type) where
  id : T
  userId : ℤ
  sessionId : String
  userAuthVersion : ℤ
  sessionVersion : ℤ
  method : VerificationMethod
  scopes : List VerificationScope
  contextHash : D
  /-- In seconds. -/
  expiresAt : ℤ
  deriving DecidableEq

/-- The keyed functions: signatures of type `R`, digests of type `D`. -/
structure ProofKeys (T R D : Type) where
  sign : AuthClaims T D → R
  authFlowTokenHash : T → D
  contextHash : VerificationScope × NormalContext → D

/-- Each of them is injective. -/
structure ProofKeys.Injective {T R D : Type} (keys : ProofKeys T R D) : Prop where
  sign : Function.Injective keys.sign
  token : Function.Injective keys.authFlowTokenHash
  context : Function.Injective keys.contextHash

/-- A row of `auth_flows` with the purpose of a security proof; `claimed` while a transaction that
has set `consumedAt` is still open. -/
structure AuthFlow (D : Type) where
  tokenHash : D
  userId : ℤ
  sessionId : String
  /-- In nanoseconds, as is `consumedAt`. -/
  expiresAt : ℤ
  consumedAt : Option ℤ := none
  claimed : Bool := false
  deriving DecidableEq

/-- The columns of a user that a proof depends on. -/
structure UserRow where
  enabled : Bool
  authVersion : ℤ
  deriving DecidableEq

/-- Why a proof is refused. -/
inductive ProofError where
  | tokenInvalid | tokenExpired | scope | context | consumed
  | bind (e : BindError)
  | sessionInactive
  /-- The cached session or the method is not accepted, or a statement fails. -/
  | refused
  deriving DecidableEq

/-! ## The shared state -/

/-- An issued proof and the operation it was issued for. -/
structure Issuance (T R D : Type) where
  claims : AuthClaims T D
  identity : AuthIdentity
  operation : VerificationOperation

/-- The rows a proof depends on, at one moment. -/
structure Snapshot where
  clock : ℤ
  user : Option UserRow
  session : Option (UserSession Unit)

/-- An accepted proof: what for, and the rows when it was consumed and when that was committed. -/
structure Acceptance (T D : Type) where
  id : T
  identity : AuthIdentity
  operation : VerificationOperation
  consumed : Snapshot
  committed : Snapshot

/-- Users and sessions by id; `lockedUsers` and `lockedSessions` are the rows that an open
transaction holds. -/
structure ProofState (T R D : Type) where
  clock : ℤ
  users : ℤ → Option UserRow
  sessions : String → Option (UserSession Unit)
  flows : Table (AuthFlow D) AuthFlow.tokenHash := ∅
  issued : List (Issuance T R D) := []
  accepted : List (Acceptance T D) := []
  lockedUsers : List ℤ := []
  lockedSessions : List String := []

/-! ## Tasks -/

/-- What a consumption has found out about its token. -/
structure Verified (T D : Type) where
  claims : AuthClaims T D
  identity : AuthIdentity
  operation : VerificationOperation

/-- A call, at its next step. -/
inductive ProofTask (T R D : Type) where
  -- CompleteSecurityVerification
  | validateLogin (identity : AuthIdentity) (operation : VerificationOperation)
      (method : VerificationMethod)
  | requireMethod (identity : AuthIdentity) (operation : VerificationOperation)
      (method : VerificationMethod)
  | issueNow (identity : AuthIdentity) (operation : VerificationOperation)
      (method : VerificationMethod)
  | createFlow (identity : AuthIdentity) (operation : VerificationOperation)
      (method : VerificationMethod) (expiresAt : ℤ)
  -- ConsumeOperationProof
  | parse (raw : R) (identity : AuthIdentity) (operation : VerificationOperation)
  | checkLogin (v : Verified T D)
  | checkMethod (v : Verified T D)
  | claimNow (v : Verified T D)
  | claim (v : Verified T D) (now : ℤ)
  | recheck (v : Verified T D) (consumed : Snapshot) (expiresAt : ℤ)
  | validate (v : Verified T D) (consumed : Snapshot)
  | commit (v : Verified T D) (consumed : Snapshot)

/-- What a step leaves open: whether its statement or check fails, and a random token. -/
structure ProofChoice (T : Type) where
  fails : Bool := false
  token : T

/-- How a call ends. -/
inductive ProofReply (R : Type) where
  | issued (raw : R)
  | accepted
  | refused (e : ProofError)

/-- A call goes on, or replies. -/
inductive ProofNext (T R D : Type) where
  | go (task : ProofTask T R D)
  | reply (r : ProofReply R)

/-! ## One step of a task -/

/-- `SecurityProofTTL`, in nanoseconds. -/
def securityProofTTL : ℤ := nanos 60

/-- The leeway of the token parser, in nanoseconds. -/
def leeway : ℤ := nanos 5

/-- `expiresAt := now.Add(SecurityProofTTL).Truncate(time.Second)`, in seconds. -/
def proofExpiry (now : ℤ) : ℤ := unix (now + securityProofTTL)

section

variable {T R D : Type} [DecidableEq R] [DecidableEq D]
  (env : Surroundings) (keys : ProofKeys T R D) (s : ProofState T R D)

/-- An identity with nothing missing. -/
def AuthIdentity.complete (identity : AuthIdentity) : Prop :=
  0 < identity.userId ∧ identity.sessionId ≠ "" ∧ 0 < identity.userAuthVersion ∧
    0 < identity.sessionVersion

instance (identity : AuthIdentity) : Decidable identity.complete :=
  inferInstanceAs (Decidable (_ ∧ _ ∧ _ ∧ _))

/-- The rows are at least as new as the identity.  The caches that `ValidateLoginSession` reads hold
earlier states of them. -/
def reached (identity : AuthIdentity) : Prop :=
  (∃ user ∈ s.users identity.userId, identity.userAuthVersion ≤ user.authVersion) ∧
    ∃ session ∈ s.sessions identity.sessionId, session.userId = identity.userId ∧
      identity.sessionVersion ≤ session.version ∧
      identity.userAuthVersion ≤ session.userAuthVersion

instance (identity : AuthIdentity) : Decidable (reached s identity) :=
  inferInstanceAs (Decidable ((∃ user ∈ s.users identity.userId, _) ∧
    ∃ session ∈ s.sessions identity.sessionId, _))

/-- The conditions of `ValidateAuthSessionWithTx` on the rows. -/
def validates (identity : AuthIdentity) (snapshot : Snapshot) : Prop :=
  identity.complete ∧
    (∃ user ∈ snapshot.user, user.enabled = true ∧
      user.authVersion = identity.userAuthVersion) ∧
    ∃ session ∈ snapshot.session, session.userId = identity.userId ∧
      ¬ Session.inactive session.status session.revokedAt session.expiresAt
        (unix snapshot.clock) ∧
      session.userAuthVersion = identity.userAuthVersion ∧
      session.version = identity.sessionVersion

instance (identity : AuthIdentity) (snapshot : Snapshot) :
    Decidable (validates identity snapshot) :=
  inferInstanceAs (Decidable (_ ∧ (∃ user ∈ snapshot.user, _) ∧ ∃ session ∈ snapshot.session, _))

/-- What a check reads of its login. -/
def ProofState.snapshot (identity : AuthIdentity) : Snapshot :=
  ⟨s.clock, s.users identity.userId, s.sessions identity.sessionId⟩

/-- `parseAuthClaims`: the claims that were signed as `raw`, unless they have expired. -/
def parseAuthClaims (raw : R) : Except ProofError (AuthClaims T D) :=
  match s.issued.find? fun i => keys.sign i.claims = raw with
  | none => .error .tokenInvalid
  | some i =>
    if nanos i.claims.expiresAt + leeway ≤ s.clock then .error .tokenExpired else .ok i.claims

/-- `verifySecurityProof` on parsed claims. -/
def checkClaims (claims : AuthClaims T D) (identity : AuthIdentity)
    (binding : VerificationBinding D) : Except ProofError Unit :=
  if claims.userId ≠ identity.userId ∨ claims.sessionId ≠ identity.sessionId ∨
      claims.userAuthVersion ≠ identity.userAuthVersion ∨
      claims.sessionVersion ≠ identity.sessionVersion then .error .tokenInvalid
  else if claims.scopes ≠ [binding.scope] then .error .scope
  else if claims.contextHash ≠ binding.contextHash then .error .context
  else .ok ()

/-- `verifySecurityProof` on an operation that has been bound. -/
def verifySecurityProof (raw : R) (identity : AuthIdentity) (operation : VerificationOperation) :
    Except ProofError (Verified T D) :=
  match bindVerificationOperation env keys.contextHash operation with
  | .error e => .error (.bind e)
  | .ok binding =>
    match parseAuthClaims keys s raw with
    | .error e => .error e
    | .ok claims =>
      match checkClaims claims identity binding with
      | .error e => .error e
      | .ok _ => .ok ⟨claims, identity, operation⟩

/-- The match of `ConsumeOperationProof` on the flow with the token's hash. -/
def matchFlow (v : Verified T D) : Option (AuthFlow D) :=
  (s.flows.find? (keys.authFlowTokenHash v.claims.id)).filter fun flow =>
    flow.userId = v.identity.userId ∧ flow.sessionId = v.identity.sessionId

/-- The transaction is rolled back: the flow is as it was. -/
def rollback (v : Verified T D) : ProofState T R D :=
  match s.flows.find? (keys.authFlowTokenHash v.claims.id) with
  | none => s
  | some flow => { s with flows := s.flows.save { flow with consumedAt := none, claimed := false } }

/-- The transaction is committed. -/
def settle (v : Verified T D) : ProofState T R D :=
  match s.flows.find? (keys.authFlowTokenHash v.claims.id) with
  | none => s
  | some flow => { s with flows := s.flows.save { flow with claimed := false } }

/-- The transaction ends: the rows it holds are free. -/
def unlock (v : Verified T D) : ProofState T R D :=
  { s with
    lockedUsers := s.lockedUsers.erase v.identity.userId
    lockedSessions := s.lockedSessions.erase v.identity.sessionId }

/-- What one step of a task does to the state, and how the call goes on. -/
def proofAct (c : ProofChoice T) : ProofTask T R D → ProofState T R D × ProofNext T R D
  | .validateLogin identity operation method =>
    if c.fails = true ∨ ¬ reached s identity then (s, .reply (.refused .sessionInactive))
    else (s, .go (.requireMethod identity operation method))
  | .requireMethod identity operation method =>
    if c.fails then (s, .reply (.refused .refused))
    else (s, .go (.issueNow identity operation method))
  | .issueNow identity operation method =>
    if identity.complete then
      (s, .go (.createFlow identity operation method (proofExpiry s.clock)))
    else (s, .reply (.refused .tokenInvalid))
  | .createFlow identity operation method expiresAt =>
    match bindVerificationOperation env keys.contextHash operation with
    | .error e => (s, .reply (.refused (.bind e)))
    | .ok binding =>
      if nanos expiresAt ≤ s.clock then (s, .reply (.refused .refused))
      else
        match s.flows.create
          { tokenHash := keys.authFlowTokenHash c.token
            userId := identity.userId
            sessionId := identity.sessionId
            expiresAt := nanos expiresAt } with
        | none => (s, .reply (.refused .refused))
        | some flows =>
          let claims : AuthClaims T D :=
            { id := c.token
              userId := identity.userId
              sessionId := identity.sessionId
              userAuthVersion := identity.userAuthVersion
              sessionVersion := identity.sessionVersion
              method := method
              scopes := [binding.scope]
              contextHash := binding.contextHash
              expiresAt := expiresAt }
          ({ s with flows := flows, issued := s.issued ++ [⟨claims, identity, operation⟩] },
            .reply (.issued (keys.sign claims)))
  | .parse raw identity operation =>
    match verifySecurityProof env keys s raw identity operation with
    | .error e => (s, .reply (.refused e))
    | .ok v => (s, .go (.checkLogin v))
  | .checkLogin v =>
    if c.fails then (s, .reply (.refused .sessionInactive)) else (s, .go (.checkMethod v))
  | .checkMethod v =>
    if c.fails then (s, .reply (.refused .refused)) else (s, .go (.claimNow v))
  | .claimNow v => (s, .go (.claim v s.clock))
  | .claim v now =>
    match matchFlow keys s v with
    | none => (s, .reply (.refused .tokenInvalid))
    | some flow =>
      if c.fails then (s, .reply (.refused .refused))
      -- the update waits for a transaction that has the row
      else if flow.claimed then (s, .go (.claim v now))
      else if flow.consumedAt ≠ none then (s, .reply (.refused .consumed))
      else if flow.expiresAt ≤ now then (s, .reply (.refused .tokenExpired))
      else
        ({ s with flows := s.flows.save { flow with consumedAt := some now, claimed := true } },
          .go (.recheck v (s.snapshot v.identity) flow.expiresAt))
  | .recheck v consumed expiresAt =>
    if c.fails = true ∨ expiresAt ≤ s.clock then
      (rollback keys s v, .reply (.refused .tokenExpired))
    else (s, .go (.validate v consumed))
  | .validate v consumed =>
    if v.identity.userId ∈ s.lockedUsers ∨ v.identity.sessionId ∈ s.lockedSessions then
      (s, .go (.validate v consumed))
    else if c.fails = true ∨ ¬ validates v.identity (s.snapshot v.identity) then
      (rollback keys s v, .reply (.refused .sessionInactive))
    else
      ({ s with
          lockedUsers := v.identity.userId :: s.lockedUsers
          lockedSessions := v.identity.sessionId :: s.lockedSessions },
        .go (.commit v consumed))
  | .commit v consumed =>
    if c.fails then (unlock (rollback keys s v) v, .reply (.refused .refused))
    else
      ({ unlock (settle keys s v) v with
          accepted := s.accepted ++
            [⟨v.claims.id, v.identity, v.operation, consumed, s.snapshot v.identity⟩] },
        .reply .accepted)

/-! ## Calls and everything else -/

/-- What is asked for. -/
inductive ProofRequest (R : Type) where
  | complete (identity : AuthIdentity) (operation : VerificationOperation)
      (method : VerificationMethod)
  | consume (raw : R) (identity : AuthIdentity) (operation : VerificationOperation)

/-- The first step of a request. -/
def ProofRequest.task : ProofRequest R → ProofTask T R D
  | .complete identity operation method => .validateLogin identity operation method
  | .consume raw identity operation => .parse raw identity operation

/-- Time passes; a session is created, revoked or carried over to a new version; a user's version is
incremented or the user is enabled or disabled.  A row that a transaction holds is not written. -/
inductive ProofEvent where
  | tick (elapsed : ℕ)
  | createSession (session : UserSession Unit)
  | revokeSession (sid : String) (reason : String)
  | advanceSession (sid : String) (userAuthVersion : ℤ)
  | bumpAuthVersion (userId : ℤ)
  | setEnabled (userId : ℤ) (enabled : Bool)

/-- A session changes, unless it is locked. -/
def setSession (sid : String) (f : UserSession Unit → UserSession Unit) : ProofState T R D :=
  if sid ∈ s.lockedSessions then s
  else { s with sessions := fun x => if x = sid then (s.sessions x).map f else s.sessions x }

/-- A user changes, unless it is locked. -/
def setUser (userId : ℤ) (f : UserRow → UserRow) : ProofState T R D :=
  if userId ∈ s.lockedUsers then s
  else { s with users := fun x => if x = userId then (s.users x).map f else s.users x }

/-- The rows a revocation writes. -/
def revokeRow (now : ℤ) (reason : String) (session : UserSession Unit) : UserSession Unit :=
  { session with status := .revoked, revokedAt := now, revokedReason := reason }

/-- The update of `AdvanceUserSessionAuthVersion`. -/
def advanceRow (userAuthVersion now : ℤ) (session : UserSession Unit) : UserSession Unit :=
  if Session.inactive session.status 0 session.expiresAt now ∨
      userAuthVersion ≤ session.userAuthVersion then session
  else { session with version := session.version + 1, userAuthVersion := userAuthVersion }

/-- What else may happen. -/
def proofEnv : ProofEvent → ProofState T R D
  | .tick elapsed => { s with clock := s.clock + elapsed }
  | .createSession session =>
    if (s.sessions session.sid).isSome then s
    else { s with sessions := fun x => if x = session.sid then some session else s.sessions x }
  | .revokeSession sid reason => setSession s sid (revokeRow (unix s.clock) reason)
  | .advanceSession sid userAuthVersion =>
    setSession s sid (advanceRow userAuthVersion (unix s.clock))
  | .bumpAuthVersion userId =>
    setUser s userId fun user => { user with authVersion := user.authVersion + 1 }
  | .setEnabled userId enabled => setUser s userId fun user => { user with enabled }

/-- One step, with the call that is left. -/
def proofPerform (task : ProofTask T R D) (c : ProofChoice T) :
    ProofState T R D × Option (ProofTask T R D) :=
  match proofAct env keys s c task with
  | (s', .go next) => (s', some next)
  | (s', .reply _) => (s', none)

/-- Proofs as a system of calls. -/
def proofs : CallSystem (ProofState T R D) (ProofTask T R D) (ProofRequest R) (ProofChoice T)
    ProofEvent where
  init _ request := request.task
  perform := proofPerform env keys
  env := proofEnv

end

end Verification
