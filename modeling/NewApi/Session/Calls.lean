import NewApi.Machinery.Calls
import NewApi.Session.Cache

/-!
# Session/Calls — the calls on one login session, step by step

`GetUserSessionCached`, `RotateUserSessionRefresh` and `RevokeUserSession` of
`model/user_session.go` and `RefreshLoginSession` of `service/auth_session.go`, as tasks over the
session's row, its cached snapshot and the clock.  A task stops before every database statement,
every Redis command and every reading of the clock, so that any other call may come in between.
-/

namespace Session

/-- What the calls are configured with; secrets are of type `S`, their keyed digests of type `H`,
and the session id both functions are keyed with is that of the one session. -/
structure SessionConfig (S H : Type) where
  redisEnabled : Bool
  syncFrequency : ℤ
  hashRefreshSecret : S → H
  deriveNextRefreshSecret : S → S

/-- `RefreshReplayWindow`, in seconds. -/
def refreshReplayWindow : ℤ := 30

/-- How long an entry is kept. -/
def SessionConfig.ttl {S H : Type} (cfg : SessionConfig S H) : ℤ :=
  userCacheTTLSeconds cfg.syncFrequency

/-- The errors of a session. -/
inductive SessionError where
  | invalid | inactive | refreshInvalid | refreshReuse | notFound
  | redis | database
  deriving DecidableEq

/-- What `RotateUserSessionRefresh` returns; `ErrUserSessionRefreshRace` comes with the session. -/
inductive RotateOutcome (H : Type) where
  | rotated (session : UserSession H)
  | race (session : UserSession H)
  | error (e : SessionError)
  deriving DecidableEq

/-- The errors a client of a refresh sees. -/
inductive RefreshError where
  | loginSessionRevoked | refreshTokenInvalid | refreshRace
  | session (e : SessionError)
  deriving DecidableEq

/-- What a call returns.  Credentials are the secret they carry. -/
inductive Result (S H : Type) where
  | got (r : Except SessionError CacheEntry)
  | rotated (r : RotateOutcome H)
  | revoked (r : Except SessionError Bool)
  | refreshed (r : Except RefreshError S)

/-! ## Tasks -/

/-- On whose behalf a function of the model runs: its own, or a refresh with this secret. -/
inductive Caller (S : Type) where
  | direct
  | refresh (secret : S)
  deriving DecidableEq

/-- The arguments of `RotateUserSessionRefresh`. -/
structure Rotation (S H : Type) where
  caller : Caller S
  userId : ℤ
  presentedHash : H
  nextHash : H
  now : ℤ
  graceSeconds : ℤ

/-- The arguments of `RevokeUserSession`, and the second it took from the clock. -/
structure Revocation (S : Type) where
  caller : Caller S
  userId : ℤ
  reason : String
  now : ℤ

/-- Where `writeUserSessionCache` was called from. -/
inductive AfterWrite (S H : Type) where
  | filled (caller : Caller S) (session : UserSession H)
  | denied (caller : Caller S)
  | rotated (rot : Rotation S H) (session : UserSession H)
  | reuseFenced (rot : Rotation S H) (session : UserSession H)
  | reuseBuried (rot : Rotation S H)
  | revokeFenced (rev : Revocation S) (candidate : UserSession H)
  | revokeBuried (rev : Revocation S)

/-- Where `confirmUserSessionActiveSnapshot` was called from. -/
inductive AfterConfirm (S H : Type) where
  | filled (caller : Caller S)
  | rotated (rot : Rotation S H)

/-- What a call does next. -/
inductive Task (S H : Type) where
  -- GetUserSessionCached
  | readCache (caller : Caller S)
  | checkCached (caller : Caller S) (entry : CacheEntry)
  | captureDeadline (caller : Caller S)
  | readRow (caller : Caller S) (deadline : ℤ)
  | checkRow (caller : Caller S) (session : UserSession H) (deadline : ℤ)
  -- writeUserSessionCache
  | prepare (entry : CacheEntry) (deadline : Option ℤ) (k : AfterWrite S H)
  | eval (entry : CacheEntry) (deadline : Option ℤ) (expiration : ℤ) (k : AfterWrite S H)
  | complete (entry : CacheEntry) (deadline : Option ℤ) (k : AfterWrite S H)
  -- confirmUserSessionActiveSnapshot
  | confirm (session : UserSession H) (k : AfterConfirm S H)
  | confirmRow (session : UserSession H) (now : ℤ) (k : AfterConfirm S H)
  -- RotateUserSessionRefresh
  | rotateStart (rot : Rotation S H)
  | rotateDeadline (rot : Rotation S H) (rounds : ℕ)
  | rotateRead (rot : Rotation S H) (rounds : ℕ) (deadline : ℤ)
  | rotateSwap (rot : Rotation S H) (rounds : ℕ) (session : UserSession H) (deadline : ℤ)
  | reuseRevoke (rot : Rotation S H) (session : UserSession H)
  -- RevokeUserSession
  | revokeStart (caller : Caller S) (userId : ℤ) (reason : String)
  | revokeRead (rev : Revocation S)
  | revokeRow (rev : Revocation S) (candidate : UserSession H)
  -- RefreshLoginSession
  | checkSession (secret : S) (entry : CacheEntry)
  | checkUser (secret : S) (entry : CacheEntry)
  | rotate (secret : S) (entry : CacheEntry)
  | issue (nextSecret : S)

/-- A call goes on, or replies. -/
inductive Next (S H : Type) where
  | go (task : Task S H)
  | reply (result : Result S H)

/-! ## How the functions hand over -/

section

variable {S H : Type} [DecidableEq H] (cfg : SessionConfig S H)

/-- `GetUserSessionCached` returns. -/
def getDone : Caller S → Except SessionError CacheEntry → Next S H
  | .direct, r => .reply (.got r)
  | .refresh secret, .ok entry => .go (.checkSession secret entry)
  | .refresh _, .error .inactive => .reply (.refreshed (.error .loginSessionRevoked))
  | .refresh _, .error _ => .reply (.refreshed (.error .refreshTokenInvalid))

/-- `RotateUserSessionRefresh` returns.  A caller that lost the race derives the winner's secret
and checks it against the row. -/
def rotateDone (rot : Rotation S H) (r : RotateOutcome H) : Next S H :=
  match rot.caller with
  | .direct => .reply (.rotated r)
  | .refresh secret =>
    let nextSecret := cfg.deriveNextRefreshSecret secret
    match r with
    | .rotated _ => .go (.issue nextSecret)
    | .race session =>
      if cfg.hashRefreshSecret nextSecret = session.refreshHash then .go (.issue nextSecret)
      else .reply (.refreshed (.error .refreshRace))
    | .error .refreshReuse => .reply (.refreshed (.error .loginSessionRevoked))
    | .error .refreshInvalid => .reply (.refreshed (.error .refreshTokenInvalid))
    | .error e => .reply (.refreshed (.error (.session e)))

/-- `RevokeUserSession` returns; a refresh ignores what. -/
def revokeDone : Caller S → Except SessionError Bool → Next S H
  | .direct, r => .reply (.revoked r)
  | .refresh _, _ => .reply (.refreshed (.error .loginSessionRevoked))

/-- `writeUserSessionCache` returns. -/
def afterWrite : AfterWrite S H → Except WriteError Unit → Next S H
  | .filled caller session, .error .stale => .go (.confirm session (.filled caller))
  | .filled caller _, .error .inactive => getDone caller (.error .inactive)
  | .filled caller session, _ => getDone caller (.ok session.cacheEntry)
  | .denied caller, _ => getDone caller (.error .inactive)
  | .rotated rot session, .error .stale => .go (.confirm session (.rotated rot))
  | .rotated rot _, .error .inactive => rotateDone cfg rot (.error .inactive)
  | .rotated rot session, _ => rotateDone cfg rot (.rotated session)
  | .reuseFenced rot session, .ok _ => .go (.reuseRevoke rot session)
  | .reuseFenced rot _, .error .inactive => rotateDone cfg rot (.error .inactive)
  | .reuseFenced rot _, .error _ => rotateDone cfg rot (.error .redis)
  | .reuseBuried rot, _ => rotateDone cfg rot (.error .refreshReuse)
  | .revokeFenced rev candidate, .ok _ => .go (.revokeRow rev candidate)
  | .revokeFenced rev _, .error .inactive => revokeDone rev.caller (.error .inactive)
  | .revokeFenced rev _, .error _ => revokeDone rev.caller (.error .redis)
  | .revokeBuried rev, _ => revokeDone rev.caller (.ok true)

/-- `writeUserSessionCache` is called; without Redis it does nothing. -/
def writeUserSessionCache (entry : CacheEntry) (deadline : Option ℤ) (k : AfterWrite S H) :
    Next S H :=
  if cfg.redisEnabled then .go (.prepare entry deadline k) else afterWrite cfg k (.ok ())

/-- The fence that closes a session to readers. -/
def writeUserSessionDenyFence (session : UserSession H) (now : ℤ) (reason : String)
    (k : AfterWrite S H) : Next S H :=
  writeUserSessionCache cfg
    { session.cacheEntry with status := .revoking, revokedAt := now, revokedReason := reason }
    none k

/-- The next round of the loop of `RotateUserSessionRefresh`, which has this many left. -/
def rotateRound (rot : Rotation S H) : ℕ → Next S H
  | 0 => rotateDone cfg rot (.error .refreshInvalid)
  | rounds + 1 => .go (.rotateDeadline rot rounds)

end

/-! ## The shared state -/

/-- A reply, with what is known of its call: whether it began after some `RevokeUserSession` had
returned true, whether it began with the row revoked, and whether it ended on the branch that
answers a reused secret. -/
structure Logged (S H : Type) where
  late : Bool
  dead : Bool
  reusing : Bool
  result : Result S H

/-- The session's row and its cached snapshot; `swaps`, `returned` and `replies` only record what
has happened. -/
structure SessionState (S H : Type) where
  clock : ℤ
  row : UserSession H
  cache : Option Cell
  swaps : List (H × H) := []
  returned : Bool := false
  replies : List (Logged S H) := []

/-- What a step leaves open: whether its statement or command fails, and whether the user is found
disabled or at another `auth_version` than the session's. -/
structure Choice where
  fails : Bool := false
  userChanged : Bool := false

/-! ## One step of a task -/

section

variable {S H : Type} [DecidableEq H] (cfg : SessionConfig S H) (s : SessionState S H)

/-- The columns that revoke a row. -/
def UserSession.revoke (session : UserSession H) (now : ℤ) (reason : String) : UserSession H :=
  { session with status := .revoked, revokedAt := now, revokedReason := reason }

/-- The columns a rotation writes. -/
def UserSession.rotate (session : UserSession H) (nextHash : H) (now graceSeconds : ℤ) :
    UserSession H :=
  { session with
    previousRefreshHash := some session.refreshHash
    previousValidUntil := now + graceSeconds
    refreshHash := nextHash
    lastActiveAt := now }

/-- The condition of both conditional updates: the row is still active at `now`. -/
def UserSession.inactiveAt (session : UserSession H) (now : ℤ) : Prop :=
  inactive session.status session.revokedAt session.expiresAt now

instance (session : UserSession H) (now : ℤ) : Decidable (session.inactiveAt now) :=
  inferInstanceAs (Decidable (inactive _ _ _ _))

/-- The ids and versions `getUserSessionCache` and `confirmUserSessionActiveSnapshot` ask for. -/
def CacheEntry.wellFormed (entry : CacheEntry) (sid : String) : Prop :=
  entry.sid = sid ∧ 0 < entry.userId ∧ 0 < entry.version ∧ 0 < entry.userAuthVersion

instance (entry : CacheEntry) (sid : String) : Decidable (entry.wellFormed sid) :=
  inferInstanceAs (Decidable (_ ∧ _ ∧ _ ∧ _))

/-- `confirmUserSessionActiveSnapshot` returns. -/
def confirmDone (session : UserSession H) : AfterConfirm S H → Except SessionError Unit → Next S H
  | .filled caller, .ok _ => getDone caller (.ok session.cacheEntry)
  | .filled caller, .error e => getDone caller (.error e)
  | .rotated rot, .ok _ => rotateDone cfg rot (.rotated session)
  | .rotated rot, .error e => rotateDone cfg rot (.error e)

/-- The condition `confirmUserSessionActiveSnapshot` counts the row under. -/
def UserSession.confirms (row session : UserSession H) (now : ℤ) : Prop :=
  row.userId = session.userId ∧ ¬ row.inactiveAt now ∧ row.version = session.version ∧
    row.userAuthVersion = session.userAuthVersion

instance (row session : UserSession H) (now : ℤ) : Decidable (row.confirms session now) :=
  inferInstanceAs (Decidable (_ ∧ _ ∧ _ ∧ _))

/-- The decision of one round of `RotateUserSessionRefresh` on the row it has read. -/
def rotateDecide (rot : Rotation S H) (rounds : ℕ) (session : UserSession H) (deadline : ℤ) :
    Next S H :=
  if session.inactiveAt rot.now then rotateDone cfg rot (.error .inactive)
  else if session.refreshHash = rot.presentedHash then .go (.rotateSwap rot rounds session deadline)
  else if session.previousRefreshHash ≠ some rot.presentedHash then
    rotateDone cfg rot (.error .refreshInvalid)
  else if rot.now ≤ session.previousValidUntil then rotateDone cfg rot (.race session)
  else writeUserSessionDenyFence cfg session rot.now "refresh_reuse" (.reuseFenced rot session)

/-- The rotation a refresh asks for. -/
def refreshRotation (secret : S) (userId now : ℤ) : Rotation S H where
  caller := .refresh secret
  userId := userId
  presentedHash := cfg.hashRefreshSecret secret
  nextHash := cfg.hashRefreshSecret (cfg.deriveNextRefreshSecret secret)
  now := now
  graceSeconds := refreshReplayWindow

/-- What one step of a task does to the state, and how the call goes on. -/
def act (c : Choice) : Task S H → SessionState S H × Next S H
  | .readCache caller =>
    match (if cfg.redisEnabled && !c.fails then current s.cache s.clock else none) with
    | none => (s, .go (.captureDeadline caller))
    | some entry =>
      if entry.wellFormed s.row.sid then (s, .go (.checkCached caller entry))
      else (s, .go (.captureDeadline caller))
  | .checkCached caller entry =>
    if inactive entry.status entry.revokedAt entry.expiresAt (unix s.clock) then
      (s, getDone caller (.error .inactive))
    else (s, getDone caller (.ok entry))
  | .captureDeadline caller => (s, .go (.readRow caller (userSessionCacheDeadline cfg.ttl s.clock)))
  | .readRow caller deadline =>
    if c.fails then (s, getDone caller (.error .database))
    else (s, .go (.checkRow caller s.row deadline))
  | .checkRow caller session deadline =>
    if session.inactiveAt (unix s.clock) then
      (s, writeUserSessionCache cfg { session.cacheEntry with status := .revoked } none
        (.denied caller))
    else (s, writeUserSessionCache cfg session.cacheEntry (some deadline) (.filled caller session))
  | .prepare entry deadline k =>
    match redisExpiration cfg.ttl entry deadline s.clock with
    | .error e => (s, afterWrite cfg k (.error e))
    | .ok expiration => (s, .go (.eval entry deadline expiration k))
  | .eval entry deadline expiration k =>
    if c.fails then (s, afterWrite cfg k (.error .redis))
    else
      let r := evalScript entry expiration s.clock s.cache
      if r.1 then
        ({ s with cache := r.2 },
          if entry.status = .active then .go (.complete entry deadline k)
          else afterWrite cfg k (.ok ()))
      else (s, afterWrite cfg k (.error .inactive))
  | .complete entry deadline k => (s, afterWrite cfg k (completeWrite entry deadline s.clock))
  | .confirm session k =>
    if session.cacheEntry.wellFormed s.row.sid then (s, .go (.confirmRow session (unix s.clock) k))
    else (s, confirmDone cfg session k (.error .invalid))
  | .confirmRow session now k =>
    if c.fails then (s, confirmDone cfg session k (.error .database))
    else if s.row.confirms session now then (s, confirmDone cfg session k (.ok ()))
    else (s, confirmDone cfg session k (.error .inactive))
  | .rotateStart rot =>
    if rot.userId ≤ 0 ∨ rot.presentedHash = rot.nextHash ∨ rot.graceSeconds < 0 then
      (s, rotateDone cfg rot (.error .invalid))
    else
      (s, rotateRound cfg (if rot.now ≤ 0 then { rot with now := unix s.clock } else rot) 3)
  | .rotateDeadline rot rounds =>
    (s, .go (.rotateRead rot rounds (userSessionCacheDeadline cfg.ttl s.clock)))
  | .rotateRead rot rounds deadline =>
    if c.fails then (s, rotateDone cfg rot (.error .database))
    else if s.row.userId ≠ rot.userId then (s, rotateDone cfg rot (.error .notFound))
    else (s, rotateDecide cfg rot rounds s.row deadline)
  | .rotateSwap rot rounds session deadline =>
    if c.fails then (s, rotateDone cfg rot (.error .database))
    else if s.row.userId ≠ rot.userId ∨ s.row.inactiveAt rot.now ∨
        s.row.refreshHash ≠ rot.presentedHash then
      (s, rotateRound cfg rot rounds)
    else
      ({ s with
          row := { s.row.rotate rot.nextHash rot.now rot.graceSeconds with
            previousRefreshHash := some session.refreshHash }
          swaps := s.swaps ++ [(s.row.refreshHash, rot.nextHash)] },
        let rotated := session.rotate rot.nextHash rot.now rot.graceSeconds
        writeUserSessionCache cfg rotated.cacheEntry (some deadline) (.rotated rot rotated))
  | .reuseRevoke rot session =>
    if c.fails then (s, rotateDone cfg rot (.error .database))
    else if s.row.userId ≠ rot.userId ∨ s.row.inactiveAt rot.now then
      (s, rotateDone cfg rot (.error .inactive))
    else
      ({ s with row := s.row.revoke rot.now "refresh_reuse" },
        writeUserSessionCache cfg (session.revoke rot.now "refresh_reuse").cacheEntry none
          (.reuseBuried rot))
  | .revokeStart caller userId reason =>
    if userId ≤ 0 then (s, revokeDone caller (.error .invalid))
    else (s, .go (.revokeRead ⟨caller, userId, reason, unix s.clock⟩))
  | .revokeRead rev =>
    if c.fails then (s, revokeDone rev.caller (.error .database))
    else if s.row.userId ≠ rev.userId ∨ s.row.inactiveAt rev.now then
      (s, revokeDone rev.caller (.ok false))
    else
      (s, writeUserSessionDenyFence cfg s.row rev.now rev.reason (.revokeFenced rev s.row))
  | .revokeRow rev candidate =>
    if c.fails then (s, revokeDone rev.caller (.error .database))
    else if s.row.userId ≠ rev.userId then (s, revokeDone rev.caller (.error .notFound))
    else if s.row.inactiveAt rev.now then (s, revokeDone rev.caller (.ok false))
    else
      ({ s with row := s.row.revoke rev.now rev.reason },
        writeUserSessionCache cfg (candidate.revoke rev.now rev.reason).cacheEntry none
          (.revokeBuried rev))
  | .checkSession secret entry =>
    if inactive entry.status entry.revokedAt entry.expiresAt (unix s.clock) then
      (s, .reply (.refreshed (.error .loginSessionRevoked)))
    else (s, .go (.checkUser secret entry))
  | .checkUser secret entry =>
    if c.fails then (s, .reply (.refreshed (.error (.session .database))))
    else if c.userChanged then
      (s, .go (.revokeStart (.refresh secret) entry.userId "user_security_changed"))
    else (s, .go (.rotate secret entry))
  | .rotate secret entry =>
    (s, .go (.rotateStart (refreshRotation cfg secret entry.userId (unix s.clock))))
  | .issue nextSecret => (s, .reply (.refreshed (.ok nextSecret)))

/-! ## What a step can change -/

/-- Four tasks write: one to the cache, three to the row, and these find it active. -/
inductive Effect : Task S H → SessionState S H → Prop
  | same (task : Task S H) : Effect task s
  | wrote (entry : CacheEntry) (deadline : Option ℤ) (expiration : ℤ) (k : AfterWrite S H)
      (h : (evalScript entry expiration s.clock s.cache).1 = true) :
      Effect (.eval entry deadline expiration k)
        { s with cache := (evalScript entry expiration s.clock s.cache).2 }
  | swapped (rot : Rotation S H) (rounds : ℕ) (session : UserSession H) (deadline : ℤ)
      (hactive : ¬ s.row.inactiveAt rot.now) (hhash : s.row.refreshHash = rot.presentedHash) :
      Effect (.rotateSwap rot rounds session deadline)
        { s with
          row := { s.row.rotate rot.nextHash rot.now rot.graceSeconds with
            previousRefreshHash := some session.refreshHash }
          swaps := s.swaps ++ [(s.row.refreshHash, rot.nextHash)] }
  | reuseRevoked (rot : Rotation S H) (session : UserSession H)
      (hactive : ¬ s.row.inactiveAt rot.now) :
      Effect (.reuseRevoke rot session) { s with row := s.row.revoke rot.now "refresh_reuse" }
  | revoked (rev : Revocation S) (candidate : UserSession H)
      (hactive : ¬ s.row.inactiveAt rev.now) :
      Effect (.revokeRow rev candidate) { s with row := s.row.revoke rev.now rev.reason }

theorem act_effect (c : Choice) (task : Task S H) : Effect s task (act cfg s c task).1 := by
  cases task with
  | eval entry deadline expiration k =>
    rw [act]
    dsimp only
    split_ifs with hf hr
    · exact .same _
    · exact .wrote entry deadline expiration k hr
    · exact .wrote entry deadline expiration k hr
    · exact .same _
  | rotateSwap rot rounds session deadline =>
    rw [act]
    split_ifs with hf hstale
    · exact .same _
    · exact .same _
    · obtain ⟨-, hactive, hhash⟩ := not_or.mp hstale |>.imp_right not_or.mp
      exact .swapped rot rounds session deadline hactive (not_not.mp hhash)
  | reuseRevoke rot session =>
    rw [act]
    split_ifs with hf hstale
    · exact .same _
    · exact .same _
    · exact .reuseRevoked rot session (not_or.mp hstale).2
  | revokeRow rev candidate =>
    rw [act]
    split_ifs with hf huser hstale
    · exact .same _
    · exact .same _
    · exact .same _
    · exact .revoked rev candidate hstale
  | _ =>
    -- every other task only reads
    rw [act]
    try split
    all_goals try split_ifs
    all_goals exact .same _

end

/-! ## Calls -/

/-- A call under way, with what was known when it began. -/
structure Call (S H : Type) where
  late : Bool
  dead : Bool
  task : Task S H

/-- The requests; a direct rotation may carry any digests and any time. -/
inductive Request (S H : Type) where
  | get
  | rotate (userId : ℤ) (presentedHash nextHash : H) (now graceSeconds : ℤ)
  | revoke (userId : ℤ) (reason : String)
  | refresh (secret : S)

section

variable {S H : Type} [DecidableEq H]

/-- The first step of a request. -/
def Request.task : Request S H → Task S H
  | .get => .readCache .direct
  | .rotate userId presentedHash nextHash now graceSeconds =>
    .rotateStart ⟨.direct, userId, presentedHash, nextHash, now, graceSeconds⟩
  | .revoke userId reason => .revokeStart .direct userId reason
  | .refresh secret => .readCache (.refresh secret)

/-- The branch of `RotateUserSessionRefresh` that answers a reused secret. -/
def AfterWrite.reusing : AfterWrite S H → Bool
  | .reuseFenced .. | .reuseBuried _ => true
  | _ => false

/-- The call has found a secret used twice. -/
def Task.reusing : Task S H → Bool
  | .prepare _ _ k | .eval _ _ _ k | .complete _ _ k => k.reusing
  | .reuseRevoke .. => true
  | _ => false

/-- The call reports that it has revoked the session. -/
def Result.revokedTrue : Result S H → Bool
  | .revoked (.ok true) => true
  | _ => false

/-- A step of a call: the reply of one that ends is logged. -/
def perform (cfg : SessionConfig S H) (s : SessionState S H) (call : Call S H) (c : Choice) :
    SessionState S H × Option (Call S H) :=
  match act cfg s c call.task with
  | (s', .go task) => (s', some { call with task })
  | (s', .reply result) =>
    ({ s' with
        returned := s'.returned || result.revokedTrue
        replies := s'.replies ++ [⟨call.late, call.dead, call.task.reusing, result⟩] }, none)

/-- The calls on one session; between their steps nothing but time passes. -/
def calls (cfg : SessionConfig S H) :
    CallSystem (SessionState S H) (Call S H) (Request S H) Choice ℕ where
  init s request := ⟨s.returned, decide (s.row.status = .revoked), request.task⟩
  perform := perform cfg
  env s elapsed := { s with clock := s.clock + elapsed }

/-- A session with no call under way. -/
def atRest (clock : ℤ) (row : UserSession H) (cache : Option Cell) :
    Calls (SessionState S H) (Call S H) where
  shared := { clock, row, cache }

end

end Session
