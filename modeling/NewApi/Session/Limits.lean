import NewApi.Machinery.Calls
import NewApi.Session.Cache

/-!
# Session/Limits — how many sessions a user may have

Two ways to log in create a session.  `createLoginSession` counts the user's sessions and inserts
another as separate statements; `CreateUserSessionFromLoginFlow` does both in a transaction that
locks the user, which keeps out its own kind only.  The first takes a limit of `0` as none, the
second compares with it.

* `session_limits` — both limits hold, and no login is refused for a limit of `0`, as long as no
  session of the user is inserted between a count and its insertion, the session of a login flow is
  dated no earlier than its count, and login flows are used with positive limits only.
* `session_limits_raced` — two logins at once, and a login flow without limits.
-/

namespace Session

open List

/-- The limits on sessions. -/
structure LimitConfig where
  activeLimit : ℤ
  issuanceLimit : ℤ
  issuanceWindowSeconds : ℤ

/-- `LoginSessionTTL`, in seconds. -/
def loginSessionTTL : ℤ := 30 * 24 * 60 * 60

/-- Why a login is refused. -/
inductive LoginError where
  | invalid | limit | issuanceLimit
  /-- Whatever else may go wrong: the user is not found, disabled or changed, the flow is not valid,
  a statement fails. -/
  | refused
  deriving DecidableEq

section

variable {H : Type}

/-- The row of a new session. -/
def newLoginSession (sid : String) (userId authVersion : ℤ) (refreshHash : H) (now : ℤ) :
    UserSession H where
  sid := sid
  userId := userId
  userAuthVersion := authVersion
  refreshHash := refreshHash
  createdAt := now
  lastActiveAt := now
  expiresAt := now + loginSessionTTL

/-- `CountActiveUserSessions` reads the clock again if it is given no time. -/
def nowOr (now clock : ℤ) : ℤ := if now ≤ 0 then clock else now

theorem nowOr_le {now clock : ℤ} (h : now ≤ clock) : nowOr now clock ≤ clock := by
  unfold nowOr
  split_ifs
  · exact le_refl _
  · exact h

/-- The count of `CountActiveUserSessions`. -/
def countActive (sessions : List (UserSession H)) (userId now : ℤ) : ℕ :=
  sessions.countP fun r => r.userId = userId ∧ r.status = .active ∧ now < r.expiresAt

/-- The count of `CountUserSessionsCreatedSince`. -/
def countCreatedSince (sessions : List (UserSession H)) (userId createdAfter : ℤ) : ℕ :=
  sessions.countP fun r => r.userId = userId ∧ createdAfter < r.createdAt

/-- The sessions created in the `window` seconds after `start`. -/
def countWindow (sessions : List (UserSession H)) (userId start window : ℤ) : ℕ :=
  sessions.countP fun r =>
    r.userId = userId ∧ start < r.createdAt ∧ r.createdAt ≤ start + window

/-- All sessions the user has ever been issued. -/
def issued (sessions : List (UserSession H)) (userId : ℤ) : ℕ :=
  sessions.countP fun r => r.userId = userId

end

/-! ## The two logins, step by step -/

/-- `locks` are the users whose row a transaction holds. -/
structure LoginState (H : Type) where
  clock : ℤ
  sessions : List (UserSession H) := []
  locks : List ℤ := []
  replies : List (Except LoginError (UserSession H)) := []

/-- What a login does next; `seen` remembers how many sessions the user had when they were first
counted, and `now` the second they were counted at. -/
inductive LoginTask (H : Type) where
  -- createLoginSession
  | start (userId : ℤ)
  | countActive (userId authVersion now : ℤ)
  | countIssuance (userId authVersion now : ℤ) (seen : ℕ)
  | build (userId authVersion now : ℤ) (seen : ℕ)
  | insert (session : UserSession H) (now : ℤ) (seen : ℕ)
  -- CompleteLoginVerification and CreateUserSessionFromLoginFlow
  | flowBuild (userId authVersion : ℤ)
  | flowLock (session : UserSession H)
  | flowNow (session : UserSession H)
  | flowCountActive (session : UserSession H) (now : ℤ)
  | flowCountIssuance (session : UserSession H) (now : ℤ) (seen : ℕ)
  | flowInsert (session : UserSession H) (now : ℤ) (seen : ℕ)

/-- What a step leaves open: whether a check of the user, the flow or a statement fails, and the
values a new session is made of. -/
structure LoginChoice (H : Type) where
  fails : Bool := false
  sid : String := ""
  authVersion : ℤ := 1
  refreshHash : H

/-- A login by `createLoginSession`, or one that completes a login flow. -/
inductive LoginRequest where
  | login (userId : ℤ)
  | flow (userId authVersion : ℤ)

/-- Time passes, or a session is revoked. -/
inductive LoginEvent where
  | tick (seconds : ℕ)
  | revoke (sid : String)

section

variable {H : Type} (cfg : LimitConfig) (s : LoginState H)

/-- A login goes on, or replies. -/
inductive LoginNext (H : Type) where
  | go (task : LoginTask H)
  | reply (r : Except LoginError (UserSession H))

/-- The checks of `createUserSessionWithTx`. -/
def creatable (session : UserSession H) (now : ℤ) : Prop :=
  0 < session.userId ∧ 0 < session.userAuthVersion ∧ now < session.expiresAt

instance (session : UserSession H) (now : ℤ) : Decidable (creatable session now) :=
  inferInstanceAs (Decidable (_ ∧ _ ∧ _))

/-- The transaction ends and gives back the user's row. -/
def LoginState.unlock (userId : ℤ) : LoginState H := { s with locks := s.locks.erase userId }

/-- One step of a login. -/
def loginAct (c : LoginChoice H) : LoginTask H → LoginState H × LoginNext H
  | .start userId =>
    if c.fails then (s, .reply (.error .refused))
    else (s, .go (.countActive userId c.authVersion s.clock))
  | .countActive userId authVersion now =>
    let seen := issued s.sessions userId
    if 0 < cfg.activeLimit then
      if c.fails then (s, .reply (.error .refused))
      else if userId ≤ 0 then (s, .reply (.error .invalid))
      else if cfg.activeLimit ≤ countActive s.sessions userId (nowOr now s.clock) then
        (s, .reply (.error .limit))
      else (s, .go (.countIssuance userId authVersion now seen))
    else (s, .go (.countIssuance userId authVersion now seen))
  | .countIssuance userId authVersion now seen =>
    if 0 < cfg.issuanceLimit then
      let createdAfter := now - cfg.issuanceWindowSeconds
      if c.fails then (s, .reply (.error .refused))
      else if userId < 0 ∨ createdAfter ≤ 0 then (s, .reply (.error .invalid))
      else if cfg.issuanceLimit ≤ countCreatedSince s.sessions userId createdAfter then
        (s, .reply (.error .issuanceLimit))
      else (s, .go (.build userId authVersion now seen))
    else (s, .go (.build userId authVersion now seen))
  | .build userId authVersion now seen =>
    (s, .go (.insert (newLoginSession c.sid userId authVersion c.refreshHash s.clock) now seen))
  | .insert session _ _ =>
    if creatable session s.clock then
      if c.fails then (s, .reply (.error .refused))
      else ({ s with sessions := s.sessions ++ [session] }, .reply (.ok session))
    else (s, .reply (.error .invalid))
  | .flowBuild userId authVersion =>
    (s, .go (.flowLock (newLoginSession c.sid userId authVersion c.refreshHash s.clock)))
  | .flowLock session =>
    -- a transaction waits for the user's row; with it in hand the user and the flow are checked
    if session.userId ∈ s.locks then (s, .go (.flowLock session))
    else if c.fails then (s, .reply (.error .refused))
    else ({ s with locks := session.userId :: s.locks }, .go (.flowNow session))
  | .flowNow session => (s, .go (.flowCountActive session s.clock))
  | .flowCountActive session now =>
    if c.fails then (s.unlock session.userId, .reply (.error .refused))
    else if cfg.activeLimit ≤ countActive s.sessions session.userId now then
      (s.unlock session.userId, .reply (.error .limit))
    else (s, .go (.flowCountIssuance session now (issued s.sessions session.userId)))
  | .flowCountIssuance session now seen =>
    if c.fails then (s.unlock session.userId, .reply (.error .refused))
    else if cfg.issuanceLimit ≤
        countCreatedSince s.sessions session.userId (now - cfg.issuanceWindowSeconds) then
      (s.unlock session.userId, .reply (.error .issuanceLimit))
    else (s, .go (.flowInsert session now seen))
  | .flowInsert session _ _ =>
    if creatable session s.clock then
      if c.fails then (s.unlock session.userId, .reply (.error .refused))
      else
        ({ s with
            sessions := s.sessions ++ [session]
            locks := s.locks.erase session.userId }, .reply (.ok session))
    else (s.unlock session.userId, .reply (.error .invalid))

/-- The step, with the login that is left. -/
def loginPerform (task : LoginTask H) (c : LoginChoice H) :
    LoginState H × Option (LoginTask H) :=
  match loginAct cfg s c task with
  | (s', .go next) => (s', some next)
  | (s', .reply r) => ({ s' with replies := s'.replies ++ [r] }, none)

/-- The first step of a request. -/
def LoginRequest.task : LoginRequest → LoginTask H
  | .login userId => .start userId
  | .flow userId authVersion => .flowBuild userId authVersion

/-- A revocation of any kind: the row is no longer active. -/
def revokeSid (sid : String) (now : ℤ) (r : UserSession H) : UserSession H :=
  if r.sid = sid then { r with status := .revoked, revokedAt := now } else r

/-- Logins as a system of calls. -/
def logins : CallSystem (LoginState H) (LoginTask H) LoginRequest (LoginChoice H) LoginEvent where
  init _ request := request.task
  perform := loginPerform cfg
  env s event :=
    match event with
    | .tick seconds => { s with clock := s.clock + seconds }
    | .revoke sid => { s with sessions := s.sessions.map (revokeSid sid s.clock) }

/-! ## When the counts can be trusted -/

/-- At an insertion no session of the user has come in since the count, and the new one is dated no
earlier than that; a login flow compares with positive limits only. -/
def LoginTask.unraced : LoginTask H → Prop
  | .insert session _ seen => issued s.sessions session.userId = seen
  | .flowCountActive .. => 0 < cfg.activeLimit
  | .flowCountIssuance .. => 0 < cfg.issuanceLimit
  | .flowInsert session now seen =>
    issued s.sessions session.userId = seen ∧ now ≤ session.createdAt
  | _ => True

instance (task : LoginTask H) : Decidable (task.unraced cfg s) :=
  match task with
  | .insert .. => inferInstanceAs (Decidable (_ = _))
  | .flowCountActive .. => inferInstanceAs (Decidable (_ < _))
  | .flowCountIssuance .. => inferInstanceAs (Decidable (_ < _))
  | .flowInsert .. => inferInstanceAs (Decidable (_ ∧ _))
  | .start .. | .countActive .. | .countIssuance .. | .build .. | .flowBuild .. | .flowLock ..
  | .flowNow .. => .isTrue trivial

/-- No other login is between its count and its insert. -/
def Unraced (w : Calls (LoginState H) (LoginTask H)) :
    CallOp LoginRequest (LoginChoice H) LoginEvent → Prop
  | .advance k _ => ∀ task ∈ w.tasks[k]?, task.unraced cfg w.shared
  | _ => True

instance (w : Calls (LoginState H) (LoginTask H))
    (op : CallOp LoginRequest (LoginChoice H) LoginEvent) : Decidable (Unraced cfg w op) :=
  match op with
  | .advance k _ => inferInstanceAs (Decidable (∀ task ∈ w.tasks[k]?, _))
  | .start _ => .isTrue trivial
  | .env _ => .isTrue trivial

end

/-! ## Counting -/

section

variable {H : Type} {sessions : List (UserSession H)} {userId : ℤ}

theorem countActive_anti {t t' : ℤ} (h : t ≤ t') :
    countActive sessions userId t' ≤ countActive sessions userId t := by
  refine countP_mono_left fun r _ hr => ?_
  obtain ⟨huser, hactive, hexpires⟩ := of_decide_eq_true hr
  exact decide_eq_true ⟨huser, hactive, h.trans_lt hexpires⟩

theorem countActive_append_le (sessions : List (UserSession H)) (userId : ℤ)
    (session : UserSession H) (t : ℤ) :
    countActive (sessions ++ [session]) userId t ≤ countActive sessions userId t + 1 := by
  rw [countActive, countP_append]
  exact Nat.add_le_add_left countP_le_length _

theorem countWindow_append_le (sessions : List (UserSession H)) (userId : ℤ)
    (session : UserSession H) (start window : ℤ) :
    countWindow (sessions ++ [session]) userId start window
      ≤ countWindow sessions userId start window + 1 := by
  rw [countWindow, countP_append]
  exact Nat.add_le_add_left countP_le_length _

theorem issued_append_self (session : UserSession H) :
    issued (sessions ++ [session]) session.userId = issued sessions session.userId + 1 := by
  rw [issued, countP_append, countP_singleton, if_pos (decide_eq_true rfl)]
  rfl

variable {p : UserSession H → Bool}

/-- A session of somebody else changes none of the counts. -/
theorem countP_append_other {session : UserSession H} (h : p session = false) :
    (sessions ++ [session]).countP p = sessions.countP p := by
  rw [countP_append, countP_singleton, h]
  rfl

/-- What is in a window that began late enough has been counted. -/
theorem countWindow_le_since {start window after : ℤ} (h : after ≤ start) :
    countWindow sessions userId start window ≤ countCreatedSince sessions userId after := by
  refine countP_mono_left fun r _ hr => ?_
  obtain ⟨huser, hstart, -⟩ := of_decide_eq_true hr
  exact decide_eq_true ⟨huser, h.trans_lt hstart⟩

theorem countP_revoke {sid : String} {now : ℤ}
    (h : ∀ r, p (revokeSid sid now r) = true → p r = true) :
    (sessions.map (revokeSid sid now)).countP p ≤ sessions.countP p := by
  rw [countP_map]
  exact countP_mono_left fun r _ => h r

variable (sid : String) (now : ℤ)

@[simp] theorem revokeSid_userId (r : UserSession H) : (revokeSid sid now r).userId = r.userId := by
  unfold revokeSid
  split_ifs <;> rfl

@[simp] theorem revokeSid_createdAt (r : UserSession H) :
    (revokeSid sid now r).createdAt = r.createdAt := by
  unfold revokeSid
  split_ifs <;> rfl

theorem countActive_revoke (t : ℤ) :
    countActive (sessions.map (revokeSid sid now)) userId t ≤ countActive sessions userId t := by
  refine countP_revoke fun r hr => ?_
  unfold revokeSid at hr
  split_ifs at hr
  · exact absurd (of_decide_eq_true hr).2.1 nofun
  · exact hr

theorem countCreatedSince_revoke (t : ℤ) :
    countCreatedSince (sessions.map (revokeSid sid now)) userId t
      = countCreatedSince sessions userId t := by
  simp [countCreatedSince, countP_map, Function.comp_def]

theorem countWindow_revoke (start window : ℤ) :
    countWindow (sessions.map (revokeSid sid now)) userId start window
      = countWindow sessions userId start window := by
  simp [countWindow, countP_map, Function.comp_def]

theorem issued_revoke :
    issued (sessions.map (revokeSid sid now)) userId = issued sessions userId := by
  simp [issued, countP_map, Function.comp_def]

end

/-! ## What holds at every point of a login -/

section

variable {H : Type} (cfg : LimitConfig) (s : LoginState H)

/-- Unless a session of the user came in since, fewer were active than the limit allows. -/
structure ActiveCounted (userId : ℤ) (seen : ℕ) : Prop where
  seen_le : seen ≤ issued s.sessions userId
  below : issued s.sessions userId = seen → 0 < cfg.activeLimit →
    ∃ t ≤ s.clock, (countActive s.sessions userId t : ℤ) < cfg.activeLimit

/-- …and fewer had been created in the window before `now`. -/
structure SinceCounted (userId now : ℤ) (seen : ℕ) : Prop where
  seen_le : seen ≤ issued s.sessions userId
  below : issued s.sessions userId = seen → 0 < cfg.issuanceLimit →
    (countCreatedSince s.sessions userId (now - cfg.issuanceWindowSeconds) : ℤ) < cfg.issuanceLimit

/-- The assertion at each point of a login. -/
def LoginOk : LoginTask H → Prop
  | .countActive _ _ now => now ≤ s.clock
  | .countIssuance userId _ now seen => now ≤ s.clock ∧ ActiveCounted cfg s userId seen
  | .build userId _ now seen =>
    now ≤ s.clock ∧ ActiveCounted cfg s userId seen ∧ SinceCounted cfg s userId now seen
  | .insert session now seen =>
    session.createdAt ≤ s.clock ∧ ActiveCounted cfg s session.userId seen ∧
      SinceCounted cfg s session.userId now seen ∧ now ≤ session.createdAt
  | .flowLock session | .flowNow session => session.createdAt ≤ s.clock
  | .flowCountActive session now => session.createdAt ≤ s.clock ∧ now ≤ s.clock
  | .flowCountIssuance session _ seen =>
    session.createdAt ≤ s.clock ∧ ActiveCounted cfg s session.userId seen
  | .flowInsert session now seen =>
    session.createdAt ≤ s.clock ∧ ActiveCounted cfg s session.userId seen ∧
      SinceCounted cfg s session.userId now seen
  | _ => True

/-- A refusal for a limit is one for a positive limit. -/
def RefusalOk : Except LoginError (UserSession H) → Prop
  | .error .limit => 0 < cfg.activeLimit
  | .error .issuanceLimit => 0 < cfg.issuanceLimit
  | _ => True

/-- What is left of a login keeps the limits. -/
def LoginNextOk : LoginNext H → Prop
  | .go task => LoginOk cfg s task
  | .reply r => RefusalOk cfg r

/-- **The limits hold.** -/
structure WithinLimits (s : LoginState H) : Prop where
  active : 0 < cfg.activeLimit →
    ∀ userId, (countActive s.sessions userId s.clock : ℤ) ≤ cfg.activeLimit
  issuance : 0 < cfg.issuanceLimit → ∀ userId start,
    (countWindow s.sessions userId start cfg.issuanceWindowSeconds : ℤ) ≤ cfg.issuanceLimit
  refusals : ∀ r ∈ s.replies, RefusalOk cfg r

end

/-! ## What a step does to the others -/

section

variable {H : Type} {cfg : LimitConfig} {s s' : LoginState H}

/-- For each user, a step brings no session, or it brings one. -/
structure LoginRely (s s' : LoginState H) : Prop where
  clock : s.clock ≤ s'.clock
  counts : ∀ userId, issued s.sessions userId < issued s'.sessions userId ∨
    issued s'.sessions userId = issued s.sessions userId ∧
      (∀ t, countActive s'.sessions userId t ≤ countActive s.sessions userId t) ∧
      ∀ t, countCreatedSince s'.sessions userId t ≤ countCreatedSince s.sessions userId t

variable {seen : ℕ} {userId : ℤ}

theorem ActiveCounted.frame (h : ActiveCounted cfg s userId seen) (hr : LoginRely s s') :
    ActiveCounted cfg s' userId seen := by
  obtain hmore | ⟨hsame, hactive, -⟩ := hr.counts userId
  · exact ⟨h.seen_le.trans hmore.le, fun heq => absurd (heq ▸ hmore) (not_lt.mpr h.seen_le)⟩
  · refine ⟨hsame ▸ h.seen_le, fun heq hpos => ?_⟩
    obtain ⟨t, hle, hbelow⟩ := h.below (hsame ▸ heq) hpos
    exact ⟨t, hle.trans hr.clock, lt_of_le_of_lt (Int.ofNat_le.mpr (hactive t)) hbelow⟩

variable {now : ℤ}

theorem SinceCounted.frame (h : SinceCounted cfg s userId now seen) (hr : LoginRely s s') :
    SinceCounted cfg s' userId now seen := by
  obtain hmore | ⟨hsame, -, hsince⟩ := hr.counts userId
  · exact ⟨h.seen_le.trans hmore.le, fun heq => absurd (heq ▸ hmore) (not_lt.mpr h.seen_le)⟩
  · exact ⟨hsame ▸ h.seen_le, fun heq hpos =>
      lt_of_le_of_lt (Int.ofNat_le.mpr (hsince _)) (h.below (hsame ▸ heq) hpos)⟩

variable {task : LoginTask H}

/-- **What a login has counted survives what the others do.** -/
theorem LoginOk.frame (h : LoginOk cfg s task) (hr : LoginRely s s') : LoginOk cfg s' task := by
  have hclock := hr.clock
  cases task with
  | countActive userId authVersion now => exact h.trans hclock
  | countIssuance userId authVersion now seen => exact ⟨h.1.trans hclock, h.2.frame hr⟩
  | build userId authVersion now seen =>
    exact ⟨h.1.trans hclock, h.2.1.frame hr, h.2.2.frame hr⟩
  | insert session now seen =>
    exact ⟨h.1.trans hclock, h.2.1.frame hr, h.2.2.1.frame hr, h.2.2.2⟩
  | flowLock session => exact h.trans hclock
  | flowNow session => exact h.trans hclock
  | flowCountActive session now => exact ⟨h.1.trans hclock, h.2.trans hclock⟩
  | flowCountIssuance session now seen => exact ⟨h.1.trans hclock, h.2.frame hr⟩
  | flowInsert session now seen => exact ⟨h.1.trans hclock, h.2.1.frame hr, h.2.2.frame hr⟩
  | _ => trivial

/-- Two tasks insert a session; all others touch at most the locks. -/
inductive LoginEffect (s : LoginState H) : LoginTask H → LoginState H → Prop
  | same (task : LoginTask H) (locks : List ℤ) : LoginEffect s task { s with locks }
  | inserted (session : UserSession H) (now : ℤ) (seen : ℕ) :
      LoginEffect s (.insert session now seen) { s with sessions := s.sessions ++ [session] }
  | flowInserted (session : UserSession H) (now : ℤ) (seen : ℕ) (locks : List ℤ) :
      LoginEffect s (.flowInsert session now seen)
        { s with sessions := s.sessions ++ [session], locks }

theorem loginAct_effect (cfg : LimitConfig) (s : LoginState H) (c : LoginChoice H)
    (task : LoginTask H) : LoginEffect s task (loginAct cfg s c task).1 := by
  cases task with
  | insert session now seen =>
    rw [loginAct]
    split_ifs
    · exact .same _ s.locks
    · exact .inserted session now seen
    · exact .same _ s.locks
  | flowInsert session now seen =>
    rw [loginAct]
    split_ifs
    · exact .same _ _
    · exact .flowInserted session now seen _
    · exact .same _ _
  | _ =>
    rw [loginAct]
    try dsimp only
    try split_ifs
    all_goals exact .same _ _

/-- Whatever a step inserts, the other logins can tell. -/
theorem loginRely_append (session : UserSession H) (locks : List ℤ) :
    LoginRely s { s with sessions := s.sessions ++ [session], locks } where
  clock := le_refl _
  counts := by
    intro userId
    by_cases huser : session.userId = userId
    · subst huser
      left
      rw [issued_append_self]
      exact Nat.lt_succ_self _
    · have hother {p : Prop} [Decidable p] : decide (session.userId = userId ∧ p) = false :=
        decide_eq_false fun h => huser h.1
      right
      refine ⟨countP_append_other (decide_eq_false huser), fun t => ?_, fun t => ?_⟩
      · exact (countP_append_other hother).le
      · exact (countP_append_other hother).le

theorem loginRely_of_effect (he : LoginEffect s task s') : LoginRely s s' := by
  cases he with
  | same locks => exact ⟨le_refl _, fun _ => .inr ⟨rfl, fun _ => le_refl _, fun _ => le_refl _⟩⟩
  | inserted session now seen => exact loginRely_append session s.locks
  | flowInserted session now seen locks => exact loginRely_append session locks

/-- **A counted insertion stays within the limits.** -/
theorem withinLimits_insert {session : UserSession H} (locks : List ℤ) (hs : WithinLimits cfg s)
    (hactive : ActiveCounted cfg s session.userId seen)
    (hsince : SinceCounted cfg s session.userId now seen)
    (hseen : issued s.sessions session.userId = seen) (hdated : now ≤ session.createdAt) :
    WithinLimits cfg { s with sessions := s.sessions ++ [session], locks } where
  active := by
    intro hpos userId
    by_cases huser : session.userId = userId
    · subst huser
      obtain ⟨t, hle, hbelow⟩ := hactive.below hseen hpos
      have hnow : countActive s.sessions session.userId s.clock ≤ _ := countActive_anti hle
      have happend := countActive_append_le s.sessions session.userId session s.clock
      dsimp only
      omega
    · have hother : countActive (s.sessions ++ [session]) userId s.clock
          = countActive s.sessions userId s.clock :=
        countP_append_other (decide_eq_false fun h => huser h.1)
      rw [hother]
      exact hs.active hpos userId
  issuance := by
    intro hpos userId start
    by_cases hin : session.userId = userId ∧ start < session.createdAt ∧
        session.createdAt ≤ start + cfg.issuanceWindowSeconds
    · obtain ⟨rfl, hstart, hend⟩ := hin
      -- the window begins no earlier than the one that was counted
      have hle : now - cfg.issuanceWindowSeconds ≤ start := by omega
      have hbelow := hsince.below hseen hpos
      have hwindow : countWindow s.sessions session.userId start cfg.issuanceWindowSeconds ≤ _ :=
        countWindow_le_since hle
      have happend := countWindow_append_le s.sessions session.userId session start
        cfg.issuanceWindowSeconds
      dsimp only
      omega
    · have hother : countWindow (s.sessions ++ [session]) userId start cfg.issuanceWindowSeconds
          = countWindow s.sessions userId start cfg.issuanceWindowSeconds :=
        countP_append_other (decide_eq_false hin)
      rw [hother]
      exact hs.issuance hpos userId start
  refusals := hs.refusals

theorem withinLimits_effect (he : LoginEffect s task s') (hs : WithinLimits cfg s)
    (h : LoginOk cfg s task) (hguard : task.unraced cfg s) : WithinLimits cfg s' := by
  cases he with
  | same locks => exact ⟨hs.active, hs.issuance, hs.refusals⟩
  | inserted session now seen =>
    exact withinLimits_insert s.locks hs h.2.1 h.2.2.1 hguard h.2.2.2
  | flowInserted session now seen locks =>
    exact withinLimits_insert locks hs h.2.1 h.2.2 hguard.1 hguard.2

/-! ## The login that takes a step -/

variable {c : LoginChoice H}

theorem loginNextOk_act (h : LoginOk cfg s task) (hguard : task.unraced cfg s) :
    LoginNextOk cfg (loginAct cfg s c task).1 (loginAct cfg s c task).2 := by
  cases task with
  | start userId =>
    rw [loginAct]
    split_ifs
    · trivial
    · exact le_refl _
  | countActive userId authVersion now =>
    rw [loginAct]
    split_ifs with hpos hf huser hlimit
    · trivial
    · trivial
    · exact hpos
    · exact ⟨h, le_refl _, fun _ _ => ⟨_, nowOr_le h, not_le.mp hlimit⟩⟩
    · exact ⟨h, le_refl _, fun _ hp => absurd hp hpos⟩
  | countIssuance userId authVersion now seen =>
    rw [loginAct]
    dsimp only
    split_ifs with hpos hf huser hlimit
    · trivial
    · trivial
    · exact hpos
    · exact ⟨h.1, h.2, h.2.seen_le, fun _ _ => not_le.mp hlimit⟩
    · exact ⟨h.1, h.2, h.2.seen_le, fun _ hp => absurd hp hpos⟩
  | build userId authVersion now seen => exact ⟨le_refl _, h.2.1, h.2.2, h.1⟩
  | insert session now seen =>
    rw [loginAct]
    split_ifs <;> trivial
  | flowBuild userId authVersion => exact le_refl _
  | flowLock session =>
    rw [loginAct]
    split_ifs
    · exact h
    · trivial
    · exact h
  | flowNow session => exact ⟨h, le_refl _⟩
  | flowCountActive session now =>
    rw [loginAct]
    split_ifs with hf hlimit
    · trivial
    · exact hguard
    · exact ⟨h.1, le_refl _, fun _ _ => ⟨now, h.2, not_le.mp hlimit⟩⟩
  | flowCountIssuance session now seen =>
    rw [loginAct]
    split_ifs with hf hlimit
    · trivial
    · exact hguard
    · exact ⟨h.1, h.2, h.2.seen_le, fun _ _ => not_le.mp hlimit⟩
  | flowInsert session now seen =>
    rw [loginAct]
    split_ifs <;> trivial

/-! ## Whole runs -/

theorem loginPerform_ok (hs : WithinLimits cfg s) (h : LoginOk cfg s task)
    (hguard : task.unraced cfg s) :
    WithinLimits cfg (loginPerform cfg s task c).1 ∧ LoginRely s (loginPerform cfg s task c).1 ∧
      ∀ rest ∈ (loginPerform cfg s task c).2, LoginOk cfg (loginPerform cfg s task c).1 rest := by
  have he := loginAct_effect cfg s c task
  have hs' := withinLimits_effect he hs h hguard
  have hr := loginRely_of_effect he
  have hnext := loginNextOk_act (c := c) h hguard
  unfold loginPerform
  generalize loginAct cfg s c task = r at *
  obtain ⟨s', next⟩ := r
  cases next with
  | go task =>
    refine ⟨hs', hr, fun rest hrest => ?_⟩
    obtain rfl := Option.some.inj hrest
    exact hnext
  | reply r =>
    refine ⟨⟨hs'.active, hs'.issuance, fun r' hmem => ?_⟩, ⟨hr.clock, hr.counts⟩,
      fun rest hrest => absurd hrest (Option.not_mem_none rest)⟩
    obtain hmem | hmem := mem_append.mp hmem
    · exact hs'.refusals r' hmem
    · rw [mem_singleton.mp hmem]
      exact hnext

theorem tick_withinLimits (seconds : ℕ) (hs : WithinLimits cfg s) :
    WithinLimits cfg { s with clock := s.clock + seconds } ∧
      LoginRely s { s with clock := s.clock + seconds } := by
  have hclock : s.clock ≤ s.clock + seconds := le_add_of_nonneg_right (Int.natCast_nonneg _)
  refine ⟨⟨fun hpos userId => ?_, hs.issuance, hs.refusals⟩,
    ⟨hclock, fun _ => .inr ⟨rfl, fun _ => le_refl _, fun _ => le_refl _⟩⟩⟩
  exact (Int.ofNat_le.mpr (countActive_anti hclock)).trans (hs.active hpos userId)

theorem revoke_withinLimits (sid : String) (hs : WithinLimits cfg s) :
    WithinLimits cfg { s with sessions := s.sessions.map (revokeSid sid s.clock) } ∧
      LoginRely s { s with sessions := s.sessions.map (revokeSid sid s.clock) } := by
  refine ⟨⟨fun hpos userId => ?_, fun hpos userId start => ?_, hs.refusals⟩, le_refl _,
    fun userId => .inr ⟨issued_revoke sid s.clock, countActive_revoke sid s.clock,
      fun t => (countCreatedSince_revoke sid s.clock t).le⟩⟩
  · exact (Int.ofNat_le.mpr (countActive_revoke sid s.clock _)).trans (hs.active hpos userId)
  · dsimp only
    rw [countWindow_revoke]
    exact hs.issuance hpos userId start

theorem limits_run {w : Calls (LoginState H) (LoginTask H)}
    {ops : List (CallOp LoginRequest (LoginChoice H) LoginEvent)}
    (h : Calls.Holds (WithinLimits cfg) (LoginOk cfg) w)
    (hguard : Runs.Guarded (Calls.step (logins cfg)) (Unraced cfg) w ops) :
    Calls.Holds (WithinLimits cfg) (LoginOk cfg) (Runs.run (Calls.step (logins cfg)) w ops) := by
  refine Calls.holds_run ?_ ?_ ?_ h hguard
  · intro w request _ _
    cases request <;> trivial
  · intro w k c task hg htask h
    obtain ⟨hs, hr, hrest⟩ := loginPerform_ok (c := c) h.shared
      (h.tasks task (mem_of_getElem? htask)) (hg task htask)
    exact ⟨hs, fun other hother => (h.tasks other hother).frame hr, hrest⟩
  · intro w event _ h
    cases event with
    | tick seconds =>
      obtain ⟨hs, hr⟩ := tick_withinLimits seconds h.shared
      exact ⟨hs, fun other hother => (h.tasks other hother).frame hr⟩
    | revoke sid =>
      obtain ⟨hs, hr⟩ := revoke_withinLimits sid h.shared
      exact ⟨hs, fun other hother => (h.tasks other hother).frame hr⟩

/-- **Session limits hold on both login paths.**  Let logins of both kinds, by any users, be
interleaved with each other, with revocations and with time in any way in which no session of the
user is inserted between the counts of a login and its insertion, the session of a login flow is
dated no earlier than its counts, and login flows meet positive limits.  Then no user has more
active sessions than a positive limit, none was issued more in any window than a positive limit, and
no login has been refused for a limit of `0`. -/
theorem session_limits (cfg : LimitConfig) (clock : ℤ)
    (ops : List (CallOp LoginRequest (LoginChoice H) LoginEvent))
    (hguard : Runs.Guarded (Calls.step (logins cfg)) (Unraced cfg) ⟨{ clock }, []⟩ ops) :
    WithinLimits cfg (Runs.run (Calls.step (logins cfg)) ⟨{ clock }, []⟩ ops).shared := by
  have hstart : WithinLimits cfg ({ clock } : LoginState H) :=
    ⟨fun hpos _ => hpos.le, fun hpos _ _ => hpos.le, fun _ h => absurd h not_mem_nil⟩
  exact (limits_run ⟨hstart, fun _ h => absurd h not_mem_nil⟩ hguard).shared

end

/-! ## Two logins at once, and no limit -/

/-- The `k`-th login takes a step and nothing fails. -/
def loginStep (k : ℕ) : CallOp LoginRequest (LoginChoice Unit) LoginEvent :=
  .advance k { sid := "s", refreshHash := () }

/-- A run from the beginning. -/
def loginRun (cfg : LimitConfig) (ops : List (CallOp LoginRequest (LoginChoice Unit) LoginEvent)) :
    LoginState Unit :=
  (Runs.run (Calls.step (logins cfg)) ⟨{ clock := 100000 }, []⟩ ops).shared

/-- A login, a login flow and a third login that is refused. -/
theorem session_limits_three :
    let s := loginRun ⟨2, 2, 3600⟩
      (.start (.login 1) :: replicate 5 (loginStep 0) ++
        .start (.flow 1 1) :: replicate 6 (loginStep 0) ++
        .start (.login 1) :: replicate 2 (loginStep 0))
    s.replies.length = 3 ∧ countActive s.sessions 1 s.clock = 2 ∧ WithinLimits ⟨2, 2, 3600⟩ s :=
  ⟨by decide, by decide, session_limits ⟨2, 2, 3600⟩ 100000 _ (by decide)⟩

/-- **Neither limit survives two logins at once, and a login flow takes no limit for a limit of
none.**  Both logins count no session and both insert one. -/
theorem session_limits_raced :
    (let s := loginRun ⟨1, 1, 3600⟩
      [.start (.login 1), .start (.login 1), loginStep 0, loginStep 0, loginStep 0, loginStep 0,
        loginStep 0, loginStep 0, loginStep 0, loginStep 0, loginStep 0, loginStep 0]
    countActive s.sessions 1 s.clock = 2 ∧ countWindow s.sessions 1 99999 3600 = 2) ∧
    (loginRun ⟨0, 0, 3600⟩ (.start (.flow 1 1) :: replicate 4 (loginStep 0))).replies =
      [.error .limit] :=
  ⟨by decide, rfl⟩

end Session
