import Mathlib.Algebra.Order.Group.Int

/-!
# Session/Cache — login sessions and their cached snapshots

The row of `model/user_session.go` and `writeUserSessionCache`, cut where other processes may come
in between: the expiry is computed first, the script runs later, and for a snapshot of an active
session the clock is read once more after it.  The clock counts nanoseconds and is read as seconds
by Go and as milliseconds by Redis.

* `covered_of_deny` — how far the tombstone of a session reaches: past every snapshot under way.
* `evalScript_covered` — a snapshot that a tombstone reaches past is refused, or gone at once.
-/

namespace Session

open Option

/-- The status of a session. -/
inductive SessionStatus where
  | active | revoking | revoked
  deriving DecidableEq

/-- A row of `user_sessions`; `H` are the digests of refresh secrets. -/
structure UserSession (H : Type) where
  sid : String
  userId : ℤ
  version : ℤ := 1
  userAuthVersion : ℤ
  status : SessionStatus := .active
  refreshHash : H
  /-- Empty until the first rotation. -/
  previousRefreshHash : Option H := none
  previousValidUntil : ℤ := 0
  createdAt : ℤ := 0
  lastActiveAt : ℤ := 0
  expiresAt : ℤ
  revokedAt : ℤ := 0
  revokedReason : String := ""
  deriving DecidableEq

/-- `userSessionCacheEntry`: the row without its digests. -/
structure CacheEntry where
  sid : String
  userId : ℤ
  version : ℤ
  userAuthVersion : ℤ
  status : SessionStatus
  createdAt : ℤ
  lastActiveAt : ℤ
  expiresAt : ℤ
  revokedAt : ℤ
  revokedReason : String
  deriving DecidableEq

/-- What is cached of a session. -/
def UserSession.cacheEntry {H : Type} (session : UserSession H) : CacheEntry where
  sid := session.sid
  userId := session.userId
  version := session.version
  userAuthVersion := session.userAuthVersion
  status := session.status
  createdAt := session.createdAt
  lastActiveAt := session.lastActiveAt
  expiresAt := session.expiresAt
  revokedAt := session.revokedAt
  revokedReason := session.revokedReason

/-! ## The clock -/

/-- `time.Time.Unix` of a clock in nanoseconds. -/
def unix (t : ℤ) : ℤ := t / 1000000000

/-- Milliseconds of an instant. -/
def unixMilli (t : ℤ) : ℤ := t / 1000000

/-- `time.Unix(sec, 0)`. -/
def nanos (sec : ℤ) : ℤ := sec * 1000000000

/-- How long an entry is kept. -/
def userCacheTTLSeconds (syncFrequency : ℤ) : ℤ := if syncFrequency ≤ 0 then 60 else syncFrequency

/-- When an entry expires. -/
def userSessionCacheDeadline (ttl now : ℤ) : ℤ := now + nanos ttl

/-- `Status != active || RevokedAt != 0 || ExpiresAt <= now`, as every reader has it. -/
def inactive (status : SessionStatus) (revokedAt expiresAt now : ℤ) : Prop :=
  status ≠ .active ∨ revokedAt ≠ 0 ∨ expiresAt ≤ now

instance (status : SessionStatus) (revokedAt expiresAt now : ℤ) :
    Decidable (inactive status revokedAt expiresAt now) := inferInstanceAs (Decidable (_ ∨ _ ∨ _))

/-! ## Writing a snapshot -/

/-- How `writeUserSessionCache` may end, besides in an error of Redis. -/
inductive WriteError where
  | invalid
  /-- `errUserSessionCacheObservationStale`. -/
  | stale
  | inactive
  /-- The script could not be run. -/
  | redis
  deriving DecidableEq

/-- The last argument of the script, computed at `now`: a moment for the snapshot of an active
session, a duration for any other.  Only the former needs a deadline. -/
def redisExpiration (ttl : ℤ) (entry : CacheEntry) (cacheDeadline : Option ℤ) (now : ℤ) :
    Except WriteError ℤ :=
  let sessionTTL := nanos entry.expiresAt - now
  if entry.status = .active then
    match cacheDeadline with
    | none => .error .invalid
    | some deadline =>
      if deadline - now ≤ 0 then .error .stale
      else if sessionTTL ≤ 0 then .error .inactive
      else
        let cacheExpiresAt := min deadline (nanos entry.expiresAt)
        if cacheExpiresAt - now < 1000000 then .error .stale else .ok (unixMilli cacheExpiresAt)
  else
    let lifetime := min sessionTTL (nanos ttl)
    let lifetime := if lifetime ≤ 0 then nanos 1 else lifetime
    .ok (max (lifetime / 1000000) 1)

/-- A Redis hash with the millisecond it expires at. -/
structure Cell where
  entry : CacheEntry
  expireAt : ℤ
  deriving DecidableEq

/-- The entry has not expired. -/
def Cell.live (cell : Cell) (now : ℤ) : Prop := unixMilli now ≤ cell.expireAt

instance (cell : Cell) (now : ℤ) : Decidable (cell.live now) := inferInstanceAs (Decidable (_ ≤ _))

/-- What a command finds under the key. -/
def current (cache : Option Cell) (now : ℤ) : Option CacheEntry :=
  (cache.filter fun cell => cell.live now).map (·.entry)

/-- The script; `PEXPIREAT` with a moment that has passed deletes the key. -/
def evalScript (entry : CacheEntry) (expiration now : ℤ) (cache : Option Cell) :
    Bool × Option Cell :=
  if entry.status = .active ∧ (current cache now).any fun e => e.status ≠ .active then
    (false, cache)
  else if ((current cache now).map (·.version)).getD 0 > entry.version then (false, cache)
  else if entry.status = .active then
    (true, if expiration ≤ unixMilli now then none else some ⟨entry, expiration⟩)
  else (true, some ⟨entry, unixMilli now + expiration⟩)

/-- The end of `writeUserSessionCache`, once the script has run. -/
def completeWrite (entry : CacheEntry) (cacheDeadline : Option ℤ) (now : ℤ) :
    Except WriteError Unit :=
  if entry.status = .active then
    if cacheDeadline.getD 0 ≤ now then .error .stale
    else if nanos entry.expiresAt ≤ now then .error .inactive
    else .ok ()
  else .ok ()

/-! ## What a tombstone covers -/

/-- The millisecond a snapshot of an active session would expire at. -/
def snapshotExpiry (expiresAt deadline : ℤ) : ℤ := unixMilli (min deadline (nanos expiresAt))

/-- A snapshot expiring at `expiry` cannot be written any more: a tombstone lasts until then, or it
is that late already. -/
def Covered (cache : Option Cell) (now expiry : ℤ) : Prop :=
  (∃ cell ∈ cache, cell.entry.status ≠ .active ∧ expiry ≤ cell.expireAt + 1) ∨
    expiry ≤ unixMilli now

/-- The snapshot of an active session in the cache, if any, has expired. -/
def Buried (cache : Option Cell) (now : ℤ) : Prop :=
  ∀ cell ∈ cache, cell.entry.status = .active → cell.expireAt < unixMilli now

instance (cache : Option Cell) (now expiry : ℤ) : Decidable (Covered cache now expiry) :=
  inferInstanceAs (Decidable ((∃ cell ∈ cache, _ ∧ _) ∨ _))

instance (cache : Option Cell) (now : ℤ) : Decidable (Buried cache now) :=
  inferInstanceAs (Decidable (∀ cell ∈ cache, _ → _))

section

variable {ttl now now' expiry expiration : ℤ} {entry : CacheEntry} {cache : Option Cell}

theorem unixMilli_le (h : now ≤ now') : unixMilli now ≤ unixMilli now' := by
  unfold unixMilli
  omega

/-- An active entry lives as long as its snapshot. -/
theorem redisExpiration_active {deadline : ℤ} (hactive : entry.status = .active)
    (h : redisExpiration ttl entry (some deadline) now = .ok expiration) :
    expiration = snapshotExpiry entry.expiresAt deadline := by
  dsimp only [redisExpiration] at h
  rw [if_pos hactive] at h
  split_ifs at h
  exact (Except.ok.inj h).symm

variable {deadline : Option ℤ}

/-- A fence lives as long as the session. -/
theorem redisExpiration_deny (hdeny : entry.status ≠ .active)
    (h : redisExpiration ttl entry deadline now = .ok expiration) :
    1 ≤ expiration ∧ min (nanos entry.expiresAt - now) (nanos ttl) / 1000000 ≤ expiration := by
  dsimp only [redisExpiration] at h
  rw [if_neg hdeny] at h
  obtain rfl := Except.ok.inj h
  split_ifs <;> omega

theorem redisExpiration_deny_ne_error {e : WriteError} (hdeny : entry.status ≠ .active) :
    redisExpiration ttl entry deadline now ≠ .error e := by
  dsimp only [redisExpiration]
  rw [if_neg hdeny]
  nofun

theorem snapshotExpiry_le_deadline (expiresAt deadline : ℤ) :
    snapshotExpiry expiresAt deadline ≤ unixMilli deadline := unixMilli_le (min_le_left _ _)

theorem snapshotExpiry_le_session (expiresAt deadline : ℤ) :
    snapshotExpiry expiresAt deadline ≤ unixMilli (nanos expiresAt) := unixMilli_le (min_le_right _ _)

/-- A tombstone computed at `earlier` and written at `now` outlasts every snapshot whose deadline
was captured by `now`, the one being no older than the other. -/
theorem covered_of_deny {earlier : ℤ} (hdeny : entry.status ≠ .active)
    (he : redisExpiration ttl entry deadline earlier = .ok expiration) (hle : earlier ≤ now)
    (hdeadline : expiry ≤ unixMilli (userSessionCacheDeadline ttl now))
    (hsession : expiry ≤ unixMilli (nanos entry.expiresAt)) :
    Covered (some ⟨entry, unixMilli now + expiration⟩) now expiry := by
  obtain ⟨hpos, hmin⟩ := redisExpiration_deny hdeny he
  refine .inl ⟨_, rfl, hdeny, ?_⟩
  simp only [unixMilli, userSessionCacheDeadline, nanos] at *
  omega

theorem Covered.mono (h : Covered cache now expiry) (hclock : now ≤ now') :
    Covered cache now' expiry :=
  h.imp_right fun hle => le_trans hle (unixMilli_le hclock)

theorem Buried.mono (h : Buried cache now) (hclock : now ≤ now') : Buried cache now' :=
  fun cell hcell hactive => lt_of_lt_of_le (h cell hcell hactive) (unixMilli_le hclock)

variable {cell : Cell}

theorem current_live (h : cell.live now) : current (some cell) now = some cell.entry := by
  rw [current, filter_some, if_pos (decide_eq_true h)]
  rfl

theorem current_dead (h : ¬ cell.live now) : current (some cell) now = none := by
  rw [current, filter_some, if_neg (by simpa using h)]
  rfl

/-- With no live snapshot of an active session, a reader finds a tombstone or nothing. -/
theorem current_of_buried (h : Buried cache now) {found : CacheEntry}
    (hfound : current cache now = some found) : found.status ≠ .active := by
  cases cache with
  | none => cases hfound
  | some cell =>
    by_cases hlive : cell.live now
    · rw [current_live hlive] at hfound
      obtain rfl := some.inj hfound
      exact fun hactive => absurd (h cell rfl hactive) (not_lt.mpr hlive)
    · rw [current_dead hlive] at hfound
      cases hfound

/-- A fence is refused or takes the place. -/
theorem evalScript_deny (hdeny : entry.status ≠ .active) (expiration now : ℤ)
    (cache : Option Cell) :
    evalScript entry expiration now cache = (false, cache) ∨
      evalScript entry expiration now cache
        = (true, some ⟨entry, unixMilli now + expiration⟩) := by
  unfold evalScript
  rw [if_neg (fun h => hdeny h.1)]
  split_ifs
  · exact .inl rfl
  · exact .inr rfl

/-- What is cached was there or is written. -/
theorem mem_evalScript (h : cell ∈ (evalScript entry expiration now cache).2) :
    cell ∈ cache ∨ cell.entry = entry := by
  unfold evalScript at h
  split_ifs at h
  · exact .inl h
  · exact .inl h
  · cases h
  · exact .inr (congrArg Cell.entry (some.inj h)).symm
  · exact .inr (congrArg Cell.entry (some.inj h)).symm

/-- **A covered snapshot is refused, or gone at once.** -/
theorem evalScript_covered (hactive : entry.status = .active)
    (h : Covered cache now expiration) :
    (evalScript entry expiration now cache).2 = cache ∨
      ((evalScript entry expiration now cache).2 = none ∧
        ∀ cell ∈ cache, cell.entry.status ≠ .active → cell.expireAt < unixMilli now) := by
  unfold evalScript
  by_cases hdenied : (current cache now).any fun e => e.status ≠ .active
  · exact .inl (by rw [if_pos ⟨hactive, hdenied⟩])
  rw [if_neg fun hc => hdenied hc.2]
  -- no tombstone is live, so what the snapshot is covered by is the clock
  have hdead : ∀ cell ∈ cache, cell.entry.status ≠ .active → cell.expireAt < unixMilli now := by
    intro cell hcell hdeny
    obtain rfl := mem_def.mp hcell
    by_contra hlive
    have hlive : cell.live now := not_lt.mp hlive
    exact hdenied (by rw [current_live hlive]; exact decide_eq_true hdeny)
  have hpast : expiration ≤ unixMilli now := by
    obtain ⟨cell, hcell, hdeny, hle⟩ | hle := h
    · have := hdead cell hcell hdeny
      omega
    · exact hle
  split_ifs
  · exact .inl rfl
  · exact .inr ⟨rfl, hdead⟩

end

end Session
