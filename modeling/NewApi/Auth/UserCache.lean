import Mathlib.Order.Lattice

/-!
# Auth/UserCache — the cached user hash and its version fences

The Redis scripts of `model/user_auth_cache.go` and the two halves of `cacheGetUserBase`.  Three
keys a user: the hash, a pending fence set before a restrictive transaction, and the committed
version.  A script runs atomically; expiry is left to the caller of the model.

* `admitVersion_eq_some` — what the check at the head of the cache writes lets through.
* `checkFloor_eq_ok` — what a reader accepts.
-/

namespace Auth

/-- The schema that a hash must have. -/
def userCacheSchemaVersion : ℤ := 2

/-- The columns of a user the cache holds. -/
structure UserBase where
  id : ℤ
  group : String := ""
  email : String := ""
  quota : ℤ := 0
  status : ℤ := 1
  role : ℤ := 1
  username : String := ""
  setting : String := ""
  authVersion : ℤ
  deriving DecidableEq

/-- The cached hash. -/
structure UserHash where
  user : UserBase
  /-- The `Quota` field is there. -/
  hasQuota : Bool
  cacheSchema : ℤ
  deriving DecidableEq

/-- The keys of one user. -/
structure AuthRedis where
  hash : Option UserHash := none
  /-- `auth:user:fence`, the pending fence. -/
  fence : Option ℤ := none
  /-- `auth:user:version`, the committed version. -/
  version : Option ℤ := none
  deriving DecidableEq

namespace AuthRedis

/-- `tonumber(redis.call('GET', …) or '0')`. -/
def pending (r : AuthRedis) : ℤ := r.fence.getD 0

/-- The version published last. -/
def committed (r : AuthRedis) : ℤ := r.version.getD 0

/-- The version of the hash. -/
def current (r : AuthRedis) : ℤ := (r.hash.map (·.user.authVersion)).getD 0

/-- `committed < incoming`, then `SET`; and a pending fence that `incoming` reaches is deleted. -/
def raise (r : AuthRedis) (incoming : ℤ) : AuthRedis :=
  { r with
    version := if r.committed < incoming then some incoming else r.version
    fence := if 0 < r.pending ∧ r.pending ≤ incoming then none else r.fence }

/-- The head of both cache writes. -/
def admitVersion (r : AuthRedis) (incoming : ℤ) : Option AuthRedis :=
  if r.pending > incoming ∨ r.committed > incoming ∨ r.current > incoming then none
  else some (r.raise incoming)

end AuthRedis

/-- What a write of the cache reports. -/
inductive CacheReply where
  | ok
  | userAuthCachePending
  | invalidAuthVersion
  | skipped
  deriving DecidableEq

/-- The fields `HSET` writes; `Quota` is kept, or written if it is missing and included. -/
def UserHash.write (hash : Option UserHash) (user : UserBase) (includeQuota : Bool) : UserHash where
  user := { user with
    quota := match hash with
      | some h => if h.hasQuota then h.user.quota else user.quota
      | none => user.quota }
  hasQuota := includeQuota || (hash.map (·.hasQuota)).getD false
  cacheSchema := userCacheSchemaVersion

/-- `writeUserCache`, of `populateUserCache` with the quota and of `updateUserCache` without. -/
def writeUserCache (user : UserBase) (includeQuota : Bool) (r : AuthRedis) :
    CacheReply × AuthRedis :=
  if user.id ≤ 0 then (.skipped, r)
  else if user.authVersion ≤ 0 then (.invalidAuthVersion, r)
  else
    match r.admitVersion user.authVersion with
    | none => (.userAuthCachePending, r)
    | some r' =>
      if includeQuota = false ∧ r.hash = none then (.ok, r')
      else (.ok, { r' with hash := some (UserHash.write r.hash user includeQuota) })

/-- `updateUserCacheFieldAtVersion`: the field is written only into a hash of that version. -/
def updateUserCacheFieldAtVersion (set : UserBase → UserBase) (authVersion : ℤ) (r : AuthRedis) :
    CacheReply × AuthRedis :=
  if authVersion ≤ 0 then (.invalidAuthVersion, r)
  else
    match r.admitVersion authVersion with
    | none => (.userAuthCachePending, r)
    | some r' =>
      match r.hash with
      | none => (.ok, r')
      | some h =>
        if h.user.authVersion ≠ authVersion then (.ok, r')
        else (.ok, { r' with
          hash := some { h with
            user := { set h.user with authVersion := h.user.authVersion }
            cacheSchema := userCacheSchemaVersion } })

/-- `SetUserAuthVersionFence`; only the time to live changes if the fence is as high already. -/
def setUserAuthVersionFence (authVersion : ℤ) (r : AuthRedis) : AuthRedis :=
  if authVersion ≤ 0 then r
  else if r.pending < authVersion then { r with fence := some authVersion } else r

/-- The version is raised, and a fence it reaches removed. -/
def publishCommittedUserAuthVersion (authVersion : ℤ) (r : AuthRedis) : AuthRedis :=
  if authVersion ≤ 0 then r else r.raise authVersion

/-- A quota delta for a hash that is there. -/
def cacheApplyUserQuotaDelta (userId delta : ℤ) (r : AuthRedis) : AuthRedis :=
  match r.hash with
  | none => r
  | some h =>
    if h.user.id ≠ userId ∨ h.cacheSchema ≠ userCacheSchemaVersion ∨ h.hasQuota = false then r
    else { r with hash := some { h with user := { h.user with quota := h.user.quota + delta } } }

/-! ## Reading -/

/-- The least version that readers accept. -/
def getUserAuthVersionFloor (r : AuthRedis) : ℤ := max 0 (max r.pending r.committed)

/-- Why a cached user is not used. -/
inductive CacheReadError where
  | stale
  | userAuthCachePending
  deriving DecidableEq

/-- The second half of `cacheGetUserBase`: the hash has been read, the fences are read now. -/
def checkFloor (userId : ℤ) (h : UserHash) (r : AuthRedis) : Except CacheReadError UserBase :=
  if h.user.id ≠ userId ∨ h.cacheSchema ≠ userCacheSchemaVersion ∨ h.user.authVersion ≤ 0 then
    .error .stale
  else if getUserAuthVersionFloor r > h.user.authVersion then .error .userAuthCachePending
  else .ok h.user

/-- **What a reader accepts** is at least as new as both fences at that moment. -/
theorem checkFloor_eq_ok {userId : ℤ} {h : UserHash} {r : AuthRedis} {u : UserBase}
    (hread : checkFloor userId h r = .ok u) :
    r.pending ≤ u.authVersion ∧ r.committed ≤ u.authVersion := by
  unfold checkFloor getUserAuthVersionFloor at hread
  split_ifs at hread with hstale hfloor
  cases hread
  omega

/-! ## What the scripts change -/

namespace AuthRedis

variable {r r' : AuthRedis} {incoming : ℤ}

/-- **What the head of a cache write lets through.** -/
theorem admitVersion_eq_some :
    r.admitVersion incoming = some r' ↔
      r.pending ≤ incoming ∧ r.committed ≤ incoming ∧ r.current ≤ incoming ∧
        r' = r.raise incoming := by
  unfold admitVersion
  split_ifs with h
  · simp only [false_iff]
    omega
  · rw [Option.some.injEq, eq_comm]
    exact ⟨fun heq => ⟨by omega, by omega, by omega, heq⟩, fun h' => h'.2.2.2⟩

theorem committed_raise (r : AuthRedis) (incoming : ℤ) :
    (r.raise incoming).committed = max r.committed incoming := by
  unfold raise committed
  dsimp only
  split_ifs with h
  · rw [max_eq_right h.le]
    rfl
  · rw [max_eq_left (not_lt.mp h)]

/-- A raise leaves the pending fence or deletes it. -/
theorem fence_raise (r : AuthRedis) (incoming : ℤ) :
    (r.raise incoming).fence = r.fence ∨ (r.raise incoming).fence = none := by
  unfold raise
  dsimp only
  split_ifs
  · exact .inr rfl
  · exact .inl rfl

end AuthRedis

end Auth
