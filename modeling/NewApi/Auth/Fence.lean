import NewApi.Auth.UserCache
import NewApi.Machinery.Runs

/-!
# Auth/Fence — no stale authorization under any interleaving

The cache of one user beside its database row: transactions that raise the version and then commit
or roll back, writers with rows they have read at any time before, readers between their two reads,
keys that expire.

* `AuthRun.step_moved` — everything a step can do to the two fences.
* `auth_fence_closed` — what readers accept after a publication, and behind a pending fence.
-/

namespace Auth

open AuthRedis

/-- The cache of one user, beside the row and those who read it. -/
structure AuthRun where
  redis : AuthRedis := {}
  /-- The committed row. -/
  db : UserBase
  /-- The row in the transaction that holds its lock. -/
  tx : Option UserBase := none
  /-- Rows that writers have read and not let go of. -/
  snapshots : List UserBase := []
  /-- Hashes that readers have read, before they read the fences. -/
  readers : List UserHash := []

/-- The steps of writers, transactions, readers and of time. -/
inductive AuthOp where
  | snapshot
  /-- The row as the open transaction sees it. -/
  | snapshotTx
  /-- `populateUserCache`. -/
  | populate (i : ℕ)
  /-- `updateUserCache`, also of `PublishUserAuthCache`. -/
  | update (i : ℕ)
  /-- A refresh of one field at the version of the row read. -/
  | field (i : ℕ) (set : UserBase → UserBase)
  | quotaDelta (delta : ℤ)
  /-- A change of the row that leaves the version alone. -/
  | edit (set : UserBase → UserBase)
  /-- `IncrementUserAuthVersionWithTx`. -/
  | increment
  | commit
  | rollback
  /-- `SetUserAuthVersionFence` on its own. -/
  | fence (authVersion : ℤ)
  | publishCommitted (authVersion : ℤ)
  /-- The hash expires or is invalidated. -/
  | dropHash
  | expireFence
  /-- The first half of `cacheGetUserBase`. -/
  | readHash

namespace AuthRun

/-- A writer with the `i`-th row runs a script. -/
def withSnapshot (w : AuthRun) (i : ℕ) (script : UserBase → AuthRedis → CacheReply × AuthRedis) :
    AuthRun :=
  match w.snapshots[i]? with
  | none => w
  | some user => { w with redis := (script user w.redis).2 }

/-- One step. -/
def step (w : AuthRun) : AuthOp → AuthRun
  | .snapshot => { w with snapshots := w.snapshots ++ [w.db] }
  | .snapshotTx => { w with snapshots := w.snapshots ++ w.tx.toList }
  | .populate i => w.withSnapshot i fun user => writeUserCache user true
  | .update i => w.withSnapshot i fun user => writeUserCache user false
  | .field i set =>
    w.withSnapshot i fun user => updateUserCacheFieldAtVersion set user.authVersion
  | .quotaDelta delta => { w with redis := cacheApplyUserQuotaDelta w.db.id delta w.redis }
  | .edit set =>
    if w.tx.isSome then w
    else { w with db := { set w.db with id := w.db.id, authVersion := w.db.authVersion } }
  | .increment =>
    match w.tx with
    | some _ => w
    | none =>
      let next := max w.db.authVersion 1 + 1
      { w with
        redis := setUserAuthVersionFence next w.redis
        tx := some { w.db with authVersion := next } }
  | .commit => { w with db := w.tx.getD w.db, tx := none }
  | .rollback => { w with tx := none }
  | .fence authVersion => { w with redis := setUserAuthVersionFence authVersion w.redis }
  | .publishCommitted authVersion =>
    { w with redis := publishCommittedUserAuthVersion authVersion w.redis }
  | .dropHash => { w with redis := { w.redis with hash := none } }
  | .expireFence => { w with redis := { w.redis with fence := none } }
  | .readHash => { w with readers := w.readers ++ w.redis.hash.toList }

/-- The version a script publishes for a row, if it is not refused. -/
def accepted (w : AuthRun) (i : ℕ) (script : UserBase → AuthRedis → CacheReply × AuthRedis) :
    Option ℤ :=
  match w.snapshots[i]? with
  | none => none
  | some user => if (script user w.redis).1 = .ok then some user.authVersion else none

/-- The version a step publishes. -/
def publishes (w : AuthRun) : AuthOp → Option ℤ
  | .populate i => w.accepted i fun user => writeUserCache user true
  | .update i => w.accepted i fun user => writeUserCache user false
  | .field i set => w.accepted i fun user => updateUserCacheFieldAtVersion set user.authVersion
  | .publishCommitted authVersion => if 0 < authVersion then some authVersion else none
  | _ => none

end AuthRun

/-! ## The two fences -/

/-- Everything a step can do to the fences. -/
inductive Moved (r : AuthRedis) (r' : AuthRedis) : Prop where
  | kept (version : r'.version = r.version) (fence : r'.fence = r.fence)
  | raised (incoming : ℤ) (version : r'.version = (r.raise incoming).version)
      (fence : r'.fence = (r.raise incoming).fence)
  | fenced (authVersion : ℤ) (version : r'.version = r.version) (lt : r.pending < authVersion)
      (fence : r'.fence = some authVersion)
  | expired (version : r'.version = r.version) (fence : r'.fence = none)

namespace Moved

variable {r r' : AuthRedis}

/-- **The committed version never decreases.** -/
theorem committed_le (h : Moved r r') : r.committed ≤ r'.committed := by
  cases h with
  | kept hv => rw [committed, committed, hv]
  | raised incoming hv =>
    have hsame : r'.committed = (r.raise incoming).committed := congrArg (·.getD 0) hv
    rw [hsame, committed_raise]
    exact le_max_left _ _
  | fenced authVersion hv => rw [committed, committed, hv]
  | expired hv => rw [committed, committed, hv]

/-- **A pending fence that is still there has not been lowered.** -/
theorem pending_le (h : Moved r r') (hthere : r'.fence.isSome) : r.pending ≤ r'.pending := by
  cases h with
  | kept _ hf => rw [pending, pending, hf]
  | raised incoming _ hf =>
    rcases fence_raise r incoming with hr | hr
    · rw [pending, pending, hf, hr]
    · rw [hf, hr] at hthere
      cases hthere
  | fenced authVersion _ hlt hf =>
    have hnew : r'.pending = authVersion := congrArg (·.getD 0) hf
    exact hnew ▸ hlt.le
  | expired _ hf =>
    rw [hf] at hthere
    cases hthere

end Moved

/-! ## What the scripts do -/

/-- A script is refused without a trace, or raises the version to the row's. -/
def Raises (script : UserBase → AuthRedis → CacheReply × AuthRedis) : Prop :=
  ∀ user r, (script user r).2 = r ∧ (script user r).1 ≠ .ok ∨
    (script user r).2.version = (r.raise user.authVersion).version ∧
      (script user r).2.fence = (r.raise user.authVersion).fence

theorem raises_writeUserCache (includeQuota : Bool) :
    Raises fun user => writeUserCache user includeQuota := by
  intro user r
  dsimp only [writeUserCache]
  split
  · exact .inl ⟨rfl, nofun⟩
  split
  · exact .inl ⟨rfl, nofun⟩
  cases hversion : r.admitVersion user.authVersion with
  | none => exact .inl ⟨rfl, nofun⟩
  | some r' =>
    obtain ⟨-, -, -, rfl⟩ := admitVersion_eq_some.mp hversion
    dsimp only
    split <;> exact .inr ⟨rfl, rfl⟩

theorem raises_updateUserCacheFieldAtVersion (set : UserBase → UserBase) :
    Raises fun user => updateUserCacheFieldAtVersion set user.authVersion := by
  intro user r
  dsimp only [updateUserCacheFieldAtVersion]
  split
  · exact .inl ⟨rfl, nofun⟩
  cases hversion : r.admitVersion user.authVersion with
  | none => exact .inl ⟨rfl, nofun⟩
  | some r' =>
    obtain ⟨-, -, -, rfl⟩ := admitVersion_eq_some.mp hversion
    dsimp only
    split
    · exact .inr ⟨rfl, rfl⟩
    · split <;> exact .inr ⟨rfl, rfl⟩

theorem setUserAuthVersionFence_moved (v : ℤ) (r : AuthRedis) :
    Moved r (setUserAuthVersionFence v r) := by
  unfold setUserAuthVersionFence
  split_ifs with hpos hlt
  · exact .kept rfl rfl
  · exact .fenced v rfl hlt rfl
  · exact .kept rfl rfl

theorem le_pending_setUserAuthVersionFence {v : ℤ} (hv : 0 < v) (r : AuthRedis) :
    v ≤ (setUserAuthVersionFence v r).pending := by
  unfold setUserAuthVersionFence
  split_ifs with hpos hlt
  · omega
  · exact le_rfl
  · exact not_lt.mp hlt

theorem cacheApplyUserQuotaDelta_moved (userId delta : ℤ) (r : AuthRedis) :
    Moved r (cacheApplyUserQuotaDelta userId delta r) := by
  unfold cacheApplyUserQuotaDelta
  split
  · exact .kept rfl rfl
  · split <;> exact .kept rfl rfl

namespace AuthRun

variable {w : AuthRun} {script : UserBase → AuthRedis → CacheReply × AuthRedis} {i : ℕ} {v : ℤ}

theorem withSnapshot_moved (hscript : Raises script) (w : AuthRun) (i : ℕ) :
    Moved w.redis (w.withSnapshot i script).redis := by
  unfold withSnapshot
  split
  · exact .kept rfl rfl
  · next user _ =>
    rcases hscript user w.redis with ⟨hsame, -⟩ | ⟨hversion, hfence⟩
    · exact .kept (congrArg (·.version) hsame) (congrArg (·.fence) hsame)
    · exact .raised user.authVersion hversion hfence

theorem accepted_committed (hscript : Raises script) (h : w.accepted i script = some v) :
    v ≤ (w.withSnapshot i script).redis.committed := by
  unfold accepted at h
  unfold withSnapshot
  cases hi : w.snapshots[i]? with
  | none => rw [hi] at h; cases h
  | some user =>
    rw [hi] at h
    dsimp only at h ⊢
    split_ifs at h with hok
    cases h
    rcases hscript user w.redis with ⟨-, hne⟩ | ⟨hversion, -⟩
    · exact absurd hok hne
    · have hsame : (script user w.redis).2.committed = (w.redis.raise user.authVersion).committed :=
        congrArg (·.getD 0) hversion
      rw [hsame, committed_raise]
      exact le_max_right _ _

/-- **Everything a step can do to the fences.** -/
theorem step_moved (w : AuthRun) (op : AuthOp) : Moved w.redis (w.step op).redis := by
  cases op with
  | populate i => exact withSnapshot_moved (raises_writeUserCache true) w i
  | update i => exact withSnapshot_moved (raises_writeUserCache false) w i
  | field i set => exact withSnapshot_moved (raises_updateUserCacheFieldAtVersion set) w i
  | quotaDelta delta => exact cacheApplyUserQuotaDelta_moved _ _ _
  | edit set =>
    rw [step]
    split <;> exact .kept rfl rfl
  | increment =>
    rw [step]
    split
    · exact .kept rfl rfl
    · exact setUserAuthVersionFence_moved _ _
  | fence v => exact setUserAuthVersionFence_moved v _
  | publishCommitted v =>
    rw [step, publishCommittedUserAuthVersion]
    split
    · exact .kept rfl rfl
    · exact .raised v rfl rfl
  | expireFence => exact .expired rfl rfl
  | _ => exact .kept rfl rfl

/-- What a step publishes is committed in the cache from then on. -/
theorem publishes_committed {op : AuthOp} (h : w.publishes op = some v) :
    v ≤ (w.step op).redis.committed := by
  cases op with
  | populate i => exact accepted_committed (raises_writeUserCache true) h
  | update i => exact accepted_committed (raises_writeUserCache false) h
  | field i set => exact accepted_committed (raises_updateUserCacheFieldAtVersion set) h
  | publishCommitted authVersion =>
    rw [publishes] at h
    split_ifs at h with hpos
    cases h
    rw [step, publishCommittedUserAuthVersion, if_neg (not_le.mpr hpos)]
    dsimp only
    rw [committed_raise]
    exact le_max_right _ _
  | _ => cases h

end AuthRun

/-- **Auth-version fencing is fail-closed.**  Once `v` is published, no reader that checks the
fences afterwards accepts a hash below `v`, whenever it has read it; nor does one behind a fence at
`v`, as long as that fence is not removed and does not expire. -/
theorem auth_fence_closed (w : AuthRun) :
    (∀ op v, w.publishes op = some v → ∀ ops,
      let w' := Runs.run AuthRun.step (w.step op) ops
      ∀ h ∈ w'.readers, ∀ u, checkFloor w'.db.id h w'.redis = .ok u → v ≤ u.authVersion) ∧
    ∀ v, 0 < v → ∀ ops,
      Runs.Guarded AuthRun.step (fun w op => (w.step op).redis.fence.isSome = true)
        (w.step (.fence v)) ops →
      let w' := Runs.run AuthRun.step (w.step (.fence v)) ops
      ∀ h ∈ w'.readers, ∀ u, checkFloor w'.db.id h w'.redis = .ok u → v ≤ u.authVersion := by
  constructor
  · intro op v hv ops w' h _ u hread
    have hcommitted : v ≤ w'.redis.committed :=
      Runs.stable (I := fun s => v ≤ s.redis.committed)
        (fun s c hs => hs.trans (AuthRun.step_moved s c).committed_le)
        (AuthRun.publishes_committed hv) ops
    exact hcommitted.trans (checkFloor_eq_ok hread).2
  · intro v hv ops hthere w' h _ u hread
    have hpending : v ≤ w'.redis.pending :=
      Runs.invariant (I := fun s => v ≤ s.redis.pending)
        (fun s c hs hc => hs.trans ((AuthRun.step_moved s c).pending_le hc))
        (le_pending_setUserAuthVersionFence hv w.redis) hthere
    exact hpending.trans (checkFloor_eq_ok hread).1

/-- A hash and a row read before a transaction are of no use after its publication, nor behind its
fence. -/
theorem auth_fence_closed_after_commit :
    (let w := Runs.run AuthRun.step { db := { id := 7, authVersion := 1 } }
        [.snapshot, .populate 0, .readHash, .increment, .commit, .snapshot]
     w.publishes (.update 1) = some 2 ∧
        let w' := Runs.run AuthRun.step (w.step (.update 1)) [.dropHash, .populate 0, .readHash]
        w'.readers.length = 1 ∧
          ∀ h ∈ w'.readers, ∀ u, checkFloor w'.db.id h w'.redis = .ok u → 2 ≤ u.authVersion) ∧
    let w := Runs.run AuthRun.step { db := { id := 7, authVersion := 1 } }
      [.snapshot, .populate 0, .readHash]
    let w' := Runs.run AuthRun.step (w.step (.fence 2)) [.populate 0, .quotaDelta 5, .readHash]
    w'.readers.length = 2 ∧
      ∀ h ∈ w'.readers, ∀ u, checkFloor w'.db.id h w'.redis = .ok u → 2 ≤ u.authVersion :=
  ⟨⟨by decide, by decide, (auth_fence_closed _).1 (.update 1) 2 (by decide) _⟩, by decide,
    (auth_fence_closed _).2 2 (by decide) _ (by decide)⟩

-- A refused publication is none: behind the fence of a later transaction version 2 does not reach
-- the cache, and once that transaction has rolled back and its fence expired, a row read before is
-- accepted.
example :
    let w := Runs.run AuthRun.step { db := { id := 7, authVersion := 1 } }
      [.snapshot, .increment, .commit, .snapshot, .increment]
    let w' := Runs.run AuthRun.step w [.update 1, .rollback, .expireFence, .populate 0, .readHash]
    w.publishes (.update 1) = none ∧ w'.db.authVersion = 2 ∧
      w'.readers.map (fun h => (checkFloor 7 h w'.redis).toOption.map (·.authVersion)) =
        [some 1] := by
  decide

end Auth
