import NewApi.Session.Chain

/-!
# Session/Rotation — refresh rotation is a single chain

* `undecided_act` — with the row revoked, a refresh that is not decided does not get any further.
* `refresh_single_chain` — the chain, what a call does that reaches the row with the current, the
  previous or any other secret, and who gets credentials.
* `refresh_not_called_back` — a refresh that has been decided hands out its credentials although the
  row is revoked meanwhile, and a session of a user that has changed is revoked for any secret.
-/

namespace Session

open List

variable {S H : Type}

/-! ## The chain -/

section

variable {cfg : SessionConfig S H} {secret : S} {s : SessionState S H}

/-- The successors of a secret that is nobody's successor are all different. -/
theorem chain_injective (hderive : Function.Injective cfg.deriveNextRefreshSecret)
    (hfresh : ∀ t, cfg.deriveNextRefreshSecret t ≠ secret) :
    Function.Injective (chain cfg secret) := by
  intro i j
  induction i generalizing j with
  | zero =>
    cases j with
    | zero => exact fun _ => rfl
    | succ j =>
      rw [← derive_chain]
      exact fun heq => absurd heq.symm (hfresh _)
  | succ i ih =>
    cases j with
    | zero =>
      rw [← derive_chain]
      exact fun heq => absurd heq (hfresh _)
    | succ j =>
      rw [← derive_chain, ← derive_chain]
      exact fun heq => congrArg Nat.succ (ih (hderive heq))

section

variable (hs : ChainState cfg secret s)

include hs

/-- No digest is replaced twice. -/
theorem ChainState.nodup (hhash : Function.Injective cfg.hashRefreshSecret)
    (hderive : Function.Injective cfg.deriveNextRefreshSecret)
    (hfresh : ∀ t, cfg.deriveNextRefreshSecret t ≠ secret) : (s.swaps.map Prod.fst).Nodup := by
  rw [hs.swaps, map_map]
  exact List.Nodup.map (hhash.comp (chain_injective hderive hfresh)) nodup_range

theorem ChainState.previous_eq {n : ℕ} (hn : s.swaps.length = n + 1) :
    s.row.previousRefreshHash = some (cfg.hashRefreshSecret (chain cfg secret n)) := by
  rw [hs.previous, hs.swaps, hn, range_succ, map_append, map_singleton,
    getLast?_concat]
  rfl

theorem ChainState.previous_none (hn : s.swaps.length = 0) : s.row.previousRefreshHash = none := by
  rw [hs.previous, length_eq_zero_iff.mp hn]
  rfl

end

/-- The row of a session as it is created with this secret. -/
structure NewSession (cfg : SessionConfig S H) (secret : S) (row : UserSession H) : Prop where
  hash : row.refreshHash = cfg.hashRefreshSecret secret
  previous : row.previousRefreshHash = none
  status : row.status = .active
  revokedAt : row.revokedAt = 0
  version : 0 ≤ row.version

/-- The chain begins with the session. -/
theorem chain_atRest {clock : ℤ} {row : UserSession H} {cache : Option Cell}
    (hrow : NewSession cfg secret row)
    (hcache : ∀ cell ∈ cache, cell.entry.version ≤ row.version) :
    Calls.Holds (ChainState cfg secret) (ChainCall cfg secret) (atRest clock row cache) where
  shared :=
    { swaps := rfl
      current := hrow.hash
      previous := hrow.previous
      status := .inl ⟨hrow.status, hrow.revokedAt⟩
      nonneg := hrow.version
      version := hcache
      credentials := fun _ h => absurd h not_mem_nil
      reused := fun _ h => absurd h not_mem_nil }
  tasks := fun _ h => absurd h not_mem_nil

/-- The rotation that has replaced a secret and has yet to return. -/
def Task.rotated : Task S H → Option (Rotation S H)
  | .prepare _ _ (.rotated rot _) | .eval _ _ _ (.rotated rot _) | .complete _ _ (.rotated rot _) =>
    some rot
  | .confirm _ (.rotated rot) | .confirmRow _ _ (.rotated rot) => some rot
  | _ => none

/-! ## Once the row is revoked -/

/-- The write that follows a replacement. -/
def AfterWrite.decided : AfterWrite S H → Bool
  | .rotated .. => true
  | _ => false

/-- The confirmation that follows a replacement. -/
def AfterConfirm.decided : AfterConfirm S H → Bool
  | .rotated _ => true
  | .filled _ => false

/-- A refresh that has replaced a secret, or was answered by the row within the grace period. -/
def Task.decided : Task S H → Bool
  | .issue _ => true
  | .prepare _ _ k | .eval _ _ _ k | .complete _ _ k => k.decided
  | .confirm _ k | .confirmRow _ _ k => k.decided
  | _ => false

/-- Whatever comes next, no credentials do. -/
def Undecided : Next S H → Prop
  | .go task => task.decided = false
  | .reply result => ∀ x, result ≠ .refreshed (.ok x)

/-- A lookup decides nothing. -/
theorem undecided_getDone (caller : Caller S) (r : Except SessionError CacheEntry) :
    Undecided (getDone caller r : Next S H) := by
  unfold getDone
  split
  · nofun
  · rfl
  · nofun
  · nofun

/-- A revocation decides nothing. -/
theorem undecided_revokeDone (caller : Caller S) (r : Except SessionError Bool) :
    Undecided (revokeDone caller r : Next S H) := by
  unfold revokeDone
  split <;> nofun

variable {rot : Rotation S H} {task : Task S H}

/-- A call that has rotated knows it. -/
theorem rotatedOk_of_rotated {dead : Bool} (h : ChainTask cfg secret s dead task)
    (hrotated : task.rotated = some rot) : RotatedOk cfg secret s dead rot := by
  unfold Task.rotated at hrotated
  split at hrotated <;> cases hrotated
  · exact h.2
  · exact h.2
  · exact h
  · exact h
  · exact h

variable [DecidableEq H]

/-- What a refresh with the secret `t` does on reading the active row: the previous secret gets the
successor it was given before and leaves everything as it is, or, after the grace period, enters
the branch that revokes; neither the current nor the previous secret changes nothing. -/
structure AtRow (cfg : SessionConfig S H) (secret : S) (s : SessionState S H) (c : Choice)
    (rot : Rotation S H) (t : S) (task : Task S H) : Prop where
  race : ∀ n, s.swaps.length = n + 1 → t = chain cfg secret n →
    rot.now ≤ s.row.previousValidUntil →
    act cfg s c task = (s, .go (.issue (chain cfg secret (n + 1))))
  reuse : ∀ n, s.swaps.length = n + 1 → t = chain cfg secret n →
    s.row.previousValidUntil < rot.now →
    ∃ next, act cfg s c task = (s, .go next) ∧ next.reusing = true
  other : t ≠ chain cfg secret s.swaps.length →
    (∀ n, s.swaps.length = n + 1 → t ≠ chain cfg secret n) →
    act cfg s c task = (s, .reply (.refreshed (.error .refreshTokenInvalid)))

variable {c : Choice} {rounds : ℕ} {deadline : ℤ}

theorem act_rotateRead (hc : c.fails = false) (huser : s.row.userId = rot.userId) :
    act cfg s c (.rotateRead rot rounds deadline)
      = (s, rotateDecide cfg rot rounds s.row deadline) := by
  rw [act, hc, if_neg Bool.false_ne_true, if_neg (not_not.mpr huser)]

variable {t : S}

/-- What a call does that finds the row active. -/
theorem atRow (hs : ChainState cfg secret s) (hhash : Function.Injective cfg.hashRefreshSecret)
    (hrot : RotationOf cfg rot t) (hne : rot.presentedHash ≠ rot.nextHash) (hc : c.fails = false)
    (huser : s.row.userId = rot.userId) (hactive : ¬ s.row.inactiveAt rot.now) :
    AtRow cfg secret s c rot t (.rotateRead rot rounds deadline) := by
  -- the previous secret is not the current one: its successor is
  have hnot {n : ℕ} (hn : s.swaps.length = n + 1) (ht : t = chain cfg secret n) :
      s.row.refreshHash ≠ rot.presentedHash := by
    rw [hs.current, hn, ← derive_chain, ← ht, ← hrot.next]
    exact hne.symm
  have hprevious {n : ℕ} (hn : s.swaps.length = n + 1) (ht : t = chain cfg secret n) :
      s.row.previousRefreshHash = some rot.presentedHash := by
    rw [hs.previous_eq hn, hrot.presented, ht]
  constructor
  · intro n hn ht hgrace
    rw [act_rotateRead hc huser, rotateDecide, if_neg hactive, if_neg (hnot hn ht),
      if_neg (not_not.mpr (hprevious hn ht)), if_pos hgrace, rotateDone, hrot.caller]
    dsimp only
    rw [if_pos (by rw [hs.current, hn, ht, derive_chain]), ht, derive_chain]
  · intro n hn ht hgrace
    rw [act_rotateRead hc huser, rotateDecide, if_neg hactive, if_neg (hnot hn ht),
      if_neg (not_not.mpr (hprevious hn ht)), if_neg (not_le.mpr hgrace),
      writeUserSessionDenyFence, writeUserSessionCache]
    split_ifs
    · exact ⟨_, rfl, rfl⟩
    · exact ⟨_, rfl, rfl⟩
  · intro hcurrent hother
    have h₁ : s.row.refreshHash ≠ rot.presentedHash :=
      fun heq => hcurrent (eq_of_current hs hhash hrot heq)
    have h₂ : s.row.previousRefreshHash ≠ some rot.presentedHash := by
      cases hn : s.swaps.length with
      | zero =>
        rw [hs.previous_none hn]
        nofun
      | succ n =>
        rw [hs.previous_eq hn, hrot.presented]
        exact fun heq => hother n hn (hhash (Option.some.inj heq)).symm
    rw [act_rotateRead hc huser, rotateDecide, if_neg hactive, if_neg h₁, if_pos h₂, rotateDone,
      hrot.caller]

/-! ## Who has replaced a secret -/

/-- A rotation that has replaced the secret `t` goes on to hand out its successor, or fails. -/
def Wins (cfg : SessionConfig S H) (rot : Rotation S H) (t : S) : Next S H → Prop
  | .go task => task.rotated = some rot ∨ task = .issue (cfg.deriveNextRefreshSecret t)
  | .reply _ => True

section

variable (hrot : rot.caller = .refresh t)

include hrot

/-- A refusal hands out nothing. -/
theorem wins_error (e : SessionError) : Wins cfg rot t (rotateDone cfg rot (.error e)) := by
  unfold rotateDone
  rw [hrot]
  cases e <;> trivial

theorem wins_rotated (session : UserSession H) :
    Wins cfg rot t (rotateDone cfg rot (.rotated session)) := by
  unfold rotateDone
  rw [hrot]
  exact .inr rfl

theorem wins_afterWrite (session : UserSession H) (r : Except WriteError Unit) :
    Wins cfg rot t (afterWrite cfg (.rotated rot session) r) := by
  cases r with
  | ok _ => exact wins_rotated hrot session
  | error e =>
    cases e with
    | stale => exact .inl rfl
    | inactive => exact wins_error hrot _
    | invalid => exact wins_rotated hrot session
    | redis => exact wins_rotated hrot session

end

/-- **A winner goes on to its credentials.** -/
theorem wins_act (htask : task.rotated = some rot) (hrot : rot.caller = .refresh t) :
    Wins cfg rot t (act cfg s c task).2 := by
  unfold Task.rotated at htask
  split at htask <;> cases htask
  · rw [act]
    split
    · exact wins_afterWrite hrot _ _
    · exact .inl rfl
  · rw [act]
    dsimp only
    split_ifs <;> dsimp only
    · exact wins_afterWrite hrot _ _
    · exact .inl rfl
    · exact wins_afterWrite hrot _ _
    · exact wins_afterWrite hrot _ _
  · exact wins_afterWrite hrot _ _
  · rw [act]
    split_ifs <;> dsimp only
    · exact .inl rfl
    · exact wins_error hrot _
  · rw [act]
    split_ifs <;> dsimp only
    · exact wins_error hrot _
    · exact wins_rotated hrot _
    · exact wins_error hrot _

/-! ## Once the row is revoked, step by step -/

omit [DecidableEq H] in
/-- A refresh that is refused has not been decided. -/
theorem undecided_refused (e : RefreshError) :
    Undecided (.reply (.refreshed (.error e)) : Next S H) := nofun

variable (cfg) in
theorem undecided_error (rot : Rotation S H) (e : SessionError) :
    Undecided (rotateDone cfg rot (.error e)) := by
  unfold rotateDone
  split
  · nofun
  · cases e <;> nofun

variable (cfg) in
theorem undecided_round (rot : Rotation S H) (rounds : ℕ) :
    Undecided (rotateRound cfg rot rounds) := by
  cases rounds with
  | zero => exact undecided_error cfg rot _
  | succ rounds => rfl

variable {entry : CacheEntry} {expiry : Option ℤ} {k : AfterWrite S H}

/-- A write of the cache decides nothing. -/
theorem undecided_afterWrite (hk : k.decided = false)
    (r : Except WriteError Unit) : Undecided (afterWrite cfg k r) := by
  unfold afterWrite
  split
  · rfl
  · exact undecided_getDone _ _
  · exact undecided_getDone _ _
  · exact undecided_getDone _ _
  · cases hk
  · cases hk
  · cases hk
  · rfl
  · exact undecided_error cfg _ _
  · exact undecided_error cfg _ _
  · exact undecided_error cfg _ _
  · rfl
  · exact undecided_revokeDone _ _
  · exact undecided_revokeDone _ _
  · exact undecided_revokeDone _ _

theorem undecided_write (hk : k.decided = false) :
    Undecided (writeUserSessionCache cfg entry expiry k) := by
  unfold writeUserSessionCache
  split_ifs
  · exact hk
  · exact undecided_afterWrite hk _

theorem undecided_confirmDone {session : UserSession H} {k : AfterConfirm S H}
    (hk : k.decided = false) (r : Except SessionError Unit) :
    Undecided (confirmDone cfg session k r) := by
  cases k with
  | filled caller => cases r <;> exact undecided_getDone _ _
  | rotated rot => cases hk

/-- **With the row revoked no call replaces a digest.** -/
theorem swaps_act (hrevoked : s.row.status = .revoked) :
    (act cfg s c task).1.swaps = s.swaps := by
  have he := act_effect cfg s c task
  generalize (act cfg s c task).1 = s' at he ⊢
  cases he with
  | swapped rot rounds session deadline hactive =>
    rw [active_of_not_inactiveAt hactive] at hrevoked
    cases hrevoked
  | _ => rfl

/-- **…and an undecided call is not decided any more.** -/
theorem undecided_act (hrevoked : s.row.status = .revoked) (htask : task.decided = false) :
    Undecided (act cfg s c task).2 := by
  have hin (now : ℤ) : s.row.inactiveAt now := by
    left
    rw [hrevoked]
    decide
  cases task with
  | readCache caller =>
    rw [act]
    split
    · rfl
    · split_ifs <;> rfl
  | checkCached caller entry =>
    rw [act]
    split_ifs <;> exact undecided_getDone _ _
  | readRow caller deadline =>
    rw [act]
    split_ifs
    · exact undecided_getDone _ _
    · rfl
  | checkRow caller session deadline =>
    rw [act]
    split_ifs <;> exact undecided_write rfl
  | prepare entry deadline k =>
    rw [act]
    split
    · exact undecided_afterWrite htask _
    · exact htask
  | eval entry deadline expiration k =>
    rw [act]
    dsimp only
    split_ifs
    · exact undecided_afterWrite htask _
    · exact htask
    · exact undecided_afterWrite htask _
    · exact undecided_afterWrite htask _
  | complete entry deadline k => exact undecided_afterWrite htask _
  | confirm session k =>
    rw [act]
    split_ifs
    · exact htask
    · exact undecided_confirmDone htask _
  | confirmRow session now k =>
    rw [act]
    split_ifs <;> exact undecided_confirmDone htask _
  | rotateStart rot =>
    rw [act]
    split_ifs
    · exact undecided_error cfg _ _
    · exact undecided_round cfg _ 3
    · exact undecided_round cfg _ 3
  | rotateRead rot rounds deadline =>
    rw [act, rotateDecide, if_pos (hin rot.now)]
    split_ifs <;> exact undecided_error cfg _ _
  | rotateSwap rot rounds session deadline =>
    rw [act, if_pos (show s.row.userId ≠ rot.userId ∨ s.row.inactiveAt rot.now ∨
      s.row.refreshHash ≠ rot.presentedHash from .inr (.inl (hin rot.now)))]
    split_ifs
    · exact undecided_error cfg _ _
    · exact undecided_round cfg _ _
  | reuseRevoke rot session =>
    rw [act]
    split_ifs
    · exact undecided_error cfg _ _
    · exact undecided_error cfg _ _
    · exact undecided_write rfl
  | revokeStart caller userId reason =>
    rw [act]
    split_ifs
    · exact undecided_revokeDone _ _
    · rfl
  | revokeRead rev =>
    rw [act]
    split_ifs
    · exact undecided_revokeDone _ _
    · exact undecided_revokeDone _ _
    · exact undecided_write rfl
  | revokeRow rev candidate =>
    rw [act]
    split_ifs
    · exact undecided_revokeDone _ _
    · exact undecided_revokeDone _ _
    · exact undecided_revokeDone _ _
    · exact undecided_write rfl
  | checkSession secret entry =>
    rw [act]
    split_ifs
    · exact undecided_refused _
    · rfl
  | checkUser secret entry =>
    rw [act]
    split_ifs
    · exact undecided_refused _
    · rfl
    · rfl
  | issue nextSecret => cases htask
  | _ => rfl

/-- The chain of refresh secrets, in a state with calls under way. -/
structure SingleChain (cfg : SessionConfig S H) (secret : S)
    (w : Calls (SessionState S H) (Call S H)) : Prop where
  /-- The `i`-th replacement put the digest of `sᵢ₊₁` in the place of that of `sᵢ`… -/
  swaps : w.shared.swaps = (List.range w.shared.swaps.length).map fun i =>
    (cfg.hashRefreshSecret (chain cfg secret i), cfg.hashRefreshSecret (chain cfg secret (i + 1)))
  current : w.shared.row.refreshHash =
    cfg.hashRefreshSecret (chain cfg secret w.shared.swaps.length)
  /-- …so each was replaced once. -/
  once : (∀ t, cfg.deriveNextRefreshSecret t ≠ secret) → (w.shared.swaps.map Prod.fst).Nodup
  /-- Whoever replaced `sᵢ` is handed `sᵢ₊₁`. -/
  winner : ∀ call ∈ w.tasks, ∀ rot, call.task.rotated = some rot →
    ∃ i < w.shared.swaps.length, rot.caller = .refresh (chain cfg secret i) ∧
      ∀ c task, (act cfg w.shared c call.task).2 = .go task →
        task.rotated = some rot ∨ task = .issue (chain cfg secret (i + 1))
  atRow : ∀ call ∈ w.tasks, ∀ rot rounds deadline t,
    call.task = .rotateRead rot rounds deadline → rot.caller = .refresh t →
    w.shared.row.userId = rot.userId → ¬ w.shared.row.inactiveAt rot.now →
    ∀ c, c.fails = false → AtRow cfg secret w.shared c rot t call.task
  /-- The branch that revokes is left with a reply only… -/
  reusing : ∀ call ∈ w.tasks, call.task.reusing = true →
    ∀ c task, (act cfg w.shared c call.task).2 = .go task → task.reusing = true
  /-- …and, unless Redis or the database fails, with the session revoked. -/
  reused : ∀ r ∈ w.shared.replies, r.reusing = true →
    w.shared.row.status = .revoked ∨ r.result.interrupted
  /-- The row changes where the current secret is replaced, on that branch, and where a session is
  revoked by request or because its user has changed. -/
  rows : ∀ call ∈ w.tasks, ∀ c, (act cfg w.shared c call.task).1.row ≠ w.shared.row →
    (∃ rot rounds session deadline, call.task = .rotateSwap rot rounds session deadline ∧
      rot.caller = .refresh (chain cfg secret w.shared.swaps.length)) ∨
    call.task.reusing = true ∨ ∃ rev candidate, call.task = .revokeRow rev candidate
  /-- Once the row is revoked, no call replaces a digest… -/
  unreplaced : w.shared.row.status = .revoked → ∀ call ∈ w.tasks, ∀ c,
    (act cfg w.shared c call.task).1.swaps = w.shared.swaps
  /-- …and one that is not decided is not handed credentials and is not decided any more. -/
  revoked : w.shared.row.status = .revoked → ∀ call ∈ w.tasks, call.task.decided = false → ∀ c,
    (∀ x, (act cfg w.shared c call.task).2 ≠ .reply (.refreshed (.ok x))) ∧
      ∀ task, (act cfg w.shared c call.task).2 = .go task → task.decided = false
  /-- Credentials go to calls that began before the row was revoked, and are successors. -/
  credentials : ∀ r ∈ w.shared.replies, ∀ x, r.result = .refreshed (.ok x) →
    r.dead = false ∧ Issued cfg secret w.shared x

variable {call : Call S H}

/-- Who changes the row. -/
theorem row_changes (hs : ChainState cfg secret s)
    (hhash : Function.Injective cfg.hashRefreshSecret) (h : ChainCall cfg secret s call)
    (hne : (act cfg s c call.task).1.row ≠ s.row) :
    (∃ rot rounds session deadline, call.task = .rotateSwap rot rounds session deadline ∧
      rot.caller = .refresh (chain cfg secret s.swaps.length)) ∨
    call.task.reusing = true ∨ ∃ rev candidate, call.task = .revokeRow rev candidate := by
  have he := act_effect cfg s c call.task
  have htask := h.task
  generalize (act cfg s c call.task).1 = s' at *
  generalize call.task = task at *
  cases he with
  | same => exact absurd rfl hne
  | wrote entry deadline expiration k hok => exact absurd rfl hne
  | swapped rot rounds session deadline hactive hcurrent =>
    obtain ⟨⟨⟨t, ht⟩, -⟩, -⟩ := htask
    refine .inl ⟨rot, rounds, session, deadline, rfl, ?_⟩
    rw [ht.caller, eq_of_current hs hhash ht hcurrent]
  | reuseRevoked rot session hactive => exact .inr (.inl rfl)
  | revoked rev candidate hactive => exact .inr (.inr ⟨rev, candidate, rfl⟩)

/-- Who has replaced a secret is handed its successor. -/
theorem winner (hderive : Function.Injective cfg.deriveNextRefreshSecret)
    (h : ChainCall cfg secret s call) (hrotated : call.task.rotated = some rot) :
    ∃ i < s.swaps.length, rot.caller = .refresh (chain cfg secret i) ∧
      ∀ c task, (act cfg s c call.task).2 = .go task →
        task.rotated = some rot ∨ task = .issue (chain cfg secret (i + 1)) := by
  obtain ⟨t, ht, -, i, hi, hissued⟩ := rotatedOk_of_rotated h.task hrotated
  obtain rfl : t = chain cfg secret i := hderive (hissued.trans (derive_chain cfg secret i).symm)
  refine ⟨i, hi, ht.caller, fun c task hnext => ?_⟩
  have hwins : Wins cfg rot _ (act cfg s c call.task).2 := wins_act hrotated ht.caller
  rw [hnext] at hwins
  rw [← derive_chain]
  exact hwins

/-- The invariant is the chain. -/
theorem singleChain_of_holds {w : Calls (SessionState S H) (Call S H)}
    (hhash : Function.Injective cfg.hashRefreshSecret)
    (hderive : Function.Injective cfg.deriveNextRefreshSecret)
    (h : Calls.Holds (ChainState cfg secret) (ChainCall cfg secret) w) :
    SingleChain cfg secret w where
  swaps := h.shared.swaps
  current := h.shared.current
  once := h.shared.nodup hhash hderive
  winner := fun call hcall _ hrotated => winner hderive (h.tasks call hcall) hrotated
  atRow := by
    intro call hcall rot rounds deadline t htask hcaller huser hactive c hc
    obtain ⟨-, hknown⟩ := h.tasks call hcall
    rw [htask] at hknown ⊢
    obtain ⟨⟨t', ht'⟩, hne⟩ := hknown
    obtain rfl : t' = t := Caller.refresh.inj (ht'.caller.symm.trans hcaller)
    exact atRow h.shared hhash ht' hne hc huser hactive
  reusing := by
    intro call hcall hreusing c task htask
    have hnext := chainNext_act (c := c) h.shared hhash (h.tasks call hcall)
    rw [htask] at hnext
    exact hnext.2 hreusing
  reused := h.shared.reused
  rows := fun call hcall _ hne => row_changes h.shared hhash (h.tasks call hcall) hne
  unreplaced := fun hrevoked _ _ _ => swaps_act hrevoked
  revoked := by
    intro hrevoked call _ htask c
    have hnext : Undecided (act cfg w.shared c call.task).2 := undecided_act hrevoked htask
    refine ⟨fun x hx => ?_, fun task htask => ?_⟩
    · rw [hx] at hnext
      exact hnext x rfl
    · rw [htask] at hnext
      exact hnext
  credentials := h.shared.credentials

/-- **Refresh rotation is a single chain.**  Start from a new session and interleave any refreshes,
with any secrets, any lookups and any revocations. -/
theorem refresh_single_chain (cfg : SessionConfig S H)
    (hhash : Function.Injective cfg.hashRefreshSecret)
    (hderive : Function.Injective cfg.deriveNextRefreshSecret) (secret : S) (clock : ℤ)
    (row : UserSession H) (hrow : NewSession cfg secret row) (cache : Option Cell)
    (hcache : ∀ cell ∈ cache, cell.entry.version ≤ row.version)
    (ops : List (CallOp (Request S H) Choice ℕ)) (hops : ∀ op ∈ ops, NoDirectRotation op) :
    SingleChain cfg secret (Runs.run (Calls.step (calls cfg)) (atRest clock row cache) ops) :=
  singleChain_of_holds hhash hderive (chain_run hhash (chain_atRest hrow hcache) hops)

end

/-! ## What does not hold -/

theorem exampleRow_new : NewSession exampleConfig 0 exampleRow := ⟨rfl, rfl, rfl, rfl, by decide⟩

/-- A run from one active session. -/
def exampleRun (ops : List (CallOp (Request ℕ ℕ) Choice ℕ)) :
    Calls (SessionState ℕ ℕ) (Call ℕ ℕ) :=
  Runs.run (Calls.step (calls exampleConfig)) (atRest 100000000000 exampleRow none) ops

/-- The secret is replaced and the replaced one is presented again. -/
theorem refresh_single_chain_twice :
    let w := exampleRun (.start (.refresh 0) :: List.replicate 18 (go 0) ++
      .start (.refresh 0) :: replicate 6 (go 0))
    w.shared.swaps = [(0, 1)] ∧ SingleChain exampleConfig 0 w :=
  ⟨rfl, refresh_single_chain exampleConfig Function.injective_id (add_left_injective 1) 0 _
    exampleRow exampleRow_new none (fun _ h => absurd h (Option.not_mem_none _)) _
    (by simp [NoDirectRotation, go])⟩

/-- A refresh with the current secret goes as far as its credentials; then the row is revoked. -/
def decidedThenRevoked : Calls (SessionState ℕ ℕ) (Call ℕ ℕ) :=
  exampleRun (.start (.refresh 0) :: List.replicate 17 (go 0) ++
    .start (.revoke 1 "logout") :: List.replicate 5 (go 1))

/-- A refresh with a secret the session never had, while the user is being changed. -/
def unknownSecret : Calls (SessionState ℕ ℕ) (Call ℕ ℕ) :=
  exampleRun (.start (.refresh 7) :: List.replicate 8 (go 0) ++
    .advance 0 { userChanged := true } :: List.replicate 7 (go 0))

/-- **A revocation does not call back a refresh that has been decided, and no secret is asked for
when the user has changed**: the first call hands out credentials with the row revoked, the second
revokes it. -/
theorem refresh_not_called_back :
    decidedThenRevoked.shared.row.status = .revoked ∧ decidedThenRevoked.shared.replies = [] ∧
      (Calls.step (calls exampleConfig) decidedThenRevoked (go 0)).shared.replies =
        [⟨false, false, false, .refreshed (.ok 1)⟩] ∧
      unknownSecret.shared.row.status = .revoked ∧
      unknownSecret.shared.replies =
        [⟨false, false, false, .refreshed (.error .loginSessionRevoked)⟩] :=
  ⟨rfl, rfl, rfl, rfl, rfl⟩

end Session
