import NewApi.Session.Revocation
import Mathlib.Data.List.Nodup

/-!
# Session/Chain — refresh secrets form one chain

Every rotation replaces the digest of a secret by that of its successor, and the update is a
compare-and-swap.  So the digests the row has had are those of `s₀, s₁, s₂, …`, each replaced once
and by the next, whatever calls are interleaved: the replaced ones are a list (`swaps`), and what
each call knows of it is written at its points (`ChainTask`).

* `chain_perform`, `chain_run` — one step of one call, and every run without rotations that no
  refresh asked for, keep the row on the chain.
-/

namespace Session

open List RotateOutcome

variable {S H : Type}

section

variable (cfg : SessionConfig S H) (secret : S)

/-- The `i`-th secret of the session that began with `secret`. -/
def chain (i : ℕ) : S := cfg.deriveNextRefreshSecret^[i] secret

theorem derive_chain (i : ℕ) : cfg.deriveNextRefreshSecret (chain cfg secret i)
    = chain cfg secret (i + 1) := (Function.iterate_succ_apply' _ _ _).symm

/-- A successor that was stored when some digest was replaced. -/
def Issued (s : SessionState S H) (x : S) : Prop :=
  ∃ i < s.swaps.length, x = chain cfg secret (i + 1)

/-- A rotation that a refresh with the secret `t` asked for. -/
structure RotationOf (rot : Rotation S H) (t : S) : Prop where
  caller : rot.caller = .refresh t
  presented : rot.presentedHash = cfg.hashRefreshSecret t
  next : rot.nextHash = cfg.hashRefreshSecret (cfg.deriveNextRefreshSecret t)

/-! ## What each call knows -/

variable (s : SessionState S H) (dead : Bool)

/-- A call that has rotated: its successor is on the chain. -/
def RotatedOk (rot : Rotation S H) : Prop :=
  ∃ t, RotationOf cfg rot t ∧ dead = false ∧
    Issued cfg secret s (cfg.deriveNextRefreshSecret t)

/-- A call that has recognised a reused secret. -/
structure ReuseOk (rot : Rotation S H) (session : UserSession H) : Prop where
  rotation : ∃ t, RotationOf cfg rot t
  user : s.row.userId = rot.userId
  unexpired : rot.now < s.row.expiresAt
  version : session.version = s.row.version

/-- What a call knows that has written the cache. -/
def ChainAfter (status : SessionStatus) : AfterWrite S H → Prop
  | .rotated rot _ => RotatedOk cfg secret s dead rot
  | .reuseFenced rot session => ReuseOk cfg s rot session ∧ status ≠ .active
  | .reuseBuried rot =>
    (∃ t, RotationOf cfg rot t) ∧ s.row.status = .revoked ∧ status ≠ .active
  | .revokeFenced _ candidate => candidate.version = s.row.version
  | _ => True

/-- What a call knows that has confirmed the row. -/
def ChainConfirm : AfterConfirm S H → Prop
  | .filled _ => True
  | .rotated rot => RotatedOk cfg secret s dead rot

/-- The assertion at each point of a call, `dead` if it began with the row revoked. -/
def ChainTask : Task S H → Prop
  | .checkRow _ session _ => session.version = s.row.version
  | .prepare entry _ k | .eval entry _ _ k =>
    entry.version = s.row.version ∧ ChainAfter cfg secret s dead entry.status k
  | .complete _ _ k => ChainAfter cfg secret s dead .active k
  | .confirm _ k | .confirmRow _ _ k => ChainConfirm cfg secret s dead k
  | .rotateStart rot => ∃ t, RotationOf cfg rot t
  | .rotateDeadline rot _ | .rotateRead rot _ _ =>
    (∃ t, RotationOf cfg rot t) ∧ rot.presentedHash ≠ rot.nextHash
  | .rotateSwap rot _ session _ =>
    ((∃ t, RotationOf cfg rot t) ∧ rot.presentedHash ≠ rot.nextHash) ∧
      session.refreshHash = rot.presentedHash ∧ session.version = s.row.version ∧ dead = false
  | .reuseRevoke rot session => ReuseOk cfg s rot session
  | .revokeRow _ candidate => candidate.version = s.row.version
  | .issue nextSecret => dead = false ∧ Issued cfg secret s nextSecret
  | _ => True

/-- A refresh that Redis or the database broke off. -/
def Result.interrupted (result : Result S H) : Prop :=
  ∃ e, (e = .redis ∨ e = .database) ∧ result = .refreshed (.error (.session e))

/-- …and where it goes on or ends, from inside or outside the branch that answers a reused secret. -/
def ChainNext (reusing : Bool) : Next S H → Prop
  | .go task => ChainTask cfg secret s dead task ∧ (reusing = true → task.reusing = true)
  | .reply result =>
    (∀ x, result = .refreshed (.ok x) → dead = false ∧ Issued cfg secret s x) ∧
      (reusing = true → s.row.status = .revoked ∨ result.interrupted)

/-- A call under way. -/
structure ChainCall (call : Call S H) : Prop where
  dead : call.dead = true → s.row.status = .revoked
  task : ChainTask cfg secret s call.dead call.task

/-- The row, the cache and the replies so far. -/
structure ChainState (s : SessionState S H) : Prop where
  swaps : s.swaps = (List.range s.swaps.length).map fun i =>
    (cfg.hashRefreshSecret (chain cfg secret i), cfg.hashRefreshSecret (chain cfg secret (i + 1)))
  current : s.row.refreshHash = cfg.hashRefreshSecret (chain cfg secret s.swaps.length)
  previous : s.row.previousRefreshHash = s.swaps.getLast?.map Prod.fst
  status : s.row.status = .active ∧ s.row.revokedAt = 0 ∨ s.row.status = .revoked
  nonneg : 0 ≤ s.row.version
  version : ∀ cell ∈ s.cache, cell.entry.version ≤ s.row.version
  credentials : ∀ r ∈ s.replies, ∀ x, r.result = .refreshed (.ok x) →
    r.dead = false ∧ Issued cfg secret s x
  reused : ∀ r ∈ s.replies, r.reusing = true → s.row.status = .revoked ∨ r.result.interrupted

end

/-! ## What a call relies on -/

section

variable {cfg : SessionConfig S H} {secret : S} {s s' : SessionState S H} {dead : Bool}

/-- The session keeps its user, version and expiry, the chain only grows and a revoked row stays
revoked. -/
structure ChainRely (s s' : SessionState S H) : Prop where
  version : s'.row.version = s.row.version
  user : s'.row.userId = s.row.userId
  expires : s'.row.expiresAt = s.row.expiresAt
  swaps : s.swaps.length ≤ s'.swaps.length
  revoked : s.row.status = .revoked → s'.row.status = .revoked

theorem Issued.frame {x : S} (hr : ChainRely s s') (h : Issued cfg secret s x) :
    Issued cfg secret s' x := by
  obtain ⟨i, hi, rfl⟩ := h
  exact ⟨i, hi.trans_le hr.swaps, rfl⟩

variable {rot : Rotation S H}

theorem RotatedOk.frame (hr : ChainRely s s') (h : RotatedOk cfg secret s dead rot) :
    RotatedOk cfg secret s' dead rot := by
  obtain ⟨t, hrot, hdead, hissued⟩ := h
  exact ⟨t, hrot, hdead, hissued.frame hr⟩

theorem ReuseOk.frame {session : UserSession H} (hr : ChainRely s s')
    (h : ReuseOk cfg s rot session) :
    ReuseOk cfg s' rot session where
  rotation := h.rotation
  user := hr.user.trans h.user
  unexpired := hr.expires.symm ▸ h.unexpired
  version := h.version.trans hr.version.symm

theorem ChainAfter.frame {status : SessionStatus} {k : AfterWrite S H}
    (h : ChainAfter cfg secret s dead status k) (hr : ChainRely s s') :
    ChainAfter cfg secret s' dead status k := by
  cases k with
  | rotated rot session => exact RotatedOk.frame hr h
  | reuseFenced rot session => exact ⟨h.1.frame hr, h.2⟩
  | reuseBuried rot => exact ⟨h.1, hr.revoked h.2.1, h.2.2⟩
  | revokeFenced rev candidate => exact h.trans hr.version.symm
  | _ => trivial

theorem ChainConfirm.frame {k : AfterConfirm S H} (hr : ChainRely s s')
    (h : ChainConfirm cfg secret s dead k) : ChainConfirm cfg secret s' dead k := by
  cases k with
  | filled caller => trivial
  | rotated rot => exact RotatedOk.frame hr h

/-- **What a call knows survives what the others do.** -/
theorem ChainTask.frame {task : Task S H} (hr : ChainRely s s')
    (h : ChainTask cfg secret s dead task) : ChainTask cfg secret s' dead task := by
  cases task with
  | checkRow caller session deadline => exact h.trans hr.version.symm
  | prepare entry deadline k => exact ⟨h.1.trans hr.version.symm, h.2.frame hr⟩
  | eval entry deadline expiration k => exact ⟨h.1.trans hr.version.symm, h.2.frame hr⟩
  | complete entry deadline k => exact ChainAfter.frame h hr
  | confirm session k => exact ChainConfirm.frame hr h
  | confirmRow session now k => exact ChainConfirm.frame hr h
  | rotateSwap rot rounds session deadline =>
    exact ⟨h.1, h.2.1, h.2.2.1.trans hr.version.symm, h.2.2.2⟩
  | reuseRevoke rot session => exact ReuseOk.frame hr h
  | revokeRow rev candidate => exact h.trans hr.version.symm
  | issue nextSecret => exact ⟨h.1, h.2.frame hr⟩
  | _ => exact h

theorem ChainCall.frame {call : Call S H} (hr : ChainRely s s') (h : ChainCall cfg secret s call) :
    ChainCall cfg secret s' call :=
  ⟨fun hdead => hr.revoked (h.dead hdead), h.task.frame hr⟩

end

/-! ## How the functions hand over -/

section

variable {cfg : SessionConfig S H} {secret : S} {s : SessionState S H} {dead reusing : Bool}
  {rot : Rotation S H}

theorem chainNext_failed {e : RefreshError}
    (h : reusing = true → s.row.status = .revoked ∨
      (Result.refreshed (.error e) : Result S H).interrupted) :
    ChainNext cfg secret s dead reusing (.reply (.refreshed (.error e))) :=
  ⟨fun _ heq => absurd (Result.refreshed.inj heq) nofun, h⟩

theorem ChainNext.weaken {reusing' : Bool} {next : Next S H}
    (h : ChainNext cfg secret s dead reusing next) (hle : reusing' = true → reusing = true) :
    ChainNext cfg secret s dead reusing' next := by
  cases next with
  | go task => exact ⟨h.1, fun hr => h.2 (hle hr)⟩
  | reply result => exact ⟨h.1, fun hr => h.2 (hle hr)⟩

variable {now : ℤ} {session : UserSession H}

theorem unexpired_of_not_inactiveAt (h : ¬ session.inactiveAt now) : now < session.expiresAt :=
  not_le.mp fun hle => h (.inr (.inr hle))

/-- A call that began with the row revoked does not find it active. -/
theorem not_dead (hdead : dead = true → s.row.status = .revoked) (hin : ¬ s.row.inactiveAt now) :
    dead = false := by
  refine Bool.eq_false_iff.mpr fun hd => ?_
  have hactive := active_of_not_inactiveAt hin
  rw [hdead hd] at hactive
  cases hactive

/-- A row that was active when its reuse was recognised and is not any more has been revoked. -/
theorem revoked_of_stale {userId : ℤ} (hs : ChainState cfg secret s) (huser : s.row.userId = userId)
    (hunexpired : now < s.row.expiresAt) (hstale : s.row.userId ≠ userId ∨ s.row.inactiveAt now) :
    s.row.status = .revoked := by
  refine hs.status.resolve_left fun hactive => ?_
  obtain hne | hne | hne | hle := hstale
  · exact hne huser
  · exact hne hactive.1
  · exact hne hactive.2
  · exact not_le.mpr hunexpired hle

variable {k : AfterWrite S H} {status : SessionStatus}

theorem deny_of_reusing (h : ChainAfter cfg secret s dead status k) (hr : k.reusing = true) :
    status ≠ .active := by
  cases k with
  | reuseFenced rot session => exact h.2
  | reuseBuried rot => exact h.2.2
  | _ => cases hr

variable {t : S}

section

variable (hs : ChainState cfg secret s) (hhash : Function.Injective cfg.hashRefreshSecret)

include hs hhash

/-- Who presents the current digest presents the last secret of the chain. -/
theorem eq_of_current (ht : RotationOf cfg rot t) (hcurrent : s.row.refreshHash = rot.presentedHash) :
    t = chain cfg secret s.swaps.length := by
  refine hhash ?_
  rw [← ht.presented, ← hcurrent, hs.current]

/-- Once something has been replaced, the current secret is a successor. -/
theorem issued_of_current {previous : H} (hprevious : ¬ s.row.previousRefreshHash ≠ some previous)
    (hcurrent : cfg.hashRefreshSecret t = s.row.refreshHash) : Issued cfg secret s t := by
  have hswapped : s.swaps ≠ [] := by
    intro hnil
    rw [hs.previous, hnil] at hprevious
    exact hprevious nofun
  have hlen := length_pos_iff.mpr hswapped
  refine ⟨s.swaps.length - 1, Nat.sub_one_lt_of_lt hlen, ?_⟩
  rw [Nat.sub_add_cancel hlen]
  exact hhash (hcurrent.trans hs.current)

end

theorem chainNext_getDone (caller : Caller S) (r : Except SessionError CacheEntry) :
    ChainNext cfg secret s dead false (getDone caller r) := by
  unfold getDone
  split
  · exact ⟨fun _ heq => absurd heq nofun, nofun⟩
  · exact ⟨trivial, nofun⟩
  · exact chainNext_failed nofun
  · exact chainNext_failed nofun

theorem chainNext_revokeDone (caller : Caller S) (r : Except SessionError Bool) :
    ChainNext cfg secret s dead false (revokeDone caller r) := by
  unfold revokeDone
  split
  · exact ⟨fun _ heq => absurd heq nofun, nofun⟩
  · exact chainNext_failed nofun

variable [DecidableEq H]

/-- A rotation that fails: the errors of Redis and the database are passed on. -/
theorem chainNext_error {e : SessionError} (hrot : ∃ t, RotationOf cfg rot t)
    (h : reusing = true → s.row.status = .revoked ∨ e = .redis ∨ e = .database) :
    ChainNext cfg secret s dead reusing (rotateDone cfg rot (.error e)) := by
  obtain ⟨t, hrot⟩ := hrot
  unfold rotateDone
  rw [hrot.caller]
  dsimp only
  split
  · contradiction
  · contradiction
  · next heq =>
    obtain rfl := error.inj heq
    exact chainNext_failed fun hr => .inl ((h hr).resolve_right nofun)
  · next heq =>
    obtain rfl := error.inj heq
    exact chainNext_failed fun hr => .inl ((h hr).resolve_right nofun)
  · next heq =>
    obtain rfl := error.inj heq
    exact chainNext_failed fun hr => (h hr).imp_right fun he => ⟨_, he, rfl⟩

theorem chainNext_rotated (h : RotatedOk cfg secret s dead rot) :
    ChainNext cfg secret s dead false (rotateDone cfg rot (.rotated session)) := by
  obtain ⟨t, hrot, hdead, hissued⟩ := h
  unfold rotateDone
  rw [hrot.caller]
  exact ⟨⟨hdead, hissued⟩, nofun⟩

theorem chainNext_race (hrot : RotationOf cfg rot t) (hdead : dead = false)
    (h : cfg.hashRefreshSecret (cfg.deriveNextRefreshSecret t) = session.refreshHash →
      Issued cfg secret s (cfg.deriveNextRefreshSecret t)) :
    ChainNext cfg secret s dead false (rotateDone cfg rot (.race session)) := by
  unfold rotateDone
  rw [hrot.caller]
  dsimp only
  split_ifs with heq
  · exact ⟨⟨hdead, h heq⟩, nofun⟩
  · exact chainNext_failed nofun

theorem chainNext_round (hrot : (∃ t, RotationOf cfg rot t) ∧ rot.presentedHash ≠ rot.nextHash)
    (rounds : ℕ) : ChainNext cfg secret s dead false (rotateRound cfg rot rounds) := by
  cases rounds with
  | zero => exact chainNext_error hrot.1 nofun
  | succ rounds => exact ⟨hrot, nofun⟩

theorem chainNext_afterWrite {r : Except WriteError Unit}
    (h : ChainAfter cfg secret s dead status k) (hr : k.reusing = true → r ≠ .error .inactive) :
    ChainNext cfg secret s dead k.reusing (afterWrite cfg k r) := by
  unfold afterWrite
  split
  · exact ⟨trivial, nofun⟩
  · exact chainNext_getDone _ _
  · exact chainNext_getDone _ _
  · exact chainNext_getDone _ _
  · exact ⟨h, nofun⟩
  · exact chainNext_error (h.imp fun _ h => h.1) nofun
  · exact chainNext_rotated h
  · exact ⟨h.1, fun _ => rfl⟩
  · exact absurd rfl (hr rfl)
  · exact chainNext_error h.1.rotation fun _ => .inr (.inl rfl)
  · exact chainNext_error h.1 fun _ => .inl h.2.1
  · exact ⟨h, nofun⟩
  · exact chainNext_revokeDone _ _
  · exact chainNext_revokeDone _ _
  · exact chainNext_revokeDone _ _

theorem chainNext_confirmDone {k : AfterConfirm S H} (h : ChainConfirm cfg secret s dead k)
    (r : Except SessionError Unit) :
    ChainNext cfg secret s dead false (confirmDone cfg session k r) := by
  unfold confirmDone
  split
  · exact chainNext_getDone _ _
  · exact chainNext_getDone _ _
  · exact chainNext_rotated h
  · exact chainNext_error (h.imp fun _ h => h.1) nofun

variable {entry : CacheEntry}

theorem chainNext_write {deadline : Option ℤ} (hversion : entry.version = s.row.version)
    (h : ChainAfter cfg secret s dead entry.status k) (hle : reusing = true → k.reusing = true) :
    ChainNext cfg secret s dead reusing (writeUserSessionCache cfg entry deadline k) := by
  unfold writeUserSessionCache
  split_ifs
  · exact ⟨⟨hversion, h⟩, hle⟩
  · refine ChainNext.weaken (chainNext_afterWrite h ?_) hle
    exact fun _ => nofun

theorem chainNext_decide {rounds : ℕ} {deadline : ℤ} (hs : ChainState cfg secret s)
    (hhash : Function.Injective cfg.hashRefreshSecret)
    (hdead : dead = true → s.row.status = .revoked) (huser : s.row.userId = rot.userId)
    (hrot : (∃ t, RotationOf cfg rot t) ∧ rot.presentedHash ≠ rot.nextHash) :
    ChainNext cfg secret s dead false (rotateDecide cfg rot rounds s.row deadline) := by
  unfold rotateDecide
  split_ifs with hin hcurrent hprevious hgrace
  · exact chainNext_error hrot.1 nofun
  · exact ⟨⟨hrot, hcurrent, rfl, not_dead hdead hin⟩, nofun⟩
  · exact chainNext_error hrot.1 nofun
  · obtain ⟨t, ht⟩ := hrot.1
    exact chainNext_race ht (not_dead hdead hin) fun heq => issued_of_current hs hhash hprevious heq
  · exact chainNext_write rfl ⟨⟨hrot.1, huser, unexpired_of_not_inactiveAt hin, rfl⟩, nofun⟩ nofun

/-! ## One step -/

/-- A tombstone of the row's own version is not refused. -/
theorem evalScript_not_refused {expiration : ℤ} {cache : Option Cell}
    (hversion : ∀ cell ∈ cache, cell.entry.version ≤ entry.version) (hpos : 0 ≤ entry.version)
    (hdeny : entry.status ≠ .active) : (evalScript entry expiration now cache).1 = true := by
  unfold evalScript
  rw [if_neg (fun h => hdeny h.1), if_neg, if_neg hdeny]
  cases cache with
  | none => exact not_lt.mpr hpos
  | some cell =>
    by_cases hlive : cell.live now
    · rw [current_live hlive]
      exact not_lt.mpr (hversion cell rfl)
    · rw [current_dead hlive]
      exact not_lt.mpr hpos

/-- A task that is not that of a reuse. -/
theorem idle {p : Prop} (h : false = true) : p := absurd h Bool.false_ne_true

/-- **Each call keeps what it knows as it takes a step.** -/
theorem chainNext_act {c : Choice} {call : Call S H} (hs : ChainState cfg secret s)
    (hhash : Function.Injective cfg.hashRefreshSecret) (h : ChainCall cfg secret s call) :
    ChainNext cfg secret (act cfg s c call.task).1 call.dead call.task.reusing
      (act cfg s c call.task).2 := by
  obtain ⟨late, dead, task⟩ := call
  obtain ⟨hdead, h⟩ := h
  cases task with
  | readCache caller =>
    rw [act]
    split
    · exact ⟨trivial, idle⟩
    · split_ifs
      · exact ⟨trivial, idle⟩
      · exact ⟨trivial, idle⟩
  | checkCached caller entry =>
    rw [act]
    split_ifs
    · exact chainNext_getDone _ _
    · exact chainNext_getDone _ _
  | captureDeadline caller => exact ⟨trivial, idle⟩
  | readRow caller deadline =>
    rw [act]
    split_ifs
    · exact chainNext_getDone _ _
    · exact ⟨rfl, idle⟩
  | checkRow caller session deadline =>
    rw [act]
    split_ifs
    · exact chainNext_write h trivial idle
    · exact chainNext_write h trivial idle
  | prepare entry deadline k =>
    rw [act]
    split
    · next e he =>
      exact chainNext_afterWrite h.2 fun hr =>
        absurd he (redisExpiration_deny_ne_error (deny_of_reusing h.2 hr))
    · exact ⟨h, id⟩
  | eval entry deadline expiration k =>
    have hafter (cache : Option Cell) :
        ChainAfter cfg secret { s with cache } dead entry.status k :=
      h.2.frame ⟨rfl, rfl, rfl, le_refl _, id⟩
    rw [act]
    dsimp only
    split_ifs with hf hok hactive
    · refine chainNext_afterWrite h.2 ?_
      exact fun _ h => by cases h
    · rw [hactive] at hafter
      exact ⟨hafter _, id⟩
    · refine chainNext_afterWrite (hafter _) ?_
      exact fun _ h => by cases h
    · refine chainNext_afterWrite h.2 fun hr => absurd (evalScript_not_refused ?_ ?_ ?_) hok
      · rw [h.1]
        exact hs.version
      · rw [h.1]
        exact hs.nonneg
      · exact deny_of_reusing h.2 hr
  | complete entry deadline k =>
    exact chainNext_afterWrite h fun hr => absurd rfl (deny_of_reusing h hr)
  | confirm session k =>
    rw [act]
    split_ifs
    · exact ⟨h, idle⟩
    · exact chainNext_confirmDone h _
  | confirmRow session now k =>
    rw [act]
    split_ifs
    · exact chainNext_confirmDone h _
    · exact chainNext_confirmDone h _
    · exact chainNext_confirmDone h _
  | rotateStart rot =>
    obtain ⟨t, ht⟩ := h
    rw [act]
    split_ifs with hbad hnow <;> dsimp only
    · exact chainNext_error ⟨t, ht⟩ idle
    · refine chainNext_round ⟨⟨t, ?_⟩, ?_⟩ _
      · exact ⟨ht.caller, ht.presented, ht.next⟩
      · exact (not_or.mp (not_or.mp hbad).2).1
    · exact chainNext_round ⟨⟨t, ht⟩, (not_or.mp (not_or.mp hbad).2).1⟩ _
  | rotateDeadline rot rounds => exact ⟨h, idle⟩
  | rotateRead rot rounds deadline =>
    rw [act]
    split_ifs with hf huser
    · exact chainNext_error h.1 idle
    · exact chainNext_error h.1 idle
    · exact chainNext_decide hs hhash hdead (not_not.mp huser) h
  | rotateSwap rot rounds session deadline =>
    obtain ⟨hrot, -, hversion, hlive⟩ := h
    rw [act]
    split_ifs with hf hstale
    · exact chainNext_error hrot.1 idle
    · exact chainNext_round hrot _
    · obtain ⟨t, ht⟩ := hrot.1
      have hcurrent : t = chain cfg secret s.swaps.length :=
        eq_of_current hs hhash ht (not_not.mp (not_or.mp (not_or.mp hstale).2).2)
      refine chainNext_write hversion ⟨t, ht, hlive, s.swaps.length, ?_, ?_⟩ idle
      · rw [length_append, length_singleton]
        exact Nat.lt_succ_self _
      · rw [hcurrent, derive_chain]
  | reuseRevoke rot session =>
    rw [act]
    split_ifs with hf hstale
    · exact chainNext_error h.rotation fun _ => .inr (.inr rfl)
    · refine chainNext_error h.rotation fun _ => .inl ?_
      exact revoked_of_stale hs h.user h.unexpired hstale
    · exact chainNext_write h.version ⟨h.rotation, rfl, SessionStatus.noConfusion⟩ fun _ => rfl
  | revokeStart caller userId reason =>
    rw [act]
    split_ifs
    · exact chainNext_revokeDone _ _
    · exact ⟨trivial, idle⟩
  | revokeRead rev =>
    rw [act]
    split_ifs
    · exact chainNext_revokeDone _ _
    · exact chainNext_revokeDone _ _
    · exact chainNext_write rfl rfl idle
  | revokeRow rev candidate =>
    rw [act]
    split_ifs
    · exact chainNext_revokeDone _ _
    · exact chainNext_revokeDone _ _
    · exact chainNext_revokeDone _ _
    · exact chainNext_write h trivial idle
  | checkSession secret entry =>
    rw [act]
    split_ifs
    · exact chainNext_failed idle
    · exact ⟨trivial, idle⟩
  | checkUser secret entry =>
    rw [act]
    split_ifs
    · exact chainNext_failed idle
    · exact ⟨trivial, idle⟩
    · exact ⟨trivial, idle⟩
  | rotate secret entry => exact ⟨⟨secret, rfl, rfl, rfl⟩, idle⟩
  | issue nextSecret =>
    refine ⟨fun x heq => ?_, idle⟩
    obtain rfl := Except.ok.inj (Result.refreshed.inj heq)
    exact h

end

/-! ## What a step writes -/

section

variable {cfg : SessionConfig S H} {secret : S} {s : SessionState S H} {dead : Bool}
  {rot : Rotation S H}

variable {s' : SessionState S H}

section

variable (hs : ChainState cfg secret s)

include hs

theorem replies_frame (hr : ChainRely s s') (hreplies : s'.replies = s.replies) :
    (∀ r ∈ s'.replies, ∀ x, r.result = .refreshed (.ok x) →
      r.dead = false ∧ Issued cfg secret s' x) ∧
    ∀ r ∈ s'.replies, r.reusing = true → s'.row.status = .revoked ∨ r.result.interrupted := by
  rw [hreplies]
  exact ⟨fun r hmem x hx => (hs.credentials r hmem x hx).imp_right fun h => h.frame hr,
    fun r hmem hreusing => (hs.reused r hmem hreusing).imp_left hr.revoked⟩

theorem chain_revoke {now : ℤ} {reason : String} :
    ChainState cfg secret { s with row := s.row.revoke now reason } ∧
      ChainRely s { s with row := s.row.revoke now reason } := by
  have hr : ChainRely s { s with row := s.row.revoke now reason } :=
    ⟨rfl, rfl, rfl, le_refl _, fun _ => rfl⟩
  obtain ⟨hcred, hreused⟩ := replies_frame hs hr rfl
  exact ⟨⟨hs.swaps, hs.current, hs.previous, .inr rfl, hs.nonneg, hs.version, hcred, hreused⟩, hr⟩

theorem chain_swap {rounds : ℕ} {session : UserSession H} {deadline : ℤ}
    (hhash : Function.Injective cfg.hashRefreshSecret)
    (h : ChainTask cfg secret s dead (.rotateSwap rot rounds session deadline))
    (hcurrent : s.row.refreshHash = rot.presentedHash) (hs' : s' = { s with
      row := { s.row.rotate rot.nextHash rot.now rot.graceSeconds with
        previousRefreshHash := some session.refreshHash }
      swaps := s.swaps ++ [(s.row.refreshHash, rot.nextHash)] }) :
    ChainState cfg secret s' ∧ ChainRely s s' := by
  obtain ⟨⟨⟨t, ht⟩, -⟩, hsession, -, -⟩ := h
  obtain rfl := eq_of_current hs hhash ht hcurrent
  have hlen : s'.swaps.length = s.swaps.length + 1 := by
    rw [hs', length_append, length_singleton]
  have hr : ChainRely s s' := by
    refine ⟨?_, ?_, ?_, by rw [hlen]; exact Nat.le_succ _, ?_⟩ <;> rw [hs']
    · rfl
    · rfl
    · rfl
    · exact id
  obtain ⟨hcred, hreused⟩ := replies_frame hs hr (by rw [hs'])
  refine ⟨⟨?_, ?_, ?_, ?_, ?_, ?_, hcred, hreused⟩, hr⟩
  · rw [hlen, range_succ, map_append, map_singleton, ← hs.swaps, hs']
    rw [← derive_chain, ← ht.next, hs.current]
  · rw [hlen, hs', ← derive_chain]
    exact ht.next
  · rw [hs', getLast?_concat]
    exact congrArg some (hsession.trans hcurrent.symm)
  · rw [hs']
    exact hs.status
  · rw [hs']
    exact hs.nonneg
  · rw [hs']
    exact hs.version

end

/-- **Whatever a step writes, the row stays on the chain and the other calls can rely on it.** -/
theorem chain_effect {task : Task S H} (he : Effect s task s') (hs : ChainState cfg secret s)
    (hhash : Function.Injective cfg.hashRefreshSecret) (h : ChainTask cfg secret s dead task) :
    ChainState cfg secret s' ∧ ChainRely s s' := by
  cases he with
  | same => exact ⟨hs, rfl, rfl, rfl, le_refl _, id⟩
  | wrote entry deadline expiration k hok =>
    have hr : ChainRely s { s with cache := (evalScript entry expiration s.clock s.cache).2 } :=
      ⟨rfl, rfl, rfl, le_refl _, id⟩
    obtain ⟨hcred, hreused⟩ := replies_frame hs hr rfl
    refine ⟨⟨hs.swaps, hs.current, hs.previous, hs.status, hs.nonneg, fun cell hcell => ?_, hcred,
      hreused⟩, hr⟩
    obtain hcell | heq := mem_evalScript hcell
    · exact hs.version cell hcell
    · rw [heq, h.1]
  | swapped rot rounds session deadline hactive hcurrent => exact chain_swap hs hhash h hcurrent rfl
  | reuseRevoked rot session hactive => exact chain_revoke hs
  | revoked rev candidate hactive => exact chain_revoke hs

variable [DecidableEq H]

/-! ## Whole runs -/

/-- **One step of one call**, seen from the row, the other calls and the call itself. -/
theorem chain_perform {c : Choice} {call : Call S H} (hs : ChainState cfg secret s)
    (hhash : Function.Injective cfg.hashRefreshSecret) (h : ChainCall cfg secret s call) :
    ChainState cfg secret (perform cfg s call c).1 ∧ ChainRely s (perform cfg s call c).1 ∧
      ∀ rest ∈ (perform cfg s call c).2, ChainCall cfg secret (perform cfg s call c).1 rest := by
  obtain ⟨hs', hr⟩ := chain_effect (act_effect cfg s c call.task) hs hhash h.task
  have hnext := chainNext_act (c := c) hs hhash h
  unfold perform
  generalize act cfg s c call.task = r at *
  obtain ⟨s', next⟩ := r
  cases next with
  | go task =>
    refine ⟨hs', hr, fun rest hrest => ?_⟩
    obtain rfl := Option.some.inj hrest
    exact ⟨fun hdead => hr.revoked (h.dead hdead), hnext.1⟩
  | reply result =>
    refine ⟨⟨hs'.swaps, hs'.current, hs'.previous, hs'.status, hs'.nonneg, hs'.version,
      fun r hmem => ?_, fun r hmem => ?_⟩, ⟨hr.version, hr.user, hr.expires, hr.swaps, hr.revoked⟩,
      fun rest hrest => absurd hrest (Option.not_mem_none rest)⟩
    · obtain hmem | hmem := mem_append.mp hmem
      · exact hs'.credentials r hmem
      · rw [mem_singleton.mp hmem]
        exact hnext.1
    · obtain hmem | hmem := mem_append.mp hmem
      · exact hs'.reused r hmem
      · rw [mem_singleton.mp hmem]
        exact hnext.2

/-- Digests are rotated by refreshes only; sessions are looked up and revoked by anyone. -/
def NoDirectRotation : CallOp (Request S H) Choice ℕ → Prop
  | .start (.rotate ..) => False
  | _ => True

theorem chain_run {w : Calls (SessionState S H) (Call S H)}
    {ops : List (CallOp (Request S H) Choice ℕ)}
    (hhash : Function.Injective cfg.hashRefreshSecret)
    (h : Calls.Holds (ChainState cfg secret) (ChainCall cfg secret) w)
    (hops : ∀ op ∈ ops, NoDirectRotation op) :
    Calls.Holds (ChainState cfg secret) (ChainCall cfg secret)
      (Runs.run (Calls.step (calls cfg)) w ops) := by
  refine Calls.holds_run ?_ ?_ ?_ h (Runs.guarded_of_forall_mem hops)
  · intro w request hg _
    refine ⟨of_decide_eq_true, ?_⟩
    cases request with
    | rotate => exact hg.elim
    | _ => trivial
  · intro w k c call _ hcall h
    obtain ⟨hs, hr, hrest⟩ :=
      chain_perform (c := c) h.shared hhash (h.tasks call (mem_of_getElem? hcall))
    exact ⟨hs, fun other hother => (h.tasks other hother).frame hr, hrest⟩
  · intro w elapsed _ h
    have hr : ChainRely w.shared ((calls cfg).env w.shared elapsed) :=
      ⟨rfl, rfl, rfl, le_refl _, id⟩
    obtain ⟨hcred, hreused⟩ := replies_frame h.shared hr rfl
    exact ⟨⟨h.shared.swaps, h.shared.current, h.shared.previous, h.shared.status, h.shared.nonneg,
      h.shared.version, hcred, hreused⟩, fun call hcall => (h.tasks call hcall).frame hr⟩

end

end Session
