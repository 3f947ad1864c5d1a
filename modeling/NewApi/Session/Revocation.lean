import NewApi.Session.Calls

/-!
# Session/Revocation — no way back through the cache

A revoked session could come back only as a snapshot: one still in the cache, or one that a reader
of the active row has yet to write.  The outline below says at every point of every call how long
such a snapshot can last.  A tombstone written now lasts longer than any of them
(`covered_of_deny`), so the revocation that writes its tombstone is final.  One whose tombstone is
lost rests on the fence it wrote before the commit, which is older than some snapshots may be
(`revocation_outlived`).

* `revocation_final` — no lookup that begins after a revocation returned finds the session, as long
  as a revocation that lost its tombstone finds every snapshot under way covered.
-/

namespace Session

open Option Bool SessionStatus List

variable {S H : Type}

/-! ## Snapshots under way -/

/-- The millisecond until which the snapshot that a task may yet write would last. -/
def Task.fill : Task S H → Option ℤ
  | .checkRow _ session deadline =>
    if session.status = .active then some (snapshotExpiry session.expiresAt deadline) else none
  | .prepare entry (some deadline) _ =>
    if entry.status = .active then some (snapshotExpiry entry.expiresAt deadline) else none
  | .eval entry _ expiration _ => if entry.status = .active then some expiration else none
  | _ => none

/-- No snapshot of the active session is left, and none under way can be written any more. -/
def Shielded (s : SessionState S H) (tasks : List (Call S H)) : Prop :=
  Buried s.cache s.clock ∧ ∀ call ∈ tasks, ∀ x ∈ call.task.fill, Covered s.cache s.clock x

instance (s : SessionState S H) (tasks : List (Call S H)) : Decidable (Shielded s tasks) :=
  inferInstanceAs (Decidable (_ ∧ ∀ call ∈ tasks, ∀ x ∈ call.task.fill, _))

/-- The tombstone that the last step of a revocation is to write. -/
def Task.tombstone : Task S H → Option (CacheEntry × ℤ)
  | .eval entry _ expiration (.revokeBuried _) => some (entry, expiration)
  | _ => none

/-- …and does not write: the script fails or refuses it. -/
def Task.losesTombstone (task : Task S H) (s : SessionState S H) (c : Choice) : Prop :=
  ∃ t ∈ task.tombstone, c.fails = true ∨ (evalScript t.1 t.2 s.clock s.cache).1 = false

instance (task : Task S H) (s : SessionState S H) (c : Choice) :
    Decidable (task.losesTombstone s c) :=
  inferInstanceAs (Decidable (∃ t ∈ task.tombstone, _ ∨ _))

/-- A revocation that loses its tombstone leaves nothing that could be read or written. -/
def NotOutlived (w : Calls (SessionState S H) (Call S H)) : CallOp (Request S H) Choice ℕ → Prop
  | .advance k c =>
    ∀ call ∈ w.tasks[k]?, call.task.losesTombstone w.shared c → Shielded w.shared w.tasks
  | _ => True

instance (w : Calls (SessionState S H) (Call S H)) (op : CallOp (Request S H) Choice ℕ) :
    Decidable (NotOutlived w op) :=
  match op with
  | .advance k _ => inferInstanceAs (Decidable (∀ call ∈ w.tasks[k]?, _ → _))
  | .start _ => .isTrue trivial
  | .env _ => .isTrue trivial

/-! ## What holds at every point of a call -/

section

variable (cfg : SessionConfig S H) (s : SessionState S H)

/-- A snapshot under way ends with its deadline and with the session, and once a revocation has
returned it cannot be written. -/
structure Fill (x : ℤ) : Prop where
  deadline : x ≤ unixMilli (userSessionCacheDeadline cfg.ttl s.clock)
  session : x ≤ unixMilli (nanos s.row.expiresAt)
  covered : cfg.redisEnabled = true → s.returned = true → Covered s.cache s.clock x

/-- A deadline captured by now. -/
def Captured (deadline : ℤ) : Prop := deadline ≤ userSessionCacheDeadline cfg.ttl s.clock

/-- At the end of a write of an entry with this status. -/
def AfterOk (row : UserSession H) (late : Bool) (status : SessionStatus) : AfterWrite S H → Prop
  | .filled _ _ => late = false
  | .reuseFenced _ session => session.expiresAt = row.expiresAt
  | .revokeFenced _ candidate => candidate.expiresAt = row.expiresAt
  | .revokeBuried _ => row.status ≠ .active ∧ status ≠ .active
  | _ => True

/-- At the end of a confirmation. -/
def ConfirmOk (late : Bool) : AfterConfirm S H → Prop
  | .filled _ => late = false
  | .rotated _ => True

/-- The assertion at each point of a call, `late` if it began after a revocation had returned. -/
def Outline (late : Bool) : Task S H → Prop
  | .checkCached _ entry => late = true → entry.status ≠ .active
  | .readRow _ deadline | .rotateRead _ _ deadline => Captured cfg s deadline
  | .checkRow _ session deadline =>
    session.expiresAt = s.row.expiresAt ∧ (late = true → session.status ≠ .active) ∧
      (session.status = .active → Fill cfg s (snapshotExpiry session.expiresAt deadline))
  | .prepare entry deadline k =>
    entry.expiresAt = s.row.expiresAt ∧ AfterOk s.row late entry.status k ∧
      (entry.status = .active →
        ∃ d, deadline = some d ∧ Fill cfg s (snapshotExpiry entry.expiresAt d))
  | .eval entry deadline expiration k =>
    entry.expiresAt = s.row.expiresAt ∧ AfterOk s.row late entry.status k ∧
      (entry.status = .active → Fill cfg s expiration) ∧
      (entry.status ≠ .active →
        ∃ earlier ≤ s.clock, redisExpiration cfg.ttl entry deadline earlier = .ok expiration)
  | .complete _ _ k => AfterOk s.row late .active k
  | .confirm _ k | .confirmRow _ _ k => ConfirmOk late k
  | .rotateSwap _ _ session deadline =>
    Captured cfg s deadline ∧ session.expiresAt = s.row.expiresAt
  | .reuseRevoke _ session => session.expiresAt = s.row.expiresAt
  | .revokeRow _ candidate => candidate.expiresAt = s.row.expiresAt
  | _ => True

/-- …and where it goes on or ends, with these other calls under way. -/
def NextOk (tasks : List (Call S H)) (late : Bool) : Next S H → Prop
  | .go task => Outline cfg s late task
  | .reply result =>
    (late = true → ∀ entry, result ≠ .got (.ok entry)) ∧
      (result.revokedTrue = true →
        s.row.status ≠ .active ∧ (cfg.redisEnabled = true → Shielded s tasks))

/-- A call under way. -/
structure CallOk (call : Call S H) : Prop where
  late : call.late = true → s.returned = true
  outline : Outline cfg s call.late call.task

/-- The state between two steps. -/
structure StateOk (s : SessionState S H) : Prop where
  row : s.returned = true → s.row.status ≠ .active
  buried : cfg.redisEnabled = true → s.returned = true → Buried s.cache s.clock
  replies : ∀ r ∈ s.replies, r.late = true → ∀ entry, r.result ≠ .got (.ok entry)

end

/-! ## The functions hand over as the outline says -/

section

variable {cfg : SessionConfig S H} {s : SessionState S H} {tasks : List (Call S H)} {late : Bool}

theorem nextOk_refreshed (r : Except RefreshError S) :
    NextOk cfg s tasks late (.reply (.refreshed r)) :=
  ⟨fun _ _ => nofun, fun h => absurd h false_ne_true⟩

theorem nextOk_getDone {r : Except SessionError CacheEntry} (caller : Caller S)
    (h : late = true → ∀ entry, r ≠ .ok entry) : NextOk cfg s tasks late (getDone caller r) := by
  cases caller with
  | direct =>
    exact ⟨fun hlate entry heq => h hlate entry (Result.got.inj heq),
      fun h => absurd h false_ne_true⟩
  | refresh secret =>
    unfold getDone
    split
    · contradiction
    · trivial
    · exact nextOk_refreshed _
    · exact nextOk_refreshed _

theorem nextOk_revokeDone {r : Except SessionError Bool} (caller : Caller S)
    (h : r = .ok true →
      s.row.status ≠ .active ∧ (cfg.redisEnabled = true → Shielded s tasks)) :
    NextOk cfg s tasks late (revokeDone (H := H) caller r) := by
  cases caller with
  | direct =>
    refine ⟨fun _ _ => nofun, fun htrue => h ?_⟩
    match r, htrue with
    | .ok true, _ => rfl
  | refresh secret => exact nextOk_refreshed _

variable {deadline : ℤ}

/-- A snapshot of the row a task has just read, before any revocation has returned. -/
theorem fill_of_captured (h : Captured cfg s deadline) (hreturned : s.returned = false) :
    Fill cfg s (snapshotExpiry s.row.expiresAt deadline) where
  deadline := (snapshotExpiry_le_deadline _ _).trans (unixMilli_le h)
  session := snapshotExpiry_le_session _ _
  covered := fun _ hr => absurd hr (by rw [hreturned]; nofun)

variable {session : UserSession H}

/-- A row that is written to was active until then. -/
theorem active_of_not_inactiveAt {now : ℤ} (h : ¬ session.inactiveAt now) :
    session.status = .active := by
  by_contra hstatus
  exact h (.inl hstatus)

theorem StateOk.not_returned (hs : StateOk cfg s) (hactive : s.row.status = .active) :
    s.returned = false :=
  eq_false_iff.mpr fun hr => hs.row hr hactive

variable [DecidableEq H]

theorem nextOk_rotateDone (rot : Rotation S H) (r : RotateOutcome H) :
    NextOk cfg s tasks late (rotateDone cfg rot r) := by
  unfold rotateDone
  split
  · exact ⟨fun _ _ => nofun, fun h => absurd h false_ne_true⟩
  · dsimp only
    split
    · trivial
    · split_ifs
      · trivial
      · exact nextOk_refreshed _
    · exact nextOk_refreshed _
    · exact nextOk_refreshed _
    · exact nextOk_refreshed _

theorem nextOk_rotateRound (rot : Rotation S H) (rounds : ℕ) :
    NextOk cfg s tasks late (rotateRound cfg rot rounds) := by
  cases rounds with
  | zero => exact nextOk_rotateDone rot _
  | succ rounds => trivial

theorem nextOk_afterWrite {status : SessionStatus} {k : AfterWrite S H}
    (h : AfterOk s.row late status k)
    (hend : cfg.redisEnabled = true → ∀ rev, k = .revokeBuried rev → Shielded s tasks)
    (r : Except WriteError Unit) :
    NextOk cfg s tasks late (afterWrite cfg k r) := by
  have hearly {caller : Caller S} {session : UserSession H}
      (hk : AfterOk s.row late status (.filled caller session)) :
      late = true → ∀ entry : CacheEntry, ∀ r : Except SessionError CacheEntry, r ≠ .ok entry :=
    fun hlate => absurd hlate (by rw [show late = false from hk]; nofun)
  unfold afterWrite
  split
  · exact h
  · exact nextOk_getDone _ fun _ _ => nofun
  · exact nextOk_getDone _ fun hlate entry => hearly h hlate entry _
  · exact nextOk_getDone _ fun _ _ => nofun
  · trivial
  · exact nextOk_rotateDone _ _
  · exact nextOk_rotateDone _ _
  · exact h
  · exact nextOk_rotateDone _ _
  · exact nextOk_rotateDone _ _
  · exact nextOk_rotateDone _ _
  · exact h
  · exact nextOk_revokeDone _ nofun
  · exact nextOk_revokeDone _ nofun
  · exact nextOk_revokeDone _ fun _ => ⟨h.1, fun hredis => hend hredis _ rfl⟩

theorem nextOk_confirmDone {k : AfterConfirm S H} (h : ConfirmOk late k)
    (r : Except SessionError Unit) : NextOk cfg s tasks late (confirmDone cfg session k r) := by
  unfold confirmDone
  split
  · exact nextOk_getDone _ fun hlate => absurd hlate (by rw [show late = false from h]; nofun)
  · exact nextOk_getDone _ fun _ _ => nofun
  · exact nextOk_rotateDone _ _
  · exact nextOk_rotateDone _ _

variable {entry : CacheEntry}

theorem nextOk_writeUserSessionCache {deadline : Option ℤ} {k : AfterWrite S H}
    (h : Outline cfg s late (.prepare entry deadline k)) :
    NextOk cfg s tasks late (writeUserSessionCache cfg entry deadline k) := by
  unfold writeUserSessionCache
  split_ifs with hredis
  · exact h
  · exact nextOk_afterWrite h.2.1 (fun hr => absurd hr hredis) _

/-- A tombstone is written for the session the row has. -/
theorem nextOk_writeDeny {k : AfterWrite S H} (hexpires : entry.expiresAt = s.row.expiresAt)
    (hdeny : entry.status ≠ .active) (hk : AfterOk s.row late entry.status k) :
    NextOk cfg s tasks late (writeUserSessionCache cfg entry none k) :=
  nextOk_writeUserSessionCache ⟨hexpires, hk, fun hactive => absurd hactive hdeny⟩

theorem nextOk_rotateDecide {rot : Rotation S H} {rounds : ℕ} (h : Captured cfg s deadline) :
    NextOk cfg s tasks late (rotateDecide cfg rot rounds s.row deadline) := by
  unfold rotateDecide
  split_ifs
  · exact nextOk_rotateDone _ _
  · exact ⟨h, rfl⟩
  · exact nextOk_rotateDone _ _
  · exact nextOk_rotateDone _ _
  · exact nextOk_writeDeny rfl nofun rfl

/-! ## One step -/

/-- **The outline is kept by the call that takes a step.** -/
theorem nextOk_act {c : Choice} {call : Call S H} (hs : StateOk cfg s) (h : CallOk cfg s call)
    (hend : cfg.redisEnabled = true → ∀ entry deadline expiration rev,
      call.task = .eval entry deadline expiration (.revokeBuried rev) →
      Shielded (act cfg s c call.task).1 tasks) :
    NextOk cfg (act cfg s c call.task).1 tasks call.late (act cfg s c call.task).2 := by
  obtain ⟨late, dead, task⟩ := call
  obtain ⟨hlate, h⟩ := h
  cases task with
  | readCache caller =>
    rw [act]
    split
    · trivial
    · next entry hfound =>
      split_ifs at hfound ⊢ with hread hform
      · exact fun hl => current_of_buried (hs.buried (by simp_all) (hlate hl)) hfound
      · trivial
  | checkCached caller entry =>
    rw [act]
    split_ifs with hin
    · exact nextOk_getDone _ fun _ _ => by simp
    · exact nextOk_getDone _ fun hl => absurd (.inl (h hl)) hin
  | captureDeadline caller => exact le_refl _
  | readRow caller deadline =>
    rw [act]
    split_ifs
    · exact nextOk_getDone _ fun _ _ => by simp
    · exact ⟨rfl, fun hl => hs.row (hlate hl), fun hactive =>
        fill_of_captured h (hs.not_returned hactive)⟩
  | checkRow caller session deadline =>
    obtain ⟨hexpires, hl, hfill⟩ := h
    rw [act]
    split_ifs with hin
    · exact nextOk_writeDeny hexpires (by simp) trivial
    · refine nextOk_writeUserSessionCache ⟨hexpires, ?_, fun hactive => ⟨_, rfl, hfill hactive⟩⟩
      exact eq_false_iff.mpr fun hlt => hl hlt (active_of_not_inactiveAt hin)
  | prepare entry deadline k =>
    obtain ⟨hexpires, hk, hfill⟩ := h
    rw [act]
    split
    · next e he =>
      refine nextOk_afterWrite hk (fun _ rev hrev => ?_) _
      subst hrev
      exact absurd he (redisExpiration_deny_ne_error hk.2)
    · next expiration he =>
      refine ⟨hexpires, hk, fun hactive => ?_, fun hdeny => ⟨s.clock, le_refl _, he⟩⟩
      obtain ⟨d, rfl, hd⟩ := hfill hactive
      rw [redisExpiration_active hactive he]
      exact hd
  | eval entry deadline expiration k =>
    obtain ⟨hexpires, hk, hfill, hdeny⟩ := h
    rw [act] at hend ⊢
    dsimp only at hend ⊢
    split_ifs at hend ⊢ with hf hr hactive
    · exact nextOk_afterWrite hk (fun hredis rev hk => hend hredis _ _ _ rev (by rw [hk])) _
    · rw [hactive] at hk
      exact hk
    · refine @nextOk_afterWrite _ _ _ _ _ _ _ entry.status _ ?_ ?_ _
      · exact hk
      · exact fun hredis rev hk => hend hredis _ _ _ rev (by rw [hk])
    · exact nextOk_afterWrite hk (fun hredis rev hk => hend hredis _ _ _ rev (by rw [hk])) _
  | complete entry deadline k =>
    refine nextOk_afterWrite h (fun _ rev hrev => ?_) _
    subst hrev
    exact absurd rfl h.2
  | confirm session k =>
    rw [act]
    split_ifs
    · exact h
    · exact nextOk_confirmDone h _
  | confirmRow session now k =>
    rw [act]
    split_ifs
    · exact nextOk_confirmDone h _
    · exact nextOk_confirmDone h _
    · exact nextOk_confirmDone h _
  | rotateStart rot =>
    rw [act]
    split_ifs <;> dsimp only
    · exact nextOk_rotateDone _ _
    · exact nextOk_rotateRound _ _
    · exact nextOk_rotateRound _ _
  | rotateDeadline rot rounds => exact le_refl _
  | rotateRead rot rounds deadline =>
    rw [act]
    split_ifs
    · exact nextOk_rotateDone _ _
    · exact nextOk_rotateDone _ _
    · exact nextOk_rotateDecide h
  | rotateSwap rot rounds session deadline =>
    obtain ⟨hcaptured, hexpires⟩ := h
    rw [act]
    split_ifs with hf hstale
    · exact nextOk_rotateDone _ _
    · exact nextOk_rotateRound _ _
    · have hactive := active_of_not_inactiveAt (not_or.mp (not_or.mp hstale).2).1
      refine nextOk_writeUserSessionCache ⟨hexpires, trivial, fun _ => ⟨_, rfl, ?_⟩⟩
      have hfill := fill_of_captured hcaptured (hs.not_returned hactive)
      rw [← hexpires] at hfill
      exact ⟨hfill.deadline, hfill.session, hfill.covered⟩
  | reuseRevoke rot session =>
    rw [act]
    split_ifs
    · exact nextOk_rotateDone _ _
    · exact nextOk_rotateDone _ _
    · exact nextOk_writeDeny h noConfusion trivial
  | revokeStart caller userId reason =>
    rw [act]
    split_ifs
    · exact nextOk_revokeDone _ (by simp)
    · trivial
  | revokeRead rev =>
    rw [act]
    split_ifs
    · exact nextOk_revokeDone _ (by simp)
    · exact nextOk_revokeDone _ (by simp)
    · exact nextOk_writeDeny rfl (by simp) rfl
  | revokeRow rev candidate =>
    rw [act]
    split_ifs
    · exact nextOk_revokeDone _ (by simp)
    · exact nextOk_revokeDone _ (by simp)
    · exact nextOk_revokeDone _ (by simp)
    · have hdeny : revoked ≠ .active := noConfusion
      exact nextOk_writeDeny h hdeny ⟨hdeny, hdeny⟩
  | checkSession secret entry =>
    rw [act]
    split_ifs
    · exact nextOk_refreshed _
    · trivial
  | checkUser secret entry =>
    rw [act]
    split_ifs
    · exact nextOk_refreshed _
    · trivial
    · trivial
  | rotate secret entry => trivial
  | issue nextSecret => exact nextOk_refreshed _

end

/-! ## What a step does to the others -/

section

variable {cfg : SessionConfig S H} {s : SessionState S H} {late : Bool}

variable {s' : SessionState S H} {x : ℤ}

theorem Fill.frame (h : Fill cfg s x) (hclock : s.clock ≤ s'.clock)
    (hexpires : s'.row.expiresAt = s.row.expiresAt)
    (hcovered : cfg.redisEnabled = true → s'.returned = true → Covered s'.cache s'.clock x) :
    Fill cfg s' x where
  deadline := h.deadline.trans (unixMilli_le (add_le_add_left hclock _))
  session := by rw [hexpires]; exact h.session
  covered := hcovered

/-- What a call relies on: time passes, the session keeps its expiry, a revoked row stays revoked,
and what the call may yet write stays covered. -/
structure Rely (cfg : SessionConfig S H) (s s' : SessionState S H) (task : Task S H) : Prop where
  clock : s.clock ≤ s'.clock
  expires : s'.row.expiresAt = s.row.expiresAt
  row : s.row.status ≠ .active → s'.row.status ≠ .active
  returned : s.returned = true → s'.returned = true
  covered : cfg.redisEnabled = true → s'.returned = true →
    ∀ x ∈ task.fill, Fill cfg s x → Covered s'.cache s'.clock x

variable {task : Task S H}

section

variable (hr : Rely cfg s s' task)

include hr

theorem AfterOk.frame {status : SessionStatus} {k : AfterWrite S H}
    (h : AfterOk s.row late status k) : AfterOk s'.row late status k := by
  cases k with
  | reuseFenced rot session => exact h.trans hr.expires.symm
  | revokeFenced rev candidate => exact h.trans hr.expires.symm
  | revokeBuried rev => exact ⟨hr.row h.1, h.2⟩
  | _ => exact h

theorem Captured.frame {deadline : ℤ} (h : Captured cfg s deadline) : Captured cfg s' deadline :=
  h.trans (add_le_add_left hr.clock _)

theorem Fill.rely (hx : x ∈ task.fill) (h : Fill cfg s x) : Fill cfg s' x :=
  h.frame hr.clock hr.expires fun hredis hret => hr.covered hredis hret x hx h

/-- **The outline of a call survives what the others do.** -/
theorem Outline.frame (h : Outline cfg s late task) : Outline cfg s' late task := by
  cases task with
  | readRow caller deadline => exact Captured.frame hr h
  | rotateRead rot rounds deadline => exact Captured.frame hr h
  | checkRow caller session deadline =>
    obtain ⟨hexpires, hlate, hfill⟩ := h
    refine ⟨hexpires.trans hr.expires.symm, hlate, fun hactive => (hfill hactive).rely hr ?_⟩
    exact if_pos hactive
  | prepare entry deadline k =>
    obtain ⟨hexpires, hk, hfill⟩ := h
    refine ⟨hexpires.trans hr.expires.symm, hk.frame hr, fun hactive => ?_⟩
    obtain ⟨d, rfl, hd⟩ := hfill hactive
    exact ⟨d, rfl, hd.rely hr (if_pos hactive)⟩
  | eval entry deadline expiration k =>
    obtain ⟨hexpires, hk, hfill, hdeny⟩ := h
    refine ⟨hexpires.trans hr.expires.symm, hk.frame hr,
      fun hactive => (hfill hactive).rely hr (if_pos hactive), fun hd => ?_⟩
    obtain ⟨earlier, hle, he⟩ := hdeny hd
    exact ⟨earlier, hle.trans hr.clock, he⟩
  | complete entry deadline k => exact AfterOk.frame hr h
  | rotateSwap rot rounds session deadline =>
    exact ⟨h.1.frame hr, h.2.trans hr.expires.symm⟩
  | reuseRevoke rot session => exact h.trans hr.expires.symm
  | revokeRow rev candidate => exact h.trans hr.expires.symm
  | _ => exact h

end

variable {call : Call S H}

theorem CallOk.frame (hr : Rely cfg s s' call.task) (h : CallOk cfg s call) : CallOk cfg s' call :=
  ⟨fun hlate => hr.returned (h.late hlate), h.outline.frame hr⟩

/-- The outline bounds whatever a call may yet write. -/
theorem fill_of_outline (h : Outline cfg s late task) (hx : x ∈ task.fill) : Fill cfg s x := by
  cases task with
  | checkRow caller session deadline =>
    obtain ⟨hactive, hsome⟩ := ite_none_right_eq_some.mp hx
    obtain rfl := some.inj hsome
    exact h.2.2 hactive
  | prepare entry deadline k =>
    cases deadline with
    | none => cases hx
    | some deadline =>
      obtain ⟨hactive, hsome⟩ := ite_none_right_eq_some.mp hx
      obtain rfl := some.inj hsome
      obtain ⟨d, hd, hfill⟩ := h.2.2 hactive
      obtain rfl := some.inj hd
      exact hfill
  | eval entry deadline expiration k =>
    obtain ⟨hactive, hsome⟩ := ite_none_right_eq_some.mp hx
    obtain rfl := some.inj hsome
    exact h.2.2.1 hactive
  | _ => cases hx

/-! ## Writes to the cache -/

section

variable {entry : CacheEntry} {deadline : Option ℤ} {expiration : ℤ} {k : AfterWrite S H} {x : ℤ}

section

variable (h : Outline cfg s late (.eval entry deadline expiration k))

include h

theorem covered_of_tombstone (hdeny : entry.status ≠ .active) (hx : Fill cfg s x) :
    Covered (some ⟨entry, unixMilli s.clock + expiration⟩) s.clock x := by
  obtain ⟨hexpires, -, -, he⟩ := h
  obtain ⟨earlier, hle, he⟩ := he hdeny
  refine covered_of_deny hdeny he hle hx.deadline ?_
  rw [hexpires]
  exact hx.session

/-- **Once a revocation has returned, no write uncovers anything.** -/
theorem covered_eval (hredis : cfg.redisEnabled = true) (hret : s.returned = true)
    (hx : Fill cfg s x) : Covered (evalScript entry expiration s.clock s.cache).2 s.clock x := by
  have hold := hx.covered hredis hret
  by_cases hactive : entry.status = .active
  · obtain heq | ⟨heq, hdead⟩ :=
      evalScript_covered hactive ((h.2.2.1 hactive).covered hredis hret)
    · rw [heq]
      exact hold
    · right
      obtain ⟨cell, hcell, hdeny, hle⟩ | hle := hold
      · have := hdead cell hcell hdeny
        omega
      · exact hle
  · obtain heq | heq := evalScript_deny hactive expiration s.clock s.cache
    · rw [heq]
      exact hold
    · rw [heq]
      exact covered_of_tombstone h hactive hx

/-- **…and none brings the session back.** -/
theorem buried_eval (hredis : cfg.redisEnabled = true) (hret : s.returned = true)
    (hold : Buried s.cache s.clock) :
    Buried (evalScript entry expiration s.clock s.cache).2 s.clock := by
  by_cases hactive : entry.status = .active
  · obtain heq | ⟨heq, -⟩ :=
      evalScript_covered hactive ((h.2.2.1 hactive).covered hredis hret)
    · rw [heq]
      exact hold
    · rw [heq]
      exact fun cell hcell => absurd hcell (not_mem_none cell)
  · obtain heq | heq := evalScript_deny hactive expiration s.clock s.cache
    · rw [heq]
      exact hold
    · rw [heq]
      intro cell hcell hcellActive
      obtain rfl := some.inj hcell
      exact absurd hcellActive hactive

end

end

theorem Rely.refl (cfg : SessionConfig S H) (s : SessionState S H) (task : Task S H) :
    Rely cfg s s task where
  clock := le_refl _
  expires := rfl
  row := id
  returned := id
  covered := fun hredis hret _ _ hx => hx.covered hredis hret

variable {swaps : List (H × H)} {now : ℤ} {row : UserSession H}

/-- A write to the row finds it active, so no revocation has returned. -/
theorem rely_row (hactive : ¬ s.row.inactiveAt now) (hexpires : row.expiresAt = s.row.expiresAt)
    (task : Task S H) :
    Rely cfg s { s with row, swaps } task where
  clock := le_refl _
  expires := hexpires
  row := fun hrow => absurd (active_of_not_inactiveAt hactive) hrow
  returned := id
  covered := fun hredis hret _ _ hx => hx.covered hredis hret

theorem stateOk_row (hs : StateOk cfg s) (hactive : ¬ s.row.inactiveAt now) :
    StateOk cfg { s with row, swaps } where
  row := fun hret => absurd (active_of_not_inactiveAt hactive) (hs.row hret)
  buried := hs.buried
  replies := hs.replies

/-- **Whatever a step writes, the state stays as it should and the other calls can rely on it.** -/
theorem effect_ok (he : Effect s task s') (hs : StateOk cfg s) (h : Outline cfg s late task) :
    StateOk cfg s' ∧ ∀ other : Task S H, Rely cfg s s' other := by
  cases he with
  | same => exact ⟨hs, Rely.refl cfg s⟩
  | wrote entry deadline expiration k hok =>
    refine ⟨⟨hs.row, fun hredis hret => buried_eval h hredis hret (hs.buried hredis hret),
      hs.replies⟩, fun other => ⟨le_refl _, rfl, id, id, fun hredis hret x _ hx => ?_⟩⟩
    exact covered_eval h hredis hret hx
  | swapped rot rounds session deadline hactive hhash =>
    exact ⟨stateOk_row hs hactive, rely_row hactive rfl⟩
  | reuseRevoked rot session hactive => exact ⟨stateOk_row hs hactive, rely_row hactive rfl⟩
  | revoked rev candidate hactive => exact ⟨stateOk_row hs hactive, rely_row hactive rfl⟩

variable {tasks : List (Call S H)}

theorem Rely.logged {returned : Bool} {replies : List (Logged S H)}
    (hmono : s.returned = true → returned = true)
    (hshield : cfg.redisEnabled = true → returned = true → s.returned = true ∨ Shielded s tasks)
    (hcall : call ∈ tasks) :
    Rely cfg s { s with returned, replies } call.task where
  clock := le_refl _
  expires := rfl
  row := id
  returned := hmono
  covered := fun hredis hret x hx hfill =>
    (hshield hredis hret).elim (hfill.covered hredis) fun hsh => hsh.2 call hcall x hx

theorem tick_ok (elapsed : ℕ) (hs : StateOk cfg s) :
    StateOk cfg { s with clock := s.clock + elapsed } ∧
      ∀ task : Task S H, Rely cfg s { s with clock := s.clock + elapsed } task := by
  have hclock : s.clock ≤ s.clock + elapsed := le_add_of_nonneg_right (Int.natCast_nonneg _)
  refine ⟨⟨hs.row, fun hredis h => (hs.buried hredis h).mono hclock, hs.replies⟩, fun task =>
    ⟨hclock, rfl, id, id, fun hredis h x _ hx => (hx.covered hredis h).mono hclock⟩⟩

theorem holds_atRest (clock : ℤ) (row : UserSession H) (cache : Option Cell) :
    Calls.Holds (StateOk cfg) (CallOk cfg) (atRest clock row cache) where
  shared :=
    { row := fun h => absurd h false_ne_true
      buried := fun _ h => absurd h false_ne_true
      replies := fun _ h => absurd h not_mem_nil }
  tasks := fun _ h => absurd h not_mem_nil

theorem effect_returned (he : Effect s task s') : s'.returned = s.returned := by
  cases he <;> rfl

variable [DecidableEq H] {c : Choice}

/-- **A revocation that is about to return leaves everything covered**: by its tombstone, or, the
tombstone being lost, because it found it so. -/
theorem shielded_of_end {entry : CacheEntry} {deadline : Option ℤ} {expiration : ℤ}
    {rev : Revocation S}
    (h : Outline cfg s late (.eval entry deadline expiration (.revokeBuried rev)))
    (htasks : ∀ call ∈ tasks, CallOk cfg s call)
    (hguard : (Task.eval entry deadline expiration (.revokeBuried rev)).losesTombstone s c →
      Shielded s tasks) :
    Shielded (act cfg s c (.eval entry deadline expiration (.revokeBuried rev))).1 tasks := by
  have hdeny : entry.status ≠ .active := h.2.1.2
  rw [act]
  by_cases hf : c.fails = true
  · rw [if_pos hf]
    exact hguard ⟨_, rfl, .inl hf⟩
  rw [if_neg hf]
  obtain heq | heq := evalScript_deny hdeny expiration s.clock s.cache
  · rw [heq]
    exact hguard ⟨_, rfl, .inr (by rw [heq])⟩
  · rw [heq, if_pos rfl]
    refine ⟨fun cell hcell hactive => ?_, fun call hcall x hx => ?_⟩
    · obtain rfl := some.inj hcell
      exact absurd hactive hdeny
    · exact covered_of_tombstone h hdeny (fill_of_outline (htasks call hcall).outline hx)

/-! ## Whole runs -/

/-- **One step of one call**, seen from the state, the other calls and the call itself. -/
theorem perform_ok (hs : StateOk cfg s) (htasks : ∀ call ∈ tasks, CallOk cfg s call)
    (hcall : call ∈ tasks) (hguard : call.task.losesTombstone s c → Shielded s tasks) :
    StateOk cfg (perform cfg s call c).1 ∧
      (∀ other ∈ tasks, CallOk cfg (perform cfg s call c).1 other) ∧
      ∀ rest ∈ (perform cfg s call c).2, CallOk cfg (perform cfg s call c).1 rest := by
  have hc := htasks call hcall
  have heff := act_effect cfg s c call.task
  obtain ⟨hs', hrely⟩ := effect_ok heff hs hc.outline
  have hnext : NextOk cfg (act cfg s c call.task).1 tasks call.late (act cfg s c call.task).2 := by
    refine nextOk_act hs hc fun _ entry deadline expiration rev htask => ?_
    rw [htask] at hguard ⊢
    have houtline := hc.outline
    rw [htask] at houtline
    exact shielded_of_end houtline htasks hguard
  have hret := effect_returned heff
  have hothers : ∀ other ∈ tasks, CallOk cfg (act cfg s c call.task).1 other :=
    fun other hother => (htasks other hother).frame (hrely other.task)
  unfold perform
  generalize act cfg s c call.task = r at *
  obtain ⟨s', next⟩ := r
  cases next with
  | go task =>
    refine ⟨hs', hothers, fun rest hrest => ?_⟩
    obtain rfl := some.inj hrest
    exact ⟨fun hlate => hret.trans (hc.late hlate), hnext⟩
  | reply result =>
    obtain ⟨hanswer, htrue⟩ := hnext
    have hmono : s'.returned = true → (s'.returned || result.revokedTrue) = true :=
      fun h => by rw [h, Bool.true_or]
    -- the flag is set before, or by this reply of a revocation
    have hset : (s'.returned || result.revokedTrue) = true →
        s'.returned = true ∨ result.revokedTrue = true := (or_eq_true _ _).mp
    refine ⟨⟨fun h => (hset h).elim hs'.row fun ht => (htrue ht).1,
      fun hredis h => (hset h).elim (hs'.buried hredis) fun ht => ((htrue ht).2 hredis).1,
      fun r hr => ?_⟩, fun other hother => (hothers other hother).frame ?_,
      fun rest hrest => absurd hrest (not_mem_none rest)⟩
    · obtain hr | hr := mem_append.mp hr
      · exact hs'.replies r hr
      · rw [mem_singleton.mp hr]
        exact hanswer
    · exact Rely.logged hmono
        (fun hredis h => (hset h).imp_right fun ht => (htrue ht).2 hredis) hother

/-- **Nothing that began after a revocation returned finds the session.** -/
theorem revocation_run {w : Calls (SessionState S H) (Call S H)}
    {ops : List (CallOp (Request S H) Choice ℕ)}
    (h : Calls.Holds (StateOk cfg) (CallOk cfg) w)
    (hguard : Runs.Guarded (Calls.step (calls cfg)) NotOutlived w ops) :
    Calls.Holds (StateOk cfg) (CallOk cfg) (Runs.run (Calls.step (calls cfg)) w ops) := by
  refine Calls.holds_run ?_ ?_ ?_ h hguard
  · intro w request _ _
    exact ⟨id, by cases request <;> trivial⟩
  · intro w k c call hg hcall h
    exact perform_ok h.shared h.tasks (mem_of_getElem? hcall) (hg call hcall)
  · intro w elapsed _ h
    obtain ⟨hs, hrely⟩ := tick_ok elapsed h.shared
    exact ⟨hs, fun call hcall => (h.tasks call hcall).frame (hrely call.task)⟩

end

variable [DecidableEq H]

/-- **Revocation is final through the cache.**  Start from any row, any cached snapshot and any
time, with no call under way; let calls be interleaved in any way and any of their statements and
commands fail.  If every revocation that loses its tombstone finds each snapshot under way covered,
then no lookup begun after a revocation returned true finds the session. -/
theorem revocation_final (cfg : SessionConfig S H) (clock : ℤ) (row : UserSession H)
    (cache : Option Cell) (ops : List (CallOp (Request S H) Choice ℕ))
    (hguard : Runs.Guarded (Calls.step (calls cfg)) NotOutlived (atRest clock row cache) ops) :
    ∀ r ∈ (Runs.run (Calls.step (calls cfg)) (atRest clock row cache) ops).shared.replies,
      r.late = true → ∀ entry, r.result ≠ .got (.ok entry) :=
  (revocation_run (holds_atRest clock row cache) hguard).shared.replies

/-! ## A lost tombstone -/

/-- Secrets that are their own digests, each followed by the next number. -/
def exampleConfig : SessionConfig ℕ ℕ where
  redisEnabled := true
  syncFrequency := 60
  hashRefreshSecret := id
  deriveNextRefreshSecret := (· + 1)

/-- An active session. -/
def exampleRow : UserSession ℕ where
  sid := "s"
  userId := 1
  userAuthVersion := 1
  refreshHash := 0
  expiresAt := 1000

/-- The `k`-th call takes a step and nothing fails. -/
def go (k : ℕ) : CallOp (Request ℕ ℕ) Choice ℕ := .advance k {}

/-- With no snapshot under way the fence is enough, though the tombstone is lost. -/
theorem revocation_final_lost :
    let w := Runs.run (Calls.step (calls exampleConfig)) (atRest 100000000000 exampleRow none)
      [.start (.revoke 1 "logout"), go 0, go 0, go 0, go 0, go 0, go 0,
        .advance 0 { fails := true }, .start .get, go 0, go 0]
    (∃ r ∈ w.shared.replies, r.late = true) ∧
      ∀ r ∈ w.shared.replies, r.late = true → ∀ entry, r.result ≠ .got (.ok entry) :=
  ⟨by decide, revocation_final exampleConfig _ exampleRow none _ (by decide)⟩

/-- **The fence does not reach as far as the tombstone would have.**  A lookup misses the cache,
the revocation writes its fence at second 100, the lookup captures its deadline and reads the row
one second later, the revocation commits and loses its tombstone.  When the fence expires at second
160 the lookup has half a second left to write its snapshot, and the next lookup reads it. -/
theorem revocation_outlived :
    (Runs.run (Calls.step (calls exampleConfig)) (atRest 100000000000 exampleRow none)
      [.start .get, go 0, .start (.revoke 1 "logout"), go 1, go 1, go 1, go 1, .env 1000000000,
        go 0, go 1, go 1, go 1, go 0, go 1, .advance 1 { fails := true }, .env 59500000000,
        go 0, .start .get, go 1, go 1]).shared.replies =
      [⟨false, false, false, .revoked (.ok true)⟩,
        ⟨true, true, false, .got (.ok exampleRow.cacheEntry)⟩] := rfl

end Session
