import NewApi.TwoFactor.Attempt

/-!
# TwoFactor/Lockout — what the lock of an account holds back

An attempt decides on the copy of the row it has read.  Between evaluating a code and writing what
came of it, an attempt is `pending`.

* `lockout_outrun` — attempts that overlap evaluate more wrong codes than the lock allows, and one
  with an old copy succeeds while the account is locked and clears the lock.
* `lockout_holds` — when a code is evaluated only with no other attempt pending and the lock as it
  was read, at most `maxFailAttempts` wrong codes are evaluated before the account is locked, and
  no attempt touches a lock in force.  A backup code is accepted at most once in any case.
-/

namespace TwoFactor

open Calls List Option AttemptNext

section

variable {H : Type}

/-! ## The phases of an attempt -/

/-- A code has been evaluated and the outcome not yet written. -/
def AttemptTask.pending : AttemptTask → Bool
  | .useCode _ | .increment _ | .incrementNow _ _ | .incrementWrite _ _ _ | .reset => true
  | _ => false

/-- The copy by which the next step evaluates a code. -/
def AttemptTask.evaluating (checks : CodeChecks H) : AttemptTask → Option TwoFA
  | .verify copy code => if classify checks code = .malformed then some copy else none
  | .validateTOTP copy _ | .findCodes copy _ => some copy
  | _ => none

/-- A code is evaluated with no other attempt pending and with the lock as it was read. -/
def Serial (checks : CodeChecks H) (w : Calls (TwoFAState H) AttemptTask) :
    CallOp String Unit ℕ → Prop
  | .advance k _ => ∀ t ∈ w.tasks[k]?, ∀ copy ∈ t.evaluating checks,
      (∀ u ∈ w.tasks, u.pending = false) ∧ copy.lockedUntil = w.shared.row.lockedUntil
  | _ => True

instance (checks : CodeChecks H) (w : Calls (TwoFAState H) AttemptTask) :
    ∀ op, Decidable (Serial checks w op)
  | .advance k _ => inferInstanceAs (Decidable (∀ t ∈ w.tasks[k]?, ∀ copy ∈ t.evaluating checks,
      (∀ u ∈ w.tasks, u.pending = false) ∧ copy.lockedUntil = w.shared.row.lockedUntil))
  | .start _ => inferInstanceAs (Decidable True)
  | .env _ => inferInstanceAs (Decidable True)

/-! ## What is known between two steps -/

/-- No evaluated code is uncounted. -/
structure Idle (s : TwoFAState H) : Prop where
  counted : s.wrong ≤ s.row.failedAttempts
  below : s.wrong < maxFailAttempts

/-- One evaluated code may be uncounted. -/
structure Counting (s : TwoFAState H) : Prop where
  counted : s.wrong ≤ s.row.failedAttempts + 1
  below : s.wrong ≤ maxFailAttempts

/-- No lock is in force. -/
def Unlocked (s : TwoFAState H) : Prop := ¬ s.row.isLocked s.clock

/-- The assertion at each point of an attempt. -/
def AttemptOk (s : TwoFAState H) : AttemptTask → Prop
  | .findCodes copy _ => ¬ copy.isLocked s.clock
  | .useCode id => Unlocked s ∧ Idle s ∧ ∃ code, s.codes.find? id = some code ∧ code.isUsed = false
  | .reset => Unlocked s ∧ Idle s
  | .increment _ => Unlocked s ∧ Counting s
  | .incrementNow _ current => Unlocked s ∧ Counting s ∧ current = s.row
  | .incrementWrite _ current now =>
    Unlocked s ∧ Counting s ∧ current = s.row ∧ ¬ current.isLocked now
  | _ => True

variable {t : AttemptTask} {s : TwoFAState H}

theorem AttemptOk.unlocked (h : AttemptOk s t) (hp : t.pending = true) : Unlocked s := by
  cases t with
  | useCode | increment | incrementNow | incrementWrite | reset => exact h.1
  | _ => cases hp

theorem Idle.counting (h : Idle s) : Counting s :=
  ⟨h.counted.trans (Nat.le_succ _), h.below.le⟩

theorem AttemptOk.counting (h : AttemptOk s t) (hp : t.pending = true) : Counting s := by
  cases t with
  | useCode => exact h.2.1.counting
  | reset => exact h.2.counting
  | increment => exact h.2
  | incrementNow | incrementWrite => exact h.2.1
  | _ => cases hp

/-- Attempts know what they have read, and the failures are counted. -/
structure LockInv (w : Calls (TwoFAState H) AttemptTask) : Prop where
  tasks : ∀ t ∈ w.tasks, AttemptOk w.shared t
  alone : w.tasks.Pairwise fun t u => ¬ (t.pending = true ∧ u.pending = true)
  idle : (∀ t ∈ w.tasks, t.pending = false) → Idle w.shared

variable {w : Calls (TwoFAState H) AttemptTask}

theorem LockInv.counting (h : LockInv w) : Counting w.shared := by
  by_cases hp : ∃ t ∈ w.tasks, t.pending = true
  · obtain ⟨t, ht, hpending⟩ := hp
    exact (h.tasks t ht).counting hpending
  · refine (h.idle fun t ht => ?_).counting
    exact eq_false_of_ne_true fun hpending => hp ⟨t, ht, hpending⟩

/-! ## Putting the calls together -/

variable {now : ℤ}

theorem isLocked_of_le {row : TwoFA} {now' : ℤ} (hle : now ≤ now') (h : row.isLocked now') :
    row.isLocked now := by
  obtain ⟨u, hu, hlt⟩ := h
  exact ⟨u, hu, Int.lt_of_le_of_lt hle hlt⟩

variable {s' : TwoFAState H}

/-- What an attempt that is not pending knows is about its copy. -/
theorem AttemptOk.of_quiet (h : AttemptOk s t) (hp : t.pending = false)
    (hclock : s.clock ≤ s'.clock) : AttemptOk s' t := by
  cases t with
  | findCodes copy code => exact fun hlocked => h (isLocked_of_le hclock hlocked)
  | useCode | increment | incrementNow | incrementWrite | reset => cases hp
  | _ => trivial

theorem AttemptOk.tick (h : AttemptOk s t) (elapsed : ℕ) :
    AttemptOk { s with clock := s.clock + elapsed } t := by
  have hle : s.clock ≤ s.clock + elapsed := Int.le_add_of_nonneg_right (Int.natCast_nonneg elapsed)
  have hunlocked (hs : Unlocked s) : Unlocked { s with clock := s.clock + elapsed } :=
    fun hlocked => hs (isLocked_of_le hle hlocked)
  cases t with
  | useCode id => exact ⟨hunlocked h.1, ⟨h.2.1.counted, h.2.1.below⟩, h.2.2⟩
  | reset => exact ⟨hunlocked h.1, h.2.counted, h.2.below⟩
  | increment => exact ⟨hunlocked h.1, h.2.counted, h.2.below⟩
  | incrementNow => exact ⟨hunlocked h.1, ⟨h.2.1.counted, h.2.1.below⟩, h.2.2⟩
  | incrementWrite => exact ⟨hunlocked h.1, ⟨h.2.1.counted, h.2.1.below⟩, h.2.2⟩
  | getTwoFA | verify | validateTOTP | validateBackup | findCodes => exact h.of_quiet rfl hle

variable {k : ℕ} {next : Option AttemptTask}

/-- A step that changes nothing, for an attempt that is not pending. -/
theorem lockInv_quiet (h : LockInv w) (hk : w.tasks[k]? = some t) (hp : t.pending = false)
    (hnext : ∀ t' ∈ next, AttemptOk w.shared t' ∧ t'.pending = false) :
    LockInv ⟨w.shared, w.tasks.eraseIdx k ++ next.toList⟩ where
  tasks := fun u hu => by
    obtain hu | hu := mem_append.mp hu
    · exact h.tasks u (mem_of_mem_eraseIdx hu)
    · exact (hnext u (mem_toList.mp hu)).1
  alone := pairwise_append_option (h.alone.sublist (eraseIdx_sublist _ _))
    fun t' ht' _ _ hboth => absurd hboth.2 (ne_true_of_eq_false (hnext t' ht').2)
  idle := fun hquiet => h.idle fun u hu => by
    obtain rfl | hu := mem_or_mem_eraseIdx hk hu
    · exact hp
    · exact hquiet u (mem_append_left _ hu)

/-- A step while no other attempt is pending. -/
theorem lockInv_alone {rest : List AttemptTask} (hrest : ∀ u ∈ rest, AttemptOk s u)
    (hquiet : ∀ u ∈ rest, u.pending = false) (hclock : s.clock ≤ s'.clock)
    (hnext : ∀ t ∈ next, AttemptOk s' t) (hidle : (∀ t ∈ next, t.pending = false) → Idle s') :
    LockInv ⟨s', rest ++ next.toList⟩ where
  tasks := fun u hu => by
    obtain hu | hu := mem_append.mp hu
    · exact (hrest u hu).of_quiet (hquiet u hu) hclock
    · exact hnext u (mem_toList.mp hu)
  alone := by
    refine pairwise_append_option (pairwise_of_forall_mem_list fun u hu _ _ hboth => ?_)
      fun _ _ u hu hboth => ?_
    · exact absurd hboth.1 (ne_true_of_eq_false (hquiet u hu))
    · exact absurd hboth.1 (ne_true_of_eq_false (hquiet u hu))
  idle := fun hall => hidle fun t ht => hall t (mem_append_right _ (mem_toList.mpr ht))

/-! ## One step -/

/-- What is asked of a step while no other attempt is pending. -/
structure AloneOk (s : TwoFAState H) (r : TwoFAState H × AttemptNext) : Prop where
  clock : r.1.clock = s.clock
  next : ∀ t, r.2 = .go t → AttemptOk r.1 t
  idle : (∀ t, r.2 = .go t → t.pending = false) → Idle r.1

variable {r : AttemptReply}

theorem reply_ne_go : reply r ≠ .go t := nofun

theorem aloneOk_reply (hclock : s'.clock = s.clock) (h : Idle s') : AloneOk s (s', .reply r) :=
  ⟨hclock, fun _ heq => absurd heq reply_ne_go, fun _ => h⟩

theorem aloneOk_go (hclock : s'.clock = s.clock) (h : AttemptOk s' t) (hp : t.pending = true) :
    AloneOk s (s', .go t) :=
  ⟨hclock, fun _ heq => go.inj heq ▸ h, fun hquiet =>
    absurd hp (ne_true_of_eq_false (hquiet t rfl))⟩

theorem aloneOk_evaluatedWrong (hidle : Idle s) (hunlocked : Unlocked s) :
    AloneOk s (evaluatedWrong s) :=
  aloneOk_go rfl ⟨hunlocked, Nat.succ_le_succ hidle.counted, hidle.below⟩ rfl

variable {copy : TwoFA}

theorem unlocked_of_copy (hcopy : copy.lockedUntil = s.row.lockedUntil)
    (h : ¬ copy.isLocked s.clock) : Unlocked s := by
  unfold Unlocked TwoFA.isLocked
  rwa [← hcopy]

variable (checks : CodeChecks H)

/-- **A code is evaluated**, by the lock as it is and with nothing uncounted. -/
theorem aloneOk_evaluating (ht : AttemptOk s t) (hcopy : copy ∈ t.evaluating checks)
    (hsame : copy.lockedUntil = s.row.lockedUntil) (hidle : Idle s) :
    AloneOk s (attemptAct checks s t) := by
  cases t with
  | verify c code =>
    rw [AttemptTask.evaluating] at hcopy
    split_ifs at hcopy with hwrong
    · obtain rfl := some.inj hcopy
      rw [attemptAct, hwrong]
      split_ifs with henabled hlocked
      · exact aloneOk_reply rfl hidle
      · exact aloneOk_reply rfl hidle
      · exact aloneOk_evaluatedWrong hidle (unlocked_of_copy hsame hlocked)
    · cases hcopy
  | validateTOTP c code =>
    obtain rfl := some.inj hcopy
    rw [attemptAct]
    split_ifs with hlocked hvalid
    · exact aloneOk_reply rfl hidle
    · exact aloneOk_go rfl ⟨unlocked_of_copy hsame hlocked, hidle⟩ rfl
    · exact aloneOk_evaluatedWrong hidle (unlocked_of_copy hsame hlocked)
  | findCodes c code =>
    obtain rfl := some.inj hcopy
    have hunlocked := unlocked_of_copy hsame ht
    rw [attemptAct]
    split
    · exact aloneOk_evaluatedWrong hidle hunlocked
    next row hrow =>
      have hunused := find?_some hrow
      rw [decide_eq_true_iff] at hunused
      exact aloneOk_go rfl ⟨hunlocked, hidle, row,
        Table.find?_of_mem (mem_of_find?_eq_some hrow), hunused.1⟩ rfl
  | _ => cases hcopy

theorem maxFailAttempts_pos : 0 < maxFailAttempts := by decide

/-- The failure is counted, and locks the account when it is one too many. -/
theorem aloneOk_incrementWrite {retries : ℕ} {current : TwoFA} (hcounting : Counting s)
    (hcurrent : current = s.row) (hunlocked : ¬ current.isLocked now) :
    AloneOk s (incrementWrite s retries current now) := by
  subst hcurrent
  unfold incrementWrite
  rw [if_pos ⟨rfl, hunlocked⟩]
  refine aloneOk_reply rfl ⟨?_, ?_⟩
  · dsimp only [TwoFA.failOnce]
    split_ifs
    · exact Nat.zero_le _
    · exact hcounting.counted
  · dsimp only
    split_ifs with hmax
    · exact maxFailAttempts_pos
    · exact hcounting.counted.trans_lt (not_le.mp hmax)

/-- **What came of it is written.** -/
theorem aloneOk_pending (ht : AttemptOk s t) (hp : t.pending = true) :
    AloneOk s (attemptAct checks s t) := by
  cases t with
  | useCode id =>
    obtain ⟨hunlocked, hidle, code, hcode, hunused⟩ := ht
    rw [attemptAct, useCode, hcode]
    dsimp only
    rw [if_neg (ne_true_of_eq_false hunused)]
    exact aloneOk_go rfl ⟨hunlocked, hidle.counted, hidle.below⟩ rfl
  | increment retries => exact aloneOk_go rfl ⟨ht.1, ht.2, rfl⟩ rfl
  | incrementNow retries current =>
    obtain ⟨hunlocked, hcounting, rfl⟩ := ht
    rw [attemptAct, if_neg hunlocked]
    exact aloneOk_go rfl ⟨hunlocked, hcounting, rfl, hunlocked⟩ rfl
  | incrementWrite retries current now =>
    exact aloneOk_incrementWrite ht.2.1 ht.2.2.1 ht.2.2.2
  | reset => exact aloneOk_reply rfl ⟨Nat.zero_le _, maxFailAttempts_pos⟩
  | _ => cases hp

/-- What is asked of a step that changes nothing. -/
structure QuietOk (s : TwoFAState H) (r : TwoFAState H × AttemptNext) : Prop where
  same : r.1 = s
  next : ∀ t, r.2 = .go t → AttemptOk s t ∧ t.pending = false

theorem quietOk_reply : QuietOk s (s, .reply r) :=
  ⟨rfl, fun _ heq => absurd heq reply_ne_go⟩

theorem quietOk_go (h : AttemptOk s t) (hp : t.pending = false) : QuietOk s (s, .go t) :=
  ⟨rfl, fun _ heq => go.inj heq ▸ ⟨h, hp⟩⟩

/-- **Before that, an attempt only looks.** -/
theorem quietOk_attemptAct (hp : t.pending = false) (hcopy : t.evaluating checks = none) :
    QuietOk s (attemptAct checks s t) := by
  cases t with
  | getTwoFA code => exact quietOk_go trivial rfl
  | verify copy code =>
    rw [AttemptTask.evaluating] at hcopy
    rw [attemptAct]
    split_ifs with henabled hlocked
    · exact quietOk_reply
    · exact quietOk_reply
    · split
      · exact quietOk_go trivial rfl
      · exact quietOk_go trivial rfl
      next hmalformed =>
        rw [if_pos hmalformed] at hcopy
        cases hcopy
  | validateBackup copy code =>
    rw [attemptAct]
    split_ifs with hlocked
    · exact quietOk_reply
    · exact quietOk_go hlocked rfl
  | validateTOTP | findCodes => cases hcopy
  | useCode | increment | incrementNow | incrementWrite | reset => cases hp

theorem row_attemptAct (hp : t.pending = false) :
    (attemptAct checks s t).1.row = s.row ∧
      (attemptAct checks s t).1.successes = s.successes := by
  cases t with
  | getTwoFA code => exact ⟨rfl, rfl⟩
  | verify copy code =>
    rw [attemptAct]
    split_ifs
    · exact ⟨rfl, rfl⟩
    · exact ⟨rfl, rfl⟩
    · split <;> exact ⟨rfl, rfl⟩
  | validateTOTP copy code =>
    rw [attemptAct]
    split_ifs <;> exact ⟨rfl, rfl⟩
  | validateBackup copy code =>
    rw [attemptAct]
    split_ifs <;> exact ⟨rfl, rfl⟩
  | findCodes copy code =>
    rw [attemptAct]
    split <;> exact ⟨rfl, rfl⟩
  | useCode | increment | incrementNow | incrementWrite | reset => cases hp

/-! ## Runs -/

variable {checks : CodeChecks H}

theorem attemptPerform_fst (s : TwoFAState H) (t : AttemptTask) :
    (attemptPerform checks s t).1 = (attemptAct checks s t).1 := by
  unfold attemptPerform
  split <;> simp_all

variable {t' : AttemptTask}

theorem go_of_mem_attemptPerform (h : t' ∈ (attemptPerform checks s t).2) :
    (attemptAct checks s t).2 = .go t' := by
  unfold attemptPerform at h
  split at h
  next s' next heq => rw [heq, some.inj h]
  · cases h

theorem mem_attemptPerform_of_go (h : (attemptAct checks s t).2 = .go t') :
    t' ∈ (attemptPerform checks s t).2 := by
  unfold attemptPerform
  split
  next s' next heq =>
    rw [heq] at h
    exact congrArg some (go.inj h)
  next s' r heq =>
    rw [heq] at h
    exact absurd h reply_ne_go

/-- **Every step of a serial run.** -/
theorem lockInv_advance (h : LockInv w) (hk : w.tasks[k]? = some t)
    (hserial : ∀ copy ∈ t.evaluating checks,
      (∀ u ∈ w.tasks, u.pending = false) ∧ copy.lockedUntil = w.shared.row.lockedUntil) :
    LockInv ⟨(attemptPerform checks w.shared t).1,
      w.tasks.eraseIdx k ++ (attemptPerform checks w.shared t).2.toList⟩ := by
  have ht := h.tasks t (mem_of_getElem? hk)
  have hrest : ∀ u ∈ w.tasks.eraseIdx k, AttemptOk w.shared u := fun u hu =>
    h.tasks u (mem_of_mem_eraseIdx hu)
  -- a step taken alone, whether it evaluates or writes
  have halone (hquiet : ∀ u ∈ w.tasks.eraseIdx k, u.pending = false)
      (hok : AloneOk w.shared (attemptAct checks w.shared t)) : LockInv
        ⟨(attemptPerform checks w.shared t).1,
          w.tasks.eraseIdx k ++ (attemptPerform checks w.shared t).2.toList⟩ := by
    rw [attemptPerform_fst]
    exact lockInv_alone hrest hquiet (Int.le_of_eq hok.clock.symm)
      (fun u hu => hok.next u (go_of_mem_attemptPerform hu))
      fun hnext => hok.idle fun u hu => hnext u (mem_attemptPerform_of_go hu)
  by_cases hp : t.pending = true
  · refine halone (fun u hu => ?_) (aloneOk_pending checks ht hp)
    have hapart := apart_eraseIdx (fun _ _ h h' => h h'.symm) h.alone hk u hu
    exact eq_false_of_ne_true fun hu => hapart ⟨hp, hu⟩
  cases hcopy : t.evaluating checks with
  | some copy =>
    obtain ⟨hquiet, hsame⟩ := hserial copy hcopy
    exact halone (fun u hu => hquiet u (mem_of_mem_eraseIdx hu))
      (aloneOk_evaluating checks ht hcopy hsame (h.idle hquiet))
  | none =>
    have hok := quietOk_attemptAct checks (s := w.shared) (eq_false_of_ne_true hp) hcopy
    rw [attemptPerform_fst, hok.same]
    exact lockInv_quiet h hk (eq_false_of_ne_true hp) fun u hu =>
      hok.next u (go_of_mem_attemptPerform hu)

theorem lockInv_step (w : Calls (TwoFAState H) AttemptTask) (op : CallOp String Unit ℕ)
    (h : LockInv w) (hserial : Serial checks w op) :
    LockInv (step (attempts checks) w op) := by
  cases op with
  | start code =>
    refine ⟨fun t ht => ?_, ?_, fun hquiet =>
      h.idle fun t ht => hquiet t (mem_append_left _ ht)⟩
    · obtain ht | ht := mem_append.mp ht
      · exact h.tasks t ht
      · rw [mem_singleton.mp ht]
        trivial
    · refine pairwise_append_option (o := some (.getTwoFA code)) h.alone
        fun t ht _ _ hboth => ?_
      rw [← some.inj ht] at hboth
      cases hboth.2
  | advance k c =>
    rw [step]
    cases hk : w.tasks[k]? with
    | none => exact h
    | some t => exact lockInv_advance h hk (hserial t hk)
  | env elapsed =>
    refine ⟨fun t ht => (h.tasks t ht).tick elapsed, h.alone, fun hquiet => ?_⟩
    exact ⟨(h.idle hquiet).counted, (h.idle hquiet).below⟩

/-- **No attempt touches a lock in force.** -/
theorem LockInv.locked_step (h : LockInv w) (hlocked : w.shared.row.isLocked w.shared.clock)
    (op : CallOp String Unit ℕ) :
    (step (attempts checks) w op).shared.row = w.shared.row ∧
      (step (attempts checks) w op).shared.successes = w.shared.successes := by
  cases op with
  | start code => exact ⟨rfl, rfl⟩
  | env elapsed => exact ⟨rfl, rfl⟩
  | advance k c =>
    rw [step]
    cases hk : w.tasks[k]? with
    | none => exact ⟨rfl, rfl⟩
    | some t =>
      have hquiet : t.pending = false := eq_false_of_ne_true fun hp =>
        (h.tasks t (mem_of_getElem? hk)).unlocked hp hlocked
      change (attemptPerform checks w.shared t).1.row = _ ∧
        (attemptPerform checks w.shared t).1.successes = _
      rw [attemptPerform_fst]
      exact row_attemptAct checks hquiet

/-! ## Backup codes -/

/-- The codes that were accepted are used, each once. -/
structure CodesOk (s : TwoFAState H) : Prop where
  once : s.accepted.Nodup
  used : ∀ id ∈ s.accepted, ∃ code, s.codes.find? id = some code ∧ code.isUsed = true

theorem CodesOk.of_eq (h : CodesOk s) (hcodes : s'.codes = s.codes)
    (haccepted : s'.accepted = s.accepted) : CodesOk s' :=
  ⟨haccepted ▸ h.once, hcodes ▸ haccepted ▸ h.used⟩

/-- The conditional update accepts a code that was not used. -/
theorem codesOk_useCode (h : CodesOk s) (id : ℕ) : CodesOk (useCode s id).1 := by
  unfold useCode
  split
  · exact h.of_eq rfl rfl
  next code hcode =>
    split_ifs with hused
    · exact h.of_eq rfl rfl
    have hkey : code.id = id := Table.key_of_find? hcode
    have hself : s.codes.find? code.id = some code := by rw [hkey, hcode]
    refine ⟨nodup_append.mpr ⟨h.once, nodup_singleton id, fun x hx y hy heq => ?_⟩,
      fun x hx => ?_⟩
    · obtain ⟨c, hc, hcused⟩ := h.used x hx
      rw [heq, mem_singleton.mp hy, hcode] at hc
      exact hused (some.inj hc ▸ hcused)
    · by_cases hx' : x = code.id
      · subst hx'
        exact ⟨_, Table.find?_save_self hself, rfl⟩
      · obtain hx | hx := mem_append.mp hx
        · obtain ⟨c, hc, hcused⟩ := h.used x hx
          refine ⟨c, ?_, hcused⟩
          rw [← hc]
          exact Table.find?_save_of_ne s.codes hx'
        · exact absurd ((mem_singleton.mp hx).trans hkey.symm) hx'

theorem codesOk_attemptAct (h : CodesOk s) (t : AttemptTask) :
    CodesOk (attemptAct checks s t).1 := by
  cases t with
  | useCode id => exact codesOk_useCode h id
  | incrementWrite retries current now =>
    rw [attemptAct]
    unfold incrementWrite
    split
    · exact h.of_eq rfl rfl
    · split <;> exact h
  | verify copy code =>
    rw [attemptAct]
    split_ifs
    · exact h
    · exact h
    · split <;> exact h.of_eq rfl rfl
  | validateTOTP copy code =>
    rw [attemptAct]
    split_ifs <;> exact h.of_eq rfl rfl
  | validateBackup copy code =>
    rw [attemptAct]
    split_ifs <;> exact h
  | findCodes copy code =>
    rw [attemptAct]
    split <;> exact h.of_eq rfl rfl
  | incrementNow retries current =>
    rw [attemptAct]
    split_ifs <;> exact h
  | getTwoFA | increment => exact h
  | reset => exact h.of_eq rfl rfl

theorem codesOk_step (w : Calls (TwoFAState H) AttemptTask) (op : CallOp String Unit ℕ)
    (h : CodesOk w.shared) : CodesOk (step (attempts checks) w op).shared := by
  cases op with
  | start code => exact h
  | env elapsed => exact h.of_eq rfl rfl
  | advance k c =>
    rw [step]
    cases w.tasks[k]? with
    | none => exact h
    | some t =>
      change CodesOk (attemptPerform checks w.shared t).1
      rw [attemptPerform_fst]
      exact codesOk_attemptAct h t

/-! ## The lock -/

variable (checks) in
/-- The state after a run of attempts on a user's rows. -/
def attemptRun (clock : ℤ) (row : TwoFA) (codes : Table (BackupCode H) BackupCode.id)
    (ops : List (CallOp String Unit ℕ)) : Calls (TwoFAState H) AttemptTask :=
  Runs.run (Calls.step (attempts checks)) ⟨{ clock, row, codes }, []⟩ ops

end

/-! ## Attempts that overlap -/

/-- Only `111111` is right, and there are no backup codes. -/
def exampleChecks : CodeChecks Unit := ⟨id, fun _ code => code == "111111", fun _ _ => false⟩

/-- A wrong code is submitted and counted, beside one attempt that waits. -/
def wrongBeside : List (CallOp String Unit ℕ) :=
  .start "000000" :: List.replicate 6 (.advance 1 ())

/-- Six attempts have read the row before any of them writes. -/
def raced : Calls (TwoFAState Unit) AttemptTask :=
  attemptRun exampleChecks 0 {} ∅
    (List.replicate 6 (.start "000000") ++ List.replicate 18 (.advance 0 ()))

/-- Five failures have locked the account since an attempt with the right code read the row. -/
def lockedSince : Calls (TwoFAState Unit) AttemptTask :=
  attemptRun exampleChecks 0 {} ∅
    ([.start "111111", .advance 0 (), .advance 0 ()] ++ wrongBeside ++ wrongBeside ++
      wrongBeside ++ wrongBeside ++ wrongBeside)

/-- …and that attempt goes on. -/
def unlockedAgain : Calls (TwoFAState Unit) AttemptTask :=
  Runs.run (Calls.step (attempts exampleChecks)) lockedSince [.advance 0 (), .advance 0 ()]

end TwoFactor
