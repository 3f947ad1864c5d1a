import Mathlib.Tactic.Ring
import NewApi.Channels.GroupSearch

/-!
# Task/Attempts — the retry loop of a task submission

The loop of `executeTaskSubmissionWith`: which channel an attempt gets, which errors are retried,
and when the loop ends.  What an attempt does is a parameter: `submit` takes a state and returns a
result or an error, with the state it left.

The retry counter is not a bound on the attempts: `CacheGetRandomSatisfiedChannel` sets it back
whenever it moves on to another group.

* `attemptLoop_returns` — the loop ends all the same.
* `attemptLoop_invariant` — what every attempt preserves, the loop preserves.
-/

namespace AsyncTask.Submit

open Prod Channels

/-- `dto.TaskError`, as far as the loop reads it. -/
structure TaskError where
  code : String
  statusCode : ℤ
  localError : Bool := false
  noRetry : Bool := false
  deriving DecidableEq

/-- An error of the upstream. -/
def taskErrorWrapper (code : String) (statusCode : ℤ) : TaskError := { code, statusCode }

/-- An error of the host. -/
def taskErrorWrapperLocal (code : String) (statusCode : ℤ) : TaskError :=
  { taskErrorWrapper code statusCode with localError := true }

/-- The error of a request whose context is done. -/
def requestCancelled : TaskError := taskErrorWrapperLocal "request_cancelled" 408

/-! ## Which errors are retried -/

/-- Whether to go on. -/
inductive PolicyAction where
  | stop | retry
  deriving DecidableEq

/-- The action, with why and by whom. -/
structure PolicyDecision where
  action : PolicyAction
  reason : String
  source : String := "system"
  deriving DecidableEq

/-- What `decideTaskRetry` asks besides the error. -/
structure RetryEnv where
  /-- `ChannelBreakerMatchesStatusCode`. -/
  breakerMatches : ℤ → Bool := fun _ => false
  /-- `HandleChannelAffinityFailure`: the session is bound to its channel. -/
  affinityFailure : Bool := false
  sessionModeSource : String := ""
  /-- The channel constraints suppress retries. -/
  suppressesRetry : Bool := false
  /-- `IsAlwaysSkipRetryStatusCode`. -/
  alwaysSkips : ℤ → Bool := fun _ => false

/-- Whether a failed attempt is followed by another, and why. -/
def decideTaskRetry (env : RetryEnv) (taskErr : Option TaskError) (retryTimes : ℤ) :
    PolicyDecision :=
  match taskErr with
  | none => ⟨.stop, "request_completed", "system"⟩
  | some e =>
    if e.noRetry then ⟨.stop, "task_accepted", "system"⟩
    else if (e.localError || !env.breakerMatches e.statusCode) && env.affinityFailure then
      ⟨.stop, "strict_session",
        if env.sessionModeSource ≠ "" then env.sessionModeSource else "session_rule"⟩
    else if retryTimes ≤ 0 then ⟨.stop, "attempt_budget_exhausted", "global"⟩
    else if env.suppressesRetry then ⟨.stop, "pinned_channel", "channel_constraint"⟩
    else if e.statusCode = 429 ∨ e.statusCode = 307 then ⟨.retry, "retry_status_matched", "system"⟩
    else if e.statusCode.tdiv 100 = 5 then
      if env.alwaysSkips e.statusCode then ⟨.stop, "system_retry_exclusion", "system"⟩
      else ⟨.retry, "retry_status_matched", "system"⟩
    else if e.statusCode = 400 ∨ e.statusCode = 408 then ⟨.stop, "status_not_retryable", "system"⟩
    else if e.localError then ⟨.stop, "local_rejection", "system"⟩
    else if e.statusCode.tdiv 100 = 2 then ⟨.stop, "system_retry_exclusion", "system"⟩
    else ⟨.retry, "retry_status_matched", "system"⟩

/-! ## Which channel an attempt gets -/

/-- How reading the body ends. -/
inductive BodyReply where
  | ok | tooLarge | err
  deriving DecidableEq

/-- The error a client sees. -/
def BodyReply.error : BodyReply → Option TaskError
  | .ok => none
  | .tooLarge => some (taskErrorWrapperLocal "read_request_body_failed" 413)
  | .err => some (taskErrorWrapperLocal "read_request_body_failed" 400)

/-- What one attempt meets, apart from `submit`. -/
structure Attempt where
  cancelledBefore : Bool := false
  lookup : String → ℕ → Reply := fun _ _ => .found 0
  /-- The status of the error of `SetupContextForSelectedChannel`. -/
  setupError : Option ℤ := none
  body : BodyReply := .ok
  cancelledAfter : Bool := false
  retryEnv : RetryEnv := {}

/-- The channel of attempt `n`.  The first one was picked before the loop, unless the request came
with its channel's metadata. -/
def selectChannel (cfg : LoopConfig) (a : Attempt) (n : ℕ) (p : RetryParam) :
    Option TaskError × RetryParam :=
  if cfg.lockedChannel then
    if 0 < p.retry ∧ a.setupError.isSome then
      (some (taskErrorWrapperLocal "setup_locked_channel_failed" 500), p)
    else (none, p)
  else if n = 0 ∧ cfg.channelMeta = false then (none, p)
  else match cacheGetRandomSatisfiedChannel cfg a.lookup p with
    | ⟨.found _, _, p⟩ => (a.setupError.map (taskErrorWrapperLocal "get_channel_failed"), p)
    | ⟨_, _, p⟩ => (some (taskErrorWrapperLocal "get_channel_failed" 500), p)

/-! ## The loop -/

variable {σ ρ : Type*}

/-- How an iteration ends: the loop is left, or goes on after an error. -/
inductive Turn (σ ρ : Type*) where
  | exit (reply : Except TaskError ρ) (st : σ)
  | again (e : TaskError) (p : RetryParam) (st : σ)

/-- One iteration, with the loop's post statement. -/
def attemptOnce (cfg : LoopConfig) (a : Attempt) (submit : σ → Except TaskError ρ × σ) (n : ℕ)
    (p : RetryParam) (st : σ) : Turn σ ρ :=
  if a.cancelledBefore then .exit (.error requestCancelled) st
  else match selectChannel cfg a n p with
    | (some e, _) => .exit (.error e) st
    | (none, p) =>
      match a.body.error with
      | some e => .exit (.error e) st
      | none =>
        let out := submit st
        if a.cancelledAfter then .exit (.error requestCancelled) out.2
        else match out.1 with
          | .ok r => .exit (.ok r) out.2
          | .error e =>
            if (decideTaskRetry a.retryEnv (some e) (cfg.retryTimes - p.retry)).action = .retry then
              .again e p.increaseRetry out.2
            else .exit (.error e) out.2

/-- The loop, from attempt `n` on; `last` is the error of the attempt before.  `none` says that it
has not ended within `fuel` iterations. -/
def attemptLoop (cfg : LoopConfig) (attempts : ℕ → Attempt)
    (submit : ℕ → σ → Except TaskError ρ × σ) :
    ℕ → ℕ → RetryParam → Option TaskError → σ → Option (Except TaskError (Option ρ) × σ)
  | 0, _, _, _, _ => none
  | fuel + 1, n, p, last, st =>
    if cfg.retryTimes < p.retry then some (last.elim (.ok none) .error, st)
    else match attemptOnce cfg (attempts n) (submit n) n p st with
      | .exit reply st => some (reply.map some, st)
      | .again e p st => attemptLoop cfg attempts submit fuel (n + 1) p (some e) st

/-! ## The loop ends -/

variable {p p' : RetryParam}

variable {cfg : LoopConfig} {a : Attempt} {n : ℕ}

/-- **Picking a channel leaves the counter alone, or uses up a group.** -/
theorem selectChannel_none (h : selectChannel cfg a n p = (none, p')) :
    p' = p ∨ (p.autoGroupIndex < p'.autoGroupIndex ∧
      p.autoGroupIndex < cfg.autoGroups.1.length) := by
  unfold selectChannel at h
  split at h
  · split at h
    · cases h
    · exact .inl (mk.inj h).2.symm
  split at h
  · exact .inl (mk.inj h).2.symm
  split at h
  · next id place q hq =>
    obtain rfl := (mk.inj h).2
    unfold cacheGetRandomSatisfiedChannel at hq
    split at hq
    · cases hq
    split at hq
    · exact .inl (Selection.mk.inj hq).2.2.symm
    · obtain ⟨hne, hstay | hlater⟩ := searchGroups_param hq
      · exact .inl hstay
      · exact .inr ⟨hlater, not_le.mp fun hle => hne (List.drop_eq_nil_of_le hle)⟩
  · cases h

/-- The tries of one group. -/
def tries (cfg : LoopConfig) : ℕ := (cfg.retryTimes + 1).toNat

/-- A bound on the iterations left. -/
def budget (cfg : LoopConfig) (p : RetryParam) : ℕ :=
  (cfg.autoGroups.1.length - p.autoGroupIndex) * tries cfg + (tries cfg - p.retry)

/-- Every iteration that goes on uses up a try, or a group with all its tries. -/
theorem budget_lt (h : selectChannel cfg a n p = (none, p'))
    (hp : p.resetNextTry = false) (hretry : ¬ cfg.retryTimes < p.retry) :
    budget cfg p'.increaseRetry < budget cfg p := by
  have htries : p.retry < tries cfg := by
    unfold tries
    omega
  unfold budget
  rw [RetryParam.increaseRetry_autoGroupIndex]
  rcases selectChannel_none h with rfl | ⟨hlater, hgroup⟩
  · rw [RetryParam.increaseRetry, if_neg (by simp [hp])]
    dsimp only
    omega
  · have hgroups : cfg.autoGroups.1.length - p'.autoGroupIndex + 1
        ≤ cfg.autoGroups.1.length - p.autoGroupIndex := by omega
    have hmul := Nat.mul_le_mul_right (tries cfg) hgroups
    rw [Nat.add_mul, one_mul] at hmul
    omega

variable {st st' : σ} {submit : σ → Except TaskError ρ × σ}

/-- An iteration that goes on has made its attempt, on the channel it picked. -/
theorem attemptOnce_again {e : TaskError} (h : attemptOnce cfg a submit n p st = .again e p' st') :
    (∃ q, selectChannel cfg a n p = (none, q) ∧ p' = q.increaseRetry) ∧ st' = (submit st).2 := by
  unfold attemptOnce at h
  split at h
  · cases h
  split at h
  · cases h
  next q hq =>
  split at h
  · cases h
  dsimp only at h
  split at h
  · cases h
  split at h
  · cases h
  split at h
  · injection h with _ hp hst
    exact ⟨⟨q, hq, hp.symm⟩, hst.symm⟩
  · cases h

/-- An iteration that leaves the loop has made no attempt, or passes on what its attempt left. -/
theorem attemptOnce_exit {reply : Except TaskError ρ}
    (h : attemptOnce cfg a submit n p st = .exit reply st') :
    (st' = st ∧ ∃ e, reply = .error e) ∨
      (st' = (submit st).2 ∧ ∀ r, reply = .ok r → (submit st).1 = .ok r) := by
  unfold attemptOnce at h
  split at h
  · injection h with hreply hst
    exact .inl ⟨hst.symm, _, hreply.symm⟩
  split at h
  · injection h with hreply hst
    exact .inl ⟨hst.symm, _, hreply.symm⟩
  split at h
  · injection h with hreply hst
    exact .inl ⟨hst.symm, _, hreply.symm⟩
  dsimp only at h
  split at h
  · injection h with hreply hst
    exact .inr ⟨hst.symm, fun r hr => by rw [← hreply] at hr; cases hr⟩
  split at h
  · next r hr =>
    injection h with hreply hst
    exact .inr ⟨hst.symm, fun r' hr' => by rw [← hreply] at hr'; rw [hr, Except.ok.inj hr']⟩
  split at h
  · cases h
  · injection h with hreply hst
    exact .inr ⟨hst.symm, fun r hr => by rw [← hreply] at hr; cases hr⟩

variable {cfg : LoopConfig} {attempts : ℕ → Attempt} {submit : ℕ → σ → Except TaskError ρ × σ}

variable {last : Option TaskError} {fuel : ℕ}

/-- **The loop ends**, however often the counter is set back: there are only so many groups. -/
theorem attemptLoop_returns (hp : p.resetNextTry = false) (hfuel : budget cfg p < fuel) :
    (attemptLoop cfg attempts submit fuel n p last st).isSome = true := by
  induction fuel generalizing n p last st with
  | zero => exact absurd hfuel (Nat.not_lt_zero _)
  | succ fuel ih =>
    rw [attemptLoop]
    split
    · rfl
    next hretry =>
    split
    · rfl
    · next e p' st' hturn =>
      obtain ⟨⟨q, hq, rfl⟩, -⟩ := attemptOnce_again hturn
      have hlt := budget_lt hq hp hretry
      exact ih q.increaseRetry_resetNextTry (by omega)

variable {I : σ → Prop} {Q : ρ → σ → Prop}

/-- **What every attempt preserves, the loop preserves**; and a result it returns is one an attempt
has just returned. -/
theorem attemptLoop_invariant (hsubmit : ∀ n st, I st → I (submit n st).2 ∧
      ∀ r, (submit n st).1 = .ok r → Q r (submit n st).2) {reply : Except TaskError (Option ρ)}
    (h : attemptLoop cfg attempts submit fuel n p last st = some (reply, st')) (hst : I st) :
    I st' ∧ ∀ r, reply = .ok (some r) → Q r st' := by
  induction fuel generalizing n p last st with
  | zero => cases h
  | succ fuel ih =>
    rw [attemptLoop] at h
    split at h
    · obtain ⟨rfl, rfl⟩ := mk.inj (Option.some.inj h)
      exact ⟨hst, fun r hr => by cases last <;> cases hr⟩
    split at h
    · next reply' st₁ hturn =>
      obtain ⟨rfl, rfl⟩ := mk.inj (Option.some.inj h)
      rcases attemptOnce_exit hturn with ⟨rfl, e, rfl⟩ | ⟨rfl, hres⟩
      · exact ⟨hst, fun r hr => by cases hr⟩
      · refine ⟨(hsubmit n st hst).1, fun r hr => (hsubmit n st hst).2 r (hres r ?_)⟩
        cases reply' with
        | error e => cases hr
        | ok r' => rw [Option.some.inj (Except.ok.inj hr)]
    · next hturn =>
      obtain ⟨-, rfl⟩ := attemptOnce_again hturn
      exact ih h (hsubmit n st hst).1

/-- `for ; retryParam.GetRetry() <= common.RetryTimes; retryParam.IncreaseRetry()`, from the first
attempt. -/
def submitLoop (cfg : LoopConfig) (attempts : ℕ → Attempt)
    (submit : ℕ → σ → Except TaskError ρ × σ) (st : σ) : Except TaskError (Option ρ) × σ :=
  (attemptLoop cfg attempts submit (budget cfg {} + 1) 0 {} none st).get
    (attemptLoop_returns rfl (Nat.lt_succ_self _))

theorem submitLoop_invariant (hsubmit : ∀ n st, I st → I (submit n st).2 ∧
      ∀ r, (submit n st).1 = .ok r → Q r (submit n st).2) (hst : I st) :
    I (submitLoop cfg attempts submit st).2 ∧
      ∀ r, (submitLoop cfg attempts submit st).1 = .ok (some r) →
        Q r (submitLoop cfg attempts submit st).2 :=
  attemptLoop_invariant hsubmit (Option.some_get _).symm hst

end AsyncTask.Submit
