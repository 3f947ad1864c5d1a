import NewApi.Task.Row

/-!
# Task/Poll — what the workers make of a task they hold in memory

`service/task_polling.go`, `service/task_billing.go` and `tryRealtimeFetch` of
`relay/relay_task.go`. A worker holds a private copy of a row.  Each of its functions changes the
copy, may issue one `UpdateWithStatus` guarded by the status the copy had, and may go on to bill:
that is a `Plan`, which depends on the copy and on what the worker was told, not on the table.

* `Plan.Sound` — what a plan made from an unfinished copy can be; one lemma per function.
-/

namespace AsyncTask

open Pricing (RatioSettings quotaByTokens recalculateTaskQuota)

/-- `relaycommon.TaskInfo`, as far as it is read. -/
structure TaskInfo where
  status : TaskStatus
  reason : String := ""
  url : String := ""
  progress : String := ""
  completionTokens : ℤ := 0
  totalTokens : ℤ := 0
  pluginState : String := ""
  deriving DecidableEq

/-- What a worker reads besides its copy and the upstream's answer. -/
structure PollEnv where
  now : ℤ := 0
  taskPollMaxFailures : ℤ := 0
  taskTimeoutMinutes : ℤ := 0
  serverAddress : String := ""
  settings : RatioSettings := {}
  /-- The group of the task's user, `none` if the user is not found. -/
  userGroup : Option String := none
  /-- The reply of `AdjustBillingOnComplete`. -/
  adjustedQuota : ℤ := 0
  /-- The quota `EvaluateTaskCompletionUsage` arrives at, `none` on an error. -/
  usageQuota : Option ℤ := none

/-! ## Billing on completion -/

/-- The next database call of a billing program; `target` is the quota the task is to have. -/
inductive BillStep where
  | funding (target : ℤ)
  | token (delta target : ℤ)
  | store (target : ℤ)
  deriving DecidableEq

/-- What is left of the billing a worker has begun. -/
structure Bill where
  /-- It runs in `finalizeTerminalTask`, so `settleTaskBillingOnComplete` is part of it. -/
  completes : Bool
  /-- `settleTaskBillingOnComplete` took the final charge over. -/
  usage : Bool
  next : Option BillStep
  deriving DecidableEq

/-- `settleTaskBillingOnComplete`: its reply, and the quota it recalculates to. -/
def settleTaskBillingOnComplete (env : PollEnv) (task : Task) (info : TaskInfo) : Bool × Option ℤ :=
  let bc := task.privateData.billingContext
  if bc.any (·.tieredSnapshot) then
    if task.status = .failure then (false, none) else (true, env.usageQuota)
  else if bc.any (·.perCallBilling) then (false, none)
  else if 0 < env.adjustedQuota then (true, some env.adjustedQuota)
  else
    let tokens := if info.totalTokens = 0 ∧ 0 < info.completionTokens then info.completionTokens
      else info.totalTokens
    match quotaByTokens env.settings env.userGroup task.group task.modelName
        (bc.elim [] (·.otherRatios)) tokens with
    | none => (false, none)
    | some quota => (true, some quota)

/-- `RefundTaskQuota`, up to its first database call. -/
def refundTaskQuota (task : Task) : Option BillStep :=
  if task.quota = 0 then none else some (.funding 0)

/-- `finalizeTerminalTask`, up to its first database call. -/
def finalizeTerminalTask (env : PollEnv) (task : Task) (info : TaskInfo) : Bill :=
  match settleTaskBillingOnComplete env task info with
  | (true, target) =>
    ⟨true, true, target.bind fun quota =>
      (recalculateTaskQuota task.quota quota).map fun _ => .funding quota⟩
  | (false, _) =>
    ⟨true, false, if task.status = .failure then refundTaskQuota task else none⟩

/-! ## Plans -/

/-- When the worker goes on to bill. -/
inductive Finish where
  | never
  /-- If its write was counted. -/
  | ifWon (bill : Bill)
  /-- Whatever became of its write. -/
  | always (bill : Bill)
  deriving DecidableEq

/-- What a poll makes of a copy. -/
structure Plan where
  copy : Task
  /-- `UpdateWithStatus` is issued, guarded by the status the copy had. -/
  write : Bool
  finish : Finish
  /-- Quota cleared by the write without a refund. -/
  writeOff : ℤ := 0
  deriving DecidableEq

/-- The kinds of poll answers. -/
inductive PollClass where
  | ok | otherClient | notFound | auth | transient | unrecognized | hookError | transport
  deriving DecidableEq

/-- The name of a kind. -/
def PollClass.name : PollClass → String
  | .ok => "ok"
  | .otherClient => "other_client"
  | .notFound => "not_found"
  | .auth => "auth"
  | .transient => "transient"
  | .unrecognized => "unrecognized"
  | .hookError => "hook_error"
  | .transport => "transport_error"

/-- The kind of an HTTP status. -/
def classifyPollHTTP (statusCode : ℤ) : PollClass :=
  if 200 ≤ statusCode ∧ statusCode < 300 then .ok
  else if statusCode = 404 ∨ statusCode = 410 then .notFound
  else if statusCode = 401 ∨ statusCode = 403 then .auth
  else if statusCode = 429 ∨ 500 ≤ statusCode then .transient
  else if 400 ≤ statusCode ∧ statusCode < 500 then .otherClient
  else .transient

/-- The task goes on. -/
def isNonTerminalPollStatus : TaskStatus → Bool
  | .notStart | .submitted | .queued | .inProgress => true
  | _ => false

/-- A status that is not unknown. -/
def knownPollStatus : TaskStatus → Bool
  | .notStart | .submitted | .queued | .inProgress | .success | .failure => true
  | _ => false

/-- The text of a failure. -/
def pollFailureReason (cls : PollClass) (statusCode : ℤ) (detail : String) : String :=
  let reason := if 0 < statusCode then
      "poll failed: " ++ cls.name ++ " (HTTP " ++ toString statusCode ++ ")"
    else "poll failed: " ++ cls.name
  if detail ≠ "" then reason ++ ": " ++ detail else reason

/-- The first bytes of the redacted body stand in for a missing reason. -/
def unrecognizedPollDetail (reason body : String) : String :=
  let kept := if 512 < body.length then String.ofList (body.toList.take 512) ++ "…" else body
  if Text.trimsTo reason "" then "body=" ++ kept else reason ++ "; body=" ++ kept

/-- The finish time, or now. -/
def finishTimeOr (t : Task) (now : ℤ) : ℤ := if t.finishTime = 0 then now else t.finishTime

/-- The copy `failTaskFromPoll` writes. -/
def Task.failed (t : Task) (now : ℤ) (reason : String) : Task :=
  { t with
    status := .failure
    progress := "100%"
    finishTime := finishTimeOr t now
    failReason := reason }

/-- The task is given up. -/
def failTaskFromPoll (env : PollEnv) (t : Task) (reason : String) : Plan where
  copy := t.failed env.now reason
  write := true
  finish := .ifWon (finalizeTerminalTask env (t.failed env.now reason) { status := .failure, reason })

/-- One failed poll more. -/
def Task.countFailure (t : Task) : Task :=
  { t with privateData := { t.privateData with pollFailures := t.privateData.pollFailures + 1 } }

/-- `recordPollFailure`: a run of failures that reaches the cutoff fails the task. -/
def recordPollFailure (env : PollEnv) (t : Task) (cls : PollClass) (statusCode : ℤ)
    (detail : String) : Plan :=
  if 0 < env.taskPollMaxFailures ∧ env.taskPollMaxFailures ≤ t.countFailure.privateData.pollFailures then
    failTaskFromPoll env t.countFailure (pollFailureReason cls statusCode detail)
  else { copy := t.countFailure, write := true, finish := .never }

/-! ## Polling one task -/

/-- What the upstream answers to a poll of one task. -/
inductive PollReply where
  /-- The request or the reading of its body failed. -/
  | transport (statusCode : ℤ) (detail : String)
  /-- A body, and what was made of it: by the adaptor, or as an answer of another gateway, whose
  task data the copy then takes over at once. -/
  | answer (statusCode : ℤ) (body : String) (gatewayData : Option String)
    (parsed : Except String TaskInfo)

/-- Where the result is served. -/
def buildProxyURL (env : PollEnv) (taskId : String) : String :=
  env.serverAddress ++ "/v1/videos/" ++ taskId ++ "/content"

/-- The progress a status stands for, before the upstream's own overrides it. -/
def canonicalProgress (t : Task) : TaskStatus → String
  | .submitted => "10%"
  | .queued => "20%"
  | .inProgress => "30%"
  | .success | .failure => "100%"
  | _ => t.progress

/-- The copy after a recognised answer of `updateVideoSingleTask`. -/
def Task.applyInfo (env : PollEnv) (body : String) (info : TaskInfo) (t : Task) : Task :=
  let terminal := info.status.isTerminal
  { t with
    status := info.status
    data := body
    startTime := if info.status = .inProgress ∧ t.startTime = 0 then env.now else t.startTime
    finishTime := if terminal then finishTimeOr t env.now else t.finishTime
    failReason := if info.status = .failure then info.reason else t.failReason
    progress := if info.status = .failure then "100%"
      else if info.progress ≠ "" then info.progress else canonicalProgress t info.status
    privateData := { t.privateData with
      pluginState := if info.pluginState ≠ "" then info.pluginState else t.privateData.pluginState
      pollFailures := if isNonTerminalPollStatus info.status then 0 else t.privateData.pollFailures
      resultURL := if info.status = .success then
          if "data:".toList.isPrefixOf info.url.toList ∨ info.url = "" then buildProxyURL env t.taskId
          else info.url
        else t.privateData.resultURL } }

/-- The writing half of `updateVideoSingleTask`: a status that has become terminal is billed by the
winner of the write; one that already was, in any case. -/
def applyPoll (env : PollEnv) (body : String) (info : TaskInfo) (t : Task) : Plan :=
  let copy := t.applyInfo env body info
  let bill := finalizeTerminalTask env copy info
  if info.status.isTerminal then
    if t.status ≠ copy.status then { copy, write := true, finish := .ifWon bill }
    else { copy, write := decide (t.snapshot ≠ copy.snapshot), finish := .always bill }
  else { copy, write := decide (t.snapshot ≠ copy.snapshot), finish := .never }

/-- The answer's data, if there are any. -/
def Task.takeData (t : Task) (data : Option String) : Task := { t with data := data.getD t.data }

/-- What one poll makes of a copy. -/
def updateVideoSingleTask (env : PollEnv) (reply : PollReply) (t : Task) : Plan :=
  match reply with
  | .transport statusCode detail => recordPollFailure env t .transport statusCode detail
  | .answer statusCode body gatewayData parsed =>
    match classifyPollHTTP statusCode with
    | .notFound => failTaskFromPoll env t ("upstream task not found (HTTP " ++ toString statusCode ++ ")")
    | .auth => recordPollFailure env t .auth statusCode ""
    | .transient => recordPollFailure env t .transient statusCode ""
    | cls =>
      match parsed with
      | .error detail => recordPollFailure env t .hookError statusCode detail
      | .ok info =>
        if knownPollStatus info.status = false ∨
            (cls = .otherClient ∧ isNonTerminalPollStatus info.status = true) then
          recordPollFailure env (t.takeData gatewayData) .unrecognized statusCode
            (unrecognizedPollDetail info.reason body)
        else applyPoll env body info t

/-! ## Polling in batches -/

/-- One item of a batch answer (`BatchTaskResult`). -/
structure BatchTaskResult where
  info : TaskInfo
  submitTime : ℤ := 0
  startTime : ℤ := 0
  finishTime : ℤ := 0
  data : Option String := none
  deriving DecidableEq

/-- The copy after a recognised item: a reason makes it a failure whatever the status says. -/
def Task.applyItem (item : BatchTaskResult) (t : Task) : Task :=
  let fails := item.info.reason ≠ "" ∨ item.info.status = .failure
  { t with
    status := if fails then .failure else item.info.status
    failReason := if item.info.reason ≠ "" then item.info.reason else t.failReason
    submitTime := if item.submitTime ≠ 0 then item.submitTime else t.submitTime
    startTime := if item.startTime ≠ 0 then item.startTime else t.startTime
    finishTime := if item.finishTime ≠ 0 then item.finishTime else t.finishTime
    progress := if fails ∨ item.info.status = .success then "100%"
      else if item.info.progress ≠ "" then item.info.progress else t.progress
    data := item.data.getD t.data
    privateData := { t.privateData with
      pollFailures := if isNonTerminalPollStatus item.info.status then 0
        else t.privateData.pollFailures
      pluginState := if item.info.pluginState ≠ "" then item.info.pluginState
        else t.privateData.pluginState
      resultURL := if item.info.url ≠ "" then item.info.url else t.privateData.resultURL } }

/-- One item of the loop of `updateBatchTasks`. -/
def updateBatchTask (env : PollEnv) (statusCode : ℤ) (item : BatchTaskResult) (t : Task) : Plan :=
  if knownPollStatus item.info.status = false ∨
      (classifyPollHTTP statusCode = .otherClient ∧
        isNonTerminalPollStatus item.info.status = true) then
    recordPollFailure env t .unrecognized statusCode item.info.reason
  else
    let copy := t.applyItem item
    { copy, write := true
      finish := if copy.status.isTerminal ∧ t.status ≠ copy.status then
        .ifWon (finalizeTerminalTask env copy item.info) else .never }

/-- What reaches a task of a batch: a failure of the whole request, or its own item. -/
inductive BatchReply where
  | transport (statusCode : ℤ) (detail : String)
  | answer (statusCode : ℤ) (parsed : Except String BatchTaskResult)

/-- `updateBatchTasks`, seen from one task that the answer reaches. -/
def updateBatchTasks (env : PollEnv) (reply : BatchReply) (t : Task) : Plan :=
  match reply with
  | .transport statusCode detail => recordPollFailure env t .transport statusCode detail
  | .answer statusCode parsed =>
    match classifyPollHTTP statusCode with
    | .notFound => failTaskFromPoll env t ("upstream task not found (HTTP " ++ toString statusCode ++ ")")
    | .auth => recordPollFailure env t .auth statusCode ""
    | .transient => recordPollFailure env t .transient statusCode ""
    | _ =>
      match parsed with
      | .error detail => recordPollFailure env t .hookError statusCode detail
      | .ok item => updateBatchTask env statusCode item t

/-! ## Timeouts and the realtime fetch -/

/-- One task of `sweepTimedOutTasks`.  A legacy task loses its quota with the write and is not
refunded. -/
def sweepTimedOutTask (env : PollEnv) (t : Task) : Plan :=
  let copy := { t with
    status := .failure
    progress := "100%"
    finishTime := env.now
    failReason := if t.isLegacy then "任务超时（旧系统遗留任务，不进行退款，请联系管理员）"
      else "任务超时（" ++ toString env.taskTimeoutMinutes ++ "分钟）" }
  if t.isLegacy then
    { copy := copy.withQuota 0, write := true, finish := .never, writeOff := t.quota }
  else { copy, write := true, finish :=
      if t.quota = 0 then .never else .ifWon ⟨false, false, refundTaskQuota copy⟩ }

/-- The result's address after a realtime fetch; a `data:` URI is not taken over. -/
def fetchedURL (env : PollEnv) (info : TaskInfo) (status : TaskStatus) (t : Task) : String :=
  if "data:".toList.isPrefixOf info.url.toList then t.privateData.resultURL
  else if info.url ≠ "" then info.url
  else if status = .success then buildProxyURL env t.taskId
  else t.privateData.resultURL

/-- `tryRealtimeFetch`: the upstream's status and progress as they are, and no billing. -/
def tryRealtimeFetch (env : PollEnv) (info : TaskInfo) (t : Task) : Plan :=
  let status := if info.status ≠ .empty then info.status else t.status
  let copy := { t with
    status
    progress := if info.progress ≠ "" then info.progress else t.progress
    privateData := { t.privateData with resultURL := fetchedURL env info status t } }
  { copy, write := decide (t.snapshot ≠ copy.snapshot), finish := .never }

/-! ## Submission -/

/-- The row a submission inserts: `InitTask`, and over it the result of an upstream that answered at
once. -/
def Task.submitted (env : PollEnv) (immediate : Option TaskInfo) (t : Task) : Task :=
  let t := { t with status := .notStart, progress := "0%", submitTime := env.now }
  match immediate with
  | none => t
  | some info =>
    { t with
      status := info.status
      progress := info.progress
      finishTime := if info.status.isTerminal then env.now else t.finishTime
      failReason := if info.status = .failure then info.reason else t.failReason
      privateData := { t.privateData with
        resultURL := if info.url ≠ "" then info.url
          else if info.status = .success then buildProxyURL env t.taskId
          else t.privateData.resultURL } }

/-! ## What a plan can be -/

/-- A billing program at its start, for a task that has just become terminal. -/
structure Bill.Starts (bill : Bill) (t : Task) : Prop where
  next : bill.next = none ∨ ∃ target, bill.next = some (.funding target)
  completes : t.status = .success → bill.completes = true
  refunds : t.status = .failure → bill.usage = true ∨ (bill.next = none ∧ t.quota = 0) ∨
    bill.next = some (.funding 0)
  /-- A success is recharged only by a settlement that takes the charge over. -/
  keeps : t.status = .success → bill.usage = true ∨ bill.next = none

/-- **A plan made from an unfinished copy** keeps its row and its quota; it bills exactly when it
ends the task, and then only as the winner of its write.  Ending a task without billing leaves no
quota behind. -/
structure Plan.Sound (t : Task) (p : Plan) : Prop where
  id : p.copy.id = t.id
  quota : p.copy.quota = t.quota - p.writeOff
  unfinished : p.copy.isTerminal = false → p.finish = .never ∧ p.writeOff = 0
  finished : p.copy.isTerminal = true → p.write = true ∧
    ((p.finish = .never ∧ p.copy.status = .failure ∧ p.copy.quota = 0) ∨
      ∃ bill, p.finish = .ifWon bill ∧ bill.Starts p.copy ∧ p.writeOff = 0)
  legacy : p.writeOff ≠ 0 → p.copy.isLegacy = true

variable (env : PollEnv)

theorem finalizeTerminalTask_starts (t : Task) (info : TaskInfo) :
    (finalizeTerminalTask env t info).Starts t := by
  unfold finalizeTerminalTask refundTaskQuota
  split
  · next target _ =>
    refine ⟨?_, fun _ => rfl, fun _ => .inl rfl, fun _ => .inl rfl⟩
    cases target with
    | none => exact .inl rfl
    | some quota =>
      simp only [Option.bind_some]
      cases recalculateTaskQuota t.quota quota with
      | none => exact .inl rfl
      | some delta => exact .inr ⟨quota, rfl⟩
  · refine ⟨?_, fun _ => rfl, fun hf => .inr ?_, fun hs => .inr (if_neg (by simp [hs]))⟩
    · dsimp only
      split
      · split
        · exact .inl rfl
        · exact .inr ⟨0, rfl⟩
      · exact .inl rfl
    · dsimp only
      rw [if_pos hf]
      split
      · next h => exact .inl ⟨rfl, h⟩
      · exact .inr rfl

theorem failTaskFromPoll_sound (t : Task) (reason : String) :
    (failTaskFromPoll env t reason).Sound t where
  id := rfl
  quota := (sub_zero t.quota).symm
  unfinished h := by cases h
  finished _ := ⟨rfl, .inr ⟨_, rfl, finalizeTerminalTask_starts .., rfl⟩⟩
  legacy h := absurd rfl h

variable {t : Task}

/-- Changing the copy first, but neither its row nor its quota, changes nothing. -/
theorem Plan.Sound.of_copy {t' : Task} {p : Plan} (h : p.Sound t') (hid : t'.id = t.id)
    (hq : t'.quota = t.quota) : p.Sound t :=
  ⟨h.id.trans hid, hq ▸ h.quota, h.unfinished, h.finished, h.legacy⟩

/-- A plan that leaves the task unfinished and does not bill. -/
theorem Plan.Sound.of_unfinished {p : Plan} (ht : p.copy.isTerminal = false)
    (hid : p.copy.id = t.id) (hq : p.copy.quota = t.quota) (hfin : p.finish = .never)
    (hoff : p.writeOff = 0) : p.Sound t :=
  ⟨hid, by rw [hq, hoff, sub_zero], fun _ => ⟨hfin, hoff⟩, fun h => absurd h (by simp [ht]),
    fun h => absurd hoff h⟩

theorem recordPollFailure_sound (ht : t.isTerminal = false) (cls : PollClass) (statusCode : ℤ)
    (detail : String) : (recordPollFailure env t cls statusCode detail).Sound t := by
  unfold recordPollFailure
  split
  · exact (failTaskFromPoll_sound env t.countFailure _).of_copy rfl rfl
  · exact .of_unfinished ht rfl rfl rfl rfl

theorem applyPoll_sound (body : String) (info : TaskInfo) (ht : t.isTerminal = false) :
    (applyPoll env body info t).Sound t := by
  unfold applyPoll
  split
  · next hterm =>
    have hne : t.status ≠ (t.applyInfo env body info).status := by
      intro h
      have hstatus : (t.applyInfo env body info).status = info.status := rfl
      rw [Task.isTerminal, h, hstatus, hterm] at ht
      cases ht
    rw [if_pos hne]
    refine ⟨rfl, (sub_zero t.quota).symm, fun h => ?_,
      fun _ => ⟨rfl, .inr ⟨_, rfl, finalizeTerminalTask_starts .., rfl⟩⟩, fun h => absurd rfl h⟩
    rw [show (t.applyInfo env body info).isTerminal = true from hterm] at h
    cases h
  · next hterm =>
    exact .of_unfinished (eq_false_of_ne_true hterm) rfl rfl rfl rfl

theorem updateVideoSingleTask_sound (reply : PollReply) (ht : t.isTerminal = false) :
    (updateVideoSingleTask env reply t).Sound t := by
  unfold updateVideoSingleTask
  split
  · exact recordPollFailure_sound env ht ..
  split
  · exact failTaskFromPoll_sound ..
  · exact recordPollFailure_sound env ht ..
  · exact recordPollFailure_sound env ht ..
  split
  · exact recordPollFailure_sound env ht ..
  split
  · exact (recordPollFailure_sound env (t := t.takeData _) ht ..).of_copy rfl rfl
  · exact applyPoll_sound env _ _ ht

theorem updateBatchTask_sound (statusCode : ℤ) (item : BatchTaskResult) (ht : t.isTerminal = false) :
    (updateBatchTask env statusCode item t).Sound t := by
  unfold updateBatchTask
  split
  · exact recordPollFailure_sound env ht ..
  refine ⟨rfl, (sub_zero t.quota).symm, fun h => ⟨if_neg fun hc => ?_, rfl⟩,
    fun h => ⟨rfl, .inr ?_⟩, fun h => absurd rfl h⟩
  · rw [show (t.applyItem item).isTerminal = true from hc.1] at h
    cases h
  · have hne : t.status ≠ (t.applyItem item).status := by
      intro heq
      rw [Task.isTerminal, heq] at ht
      rw [Task.isTerminal, ht] at h
      cases h
    exact ⟨_, if_pos ⟨h, hne⟩, finalizeTerminalTask_starts .., rfl⟩

theorem updateBatchTasks_sound (reply : BatchReply) (ht : t.isTerminal = false) :
    (updateBatchTasks env reply t).Sound t := by
  unfold updateBatchTasks
  split
  · exact recordPollFailure_sound env ht ..
  split
  · exact failTaskFromPoll_sound ..
  · exact recordPollFailure_sound env ht ..
  · exact recordPollFailure_sound env ht ..
  split
  · exact recordPollFailure_sound env ht ..
  · exact updateBatchTask_sound env _ _ ht

theorem sweepTimedOutTask_sound (t : Task) : (sweepTimedOutTask env t).Sound t := by
  unfold sweepTimedOutTask
  split
  · next hleg =>
    exact ⟨rfl, (sub_self t.quota).symm, fun h => (by cases h),
      fun _ => ⟨rfl, .inl ⟨rfl, rfl, rfl⟩⟩, fun _ => hleg⟩
  · refine ⟨rfl, (sub_zero t.quota).symm, fun h => (by cases h), fun _ => ⟨rfl, ?_⟩,
      fun h => absurd rfl h⟩
    by_cases hq : t.quota = 0
    · exact .inl ⟨if_pos hq, rfl, hq⟩
    · have hnext : ∀ copy : Task, copy.quota = t.quota → refundTaskQuota copy = some (.funding 0) :=
        fun copy hcopy => if_neg (hcopy ▸ hq)
      exact .inr ⟨_, if_neg hq, ⟨.inr ⟨0, hnext _ rfl⟩, fun h => (by cases h),
        fun _ => .inr (.inr (hnext _ rfl)), fun h => (by cases h)⟩, rfl⟩

/-- A realtime fetch never bills, so it must not end the task. -/
theorem tryRealtimeFetch_sound {info : TaskInfo}
    (h : (if info.status ≠ .empty then info.status else t.status).isTerminal = false) :
    (tryRealtimeFetch env info t).Sound t :=
  .of_unfinished h rfl rfl rfl rfl

end AsyncTask
