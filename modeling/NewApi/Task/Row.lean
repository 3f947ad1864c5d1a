import NewApi.Billing.Session
import NewApi.Pricing.GroupRatio

/-!
# Task/Row — the rows of the task table and the statements that write them

`model/task.go`: the columns of a task that polling, billing and the queries read, the two queries
that pick unfinished tasks, and the three ways a row is written: `UpdateWithStatus` (the whole row,
guarded by the status it was read with), `UpdateQuota` and `TaskBulkUpdateByID`.
-/

namespace AsyncTask

open Billing (BillingSource)
open Pricing (TaskBillingContext)

/-- `TaskStatus`; an upstream may report any string, the empty one included. -/
inductive TaskStatus where
  | notStart | submitted | queued | inProgress | failure | success | unknown
  | other (s : String)
  deriving DecidableEq

/-- `TaskStatus("")`. -/
def TaskStatus.empty : TaskStatus := .other ""

/-- The status is final. -/
def TaskStatus.isTerminal (s : TaskStatus) : Bool := s == .success || s == .failure

@[simp] theorem TaskStatus.isTerminal_success : TaskStatus.success.isTerminal = true := rfl

@[simp] theorem TaskStatus.isTerminal_failure : TaskStatus.failure.isTerminal = true := rfl

theorem TaskStatus.isTerminal_iff {s : TaskStatus} :
    s.isTerminal = true ↔ s = .success ∨ s = .failure := by
  simp [TaskStatus.isTerminal]

/-- The columns that are not shown. -/
structure TaskPrivateData where
  key : String := ""
  upstreamTaskId : String := ""
  resultURL : String := ""
  billingSource : Option BillingSource := none
  subscriptionId : ℤ := 0
  tokenId : ℤ := 0
  billingContext : Option TaskBillingContext := none
  pluginState : String := ""
  pollFailures : ℤ := 0
  deriving DecidableEq

/-- A row of `tasks`. -/
structure Task where
  id : ℤ
  taskId : String := ""
  platform : String := ""
  userId : ℤ := 0
  group : String := ""
  channelId : ℤ := 0
  quota : ℤ := 0
  status : TaskStatus := .notStart
  failReason : String := ""
  submitTime : ℤ := 0
  startTime : ℤ := 0
  finishTime : ℤ := 0
  progress : String := "0%"
  originModelName : String := ""
  privateData : TaskPrivateData := {}
  data : String := ""
  deriving DecidableEq

namespace Task

variable (t : Task)

/-- The task has finished. -/
def isTerminal : Bool := t.status.isTerminal

/-- `GetUpstreamTaskID`: old rows have the upstream's id as their own. -/
def getUpstreamTaskID : String :=
  if t.privateData.upstreamTaskId ≠ "" then t.privateData.upstreamTaskId else t.taskId

/-- `TaskRefundLegacyCutoff`. -/
def refundLegacyCutoff : ℤ := 1771718400

/-- A task from before timeout refunds. -/
def isLegacy : Bool := decide (0 < t.submitTime ∧ t.submitTime < refundLegacyCutoff)

/-- `taskModelName`. -/
def modelName : String :=
  match t.privateData.billingContext with
  | some bc => if bc.originModelName ≠ "" then bc.originModelName else t.originModelName
  | none => t.originModelName

/-- The row with another quota. -/
def withQuota (quota : ℤ) : Task := { t with quota }

end Task

/-- `Task.Snapshot()`: what a poll compares to see whether it has something to write. -/
structure TaskSnapshot where
  status : TaskStatus
  progress : String
  startTime : ℤ
  finishTime : ℤ
  failReason : String
  resultURL : String
  data : String
  pluginState : String
  pollFailures : ℤ
  deriving DecidableEq

/-- What is compared before a write. -/
def Task.snapshot (t : Task) : TaskSnapshot where
  status := t.status
  progress := t.progress
  startTime := t.startTime
  finishTime := t.finishTime
  failReason := t.failReason
  resultURL := t.privateData.resultURL
  data := t.data
  pluginState := t.privateData.pluginState
  pollFailures := t.privateData.pollFailures

/-! ## Queries -/

/-- The `WHERE` of `GetAllUnFinishSyncTasks`. -/
def Task.isUnfinished (t : Task) : Bool :=
  t.progress != "100%" && t.status != .failure && t.status != .success

/-- The `WHERE` of `GetTimedOutUnfinishedTasks`. -/
def Task.isTimedOut (cutoff : ℤ) (t : Task) : Bool :=
  t.progress != "100%" && !(t.status == .failure || t.status == .success) &&
    decide (t.submitTime < cutoff)

/-- The table. -/
abbrev Rows := Table Task Task.id

/-- The tasks that a pass polls. -/
def getAllUnFinishSyncTasks (limit : ℕ) (rows : Rows) : List Task :=
  ((rows.rows.filter Task.isUnfinished).insertionSort fun a b => a.id ≤ b.id).take limit

/-- The tasks that a sweep gives up. -/
def getTimedOutUnfinishedTasks (cutoff : ℤ) (limit : ℕ) (rows : Rows) : List Task :=
  ((rows.rows.filter (Task.isTimedOut cutoff)).insertionSort
    fun a b => a.submitTime ≤ b.submitTime).take limit

variable {t : Task}

theorem isUnfinished_of_progress (hp : t.progress ≠ "100%") (h : t.isTerminal = false) :
    t.isUnfinished = true := by
  simp only [Task.isTerminal, TaskStatus.isTerminal, Bool.or_eq_false_iff, beq_eq_false_iff_ne] at h
  simp [Task.isUnfinished, hp, h.1, h.2]

theorem isTimedOut_of_progress {cutoff : ℤ} (hp : t.progress ≠ "100%") (h : t.isTerminal = false)
    (hlt : t.submitTime < cutoff) : t.isTimedOut cutoff = true := by
  simp only [Task.isTerminal, TaskStatus.isTerminal, Bool.or_eq_false_iff, beq_eq_false_iff_ne] at h
  simp [Task.isTimedOut, hp, h.1, h.2, hlt]

/-- A task that is polled has not finished. -/
theorem not_isTerminal_of_isUnfinished (h : t.isUnfinished = true) : t.isTerminal = false := by
  simp only [Task.isUnfinished, Bool.and_eq_true, bne_iff_ne] at h
  simp [Task.isTerminal, TaskStatus.isTerminal, h.1.2, h.2]

theorem isUnfinished_of_isTimedOut {cutoff : ℤ} (h : t.isTimedOut cutoff = true) :
    t.isUnfinished = true := by
  simp only [Task.isTimedOut, Task.isUnfinished, Bool.and_eq_true, bne_iff_ne] at h ⊢
  simpa [and_assoc] using h.1

/-! ## Writes -/

/-- `UpdateWithStatus`: the whole row, if it still has status `fromStatus`.  The reply is whether
the database counts a row as affected; one that counts changed rows (`countsChanged`) does not count
a write that changed nothing. -/
def updateWithStatus (fromStatus : TaskStatus) (countsChanged : Bool) (t : Task) (rows : Rows) :
    Bool × Rows :=
  match rows.find? t.id with
  | none => (false, rows)
  | some row =>
    if row.status = fromStatus then (!(countsChanged && row == t), rows.save t) else (false, rows)

/-- The quota of a row is written. -/
def updateQuota (id quota : ℤ) (rows : Rows) : Rows :=
  rows.update (fun t => if t.id = id then t.withQuota quota else t) fun t => by split <;> rfl

/-- A row after a bulk cleanup; the one of missing channels gives a reason too. -/
def Task.bulkFailed (failReason : Option String) (t : Task) : Task :=
  { t with status := .failure, progress := "100%", failReason := failReason.getD t.failReason }

/-- `TaskBulkUpdateByID` with status `FAILURE` and progress `100%`. -/
def bulkFail (ids : List ℤ) (failReason : Option String) (rows : Rows) : Rows :=
  rows.update (fun t => if t.id ∈ ids then t.bulkFailed failReason else t)
    fun t => by split <;> rfl

/-- **A guarded write** replaces the row that has the expected status, and nothing else. -/
theorem updateWithStatus_cases (fromStatus : TaskStatus) (countsChanged : Bool) (t : Task)
    (rows : Rows) :
    (∃ row won, rows.find? t.id = some row ∧ row.status = fromStatus ∧
        updateWithStatus fromStatus countsChanged t rows = (won, rows.save t) ∧
        (row ≠ t → won = true)) ∨
      (updateWithStatus fromStatus countsChanged t rows = (false, rows) ∧
        ∀ row, rows.find? t.id = some row → row.status ≠ fromStatus) := by
  unfold updateWithStatus
  cases h : rows.find? t.id with
  | none => exact .inr ⟨rfl, fun row hr => by cases hr⟩
  | some row =>
    by_cases hs : row.status = fromStatus
    · refine .inl ⟨row, _, rfl, hs, if_pos hs, fun hne => by simp [hne]⟩
    · exact .inr ⟨if_neg hs, fun row' hr => by cases hr; exact hs⟩

/-- What giving up tasks does to a row. -/
theorem find?_bulkFail {rows : Rows} {k : ℤ} {row : Task} (h : rows.find? k = some row)
    (ids : List ℤ) (failReason : Option String) :
    (bulkFail ids failReason rows).find? k =
      some (if k ∈ ids then row.bulkFailed failReason else row) := by
  rw [bulkFail, Table.find?_update, h, Option.map_some, Table.key_of_find? h]

theorem find?_updateQuota (id quota : ℤ) (rows : Rows) (k : ℤ) :
    (updateQuota id quota rows).find? k =
      if k = id then (rows.find? k).map (·.withQuota quota) else rows.find? k := by
  rw [updateQuota, Table.find?_update]
  cases h : rows.find? k with
  | none => simp
  | some t =>
    have ht : t.id = k := Table.key_of_find? h
    by_cases hk : k = id <;> simp [ht, hk]

end AsyncTask
