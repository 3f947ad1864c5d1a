import NewApi.Machinery.Calls
import NewApi.Machinery.Table

/-!
# SystemTask/Lease — claiming, renewing, finishing and sweeping system tasks, step by step

`CreateSystemTask`, `ClaimSystemTask`, `RenewSystemTaskLock`, `FinishSystemTask` and
`ExpireStaleSystemTaskLocks` of `model/system_task.go`, as calls over the rows of tasks and of locks.
A call stops before every statement and where the clock is read.  A runner makes its claim passes
one after the other, so it has one claim under way at a time.
-/

namespace SystemTask

/-- The status of a task. -/
inductive SystemTaskStatus where
  | pending | running | succeeded | failed
  deriving DecidableEq

/-- `succeeded` or `failed`. -/
def SystemTaskStatus.terminal : SystemTaskStatus → Bool
  | .succeeded | .failed => true
  | .pending | .running => false

/-- A row of `system_tasks`; `id` stands for both of its unique ids.  `startedAt` is no column: the
moment the row became running. -/
structure Row where
  id : ℕ
  type : String
  status : SystemTaskStatus := .pending
  activeKey : Option String
  lockedBy : String := ""
  startedAt : ℤ := 0
  deriving DecidableEq

/-- A row of `system_task_locks`. -/
structure SystemTaskLock where
  type : String
  taskId : ℕ
  lockedBy : String
  lockedUntil : ℤ
  deriving DecidableEq

/-- The shared rows, the runners with a claim under way, the claims that were granted, and the tasks
in the order in which their terminal status was written. -/
structure LeaseState where
  /-- In seconds. -/
  clock : ℤ
  tasks : Table Row Row.id := ∅
  locks : Table SystemTaskLock SystemTaskLock.type := ∅
  busy : List String := []
  claimed : List (ℕ × String) := []
  finished : List ℕ := []

/-- `systemTaskLockTTL`, in seconds. -/
def systemTaskLockTTL : ℤ := 60

/-! ## Calls -/

/-- The arguments of `ClaimSystemTask`, and its `now`. -/
structure Claim where
  id : ℕ
  type : String
  runner : String
  lockUntil : ℤ
  now : ℤ
  deriving DecidableEq

/-- A call, at its next statement. -/
inductive Call where
  -- CreateSystemTask
  | create (type : String)
  -- ClaimSystemTask
  | claim (id : ℕ) (type runner : String)
  | claimNow (id : ℕ) (type runner : String) (lockUntil : ℤ)
  | readPending (c : Claim)
  | createLock (c : Claim)
  | readLock (c : Claim)
  | takeOver (c : Claim) (expired : ℕ)
  | markExpired (c : Claim) (expired : ℕ)
  | markRunning (c : Claim)
  | releaseClaim (c : Claim)
  | reread (c : Claim)
  -- RenewSystemTaskLock
  | renew (id : ℕ) (runner : String)
  | renewNow (id : ℕ) (runner : String) (lockUntil : ℤ)
  | renewWrite (id : ℕ) (runner : String) (lockUntil now : ℤ)
  -- FinishSystemTask
  | finish (id : ℕ) (runner : String) (succeeded : Bool)
  | finishWrite (id : ℕ) (runner : String) (succeeded : Bool) (now : ℤ)
  | releaseFinished (id : ℕ) (runner : String)
  -- ExpireStaleSystemTaskLocks
  | sweep
  | sweepRead (now : ℤ)
  | sweepMark (now : ℤ) (locks : List SystemTaskLock)
  | sweepDelete (now : ℤ) (lock : SystemTaskLock) (rest : List SystemTaskLock)
  deriving DecidableEq

/-- What a step leaves open: whether its statement fails, and a random id. -/
structure Choice where
  fails : Bool := false
  id : ℕ := 0

/-! ## The statements -/

section

variable (s : LeaseState)

/-- The insert of `CreateSystemTask`: ids and active keys are unique. -/
def createTask (type : String) (id : ℕ) : LeaseState :=
  if s.tasks.rows.any fun row => row.activeKey = some type then s
  else
    match s.tasks.create { id, type, activeKey := some type } with
    | none => s
    | some tasks => { s with tasks }

/-- The update of `acquireSystemTaskLock`, if it finds the lock expired. -/
def takeOver (c : Claim) : Option LeaseState :=
  match s.locks.find? c.type with
  | none => none
  | some lock =>
    if lock.lockedUntil < c.now then
      some { s with locks := s.locks.save ⟨c.type, c.id, c.runner, c.lockUntil⟩ }
    else none

/-- The update from pending to running, if it finds the task pending. -/
def markRunning (c : Claim) : Option LeaseState :=
  match s.tasks.find? c.id with
  | none => none
  | some row =>
    if row.type = c.type ∧ row.status = .pending then
      some { s with
        tasks := s.tasks.save
          { row with status := .running, lockedBy := c.runner, startedAt := s.clock } }
    else none

/-- A running task is given its terminal status. -/
def endTask (row : Row) (status : SystemTaskStatus) : LeaseState :=
  { s with
    tasks := s.tasks.save { row with status, activeKey := none }
    finished := s.finished ++ [row.id] }

/-- A task whose lease ran out is pending again. -/
def markSystemTaskLeaseExpired (id : ℕ) : LeaseState :=
  match s.tasks.find? id with
  | none => s
  | some row => if row.status = .running then endTask s row .failed else s

/-- The runner's lock is deleted. -/
def releaseSystemTaskLock (id : ℕ) (runner : String) : LeaseState :=
  { s with locks := s.locks.deleteWhere fun lock => lock.taskId = id ∧ lock.lockedBy = runner }

/-- The update of `RenewSystemTaskLock`. -/
def renewSystemTaskLock (id : ℕ) (runner : String) (lockUntil now : ℤ) : LeaseState :=
  { s with
    locks := s.locks.update
      (fun lock =>
        if lock.taskId = id ∧ lock.lockedBy = runner ∧ now ≤ lock.lockedUntil then
          { lock with lockedUntil := lockUntil }
        else lock)
      fun lock => by split <;> rfl }

/-- The update of `FinishSystemTask`, if the runner still has the lease. -/
def finishSystemTask (id : ℕ) (runner : String) (succeeded : Bool) (now : ℤ) :
    Option LeaseState :=
  match s.tasks.find? id with
  | none => none
  | some row =>
    if row.status = .running ∧ row.lockedBy = runner ∧
        ∃ lock ∈ s.locks.rows, lock.taskId = id ∧ lock.lockedBy = runner ∧
          now ≤ lock.lockedUntil then
      some (endTask s row (if succeeded then .succeeded else .failed))
    else none

/-- The delete of `ExpireStaleSystemTaskLocks`. -/
def deleteStale (lock : SystemTaskLock) (now : ℤ) : LeaseState :=
  { s with
    locks := s.locks.deleteWhere fun l => l.type = lock.type ∧ l.taskId = lock.taskId ∧
      l.lockedBy = lock.lockedBy ∧ l.lockedUntil < now }

/-! ## One step of a call -/

/-- The claim of a runner is over. -/
def leave (runner : String) : LeaseState := { s with busy := s.busy.erase runner }

/-- One statement. -/
def act (x : Choice) : Call → LeaseState × Option Call
  | .create type => (if x.fails then s else createTask s type x.id, none)
  | .claim id type runner =>
    if runner ∈ s.busy then (s, none)
    else
      ({ s with busy := runner :: s.busy },
        some (.claimNow id type runner (s.clock + systemTaskLockTTL)))
  | .claimNow id type runner lockUntil =>
    (s, some (.readPending ⟨id, type, runner, lockUntil, s.clock⟩))
  | .readPending c =>
    match s.tasks.find? c.id with
    | none => (leave s c.runner, none)
    | some row =>
      if x.fails = false ∧ row.type = c.type ∧ row.status = .pending then (s, some (.createLock c))
      else (leave s c.runner, none)
  | .createLock c =>
    if x.fails then (s, some (.readLock c))
    else
      match s.locks.create ⟨c.type, c.id, c.runner, c.lockUntil⟩ with
      | none => (s, some (.readLock c))
      | some locks => ({ s with locks }, some (.markRunning c))
  | .readLock c =>
    match s.locks.find? c.type with
    | none => (leave s c.runner, none)
    | some existing =>
      if x.fails = true ∨ c.now ≤ existing.lockedUntil then (leave s c.runner, none)
      else (s, some (.takeOver c existing.taskId))
  | .takeOver c expired =>
    if x.fails then (leave s c.runner, none)
    else
      match takeOver s c with
      | none => (leave s c.runner, none)
      | some s' => (s', some (if expired = c.id then .markRunning c else .markExpired c expired))
  | .markExpired c expired =>
    if x.fails then (s, some (.releaseClaim c))
    else (markSystemTaskLeaseExpired s expired, some (.markRunning c))
  | .markRunning c =>
    if x.fails then (s, some (.releaseClaim c))
    else
      match markRunning s c with
      | none => (s, some (.releaseClaim c))
      | some s' => (s', some (.reread c))
  | .releaseClaim c =>
    if x.fails then (leave s c.runner, none)
    else (leave (releaseSystemTaskLock s c.id c.runner) c.runner, none)
  | .reread c =>
    if x.fails then (leave s c.runner, none)
    else (leave { s with claimed := (c.id, c.runner) :: s.claimed } c.runner, none)
  | .renew id runner =>
    if (id, runner) ∈ s.claimed then
      (s, some (.renewNow id runner (s.clock + systemTaskLockTTL)))
    else (s, none)
  | .renewNow id runner lockUntil => (s, some (.renewWrite id runner lockUntil s.clock))
  | .renewWrite id runner lockUntil now =>
    (if x.fails then s else renewSystemTaskLock s id runner lockUntil now, none)
  | .finish id runner succeeded =>
    if (id, runner) ∈ s.claimed then (s, some (.finishWrite id runner succeeded s.clock))
    else (s, none)
  | .finishWrite id runner succeeded now =>
    if x.fails then (s, none)
    else
      match finishSystemTask s id runner succeeded now with
      | none => (s, none)
      | some s' => (s', some (.releaseFinished id runner))
  | .releaseFinished id runner =>
    (if x.fails then s else releaseSystemTaskLock s id runner, none)
  | .sweep => (s, some (.sweepRead s.clock))
  | .sweepRead now =>
    if x.fails then (s, none)
    else (s, some (.sweepMark now (s.locks.rows.filter fun lock => lock.lockedUntil < now)))
  | .sweepMark _ [] => (s, none)
  | .sweepMark now (lock :: rest) =>
    if x.fails then (s, none)
    else (markSystemTaskLeaseExpired s lock.taskId, some (.sweepDelete now lock rest))
  | .sweepDelete now lock rest =>
    if x.fails then (s, none) else (deleteStale s lock now, some (.sweepMark now rest))

end

/-! ## The system -/

/-- What is asked for. -/
inductive Request where
  | create (type : String)
  | claim (id : ℕ) (type runner : String)
  | renew (id : ℕ) (runner : String)
  | finish (id : ℕ) (runner : String) (succeeded : Bool)
  | sweep

/-- The first statement of a request. -/
def Request.call : Request → Call
  | .create type => .create type
  | .claim id type runner => .claim id type runner
  | .renew id runner => .renew id runner
  | .finish id runner succeeded => .finish id runner succeeded
  | .sweep => .sweep

/-- Besides the calls, time passes. -/
def leases : CallSystem LeaseState Call Request Choice ℕ where
  init _ request := request.call
  perform s call x := act s x call
  env s elapsed := { s with clock := s.clock + elapsed }

end SystemTask
