import NewApi.Machinery.Runs
import NewApi.Task.Poll

/-!
# Task/System — any number of workers on one task table

Pollers, the timeout sweep and realtime fetches each read rows into private copies, work on them and
write them back; the two bulk cleanups and the insertion of new tasks write the table directly.  A
worker's private work and its guarded write are one step; every database call of its billing is a
step of its own.  Anything may happen in between.

Besides the table and the workers the state remembers what happened: the funding calls that went
through, the tasks whose completion settlement has been run, and what left a task's quota out of
step with the funds.
-/

namespace AsyncTask

open Billing (Reply)

/-- Why a worker holds a copy. -/
inductive Role where
  | poller
  | sweeper (cutoff : ℤ)
  | fetcher
  /-- The copy has served its purpose. -/
  | spent
  deriving DecidableEq

/-- The rows the worker's query selects. -/
def Role.selects : Role → Task → Bool
  | .poller, t => t.isUnfinished
  | .sweeper cutoff, t => t.isTimedOut cutoff
  | .fetcher, _ => true
  | .spent, _ => false

/-- The routine is a sweep. -/
def Role.sweeps : Role → Bool
  | .sweeper _ => true
  | _ => false

/-- A routine with its copy of a row. -/
structure Worker where
  copy : Task
  role : Role
  bill : Option Bill := none
  deriving DecidableEq

/-- The table, the routines and the moves of billing. -/
structure World where
  rows : Rows
  workers : ℕ → Option Worker := fun _ => none
  /-- Task and amount of each funding call that went through; positive amounts charge. -/
  moves : List (ℤ × ℤ) := []
  tokenMoves : List (ℤ × ℤ) := []
  /-- `settleTaskBillingOnComplete` has been run for the task… -/
  completed : ℤ → Bool := fun _ => false
  /-- …and took the final charge over. -/
  usageSettled : ℤ → Bool := fun _ => false
  /-- Quota that a timeout cleared without a refund. -/
  writtenOff : ℤ → ℤ := fun _ => 0
  /-- What was moved but could not be written back to the row. -/
  unrecorded : ℤ → ℤ := fun _ => 0

/-- What the database answers to a guarded write. -/
structure WriteReply where
  reply : Reply := .ok
  countsChanged : Bool := false

/-- The steps of the routines. -/
inductive Label where
  /-- A worker reads a row. -/
  | load (i : ℕ) (role : Role) (id : ℤ)
  | poll (i : ℕ) (env : PollEnv) (reply : PollReply) (r : WriteReply)
  | pollBatch (i : ℕ) (env : PollEnv) (reply : BatchReply) (r : WriteReply)
  | sweep (i : ℕ) (env : PollEnv) (r : WriteReply)
  | realtime (i : ℕ) (env : PollEnv) (info : TaskInfo) (r : WriteReply)
  /-- A worker that is billing makes its next database call, or is done. -/
  | bill (i : ℕ) (reply : Reply)
  /-- A bulk cleanup: tasks without an upstream id, or of a missing channel. -/
  | bulk (ids : List ℤ) (failReason : Option String)
  /-- A submission inserts its task, with the result of an upstream that answered at once. -/
  | submit (env : PollEnv) (t : Task) (immediate : Option TaskInfo)

/-- The billing a finished write leads to. -/
def Finish.bill (won : Bool) : Finish → Option Bill
  | .never => none
  | .ifWon bill => if won then some bill else none
  | .always bill => some bill

namespace World

variable (w : World)

/-- The moves of one task. -/
def movesOf (k : ℤ) : List ℤ := (w.moves.filter fun m => m.1 = k).map (·.2)

/-- No worker is billing the task. -/
def Idle (k : ℤ) : Prop := ∀ i wk, w.workers i = some wk → wk.copy.id = k → wk.bill = none

/-- A routine goes on. -/
def setWorker (i : ℕ) (wk : Worker) : World :=
  { w with workers := Function.update w.workers i (some wk) }

/-- A routine reads a row. -/
def load (i : ℕ) (role : Role) (id : ℤ) : World :=
  if (w.workers i).any (·.bill.isSome) then w
  else match w.rows.find? id with
    | none => w
    | some row => if role.selects row then w.setWorker i { copy := row, role } else w

/-- A worker carries out a plan it made from its copy `t`. -/
def execute (i : ℕ) (t : Task) (role : Role) (p : Plan) (r : WriteReply) : World :=
  if p.write = true ∧ r.reply = .ok then
    let u := updateWithStatus t.status r.countsChanged p.copy w.rows
    { w.setWorker i { copy := p.copy, role, bill := p.finish.bill u.1 } with
      rows := u.2
      writtenOff := if u.1 then
          Function.update w.writtenOff t.id (w.writtenOff t.id + p.writeOff) else w.writtenOff }
  else w.setWorker i { copy := p.copy, role, bill := p.finish.bill false }

/-- A worker that is not billing acts, if it has the role to. -/
def act (i : ℕ) (may : Role → Bool) (next : Role → Role) (plan : Task → Plan) (r : WriteReply) :
    World :=
  match w.workers i with
  | some ⟨t, role, none⟩ => if may role then w.execute i t (next role) (plan t) r else w
  | _ => w

/-- One step of `RefundTaskQuota` or `RecalculateTaskQuota`: the funding source, the token, the row.
Only an error of the funding source stops it. -/
def billStep (i : ℕ) (wk : Worker) (b : Bill) (reply : Reply) : World :=
  let id := wk.copy.id
  match b.next with
  | none =>
    { w.setWorker i { wk with bill := none } with
      completed := Function.update w.completed id (w.completed id || b.completes)
      usageSettled := Function.update w.usageSettled id (w.usageSettled id || b.usage) }
  | some (.funding target) =>
    let delta := target - wk.copy.quota
    if reply = .ok then
      { w.setWorker i { wk with bill := some { b with next := some (.token delta target) } } with
        moves := w.moves ++ [(id, delta)] }
    else w.setWorker i { wk with bill := some { b with next := none } }
  | some (.token delta target) =>
    { w.setWorker i { wk with bill := some { b with next := some (.store target) } } with
      tokenMoves := if 0 < wk.copy.privateData.tokenId ∧ reply = .ok then
        w.tokenMoves ++ [(id, delta)] else w.tokenMoves }
  | some (.store target) =>
    let wk' := { wk with copy := wk.copy.withQuota target, bill := some { b with next := none } }
    if reply = .ok then { w.setWorker i wk' with rows := updateQuota id target w.rows }
    else { w.setWorker i wk' with
      unrecorded := Function.update w.unrecorded id (w.unrecorded id + (target - wk.copy.quota)) }

/-- One step. -/
def step : Label → World
  | .load i role id => w.load i role id
  | .poll i env reply r => w.act i (· == .poller) id (updateVideoSingleTask env reply) r
  | .pollBatch i env reply r => w.act i (· == .poller) id (updateBatchTasks env reply) r
  | .sweep i env r =>
    w.act i Role.sweeps (fun _ => .spent) (sweepTimedOutTask env) r
  | .realtime i env info r => w.act i (· == .fetcher) (fun _ => .spent) (tryRealtimeFetch env info) r
  | .bill i reply =>
    match w.workers i with
    | some ⟨copy, role, some b⟩ => w.billStep i ⟨copy, role, some b⟩ b reply
    | _ => w
  | .bulk ids failReason => { w with rows := bulkFail ids failReason w.rows }
  | .submit env t immediate =>
    match w.rows.create (t.submitted env immediate) with
    | none => w
    | some rows => { w with rows }

end World

theorem World.movesOf_snoc {w w' : World} {id delta : ℤ} (h : w'.moves = w.moves ++ [(id, delta)])
    (k : ℤ) : w'.movesOf k = w.movesOf k ++ if id = k then [delta] else [] := by
  rw [World.movesOf, h, List.filter_append, List.map_append]
  by_cases hk : id = k <;> simp [World.movesOf, hk]

theorem update_workers_cases {W : ℕ → Option Worker} {i j : ℕ} {wk wk' : Worker}
    (h : Function.update W i (some wk) j = some wk') :
    (j = i ∧ wk' = wk) ∨ (j ≠ i ∧ W j = some wk') := by
  rw [Function.update_apply] at h
  split at h
  · next hj => exact .inl ⟨hj, (Option.some.inj h).symm⟩
  · next hj => exact .inr ⟨hj, h⟩

/-- The table before any worker has read it. -/
def World.start (rows : Rows) : World := { rows }

/-! ## What carrying out a plan does -/

/-- How a plan can end. -/
inductive Executed (w : World) (i : ℕ) (t : Task) (role : Role) (p : Plan) : World → Prop where
  /-- No row was written. -/
  | kept : Executed w i t role p
      (w.setWorker i { copy := p.copy, role, bill := p.finish.bill false })
  /-- The row still had the copy's status and was replaced; a write that changes it is counted. -/
  | wrote {row : Task} {won : Bool} (write : p.write = true) (found : w.rows.find? p.copy.id = some row)
      (status : row.status = t.status) (counted : row ≠ p.copy → won = true) :
      Executed w i t role p
        { w.setWorker i { copy := p.copy, role, bill := p.finish.bill won } with
          rows := w.rows.save p.copy
          writtenOff := if won then
            Function.update w.writtenOff t.id (w.writtenOff t.id + p.writeOff) else w.writtenOff }

/-- **What writing a plan does.** -/
theorem World.execute_cases (w : World) (i : ℕ) (t : Task) (role : Role) (p : Plan)
    (r : WriteReply) : Executed w i t role p (w.execute i t role p r) := by
  unfold World.execute
  split
  · next hw =>
    rcases updateWithStatus_cases t.status r.countsChanged p.copy w.rows with
      ⟨row, won, hfind, hstatus, heq, hwon⟩ | ⟨heq, -⟩
    · rw [heq]
      exact .wrote hw.1 hfind hstatus hwon
    · rw [heq]
      exact .kept
  · exact .kept

/-! ## A worker's hands are its own -/

/-- The worker whose label it is. -/
def Label.worker : Label → Option ℕ
  | .load i _ _ | .poll i _ _ _ | .pollBatch i _ _ _ | .sweep i _ _ | .realtime i _ _ _ | .bill i _ =>
    some i
  | .bulk _ _ | .submit _ _ _ => none

namespace World

variable (w : World) {i j : ℕ}

theorem setWorker_of_ne (h : j ≠ i) (wk : Worker) : (w.setWorker i wk).workers j = w.workers j :=
  Function.update_of_ne h ..

theorem act_of_ne (h : j ≠ i) (may : Role → Bool) (next : Role → Role) (plan : Task → Plan)
    (r : WriteReply) : (w.act i may next plan r).workers j = w.workers j := by
  unfold act
  split
  · split
    · unfold execute
      split <;> exact w.setWorker_of_ne h _
    · rfl
  · rfl

/-- A step is one of one routine. -/
theorem step_of_ne {c : Label} (h : c.worker ≠ some j) : (w.step c).workers j = w.workers j := by
  have hne : ∀ {i : ℕ}, some i ≠ some j → j ≠ i := fun h hij => h (congrArg some hij.symm)
  cases c with
  | load i role id =>
    dsimp only [step, load]
    repeat' split
    all_goals first | rfl | exact w.setWorker_of_ne (hne h) _
  | poll | pollBatch | sweep | realtime => exact w.act_of_ne (hne h) ..
  | bill i reply =>
    dsimp only [step, billStep]
    repeat' split
    all_goals first | rfl | exact w.setWorker_of_ne (hne h) _
  | bulk => rfl
  | submit =>
    dsimp only [step]
    split <;> rfl

/-- When one worker has done it all, nobody bills if that one does not. -/
theorem idle_of_alone {rows : Rows} {cs : List Label} (h : ∀ c ∈ cs, ∀ j ∈ c.worker, j = i)
    (hi : ((Runs.run step (start rows) cs).workers i).all (·.bill.isNone) = true) (k : ℤ) :
    (Runs.run step (start rows) cs).Idle k := by
  have halone : ∀ j, j ≠ i → (Runs.run step (start rows) cs).workers j = none := by
    intro j hj
    refine Runs.invariant (I := fun w => w.workers j = none) (fun w c hw hc => ?_) rfl
      ((Runs.guarded_of_forall (fun _ _ => trivial) (start rows) cs).and_of_forall_mem h)
    rw [w.step_of_ne fun hc' => hj (hc.2 j hc'), hw]
  intro j wk hj _
  by_cases hji : j = i
  · rw [← hji, hj] at hi
    simpa using hi
  · rw [halone j hji] at hj
    cases hj

end World

end AsyncTask
