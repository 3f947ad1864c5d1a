import NewApi.Task.System

/-!
# Task/Visible — which unfinished tasks the scheduler still sees

Both queries of the scheduler skip a row whose progress is `100%`, whatever its status.  A task is
*visible* if it is finished or its progress is something else.  An upstream that reports `100%` with
a status that is not terminal makes its task invisible to the poller and to the timeout sweep.

* `unfinished_tasks_selected` — as long as no answer does, every unfinished task is selected.
-/

namespace AsyncTask

open List

/-- Finished, or not at `100%`. -/
def Task.Visible (t : Task) : Prop := t.isTerminal = true ∨ t.progress ≠ "100%"

instance (t : Task) : Decidable t.Visible := inferInstanceAs (Decidable (_ ∨ _))

/-- An answer with status `status` and progress `progress` does not put a copy that stands at
`current` at `100%` short of a terminal status. -/
def ProgressOk (status : TaskStatus) (progress current : String) : Prop :=
  status.isTerminal = false → progress ≠ "100%" ∧ (progress = "" → current ≠ "100%")

instance (status : TaskStatus) (progress current : String) :
    Decidable (ProgressOk status progress current) :=
  inferInstanceAs (Decidable (_ → _))

/-- The condition on a label, in the state it is taken in. -/
def Label.Truthful (w : World) : Label → Prop
  | .poll i _ (.answer _ _ _ (.ok info)) _ => ∀ wk ∈ w.workers i,
      -- a status other than `NOT_START` brings a progress of its own
      ProgressOk info.status info.progress (if info.status = .notStart then wk.copy.progress else "")
  | .pollBatch i _ (.answer _ (.ok item)) _ => ∀ wk ∈ w.workers i, item.info.reason = "" →
      ProgressOk item.info.status item.info.progress wk.copy.progress
  | .realtime i _ info _ => ∀ wk ∈ w.workers i,
      ProgressOk (if info.status ≠ .empty then info.status else wk.copy.status) info.progress
        wk.copy.progress
  | .submit _ _ (some info) => ProgressOk info.status info.progress ""
  | _ => True

instance (w : World) : (c : Label) → Decidable (c.Truthful w)
  | .poll i _ (.answer _ _ _ (.ok info)) _ => inferInstanceAs (Decidable (∀ wk ∈ w.workers i,
      ProgressOk info.status info.progress
        (if info.status = .notStart then wk.copy.progress else "")))
  | .pollBatch i _ (.answer _ (.ok item)) _ => inferInstanceAs (Decidable (∀ wk ∈ w.workers i,
      item.info.reason = "" →
        ProgressOk item.info.status item.info.progress wk.copy.progress))
  | .realtime i _ info _ => inferInstanceAs (Decidable (∀ wk ∈ w.workers i,
      ProgressOk (if info.status ≠ .empty then info.status else wk.copy.status) info.progress
        wk.copy.progress))
  | .submit _ _ (some info) => inferInstanceAs (Decidable (ProgressOk info.status info.progress ""))
  | .poll _ _ (.transport _ _) _ | .poll _ _ (.answer _ _ _ (.error _)) _
  | .pollBatch _ _ (.transport _ _) _ | .pollBatch _ _ (.answer _ (.error _)) _
  | .submit _ _ none | .load _ _ _ | .sweep _ _ _ | .bill _ _ | .bulk _ _ =>
    inferInstanceAs (Decidable True)

/-! ## Every plan keeps its copy visible -/

variable {t : Task}

theorem failed_visible (now : ℤ) (reason : String) : (t.failed now reason).Visible := .inl rfl

/-- A failed poll leaves a task visible. -/
theorem recordPollFailure_visible (h : t.Visible) (env : PollEnv) (cls : PollClass)
    (statusCode : ℤ) (detail : String) :
    (recordPollFailure env t cls statusCode detail).copy.Visible := by
  unfold recordPollFailure
  split
  · exact failed_visible ..
  · exact h

variable {info : TaskInfo} (env : PollEnv)

theorem applyPoll_visible (body : String) (hknown : knownPollStatus info.status = true)
    (hok : ProgressOk info.status info.progress (if info.status = .notStart then t.progress else "")) :
    (applyPoll env body info t).copy.Visible := by
  have hcopy : (applyPoll env body info t).copy = t.applyInfo env body info := by
    unfold applyPoll
    dsimp only
    split
    · split <;> rfl
    · rfl
  rw [hcopy]
  by_cases hterm : info.status.isTerminal = true
  · exact .inl hterm
  · obtain ⟨hne, hkeep⟩ := hok (by simpa using hterm)
    refine .inr ?_
    unfold Task.applyInfo
    dsimp only
    split
    · next hf => exact absurd (by simp [hf]) hterm
    split
    · exact hne
    · next hempty =>
      -- the progress is the status's own, or the copy's for `NOT_START`
      have hcur := hkeep (by simpa using hempty)
      cases hs : info.status <;> simp [hs, knownPollStatus, canonicalProgress] at *
      exact hcur

/-- A poll leaves a task visible. -/
theorem updateVideoSingleTask_visible (h : t.Visible) (env : PollEnv) (reply : PollReply)
    (hok : ∀ code body data info, reply = .answer code body data (.ok info) →
      ProgressOk info.status info.progress (if info.status = .notStart then t.progress else "")) :
    (updateVideoSingleTask env reply t).copy.Visible := by
  unfold updateVideoSingleTask
  split
  · exact recordPollFailure_visible h ..
  split
  · exact failed_visible ..
  · exact recordPollFailure_visible h ..
  · exact recordPollFailure_visible h ..
  split
  · exact recordPollFailure_visible h ..
  split
  · exact recordPollFailure_visible (t := t.takeData _) h ..
  · next hk =>
    refine applyPoll_visible env _ ?_ (hok _ _ _ _ rfl)
    by_contra hcon
    exact hk (.inl (by simpa using hcon))

/-- …and so does one of a batch. -/
theorem updateBatchTasks_visible (h : t.Visible) (env : PollEnv) (reply : BatchReply)
    (hok : ∀ code item, reply = .answer code (.ok item) → item.info.reason = "" →
      ProgressOk item.info.status item.info.progress t.progress) :
    (updateBatchTasks env reply t).copy.Visible := by
  unfold updateBatchTasks
  split
  · exact recordPollFailure_visible h ..
  split
  · exact failed_visible ..
  · exact recordPollFailure_visible h ..
  · exact recordPollFailure_visible h ..
  split
  · exact recordPollFailure_visible h ..
  rename_i item
  unfold updateBatchTask
  split
  · exact recordPollFailure_visible h ..
  unfold Task.Visible Task.isTerminal Task.applyItem
  dsimp only
  by_cases hfail : item.info.reason ≠ "" ∨ item.info.status = .failure
  · simp [hfail]
  rw [if_neg hfail]
  by_cases hterm : item.info.status.isTerminal = true
  · exact .inl hterm
  · rw [not_or, not_not] at hfail
    obtain ⟨hne, hkeep⟩ := hok _ item rfl hfail.1 (by simpa using hterm)
    have hns : item.info.status ≠ .success := fun hs => hterm (by simp [hs])
    refine .inr ?_
    rw [if_neg (by simp [hfail, hns])]
    split
    · exact hne
    · next hempty => exact hkeep (by simpa using hempty)

/-- …and a fetch on request. -/
theorem tryRealtimeFetch_visible
    (hok : ProgressOk (if info.status ≠ .empty then info.status else t.status) info.progress
      t.progress) : (tryRealtimeFetch env info t).copy.Visible := by
  unfold Task.Visible Task.isTerminal tryRealtimeFetch
  dsimp only
  by_cases hterm : (if info.status ≠ .empty then info.status else t.status).isTerminal = true
  · exact .inl hterm
  · obtain ⟨hne, hkeep⟩ := hok (by simpa using hterm)
    refine .inr ?_
    split
    · exact hne
    · next hempty => exact hkeep (by simpa using hempty)

theorem sweepTimedOutTask_visible : (sweepTimedOutTask env t).copy.Visible := by
  refine .inl ?_
  unfold sweepTimedOutTask
  split <;> rfl

theorem submitted_visible (t : Task) {immediate : Option TaskInfo}
    (hok : ∀ info ∈ immediate, ProgressOk info.status info.progress "") :
    (t.submitted env immediate).Visible := by
  cases immediate with
  | none => exact .inr (show "0%" ≠ "100%" by decide)
  | some info =>
    by_cases hterm : info.status.isTerminal = true
    · exact .inl hterm
    · exact .inr (hok info rfl (by simpa using hterm)).1

/-! ## Every step keeps the table visible -/

/-- Every row and every copy is visible. -/
structure World.Visible (w : World) : Prop where
  rows : ∀ t ∈ w.rows.rows, t.Visible
  copies : ∀ i wk, w.workers i = some wk → wk.copy.Visible

namespace World.Visible

variable {w : World}

theorem start {rows : Rows} (h : ∀ t ∈ rows.rows, t.Visible) : (World.start rows).Visible :=
  ⟨h, fun _ _ hi => by cases hi⟩

variable {w' : World} {i : ℕ}

section

variable (h : w.Visible)

include h

/-- A new copy in one worker's hands, and new rows. -/
theorem of_worker {wk : Worker} (hworkers : w'.workers = Function.update w.workers i (some wk))
    (hwk : wk.copy.Visible) (hrows : ∀ t ∈ w'.rows.rows, t.Visible) : w'.Visible := by
  refine ⟨hrows, fun j wk' hj => ?_⟩
  rw [hworkers] at hj
  rcases update_workers_cases hj with ⟨-, rfl⟩ | ⟨-, hj⟩
  · exact hwk
  · exact h.copies j wk' hj

theorem update {f : Task → Task} (hvis : ∀ t, t.Visible → (f t).Visible) :
    ∀ t ∈ w.rows.rows.map f, t.Visible := by
  intro t ht
  obtain ⟨s, hs, rfl⟩ := mem_map.mp ht
  exact hvis s (h.rows s hs)

theorem load (i : ℕ) (role : Role) (id : ℤ) : (w.load i role id).Visible := by
  unfold World.load
  split
  · exact h
  split
  · exact h
  · next row hrow =>
    split
    · exact h.of_worker rfl (h.rows row (Table.mem_of_find? hrow)) h.rows
    · exact h

/-- What is written is visible. -/
theorem execute {t : Task} {role : Role} {p : Plan} (hp : p.copy.Visible)
    (hex : Executed w i t role p w') : w'.Visible := by
  cases hex with
  | kept => exact h.of_worker rfl hp h.rows
  | wrote =>
    refine h.of_worker rfl hp (h.update fun s hs => ?_)
    split
    · exact hp
    · exact hs

theorem act (i : ℕ) (may : Role → Bool) (next : Role → Role) {plan : Task → Plan} (r : WriteReply)
    (hp : ∀ wk ∈ w.workers i, wk.copy.Visible → (plan wk.copy).copy.Visible) :
    (w.act i may next plan r).Visible := by
  unfold World.act
  split
  · next t role hi =>
    split
    · exact h.execute (hp _ hi (h.copies i _ hi)) (w.execute_cases i t (next role) (plan t) r)
    · exact h
  · exact h

theorem billStep (i : ℕ) (wk : Worker) (hwk : wk.copy.Visible) (b : Bill) (reply : Billing.Reply) :
    (w.billStep i wk b reply).Visible := by
  unfold World.billStep
  split
  · exact h.of_worker rfl hwk h.rows
  · split <;> exact h.of_worker rfl hwk h.rows
  · exact h.of_worker rfl hwk h.rows
  · split
    · refine h.of_worker rfl hwk (h.update fun s hs => ?_)
      split <;> exact hs
    · exact h.of_worker rfl hwk h.rows

end

/-- **A step with a truthful answer keeps every row and copy visible.** -/
theorem step (w : World) (c : Label) (h : w.Visible) (hc : c.Truthful w) : (w.step c).Visible := by
  cases c with
  | load i role id => exact h.load i role id
  | poll i env reply r =>
    refine h.act i _ _ r fun wk hi hwk => updateVideoSingleTask_visible hwk env reply ?_
    rintro code body data info rfl
    exact hc wk hi
  | pollBatch i env reply r =>
    refine h.act i _ _ r fun wk hi hwk => updateBatchTasks_visible hwk env reply ?_
    rintro code item rfl
    exact hc wk hi
  | sweep i env r => exact h.act i _ _ r fun _ _ _ => sweepTimedOutTask_visible env
  | realtime i env info r =>
    exact h.act i _ _ r fun wk hi _ => tryRealtimeFetch_visible env (hc wk hi)
  | bill i reply =>
    dsimp only [World.step]
    split
    · next copy role b hi => exact h.billStep i ⟨copy, role, some b⟩ (h.copies i _ hi) b reply
    · exact h
  | bulk ids failReason =>
    refine ⟨h.update fun s hs => ?_, h.copies⟩
    split
    · exact .inl rfl
    · exact hs
  | submit env t immediate =>
    dsimp only [World.step]
    split
    · exact h
    · next rows hrows =>
      refine ⟨fun s hs => ?_, h.copies⟩
      rw [Table.rows_create hrows, mem_append, mem_singleton] at hs
      rcases hs with hs | rfl
      · exact h.rows s hs
      · refine submitted_visible env t ?_
        rintro info rfl
        exact hc

end World.Visible

/-! ## What the scheduler selects -/

variable {t : Task} {rows : Rows}

/-- An unfinished task is selected. -/
theorem mem_getAllUnFinishSyncTasks (ht : t ∈ rows.rows) (hun : t.isUnfinished = true) :
    t ∈ getAllUnFinishSyncTasks rows.rows.length rows := by
  rw [getAllUnFinishSyncTasks, take_of_length_le]
  · exact (mem_insertionSort _).mpr (mem_filter.mpr ⟨ht, hun⟩)
  · rw [length_insertionSort]
    exact length_filter_le ..

/-- …and one that has timed out. -/
theorem mem_getTimedOutUnfinishedTasks {cutoff : ℤ} (ht : t ∈ rows.rows)
    (hout : t.isTimedOut cutoff = true) :
    t ∈ getTimedOutUnfinishedTasks cutoff rows.rows.length rows := by
  rw [getTimedOutUnfinishedTasks, take_of_length_le]
  · exact (mem_insertionSort _).mpr (mem_filter.mpr ⟨ht, hout⟩)
  · rw [length_insertionSort]
    exact length_filter_le ..

/-- **No unfinished task is lost**: in every state reached with truthful answers, a row whose status
is neither `SUCCESS` nor `FAILURE` is not at `100%`, and both queries select it. -/
theorem unfinished_tasks_selected {rows : Rows} (hrows : ∀ t ∈ rows.rows, t.Visible)
    {cs : List Label} (hg : Runs.Guarded World.step (fun w c => c.Truthful w) (World.start rows) cs)
    {t : Task} (ht : t ∈ (Runs.run World.step (World.start rows) cs).rows.rows)
    (hun : t.isTerminal = false) :
    t.progress ≠ "100%" ∧
      t ∈ getAllUnFinishSyncTasks
        (Runs.run World.step (World.start rows) cs).rows.rows.length
        (Runs.run World.step (World.start rows) cs).rows ∧
      ∀ cutoff, t.submitTime < cutoff →
        t ∈ getTimedOutUnfinishedTasks cutoff
          (Runs.run World.step (World.start rows) cs).rows.rows.length
          (Runs.run World.step (World.start rows) cs).rows := by
  have hvis := Runs.invariant World.Visible.step (World.Visible.start hrows) hg
  have hp : t.progress ≠ "100%" := (hvis.rows t ht).resolve_left (by simp [hun])
  refine ⟨hp, mem_getAllUnFinishSyncTasks ht (isUnfinished_of_progress hp hun), fun cutoff hlt => ?_⟩
  exact mem_getTimedOutUnfinishedTasks ht (isTimedOut_of_progress hp hun hlt)

/-- A task is submitted, and its first poll answers `IN_PROGRESS` with some progress. -/
def firstPoll (progress : String) : List Label :=
  [.submit {} { id := 1, taskId := "task_a" } none, .load 0 .poller 1,
    .poll 0 {} (.answer 200 "" none (.ok { status := .inProgress, progress })) {}]

/-- A task half done is polled again. -/
theorem unfinished_tasks_selected_halfway :
    ∃ t ∈ (Runs.run World.step (World.start ∅) (firstPoll "50%")).rows.rows,
      t.progress = "50%" ∧
        t ∈ getAllUnFinishSyncTasks
          (Runs.run World.step (World.start ∅) (firstPoll "50%")).rows.rows.length
          (Runs.run World.step (World.start ∅) (firstPoll "50%")).rows := by
  refine ⟨{ id := 1, taskId := "task_a", status := .inProgress, progress := "50%" }, ?_, rfl, ?_⟩
  · decide
  · exact (@unfinished_tasks_selected ∅ (by simp) (firstPoll "50%") (by decide) _ (by decide)
      rfl).2.1

/-- A task that is reported at `100%` and in progress is neither polled nor timed out. -/
theorem full_progress_hides_task :
    ∃ t ∈ (Runs.run World.step (World.start ∅) (firstPoll "100%")).rows.rows,
      t.isTerminal = false ∧ t.progress = "100%" ∧
        getAllUnFinishSyncTasks 1000
          (Runs.run World.step (World.start ∅) (firstPoll "100%")).rows = [] ∧
        getTimedOutUnfinishedTasks 1000 1000
          (Runs.run World.step (World.start ∅) (firstPoll "100%")).rows = [] := by
  decide

end AsyncTask
