import NewApi.SystemTask.Lease

/-!
# SystemTask/Statements — what the statements on tasks and locks keep

What is known of the rows between two steps, what a call knows at each of its points, and how the
statements keep both: a lock that names a running task is not taken over, released or swept, because
everyone who might has looked at the clock before the task was started.
-/

namespace SystemTask

open Option Table

/-! ## What is known between two steps -/

/-- A running task has a lock in its runner's name, from the moment it started. -/
structure Named (s : LeaseState) (row : Row) : Prop where
  started : row.startedAt ≤ s.clock
  lock : ∃ lock, s.locks.find? row.type = some lock ∧ lock.taskId = row.id ∧
    lock.lockedBy = row.lockedBy ∧ row.startedAt ≤ lock.lockedUntil

/-- The state between two steps. -/
structure StateOk (s : LeaseState) : Prop where
  named : ∀ id row, s.tasks.find? id = some row → row.status = .running → Named s row
  /-- Tasks that are not over have the active key of their type… -/
  key : ∀ id row, s.tasks.find? id = some row → row.status.terminal = false →
    row.activeKey = some row.type
  /-- …which is unique. -/
  active : ∀ id id' row row' type, s.tasks.find? id = some row → s.tasks.find? id' = some row' →
    row.activeKey = some type → row'.activeKey = some type → id = id'
  claimed : ∀ id runner, (id, runner) ∈ s.claimed →
    ∃ row, s.tasks.find? id = some row ∧ row.status ≠ .pending

/-- A time that no running task of a kind started before. -/
def NotBefore (s : LeaseState) (now : ℤ) (p : Row → Prop) : Prop :=
  now ≤ s.clock ∧ ∀ id row, s.tasks.find? id = some row → row.status = .running → p row →
    now ≤ row.startedAt

/-- A claim that has seen its task pending. -/
structure ClaimOk (s : LeaseState) (c : Claim) : Prop where
  notBefore : NotBefore s c.now fun row => row.type = c.type
  other : ∀ row, s.tasks.find? c.id = some row → row.status = .running → row.lockedBy ≠ c.runner

/-- A task that has been started, before `until` if it still runs. -/
def StartedBy (s : LeaseState) (id : ℕ) (lockUntil : ℤ) : Prop :=
  ∃ row, s.tasks.find? id = some row ∧ row.status ≠ .pending ∧
    (row.status = .running → row.startedAt ≤ lockUntil)

/-- The runner whose claim a call carries out. -/
def Call.claimer : Call → Option String
  | .claimNow _ _ runner _ => some runner
  | .readPending c | .createLock c | .readLock c | .takeOver c _ | .markExpired c _
  | .markRunning c | .releaseClaim c | .reread c => some c.runner
  | _ => none

/-- The assertion at each point of a call. -/
def CallOk (s : LeaseState) : Call → Prop
  | .readPending c => c.now ≤ s.clock
  | .createLock c | .readLock c | .takeOver c _ | .markExpired c _ | .markRunning c
  | .releaseClaim c => ClaimOk s c
  | .reread c => ∃ row, s.tasks.find? c.id = some row ∧ row.status ≠ .pending
  | .renewNow id _ lockUntil | .renewWrite id _ lockUntil _ => StartedBy s id lockUntil
  | .releaseFinished id _ =>
    ∃ row, s.tasks.find? id = some row ∧ row.status.terminal = true
  | .sweepRead now | .sweepMark now _ => now ≤ s.clock
  | .sweepDelete now lock _ => NotBefore s now fun row => row.id = lock.taskId
  | _ => True

/-- …and a claim under way is registered. -/
structure CallOn (s : LeaseState) (call : Call) : Prop where
  ok : CallOk s call
  busy : ∀ runner ∈ call.claimer, runner ∈ s.busy

/-- Two calls carry out claims of different runners. -/
def Apart (t u : Call) : Prop := ∀ runner ∈ t.claimer, runner ∉ u.claimer

theorem Apart.symm {t u : Call} (h : Apart t u) : Apart u t := fun r hr hr' => h r hr' hr

/-! ## What others do -/

/-- A later state, in which only `starter` may have started a task. -/
structure Later (s s' : LeaseState) (starter : Option String) : Prop where
  clock : s.clock ≤ s'.clock
  running : ∀ id row', s'.tasks.find? id = some row' → row'.status = .running →
    s.tasks.find? id = some row' ∨ (s.clock ≤ row'.startedAt ∧ starter = some row'.lockedBy ∧
      ∃ row, s.tasks.find? id = some row ∧ row.status = .pending)
  settled : ∀ id row, s.tasks.find? id = some row → row.status ≠ .pending →
    ∃ row', s'.tasks.find? id = some row' ∧ row'.status ≠ .pending ∧
      (row.status.terminal = true → row'.status.terminal = true)

variable {s s' : LeaseState} {starter : Option String} {now : ℤ}

theorem NotBefore.later {p : Row → Prop} (h : NotBefore s now p) (hl : Later s s' starter) :
    NotBefore s' now p := by
  refine ⟨Int.le_trans h.1 hl.clock, fun id row hrow hrunning hp => ?_⟩
  obtain hrow | ⟨hclock, -⟩ := hl.running id row hrow hrunning
  · exact h.2 id row hrow hrunning hp
  · exact Int.le_trans h.1 hclock

variable {c : Claim}

theorem ClaimOk.later (h : ClaimOk s c) (hl : Later s s' starter) (hstarter : c.runner ∉ starter) :
    ClaimOk s' c := by
  refine ⟨h.notBefore.later hl, fun row hrow hrunning heq => ?_⟩
  obtain hrow | ⟨-, hwho, -⟩ := hl.running _ row hrow hrunning
  · exact h.other row hrow hrunning heq
  · exact hstarter (heq ▸ hwho)

variable {id : ℕ} {lockUntil : ℤ}

theorem StartedBy.later (h : StartedBy s id lockUntil) (hl : Later s s' starter) :
    StartedBy s' id lockUntil := by
  obtain ⟨row, hrow, hpending, hstarted⟩ := h
  obtain ⟨row', hrow', hpending', -⟩ := hl.settled id row hrow hpending
  refine ⟨row', hrow', hpending', fun hrunning => ?_⟩
  obtain hsame | ⟨-, -, row'', hrow'', hpending''⟩ := hl.running id row' hrow' hrunning
  · obtain rfl := some.inj (hrow.symm.trans hsame)
    exact hstarted hrunning
  · obtain rfl := some.inj (hrow.symm.trans hrow'')
    exact absurd hpending'' hpending

/-- **What a call knows stays true** while others start no task in its runner's name. -/
theorem CallOk.later {call : Call} (h : CallOk s call) (hl : Later s s' starter)
    (hstarter : ∀ runner ∈ call.claimer, runner ∉ starter) : CallOk s' call := by
  cases call with
  | readPending c => exact Int.le_trans h hl.clock
  | createLock c | readLock c | takeOver c | markExpired c | markRunning c | releaseClaim c =>
    exact ClaimOk.later h hl (hstarter _ rfl)
  | reread c =>
    obtain ⟨row, hrow, hpending⟩ := h
    obtain ⟨row', hrow', hpending', -⟩ := hl.settled _ row hrow hpending
    exact ⟨row', hrow', hpending'⟩
  | renewNow | renewWrite => exact StartedBy.later h hl
  | releaseFinished id runner =>
    obtain ⟨row, hrow, hterminal⟩ := h
    have hpending : row.status ≠ .pending := fun heq => by rw [heq] at hterminal; cases hterminal
    obtain ⟨row', hrow', -, hterminal'⟩ := hl.settled _ row hrow hpending
    exact ⟨row', hrow', hterminal' hterminal⟩
  | sweepRead | sweepMark => exact Int.le_trans h hl.clock
  | sweepDelete => exact NotBefore.later h hl
  | _ => trivial

/-- A step that leaves the clock and the tasks alone. -/
theorem Later.of_eq (hclock : s'.clock = s.clock) (htasks : s'.tasks = s.tasks) :
    Later s s' starter where
  clock := Int.le_of_eq hclock.symm
  running := fun _ _ hrow' _ => .inl (htasks ▸ hrow')
  settled := fun _ row hrow hpending => ⟨row, htasks ▸ hrow, hpending, fun h => h⟩

/-! ## Statements on locks -/

variable {locks : Table SystemTaskLock SystemTaskLock.type}

/-- Locks are changed, but those that name a running task still do. -/
theorem StateOk.setLocks (h : StateOk s)
    (hlocks : ∀ id row lock, s.tasks.find? id = some row → row.status = .running →
      s.locks.find? row.type = some lock → lock.taskId = row.id → lock.lockedBy = row.lockedBy →
      row.startedAt ≤ lock.lockedUntil → ∃ lock', locks.find? row.type = some lock' ∧
        lock'.taskId = row.id ∧ lock'.lockedBy = row.lockedBy ∧
        row.startedAt ≤ lock'.lockedUntil) :
    StateOk { s with locks } where
  named := fun id row hrow hrunning => by
    obtain ⟨hstarted, lock, hlock, htask, hby, huntil⟩ := h.named id row hrow hrunning
    exact ⟨hstarted, hlocks id row lock hrow hrunning hlock htask hby huntil⟩
  key := h.key
  active := h.active
  claimed := h.claimed

variable {lock : SystemTaskLock}

theorem StateOk.createLock (h : StateOk s) (hcreate : s.locks.create lock = some locks) :
    StateOk { s with locks } :=
  h.setLocks fun _ _ l _ _ hl htask hby huntil =>
    ⟨l, find?_create_of_some hcreate hl, htask, hby, huntil⟩

/-- A lock that has expired for a claim names no running task. -/
theorem StateOk.takeOver (h : StateOk s) (hc : ClaimOk s c) (htake : takeOver s c = some s') :
    StateOk s' := by
  unfold SystemTask.takeOver at htake
  split at htake
  · cases htake
  next old hold =>
    split_ifs at htake with hexpired
    obtain rfl := some.inj htake
    refine h.setLocks fun id row l hrow hrunning hl htask hby huntil => ?_
    by_cases htype : row.type = c.type
    · have hnow : c.now ≤ row.startedAt := hc.notBefore.2 id row hrow hrunning htype
      rw [htype, hold] at hl
      obtain rfl := some.inj hl
      exact absurd (Int.lt_of_le_of_lt (Int.le_trans hnow huntil) hexpired) (Int.lt_irrefl _)
    · refine ⟨l, ?_, htask, hby, huntil⟩
      rw [← hl]
      exact find?_save_of_ne s.locks htype

theorem takeOver_eq (h : takeOver s c = some s') :
    s'.clock = s.clock ∧ s'.tasks = s.tasks ∧ s'.busy = s.busy ∧ s'.finished = s.finished := by
  unfold SystemTask.takeOver at h
  split at h
  · cases h
  · split_ifs at h
    obtain rfl := some.inj h
    exact ⟨rfl, rfl, rfl, rfl⟩

variable {runner : String}

/-- A release in the name of a runner that does not run the task. -/
theorem StateOk.release (h : StateOk s)
    (hother : ∀ row, s.tasks.find? id = some row → row.status = .running →
      row.lockedBy ≠ runner) : StateOk (releaseSystemTaskLock s id runner) := by
  refine h.setLocks fun x row l hrow hrunning hl htask hby huntil =>
    ⟨l, find?_deleteWhere hl fun ⟨htask', hby'⟩ => ?_, htask, hby, huntil⟩
  have hx : x = id := (key_of_find? hrow).symm.trans (htask.symm.trans htask')
  subst hx
  exact hother row hrow hrunning (hby.symm.trans hby')

/-- A renewal moves the end of a lease to a time after its start. -/
theorem StateOk.renew (h : StateOk s) (hstarted : StartedBy s id lockUntil) :
    StateOk (renewSystemTaskLock s id runner lockUntil now) := by
  refine h.setLocks fun x row l hrow hrunning hl htask hby huntil => ?_
  refine ⟨_, by rw [find?_update, hl, map_some], ?_⟩
  split_ifs with hrenew
  · have hx : x = id := (key_of_find? hrow).symm.trans (htask.symm.trans hrenew.1)
    subst hx
    obtain ⟨row', hrow', -, hle⟩ := hstarted
    obtain rfl := some.inj (hrow.symm.trans hrow')
    exact ⟨htask, hby, hle hrunning⟩
  · exact ⟨htask, hby, huntil⟩

/-- The sweeper deletes no lock of a task that started after it looked. -/
theorem StateOk.deleteStale (h : StateOk s)
    (hnow : NotBefore s now fun row => row.id = lock.taskId) :
    StateOk (deleteStale s lock now) := by
  refine h.setLocks fun x row l hrow hrunning hl htask hby huntil =>
    ⟨l, find?_deleteWhere hl fun ⟨_, htask', _, hexpired⟩ => ?_, htask, hby, huntil⟩
  have hle := hnow.2 x row hrow hrunning (htask.symm.trans htask')
  exact absurd (Int.lt_of_le_of_lt (Int.le_trans hle huntil) hexpired) (Int.lt_irrefl _)

/-- What is known does not depend on the runners with a claim under way. -/
theorem StateOk.setBusy (h : StateOk s) (busy : List String) : StateOk { s with busy } :=
  ⟨fun id row hrow hrunning => ⟨(h.named id row hrow hrunning).started,
    (h.named id row hrow hrunning).lock⟩, h.key, h.active, h.claimed⟩

/-! ## Statements on tasks -/

/-- A row that is written keeps its id and its type, and loses its active key at the end. -/
structure Rewrites (s : LeaseState) (row row' : Row) : Prop where
  found : s.tasks.find? row'.id = some row
  type : row'.type = row.type
  key : row'.activeKey = row.activeKey ∨ row'.activeKey = none ∧ row'.status.terminal = true
  open_ : row.status.terminal = false
  pending : row'.status ≠ .pending

variable {row : Row} {row' : Row}

theorem StateOk.setTask (h : StateOk s) (hw : Rewrites s row row')
    (hnamed : row'.status = .running → Named s row') (hclock : s'.clock = s.clock)
    (htasks : s'.tasks = s.tasks.save row') (hlocks : s'.locks = s.locks)
    (hclaimed : s'.claimed = s.claimed) : StateOk s' := by
  have hcases {id : ℕ} {r : Row} (hr : s'.tasks.find? id = some r) :
      id = row'.id ∧ r = row' ∨ id ≠ row'.id ∧ s.tasks.find? id = some r :=
    find?_save_eq_some hw.found (htasks ▸ hr)
  -- an active key was there before
  have hbefore {id : ℕ} {r : Row} {type : String} (hr : s'.tasks.find? id = some r)
      (hkey : r.activeKey = some type) :
      ∃ r₀, s.tasks.find? id = some r₀ ∧ r₀.activeKey = some type := by
    obtain ⟨rfl, rfl⟩ | ⟨-, hr⟩ := hcases hr
    · obtain hsame | ⟨hnone, -⟩ := hw.key
      · exact ⟨row, hw.found, hsame ▸ hkey⟩
      · rw [hnone] at hkey
        cases hkey
    · exact ⟨r, hr, hkey⟩
  refine ⟨fun id r hr hrunning => ?_, fun id r hr hopen => ?_,
    fun id id' r r' type hr hr' hkey hkey' => ?_, fun id runner hmem => ?_⟩
  · have hr : Named s r := by
      obtain ⟨-, rfl⟩ | ⟨-, hr⟩ := hcases hr
      · exact hnamed hrunning
      · exact h.named id r hr hrunning
    exact ⟨hclock ▸ hr.started, hlocks ▸ hr.lock⟩
  · obtain ⟨-, rfl⟩ | ⟨-, hr⟩ := hcases hr
    · obtain hsame | ⟨-, hterminal⟩ := hw.key
      · rw [hsame, hw.type]
        exact h.key _ row hw.found hw.open_
      · rw [hterminal] at hopen
        cases hopen
    · exact h.key id r hr hopen
  · obtain ⟨r₀, hr₀, hkey₀⟩ := hbefore hr hkey
    obtain ⟨r₁, hr₁, hkey₁⟩ := hbefore hr' hkey'
    exact h.active id id' r₀ r₁ type hr₀ hr₁ hkey₀ hkey₁
  · obtain ⟨r, hr, hpending⟩ := h.claimed id runner (hclaimed ▸ hmem)
    by_cases hid : id = row'.id
    · subst hid
      exact ⟨row', by rw [htasks, find?_save_self hw.found], hw.pending⟩
    · exact ⟨r, by rw [htasks, find?_save_of_ne _ hid, hr], hpending⟩

theorem later_setTask (hw : Rewrites s row row') (hclock : s'.clock = s.clock)
    (htasks : s'.tasks = s.tasks.save row')
    (hstart : row'.status = .running → row.status = .pending ∧ s.clock ≤ row'.startedAt ∧
      starter = some row'.lockedBy) :
    Later s s' starter where
  clock := Int.le_of_eq hclock.symm
  running := fun id r hr hrunning => by
    obtain ⟨rfl, rfl⟩ | ⟨-, hr⟩ := find?_save_eq_some hw.found (htasks ▸ hr)
    · obtain ⟨hpending, hle, hwho⟩ := hstart hrunning
      exact .inr ⟨hle, hwho, row, hw.found, hpending⟩
    · exact .inl hr
  settled := fun id r hr hpending => by
    by_cases hid : id = row'.id
    · subst hid
      obtain rfl := some.inj (hw.found.symm.trans hr)
      refine ⟨row', by rw [htasks, find?_save_self hw.found], hw.pending, fun hterminal => ?_⟩
      rw [hw.open_] at hterminal
      cases hterminal
    · exact ⟨r, by rw [htasks, find?_save_of_ne _ hid, hr], hpending, fun h => h⟩

theorem markRunning_spec (h : markRunning s c = some s') :
    ∃ row row', Rewrites s row row' ∧ row.type = c.type ∧ row.status = .pending ∧
      row'.id = c.id ∧ row'.status = .running ∧ row'.lockedBy = c.runner ∧
      row'.startedAt = s.clock ∧ s' = { s with tasks := s.tasks.save row' } := by
  unfold SystemTask.markRunning at h
  split at h
  · cases h
  next row hrow =>
    split_ifs at h with hpending
    have hid : row.id = c.id := key_of_find? hrow
    have hself : s.tasks.find? row.id = some row := by rw [hid, hrow]
    exact ⟨row, { row with status := .running, lockedBy := c.runner, startedAt := s.clock },
      ⟨hself, rfl, .inl rfl, by rw [hpending.2]; rfl, nofun⟩, hpending.1, hpending.2, hid, rfl,
      rfl, rfl, (some.inj h).symm⟩

/-- The runner still has the lease when the update takes effect. -/
def HasLease (s : LeaseState) (c : Claim) : Prop :=
  ∀ row ∈ s.tasks.find? c.id, row.type = c.type → row.status = .pending →
    ∃ lock ∈ s.locks.find? c.type, lock.taskId = c.id ∧ lock.lockedBy = c.runner ∧
      s.clock ≤ lock.lockedUntil

instance (s : LeaseState) (c : Claim) : Decidable (HasLease s c) :=
  inferInstanceAs (Decidable (∀ row ∈ s.tasks.find? c.id, row.type = c.type →
    row.status = .pending → ∃ lock ∈ s.locks.find? c.type, lock.taskId = c.id ∧
      lock.lockedBy = c.runner ∧ s.clock ≤ lock.lockedUntil))

/-- **A task is marked running by the runner that has its lease.** -/
theorem StateOk.markRunning (h : StateOk s) (hlease : HasLease s c)
    (hmark : markRunning s c = some s') : StateOk s' := by
  obtain ⟨row, row', hw, htype, hpending, hid, hrunning, hby, hstarted, rfl⟩ :=
    markRunning_spec hmark
  refine h.setTask hw (fun _ => ?_) rfl rfl rfl rfl
  obtain ⟨lock, hlock, htask, hlockedBy, huntil⟩ := hlease row (hid ▸ hw.found) htype hpending
  refine ⟨Int.le_of_eq hstarted, lock, ?_, htask.trans hid.symm, hlockedBy.trans hby.symm, ?_⟩
  · rw [hw.type, htype]
    exact hlock
  · rw [hstarted]
    exact huntil

theorem later_markRunning (h : markRunning s c = some s') :
    Later s s' (some c.runner) ∧ s'.busy = s.busy ∧
      ∃ row, s'.tasks.find? c.id = some row ∧ row.status ≠ .pending := by
  obtain ⟨row, row', hw, -, hpending, hid, -, hby, hstarted, rfl⟩ := markRunning_spec h
  refine ⟨later_setTask hw rfl rfl fun _ => ⟨hpending, Int.le_of_eq hstarted.symm,
    congrArg some hby.symm⟩, rfl, row', ?_, hw.pending⟩
  rw [← hid]
  exact find?_save_self hw.found

variable {status : SystemTaskStatus}

theorem rewrites_endTask (hrow : s.tasks.find? id = some row) (hrunning : row.status = .running)
    (hterminal : status.terminal = true) :
    Rewrites s row { row with status, activeKey := none } := by
  have hid : row.id = id := key_of_find? hrow
  refine ⟨by rw [← hrow, ← hid], rfl, .inr ⟨rfl, hterminal⟩, by rw [hrunning]; rfl, ?_⟩
  rintro rfl
  cases hterminal

theorem StateOk.endTask (h : StateOk s) (hrow : s.tasks.find? id = some row)
    (hrunning : row.status = .running) (hterminal : status.terminal = true) :
    StateOk (endTask s row status) ∧ Later s (endTask s row status) none := by
  have hw := rewrites_endTask hrow hrunning hterminal
  have hnot : ¬ status = .running := by
    rintro rfl
    cases hterminal
  exact ⟨h.setTask hw (fun heq => absurd heq hnot) rfl rfl rfl rfl,
    later_setTask hw rfl rfl fun heq => absurd heq hnot⟩

theorem markSystemTaskLeaseExpired_ok (h : StateOk s) (id : ℕ) :
    StateOk (markSystemTaskLeaseExpired s id) ∧
      Later s (markSystemTaskLeaseExpired s id) none ∧
      (markSystemTaskLeaseExpired s id).busy = s.busy ∧
      ∀ row, (markSystemTaskLeaseExpired s id).tasks.find? id = some row →
        row.status ≠ .running := by
  unfold markSystemTaskLeaseExpired
  split
  next hnone => exact ⟨h, .of_eq rfl rfl, rfl, fun row hrow => by rw [hnone] at hrow; cases hrow⟩
  next row hrow =>
    split_ifs with hrunning
    · have hw : Rewrites s row { row with status := .failed, activeKey := none } :=
        rewrites_endTask hrow hrunning rfl
      obtain ⟨hstate, hlater⟩ : StateOk (endTask s row .failed) ∧
          Later s (endTask s row .failed) none := h.endTask hrow hrunning rfl
      refine ⟨hstate, hlater, rfl, fun row' hrow' => ?_⟩
      obtain ⟨-, rfl⟩ | ⟨hne, -⟩ := find?_save_eq_some hw.found hrow'
      · exact SystemTaskStatus.noConfusion
      · exact absurd (key_of_find? hrow).symm hne
    · refine ⟨h, .of_eq rfl rfl, rfl, fun row' hrow' => ?_⟩
      rwa [← some.inj (hrow.symm.trans hrow')]

theorem finishSystemTask_spec {succeeded : Bool}
    (h : finishSystemTask s id runner succeeded now = some s') :
    ∃ row status, s.tasks.find? id = some row ∧ row.status = .running ∧
      status.terminal = true ∧ s' = endTask s row status := by
  unfold finishSystemTask at h
  split at h
  · cases h
  next row hrow =>
    split at h
    next hlease =>
      refine ⟨row, _, hrow, hlease.1, ?_, (some.inj h).symm⟩
      cases succeeded <;> rfl
    · cases h

variable {tasks : Table Row Row.id}

theorem StateOk.createTask (h : StateOk s) {type : String}
    (hfree : ∀ x row, s.tasks.find? x = some row →
      row.activeKey ≠ some type)
    (hcreate : s.tasks.create { id, type, activeKey := some type } = some tasks) :
    StateOk { s with tasks } := by
  have hcases {x : ℕ} {row : Row} (hrow : tasks.find? x = some row) :
      x = id ∧ row = { id, type, activeKey := some type } ∨ s.tasks.find? x = some row := by
    rw [find?_create hcreate] at hrow
    split_ifs at hrow with hx
    · exact .inl ⟨hx, (some.inj hrow).symm⟩
    · exact .inr hrow
  refine ⟨fun x row hrow hrunning => ?_, fun x row hrow hopen => ?_,
    fun x x' row row' type' hrow hrow' hkey hkey' => ?_, fun x runner hmem => ?_⟩
  · obtain ⟨-, rfl⟩ | hrow := hcases hrow
    · cases hrunning
    · exact ⟨(h.named x row hrow hrunning).started, (h.named x row hrow hrunning).lock⟩
  · obtain ⟨-, rfl⟩ | hrow := hcases hrow
    · rfl
    · exact h.key x row hrow hopen
  · obtain ⟨hx, rfl⟩ | hrow := hcases hrow
    · obtain ⟨hx', -⟩ | hrow' := hcases hrow'
      · exact hx.trans hx'.symm
      · exact absurd (hkey'.trans hkey.symm) (hfree x' row' hrow')
    · obtain ⟨-, rfl⟩ | hrow' := hcases hrow'
      · exact absurd (hkey.trans hkey'.symm) (hfree x row hrow)
      · exact h.active x x' row row' type' hrow hrow' hkey hkey'
  · obtain ⟨row, hrow, hpending⟩ := h.claimed x runner hmem
    exact ⟨row, find?_create_of_some hcreate hrow, hpending⟩

theorem later_createTask (hpending : row.status = .pending)
    (hcreate : s.tasks.create row = some tasks) :
    Later s { s with tasks } none where
  clock := Int.le_refl _
  running := fun x r hr hrunning => by
    replace hr : tasks.find? x = some r := hr
    rw [find?_create hcreate] at hr
    split_ifs at hr
    · rw [← some.inj hr, hpending] at hrunning
      cases hrunning
    · exact .inl hr
  settled := fun x r hr hne => ⟨r, find?_create_of_some hcreate hr, hne, fun h => h⟩

theorem createTask_ok (h : StateOk s) (type : String) (id : ℕ) :
    StateOk (createTask s type id) ∧ Later s (createTask s type id) none ∧
      (createTask s type id).busy = s.busy := by
  unfold SystemTask.createTask
  split_ifs with hactive
  · exact ⟨h, .of_eq rfl rfl, rfl⟩
  split
  · exact ⟨h, .of_eq rfl rfl, rfl⟩
  next tasks hcreate =>
    refine ⟨h.createTask (fun x row hrow hkey => hactive ?_) hcreate,
      later_createTask rfl hcreate, rfl⟩
    exact List.any_eq_true.mpr ⟨row, mem_of_find? hrow, decide_eq_true hkey⟩

end SystemTask
