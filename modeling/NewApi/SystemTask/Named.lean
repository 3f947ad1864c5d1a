import NewApi.SystemTask.Statements

/-!
# SystemTask/Named — which running tasks the lock rows name

A runner gets the lock of a type first and marks the task running afterwards, without looking at the
lock again.

* `running_unnamed` — a runner that stalls in between leaves a running task that no lock names.
* `lease_named` — when a task is marked running only by the runner that still has its lease, every
  running task is named by the lock of its type.  In any case at most one runner has the lease of a
  type, and a terminal status is written once.
* `runner_can_finish` — what a lease is good for.
-/

namespace SystemTask

open List Option Table Calls

/-! ## One step -/

/-- What the proof rule asks of one step. -/
structure StepOk (s : LeaseState) (call : Call) (r : LeaseState × Option Call) : Prop where
  state : StateOk r.1
  next : ∀ t ∈ r.2, CallOn r.1 t
  others : ∀ u, CallOn s u → Apart call u → CallOn r.1 u ∧ ∀ t ∈ r.2, Apart u t

variable {s s' : LeaseState} {call : Call}

/-- A step in the name of the runner of the call, if it has one. -/
theorem stepOk_of {next : Option Call} {starter : Option String} (hstate : StateOk s')
    (hlater : Later s s' starter) (hstarter : ∀ r ∈ starter, r ∈ call.claimer)
    (hbusy : ∀ r ∈ s.busy, r ∉ call.claimer → r ∈ s'.busy)
    (hnext : ∀ t ∈ next, CallOk s' t ∧ ∀ r ∈ t.claimer, r ∈ call.claimer ∧ r ∈ s'.busy) :
    StepOk s call (s', next) where
  state := hstate
  next := fun t ht => ⟨(hnext t ht).1, fun r hr => ((hnext t ht).2 r hr).2⟩
  others := fun _ hu hapart =>
    ⟨⟨hu.ok.later hlater fun r hr hr' => hapart r (hstarter r hr') hr,
      fun r hr => hbusy r (hu.busy r hr) fun hr' => hapart r hr' hr⟩,
      fun t ht r hr hr' => hapart r ((hnext t ht).2 r hr').1 hr⟩

theorem stepOk_on {next : Call} (hstate : StateOk s') (hlater : Later s s' none)
    (hbusy : s'.busy = s.busy) (hcall : CallOn s call) (hnext : CallOk s' next)
    (hclaimer : ∀ r ∈ next.claimer, r ∈ call.claimer) : StepOk s call (s', some next) :=
  stepOk_of hstate hlater (fun _ hr => absurd hr (not_mem_none _))
    (fun _ hr _ => hbusy ▸ hr) fun t ht => by
      obtain rfl := some.inj ht
      exact ⟨hnext, fun r hr => ⟨hclaimer r hr, hbusy ▸ hcall.busy r (hclaimer r hr)⟩⟩

theorem stepOk_go {next : Call} (h : StateOk s) (hcall : CallOn s call) (hnext : CallOk s next)
    (hclaimer : ∀ r ∈ next.claimer, r ∈ call.claimer) : StepOk s call (s, some next) :=
  stepOk_on h (.of_eq rfl rfl) rfl hcall hnext hclaimer

theorem stepOk_end (hstate : StateOk s') (hlater : Later s s' none)
    (hbusy : ∀ r ∈ s.busy, r ∉ call.claimer → r ∈ s'.busy) : StepOk s call (s', none) :=
  stepOk_of hstate hlater (fun _ hr => absurd hr (not_mem_none _)) hbusy
    fun t ht => absurd ht (not_mem_none t)

theorem stepOk_stop (h : StateOk s) : StepOk s call (s, none) :=
  stepOk_end h (.of_eq rfl rfl) fun _ hr _ => hr

variable {runner : String}

theorem stepOk_leave (hcall : call.claimer = some runner) (hstate : StateOk s')
    (hlater : Later s s' none) (hbusy : s'.busy = s.busy) :
    StepOk s call (leave s' runner, none) := by
  refine stepOk_end (hstate.setBusy _) ⟨hlater.clock, hlater.running, hlater.settled⟩
    fun r hr hne => ?_
  have hne : r ≠ runner := fun heq => hne (heq ▸ hcall)
  change r ∈ s'.busy.erase runner
  rw [hbusy]
  exact (mem_erase_of_ne hne).mpr hr

theorem stepOk_quit (hcall : call.claimer = some runner) (h : StateOk s) :
    StepOk s call (leave s runner, none) :=
  stepOk_leave hcall h (.of_eq rfl rfl) rfl

/-! ### Claims -/

variable {id : ℕ}

theorem stepOk_claim (h : StateOk s) {type : String} (x : Choice) :
    StepOk s (.claim id type runner) (act s x (.claim id type runner)) := by
  rw [act]
  split_ifs with hbusy
  · exact stepOk_stop h
  have hlater : Later s { s with busy := runner :: s.busy } none := .of_eq rfl rfl
  refine ⟨h.setBusy _, fun t ht => ?_, fun u hu _ => ⟨⟨hu.ok.later hlater
    fun _ _ => not_mem_none _, fun r hr => mem_cons_of_mem _ (hu.busy r hr)⟩,
    fun t ht r hr hr' => ?_⟩⟩
  · obtain rfl := some.inj ht
    exact ⟨trivial, fun r hr => some.inj hr ▸ mem_cons_self⟩
  -- the others' runners are registered, this one was not
  · obtain rfl := some.inj ht
    exact hbusy (some.inj hr' ▸ hu.busy r hr)

variable {c : Claim} {row : Row}

section

variable (h : StateOk s)

include h

/-- A task that is read pending: none of its type is running. -/
theorem claimOk_of_pending (hnow : c.now ≤ s.clock) (hrow : s.tasks.find? c.id = some row)
    (htype : row.type = c.type) (hpending : row.status = .pending) : ClaimOk s c := by
  refine ⟨⟨hnow, fun id row' hrow' hrunning htype' => ?_⟩, fun row' hrow' hrunning => ?_⟩
  · have hkey := h.key c.id row hrow (by rw [hpending]; rfl)
    have hkey' := h.key id row' hrow' (by rw [hrunning]; rfl)
    rw [htype] at hkey
    rw [htype'] at hkey'
    obtain rfl := h.active c.id id row row' c.type hrow hrow' hkey hkey'
    rw [← some.inj (hrow.symm.trans hrow'), hpending] at hrunning
    cases hrunning
  · rw [← some.inj (hrow.symm.trans hrow'), hpending] at hrunning
    cases hrunning

theorem stepOk_readPending (ht : CallOn s (.readPending c)) (x : Choice) :
    StepOk s (.readPending c) (act s x (.readPending c)) := by
  rw [act]
  split
  · exact stepOk_quit rfl h
  next row hrow =>
    split_ifs with hok
    · exact stepOk_go h ht (claimOk_of_pending h ht.ok hrow hok.2.1 hok.2.2) fun _ hr => hr
    · exact stepOk_quit rfl h

theorem stepOk_createLock (ht : CallOn s (.createLock c)) (x : Choice) :
    StepOk s (.createLock c) (act s x (.createLock c)) := by
  rw [act]
  split_ifs
  · exact stepOk_go h ht ht.ok fun _ hr => hr
  split
  · exact stepOk_go h ht ht.ok fun _ hr => hr
  next locks hcreate =>
    have hlater : Later s { s with locks } none := .of_eq rfl rfl
    exact stepOk_on (h.createLock hcreate) hlater rfl ht
      (ClaimOk.later ht.ok hlater (not_mem_none _)) fun _ hr => hr

theorem stepOk_takeOver {expired : ℕ} (ht : CallOn s (.takeOver c expired)) (x : Choice) :
    StepOk s (.takeOver c expired) (act s x (.takeOver c expired)) := by
  rw [act]
  split
  · exact stepOk_quit rfl h
  split
  · exact stepOk_quit rfl h
  next s' htake =>
    obtain ⟨hclock, htasks, hbusy, -⟩ := takeOver_eq htake
    have hlater : Later s s' none := .of_eq hclock htasks
    have hc : ClaimOk s' c := ClaimOk.later ht.ok hlater (not_mem_none _)
    split_ifs
    · exact stepOk_on (h.takeOver ht.ok htake) hlater hbusy ht hc fun _ hr => hr
    · exact stepOk_on (h.takeOver ht.ok htake) hlater hbusy ht hc fun _ hr => hr

theorem stepOk_markExpired {expired : ℕ} (ht : CallOn s (.markExpired c expired)) (x : Choice) :
    StepOk s (.markExpired c expired) (act s x (.markExpired c expired)) := by
  rw [act]
  split_ifs
  · exact stepOk_go h ht ht.ok fun _ hr => hr
  obtain ⟨hstate, hlater, hbusy, -⟩ := markSystemTaskLeaseExpired_ok h expired
  exact stepOk_on hstate hlater hbusy ht
    (ClaimOk.later ht.ok hlater (not_mem_none _)) fun _ hr => hr

theorem stepOk_markRunning (ht : CallOn s (.markRunning c)) (x : Choice)
    (hlease : x.fails = false → HasLease s c) :
    StepOk s (.markRunning c) (act s x (.markRunning c)) := by
  rw [act]
  split_ifs with hfails
  · exact stepOk_go h ht ht.ok fun _ hr => hr
  split
  · exact stepOk_go h ht ht.ok fun _ hr => hr
  next s' hmark =>
    obtain ⟨hlater, hbusy, hrow⟩ := later_markRunning hmark
    refine stepOk_of (h.markRunning (hlease (eq_false_of_ne_true hfails)) hmark) hlater
      (fun _ hr => hr) (fun _ hr _ => hbusy ▸ hr) fun t hnext => ?_
    obtain rfl := some.inj hnext
    exact ⟨hrow, fun r hr => ⟨hr, hbusy ▸ ht.busy r hr⟩⟩

theorem stepOk_reread (ht : CallOn s (.reread c)) (x : Choice) :
    StepOk s (.reread c) (act s x (.reread c)) := by
  rw [act]
  split_ifs
  · exact stepOk_quit rfl h
  refine stepOk_leave rfl ⟨fun id row hrow hrunning => ?_, h.key, h.active, fun id runner hmem => ?_⟩
    (.of_eq rfl rfl) rfl
  · exact ⟨(h.named id row hrow hrunning).started, (h.named id row hrow hrunning).lock⟩
  · obtain heq | hmem := mem_cons.mp hmem
    · obtain ⟨rfl, -⟩ := Prod.mk.inj heq
      exact ht.ok
    · exact h.claimed id runner hmem

end

/-! ### Runners and the sweeper -/

theorem stepOk_renew (h : StateOk s) (ht : CallOn s (.renew id runner)) (x : Choice) :
    StepOk s (.renew id runner) (act s x (.renew id runner)) := by
  rw [act]
  split_ifs with hclaimed
  · obtain ⟨row, hrow, hpending⟩ := h.claimed id runner hclaimed
    refine stepOk_go h ht ⟨row, hrow, hpending, fun hrunning => ?_⟩ fun _ hr => hr
    have hstarted := (h.named id row hrow hrunning).started
    exact Int.le_trans hstarted (Int.le_add_of_nonneg_right (by decide))
  · exact stepOk_stop h

variable {now : ℤ}

theorem stepOk_finishWrite (h : StateOk s) {succeeded : Bool}
    (ht : CallOn s (.finishWrite id runner succeeded now)) (x : Choice) :
    StepOk s (.finishWrite id runner succeeded now)
      (act s x (.finishWrite id runner succeeded now)) := by
  rw [act]
  split_ifs
  · exact stepOk_stop h
  split
  · exact stepOk_stop h
  next s' hfinish =>
    obtain ⟨row, status, hrow, hrunning, hterminal, rfl⟩ := finishSystemTask_spec hfinish
    obtain ⟨hstate, hlater⟩ := h.endTask hrow hrunning hterminal
    have hid : row.id = id := key_of_find? hrow
    refine stepOk_on hstate hlater rfl ht
      ⟨{ row with status, activeKey := none }, ?_, hterminal⟩ fun _ hr => hr
    rw [← hid]
    exact find?_save_self (rewrites_endTask hrow hrunning hterminal).found

theorem stepOk_sweepMark (h : StateOk s) {locks : List SystemTaskLock}
    (ht : CallOn s (.sweepMark now locks)) (x : Choice) :
    StepOk s (.sweepMark now locks) (act s x (.sweepMark now locks)) := by
  cases locks with
  | nil => exact stepOk_stop h
  | cons lock rest =>
    rw [act]
    split_ifs
    · exact stepOk_stop h
    obtain ⟨hstate, hlater, hbusy, hended⟩ := markSystemTaskLeaseExpired_ok h lock.taskId
    refine stepOk_on hstate hlater hbusy ht
      ⟨Int.le_trans ht.ok hlater.clock, fun id row hrow hrunning hid => ?_⟩ fun _ hr => hr
    have hid : id = lock.taskId := (key_of_find? hrow).symm.trans hid
    exact absurd hrunning (hended row (hid ▸ hrow))

theorem stepOk_sweepDelete (h : StateOk s) {lock : SystemTaskLock} {rest : List SystemTaskLock}
    (ht : CallOn s (.sweepDelete now lock rest)) (x : Choice) :
    StepOk s (.sweepDelete now lock rest) (act s x (.sweepDelete now lock rest)) := by
  rw [act]
  split_ifs
  · exact stepOk_stop h
  have hlater : Later s (deleteStale s lock now) none := .of_eq rfl rfl
  exact stepOk_on (h.deleteStale ht.ok) hlater rfl ht ht.ok.1 fun _ hr => hr

/-! ## Runs -/

/-- A task is marked running only by the runner that still has its lease. -/
def StillLeased (s : LeaseState) : Call → Choice → Prop
  | .markRunning c, x => x.fails = false → HasLease s c
  | _, _ => True

instance (s : LeaseState) (x : Choice) : ∀ call, Decidable (StillLeased s call x)
  | .markRunning c => inferInstanceAs (Decidable (x.fails = false → HasLease s c))
  | .create _ | .claim _ _ _ | .claimNow _ _ _ _ | .readPending _ | .createLock _ | .readLock _
  | .takeOver _ _ | .markExpired _ _ | .releaseClaim _ | .reread _ | .renew _ _ | .renewNow _ _ _
  | .renewWrite _ _ _ _ | .finish _ _ _ | .finishWrite _ _ _ _ | .releaseFinished _ _ | .sweep
  | .sweepRead _ | .sweepMark _ _ | .sweepDelete _ _ _ => inferInstanceAs (Decidable True)

/-- **Every step of a call.** -/
theorem stepOk_act {x : Choice} (hleased : StillLeased s call x) (h : StateOk s)
    (ht : CallOn s call) : StepOk s call (act s x call) := by
  cases call with
  | create type =>
    obtain ⟨hstate, hlater, hbusy⟩ := createTask_ok h type x.id
    rw [act]
    split_ifs
    · exact stepOk_stop h
    · exact stepOk_end hstate hlater fun _ hr _ => hbusy ▸ hr
  | claim id type runner => exact stepOk_claim h x
  | claimNow id type runner lockUntil =>
    exact stepOk_go h ht (Int.le_refl _) fun _ hr => hr
  | readPending c => exact stepOk_readPending h ht x
  | createLock c => exact stepOk_createLock h ht x
  | readLock c =>
    rw [act]
    split
    · exact stepOk_quit rfl h
    split_ifs
    · exact stepOk_quit rfl h
    · exact stepOk_go h ht ht.ok fun _ hr => hr
  | takeOver c expired => exact stepOk_takeOver h ht x
  | markExpired c expired => exact stepOk_markExpired h ht x
  | markRunning c => exact stepOk_markRunning h ht x hleased
  | releaseClaim c =>
    rw [act]
    split_ifs
    · exact stepOk_quit rfl h
    · exact stepOk_leave rfl (h.release ht.ok.other) (.of_eq rfl rfl) rfl
  | reread c => exact stepOk_reread h ht x
  | renew id runner => exact stepOk_renew h ht x
  | renewNow id runner lockUntil => exact stepOk_go h ht ht.ok fun _ hr => hr
  | renewWrite id runner lockUntil now =>
    rw [act]
    split_ifs
    · exact stepOk_stop h
    · exact stepOk_end (h.renew ht.ok) (.of_eq rfl rfl) fun _ hr _ => hr
  | finish id runner succeeded =>
    rw [act]
    split_ifs
    · exact stepOk_go h ht trivial fun _ hr => hr
    · exact stepOk_stop h
  | finishWrite id runner succeeded now => exact stepOk_finishWrite h ht x
  | releaseFinished id runner =>
    rw [act]
    split_ifs
    · exact stepOk_stop h
    refine stepOk_end (h.release fun row hrow hrunning => ?_) (.of_eq rfl rfl) fun _ hr _ => hr
    obtain ⟨row', hrow', hterminal⟩ := ht.ok
    rw [some.inj (hrow'.symm.trans hrow), hrunning] at hterminal
    cases hterminal
  | sweep => exact stepOk_go h ht (Int.le_refl _) fun _ hr => hr
  | sweepRead now =>
    rw [act]
    split_ifs
    · exact stepOk_stop h
    · exact stepOk_go h ht ht.ok fun _ hr => hr
  | sweepMark now locks => exact stepOk_sweepMark h ht x
  | sweepDelete now lock rest => exact stepOk_sweepDelete h ht x

theorem tick_ok (h : StateOk s) (elapsed : ℕ) :
    StateOk { s with clock := s.clock + elapsed } ∧
      ∀ u, CallOn s u → CallOn { s with clock := s.clock + elapsed } u := by
  have hle : s.clock ≤ s.clock + elapsed := Int.le_add_of_nonneg_right (Int.natCast_nonneg elapsed)
  have hlater : Later s { s with clock := s.clock + elapsed } none :=
    ⟨hle, fun _ _ hrow _ => .inl hrow, fun _ row hrow hpending => ⟨row, hrow, hpending, fun h => h⟩⟩
  refine ⟨⟨fun id row hrow hrunning => ?_, h.key, h.active, h.claimed⟩,
    fun u hu => ⟨hu.ok.later hlater fun _ _ => not_mem_none _, hu.busy⟩⟩
  exact ⟨Int.le_trans (h.named id row hrow hrunning).started hle,
    (h.named id row hrow hrunning).lock⟩

/-- The rows after a run that starts without any. -/
def leaseRun (clock : ℤ) (ops : List (CallOp Request Choice ℕ)) : Calls LeaseState Call :=
  Runs.run (Calls.step leases) ⟨{ clock }, []⟩ ops

theorem stateOk_run (clock : ℤ) {ops : List (CallOp Request Choice ℕ)}
    (hleased : Runs.Guarded (step leases) (Calls.Allowed StillLeased) ⟨{ clock }, []⟩ ops) :
    StateOk (leaseRun clock ops).shared := by
  have hempty (id : ℕ) (row : Row) : (∅ : Table Row Row.id).find? id ≠ some row := nofun
  have hinit : Calls.HoldsApart StateOk CallOn Apart ⟨{ clock }, []⟩ :=
    ⟨⟨⟨fun id row hrow => absurd hrow (hempty id row), fun id row hrow => absurd hrow (hempty id row),
      fun id _ row _ _ hrow => absurd hrow (hempty id row),
      fun _ _ h => absurd h not_mem_nil⟩, fun _ h => absurd h not_mem_nil⟩,
      List.Pairwise.nil⟩
  refine (holdsApart_run (fun _ _ => Apart.symm) (fun s request h => ?_)
    (fun s call x hq h ht => ?_) (fun s elapsed h => tick_ok h elapsed) hinit hleased).shared
  · have hnone : request.call.claimer = none := by cases request <;> rfl
    refine ⟨⟨?_, fun r hr => ?_⟩, fun u r _ hr => ?_⟩
    · cases request <;> trivial
    · exact absurd (hnone ▸ hr) (not_mem_none r)
    · exact absurd (hnone ▸ hr) (not_mem_none r)
  · have hstep := stepOk_act hq h ht
    exact ⟨hstep.state, hstep.next, hstep.others⟩

/-! ## Terminal statuses -/

/-- A status that was written is terminal, and was written once. -/
structure FinishedOk (s : LeaseState) : Prop where
  once : s.finished.Nodup
  terminal : ∀ id ∈ s.finished, ∃ row, s.tasks.find? id = some row ∧ row.status.terminal = true

section

variable (h : FinishedOk s)

include h

theorem FinishedOk.of_eq (htasks : s'.tasks = s.tasks) (hfinished : s'.finished = s.finished) :
    FinishedOk s' :=
  ⟨hfinished ▸ h.once, hfinished ▸ htasks ▸ h.terminal⟩

theorem FinishedOk.createTask (type : String) (id : ℕ) : FinishedOk (createTask s type id) := by
  unfold SystemTask.createTask
  split_ifs
  · exact h
  split
  · exact h
  next tasks hcreate =>
    refine ⟨h.once, fun x hx => ?_⟩
    obtain ⟨row, hrow, hterminal⟩ := h.terminal x hx
    exact ⟨row, find?_create_of_some hcreate hrow, hterminal⟩

/-- Writing a row that is not over keeps the statuses that were written. -/
theorem FinishedOk.over_save {row' : Row} (hw : Rewrites s row row') :
    row'.id ∉ s.finished ∧ ∀ x ∈ s.finished, ∃ r, (s.tasks.save row').find? x = some r ∧
      r.status.terminal = true := by
  have hnot : row'.id ∉ s.finished := fun hmem => by
    obtain ⟨r, hr, hterminal⟩ := h.terminal _ hmem
    rw [← some.inj (hw.found.symm.trans hr), hw.open_] at hterminal
    cases hterminal
  refine ⟨hnot, fun x hx => ?_⟩
  obtain ⟨r, hr, hterminal⟩ := h.terminal x hx
  have hne : x ≠ row'.id := fun heq => hnot (heq ▸ hx)
  exact ⟨r, by rw [find?_save_of_ne _ hne, hr], hterminal⟩

theorem FinishedOk.markRunning (hmark : markRunning s c = some s') : FinishedOk s' := by
  obtain ⟨row, row', hw, -, -, -, -, -, -, rfl⟩ := markRunning_spec hmark
  exact ⟨h.once, (h.over_save hw).2⟩

/-- **A task that is ended was running**, so its status had not been written. -/
theorem FinishedOk.endTask {status : SystemTaskStatus} (hrow : s.tasks.find? id = some row)
    (hrunning : row.status = .running) (hterminal : status.terminal = true) :
    FinishedOk (endTask s row status) := by
  have hw := rewrites_endTask hrow hrunning hterminal
  obtain ⟨hnot, hover⟩ := h.over_save hw
  refine ⟨nodup_append.mpr ⟨h.once, nodup_singleton _, fun x hx y hy heq => ?_⟩,
    fun x hx => ?_⟩
  · rw [heq, mem_singleton.mp hy] at hx
    exact hnot hx
  · obtain hx | hx := mem_append.mp hx
    · exact hover x hx
    · rw [mem_singleton.mp hx]
      exact ⟨_, find?_save_self hw.found, hterminal⟩

theorem FinishedOk.markExpired (id : ℕ) : FinishedOk (markSystemTaskLeaseExpired s id) := by
  unfold markSystemTaskLeaseExpired
  split
  · exact h
  next row hrow =>
    split_ifs with hrunning
    · exact h.endTask hrow hrunning rfl
    · exact h

theorem finishedOk_act (x : Choice) (call : Call) : FinishedOk (act s x call).1 := by
  cases call with
  | create type =>
    rw [act]
    split_ifs
    · exact h
    · exact h.createTask type x.id
  | takeOver c expired =>
    rw [act]
    split
    · exact h.of_eq rfl rfl
    split
    · exact h.of_eq rfl rfl
    next s' htake =>
      obtain ⟨-, htasks, -, hfinished⟩ := takeOver_eq htake
      exact h.of_eq htasks hfinished
  | markExpired c expired =>
    rw [act]
    split_ifs
    · exact h
    · exact h.markExpired expired
  | markRunning c =>
    rw [act]
    split_ifs
    · exact h
    split
    · exact h
    next s' hmark => exact h.markRunning hmark
  | finishWrite id runner succeeded now =>
    rw [act]
    split_ifs
    · exact h
    split
    · exact h
    next s' hfinish =>
      obtain ⟨row, status, hrow, hrunning, hterminal, rfl⟩ := finishSystemTask_spec hfinish
      exact h.endTask hrow hrunning hterminal
  | sweepMark now locks =>
    cases locks with
    | nil => exact h
    | cons lock rest =>
      rw [act]
      split_ifs
      · exact h
      · exact h.markExpired lock.taskId
  | claimNow | renewNow | sweep => exact h
  | claim | renew | finish | reread | releaseClaim | renewWrite | releaseFinished | sweepRead
  | sweepDelete =>
    rw [act]
    split_ifs <;> exact h.of_eq rfl rfl
  | readPending c | readLock c =>
    rw [act]
    split
    · exact h.of_eq rfl rfl
    · split_ifs <;> exact h.of_eq rfl rfl
  | createLock c =>
    rw [act]
    split_ifs
    · exact h
    · split <;> exact h.of_eq rfl rfl

end

theorem finishedOk_step (w : Calls LeaseState Call) (op : CallOp Request Choice ℕ)
    (h : FinishedOk w.shared) : FinishedOk (step leases w op).shared := by
  cases op with
  | start request => exact h
  | env elapsed => exact h.of_eq rfl rfl
  | advance k x =>
    rw [step]
    cases w.tasks[k]? with
    | none => exact h
    | some call => exact finishedOk_act h x call

/-! ## The lease -/

/-- `runner` has an unexpired lease for tasks of type `type`. -/
def HoldsLease (s : LeaseState) (type runner : String) : Prop :=
  ∃ lock ∈ s.locks.rows, lock.type = type ∧ lock.lockedBy = runner ∧ s.clock ≤ lock.lockedUntil

theorem HoldsLease.unique {type runner' : String} (h : HoldsLease s type runner)
    (h' : HoldsLease s type runner') : runner = runner' := by
  obtain ⟨lock, hlock, rfl, rfl, -⟩ := h
  obtain ⟨lock', hlock', htype, rfl, -⟩ := h'
  have hfind := find?_of_mem hlock
  have hfind' := find?_of_mem hlock'
  rw [htype, hfind] at hfind'
  rw [some.inj hfind']

/-- **The lease of a task type.**  When a task is marked running only by the runner that still has
its lease, every running task is named by the lock of its type.  In every run, at most one runner
has the lease of a type, and the terminal status of a task is written at most once. -/
theorem lease_named (clock : ℤ) (ops : List (CallOp Request Choice ℕ)) :
    let s := (leaseRun clock ops).shared
    (Runs.Guarded (step leases) (Calls.Allowed StillLeased) ⟨{ clock }, []⟩ ops →
      ∀ row ∈ s.tasks.rows, row.status = .running →
        ∃ lock ∈ s.locks.rows, lock.type = row.type ∧ lock.taskId = row.id) ∧
      (∀ type runner runner', HoldsLease s type runner → HoldsLease s type runner' →
        runner = runner') ∧
      s.finished.Nodup := by
  intro s
  refine ⟨fun hleased row hrow hrunning => ?_, fun _ _ _ => HoldsLease.unique, ?_⟩
  · obtain ⟨-, lock, hlock, htask, -⟩ :=
      (stateOk_run clock hleased).named row.id row (find?_of_mem hrow) hrunning
    exact ⟨lock, mem_of_find? hlock, key_of_find? hlock, htask⟩
  · have hinit : FinishedOk { clock } := ⟨nodup_nil, fun _ h => absurd h not_mem_nil⟩
    exact (Runs.stable finishedOk_step hinit ops).once

/-- A task is created and a runner gets the lock for it. -/
def claimed : List (CallOp Request Choice ℕ) :=
  [.start (.create "t"), .advance 0 { id := 1 }, .start (.claim 1 "t" "a"),
    .advance 0 {}, .advance 0 {}, .advance 0 {}, .advance 0 {}]

/-- **A runner that stalls** until its lock has expired and the sweeper has deleted it marks the task
running all the same: no lock names it, the next sweep does not find it, and the active key of its
type stays taken. -/
theorem running_unnamed :
    let s := (leaseRun 0 (claimed ++ [.env 100, .start .sweep, .advance 1 {}, .advance 1 {},
      .advance 1 {}, .advance 1 {}, .advance 1 {}, .advance 0 {}, .advance 0 {}])).shared
    s.tasks.rows.map (fun row => (row.status, row.activeKey)) = [(.running, some "t")] ∧
      s.locks.rows = [] := by
  decide +kernel

/-- The runner goes on at once. -/
theorem lease_named_running :
    let ops := claimed ++ [.advance 0 {}, .advance 0 {}]
    Runs.Guarded (step leases) (Calls.Allowed StillLeased) ⟨{ clock := 0 }, []⟩ ops ∧
      (leaseRun 0 ops).shared.tasks.rows.map (·.status) = [.running] ∧
      ∀ row ∈ (leaseRun 0 ops).shared.tasks.rows, row.status = .running →
        ∃ lock ∈ (leaseRun 0 ops).shared.locks.rows,
          lock.type = row.type ∧ lock.taskId = row.id := by
  intro ops
  have hleased : Runs.Guarded (step leases) (Calls.Allowed StillLeased)
      ⟨{ clock := 0 }, []⟩ ops := by decide +kernel
  exact ⟨hleased, by decide +kernel, (lease_named 0 ops).1 hleased⟩

/-- **A runner can finish its task** until its lock expires, and then the next task of the type can
be created, while only a runner with the lease marks a task running. -/
theorem runner_can_finish (clock : ℤ) {ops : List (CallOp Request Choice ℕ)}
    (hleased : Runs.Guarded (step leases) (Calls.Allowed StillLeased) ⟨{ clock }, []⟩ ops)
    {row : Row} (hrow : row ∈ (leaseRun clock ops).shared.tasks.rows)
    (hrunning : row.status = .running) :
    let s := (leaseRun clock ops).shared
    ∃ lock ∈ s.locks.rows, lock.type = row.type ∧ ∀ now ≤ lock.lockedUntil, ∀ succeeded, ∃ s',
      finishSystemTask s row.id row.lockedBy succeeded now = some s' ∧
        ∀ id ∉ s'.tasks.rows.map Row.id, (createTask s' row.type id).tasks.rows =
          s'.tasks.rows ++ [{ id, type := row.type, activeKey := some row.type }] := by
  intro s
  have hok : StateOk s := stateOk_run clock hleased
  have hfind := find?_of_mem hrow
  have hkey := hok.key _ _ hfind (by rw [hrunning]; rfl)
  obtain ⟨-, lock, hlock, htask, hby, -⟩ := hok.named _ _ hfind hrunning
  have hmem := mem_of_find? hlock
  refine ⟨lock, hmem, key_of_find? hlock, fun now hnow succeeded =>
    ⟨endTask s row (if succeeded then .succeeded else .failed), ?_, fun id hid => ?_⟩⟩
  · rw [finishSystemTask, hfind]
    exact if_pos ⟨hrunning, rfl, lock, hmem, htask, hby, hnow⟩
  · rw [createTask, if_neg, create, dif_neg hid]
    rw [Bool.not_eq_true, List.any_eq_false]
    intro row' hrow' hkey'
    obtain rfl | ⟨hold, hne⟩ := mem_save hrow'
    · cases of_decide_eq_true hkey'
    · exact hne (hok.active _ _ _ _ _ (find?_of_mem hold) hfind (of_decide_eq_true hkey') hkey)

theorem runner_can_finish_claimed :
    ∃ lock ∈ (leaseRun 0 (claimed ++ [.advance 0 {}])).shared.locks.rows, lock.type = "t" := by
  obtain ⟨lock, hlock, htype, -⟩ := @runner_can_finish 0 (claimed ++ [.advance 0 {}])
    (by decide +kernel) ⟨1, "t", .running, "t", "a", 0⟩ (by decide +kernel) rfl
  exact ⟨lock, hlock, htype⟩

end SystemTask
