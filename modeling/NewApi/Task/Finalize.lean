import NewApi.Task.Life

/-!
# Task/Finalize — a task is billed at most once

An invariant of a task's life (`Task/Life`) and what it says of the system: `Life.Stage` follows the
quota and the money, untouched, moved, recorded, or out of step in one of two ways.

* `task_moves_once` — whatever the workers do, funds move at most once for a task.
* `finished_task_stays` — its status is final.
-/

namespace AsyncTask

open World Runs

open Billing (Reply)

namespace Life

variable {q k : ℤ} {w : World} {c : Label} {l l' : Life}

/-! ## Quota and money -/

/-- Nothing is left to be called. -/
def Closed (l : Life) : Prop := ∀ b quota, l.biller = some (b, quota) → b.next = none

/-- Where a task submitted with quota `q` stands. -/
inductive Stage (q : ℤ) (l : Life) : Prop where
  | untouched (quota : l.row.quota = q) (moves : l.moves = []) (off : l.writtenOff = 0)
      (unrecorded : l.unrecorded = 0) (biller : ∀ b seen, l.biller = some (b, seen) →
        seen = q ∧ (b.next = none ∨ ∃ target, b.next = some (.funding target)))
  | moved {b : Bill} {target : ℤ} (ended : l.row.isTerminal = true) (quota : l.row.quota = q)
      (moves : l.moves = [target - q]) (off : l.writtenOff = 0) (unrecorded : l.unrecorded = 0)
      (biller : l.biller = some (b, q))
      (next : (∃ delta, b.next = some (.token delta target)) ∨ b.next = some (.store target))
  | recorded (ended : l.row.isTerminal = true) (moves : l.moves = [l.row.quota - q])
      (off : l.writtenOff = 0) (unrecorded : l.unrecorded = 0) (closed : l.Closed)
  /-- The last call failed. -/
  | lost (ended : l.row.isTerminal = true) (quota : l.row.quota = q)
      (moves : l.moves = [l.unrecorded]) (off : l.writtenOff = 0) (closed : l.Closed)
  /-- A legacy task timed out. -/
  | cleared (ended : l.row.isTerminal = true) (quota : l.row.quota = 0)
      (legacy : l.row.isLegacy = true) (moves : l.moves = []) (off : l.writtenOff = q)
      (unrecorded : l.unrecorded = 0) (biller : l.biller = none)

namespace Stage

section

variable (h : l.Stage q)

include h

theorem moves_length : l.moves.length ≤ 1 := by
  cases h with
  | untouched _ hm | moved _ _ hm | recorded _ hm | lost _ _ hm | cleared _ _ _ hm => simp [hm]

/-- **The account of a task nobody is billing.** -/
theorem account (hb : l.biller = none) :
    l.moves.sum = l.row.quota - q + l.writtenOff + l.unrecorded := by
  cases h with
  | untouched hq hm ho hu | lost _ hq hm ho hu | cleared _ hq _ hm ho hu => simp [hq, hm, ho, hu]
  | recorded _ hm ho hu => simp [hm, ho, hu]
  | moved _ _ _ _ _ hb' => simp [hb] at hb'

theorem legacy_of_writtenOff (hoff : l.writtenOff ≠ 0) : l.row.isLegacy = true ∧ l.moves = [] := by
  cases h with
  | untouched _ _ ho | moved _ _ _ ho | recorded _ _ ho | lost _ _ _ ho => exact absurd ho hoff
  | cleared _ _ hl hm => exact ⟨hl, hm⟩

theorem moves_of_unrecorded (hun : l.unrecorded ≠ 0) : l.moves = [l.unrecorded] := by
  cases h with
  | untouched _ _ _ hu | moved _ _ _ _ hu | recorded _ _ _ hu | cleared _ _ _ _ _ hu =>
    exact absurd hu hun
  | lost _ _ hm => exact hm

theorem of_unfinished (ht : l.row.isTerminal = false) :
    l.row.quota = q ∧ l.moves = [] ∧ l.writtenOff = 0 ∧ l.unrecorded = 0 ∧
      ∀ b seen, l.biller = some (b, seen) →
        seen = q ∧ (b.next = none ∨ ∃ target, b.next = some (.funding target)) := by
  cases h with
  | untouched hq hm ho hu hb => exact ⟨hq, hm, ho, hu, hb⟩
  | moved he | recorded he | lost he | cleared he => simp [ht] at he

theorem finish (ht : l.row.isTerminal = false) {p : Plan} (hp : p.copy.isTerminal = true)
    (hs : p.Sound l.row) : (l.finish p).Stage q := by
  obtain ⟨hq, hm, ho, hu, -⟩ := h.of_unfinished ht
  have hquota : p.copy.quota = q - p.writeOff := hq ▸ hs.quota
  rcases (hs.finished hp).2 with ⟨hfin, -, hzero⟩ | ⟨bill, hfin, hstart, hoff⟩
  · have hb : (l.finish p).biller = none := by simp [Life.finish, hfin, Finish.bill]
    by_cases hoff : p.writeOff = 0
    · refine .untouched ?_ hm (by simp [Life.finish, ho, hoff]) hu fun b seen hb' => ?_
      · rw [hoff, sub_zero] at hquota
        exact hquota
      · rw [hb] at hb'
        cases hb'
    · refine .cleared hp hzero (hs.legacy hoff) hm ?_ hu hb
      simp only [Life.finish, ho]
      omega
  · rw [hoff, sub_zero] at hquota
    refine .untouched hquota hm (by simp [Life.finish, ho, hoff]) hu fun b seen hb => ?_
    simp only [Life.finish, hfin, Finish.bill, if_true, Option.map_some, Option.some.injEq,
      Prod.mk.injEq] at hb
    obtain ⟨rfl, rfl⟩ := hb
    exact ⟨hquota, hstart.next⟩

end

variable {seen : ℤ} {b : Bill}

/-- A billing with nothing left to call ends without a trace here. -/
theorem bill_closed (h : l.Stage q) (hb : l.biller = some (b, seen)) (hnext : b.next = none)
    (reply : Reply) : (l.bill b seen reply).Stage q := by
  have hnone : (l.bill b seen reply).biller = none := by simp [Life.bill, hnext]
  have hclosed : (l.bill b seen reply).Closed := by
    intro b' quota hb'
    rw [hnone] at hb'
    cases hb'
  simp only [Life.bill, hnext] at hclosed hnone ⊢
  cases h with
  | untouched hq hm ho hu => exact .untouched hq hm ho hu fun b' seen' hb' => by cases hb'
  | moved _ _ _ _ _ hb' hn =>
    rw [hb'] at hb
    cases hb
    simp [hnext] at hn
  | recorded he hm ho hu => exact .recorded he hm ho hu hclosed
  | lost he hq hm ho => exact .lost he hq hm ho hclosed
  | cleared _ _ _ _ _ _ hb' => simp [hb'] at hb

theorem closed_next {quota : ℤ} (hb : l.biller = some ({ b with next := none }, quota)) :
    l.Closed := by
  intro b' quota' hb'
  rw [hb] at hb'
  cases hb'
  rfl

theorem bill (h : l.Stage q) (ht : l.row.isTerminal = true) (hb : l.biller = some (b, seen))
    (reply : Reply) : (l.bill b seen reply).Stage q := by
  by_cases hnext : b.next = none
  · exact h.bill_closed hb hnext reply
  cases h with
  | untouched hq hm ho hu hbill =>
    obtain ⟨rfl, hn⟩ := hbill b seen hb
    obtain ⟨target, hn⟩ := hn.resolve_left hnext
    simp only [Life.bill, hn]
    split
    · exact .moved ht hq (by simp [hm]) ho hu rfl (.inl ⟨_, rfl⟩)
    · refine .untouched hq hm ho hu fun b' seen' hb' => ?_
      cases hb'
      exact ⟨rfl, .inl rfl⟩
  | @moved b' target he hq hm ho hu hb' hn =>
    rw [hb'] at hb
    cases hb
    rcases hn with ⟨delta, hn⟩ | hn
    · simp only [Life.bill, hn]
      exact .moved he hq hm ho hu rfl (.inr rfl)
    · simp only [Life.bill, hn]
      split
      · exact .recorded he hm ho hu (closed_next rfl)
      · exact .lost he hq (by simp [hm, hu]) ho (closed_next rfl)
  | recorded _ _ _ _ hcl => exact absurd (hcl b seen hb) hnext
  | lost _ _ _ _ hcl => exact absurd (hcl b seen hb) hnext
  | cleared _ _ _ _ _ _ hb' => simp [hb'] at hb

theorem bulk (h : l.Stage q) (failReason : Option String) :
    { l with row := l.row.bulkFailed failReason }.Stage q := by
  cases h with
  | untouched hq hm ho hu hb => exact .untouched hq hm ho hu hb
  | moved _ hq hm ho hu hb hn => exact .moved rfl hq hm ho hu hb hn
  | recorded _ hm ho hu hc => exact .recorded rfl hm ho hu hc
  | lost _ hq hm ho hc => exact .lost rfl hq hm ho hc
  | cleared _ hq hl hm ho hu hb => exact .cleared rfl hq hl hm ho hu hb

/-- **Every step of a task's life leaves it at some stage.** -/
theorem step (h : l.Stage q) (hs : Step k w c l l') : l'.Stage q := by
  cases hs with
  | idle => exact h
  | rewrite old new quota =>
    obtain ⟨hq, hm, ho, hu, hb⟩ := h.of_unfinished old
    exact .untouched (quota.trans hq) hm ho hu hb
  | finish old new sound => exact h.finish old new sound
  | bill _ _ _ ended biller => exact h.bill ended biller _
  | bulk => exact h.bulk _

end Stage

/-- Only a failed call leaves something unrecorded. -/
theorem Step.unrecorded_eq (hs : Step k w c l l') (hok : ∀ i reply, c = .bill i reply → reply = .ok) :
    l'.unrecorded = l.unrecorded := by
  cases hs with
  | idle | rewrite | finish | bulk => rfl
  | @bill i wk b quota reply hc =>
    rw [hok i reply hc]
    rcases hnext : b.next with _ | ⟨target⟩ | ⟨delta, target⟩ | ⟨target⟩ <;> simp [Life.bill, hnext]

end Life

/-! ## At most one move -/

variable {t : Task} {cs : List Label} {k : ℤ} {rows : Rows}

section

variable (hfind : rows.find? k = some t)
  (hg : Runs.Guarded World.step (fun w c => c.Fresh w) (World.start rows) cs)

include hfind hg

theorem exists_follows_stage :
    ∃ l, Follows k (run step (start rows) cs) l ∧ l.Stage t.quota := by
  refine invariant (I := fun w => ∃ l, Follows k w l ∧ l.Stage t.quota) ?_ ?_ hg
  · rintro w c ⟨l, hl, hstage⟩ hc
    obtain ⟨l', hs, hl'⟩ := hl.step hc
    exact ⟨l', hl', hstage.step hs⟩
  · exact ⟨_, .start hfind, .untouched rfl rfl rfl rfl fun _ _ hb => by cases hb⟩

theorem unrecorded_eq_zero (hok : ∀ i reply, Label.bill i reply ∈ cs → reply = .ok) :
    (run step (start rows) cs).unrecorded k = 0 := by
  have hg' := hg.and_of_forall_mem (P := fun c => ∀ i reply, c = .bill i reply → reply = .ok)
    fun c hc i reply heq => hok i reply (heq ▸ hc)
  have hinv : ∃ l, Follows k (run step (start rows) cs) l ∧ l.unrecorded = 0 := by
    refine invariant (I := fun w => ∃ l, Follows k w l ∧ l.unrecorded = 0) ?_ ?_ hg'
    · rintro w c ⟨l, hl, hzero⟩ hc
      obtain ⟨l', hs, hl'⟩ := hl.step hc.1
      exact ⟨l', hl', (hs.unrecorded_eq hc.2).trans hzero⟩
    · exact ⟨_, .start hfind, rfl⟩
  obtain ⟨l, hl, hzero⟩ := hinv
  exact hl.unrecorded.trans hzero

end

/-- **Funds move at most once for a task**, whoever works on whatever copies of it.  When nobody is
billing it, what was moved is the change of its quota, plus quota that the timeout of a legacy task
cleared, plus a move that could not be recorded because a call failed. -/
theorem task_moves_once {rows : Rows} {k : ℤ} {t : Task} (hfind : rows.find? k = some t)
    {cs : List Label} (hg : Runs.Guarded World.step (fun w c => c.Fresh w) (World.start rows) cs)
    {w : World} (hw : Runs.run World.step (World.start rows) cs = w) :
    (w.movesOf k).length ≤ 1 ∧ ∃ row, w.rows.find? k = some row ∧
      (w.Idle k →
        (w.movesOf k).sum = row.quota - t.quota + w.writtenOff k + w.unrecorded k) ∧
      (w.writtenOff k ≠ 0 → row.isLegacy = true ∧ w.movesOf k = []) ∧
      (w.unrecorded k ≠ 0 → w.movesOf k = [w.unrecorded k]) ∧
      ((∀ i reply, Label.bill i reply ∈ cs → reply = .ok) → w.unrecorded k = 0) := by
  obtain ⟨l, hl, hstage⟩ := exists_follows_stage hfind hg
  have hzero := unrecorded_eq_zero hfind hg
  rw [hw] at hl hzero
  rw [hl.moves, hl.writtenOff, hl.unrecorded] at *
  exact ⟨hstage.moves_length, l.row, hl.found, fun hidle => hstage.account (hl.billing_done hidle),
    hstage.legacy_of_writtenOff, hstage.moves_of_unrecorded, hzero⟩

/-- A table with one task. -/
def tableOf (t : Task) : Rows := ⟨[t], List.nodup_singleton _⟩

/-- Two pollers read the task, both learn that the upstream does not know it, and one refunds. -/
def racedRefund : List Label :=
  [.load 0 .poller 1, .load 1 .poller 1, .poll 0 {} (.answer 404 "" none (.error "")) {},
    .poll 1 {} (.answer 404 "" none (.error "")) {}, .bill 0 .ok, .bill 1 .ok, .bill 0 .ok, .bill 0 .ok,
    .bill 0 .ok]

theorem task_moves_once_raced :
    ((Runs.run World.step (World.start (tableOf { id := 1, quota := 500 })) racedRefund).movesOf
      1).length ≤ 1 ∧
    (run step (start (tableOf { id := 1, quota := 500 })) racedRefund).movesOf 1
      = [-500] :=
  ⟨(task_moves_once (t := { id := 1, quota := 500 }) rfl (by decide) rfl).1, by decide⟩

/-- A legacy task times out. -/
def legacyTimeout : World :=
  Runs.run World.step (World.start (tableOf { id := 1, quota := 500, submitTime := 1700000000 }))
    [.load 0 (.sweeper 1800000000) 1, .sweep 0 {} {}]

/-- A task is refunded, and the write of its quota fails. -/
def unrecordedRefund : World :=
  Runs.run World.step (World.start (tableOf { id := 1, quota := 500 }))
    [.load 0 .poller 1, .poll 0 {} (.answer 404 "" none (.error "")) {}, .bill 0 .ok, .bill 0 .ok,
      .bill 0 .err, .bill 0 .ok]

/-- The two ways in which quota and funds part: 500 of quota are cleared and nothing is moved; 500
are moved and the quota stays. -/
theorem quota_and_moves_part :
    (legacyTimeout.Idle 1 ∧ legacyTimeout.movesOf 1 = [] ∧
      (legacyTimeout.rows.find? 1).map Task.quota = some 0) ∧
    (unrecordedRefund.Idle 1 ∧ unrecordedRefund.movesOf 1 = [-500] ∧
      (unrecordedRefund.rows.find? 1).map Task.quota = some 500) :=
  ⟨⟨idle_of_alone (i := 0) (by decide) (by decide) 1, by decide⟩,
    ⟨idle_of_alone (i := 0) (by decide) (by decide) 1, by decide⟩⟩

theorem Life.Step.status_eq {w : World} {c : Label} {l l' : Life} (h : Life.Step k w c l l')
    (hended : l.row.isTerminal = true) (hbulk : ∀ ids reason, c = .bulk ids reason → k ∉ ids) :
    l'.row.status = l.row.status := by
  cases h with
  | idle => rfl
  | rewrite old => simp [hended] at old
  | finish old => simp [hended] at old
  | bill =>
    unfold Life.bill
    split
    · rfl
    · split_ifs <;> rfl
    · rfl
    · split_ifs <;> rfl
  | bulk label mem => exact absurd mem (hbulk _ _ label)

/-- **A finished task keeps its status**, whatever copies of it are still at work, unless a bulk
update names it. -/
theorem finished_task_stays (hfind : rows.find? k = some t)
    (hcs : Guarded step (fun w c => c.Fresh w) (start rows) cs) {row : Task}
    (hrow : (run step (start rows) cs).rows.find? k = some row) (hended : row.isTerminal = true)
    {ds : List Label} (hds : Guarded step (fun w c => c.Fresh w) (run step (start rows) cs) ds)
    (hbulk : ∀ ids reason, Label.bulk ids reason ∈ ds → k ∉ ids) :
    ∃ row', (run step (start rows) (cs ++ ds)).rows.find? k = some row' ∧
      row'.status = row.status := by
  obtain ⟨l, hl, -⟩ := exists_follows_stage hfind hcs
  obtain rfl : l.row = row := Option.some.inj (hl.found.symm.trans hrow)
  have hds' := hds.and_of_forall_mem (P := fun c => ∀ ids reason, c = .bulk ids reason → k ∉ ids)
    fun c hc ids reason heq => hbulk ids reason (heq ▸ hc)
  -- A stale copy may still be written, but only over an unfinished row.
  obtain ⟨m, hm, hstatus⟩ : ∃ m, Follows k (run step (run step (start rows) cs) ds) m ∧
      m.row.status = l.row.status := by
    refine invariant (I := fun w => ∃ m, Follows k w m ∧ m.row.status = l.row.status) ?_
      ⟨l, hl, rfl⟩ hds'
    rintro w c ⟨m, hm, hstatus⟩ hc
    obtain ⟨m', hs, hm'⟩ := hm.step hc.1
    exact ⟨m', hm', (hs.status_eq (by rwa [Task.isTerminal, hstatus]) hc.2).trans hstatus⟩
  rw [run_append]
  exact ⟨m.row, hm.found, hstatus⟩

theorem finished_task_stays_raced :
    ∃ row', (run step (start (tableOf { id := 1, quota := 500 })) racedRefund).rows.find? 1 =
      some row' ∧ row'.status = .failure :=
  @finished_task_stays { id := 1, quota := 500 } (racedRefund.take 3) 1
    (tableOf { id := 1, quota := 500 }) rfl (by decide) _ rfl rfl (racedRefund.drop 3) (by decide)
    (by simp [racedRefund])

end AsyncTask
