import NewApi.Task.Finalize

/-!
# Task/Obligations — no finished task is left unbilled

A task that ends owes something: a success its completion settlement, a failure its refund.
`Life.Paid` says that the debt is paid or that the worker who owes it is at it.  The bulk cleanups
and a realtime fetch that ends a task take on the debt and never pay it.

* `finished_tasks_billed` — as long as neither ends a task that still has quota, and the calls of a
  refund succeed, every finished task nobody is working on has been billed.
-/

namespace AsyncTask

open World

open Billing (Reply)

/-- The billing is a refund under way. -/
def Bill.Refunds (b : Bill) : Prop :=
  b.next = some (.funding 0) ∨ (∃ delta, b.next = some (.token delta 0)) ∨ b.next = some (.store 0)

namespace Life

variable {k : ℤ} {w : World} {c : Label} {l l' : Life}

/-- A failure for which nothing is owed. -/
def Cleared (l : Life) : Prop :=
  l.row.isLegacy = true ∨ l.usageSettled = true ∨ l.row.quota = 0

/-- The billing worker settles by usage. -/
def UsageUnderWay (l : Life) : Prop := ∃ b quota, l.biller = some (b, quota) ∧ b.usage = true

/-- A finished task is billed, or its biller is on the way. -/
structure Paid (l : Life) : Prop where
  success : l.row.status = .success →
    l.completed = true ∨ ∃ b quota, l.biller = some (b, quota) ∧ b.completes = true
  failure : l.row.status = .failure → l.Cleared ∨ l.UsageUnderWay ∨
    ∃ b quota, l.biller = some (b, quota) ∧ b.Refunds
  /-- Whatever a billing changes, it refunds or settles by usage. -/
  purpose : ∀ b quota, l.biller = some (b, quota) → b.usage = true ∨ b.next = none ∨ b.Refunds
  recorded : l.unrecorded = 0 ∨ l.usageSettled = true ∨ l.UsageUnderWay

namespace Paid

/-- An unfinished task owes nothing yet. -/
theorem of_unfinished (ht : l.row.isTerminal = false)
    (hp : ∀ b quota, l.biller = some (b, quota) → b.usage = true ∨ b.next = none ∨ b.Refunds)
    (hr : l.unrecorded = 0 ∨ l.usageSettled = true ∨ l.UsageUnderWay) : l.Paid where
  success hs := by simp [Task.isTerminal, hs] at ht
  failure hs := by simp [Task.isTerminal, hs] at ht
  purpose := hp
  recorded := hr

/-- A worker that ends a task and is to bill it takes the debt on. -/
theorem finish_bill {p : Plan} {bill : Bill} (hfin : p.finish = .ifWon bill)
    (hstart : bill.Starts p.copy) (hp : p.copy.isTerminal = true)
    (hr : l.unrecorded = 0 ∨ l.usageSettled = true) : (l.finish p).Paid := by
  have hb : (l.finish p).biller = some (bill, p.copy.quota) := by
    simp [Life.finish, hfin, Finish.bill]
  refine ⟨fun hs => .inr ⟨bill, _, hb, hstart.completes hs⟩, fun hs => ?_, fun b quota hb' => ?_,
    hr.imp id .inl⟩
  · rcases hstart.refunds hs with hu | ⟨-, hq⟩ | hn
    · exact .inr (.inl ⟨bill, _, hb, hu⟩)
    · exact .inl (.inr (.inr hq))
    · exact .inr (.inr ⟨bill, _, hb, .inl hn⟩)
  · rw [hb] at hb'
    cases hb'
    rcases TaskStatus.isTerminal_iff.mp hp with hs | hs
    · exact (hstart.keeps hs).imp id .inl
    · exact (hstart.refunds hs).imp id (Or.imp And.left .inl)

theorem finish {p : Plan} (hp : p.copy.isTerminal = true) (hs : p.Sound l.row)
    (hr : l.unrecorded = 0 ∨ l.usageSettled = true) : (l.finish p).Paid := by
  rcases (hs.finished hp).2 with ⟨hfin, hfail, hzero⟩ | ⟨bill, hfin, hstart, -⟩
  · have hb : (l.finish p).biller = none := by simp [Life.finish, hfin, Finish.bill]
    refine ⟨fun hs => ?_, fun _ => .inl (.inr (.inr hzero)), fun b quota hb' => ?_, hr.imp id .inl⟩
    · rw [show (l.finish p).row.status = .failure from hfail] at hs
      cases hs
    · rw [hb] at hb'
      cases hb'
  · exact finish_bill hfin hstart hp hr

variable {b : Bill} {seen : ℤ}

/-- A billing with calls left keeps its purpose, and the row its status. -/
theorem bill_frame (l : Life) (seen : ℤ) (reply : Reply) (hnext : b.next ≠ none) :
    (∃ b' seen', (l.bill b seen reply).biller = some (b', seen') ∧ b'.completes = b.completes ∧
        b'.usage = b.usage) ∧
      (l.bill b seen reply).row.status = l.row.status ∧
      (l.bill b seen reply).completed = l.completed := by
  rcases hn : b.next with _ | ⟨target⟩ | ⟨delta, target⟩ | ⟨target⟩
  · exact absurd hn hnext
  all_goals rw [Life.bill, hn]
  · dsimp only
    split <;> exact ⟨⟨_, _, rfl, rfl, rfl⟩, rfl, rfl⟩
  · exact ⟨⟨_, _, rfl, rfl, rfl⟩, rfl, rfl⟩
  · dsimp only
    split <;> exact ⟨⟨_, _, rfl, rfl, rfl⟩, rfl, rfl⟩

section

variable (h : l.Paid) (hb : l.biller = some (b, seen))

include h hb

variable (reply : Reply)

theorem bill_success (hnext : b.next ≠ none) (hs : (l.bill b seen reply).row.status = .success) :
    (l.bill b seen reply).completed = true ∨
      ∃ b' seen', (l.bill b seen reply).biller = some (b', seen') ∧ b'.completes = true := by
  obtain ⟨⟨b', seen', hb', hc, -⟩, hstatus, hcompleted⟩ := bill_frame l seen reply hnext
  rcases h.success (hstatus ▸ hs) with hdone | ⟨b₀, seen₀, hb₀, hc₀⟩
  · exact .inl (hcompleted.trans hdone)
  · rw [hb] at hb₀
    cases hb₀
    exact .inr ⟨b', seen', hb', hc.trans hc₀⟩

theorem bill_usage (hnext : b.next ≠ none) (hu : b.usage = true) : (l.bill b seen reply).Paid := by
  obtain ⟨⟨b', seen', hb', -, hu'⟩, -⟩ := bill_frame l seen reply hnext
  have hway : (l.bill b seen reply).UsageUnderWay := ⟨b', seen', hb', hu'.trans hu⟩
  refine ⟨h.bill_success hb reply hnext, fun _ => .inr (.inl hway), fun b₀ seen₀ hb₀ => .inl ?_,
    .inr (.inr hway)⟩
  rw [hb'] at hb₀
  cases hb₀
  exact hu'.trans hu

/-- The calls of a refund, all of which succeed. -/
theorem bill_refund (hnext : b.next ≠ none) (hrefund : b.Refunds)
    (hun : l.unrecorded = 0 ∨ l.usageSettled = true) : (l.bill b seen .ok).Paid := by
  refine ⟨h.bill_success hb .ok hnext, fun _ => ?_, fun b₀ seen₀ hb₀ => .inr ?_, ?_⟩ <;>
    rcases hrefund with hn | ⟨delta, hn⟩ | hn <;> simp only [Life.bill, hn, if_true] at *
  · exact .inr (.inr ⟨_, _, rfl, .inr (.inl ⟨_, rfl⟩)⟩)
  · exact .inr (.inr ⟨_, _, rfl, .inr (.inr rfl)⟩)
  · exact .inl (.inr (.inr rfl))
  · cases hb₀
    exact .inr (.inr (.inl ⟨_, rfl⟩))
  · cases hb₀
    exact .inr (.inr (.inr rfl))
  · cases hb₀
    exact .inl rfl
  · exact hun.imp id .inl
  · exact hun.imp id .inl
  · exact hun.imp id .inl

theorem bill_done (hnext : b.next = none) : (l.bill b seen reply).Paid := by
  have huse : l.UsageUnderWay → b.usage = true := by
    rintro ⟨b', seen', hb', hu⟩
    rw [hb] at hb'
    cases hb'
    exact hu
  simp only [Life.bill, hnext]
  refine ⟨fun hs => .inl ?_, fun hs => .inl ?_, fun _ _ hb' => (by cases hb'), ?_⟩
  · rcases h.success hs with hdone | ⟨b', seen', hb', hc⟩
    · simp [hdone]
    · rw [hb] at hb'
      cases hb'
      simp [hc]
  · rcases h.failure hs with (hl | hu | hq) | hway | ⟨b', seen', hb', hrefund⟩
    · exact .inl hl
    · exact .inr (.inl (by simp [hu]))
    · exact .inr (.inr hq)
    · exact .inr (.inl (by simp [huse hway]))
    · rw [hb] at hb'
      cases hb'
      simp [Bill.Refunds, hnext] at hrefund
  · rcases h.recorded with hz | hu | hway
    · exact .inl hz
    · exact .inr (.inl (by simp [hu]))
    · exact .inr (.inl (by simp [huse hway]))

theorem bill {reply : Reply} (hok : b.usage = true ∨ reply = .ok) :
    (l.bill b seen reply).Paid := by
  by_cases hnext : b.next = none
  · exact h.bill_done hb reply hnext
  by_cases hu : b.usage = true
  · exact h.bill_usage hb reply hnext hu
  obtain rfl := hok.resolve_left hu
  have hrefund := ((h.purpose b seen hb).resolve_left hu).resolve_left hnext
  refine h.bill_refund hb hnext hrefund (h.recorded.imp id fun hr => hr.resolve_right ?_)
  rintro ⟨b', seen', hb', hu'⟩
  rw [hb] at hb'
  cases hb'
  exact hu hu'

end

/-- A cleanup is harmless on a task that has failed already, or for which nothing is owed. -/
theorem bulk (h : l.Paid) (failReason : Option String)
    (hrow : l.row.status = .failure ∨ l.row.quota = 0 ∨ l.row.isLegacy = true) :
    { l with row := l.row.bulkFailed failReason }.Paid := by
  refine ⟨fun hs => (by cases hs), fun _ => ?_, h.purpose, h.recorded⟩
  rcases hrow with hf | hq | hl
  · exact h.failure hf
  · exact .inl (.inr (.inr hq))
  · exact .inl (.inl hl)

end Paid

end Life

/-! ## The labels under which debts are paid -/

/-- Every call of a refund succeeds, and the cleanups only meet tasks that have failed already, or
for which nothing is owed. -/
def Label.Paying (w : World) : Label → Prop
  | .bill i reply => ∀ wk ∈ w.workers i, ∀ b ∈ wk.bill, b.usage = true ∨ reply = .ok
  | .bulk ids _ => ∀ id ∈ ids, ∀ row ∈ w.rows.find? id,
      row.status = .failure ∨ row.quota = 0 ∨ row.isLegacy = true
  | _ => True

instance (w : World) : (c : Label) → Decidable (c.Paying w)
  | .bill i reply => inferInstanceAs
      (Decidable (∀ wk ∈ w.workers i, ∀ b ∈ wk.bill, b.usage = true ∨ reply = .ok))
  | .bulk ids _ => inferInstanceAs (Decidable (∀ id ∈ ids, ∀ row ∈ w.rows.find? id,
      row.status = .failure ∨ row.quota = 0 ∨ row.isLegacy = true))
  | .load _ _ _ | .poll _ _ _ _ | .pollBatch _ _ _ _ | .sweep _ _ _ | .realtime _ _ _ _
  | .submit _ _ _ => inferInstanceAs (Decidable True)

/-- **Every step of a task's life leaves its debts paid or in hand.** -/
theorem Life.Paid.step {k : ℤ} {w : World} {c : Label} {l l' : Life} (h : l.Paid)
    (hf : w.rows.find? k = some l.row) (hc : c.Paying w) (hs : Life.Step k w c l l') : l'.Paid := by
  cases hs with
  | idle => exact h
  | rewrite old new => exact .of_unfinished new h.purpose h.recorded
  | finish old new sound unbilled =>
    refine .finish new sound (h.recorded.imp id fun hr => hr.resolve_right ?_)
    rintro ⟨b, quota, hb, -⟩
    rw [unbilled] at hb
    cases hb
  | @bill i wk b quota reply label worker bill ended biller =>
    subst label
    exact h.bill biller (hc wk worker b bill)
  | bulk label mem =>
    subst label
    exact h.bulk _ (hc k mem l.row hf)

/-- Every run of paying steps leads the task through a paid life. -/
theorem exists_follows_paid {rows : Rows} {k : ℤ} {t : Task} (hfind : rows.find? k = some t)
    (ht : t.isTerminal = false) {cs : List Label}
    (hg : Runs.Guarded step (fun w c => c.Fresh w ∧ c.Paying w) (start rows) cs) :
    ∃ l, Follows k (Runs.run step (start rows) cs) l ∧ l.Stage t.quota ∧ l.Paid := by
  refine Runs.invariant (I := fun w => ∃ l, Follows k w l ∧ l.Stage t.quota ∧ l.Paid) ?_ ?_ hg
  · rintro w c ⟨l, hl, hstage, hpaid⟩ ⟨hfresh, hpay⟩
    obtain ⟨l', hs, hl'⟩ := hl.step hfresh
    exact ⟨l', hl', hstage.step hs, hpaid.step hl.found hpay hs⟩
  · exact ⟨_, .start hfind, .untouched rfl rfl rfl rfl fun _ _ hb => (by cases hb),
      .of_unfinished ht (fun _ _ hb => by cases hb) (.inl rfl)⟩

namespace Life.Paid

variable {l : Life} (h : l.Paid) (hnone : l.biller = none)

include h hnone

/-- Nobody is billing it: a failed task that owes a refund has had it, and on record. -/
theorem refunded (hf : l.row.status = .failure) (hleg : l.row.isLegacy = false)
    (husage : l.usageSettled = false) : l.row.quota = 0 ∧ l.unrecorded = 0 := by
  have hway : ¬l.UsageUnderWay := by
    rintro ⟨b, quota, hb, -⟩
    rw [hnone] at hb
    cases hb
  refine ⟨?_, by simpa [husage, hway] using h.recorded⟩
  rcases h.failure hf with (hl | hu | hq) | hu | ⟨b, quota, hb, -⟩
  · simp [hleg] at hl
  · simp [husage] at hu
  · exact hq
  · exact absurd hu hway
  · simp [hnone] at hb

theorem completed_of_success (hs : l.row.status = .success) : l.completed = true := by
  rcases h.success hs with hdone | ⟨b, quota, hb, -⟩
  · exact hdone
  · simp [hnone] at hb

end Life.Paid

/-- **No finished task is left unbilled**: when nobody is billing it, a failed task that is neither
legacy nor settled by usage has been given back all of its quota, and a successful one has had its
completion settlement. -/
theorem finished_tasks_billed {rows : Rows} {k : ℤ} {t : Task} (hfind : rows.find? k = some t)
    (ht : t.isTerminal = false) {cs : List Label}
    (hg : Runs.Guarded World.step (fun w c => c.Fresh w ∧ c.Paying w) (World.start rows) cs)
    {w : World} (hw : Runs.run World.step (World.start rows) cs = w) (hidle : w.Idle k) :
    ∃ row, w.rows.find? k = some row ∧
      (row.status = .failure → row.isLegacy = false → w.usageSettled k = false →
        row.quota = 0 ∧ (w.movesOf k).sum = -t.quota) ∧
      (row.status = .success → w.completed k = true) := by
  obtain ⟨l, hl, hstage, hpaid⟩ := exists_follows_paid hfind ht hg
  rw [hw] at hl
  have hnone := hl.billing_done hidle
  refine ⟨l.row, hl.found, fun hf hleg husage => ?_, fun hs => ?_⟩
  · rw [hl.usageSettled] at husage
    obtain ⟨hzero, hun⟩ := hpaid.refunded hnone hf hleg husage
    have hoff : l.writtenOff = 0 := by
      by_contra hne
      simp [(hstage.legacy_of_writtenOff hne).1] at hleg
    refine ⟨hzero, ?_⟩
    rw [hl.moves, hstage.account hnone, hzero, hoff, hun]
    omega
  · rw [hl.completed]
    exact hpaid.completed_of_success hnone hs

/-- The upstream does not know the task; its poller refunds it. -/
def refundedTask : World :=
  Runs.run World.step (World.start (tableOf { id := 1, quota := 500, submitTime := 1800000000 }))
    [.load 0 .poller 1, .poll 0 {} (.answer 404 "" none (.error "")) {}, .bill 0 .ok, .bill 0 .ok,
      .bill 0 .ok, .bill 0 .ok]

theorem finished_tasks_billed_lost :
    ∃ row, refundedTask.rows.find? 1 = some row ∧
      (row.status = .failure → row.isLegacy = false → refundedTask.usageSettled 1 = false →
        row.quota = 0 ∧ (refundedTask.movesOf 1).sum = -500) ∧
      (row.status = .success → refundedTask.completed 1 = true) :=
  finished_tasks_billed (t := { id := 1, quota := 500, submitTime := 1800000000 }) rfl rfl
    (by decide) rfl (idle_of_alone (i := 0) (by decide) (by decide) 1)

/-- A task without an upstream id is cleaned up. -/
def cleanedUpTask : World :=
  Runs.run World.step (World.start (tableOf { id := 1, quota := 500, submitTime := 1800000000 }))
    [.bulk [1] none]

/-- A user's fetch learns how a task ended. -/
def fetchedTask (status : TaskStatus) : World :=
  Runs.run World.step (World.start (tableOf { id := 1, quota := 500, submitTime := 1800000000 }))
    [.load 0 .fetcher 1, .realtime 0 {} { status } {}]

/-- Failed and not refunded, by a cleanup and by a fetch; successful and not settled, by a fetch. -/
theorem finished_without_billing :
    (cleanedUpTask.Idle 1 ∧ cleanedUpTask.movesOf 1 = [] ∧
      (cleanedUpTask.rows.find? 1).map (fun t => (t.status, t.quota, t.isLegacy))
        = some (.failure, 500, false) ∧ cleanedUpTask.usageSettled 1 = false) ∧
    ((fetchedTask .failure).Idle 1 ∧ (fetchedTask .failure).movesOf 1 = [] ∧
      ((fetchedTask .failure).rows.find? 1).map (fun t => (t.status, t.quota, t.isLegacy))
        = some (.failure, 500, false) ∧ (fetchedTask .failure).usageSettled 1 = false) ∧
    ((fetchedTask .success).Idle 1 ∧ (fetchedTask .success).completed 1 = false ∧
      ((fetchedTask .success).rows.find? 1).map Task.status = some .success) :=
  ⟨⟨idle_of_alone (i := 0) (by decide) (by decide) 1, by decide⟩,
    ⟨idle_of_alone (i := 0) (by decide) (by decide) 1, by decide⟩,
    ⟨idle_of_alone (i := 0) (by decide) (by decide) 1, by decide⟩⟩

end AsyncTask
