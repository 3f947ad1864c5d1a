import NewApi.Task.System

/-!
# Task/Life — one task's life, and that every interleaving leads one

Seen from one task, the table and its workers are a small machine: the row is rewritten while it is
unfinished, one write ends it, and at most one worker then bills it, call by call.  `Life` is that
machine, and `Follows` relates it to the whole system.

* `Follows.step` — as long as no copy that is already finished is polled, and no realtime fetch ends
  a task, every step of the system is a step of the life, or none.
* `Follows.billing_done` — when no worker is billing the task, neither is its life.
-/

namespace AsyncTask

open Function World Option Table

open Billing (Reply)

/-- What concerns one task: its row, what is left of its billing with the quota the billing worker
knows, and what the state remembers of it. -/
structure Life where
  row : Task
  biller : Option (Bill × ℤ) := none
  moves : List ℤ := []
  writtenOff : ℤ := 0
  unrecorded : ℤ := 0
  completed : Bool := false
  usageSettled : Bool := false

namespace Life

/-- The next database call of the billing worker. -/
def bill (l : Life) (b : Bill) (quota : ℤ) (reply : Reply) : Life :=
  match b.next with
  | none =>
    { l with
      biller := none
      completed := l.completed || b.completes
      usageSettled := l.usageSettled || b.usage }
  | some (.funding target) =>
    if reply = .ok then
      { l with
        biller := some ({ b with next := some (.token (target - quota) target) }, quota)
        moves := l.moves ++ [target - quota] }
    else { l with biller := some ({ b with next := none }, quota) }
  | some (.token _ target) => { l with biller := some ({ b with next := some (.store target) }, quota) }
  | some (.store target) =>
    if reply = .ok then
      { l with biller := some ({ b with next := none }, target), row := l.row.withQuota target }
    else
      { l with
        biller := some ({ b with next := none }, target)
        unrecorded := l.unrecorded + (target - quota) }

/-- The write of a plan that ends the task. -/
def finish (l : Life) (p : Plan) : Life :=
  { l with
    row := p.copy
    biller := (p.finish.bill true).map (·, p.copy.quota)
    writtenOff := l.writtenOff + p.writeOff }

/-- A step of the life of task `k`, when the system does `c` in state `w`. -/
inductive Step (k : ℤ) (w : World) (c : Label) : Life → Life → Prop where
  | idle {l : Life} : Step k w c l l
  /-- An unfinished row is rewritten and stays unfinished. -/
  | rewrite {l : Life} {row : Task} (old : l.row.isTerminal = false) (new : row.isTerminal = false)
      (quota : row.quota = l.row.quota) : Step k w c l { l with row }
  | finish {l : Life} {p : Plan} (old : l.row.isTerminal = false) (new : p.copy.isTerminal = true)
      (sound : p.Sound l.row) (unbilled : l.biller = none) : Step k w c l (l.finish p)
  | bill {l : Life} {i : ℕ} {wk : Worker} {b : Bill} {quota : ℤ} {reply : Reply}
      (label : c = .bill i reply) (worker : w.workers i = some wk) (bill : wk.bill = some b)
      (ended : l.row.isTerminal = true) (biller : l.biller = some (b, quota)) :
      Step k w c l (l.bill b quota reply)
  | bulk {l : Life} {ids : List ℤ} {failReason : Option String} (label : c = .bulk ids failReason)
      (mem : k ∈ ids) : Step k w c l { l with row := l.row.bulkFailed failReason }

end Life

/-! ## The relation -/

/-- The workers that hold copies of task `k` agree with its life. -/
structure Crew (k : ℤ) (workers : ℕ → Option Worker) (l : Life) : Prop where
  /-- As long as the row is unfinished, so is its quota what every unfinished copy has. -/
  copies : l.row.isTerminal = false → ∀ i wk, workers i = some wk → wk.copy.id = k →
    wk.copy.isTerminal = false → wk.copy.quota = l.row.quota
  sweepers : ∀ i wk, workers i = some wk → wk.role.sweeps = true → wk.copy.isTerminal = false
  biller : ∀ i wk b, workers i = some wk → wk.copy.id = k → wk.bill = some b →
    l.biller = some (b, wk.copy.quota)
  unique : ∀ i j wk wk', workers i = some wk → workers j = some wk' → wk.copy.id = k →
    wk'.copy.id = k → wk.bill ≠ none → wk'.bill ≠ none → i = j
  owned : l.biller ≠ none → ∃ i wk, workers i = some wk ∧ wk.copy.id = k ∧ wk.bill ≠ none
  live : l.row.isTerminal = false → l.biller = none

/-- The system seen from task `k`. -/
structure Follows (k : ℤ) (w : World) (l : Life) : Prop where
  found : w.rows.find? k = some l.row
  moves : w.movesOf k = l.moves
  writtenOff : w.writtenOff k = l.writtenOff
  unrecorded : w.unrecorded k = l.unrecorded
  completed : w.completed k = l.completed
  usageSettled : w.usageSettled k = l.usageSettled
  crew : Crew k w.workers l

variable {k : ℤ}

theorem Follows.start {rows : Rows} {row : Task} (h : rows.find? k = some row) :
    Follows k (start rows) { row } where
  found := h
  moves := rfl
  writtenOff := rfl
  unrecorded := rfl
  completed := rfl
  usageSettled := rfl
  crew := ⟨fun _ _ _ hi => (by cases hi), fun _ _ hi => (by cases hi), fun _ _ _ hi => (by cases hi),
    fun _ _ _ _ hi => (by cases hi), fun hne => absurd rfl hne, fun _ => rfl⟩

variable {l : Life} {w : World}

/-- When no worker is billing the task, its life is not being billed. -/
theorem Follows.billing_done (h : Follows k w l) (hidle : w.Idle k) : l.biller = none := by
  by_contra hne
  obtain ⟨i, wk, hi, hid, hbill⟩ := h.crew.owned hne
  exact hbill (hidle i wk hi hid)

/-! ## Workers come and go -/

namespace Crew

variable {k : ℤ} {W : ℕ → Option Worker} {l l' : Life}

/-- A row that stays unfinished keeps its quota; nothing else is asked of a new row. -/
theorem of_row (h : Crew k W l) (hbiller : l'.biller = l.biller)
    (hrow : l'.row.isTerminal = false → l.row.isTerminal = false ∧ l'.row.quota = l.row.quota) :
    Crew k W l' where
  copies hl i wk hi hid ht := (h.copies (hrow hl).1 i wk hi hid ht).trans (hrow hl).2.symm
  sweepers := h.sweepers
  biller := hbiller ▸ h.biller
  unique := h.unique
  owned := hbiller ▸ h.owned
  live hl := hbiller.trans (h.live (hrow hl).1)

/-- Only a finished task is billed. -/
theorem ended (h : Crew k W l) {b : Bill × ℤ} (hb : l.biller = some b) : l.row.isTerminal = true := by
  by_contra hne
  rw [h.live (eq_false_of_ne_true hne)] at hb
  cases hb

/-- What a new copy in the hands of a worker that does not bill must be like. -/
structure Fits (l : Life) (wk : Worker) : Prop where
  bill : wk.bill = none
  quota : l.row.isTerminal = false → wk.copy.isTerminal = false → wk.copy.quota = l.row.quota

variable {i : ℕ} {wk : Worker}

theorem update_self (hold : ∀ wk', W i = some wk' → wk'.copy.id = k → wk'.bill = none) {j : ℕ}
    {wk' : Worker} (hj : W j = some wk') (hid : wk'.copy.id = k) (hb : wk'.bill ≠ none) :
    update W i (some wk) j = some wk' := by
  rw [update_of_ne ?_, hj]
  rintro rfl
  exact hb (hold wk' hj hid)

/-- A worker that does not bill the task takes up another copy. -/
theorem set (h : Crew k W l) (hold : ∀ wk', W i = some wk' → wk'.copy.id = k → wk'.bill = none)
    (hrole : wk.role.sweeps = true → wk.copy.isTerminal = false)
    (hnew : wk.copy.id = k → Fits l wk) : Crew k (update W i (some wk)) l where
  copies hl j wk' hj hid ht := by
    rcases update_workers_cases hj with ⟨-, rfl⟩ | ⟨-, hj⟩
    · exact (hnew hid).quota hl ht
    · exact h.copies hl j wk' hj hid ht
  sweepers j wk' hj hs := by
    rcases update_workers_cases hj with ⟨-, rfl⟩ | ⟨-, hj⟩
    · exact hrole hs
    · exact h.sweepers j wk' hj hs
  biller j wk' b hj hid hb := by
    rcases update_workers_cases hj with ⟨-, rfl⟩ | ⟨-, hj⟩
    · rw [(hnew hid).bill] at hb
      cases hb
    · exact h.biller j wk' b hj hid hb
  unique j j' wk₁ wk₂ hj hj' hid hid' hb hb' := by
    rcases update_workers_cases hj with ⟨-, rfl⟩ | ⟨-, hj⟩
    · exact absurd (hnew hid).bill hb
    rcases update_workers_cases hj' with ⟨-, rfl⟩ | ⟨-, hj'⟩
    · exact absurd (hnew hid').bill hb'
    exact h.unique j j' wk₁ wk₂ hj hj' hid hid' hb hb'
  owned hne := by
    obtain ⟨j, wk', hj, hid, hb⟩ := h.owned hne
    exact ⟨j, wk', update_self hold hj hid hb, hid, hb⟩
  live := h.live

/-- The only worker that may bill a finished task goes on, or begins. -/
theorem hand (h : Crew k W l)
    (hothers : ∀ j wk', j ≠ i → W j = some wk' → wk'.copy.id = k → wk'.bill = none)
    (hid : wk.copy.id = k) (hrole : wk.role.sweeps = true → wk.copy.isTerminal = false)
    (hrow : l'.row.isTerminal = true) (hbill : l'.biller = wk.bill.map (·, wk.copy.quota)) :
    Crew k (update W i (some wk)) l' where
  copies hl := by
    rw [hrow] at hl
    cases hl
  sweepers j wk' hj hs := by
    rcases update_workers_cases hj with ⟨-, rfl⟩ | ⟨-, hj⟩
    · exact hrole hs
    · exact h.sweepers j wk' hj hs
  biller j wk' b hj hid hb := by
    rcases update_workers_cases hj with ⟨-, rfl⟩ | ⟨hne, hj⟩
    · rw [hbill, hb, map_some]
    · rw [hothers j wk' hne hj hid] at hb
      cases hb
  unique j j' wk₁ wk₂ hj hj' hid hid' hb hb' := by
    rcases update_workers_cases hj with ⟨rfl, -⟩ | ⟨hne, hj⟩
    · rcases update_workers_cases hj' with ⟨rfl, -⟩ | ⟨hne', hj'⟩
      · rfl
      · exact absurd (hothers j' wk₂ hne' hj' hid') hb'
    · exact absurd (hothers j wk₁ hne hj hid) hb
  owned hne := by
    refine ⟨i, wk, Function.update_self .., hid, fun hb => hne ?_⟩
    rw [hbill, hb, map_none]
  live hl := by
    rw [hrow] at hl
    cases hl

/-- A worker goes on with the same copy, but for its quota. -/
structure Continues (wk wk' : Worker) : Prop where
  id : wk'.copy.id = wk.copy.id
  role : wk'.role = wk.role
  terminal : wk'.copy.isTerminal = wk.copy.isTerminal

variable {wk' : Worker}

theorem continue_other (h : Crew k W l) (hi : W i = some wk) (hid : wk.copy.id ≠ k)
    (hc : Continues wk wk') : Crew k (update W i (some wk')) l := by
  refine h.set (fun wk₁ hi₁ hid₁ => ?_) (fun hs => ?_) fun hid₁ => ?_
  · rw [hi] at hi₁
    cases hi₁
    exact absurd hid₁ hid
  · exact hc.terminal.trans (h.sweepers i wk hi (hc.role ▸ hs))
  · exact absurd (hc.id.symm.trans hid₁) hid

theorem continue_self (h : Crew k W l) (hi : W i = some wk) (hid : wk.copy.id = k) {b : Bill}
    (hb : wk.bill = some b) (hc : Continues wk wk') (hrow : l'.row.isTerminal = l.row.isTerminal)
    (hbill : l'.biller = wk'.bill.map (·, wk'.copy.quota)) :
    Crew k (update W i (some wk')) l' := by
  have hterm := h.ended (h.biller i wk b hi hid hb)
  refine h.hand (fun j wk₁ hji hj hjk => ?_) (hc.id.trans hid) (fun hs => ?_) (hrow.trans hterm) hbill
  · by_contra hb'
    exact hji (h.unique j i wk₁ wk hj hi hjk hid hb' (by simp [hb]))
  · exact hc.terminal.trans (h.sweepers i wk hi (hc.role ▸ hs))

end Crew

/-! ## Steps of the system -/

variable {k : ℤ} {w : World} {l : Life}

/-- What a worker may make of its copy: a sound plan from an unfinished one, or nothing at all. -/
inductive Plan.Fair (t : Task) (p : Plan) : Prop where
  | sound (unfinished : t.isTerminal = false) (sound : p.Sound t)
  | inert (id : p.copy.id = t.id) (copy : p.copy.isTerminal = true) (write : p.write = false)
      (finish : p.finish = .never)

variable {t : Task}

/-- A worker that does not win its write does not bill. -/
theorem Plan.Fair.bill_of_lost {p : Plan} (h : p.Fair t) : p.finish.bill false = none := by
  cases h with
  | sound ht hs =>
    by_cases hp : p.copy.isTerminal = true
    · rcases (hs.finished hp).2 with ⟨hf, -⟩ | ⟨bill, hf, -⟩ <;> rw [hf] <;> rfl
    · rw [(hs.unfinished (eq_false_of_ne_true hp)).1]
      rfl
  | inert _ _ _ hf =>
    rw [hf]
    rfl

namespace Follows

theorem load (h : Follows k w l) (i : ℕ) (role : Role) (id : ℤ) :
    Follows k (w.load i role id) l := by
  unfold World.load
  split
  · exact h
  next hany =>
  split
  · exact h
  next row hrow =>
  split
  · next hsel =>
    refine { h with crew := h.crew.set (fun wk hi _ => ?_) (fun hs => ?_) fun hid => ?_ }
    · simpa [hi] using hany
    · cases role with
      | sweeper cutoff => exact not_isTerminal_of_isUnfinished (isUnfinished_of_isTimedOut hsel)
      | _ => cases hs
    · have hk : id = k := (key_of_find? hrow).symm.trans hid
      have hrow' : row = l.row := some.inj ((hk ▸ hrow).symm.trans h.found)
      exact ⟨rfl, fun _ _ => by rw [hrow']⟩
  · exact h

variable {t : Task} {role' role : Role} {i : ℕ} {p : Plan}

/-- A worker whose write came to nothing. -/
theorem kept (h : Follows k w l) (hi : w.workers i = some ⟨t, role, none⟩) (hp : p.Fair t)
    (hrole : role'.sweeps = false) :
    Follows k (w.setWorker i ⟨p.copy, role', p.finish.bill false⟩) l := by
  refine { h with crew := h.crew.set (fun wk hi' _ => ?_) (fun hs => ?_) fun hid => ?_ }
  · rw [hi] at hi'
    cases hi'
    rfl
  · simp [hrole] at hs
  · refine ⟨hp.bill_of_lost, fun hl hcopy => ?_⟩
    cases hp with
    | sound ht hs =>
      have hquota := h.crew.copies hl i _ hi (hs.id.symm.trans hid) ht
      rw [hs.quota, (hs.unfinished hcopy).2, sub_zero]
      exact hquota
    | inert _ hterm => simp [hterm] at hcopy

variable {wk : Worker}

section

variable (h : Follows k w l)

include h

/-- …and one whose write replaced the row of another task. -/
theorem wrote_other (wk' : Worker) (hi : w.workers i = some wk) (hid : wk.copy.id ≠ k)
    (hid' : wk'.copy.id ≠ k) (hrole : wk'.role.sweeps = false) {off : ℤ → ℤ}
    (hoff : off k = w.writtenOff k) :
    Follows k { w.setWorker i wk' with rows := w.rows.save wk'.copy, writtenOff := off } l where
  found := (find?_save_of_ne _ hid'.symm).trans h.found
  moves := h.moves
  writtenOff := hoff.trans h.writtenOff
  unrecorded := h.unrecorded
  completed := h.completed
  usageSettled := h.usageSettled
  crew := h.crew.set (fun wk₁ hi₁ hid₁ => by
    rw [hi] at hi₁
    cases hi₁
    exact absurd hid₁ hid) (fun hs => absurd hs (by simp [hrole])) fun hid₁ => absurd hid₁ hid'

theorem rewrote {won : Bool} (hi : w.workers i = some ⟨t, role, none⟩) (hid : t.id = k)
    (hs : p.Sound t) (hold : l.row.isTerminal = false) (hquota : t.quota = l.row.quota)
    (hnew : p.copy.isTerminal = false) (hrole : role'.sweeps = false) :
    Follows k { w.setWorker i ⟨p.copy, role', p.finish.bill won⟩ with
      rows := w.rows.save p.copy
      writtenOff := if won then
        update w.writtenOff t.id (w.writtenOff t.id + p.writeOff) else w.writtenOff }
      { l with row := p.copy } := by
  obtain ⟨hfin, hoff⟩ := hs.unfinished hnew
  have hpid : p.copy.id = k := hs.id.trans hid
  have hpquota : p.copy.quota = l.row.quota := by rw [hs.quota, hoff, sub_zero, hquota]
  have hcrew : Crew k w.workers { l with row := p.copy } :=
    h.crew.of_row rfl fun _ => ⟨hold, hpquota⟩
  refine { h with
    found := ?_
    writtenOff := ?_
    crew := hcrew.set (fun wk hi' _ => ?_) (fun hs => ?_) fun _ => ?_ }
  · exact hpid ▸ find?_save_self (hpid.symm ▸ h.found)
  · rw [hoff, add_zero, update_eq_self, ite_self]
    exact h.writtenOff
  · rw [hi] at hi'
    cases hi'
    rfl
  · simp [hrole] at hs
  · exact ⟨by rw [hfin]; rfl, fun _ _ => rfl⟩

/-- The write that ends the task: its worker is the only one to bill. -/
theorem finished (hid : t.id = k) (hs : p.Sound t) (hold : l.row.isTerminal = false)
    (hnew : p.copy.isTerminal = true) (hrole : role'.sweeps = false) :
    Follows k { w.setWorker i ⟨p.copy, role', p.finish.bill true⟩ with
      rows := w.rows.save p.copy
      writtenOff := update w.writtenOff t.id (w.writtenOff t.id + p.writeOff) }
      (l.finish p) := by
  have hpid : p.copy.id = k := hs.id.trans hid
  refine { h with found := ?_, writtenOff := ?_, crew := ?_ }
  · exact hpid ▸ find?_save_self (hpid.symm ▸ h.found)
  · simp only [hid, Function.update_self, Life.finish, h.writtenOff]
  · refine h.crew.hand (fun j wk _ hj hjk => ?_) hpid (fun hsw => absurd hsw (by simp [hrole])) hnew rfl
    -- nobody bills an unfinished task
    by_contra hb
    obtain ⟨b, hb⟩ := ne_none_iff_exists'.mp hb
    have := h.crew.biller j wk b hj hjk hb
    rw [h.crew.live hold] at this
    cases this

/-- **A worker carries out a plan.** -/
theorem execute (c : Label) {w' : World} (hi : w.workers i = some ⟨t, role, none⟩) (hp : p.Fair t)
    (hrole : role'.sweeps = false) (hex : Executed w i t role' p w') :
    ∃ l', Life.Step k w c l l' ∧ Follows k w' l' := by
  cases hex with
  | kept => exact ⟨l, .idle, h.kept hi hp hrole⟩
  | @wrote row won hwrite hfind hstatus hwon =>
    cases hp with
    | inert _ _ hw =>
      rw [hw] at hwrite
      cases hwrite
    | sound ht hs =>
      by_cases hid : t.id = k
      · have hrow : row = l.row :=
          some.inj (hfind.symm.trans (by rw [hs.id, hid]; exact h.found))
        have hold : l.row.isTerminal = false := by
          rw [← hrow, Task.isTerminal, hstatus]
          exact ht
        have hquota := h.crew.copies hold i _ hi hid ht
        by_cases hnew : p.copy.isTerminal = true
        · have hne : row ≠ p.copy := by
            rintro rfl
            rw [hrow, hold] at hnew
            cases hnew
          rw [hwon hne]
          have hsl : p.Sound l.row :=
            hs.of_copy (hid.trans (key_of_find? h.found).symm) hquota
          exact ⟨_, .finish hold hnew hsl (h.crew.live hold), h.finished hid hs hold hnew hrole⟩
        · have hnew := eq_false_of_ne_true hnew
          refine ⟨_, .rewrite hold hnew ?_, h.rewrote hi hid hs hold hquota hnew hrole⟩
          rw [hs.quota, (hs.unfinished hnew).2, sub_zero]
          exact hquota
      · refine ⟨l, .idle, h.wrote_other ⟨p.copy, role', _⟩ hi hid (hs.id.symm ▸ hid)
          hrole ?_⟩
        split
        · exact update_of_ne (Ne.symm hid) ..
        · rfl

theorem act (c : Label) {may : Role → Bool} {next : Role → Role} {plan : Task → Plan}
    {r : WriteReply} (hnext : ∀ role, may role = true → (next role).sweeps = false)
    (hplan : ∀ wk, w.workers i = some wk → may wk.role = true → (plan wk.copy).Fair wk.copy) :
    ∃ l', Life.Step k w c l l' ∧ Follows k (w.act i may next plan r) l' := by
  unfold World.act
  split
  · next t role hi =>
    split
    · next hmay =>
      exact h.execute c hi (hplan _ hi hmay) (hnext role hmay) (w.execute_cases ..)
    · exact ⟨l, .idle, h⟩
  · exact ⟨l, .idle, h⟩

end

/-! ### Billing -/

theorem billStep_other (h : Follows k w l) (hi : w.workers i = some wk) (hid : wk.copy.id ≠ k)
    (b : Bill) (reply : Reply) : Follows k (w.billStep i wk b reply) l := by
  have hcrew {wk' : Worker} (hc : Crew.Continues wk wk') := h.crew.continue_other hi hid hc
  have hk : k ≠ wk.copy.id := Ne.symm hid
  unfold billStep
  split
  · exact { h with
      completed := (update_of_ne hk ..).trans h.completed
      usageSettled := (update_of_ne hk ..).trans h.usageSettled
      crew := hcrew ⟨rfl, rfl, rfl⟩ }
  · split
    · refine { h with moves := ?_, crew := hcrew ⟨rfl, rfl, rfl⟩ }
      rw [movesOf_snoc rfl, if_neg hid, List.append_nil]
      exact h.moves
    · exact { h with crew := hcrew ⟨rfl, rfl, rfl⟩ }
  · exact { h with crew := hcrew ⟨rfl, rfl, rfl⟩ }
  · split
    · refine { h with found := ?_, crew := hcrew ⟨rfl, rfl, rfl⟩ }
      exact ((find?_updateQuota ..).trans (if_neg hk)).trans h.found
    · exact { h with
        unrecorded := (update_of_ne hk ..).trans h.unrecorded
        crew := hcrew ⟨rfl, rfl, rfl⟩ }

theorem billStep_self (h : Follows k w l) {b : Bill} (hi : w.workers i = some wk)
    (hid : wk.copy.id = k) (hb : wk.bill = some b) (reply : Reply) :
    Follows k (w.billStep i wk b reply) (l.bill b wk.copy.quota reply) := by
  have hcrew {wk' : Worker} {l' : Life} (hc : Crew.Continues wk wk')
      (hrow : l'.row.isTerminal = l.row.isTerminal)
      (hbill : l'.biller = wk'.bill.map (·, wk'.copy.quota)) :=
    h.crew.continue_self hi hid hb hc hrow hbill
  rcases hnext : b.next with _ | ⟨target⟩ | ⟨delta, target⟩ | ⟨target⟩ <;>
    simp only [billStep, Life.bill, hnext, hid]
  · refine { h with completed := ?_, usageSettled := ?_, crew := hcrew ⟨rfl, rfl, rfl⟩ rfl rfl }
    · simp [h.completed]
    · simp [h.usageSettled]
  · split
    · refine { h with moves := ?_, crew := hcrew ⟨rfl, rfl, rfl⟩ rfl rfl }
      rw [movesOf_snoc rfl, if_pos rfl]
      exact congrArg (· ++ _) h.moves
    · exact { h with crew := hcrew ⟨rfl, rfl, rfl⟩ rfl rfl }
  · exact { h with crew := hcrew ⟨rfl, rfl, rfl⟩ rfl rfl }
  · split
    · refine { h with found := ?_, crew := hcrew ⟨rfl, rfl, rfl⟩ rfl rfl }
      rw [find?_updateQuota, if_pos rfl]
      exact congrArg (Option.map _) h.found
    · refine { h with unrecorded := ?_, crew := hcrew ⟨rfl, rfl, rfl⟩ rfl rfl }
      simp [h.unrecorded]

theorem bill (h : Follows k w l) (i : ℕ) (reply : Reply) :
    ∃ l', Life.Step k w (.bill i reply) l l' ∧ Follows k (w.step (.bill i reply)) l' := by
  dsimp only [World.step]
  split
  · next copy role b hi =>
    by_cases hid : copy.id = k
    · have hb := h.crew.biller i _ b hi hid rfl
      exact ⟨_, .bill rfl hi rfl (h.crew.ended hb) hb, h.billStep_self hi hid rfl reply⟩
    · exact ⟨l, .idle, h.billStep_other hi hid b reply⟩
  · exact ⟨l, .idle, h⟩

end Follows

/-! ## The labels under which a task leads one life -/

/-- An answer that repeats what the copy already says. -/
def TaskInfo.Repeats (env : PollEnv) (t : Task) (info : TaskInfo) : Prop :=
  (info.status = .empty ∨ info.status = t.status) ∧
    (info.progress = "" ∨ info.progress = t.progress) ∧
    fetchedURL env info t.status t = t.privateData.resultURL

instance (env : PollEnv) (t : Task) (info : TaskInfo) : Decidable (info.Repeats env t) :=
  inferInstanceAs (Decidable (_ ∧ _ ∧ _))

/-- No finished copy is polled; a realtime fetch leaves an unfinished task unfinished, and tells
nothing new of a finished one. -/
def Label.Fresh (w : World) : Label → Prop
  | .poll i _ _ _ | .pollBatch i _ _ _ => ∀ wk ∈ w.workers i, wk.copy.isTerminal = false
  | .realtime i env info _ => ∀ wk ∈ w.workers i,
      if wk.copy.isTerminal then info.Repeats env wk.copy
      else (if info.status ≠ .empty then info.status else wk.copy.status).isTerminal = false
  | _ => True

instance (w : World) : (c : Label) → Decidable (c.Fresh w)
  | .poll i _ _ _ | .pollBatch i _ _ _ =>
    inferInstanceAs (Decidable (∀ wk ∈ w.workers i, wk.copy.isTerminal = false))
  | .realtime i env info _ => inferInstanceAs (Decidable (∀ wk ∈ w.workers i,
      if wk.copy.isTerminal then info.Repeats env wk.copy
      else (if info.status ≠ .empty then info.status else wk.copy.status).isTerminal = false))
  | .load _ _ _ | .sweep _ _ _ | .bill _ _ | .bulk _ _ | .submit _ _ _ =>
    inferInstanceAs (Decidable True)

variable {env : PollEnv} {info : TaskInfo}

/-- A realtime fetch that tells nothing new changes nothing. -/
theorem tryRealtimeFetch_of_repeats (h : info.Repeats env t) :
    tryRealtimeFetch env info t = { copy := t, write := false, finish := .never } := by
  obtain ⟨hstatus, hprogress, hurl⟩ := h
  have hs : (if info.status ≠ .empty then info.status else t.status) = t.status := by
    rcases hstatus with hs | hs <;> simp [hs]
  have hp : (if info.progress ≠ "" then info.progress else t.progress) = t.progress := by
    rcases hprogress with hp | hp <;> simp [hp]
  simp [tryRealtimeFetch, hs, hp, hurl]

theorem Follows.realtime (h : Follows k w l) {i : ℕ} {r : WriteReply}
    (hc : (Label.realtime i env info r).Fresh w) :
    ∃ l', Life.Step k w (.realtime i env info r) l l' ∧
      Follows k (w.step (.realtime i env info r)) l' := by
  refine h.act _ (fun _ _ => rfl) fun wk hi _ => ?_
  have hwk := hc wk hi
  by_cases ht : wk.copy.isTerminal = true
  · rw [if_pos ht] at hwk
    rw [tryRealtimeFetch_of_repeats hwk]
    exact .inert rfl ht rfl rfl
  · rw [if_neg ht] at hwk
    exact .sound (eq_false_of_ne_true ht) (tryRealtimeFetch_sound env hwk)

/-- **Every step of the system is a step of the task's life, or none.** -/
theorem Follows.step (h : Follows k w l) {c : Label} (hc : c.Fresh w) :
    ∃ l', Life.Step k w c l l' ∧ Follows k (w.step c) l' := by
  have hpoller : ∀ role : Role, (role == .poller) = true → (id role).sweeps = false := by
    intro role hrole
    rw [beq_iff_eq.mp hrole]
    rfl
  cases c with
  | load i role id => exact ⟨l, .idle, h.load i role id⟩
  | poll i env reply r =>
    exact h.act _ hpoller fun wk hi _ => .sound (hc wk hi) (updateVideoSingleTask_sound _ _ (hc wk hi))
  | pollBatch i env reply r =>
    exact h.act _ hpoller fun wk hi _ => .sound (hc wk hi) (updateBatchTasks_sound _ _ (hc wk hi))
  | sweep i env r =>
    exact h.act _ (fun _ _ => rfl) fun wk hi hrole =>
      .sound (h.crew.sweepers i wk hi hrole) (sweepTimedOutTask_sound env wk.copy)
  | realtime i env info r => exact h.realtime hc
  | bill i reply => exact h.bill i reply
  | bulk ids failReason =>
    have hfound := find?_bulkFail h.found ids failReason
    by_cases hk : k ∈ ids
    · rw [if_pos hk] at hfound
      exact ⟨_, .bulk rfl hk, { h with
        found := hfound
        crew := h.crew.of_row rfl fun hl => by cases hl }⟩
    · rw [if_neg hk] at hfound
      exact ⟨l, .idle, { h with found := hfound }⟩
  | submit env t immediate =>
    refine ⟨l, .idle, ?_⟩
    dsimp only [World.step]
    split
    · exact h
    · next rows hrows =>
      refine { h with found := ?_ }
      rw [find?_create hrows, if_neg, h.found]
      -- a row that is there rejects another of its id
      intro hk
      have hnone := create_eq_none_iff.mpr (isSome_iff_exists.mpr ⟨_, hk ▸ h.found⟩)
      rw [hrows] at hnone
      cases hnone

end AsyncTask
