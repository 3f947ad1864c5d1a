import NewApi.Batch.Queue
import NewApi.Machinery.Runs

/-!
# Batch/Flush — adders and flushes over whole runs

Any number of flushes, each somewhere between its first look and its last write, with records added
in between.

* `total_step` — one step changes the total of a counter by what it adds.
* `batch_conserves` — nothing that was added is lost or written twice.
-/

namespace Batch

/-- Where a run of `batchUpdate` stands. -/
inductive Flush where
  /-- The maps before `i` were found empty. -/
  | looking (i : ℕ)
  /-- The maps before `i` are swapped out. -/
  | swapping (i : ℕ) (taken : BatchType → Store)
  /-- The statements still to be made; none once it is finished. -/
  | writing (pending : List Write)

/-- Nothing is left to write. -/
def Flush.finished : Flush → Bool
  | .writing [] => true
  | _ => false

/-- The maps, the runs of `batchUpdate`, and the database. -/
structure BatchRun where
  stores : BatchType → Store := fun _ => ∅
  flushes : List Flush := []
  db : BatchDb

/-- Adding to a queue, and the steps of a flush. -/
inductive BatchOp where
  | add (t : BatchType) (id value : ℤ)
  | start
  /-- The next step of a flush; `n` picks the row, maps being ranged over in any order. -/
  | advance (k n : ℕ)

namespace BatchRun

/-- One step of a flush. -/
def advance (w : BatchRun) (k n : ℕ) : Flush → BatchRun
  | .looking i =>
    match BatchType.all[i]? with
    | none => { w with flushes := w.flushes.set k (.writing []) }
    | some t =>
      if (w.stores t).rows ≠ [] then
        { w with flushes := w.flushes.set k (.swapping 0 fun _ => ∅) }
      else { w with flushes := w.flushes.set k (.looking (i + 1)) }
  | .swapping i taken =>
    match BatchType.all[i]? with
    | none => { w with flushes := w.flushes.set k (.writing (writes taken)) }
    | some t =>
      { w with
        stores := Function.update w.stores t ∅
        flushes := w.flushes.set k (.swapping (i + 1) (Function.update taken t (w.stores t))) }
  | .writing pending =>
    match pending[n]? with
    | none => w
    | some write =>
      { w with
        flushes := w.flushes.set k (.writing (pending.eraseIdx n)), db := write.exec w.db }

/-- One step. -/
def step (w : BatchRun) : BatchOp → BatchRun
  | .add t id value =>
    { w with stores := Function.update w.stores t ((w.stores t).add id value) }
  | .start => { w with flushes := w.flushes ++ [.looking 0] }
  | .advance k n =>
    match w.flushes[k]? with
    | none => w
    | some flush => w.advance k n flush

/-- The sum a record is added to stays in the 64-bit range. -/
def InRange (w : BatchRun) : BatchOp → Prop
  | .add t id value =>
    GoInt.minInt ≤ (w.stores t).get id + value ∧ (w.stores t).get id + value ≤ GoInt.maxInt
  | _ => True

instance : ∀ (w : BatchRun) (op : BatchOp), Decidable (InRange w op)
  | _, .add _ _ _ => inferInstanceAs (Decidable (_ ∧ _))
  | _, .start => inferInstanceAs (Decidable True)
  | _, .advance _ _ => inferInstanceAs (Decidable True)

end BatchRun

/-! ## What is in flight -/

/-- What a flush has taken out of the maps and not written yet. -/
def Flush.held (t : BatchType) (id : ℤ) : Flush → ℤ
  | .looking _ => 0
  | .swapping i taken => if t.index < i then (taken t).get id else 0
  | .writing pending => (pending.map fun write => write.delta t id).sum

theorem Flush.held_of_finished {t : BatchType} {id : ℤ} {f : Flush} (h : f.finished = true) :
    f.held t id = 0 := by
  unfold finished at h
  split at h
  · rfl
  · cases h

/-- What a step adds to a counter. -/
def BatchOp.added (t : BatchType) (id : ℤ) : BatchOp → ℤ
  | .add t' id' value => if t = t' ∧ id = id' then value else 0
  | _ => 0

namespace BatchRun

variable (t : BatchType) (id : ℤ)

/-- Everything queued or in flight for a counter. -/
def pending (w : BatchRun) : ℤ := (w.stores t).get id + (w.flushes.map (Flush.held t id)).sum

/-- …with what the database has of it. -/
def total (w : BatchRun) : ℤ := w.db.counter t id + w.pending t id

variable {w : BatchRun} {k n : ℕ} {flush : Flush}

/-- A flush that goes on, with the maps or without. -/
theorem total_set (hk : w.flushes[k]? = some flush) (stores : BatchType → Store) (db : BatchDb)
    (flush' : Flush) :
    total t id { stores, flushes := w.flushes.set k flush', db } =
      w.total t id + (db.counter t id - w.db.counter t id) +
        ((stores t).get id - (w.stores t).get id) + (flush'.held t id - flush.held t id) := by
  unfold total pending
  rw [Tally.sum_map_set _ hk]
  dsimp only
  omega

/-- A swap moves a map's amounts from the queue to the flush. -/
theorem held_swap {i : ℕ} {t' : BatchType} (hi : BatchType.all[i]? = some t')
    (taken : BatchType → Store) :
    ((Function.update w.stores t' ∅ : BatchType → Store) t).get id - (w.stores t).get id +
      ((Flush.swapping (i + 1) (Function.update taken t' (w.stores t'))).held t id -
        (Flush.swapping i taken).held t id) = 0 := by
  have hindex := BatchType.getElem?_all hi
  by_cases ht : t = t'
  · subst ht
    simp [Flush.held, hindex]
  · have hne : t.index ≠ i := fun heq => ht (BatchType.index_injective (heq.trans hindex.symm))
    have hlt : t.index < i + 1 ↔ t.index < i := by omega
    simp [Flush.held, ht, hlt]

theorem total_advance (hk : w.flushes[k]? = some flush) :
    (w.advance k n flush).total t id = w.total t id := by
  cases flush with
  | looking i =>
    rw [advance]
    split
    · rw [total_set t id hk]
      simp [Flush.held]
    · split
      · rw [total_set t id hk]
        simp [Flush.held]
      · rw [total_set t id hk]
        simp [Flush.held]
  | swapping i taken =>
    rw [advance]
    split
    · next hend =>
      have hlt : t.index < i :=
        Nat.lt_of_lt_of_le t.index_lt (List.getElem?_eq_none_iff.mp hend)
      rw [total_set t id hk]
      simp [Flush.held, sum_writes, hlt]
    · next t' hi =>
      rw [total_set t id hk]
      have := held_swap (w := w) t id hi taken
      omega
  | writing pending =>
    rw [advance]
    split
    · rfl
    · next write hn =>
      rw [total_set t id hk]
      dsimp only [Flush.held]
      rw [Tally.sum_map_eraseIdx _ hn, Write.counter_exec]
      omega

/-- **One step** changes the total of a counter by what it adds. -/
theorem total_step (w : BatchRun) (op : BatchOp) (hrange : InRange w op) :
    (w.step op).total t id = w.total t id + op.added t id := by
  cases op with
  | add t' id' value =>
    unfold total pending step BatchOp.added
    dsimp only
    by_cases ht : t = t'
    · subst ht
      rw [Function.update_self, Store.get_add hrange]
      simp only [true_and]
      omega
    · simp [ht]
  | start => simp [total, pending, step, BatchOp.added, Flush.held]
  | advance k n =>
    rw [step]
    cases hk : w.flushes[k]? with
    | none => simp [BatchOp.added]
    | some flush => simp [BatchOp.added, total_advance t id hk]

end BatchRun

/-- The statement for a user has the values of that user in the three maps, zero where it has no
entry. -/
theorem user_mem_writes {stores : BatchType → Store} {id quota usedQuota requestCount : ℤ} :
    Write.user id quota usedQuota requestCount ∈ writes stores ↔
      id ∈ userIDs stores ∧ quota = (stores .userQuota).get id ∧
        usedQuota = (stores .usedQuota).get id ∧ requestCount = (stores .requestCount).get id := by
  simp only [writes, List.mem_append, List.mem_map, reduceCtorEq, and_false, exists_false,
    false_or, Write.user.injEq]
  constructor
  · rintro ⟨j, hj, rfl, rfl, rfl, rfl⟩
    exact ⟨hj, rfl, rfl, rfl⟩
  · rintro ⟨hid, rfl, rfl, rfl⟩
    exact ⟨id, hid, rfl, rfl, rfl, rfl⟩

/-- **The batch queue conserves every delta.**  Whatever was added to a counter is in the database, in
the queue, or with a flush that has not written it yet; once all flushes are finished, in the
database or in the queue.  A flush writes each user of the three user maps with exactly the values
that user has there. -/
theorem batch_conserves (db : BatchDb) (ops : List BatchOp)
    (hrange : Runs.Guarded BatchRun.step BatchRun.InRange { db } ops) (t : BatchType) (id : ℤ) :
    let w := Runs.run BatchRun.step { db } ops
    let added := (ops.map fun op => op.added t id).sum
    w.db.counter t id + (w.stores t).get id + (w.flushes.map fun f => f.held t id).sum =
        db.counter t id + added ∧
      ((∀ f ∈ w.flushes, f.finished = true) →
        w.db.counter t id + (w.stores t).get id = db.counter t id + added) ∧
      ∀ stores quota usedQuota requestCount,
        Write.user id quota usedQuota requestCount ∈ writes stores ↔
          id ∈ userIDs stores ∧ quota = (stores .userQuota).get id ∧
            usedQuota = (stores .usedQuota).get id ∧
            requestCount = (stores .requestCount).get id := by
  intro w added
  have htotal : w.total t id = BatchRun.total t id { db } + added :=
    Runs.measure_eq (BatchRun.total_step t id) hrange
  have hstart : BatchRun.total t id { db } = db.counter t id := by
    simp [BatchRun.total, BatchRun.pending]
  rw [hstart, BatchRun.total, BatchRun.pending, ← add_assoc] at htotal
  refine ⟨htotal, fun hdone => ?_, fun _ _ _ _ => user_mem_writes⟩
  have hnone : (w.flushes.map (Flush.held t id)).sum = 0 := by
    refine List.sum_eq_zero fun x hx => ?_
    obtain ⟨f, hf, rfl⟩ := List.mem_map.mp hx
    exact Flush.held_of_finished (hdone f hf)
  rw [hnone, add_zero] at htotal
  exact htotal

/-- A record added behind the swap of its map waits for the next flush; one added before the swap of
another map is written along. -/
theorem batch_conserves_interleaved :
    let db : BatchDb := ⟨fun _ => ⟨0, 0, 0⟩, fun _ => ⟨0, 0⟩, fun _ => 0⟩
    let w := Runs.run BatchRun.step { db }
      ([.add .userQuota 7 5, .start, .advance 0 0, .advance 0 0, .add .userQuota 7 3,
        .add .usedQuota 7 2] ++ List.replicate 6 (.advance 0 0))
    w.db.counter .userQuota 7 = 5 ∧ w.db.counter .usedQuota 7 = 2 ∧
      w.db.counter .userQuota 7 + (w.stores .userQuota).get 7 = 0 + 8 :=
  ⟨by decide, by decide, (batch_conserves _ _ (by decide) .userQuota 7).2.1 (by decide)⟩

end Batch
