import NewApi.Machinery.Runs
import NewApi.Wallet.Redemption

/-!
# Wallet/Codes — one redemption code under redemptions and edits

Redemptions by any users, with edits of the code whose read and write are two steps apart.  An edit
of the name, the quota or the expiry writes the status column too, as it read it; that undoes a
redemption committed in between.

* `CodeRun.step_stands` — what one step keeps, if no such edit is written.
* `code_credited_once` — the code over whole runs.
* `stale_edit_credits_twice` — what such an edit leads to.
-/

namespace Wallet

open RedemptionDb

/-- An edit between its read and its write. -/
structure OpenEdit where
  statusOnly : Bool
  row : Redemption

/-- The database and the open edits, with what has been seen of one code. -/
structure CodeRun where
  db : RedemptionDb
  edits : List OpenEdit := []
  /-- How often a wallet has been credited for the code. -/
  credits : ℕ := 0
  /-- It has been, and its status has not been set explicitly since. -/
  paid : Bool := false
  /-- How often its status has been set explicitly. -/
  statusSets : ℕ := 0

/-- Redemptions, and what the administrator does. -/
inductive CodeOp where
  | redeem (env : TopUpEnv) (key : String) (userId : ℤ)
  | openEdit (edit : RedemptionEdit) (now : ℤ)
  | writeEdit (i : ℕ)
  /-- Anything else that happens to the database. -/
  | others (db : RedemptionDb)

namespace CodeRun

variable (id : ℤ)

/-- A redemption was paid out. -/
def redeemed (w : CodeRun) (key : String) (db : RedemptionDb) : CodeRun :=
  if (w.db.byKey key).map (·.id) = some id then
    { w with db, credits := w.credits + 1, paid := true }
  else { w with db }

/-- The edit `e` is written. -/
def written (w : CodeRun) (e : OpenEdit) (edits : List OpenEdit) : CodeRun :=
  let db := updateRedemption e.row w.db
  if e.statusOnly = true ∧ e.row.id = id ∧ (updateTarget e.row w.db).isSome then
    { w with db, edits, paid := false, statusSets := w.statusSets + 1 }
  else { w with db, edits }

/-- One step. -/
def step (w : CodeRun) : CodeOp → CodeRun
  | .redeem env key userId =>
    match redeem env key userId w.db with
    | (.ok _, db) => w.redeemed id key db
    | (.error _, db) => { w with db }
  | .openEdit edit now =>
    match readForUpdate edit now w.db with
    | none => w
    | some row => { w with edits := w.edits ++ [⟨edit.statusOnly, row⟩] }
  | .writeEdit i =>
    match w.edits[i]? with
    | none => w
    | some e => w.written id e (w.edits.eraseIdx i)
  | .others db => if db.codes.find? id = w.db.codes.find? id then { w with db } else w

/-- No edit of the code's other fields that found it unused is written once it is used. -/
def NotStale (w : CodeRun) : CodeOp → Prop
  | .writeEdit i => ∀ e ∈ w.edits[i]?, e.statusOnly = false → e.row.id = id →
      (w.db.codes.find? id).map (·.status) = some .used → e.row.status = .used
  | _ => True

instance : ∀ (w : CodeRun) (op : CodeOp), Decidable (NotStale id w op)
  | w, .writeEdit i => inferInstanceAs (Decidable (∀ e ∈ w.edits[i]?, _ → _ → _ → _))
  | _, .redeem _ _ _ => inferInstanceAs (Decidable True)
  | _, .openEdit _ _ => inferInstanceAs (Decidable True)
  | _, .others _ => inferInstanceAs (Decidable True)

/-- What holds of the code. -/
structure Stands (w : CodeRun) : Prop where
  used : w.paid = true → (w.db.codes.find? id).map (·.status) = some .used
  credits : w.credits ≤ w.statusSets + if w.paid then 1 else 0

variable {id} {w : CodeRun}

/-- A write that leaves the code's row alone changes nothing. -/
theorem Stands.of_find? (h : Stands id w) {db : RedemptionDb}
    (hfind : db.codes.find? id = w.db.codes.find? id) (edits : List OpenEdit) :
    Stands id { w with db, edits } :=
  ⟨fun hp => by rw [hfind]; exact h.used hp, h.credits⟩

theorem Stands.redeemed (h : Stands id w) {env : TopUpEnv} {key : String} {userId q : ℤ}
    {db : RedemptionDb} (hredeem : redeem env key userId w.db = (.ok q, db)) :
    Stands id (w.redeemed id key db) := by
  obtain ⟨r, users, hkey, henabled, -, -, rfl⟩ := redeem_eq_ok hredeem
  have hfound := (byId_eq_some.mp (byId_of_byKey hkey)).1
  rw [CodeRun.redeemed, hkey, Option.map_some]
  by_cases hid : r.id = id
  · subst hid
    -- the code was enabled, so it had not been paid out
    have hunpaid : w.paid = false := by
      rw [← Bool.not_eq_true]
      intro hp
      have hused := h.used hp
      rw [hfound, Option.map_some, henabled] at hused
      cases hused
    rw [if_pos rfl]
    refine ⟨fun _ => ?_, ?_⟩
    · have hsave : (w.db.codes.save (r.redeemed env.now userId)).find? r.id = some _ :=
        Table.find?_save_self hfound
      rw [hsave]
      rfl
    · have := h.credits
      rw [hunpaid] at this
      simpa using this
  · rw [if_neg fun heq => hid (Option.some.inj heq)]
    have hkey : id ≠ (r.redeemed env.now userId).id := fun heq => hid heq.symm
    exact h.of_find? (Table.find?_save_of_ne _ hkey) w.edits

/-- What an edit leaves of the code's status. -/
theorem find?_updateRedemption (row : Redemption) (db : RedemptionDb) (id : ℤ) :
    (updateRedemption row db).codes.find? id = db.codes.find? id ∨
      row.id = id ∧ (updateTarget row db).isSome ∧
        ((updateRedemption row db).codes.find? id).map (·.status) = some row.status := by
  unfold updateRedemption
  cases htarget : updateTarget row db with
  | none => exact .inl rfl
  | some current =>
    have hcurrent : db.codes.find? row.id = some current := by
      unfold updateTarget at htarget
      split at htarget
      · cases htarget
      · exact (byId_eq_some.mp htarget).1
    have hrow := Table.key_of_find? hcurrent
    have hkey : (current.overwrite row).id = row.id := hrow
    by_cases hid : row.id = id
    · subst hid
      refine .inr ⟨rfl, rfl, ?_⟩
      rw [Table.find?_save, if_pos hkey.symm, hcurrent]
      rfl
    · exact .inl (Table.find?_save_of_ne _ fun heq => hid (hkey ▸ heq.symm))

theorem Stands.written (h : Stands id w) {e : OpenEdit}
    (hfresh : e.statusOnly = false → e.row.id = id →
      (w.db.codes.find? id).map (·.status) = some .used → e.row.status = .used)
    (edits : List OpenEdit) : Stands id (w.written id e edits) := by
  unfold CodeRun.written
  dsimp only
  split_ifs with hset
  · refine ⟨nofun, ?_⟩
    have := h.credits
    dsimp only
    split_ifs at this <;> simp <;> omega
  · rcases find?_updateRedemption e.row w.db id with hsame | ⟨hid, htarget, hstatus⟩
    · exact h.of_find? hsame edits
    · have honly : e.statusOnly = false := by
        rw [← Bool.not_eq_true]
        exact fun ho => hset ⟨ho, hid, htarget⟩
      exact ⟨fun hp => by rw [hstatus, hfresh honly hid (h.used hp)], h.credits⟩

/-- **One step**: a redemption finds an unpaid code, and nothing but an explicit setting of the
status makes a paid code redeemable again. -/
theorem step_stands (w : CodeRun) (op : CodeOp) (h : Stands id w) (hfresh : NotStale id w op) :
    Stands id (w.step id op) := by
  cases op with
  | redeem env key userId =>
    rw [step]
    rcases hredeem : redeem env key userId w.db with ⟨e | q, db⟩
    · rw [clean_redeem env key userId w.db e db hredeem]
      exact h
    · exact h.redeemed hredeem
  | openEdit edit now =>
    rw [step]
    split
    · exact h
    · exact ⟨h.used, h.credits⟩
  | writeEdit i =>
    rw [step]
    cases he : w.edits[i]? with
    | none => exact h
    | some e => exact h.written (hfresh e he) _
  | others db =>
    rw [step]
    split
    · next hsame => exact h.of_find? hsame w.edits
    · exact h

/-! ## Runs without status edits -/

/-- No open edit is one of the status, and none has been written. -/
def Unset (w : CodeRun) : Prop := w.statusSets = 0 ∧ ∀ e ∈ w.edits, e.statusOnly = false

theorem step_unset (w : CodeRun) (op : CodeOp) (h : Unset w)
    (hop : ∀ edit now, op = .openEdit edit now → edit.statusOnly = false) :
    Unset (w.step id op) := by
  cases op with
  | redeem env key userId =>
    rw [step]
    rcases redeem env key userId w.db with ⟨e | q, db⟩
    · exact h
    · dsimp only [CodeRun.redeemed]
      split <;> exact h
  | openEdit edit now =>
    rw [step]
    split
    · exact h
    · refine ⟨h.1, fun e he => ?_⟩
      rcases List.mem_append.mp he with he | he
      · exact h.2 e he
      · rw [List.mem_singleton.mp he]
        exact hop edit now rfl
  | writeEdit i =>
    rw [step]
    cases he : w.edits[i]? with
    | none => exact h
    | some e =>
      have honly := h.2 e (List.mem_of_getElem? he)
      refine ⟨?_, ?_⟩
      · simp [CodeRun.written, honly, h.1]
      · simp only [CodeRun.written, honly, Bool.false_eq_true, false_and, if_false]
        exact fun e he => h.2 e (List.mem_of_mem_eraseIdx he)
  | others db =>
    rw [step]
    split <;> exact h

end CodeRun

/-- **A redemption code is credited at most once**, over redemptions by any users and edits of its
name, quota and expiry; and once it is paid its status stays `used` until it is set explicitly.
Both need that no edit that found the code unused is written after its redemption. -/
theorem code_credited_once (id : ℤ) (db : RedemptionDb) (ops : List CodeOp)
    (hfresh : Runs.Guarded (CodeRun.step id) (CodeRun.NotStale id) { db } ops) :
    let w := Runs.run (CodeRun.step id) { db } ops
    ((∀ op ∈ ops, ∀ edit now, op = .openEdit edit now → edit.statusOnly = false) →
      w.credits ≤ 1) ∧
    (w.paid = true → (w.db.codes.find? id).map (·.status) = some .used) := by
  intro w
  have hstands : CodeRun.Stands id w :=
    Runs.invariant CodeRun.step_stands ⟨nofun, Nat.zero_le _⟩ hfresh
  refine ⟨fun hops => ?_, hstands.used⟩
  have hlabels : Runs.Guarded (CodeRun.step id) (fun _ op => ∀ edit now,
      op = .openEdit edit now → edit.statusOnly = false) { db } ops :=
    Runs.guarded_of_forall_mem hops
  have hstart : CodeRun.Unset { db } := ⟨rfl, fun e he => absurd he List.not_mem_nil⟩
  have hunset : CodeRun.Unset w := Runs.invariant CodeRun.step_unset hstart hlabels
  have hcredits := hstands.credits
  rw [hunset.1] at hcredits
  split_ifs at hcredits <;> omega

/-- One code over a quota of 100, and two users. -/
def oneCode : RedemptionDb where
  codes := ⟨[{ id := 1, key := "k", quota := 100 }], List.nodup_singleton _⟩
  users := fun id => if id = 1 ∨ id = 2 then some { quota := 0 } else none

/-- An edit read and written, then two users at the code. -/
theorem code_credited_once_edited :
    (Runs.run (CodeRun.step 1) { db := oneCode }
      [.openEdit { id := 1, statusOnly := false, quota := 200 } 0, .writeEdit 0,
        .redeem {} "k" 1, .redeem {} "k" 2]).credits ≤ 1 :=
  (code_credited_once 1 oneCode _ (by decide)).1 (by simp)

/-- **An edit written over a redemption** makes the code redeemable once more. -/
theorem stale_edit_credits_twice :
    (Runs.run (CodeRun.step 1) { db := oneCode }
      [.openEdit { id := 1, statusOnly := false, quota := 200 } 0, .redeem {} "k" 1, .writeEdit 0,
        .redeem {} "k" 2]).credits = 2 := by
  decide

end Wallet
