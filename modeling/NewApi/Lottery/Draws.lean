import NewApi.Lottery.Draw
import NewApi.Machinery.Runs

/-!
# Lottery/Draws — the pool, the accounts and the budget over whole runs

Draws by any users, one at a time, with whatever settings, clock and random number each of them
meets, between them designated prizes, recharges, usage and visits to the lottery page.

* `LotteryRun.step_recorded` — the record against the draws that were committed.
* `LotteryRun.Sound` — stocks against the draws that took from them, accounts against the record.
* `LotteryRun.step_sound` — every step keeps it, one case for each of the three writes a draw makes.
* `lottery_sound` — the lottery over whole runs, and what its next draw would do.
-/

namespace Lottery

open List LotteryDb Table

open Wallet (TopUp WalletUser)

/-- The database, with the draws committed so far. -/
structure LotteryRun where
  db : LotteryDb
  log : List Committed := []

/-- Draws, and what the administrator does. -/
inductive LotteryOp where
  | draw (env : LotteryEnv) (userId : ℤ) (ignoreWindow : Bool)
  /-- The administrator sets the next prize. -/
  | designate (quotaPerUnit value : ℚ)
  /-- Orders are paid, and wallets move. -/
  | recharge (orders : Table TopUp TopUp.tradeNo) (users : ℤ → Option WalletUser)
  | usage (quotaData : List QuotaData)
  /-- `GetLotteryStatus` and `PreviewLottery` make sure of the pool outside any transaction. -/
  | visit (env : LotteryEnv)

namespace LotteryRun

/-- One step. -/
def step (w : LotteryRun) : LotteryOp → LotteryRun
  | .draw env userId ignoreWindow =>
    match drawLottery env userId ignoreWindow w.db with
    | (.ok c, db) => { db, log := w.log ++ [c] }
    | (.error _, db) => { w with db }
  | .designate quotaPerUnit value => { w with db := setNextPrizeAmount quotaPerUnit value w.db }
  | .recharge orders users => { w with db := { w.db with orders, users } }
  | .usage quotaData => { w with db := { w.db with quotaData } }
  | .visit env => { w with db := (ensureLotteryPrizes env w.db).2 }

/-- How many committed draws took from the tier. -/
def taken (w : LotteryRun) (id : ℤ) : ℕ := w.log.countP fun c => c.tier = some id

/-- How many committed draws were the user's. -/
def drawnBy (w : LotteryRun) (userId : ℤ) : ℕ := w.log.countP fun c => c.draw.userId = userId

/-- The record is what it was when the run began, then the draws committed since. -/
def Recorded (before : List LotteryDraw) (w : LotteryRun) : Prop :=
  w.db.draws = before ++ w.log.map (·.draw)

/-- What holds of the pool and the accounts. -/
structure Sound (w : LotteryRun) : Prop where
  pool : ∀ p ∈ w.db.prizes.rows, 0 ≤ p.stock ∧ p.initialStock - p.stock = w.taken p.id
  accounts : ∀ a ∈ w.db.accounts.rows, a.drawsUsed = w.db.drawsOf a.userId
  /-- A pool that was taken from is not empty. -/
  kept : w.db.prizes.rows = [] → ∀ c ∈ w.log, c.tier = none
  /-- Who has drawn has an account. -/
  present : ∀ c ∈ w.log, (w.db.accounts.find? c.draw.userId).isSome

variable {before : List LotteryDraw} {w : LotteryRun} {env : LotteryEnv} {userId : ℤ}
  {c : Committed} {db : LotteryDb}

/-! ## The record -/

/-- Making sure of an account touches neither orders nor record. -/
theorem ensureLotteryAccount_same (env : LotteryEnv) (userId : ℤ) (db : LotteryDb) :
    (ensureLotteryAccount env userId db).2.orders = db.orders ∧
      (ensureLotteryAccount env userId db).2.draws = db.draws := by
  obtain hsame | ⟨accounts, -, hdb⟩ := ensureLotteryAccount_accounts env userId db
  · rw [hsame]; exact ⟨rfl, rfl⟩
  · rw [hdb]; exact ⟨rfl, rfl⟩

/-- …nor does making sure of the pool. -/
theorem ensureLotteryPrizes_same (env : LotteryEnv) (db : LotteryDb) :
    (ensureLotteryPrizes env db).2.orders = db.orders ∧
      (ensureLotteryPrizes env db).2.draws = db.draws := by
  obtain hsame | ⟨-, prizes, n, hdb, -⟩ := ensureLotteryPrizes_pool env db
  · rw [hsame]; exact ⟨rfl, rfl⟩
  · rw [hdb]; exact ⟨rfl, rfl⟩

theorem prepared_same (env : LotteryEnv) (userId : ℤ) (db : LotteryDb) :
    (ensureLotteryPrizes env (ensureLotteryAccount env userId db).2).2.orders = db.orders ∧
      (ensureLotteryPrizes env (ensureLotteryAccount env userId db).2).2.draws = db.draws := by
  obtain ⟨horders, hdraws⟩ := ensureLotteryAccount_same env userId db
  rw [← horders, ← hdraws]
  exact ensureLotteryPrizes_same env _

/-- **A committed draw is recorded, a failed one is not**, and nothing else touches the record. -/
theorem step_recorded (w : LotteryRun) (op : LotteryOp) (h : Recorded before w) :
    Recorded before (w.step op) := by
  cases op with
  | draw env userId ignoreWindow =>
    rw [step]
    rcases hdraw : drawLottery env userId ignoreWindow w.db with ⟨e | c, db⟩
    · have hsame : db.draws = w.db.draws := by
        obtain rfl | rfl := drawLottery_rolls_back hdraw
        · rfl
        · exact (ensureLotteryAccount_same env userId w.db).2
      exact hsame.trans h
    · have hdraws : db.draws = w.db.draws ++ [c.draw] := by
        rw [(drawLottery_eq_ok hdraw).draws, (prepared_same env userId w.db).2]
      rw [Recorded, hdraws, h, map_append, append_assoc]
      rfl
  | designate quotaPerUnit value =>
    rw [step, setNextPrizeAmount]
    split
    · exact h
    · split
      · exact h
      · exact h
  | recharge orders users => exact h
  | usage quotaData => exact h
  | visit env => exact (ensureLotteryPrizes_same env w.db).2.trans h

/-! ## The three writes of a draw -/

/-- **The pool is made sure of**: one that is replaced had not been taken from. -/
theorem Sound.pooled (h : Sound w) (hrecord : Recorded before w) (env : LotteryEnv) :
    Sound { w with db := (ensureLotteryPrizes env w.db).2 } := by
  obtain hsame | ⟨hnone, prizes, n, hdb, hrows⟩ := ensureLotteryPrizes_pool env w.db
  · rw [hsame]
    exact h
  · have htiers : ∀ c ∈ w.log, c.tier = none := by
      obtain hempty | hdraws := hnone
      · exact h.kept hempty
      · have hlog : w.log = [] := by
          rw [Recorded, hdraws] at hrecord
          exact map_eq_nil_iff.mp (append_eq_nil_iff.mp hrecord.symm).2
        simp [hlog]
    rw [hdb]
    refine ⟨fun p hp => ?_, h.accounts, fun _ => htiers, h.present⟩
    have htaken : w.taken p.id = 0 :=
      countP_eq_zero.mpr fun c hc => by simp [htiers c hc]
    obtain ⟨hstock, heq⟩ := hrows p hp
    exact ⟨hstock, by rw [taken] at htaken ⊢; rw [htaken, heq]; simp⟩

/-- **The account is made sure of**: a new one starts at the draws on record. -/
theorem Sound.opened (h : Sound w) (env : LotteryEnv) (userId : ℤ) :
    Sound { w with db := (ensureLotteryAccount env userId w.db).2 } := by
  obtain hsame | ⟨accounts, hcreate, hdb⟩ := ensureLotteryAccount_accounts env userId w.db
  · rw [hsame]
    exact h
  · rw [hdb]
    refine ⟨h.pool, fun a ha => ?_, h.kept, fun c hc => ?_⟩
    · dsimp only at ha
      rw [rows_create hcreate, mem_append, mem_singleton] at ha
      obtain ha | rfl := ha
      · exact h.accounts a ha
      · rfl
    · rw [find?_create hcreate]
      split
      · rfl
      · exact h.present c hc

theorem drawsOf_append {db db' : LotteryDb} {d : LotteryDraw} (h : db'.draws = db.draws ++ [d])
    (userId : ℤ) :
    (db'.drawsOf userId : ℤ) = db.drawsOf userId + if d.userId = userId then 1 else 0 := by
  rw [drawsOf, h, countP_append, drawsOf, countP_singleton]
  by_cases huser : d.userId = userId <;> simp [huser]

theorem taken_append (log : List Committed) (c : Committed) (id : ℤ) :
    ((LotteryRun.mk db (log ++ [c])).taken id : ℤ) =
      (LotteryRun.mk db log).taken id + if c.tier = some id then 1 else 0 := by
  rw [taken, countP_append, taken, countP_singleton]
  by_cases htier : c.tier = some id <;> simp [htier]

section

variable (h : Sound w)

include h

theorem Sound.drawn_accounts (hdraw : Drawn env userId w.db c db) :
    ∀ a ∈ db.accounts.rows, a.drawsUsed = db.drawsOf a.userId := by
  obtain ⟨own, hfound, -, hsave⟩ := hdraw.account
  have hkey : own.userId = userId := key_of_find? hfound
  intro a ha
  rw [hsave] at ha
  rw [drawsOf_append hdraw.draws, hdraw.user]
  obtain rfl | ⟨ha, hne⟩ := mem_save ha
  · rw [if_pos hkey.symm, h.accounts own (mem_of_find? hfound)]
  · have hother : userId ≠ a.userId := fun heq => hne (heq.symm.trans hkey.symm)
    rw [if_neg hother, h.accounts a ha, add_zero]

theorem Sound.drawn_pool (hpool : TakenFrom w.db.prizes c.tier db.prizes) :
    ∀ p ∈ db.prizes.rows, 0 ≤ p.stock ∧
      p.initialStock - p.stock = (LotteryRun.mk db (w.log ++ [c])).taken p.id := by
  intro p hp
  rw [taken_append]
  obtain ⟨htier, hsame⟩ | ⟨q, htier, hfound, hstock, hsave⟩ := hpool
  · rw [hsame] at hp
    obtain ⟨hpos, heq⟩ := h.pool p hp
    rw [htier, if_neg (by simp)]
    exact ⟨hpos, by rw [heq, add_zero]; rfl⟩
  · rw [hsave] at hp
    obtain rfl | ⟨hp, hne⟩ := mem_save hp
    · obtain ⟨-, heq⟩ := h.pool q (mem_of_find? hfound)
      rw [htier, if_pos rfl]
      refine ⟨by dsimp only; omega, ?_⟩
      change q.initialStock - (q.stock - 1) = w.taken q.id + 1
      omega
    · obtain ⟨hpos, heq⟩ := h.pool p hp
      have hother : ¬ some q.id = some p.id := fun hid => hne (Option.some.inj hid).symm
      rw [htier, if_neg hother]
      exact ⟨hpos, by rw [heq, add_zero]; rfl⟩

theorem Sound.drawn_present (hdraw : Drawn env userId w.db c db) :
    ∀ d ∈ w.log ++ [c], (db.accounts.find? d.draw.userId).isSome := by
  obtain ⟨own, hfound, -, hsave⟩ := hdraw.account
  have hold : ∀ d ∈ w.log ++ [c], (w.db.accounts.find? d.draw.userId).isSome := by
    intro d hd
    obtain hd | hd := mem_append.mp hd
    · exact h.present d hd
    · rw [mem_singleton.mp hd, hdraw.user, hfound]
      rfl
  intro d hd
  rw [hsave, find?_save]
  split
  · rw [Option.isSome_map]
    exact hold d hd
  · exact hold d hd

/-- **The draw itself.** -/
theorem Sound.drawn (hdraw : Drawn env userId w.db c db) :
    Sound { db, log := w.log ++ [c] } := by
  refine ⟨h.drawn_pool hdraw.pool, h.drawn_accounts hdraw, fun hempty => ?_,
    h.drawn_present hdraw⟩
  obtain ⟨htier, hsame⟩ | ⟨q, -, hfound, -, hsave⟩ := hdraw.pool
  · rw [hsame] at hempty
    intro d hd
    obtain hd | hd := mem_append.mp hd
    · exact h.kept hempty d hd
    · rw [mem_singleton.mp hd]
      exact htier
  · rw [hsave, rows_save_eq_nil] at hempty
    have hmem := mem_of_find? hfound
    rw [hempty] at hmem
    cases hmem

end

/-! ## Runs -/

/-- A write to the tables the invariant does not read. -/
theorem Sound.of_same (h : Sound w) (hprizes : db.prizes = w.db.prizes)
    (haccounts : db.accounts = w.db.accounts) (hdraws : db.draws = w.db.draws) :
    Sound { w with db } := by
  obtain ⟨hpool, hacc, hkept, hpresent⟩ := h
  refine ⟨by rw [hprizes]; exact hpool, ?_, by rw [hprizes]; exact hkept,
    by rw [haccounts]; exact hpresent⟩
  rw [haccounts]
  unfold drawsOf
  rw [hdraws]
  exact hacc

theorem step_sound (w : LotteryRun) (op : LotteryOp) (hrecord : Recorded before w)
    (h : Sound w) : Sound (w.step op) := by
  cases op with
  | draw env userId ignoreWindow =>
    rw [step]
    rcases hdraw : drawLottery env userId ignoreWindow w.db with ⟨e | c, db⟩
    · obtain hsame | hopened := drawLottery_rolls_back hdraw
      · rw [hsame]
        exact h
      · rw [hopened]
        exact h.opened env userId
    · have hopened : Recorded before { w with db := (ensureLotteryAccount env userId w.db).2 } :=
        (ensureLotteryAccount_same env userId w.db).2.trans hrecord
      exact ((h.opened env userId).pooled hopened env).drawn (drawLottery_eq_ok hdraw)
  | designate quotaPerUnit value =>
    rw [step, setNextPrizeAmount]
    split
    · exact h
    · split
      · exact h.of_same rfl rfl rfl
      · exact h
  | recharge orders users => exact h.of_same rfl rfl rfl
  | usage quotaData => exact h.of_same rfl rfl rfl
  | visit env => exact h.pooled hrecord env

end LotteryRun

/-- The lottery before its first draw: whole stocks, and accounts that agree with the record. -/
structure Opened (db : LotteryDb) : Prop where
  pool : ∀ p ∈ db.prizes.rows, p.Untouched
  accounts : ∀ a ∈ db.accounts.rows, a.drawsUsed = db.drawsOf a.userId

open LotteryRun

theorem Opened.sound {db : LotteryDb} (h : Opened db) : Sound ⟨db, []⟩ := by
  refine ⟨fun p hp => ?_, h.accounts, by simp, by simp⟩
  obtain ⟨hstock, heq⟩ := h.pool p hp
  exact ⟨hstock, by rw [heq, sub_self]; rfl⟩

variable {w : LotteryRun} {before : List LotteryDraw}

theorem recorded_nil (db : LotteryDb) : Recorded db.draws ⟨db, []⟩ := by simp [Recorded]

theorem LotteryRun.Sound.drawsUsed (h : Sound w) (hrecord : Recorded before w)
    {a : LotteryAccount} (ha : a ∈ w.db.accounts.rows) :
    a.drawsUsed = (before.countP fun d => d.userId = a.userId) + w.drawnBy a.userId := by
  rw [h.accounts a ha, drawsOf, hrecord, countP_append, countP_map]
  rfl

theorem LotteryRun.Sound.drawnBy_eq_zero (h : Sound w) {userId : ℤ}
    (hnone : w.db.accounts.find? userId = none) : w.drawnBy userId = 0 := by
  refine countP_eq_zero.mpr fun c hc huser => ?_
  have hpresent := h.present c hc
  rw [of_decide_eq_true huser, hnone] at hpresent
  cases hpresent

/-! ## One committed draw -/

section

variable {env : LotteryEnv} {userId : ℤ} {ignoreWindow : Bool} {c : Committed} {db db' : LotteryDb}

theorem rechargeMoney_congr {db₁ : LotteryDb} (h : db₁.orders = db.orders) (s : LotterySetting)
    (userId : ℤ) : db₁.lotteryRechargeMoney s userId = db.lotteryRechargeMoney s userId := by
  rw [lotteryRechargeMoney, h, lotteryRechargeMoney]

theorem issuedAmount_zero (db : LotteryDb) :
    db.lotteryIssuedAmount 0 = (db.draws.map (·.amount)).sum := by
  rw [lotteryIssuedAmount, filter_eq_self.mpr (by simp)]

section

variable (h : drawLottery env userId ignoreWindow db = (.ok c, db'))

include h

/-- **A committed draw was allowed by the recharge of its user.** -/
theorem drawsUsed_le_of_committed :
    ∃ a, db'.accounts.find? userId = some a ∧
      a.drawsUsed ≤ lotteryAllowedDraws (db.lotteryRechargeMoney env.setting userId)
        env.setting.effectiveThreshold := by
  obtain ⟨a, hfound, hlt, hsave⟩ := (drawLottery_eq_ok h).account
  rw [rechargeMoney_congr (prepared_same env userId db).1] at hlt
  have hkey : a.userId = userId := key_of_find? hfound
  refine ⟨{ a with drawsUsed := a.drawsUsed + 1 }, ?_, hlt⟩
  rw [hsave, find?_save, if_pos hkey.symm, hfound]
  rfl

/-- **…and, if it was not designated, paid by the budget.** -/
theorem issued_le_of_committed (hdesignated : c.designated = false) :
    db'.lotteryIssuedAmount 0 ≤ db.lotteryBudget env := by
  have hdraw := drawLottery_eq_ok h
  obtain ⟨horders, hdraws⟩ := prepared_same env userId db
  have hbudget := hdraw.budget hdesignated
  rw [lotteryBudgetRemaining, lotteryBudget, rechargeMoney_congr horders,
    ← lotteryBudget, issuedAmount_zero, hdraws] at hbudget
  rw [issuedAmount_zero, hdraw.draws, hdraws, map_append, sum_append, map_singleton,
    sum_singleton]
  linarith

end

/-- **A draw that fails** leaves the database as it was, but for an account at the draws on
record. -/
theorem failed_draw (env : LotteryEnv) {e : LotteryError}
    (h : drawLottery env userId ignoreWindow db = (.error e, db')) :
    db' = db ∨ ∃ accounts, db.accounts.create ⟨userId, db.drawsOf userId⟩ = some accounts ∧
      db' = { db with accounts } := by
  obtain hsame | hopened := drawLottery_rolls_back h
  · exact .inl hsame
  · rw [hopened]
    exact ensureLotteryAccount_accounts env userId db

end

/-! ## The lottery over whole runs -/

/-- **The lottery over whole runs**, from any state before its first draw.  No tier is overdrawn,
and what its stock lacks are the draws that took from it; an account counts its user's draws.  The
next draw, if it commits, is one the recharge of its user allows and, unless designated, leaves no
more issued than the recharges of all pay for; if it fails, it leaves at most a new account. -/
theorem lottery_sound {db : LotteryDb} (h : Opened db) (ops : List LotteryOp) :
    let w := Runs.run step ⟨db, []⟩ ops
    (∀ p ∈ w.db.prizes.rows, 0 ≤ p.stock ∧ p.initialStock - p.stock = w.taken p.id) ∧
    (∀ a ∈ w.db.accounts.rows, a.drawsUsed = db.drawsOf a.userId + w.drawnBy a.userId) ∧
    (∀ userId, w.db.accounts.find? userId = none → w.drawnBy userId = 0) ∧
    ∀ env userId ignoreWindow,
      (∀ c db', drawLottery env userId ignoreWindow w.db = (.ok c, db') →
        (∃ a, db'.accounts.find? userId = some a ∧
          a.drawsUsed ≤ lotteryAllowedDraws (w.db.lotteryRechargeMoney env.setting userId)
            env.setting.effectiveThreshold) ∧
        (c.designated = false → db'.lotteryIssuedAmount 0 ≤
          w.db.lotteryRechargeMoney env.setting 0 / env.effectivePrice *
            env.setting.effectiveRatio - env.setting.reserveQuota)) ∧
      ∀ e db', drawLottery env userId ignoreWindow w.db = (.error e, db') →
        db' = w.db ∨
          ∃ accounts, w.db.accounts.create ⟨userId, w.db.drawsOf userId⟩ = some accounts ∧
            db' = { w.db with accounts } := by
  intro w
  obtain ⟨hrecord, hsound⟩ : Recorded db.draws w ∧ Sound w :=
    Runs.stable (I := fun w => Recorded db.draws w ∧ Sound w)
      (fun w op hw => ⟨step_recorded w op hw.1, step_sound w op hw.1 hw.2⟩)
      ⟨recorded_nil db, h.sound⟩ ops
  refine ⟨hsound.pool, fun a ha => hsound.drawsUsed hrecord ha, fun u hu => hsound.drawnBy_eq_zero hu,
    fun env userId ignoreWindow => ⟨fun c db' hdraw => ⟨?_, ?_⟩, fun e db' hdraw => ?_⟩⟩
  · exact drawsUsed_le_of_committed hdraw
  · exact issued_le_of_committed hdraw
  · exact failed_draw env hdraw

/-- A hundred, paid by user `7`. -/
def hundredPaid : TopUp where
  userId := 7
  amount := 100
  money := 100
  tradeNo := "T1"
  paymentProvider := .epay
  completeTime := 5
  status := .success

/-- A lottery nobody has looked at, with one recharge. -/
def oneRecharge : LotteryDb where
  prizes := ∅
  accounts := ∅
  draws := []
  orders := ⟨[hundredPaid], by decide⟩
  users := fun id => if id = 7 then some { quota := 0 } else none

/-- A draw in the middle of the period, with the random number `rand`. -/
def halfway (rand : ℚ) : LotteryEnv where
  setting := { startTime := 0, endTime := 10 }
  price := 5
  quotaPerUnit := 500000
  now := 6
  rand := rand

/-- Two draws by weight, then a designated one of an amount that no tier has. -/
theorem lottery_sound_three_draws :
    let w := Runs.run step ⟨oneRecharge, []⟩ [.draw (halfway 0) 7 false,
      .draw (halfway (9 / 10)) 7 false, .designate 500000 3, .draw (halfway 0) 7 false]
    (w.log.map fun c => (c.draw.amount, c.tier, c.designated)) =
      [(1, some 1, false), (2, some 2, false), (3, none, true)] ∧
    (∀ p ∈ w.db.prizes.rows, 0 ≤ p.stock ∧ p.initialStock - p.stock = w.taken p.id) ∧
    ∀ a ∈ w.db.accounts.rows, a.drawsUsed = oneRecharge.drawsOf a.userId + w.drawnBy a.userId := by
  have hopened : Opened oneRecharge := ⟨nofun, nofun⟩
  have h := lottery_sound hopened [.draw (halfway 0) 7 false,
    .draw (halfway (9 / 10)) 7 false, .designate 500000 3, .draw (halfway 0) 7 false]
  exact ⟨by decide +kernel, h.1, h.2.1⟩

/-- **Draws are recorded once and for good**: a run adds those it commits, in order. -/
theorem draws_recorded (db : LotteryDb) (ops : List LotteryOp) :
    let w := Runs.run step ⟨db, []⟩ ops
    w.db.draws = db.draws ++ w.log.map (·.draw) :=
  Runs.stable step_recorded (recorded_nil db) ops

end Lottery
