import NewApi.Lottery.Pool
import NewApi.Wallet.TopUp

/-!
# Lottery/Draw — one draw

`DrawLottery` of `model/lottery.go`: the account is made sure of first, on its own; then one
transaction builds the pool if need be, locks the account and the pool, chooses a prize, takes the
draw and the stock by compare-and-swap, credits the wallet and records the draw.  A designated
prize skips the budget and the weights, and takes stock only if a tier in stock has its amount.

* `ensureLotteryPrizes_pool` — what happens to the pool when it is made sure of.
* `Drawn`, `drawTransaction_eq_ok` — everything a committed draw did.
* `drawLottery_rolls_back` — what one that fails leaves.
-/

namespace Lottery

open Tx Prod

open Wallet (TopUp WalletUser CreditError creditTopUpQuota walletQuotaFromDecimalStrict topUpQuota)

/-! ## The tables -/

/-- One row per user; `drawsUsed` is what the compare-and-swap moves. -/
structure LotteryAccount where
  userId : ℤ
  drawsUsed : ℤ
  deriving DecidableEq

/-- The audit record; the snapshot is kept as the pairs it prints. -/
structure LotteryDraw where
  userId : ℤ
  amount : ℚ
  quota : ℤ
  userFactor : ℚ
  budgetFactor : ℚ
  stockSnapshot : List (ℚ × ℤ)
  createdAt : ℤ
  deriving DecidableEq

/-- The columns of `quota_data` that the usage statistics read. -/
structure QuotaData where
  userId : ℤ
  createdAt : ℤ
  quota : ℤ
  deriving DecidableEq

/-- The tables of the lottery. -/
structure LotteryDb where
  prizes : Table LotteryPrize LotteryPrize.id
  nextPrizeId : ℤ := 1
  accounts : Table LotteryAccount LotteryAccount.userId
  draws : List LotteryDraw
  /-- The option row `lottery_setting.next_prize_amount`, if its text is a number. -/
  nextPrizeAmount : Option ℚ := none
  orders : Table TopUp TopUp.tradeNo
  users : ℤ → Option WalletUser
  quotaData : List QuotaData := []

/-- Why a draw is refused. -/
inductive LotteryError where
  | inactive
  | noDraws
  | poolExhausted
  | refilling
  | retry
  | recordNotFound
  | invalidPrizeQuota
  | credit (e : CreditError)
  | database
  deriving DecidableEq

/-- The statements of a draw, any of which the database may fail. -/
inductive LotteryStatement where
  | countAccounts | createAccount
  | findPrizes | countDraws | deletePrizes | createPrize (amount : ℚ)
  | lockAccount | recharge | lockPrizes | readOption | takeOption | budget | usage
  | takeDraw | takeStock | credit | createDraw | commit
  deriving DecidableEq

/-- What a draw meets besides the database: the settings, the clock and the random number. -/
structure LotteryEnv where
  setting : LotterySetting
  price : ℚ
  quotaPerUnit : ℚ
  now : ℤ
  rand : ℚ
  /-- Another writer changed the option row between its read and the compare-and-swap. -/
  optionMoved : Bool := false
  failing : Option LotteryStatement := none

namespace LotteryDb

variable (db : LotteryDb)

/-- `Order("amount").Find`. -/
def prizesByAmount : List LotteryPrize :=
  db.prizes.rows.insertionSort fun p q => p.amount ≤ q.amount

/-- How many draws of `userId` are recorded. -/
def drawsOf (userId : ℤ) : ℕ := db.draws.countP fun d => d.userId = userId

/-- The orders that count as recharges. -/
def recharged (s : LotterySetting) (userId : ℤ) (o : TopUp) : Prop :=
  o.status = .success ∧ o.completeTime ≥ s.startTime ∧ o.completeTime < s.endTime ∧
    o.paymentProvider ≠ .balance ∧ o.paymentMethod ≠ "balance" ∧ (userId > 0 → o.userId = userId)

instance (s : LotterySetting) (userId : ℤ) (o : TopUp) : Decidable (recharged s userId o) :=
  inferInstanceAs (Decidable (_ ∧ _ ∧ _ ∧ _ ∧ _ ∧ (_ → _)))

/-- `lotteryRechargeMoney`; user `0` is the whole site. -/
def lotteryRechargeMoney (s : LotterySetting) (userId : ℤ) : ℚ :=
  ((db.orders.rows.filter fun o => recharged s userId o).map (·.money)).sum

/-- What a user has won, or all of them for user `0`. -/
def lotteryIssuedAmount (userId : ℤ) : ℚ :=
  ((db.draws.filter fun d => userId > 0 → d.userId = userId).map (·.amount)).sum

/-- `lotteryUsageStats`: the units used since `since`, and on how many days. -/
def lotteryUsageStats (quotaPerUnit : ℚ) (userId since : ℤ) : ℚ × ℕ :=
  let rows := db.quotaData.filter fun q => q.userId = userId ∧ q.createdAt ≥ since
  (((rows.map (·.quota)).sum : ℤ) / quotaPerUnit,
    (rows.map fun q => q.createdAt - q.createdAt.tmod 86400).dedup.length)

end LotteryDb

/-- `price <= 0` counts as one. -/
def LotteryEnv.effectivePrice (env : LotteryEnv) : ℚ := if env.price ≤ 0 then 1 else env.price

/-- A negative ratio counts as zero. -/
def LotterySetting.effectiveRatio (s : LotterySetting) : ℚ :=
  if s.payoutRatio < 0 then 0 else s.payoutRatio

/-- What may be issued in all. -/
def LotteryDb.lotteryBudget (db : LotteryDb) (env : LotteryEnv) : ℚ :=
  db.lotteryRechargeMoney env.setting 0 / env.effectivePrice * env.setting.effectiveRatio -
    env.setting.reserveQuota

/-- What may still be won. -/
def LotteryDb.lotteryBudgetRemaining (db : LotteryDb) (env : LotteryEnv) : ℚ :=
  db.lotteryBudget env - db.lotteryIssuedAmount 0

variable (env : LotteryEnv)

/-- A statement, which may be the one that fails. -/
def statement (st : LotteryStatement) : Tx LotteryDb LotteryError Unit :=
  Tx.refuse (env.failing = some st) .database

/-! ## The pool and the account -/

/-- One row of the pool. -/
def createPrize (amount : ℚ) (stock : ℤ) : Tx LotteryDb LotteryError Unit := do
  statement env (.createPrize amount)
  let db ← Tx.read
  match db.prizes.create ⟨db.nextPrizeId, amount, stock, stock⟩ with
  | none => Tx.throw .database
  | some prizes => Tx.modify fun db => { db with prizes, nextPrizeId := db.nextPrizeId + 1 }

/-- The rows of the pool. -/
def createPrizes : List (ℚ × ℤ) → Tx LotteryDb LotteryError Unit
  | [] => pure ()
  | (amount, stock) :: tiers => do
    createPrize env amount stock
    createPrizes tiers

/-- `Delete(&LotteryPrize{})` of the whole table. -/
def deletePrizes : Tx LotteryDb LotteryError Unit := do
  statement env .deletePrizes
  Tx.modify fun db => { db with prizes := ∅ }

/-- `ensureLotteryPrizes`: a pool that is not the configured one is rebuilt until the first draw. -/
def ensureLotteryPrizes : Tx LotteryDb LotteryError Unit := do
  statement env .findPrizes
  let db ← Tx.read
  if db.prizes.rows = [] then createPrizes env lotteryPrizes
  else if matchesConfig db.prizesByAmount then pure ()
  else do
    statement env .countDraws
    if db.draws ≠ [] then pure ()
    else do
      deletePrizes env
      createPrizes env lotteryPrizes

/-- `ensureLotteryAccount`: draws recorded earlier count as used. -/
def ensureLotteryAccount (userId : ℤ) : Tx LotteryDb LotteryError Unit := do
  statement env .countAccounts
  let db ← Tx.read
  if (db.accounts.find? userId).isSome then pure ()
  else do
    statement env .countDraws
    statement env .createAccount
    match db.accounts.create ⟨userId, db.drawsOf userId⟩ with
    | none => Tx.throw .database
    | some accounts => Tx.modify fun db => { db with accounts }

/-! ## Choosing the prize -/

/-- What is drawn, with the factors to be recorded. -/
structure LotteryChoice where
  prize : LotteryPrize
  userFactor : ℚ := 0
  budgetFactor : ℚ := 0
  designated : Bool

/-- `ParseLotteryNextPrizeAmount` on a text that is a number. -/
def parseLotteryNextPrizeAmount (value : ℚ) : Option ℚ := if value < 0 then none else some value

/-- The prize that the administrator has set, or `0`. -/
def lotteryDesignatedPrize (db : LotteryDb) : ℚ :=
  (db.nextPrizeAmount.bind parseLotteryNextPrizeAmount).getD 0

/-- `takeLotteryDesignatedPrize`: the option is set to zero if it still has the value read. -/
def takeLotteryDesignatedPrize : Tx LotteryDb LotteryError ℚ := do
  statement env .readOption
  let db ← Tx.read
  if lotteryDesignatedPrize db ≤ 0 then pure 0
  else do
    statement env .takeOption
    if env.optionMoved then pure 0
    else do
      Tx.modify fun db => { db with nextPrizeAmount := some 0 }
      pure (lotteryDesignatedPrize db)

/-- The designated amount, from the first tier in stock that has it; otherwise from no tier. -/
def designatedChoice (prizes : List LotteryPrize) (amount : ℚ) : LotteryChoice where
  prize := (prizes.find? fun p => p.amount = amount ∧ p.stock > 0).getD ⟨0, amount, 0, 0⟩
  designated := true

/-- A pick by weight, within the budget. -/
def weightedChoice (userId : ℤ) (recharge : ℚ) (prizes : List LotteryPrize) :
    Tx LotteryDb LotteryError LotteryChoice := do
  let poolCost := lotteryPoolCost prizes
  Tx.refuse (poolCost ≤ 0) .poolExhausted
  statement env .budget
  let db ← Tx.read
  let budgetRemaining := db.lotteryBudgetRemaining env
  let budgetFactor := max (budgetRemaining / poolCost) 0
  statement env .usage
  let stats := db.lotteryUsageStats env.quotaPerUnit userId (env.now - 14 * 86400)
  let userFactor := lotteryUserFactor recharge stats.1 stats.2
  match (pickLotteryPrize (lotteryPrizeWeights userFactor budgetFactor budgetRemaining prizes)
      env.rand).bind (prizes[·]?) with
  | none => Tx.throw .refilling
  | some prize => pure ⟨prize, userFactor, budgetFactor, false⟩

/-- The prize of a draw. -/
def choosePrize (userId : ℤ) (recharge : ℚ) (prizes : List LotteryPrize) :
    Tx LotteryDb LotteryError LotteryChoice := do
  let designatedAmount ← takeLotteryDesignatedPrize env
  if designatedAmount > 0 then pure (designatedChoice prizes designatedAmount)
  else weightedChoice env userId recharge prizes

/-! ## The draw -/

/-- `SELECT … FOR UPDATE`. -/
def lockAccount (userId : ℤ) : Tx LotteryDb LotteryError LotteryAccount := do
  statement env .lockAccount
  let db ← Tx.read
  match db.accounts.find? userId with
  | none => Tx.throw .recordNotFound
  | some account => pure account

/-- `draws_used` moves on by one, if it is still what was read. -/
def takeDraw (account : LotteryAccount) : Tx LotteryDb LotteryError Unit := do
  statement env .takeDraw
  let db ← Tx.read
  match db.accounts.find? account.userId with
  | none => Tx.throw .retry
  | some current =>
    Tx.refuse (current.drawsUsed ≠ account.drawsUsed) .retry
    Tx.modify fun db => { db with
      accounts := db.accounts.save { current with drawsUsed := current.drawsUsed + 1 } }

/-- `stock` goes down by one, if there is any; a prize of no tier takes none. -/
def takeStock (prize : LotteryPrize) : Tx LotteryDb LotteryError Unit :=
  if prize.id > 0 then do
    statement env .takeStock
    let db ← Tx.read
    match db.prizes.find? prize.id with
    | none => Tx.throw .retry
    | some current =>
      Tx.refuse (current.stock ≤ 0) .retry
      Tx.modify fun db => { db with
        prizes := db.prizes.save { current with stock := current.stock - 1 } }
  else pure ()

/-- The prize as quota, added to the wallet. -/
def creditPrize (userId : ℤ) (amount : ℚ) : Tx LotteryDb LotteryError ℤ := do
  let quota ← Tx.lift
    ((topUpQuota (amount * env.quotaPerUnit)).mapError fun _ => .invalidPrizeQuota)
  statement env .credit
  let db ← Tx.read
  let users ← Tx.lift ((creditTopUpQuota userId quota {} db.users).mapError .credit)
  Tx.modify fun db => { db with users }
  pure quota

/-- The record of a draw, with what the transaction knows of it besides. -/
structure Committed where
  draw : LotteryDraw
  /-- The tier whose stock it took. -/
  tier : Option ℤ
  designated : Bool
  deriving DecidableEq

/-- The record of a draw. -/
def createDraw (d : LotteryDraw) : Tx LotteryDb LotteryError Unit := do
  statement env .createDraw
  Tx.modify fun db => { db with draws := db.draws ++ [d] }

/-- The transaction of `DrawLottery` from the locks on. -/
def drawFromPool (userId : ℤ) : Tx LotteryDb LotteryError Committed := do
  let account ← lockAccount env userId
  statement env .recharge
  let db ← Tx.read
  let recharge := db.lotteryRechargeMoney env.setting userId
  Tx.refuse (lotteryAllowedDraws recharge env.setting.effectiveThreshold ≤ account.drawsUsed)
    .noDraws
  statement env .lockPrizes
  let choice ← choosePrize env userId recharge db.prizesByAmount
  takeDraw env account
  takeStock env choice.prize
  let quota ← creditPrize env userId choice.prize.amount
  let draw : LotteryDraw :=
    { userId, amount := choice.prize.amount, quota
      userFactor := choice.userFactor
      budgetFactor := choice.budgetFactor
      stockSnapshot := db.prizesByAmount.map fun p => (p.amount, p.stock)
      createdAt := env.now }
  createDraw env draw
  pure ⟨draw, if choice.prize.id > 0 then some choice.prize.id else none, choice.designated⟩

/-- The whole transaction. -/
def drawTransaction (userId : ℤ) : Tx LotteryDb LotteryError Committed := do
  ensureLotteryPrizes env
  let c ← drawFromPool env userId
  statement env .commit
  pure c

/-- `DrawLottery`; the account stays even if the draw does not. -/
def drawLottery (userId : ℤ) (ignoreWindow : Bool) : Tx LotteryDb LotteryError Committed := do
  Tx.refuse (userId ≤ 0) .noDraws
  Tx.refuse (env.setting.enabled = false ∨
    ignoreWindow = false ∧ ¬ env.setting.isActive env.now) .inactive
  ensureLotteryAccount env userId
  Tx.atomically (drawTransaction env userId)

/-- `validateOptionValue` on the designated amount, then the write. -/
def setNextPrizeAmount (quotaPerUnit value : ℚ) (db : LotteryDb) : LotteryDb :=
  match parseLotteryNextPrizeAmount value with
  | none => db
  | some amount =>
    if amount = 0 ∨ (topUpQuota (amount * quotaPerUnit)).isOk then
      { db with nextPrizeAmount := some value }
    else db

/-! ## Making sure of the pool and the account -/

/-- A tier nothing has been taken from. -/
def LotteryPrize.Untouched (p : LotteryPrize) : Prop := 0 ≤ p.stock ∧ p.stock = p.initialStock

/-- `db` is `base` with a pool nothing has been taken from. -/
def Repooled (base db : LotteryDb) : Prop :=
  ∃ prizes n, db = { base with prizes, nextPrizeId := n } ∧ ∀ p ∈ prizes.rows, p.Untouched

section

variable {env : LotteryEnv} {base db db' : LotteryDb} {userId : ℤ}

theorem keeps_createPrize {amount : ℚ} {stock : ℤ} (hstock : 0 ≤ stock) :
    (createPrize env amount stock).Keeps (Repooled base) := by
  refine keeps_bind (keeps_refuse _ _) fun _ => keeps_read_bind ?_
  rintro _ ⟨prizes, n, rfl, hrows⟩
  cases hcreate : prizes.create ⟨n, amount, stock, stock⟩ with
  | none => exact ⟨prizes, n, rfl, hrows⟩
  | some prizes' =>
    refine ⟨prizes', n + 1, rfl, fun p hp => ?_⟩
    rw [Table.rows_create hcreate, List.mem_append, List.mem_singleton] at hp
    obtain hp | rfl := hp
    · exact hrows p hp
    · exact ⟨hstock, rfl⟩

theorem keeps_createPrizes {tiers : List (ℚ × ℤ)} (htiers : ∀ t ∈ tiers, 0 ≤ t.2) :
    (createPrizes env tiers).Keeps (Repooled base) := by
  induction tiers with
  | nil => exact keeps_pure ()
  | cons t tiers ih =>
    have hrest := ih fun u hu => htiers u (List.mem_cons_of_mem t hu)
    exact keeps_bind (keeps_createPrize (htiers t List.mem_cons_self)) fun _ => hrest

theorem lotteryPrizes_stock : ∀ t ∈ lotteryPrizes, 0 ≤ t.2 := by decide +kernel

variable (env : LotteryEnv)

theorem rebuild_pool (db : LotteryDb) :
    ((deletePrizes env >>= fun _ => createPrizes env lotteryPrizes) db).2 = db ∨
      Repooled db ((deletePrizes env >>= fun _ => createPrizes env lotteryPrizes) db).2 := by
  rw [bind_apply, deletePrizes, statement, refuse_bind]
  by_cases hfail : env.failing = some .deletePrizes
  · exact .inl (by rw [if_pos hfail])
  · rw [if_neg hfail]
    exact .inr (keeps_createPrizes lotteryPrizes_stock _ ⟨∅, db.nextPrizeId, rfl, nofun⟩)

/-- **The pool when it is made sure of**: it stays, or it is one nothing has been taken from, and
then there was none or nothing had been drawn. -/
theorem ensureLotteryPrizes_pool (db : LotteryDb) :
    (ensureLotteryPrizes env db).2 = db ∨
      (db.prizes.rows = [] ∨ db.draws = []) ∧ Repooled db (ensureLotteryPrizes env db).2 := by
  rw [ensureLotteryPrizes, statement, refuse_bind, read_bind]
  by_cases hfail : env.failing = some .findPrizes
  · exact .inl (by rw [if_pos hfail])
  rw [if_neg hfail]
  by_cases hempty : db.prizes.rows = []
  · rw [if_pos hempty]
    have hstart : Repooled db db := ⟨db.prizes, db.nextPrizeId, rfl, by simp [hempty]⟩
    exact .inr ⟨.inl hempty, keeps_createPrizes lotteryPrizes_stock db hstart⟩
  rw [if_neg hempty]
  by_cases hmatches : matchesConfig db.prizesByAmount
  · exact .inl (by rw [if_pos hmatches]; rfl)
  rw [if_neg hmatches, statement, refuse_bind]
  by_cases hcount : env.failing = some .countDraws
  · exact .inl (by rw [if_pos hcount])
  rw [if_neg hcount]
  by_cases hdraws : db.draws ≠ []
  · exact .inl (by rw [if_pos hdraws]; rfl)
  rw [if_neg hdraws]
  exact (rebuild_pool env db).imp_right fun h => ⟨.inr (not_not.mp hdraws), h⟩

/-- **The account when it is made sure of**: at most it is created, with the draws on record. -/
theorem ensureLotteryAccount_accounts (userId : ℤ) (db : LotteryDb) :
    (ensureLotteryAccount env userId db).2 = db ∨
      ∃ accounts, db.accounts.create ⟨userId, db.drawsOf userId⟩ = some accounts ∧
        (ensureLotteryAccount env userId db).2 = { db with accounts } := by
  rw [ensureLotteryAccount, statement, refuse_bind, read_bind]
  by_cases hfail : env.failing = some .countAccounts
  · exact .inl (by rw [if_pos hfail])
  rw [if_neg hfail]
  by_cases hfound : (db.accounts.find? userId).isSome
  · exact .inl (by rw [if_pos hfound]; rfl)
  rw [if_neg hfound, statement, refuse_bind, statement, refuse_bind]
  split_ifs with hcount hcreate
  · exact .inl rfl
  · exact .inl rfl
  · cases haccounts : db.accounts.create ⟨userId, db.drawsOf userId⟩ with
    | none => exact .inl rfl
    | some accounts => exact .inr ⟨accounts, rfl, rfl⟩

end

/-! ## What the parts of a draw did -/

section

variable {env : LotteryEnv} {db db' : LotteryDb} {userId : ℤ} {account : LotteryAccount}
  {choice : LotteryChoice} {prize : LotteryPrize} {u : Unit}

theorem lockAccount_eq_ok (h : lockAccount env userId db = (.ok account, db')) :
    db.accounts.find? userId = some account ∧ db' = db := by
  obtain ⟨-, h⟩ := refuse_bind_eq_ok.mp h
  rw [read_bind] at h
  cases hfound : db.accounts.find? userId with
  | none => rw [hfound] at h; cases h
  | some a => rw [hfound] at h; cases h; exact ⟨rfl, rfl⟩

variable {amount : ℚ}

theorem takeLotteryDesignatedPrize_eq_ok
    (h : takeLotteryDesignatedPrize env db = (.ok amount, db')) :
    ∃ o, db' = { db with nextPrizeAmount := o } := by
  obtain ⟨-, h⟩ := refuse_bind_eq_ok.mp h
  rw [read_bind] at h
  split at h
  · cases h; exact ⟨db.nextPrizeAmount, rfl⟩
  · obtain ⟨-, h⟩ := refuse_bind_eq_ok.mp h
    split at h
    · cases h; exact ⟨db.nextPrizeAmount, rfl⟩
    · cases h; exact ⟨some 0, rfl⟩

variable {prizes : List LotteryPrize} {recharge : ℚ}

/-- **A pick by weight stays within the budget.** -/
theorem weightedChoice_eq_ok
    (h : weightedChoice env userId recharge prizes db = (.ok choice, db')) :
    db' = db ∧ choice.prize.amount ≤ db.lotteryBudgetRemaining env := by
  obtain ⟨-, h⟩ := refuse_bind_eq_ok.mp h
  obtain ⟨-, h⟩ := refuse_bind_eq_ok.mp h
  obtain ⟨-, h⟩ := refuse_bind_eq_ok.mp h
  generalize hpick : Option.bind _ _ = picked at h
  cases picked with
  | none => cases h
  | some p =>
    obtain ⟨j, hj, hp⟩ := Option.bind_eq_some_iff.mp hpick
    obtain ⟨q, hq, -, hamount⟩ := prize_of_pick hj
    cases h
    cases hp.symm.trans hq
    exact ⟨rfl, hamount⟩

theorem choosePrize_eq_ok (h : choosePrize env userId recharge prizes db = (.ok choice, db')) :
    (∃ o, db' = { db with nextPrizeAmount := o }) ∧
      (choice.designated = false → choice.prize.amount ≤ db.lotteryBudgetRemaining env) := by
  obtain ⟨amount, db₁, htake, h⟩ := bind_eq_ok.mp h
  obtain ⟨o, rfl⟩ := takeLotteryDesignatedPrize_eq_ok htake
  split at h
  · cases h
    exact ⟨⟨o, rfl⟩, nofun⟩
  · obtain ⟨rfl, hamount⟩ := weightedChoice_eq_ok h
    exact ⟨⟨o, rfl⟩, fun _ => hamount⟩

theorem takeDraw_eq_ok (h : takeDraw env account db = (.ok u, db'))
    (hfound : db.accounts.find? account.userId = some account) :
    db' = { db with
      accounts := db.accounts.save { account with drawsUsed := account.drawsUsed + 1 } } := by
  obtain ⟨-, h⟩ := refuse_bind_eq_ok.mp h
  rw [read_bind, hfound] at h
  obtain ⟨-, h⟩ := refuse_bind_eq_ok.mp h
  exact (mk.inj h).2.symm

/-- What a draw does to the pool, the tier being the one it takes from. -/
def TakenFrom (prizes : Table LotteryPrize LotteryPrize.id) (tier : Option ℤ)
    (prizes' : Table LotteryPrize LotteryPrize.id) : Prop :=
  tier = none ∧ prizes' = prizes ∨
    ∃ p, tier = some p.id ∧ prizes.find? p.id = some p ∧ 0 < p.stock ∧
      prizes' = prizes.save { p with stock := p.stock - 1 }

theorem takeStock_eq_ok (h : takeStock env prize db = (.ok u, db')) :
    ∃ prizes, db' = { db with prizes } ∧
      TakenFrom db.prizes (if prize.id > 0 then some prize.id else none) prizes := by
  rw [takeStock] at h
  by_cases hid : prize.id > 0
  · rw [if_pos hid] at h ⊢
    obtain ⟨-, h⟩ := refuse_bind_eq_ok.mp h
    rw [read_bind] at h
    cases hfound : db.prizes.find? prize.id with
    | none => rw [hfound] at h; cases h
    | some p =>
      have hkey : p.id = prize.id := Table.key_of_find? hfound
      rw [hfound] at h
      obtain ⟨hstock, h⟩ := refuse_bind_eq_ok.mp h
      refine ⟨_, (mk.inj h).2.symm, .inr ⟨p, by rw [hkey], ?_, not_le.mp hstock, rfl⟩⟩
      rw [hkey]
      exact hfound
  · rw [if_neg hid] at h ⊢
    cases h
    exact ⟨db.prizes, rfl, .inl ⟨rfl, rfl⟩⟩

theorem creditPrize_eq_ok {quota : ℤ} (h : creditPrize env userId amount db = (.ok quota, db')) :
    ∃ users, db' = { db with users } := by
  obtain ⟨q, -, h⟩ := lift_bind_eq_ok.mp h
  obtain ⟨-, h⟩ := refuse_bind_eq_ok.mp h
  rw [read_bind, lift_bind_eq_ok] at h
  obtain ⟨users, -, h⟩ := h
  cases h
  exact ⟨users, rfl⟩

theorem createDraw_eq_ok {d : LotteryDraw} (h : createDraw env d db = (.ok u, db')) :
    db' = { db with draws := db.draws ++ [d] } := by
  obtain ⟨-, h⟩ := refuse_bind_eq_ok.mp h
  exact (mk.inj h).2.symm

end

/-! ## A committed draw -/

/-- **Everything a committed draw did** to the database that has its pool. -/
structure Drawn (env : LotteryEnv) (userId : ℤ) (db : LotteryDb) (c : Committed)
    (db' : LotteryDb) : Prop where
  user : c.draw.userId = userId
  draws : db'.draws = db.draws ++ [c.draw]
  account : ∃ a, db.accounts.find? userId = some a ∧
    a.drawsUsed < lotteryAllowedDraws (db.lotteryRechargeMoney env.setting userId)
      env.setting.effectiveThreshold ∧
    db'.accounts = db.accounts.save { a with drawsUsed := a.drawsUsed + 1 }
  pool : TakenFrom db.prizes c.tier db'.prizes
  budget : c.designated = false → c.draw.amount ≤ db.lotteryBudgetRemaining env

section

variable {env : LotteryEnv} {db db' : LotteryDb} {userId : ℤ} {c : Committed}

theorem drawFromPool_eq_ok (h : drawFromPool env userId db = (.ok c, db')) :
    Drawn env userId db c db' := by
  obtain ⟨account, db₁, hlock, h⟩ := bind_eq_ok.mp h
  obtain ⟨hfound, hsame⟩ := lockAccount_eq_ok hlock
  rw [hsame] at h
  obtain ⟨-, h⟩ := refuse_bind_eq_ok.mp h
  obtain ⟨hallowed, h⟩ := refuse_bind_eq_ok.mp h
  obtain ⟨-, h⟩ := refuse_bind_eq_ok.mp h
  obtain ⟨choice, db₂, hchoose, h⟩ := bind_eq_ok.mp h
  obtain ⟨⟨o, rfl⟩, hbudget⟩ := choosePrize_eq_ok hchoose
  obtain ⟨_, db₃, htake, h⟩ := bind_eq_ok.mp h
  have hkey : account.userId = userId := Table.key_of_find? hfound
  have hown : db.accounts.find? account.userId = some account := by rw [hkey]; exact hfound
  obtain rfl := takeDraw_eq_ok htake hown
  obtain ⟨_, db₄, hstock, h⟩ := bind_eq_ok.mp h
  obtain ⟨prizes, rfl, hpool⟩ := takeStock_eq_ok hstock
  obtain ⟨quota, db₅, hcredit, h⟩ := bind_eq_ok.mp h
  obtain ⟨users, rfl⟩ := creditPrize_eq_ok hcredit
  obtain ⟨_, db₆, hcreate, h⟩ := bind_eq_ok.mp h
  obtain rfl := createDraw_eq_ok hcreate
  cases h
  exact ⟨rfl, rfl, ⟨account, hfound, not_le.mp hallowed, rfl⟩, hpool, hbudget⟩

theorem drawTransaction_eq_ok (h : drawTransaction env userId db = (.ok c, db')) :
    Drawn env userId (ensureLotteryPrizes env db).2 c db' := by
  obtain ⟨_, db₁, hpool, h⟩ := bind_eq_ok.mp h
  obtain ⟨c₁, db₂, hdraw, h⟩ := bind_eq_ok.mp h
  obtain ⟨-, h⟩ := refuse_bind_eq_ok.mp h
  cases h
  rw [hpool]
  exact drawFromPool_eq_ok hdraw

variable {ignoreWindow : Bool}

/-- **A committed draw**: the account is made sure of, then the pool, then the draw is made. -/
theorem drawLottery_eq_ok (h : drawLottery env userId ignoreWindow db = (.ok c, db')) :
    Drawn env userId (ensureLotteryPrizes env (ensureLotteryAccount env userId db).2).2 c db' := by
  obtain ⟨-, h⟩ := refuse_bind_eq_ok.mp h
  obtain ⟨-, h⟩ := refuse_bind_eq_ok.mp h
  obtain ⟨_, db₁, haccount, h⟩ := bind_eq_ok.mp h
  rw [haccount]
  exact drawTransaction_eq_ok (atomically_eq_ok.mp h)

/-- **A draw that fails rolls back**: only an account that was made sure of stays. -/
theorem drawLottery_rolls_back {e : LotteryError}
    (h : drawLottery env userId ignoreWindow db = (.error e, db')) :
    db' = db ∨ db' = (ensureLotteryAccount env userId db).2 := by
  rw [drawLottery, refuse_bind, refuse_bind] at h
  split_ifs at h
  · exact .inl (mk.inj h).2.symm
  · exact .inl (mk.inj h).2.symm
  · rw [bind_apply] at h
    rcases haccount : ensureLotteryAccount env userId db with ⟨e' | u, db₁⟩
    · rw [haccount] at h
      exact .inr (mk.inj h).2.symm
    · rw [haccount] at h
      exact .inr (clean_atomically _ _ _ _ h)

end

end Lottery
