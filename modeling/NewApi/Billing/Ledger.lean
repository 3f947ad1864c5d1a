import NewApi.Subscription.Refund

/-!
# Billing/Ledger — the balances a billing session moves

`model/user.go`, `model/token.go` and `model/quota_reserve.go` on one user, one token and the
subscription store.  With batch updates on, a change waits in a queue; the *balance* counts what is
queued.  A call is given the reply of the database (and, where the code asks the cache first, of the
cache); a call that reports an error has no effect but to set `failed`, which records that some call
of the run has failed.

* `increaseUserQuota_cases` and its siblings — every call either moves a balance by its argument, or
  fails, or (a reservation) is refused.
-/

namespace Billing

/-- What the database answers. -/
inductive Reply where
  | ok | err
  deriving DecidableEq

/-- What the Redis script answers; Redis off or unreachable counts as `miss`. -/
inductive CacheQuotaResult where
  | insufficient | ok | miss
  deriving DecidableEq

/-- Why a quota is not moved. -/
inductive QuotaError where
  | negative
  | walletQuotaExceeds
  | walletQuotaLimitExceeded
  | database
  deriving DecidableEq

/-- `users.quota`, and the batch queue's entry for it. -/
structure Account where
  quota : ℤ
  queued : ℤ := 0

/-- The quota with what is queued. -/
def Account.balance (a : Account) : ℤ := a.quota + a.queued

/-- `tokens.remain_quota` and `tokens.used_quota`, which move in opposite directions, and the batch
queue's entry for them. -/
structure TokenAccount where
  remainQuota : ℤ
  usedQuota : ℤ := 0
  queued : ℤ := 0

/-- The quota with what is queued. -/
def TokenAccount.balance (a : TokenAccount) : ℤ := a.remainQuota + a.queued

/-- What billing reads and writes. -/
structure Db where
  batchUpdateEnabled : Bool := false
  wallet : Account
  token : TokenAccount
  store : Subscription.Store
  /-- Some call has reported an error. -/
  failed : Bool := false

/-- The largest integer that a float represents exactly. -/
def maxWalletQuota : ℤ := 2 ^ 53 - 1

/-! ## Moving balances -/

namespace Db

variable (db : Db)

/-- A call has failed. -/
def fail : Db := { db with failed := true }

/-- A direct write of `users.quota`. -/
def addWalletRow (n : ℤ) : Db :=
  { db with wallet := { db.wallet with quota := db.wallet.quota + n } }

/-- A direct write of the token row. -/
def addTokenRow (n : ℤ) : Db :=
  { db with token := { db.token with
      remainQuota := db.token.remainQuota + n, usedQuota := db.token.usedQuota - n } }

/-- `addNewRecord(BatchUpdateTypeUserQuota, …)` with batch updates on, a direct write otherwise. -/
def moveWallet (n : ℤ) : Db :=
  if db.batchUpdateEnabled then
    { db with wallet := { db.wallet with queued := db.wallet.queued + n } }
  else db.addWalletRow n

/-- The token is moved at once, or by the next batch. -/
def moveToken (n : ℤ) : Db :=
  if db.batchUpdateEnabled then
    { db with token := { db.token with queued := db.token.queued + n } }
  else db.addTokenRow n

/-- Another state of the subscriptions. -/
def setStore (st : Subscription.Store) : Db := { db with store := st }

end Db

/-- `db'` is `db` with the wallet balance moved by `n` and the token balance by `m`; the store is
the same, and a failure is not forgotten. -/
structure Moved (n m : ℤ) (db db' : Db) : Prop where
  wallet : db'.wallet.balance = db.wallet.balance + n
  token : db'.token.balance = db.token.balance + m
  store : db'.store = db.store
  failed : db.failed → db'.failed
  batch : db'.batchUpdateEnabled = db.batchUpdateEnabled
  /-- Without batch updates the row itself has moved. -/
  row : db.batchUpdateEnabled = false → db'.wallet.quota = db.wallet.quota + n

namespace Moved

variable {db db₁ db₂ : Db} {n n' m m' : ℤ}

/-- Moves add up. -/
theorem trans (h : Moved n m db db₁) (h' : Moved n' m' db₁ db₂) :
    Moved (n + n') (m + m') db db₂ where
  wallet := by rw [h'.wallet, h.wallet, add_assoc]
  token := by rw [h'.token, h.token, add_assoc]
  store := h'.store.trans h.store
  failed := h'.failed ∘ h.failed
  batch := h'.batch.trans h.batch
  row hb := by rw [h'.row (h.batch.trans hb), h.row hb, add_assoc]

variable (db)

theorem refl : Moved 0 0 db db :=
  ⟨by simp, by simp, rfl, id, rfl, fun _ => by simp⟩

/-- A call has failed. -/
theorem fail : Moved 0 0 db db.fail :=
  ⟨by simp [Db.fail], by simp [Db.fail], rfl, fun _ => rfl, rfl, fun _ => by simp [Db.fail]⟩

theorem addWalletRow (n : ℤ) : Moved n 0 db (db.addWalletRow n) :=
  ⟨by simp only [Db.addWalletRow, Account.balance]; ring, by simp [Db.addWalletRow], rfl, id, rfl,
    fun _ => rfl⟩

theorem addTokenRow (n : ℤ) : Moved 0 n db (db.addTokenRow n) :=
  ⟨by simp [Db.addTokenRow], by simp only [Db.addTokenRow, TokenAccount.balance]; ring, rfl, id,
    rfl, fun _ => by simp [Db.addTokenRow]⟩

theorem moveWallet (n : ℤ) : Moved n 0 db (db.moveWallet n) := by
  unfold Db.moveWallet
  split
  · next hb =>
    exact ⟨by simp only [Account.balance]; ring, by simp, rfl, id, rfl, fun h => by simp [h] at hb⟩
  · exact addWalletRow db n

/-- The token is moved at once, or by the next batch. -/
theorem moveToken (n : ℤ) : Moved 0 n db (db.moveToken n) := by
  unfold Db.moveToken
  split
  · exact ⟨by simp, by simp only [TokenAccount.balance]; ring, rfl, id, rfl, fun _ => by simp⟩
  · exact addTokenRow db n

end Moved

/-! ## The calls -/

/-- `IncreaseUserQuota`: direct writes are guarded by the wallet's ceiling. -/
def increaseUserQuota (n : ℤ) (reply : Reply) (db : Db) : Except QuotaError Unit × Db :=
  if n < 0 then (.error .negative, db.fail)
  else if n > maxWalletQuota then (.error .walletQuotaExceeds, db.fail)
  else if db.batchUpdateEnabled then (.ok (), db.moveWallet n)
  else if reply = .err then (.error .database, db.fail)
  else if db.wallet.quota ≤ maxWalletQuota - n then (.ok (), db.moveWallet n)
  else (.error .walletQuotaLimitExceeded, db.fail)

/-- An unguarded write of `n`, deferred in batch mode. -/
def writeQuota (n : ℤ) (write : Db → Db) (reply : Reply) (db : Db) : Except QuotaError Unit × Db :=
  if n < 0 then (.error .negative, db.fail)
  else if db.batchUpdateEnabled then (.ok (), write db)
  else if reply = .err then (.error .database, db.fail)
  else (.ok (), write db)

/-- `DecreaseUserQuota`: the balance may become negative. -/
def decreaseUserQuota (n : ℤ) : Reply → Db → Except QuotaError Unit × Db :=
  writeQuota n (·.moveWallet (-n))

/-- Quota goes back to the token. -/
def increaseTokenQuota (n : ℤ) : Reply → Db → Except QuotaError Unit × Db :=
  writeQuota n (·.moveToken n)

/-- Quota is taken from the token. -/
def decreaseTokenQuota (n : ℤ) : Reply → Db → Except QuotaError Unit × Db :=
  writeQuota n (·.moveToken (-n))

/-- A reservation of `n > 0`.  The cache decides if it knows the row, and its verdict is then
written (`persist…QuotaDelta`); otherwise a conditional update of the row decides, which batch mode
does not defer. -/
def reserveQuota (n available : ℤ) (persist updateRow : Db → Db) (cache : CacheQuotaResult)
    (reply : Reply) (db : Db) : Except QuotaError Bool × Db :=
  match cache with
  | .insufficient => (.ok false, db)
  | .ok =>
    if db.batchUpdateEnabled = false ∧ reply = .err then (.error .database, db.fail)
    else (.ok true, persist db)
  | .miss =>
    if reply = .err then (.error .database, db.fail)
    else if n ≤ available then (.ok true, updateRow db)
    else (.ok false, db)

/-- Quota is taken from the wallet, if there is enough. -/
def tryReserveUserQuota (n : ℤ) (cache : CacheQuotaResult) (reply : Reply) (db : Db) :
    Except QuotaError Bool × Db :=
  if n < 0 then (.error .negative, db.fail)
  else if n = 0 then (.ok true, db)
  else reserveQuota n db.wallet.quota (·.moveWallet (-n)) (·.addWalletRow (-n)) cache reply db

/-- `TryReserveTokenQuota`: an unlimited token is debited without a check. -/
def tryReserveTokenQuota (n : ℤ) (unlimited : Bool) (cache : CacheQuotaResult) (reply : Reply)
    (db : Db) : Except QuotaError Bool × Db :=
  if n < 0 then (.error .negative, db.fail)
  else if n = 0 then (.ok true, db)
  else if unlimited then
    match decreaseTokenQuota n reply db with
    | (.ok _, db) => (.ok true, db)
    | (.error e, db) => (.error e, db)
  else reserveQuota n db.token.remainQuota (·.moveToken (-n)) (·.addTokenRow (-n)) cache reply db

/-! ## What a call can have done -/

section

variable (n : ℤ) (reply : Reply) (cache : CacheQuotaResult) (db : Db)

/-- An increase fails, or moves its amount. -/
theorem increaseUserQuota_cases :
    (∃ e, increaseUserQuota n reply db = (.error e, db.fail)) ∨
      ∃ db', increaseUserQuota n reply db = (.ok (), db') ∧ Moved n 0 db db' := by
  have hmove : Moved n 0 db (db.moveWallet n) := .moveWallet db n
  unfold increaseUserQuota
  split
  · exact .inl ⟨_, rfl⟩
  split
  · exact .inl ⟨_, rfl⟩
  split
  · exact .inr ⟨_, rfl, hmove⟩
  split
  · exact .inl ⟨_, rfl⟩
  split
  · exact .inr ⟨_, rfl, hmove⟩
  · exact .inl ⟨_, rfl⟩

theorem increaseUserQuota_ok {n : ℤ} {reply : Reply} {db : Db} (hn : 0 ≤ n)
    (hmax : n ≤ maxWalletQuota) (h : db.batchUpdateEnabled ∨
      (reply = .ok ∧ db.wallet.quota ≤ maxWalletQuota - n)) :
    (increaseUserQuota n reply db).1 = .ok () := by
  unfold increaseUserQuota
  rw [if_neg (not_lt.mpr hn), if_neg (not_lt.mpr hmax)]
  split
  · rfl
  next hb =>
  obtain ⟨rfl, hrow⟩ := h.resolve_left hb
  rw [if_neg (by decide), if_pos hrow]

theorem writeQuota_cases (write : Db → Db) :
    (∃ e, writeQuota n write reply db = (.error e, db.fail)) ∨
      writeQuota n write reply db = (.ok (), write db) := by
  unfold writeQuota
  split
  · exact .inl ⟨_, rfl⟩
  split
  · exact .inr rfl
  split
  · exact .inl ⟨_, rfl⟩
  · exact .inr rfl

theorem decreaseUserQuota_cases :
    (∃ e, decreaseUserQuota n reply db = (.error e, db.fail)) ∨
      ∃ db', decreaseUserQuota n reply db = (.ok (), db') ∧ Moved (-n) 0 db db' :=
  (writeQuota_cases n reply db _).imp_right fun h => ⟨_, h, .moveWallet db (-n)⟩

theorem increaseTokenQuota_cases :
    (∃ e, increaseTokenQuota n reply db = (.error e, db.fail)) ∨
      ∃ db', increaseTokenQuota n reply db = (.ok (), db') ∧ Moved 0 n db db' :=
  (writeQuota_cases n reply db _).imp_right fun h => ⟨_, h, .moveToken db n⟩

theorem decreaseTokenQuota_cases :
    (∃ e, decreaseTokenQuota n reply db = (.error e, db.fail)) ∨
      ∃ db', decreaseTokenQuota n reply db = (.ok (), db') ∧ Moved 0 (-n) db db' :=
  (writeQuota_cases n reply db _).imp_right fun h => ⟨_, h, .moveToken db (-n)⟩

/-- A reservation fails, is refused, or moves its amount. -/
theorem reserveQuota_cases {k m : ℤ} (available : ℤ) {persist updateRow : Db → Db}
    (hp : Moved k m db (persist db)) (hu : Moved k m db (updateRow db)) :
    (∃ e, reserveQuota n available persist updateRow cache reply db = (.error e, db.fail)) ∨
      reserveQuota n available persist updateRow cache reply db = (.ok false, db) ∨
      ∃ db', reserveQuota n available persist updateRow cache reply db = (.ok true, db') ∧
        Moved k m db db' := by
  unfold reserveQuota
  split
  · exact .inr (.inl rfl)
  · split
    · exact .inl ⟨_, rfl⟩
    · exact .inr (.inr ⟨_, rfl, hp⟩)
  · split
    · exact .inl ⟨_, rfl⟩
    split
    · exact .inr (.inr ⟨_, rfl, hu⟩)
    · exact .inr (.inl rfl)

theorem tryReserveUserQuota_cases :
    (∃ e, tryReserveUserQuota n cache reply db = (.error e, db.fail)) ∨
      tryReserveUserQuota n cache reply db = (.ok false, db) ∨
      ∃ db', tryReserveUserQuota n cache reply db = (.ok true, db') ∧ Moved (-n) 0 db db' := by
  unfold tryReserveUserQuota
  split
  · exact .inl ⟨_, rfl⟩
  split
  · next h => exact .inr (.inr ⟨db, rfl, by rw [h]; exact .refl db⟩)
  · exact reserveQuota_cases n reply cache db _ (.moveWallet db (-n)) (.addWalletRow db (-n))

theorem tryReserveTokenQuota_cases (unlimited : Bool) :
    (∃ e, tryReserveTokenQuota n unlimited cache reply db = (.error e, db.fail)) ∨
      tryReserveTokenQuota n unlimited cache reply db = (.ok false, db) ∨
      ∃ db', tryReserveTokenQuota n unlimited cache reply db = (.ok true, db') ∧
        Moved 0 (-n) db db' := by
  unfold tryReserveTokenQuota
  split
  · exact .inl ⟨_, rfl⟩
  split
  · next h => exact .inr (.inr ⟨db, rfl, by rw [h]; exact .refl db⟩)
  split
  · rcases decreaseTokenQuota_cases n reply db with ⟨e, h⟩ | ⟨db', h, hm⟩
    · rw [h]; exact .inl ⟨e, rfl⟩
    · rw [h]; exact .inr (.inr ⟨db', rfl, hm⟩)
  · exact reserveQuota_cases n reply cache db _ (.moveToken db (-n)) (.addTokenRow db (-n))

end

end Billing
