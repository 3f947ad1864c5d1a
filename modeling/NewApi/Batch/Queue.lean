import NewApi.Machinery.GoInt
import NewApi.Machinery.Tally

/-!
# Batch/Queue — the batched counter updates

`addNewRecord` and `batchUpdate` of `model/utils.go`.  Five maps collect deltas, each under its own
lock; a flush looks for data map by map, swaps the maps one by one, and then writes row by row, the
three maps about users merged into one statement a user.  Each look, swap and write is a step of its
own, with adders and other flushes in between.
-/

namespace Batch

open GoInt Tally List

/-- The counters that are batched, in the order of the source's constants. -/
inductive BatchType where
  | userQuota | tokenQuota | usedQuota | channelUsedQuota | requestCount
  deriving DecidableEq

namespace BatchType

/-- The queues, in the order of a flush. -/
def all : List BatchType := [.userQuota, .tokenQuota, .usedQuota, .channelUsedQuota, .requestCount]

/-- The value of the constant. -/
def index : BatchType → ℕ
  | .userQuota => 0
  | .tokenQuota => 1
  | .usedQuota => 2
  | .channelUsedQuota => 3
  | .requestCount => 4

theorem getElem?_all {i : ℕ} {t : BatchType} (h : all[i]? = some t) : t.index = i := by
  match i with
  | 0 | 1 | 2 | 3 | 4 => cases h; rfl
  | _ + 5 => cases h

theorem index_injective : Function.Injective index := by
  intro t t' h
  cases t <;> cases t' <;> first | rfl | cases h

theorem index_lt (t : BatchType) : t.index < all.length := by
  cases t <;> decide

end BatchType

/-! ## Adding -/

/-- `map[int]int`. -/
abbrev Store : Type := Tally ℤ

/-- `addNewRecord` on the map of its type: a sum that leaves the range is saturated. -/
def Store.add (store : Store) (id value : ℤ) : Store :=
  match store.find? id with
  | none => store.put id value
  | some (_, old) =>
    let sum := wrap (old + value)
    if value > 0 ∧ sum < old ∨ value < 0 ∧ sum > old then
      store.put id (if value > 0 then maxInt else minInt)
    else store.put id sum

variable {id : ℤ} {store : Store}

theorem Store.get_add {value : ℤ}
    (hrange : minInt ≤ store.get id + value ∧ store.get id + value ≤ maxInt) (j : ℤ) :
    (store.add id value).get j = store.get j + if j = id then value else 0 := by
  unfold Store.add
  cases hfind : store.find? id with
  | none =>
    have hzero : store.get id = 0 := by rw [Tally.get, hfind]; rfl
    rw [get_put]
    split
    · next hj => rw [hj, hzero, zero_add]
    · rw [add_zero]
  | some row =>
    have hold : store.get id = row.2 := by rw [Tally.get, hfind]; rfl
    rw [hold] at hrange
    dsimp only
    rw [wrap_of_mem hrange, if_neg (by omega), get_put]
    split
    · next hj => rw [hj, hold]
    · rw [add_zero]

/-! ## The statements of a flush -/

/-- The counters of a user. -/
structure UserCounters where
  quota : ℤ
  usedQuota : ℤ
  requestCount : ℤ

/-- The counters of a token. -/
structure TokenCounters where
  remainQuota : ℤ
  usedQuota : ℤ

/-- The rows a flush updates; all of them exist. -/
structure BatchDb where
  users : ℤ → UserCounters
  tokens : ℤ → TokenCounters
  channelUsedQuota : ℤ → ℤ

/-- The column that a batched counter goes to. -/
def BatchDb.counter (db : BatchDb) : BatchType → ℤ → ℤ
  | .userQuota, id => (db.users id).quota
  | .tokenQuota, id => (db.tokens id).remainQuota
  | .usedQuota, id => (db.users id).usedQuota
  | .channelUsedQuota, id => db.channelUsedQuota id
  | .requestCount, id => (db.users id).requestCount

/-- One statement of a flush. -/
inductive Write where
  | token (id quota : ℤ)
  | channel (id quota : ℤ)
  | user (id quota usedQuota requestCount : ℤ)
  deriving DecidableEq

/-- `remain_quota` goes up, `used_quota` down. -/
def increaseTokenQuota (id quota : ℤ) (db : BatchDb) : BatchDb :=
  { db with
    tokens := Function.update db.tokens id
      { remainQuota := (db.tokens id).remainQuota + quota
        usedQuota := (db.tokens id).usedQuota - quota } }

/-- The usage of a channel. -/
def updateChannelUsedQuota (id quota : ℤ) (db : BatchDb) : BatchDb :=
  { db with
    channelUsedQuota := Function.update db.channelUsedQuota id (db.channelUsedQuota id + quota) }

/-- The three counters of a user in one statement. -/
def updateUserQuotaUsedQuotaAndRequestCount (id quota usedQuota requestCount : ℤ) (db : BatchDb) :
    BatchDb :=
  if quota = 0 ∧ usedQuota = 0 ∧ requestCount = 0 then db
  else { db with
    users := Function.update db.users id
      { quota := (db.users id).quota + quota
        usedQuota := (db.users id).usedQuota + usedQuota
        requestCount := (db.users id).requestCount + requestCount } }

/-- What a statement does. -/
def Write.exec : Write → BatchDb → BatchDb
  | .token id quota => increaseTokenQuota id quota
  | .channel id quota => updateChannelUsedQuota id quota
  | .user id quota usedQuota requestCount =>
    updateUserQuotaUsedQuotaAndRequestCount id quota usedQuota requestCount

/-- What a statement adds to a counter. -/
def Write.delta : Write → BatchType → ℤ → ℤ
  | .token id quota, .tokenQuota, j => if id = j then quota else 0
  | .channel id quota, .channelUsedQuota, j => if id = j then quota else 0
  | .user id quota _ _, .userQuota, j => if id = j then quota else 0
  | .user id _ usedQuota _, .usedQuota, j => if id = j then usedQuota else 0
  | .user id _ _ requestCount, .requestCount, j => if id = j then requestCount else 0
  | _, _, _ => 0

/-- **A statement adds its deltas**, and nothing else. -/
theorem Write.counter_exec (write : Write) (db : BatchDb) (t : BatchType) (j : ℤ) :
    (write.exec db).counter t j = db.counter t j + write.delta t j := by
  cases write with
  | token id quota =>
    by_cases hj : id = j
    · subst hj
      cases t <;> simp [exec, increaseTokenQuota, BatchDb.counter, delta]
    · cases t <;> simp [exec, increaseTokenQuota, BatchDb.counter, delta, hj, Ne.symm hj]
  | channel id quota =>
    by_cases hj : id = j
    · subst hj
      cases t <;> simp [exec, updateChannelUsedQuota, BatchDb.counter, delta]
    · cases t <;> simp [exec, updateChannelUsedQuota, BatchDb.counter, delta, hj, Ne.symm hj]
  | user id quota usedQuota requestCount =>
    rw [exec, updateUserQuotaUsedQuotaAndRequestCount]
    split
    · next hzero => cases t <;> simp [delta, hzero.1, hzero.2.1, hzero.2.2]
    · by_cases hj : id = j
      · subst hj
        cases t <;> simp [BatchDb.counter, delta]
      · cases t <;> simp [BatchDb.counter, delta, hj, Ne.symm hj]

/-- The users in any of the three maps about users. -/
def userIDs (stores : BatchType → Store) : List ℤ :=
  (((stores .userQuota).rows ++ (stores .usedQuota).rows ++ (stores .requestCount).rows).map
    Prod.fst).dedup

/-- The statements for the maps a flush has swapped out. -/
def writes (stores : BatchType → Store) : List Write :=
  (stores .tokenQuota).rows.map (fun row => .token row.1 row.2) ++
    (stores .channelUsedQuota).rows.map (fun row => .channel row.1 row.2) ++
    (userIDs stores).map fun id => .user id ((stores .userQuota).get id)
      ((stores .usedQuota).get id) ((stores .requestCount).get id)

variable {stores : BatchType → Store}

theorem get_eq_zero_of_not_mem (h : id ∉ userIDs stores) :
    (stores .userQuota).get id = 0 ∧ (stores .usedQuota).get id = 0 ∧
      (stores .requestCount).get id = 0 := by
  simp only [userIDs, mem_dedup, map_append, mem_append, not_or] at h
  exact ⟨get_eq_zero h.1.1, get_eq_zero h.1.2, get_eq_zero h.2⟩

/-- A sum over users in which one user counts. -/
theorem sum_userIDs {j : ℤ} (hzero : j ∉ userIDs stores → store.get j = 0) :
    ((userIDs stores).map fun id => if id = j then store.get id else 0).sum = store.get j := by
  by_cases hj : j ∈ userIDs stores
  · have hnodup : (userIDs stores).Nodup := nodup_dedup _
    rw [Index.sum_map_of_only hnodup hj fun id _ hne => if_neg hne, if_pos rfl]
  · have hall : ∀ id ∈ userIDs stores, (if id = j then store.get id else 0) = 0 := by
      intro id hid
      exact if_neg fun heq : id = j => hj (heq ▸ hid)
    rw [map_congr_left hall, hzero hj]
    simp

/-- **The statements carry exactly what was swapped out**, for every counter of every row. -/
theorem sum_writes (stores : BatchType → Store) (t : BatchType) (j : ℤ) :
    ((writes stores).map fun write => write.delta t j).sum = (stores t).get j := by
  have hzero : j ∉ userIDs stores → _ := fun h => get_eq_zero_of_not_mem h
  simp only [writes, map_append, map_map, sum_append, Function.comp_def]
  cases t with
  | tokenQuota => simp [Write.delta, sum_rows]
  | channelUsedQuota => simp [Write.delta, sum_rows]
  | userQuota => simp [Write.delta, sum_userIDs fun h => (hzero h).1]
  | usedQuota => simp [Write.delta, sum_userIDs fun h => (hzero h).2.1]
  | requestCount => simp [Write.delta, sum_userIDs fun h => (hzero h).2.2]

end Batch
