import Mathlib.Data.Rat.Floor

/-!
# Lottery/Pool — tiers, their weights and the pick

The arithmetic of `model/lottery.go` over ℚ: how many draws a recharge allows, how a tier is
weighted and which tier a random number picks.

* `lotteryPrizeWeight_pos` — only a tier in stock and within the budget has a weight.
* `weight_pos_of_pick` — the pick has one.
-/

namespace Lottery

/-- A row of the pool. -/
structure LotteryPrize where
  id : ℤ
  amount : ℚ
  stock : ℤ
  initialStock : ℤ
  deriving DecidableEq

/-- The settings of the lottery. -/
structure LotterySetting where
  enabled : Bool := true
  startTime : ℤ
  endTime : ℤ
  thresholdMoney : ℚ := 20
  payoutRatio : ℚ := 1 / 4
  reserveQuota : ℚ := 0

/-- The lottery is open. -/
def LotterySetting.isActive (s : LotterySetting) (now : ℤ) : Prop :=
  s.enabled = true ∧ now ≥ s.startTime ∧ now < s.endTime

instance (s : LotterySetting) (now : ℤ) : Decidable (s.isActive now) :=
  inferInstanceAs (Decidable (_ ∧ _))

/-- The recharge that a draw costs. -/
def LotterySetting.effectiveThreshold (s : LotterySetting) : ℚ :=
  if s.thresholdMoney ≤ 0 then 20 else s.thresholdMoney

/-- The first pool: amounts and stocks. -/
def lotteryPrizes : List (ℚ × ℤ) := [(1, 80), (2, 40), (5, 10), (10, 5)]

/-- From here on a prize is big. -/
def lotteryBigPrizeAmount : ℚ := 5

/-- The tiers are the configured ones, in the order of their amounts. -/
def matchesConfig (existing : List LotteryPrize) : Prop :=
  existing.map (fun p => (p.amount, p.initialStock)) = lotteryPrizes

instance (existing : List LotteryPrize) : Decidable (matchesConfig existing) :=
  inferInstanceAs (Decidable (_ = _))

/-- `int(draws)` truncates a positive number. -/
def lotteryAllowedDraws (recharge threshold : ℚ) : ℤ :=
  if recharge ≤ 0 ∨ threshold ≤ 0 then 0
  else if recharge / threshold > 1000000 then 1000000
  else ⌊recharge / threshold⌋

/-- Cut to between `0` and `1`. -/
def clamp (v : ℚ) : ℚ := if v > 1 then 1 else if v < 0 then 0 else v

/-- How a user's recharge, usage and days weigh. -/
def lotteryUserFactor (recharge usageQuotaUnits : ℚ) (activeDays : ℕ) : ℚ :=
  let rechargeScore := clamp (recharge / 200)
  let usageScore := if recharge > 0 then clamp (usageQuotaUnits / recharge) else 0
  let returnScore := clamp (activeDays / 14)
  1 / 2 + 1 / 4 * rechargeScore + 3 / 20 * usageScore + 1 / 10 * returnScore

/-- What the pool is worth. -/
def lotteryPoolCost (prizes : List LotteryPrize) : ℚ :=
  (prizes.map fun p => if p.stock > 0 then p.amount * (p.stock : ℚ) else 0).sum

/-! ## Weights -/

section

variable (userFactor budgetFactor budgetRemaining : ℚ)

/-- Some small prize can be given out. -/
def hasSmall (prizes : List LotteryPrize) : Bool :=
  prizes.any fun p => p.stock > 0 ∧ p.amount < lotteryBigPrizeAmount ∧ p.amount ≤ budgetRemaining

/-- One round of the loop of `lotteryPrizeWeights`; `continue` leaves the weight zero. -/
def lotteryPrizeWeight (small : Bool) (p : LotteryPrize) : ℚ :=
  if p.stock ≤ 0 ∨ p.amount > budgetRemaining then 0
  else if p.amount ≥ lotteryBigPrizeAmount then
    if budgetFactor < 1 ∧ small = true then 0
    else
      p.stock * (if budgetFactor < 3 / 2 then 7 / 10 else 1) *
        (if p.amount ≥ 10 then 11 / 20 + 9 / 20 * userFactor else 3 / 4 + 1 / 4 * userFactor)
  else p.stock

/-- The weights a draw goes by. -/
def lotteryPrizeWeights (prizes : List LotteryPrize) : List ℚ :=
  prizes.map
    (lotteryPrizeWeight userFactor budgetFactor budgetRemaining (hasSmall budgetRemaining prizes))

variable {userFactor budgetFactor budgetRemaining}

/-- **Only a tier in stock and within the budget has a weight.** -/
theorem lotteryPrizeWeight_pos {small : Bool} {p : LotteryPrize}
    (h : 0 < lotteryPrizeWeight userFactor budgetFactor budgetRemaining small p) :
    0 < p.stock ∧ p.amount ≤ budgetRemaining := by
  by_cases hskip : p.stock ≤ 0 ∨ p.amount > budgetRemaining
  · rw [lotteryPrizeWeight, if_pos hskip] at h
    exact absurd h (lt_irrefl 0)
  · rw [not_or, not_le, gt_iff_lt, not_lt] at hskip
    exact hskip

end

/-! ## The pick -/

/-- The loop of `pickLotteryPrize` from index `i` on. -/
def pickFrom : List ℚ → ℕ → ℚ → Option ℕ → Option ℕ
  | [], _, _, last => last
  | w :: ws, i, pick, last =>
    if w ≤ 0 then pickFrom ws (i + 1) pick last
    else if pick - w < 0 then some i
    else pickFrom ws (i + 1) (pick - w) (some i)

/-- `pickLotteryPrize`; no index is the source's `-1`. -/
def pickLotteryPrize (weights : List ℚ) (r : ℚ) : Option ℕ :=
  if weights.sum ≤ 0 then none else pickFrom weights 0 (r * weights.sum) none

/-- The loop only ever holds indices of positive weights. -/
theorem weight_pos_of_pickFrom {ws : List ℚ} : ∀ {seen : List ℚ} {pick : ℚ} {last : Option ℕ}
    {j : ℕ}, (∀ i ∈ last, ∃ w, (seen ++ ws)[i]? = some w ∧ 0 < w) →
      pickFrom ws seen.length pick last = some j → ∃ w, (seen ++ ws)[j]? = some w ∧ 0 < w := by
  induction ws with
  | nil => exact fun hlast h => hlast _ h
  | cons w ws ih =>
    intro seen pick last j hlast h
    have hlen : seen.length + 1 = (seen ++ [w]).length := by simp
    rw [List.append_cons] at hlast ⊢
    rw [pickFrom] at h
    split_ifs at h with hw hpick
    · rw [hlen] at h
      exact ih hlast h
    · cases h
      exact ⟨w, by simp, not_le.mp hw⟩
    · rw [hlen] at h
      refine ih (fun i hi => ?_) h
      cases hi
      exact ⟨w, by simp, not_le.mp hw⟩

/-- **The pick has a positive weight.** -/
theorem weight_pos_of_pick {weights : List ℚ} {r : ℚ} {j : ℕ}
    (h : pickLotteryPrize weights r = some j) : ∃ w, weights[j]? = some w ∧ 0 < w := by
  rw [pickLotteryPrize] at h
  split_ifs at h
  exact @weight_pos_of_pickFrom weights [] _ none j (by simp) h

/-- …so the tier picked is in stock and within the budget. -/
theorem prize_of_pick {prizes : List LotteryPrize} {userFactor budgetFactor budgetRemaining r : ℚ}
    {j : ℕ} (h : pickLotteryPrize
      (lotteryPrizeWeights userFactor budgetFactor budgetRemaining prizes) r = some j) :
    ∃ p, prizes[j]? = some p ∧ 0 < p.stock ∧ p.amount ≤ budgetRemaining := by
  obtain ⟨w, hw, hpos⟩ := weight_pos_of_pick h
  rw [lotteryPrizeWeights, List.getElem?_map, Option.map_eq_some_iff] at hw
  obtain ⟨p, hp, rfl⟩ := hw
  exact ⟨p, hp, lotteryPrizeWeight_pos hpos⟩

end Lottery
