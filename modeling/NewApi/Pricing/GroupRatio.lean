import NewApi.Machinery.Text
import Mathlib.Data.Rat.Cast.Order
import Mathlib.Tactic.Ring

/-!
# Pricing/GroupRatio — the group ratio a task is quoted and the one it is settled by

`HandleGroupRatio` and `ModelPriceHelperPerCall` (`relay/helper/price.go`) price a task when it is
submitted; `RecalculateTaskQuotaByTokens` (`service/task_billing.go`) prices it again from the
tokens it used.  The first looks the ratio up for the user's group and the using group, the second
for the task's group alone.  Prices and ratios are rationals; the conversion to quota truncates and
saturates.

* `token_settlement_ratio_iff` — when the two ratios are the same, and what follows for the quota.
-/

namespace Pricing

/-! ## Settings -/

/-- The tables of `ratio_setting`, and the switches the price helpers read. -/
structure RatioSettings where
  groupRatio : String → Option ℚ := fun _ => none
  /-- Keyed by the user's group, then by the using group. -/
  groupGroupRatio : String → Option (String → Option ℚ) := fun _ => none
  modelRatio : String → Option ℚ := fun _ => none
  modelPrice : String → Option ℚ := fun _ => none
  defaultModelPrice : String → Option ℚ := fun _ => none
  formatMatchingModelName : String → String := id
  selfUseModeEnabled : Bool := false
  enableFreeModelPreConsume : Bool := false
  quotaPerUnit : ℚ := 500000

namespace RatioSettings

variable (S : RatioSettings)

/-- A group without an entry has ratio `1`. -/
def getGroupRatio (name : String) : ℚ := (S.groupRatio name).getD 1

/-- The special ratio of a user's group in another. -/
def getGroupGroupRatio (userGroup usingGroup : String) : Option ℚ :=
  (S.groupGroupRatio userGroup).bind fun gp => gp usingGroup

/-- The ratio, and whether there is a setting for it. -/
def getModelRatio (name : String) : ℚ × Bool :=
  match S.modelRatio (S.formatMatchingModelName name) with
  | none => (37.5, S.selfUseModeEnabled)
  | some ratio => (ratio, true)

/-- The ratio listed for the name as it is. -/
def getModelRatioExact (name : String) : ℚ × Bool :=
  match S.modelRatio (String.ofList (Text.trimSpace name)) with
  | none => (37.5, S.selfUseModeEnabled)
  | some ratio => (ratio, true)

/-- The price listed for the matching name. -/
def getModelPrice (name : String) : Option ℚ := S.modelPrice (S.formatMatchingModelName name)

/-- The price listed for the name as it is. -/
def getModelPriceExact (name : String) : Option ℚ :=
  S.modelPrice (String.ofList (Text.trimSpace name))

end RatioSettings

/-! ## Quota conversion -/

/-- The largest quota. -/
def maxQuota : ℤ := 2 ^ 31 - 1

/-- The least quota. -/
def minQuota : ℤ := -2 ^ 31

/-- Which end of the range was passed. -/
inductive QuotaClamp where
  | overflow | underflow
  deriving DecidableEq

/-- `QuotaFromFloatChecked`: truncate toward zero, saturating. -/
def quotaFromFloatChecked (value : ℚ) : ℤ × Option QuotaClamp :=
  if (maxQuota : ℚ) < value then (maxQuota, some .overflow)
  else if value < (minQuota : ℚ) then (minQuota, some .underflow)
  else (value.num.tdiv value.den, none)

/-- Truncated, and cut to the range. -/
def quotaFromFloat (value : ℚ) : ℤ := (quotaFromFloatChecked value).1

/-- Truncated, refused outside the range. -/
def quotaFromFloatStrict (value : ℚ) : Except QuotaClamp ℤ :=
  match quotaFromFloatChecked value with
  | (_, some clamp) => .error clamp
  | (quota, none) => .ok quota

/-! ## The quote -/

/-- The ratio of a group, and the special one if there is one. -/
structure GroupRatioInfo where
  groupRatio : ℚ := 1
  groupSpecialRatio : ℚ := -1
  hasSpecialRatio : Bool := false
  deriving DecidableEq

/-- What the price helpers read of a request. -/
structure QuoteRequest where
  userGroup : String
  usingGroup : String
  /-- The context's `auto_group`. -/
  autoGroup : Option String := none
  requestURLPath : String
  originModelName : String
  acceptUnsetRatioModel : Bool := false

/-- `UsingGroup` once `HandleGroupRatio` has run; the task is filed under it. -/
def QuoteRequest.finalGroup (req : QuoteRequest) : String := req.autoGroup.getD req.usingGroup

/-- The ratio a request is quoted at. -/
def handleGroupRatio (S : RatioSettings) (req : QuoteRequest) : GroupRatioInfo :=
  match S.getGroupGroupRatio req.userGroup req.finalGroup with
  | some ratio => { groupRatio := ratio, groupSpecialRatio := ratio, hasSpecialRatio := true }
  | none => { groupRatio := S.getGroupRatio req.finalGroup }

/-- `strings.Contains(info.RequestURLPath, "/video")`. -/
def QuoteRequest.isVideo (req : QuoteRequest) : Bool :=
  decide ("/video".toList <:+: req.requestURLPath.toList)

/-- A quote. -/
structure PriceData where
  freeModel : Bool
  modelPrice : ℚ
  modelRatio : ℚ
  usePrice : Bool
  fixedPrice : Bool
  quota : ℤ
  groupRatioInfo : GroupRatioInfo
  deriving DecidableEq

/-- Why there is no quote. -/
inductive PriceError where
  | modelPriceNotConfigured
  | clamped (c : QuotaClamp)
  deriving DecidableEq

/-- The group ratio of a per-call quote: video routes ignore groups. -/
def perCallGroupRatioInfo (S : RatioSettings) (req : QuoteRequest) : GroupRatioInfo :=
  if req.isVideo then {} else handleGroupRatio S req

/-- A model with a price per call. -/
def quoteByPrice (S : RatioSettings) (info : GroupRatioInfo) (price : ℚ) :
    Except PriceError PriceData :=
  let free := !S.enableFreeModelPreConsume && (info.groupRatio == 0 || price == 0)
  match quotaFromFloatStrict (price * S.quotaPerUnit * info.groupRatio) with
  | .error c => .error (.clamped c)
  | .ok quota => .ok ⟨free, price, 0, true, true, if free then 0 else quota, info⟩

/-- A model priced by ratio: half the model ratio per unit is reserved. -/
def quoteByRatio (S : RatioSettings) (info : GroupRatioInfo) (ratio : ℚ × Bool)
    (acceptUnsetRatio : Bool) : Except PriceError PriceData :=
  if !ratio.2 && !acceptUnsetRatio then .error .modelPriceNotConfigured
  else
    let free := !S.enableFreeModelPreConsume && (info.groupRatio == 0 || ratio.1 == 0)
    match quotaFromFloatStrict (ratio.1 / 2 * S.quotaPerUnit * info.groupRatio) with
    | .error c => .error (.clamped c)
    | .ok quota => .ok ⟨free, -1, ratio.1, false, false, if free then 0 else quota, info⟩

/-- The quote of a task. -/
def modelPriceHelperPerCall (S : RatioSettings) (req : QuoteRequest) : Except PriceError PriceData :=
  let configured := if req.isVideo then S.getModelPriceExact req.originModelName
    else S.getModelPrice req.originModelName
  match configured.orElse fun _ => S.defaultModelPrice req.originModelName with
  | some price => quoteByPrice S (perCallGroupRatioInfo S req) price
  | none =>
    quoteByRatio S (perCallGroupRatioInfo S req)
      (if req.isVideo then S.getModelRatioExact req.originModelName
        else S.getModelRatio req.originModelName) req.acceptUnsetRatioModel

/-! ## The settlement by tokens -/

/-- What a task keeps of its quote (`TaskBillingContext`).  Of a tiered snapshot only its presence
is read here. -/
structure TaskBillingContext where
  modelPrice : ℚ := 0
  groupRatio : ℚ := 0
  modelRatio : ℚ := 0
  otherRatios : List (String × ℚ) := []
  originModelName : String := ""
  perCallBilling : Bool := false
  tieredSnapshot : Bool := false
  deriving DecidableEq

/-- `OtherRatioMultiplier`: ratios that are not positive are ignored. -/
def otherRatioMultiplier (ratios : List (String × ℚ)) : ℚ :=
  ((ratios.map (·.2)).filter (0 < ·)).prod

/-- The group `RecalculateTaskQuotaByTokens` settles by; an unfiled task falls back to the user's
current group, `none` if the user is not found. -/
def settlementGroup (user : Option String) (group : String) : String :=
  if group = "" then user.getD "" else group

/-- …and its ratio, `none` without a group. -/
def settlementGroupRatio (S : RatioSettings) (user : Option String) (group : String) : Option ℚ :=
  let group := settlementGroup user group
  if group = "" then none
  else match S.getGroupGroupRatio group group with
    | some ratio => some ratio
    | none => some (S.getGroupRatio group)

/-- The quota `RecalculateTaskQuotaByTokens` arrives at, `none` where it replies `false`. -/
def quotaByTokens (S : RatioSettings) (user : Option String) (group modelName : String)
    (otherRatios : List (String × ℚ)) (totalTokens : ℤ) : Option ℤ :=
  if totalTokens ≤ 0 then none
  else
    let ratio := S.getModelRatio modelName
    if ratio.2 = false ∨ ratio.1 ≤ 0 then none
    else (settlementGroupRatio S user group).map fun groupRatio =>
      quotaFromFloat (totalTokens * ratio.1 * groupRatio * otherRatioMultiplier otherRatios)

/-- The difference `RecalculateTaskQuota` moves, `none` if it moves nothing. -/
def recalculateTaskQuota (quota actualQuota : ℤ) : Option ℤ :=
  if actualQuota < 0 then none
  else if actualQuota - quota = 0 then none
  else some (actualQuota - quota)

/-- A recalculation that arrives at the quota moves nothing. -/
theorem recalculateTaskQuota_self (quota : ℤ) : recalculateTaskQuota quota quota = none := by
  simp [recalculateTaskQuota]

variable {S : RatioSettings}

theorem quotaByTokens_eq_some {user : Option String} {group modelName : String}
    {others : List (String × ℚ)} {tokens actual : ℤ}
    (h : quotaByTokens S user group modelName others tokens = some actual) :
    ∃ r, settlementGroupRatio S user group = some r ∧ quotaFromFloat
      (tokens * (S.getModelRatio modelName).1 * r * otherRatioMultiplier others) = actual := by
  unfold quotaByTokens at h
  split at h
  · cases h
  dsimp only at h
  split at h
  · cases h
  exact Option.map_eq_some_iff.mp h

/-! ## Comparing the two -/

/-- The ratio of `usingGroup` for a member of `userGroup`: the special one if there is one. -/
def ratioFor (S : RatioSettings) (userGroup usingGroup : String) : ℚ :=
  (S.getGroupGroupRatio userGroup usingGroup).getD (S.getGroupRatio usingGroup)

theorem handleGroupRatio_groupRatio (S : RatioSettings) (req : QuoteRequest) :
    (handleGroupRatio S req).groupRatio = ratioFor S req.userGroup req.finalGroup := by
  unfold handleGroupRatio ratioFor
  cases S.getGroupGroupRatio req.userGroup req.finalGroup <;> rfl

theorem settlementGroupRatio_eq_some_iff (S : RatioSettings) (user : Option String) (group : String)
    (r : ℚ) : settlementGroupRatio S user group = some r ↔
      settlementGroup user group ≠ "" ∧
        r = ratioFor S (settlementGroup user group) (settlementGroup user group) := by
  unfold settlementGroupRatio ratioFor
  dsimp only
  split
  · next h => simp [h]
  · next h =>
    cases S.getGroupGroupRatio (settlementGroup user group) (settlementGroup user group) <;>
      simp [h, eq_comm]

/-- The ratio a per-call quote applies, and stores in the task's billing context. -/
theorem perCallGroupRatio_eq (S : RatioSettings) (req : QuoteRequest) :
    (perCallGroupRatioInfo S req).groupRatio =
      if req.isVideo then 1 else ratioFor S req.userGroup req.finalGroup := by
  unfold perCallGroupRatioInfo
  split
  · rfl
  · exact handleGroupRatio_groupRatio S req

/-- Quote and settlement find the same ratio in the tables.  A task that is filed under its using
group is settled by that group's entry for itself: the user's group has the same entry, or neither
has one that differs from the group's own ratio.  A video route is quoted at `1`, and a task that is
not filed is settled by the user's current group. -/
def RatesAgree (S : RatioSettings) (req : QuoteRequest) (user : Option String) : Prop :=
  let group := settlementGroup user req.finalGroup
  group = "" ∨
    if req.isVideo then ratioFor S group group = 1
    else if group = req.finalGroup then
      S.getGroupGroupRatio req.userGroup group = S.getGroupGroupRatio group group ∨
        (∀ x ∈ S.getGroupGroupRatio req.userGroup group, x = S.getGroupRatio group) ∧
          ∀ x ∈ S.getGroupGroupRatio group group, x = S.getGroupRatio group
    else ratioFor S group group = ratioFor S req.userGroup req.finalGroup

instance (S : RatioSettings) (req : QuoteRequest) (user : Option String) :
    Decidable (RatesAgree S req user) := by
  unfold RatesAgree
  infer_instance

/-- A video route looks its model up by the exact name, the settlement by the name that matches. -/
def ModelRatesAgree (S : RatioSettings) (req : QuoteRequest) : Prop :=
  req.isVideo = true →
    (S.modelRatio (String.ofList (Text.trimSpace req.originModelName))).getD 37.5 =
      (S.modelRatio (S.formatMatchingModelName req.originModelName)).getD 37.5

/-- Two entries that stand for the same default. -/
theorem getD_eq_getD_iff {a b : Option ℚ} {r : ℚ} :
    a.getD r = b.getD r ↔ a = b ∨ (∀ x ∈ a, x = r) ∧ ∀ x ∈ b, x = r := by
  cases a with
  | none =>
    cases b with
    | none => simp
    | some y => simp [eq_comm]
  | some x =>
    cases b with
    | none => simp
    | some y =>
      simp only [Option.getD_some, Option.some.injEq, Option.mem_def, forall_eq']
      exact ⟨.inl, fun h => h.elim id fun h => h.1.trans h.2.symm⟩

theorem ratesAgree_iff (S : RatioSettings) (req : QuoteRequest) (user : Option String) :
    RatesAgree S req user ↔ settlementGroup user req.finalGroup = "" ∨
      ratioFor S (settlementGroup user req.finalGroup) (settlementGroup user req.finalGroup) =
        if req.isVideo then 1 else ratioFor S req.userGroup req.finalGroup := by
  unfold RatesAgree
  dsimp only
  refine or_congr_right ?_
  split_ifs with hvideo hfiled
  · rfl
  · rw [← getD_eq_getD_iff, hfiled, eq_comm]
    rfl
  · rfl

theorem getModelRatio_fst (S : RatioSettings) (name : String) :
    (S.getModelRatio name).1 = (S.modelRatio (S.formatMatchingModelName name)).getD 37.5 := by
  unfold RatioSettings.getModelRatio
  split <;> next h => rw [h]; rfl

theorem getModelRatioExact_fst (S : RatioSettings) (name : String) :
    (S.getModelRatioExact name).1 =
      (S.modelRatio (String.ofList (Text.trimSpace name))).getD 37.5 := by
  unfold RatioSettings.getModelRatioExact
  split <;> next h => rw [h]; rfl

variable {pd : PriceData}

theorem quoteByPrice_ok {info : GroupRatioInfo} {price : ℚ}
    (h : quoteByPrice S info price = .ok pd) :
    pd.groupRatioInfo = info ∧ pd.usePrice = true := by
  unfold quoteByPrice at h
  split at h
  · cases h
  · cases h
    exact ⟨rfl, rfl⟩

theorem quotaFromFloat_zero : quotaFromFloat 0 = 0 := by decide +kernel

theorem otherRatioMultiplier_nil : otherRatioMultiplier [] = 1 := rfl

/-- What has been converted once is converted to itself. -/
theorem quotaFromFloat_self {q : ℤ} {v : ℚ} (h : q = quotaFromFloat v) :
    quotaFromFloat (q : ℚ) = q := by
  have hmax : q ≤ maxQuota ∧ minQuota ≤ q := by
    have hrange : minQuota ≤ maxQuota := by decide
    rw [h, quotaFromFloat, quotaFromFloatChecked]
    split_ifs with hover hunder
    · exact ⟨le_rfl, hrange⟩
    · exact ⟨hrange, le_rfl⟩
    · have hden : (0 : ℤ) < v.den := Int.natCast_pos.2 v.den_pos
      have htrunc (m : ℤ) : (m * v.den).tdiv v.den = m := Int.mul_tdiv_cancel m hden.ne'
      have hle : v.num ≤ maxQuota * v.den := by simpa [Rat.le_iff] using not_lt.1 hover
      have hge : minQuota * v.den ≤ v.num := by simpa [Rat.le_iff] using not_lt.1 hunder
      exact ⟨(Int.tdiv_le_tdiv hden hle).trans_eq (htrunc _),
        (htrunc _).symm.trans_le (Int.tdiv_le_tdiv hden hge)⟩
  rw [quotaFromFloat, quotaFromFloatChecked, if_neg (not_lt.2 (Int.cast_le.2 hmax.1)),
    if_neg (not_lt.2 (Int.cast_le.2 hmax.2))]
  simp

theorem quotaFromFloatStrict_ok {v : ℚ} {q : ℤ} (h : quotaFromFloatStrict v = .ok q) :
    q = quotaFromFloat v := by
  unfold quotaFromFloatStrict at h
  split at h
  · cases h
  · next heq =>
    cases h
    rw [quotaFromFloat, heq]

/-- A model priced by ratio is quoted for half a unit's tokens, also where it is free. -/
theorem quoteByRatio_ok {info : GroupRatioInfo} {ratio : ℚ × Bool} {accept : Bool}
    (h : quoteByRatio S info ratio accept = .ok pd) :
    pd.groupRatioInfo = info ∧ pd.modelRatio = ratio.1 ∧
      pd.quota = quotaFromFloat (S.quotaPerUnit / 2 * ratio.1 * info.groupRatio) := by
  unfold quoteByRatio at h
  split at h
  · cases h
  dsimp only at h
  split at h
  · cases h
  next q hq =>
  cases h
  refine ⟨rfl, rfl, ?_⟩
  have hvalue : S.quotaPerUnit / 2 * ratio.1 * info.groupRatio =
      ratio.1 / 2 * S.quotaPerUnit * info.groupRatio := by ring
  rw [hvalue]
  split_ifs with hfree
  · rw [Bool.and_eq_true, Bool.or_eq_true, beq_iff_eq, beq_iff_eq] at hfree
    rcases hfree.2 with hzero | hzero <;> simp [hzero, quotaFromFloat_zero]
  · exact quotaFromFloatStrict_ok hq

/-- A per-call quote stores the ratio it applied; for a model priced by ratio it reserves half a
unit's tokens, at the ratio of its exact name on a video route. -/
theorem modelPriceHelperPerCall_ok {req : QuoteRequest}
    (h : modelPriceHelperPerCall S req = .ok pd) :
    pd.groupRatioInfo = perCallGroupRatioInfo S req ∧
      (pd.usePrice = false → (ModelRatesAgree S req →
          pd.modelRatio = (S.getModelRatio req.originModelName).1) ∧
        pd.quota = quotaFromFloat (S.quotaPerUnit / 2 * pd.modelRatio *
          (perCallGroupRatioInfo S req).groupRatio)) := by
  unfold modelPriceHelperPerCall at h
  dsimp only at h
  split at h
  · obtain ⟨hinfo, huse⟩ := quoteByPrice_ok h
    exact ⟨hinfo, fun hratio => by rw [huse] at hratio; cases hratio⟩
  · obtain ⟨hinfo, hratio, hquota⟩ := quoteByRatio_ok h
    refine ⟨hinfo, fun _ => ⟨fun hmodel => ?_, by rw [hquota, hratio]⟩⟩
    rw [hratio]
    split_ifs with hvideo
    · rw [getModelRatioExact_fst, hmodel hvideo, getModelRatio_fst]
    · rfl

/-- The quota of a task before it is sent upstream: the quote, times the other ratios. -/
def reservedQuota (pd : PriceData) (others : List (String × ℚ)) : ℤ :=
  quotaFromFloat (pd.quota * otherRatioMultiplier others)

/-- The quote is a whole number, or nothing multiplies what it was truncated to. -/
def Unrounded (S : RatioSettings) (pd : PriceData) (others : List (String × ℚ)) : Prop :=
  (pd.quota : ℚ) = S.quotaPerUnit / 2 * pd.modelRatio * pd.groupRatioInfo.groupRatio ∨ others = []

/-- **A task is settled by the ratio it was quoted exactly when the tables agree.**  If its model is
then priced by one ratio, a task settled at the tokens its quota was computed from keeps it; the
quota that the quote reserves was computed from half a unit's tokens. -/
theorem token_settlement_ratio_iff {S : RatioSettings} {req : QuoteRequest} {pd : PriceData}
    (hquote : modelPriceHelperPerCall S req = .ok pd) (user : Option String) :
    ((∀ r, settlementGroupRatio S user req.finalGroup = some r → r = pd.groupRatioInfo.groupRatio) ↔
        RatesAgree S req user) ∧
      (RatesAgree S req user → ModelRatesAgree S req → pd.usePrice = false →
        ∀ (others : List (String × ℚ)) (tokens actual : ℤ),
          quotaByTokens S user req.finalGroup req.originModelName others tokens = some actual →
          recalculateTaskQuota (quotaFromFloat (tokens * pd.modelRatio *
            pd.groupRatioInfo.groupRatio * otherRatioMultiplier others)) actual = none ∧
          ((tokens : ℚ) = S.quotaPerUnit / 2 → Unrounded S pd others →
            recalculateTaskQuota (reservedQuota pd others) actual = none)) := by
  obtain ⟨hinfo, hratio⟩ := modelPriceHelperPerCall_ok hquote
  have hiff : (∀ r, settlementGroupRatio S user req.finalGroup = some r →
      r = pd.groupRatioInfo.groupRatio) ↔ RatesAgree S req user := by
    simp only [hinfo, settlementGroupRatio_eq_some_iff, perCallGroupRatio_eq, ratesAgree_iff]
    constructor
    · intro h
      by_cases hg : settlementGroup user req.finalGroup = ""
      · exact .inl hg
      · exact .inr (h _ ⟨hg, rfl⟩)
    · rintro (hg | hr) r ⟨hne, rfl⟩
      · exact absurd hg hne
      · exact hr
  refine ⟨hiff, fun hagree hmodel huse others tokens actual h => ?_⟩
  obtain ⟨hmodel', hquota⟩ := hratio huse
  obtain ⟨r, hr, rfl⟩ := quotaByTokens_eq_some h
  rw [hiff.mpr hagree r hr, ← hmodel' hmodel]
  refine ⟨recalculateTaskQuota_self _, fun htokens hwhole => ?_⟩
  have hreserved : reservedQuota pd others = quotaFromFloat (tokens * pd.modelRatio *
      pd.groupRatioInfo.groupRatio * otherRatioMultiplier others) := by
    rcases hwhole with hwhole | rfl
    · rw [reservedQuota, hwhole, htokens]
    · rw [reservedQuota, otherRatioMultiplier_nil, mul_one, mul_one, quotaFromFloat_self hquota,
        hquota, htokens, hinfo]
  rw [hreserved]
  exact recalculateTaskQuota_self _

/-! ## A member of a favoured group -/

/-- Members of `vip` pay half in `default`. -/
def vipSettings : RatioSettings where
  groupRatio name := if name = "default" then some 1 else none
  groupGroupRatio name := if name = "vip" then some fun g => if g = "default" then some (1 / 2) else none
    else none
  modelRatio name := if name = "m" then some 2 else none

/-- A request of a vip in the default group. -/
def vipRequest : QuoteRequest where
  userGroup := "vip"
  usingGroup := "default"
  requestURLPath := "/v1/tasks"
  originModelName := "m"

/-- The same of a default user. -/
def defaultRequest : QuoteRequest := { vipRequest with userGroup := "default" }

/-- Its quote. -/
def defaultQuote : PriceData := ⟨false, -1, 2, false, false, 500000, {}⟩

/-- A member of `default` is settled as quoted, and keeps the quota reserved. -/
theorem token_settlement_ratio_default :
    modelPriceHelperPerCall vipSettings defaultRequest = .ok defaultQuote ∧
      ((∀ r, settlementGroupRatio vipSettings (some "default") "default" = some r → r = 1) ↔
        RatesAgree vipSettings defaultRequest (some "default")) ∧
      quotaByTokens vipSettings (some "default") "default" "m" [] 250000 = some 500000 ∧
      recalculateTaskQuota (reservedQuota defaultQuote []) 500000 = none := by
  have hquote : modelPriceHelperPerCall vipSettings defaultRequest = .ok defaultQuote := by
    decide +kernel
  have hagree : RatesAgree vipSettings defaultRequest (some "default") := by decide +kernel
  have hmodel : ModelRatesAgree vipSettings defaultRequest :=
    fun hvideo => absurd hvideo (by decide +kernel)
  have htokens : quotaByTokens vipSettings (some "default") "default" "m" [] 250000 =
      some 500000 := by decide +kernel
  obtain ⟨hratio, hquota⟩ := token_settlement_ratio_iff hquote (some "default")
  exact ⟨hquote, hratio, htokens,
    (hquota hagree hmodel rfl [] 250000 500000 htokens).2 (by norm_num [vipSettings]) (.inr rfl)⟩

/-- Quoted at one half and settled at one: a task reserved for 1000 tokens is charged twice. -/
theorem vip_settled_at_full_ratio :
    (perCallGroupRatioInfo vipSettings vipRequest).groupRatio = 1 / 2 ∧
      settlementGroupRatio vipSettings (some "vip") vipRequest.finalGroup = some 1 ∧
      recalculateTaskQuota (quotaFromFloat (1000 * 2 * (1 / 2)))
        ((quotaByTokens vipSettings (some "vip") vipRequest.finalGroup "m" [] 1000).getD 0)
        = some 1000 := by
  decide +kernel

end Pricing
