import NewApi.Conversion.ToolSurcharge

/-!
# Conversion/TextCharge — the quota of a text request

The end of `calculateTextQuotaSummary` (`service/text_quota.go`): the price of the usage and the
surcharge of its tools are rounded and saturated, a priced request costs at least one unit, one
without billable usage nothing.

* `charge_iff` — the quota is in range, positive where it has to be and grows with the completion
  and the tool calls, unless negative audio tokens are all that is priced or a total overflows.
-/

namespace Conversion

open GoInt Pricing Int Wallet

/-! ## Rounding -/

/-- `QuotaFromDecimalChecked`, without its audit record. -/
def quotaFromDecimal (d : ℚ) : ℤ :=
  if Pricing.maxQuota < Wallet.roundAway d then Pricing.maxQuota
  else if Wallet.roundAway d < Pricing.minQuota then Pricing.minQuota
  else Wallet.roundAway d

/-- Rounding is monotone. -/
theorem roundAway_mono {x y : ℚ} (h : x ≤ y) : roundAway x ≤ roundAway y := by
  unfold roundAway
  split_ifs with hx hy hy
  · exact floor_mono (by linarith)
  · exact absurd (hx.trans h) hy
  · have hneg : 0 ≤ ⌊-x + 1 / 2⌋ := floor_nonneg.2 (by linarith)
    have hpos : 0 ≤ ⌊y + 1 / 2⌋ := floor_nonneg.2 (by linarith)
    omega
  · exact neg_le_neg (floor_mono (by linarith))

theorem roundAway_nonneg_iff {x : ℚ} : 0 ≤ roundAway x ↔ -(1 / 2) < x := by
  unfold roundAway
  split_ifs with hx
  · exact iff_of_true (floor_nonneg.2 (by linarith)) (by linarith)
  · rw [neg_nonneg, ← lt_add_one_iff, floor_lt, zero_add, cast_one]
    constructor <;> intro h <;> linarith

/-- The conversion is monotone. -/
theorem quotaFromDecimal_mono {x y : ℚ} (h : x ≤ y) : quotaFromDecimal x ≤ quotaFromDecimal y := by
  have hround := roundAway_mono h
  have hrange : minQuota ≤ maxQuota := by decide
  unfold quotaFromDecimal
  split_ifs <;> omega

theorem quotaFromDecimal_le (x : ℚ) : quotaFromDecimal x ≤ maxQuota := by
  have hrange : minQuota ≤ maxQuota := by decide
  unfold quotaFromDecimal
  split_ifs <;> omega

/-- Only half a unit and more is rounded to a credit. -/
theorem quotaFromDecimal_nonneg_iff {x : ℚ} : 0 ≤ quotaFromDecimal x ↔ -(1 / 2) < x := by
  have hmax : 0 < maxQuota := by decide
  have hmin : minQuota < 0 := by decide
  rw [← roundAway_nonneg_iff]
  unfold quotaFromDecimal
  split_ifs <;> omega

theorem quotaFromDecimal_nonpos_iff {x : ℚ} : quotaFromDecimal x ≤ 0 ↔ x < 1 / 2 := by
  have hround : roundAway x ≤ 0 ↔ x < 1 / 2 := by
    unfold roundAway
    split_ifs with hx
    · rw [← lt_add_one_iff, floor_lt, zero_add, cast_one]
      constructor <;> intro h <;> linarith
    · exact iff_of_true (neg_nonpos.2 (floor_nonneg.2 (by linarith))) (by linarith)
  have hmax : 0 < maxQuota := by decide
  have hmin : minQuota < 0 := by decide
  rw [← hround]
  unfold quotaFromDecimal
  split_ifs <;> omega

theorem quotaFromDecimal_one : quotaFromDecimal 1 = 1 := by decide +kernel

/-! ## The summary -/

/-- What `PostTextConsumeQuota` reads of a summary. -/
structure TextSummary where
  totalTokens : ℤ
  toolCallSurchargeQuota : ℚ
  quota : ℤ
  fixedPriceBilling : Bool := false
  deriving DecidableEq

/-- Something is to be paid. -/
def TextSummary.hasBillableUsage (s : TextSummary) : Bool :=
  s.fixedPriceBilling || 0 < s.totalTokens || s.toolCallSurchargeQuota ≠ 0

/-- The usage of a request, the estimate of its prompt where there is none. -/
def textUsage (estimate : ℤ) (usage : Option Dto.Usage) : Dto.Usage :=
  usage.getD { promptTokens := estimate, totalTokens := estimate }

section Summary

variable (S : QuotaSettings) (relay : TextRelay)
  (price : PriceData) (u : Dto.Usage) (tools : ToolCalls)

/-- The quota of a usage and its tools, before rounding. -/
def chargeBeforeRounding : ℚ :=
  textQuota S relay price u + calculateTextToolCallSurcharge S relay tools

/-- What a text reply costs, and how that comes about. -/
def calculateTextQuotaSummary : TextSummary :=
  let ratio := price.modelRatio * relay.groupRatio
  let exact := chargeBeforeRounding S relay price u tools
  let floored := if !price.usePrice ∧ ratio ≠ 0 ∧ exact ≤ 0 then 1 else exact
  let summary : TextSummary :=
    { totalTokens := wrap (u.promptTokens + u.completionTokens)
      toolCallSurchargeQuota := calculateTextToolCallSurcharge S relay tools
      quota := quotaFromDecimal floored }
  if summary.hasBillableUsage = false then { summary with quota := 0 }
  else if ratio ≠ 0 ∧ summary.quota = 0 then { summary with quota := 1 }
  else summary

end Summary

/-- Prices that a configuration can have. -/
structure Chargeable (S : QuotaSettings) (relay : TextRelay) (price : PriceData) : Prop where
  unit : 0 ≤ S.quotaPerUnit
  group : 0 ≤ relay.groupRatio
  model : 0 ≤ price.modelRatio
  modelPrice : price.usePrice = true → 0 ≤ price.modelPrice
  completion : 0 ≤ price.completionRatio
  cache : 0 ≤ price.cacheRatio
  image : 0 ≤ price.imageRatio
  creation : 0 ≤ price.cacheCreationRatio
  creation5m : 0 ≤ price.cacheCreation5mRatio
  creation1h : 0 ≤ price.cacheCreation1hRatio
  others : ∀ r ∈ price.otherRatios, 0 < r

/-- A usage without negative counts. -/
structure NonNegative (u : Dto.Usage) : Prop where
  prompt : 0 ≤ u.promptTokens
  completion : 0 ≤ u.completionTokens
  cached : 0 ≤ u.promptTokensDetails.cachedTokens
  writes : 0 ≤ u.promptTokensDetails.cacheCreationTokensTotal
  image : 0 ≤ u.promptTokensDetails.imageTokens
  audio : 0 ≤ u.promptTokensDetails.audioTokens
  write5m : 0 ≤ u.claudeCacheCreation5mTokens
  write1h : 0 ≤ u.claudeCacheCreation1hTokens

/-- The branch that infers cache writes from the cost OpenRouter reports. -/
def Infers (S : QuotaSettings) (relay : TextRelay) (price : PriceData) (u : Dto.Usage) : Prop :=
  (relay.openRouter && isClaudeUsageSemantic relay u) = true ∧
    u.promptTokensDetails.cacheCreationTokensTotal = 0 ∧ price.cacheCreationRatio ≠ 1 ∧
    (price.usePrice || hasCustomModelRatio S relay.modelName price.modelRatio) = false

/-! ## What is priced -/

variable {S : QuotaSettings} {relay : TextRelay}
  {price : PriceData} {u : Dto.Usage} {tools tools' : ToolCalls}

/-- `audioInputQuota`: input audio of a Gemini model has a price of its own. -/
def audioInputQuota (S : QuotaSettings) (relay : TextRelay) (u : Dto.Usage) : ℚ :=
  let audioInputPrice := getGeminiInputAudioPricePerMillionTokens relay.modelName
  let audioTokens : ℤ := if 0 < audioInputPrice then u.promptTokensDetails.audioTokens else 0
  audioInputPrice / 1000000 * audioTokens * S.quotaPerUnit * relay.groupRatio

/-- The tokens of the prompt at their prices. -/
def promptQuota (S : QuotaSettings) (relay : TextRelay) (price : PriceData) (u : Dto.Usage) : ℚ :=
  let details := u.promptTokensDetails
  let summary := textQuotaSummary S relay price u
  let separate := isClaudeUsageSemantic relay u || isLegacyClaudeDerivedOpenAIUsage relay u
  let audioInputPrice := getGeminiInputAudioPricePerMillionTokens relay.modelName
  let audioTokens : ℤ := if 0 < audioInputPrice then details.audioTokens else 0
  let cached : ℤ := if separate then 0 else details.cachedTokens + summary.cacheCreationTokens
  (max (summary.promptTokens - cached - details.imageTokens - audioTokens) 0 : ℤ) +
    details.cachedTokens * price.cacheRatio + details.imageTokens * price.imageRatio +
    cachedCreationTokensWithRatio price separate summary.cacheCreationTokens u

/-- The charge by ratio is linear in the completion. -/
theorem ratioQuota_eq : ratioQuota S relay price u = applyOtherRatios price.otherRatios
    ((promptQuota S relay price u + u.completionTokens * price.completionRatio) *
      (price.modelRatio * relay.groupRatio) + audioInputQuota S relay u) :=
  rfl

/-- The other ratios are one positive factor. -/
theorem applyOtherRatios_eq (ratios : List ℚ) :
    ∃ m : ℚ, 0 < m ∧ ∀ value, applyOtherRatios ratios value = value * m := by
  induction ratios with
  | nil => exact ⟨1, one_pos, fun value => (mul_one value).symm⟩
  | cons r ratios ih =>
    obtain ⟨m, hm, heq⟩ := ih
    by_cases hr : 0 < r ∧ r ≠ 1
    · refine ⟨r * m, mul_pos hr.1 hm, fun value => ?_⟩
      rw [applyOtherRatios, List.foldl_cons, if_pos hr, ← mul_assoc]
      exact heq (value * r)
    · refine ⟨m, hm, fun value => ?_⟩
      rw [applyOtherRatios, List.foldl_cons, if_neg hr]
      exact heq value

theorem audioPrice_nonneg (name : String) : 0 ≤ getGeminiInputAudioPricePerMillionTokens name := by
  unfold getGeminiInputAudioPricePerMillionTokens
  split_ifs <;> norm_num

theorem writes_nonneg (hu : NonNegative u) :
    0 ≤ (textQuotaSummary S relay price u).cacheCreationTokens := by
  unfold textQuotaSummary openRouterSummary
  split_ifs with hrouter
  · dsimp only
    split_ifs with h
    · exact h.2.2.2.1
    · exact hu.writes
  · exact hu.writes

section

variable (hp : Chargeable S relay price)

include hp

/-- A prompt is no credit. -/
theorem promptQuota_nonneg (hu : NonNegative u) : 0 ≤ promptQuota S relay price u := by
  have hcast : ∀ {n : ℤ}, 0 ≤ n → (0 : ℚ) ≤ n := cast_nonneg
  have hcreation : ∀ separate writes, 0 ≤ writes →
      0 ≤ cachedCreationTokensWithRatio price separate writes u := by
    intro separate writes hwrites
    unfold cachedCreationTokensWithRatio
    dsimp only
    split_ifs
    · exact le_rfl
    · exact add_nonneg (add_nonneg (mul_nonneg (hcast (le_max_right _ _)) hp.creation)
        (mul_nonneg (hcast hu.write5m) hp.creation5m))
        (mul_nonneg (hcast hu.write1h) hp.creation1h)
    · exact mul_nonneg (hcast hwrites) hp.creation
  exact add_nonneg (add_nonneg (add_nonneg (hcast (le_max_right _ _))
    (mul_nonneg (hcast hu.cached) hp.cache)) (mul_nonneg (hcast hu.image) hp.image))
    (hcreation _ _ (writes_nonneg hu))

theorem audioInputQuota_nonneg (hu : NonNegative u) : 0 ≤ audioInputQuota S relay u := by
  have htokens : (0 : ℚ) ≤ (if 0 < getGeminiInputAudioPricePerMillionTokens relay.modelName then
      u.promptTokensDetails.audioTokens else 0 : ℤ) := by
    refine cast_nonneg ?_
    split_ifs
    · exact hu.audio
    · exact le_rfl
  have hprice := audioPrice_nonneg relay.modelName
  exact mul_nonneg (mul_nonneg (mul_nonneg (by positivity) htokens) hp.unit) hp.group

theorem textQuota_usePrice_nonneg (h : price.usePrice = true) : 0 ≤ textQuota S relay price u := by
  obtain ⟨m, hm, heq⟩ := applyOtherRatios_eq price.otherRatios
  rw [textQuota, if_pos h, heq]
  exact mul_nonneg (mul_nonneg (mul_nonneg (hp.modelPrice h) hp.unit) hp.group) hm.le

/-- …and neither is a usage without negative counts. -/
theorem textQuota_nonneg (hu : NonNegative u) : 0 ≤ textQuota S relay price u := by
  by_cases h : price.usePrice = true
  · exact textQuota_usePrice_nonneg hp h
  obtain ⟨m, hm, heq⟩ := applyOtherRatios_eq price.otherRatios
  rw [textQuota, if_neg h, ratioQuota_eq, heq]
  have hprompt := promptQuota_nonneg hp hu
  have hcompletion := mul_nonneg (cast_nonneg (R := ℚ) hu.completion) hp.completion
  exact mul_nonneg (add_nonneg (mul_nonneg (add_nonneg hprompt hcompletion)
    (mul_nonneg hp.model hp.group)) (audioInputQuota_nonneg hp hu)) hm.le

end

/-! ## More completion tokens -/

theorem textQuotaSummary_of_not_infers (h : ¬ Infers S relay price u) :
    textQuotaSummary S relay price u =
      if relay.openRouter && isClaudeUsageSemantic relay u then
        ⟨wrap (wrap (u.promptTokens - u.promptTokensDetails.cachedTokens) -
          u.promptTokensDetails.cacheCreationTokensTotal),
          u.promptTokensDetails.cacheCreationTokensTotal⟩
      else ⟨u.promptTokens, u.promptTokensDetails.cacheCreationTokensTotal⟩ := by
  unfold textQuotaSummary
  split_ifs with hrouter
  · have hcond : ∀ {p : Prop}, ¬ (u.promptTokensDetails.cacheCreationTokensTotal = 0 ∧
        price.cacheCreationRatio ≠ 1 ∧
        (!(price.usePrice || hasCustomModelRatio S relay.modelName price.modelRatio)) = true ∧ p) :=
      fun hc => h ⟨hrouter, hc.1, hc.2.1, by simpa using hc.2.2.1⟩
    rw [openRouterSummary, if_neg hcond]
  · rfl

/-- The prompt does not depend on the completion. -/
theorem promptQuota_completion (h : ¬ Infers S relay price u) (c : ℤ) :
    promptQuota S relay price { u with completionTokens := c } = promptQuota S relay price u := by
  have hsame : textQuotaSummary S relay price { u with completionTokens := c } =
      textQuotaSummary S relay price u := by
    rw [textQuotaSummary_of_not_infers h]
    exact textQuotaSummary_of_not_infers (u := { u with completionTokens := c }) h
  unfold promptQuota
  rw [hsame]
  rfl

/-- More completion costs no less. -/
theorem textQuota_mono (hp : Chargeable S relay price) (h : ¬ Infers S relay price u) {c : ℤ}
    (hc : u.completionTokens ≤ c) :
    textQuota S relay price u ≤ textQuota S relay price { u with completionTokens := c } := by
  unfold textQuota
  split_ifs
  · exact le_rfl
  · obtain ⟨m, hm, heq⟩ := applyOtherRatios_eq price.otherRatios
    have haudio : audioInputQuota S relay { u with completionTokens := c } =
      audioInputQuota S relay u := rfl
    have hcompletion : (u.completionTokens : ℚ) * price.completionRatio ≤
        c * price.completionRatio :=
      mul_le_mul_of_nonneg_right (cast_le.2 hc) hp.completion
    have hratio := mul_le_mul_of_nonneg_right hcompletion (mul_nonneg hp.model hp.group)
    rw [ratioQuota_eq, ratioQuota_eq, heq, heq, promptQuota_completion h c, haudio]
    refine mul_le_mul_of_nonneg_right ?_ hm.le
    linarith

/-! ## The quota -/

/-- Whether the code sees anything to charge for. -/
def Billable (S : QuotaSettings) (relay : TextRelay)
    (u : Dto.Usage) (tools : ToolCalls) : Prop :=
  0 < wrap (u.promptTokens + u.completionTokens) ∨
    calculateTextToolCallSurcharge S relay tools ≠ 0

/-- A positive total that a Go `int` does not hold. -/
def Overflows (prompt completion : ℤ) : Prop :=
  0 < prompt + completion ∧ wrap (prompt + completion) ≤ 0

theorem charge_nonneg (hp : Chargeable S relay price)
    (h : price.usePrice = true ∨ NonNegative u) :
    0 ≤ chargeBeforeRounding S relay price u tools := by
  refine add_nonneg ?_ (surcharge_nonneg hp.unit hp.group tools)
  rcases h with h | h
  · exact textQuota_usePrice_nonneg hp h
  · exact textQuota_nonneg hp h

/-- What the code takes for billable usage. -/
theorem hasBillableUsage_eq_false_iff (quota : ℤ) :
    (⟨wrap (u.promptTokens + u.completionTokens), calculateTextToolCallSurcharge S relay tools,
      quota, false⟩ : TextSummary).hasBillableUsage = false ↔ ¬ Billable S relay u tools := by
  rw [TextSummary.hasBillableUsage, Bool.false_or, Bool.or_eq_false_iff, decide_eq_false_iff_not,
    decide_eq_false_iff_not, Billable, not_or]

/-- Nothing is charged without billable usage. -/
theorem quota_of_not_billable (h : ¬ Billable S relay u tools) :
    (calculateTextQuotaSummary S relay price u tools).quota = 0 := by
  rw [calculateTextQuotaSummary]
  rw [if_pos ((hasBillableUsage_eq_false_iff _).2 h)]

/-- **What a request with billable usage is charged.** -/
theorem quota_of_billable (hp : Chargeable S relay price)
    (h : Billable S relay u tools) :
    (calculateTextQuotaSummary S relay price u tools).quota =
      if price.modelRatio * relay.groupRatio = 0 then
        quotaFromDecimal (chargeBeforeRounding S relay price u tools)
      else max 1
        (quotaFromDecimal (chargeBeforeRounding S relay price u tools)) := by
  rw [calculateTextQuotaSummary]
  rw [if_neg fun hc => (hasBillableUsage_eq_false_iff _).1 hc h]
  by_cases hratio : price.modelRatio * relay.groupRatio = 0
  · simp [hratio]
  rw [if_neg hratio]
  by_cases hfloor : (!price.usePrice) = true ∧ price.modelRatio * relay.groupRatio ≠ 0 ∧
      chargeBeforeRounding S relay price u tools ≤ 0
  · have hle : quotaFromDecimal (chargeBeforeRounding S relay price u tools) ≤
        1 := (quotaFromDecimal_mono (hfloor.2.2.trans zero_le_one)).trans_eq quotaFromDecimal_one
    rw [if_pos hfloor, quotaFromDecimal_one, if_neg (fun hc => one_ne_zero hc.2),
      max_eq_left hle]
  · have hpos : 0 ≤ chargeBeforeRounding S relay price u tools := by
      by_cases huse : price.usePrice = true
      · exact charge_nonneg hp (.inl huse)
      · exact (not_le.1 fun hc => hfloor ⟨by simpa using huse, hratio, hc⟩).le
    have hquota := quotaFromDecimal_nonneg_iff.2 (lt_of_lt_of_le (by norm_num) hpos)
    rw [if_neg hfloor]
    split_ifs with hzero
    · exact (max_eq_left (hzero.2.trans_le zero_le_one)).symm
    · have hne : quotaFromDecimal
          (chargeBeforeRounding S relay price u tools) ≠ 0 :=
        fun hc => hzero ⟨hratio, hc⟩
      dsimp only
      omega

/-- A summary whose quota is in range, positive for billable usage of a priced model, and no more
than with a completion of `c` tokens or the tools `tools'`, where those are more. -/
structure FairCharge (S : QuotaSettings) (relay : TextRelay) (price : PriceData) (u : Dto.Usage)
    (tools : ToolCalls) (c : ℤ) (tools' : ToolCalls) : Prop where
  nonneg : 0 ≤ (calculateTextQuotaSummary S relay price u tools).quota
  le_max :
    (calculateTextQuotaSummary S relay price u tools).quota ≤ Pricing.maxQuota
  positive : 0 < u.promptTokens + u.completionTokens ∨
      calculateTextToolCallSurcharge S relay tools ≠ 0 →
    price.modelRatio * relay.groupRatio ≠ 0 →
    1 ≤ (calculateTextQuotaSummary S relay price u tools).quota
  completion : NonNegative u → ¬ Infers S relay price u → u.completionTokens ≤ c →
    (calculateTextQuotaSummary S relay price u tools).quota ≤
      (calculateTextQuotaSummary S relay price
        { u with completionTokens := c } tools).quota
  calls : NonNegative u → ¬ Infers S relay price u → tools.LE tools' →
    (calculateTextQuotaSummary S relay price u tools).quota ≤
      (calculateTextQuotaSummary S relay price u tools').quota

section

variable (hp : Chargeable S relay price)

include hp

theorem quota_nonneg (hu : NonNegative u) :
    0 ≤ (calculateTextQuotaSummary S relay price u tools).quota := by
  have hpos := quotaFromDecimal_nonneg_iff.2
    (lt_of_lt_of_le (by norm_num) (charge_nonneg hp (.inr hu) :
      0 ≤ chargeBeforeRounding S relay price u tools))
  by_cases h : Billable S relay u tools
  · rw [quota_of_billable hp h]
    split_ifs <;> omega
  · rw [quota_of_not_billable h]

/-- Larger charges give larger quotas. -/
theorem quota_mono {u' : Dto.Usage} (hu' : NonNegative u') (hbillable : Billable S relay u tools →
      Billable S relay u' tools') (hle : chargeBeforeRounding S relay price u tools ≤
      chargeBeforeRounding S relay price u' tools') :
    (calculateTextQuotaSummary S relay price u tools).quota ≤
      (calculateTextQuotaSummary S relay price u' tools').quota := by
  by_cases h : Billable S relay u tools
  · have hquota := quotaFromDecimal_mono hle
    rw [quota_of_billable hp h, quota_of_billable hp (hbillable h)]
    split_ifs <;> omega
  · rw [quota_of_not_billable h]
    exact quota_nonneg hp hu'

/-- More calls cost no less. -/
theorem quota_calls (hu : NonNegative u) (h : tools.LE tools') :
    (calculateTextQuotaSummary S relay price u tools).quota ≤
      (calculateTextQuotaSummary S relay price u tools').quota := by
  have hle : calculateTextToolCallSurcharge S relay tools ≤
      calculateTextToolCallSurcharge S relay tools' := surcharge_mono hp.unit hp.group h
  refine quota_mono hp hu (Or.imp_right fun hne => ?_) (add_le_add_right hle _)
  have hpos := (surcharge_nonneg hp.unit hp.group tools).lt_of_ne hne.symm
  exact (hpos.trans_le hle).ne'

theorem quota_le_maxQuota :
    (calculateTextQuotaSummary S relay price u tools).quota ≤
      maxQuota := by
  have hmax : 1 ≤ maxQuota := by decide
  by_cases h : Billable S relay u tools
  · have hle := quotaFromDecimal_le
      (chargeBeforeRounding S relay price u tools)
    rw [quota_of_billable hp h]
    split_ifs <;> omega
  · rw [quota_of_not_billable h]
    omega

end

/-! ## The exact condition -/

/-- What is priced apart from the model's ratio: the call, or its input audio. -/
def pricedApart (S : QuotaSettings) (relay : TextRelay) (price : PriceData) (u : Dto.Usage) : ℚ :=
  applyOtherRatios price.otherRatios
    (if price.usePrice then price.modelPrice * S.quotaPerUnit * relay.groupRatio
    else audioInputQuota S relay u)

/-- Without a ratio, that and the tools are all that is priced. -/
theorem charge_of_ratio_eq_zero (hratio : price.modelRatio * relay.groupRatio = 0) :
    chargeBeforeRounding S relay price u tools =
      pricedApart S relay price u + calculateTextToolCallSurcharge S relay tools := by
  rw [chargeBeforeRounding, textQuota, ratioQuota_eq, hratio, mul_zero, zero_add, pricedApart]
  split_ifs <;> rfl

/-- Negative audio tokens are not all that is priced. -/
def NotPaidOut (S : QuotaSettings) (relay : TextRelay)
    (price : PriceData) (u : Dto.Usage) (tools : ToolCalls) : Prop :=
  price.usePrice = true ∨ price.modelRatio * relay.groupRatio ≠ 0 ∨
    ¬ Billable S relay u tools ∨
    -(1 / 2) < pricedApart S relay price u + calculateTextToolCallSurcharge S relay tools

/-- **When a settlement is no credit.** -/
theorem quota_nonneg_iff (hp : Chargeable S relay price) :
    0 ≤ (calculateTextQuotaSummary S relay price u tools).quota ↔
      NotPaidOut S relay price u tools := by
  by_cases h : Billable S relay u tools
  · rw [quota_of_billable hp h]
    by_cases hratio : price.modelRatio * relay.groupRatio = 0
    · rw [if_pos hratio, quotaFromDecimal_nonneg_iff]
      by_cases huse : price.usePrice = true
      · exact iff_of_true (lt_of_lt_of_le (by norm_num) (charge_nonneg hp (.inl huse))) (.inl huse)
      · rw [charge_of_ratio_eq_zero hratio]
        exact ⟨fun hc => .inr (.inr (.inr hc)), fun hc => ((hc.resolve_left huse).resolve_left
          (not_not.2 hratio)).resolve_left (not_not.2 h)⟩
    · rw [if_neg hratio]
      exact iff_of_true (zero_le_one.trans (le_max_left _ _)) (.inr (.inl hratio))
  · rw [quota_of_not_billable h]
    exact iff_of_true le_rfl (.inr (.inr (.inl h)))

/-- No total overflows, unless tools are charged for or nothing would be charged anyway. -/
structure Counted (S : QuotaSettings) (relay : TextRelay) (price : PriceData) (u : Dto.Usage)
    (tools : ToolCalls) (c : ℤ) : Prop where
  total : Overflows u.promptTokens u.completionTokens →
    price.modelRatio * relay.groupRatio = 0 ∨ calculateTextToolCallSurcharge S relay tools ≠ 0
  grown : NonNegative u → ¬ Infers S relay price u → u.completionTokens ≤ c →
    Overflows u.promptTokens c →
      calculateTextToolCallSurcharge S relay tools ≠ 0 ∨
      wrap (u.promptTokens + u.completionTokens) ≤ 0 ∨
      price.modelRatio * relay.groupRatio = 0 ∧ pricedApart S relay price u < 1 / 2

/-- The code sees no usage in a total that overflows. -/
theorem quota_of_overflows (h : Overflows u.promptTokens u.completionTokens)
    (hnone : calculateTextToolCallSurcharge S relay tools = 0) :
    (calculateTextQuotaSummary S relay price u tools).quota = 0 :=
  quota_of_not_billable fun hb => hb.elim h.2.not_gt fun hne => hne hnone

section

variable (hp : Chargeable S relay price)

include hp

/-- What is billable costs something. -/
theorem quota_positive {c : ℤ} (hcounted : Counted S relay price u tools c)
    (h : 0 < u.promptTokens + u.completionTokens ∨
      calculateTextToolCallSurcharge S relay tools ≠ 0)
    (hratio : price.modelRatio * relay.groupRatio ≠ 0) :
    1 ≤ (calculateTextQuotaSummary S relay price u tools).quota := by
  have hb : Billable S relay u tools := by
    rcases h with h | h
    · by_cases hwrap : 0 < wrap (u.promptTokens + u.completionTokens)
      · exact .inl hwrap
      · exact .inr ((hcounted.total ⟨h, not_lt.1 hwrap⟩).resolve_left hratio)
    · exact .inr h
  rw [quota_of_billable hp hb, if_neg hratio]
  exact le_max_left _ _

/-- **More completion tokens never cost less**, while their total does not overflow. -/
theorem quota_completion (hu : NonNegative u) (h : ¬ Infers S relay price u) {c : ℤ}
    (hc : u.completionTokens ≤ c) (hcounted : Counted S relay price u tools c) :
    (calculateTextQuotaSummary S relay price u tools).quota ≤
      (calculateTextQuotaSummary S relay price { u with completionTokens := c } tools).quota := by
  have hu' : NonNegative { u with completionTokens := c } :=
    ⟨hu.prompt, hu.completion.trans hc, hu.cached, hu.writes, hu.image, hu.audio, hu.write5m,
      hu.write1h⟩
  have hle : chargeBeforeRounding S relay price u tools ≤
      chargeBeforeRounding S relay price { u with completionTokens := c } tools :=
    add_le_add_left (textQuota_mono hp h hc) _
  by_cases hb : Billable S relay { u with completionTokens := c } tools
  · exact quota_mono hp hu' (fun _ => hb) hle
  · refine le_trans ?_ (quota_nonneg hp hu')
    have hnone : calculateTextToolCallSurcharge S relay tools = 0 :=
      not_not.1 fun hne => hb (.inr hne)
    by_cases hpos : 0 < wrap (u.promptTokens + u.completionTokens)
    · -- The larger total is positive, but the code does not see it.
      have hne : u.promptTokens + u.completionTokens ≠ 0 := by
        intro hzero
        rw [hzero] at hpos
        exact absurd hpos (by decide)
      have htotal : 0 < u.promptTokens + c := by
        have hprompt := hu.prompt
        have hcompletion := hu.completion
        omega
      have hover : Overflows u.promptTokens c := ⟨htotal, not_lt.1 fun hw => hb (.inl hw)⟩
      obtain ⟨hratio, hcheap⟩ := ((hcounted.grown hu h hc hover).resolve_left
        (not_not.2 hnone)).resolve_left (not_le.2 hpos)
      rw [quota_of_billable hp (.inl hpos), if_pos hratio, charge_of_ratio_eq_zero hratio, hnone,
        add_zero]
      exact quotaFromDecimal_nonpos_iff.2 hcheap
    · exact (quota_of_not_billable fun hb' => hb'.elim hpos fun hne => hne hnone).le

/-- A charge that is fair counts its tokens. -/
theorem FairCharge.counted {c : ℤ} (h : FairCharge S relay price u tools c tools') :
    Counted S relay price u tools c := by
  refine ⟨fun hover => ?_, fun hu hinfers hc hover => ?_⟩
  · by_contra hne
    obtain ⟨hratio, hnone⟩ := not_or.1 hne
    have hone := h.positive (.inl hover.1) hratio
    rw [quota_of_overflows hover (not_not.1 hnone)] at hone
    exact absurd hone (by decide)
  · by_contra hne
    obtain ⟨hnone, hne⟩ := not_or.1 hne
    obtain ⟨hpos, hcheap⟩ := not_or.1 hne
    have hle := h.completion hu hinfers hc
    rw [quota_of_overflows (u := { u with completionTokens := c }) hover (not_not.1 hnone),
      quota_of_billable hp (.inl (not_le.1 hpos))] at hle
    split_ifs at hle with hratio
    · rw [charge_of_ratio_eq_zero hratio, not_not.1 hnone, add_zero,
        quotaFromDecimal_nonpos_iff] at hle
      exact hcheap ⟨hratio, hle⟩
    · omega

end

/-- **A text settlement is no credit and not free by accident**, exactly where negative audio tokens
are not all that is priced and no total of tokens overflows. -/
theorem charge_iff (hp : Chargeable S relay price) (estimate : ℤ) (usage : Option Dto.Usage)
    (c : ℤ) :
    FairCharge S relay price (textUsage estimate usage) tools c tools' ↔
      NotPaidOut S relay price (textUsage estimate usage) tools ∧
        Counted S relay price (textUsage estimate usage) tools c := by
  rw [← quota_nonneg_iff hp]
  constructor
  · intro h
    exact ⟨h.nonneg, h.counted hp⟩
  · rintro ⟨hnonneg, hcounted⟩
    refine ⟨hnonneg, quota_le_maxQuota hp, quota_positive hp hcounted, ?_, ?_⟩
    · intro hu h hc
      exact quota_completion hp hu h hc hcounted
    · intro hu _ hle
      exact quota_calls hp hu hle

/-- A Gemini model that is priced by its audio alone. -/
def audioOnly : TextRelay where
  modelName := "gemini-2.5-flash"

theorem charge_iff_noAudio :
    Chargeable {} audioOnly {} ∧
      FairCharge {} audioOnly {} (textUsage 0 (some { promptTokens := 1 })) {} 5
        { geminiGoogleSearchCall := true } := by
  have hp : Chargeable {} audioOnly {} := by constructor <;> simp [audioOnly]
  refine ⟨hp, (charge_iff hp 0 (some { promptTokens := 1 }) 5).2 ⟨.inr (.inr (.inr ?_)), ?_, ?_⟩⟩
  · decide +kernel
  · exact fun _ => .inl (by decide +kernel)
  · exact fun _ _ _ hover => absurd hover.2 (by decide)

/-- **Negative audio tokens are paid out**: the one-unit minimum asks for a ratio. -/
theorem negative_audio_paid_out :
    Chargeable {} audioOnly {} ∧
      (calculateTextQuotaSummary {} audioOnly {}
        { promptTokens := 1, promptTokensDetails := { audioTokens := -1000000 } } {}).quota =
          -500000 :=
  ⟨by constructor <;> simp [audioOnly], by decide +kernel⟩

end Conversion
