import NewApi.Billingexpr.Run
import NewApi.Dto.Usage
import NewApi.Machinery.GoInt
import NewApi.Pricing.GroupRatio
import NewApi.Wallet.Credit

/-!
# Conversion/TextQuota — the two engines that price a text request

`calculateTextQuotaSummary` (`service/text_quota.go`) charges a usage by the ratios of its model.
`BuildTieredTokenParams` (`service/tiered_settle.go`) splits the same usage into the variables of a
billing expression.  Counts are 64-bit integers, prices and ratios rationals; tool surcharges,
rounding and the one-unit minimum are those of `Conversion/TextCharge`.
-/

namespace Conversion

open GoInt

open Billingexpr (TokenParams)

/-! ## What is read of a relay -/

/-- What the settlement of a text request reads of its relay. -/
structure TextRelay where
  modelName : String
  /-- Whether the request went upstream in Claude's format. -/
  claudeFormat : Bool := false
  openRouter : Bool := false
  groupRatio : ℚ := 1
  /-- The cost that came with the usage, zero where none did. -/
  upstreamCost : ℚ := 0

/-- `PriceData`, as far as the text settlement reads it. -/
structure PriceData where
  usePrice : Bool := false
  modelPrice : ℚ := 0
  modelRatio : ℚ := 0
  completionRatio : ℚ := 0
  cacheRatio : ℚ := 0
  imageRatio : ℚ := 0
  cacheCreationRatio : ℚ := 0
  cacheCreation5mRatio : ℚ := 0
  cacheCreation1hRatio : ℚ := 0
  otherRatios : List ℚ := []

/-- The settings both engines share. -/
structure QuotaSettings where
  quotaPerUnit : ℚ := 500000
  defaultModelRatio : String → Option ℚ := fun _ => none
  /-- By the name of a tool, then the model's. -/
  getToolPriceForModel : String → String → ℚ := fun _ _ => 0
  /-- Whether consumption is logged at all. -/
  logConsumeEnabled : Bool := true

/-- The dialect in which the usage counts. -/
def usageSemanticFromUsage (relay : TextRelay) (u : Dto.Usage) : String :=
  if u.usageSemantic ≠ "" then u.usageSemantic
  else if relay.claudeFormat then "anthropic"
  else "openai"

/-- Cached tokens are not among the prompt's. -/
def isClaudeUsageSemantic (relay : TextRelay) (u : Dto.Usage) : Bool :=
  usageSemanticFromUsage relay u = "anthropic"

/-- A Claude usage that was converted without a mark. -/
def isLegacyClaudeDerivedOpenAIUsage (relay : TextRelay) (u : Dto.Usage) : Bool :=
  !relay.claudeFormat && u.usageSource = "" && u.usageSemantic = "" &&
    (0 < u.claudeCacheCreation5mTokens || 0 < u.claudeCacheCreation1hTokens)

/-- `GetGeminiInputAudioPricePerMillionTokens`; zero for every other model. -/
def getGeminiInputAudioPricePerMillionTokens (modelName : String) : ℚ :=
  if Text.startsWith modelName "gemini-2.5-flash-preview-native-audio" then 3
  else if Text.startsWith modelName "gemini-2.5-flash-preview-lite" then 0.5
  else if Text.startsWith modelName "gemini-2.5-flash-preview" then 1
  else if Text.startsWith modelName "gemini-2.5-flash" then 1
  else if Text.startsWith modelName "gemini-2.0-flash" then 0.7
  else if Text.startsWith modelName "gemini-robotics-er-1.5" then 1
  else 0

/-! ## The ratios -/

/-- The ratio is not the one the model comes with. -/
def hasCustomModelRatio (S : QuotaSettings) (modelName : String) (currentRatio : ℚ) : Bool :=
  match S.defaultModelRatio modelName with
  | none => true
  | some defaultRatio => currentRatio ≠ defaultRatio

/-- `CalcOpenRouterCacheCreateTokens`: the cache writes that explain the reported cost, `-1` where
the number leaves the range of a quota. -/
def calcOpenRouterCacheCreateTokens (S : QuotaSettings) (price : PriceData) (upstreamCost : ℚ)
    (u : Dto.Usage) : ℤ :=
  if price.cacheCreationRatio = 1 then 0
  else
    let quotaPrice := price.modelRatio / S.quotaPerUnit
    let value := Wallet.roundAway ((upstreamCost - u.promptTokens * quotaPrice +
      u.promptTokensDetails.cachedTokens * (quotaPrice - quotaPrice * price.cacheRatio) -
      u.completionTokens * (quotaPrice * price.completionRatio)) /
        (quotaPrice * price.cacheCreationRatio - quotaPrice))
    if Pricing.maxQuota < value ∨ value < Pricing.minQuota then -1 else value

/-- The counts a text request is charged by. -/
structure TextQuotaSummary where
  promptTokens : ℤ
  cacheCreationTokens : ℤ

/-- The counts of a Claude usage from OpenRouter, whose prompt includes its cache tokens. -/
def openRouterSummary (S : QuotaSettings) (relay : TextRelay) (price : PriceData) (u : Dto.Usage) :
    TextQuotaSummary :=
  let prompt := wrap (u.promptTokens - u.promptTokensDetails.cachedTokens)
  let reported := u.promptTokensDetails.cacheCreationTokensTotal
  let custom := price.usePrice || hasCustomModelRatio S relay.modelName price.modelRatio
  let derived := calcOpenRouterCacheCreateTokens S price relay.upstreamCost u
  -- `usage.Cost != 0` compares a decoded number with an integer and always holds.
  let writes :=
    if reported = 0 ∧ price.cacheCreationRatio ≠ 1 ∧ !custom ∧ 0 ≤ derived ∧ derived ≤ prompt then
      derived
    else reported
  ⟨wrap (prompt - writes), writes⟩

/-- The prompt and the cache writes, before any category is taken off. -/
def textQuotaSummary (S : QuotaSettings) (relay : TextRelay) (price : PriceData) (u : Dto.Usage) :
    TextQuotaSummary :=
  if relay.openRouter && isClaudeUsageSemantic relay u then openRouterSummary S relay price u
  else ⟨u.promptTokens, u.promptTokensDetails.cacheCreationTokensTotal⟩

/-- The charge for cache writes, in tokens.  A Claude usage splits them by how long they live. -/
def cachedCreationTokensWithRatio (price : PriceData) (separate : Bool) (writes : ℤ)
    (u : Dto.Usage) : ℚ :=
  let write5m := u.claudeCacheCreation5mTokens
  let write1h := u.claudeCacheCreation1hTokens
  if writes = 0 ∧ write5m ≤ 0 ∧ write1h ≤ 0 then 0
  else if separate then
    (max (wrap (wrap (writes - write5m) - write1h)) 0 : ℤ) * price.cacheCreationRatio +
      write5m * price.cacheCreation5mRatio + write1h * price.cacheCreation1hRatio
  else writes * price.cacheCreationRatio

/-- `ApplyOtherRatiosToDecimal`. -/
def applyOtherRatios (ratios : List ℚ) (value : ℚ) : ℚ :=
  ratios.foldl (fun value ratio => if 0 < ratio ∧ ratio ≠ 1 then value * ratio else value) value

/-- The quota `calculateTextQuotaSummary` computes from a model's ratios. -/
def ratioQuota (S : QuotaSettings) (relay : TextRelay) (price : PriceData) (u : Dto.Usage) : ℚ :=
  let details := u.promptTokensDetails
  let summary := textQuotaSummary S relay price u
  -- Claude reports its cache tokens beside the prompt, everyone else inside it.
  let separate := isClaudeUsageSemantic relay u || isLegacyClaudeDerivedOpenAIUsage relay u
  let audioInputPrice := getGeminiInputAudioPricePerMillionTokens relay.modelName
  let audioTokens : ℤ := if 0 < audioInputPrice then details.audioTokens else 0
  let cached : ℤ := if separate then 0 else details.cachedTokens + summary.cacheCreationTokens
  let baseTokens : ℤ :=
    max (summary.promptTokens - cached - details.imageTokens - audioTokens) 0
  let promptQuota : ℚ := baseTokens + details.cachedTokens * price.cacheRatio +
    details.imageTokens * price.imageRatio +
    cachedCreationTokensWithRatio price separate summary.cacheCreationTokens u
  let audioInputQuota := audioInputPrice / 1000000 * audioTokens * S.quotaPerUnit * relay.groupRatio
  applyOtherRatios price.otherRatios
    ((promptQuota + u.completionTokens * price.completionRatio) *
      (price.modelRatio * relay.groupRatio) + audioInputQuota)

/-- `calculateTextQuotaSummary`, before rounding. -/
def textQuota (S : QuotaSettings) (relay : TextRelay) (price : PriceData) (u : Dto.Usage) : ℚ :=
  if price.usePrice then
    applyOtherRatios price.otherRatios (price.modelPrice * S.quotaPerUnit * relay.groupRatio)
  else ratioQuota S relay price u

/-! ## The variables of an expression -/

/-- The cached image tokens, where the breakdown of the cached tokens is consistent. -/
def cachedImageTokens (u : Dto.Usage) : ℤ :=
  let details := u.promptTokensDetails
  match details.cachedTokensDetails with
  | none => 0
  | some breakdown =>
    match breakdown.imageTokens with
    | none => 0
    | some cachedImage =>
      let text := breakdown.textTokens.getD 0
      let audio := breakdown.audioTokens.getD 0
      let remaining := details.cachedTokens - cachedImage
      if 0 ≤ cachedImage ∧ cachedImage ≤ details.cachedTokens ∧ cachedImage ≤ details.imageTokens ∧
          details.cachedTokens ≤ u.promptTokens ∧
          details.imageTokens ≤ u.promptTokens - (details.cachedTokens - cachedImage) ∧
          0 ≤ text ∧ text ≤ remaining ∧ 0 ≤ audio ∧ audio ≤ remaining - text then cachedImage
      else 0

/-- A category that the expression prices by itself. -/
def priced (used : Bool) (tokens : ℤ) : ℤ := if used then tokens else 0

/-- `BuildTieredTokenParams`: `p` and `c` are the tokens that no other variable prices. -/
def buildTieredTokenParams (u : Dto.Usage) (isClaude : Bool) (usedVars : String → Bool) :
    TokenParams ℚ :=
  let details := u.promptTokensDetails
  let labelled := u.usageSemantic = "anthropic"
  let cc := if labelled then u.claudeCacheCreation5mTokens else details.cacheCreationTokensTotal
  let cc1h := if labelled then u.claudeCacheCreation1hTokens else 0
  let imgCR := if usedVars "img_cr" && !isClaude then cachedImageTokens u else 0
  let cr := details.cachedTokens - imgCR
  let img := details.imageTokens - imgCR
  let ai := details.audioTokens
  let imgO := u.completionTokenDetails.imageTokens
  let ao := u.completionTokenDetails.audioTokens
  let p :=
    if isClaude then u.promptTokens + (if usedVars "cr" then 0 else cr)
    else u.promptTokens - priced (usedVars "cr") cr - priced (usedVars "cc") cc -
      priced (usedVars "cc1h") cc1h - priced (usedVars "img") img -
      priced (usedVars "img_cr") imgCR - priced (usedVars "ai") ai
  let c :=
    if isClaude then u.completionTokens
    else u.completionTokens - priced (usedVars "img_o") imgO - priced (usedVars "ao") ao
  { p := (max p 0 : ℤ)
    c := (max c 0 : ℤ)
    len := if isClaude then (u.promptTokens + cr + cc + cc1h : ℤ) else (u.promptTokens : ℤ)
    cr := cr
    cc := cc
    cc1h := cc1h
    img := img
    imgCR := imgCR
    imgO := imgO
    ai := ai
    ao := ao }

end Conversion
