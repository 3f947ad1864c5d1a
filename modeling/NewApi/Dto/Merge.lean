import NewApi.Dto.Usage

/-!
# Dto/Merge — usages of a stream

Snapshots of a usage are laid over each other (`relaykit/dto/usage_merge.go`), and read as Claude
reports them (`relaykit/relayconvert/internal/shared/claude`).  The sidecar that a relay hop may add
is left out: chat frames come without it.
-/

namespace Dto

/-- The condition for merging `InputTokensDetails`. -/
def InputTokenDetails.reports (d : InputTokenDetails) : Prop :=
  0 < d.cachedTokens ∨ 0 < d.cachedCreationTokens ∨ 0 < d.cacheWriteTokens ∨ 0 < d.textTokens ∨
    0 < d.audioTokens ∨ 0 < d.imageTokens ∨ d.cachedTokensDetails ≠ none

instance (d : InputTokenDetails) : Decidable d.reports :=
  inferInstanceAs (Decidable (_ ∨ _ ∨ _ ∨ _ ∨ _ ∨ _ ∨ _))

/-- Later details over earlier ones. -/
def mergeOutputTokenDetails (current incoming : OutputTokenDetails) : OutputTokenDetails where
  textTokens := overlay current.textTokens incoming.textTokens
  audioTokens := overlay current.audioTokens incoming.audioTokens
  imageTokens := overlay current.imageTokens incoming.imageTokens
  reasoningTokens := overlay current.reasoningTokens incoming.reasoningTokens

/-- The sums a total is at least. -/
def Usage.fillTotal (u : Usage) : Usage :=
  { u with
    totalTokens :=
      max (max u.totalTokens (u.promptTokens + u.completionTokens)) (u.inputTokens + u.outputTokens) }

/-- A later usage over an earlier one. -/
def mergeUsageNonZero (current incoming : Usage) : Usage :=
  Usage.fillTotal
    { promptTokens := overlay current.promptTokens incoming.promptTokens
      completionTokens := overlay current.completionTokens incoming.completionTokens
      totalTokens := overlay current.totalTokens incoming.totalTokens
      promptCacheHitTokens := overlay current.promptCacheHitTokens incoming.promptCacheHitTokens
      inputTokens := overlay current.inputTokens incoming.inputTokens
      outputTokens := overlay current.outputTokens incoming.outputTokens
      claudeCacheCreation5mTokens :=
        overlay current.claudeCacheCreation5mTokens incoming.claudeCacheCreation5mTokens
      claudeCacheCreation1hTokens :=
        overlay current.claudeCacheCreation1hTokens incoming.claudeCacheCreation1hTokens
      promptTokensDetails :=
        mergeInputTokenDetails current.promptTokensDetails incoming.promptTokensDetails
      inputTokensDetails :=
        match incoming.inputTokensDetails with
        | none => current.inputTokensDetails
        | some details =>
          if details.reports then
            some (mergeInputTokenDetails (current.inputTokensDetails.getD {}) details)
          else current.inputTokensDetails
      completionTokenDetails :=
        mergeOutputTokenDetails current.completionTokenDetails incoming.completionTokenDetails
      usageSemantic :=
        if incoming.usageSemantic = "" then current.usageSemantic else incoming.usageSemantic
      usageSource := if incoming.usageSource = "" then current.usageSource else incoming.usageSource }

/-- `MergeClaudeUsageNonZero`: the flat fields follow the sub-object. -/
def mergeClaudeUsageNonZero (current incoming : ClaudeUsage) : ClaudeUsage where
  inputTokens := overlay current.inputTokens incoming.inputTokens
  cacheCreationInputTokens :=
    overlay current.cacheCreationInputTokens incoming.cacheCreationInputTokens
  cacheReadInputTokens := overlay current.cacheReadInputTokens incoming.cacheReadInputTokens
  outputTokens := overlay current.outputTokens incoming.outputTokens
  cacheCreation := incoming.cacheCreation.or current.cacheCreation
  claudeCacheCreation5mTokens :=
    match incoming.cacheCreation with
    | some c => c.ephemeral5mInputTokens
    | none => overlay current.claudeCacheCreation5mTokens incoming.claudeCacheCreation5mTokens
  claudeCacheCreation1hTokens :=
    match incoming.cacheCreation with
    | some c => c.ephemeral1hInputTokens
    | none => overlay current.claudeCacheCreation1hTokens incoming.claudeCacheCreation1hTokens

/-- What neither lifetime claims counts as written for five minutes. -/
def normalizeCacheCreationSplit (totalTokens tokens5m tokens1h : ℤ) : ℤ × ℤ :=
  (tokens5m + max (totalTokens - tokens5m - tokens1h) 0, tokens1h)

/-- An OpenAI usage as Claude reports it. -/
def usageFromOpenAI (u : Usage) : ClaudeUsage :=
  let split := normalizeCacheCreationSplit u.promptTokensDetails.cachedCreationTokens
    u.claudeCacheCreation5mTokens u.claudeCacheCreation1hTokens
  let cacheCreationTokens := u.promptTokensDetails.cacheCreationTokensTotal
  { inputTokens :=
      if u.usageSemantic = "anthropic" then u.promptTokens
      else max (u.promptTokens - u.promptTokensDetails.cachedTokens - cacheCreationTokens) 0
    outputTokens := u.completionTokens
    cacheCreationInputTokens := cacheCreationTokens
    cacheReadInputTokens := u.promptTokensDetails.cachedTokens
    cacheCreation :=
      if 0 < split.1 ∨ 0 < split.2 then
        some { ephemeral5mInputTokens := split.1, ephemeral1hInputTokens := split.2 }
      else none }

end Dto
