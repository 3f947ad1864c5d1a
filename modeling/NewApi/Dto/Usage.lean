import Mathlib.Algebra.Ring.Int.Defs
import Mathlib.Algebra.BigOperators.Group.List.Basic
import NewApi.Machinery.Text

/-!
# Dto/Usage — provider usages

The usage payloads of the three dialects (`relaykit/dto`), when they have tokens, and how later
details are laid over earlier ones.
-/

namespace Dto

/-- `strings.ToUpper`, of which the modality names are fixed points. -/
structure Folding where
  toUpper : String → String
  toUpper_text : toUpper "TEXT" = "TEXT"
  toUpper_image : toUpper "IMAGE" = "IMAGE"
  toUpper_audio : toUpper "AUDIO" = "AUDIO"

/-! ## Payloads -/

/-- The modalities of cached tokens. -/
structure CachedTokenDetails where
  textTokens : Option ℤ := none
  imageTokens : Option ℤ := none
  audioTokens : Option ℤ := none
  deriving DecidableEq

/-- The kinds of input tokens. -/
structure InputTokenDetails where
  cachedTokens : ℤ := 0
  cachedTokensDetails : Option CachedTokenDetails := none
  cachedCreationTokens : ℤ := 0
  cacheWriteTokens : ℤ := 0
  textTokens : ℤ := 0
  audioTokens : ℤ := 0
  imageTokens : ℤ := 0
  deriving DecidableEq

/-- The kinds of output tokens. -/
structure OutputTokenDetails where
  textTokens : ℤ := 0
  audioTokens : ℤ := 0
  imageTokens : ℤ := 0
  reasoningTokens : ℤ := 0
  deriving DecidableEq

/-- `dto.Usage`, as far as decoding reads or writes it. -/
structure Usage where
  promptTokens : ℤ := 0
  completionTokens : ℤ := 0
  totalTokens : ℤ := 0
  promptCacheHitTokens : ℤ := 0
  usageSemantic : String := ""
  usageSource : String := ""
  promptTokensDetails : InputTokenDetails := {}
  completionTokenDetails : OutputTokenDetails := {}
  inputTokens : ℤ := 0
  outputTokens : ℤ := 0
  inputTokensDetails : Option InputTokenDetails := none
  claudeCacheCreation5mTokens : ℤ := 0
  claudeCacheCreation1hTokens : ℤ := 0
  deriving DecidableEq

/-- Cache writes by lifetime. -/
structure ClaudeCacheCreationUsage where
  ephemeral5mInputTokens : ℤ := 0
  ephemeral1hInputTokens : ℤ := 0
  deriving DecidableEq

/-- The usage of Claude. -/
structure ClaudeUsage where
  inputTokens : ℤ := 0
  cacheCreationInputTokens : ℤ := 0
  cacheReadInputTokens : ℤ := 0
  outputTokens : ℤ := 0
  cacheCreation : Option ClaudeCacheCreationUsage := none
  claudeCacheCreation5mTokens : ℤ := 0
  claudeCacheCreation1hTokens : ℤ := 0
  deriving DecidableEq

/-- `GeminiPromptTokensDetails`. -/
structure ModalityCount where
  modality : String
  tokenCount : ℤ
  deriving DecidableEq

/-- The usage of Gemini. -/
structure GeminiUsageMetadata where
  promptTokenCount : ℤ := 0
  toolUsePromptTokenCount : ℤ := 0
  candidatesTokenCount : ℤ := 0
  totalTokenCount : ℤ := 0
  thoughtsTokenCount : ℤ := 0
  cachedContentTokenCount : ℤ := 0
  promptTokensDetails : List ModalityCount := []
  toolUsePromptTokensDetails : List ModalityCount := []
  candidatesTokensDetails : List ModalityCount := []
  deriving DecidableEq

/-- `CacheCreationTokensTotal`: the larger of the two counters of cache writes, never negative. -/
def InputTokenDetails.cacheCreationTokensTotal (d : InputTokenDetails) : ℤ :=
  let total := max d.cacheWriteTokens d.cachedCreationTokens
  if total < 0 then 0 else total

/-! ## Payloads with tokens -/

/-- A modality has tokens. -/
def CachedTokenDetails.hasTokens (d : CachedTokenDetails) : Prop :=
  (∃ n ∈ d.textTokens, n ≠ 0) ∨ (∃ n ∈ d.imageTokens, n ≠ 0) ∨ ∃ n ∈ d.audioTokens, n ≠ 0

instance (d : CachedTokenDetails) : Decidable d.hasTokens :=
  inferInstanceAs (Decidable ((∃ n ∈ d.textTokens, n ≠ 0) ∨ (∃ n ∈ d.imageTokens, n ≠ 0) ∨
    ∃ n ∈ d.audioTokens, n ≠ 0))

/-- The conditions of `HasOpenAIUsageTokens` on input details. -/
def InputTokenDetails.hasTokens (d : InputTokenDetails) : Prop :=
  (∃ cached ∈ d.cachedTokensDetails, cached.hasTokens) ∨ d.cachedTokens ≠ 0 ∨
    d.cachedCreationTokens ≠ 0 ∨ d.cacheWriteTokens ≠ 0 ∨ d.textTokens ≠ 0 ∨ d.imageTokens ≠ 0 ∨
    d.audioTokens ≠ 0

instance (d : InputTokenDetails) : Decidable d.hasTokens :=
  inferInstanceAs (Decidable ((∃ cached ∈ d.cachedTokensDetails, cached.hasTokens) ∨ _))

/-- `HasOpenAIUsageTokens`. -/
def Usage.hasTokens (u : Usage) : Prop :=
  (u.promptTokens ≠ 0 ∨ u.completionTokens ≠ 0 ∨ u.totalTokens ≠ 0 ∨ u.inputTokens ≠ 0 ∨
    u.outputTokens ≠ 0 ∨ u.promptCacheHitTokens ≠ 0 ∨ u.claudeCacheCreation5mTokens ≠ 0 ∨
    u.claudeCacheCreation1hTokens ≠ 0) ∨
    u.promptTokensDetails.hasTokens ∨
    (u.completionTokenDetails.reasoningTokens ≠ 0 ∨ u.completionTokenDetails.textTokens ≠ 0 ∨
      u.completionTokenDetails.imageTokens ≠ 0 ∨ u.completionTokenDetails.audioTokens ≠ 0) ∨
    ∃ d ∈ u.inputTokensDetails, d.hasTokens

instance (u : Usage) : Decidable u.hasTokens :=
  inferInstanceAs (Decidable (_ ∨ _ ∨ _ ∨ ∃ d ∈ u.inputTokensDetails, d.hasTokens))

/-! ## Details laid over each other -/

/-- A later count replaces an earlier one if it is positive. -/
def overlay (current incoming : ℤ) : ℤ := if 0 < incoming then incoming else current

/-- The merge of `CachedTokensDetails` in `mergeInputTokenDetails`: what is reported counts. -/
def mergeCachedTokenDetails (current incoming : Option CachedTokenDetails) :
    Option CachedTokenDetails :=
  match incoming with
  | none => current
  | some details =>
    let merged := current.getD {}
    some
      { textTokens := details.textTokens.or merged.textTokens
        imageTokens := details.imageTokens.or merged.imageTokens
        audioTokens := details.audioTokens.or merged.audioTokens }

/-- Later details over earlier ones. -/
def mergeInputTokenDetails (current incoming : InputTokenDetails) : InputTokenDetails where
  cachedTokensDetails :=
    mergeCachedTokenDetails current.cachedTokensDetails incoming.cachedTokensDetails
  cachedTokens := overlay current.cachedTokens incoming.cachedTokens
  cachedCreationTokens := overlay current.cachedCreationTokens incoming.cachedCreationTokens
  cacheWriteTokens := overlay current.cacheWriteTokens incoming.cacheWriteTokens
  textTokens := overlay current.textTokens incoming.textTokens
  audioTokens := overlay current.audioTokens incoming.audioTokens
  imageTokens := overlay current.imageTokens incoming.imageTokens

/-! ## Modalities -/

/-- A modality without case and spaces. -/
def normalizeGeminiModality (fold : Folding) (modality : String) : String :=
  fold.toUpper (Text.trimmed modality)

/-- The tokens that `label` reads as of modality `name`. -/
def modalityTotal (label : String → String) (name : String) (l : List ModalityCount) : ℤ :=
  (l.map fun d => if label d.modality = name then d.tokenCount else 0).sum

theorem modalityTotal_append (label : String → String) (name : String) (l l' : List ModalityCount) :
    modalityTotal label name (l ++ l') = modalityTotal label name l + modalityTotal label name l' := by
  rw [modalityTotal, List.map_append, List.sum_append]
  rfl

/-- Upper case of ASCII letters. -/
def asciiFolding : Folding where
  toUpper := String.toUpper
  toUpper_text := by decide +kernel
  toUpper_image := by decide +kernel
  toUpper_audio := by decide +kernel

end Dto
