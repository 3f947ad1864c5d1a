import NewApi.Conversion.TextCharge
import NewApi.Machinery.Runs

/-!
# Conversion/TextSettlement — what a text request hands to its books

`PostTextConsumeQuota` (`service/text_quota.go`) prices a request by its ratios or, where it has a
billing snapshot, by the snapshot's expression, and hands the quota to the user's and the channel's
statistics, to the consume log and to `SettleBilling`.

* `books_agree_iff` — the statistics miss a quota that an expression settles for a request without
  billable usage; the log misses one only where consumption is not logged.
-/

namespace Conversion

open Runs

open Billingexpr (TokenParams)

/-! ## Tiered billing -/

/-- `TieredResult`, as far as the settlement reads it. -/
structure TieredResult where
  actualQuotaBeforeGroup : ℚ
  actualQuotaAfterGroup : ℤ
  /-- Whether the branch that was taken has a price per request. -/
  perRequest : Bool := false

/-- `BillingSnapshot`, with what its frozen expression makes of tokens: nothing where the evaluation
fails. -/
structure BillingSnapshot where
  tieredExpr : Bool := true
  groupRatio : ℚ := 1
  estimatedQuotaAfterGroup : ℤ := 0
  estimatedPerRequest : Bool := false
  usesFixedPricing : Bool := false
  usedVars : String → Bool := fun _ => false
  computeTieredQuota : TokenParams ℚ → Option TieredResult

/-- The price of the expression that the request was quoted by. -/
def tryTieredSettle (snap : BillingSnapshot) (finalPreConsumedQuota : ℤ)
    (params : TokenParams ℚ) :
    Option (ℤ × Option TieredResult) :=
  if snap.tieredExpr = false then none
  else
    match snap.computeTieredQuota params with
    | none =>
      if finalPreConsumedQuota ≤ 0 then some (snap.estimatedQuotaAfterGroup, none)
      else some (finalPreConsumedQuota, none)
    | some result => some (result.actualQuotaAfterGroup, some result)

/-- The expression priced the request, not its tokens. -/
def isFixedPriceSettlement (snap : BillingSnapshot) : Option TieredResult → Bool
  | some result => result.perRequest
  | none => snap.tieredExpr && snap.estimatedPerRequest

/-- The price of the expression, with the surcharge of tools. -/
def composeTieredTextQuota (snap : BillingSnapshot) (surcharge : ℚ) (tieredQuota : ℤ)
    (result : Option TieredResult) : ℤ :=
  if surcharge = 0 then tieredQuota
  else
    match result with
    | some result => quotaFromDecimal (result.actualQuotaBeforeGroup * snap.groupRatio + surcharge)
    | none => quotaFromDecimal (tieredQuota + surcharge)

/-! ## The settlement -/

/-- A reply to be settled, with its request. -/
structure TextRequest where
  userId : ℕ := 0
  channelId : ℕ := 0
  relay : TextRelay
  price : PriceData := {}
  tools : ToolCalls := {}
  estimatePromptTokens : ℤ := 0
  /-- The usage that is billed, if any came. -/
  usage : Option Dto.Usage
  snapshot : Option BillingSnapshot := none
  finalPreConsumedQuota : ℤ := 0
  /-- The client left before any response, and the usage is an estimate. -/
  suppressed : Bool := false

section Post

variable (S : QuotaSettings) (r : TextRequest)

/-- The summary that its usage gives. -/
def TextRequest.summary : TextSummary :=
  calculateTextQuotaSummary S r.relay r.price (textUsage r.estimatePromptTokens r.usage) r.tools

/-- The usage an expression is run on: the estimate where a fixed price may apply without one. -/
def TextRequest.tieredUsage (snap : BillingSnapshot) : Option Dto.Usage :=
  let u := textUsage r.estimatePromptTokens none
  match r.usage with
  | some usage => some usage
  | none =>
    if snap.usesFixedPricing then
      some { promptTokens := (textQuotaSummary S r.relay r.price u).promptTokens
             totalTokens := r.estimatePromptTokens }
    else none

/-- What tiered billing settles, where it applies: the quota, and whether the price was fixed. -/
def TextRequest.tiered : Option (ℤ × Bool) := do
  let snap ← r.snapshot
  let usage ← r.tieredUsage S snap
  let isClaude := isClaudeUsageSemantic r.relay (textUsage r.estimatePromptTokens r.usage)
  let (tieredQuota, result) ← tryTieredSettle snap r.finalPreConsumedQuota
    (buildTieredTokenParams usage isClaude snap.usedVars)
  return (composeTieredTextQuota snap (r.summary S).toolCallSurchargeQuota tieredQuota result,
    isFixedPriceSettlement snap result)

/-- The summary that is settled. -/
def TextRequest.settledSummary : TextSummary :=
  let priced :=
    match r.tiered S with
    | none => r.summary S
    | some (quota, fixedPriceBilling) => { r.summary S with quota, fixedPriceBilling }
  if r.suppressed then { priced with quota := 0 } else priced

end Post

/-- The books of the deployment: the statistics of users and channels, and what was logged and
settled for whom. -/
structure Books where
  userUsedQuota : ℕ → ℤ := fun _ => 0
  channelUsedQuota : ℕ → ℤ := fun _ => 0
  logged : ℕ → ℤ := fun _ => 0
  settled : ℕ → ℤ := fun _ => 0
  channelSettled : ℕ → ℤ := fun _ => 0

/-- An amount that is added to one account. -/
def credit (accounts : ℕ → ℤ) (id : ℕ) (quota : ℤ) : ℕ → ℤ :=
  fun i => if i = id then accounts i + quota else accounts i

/-- `RecordConsumeLog`, which a deployment can switch off. -/
def recordConsumeLog (S : QuotaSettings) (logged : ℕ → ℤ) (userId : ℕ) (quota : ℤ) : ℕ → ℤ :=
  if S.logConsumeEnabled then credit logged userId quota else logged

/-- The reply is settled, counted and logged. -/
def postTextConsumeQuota (S : QuotaSettings) (b : Books) (r : TextRequest) : Books :=
  let summary := r.settledSummary S
  let b :=
    if summary.hasBillableUsage then
      { b with
        userUsedQuota := credit b.userUsedQuota r.userId summary.quota
        channelUsedQuota := credit b.channelUsedQuota r.channelId summary.quota }
    else b
  { b with
    logged := recordConsumeLog S b.logged r.userId summary.quota
    settled := credit b.settled r.userId summary.quota
    channelSettled := credit b.channelSettled r.channelId summary.quota }

/-! ## The books agree -/

/-- There is billable usage, or no quota without it.  Where the total overflows, there is none. -/
def Mirrored (S : QuotaSettings) (r : TextRequest) : Prop :=
  r.suppressed = true ∨
    Billable S r.relay (textUsage r.estimatePromptTokens r.usage) r.tools ∨
    ∀ quota fixedPriceBilling, r.tiered S = some (quota, fixedPriceBilling) →
      fixedPriceBilling = true ∨ quota = 0

variable {S : QuotaSettings} {r : TextRequest} {b : Books}

theorem summary_fields {relay : TextRelay} {price : PriceData} {u : Dto.Usage} {tools : ToolCalls} :
    (calculateTextQuotaSummary S relay price u tools).totalTokens =
        GoInt.wrap (u.promptTokens + u.completionTokens) ∧
      (calculateTextQuotaSummary S relay price u tools).toolCallSurchargeQuota =
        calculateTextToolCallSurcharge S relay tools ∧
      (calculateTextQuotaSummary S relay price u tools).fixedPriceBilling = false := by
  unfold calculateTextQuotaSummary
  dsimp only
  split_ifs <;> exact ⟨rfl, rfl, rfl⟩

theorem TextSummary.hasBillableUsage_iff (s : TextSummary) : s.hasBillableUsage = true ↔
    s.fixedPriceBilling = true ∨ 0 < s.totalTokens ∨ s.toolCallSurchargeQuota ≠ 0 := by
  rw [TextSummary.hasBillableUsage, Bool.or_eq_true, Bool.or_eq_true, decide_eq_true_iff,
    decide_eq_true_iff, or_assoc]

/-- Whether a usage is billable does not depend on its quota. -/
theorem hasBillableUsage_iff {quota : ℤ} {fixedPriceBilling : Bool} :
    ({ r.summary S with quota, fixedPriceBilling } : TextSummary).hasBillableUsage = true ↔
      fixedPriceBilling = true ∨
        Billable S r.relay (textUsage r.estimatePromptTokens r.usage) r.tools := by
  obtain ⟨htotal, hsurcharge, -⟩ := @summary_fields S r.relay r.price
    (textUsage r.estimatePromptTokens r.usage) r.tools
  rw [TextSummary.hasBillableUsage_iff]
  dsimp only [TextRequest.summary]
  rw [htotal, hsurcharge]
  rfl

/-- **Statistics are kept, or nothing is settled.** -/
theorem mirrored_iff : Mirrored S r ↔
    (r.settledSummary S).hasBillableUsage = true ∨ (r.settledSummary S).quota = 0 := by
  have hplain : r.summary S = { r.summary S with fixedPriceBilling := false } := by
    obtain ⟨-, -, hfixed⟩ := @summary_fields S r.relay r.price
      (textUsage r.estimatePromptTokens r.usage) r.tools
    rw [← hfixed]
    rfl
  unfold Mirrored TextRequest.settledSummary
  cases hsuppressed : r.suppressed with
  | true => exact iff_of_true (.inl rfl) (.inr rfl)
  | false =>
    rw [if_neg Bool.false_ne_true]
    cases htiered : r.tiered S with
    | none =>
      rw [hplain, hasBillableUsage_iff]
      refine iff_of_true (.inr (.inr nofun)) ?_
      by_cases h : Billable S r.relay (textUsage r.estimatePromptTokens r.usage) r.tools
      · exact .inl (.inr h)
      · exact .inr (quota_of_not_billable h)
    | some tiered =>
      obtain ⟨quota, fixedPriceBilling⟩ := tiered
      rw [hasBillableUsage_iff]
      constructor
      · rintro (h | h | h)
        · exact absurd h Bool.false_ne_true
        · exact .inl (.inr h)
        · exact (h _ _ rfl).imp_left .inl
      · rintro ((h | h) | h)
        · refine .inr (.inr ?_)
          rintro _ _ ⟨⟩
          exact .inl h
        · exact .inr (.inl h)
        · refine .inr (.inr ?_)
          rintro _ _ ⟨⟩
          exact .inr h

/-- One settlement adds what it settles to every book. -/
structure AddsAlike (S : QuotaSettings) (b : Books) (r : TextRequest) : Prop where
  user : (postTextConsumeQuota S b r).userUsedQuota =
    credit b.userUsedQuota r.userId (r.settledSummary S).quota
  channel : (postTextConsumeQuota S b r).channelUsedQuota =
    credit b.channelUsedQuota r.channelId (r.settledSummary S).quota
  log : (postTextConsumeQuota S b r).logged =
    credit b.logged r.userId (r.settledSummary S).quota
  settle : (postTextConsumeQuota S b r).settled =
    credit b.settled r.userId (r.settledSummary S).quota

theorem credit_zero (accounts : ℕ → ℤ) (id : ℕ) : credit accounts id 0 = accounts := by
  funext i
  rw [credit, add_zero, ite_self]

/-- Consumption is logged, or there is none. -/
def Logged (S : QuotaSettings) (r : TextRequest) : Prop :=
  S.logConsumeEnabled = true ∨ (r.settledSummary S).quota = 0

theorem logged_post : (postTextConsumeQuota S b r).logged =
    recordConsumeLog S b.logged r.userId (r.settledSummary S).quota := by
  rw [postTextConsumeQuota]
  split_ifs <;> rfl

theorem settled_post : (postTextConsumeQuota S b r).settled =
    credit b.settled r.userId (r.settledSummary S).quota := by
  rw [postTextConsumeQuota]
  split_ifs <;> rfl

theorem channelSettled_post : (postTextConsumeQuota S b r).channelSettled =
    credit b.channelSettled r.channelId (r.settledSummary S).quota := by
  rw [postTextConsumeQuota]
  split_ifs <;> rfl

/-- An amount that an account does not show is zero. -/
theorem credit_eq_self_iff {accounts : ℕ → ℤ} {id : ℕ} {quota : ℤ} :
    accounts = credit accounts id quota ↔ quota = 0 := by
  constructor
  · intro h
    have hid := congrFun h id
    rw [credit, if_pos rfl] at hid
    omega
  · rintro rfl
    exact (credit_zero accounts id).symm

theorem logged_iff : (postTextConsumeQuota S b r).logged =
    credit b.logged r.userId (r.settledSummary S).quota ↔ Logged S r := by
  rw [logged_post, recordConsumeLog, Logged]
  split_ifs with h
  · exact iff_of_true rfl (.inl h)
  · rw [credit_eq_self_iff, or_iff_right h]

theorem used_iff : ((postTextConsumeQuota S b r).userUsedQuota =
      credit b.userUsedQuota r.userId (r.settledSummary S).quota ∧
    (postTextConsumeQuota S b r).channelUsedQuota =
      credit b.channelUsedQuota r.channelId (r.settledSummary S).quota) ↔ Mirrored S r := by
  rw [mirrored_iff]
  by_cases h : (r.settledSummary S).hasBillableUsage = true
  · refine iff_of_true ⟨?_, ?_⟩ (.inl h) <;>
    · rw [postTextConsumeQuota]
      rw [if_pos h]
  · have hkept : (postTextConsumeQuota S b r).userUsedQuota = b.userUsedQuota ∧
        (postTextConsumeQuota S b r).channelUsedQuota = b.channelUsedQuota := by
      rw [postTextConsumeQuota]
      rw [if_neg h]
      exact ⟨rfl, rfl⟩
    rw [hkept.1, hkept.2, credit_eq_self_iff, credit_eq_self_iff, and_self, or_iff_right h]

theorem addsAlike_iff : AddsAlike S b r ↔ Mirrored S r ∧ Logged S r := by
  rw [← used_iff (b := b), ← logged_iff (b := b)]
  constructor
  · intro h
    exact ⟨⟨h.user, h.channel⟩, h.log⟩
  · rintro ⟨⟨huser, hchannel⟩, hlog⟩
    exact ⟨huser, hchannel, hlog, settled_post⟩

theorem credit_diff (accounts accounts' : ℕ → ℤ) (i id : ℕ) (quota : ℤ) :
    credit accounts id quota i - credit accounts' id quota i = accounts i - accounts' i := by
  unfold credit
  split_ifs <;> omega

/-- **The log and what was settled differ by a constant**, while all that is consumed is logged. -/
theorem logged_run {rs : List TextRequest} (h : ∀ r ∈ rs, Logged S r) (id : ℕ) :
    (run (postTextConsumeQuota S) b rs).logged id -
      (run (postTextConsumeQuota S) b rs).settled id = b.logged id - b.settled id := by
  induction rs generalizing b with
  | nil => rfl
  | cons r rs ih =>
    obtain ⟨hr, hrs⟩ := List.forall_mem_cons.1 h
    rw [run_cons, ih hrs, logged_iff.2 hr, settled_post, credit_diff]

/-- …and so do the statistics, for requests with billable usage or no quota. -/
theorem used_run {rs : List TextRequest} (h : ∀ r ∈ rs, Mirrored S r) (id : ℕ) :
    (run (postTextConsumeQuota S) b rs).userUsedQuota id -
        (run (postTextConsumeQuota S) b rs).settled id =
      b.userUsedQuota id - b.settled id ∧
    (run (postTextConsumeQuota S) b rs).channelUsedQuota id -
        (run (postTextConsumeQuota S) b rs).channelSettled id =
      b.channelUsedQuota id - b.channelSettled id := by
  induction rs generalizing b with
  | nil => exact ⟨rfl, rfl⟩
  | cons r rs ih =>
    obtain ⟨hr, hrs⟩ := List.forall_mem_cons.1 h
    obtain ⟨hone, hone'⟩ := used_iff (b := b).2 hr
    obtain ⟨huser, hchannel⟩ := ih (b := postTextConsumeQuota S b r) hrs
    rw [run_cons, huser, hchannel, hone, hone', settled_post, channelSettled_post, credit_diff,
      credit_diff]
    exact ⟨rfl, rfl⟩

/-- **The statistics mirror what is settled** exactly where no quota is settled without billable
usage, the log exactly where none is settled that is not logged. -/
theorem books_agree_iff (S : QuotaSettings) (b : Books) :
    (∀ r, AddsAlike S b r ↔ Mirrored S r ∧ Logged S r) ∧
    (∀ rs, (∀ r ∈ rs, Logged S r) → ∀ id, (Runs.run (postTextConsumeQuota S) b rs).logged id - b.logged id =
      (Runs.run (postTextConsumeQuota S) b rs).settled id - b.settled id) ∧
    ∀ rs, (∀ r ∈ rs, Mirrored S r) → ∀ id,
      (Runs.run (postTextConsumeQuota S) b rs).userUsedQuota id - b.userUsedQuota id =
        (Runs.run (postTextConsumeQuota S) b rs).settled id - b.settled id ∧
      (Runs.run (postTextConsumeQuota S) b rs).channelUsedQuota id - b.channelUsedQuota id =
        (Runs.run (postTextConsumeQuota S) b rs).channelSettled id - b.channelSettled id := by
  refine ⟨fun r => addsAlike_iff, fun rs h id => ?_, fun rs h id => ?_⟩
  · have hlog := logged_run (b := b) h id
    omega
  · obtain ⟨huser, hchannel⟩ := used_run (b := b) h id
    omega

/-- A request whose usage is empty, with an expression that costs the same whatever is used. -/
def emptyReply : TextRequest where
  userId := 1
  relay := { modelName := "model" }
  usage := some {}
  snapshot := some { computeTieredQuota := fun _ => some ⟨5, 5, false⟩ }

/-- **A settled quota that no statistics show.** -/
theorem constant_price_not_counted :
    (postTextConsumeQuota {} {} emptyReply).settled 1 = 5 ∧
      (postTextConsumeQuota {} {} emptyReply).logged 1 = 5 ∧
      (postTextConsumeQuota {} {} emptyReply).userUsedQuota 1 = 0 ∧
      (postTextConsumeQuota {} {} emptyReply).channelUsedQuota 0 = 0 := by
  decide +kernel

/-- A reply that costs its tokens. -/
def plainReply : TextRequest where
  userId := 1
  relay := { modelName := "model" }
  usage := some { promptTokens := 1 }

theorem books_agree_plain :
    (Mirrored {} plainReply ∧ Logged {} plainReply) ∧ AddsAlike {} {} plainReply ∧
      (Runs.run (postTextConsumeQuota {}) {} [plainReply]).userUsedQuota 1 - 0 =
        (Runs.run (postTextConsumeQuota {}) {} [plainReply]).settled 1 - 0 := by
  have h : Mirrored {} plainReply := .inr (.inl (.inl (by decide)))
  have hlogged : Logged {} plainReply := .inl rfl
  obtain ⟨hone, -, hrun⟩ := books_agree_iff {} {}
  exact ⟨⟨h, hlogged⟩, (hone plainReply).2 ⟨h, hlogged⟩,
    (hrun [plainReply] (List.forall_mem_singleton.2 h) 1).1⟩

end Conversion
