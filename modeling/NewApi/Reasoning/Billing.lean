import NewApi.Reasoning.Modifiers

/-!
# Reasoning/Billing — the reasoning tier in the billing name of a model

`CanonicalBillingModelNames` (`setting/reasoning/suffix.go`) reads the modifiers and aliases of a
model name once more, to look up a price.  It folds them as the request does, but settles a
contradiction between mode, effort and budget by a rule of its own.

* `billingIntent_eq` — both folds end in the same intent.
* `sameTier_intent` — the two rules agree on an intent unless it has a budget beside effort none.
* `tier_sent_iff` — the billed tier is the one sent upstream, unless a budget comes after
  `@effort:none`.
-/

namespace Reasoning

open List Option Or String Intent Except

/-! ## Billing names -/

/-- Whether a model thinks. -/
inductive ThinkingState where
  | on | off
  deriving DecidableEq

/-- Its name. -/
def ThinkingState.text : ThinkingState → String
  | .on => "on"
  | .off => "off"

/-- `billingIntentFromModifiers`, one modifier; what does not parse is passed over. -/
def billingModifier (state : Intent × Bool) (m : ModelModifier) : Intent × Bool :=
  if m.key = "thinking" then
    match parseThinkingModifier m.value with
    | none => state
    | some parsed => (foldThinking state.2 state.1 parsed, true)
  else if m.key = "effort" then
    match parseEffort m.value with
    | none => state
    | some effort => (foldEffort state.1 effort, true)
  else state

/-- The last modifier of each kind counts. -/
def billingIntentFromModifiers (spec : ModelModifierSpec) : Intent × Bool :=
  (lastOfEach spec.modifiers).foldl billingModifier ({}, false)

/-- The state and effort that are billed. -/
def normalizeBillingThinking (intent : Intent) : Option (ThinkingState × Option Effort) :=
  if intent.effort = some .none ∨ intent.mode = .disabled then some (.off, none)
  else if intent.budgetTokens = some 0 then some (.off, none)
  else if intent.effort.isSome then some (.on, intent.effort)
  else if intent.mode = .enabled ∨ intent.mode = .adaptive ∨ intent.budgetTokens.isSome then
    some (.on, none)
  else none

/-- The names, from the most to the least special. -/
def canonicalNamesFromIntent (base : String) (intent : Intent) : List String :=
  match normalizeBillingThinking intent with
  | none => []
  | some (thinking, effort) =>
    if base = "" then []
    else
      let names := (effort.map fun e => base ++ ("@effort:" ++ e.text ++ "@thinking:" ++
        thinking.text)).toList ++ [base ++ ("@thinking:" ++ thinking.text)]
      (names.filter fun name => name ≠ "" ∧ name ≠ base).eraseDups

/-- The alias a base may be; one that cannot be read is none for the bill. -/
def legacyAlias (S : NameSettings) (base : String) : Option (String × Intent) :=
  if S.shouldPreserveThinkingSuffix base then none
  else
    match parseLegacyModelSuffix S base with
    | .ok known => known
    | .error _ => none

/-- The names under which a request may have its price. -/
def canonicalBillingModelNames (S : NameSettings) (modelName : String) : List String :=
  if S.shouldPreserveThinkingSuffix modelName then []
  else
    let spec := parseModelModifiers modelName
    let (intent, hasThinking) := billingIntentFromModifiers spec
    match legacyAlias S spec.base with
    | some (base, legacy) =>
      canonicalNamesFromIntent base (if hasThinking then intent else legacy)
    | none => if hasThinking then canonicalNamesFromIntent spec.base intent else []

/-! ## Two rules for one intent -/

/-- The rule of the bill and the rule of the request agree on an intent. -/
structure SameRule (intent : Intent) : Prop where
  off : normalizeBillingThinking intent = some (.off, none) ↔
    effectiveEffort intent = some .none
  effort : ∀ e, e ≠ .none → (normalizeBillingThinking intent = some (.on, some e) ↔
    (normalizeIntent intent).effort = some e)

/-- An intent that is off says so by its effort. -/
def Coherent (intent : Intent) : Prop := intent.mode = .disabled → intent.effort = some .none

/-- A budget beside effort none. -/
def Contradicts (intent : Intent) : Prop :=
  intent.effort = some .none ∧ ∃ budget, budget ≠ 0 ∧ intent.budgetTokens = some budget

variable {budget : ℤ}

theorem effortFromBudget_ne_none (h : budget ≠ 0) : effortFromBudget budget ≠ .none := by
  unfold effortFromBudget
  split_ifs <;> simp_all

variable {mode : Mode} {effort : Option Effort}

/-- Without a budget only the effort and the mode count. -/
theorem sameRule_unbudgeted (h : Coherent { mode, effort }) : SameRule { mode, effort } := by
  cases effort with
  | none =>
    have hmode : mode ≠ .disabled := fun hoff => by cases h hoff
    constructor <;> cases mode <;> simp_all [normalizeBillingThinking, normalizeIntent,
      effectiveEffort]
  | some e =>
    by_cases he : e = .none
    · subst he
      constructor
      · simp [normalizeBillingThinking, normalizeIntent, effectiveEffort]
      · intro e he
        simp [normalizeBillingThinking, normalizeIntent, Ne.symm he]
    · have hmode : mode ≠ .disabled := fun hoff => he (some.inj (h hoff))
      constructor <;> simp [normalizeBillingThinking, normalizeIntent, effectiveEffort, he, hmode]

/-- A zero budget turns thinking off, by either rule. -/
theorem sameRule_zero : SameRule { mode, effort, budgetTokens := some 0 } := by
  constructor
  · simp [normalizeBillingThinking, normalizeIntent, effectiveEffort]
  · intro e he
    simp [normalizeBillingThinking, normalizeIntent, Ne.symm he]

/-- The budget a request is sent with. -/
def clampedBudget (budget : ℤ) : ℤ := if budget < -1 then -1 else budget

theorem clampedBudget_ne_zero (h : budget ≠ 0) : clampedBudget budget ≠ 0 := by
  unfold clampedBudget
  split_ifs <;> omega

/-- A budget without a contradiction keeps the effort. -/
theorem normalizeIntent_budget (hbudget : budget ≠ 0) (hmode : mode ≠ .disabled)
    (heffort : effort ≠ some .none) :
    normalizeIntent { mode, effort, budgetTokens := some budget } =
      { mode := if mode = .unset then .enabled else mode, effort,
        budgetTokens := some (clampedBudget budget) } := by
  have hclamped := clampedBudget_ne_zero hbudget
  rw [clampedBudget] at hclamped
  by_cases hunset : mode = .unset
  · simp [normalizeIntent, clampedBudget, hclamped, hunset, heffort]
  · simp [normalizeIntent, clampedBudget, hclamped, hunset, heffort, hmode]

/-- A budget beats effort none. -/
theorem normalizeIntent_contradiction (hbudget : budget ≠ 0) :
    normalizeIntent { mode, effort := some .none, budgetTokens := some budget } =
      { mode := .enabled, budgetTokens := some (clampedBudget budget) } := by
  have hclamped := clampedBudget_ne_zero hbudget
  rw [clampedBudget] at hclamped
  simp [normalizeIntent, clampedBudget, hclamped]

theorem sameRule_budget (hbudget : budget ≠ 0) (hmode : mode ≠ .disabled)
    (heffort : effort ≠ some .none) : SameRule { mode, effort, budgetTokens := some budget } := by
  have hnormal := normalizeIntent_budget hbudget hmode heffort
  have hne := effortFromBudget_ne_none (clampedBudget_ne_zero hbudget)
  have hmode' : (if mode = .unset then Mode.enabled else mode) ≠ .disabled := by
    split_ifs <;> simp_all
  constructor
  · rw [effectiveEffort, hnormal]
    cases effort with
    | none => simp [normalizeBillingThinking, hbudget, hmode, hmode', hne]
    | some e => simp_all [normalizeBillingThinking]
  · intro e he
    rw [hnormal]
    cases effort with
    | none => simp [normalizeBillingThinking, hbudget, hmode]
    | some e => simp_all [normalizeBillingThinking]

variable {intent : Intent}

/-- **The two rules agree on an intent unless it has a budget beside effort none.** -/
theorem sameTier_intent (h : Coherent intent) : SameRule intent ↔ ¬ Contradicts intent := by
  obtain ⟨mode, effort, budget⟩ := intent
  cases budget with
  | none =>
    refine iff_of_true (sameRule_unbudgeted h) ?_
    rintro ⟨-, budget, -, hbudget⟩
    cases hbudget
  | some budget =>
    by_cases hzero : budget = 0
    · subst hzero
      refine iff_of_true sameRule_zero ?_
      rintro ⟨-, budget, hne, hbudget⟩
      exact hne (some.inj hbudget).symm
    by_cases heffort : effort = some .none
    · subst heffort
      refine iff_of_false ?_ (not_not.2 ⟨rfl, budget, hzero, rfl⟩)
      intro hsame
      have hoff := hsame.off.1 (by simp [normalizeBillingThinking])
      rw [effectiveEffort, normalizeIntent_contradiction hzero] at hoff
      exact effortFromBudget_ne_none (clampedBudget_ne_zero hzero) (some.inj hoff)
    · exact iff_of_true (sameRule_budget hzero (fun hoff => heffort (h hoff)) heffort)
        fun hcontra => heffort hcontra.1

/-! ## Two folds of one chain -/

section

variable {S : NameSettings}

/-- A modifier that the request accepts does to the bill what it does to the request. -/
theorem billingModifier_eq {parsed parsed' : ParsedModelModifiers} {m : ModelModifier}
    (h : parseExplicitModifier S parsed m = some parsed') :
    billingModifier (parsed.intent, parsed.hasThinking) m = (parsed'.intent, parsed'.hasThinking) ∧
      parsed'.base = parsed.base := by
  unfold parseExplicitModifier at h
  unfold billingModifier
  split_ifs at h ⊢ with hthinking heffort htemperature htopp
  · obtain ⟨intent, hparse, rfl⟩ := map_eq_some_iff.1 h
    exact ⟨by rw [hparse], rfl⟩
  · obtain ⟨effort, hparse, rfl⟩ := map_eq_some_iff.1 h
    exact ⟨by rw [hparse], rfl⟩
  · obtain ⟨value, -, rfl⟩ := map_eq_some_iff.1 h
    exact ⟨rfl, rfl⟩
  · obtain ⟨value, -, rfl⟩ := map_eq_some_iff.1 h
    exact ⟨rfl, rfl⟩

/-- **Both folds end in the same intent.** -/
theorem billingFold_eq {ms : List ModelModifier} : ∀ {parsed parsed' : ParsedModelModifiers},
    ms.foldlM (parseExplicitModifier S) parsed = some parsed' →
      ms.foldl billingModifier (parsed.intent, parsed.hasThinking) =
        (parsed'.intent, parsed'.hasThinking) ∧ parsed'.base = parsed.base := by
  induction ms with
  | nil =>
    intro parsed parsed' h
    cases h
    exact ⟨rfl, rfl⟩
  | cons m ms ih =>
    intro parsed parsed' h
    obtain ⟨next, hstep, hrest⟩ := bind_eq_some_iff.1 h
    obtain ⟨hintent, hbase⟩ := billingModifier_eq hstep
    obtain ⟨hfold, hbase'⟩ := ih hrest
    rw [foldl_cons, hintent]
    exact ⟨hfold, hbase'.trans hbase⟩

theorem billingIntent_eq {name : String} {parsed : ParsedModelModifiers}
    (h : parseExplicitModelModifiers S name = some parsed) :
    billingIntentFromModifiers (parseModelModifiers name) = (parsed.intent, parsed.hasThinking) ∧
      parsed.base = (parseModelModifiers name).base :=
  billingFold_eq h

/-- An accepted chain has only values that parse. -/
theorem accepted_values {ms : List ModelModifier} : ∀ {parsed parsed' : ParsedModelModifiers},
    ms.foldlM (parseExplicitModifier S) parsed = some parsed' → ∀ m ∈ ms,
      (m.key = "thinking" → ∃ intent, parseThinkingModifier m.value = some intent) ∧
        (m.key = "effort" → ∃ effort, parseEffort m.value = some effort) := by
  induction ms with
  | nil =>
    intro parsed parsed' h m hm
    cases hm
  | cons first ms ih =>
    intro parsed parsed' h m hm
    obtain ⟨next, hstep, hrest⟩ := bind_eq_some_iff.1 h
    rcases mem_cons.1 hm with rfl | hm
    · unfold parseExplicitModifier at hstep
      constructor
      · intro hkey
        rw [if_pos hkey] at hstep
        obtain ⟨intent, hparse, -⟩ := map_eq_some_iff.1 hstep
        exact ⟨intent, hparse⟩
      · intro hkey
        rw [if_neg (by rw [hkey]; decide), if_pos hkey] at hstep
        obtain ⟨effort, hparse, -⟩ := map_eq_some_iff.1 hstep
        exact ⟨effort, hparse⟩
    · exact ih hrest m hm

end

/-! ## The modifiers that count -/

/-- A modifier of the reasoning tier. -/
def isReasoning (m : ModelModifier) : Bool := m.key = "thinking" || m.key = "effort"

variable (ms : List ModelModifier)

/-- The other modifiers do nothing to the tier. -/
theorem foldl_billingModifier (state : Intent × Bool) :
    ms.foldl billingModifier state = (ms.filter isReasoning).foldl billingModifier state := by
  induction ms generalizing state with
  | nil => rfl
  | cons m ms ih =>
    rw [foldl_cons, filter_cons, ih]
    split_ifs with hreasoning
    · rfl
    · simp only [isReasoning, Bool.or_eq_true, decide_eq_true_eq, not_or] at hreasoning
      rw [billingModifier, if_neg hreasoning.1, if_neg hreasoning.2]

theorem lastOfEach_subset : lastOfEach ms ⊆ ms := by
  induction ms with
  | nil => exact fun _ h => h
  | cons m ms ih =>
    intro x hx
    rw [lastOfEach] at hx
    split_ifs at hx
    · exact mem_cons_of_mem m (ih hx)
    · rcases mem_cons.1 hx with rfl | hx
      · exact mem_cons_self
      · exact mem_cons_of_mem m (ih hx)

/-- No key counts twice. -/
theorem lastOfEach_pairwise : (lastOfEach ms).Pairwise fun a b => a.key ≠ b.key := by
  induction ms with
  | nil => exact List.Pairwise.nil
  | cons m ms ih =>
    rw [lastOfEach]
    split_ifs with hlater
    · exact ih
    · refine List.Pairwise.cons ?_ ih
      intro x hx hkey
      refine hlater (any_eq_true.2 ⟨x, lastOfEach_subset ms hx, ?_⟩)
      rw [hkey, decide_eq_true_eq]

/-- The reasoning modifiers that count, in the order they stand. -/
def reasoningModifiers (ms : List ModelModifier) : List ModelModifier :=
  (lastOfEach ms).filter isReasoning

/-- **At most one modifier of each kind counts.** -/
theorem reasoningModifiers_cases :
    reasoningModifiers ms = [] ∨
      (∃ t, reasoningModifiers ms = [t] ∧ t.key = "thinking") ∨
      (∃ e, reasoningModifiers ms = [e] ∧ e.key = "effort") ∨
      (∃ t e, reasoningModifiers ms = [t, e] ∧ t.key = "thinking" ∧ e.key = "effort") ∨
      (∃ e t, reasoningModifiers ms = [e, t] ∧ e.key = "effort" ∧ t.key = "thinking") := by
  have hkeys : ∀ m ∈ reasoningModifiers ms, m.key = "thinking" ∨ m.key = "effort" := by
    intro m hm
    have hkind := (mem_filter.1 hm).2
    rwa [isReasoning, Bool.or_eq_true, decide_eq_true_eq, decide_eq_true_eq] at hkind
  have hpairwise : (reasoningModifiers ms).Pairwise fun a b => a.key ≠ b.key :=
    (lastOfEach_pairwise ms).filter _
  rcases hms : reasoningModifiers ms with _ | ⟨a, _ | ⟨b, _ | ⟨c, rest⟩⟩⟩
  · exact inl rfl
  · rw [hms] at hkeys
    rcases hkeys a mem_cons_self with ha | ha
    · exact inr (inl ⟨a, rfl, ha⟩)
    · exact inr (inr (inl ⟨a, rfl, ha⟩))
  · rw [hms] at hkeys hpairwise
    simp only [mem_cons, not_mem_nil, or_false, forall_eq_or_imp, forall_eq] at hkeys
    simp only [pairwise_cons, mem_singleton, forall_eq] at hpairwise
    rcases hkeys with ⟨ha | ha, hb | hb⟩
    · exact absurd (ha.trans hb.symm) hpairwise.1
    · exact inr (inr (inr (inl ⟨a, b, rfl, ha, hb⟩)))
    · exact inr (inr (inr (inr ⟨a, b, rfl, ha, hb⟩)))
    · exact absurd (ha.trans hb.symm) hpairwise.1
  · rw [hms] at hkeys hpairwise
    simp only [mem_cons, forall_eq_or_imp] at hkeys
    obtain ⟨ha, hb, hc, -⟩ := hkeys
    obtain ⟨⟨hab, hac, -⟩, ⟨hbc, -⟩, -⟩ := hpairwise
    rcases ha with ha | ha <;> rcases hb with hb | hb <;> rcases hc with hc | hc <;> simp_all

/-! ## The intent of a chain -/

variable {raw : String}

theorem parseThinkingModifier_cases (h : parseThinkingModifier raw = some intent) :
    intent = { mode := .enabled } ∨ intent = { mode := .adaptive } ∨ intent = off ∨
      ∃ budget, budget ≠ 0 ∧ intent = { mode := .enabled, budgetTokens := some budget } := by
  unfold parseThinkingModifier at h
  dsimp only at h
  split_ifs at h
  · exact inl (some.inj h).symm
  · exact inr (inl (some.inj h).symm)
  · exact inr (inr (inl (some.inj h).symm))
  · split at h
    · cases h
    · split_ifs at h with hnegative hzero
      · exact inr (inr (inl (some.inj h).symm))
      · exact inr (inr (inr ⟨_, hzero, (some.inj h).symm⟩))

/-- `@effort:none` counts, and after it a `@thinking` with a budget. -/
def budgetAfterNone (ms : List ModelModifier) : Bool :=
  match reasoningModifiers ms with
  | [e, t] => e.key = "effort" && parseEffort e.value = some .none && t.key = "thinking" &&
    ((parseThinkingModifier t.value).bind Intent.budgetTokens).isSome
  | _ => false

theorem coherent_effort {effort : Effort} : Coherent (foldEffort intent effort) := by
  unfold foldEffort
  split_ifs with hnone hmode
  · exact fun _ => rfl
  · intro hoff
    cases hoff
  · intro hoff
    exact absurd (inr hoff) hmode

theorem not_contradicts_effort {effort : Effort} : ¬ Contradicts (foldEffort intent effort) := by
  by_cases hnone : effort = .none
  · rw [foldEffort, if_pos hnone]
    rintro ⟨-, budget, -, hbudget⟩
    cases hbudget
  · rw [foldEffort, if_neg hnone]
    rintro ⟨heffort, -⟩
    exact hnone (some.inj heffort)

theorem thinking_alone (h : parseThinkingModifier raw = some intent) :
    Coherent intent ∧ ¬ Contradicts intent := by
  rcases parseThinkingModifier_cases h with rfl | rfl | rfl | ⟨budget, hbudget, rfl⟩ <;>
    simp [Coherent, Contradicts, off]

/-- A `@thinking` modifier after an `@effort` one. -/
theorem thinking_after_effort (effort : Effort) (h : parseThinkingModifier raw = some intent) :
    Coherent (foldThinking true (foldEffort {} effort) intent) ∧
      (Contradicts (foldThinking true (foldEffort {} effort) intent) ↔
        effort = .none ∧ intent.budgetTokens.isSome) := by
  by_cases heffort : effort = .none
  · subst heffort
    rcases parseThinkingModifier_cases h with rfl | rfl | rfl | ⟨budget, hbudget, rfl⟩ <;>
      simp_all [Coherent, Contradicts, foldThinking, foldEffort, off]
  · rcases parseThinkingModifier_cases h with rfl | rfl | rfl | ⟨budget, hbudget, rfl⟩ <;>
      simp_all [Coherent, Contradicts, foldThinking, foldEffort, off]

/-- **The intent of an accepted chain** contradicts itself where a budget comes after effort
none. -/
theorem chain_intent {S : NameSettings} {ms : List ModelModifier}
    {parsed parsed' : ParsedModelModifiers} (hstart : parsed.intent = {})
    (hthinking : parsed.hasThinking = false)
    (h : (lastOfEach ms).foldlM (parseExplicitModifier S) parsed = some parsed') :
    Coherent parsed'.intent ∧ (Contradicts parsed'.intent ↔ budgetAfterNone ms = true) := by
  have hvalues : ∀ m ∈ reasoningModifiers ms,
      (m.key = "thinking" → ∃ intent, parseThinkingModifier m.value = some intent) ∧
        (m.key = "effort" → ∃ effort, parseEffort m.value = some effort) :=
    fun m hm => accepted_values h m (mem_of_mem_filter hm)
  have hfold := congrArg Prod.fst (billingFold_eq h).1
  rw [hstart, hthinking, foldl_billingModifier] at hfold
  change ((reasoningModifiers ms).foldl billingModifier ({}, false)).1 = parsed'.intent at hfold
  rw [← hfold]
  unfold budgetAfterNone
  rcases reasoningModifiers_cases ms with hms | ⟨t, hms, ht⟩ | ⟨e, hms, he⟩ | ⟨t, e, hms, ht, he⟩ |
    ⟨e, t, hms, he, ht⟩
  · rw [hms]
    simp [Coherent, Contradicts]
  · rw [hms] at hvalues ⊢
    obtain ⟨intent, hparse⟩ := (hvalues t mem_cons_self).1 ht
    obtain ⟨hcoherent, hcontra⟩ := thinking_alone hparse
    have hfinal : ([t].foldl billingModifier ({}, false)).1 = intent := by
      simp [billingModifier, ht, hparse, foldThinking]
    rw [hfinal]
    exact ⟨hcoherent, iff_of_false hcontra Bool.false_ne_true⟩
  · rw [hms] at hvalues ⊢
    obtain ⟨effort, hparse⟩ := (hvalues e mem_cons_self).2 he
    have hfinal : ([e].foldl billingModifier ({}, false)).1 = foldEffort {} effort := by
      simp [billingModifier, he, hparse]
    rw [hfinal]
    exact ⟨coherent_effort, iff_of_false not_contradicts_effort Bool.false_ne_true⟩
  · rw [hms] at hvalues ⊢
    obtain ⟨intent, hparse⟩ := (hvalues t (by simp)).1 ht
    obtain ⟨effort, hparse'⟩ := (hvalues e (by simp)).2 he
    have hfinal : ([t, e].foldl billingModifier ({}, false)).1 = foldEffort intent effort := by
      simp [billingModifier, ht, he, hparse, hparse', foldThinking]
    rw [hfinal]
    refine ⟨coherent_effort, iff_of_false not_contradicts_effort ?_⟩
    simp [ht]
  · rw [hms] at hvalues ⊢
    obtain ⟨effort, hparse⟩ := (hvalues e (by simp)).2 he
    obtain ⟨intent, hparse'⟩ := (hvalues t (by simp)).1 ht
    have hfinal : ([e, t].foldl billingModifier ({}, false)).1 =
        foldThinking true (foldEffort {} effort) intent := by
      simp [billingModifier, ht, he, hparse, hparse']
    rw [hfinal]
    obtain ⟨hcoherent, hcontra⟩ := thinking_after_effort effort hparse'
    refine ⟨hcoherent, hcontra.trans ?_⟩
    simp [he, ht, hparse, hparse']

/-! ## Names -/

section

variable {base : String} {intent : Intent} {e : Effort}

/-- The names put thinking off. -/
def NamesOff (base : String) (names : List String) : Prop := base ++ "@thinking:off" ∈ names

/-- The names put thinking at the effort `e`. -/
def NamesEffort (base : String) (e : Effort) (names : List String) : Prop :=
  base ++ ("@effort:" ++ e.text ++ "@thinking:" ++ "on") ∈ names

theorem append_cancel_iff {a b c : String} : a ++ b = a ++ c ↔ b = c := by
  constructor
  · intro h
    have hlist := congrArg String.toList h
    rw [toList_append, toList_append] at hlist
    exact toList_injective (append_cancel_left hlist)
  · rintro rfl
    rfl

theorem append_ne_self {a b : String} (h : b ≠ "") : a ++ b ≠ a := by
  intro heq
  refine h ((append_cancel_iff (a := a)).1 ?_)
  rw [heq, append_empty]

/-- A suffix is among the names of an intent where the rule of the bill puts it there. -/
theorem mem_canonicalNamesFromIntent {text : String} (hbase : base ≠ "") (htext : text ≠ "") :
    base ++ text ∈ canonicalNamesFromIntent base intent ↔
      ∃ thinking effort, normalizeBillingThinking intent = some (thinking, effort) ∧
        ((∃ e ∈ effort, text = "@effort:" ++ e.text ++ "@thinking:" ++ thinking.text) ∨
          text = "@thinking:" ++ thinking.text) := by
  unfold canonicalNamesFromIntent
  cases hrule : normalizeBillingThinking intent with
  | none => simp
  | some result =>
    obtain ⟨thinking, effort⟩ := result
    have hne : base ++ text ≠ "" := fun hempty => hbase (append_eq_empty_iff.1 hempty).1
    have hself := append_ne_self (a := base) htext
    dsimp only
    rw [if_neg hbase, mem_eraseDups, mem_filter, mem_append, mem_singleton,
      mem_toList, map_eq_some_iff, append_cancel_iff]
    simp only [append_cancel_iff, hne, hself, ne_eq, not_false_eq_true, and_self, decide_true,
      and_true, some.injEq, Prod.mk.injEq]
    constructor
    · rintro (⟨e, he, rfl⟩ | rfl)
      · exact ⟨thinking, effort, ⟨rfl, rfl⟩, inl ⟨e, he, rfl⟩⟩
      · exact ⟨thinking, effort, ⟨rfl, rfl⟩, inr rfl⟩
    · rintro ⟨_, _, ⟨rfl, rfl⟩, ⟨e, he, rfl⟩ | rfl⟩
      · exact inl ⟨e, he, rfl⟩
      · exact inr rfl

/-- No name of an effort is one of a state alone. -/
theorem effortText_ne (e : Effort) (thinking state : ThinkingState) :
    "@effort:" ++ e.text ++ "@thinking:" ++ thinking.text ≠ "@thinking:" ++ state.text := by
  cases e <;> cases thinking <;> cases state <;> decide

theorem effortText_inj {e e' : Effort} {thinking : ThinkingState}
    (h : "@effort:" ++ e.text ++ "@thinking:" ++ "on" =
      "@effort:" ++ e'.text ++ "@thinking:" ++ thinking.text) : thinking = .on ∧ e' = e := by
  revert h
  cases e <;> cases e' <;> cases thinking <;> decide

theorem normalizeBillingThinking_off {effort : Option Effort}
    (h : normalizeBillingThinking intent = some (.off, effort)) : effort = none := by
  unfold normalizeBillingThinking at h
  split_ifs at h <;> simp_all

/-- Off is named where the rule says so; an effort never comes with it. -/
theorem namesOff_iff (hbase : base ≠ "") :
    NamesOff base (canonicalNamesFromIntent base intent) ↔
      normalizeBillingThinking intent = some (.off, none) := by
  rw [NamesOff, mem_canonicalNamesFromIntent hbase (by decide)]
  constructor
  · rintro ⟨thinking, effort, hrule, ⟨e, -, htext⟩ | htext⟩
    · exact absurd htext.symm (effortText_ne e thinking .off)
    · cases thinking with
      | on => exact absurd htext (by decide)
      | off => rw [hrule, normalizeBillingThinking_off hrule]
  · intro hrule
    exact ⟨.off, none, hrule, inr rfl⟩

theorem namesEffort_iff (hbase : base ≠ "") :
    NamesEffort base e (canonicalNamesFromIntent base intent) ↔
      normalizeBillingThinking intent = some (.on, some e) := by
  have htext : "@effort:" ++ e.text ++ "@thinking:" ++ "on" ≠ "" := by cases e <;> decide
  rw [NamesEffort, mem_canonicalNamesFromIntent hbase htext]
  constructor
  · rintro ⟨thinking, effort, hrule, ⟨e', he', heq⟩ | heq⟩
    · obtain ⟨rfl, rfl⟩ := effortText_inj heq
      rw [hrule, mem_def.1 he']
    · exact absurd heq (effortText_ne e .on thinking)
  · intro hrule
    exact ⟨.on, some e, hrule, inl ⟨e, rfl, rfl⟩⟩

end

/-! ## Aliases -/

section

variable {S : NameSettings} {name base : String} {intent : Intent}

theorem effortIntent_sound (effort : Effort) :
    Coherent (effortIntent effort) ∧ ¬ Contradicts (effortIntent effort) := by
  constructor
  · intro hoff
    simp only [effortIntent, ite_eq_left_iff, reduceCtorEq, imp_false, not_not] at hoff ⊢
    rw [hoff]
  · rintro ⟨-, budget, -, hbudget⟩
    cases hbudget

variable {family : String}

theorem parseProviderEffort_sound (h : parseProviderEffort name family = some (base, intent)) :
    Coherent intent ∧ ¬ Contradicts intent := by
  unfold parseProviderEffort at h
  split at h
  · cases h
  · split_ifs at h
    cases h
    exact effortIntent_sound _

/-- **An alias never contradicts itself.** -/
theorem parseProviderModelSuffix_sound {allow : Bool}
    (h : parseProviderModelSuffix name family allow = .ok (some (base, intent))) :
    Coherent intent ∧ ¬ Contradicts intent := by
  have heffort : (.ok (parseProviderEffort name family) : Except Unit _) = .ok (some (base, intent)) →
      Coherent intent ∧ ¬ Contradicts intent :=
    fun heq => parseProviderEffort_sound (ok.inj heq)
  unfold parseProviderModelSuffix at h
  split_ifs at h
  · split at h
    · split_ifs at h
      · split at h
        · cases h
        · cases h
          simp [Coherent, Contradicts]
      · cases h
    · split at h
      · cases h
        simp [Coherent, Contradicts, off]
      · split at h
        · cases h
          simp [Coherent, Contradicts]
        · exact heffort h
  · exact heffort h

theorem isFamily_ne_empty (h : isFamily family base = true) : base ≠ "" := by
  rintro rfl
  simp [isFamily] at h

theorem parseFamilySuffix_sound {allow : Bool}
    (h : parseFamilySuffix family name allow = .ok (some (base, intent))) :
    base ≠ "" ∧ Coherent intent ∧ ¬ Contradicts intent := by
  unfold parseFamilySuffix at h
  cases hparse : parseProviderModelSuffix name family allow with
  | error e =>
    rw [hparse] at h
    cases h
  | ok found =>
    rw [hparse] at h
    obtain ⟨hfound, hfamily⟩ := filter_eq_some_iff.1 (ok.inj h)
    rw [hfound] at hparse
    exact ⟨isFamily_ne_empty hfamily, parseProviderModelSuffix_sound hparse⟩

theorem parseOpenAISuffix_sound (h : parseOpenAISuffix S name = some (base, intent)) :
    base ≠ "" ∧ Coherent intent ∧ ¬ Contradicts intent := by
  unfold parseOpenAISuffix at h
  split_ifs at h
  split at h
  · cases h
  · split_ifs at h with hfamily
    cases h
    refine ⟨?_, effortIntent_sound _⟩
    rintro rfl
    revert hfamily
    decide

theorem parseLegacyModelSuffix_sound
    (h : parseLegacyModelSuffix S name = .ok (some (base, intent))) :
    base ≠ "" ∧ Coherent intent ∧ ¬ Contradicts intent := by
  have hmap : ∀ {found : Except Unit (Option (String × Intent))} {before : String},
      (found.map fun known => known.map fun known => (before ++ known.1, known.2)) =
        .ok (some (base, intent)) →
      (∀ base', found = .ok (some (base', intent)) →
        base' ≠ "" ∧ Coherent intent ∧ ¬ Contradicts intent) →
      base ≠ "" ∧ Coherent intent ∧ ¬ Contradicts intent := by
    intro found before hfound hsound
    cases found with
    | error e => cases hfound
    | ok found =>
      obtain ⟨⟨base', intent'⟩, rfl, heq⟩ := map_eq_some_iff.1 (ok.inj hfound)
      cases heq
      obtain ⟨hne, hrest⟩ := hsound base' rfl
      exact ⟨fun hempty => hne (append_eq_empty_iff.1 hempty).2, hrest⟩
  refine hmap h fun base' hfound => ?_
  split_ifs at hfound
  · exact parseFamilySuffix_sound hfound
  · exact parseFamilySuffix_sound hfound
  · exact parseOpenAISuffix_sound (ok.inj hfound)

theorem legacyAlias_sound (h : legacyAlias S name = some (base, intent)) :
    base ≠ "" ∧ Coherent intent ∧ ¬ Contradicts intent := by
  unfold legacyAlias at h
  split_ifs at h
  split at h
  · next known hparse => exact parseLegacyModelSuffix_sound (h ▸ hparse)
  · cases h

end

/-! ## The tier -/

/-- **The billed tier is the one sent upstream.** -/
structure SameTier (S : NameSettings) (name : String) (parsed : ParsedModelModifiers) : Prop where
  off : NamesOff parsed.base (canonicalBillingModelNames S name) ↔
    effectiveEffort parsed.intent = some .none
  effort : ∀ e, e ≠ .none → (NamesEffort parsed.base e (canonicalBillingModelNames S name) ↔
    (normalizeIntent parsed.intent).effort = some e)

section

variable {S : NameSettings} {name : String} {parsed : ParsedModelModifiers}

theorem sameTier_nothing (hnames : canonicalBillingModelNames S name = [])
    (hintent : parsed.intent = {}) : SameTier S name parsed := by
  constructor
  · rw [hnames, hintent]
    exact iff_of_false not_mem_nil (by decide)
  · intro e he
    rw [hnames, hintent]
    exact iff_of_false not_mem_nil fun h => by cases h

theorem sameTier_iff (hbase : parsed.base ≠ "") (hcoherent : Coherent parsed.intent)
    (hnames : canonicalBillingModelNames S name =
      canonicalNamesFromIntent parsed.base parsed.intent) :
    SameTier S name parsed ↔ ¬ Contradicts parsed.intent := by
  rw [← sameTier_intent hcoherent]
  constructor
  · rintro ⟨hoff, heffort⟩
    rw [hnames] at hoff heffort
    exact ⟨(namesOff_iff hbase).symm.trans hoff,
      fun e he => (namesEffort_iff hbase).symm.trans (heffort e he)⟩
  · rintro ⟨hoff, heffort⟩
    constructor
    · rw [hnames]
      exact (namesOff_iff hbase).trans hoff
    · intro e he
      rw [hnames]
      exact (namesEffort_iff hbase).trans (heffort e he)

/-- **What a request is sent with**: its modifiers, and the alias its base may be. -/
theorem parseRequestModelName_eq_some (h : parseRequestModelName S name = some parsed) :
    (S.shouldPreserveThinkingSuffix name = true ∧ parsed = { base := name }) ∨
      (S.shouldPreserveThinkingSuffix name = false ∧
        ∃ explicit, parseExplicitModelModifiers S name = some explicit ∧
          ((legacyAlias S explicit.base = none ∧ parsed = explicit) ∨
            ∃ base intent, legacyAlias S explicit.base = some (base, intent) ∧
              parsed.base = base ∧
              parsed.intent = if explicit.hasThinking then explicit.intent else intent)) := by
  unfold parseRequestModelName at h
  split_ifs at h with hpreserve
  · exact inl ⟨hpreserve, (some.inj h).symm⟩
  · refine inr ⟨Bool.eq_false_iff.2 hpreserve, ?_⟩
    split at h
    · cases h
    · next explicit hexplicit =>
      refine ⟨explicit, hexplicit, ?_⟩
      rw [legacyAlias]
      by_cases hbase : S.shouldPreserveThinkingSuffix explicit.base
      · rw [if_pos hbase] at h ⊢
        exact inl ⟨rfl, (some.inj h).symm⟩
      · rw [if_neg hbase] at h ⊢
        split at h
        · cases h
        · next hnone =>
          rw [hnone]
          exact inl ⟨rfl, (some.inj h).symm⟩
        · next base intent hsome =>
          rw [hsome]
          refine inr ⟨base, intent, rfl, ?_⟩
          split_ifs at h with hthinking <;> cases h
          · exact ⟨rfl, by rw [if_pos hthinking]⟩
          · exact ⟨rfl, by rw [if_neg hthinking]⟩

theorem canonicalBillingModelNames_eq {intent : Intent} {hasThinking : Bool}
    (hpreserve : S.shouldPreserveThinkingSuffix name = false)
    (hfold : billingIntentFromModifiers (parseModelModifiers name) = (intent, hasThinking)) :
    canonicalBillingModelNames S name =
      match legacyAlias S (parseModelModifiers name).base with
      | some (base, legacy) => canonicalNamesFromIntent base (if hasThinking then intent else legacy)
      | none =>
        if hasThinking then canonicalNamesFromIntent (parseModelModifiers name).base intent
        else [] := by
  unfold canonicalBillingModelNames
  rw [hpreserve, if_neg Bool.false_ne_true]
  simp only [hfold]

/-- A chain that says nothing of thinking leaves the intent empty. -/
theorem intent_of_not_hasThinking (ms : List ModelModifier) (state : Intent × Bool)
    (hstart : state.2 = false → state.1 = {}) :
    (ms.foldl billingModifier state).2 = false → (ms.foldl billingModifier state).1 = {} := by
  induction ms generalizing state with
  | nil => exact hstart
  | cons m ms ih =>
    refine ih _ ?_
    unfold billingModifier
    split_ifs
    · split
      · exact hstart
      · intro hfalse
        cases hfalse
    · split
      · exact hstart
      · intro hfalse
        cases hfalse
    · exact hstart

theorem parseModelModifiers_base (h : (parseModelModifiers name).modifiers ≠ []) :
    (parseModelModifiers name).base ≠ "" := by
  unfold parseModelModifiers at h ⊢
  split at h
  · exact absurd rfl h
  · dsimp only at h ⊢
    split_ifs at h ⊢ with hchain
    · exact absurd rfl h
    · exact fun hempty => hchain (inr hempty)

section

variable (h : parseExplicitModelModifiers S name = some parsed)

include h

theorem explicit_base_ne_empty (hthinking : parsed.hasThinking = true) : parsed.base ≠ "" := by
  obtain ⟨hfold, hbase⟩ := billingIntent_eq h
  rw [hbase]
  refine parseModelModifiers_base fun hnil => ?_
  rw [billingIntentFromModifiers, hnil, hthinking] at hfold
  cases congrArg Prod.snd hfold

theorem explicit_intent_empty (hthinking : parsed.hasThinking = false) : parsed.intent = {} := by
  have hempty := intent_of_not_hasThinking (lastOfEach (parseModelModifiers name).modifiers)
    ({}, false) fun _ => rfl
  change (billingIntentFromModifiers _).2 = false → (billingIntentFromModifiers _).1 = {} at hempty
  rw [(billingIntent_eq h).1] at hempty
  exact hempty hthinking

end

theorem not_contradicts_empty : ¬ Contradicts {} := by
  rintro ⟨heffort, -⟩
  cases heffort

/-- **The billed tier is the one sent upstream**, unless the name is read and a budget comes after
`@effort:none`. -/
theorem tier_sent_iff (h : parseRequestModelName S name = some parsed) :
    SameTier S name parsed ↔ (S.shouldPreserveThinkingSuffix name = true ∨
      budgetAfterNone (parseModelModifiers name).modifiers = false) := by
  rcases parseRequestModelName_eq_some h with ⟨hpreserve, rfl⟩ | ⟨hpreserve, explicit, hexplicit,
    hcase⟩
  · refine iff_of_true (sameTier_nothing ?_ rfl) (inl hpreserve)
    rw [canonicalBillingModelNames, if_pos hpreserve]
  obtain ⟨hfold, hbase⟩ := billingIntent_eq hexplicit
  obtain ⟨hcoherent, hcontra⟩ := chain_intent rfl rfl hexplicit
  have hnames := canonicalBillingModelNames_eq hpreserve hfold
  rw [← hbase] at hnames
  rw [hpreserve, ← Bool.not_eq_true (budgetAfterNone _), ← hcontra]
  simp only [Bool.false_eq_true, false_or]
  rcases hcase with ⟨hnone, rfl⟩ | ⟨base, intent, hsome, hparsed, hintent⟩
  · rw [hnone] at hnames
    cases hthinking : parsed.hasThinking with
    | true =>
      rw [hthinking] at hnames
      exact sameTier_iff (explicit_base_ne_empty hexplicit hthinking) hcoherent hnames
    | false =>
      rw [hthinking] at hnames
      have hempty := explicit_intent_empty hexplicit hthinking
      exact iff_of_true (sameTier_nothing hnames hempty) (hempty ▸ not_contradicts_empty)
  · obtain ⟨hne, hsound, hagree⟩ := legacyAlias_sound hsome
    have heq : canonicalBillingModelNames S name =
        canonicalNamesFromIntent parsed.base parsed.intent := by
      rw [hnames, hsome, hparsed, hintent]
    cases hthinking : explicit.hasThinking with
    | true =>
      rw [hthinking, if_pos rfl] at hintent
      rw [← hintent] at hcoherent ⊢
      exact sameTier_iff (hparsed ▸ hne) hcoherent heq
    | false =>
      rw [hthinking, if_neg Bool.false_ne_true] at hintent
      have hempty := explicit_intent_empty hexplicit hthinking
      exact iff_of_true ((sameTier_iff (hparsed ▸ hne) (hintent ▸ hsound) heq).2 (hintent ▸ hagree))
        (hempty ▸ not_contradicts_empty)

end

/-- The tier of a name with both modifiers, in the order that works. -/
theorem tier_sent_iff_budget_first :
    SameTier {} "m@thinking:1000@effort:none" { base := "m", intent := .off, hasThinking := true } ∧
      (parseModelModifiers "m@thinking:1000@effort:none").modifiers.length = 2 :=
  ⟨(tier_sent_iff (by decide +kernel)).2 (inr (by decide +kernel)), by decide +kernel⟩

/-- **A budget after `@effort:none`** is billed as thinking off and sent upstream with thinking
on. -/
theorem budget_after_none_billed_off :
    canonicalBillingModelNames {} "m@effort:none@thinking:1000" = ["m@thinking:off"] ∧
      (parseRequestModelName {} "m@effort:none@thinking:1000").map
        (fun parsed => (normalizeIntent parsed.intent, effectiveEffort parsed.intent)) =
      some ({ mode := .enabled, budgetTokens := some 1000 }, some .low) := by
  decide +kernel

end Reasoning
