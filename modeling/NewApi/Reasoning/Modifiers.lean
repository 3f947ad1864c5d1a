import Mathlib.Algebra.Order.Ring.Rat
import NewApi.Machinery.Text

/-!
# Reasoning/Modifiers — reasoning controls written into a model name

A request may ask for thinking through its model name: by a chain of `@key:value` segments at its
end, or by an old alias such as `-thinking-8192`.  `ParseModelModifiers` and its neighbours
(`relaykit/relayconvert/reasoning/suffix.go`) read them, `parseExplicitModelModifiers`
(`relay/helper/model_modifier.go`) folds them into the intent of the request.
-/

namespace Reasoning

/-! ## Intents -/

/-- The levels of effort. -/
inductive Effort where
  | none | minimal | low | medium | high | xhigh | max
  deriving DecidableEq

/-- The name of a level. -/
def Effort.text : Effort → String
  | .none => "none"
  | .minimal => "minimal"
  | .low => "low"
  | .medium => "medium"
  | .high => "high"
  | .xhigh => "xhigh"
  | .max => "max"

/-- The modes of thinking. -/
inductive Mode where
  | unset | enabled | adaptive | disabled
  deriving DecidableEq

/-- `Intent`, without the visibility of thoughts and the sources of its fields. -/
structure Intent where
  mode : Mode := .unset
  effort : Option Effort := none
  budgetTokens : Option ℤ := none
  deriving DecidableEq

/-- Thinking is turned off. -/
def Intent.off : Intent := { mode := .disabled, effort := some .none }

/-- All levels. -/
def efforts : List Effort := [.none, .minimal, .low, .medium, .high, .xhigh, .max]

/-- `ParseEffort`, for a value that is not empty. -/
def parseEffort (value : String) : Option Effort :=
  efforts.find? fun effort => effort.text = Text.lower (Text.trimmed value)

/-- `normalizeIntent`: a budget beats a mode or an effort, effort none beats an enabling mode. -/
def normalizeIntent (intent : Intent) : Intent :=
  let budgeted : Intent :=
    match intent.budgetTokens with
    | none => intent
    | some budget =>
      let budget := if budget < -1 then -1 else budget
      let intent := { intent with budgetTokens := some budget }
      if budget = 0 then { intent with mode := .disabled, effort := some .none }
      else if intent.mode = .disabled ∨ intent.effort = some .none then
        { intent with mode := .enabled, effort := none }
      else if intent.mode = .unset then { intent with mode := .enabled }
      else intent
  if budgeted.effort = some .none then { budgeted with mode := .disabled } else budgeted

/-- The level that a budget stands for. -/
def effortFromBudget (budget : ℤ) : Effort :=
  if budget = 0 then .none
  else if budget < 0 then .high
  else if budget ≤ 1024 then .low
  else if budget ≤ 8192 then .medium
  else .high

/-- The level asked for, or that of the budget. -/
def effectiveEffort (intent : Intent) : Option Effort :=
  let intent := normalizeIntent intent
  if intent.mode = .disabled then some .none
  else
    match intent.effort, intent.budgetTokens with
    | some effort, _ => some effort
    | none, some budget => some (effortFromBudget budget)
    | none, none => if intent.mode = .unset then none else some .high

/-! ## Modifiers -/

/-- A modifier in a model name. -/
structure ModelModifier where
  key : String
  value : String
  deriving DecidableEq

/-- A model name taken apart. -/
structure ModelModifierSpec where
  base : String
  modifiers : List ModelModifier := []
  deriving DecidableEq

/-- A key starts with a letter and goes on with letters, digits, `_` and `-`. -/
def isKey : List Char → Bool
  | [] => false
  | c :: cs => c.isAlpha && cs.all fun c => c.isAlphanum || c = '_' || c = '-'

/-- `key:value`, or a key alone. -/
def parseModelModifierSegment (segment : String) : Option ModelModifier :=
  let key := segment.toList.takeWhile (· ≠ ':')
  match segment.toList.dropWhile (· ≠ ':') with
  | [] => none
  | _ :: value =>
    if isKey key then some ⟨Text.lower (String.ofList key), String.ofList value⟩ else none

/-- `ParseModelModifiers`: the chain of segments at the end, as far as it goes. -/
def parseModelModifiers (modelName : String) : ModelModifierSpec :=
  match Text.split '@' modelName with
  | [] => { base := modelName }
  | first :: rest =>
    let chain := rest.reverse.takeWhile fun part => (parseModelModifierSegment part).isSome
    let base := String.intercalate "@" (first :: rest.take (rest.length - chain.length))
    if chain = [] ∨ base = "" then { base := modelName }
    else { base, modifiers := chain.reverse.filterMap parseModelModifierSegment }

/-- What a thinking modifier asks for. -/
def parseThinkingModifier (raw : String) : Option Intent :=
  let value := Text.lower (Text.trimmed raw)
  if value = "on" then some { mode := .enabled }
  else if value = "adaptive" then some { mode := .adaptive }
  else if value = "off" then some Intent.off
  else
    match Text.atoi value with
    | none => none
    | some budget =>
      if budget < -1 then none
      else if budget = 0 then some Intent.off
      else some { mode := .enabled, budgetTokens := some budget }

/-- The modifiers that count: of each key the last one. -/
def lastOfEach : List ModelModifier → List ModelModifier
  | [] => []
  | m :: ms => if ms.any (·.key = m.key) then lastOfEach ms else m :: lastOfEach ms

/-- What a `@thinking` modifier does to the intent before it. -/
def foldThinking (hasThinking : Bool) (intent parsed : Intent) : Intent :=
  if hasThinking ∧ parsed.mode ≠ .disabled ∧ parsed.budgetTokens = none then
    { intent with mode := parsed.mode }
  else if hasThinking ∧ parsed.mode ≠ .disabled then
    { intent with mode := parsed.mode, budgetTokens := parsed.budgetTokens }
  else parsed

/-- What an `@effort` modifier does to the intent before it. -/
def foldEffort (intent : Intent) (effort : Effort) : Intent :=
  if effort = .none then Intent.off
  else
    { intent with
      mode := if intent.mode = .unset ∨ intent.mode = .disabled then .enabled else intent.mode
      effort := some effort }

/-! ## Old aliases -/

/-- The settings that names are read under.  `strconv.ParseFloat` with a finite result is
`parseFiniteFloat`. -/
structure NameSettings where
  shouldPreserveThinkingSuffix : String → Bool := fun _ => false
  shouldPreserveEffortTail : String → Bool := fun _ => false
  claudeThinkingAdapterEnabled : Bool := false
  geminiThinkingAdapterEnabled : Bool := false
  parseFiniteFloat : String → Option ℚ := fun _ => none

/-- `splitModelNamespace`: what stands up to the last slash, and the rest. -/
def splitModelNamespace (modelName : String) : String × String :=
  match Text.cutAtLast modelName "/" with
  | some (before, bare) => (before ++ "/", bare)
  | none => ("", modelName)

/-- `[a-z0-9._-]`. -/
def isModelChar (c : Char) : Bool :=
  c.isLower || c.isDigit || c = '.' || c = '_' || c = '-'

/-- `^family[a-z0-9][a-z0-9._-]*$`. -/
def isFamily (family name : String) : Bool :=
  Text.startsWith name family &&
    match name.toList.drop family.toList.length with
    | [] => false
    | c :: cs => (c.isLower || c.isDigit) && cs.all isModelChar

/-- `legacyOpenAIModelPattern`. -/
def isOpenAIFamily (name : String) : Bool :=
  isFamily "gpt-" name ||
    match name.toList with
    | 'o' :: c :: cs => c.isDigit && c ≠ '0' && cs.all isModelChar
    | _ => false

/-- `TrimEffortSuffixWithSuffixes`, with the suffixes of `OpenAIEffortSuffixes`. -/
def trimEffortSuffix (modelName : String) : Option (String × Effort) :=
  [Effort.max, .xhigh, .high, .medium, .low, .minimal, .none].findSome? fun effort =>
    (Text.cutSuffix modelName ("-" ++ effort.text)).map fun base => (base, effort)

/-- The intent of an effort in a name. -/
def effortIntent (effort : Effort) : Intent :=
  { mode := if effort = .none then .disabled else .enabled, effort := some effort }

/-- The part of `parseProviderModelSuffix` for efforts. -/
def parseProviderEffort (modelName family : String) : Option (String × Intent) :=
  match trimEffortSuffix modelName with
  | none => none
  | some (base, effort) =>
    if Text.startsWith base family then some (base, effortIntent effort) else none

/-- `parseProviderModelSuffix`; `error` for a budget that is not a number. -/
def parseProviderModelSuffix (modelName family : String) (allowThinkingAlias : Bool) :
    Except Unit (Option (String × Intent)) :=
  if allowThinkingAlias then
    match Text.cutAtLast modelName "-thinking-" with
    | some (base, tail) =>
      if Text.startsWith base family then
        match Text.atoi tail with
        | none => .error ()
        | some budget => .ok (some (base, { budgetTokens := some budget }))
      else .ok none
    | none =>
      match Text.cutSuffix modelName "-nothinking" with
      | some base => .ok (some (base, Intent.off))
      | none =>
        match Text.cutSuffix modelName "-thinking" with
        | some base => .ok (some (base, { mode := .enabled }))
        | none => .ok (parseProviderEffort modelName family)
  else .ok (parseProviderEffort modelName family)

/-- `ParseClaudeModelSuffix` and `ParseGeminiModelSuffix`, on a name without a namespace. -/
def parseFamilySuffix (family bare : String) (allowThinkingAlias : Bool) :
    Except Unit (Option (String × Intent)) :=
  (parseProviderModelSuffix bare family allowThinkingAlias).map fun found =>
    found.filter fun known => isFamily family known.1

/-- `ParseOpenAIReasoningEffortFromModelSuffix`, as an intent. -/
def parseOpenAISuffix (S : NameSettings) (bare : String) : Option (String × Intent) :=
  if S.shouldPreserveEffortTail bare then none
  else
    match trimEffortSuffix bare with
    | none => none
    | some (base, effort) =>
      if isOpenAIFamily (splitModelNamespace base).2 then some (base, effortIntent effort)
      else none

/-- `ParseLegacyModelSuffix`: the base and the intent of an alias. -/
def parseLegacyModelSuffix (S : NameSettings) (modelName : String) :
    Except Unit (Option (String × Intent)) :=
  let namespaced := splitModelNamespace modelName
  let found : Except Unit (Option (String × Intent)) :=
    if Text.startsWith namespaced.2 "claude-" then
      parseFamilySuffix "claude-" namespaced.2 S.claudeThinkingAdapterEnabled
    else if Text.startsWith namespaced.2 "gemini-" then
      parseFamilySuffix "gemini-" namespaced.2 S.geminiThinkingAdapterEnabled
    else .ok (parseOpenAISuffix S namespaced.2)
  found.map fun known => known.map fun known => (namespaced.1 ++ known.1, known.2)

/-! ## The request -/

/-- `parsedModelModifiers`, without its diagnostics. -/
structure ParsedModelModifiers where
  base : String
  intent : Intent := {}
  hasThinking : Bool := false
  temperature : Option ℚ := none
  topP : Option ℚ := none
  deriving DecidableEq

/-- `parseExplicitModelModifiers`, one modifier. -/
def parseExplicitModifier (S : NameSettings) (parsed : ParsedModelModifiers) (m : ModelModifier) :
    Option ParsedModelModifiers :=
  if m.key = "thinking" then
    (parseThinkingModifier m.value).map fun intent =>
      { parsed with
        intent := foldThinking parsed.hasThinking parsed.intent intent, hasThinking := true }
  else if m.key = "effort" then
    (parseEffort m.value).map fun effort =>
      { parsed with intent := foldEffort parsed.intent effort, hasThinking := true }
  else if m.key = "temperature" then
    (S.parseFiniteFloat m.value).map fun value => { parsed with temperature := some value }
  else if m.key = "topp" then
    (S.parseFiniteFloat m.value).map fun value => { parsed with topP := some value }
  else none

/-- `parseExplicitModelModifiers`; nothing where a modifier is refused. -/
def parseExplicitModelModifiers (S : NameSettings) (modelName : String) :
    Option ParsedModelModifiers :=
  let spec := parseModelModifiers modelName
  (lastOfEach spec.modifiers).foldlM (parseExplicitModifier S) { base := spec.base }

/-- `parseRequestModelName`: the base and the intent a request is sent with. -/
def parseRequestModelName (S : NameSettings) (name : String) : Option ParsedModelModifiers :=
  if S.shouldPreserveThinkingSuffix name then some { base := name }
  else
    match parseExplicitModelModifiers S name with
    | none => none
    | some parsed =>
      if S.shouldPreserveThinkingSuffix parsed.base then some parsed
      else
        match parseLegacyModelSuffix S parsed.base with
        | .error _ => none
        | .ok none => some parsed
        | .ok (some (base, intent)) =>
          if parsed.hasThinking then some { parsed with base }
          else some { parsed with base, intent, hasThinking := true }

/-- `BaseModelName`: a name without its modifiers and its legacy suffix. -/
def baseModelName (S : NameSettings) (modelName : String) : String :=
  if S.shouldPreserveThinkingSuffix modelName then modelName
  else
    let base := (parseModelModifiers modelName).base
    if S.shouldPreserveThinkingSuffix base then base
    else
      match parseLegacyModelSuffix S base with
      | .ok (some (legacyBase, _)) => legacyBase
      | _ => base

end Reasoning
