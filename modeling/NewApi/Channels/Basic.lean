import Mathlib.Algebra.Order.Ring.Int
import NewApi.Machinery.Table
import NewApi.Machinery.Text

/-!
# Channels/Basic — the rows of the channel and ability tables

A channel (`model/channel.go`) serves models to groups; both are lists in a text column.  Its
abilities (`model/ability.go`) are the same lists as rows.  A channel with several keys carries a
status, a reason and a time for each of them, and a cursor for polling.
-/

namespace Channels

open List

/-- The status of a channel, or of one of its keys. -/
inductive ChannelStatus where
  | unknown | enabled | manuallyDisabled | autoDisabled
  deriving DecidableEq

/-- The types that selection tells apart. -/
inductive ChannelType where
  | openAI | codex | sub2API | newAPI | advancedCustom | taskPlugin
  | other (id : ℕ)
  deriving DecidableEq

/-- How a key is picked among several. -/
inductive MultiKeyMode where
  | random | polling
  | other (name : String)
  deriving DecidableEq

/-- `ChannelInfo`.  A map that is `nil` has the entries of an empty one. -/
structure ChannelInfo where
  isMultiKey : Bool := false
  multiKeySize : ℕ := 0
  multiKeyStatusList : ℕ → Option ChannelStatus := fun _ => none
  multiKeyDisabledReason : ℕ → Option String := fun _ => none
  multiKeyDisabledTime : ℕ → Option ℤ := fun _ => none
  multiKeyPollingIndex : ℤ := 0
  multiKeyMode : MultiKeyMode := .random

/-- `AdvancedCustomConfig`, by what its two lookups answer for a path and a model. -/
structure AdvancedCustomConfig where
  supportsPathForModel : String → String → Bool
  /-- The route matched is one without a converter. -/
  nativePathForModel : String → String → Bool

/-- `Channel`, as far as it is selected, and its keys managed, by it. -/
structure Channel where
  id : ℕ
  type : ChannelType := .openAI
  key : String := ""
  status : ChannelStatus := .enabled
  weight : Option ℕ := none
  models : String := ""
  group : String := "default"
  priority : Option ℤ := none
  /-- `status_reason` of `OtherInfo`. -/
  statusReason : Option String := none
  channelInfo : ChannelInfo := {}
  advancedCustom : Option AdvancedCustomConfig := none
  bindsTaskPlugin : String → Bool := fun _ => false
  responsesWebSocketEnabled : Bool := false

/-- The channel table. -/
abbrev ChannelTable := Table Channel Channel.id

namespace Channel

/-- The models a channel lists. -/
def getModels (c : Channel) : List String :=
  if c.models = "" then [] else Text.split ',' (Text.trimChar ',' c.models)

/-- The groups a channel is listed under. -/
def groups (c : Channel) : List String := Text.split ',' c.group

/-- Its priority, `0` if unset. -/
def getPriority (c : Channel) : ℤ := c.priority.getD 0

/-- Its weight, `0` if unset. -/
def getWeight (c : Channel) : ℕ := c.weight.getD 0

/-- The channel is on and serves the model to the group. -/
def Serves (c : Channel) (group model : String) : Prop :=
  c.status = .enabled ∧ group ∈ c.groups ∧ model ∈ c.getModels

instance (c : Channel) (group model : String) : Decidable (c.Serves group model) :=
  inferInstanceAs (Decidable (_ ∧ _ ∧ _))

end Channel

/-! ## Abilities -/

/-- A row of `abilities`. -/
structure Ability where
  group : String
  model : String
  channelId : ℕ
  enabled : Bool
  priority : Option ℤ
  weight : ℕ

/-- The groups and models a channel is listed under, in the order of the loops. -/
def Channel.pairs (c : Channel) : List (String × String) :=
  c.getModels.flatMap fun model => c.groups.map fun group => (group, model)

/-- The key of a pair in `abilitySet`. -/
def abilityKey (pair : String × String) : String := pair.1 ++ "|" ++ pair.2

/-- The pairs that are not in `abilitySet` yet, each put there as it is passed. -/
def newPairs (abilitySet : List String) : List (String × String) → List (String × String)
  | [] => []
  | pair :: pairs =>
    if abilityKey pair ∈ abilitySet then newPairs abilitySet pairs
    else pair :: newPairs (abilityKey pair :: abilitySet) pairs

/-- The row of a channel for a group and a model. -/
def Channel.ability (c : Channel) (group model : String) : Ability where
  group := group
  model := model
  channelId := c.id
  enabled := c.status = .enabled
  priority := c.priority
  weight := c.getWeight

/-- The rows `UpdateAbilities` writes for a channel. -/
def Channel.abilities (c : Channel) : List Ability :=
  (newPairs [] c.pairs).map fun pair => c.ability pair.1 pair.2

/-- The ability table of a channel table. -/
def ChannelTable.abilities (t : ChannelTable) : List Ability := t.rows.flatMap Channel.abilities

/-- The first pair of its key is written, and no other. -/
theorem mem_newPairs {pairs : List (String × String)} {pair : String × String}
    {abilitySet : List String} : pair ∈ newPairs abilitySet pairs ↔
      abilityKey pair ∉ abilitySet ∧ pairs.find? (abilityKey · = abilityKey pair) = some pair := by
  induction pairs generalizing abilitySet with
  | nil => simp [newPairs]
  | cons first pairs ih =>
    rw [newPairs, find?_cons]
    by_cases hkey : abilityKey first = abilityKey pair
    · rw [decide_eq_true hkey]
      split_ifs with hseen
      · rw [ih, ← hkey]
        exact iff_of_false (fun h => h.1 hseen) fun h => h.1 hseen
      · rw [mem_cons, ih, ← hkey]
        constructor
        · rintro (rfl | ⟨hfresh, -⟩)
          · exact ⟨hseen, rfl⟩
          · exact absurd mem_cons_self hfresh
        · rintro ⟨-, heq⟩
          exact Or.inl (Option.some.inj heq).symm
    · rw [decide_eq_false hkey]
      split_ifs with hseen
      · exact ih
      · rw [mem_cons, ih, mem_cons, not_or]
        constructor
        · rintro (rfl | ⟨⟨-, hfresh⟩, hfind⟩)
          · exact absurd rfl hkey
          · exact ⟨hfresh, hfind⟩
        · rintro ⟨hfresh, hfind⟩
          exact Or.inr ⟨⟨Ne.symm hkey, hfresh⟩, hfind⟩

/-- The pair is the first of its key: two pairs share one if a name has a bar in it. -/
def Channel.HasRow (c : Channel) (group model : String) : Prop :=
  c.pairs.find? (abilityKey · = abilityKey (group, model)) = some (group, model)

instance (c : Channel) (group model : String) : Decidable (c.HasRow group model) :=
  inferInstanceAs (Decidable (_ = _))

theorem Channel.HasRow.mem {c : Channel} {group model : String} (h : c.HasRow group model) :
    group ∈ c.groups ∧ model ∈ c.getModels := by
  have hmem := mem_of_find?_eq_some h
  simp only [Channel.pairs, mem_flatMap, mem_map, Prod.mk.injEq] at hmem
  obtain ⟨model', hmodel, group', hgroup, rfl, rfl⟩ := hmem
  exact ⟨hgroup, hmodel⟩

theorem mem_abilities {c : Channel} {a : Ability} :
    a ∈ c.abilities ↔ ∃ group model, c.HasRow group model ∧ c.ability group model = a := by
  simp only [Channel.abilities, mem_map, mem_newPairs, Prod.exists, not_mem_nil,
    not_false_eq_true, true_and]
  rfl

/-! ## Filters -/

/-- The names of filters. -/
inductive FilterKind where
  | requestPath | taskPluginIdentity | excludedChannels | channelBreaker | responsesWebSocket
  | other (name : String)
  deriving DecidableEq

/-- What a request asks of its channel. -/
inductive ChannelFilter where
  | requestPath (path : String)
  | taskPluginIdentity (key : String) (channelTypes : List ChannelType) (keys : List String)
  | excludedChannels (ids : List ℕ)
  | channelBreaker (ids : List ℕ)
  | responsesWebSocket
  | other (name : String)

/-- The name of a filter. -/
def ChannelFilter.kind : ChannelFilter → FilterKind
  | .requestPath _ => .requestPath
  | .taskPluginIdentity _ _ _ => .taskPluginIdentity
  | .excludedChannels _ => .excludedChannels
  | .channelBreaker _ => .channelBreaker
  | .responsesWebSocket => .responsesWebSocket
  | .other name => .other name

/-- The order in which filters are applied. -/
def filterEvalOrder : List FilterKind :=
  [.requestPath, .taskPluginIdentity, .excludedChannels, .channelBreaker, .responsesWebSocket]

/-- A channel passes a filter. -/
def channelMatchesFilter (c : Channel) (modelName : String) : ChannelFilter → Bool
  | .excludedChannels ids => !ids.contains c.id
  | .channelBreaker ids => !ids.contains c.id
  | .requestPath path =>
    path = "" || c.type ≠ .advancedCustom ||
      (c.advancedCustom.any fun config => config.supportsPathForModel path modelName)
  | .taskPluginIdentity key channelTypes keys =>
    if key = "" then c.type ≠ .taskPlugin
    else if c.type = .taskPlugin ∨ c.type = .newAPI then
      c.bindsTaskPlugin key || keys.any c.bindsTaskPlugin
    else channelTypes.contains c.type
  | .responsesWebSocket =>
    c.responsesWebSocketEnabled &&
      match c.type with
      | .openAI | .codex | .sub2API | .newAPI => true
      | .advancedCustom =>
        c.advancedCustom.any fun config => config.nativePathForModel "/v1/responses" modelName
      | _ => false
  | .other _ => true

/-- A channel passes the filters of one kind. -/
def passes (modelName : String) (filters : List ChannelFilter) (kind : FilterKind) (c : Channel) :
    Bool :=
  (filters.filter (·.kind = kind)).all (channelMatchesFilter c modelName)

/-- A channel passes all filters, each looked at once in order. -/
def channelSatisfiesFilters (modelName : String) (filters : List ChannelFilter) (c : Channel) :
    Bool :=
  filterEvalOrder.all fun kind => passes modelName filters kind c

end Channels
