import Mathlib.Data.Finset.Sort
import NewApi.Channels.Basic
import NewApi.Machinery.Draws
import NewApi.Reasoning.Modifiers

/-!
# Channels/Select — choosing a channel from the cache and from the database

`GetRandomSatisfiedChannel` (`model/channel_cache.go`) draws a channel of a group for a model, from
the routing index in memory or, where the cache is off, from the ability table (`GetChannel`,
`model/ability.go`).  What a draw may return is `CachedOffers` and `DatabaseOffers`.

* `mem_filterCandidateIDs` — the filter of the cache avoids open breakers before it looks at the
  connection.
* `mem_filterAbilities` — the filter of the database avoids them last.
-/

/-! ## Routing names -/

namespace Reasoning

/-- The wildcard entry under which the thinking budgets of a family are listed. -/
def handleThinkingBudgetModel (name family wildcard : String) : String :=
  if Text.startsWith name family && Text.contains name "-thinking-" then wildcard else name

/-- The name under which a model is looked up in the tables. -/
def formatMatchingModelName (name : String) : String :=
  let name :=
    if Text.startsWith name "gemini-2.5-flash-lite" then
      handleThinkingBudgetModel name "gemini-2.5-flash-lite" "gemini-2.5-flash-lite-thinking-*"
    else if Text.startsWith name "gemini-2.5-flash" then
      handleThinkingBudgetModel name "gemini-2.5-flash" "gemini-2.5-flash-thinking-*"
    else if Text.startsWith name "gemini-2.5-pro" then
      handleThinkingBudgetModel name "gemini-2.5-pro" "gemini-2.5-pro-thinking-*"
    else name
  let name := if Text.startsWith name "gpt-4-gizmo" then "gpt-4-gizmo-*" else name
  if Text.startsWith name "gpt-4o-gizmo" then "gpt-4o-gizmo-*" else name

/-- The name under which channels serve a model. -/
def NameSettings.routingMatchModelName (S : NameSettings) (name : String) : String :=
  formatMatchingModelName (baseModelName S name)

end Reasoning

namespace Channels

/-! ## The cache -/

/-- The routing index in memory. -/
structure ChannelCache where
  group2model2channels : String → String → List ℕ
  channelsIDM : ℕ → Option Channel

/-- The entries of a channel under a group and a model, one for every place it is listed. -/
def Channel.entries (c : Channel) (group model : String) : List ℕ :=
  if c.status = .enabled then
    (c.groups.filter (· = group)).flatMap fun _ =>
      (c.getModels.filter (· = model)).map fun _ => c.id
  else []

/-- The index of a table. -/
def initChannelCache (t : ChannelTable) : ChannelCache where
  group2model2channels group model :=
    (t.rows.flatMap fun c => c.entries group model).mergeSort fun i j =>
      ((t.find? j).map Channel.getPriority).getD 0 ≤ ((t.find? i).map Channel.getPriority).getD 0
  channelsIDM := t.find?

/-! ## Filtering -/

/-- `candidatePassesKindFilters`, and the kinds that have no filter. -/
def passesById (lookup : ℕ → Option Channel) (modelName : String) (filters : List ChannelFilter)
    (kind : FilterKind) (id : ℕ) : Bool :=
  filters.all (·.kind ≠ kind) ||
    match lookup id with
    | none => kind = .requestPath
    | some c => passes modelName filters kind c

/-- The loop of `filterCandidateIDs` over the kinds that are left. -/
def filterByKinds (pass : FilterKind → ℕ → Bool) : List FilterKind → List ℕ → List ℕ
  | [], kept => kept
  | kind :: kinds, kept =>
    if kept ≠ [] ∧ kept.filter (pass kind) = [] then
      -- Open breakers are avoided where that leaves a candidate, not otherwise.
      if kind = .channelBreaker then filterByKinds pass kinds kept else []
    else filterByKinds pass kinds (kept.filter (pass kind))

/-- The filters of the cache, with open breakers avoided where possible. -/
def filterCandidateIDs (lookup : ℕ → Option Channel) (modelName : String)
    (filters : List ChannelFilter) (ids : List ℕ) : List ℕ :=
  filterByKinds (passesById lookup modelName filters) filterEvalOrder ids

/-- `filterAbilitiesByConstraints`, with a lookup that succeeds. -/
def filterAbilities (lookup : ℕ → Option Channel) (modelName : String)
    (filters : List ChannelFilter) (abilities : List Ability) : List Ability :=
  let satisfying (filters : List ChannelFilter) :=
    abilities.filter fun a => (lookup a.channelId).any (channelSatisfiesFilters modelName filters)
  if satisfying filters ≠ [] then satisfying filters
  else satisfying (filters.filter (·.kind ≠ .channelBreaker))

/-! ## Choosing -/

/-- The distinct priorities, highest first. -/
def sortedPriorities (priorities : List ℤ) : List ℤ := priorities.toFinset.sort (· ≥ ·)

/-- The priority a retry asks for. -/
def targetPriority (priorities : List ℤ) (retry : ℕ) : ℤ :=
  let sorted := sortedPriorities priorities
  (sorted[min retry (sorted.length - 1)]?).getD 0

/-- What is left to chance. -/
inductive Choice where
  | nothing
  /-- The index names a channel that does not exist. -/
  | inconsistent
  | only (id : ℕ)
  | among (weights : List (ℕ × ℕ))

/-- The effective weights of the channels of a level. -/
def effectiveWeights (channels : List Channel) : List (ℕ × ℕ) :=
  let sumWeight := (channels.map Channel.getWeight).sum
  let smoothingFactor := if sumWeight ≠ 0 ∧ sumWeight / channels.length < 10 then 100 else 1
  let smoothingAdjustment := if sumWeight = 0 then 100 else 0
  channels.map fun c => (c.id, c.getWeight * smoothingFactor + smoothingAdjustment)

/-- The choice between the candidates from the cache. -/
def chooseCached (lookup : ℕ → Option Channel) (ids : List ℕ) (retry : ℕ) : Choice :=
  match ids with
  | [] => .nothing
  | [id] => if (lookup id).isSome then .only id else .inconsistent
  | ids =>
    match ids.mapM lookup with
    | none => .inconsistent
    | some channels =>
      let target := targetPriority (channels.map Channel.getPriority) retry
      .among (effectiveWeights (channels.filter (·.getPriority = target)))

/-- `GetRandomSatisfiedChannel` with the memory cache. -/
def cachedChoice (cache : ChannelCache) (routingMatchModelName : String → String)
    (group model : String) (retry : ℕ) (filters : List ChannelFilter) : Choice :=
  let candidates name :=
    filterCandidateIDs cache.channelsIDM model filters (cache.group2model2channels group name)
  chooseCached cache.channelsIDM
    (if candidates model = [] then candidates (routingMatchModelName model) else candidates model)
    retry

/-- The enabled rows of a group and a model, in the order of the query. -/
def enabledAbilities (abilities : List Ability) (group model : String) : List Ability :=
  (abilities.filter fun a => a.group = group ∧ a.model = model ∧ a.enabled).mergeSort fun a b =>
    b.priority.getD 0 < a.priority.getD 0 ∨
      b.priority.getD 0 = a.priority.getD 0 ∧ b.weight ≤ a.weight

/-- `GetChannel`. -/
def databaseChoice (t : ChannelTable) (group model : String) (retry : ℕ)
    (filters : List ChannelFilter) : Choice :=
  match filterAbilities t.find? model filters (enabledAbilities t.abilities group model) with
  | [] => .nothing
  | abilities =>
    let target := targetPriority (abilities.map (·.priority.getD 0)) retry
    .among ((abilities.filter (·.priority.getD 0 = target)).map fun a => (a.channelId, a.weight + 10))

/-- How many numbers may be drawn. -/
def Choice.draws : Choice → ℕ
  | .nothing | .inconsistent => 0
  | .only _ => 1
  | .among weights => Draws.total weights

/-- The channel a draw returns. -/
def Choice.pick (walk : List (ℕ × ℕ) → ℕ → Option ℕ) : Choice → ℕ → Option ℕ
  | .nothing, _ | .inconsistent, _ => none
  | .only id, _ => some id
  | .among weights, draw => walk weights draw

/-- The cache may return the channel. -/
def CachedOffers (t : ChannelTable) (routingMatchModelName : String → String)
    (group model : String) (retry : ℕ) (filters : List ChannelFilter) (id : ℕ) : Prop :=
  let choice := cachedChoice (initChannelCache t) routingMatchModelName group model retry filters
  ∃ draw, draw < choice.draws ∧ choice.pick Draws.pickBelow draw = some id

/-- The database may return the channel. -/
def DatabaseOffers (t : ChannelTable) (group model : String) (retry : ℕ)
    (filters : List ChannelFilter) (id : ℕ) : Prop :=
  let choice := databaseChoice t group model retry filters
  ∃ draw, draw < choice.draws ∧ choice.pick Draws.pickWithin draw = some id

instance (t : ChannelTable) (routingMatchModelName : String → String) (group model : String)
    (retry : ℕ) (filters : List ChannelFilter) (id : ℕ) :
    Decidable (CachedOffers t routingMatchModelName group model retry filters id) :=
  inferInstanceAs (Decidable (∃ draw, draw < _ ∧ _))

instance (t : ChannelTable) (group model : String) (retry : ℕ) (filters : List ChannelFilter)
    (id : ℕ) : Decidable (DatabaseOffers t group model retry filters id) :=
  inferInstanceAs (Decidable (∃ draw, draw < _ ∧ _))

/-! ## The filters -/

section

variable {pass : FilterKind → ℕ → Bool} {kinds : List FilterKind} {kept : List ℕ}

theorem filterByKinds_nil : ∀ kinds, filterByKinds pass kinds [] = []
  | [] => rfl
  | kind :: kinds => by
    rw [filterByKinds, if_neg fun h => h.1 rfl]
    exact filterByKinds_nil kinds

theorem filterByKinds_cons {kind : FilterKind} (h : kind ≠ .channelBreaker) :
    filterByKinds pass (kind :: kinds) kept = filterByKinds pass kinds (kept.filter (pass kind)) := by
  rw [filterByKinds, if_neg h]
  split_ifs with hempty
  · rw [hempty.2, filterByKinds_nil]
  · rfl

theorem filterByKinds_breaker :
    filterByKinds pass (.channelBreaker :: kinds) kept =
      filterByKinds pass kinds (Draws.avoiding (pass .channelBreaker) kept) := by
  rw [filterByKinds, if_pos rfl, Draws.avoiding]
  by_cases hempty : kept.filter (pass .channelBreaker) = []
  · rw [if_pos hempty]
    split_ifs with hkept
    · rfl
    · rw [hempty]
      have hnil : kept = [] := by
        by_contra hne
        exact hkept ⟨hne, hempty⟩
      rw [hnil]
  · rw [if_neg hempty, if_neg fun h => hempty h.2]

end

section

variable {t : ChannelTable} {model : String} {filters : List ChannelFilter}

/-- The channel passes the filters that come before the breaker. -/
def admitted (model : String) (filters : List ChannelFilter) (c : Channel) : Bool :=
  passes model filters .requestPath c && passes model filters .taskPluginIdentity c &&
    passes model filters .excludedChannels c

/-- Its breaker is closed. -/
def closed (model : String) (filters : List ChannelFilter) (c : Channel) : Bool :=
  passes model filters .channelBreaker c

/-- It passes the filter that comes after the breaker. -/
def connects (model : String) (filters : List ChannelFilter) (c : Channel) : Bool :=
  passes model filters .responsesWebSocket c

theorem channelSatisfiesFilters_eq (c : Channel) :
    channelSatisfiesFilters model filters c =
      (admitted model filters c && (closed model filters c && connects model filters c)) := by
  simp [channelSatisfiesFilters, filterEvalOrder, admitted, closed, connects, Bool.and_assoc]

theorem passesById_eq {c : Channel} (kind : FilterKind) (h : c ∈ t.rows) :
    passesById t.find? model filters kind c.id = passes model filters kind c := by
  rw [passesById, Table.find?_of_mem h]
  cases hnone : filters.all (·.kind ≠ kind) with
  | false => rfl
  | true =>
    have hfilter : filters.filter (·.kind = kind) = [] := by
      rw [List.filter_eq_nil_iff]
      intro f hf
      have hne := List.all_eq_true.1 hnone f hf
      simpa using hne
    rw [passes, hfilter]
    rfl

/-- The channels of a group that serve a name and pass the filters before the breaker. -/
def admittedChannels (t : ChannelTable) (group name model : String)
    (filters : List ChannelFilter) : List Channel :=
  t.rows.filter fun c => c.Serves group name ∧ admitted model filters c = true

/-- **The candidates of the cache**: open breakers are avoided before the connection is looked
at. -/
def cachedCandidates (t : ChannelTable) (group name model : String)
    (filters : List ChannelFilter) : List Channel :=
  (Draws.avoiding (closed model filters) (admittedChannels t group name model filters)).filter
    (connects model filters)

/-- **The candidates of the database**: open breakers are avoided among the channels that connect,
and have a row. -/
def databaseCandidates (t : ChannelTable) (group model : String) (filters : List ChannelFilter) :
    List Channel :=
  Draws.avoiding (closed model filters)
    ((admittedChannels t group model model filters).filter fun c =>
      c.HasRow group model ∧ connects model filters c = true)

variable {group name : String}

theorem mem_admittedChannels {c : Channel} :
    c ∈ admittedChannels t group name model filters ↔
      c ∈ t.rows ∧ c.Serves group name ∧ admitted model filters c = true := by
  rw [admittedChannels, List.mem_filter, decide_eq_true_iff]

/-- **The filter of the cache** leaves its candidates. -/
theorem mem_filterCandidateIDs {ids : List ℕ}
    (hids : ∀ id, id ∈ ids ↔ ∃ c ∈ t.rows, c.Serves group name ∧ c.id = id) {id : ℕ} :
    id ∈ filterCandidateIDs t.find? model filters ids ↔
      ∃ c ∈ cachedCandidates t group name model filters, c.id = id := by
  have hbase : ∀ id, id ∈ ((ids.filter (passesById t.find? model filters .requestPath)).filter
      (passesById t.find? model filters .taskPluginIdentity)).filter
        (passesById t.find? model filters .excludedChannels) ↔
      ∃ c ∈ admittedChannels t group name model filters, c.id = id := by
    intro id
    simp only [List.mem_filter, mem_admittedChannels, admitted, Bool.and_eq_true]
    constructor
    · rintro ⟨⟨⟨hid, hpath⟩, hidentity⟩, hexcluded⟩
      obtain ⟨c, hc, hserves, rfl⟩ := (hids id).1 hid
      rw [passesById_eq _ hc] at hpath hidentity hexcluded
      exact ⟨c, ⟨hc, hserves, ⟨hpath, hidentity⟩, hexcluded⟩, rfl⟩
    · rintro ⟨c, ⟨hc, hserves, ⟨hpath, hidentity⟩, hexcluded⟩, rfl⟩
      simp only [passesById_eq _ hc]
      exact ⟨⟨⟨(hids _).2 ⟨c, hc, hserves, rfl⟩, hpath⟩, hidentity⟩, hexcluded⟩
  have hclosed : ∀ c ∈ admittedChannels t group name model filters,
      passesById t.find? model filters .channelBreaker c.id = closed model filters c :=
    fun c hc => passesById_eq _ (mem_admittedChannels.1 hc).1
  rw [filterCandidateIDs, filterEvalOrder, filterByKinds_cons (by decide),
    filterByKinds_cons (by decide), filterByKinds_cons (by decide), filterByKinds_breaker,
    filterByKinds_cons (by decide), filterByKinds, List.mem_filter,
    Draws.mem_avoiding_map hbase hclosed]
  simp only [cachedCandidates, List.mem_filter]
  constructor
  · rintro ⟨⟨c, hc, rfl⟩, hconnects⟩
    rw [passesById_eq _ (mem_admittedChannels.1 (Draws.mem_avoiding.1 hc).1).1] at hconnects
    exact ⟨c, ⟨hc, hconnects⟩, rfl⟩
  · rintro ⟨c, ⟨hc, hconnects⟩, rfl⟩
    rw [passesById_eq _ (mem_admittedChannels.1 (Draws.mem_avoiding.1 hc).1).1]
    exact ⟨⟨c, hc, rfl⟩, hconnects⟩

theorem mem_group2model2channels {id : ℕ} :
    id ∈ (initChannelCache t).group2model2channels group name ↔
      ∃ c ∈ t.rows, c.Serves group name ∧ c.id = id := by
  simp only [initChannelCache, List.mem_mergeSort, List.mem_flatMap]
  refine exists_congr fun c => and_congr_right fun _ => ?_
  unfold Channel.entries Channel.Serves
  split_ifs with henabled
  · simp only [List.mem_flatMap, List.mem_map, List.mem_filter, decide_eq_true_eq]
    constructor
    · rintro ⟨_, ⟨hgroup, rfl⟩, _, ⟨hmodel, rfl⟩, hid⟩
      exact ⟨⟨henabled, hgroup, hmodel⟩, hid⟩
    · rintro ⟨⟨-, hgroup, hmodel⟩, hid⟩
      exact ⟨group, ⟨hgroup, rfl⟩, name, ⟨hmodel, rfl⟩, hid⟩
  · exact iff_of_false List.not_mem_nil fun h => henabled h.1.1

/-! ## The filter of the database -/

/-- The other kinds do not see that the breaker is left out. -/
theorem passes_withoutBreaker {kind : FilterKind} (h : kind ≠ .channelBreaker) (c : Channel) :
    passes model (filters.filter (·.kind ≠ .channelBreaker)) kind c =
      passes model filters kind c := by
  unfold passes
  rw [List.filter_filter]
  congr 2
  funext f
  rw [← Bool.decide_and, decide_eq_decide]
  exact ⟨And.left, fun hkind => ⟨hkind, hkind ▸ h⟩⟩

/-- …and the breaker lets everything through. -/
theorem passes_breaker_withoutBreaker (c : Channel) :
    passes model (filters.filter (·.kind ≠ .channelBreaker)) .channelBreaker c = true := by
  unfold passes
  rw [List.filter_filter, List.all_eq_true]
  intro f hf
  have hkind := (List.mem_filter.1 hf).2
  rw [← Bool.decide_and, decide_eq_true_iff] at hkind
  exact absurd hkind.1 hkind.2

theorem channelSatisfiesFilters_withoutBreaker :
    channelSatisfiesFilters model (filters.filter (·.kind ≠ .channelBreaker)) =
      fun c => admitted model filters c && connects model filters c := by
  funext c
  rw [channelSatisfiesFilters_eq, admitted, closed, connects, passes_breaker_withoutBreaker,
    passes_withoutBreaker (by decide), passes_withoutBreaker (by decide),
    passes_withoutBreaker (by decide), passes_withoutBreaker (by decide), Bool.true_and]
  rfl

/-- The filter of the database avoids open breakers last. -/
theorem filterAbilities_eq (lookup : ℕ → Option Channel) (abilities : List Ability) :
    filterAbilities lookup model filters abilities =
      Draws.avoiding (fun a => (lookup a.channelId).any (closed model filters))
        (abilities.filter fun a => (lookup a.channelId).any fun c =>
          admitted model filters c && connects model filters c) := by
  have hall : abilities.filter (fun a =>
        (lookup a.channelId).any (channelSatisfiesFilters model filters)) =
      (abilities.filter fun a => (lookup a.channelId).any fun c =>
        admitted model filters c && connects model filters c).filter
          fun a => (lookup a.channelId).any (closed model filters) := by
    rw [List.filter_filter]
    congr 1
    funext a
    cases lookup a.channelId with
    | none => rfl
    | some c =>
      simp only [Option.any_some, channelSatisfiesFilters_eq]
      rw [Bool.and_left_comm]
  simp only [filterAbilities, Draws.avoiding, hall, ite_not,
    channelSatisfiesFilters_withoutBreaker]

theorem mem_enabledAbilities {a : Ability} :
    a ∈ enabledAbilities t.abilities group model ↔
      ∃ c ∈ t.rows, (c.Serves group model ∧ c.HasRow group model) ∧ c.ability group model = a := by
  simp only [enabledAbilities, List.mem_mergeSort, List.mem_filter, ChannelTable.abilities,
    List.mem_flatMap, mem_abilities, decide_eq_true_eq]
  constructor
  · rintro ⟨⟨c, hc, group, model, hrow, rfl⟩, rfl, rfl, henabled⟩
    exact ⟨c, hc, ⟨⟨of_decide_eq_true henabled, hrow.mem⟩, hrow⟩, rfl⟩
  · rintro ⟨c, hc, ⟨hserves, hrow⟩, rfl⟩
    exact ⟨⟨c, hc, group, model, hrow, rfl⟩, rfl, rfl, decide_eq_true hserves.1⟩

/-- **The filter of the database** leaves its candidates. -/
theorem mem_filterAbilities {a : Ability} :
    a ∈ filterAbilities t.find? model filters (enabledAbilities t.abilities group model) ↔
      ∃ c ∈ databaseCandidates t group model filters, c.ability group model = a := by
  rw [filterAbilities_eq, databaseCandidates]
  refine Draws.mem_avoiding_map (fun a => ?_) fun c hc => ?_
  · simp only [List.mem_filter, mem_enabledAbilities, mem_admittedChannels, decide_eq_true_eq]
    constructor
    · rintro ⟨⟨c, hc, ⟨hserves, hrow⟩, rfl⟩, hpass⟩
      rw [show (c.ability group model).channelId = c.id from rfl, Table.find?_of_mem hc,
        Option.any_some, Bool.and_eq_true] at hpass
      exact ⟨c, ⟨⟨hc, hserves, hpass.1⟩, hrow, hpass.2⟩, rfl⟩
    · rintro ⟨c, ⟨⟨hc, hserves, hadmitted⟩, hrow, hconnects⟩, rfl⟩
      rw [show (c.ability group model).channelId = c.id from rfl, Table.find?_of_mem hc,
        Option.any_some, hadmitted, hconnects]
      exact ⟨⟨c, hc, ⟨hserves, hrow⟩, rfl⟩, rfl⟩
  · rw [show (c.ability group model).channelId = c.id from rfl,
      Table.find?_of_mem (mem_admittedChannels.1 (List.mem_filter.1 hc).1).1, Option.any_some]

end

end Channels
