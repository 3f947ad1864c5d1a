import NewApi.Channels.GroupSearch
import NewApi.Channels.Select

/-!
# Channels/Offers — what the cache and the database offer

A retry asks for a priority of the candidates; a draw returns a channel of that level.

* `cachedOffers_iff`, `databaseOffers_iff` — the channels a draw may return.
* `mem_candidates_iff` — while the cache has candidates under the name of the model, and every channel
  has its row, they are those of the database.
* `offers_agree_iff` — when the two offer the same channels.
-/

namespace Channels

open List Choice Table Or Nat Draws

/-! ## Levels -/

/-- The channels of the priority a retry asks for. -/
def level (channels : List Channel) (retry : ℕ) : List Channel :=
  channels.filter (·.getPriority = targetPriority (channels.map Channel.getPriority) retry)

/-- Those of them that have weight, or all where none has. -/
def drawable (channels : List Channel) (retry : ℕ) : List Channel :=
  (level channels retry).filter fun c =>
    0 < c.getWeight ∨ ∀ c' ∈ level channels retry, c'.getWeight = 0

variable {channels channels' : List Channel} {retry : ℕ} {c : Channel}

theorem mem_level : c ∈ level channels retry ↔
    c ∈ channels ∧ c.getPriority = targetPriority (channels.map Channel.getPriority) retry := by
  rw [level, mem_filter, decide_eq_true_iff]

theorem mem_drawable : c ∈ drawable channels retry ↔
    c ∈ level channels retry ∧
      (0 < c.getWeight ∨ ∀ c' ∈ level channels retry, c'.getWeight = 0) := by
  rw [drawable, mem_filter, decide_eq_true_iff]

theorem targetPriority_congr {priorities priorities' : List ℤ}
    (h : ∀ p, p ∈ priorities ↔ p ∈ priorities') :
    targetPriority priorities retry = targetPriority priorities' retry := by
  have hset : priorities.toFinset = priorities'.toFinset := by
    ext p
    rw [mem_toFinset, mem_toFinset]
    exact h p
  rw [targetPriority, targetPriority, sortedPriorities, sortedPriorities, hset]

/-- **The target is a priority that occurs.** -/
theorem targetPriority_mem {priorities : List ℤ} (h : priorities ≠ []) :
    targetPriority priorities retry ∈ priorities := by
  have hmem : ∀ p, p ∈ sortedPriorities priorities ↔ p ∈ priorities := by
    intro p
    rw [sortedPriorities, Finset.mem_sort, mem_toFinset]
  obtain ⟨p, hp⟩ := exists_mem_of_ne_nil priorities h
  have hpos : 0 < (sortedPriorities priorities).length :=
    length_pos_of_mem ((hmem p).2 hp)
  have hlt : min retry ((sortedPriorities priorities).length - 1) <
      (sortedPriorities priorities).length := by omega
  rw [targetPriority, getElem?_eq_getElem hlt, Option.getD_some, ← hmem]
  exact getElem_mem hlt

theorem mem_level_congr (h : ∀ c, c ∈ channels ↔ c ∈ channels') :
    c ∈ level channels retry ↔ c ∈ level channels' retry := by
  have htarget : targetPriority (channels.map Channel.getPriority) retry =
      targetPriority (channels'.map Channel.getPriority) retry := by
    refine targetPriority_congr fun p => ?_
    simp only [mem_map, h]
  rw [mem_level, mem_level, h, htarget]

theorem mem_drawable_congr (h : ∀ c, c ∈ channels ↔ c ∈ channels') :
    c ∈ drawable channels retry ↔ c ∈ drawable channels' retry := by
  simp only [mem_drawable, mem_level_congr h]

/-- **A level has a channel** where there is a candidate. -/
theorem exists_mem_level (h : channels ≠ []) : ∃ c, c ∈ level channels retry := by
  have hmem : targetPriority (channels.map Channel.getPriority) retry ∈
      channels.map Channel.getPriority := targetPriority_mem (mt map_eq_nil_iff.1 h)
  obtain ⟨c, hc, hpriority⟩ := mem_map.1 hmem
  exact ⟨c, mem_level.2 ⟨hc, hpriority⟩⟩

theorem exists_mem_drawable (h : channels ≠ []) : ∃ c, c ∈ drawable channels retry := by
  obtain ⟨c, hc⟩ := exists_mem_level h
  by_cases hzero : ∀ c' ∈ level channels retry, c'.getWeight = 0
  · exact ⟨c, mem_drawable.2 ⟨hc, inr hzero⟩⟩
  · obtain ⟨c', hc', hweight⟩ := not_forall₂.1 hzero
    exact ⟨c', mem_drawable.2 ⟨hc', inl (pos_of_ne_zero hweight)⟩⟩

/-! ## Draws -/

/-- The effective weight of a channel is positive if its weight is, or all weights are zero. -/
theorem mem_effectiveWeights {id : ℕ} : (∃ w, 0 < w ∧ (id, w) ∈ effectiveWeights channels) ↔
    ∃ c ∈ channels, (0 < c.getWeight ∨ ∀ c' ∈ channels, c'.getWeight = 0) ∧ c.id = id := by
  have hzero : (channels.map Channel.getWeight).sum = 0 ↔ ∀ c ∈ channels, c.getWeight = 0 := by
    rw [List.sum_eq_zero_iff_forall_eq_nat]
    exact forall_mem_map
  simp only [effectiveWeights, mem_map, Prod.mk.injEq, hzero]
  constructor
  · rintro ⟨_, hpos, c, hc, hid, rfl⟩
    refine ⟨c, hc, ?_, hid⟩
    by_cases hall : ∀ c' ∈ channels, c'.getWeight = 0
    · exact inr hall
    · rw [if_neg hall, add_zero] at hpos
      exact inl (Nat.pos_of_mul_pos_right hpos)
  · rintro ⟨c, hc, hweight, hid⟩
    refine ⟨_, ?_, c, hc, hid, rfl⟩
    by_cases hall : ∀ c' ∈ channels, c'.getWeight = 0
    · rw [if_pos hall]
      omega
    · have hpos := hweight.resolve_right hall
      rw [if_neg hall, add_zero]
      refine Nat.mul_pos hpos ?_
      split_ifs <;> omega

section

variable {t : ChannelTable}

/-- The rows that a list of ids of the table names. -/
theorem exists_mapM_find? {ids : List ℕ} (hids : ∀ id ∈ ids, ∃ c ∈ t.rows, c.id = id) :
    ∃ channels, ids.mapM t.find? = some channels ∧
      ∀ c, c ∈ channels ↔ c ∈ t.rows ∧ c.id ∈ ids := by
  induction ids with
  | nil => exact ⟨[], rfl, fun c => iff_of_false not_mem_nil fun h => not_mem_nil h.2⟩
  | cons id ids ih =>
    obtain ⟨channels, hchannels, hmem⟩ := ih fun id' hid' => hids id' (mem_cons_of_mem _ hid')
    obtain ⟨first, hfirst, rfl⟩ := hids id mem_cons_self
    refine ⟨first :: channels, ?_, fun c => ?_⟩
    · rw [mapM_cons, find?_of_mem hfirst, hchannels]
      rfl
    · rw [mem_cons, hmem, mem_cons]
      constructor
      · rintro (rfl | ⟨hc, hid⟩)
        · exact ⟨hfirst, inl rfl⟩
        · exact ⟨hc, inr hid⟩
      · rintro ⟨hc, heq | hid⟩
        · have hfind := find?_of_mem hc
          rw [heq, find?_of_mem hfirst] at hfind
          exact inl (Option.some.inj hfind).symm
        · exact inr ⟨hc, hid⟩

variable {id : ℕ}

/-- **What is drawn between the candidates of the cache.** -/
theorem chooseCached_offers {ids : List ℕ} (hids : ∀ id, id ∈ ids ↔ ∃ c ∈ channels, c.id = id)
    (hrows : ∀ c ∈ channels, c ∈ t.rows) :
    (∃ draw, draw < (chooseCached t.find? ids retry).draws ∧
      (chooseCached t.find? ids retry).pick pickBelow draw = some id) ↔
      ∃ c ∈ drawable channels retry, c.id = id := by
  have hfound : ∀ id ∈ ids, ∃ c ∈ t.rows, c.id = id := by
    intro id hid
    obtain ⟨c, hc, heq⟩ := (hids id).1 hid
    exact ⟨c, hrows c hc, heq⟩
  obtain ⟨found, hmapM, hmem⟩ := exists_mapM_find? hfound
  have hsame : ∀ c, c ∈ found ↔ c ∈ channels := by
    intro c
    rw [hmem, hids]
    constructor
    · rintro ⟨hc, c', hc', heq⟩
      have hfind := find?_of_mem hc
      rw [← heq, find?_of_mem (hrows c' hc')] at hfind
      exact Option.some.inj hfind ▸ hc'
    · exact fun hc => ⟨hrows c hc, c, hc, rfl⟩
  simp only [← mem_drawable_congr hsame]
  unfold chooseCached
  split
  · -- no candidate: nothing is drawn, and no channel is found
    refine iff_of_false ?_ ?_
    · rintro ⟨_, hdraw, -⟩
      exact not_lt_zero _ hdraw
    rintro ⟨c, hc, -⟩
    exact not_mem_nil ((hmem c).1 (mem_level.1 (mem_drawable.1 hc).1).1).2
  · -- one candidate, returned without a draw
    next only =>
    have hid : ∀ c ∈ drawable found retry, c.id = only := by
      intro c hc
      exact mem_singleton.1 ((hmem c).1 (mem_level.1 (mem_drawable.1 hc).1).1).2
    obtain ⟨c, hc, rfl⟩ := hfound only mem_cons_self
    have hne : found ≠ [] := ne_nil_of_mem ((hmem c).2 ⟨hc, mem_cons_self⟩)
    rw [find?_of_mem hc, if_pos (Option.isSome_some)]
    constructor
    · rintro ⟨_, _, hpick⟩
      obtain ⟨c', hc'⟩ := exists_mem_drawable hne
      exact ⟨c', hc', (hid c' hc').trans (Option.some.inj hpick)⟩
    · rintro ⟨c', hc', rfl⟩
      exact ⟨0, one_pos, congrArg some (hid c' hc').symm⟩
  · rw [hmapM]
    simp only [draws, pick, pickBelow_support, mem_effectiveWeights,
      mem_drawable, and_assoc]
    rfl

variable {routingMatchModelName : String → String} {group model : String}
  {filters : List ChannelFilter}

/-- The candidates the cache draws from: under the normalised name where there is none under the
name of the model. -/
def candidates (t : ChannelTable) (routingMatchModelName : String → String) (group model : String)
    (filters : List ChannelFilter) : List Channel :=
  if cachedCandidates t group model model filters = [] then
    cachedCandidates t group (routingMatchModelName model) model filters
  else cachedCandidates t group model model filters

variable {name : String}

theorem mem_rows_of_cachedCandidates (h : c ∈ cachedCandidates t group name model filters) :
    c ∈ t.rows :=
  (mem_admittedChannels.1 (mem_avoiding.1 (mem_filter.1 h).1).1).1

theorem mem_rows_of_candidates
    (h : c ∈ candidates t routingMatchModelName group model filters) : c ∈ t.rows := by
  unfold candidates at h
  split_ifs at h
  · exact mem_rows_of_cachedCandidates h
  · exact mem_rows_of_cachedCandidates h

theorem mem_rows_of_databaseCandidates
    (h : c ∈ databaseCandidates t group model filters) : c ∈ t.rows :=
  (mem_admittedChannels.1 (mem_filter.1 (mem_avoiding.1 h).1).1).1

theorem mem_filterCandidateIDs_init :
    id ∈ filterCandidateIDs (initChannelCache t).channelsIDM model filters
        ((initChannelCache t).group2model2channels group name) ↔
      ∃ c ∈ cachedCandidates t group name model filters, c.id = id :=
  mem_filterCandidateIDs fun _ => mem_group2model2channels

theorem filterCandidateIDs_eq_nil :
    filterCandidateIDs (initChannelCache t).channelsIDM model filters
        ((initChannelCache t).group2model2channels group name) = [] ↔
      cachedCandidates t group name model filters = [] := by
  simp only [eq_nil_iff_forall_not_mem, mem_filterCandidateIDs_init]
  exact ⟨fun h c hc => h c.id ⟨c, hc, rfl⟩, fun h _ ⟨c, hc, _⟩ => h c hc⟩

/-- **The cache offers the channels of a level that have weight**, or all where none has. -/
theorem cachedOffers_iff :
    CachedOffers t routingMatchModelName group model retry filters id ↔
      ∃ c ∈ drawable (candidates t routingMatchModelName group model filters) retry, c.id = id := by
  refine chooseCached_offers (fun id => ?_) fun c hc => mem_rows_of_candidates hc
  unfold candidates
  simp only [filterCandidateIDs_eq_nil]
  split_ifs
  · exact mem_filterCandidateIDs_init
  · exact mem_filterCandidateIDs_init

/-- **The database offers every channel of a level.** -/
theorem databaseOffers_iff :
    DatabaseOffers t group model retry filters id ↔
      ∃ c ∈ level (databaseCandidates t group model filters) retry, c.id = id := by
  unfold DatabaseOffers databaseChoice
  have hmem : ∀ a, a ∈ filterAbilities t.find? model filters
      (enabledAbilities t.abilities group model) ↔
        ∃ c ∈ databaseCandidates t group model filters, c.ability group model = a :=
    fun a => mem_filterAbilities
  generalize filterAbilities t.find? model filters (enabledAbilities t.abilities group model) =
    abilities at hmem
  have htarget : targetPriority (abilities.map (·.priority.getD 0)) retry =
      targetPriority ((databaseCandidates t group model filters).map Channel.getPriority) retry := by
    refine targetPriority_congr fun p => ?_
    simp only [mem_map, hmem]
    exact ⟨fun ⟨_, ⟨c, hc, rfl⟩, hp⟩ => ⟨c, hc, hp⟩, fun ⟨c, hc, hp⟩ => ⟨_, ⟨c, hc, rfl⟩, hp⟩⟩
  split
  · refine iff_of_false (fun ⟨_, hdraw, _⟩ => not_lt_zero _ hdraw) ?_
    rintro ⟨c, hc, -⟩
    exact not_mem_nil ((hmem _).2 ⟨c, (mem_level.1 hc).1, rfl⟩)
  · simp only [draws, pick, htarget]
    rw [pickWithin_support]
    · simp only [mem_map, mem_filter, hmem, decide_eq_true_eq, Prod.mk.injEq, mem_level]
      constructor
      · rintro ⟨_, _, ⟨⟨c, hc, rfl⟩, hpriority⟩, hid, -⟩
        exact ⟨c, ⟨hc, hpriority⟩, hid⟩
      · rintro ⟨c, ⟨hc, hpriority⟩, hid⟩
        exact ⟨_, _, ⟨⟨c, hc, rfl⟩, hpriority⟩, hid, rfl⟩
    · rintro ⟨_, _⟩ hx
      obtain ⟨a, -, heq⟩ := mem_map.1 hx
      cases heq
      exact le_add_left_of_le (by decide)

/-! ## Agreement -/

/-- Every channel that serves the model has its row. -/
def RowsComplete (t : ChannelTable) (group model : String) : Prop :=
  ∀ c ∈ t.rows, c.Serves group model → c.HasRow group model

/-- All weights are positive or all are zero. -/
def UniformWeights (channels : List Channel) : Prop :=
  (∀ c ∈ channels, 0 < c.getWeight) ∨ ∀ c ∈ channels, c.getWeight = 0

/-- The channels of the one level with weight, or all of them where none has, are the other. -/
def SameLevel (cached database : List Channel) (retry : ℕ) : Prop :=
  ∀ c, c ∈ level cached retry ∧
      (0 < c.getWeight ∨ ∀ c' ∈ level cached retry, c'.getWeight = 0) ↔
    c ∈ level database retry

/-- What can be drawn from the one is the level of the other. -/
theorem sameLevel_iff {cached database : List Channel} :
    SameLevel cached database retry ↔
      ∀ c, c ∈ drawable cached retry ↔ c ∈ level database retry := by
  simp only [SameLevel, mem_drawable]

theorem sameLevel_congr {database database' : List Channel}
    (h : ∀ c, c ∈ database ↔ c ∈ database') :
    SameLevel channels database retry ↔ SameLevel channels database' retry :=
  forall_congr' fun _ => iff_congr Iff.rfl (mem_level_congr h)

theorem sameLevel_self : SameLevel channels channels retry ↔
    UniformWeights (level channels retry) := by
  constructor
  · intro h
    by_cases hzero : ∀ c ∈ level channels retry, c.getWeight = 0
    · exact inr hzero
    · exact inl fun c hc => ((h c).2 hc).2.resolve_right hzero
  · rintro (hpos | hzero) c
    · exact ⟨fun hc => hc.1, fun hc => ⟨hc, inl (hpos c hc)⟩⟩
    · exact ⟨fun hc => hc.1, fun hc => ⟨hc, inr hzero⟩⟩

theorem sameLevel_nil_right : SameLevel channels [] retry ↔ channels = [] := by
  constructor
  · intro h
    by_contra hne
    obtain ⟨c, hc⟩ := exists_mem_drawable hne
    exact not_mem_nil (mem_level.1 ((sameLevel_iff.1 h c).1 hc)).1
  · rintro rfl c
    exact iff_of_false (fun hc => not_mem_nil (mem_level.1 hc.1).1)
      fun hc => not_mem_nil (mem_level.1 hc).1

/-- **While the cache has candidates under the name of the model they are those of the
database**: a candidate with an open breaker shows that no admitted channel has a closed one. -/
theorem mem_candidates_iff (hrows : RowsComplete t group model)
    (hne : cachedCandidates t group model model filters ≠ []) :
    c ∈ cachedCandidates t group model model filters ↔
      c ∈ databaseCandidates t group model filters := by
  obtain ⟨k, hk⟩ := exists_mem_of_ne_nil _ hne
  simp only [cachedCandidates, databaseCandidates, mem_filter, mem_avoiding,
    mem_admittedChannels, decide_eq_true_eq] at hk ⊢
  constructor
  · rintro ⟨⟨⟨hc, hserves, hadmitted⟩, hclosed⟩, hconnects⟩
    refine ⟨⟨⟨hc, hserves, hadmitted⟩, hrows c hc hserves, hconnects⟩, ?_⟩
    exact hclosed.imp_right fun hnone c' hc' => hnone c' hc'.1
  · rintro ⟨⟨⟨hc, hserves, hadmitted⟩, -, hconnects⟩, hclosed⟩
    refine ⟨⟨⟨hc, hserves, hadmitted⟩, hclosed.imp_right fun hnone => ?_⟩, hconnects⟩
    obtain ⟨⟨hkadmitted, hkclosed⟩, hkconnects⟩ := hk
    have hkopen := hnone k ⟨hkadmitted, hrows k hkadmitted.1 hkadmitted.2.1, hkconnects⟩
    exact hkclosed.resolve_left (by rw [hkopen]; exact Bool.false_ne_true)

/-- Two lists of channels of the table with the same ids are the same. -/
theorem forall_mem_iff_of_ids {xs ys : List Channel} (hx : ∀ c ∈ xs, c ∈ t.rows)
    (hy : ∀ c ∈ ys, c ∈ t.rows) :
    (∀ id, (∃ c ∈ xs, c.id = id) ↔ ∃ c ∈ ys, c.id = id) ↔ ∀ c, c ∈ xs ↔ c ∈ ys := by
  have hof : ∀ {xs ys : List Channel}, (∀ c ∈ xs, c ∈ t.rows) → (∀ c ∈ ys, c ∈ t.rows) →
      ∀ c ∈ xs, (∃ c' ∈ ys, c'.id = c.id) → c ∈ ys := by
    rintro xs ys hx hy c hc ⟨c', hc', heq⟩
    have hfind := find?_of_mem (hx c hc)
    rw [← heq, find?_of_mem (hy c' hc')] at hfind
    exact Option.some.inj hfind ▸ hc'
  constructor
  · intro h c
    exact ⟨fun hc => hof hx hy c hc ((h _).1 ⟨c, hc, rfl⟩),
      fun hc => hof hy hx c hc ((h _).2 ⟨c, hc, rfl⟩)⟩
  · intro h id
    exact exists_congr fun c => and_congr_left fun _ => h c

/-- The cache and the database agree where the level they draw from is the same. -/
theorem offers_agree_iff_sameLevel :
    (∀ id, CachedOffers t routingMatchModelName group model retry filters id ↔
      DatabaseOffers t group model retry filters id) ↔
      SameLevel (candidates t routingMatchModelName group model filters)
        (databaseCandidates t group model filters) retry := by
  simp only [cachedOffers_iff, databaseOffers_iff, sameLevel_iff]
  exact forall_mem_iff_of_ids
    (fun c hc => mem_rows_of_candidates (mem_level.1 (mem_drawable.1 hc).1).1)
    fun c hc => mem_rows_of_databaseCandidates (mem_level.1 hc).1

/-- **When the cache and the database offer the same channels.**  Under the name of the model the
weights of the level have to be alike; with no candidate under it the cache has the normalised name
to fall back on, and the database the channels whose breaker is open. -/
theorem offers_agree_iff :
    (∀ id, CachedOffers t routingMatchModelName group model retry filters id ↔
      DatabaseOffers t group model retry filters id) ↔
      (cachedCandidates t group model model filters ≠ [] ∧ RowsComplete t group model ∧
        UniformWeights (level (cachedCandidates t group model model filters) retry)) ∨
      (cachedCandidates t group model model filters ≠ [] ∧ ¬RowsComplete t group model ∧
        SameLevel (cachedCandidates t group model model filters)
          (databaseCandidates t group model filters) retry) ∨
      (cachedCandidates t group model model filters = [] ∧
        databaseCandidates t group model filters = [] ∧
        cachedCandidates t group (routingMatchModelName model) model filters = []) ∨
      (cachedCandidates t group model model filters = [] ∧
        databaseCandidates t group model filters ≠ [] ∧
        SameLevel (cachedCandidates t group (routingMatchModelName model) model filters)
          (databaseCandidates t group model filters) retry) := by
  rw [offers_agree_iff_sameLevel, candidates]
  by_cases hcached : cachedCandidates t group model model filters = []
  · rw [if_pos hcached]
    by_cases hdatabase : databaseCandidates t group model filters = []
    · rw [hdatabase, sameLevel_nil_right]
      simp [hcached]
    · simp [hcached, hdatabase]
  · rw [if_neg hcached]
    by_cases hrows : RowsComplete t group model
    · rw [← sameLevel_congr fun c => mem_candidates_iff hrows hcached, sameLevel_self]
      simp [hcached, hrows]
    · simp [hcached, hrows]

theorem level_eq_self (h : ∀ c ∈ channels, ∀ c' ∈ channels, c.getPriority = c'.getPriority) :
    level channels retry = channels := by
  refine filter_eq_self.2 fun c hc => decide_eq_true ?_
  have hmem : targetPriority (channels.map Channel.getPriority) retry ∈
      channels.map Channel.getPriority :=
    targetPriority_mem (mt map_eq_nil_iff.1 (ne_nil_of_mem hc))
  obtain ⟨c', hc', hpriority⟩ := mem_map.1 hmem
  rw [← hpriority]
  exact h c hc c' hc'

/-- One channel has weight, the other has none. -/
def unevenChannels : ChannelTable where
  rows := [{ id := 1, models := "gpt-4o", weight := some 5 }, { id := 2, models := "gpt-4o" }]
  nodup := by decide

/-- One channel, under a normalised name. -/
def wildcardChannels : ChannelTable where
  rows := [{ id := 1, models := "gpt-4o-gizmo-*" }]
  nodup := by decide

/-- Only the first channel takes WebSocket sessions. -/
def socketChannels : ChannelTable where
  rows := [{ id := 1, models := "gpt-4o", responsesWebSocketEnabled := true },
    { id := 2, models := "gpt-4o" }]
  nodup := by decide

/-- **The cache and the database differ**: on a channel without weight beside one that has some, on
a model that is only served under its normalised name, and on an open breaker of the one channel
that connects. -/
theorem offers_differ :
    (¬CachedOffers unevenChannels (Reasoning.NameSettings.routingMatchModelName {})
        "default" "gpt-4o" 0 [] 2 ∧
      DatabaseOffers unevenChannels "default" "gpt-4o" 0 [] 2) ∧
    (CachedOffers wildcardChannels (Reasoning.NameSettings.routingMatchModelName {})
        "default" "gpt-4o-gizmo-x" 0 [] 1 ∧
      ¬DatabaseOffers wildcardChannels "default" "gpt-4o-gizmo-x" 0 [] 1) ∧
    ¬CachedOffers socketChannels (Reasoning.NameSettings.routingMatchModelName {})
        "default" "gpt-4o" 0 [.channelBreaker [1], .responsesWebSocket] 1 ∧
      DatabaseOffers socketChannels "default" "gpt-4o" 0
        [.channelBreaker [1], .responsesWebSocket] 1 := by
  simp only [cachedOffers_iff, databaseOffers_iff, drawable]
  rw [level_eq_self (by decide +kernel), level_eq_self (by decide +kernel),
    level_eq_self (by decide +kernel), level_eq_self (by decide +kernel),
    level_eq_self (by decide +kernel), level_eq_self (by decide +kernel)]
  decide +kernel

end

/-! ## The replies -/

/-- Where channels are selected from. -/
inductive Store where
  | cache (routingMatchModelName : String → String)
  | database

namespace Store

variable {store : Store} {t : ChannelTable} {group model : String} {filters : List ChannelFilter}

/-- The candidates of a group. -/
def candidates (store : Store) (t : ChannelTable) (group model : String)
    (filters : List ChannelFilter) : List Channel :=
  match store with
  | .cache routingMatchModelName => Channels.candidates t routingMatchModelName group model filters
  | .database => databaseCandidates t group model filters

/-- `GetRandomSatisfiedChannel` may reply so; the cache is a new one. -/
def Answers (store : Store) (t : ChannelTable) (group model : String) (retry : ℕ)
    (filters : List ChannelFilter) (reply : Reply) : Prop :=
  let choice :=
    match store with
    | .cache routingMatchModelName =>
      cachedChoice (initChannelCache t) routingMatchModelName group model retry filters
    | .database => databaseChoice t group model retry filters
  let walk : List (ℕ × ℕ) → ℕ → Option ℕ :=
    match store with
    | .cache _ => Draws.pickBelow
    | .database => Draws.pickWithin
  match reply with
  | .error => choice = .inconsistent
  | .none => choice = .nothing
  | .found id => ∃ draw, draw < choice.draws ∧ choice.pick walk draw = some id

/-- A channel that is found is one of the level asked for. -/
theorem mem_level_of_answers {id : ℕ} (h : store.Answers t group model retry filters (.found id)) :
    ∃ c ∈ level (store.candidates t group model filters) retry, c.id = id := by
  cases store with
  | cache routingMatchModelName =>
    obtain ⟨c, hc, hid⟩ := cachedOffers_iff.1 h
    exact ⟨c, (mem_drawable.1 hc).1, hid⟩
  | database => exact databaseOffers_iff.1 h

theorem chooseCached_nothing {lookup : ℕ → Option Channel} {ids : List ℕ} :
    chooseCached lookup ids retry = .nothing ↔ ids = [] := by
  rcases ids with - | ⟨id, - | ⟨id', ids⟩⟩
  · exact iff_of_true rfl rfl
  · refine iff_of_false ?_ (cons_ne_nil _ _)
    rw [chooseCached]
    by_cases hfound : (lookup id).isSome
    · rw [if_pos hfound]
      exact Choice.noConfusion
    · rw [if_neg hfound]
      exact Choice.noConfusion
  · refine iff_of_false ?_ (cons_ne_nil _ _)
    unfold chooseCached
    dsimp only
    cases (id :: id' :: ids).mapM lookup with
    | none => exact Choice.noConfusion
    | some channels => exact Choice.noConfusion

/-- **No channel is found where there is no candidate**, and only there. -/
theorem answers_none_iff :
    store.Answers t group model retry filters .none ↔
      store.candidates t group model filters = [] := by
  cases store with
  | cache routingMatchModelName =>
    refine chooseCached_nothing.trans ?_
    dsimp only [candidates]
    unfold Channels.candidates
    simp only [filterCandidateIDs_eq_nil]
    split_ifs
    · exact filterCandidateIDs_eq_nil
    · exact filterCandidateIDs_eq_nil
  | database =>
    have hnil : filterAbilities t.find? model filters (enabledAbilities t.abilities group model) =
        [] ↔ databaseCandidates t group model filters = [] := by
      simp only [eq_nil_iff_forall_not_mem, mem_filterAbilities]
      refine ⟨fun h c hc => h _ ⟨c, hc, rfl⟩, ?_⟩
      rintro h _ ⟨c, hc, -⟩
      exact h c hc
    refine Iff.trans ?_ hnil
    change databaseChoice t group model retry filters = .nothing ↔ _
    unfold databaseChoice
    split
    · next hempty => exact iff_of_true rfl hempty
    · next hne => exact iff_of_false Choice.noConfusion hne

end Store

end Channels
