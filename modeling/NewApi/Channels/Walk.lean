import NewApi.Channels.RelayLoop

/-!
# Channels/Walk — the priorities along the attempts of a request

The attempts of a request in one group: the retry counter asks for the n-th priority of the
candidates, and the channels that were used are no longer among them.

* `le_of_mem_level_zero`, `exists_above_of_retry` — the first attempt takes the highest priority, a
  later one passes over it where there are two.
* `retries_walk_down` — with at most two levels, and one channel on the upper one, the priorities
  are walked down without a gap.
-/

namespace Channels

open List RelayState

/-! ## The level of an attempt -/

section

variable {channels : List Channel} {c : Channel} {retry : ℕ} {priorities : List ℤ}

theorem mem_sortedPriorities {p : ℤ} : p ∈ sortedPriorities priorities ↔ p ∈ priorities := by
  rw [sortedPriorities, Finset.mem_sort, mem_toFinset]

theorem sortedPriorities_getElem_lt {i j : ℕ} (hij : i < j)
    (hj : j < (sortedPriorities priorities).length) :
    (sortedPriorities priorities)[j] < (sortedPriorities priorities)[i] :=
  pairwise_iff_getElem.1 (Finset.sortedGT_sort priorities.toFinset).pairwise i j
    (hij.trans hj) hj hij

/-- **The first attempt takes the highest priority.** -/
theorem le_of_mem_level_zero (h : c ∈ level channels 0) {c' : Channel} (hc' : c' ∈ channels) :
    c'.getPriority ≤ c.getPriority := by
  obtain ⟨-, hpriority⟩ := mem_level.1 h
  have hmem : c'.getPriority ∈ sortedPriorities (channels.map Channel.getPriority) :=
    mem_sortedPriorities.2 (mem_map_of_mem hc')
  obtain ⟨i, hi, hget⟩ := getElem_of_mem hmem
  have hpos : 0 < (sortedPriorities (channels.map Channel.getPriority)).length :=
    length_pos_of_mem hmem
  rw [targetPriority, Nat.zero_min, getElem?_eq_getElem hpos, Option.getD_some] at hpriority
  rw [hpriority, ← hget]
  rcases Nat.eq_zero_or_pos i with rfl | hpos
  · exact le_refl _
  · exact (sortedPriorities_getElem_lt hpos hi).le

end

/-! ## Walking down -/

/-- The channels that were not used. -/
def untried (eligible : List Channel) (used : List ℕ) : List Channel :=
  eligible.filter (·.id ∉ used)

variable {used : List ℕ} {c : Channel}

theorem mem_untried {eligible : List Channel} :
    c ∈ untried eligible used ↔ c ∈ eligible ∧ c.id ∉ used := by
  rw [untried, mem_filter, decide_eq_true_iff]

/-- **Every attempt takes an untried channel of the highest priority that has one.** -/
def WalksDown (eligible : List Channel) (ids : List ℕ) : Prop :=
  ∀ used id rest, ids = used ++ id :: rest →
    ∃ c ∈ untried eligible used, c.id = id ∧
      ∀ c' ∈ untried eligible used, c'.getPriority ≤ c.getPriority

variable {eligible : List Channel} {ids : List ℕ}

theorem walksDown_nil : WalksDown eligible [] := by
  intro used id rest h
  cases used <;> cases h

variable {id : ℕ}

theorem WalksDown.append (h : WalksDown eligible ids)
    (hnext : ∃ c ∈ untried eligible ids, c.id = id ∧
      ∀ c' ∈ untried eligible ids, c'.getPriority ≤ c.getPriority) :
    WalksDown eligible (ids ++ [id]) := by
  intro used id' rest heq
  rcases eq_nil_or_concat rest with rfl | ⟨rest, last, rfl⟩
  · obtain ⟨rfl, hid⟩ := append_inj' heq rfl
    cases hid
    exact hnext
  · rw [concat_eq_append, ← cons_append, ← append_assoc] at heq
    exact h used id' rest (append_inj' heq rfl).1

theorem WalksDown.init (h : WalksDown eligible (ids ++ [id])) : WalksDown eligible ids := by
  intro used id' rest heq
  refine h used id' (rest ++ [id]) ?_
  rw [heq, append_assoc, cons_append]

/-- **No channel is used twice.** -/
theorem WalksDown.nodup (h : WalksDown eligible ids) : ids.Nodup := by
  induction ids using reverseRecOn with
  | nil => exact nodup_nil
  | append_singleton ids id ih =>
    obtain ⟨c, hc, rfl, -⟩ := h ids id [] rfl
    rw [nodup_append]
    refine ⟨ih h.init, nodup_singleton _, fun id' hid' b hb heq => ?_⟩
    rw [mem_singleton.1 hb] at heq
    exact (mem_untried.1 hc).2 (heq ▸ hid')

variable {t : ChannelTable}

/-- **The priorities never increase** along the attempts. -/
theorem WalksDown.priorities (hrows : ∀ c ∈ eligible, c ∈ t.rows) (h : WalksDown eligible ids) :
    (ids.filterMap t.find?).Pairwise fun c c' => c'.getPriority ≤ c.getPriority := by
  induction ids using reverseRecOn with
  | nil => exact List.Pairwise.nil
  | append_singleton ids id ih =>
    obtain ⟨last, hlast, rfl, -⟩ := h ids id [] rfl
    obtain ⟨heligible, huntried⟩ := mem_untried.1 hlast
    rw [filterMap_append, pairwise_append]
    refine ⟨ih h.init, ?_, fun c hc c' hc' => ?_⟩
    · rw [filterMap_cons, Table.find?_of_mem (hrows last heligible)]
      exact pairwise_singleton _ _
    · obtain ⟨id, hid, hfind⟩ := mem_filterMap.1 hc
      obtain ⟨used, rest, rfl⟩ := append_of_mem hid
      obtain ⟨first, hfirst, rfl, hmax⟩ := h.init used id rest rfl
      rw [Table.find?_of_mem (hrows first (mem_untried.1 hfirst).1)] at hfind
      obtain ⟨id', hid', hfind'⟩ := mem_filterMap.1 hc'
      rw [mem_singleton.1 hid', Table.find?_of_mem (hrows last heligible)] at hfind'
      cases hfind
      cases hfind'
      exact hmax last (mem_untried.2 ⟨heligible, fun hmem =>
        huntried (mem_append_left _ hmem)⟩)

/-! ## Levels -/

/-- All channels have one priority. -/
def OneLevel (channels : List Channel) : Prop :=
  ∀ c ∈ channels, ∀ c' ∈ channels, c.getPriority = c'.getPriority

/-- One level, or two with one channel on the upper. -/
def FewLevels (channels : List Channel) : Prop :=
  OneLevel channels ∨ ∃ top ∈ channels,
    (∀ c ∈ channels, c.id ≠ top.id → c.getPriority < top.getPriority) ∧
      OneLevel (channels.filter (·.id ≠ top.id))

instance (channels : List Channel) : Decidable (OneLevel channels) :=
  inferInstanceAs (Decidable (∀ c ∈ channels, ∀ c' ∈ channels, c.getPriority = c'.getPriority))

instance (channels : List Channel) : Decidable (FewLevels channels) :=
  inferInstanceAs (Decidable (OneLevel channels ∨ ∃ top ∈ channels,
    (∀ c ∈ channels, c.id ≠ top.id → c.getPriority < top.getPriority) ∧
      OneLevel (channels.filter (·.id ≠ top.id))))

variable {channels : List Channel}

theorem OneLevel.mono {channels' : List Channel} (h : OneLevel channels)
    (hsub : ∀ c ∈ channels', c ∈ channels) : OneLevel channels' :=
  fun c hc c' hc' => h c (hsub c hc) c' (hsub c' hc')

/-- Once a channel of the highest priority is used, one level is left. -/
theorem FewLevels.untried_top (h : FewLevels channels) (hc : c ∈ channels)
    (hmax : ∀ c' ∈ channels, c'.getPriority ≤ c.getPriority) (hused : c.id ∈ used) :
    OneLevel (untried channels used) := by
  rcases h with hone | ⟨top, htop, habove, hrest⟩
  · exact hone.mono fun c hc => (mem_untried.1 hc).1
  · have heq : c.id = top.id := by
      by_contra hne
      exact absurd (hmax top htop) (not_le.2 (habove c hc hne))
    refine hrest.mono fun c' hc' => ?_
    obtain ⟨hmem, huntried⟩ := mem_untried.1 hc'
    rw [mem_filter, decide_eq_true_iff]
    refine ⟨hmem, fun hid => huntried ?_⟩
    rw [hid, ← heq]
    exact hused

/-! ## The candidates of an attempt -/

/-- No breaker is open. -/
def NoBreaker (filters : List ChannelFilter) : Prop := ∀ f ∈ filters, f.kind ≠ .channelBreaker

section

variable {model : String} {filters : List ChannelFilter} {used : List ℕ} {c : Channel}

/-- The channels used are excluded, and nothing else changes. -/
theorem passes_withUsed {kind : FilterKind} :
    passes model (withUsed filters used) kind c =
      (passes model filters kind c && (kind ≠ .excludedChannels || c.id ∉ used)) := by
  unfold withUsed
  split_ifs with hnil
  · rw [hnil]
    simp
  · unfold passes
    by_cases hkind : kind = .excludedChannels
    · subst hkind
      simp [ChannelFilter.kind, channelMatchesFilter]
    · have hne : ¬FilterKind.excludedChannels = kind := fun h => hkind h.symm
      simp [ChannelFilter.kind, hkind, hne]

theorem admitted_withUsed :
    admitted model (withUsed filters used) c = (admitted model filters c && c.id ∉ used) := by
  simp [admitted, passes_withUsed, Bool.and_assoc]

theorem connects_withUsed :
    connects model (withUsed filters used) c = connects model filters c := by
  simp [connects, passes_withUsed]

theorem NoBreaker.closed (h : NoBreaker filters) (c : Channel) : closed model filters c = true := by
  have hnone : filters.filter (·.kind = .channelBreaker) = [] :=
    filter_eq_nil_iff.2 fun f hf => by simpa using h f hf
  rw [Channels.closed, passes, hnone]
  rfl

theorem NoBreaker.withUsed (h : NoBreaker filters) : NoBreaker (withUsed filters used) := by
  unfold Channels.withUsed
  split_ifs
  · exact h
  · intro f hf
    rcases mem_append.1 hf with hf | hf
    · exact h f hf
    · rw [mem_singleton.1 hf]
      exact FilterKind.noConfusion

theorem withUsed_nil : withUsed filters [] = filters := if_pos rfl

variable {t : ChannelTable} {group : String}

/-- **The channels used are taken out of the candidates** of the cache. -/
theorem cachedCandidates_withUsed (h : NoBreaker filters) (name : String) :
    cachedCandidates t group name model (withUsed filters used) =
      untried (cachedCandidates t group name model filters) used := by
  rw [cachedCandidates, cachedCandidates, untried,
    Draws.avoiding_of_forall fun c _ => h.withUsed.closed c,
    Draws.avoiding_of_forall fun c _ => h.closed c, admittedChannels, admittedChannels,
    filter_filter, filter_filter, filter_filter]
  refine filter_congr fun c _ => ?_
  rw [admitted_withUsed, connects_withUsed, Bool.eq_iff_iff]
  simp only [Bool.and_eq_true, decide_eq_true_eq]
  tauto

theorem databaseCandidates_withUsed (h : NoBreaker filters) :
    databaseCandidates t group model (withUsed filters used) =
      untried (databaseCandidates t group model filters) used := by
  rw [databaseCandidates, databaseCandidates, untried,
    Draws.avoiding_of_forall fun c _ => h.withUsed.closed c,
    Draws.avoiding_of_forall fun c _ => h.closed c, admittedChannels, admittedChannels,
    filter_filter, filter_filter, filter_filter]
  refine filter_congr fun c _ => ?_
  rw [admitted_withUsed, connects_withUsed, Bool.eq_iff_iff]
  simp only [Bool.and_eq_true, decide_eq_true_eq]
  tauto

/-- The cache does not move on to other channels under the normalised name. -/
def OneName (store : Store) (t : ChannelTable) (group model : String)
    (filters : List ChannelFilter) : Prop :=
  match store with
  | .cache routingMatchModelName =>
    cachedCandidates t group model model filters = [] ∨
      ∀ c ∈ cachedCandidates t group (routingMatchModelName model) model filters,
        c ∈ cachedCandidates t group model model filters
  | .database => True

variable {store : Store}

theorem candidates_withUsed (h : NoBreaker filters) (hname : OneName store t group model filters) :
    store.candidates t group model (withUsed filters used) =
      untried (store.candidates t group model filters) used := by
  cases store with
  | database => exact databaseCandidates_withUsed h
  | cache routingMatchModelName =>
    simp only [Store.candidates, candidates, cachedCandidates_withUsed h]
    by_cases hnone : cachedCandidates t group model model filters = []
    · rw [hnone, if_pos rfl]
      exact if_pos rfl
    · have hsub := hname.resolve_left hnone
      split_ifs with huntried
      · -- with the channels under the own name those under the other are used up
        rw [huntried, eq_nil_iff_forall_not_mem]
        intro c hc
        obtain ⟨hmem, hid⟩ := mem_untried.1 hc
        exact not_mem_nil (huntried ▸ mem_untried.2 ⟨hsub c hmem, hid⟩)
      · rfl

theorem mem_rows_of_storeCandidates (h : c ∈ store.candidates t group model filters) :
    c ∈ t.rows := by
  cases store with
  | cache routingMatchModelName => exact mem_rows_of_candidates h
  | database => exact mem_rows_of_databaseCandidates h

end

/-! ## The attempts of a request -/

section

variable {cfg : LoopConfig} {store : Store} {t : ChannelTable} {model : String}
  {filters : List ChannelFilter} {s : RelayState} {turn : Turn}

/-- A selection in one group leaves the parameters as they are. -/
theorem found_in_group {lookup : String → ℕ → Reply} {p : RetryParam} {id : ℕ}
    (hgroup : cfg.autoGroups.1 = [])
    (h : (cacheGetRandomSatisfiedChannel cfg lookup p).reply = .found id) :
    lookup cfg.tokenGroup p.retry = .found id ∧
      (cacheGetRandomSatisfiedChannel cfg lookup p).param = p := by
  unfold cacheGetRandomSatisfiedChannel at h ⊢
  by_cases hauto : cfg.tokenGroup = "auto" ∧ cfg.requestAutoGroups = []
  · rw [if_pos hauto] at h
    cases h
  · rw [if_neg hauto, if_pos hgroup] at h ⊢
    exact ⟨h, rfl⟩

/-- **The attempts so far**: they walk down, and after the first of them one level is left. -/
structure Walking (cfg : LoopConfig) (eligible : List Channel) (s : RelayState) : Prop where
  walks : WalksDown eligible s.useChannel
  reset : s.param.resetNextTry = false
  level : s.attempts ≠ [] → cfg.retryTimes ≤ s.param.retry ∨
    OneLevel (untried eligible s.useChannel)

theorem walking_init {eligible : List Channel} : Walking cfg eligible {} where
  walks := walksDown_nil
  reset := rfl
  level := fun h => absurd rfl h

/-- **A turn walks down**: the first one at the highest priority, a later one in the level that is
left. -/
theorem Walking.step (hgroup : cfg.autoGroups.1 = []) (hbreaker : NoBreaker filters)
    (hfew : cfg.retryTimes ≤ 0 ∨ OneName store t cfg.tokenGroup model filters ∧
      FewLevels (store.candidates t cfg.tokenGroup model filters))
    (h : Walking cfg (store.candidates t cfg.tokenGroup model filters) s)
    (htable : FromTable cfg store t model filters s turn) :
    Walking cfg (store.candidates t cfg.tokenGroup model filters) (relayTurn cfg s turn) := by
  have hcase : TurnCase cfg s turn (relayTurn cfg s turn) := relayTurn_cases
  generalize relayTurn cfg s turn = s' at hcase ⊢
  cases hcase with
  | ended => exact ⟨h.walks, h.reset, h.level⟩
  | first _ hnil htimes hout hreply =>
    subst hout
    obtain ⟨hlookup, -⟩ := found_in_group hgroup hreply
    have hanswers := htable cfg.tokenGroup mem_cons_self 0
    have hused : s.useChannel = [] := by rw [useChannel, hnil, map_nil]
    rw [hlookup, hused, withUsed_nil] at hanswers
    obtain ⟨c, hc, rfl⟩ := Store.mem_level_of_answers hanswers
    have hmem := (mem_level.1 hc).1
    have hmax : ∀ c' ∈ store.candidates t cfg.tokenGroup model filters,
        c'.getPriority ≤ c.getPriority := fun c' hc' => le_of_mem_level_zero hc hc'
    refine ⟨?_, rfl, fun _ => ?_⟩
    · rw [useChannel, map_append]
      refine h.walks.append ⟨c, ?_, rfl, fun c' hc' => hmax c' (mem_untried.1 hc').1⟩
      rw [hused]
      exact mem_untried.2 ⟨hmem, not_mem_nil⟩
    · refine hfew.imp_right fun hfew => hfew.2.untried_top hmem hmax ?_
      rw [useChannel, map_append]
      exact mem_append_right _ mem_cons_self
  | next _ hne htimes hout hreply =>
    subst hout
    have hincrease : s.param.increaseRetry = { s.param with retry := s.param.retry + 1 } := by
      unfold RetryParam.increaseRetry
      rw [if_neg (Bool.eq_false_iff.1 h.reset)]
    obtain ⟨hlookup, hparam⟩ := found_in_group hgroup hreply
    rw [hincrease] at hlookup htimes
    dsimp only at hlookup htimes
    have hlevel := (h.level hne).resolve_left (by omega)
    have hname := (hfew.resolve_left (by omega)).1
    have hanswers := htable cfg.tokenGroup mem_cons_self (s.param.retry + 1)
    rw [hlookup] at hanswers
    obtain ⟨c, hc, rfl⟩ := Store.mem_level_of_answers hanswers
    rw [candidates_withUsed hbreaker hname] at hc
    have hmem := (mem_level.1 hc).1
    rw [hparam, hincrease]
    refine ⟨?_, h.reset, fun _ => Or.inr ?_⟩
    · rw [useChannel, map_append]
      exact h.walks.append ⟨c, hmem, rfl, fun c' hc' => (hlevel c' hc' c hmem).le⟩
    · rw [useChannel, map_append]
      refine hlevel.mono fun c' hc' => ?_
      obtain ⟨hc', hid⟩ := mem_untried.1 hc'
      exact mem_untried.2 ⟨hc', fun hused => hid (mem_append_left _ hused)⟩

/-- **Retries walk down the priorities without gaps** where one level is left after the first
attempt: every attempt takes an untried channel of the highest priority that has one, none is used
twice, and the priorities never increase. -/
theorem retries_walk_down {turns : List Turn} (hgroup : cfg.autoGroups.1 = [])
    (hbreaker : NoBreaker filters)
    (hfew : cfg.retryTimes ≤ 0 ∨ OneName store t cfg.tokenGroup model filters ∧
      FewLevels (store.candidates t cfg.tokenGroup model filters))
    (htable : Runs.Guarded (relayTurn cfg) (FromTable cfg store t model filters) {} turns) :
    WalksDown (store.candidates t cfg.tokenGroup model filters)
        (Runs.run (relayTurn cfg) {} turns).useChannel ∧
      (Runs.run (relayTurn cfg) {} turns).useChannel.Nodup ∧
      ((Runs.run (relayTurn cfg) {} turns).useChannel.filterMap t.find?).Pairwise
        fun c c' => c'.getPriority ≤ c.getPriority := by
  have hwalking : Walking cfg (store.candidates t cfg.tokenGroup model filters)
      (Runs.run (relayTurn cfg) {} turns) :=
    Runs.invariant (fun s turn h htable => h.step hgroup hbreaker hfew htable) walking_init htable
  exact ⟨hwalking.walks, hwalking.walks.nodup,
    hwalking.walks.priorities fun c hc => mem_rows_of_storeCandidates hc⟩

end

/-! ## A level that is skipped -/

variable {priorities : List ℤ}

theorem sortedPriorities_eq_self (h : priorities.Pairwise (· > ·)) :
    sortedPriorities priorities = priorities :=
  (toFinset_sort (· ≥ ·) (h.imp fun h => ne_of_gt h)).2 (h.imp fun h => le_of_lt h)

/-- Where no channel has weight, a lookup may find any channel of the level it comes down to. -/
theorem answers_found_of_target {routingMatchModelName : String → String} {group model : String}
    {retry : ℕ} {filters : List ChannelFilter} (ids : ℕ → ℕ)
    (hweights : ∀ c ∈ candidates t routingMatchModelName group model filters, c.getWeight = 0)
    (hpriorities : (candidates t routingMatchModelName group model filters).map
      Channel.getPriority = priorities) (hsorted : priorities.Pairwise (· > ·))
    (hmem : ∀ i ≤ priorities.length - 1,
      ∃ c ∈ candidates t routingMatchModelName group model filters,
        c.getPriority = (priorities[i]?).getD 0 ∧ c.id = ids i) :
    (Store.cache routingMatchModelName).Answers t group model retry filters
      (.found (ids (min retry (priorities.length - 1)))) := by
  obtain ⟨c, hc, htarget, hid⟩ := hmem _ (min_le_right retry _)
  refine cachedOffers_iff.2 ⟨c, mem_drawable.2 ⟨mem_level.2 ⟨hc, ?_⟩, Or.inr fun c' hc' => ?_⟩, hid⟩
  · rw [hpriorities, targetPriority, sortedPriorities_eq_self hsorted]
    exact htarget
  · exact hweights c' (mem_level.1 hc').1

/-- One group and two retries. -/
def walkingConfig : LoopConfig := { retryTimes := 2, tokenGroup := "default" }

/-- Two channels, each with a priority of its own. -/
def twoLevels : ChannelTable where
  rows := [{ id := 1, models := "m", priority := some 10 },
    { id := 2, models := "m", priority := some 5 }]
  nodup := by decide

/-- The first attempt, and the second with one channel less. -/
def walkingTurns : List Turn :=
  [{ lookup := fun _ retry => .found (min retry 1 + 1) }, { lookup := fun _ _ => .found 2 }]

theorem retries_walk_down_two_levels :
    WalksDown
      (Store.candidates (.cache (Reasoning.NameSettings.routingMatchModelName {})) twoLevels
        "default" "m" [])
      (Runs.run (relayTurn walkingConfig) {} walkingTurns).useChannel ∧
    (Runs.run (relayTurn walkingConfig) {} walkingTurns).useChannel = [1, 2] := by
  have hname : Reasoning.NameSettings.routingMatchModelName {} "m" = "m" := by decide +kernel
  have htable : Runs.Guarded (relayTurn walkingConfig)
      (FromTable walkingConfig (.cache (Reasoning.NameSettings.routingMatchModelName {}))
        twoLevels "m" []) {} walkingTurns := by
    refine ⟨?_, ?_, trivial⟩
    · intro group hgroup retry
      cases mem_singleton.1 hgroup
      exact answers_found_of_target (· + 1) (by decide +kernel) rfl (by decide +kernel)
        (by decide +kernel)
    · intro group hgroup retry
      cases mem_singleton.1 hgroup
      exact answers_found_of_target (fun _ => 2) (by decide +kernel) rfl (by decide +kernel)
        (by decide +kernel)
  have hone : OneName (.cache (Reasoning.NameSettings.routingMatchModelName {})) twoLevels
      walkingConfig.tokenGroup "m" [] := by
    refine Or.inr fun c hc => ?_
    rwa [hname] at hc
  exact ⟨(retries_walk_down (by decide) (fun _ h => absurd h not_mem_nil)
    (Or.inr ⟨hone, by decide +kernel⟩) htable).1, by decide⟩

/-- Three channels, each with a priority of its own. -/
def threeLevels : ChannelTable where
  rows := [{ id := 1, models := "m", priority := some 10 },
    { id := 2, models := "m", priority := some 5 }, { id := 3, models := "m", priority := some 1 }]
  nodup := by decide

/-- The first attempt, the second with one channel less, and the third with two. -/
def skippingTurns : List Turn :=
  [{ lookup := fun _ retry => .found (min retry 2 + 1) },
   { lookup := fun _ retry => .found (min retry 1 + 2) },
   { lookup := fun _ _ => .found 2 }]

/-- **The second attempt skips a level**: the channel of the middle one is tried last. -/
theorem second_attempt_skips_level :
    Runs.Guarded (relayTurn walkingConfig)
      (FromTable walkingConfig (.cache (Reasoning.NameSettings.routingMatchModelName {}))
        threeLevels "m" []) {} skippingTurns ∧
    (Runs.run (relayTurn walkingConfig) {} skippingTurns).useChannel = [1, 3, 2] ∧
    ¬WalksDown
      (Store.candidates (.cache (Reasoning.NameSettings.routingMatchModelName {})) threeLevels
        "default" "m" [])
      (Runs.run (relayTurn walkingConfig) {} skippingTurns).useChannel := by
  have hrun : (Runs.run (relayTurn walkingConfig) {} skippingTurns).useChannel = [1, 3, 2] := by
    decide
  refine ⟨⟨?_, ?_, ?_, trivial⟩, hrun, ?_⟩
  · intro group hgroup retry
    cases mem_singleton.1 hgroup
    exact answers_found_of_target (· + 1) (by decide +kernel) rfl (by decide +kernel)
      (by decide +kernel)
  · intro group hgroup retry
    cases mem_singleton.1 hgroup
    exact answers_found_of_target (· + 2) (by decide +kernel) rfl (by decide +kernel)
      (by decide +kernel)
  · intro group hgroup retry
    cases mem_singleton.1 hgroup
    exact answers_found_of_target (fun _ => 2) (by decide +kernel) rfl (by decide +kernel)
      (by decide +kernel)
  · intro h
    obtain ⟨c, hc, hid, hmax⟩ := h [1] 3 [2] rfl
    revert hid hmax
    revert c
    decide +kernel

end Channels
