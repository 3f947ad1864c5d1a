import NewApi.Reasoning.Modifiers

/-!
# Channels/ModelMapping — two walks along a channel's model mapping

`ModelMappedHelper` (`relay/helper/model_mapped.go`) follows the mapping of a channel to the name a
request is sent under, `followChannelModelMapping` (`model/task_model_alias.go`) to the name a task
alias stands for.  Where a name has no entry, the first also looks up its base.

* `mapping_agrees_iff` — the two agree unless the chain ends in a name whose base has an entry.
* `mapping_settles` — both are idempotent.
-/

namespace ModelMapping

open Relation Option List

open Reasoning (baseModelName)

/-! ## The walk -/

/-- A mapping as its entries; an empty name counts as no entry. -/
abbrev ModelMap := List (String × String)

/-- Where the mapping leads from a name. -/
def entry (m : ModelMap) (name : String) : Option String := (m.lookup name).filter (· ≠ "")

/-- Where a hop leads, with the lookup of a base. -/
def mappedModel (base : String → String) (m : ModelMap) (current : String) : Option String :=
  match entry m current with
  | some mapped => some mapped
  | none => if base current ≠ current then entry m (base current) else none

/-- Why a name is not mapped. -/
inductive MappingError where
  | containsCycle
  deriving DecidableEq

section

variable {base : String → String} {m : ModelMap} {visited : List String} {a b c t u : String}

theorem entry_mem (h : entry m a = some b) : b ∈ m.map Prod.snd := by
  rw [entry, filter_eq_some_iff] at h
  obtain ⟨before, after, rfl, -⟩ := lookup_eq_some_iff.1 h.1
  simp

theorem mappedModel_mem (h : mappedModel base m a = some b) : b ∈ m.map Prod.snd := by
  unfold mappedModel at h
  split at h
  · next hentry => exact entry_mem (hentry.trans h)
  · split_ifs at h
    exact entry_mem h

/-- The loop of both functions, over hops that have not been visited. -/
def walk (base : String → String) (m : ModelMap) (visited : List String) (current : String) :
    Except MappingError String :=
  match _ : mappedModel base m current with
  | none => .ok current
  | some mapped =>
    if mapped ∈ visited then if mapped = current then .ok current else .error .containsCycle
    else walk base m (mapped :: visited) mapped
termination_by ((m.map Prod.snd).filter (· ∉ visited)).length
decreasing_by
  rename_i hnew
  have hfewer : (m.map Prod.snd).filter (· ∉ mapped :: visited) =
      ((m.map Prod.snd).filter (· ∉ visited)).filter (· ≠ mapped) := by
    rw [List.filter_filter]
    congr
    funext name
    simp [List.mem_cons, not_or]
  rw [hfewer]
  refine List.length_filter_lt_length_iff_exists.2 ⟨mapped, List.mem_filter.2 ⟨?_, ?_⟩, by simp⟩
  · exact mappedModel_mem ‹_›
  · exact decide_eq_true hnew

/-- `followChannelModelMapping`: the tail of the chain, or that it has a cycle. -/
def followChannelModelMapping (modelMap : ModelMap) (start : String) : String × Bool :=
  match walk id modelMap [start] start with
  | .ok current => (current, false)
  | .error _ => ("", true)

/-- `ModelMappedHelper`: the name the request is sent under.  `IsModelMapped` is set where the walk
leaves the origin, and only then the name is written over the one `InitChannelMeta` put there. -/
def modelMappedHelper (S : Reasoning.NameSettings) (modelMap : ModelMap)
    (originModelName upstreamModelName : String) : Except MappingError String :=
  (walk (baseModelName S) modelMap [originModelName] originModelName).map fun current =>
    if current ≠ originModelName then current else upstreamModelName

/-! ## Chains -/

/-- The chain of own entries. -/
abbrev Reaches (m : ModelMap) : String → String → Prop :=
  ReflTransGen fun a b => entry m a = some b

/-- The base of a name leads nowhere else. -/
def Quiet (base : String → String) (m : ModelMap) (name : String) : Prop :=
  ∀ mapped ∈ mappedModel base m name, mapped = name

theorem mappedModel_id (m : ModelMap) (a : String) : mappedModel id m a = entry m a := by
  unfold mappedModel
  split
  · next h => exact h.symm
  · next h =>
    rw [h]
    exact if_neg (not_not.2 rfl)

theorem mappedModel_of_entry (h : entry m a = some b) : mappedModel base m a = some b := by
  rw [mappedModel, h]

/-- A name with no entry ends the chain, and so does one mapped to itself. -/
theorem Reaches.eq_of_stays (h : Reaches m t u) (hstays : ∀ b ∈ entry m t, b = t) : u = t := by
  induction h with
  | refl => rfl
  | tail _ hstep ih =>
    subst ih
    exact hstays _ hstep

theorem entry_of_cycle (hc : entry m c = some b) (hb : Reaches m b c) (h : Reaches m c t) :
    entry m t ≠ none := by
  have hback : Reaches m t c := by
    induction h with
    | refl => exact ReflTransGen.refl
    | @tail x y _ hstep ih =>
      rcases ih.cases_head with rfl | ⟨z, hz, hrest⟩
      · rwa [← some.inj (hc.symm.trans hstep)]
      · rwa [← some.inj (hz.symm.trans hstep)]
  rcases hback.cases_head with rfl | ⟨z, hz, -⟩
  · rw [hc]
    exact nofun
  · rw [hz]
    exact nofun

/-! ## The two walks -/

theorem walk_none (h : mappedModel base m c = none) : walk base m visited c = .ok c := by
  rw [walk]
  split
  · rfl
  · next hsome => cases h.symm.trans hsome

theorem walk_some (h : mappedModel base m c = some b) :
    walk base m visited c =
      if b ∈ visited then if b = c then .ok c else .error .containsCycle
      else walk base m (b :: visited) b := by
  rw [walk]
  split
  · next hnone => cases h.symm.trans hnone
  · next hsome =>
    cases h.symm.trans hsome
    rfl

/-- A walk ends where it is, or at a name it had not visited. -/
theorem walk_ok_new (h : walk base m visited c = .ok t) : t = c ∨ t ∉ visited := by
  fun_induction walk base m visited c with
  | case1 | case2 => exact Or.inl (Except.ok.inj h).symm
  | case3 => cases h
  | case4 visited c mapped _ hnew ih =>
    rcases ih h with rfl | hout
    · exact Or.inr hnew
    · exact Or.inr fun hmem => hout (mem_cons_of_mem _ hmem)

/-- **A cycle of own entries is a cycle of both walks**, and the chain does not end. -/
theorem walk_cycle {e : MappingError} (hvisited : ∀ v ∈ visited, Reaches m v c)
    (h : walk id m visited c = .error e) :
    walk base m visited c = .error e ∧ ∀ t, Reaches m c t → entry m t ≠ none := by
  fun_induction walk id m visited c with
  | case1 | case2 => cases h
  | case3 visited c mapped hmapped hold hne =>
    rw [mappedModel_id] at hmapped
    rw [walk_some (mappedModel_of_entry hmapped), if_pos hold, if_neg hne]
    exact ⟨h, fun t => entry_of_cycle hmapped (hvisited _ hold)⟩
  | case4 visited c mapped hmapped hnew ih =>
    rw [mappedModel_id] at hmapped
    have hvisited' : ∀ v ∈ mapped :: visited, Reaches m v mapped := by
      intro v hv
      rcases mem_cons.1 hv with rfl | hv
      · exact ReflTransGen.refl
      · exact (hvisited v hv).tail hmapped
    obtain ⟨hwalk, hends⟩ := ih hvisited' h
    rw [walk_some (mappedModel_of_entry hmapped), if_neg hnew]
    refine ⟨hwalk, fun t ht => ?_⟩
    rcases ht.cases_head with rfl | ⟨z, hz, hrest⟩
    · rw [hmapped]
      exact nofun
    · exact hends t (some.inj (hmapped.symm.trans hz) ▸ hrest)

/-- **Where the chain of own entries ends**, the other walk ends too, unless the base leads on. -/
theorem walk_tail (hcurrent : c ∈ visited) (h : walk id m visited c = .ok t) :
    Reaches m c t ∧ (∀ b ∈ entry m t, b = t) ∧
      (walk base m visited c = .ok t ↔ Quiet base m t) := by
  fun_induction walk id m visited c with
  | case1 visited c hnone =>
    obtain rfl := Except.ok.inj h
    rw [mappedModel_id] at hnone
    refine ⟨ReflTransGen.refl, by simp [hnone], ?_⟩
    cases hbase : mappedModel base m c with
    | none => exact iff_of_true (walk_none hbase) (by simp [Quiet, hbase])
    | some b =>
      rw [walk_some hbase, Quiet, hbase]
      by_cases hself : b = c
      · subst hself
        exact iff_of_true (by simp [hcurrent]) (by simp)
      · refine iff_of_false (fun hwalk => ?_) fun hquiet => hself (hquiet b rfl)
        split_ifs at hwalk
        rcases walk_ok_new hwalk with rfl | hout
        · exact hself rfl
        · exact hout (mem_cons_of_mem _ hcurrent)
  | case2 visited c hold hmapped =>
    obtain rfl := Except.ok.inj h
    rw [mappedModel_id] at hmapped
    have hbase : mappedModel base m c = some c := mappedModel_of_entry hmapped
    refine ⟨ReflTransGen.refl, by simp [hmapped], iff_of_true ?_ (by simp [Quiet, hbase])⟩
    rw [walk_some hbase, if_pos hold, if_pos rfl]
  | case3 => cases h
  | case4 visited c mapped hmapped hnew ih =>
    rw [mappedModel_id] at hmapped
    obtain ⟨hreach, hstays, hiff⟩ := ih mem_cons_self h
    rw [walk_some (mappedModel_of_entry hmapped), if_neg hnew]
    exact ⟨hreach.head hmapped, hstays, hiff⟩

theorem quiet_of_walk (h : walk base m visited c = .ok t) : Quiet base m t := by
  fun_induction walk base m visited c with
  | case1 visited c hnone =>
    obtain rfl := Except.ok.inj h
    simp [Quiet, hnone]
  | case2 visited c hold hmapped =>
    obtain rfl := Except.ok.inj h
    simp [Quiet, hmapped]
  | case3 => cases h
  | case4 visited c mapped _ _ ih => exact ih h

theorem Quiet.walk_eq (h : Quiet base m t) : walk base m [t] t = .ok t := by
  cases hmapped : mappedModel base m t with
  | none => exact walk_none hmapped
  | some b => rw [walk_some hmapped, h b hmapped, if_pos (mem_singleton.2 rfl), if_pos rfl]

end

/-- **A task alias follows the mapping as its requests do** when, at every name without an entry
that the entries lead to, the entry of its base is missing too or is that name. -/
theorem mapping_agrees_iff (S : Reasoning.NameSettings) (m : ModelMap) (start : String) :
    ((∀ t, followChannelModelMapping m start = (t, false) ↔
        modelMappedHelper S m start start = .ok t) ∧
      ((followChannelModelMapping m start).2 = true ↔
        modelMappedHelper S m start start = .error .containsCycle)) ↔
      ∀ t, Reaches m start t → entry m t = none → Quiet (baseModelName S) m t := by
  have hhelper : modelMappedHelper S m start start = walk (baseModelName S) m [start] start := by
    unfold modelMappedHelper
    cases walk (baseModelName S) m [start] start with
    | error e => rfl
    | ok t =>
      rw [Except.map]
      split_ifs with hne
      · rfl
      · rw [not_not.1 hne]
  rw [hhelper, followChannelModelMapping]
  cases hfollow : walk id m [start] start with
  | error e =>
    have hvisited : ∀ v ∈ [start], Reaches m v start := fun v hv =>
      mem_singleton.1 hv ▸ ReflTransGen.refl
    obtain ⟨hwalk, hends⟩ := walk_cycle hvisited hfollow
    rw [hwalk]
    refine iff_of_true ⟨fun t => ?_, ?_⟩ fun t ht hnone => absurd hnone (hends t ht)
    · simp
    · cases e
      simp
  | ok t =>
    obtain ⟨hreach, hstays, hiff⟩ :=
      @walk_tail (baseModelName S) m [start] start t mem_cons_self hfollow
    have hclaim : (∀ u, (t, false) = (u, false) ↔ walk (baseModelName S) m [start] start = .ok u) ∧
        ((t, false).2 = true ↔ walk (baseModelName S) m [start] start = .error .containsCycle) ↔
        walk (baseModelName S) m [start] start = .ok t := by
      constructor
      · exact fun h => (h.1 t).1 rfl
      · intro h
        rw [h]
        simp
    rw [hclaim, hiff]
    constructor
    · intro hquiet u hu hnone
      rcases ReflTransGen.total_of_right_unique
        (fun _ _ _ h h' => some.inj (h.symm.trans h')) hreach hu with htu | hut
      · rwa [Reaches.eq_of_stays htu hstays]
      · rwa [← Reaches.eq_of_stays hut (by simp [hnone])]
    · intro h
      cases hentry : entry m t with
      | none => exact h t hreach hentry
      | some b =>
        intro mapped hmapped
        rw [mappedModel_of_entry hentry] at hmapped
        exact some.inj hmapped ▸ hstays b hentry

/-- **The base of `gpt-5-high` has an entry**: a request for `a` is sent as `c`, the walk for task
aliases stops at `gpt-5-high`. -/
theorem base_entry_passed_over :
    followChannelModelMapping [("a", "gpt-5-high"), ("gpt-5", "c")] "a" = ("gpt-5-high", false) ∧
      modelMappedHelper {} [("a", "gpt-5-high"), ("gpt-5", "c")] "a" "a" = .ok "c" := by
  constructor
  · rw [followChannelModelMapping, walk_some (b := "gpt-5-high") (by decide +kernel),
      if_neg (by decide), walk_none (by decide +kernel)]
  · rw [modelMappedHelper, walk_some (b := "gpt-5-high") (by decide +kernel), if_neg (by decide),
      walk_some (b := "c") (by decide +kernel), if_neg (by decide), walk_none (by decide +kernel)]
    rfl

/-- **A name that was mapped is mapped to itself**, by both functions. -/
theorem mapping_settles (S : Reasoning.NameSettings) (m : ModelMap) (start : String) :
    (∀ t, followChannelModelMapping m start = (t, false) →
      followChannelModelMapping m t = (t, false)) ∧
    ∀ t, modelMappedHelper S m start start = .ok t → modelMappedHelper S m t t = .ok t := by
  constructor
  · intro t h
    unfold followChannelModelMapping at h ⊢
    cases hwalk : walk id m [start] start with
    | error e => simp [hwalk] at h
    | ok u =>
      obtain rfl : u = t := by simpa [hwalk] using h
      rw [(quiet_of_walk hwalk).walk_eq]
  · intro t h
    unfold modelMappedHelper at h ⊢
    cases hwalk : walk (baseModelName S) m [start] start with
    | error e => simp [hwalk, Except.map] at h
    | ok u =>
      have hu : u = t := by
        rw [hwalk, Except.map] at h
        split_ifs at h with hne
        · exact Except.ok.inj h
        · exact (not_not.1 hne).trans (Except.ok.inj h)
      rw [← hu, (quiet_of_walk hwalk).walk_eq, Except.map, ite_self]

end ModelMapping
