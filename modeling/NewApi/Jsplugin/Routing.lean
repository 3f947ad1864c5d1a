import NewApi.Machinery.Greedy
import Mathlib.Data.List.Flatten
import Mathlib.Data.List.Pairwise
import Mathlib.Data.List.Sort
import Mathlib.Data.String.Basic

/-!
# Jsplugin/Routing — which plugins a routing generation admits

`buildRoutingGenerationFromPlugins` (`pkg/jsplugin/routing.go`) enters the models, channel types,
routes and protocol bindings of plugins into indexes and fails at the first conflict.
`buildRoutingGenerationAdmitting` tries the candidates one by one: those the current generation
routes, their new versions, the new ones; then the current versions of what it has rejected.

* `builds_iff` — plugins build when no two of their entries conflict.
* `admitting_preserves` — what the admitted generation contains.
* `preflight_foretells` — the check of an upload against the reload.
-/

namespace Jsplugin

open Greedy List Option

/-- A place in one of the indexes of a generation. -/
inductive Slot where
  | canonicalModelByFold (folded : String)
  | byChannelType (channelType : ℤ)
  | routeIndex (key : String)
  | protocolIndex (key : String)
  deriving DecidableEq

/-- What a plugin wants to enter: several may share a model or a binding of one protocol, and no
two a channel type or a route. -/
structure Entry where
  /-- None for a route whose path has no shape. -/
  slot : Option Slot
  shared : Option String := none
  deriving DecidableEq

/-- A compiled plugin; `id` tells two of the same contents apart. -/
structure LoadedPlugin where
  id : ℕ
  key : String
  models : List String := []
  channelTypes : List ℤ := []
  /-- Methods and paths. -/
  routes : List (String × String) := []
  /-- Names, and the models they are restricted to. -/
  protocols : List (String × List String) := []
  deriving DecidableEq

/-- The shapes of paths, and the methods and paths of a host protocol's operations with a model. -/
structure Host where
  routePathShape : String → Option String
  operations : String → List (String × String)

/-- Lower case of ASCII letters. -/
def asciiFold (s : String) : String :=
  String.ofList (s.toList.map fun c => if 'A' ≤ c ∧ c ≤ 'Z' then Char.ofNat (c.toNat + 32) else c)

/-- The channel type that plugins share. -/
def channelTypeTaskPlugin : ℤ := 61

/-- The key of an endpoint in the index. -/
def endpointIndexKey (method path model : String) : String :=
  method ++ "\x00" ++ path ++ "\x00" ++ model

section Build

variable (H : Host)

/-- The entries of a plugin, in the order they are made. -/
def LoadedPlugin.entries (p : LoadedPlugin) : List Entry :=
  (p.models.map fun model => ⟨some (.canonicalModelByFold (asciiFold model)), some model⟩) ++
  ((p.channelTypes.filter fun t => t ≠ 0 ∧ t ≠ channelTypeTaskPlugin).map fun t =>
    ⟨some (.byChannelType t), none⟩) ++
  (p.routes.map fun route =>
    ⟨(H.routePathShape route.2).map fun shape => .routeIndex (route.1 ++ " " ++ shape), none⟩) ++
  p.protocols.flatMap fun claim =>
    let boundModels := if claim.2 = [] then p.models else claim.2
    (H.operations claim.1).flatMap fun operation =>
      boundModels.map fun model =>
        ⟨some (.protocolIndex (endpointIndexKey operation.1 operation.2 model)), some claim.1⟩

/-- One entry: it fails where its slot is taken, unless both share it. -/
def enter (index : List Entry) (e : Entry) : Option (List Entry) :=
  match e.slot with
  | none => none
  | some _ =>
    match index.find? (·.slot = e.slot) with
    | none => some (index ++ [e])
    | some other =>
      if e.shared.isSome ∧ e.shared = other.shared then some (index ++ [e]) else none

/-- The order of plugins. -/
def byKey (a b : LoadedPlugin) : Prop := a.key ≤ b.key

instance : DecidableRel byKey := fun a b => inferInstanceAs (Decidable (a.key ≤ b.key))

/-- `buildRoutingGenerationFromPlugins`: the indexes, where nothing conflicts. -/
def buildRoutingGenerationFromPlugins (effective : List LoadedPlugin) : Option (List Entry) :=
  ((effective.insertionSort byKey).flatMap (·.entries H)).foldlM enter []

/-- The plugins make a routing generation together. -/
def builds (effective : List LoadedPlugin) : Bool :=
  (buildRoutingGenerationFromPlugins H effective).isSome

/-- `effectivePlugins`: an override takes the place of a factory plugin of its key. -/
def effectivePlugins (factory override : List LoadedPlugin) : List LoadedPlugin :=
  factory.filter (fun p => p.key ∉ override.map LoadedPlugin.key) ++ override

variable (current : List LoadedPlugin)

/-- The plugin that serves a key now. -/
def incumbent (key : String) : Option LoadedPlugin := current.find? (·.key = key)

/-- `orderedKeys`: the unchanged candidates, those that changed, the new ones, each by key. -/
def orderedCandidates (candidates : List LoadedPlugin) : List LoadedPlugin :=
  (candidates.filter fun c => incumbent current c.key = some c).insertionSort byKey ++
  (candidates.filter fun c => (incumbent current c.key).isSome ∧
    incumbent current c.key ≠ some c).insertionSort byKey ++
  (candidates.filter fun c => (incumbent current c.key).isNone).insertionSort byKey

/-- `buildRoutingGenerationAdmitting`: the plugins of the generation it builds. -/
def buildRoutingGenerationAdmitting (factory override : List LoadedPlugin)
    (retainCurrent : List String) : List LoadedPlugin :=
  let ordered := orderedCandidates current (effectivePlugins factory override)
  let accepted := Greedy.admitAll (builds H) [] ordered
  let rejected := ordered.filter (· ∉ accepted)
  -- An unchanged candidate that was rejected is not tried again.
  Greedy.admitAll (builds H) accepted (rejected.filterMap fun candidate =>
    if candidate.key ∈ retainCurrent ∧ incumbent current candidate.key ≠ some candidate then
      incumbent current candidate.key
    else none)

end Build

/-! ## Conflicts are between two entries -/

/-- Two entries that can stand together. -/
def Compatible (a b : Entry) : Prop := a.slot = b.slot → a.shared.isSome ∧ a.shared = b.shared

/-- No two entries claim the same. -/
structure ConflictFree (entries : List Entry) : Prop where
  valid : ∀ e ∈ entries, e.slot.isSome
  compatible : entries.Pairwise Compatible

theorem Compatible.symm {a b : Entry} (h : Compatible a b) : Compatible b a := by
  intro hslot
  obtain ⟨hsome, heq⟩ := h hslot.symm
  exact ⟨heq ▸ hsome, heq.symm⟩

instance : Std.Symm Compatible := ⟨fun _ _ => Compatible.symm⟩

theorem enter_eq_some_iff {index index' : List Entry} {e : Entry} (h : ConflictFree index) :
    enter index e = some index' ↔
      index' = index ++ [e] ∧ e.slot.isSome ∧ ∀ a ∈ index, Compatible a e := by
  unfold enter
  split
  · rename_i hslot
    simp [hslot]
  rename_i slot hslot
  split
  · rename_i hfind
    have hnone : ∀ a ∈ index, Compatible a e := by
      intro a ha heq
      exact absurd heq (by simpa using find?_eq_none.1 hfind a ha)
    exact ⟨fun hc => ⟨(some.inj hc).symm, by rw [hslot]; rfl, hnone⟩, fun hc => by rw [hc.1]⟩
  · rename_i other hfind
    have hother := mem_of_find?_eq_some hfind
    have hsame : other.slot = e.slot := by simpa using find?_some hfind
    split_ifs with hshared
    · have hall : ∀ a ∈ index, Compatible a e := by
        intro a ha heq
        by_cases hao : a = other
        · exact ⟨hao ▸ hshared.2 ▸ hshared.1, hao ▸ hshared.2.symm⟩
        · have hcompat : Compatible a other :=
            h.compatible.forall ha hother hao
          obtain ⟨hsome, hao⟩ := hcompat (heq.trans hsame.symm)
          exact ⟨hsome, hao.trans hshared.2.symm⟩
      exact ⟨fun hc => ⟨(some.inj hc).symm, by rw [hslot]; rfl, hall⟩,
        fun hc => by rw [hc.1]⟩
    · refine iff_of_false nofun fun hc => hshared ?_
      obtain ⟨hsome, heq⟩ := hc.2.2 other hother hsame
      exact ⟨heq ▸ hsome, heq.symm⟩

theorem foldlM_enter_isSome_iff {index entries : List Entry} (h : ConflictFree index) :
    (entries.foldlM enter index).isSome ↔ ConflictFree (index ++ entries) := by
  induction entries generalizing index with
  | nil => simpa using h
  | cons e entries ih =>
    rw [foldlM_cons, append_cons]
    have hstep : ConflictFree (index ++ [e]) ↔
        e.slot.isSome ∧ ∀ a ∈ index, Compatible a e := by
      constructor
      · intro hc
        exact ⟨hc.valid e (by simp), fun a ha =>
          (pairwise_append.1 hc.compatible).2.2 a ha e (by simp)⟩
      · rintro ⟨hvalid, hcompat⟩
        refine ⟨forall_mem_append.2 ⟨h.valid, by simpa using hvalid⟩, ?_⟩
        exact pairwise_append.2 ⟨h.compatible, pairwise_singleton _ _,
          by simpa using hcompat⟩
    cases henter : enter index e with
    | none =>
      refine iff_of_false (by simp) fun hc => ?_
      have hprefix : ConflictFree (index ++ [e]) :=
        ⟨fun a ha => hc.valid a (mem_append_left _ ha),
          (pairwise_append.1 hc.compatible).1⟩
      have hsome := (enter_eq_some_iff h).2 ⟨rfl, hstep.1 hprefix⟩
      rw [henter] at hsome
      cases hsome
    | some index' =>
      obtain ⟨rfl, hok⟩ := (enter_eq_some_iff h).1 henter
      exact ih (hstep.2 hok)

theorem ConflictFree.of_subperm {l l' : List Entry} (h : ConflictFree l') (hsub : l.Subperm l') :
    ConflictFree l := by
  obtain ⟨m, hperm, hm⟩ := hsub
  refine ⟨fun e he => h.valid e (hm.subset (hperm.mem_iff.2 he)), ?_⟩
  exact (hperm.pairwise_iff fun {_ _} => Compatible.symm).1 (h.compatible.sublist hm)

variable {H : Host}

/-- **Plugins build when no two of their entries conflict.** -/
theorem builds_iff {l : List LoadedPlugin} :
    builds H l = true ↔ ConflictFree (l.flatMap (·.entries H)) := by
  have hperm : ((l.insertionSort byKey).flatMap (·.entries H)).Perm (l.flatMap (·.entries H)) :=
    (perm_insertionSort byKey l).flatMap fun _ _ => .refl _
  have hempty : ConflictFree [] := ⟨nofun, .nil⟩
  rw [builds, buildRoutingGenerationFromPlugins, foldlM_enter_isSome_iff hempty, nil_append]
  exact ⟨fun h => h.of_subperm hperm.symm.subperm, fun h => h.of_subperm hperm.subperm⟩

theorem hereditary_builds : Greedy.Hereditary (builds H) := by
  intro l l' hsub h
  obtain ⟨m, hperm, hm⟩ := hsub
  rw [builds_iff] at h ⊢
  have hentries : (m.flatMap (·.entries H)).Perm (l.flatMap (·.entries H)) :=
    hperm.flatMap fun _ _ => .refl _
  exact h.of_subperm (hentries.symm.subperm.trans (hm.flatMap _).subperm)

/-! ## What is admitted -/

/-- Plugins by their keys. -/
structure PluginMap where
  plugins : List LoadedPlugin
  nodup : (plugins.map LoadedPlugin.key).Nodup

/-- The plugins of a generation that could be built. -/
structure Generation (H : Host) extends PluginMap where
  conflictFree : builds H plugins = true

theorem PluginMap.eq_of_key (M : PluginMap) {p q : LoadedPlugin} (hp : p ∈ M.plugins)
    (hq : q ∈ M.plugins) (h : p.key = q.key) : p = q :=
  inj_on_of_nodup_map M.nodup hp hq h

theorem PluginMap.incumbent_eq_some_iff (M : PluginMap) {key : String} {p : LoadedPlugin} :
    incumbent M.plugins key = some p ↔ p ∈ M.plugins ∧ p.key = key := by
  constructor
  · intro h
    exact ⟨mem_of_find?_eq_some h, by simpa using find?_some h⟩
  · rintro ⟨hp, rfl⟩
    cases h : incumbent M.plugins p.key with
    | none => exact absurd (find?_eq_none.1 h p hp) (by simp)
    | some q =>
      have hq := mem_of_find?_eq_some h
      rw [M.eq_of_key hq hp (by simpa using find?_some h)]

/-- The candidates of a generation. -/
def candidates (factory override : PluginMap) : PluginMap where
  plugins := effectivePlugins factory.plugins override.plugins
  nodup := by
    rw [effectivePlugins, List.map_append]
    refine List.Nodup.append ((factory.nodup.sublist (List.filter_sublist.map _))) override.nodup ?_
    intro key hleft hright
    obtain ⟨p, hp, rfl⟩ := List.mem_map.1 hleft
    exact of_decide_eq_true (List.mem_filter.1 hp).2 hright

theorem mem_orderedCandidates {current l : List LoadedPlugin} {c : LoadedPlugin} :
    c ∈ orderedCandidates current l ↔ c ∈ l := by
  simp only [orderedCandidates, mem_append, mem_insertionSort, mem_filter,
    decide_eq_true_iff]
  constructor
  · rintro ((h | h) | h) <;> exact h.1
  · intro hc
    cases h : incumbent current c.key with
    | none => exact .inr ⟨hc, rfl⟩
    | some inc =>
      by_cases heq : inc = c
      · exact .inl (.inl ⟨hc, by rw [heq]⟩)
      · exact .inl (.inr ⟨hc, rfl, fun hcon => heq (some.inj hcon)⟩)

section Admitting

variable (current : Generation H) (factory override : PluginMap) (retainCurrent : List String)

/-- The candidates of the first pass that it accepts. -/
def firstPass : List LoadedPlugin :=
  Greedy.admitAll (builds H) []
    (orderedCandidates current.plugins (candidates factory override).plugins)

/-- The plugins of the admitted generation. -/
def admitted : List LoadedPlugin :=
  buildRoutingGenerationAdmitting H current.plugins factory.plugins override.plugins retainCurrent

theorem builds_nil : builds H [] = true := rfl

theorem firstPass_subset {c : LoadedPlugin} (h : c ∈ firstPass current factory override) :
    c ∈ (candidates factory override).plugins := by
  obtain ⟨added, heq, hsub⟩ := @Greedy.admitAll_extends _ (builds H) []
    (orderedCandidates current.plugins (candidates factory override).plugins)
  rw [firstPass, heq, nil_append] at h
  exact mem_orderedCandidates.1 (hsub.subset h)

/-- **What is routed and unchanged is admitted**, as it comes first. -/
theorem mem_firstPass_of_unchanged {p : LoadedPlugin} (hp : p ∈ current.plugins)
    (hc : p ∈ (candidates factory override).plugins) : p ∈ firstPass current factory override := by
  set unchanged := ((candidates factory override).plugins.filter fun c =>
    incumbent current.plugins c.key = some c).insertionSort byKey with hunchanged
  have hmem : ∀ {c}, c ∈ unchanged ↔ c ∈ (candidates factory override).plugins ∧
      incumbent current.plugins c.key = some c := by
    intro c
    rw [hunchanged, mem_insertionSort, mem_filter, decide_eq_true_iff]
  have hnodup : unchanged.Nodup :=
    (perm_insertionSort byKey _).nodup_iff.2
      ((List.Nodup.of_map _ (candidates factory override).nodup).filter _)
  have hsub : unchanged.Subperm current.plugins := hnodup.subperm fun c h =>
    (current.incumbent_eq_some_iff.1 (hmem.1 h).2).1
  have hall : admitAll (builds H) [] unchanged = unchanged :=
    admitAll_eq_append hereditary_builds (hereditary_builds hsub current.conflictFree)
  rw [firstPass, orderedCandidates, admitAll_append, admitAll_append, ← hunchanged,
    hall]
  refine subset_admitAll (subset_admitAll (hmem.2 ⟨hc, ?_⟩))
  exact current.incumbent_eq_some_iff.2 ⟨hp, rfl⟩

theorem firstPass_sublist_admitted :
    (firstPass current factory override).Sublist
      (admitted current factory override retainCurrent) :=
  sublist_admitAll

/-- A rejected update: its current version is admitted after all, or does not fit. -/
theorem fallback_mem_or {c inc : LoadedPlugin} (hc : c ∈ (candidates factory override).plugins)
    (hretain : c.key ∈ retainCurrent) (hinc : inc ∈ current.plugins) (hkey : inc.key = c.key)
    (hrejected : c ∉ firstPass current factory override) :
    inc ∈ admitted current factory override retainCurrent ∨
      builds H (admitted current factory override retainCurrent ++ [inc]) = false := by
  have hincumbent := current.incumbent_eq_some_iff.2 ⟨hinc, hkey⟩
  have hne : inc ≠ c := by
    rintro rfl
    exact hrejected (mem_firstPass_of_unchanged current factory override hinc hc)
  refine admitAll_mem_or hereditary_builds (mem_filterMap.2 ⟨c, ?_, ?_⟩)
  · exact mem_filter.2 ⟨mem_orderedCandidates.2 hc, decide_eq_true hrejected⟩
  · rw [if_pos ⟨hretain, by rw [hincumbent]; exact fun h => hne (some.inj h)⟩, hincumbent]

/-- **A candidate that is missing conflicts with the others.** -/
theorem missing_conflicts {c : LoadedPlugin} (hc : c ∈ (candidates factory override).plugins)
    (hmissing : c ∉ admitted current factory override retainCurrent) :
    builds H ((admitted current factory override retainCurrent).filter (·.key ≠ c.key) ++ [c]) =
      false := by
  have hsub := firstPass_sublist_admitted current factory override retainCurrent
  have hrejected : c ∉ firstPass current factory override := fun h => hmissing (hsub.subset h)
  have hbad : builds H (firstPass current factory override ++ [c]) = false :=
    (admitAll_mem_or hereditary_builds (mem_orderedCandidates.2 hc)).resolve_left hrejected
  have hkeys : (firstPass current factory override).filter (·.key ≠ c.key) =
      firstPass current factory override := by
    refine filter_eq_self.2 fun p hp => decide_eq_true fun hkey => hrejected ?_
    have hpc := firstPass_subset current factory override hp
    exact (candidates factory override).eq_of_key hpc hc hkey ▸ hp
  refine Bool.eq_false_iff.2 fun h => ?_
  have hfilter := hsub.filter (·.key ≠ c.key)
  rw [hkeys] at hfilter
  have hgood := hereditary_builds (hfilter.append_right [c]).subperm h
  rw [hbad] at hgood
  cases hgood

/-- **Admission keeps what is routed**: the generation it builds has no conflict, contains what is
unchanged, and for a key to be retained its new version, or its current one unless that conflicts;
a candidate that is missing conflicts. -/
theorem admitting_preserves :
    builds H (admitted current factory override retainCurrent) = true ∧
    (∀ p ∈ current.plugins, p ∈ (candidates factory override).plugins →
      p ∈ admitted current factory override retainCurrent) ∧
    (∀ c ∈ (candidates factory override).plugins, c.key ∈ retainCurrent →
      ∀ inc ∈ current.plugins, inc.key = c.key →
        c ∈ admitted current factory override retainCurrent ∨
        inc ∈ admitted current factory override retainCurrent ∨
        builds H (admitted current factory override retainCurrent ++ [inc]) = false) ∧
    ∀ c ∈ (candidates factory override).plugins,
      c ∉ admitted current factory override retainCurrent →
      builds H ((admitted current factory override retainCurrent).filter (·.key ≠ c.key) ++ [c]) =
        false := by
  have hsub := firstPass_sublist_admitted current factory override retainCurrent
  refine ⟨fits_admitAll (fits_admitAll builds_nil), ?_, ?_, ?_⟩
  · intro p hp hc
    exact hsub.subset (mem_firstPass_of_unchanged current factory override hp hc)
  · intro c hc hretain inc hinc hkey
    by_cases h : c ∈ firstPass current factory override
    · exact .inl (hsub.subset h)
    · exact .inr (fallback_mem_or current factory override retainCurrent hc hretain hinc hkey h)
  · intro c hc hmissing
    exact missing_conflicts current factory override retainCurrent hc hmissing

end Admitting

/-! ## An update that frees its place -/

/-- A host without operations. -/
def bareHost : Host where
  routePathShape := some
  operations _ := []

/-- A plugin for a channel type. -/
def channelPlugin (id : ℕ) (key : String) (channelType : ℤ) : LoadedPlugin where
  id := id
  key := key
  channelTypes := [channelType]

/-- Three plugins, each on a channel type of its own. -/
def threePeers : Generation bareHost where
  plugins := [channelPlugin 1 "alpha" 111, channelPlugin 2 "beta" 112, channelPlugin 3 "owner" 113]
  nodup := by decide
  conflictFree := by decide +kernel

/-- Alpha moves to the owner's channel type, and beta to the one alpha leaves. -/
def movedPeers : PluginMap where
  plugins := [channelPlugin 4 "alpha" 113, channelPlugin 5 "beta" 111, channelPlugin 3 "owner" 113]
  nodup := by decide

/-- **A rejected update does not come back ahead of a healthy peer.** -/
theorem rejected_not_restored :
    "alpha" ∈ threePeers.plugins.map LoadedPlugin.key ∧
      admitted threePeers ⟨[], .nil⟩ movedPeers ["alpha", "beta", "owner"] =
        [channelPlugin 3 "owner" 113, channelPlugin 5 "beta" 111] := by
  decide +kernel

theorem admitting_preserves_peers :
    channelPlugin 3 "owner" 113 ∈
      admitted threePeers ⟨[], .nil⟩ movedPeers ["alpha", "beta", "owner"] :=
  (admitting_preserves threePeers ⟨[], .nil⟩ movedPeers ["alpha", "beta", "owner"]).2.1 _
    (by decide) (by decide +kernel)

/-! ## The preflight of an upload -/

/-- `PreflightRoutingConflict`: whether the plugins conflict with the candidate in place of its
key. -/
def preflightRoutingConflict (H : Host) (current : List LoadedPlugin) (candidate : LoadedPlugin) :
    Bool :=
  !builds H (effectivePlugins current [candidate])

theorem orderedCandidates_perm {current l : List LoadedPlugin} :
    (orderedCandidates current l).Perm l := by
  refine (((perm_insertionSort byKey _).append (perm_insertionSort byKey _)).append
    (perm_insertionSort byKey _)).trans ?_
  induction l with
  | nil => rfl
  | cons c l ih =>
    cases h : incumbent current c.key with
    | none => simpa [filter_cons, h] using perm_middle.trans (ih.cons c)
    | some inc =>
      by_cases heq : inc = c
      · simpa [filter_cons, h, heq] using ih
      · simpa [filter_cons, h, heq] using perm_middle.trans (by simpa using ih.cons c)

/-- **The preflight foretells the reload** when the candidate is all that changes: without a
conflict it is admitted, with one it is not, and the other plugins stay either way. -/
theorem preflight_foretells {H : Host} (current : Generation H) (factory override : PluginMap)
    (retainCurrent : List String) {candidate : LoadedPlugin}
    (hchange : (candidates factory override).plugins.Perm
      (effectivePlugins current.plugins [candidate])) :
    (candidate ∈ admitted current factory override retainCurrent ↔
      preflightRoutingConflict H current.plugins candidate = false) ∧
    ∀ p ∈ current.plugins, p.key ≠ candidate.key →
      p ∈ admitted current factory override retainCurrent := by
  have hsub := firstPass_sublist_admitted current factory override retainCurrent
  have hothers : ∀ p ∈ current.plugins, p.key ≠ candidate.key →
      p ∈ admitted current factory override retainCurrent := by
    intro p hp hkey
    refine hsub.subset (mem_firstPass_of_unchanged _ _ _ hp (hchange.mem_iff.2 ?_))
    exact mem_append_left _ (mem_filter.2 ⟨hp, by simpa using hkey⟩)
  refine ⟨?_, hothers⟩
  rw [preflightRoutingConflict, Bool.not_eq_false']
  constructor
  · intro hin
    have hfits : builds H (admitted current factory override retainCurrent) = true :=
      fits_admitAll (fits_admitAll builds_nil)
    have hnodup := hchange.nodup_iff.1 (Nodup.of_map _ (candidates factory override).nodup)
    refine hereditary_builds (hnodup.subperm fun c hc => ?_) hfits
    rcases mem_append.1 hc with hc | hc
    · obtain ⟨hc, hkey⟩ := mem_filter.1 hc
      exact hothers c hc (by simpa using hkey)
    · exact mem_singleton.1 hc ▸ hin
  · intro hbuilds
    have hall : builds H ([] ++ orderedCandidates current.plugins
        (candidates factory override).plugins) = true :=
      hereditary_builds (orderedCandidates_perm.trans hchange).subperm hbuilds
    refine hsub.subset ?_
    rw [firstPass, admitAll_eq_append hereditary_builds hall]
    exact mem_orderedCandidates.2 (hchange.mem_iff.2 (mem_append_right _ (mem_singleton.2 rfl)))

theorem preflight_foretells_moved :
    channelPlugin 4 "alpha" 114 ∈
      admitted threePeers threePeers.toPluginMap ⟨[channelPlugin 4 "alpha" 114], by simp⟩ [] :=
  (preflight_foretells threePeers _ ⟨_, by simp⟩ [] (.refl _)).1.2 (by decide +kernel)

end Jsplugin
