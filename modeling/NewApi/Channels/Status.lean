import NewApi.Channels.Keys
import NewApi.Channels.Select
import NewApi.Machinery.Runs

/-!
# Channels/Status — the cache and the table under status changes

`UpdateChannelStatus` (`model/channel.go`) changes the status of a channel, or of one of its keys,
in the cache and then in the table.  A fresh cache mirrors the table: the statuses are the stored
ones, and the routing index lists the enabled channels.

* `mirrors_init` — a fresh cache mirrors the table.
* `Mirrors.step` — so does the cache after a call that is written to both and does not turn a
  channel on.
* `status_changes_mirrored` — …and after any number of them.
-/

namespace Channels

open List ChannelTable Table Function Option

/-- A change of status, of a channel or of one of its keys. -/
structure StatusCall where
  channelId : ℕ
  usingKey : String := ""
  status : ChannelStatus
  reason : String := ""
  /-- `common.GetTimestamp()`. -/
  now : ℤ := 0

/-- The channel table and the cache. -/
structure StatusState where
  table : ChannelTable
  cache : ChannelCache

/-- A channel of the cache is changed in place. -/
def ChannelCache.put (cache : ChannelCache) (id : ℕ) (c : Channel) : ChannelCache :=
  { cache with channelsIDM := Function.update cache.channelsIDM id (some c) }

/-- The loop of `CacheUpdateChannelStatus`: one entry of every list is removed. -/
def ChannelCache.unlist (cache : ChannelCache) (id : ℕ) : ChannelCache :=
  { cache with
    group2model2channels := fun group model => (cache.group2model2channels group model).erase id }

/-- The status is changed in memory. -/
def cacheUpdateChannelStatus (cache : ChannelCache) (id : ℕ) (status : ChannelStatus) :
    ChannelCache :=
  let cache :=
    match cache.channelsIDM id with
    | none => cache
    | some c => cache.put id { c with status }
  if status = .enabled then cache else cache.unlist id

/-- A manual operation replaces the reason of a channel that ran out of keys. -/
def overridesKeyExhaustion (c : Channel) (call : StatusCall) : Prop :=
  c.channelInfo.isMultiKey ∧ call.usingKey = "" ∧ call.status = .manuallyDisabled ∧
    call.reason ≠ allKeysDisabled ∧ c.statusReason = some allKeysDisabled

instance (c : Channel) (call : StatusCall) : Decidable (overridesKeyExhaustion c call) :=
  inferInstanceAs (Decidable (_ ∧ _ ∧ _ ∧ _ ∧ _))

/-- What a call makes of a row. -/
def StatusCall.row (parseArray : ArrayParser) (call : StatusCall) (c : Channel) : Channel :=
  if c.channelInfo.isMultiKey then
    handlerMultiKeyUpdate parseArray c call.usingKey call.status call.reason call.now
  else { c with status := call.status, statusReason := some call.reason }

/-- The part of `UpdateChannelStatus` on the table. -/
def storeChannelStatus (parseArray : ArrayParser) (s : StatusState) (call : StatusCall) :
    StatusState :=
  match s.table.find? call.channelId with
  | none => s
  | some c =>
    if c.status = call.status ∧ ¬overridesKeyExhaustion c call then s
    else { s with table := s.table.save (call.row parseArray c) }

/-- `UpdateChannelStatus` with the memory cache. -/
def updateChannelStatus (parseArray : ArrayParser) (s : StatusState) (call : StatusCall) :
    StatusState :=
  match s.cache.channelsIDM call.channelId with
  | none => s
  | some cached =>
    if cached.channelInfo.isMultiKey then
      let changed := handlerMultiKeyUpdate parseArray cached call.usingKey call.status call.reason
        call.now
      let cache := s.cache.put call.channelId changed
      storeChannelStatus parseArray
        { s with
          cache :=
            if cached.status = changed.status then cache
            else cacheUpdateChannelStatus cache call.channelId changed.status }
        call
    else if cached.status = call.status then s
    else
      storeChannelStatus parseArray
        { s with cache := cacheUpdateChannelStatus s.cache call.channelId call.status } call

/-! ## The mirror -/

/-- The priority the index is sorted by. -/
def ChannelTable.priorityOf (t : ChannelTable) (id : ℕ) : ℤ :=
  ((t.find? id).map Channel.getPriority).getD 0

/-- **The cache mirrors the table**: the statuses of the channels and their keys are the stored
ones, and the index lists what a fresh one would, by priority. -/
structure Mirrors (s : StatusState) : Prop where
  channels : ∀ id, Option.Rel SameStatus (s.cache.channelsIDM id) (s.table.find? id)
  index : ∀ group model, (s.cache.group2model2channels group model).Perm
    ((initChannelCache s.table).group2model2channels group model)
  sorted : ∀ group model, (s.cache.group2model2channels group model).Pairwise
    fun i j => s.table.priorityOf j ≤ s.table.priorityOf i

theorem mirrors_init (t : ChannelTable) : Mirrors ⟨t, initChannelCache t⟩ where
  channels id := by
    change Option.Rel SameStatus (t.find? id) (t.find? id)
    cases t.find? id with
    | none => exact .none
    | some c => exact .some (SameStatus.refl c)
  index _ _ := List.Perm.refl _
  sorted group model := by
    have hsorted := @List.pairwise_mergeSort ℕ
      (fun i j => decide (t.priorityOf j ≤ t.priorityOf i))
      (fun i j k hij hjk => decide_eq_true
        ((of_decide_eq_true hjk).trans (of_decide_eq_true hij)))
      (fun i j => by simpa using le_total (t.priorityOf j) (t.priorityOf i))
      (t.rows.flatMap fun c => c.entries group model)
    exact hsorted.imp fun h => of_decide_eq_true h

/-! ## The index after a change of status -/

section

variable {t : ChannelTable} {c d : Channel} {group model : String}

theorem eq_of_mem_entries {id : ℕ} (h : id ∈ c.entries group model) : id = c.id := by
  unfold Channel.entries at h
  split_ifs at h
  · obtain ⟨_, -, hmem⟩ := mem_flatMap.1 h
    obtain ⟨_, -, heq⟩ := mem_map.1 hmem
    exact heq.symm
  · cases h

/-- The entries of a table, not sorted yet. -/
def ChannelTable.entries (t : ChannelTable) (group model : String) : List ℕ :=
  t.rows.flatMap fun c => c.entries group model

theorem group2model2channels_perm : ((initChannelCache t).group2model2channels group model).Perm
    (t.entries group model) := List.mergeSort_perm _ _

theorem entries_save_of_eq (hd : t.find? c.id = some d)
    (h : c.entries group model = d.entries group model) :
    entries (t.save c) group model = t.entries group model := by
  unfold entries save
  rw [rows_update, flatMap_map]
  refine flatMap_congr fun a ha => ?_
  split_ifs with hid
  · have hfind := find?_of_mem ha
    rw [hid, hd] at hfind
    rw [h, some.inj hfind]
  · rfl

/-- A row that loses its entries is taken out of the index. -/
theorem entries_save_of_nil (h : c.entries group model = []) :
    entries (t.save c) group model =
      (t.entries group model).filter (· ≠ c.id) := by
  unfold entries save
  rw [rows_update, flatMap_map, filter_flatMap]
  refine flatMap_congr fun a ha => ?_
  split_ifs with hid
  · rw [h, eq_comm, filter_eq_nil_iff]
    intro id hmem
    rw [eq_of_mem_entries hmem, hid]
    simp
  · rw [eq_comm, filter_eq_self]
    intro id hmem
    rw [eq_of_mem_entries hmem]
    exact decide_eq_true hid

/-- The entries of a channel in the index are its own. -/
theorem count_entries (hd : d ∈ t.rows) :
    (t.entries group model).count d.id = (d.entries group model).length := by
  obtain ⟨before, after, hrows⟩ := List.append_of_mem hd
  have hnodup := t.nodup
  rw [hrows, map_append, map_cons, nodup_middle, nodup_cons,
    mem_append, not_or] at hnodup
  have hzero : ∀ rows : List Channel, d.id ∉ rows.map Channel.id →
      (rows.flatMap fun c => c.entries group model).count d.id = 0 := by
    intro rows hnot
    refine count_eq_zero.2 fun hmem => ?_
    obtain ⟨a, ha, hentry⟩ := mem_flatMap.1 hmem
    exact hnot (mem_map.2 ⟨a, ha, (eq_of_mem_entries hentry).symm⟩)
  have hown : (d.entries group model).count d.id = (d.entries group model).length :=
    count_eq_length.2 fun id hid => (eq_of_mem_entries hid).symm
  rw [entries, hrows, flatMap_append, flatMap_cons, count_append,
    count_append, hzero before hnodup.1.1, hzero after hnodup.1.2, hown]
  omega

/-- One entry removed is all of them where there is one. -/
theorem erase_eq_filter {l : List ℕ} {id : ℕ} (h : l.count id ≤ 1) :
    l.erase id = l.filter (· ≠ id) := by
  induction l with
  | nil => rfl
  | cons a l ih =>
    by_cases ha : a = id
    · subst ha
      rw [List.count_cons_self] at h
      have hnot : a ∉ l := count_eq_zero.1 (by omega)
      rw [erase_cons_head, filter_cons_of_neg (by simp), eq_comm, filter_eq_self]
      intro b hb
      exact decide_eq_true fun heq => hnot (heq ▸ hb)
    · rw [List.count_cons_of_ne ha] at h
      rw [erase_cons_tail (by simpa using ha), filter_cons_of_pos (by simpa using ha),
        ih h]

theorem entries_congr (h : SameListing c d) (hstatus : c.status = d.status) :
    c.entries group model = d.entries group model := by
  rw [Channel.entries, Channel.entries, Channel.groups, Channel.groups, Channel.getModels,
    Channel.getModels, hstatus, h.group, h.models, h.id]

theorem entries_of_getModels (h : d.getModels = []) : d.entries group model = [] := by
  unfold Channel.entries
  split_ifs
  · rw [h, filter_nil, map_nil, flatMap_eq_nil_iff]
    exact fun _ _ => rfl
  · rfl

theorem priorityOf_save (hd : t.find? c.id = some d) (h : SameListing c d) (id : ℕ) :
    priorityOf (t.save c) id = t.priorityOf id := by
  unfold priorityOf
  rw [find?_save]
  split_ifs with hid
  · rw [hid, hd, map_some, map_some, map_some, Channel.getPriority,
      Channel.getPriority, h.priority]
  · rfl

end

/-! ## What a call does -/

section

variable {parseArray : ArrayParser} {call : StatusCall} {s : StatusState} {c d : Channel}

theorem StatusCall.row_congr (h : SameStatus c d) :
    SameStatus (call.row parseArray c) (call.row parseArray d) := by
  unfold StatusCall.row
  rw [h.isMultiKey]
  split_ifs
  · exact handlerMultiKeyUpdate_congr h
  · exact ⟨rfl, h.statusList, h.isMultiKey, h.key⟩

theorem StatusCall.row_listing : SameListing (call.row parseArray c) c := by
  unfold StatusCall.row
  split_ifs
  · exact handlerMultiKeyUpdate_listing
  · exact ⟨rfl, rfl, rfl, rfl⟩

theorem table_storeChannelStatus (hd : s.table.find? call.channelId = some d) :
    (storeChannelStatus parseArray s call).table =
      if d.status = call.status ∧ ¬overridesKeyExhaustion d call then s.table
      else s.table.save (call.row parseArray d) := by
  unfold storeChannelStatus
  rw [hd]
  dsimp only
  split_ifs
  · rfl
  · rfl

theorem cache_storeChannelStatus : (storeChannelStatus parseArray s call).cache = s.cache := by
  unfold storeChannelStatus
  split
  · rfl
  · split_ifs <;> rfl

variable {cache : ChannelCache} {id : ℕ}

theorem put_self (hc : cache.channelsIDM id = some c) : cache.put id c = cache := by
  rw [ChannelCache.put, ← hc, update_eq_self]

theorem cacheUpdateChannelStatus_put :
    cacheUpdateChannelStatus (cache.put id c) id c.status =
      if c.status = .enabled then cache.put id c else (cache.put id c).unlist id := by
  have hfound : (cache.put id c).channelsIDM id = some c := update_self ..
  unfold cacheUpdateChannelStatus
  rw [hfound]
  dsimp only
  rw [put_self hfound]

theorem cacheUpdateChannelStatus_of_some {status : ChannelStatus}
    (hc : cache.channelsIDM id = some c) :
    cacheUpdateChannelStatus cache id status =
      if status = .enabled then cache.put id { c with status }
      else (cache.put id { c with status }).unlist id := by
  unfold cacheUpdateChannelStatus
  rw [hc]

/-- **What a call does to the cache**: the statuses of the channel are those the call asks for, and
a channel that is switched off leaves the index. -/
theorem cache_updateChannelStatus (hc : s.cache.channelsIDM call.channelId = some c) :
    ∃ c', SameStatus c' (call.row parseArray c) ∧
      (updateChannelStatus parseArray s call).cache =
        if c'.status = c.status ∨ c'.status = .enabled then s.cache.put call.channelId c'
        else (s.cache.put call.channelId c').unlist call.channelId := by
  unfold updateChannelStatus StatusCall.row
  rw [hc]
  dsimp only
  by_cases hmulti : c.channelInfo.isMultiKey
  · rw [if_pos hmulti, if_pos hmulti, cache_storeChannelStatus]
    generalize handlerMultiKeyUpdate parseArray c call.usingKey call.status call.reason call.now =
      c'
    refine ⟨c', SameStatus.refl c', ?_⟩
    by_cases heq : c.status = c'.status
    · rw [if_pos heq, if_pos (Or.inl heq.symm)]
    · rw [if_neg heq, cacheUpdateChannelStatus_put]
      simp only [Ne.symm heq, false_or]
  · rw [if_neg hmulti, if_neg hmulti]
    by_cases heq : c.status = call.status
    · refine ⟨c, ⟨heq, rfl, rfl, rfl⟩, ?_⟩
      rw [if_pos heq, if_pos (Or.inl rfl), put_self hc]
    · refine ⟨{ c with status := call.status }, ⟨rfl, rfl, rfl, rfl⟩, ?_⟩
      rw [if_neg heq, cache_storeChannelStatus, cacheUpdateChannelStatus_of_some hc]
      simp only [Ne.symm heq, false_or]

/-- …and to the table: nothing where the channel has the status already. -/
theorem table_updateChannelStatus (hc : s.cache.channelsIDM call.channelId = some c)
    (hd : s.table.find? call.channelId = some d) (hsame : SameStatus c d) :
    (updateChannelStatus parseArray s call).table =
      if d.status = call.status ∧ ¬overridesKeyExhaustion d call then s.table
      else s.table.save (call.row parseArray d) := by
  unfold updateChannelStatus
  rw [hc]
  dsimp only
  by_cases hmulti : c.channelInfo.isMultiKey
  · rw [if_pos hmulti]
    exact table_storeChannelStatus hd
  · rw [if_neg hmulti]
    by_cases heq : c.status = call.status
    · have hskip : d.status = call.status ∧ ¬overridesKeyExhaustion d call := by
        refine ⟨hsame.status ▸ heq, fun h => hmulti ?_⟩
        rw [hsame.isMultiKey]
        exact h.1
      rw [if_pos heq, if_pos hskip]
    · rw [if_neg heq]
      exact table_storeChannelStatus hd

/-! ## Runs -/

/-- **A call that is mirrored**: one that finds the channel in the status it asks for changes none
of its keys, and one that changes the status of the channel does not turn it on, unless it serves
no model, and does not turn it off if it is listed twice. -/
structure Mirrorable (parseArray : ArrayParser) (s : StatusState) (call : StatusCall) : Prop where
  stored : ∀ d, s.table.find? call.channelId = some d → d.status = call.status →
    ¬overridesKeyExhaustion d call → SameStatus (call.row parseArray d) d
  turnedOn : ∀ d, s.table.find? call.channelId = some d → d.status ≠ .enabled →
    (call.row parseArray d).status = .enabled → d.getModels = []
  turnedOff : ∀ d, s.table.find? call.channelId = some d →
    (call.row parseArray d).status ≠ d.status →
      ∀ group model, (d.entries group model).length ≤ 1

/-- The table after a mirrored call holds what the call makes of the row, as far as statuses and
entries go. -/
theorem index_updateChannelStatus (hd : s.table.find? call.channelId = some d)
    (h : Mirrorable parseArray s call) (group model : String) :
    entries
        (if d.status = call.status ∧ ¬overridesKeyExhaustion d call then s.table
          else s.table.save (call.row parseArray d)) group model =
      if (call.row parseArray d).status = d.status ∨ (call.row parseArray d).status = .enabled then
        s.table.entries group model
      else (s.table.entries group model).filter (· ≠ call.channelId) := by
  have hid : (call.row parseArray d).id = call.channelId :=
    StatusCall.row_listing.id.trans (key_of_find? hd)
  by_cases hskip : d.status = call.status ∧ ¬overridesKeyExhaustion d call
  · rw [if_pos hskip, if_pos (Or.inl (h.stored d hd hskip.1 hskip.2).status)]
  · rw [if_neg hskip]
    by_cases hsame : (call.row parseArray d).status = d.status
    · rw [if_pos (Or.inl hsame)]
      exact entries_save_of_eq (hid ▸ hd) (entries_congr StatusCall.row_listing hsame)
    · by_cases hon : (call.row parseArray d).status = .enabled
      · rw [if_pos (Or.inr hon)]
        have hmodels := h.turnedOn d hd (fun hoff => hsame (hon.trans hoff.symm)) hon
        have hmodels' : (call.row parseArray d).getModels = [] := by
          rw [Channel.getModels, StatusCall.row_listing.models]
          exact hmodels
        refine entries_save_of_eq (hid ▸ hd) ?_
        rw [entries_of_getModels hmodels, entries_of_getModels hmodels']
      · rw [if_neg (not_or.2 ⟨hsame, hon⟩), ← hid]
        refine entries_save_of_nil ?_
        rw [Channel.entries, if_neg hon]

theorem SameStatus.trans {e : Channel} (h : SameStatus c d) (h' : SameStatus d e) :
    SameStatus c e :=
  ⟨h.status.trans h'.status, h.statusList.trans h'.statusList, h.isMultiKey.trans h'.isMultiKey,
    h.key.trans h'.key⟩

/-- What a call on a mirrored channel leaves in the cache, by what it makes of the stored row. -/
theorem exists_cached_updateChannelStatus (hc : s.cache.channelsIDM call.channelId = some c)
    (hsame : SameStatus c d) :
    ∃ c', SameStatus c' (call.row parseArray d) ∧
      (updateChannelStatus parseArray s call).cache.channelsIDM =
        update s.cache.channelsIDM call.channelId (some c') ∧
      (updateChannelStatus parseArray s call).cache.group2model2channels =
        if (call.row parseArray d).status = d.status ∨ (call.row parseArray d).status = .enabled
        then s.cache.group2model2channels
        else fun group model =>
          (s.cache.group2model2channels group model).erase call.channelId := by
  obtain ⟨c', hrow, hcache⟩ := @cache_updateChannelStatus parseArray call s c hc
  have hrow := hrow.trans (StatusCall.row_congr hsame)
  rw [hrow.status, hsame.status] at hcache
  refine ⟨c', hrow, ?_, ?_⟩
  · rw [hcache]
    split_ifs <;> rfl
  · rw [hcache]
    split_ifs <;> rfl

theorem find?_updateChannelStatus (hd : s.table.find? call.channelId = some d) (id : ℕ) :
    (if d.status = call.status ∧ ¬overridesKeyExhaustion d call then s.table
      else s.table.save (call.row parseArray d)).find? id =
      if id = call.channelId then
        some (if d.status = call.status ∧ ¬overridesKeyExhaustion d call then d
          else call.row parseArray d)
      else s.table.find? id := by
  have hkey : (call.row parseArray d).id = call.channelId :=
    StatusCall.row_listing.id.trans (key_of_find? hd)
  by_cases hskip : d.status = call.status ∧ ¬overridesKeyExhaustion d call
  · rw [if_pos hskip, if_pos hskip]
    split_ifs with hid
    · rw [hid, hd]
    · rfl
  · rw [if_neg hskip, if_neg hskip, find?_save, hkey]
    split_ifs with hid
    · rw [hid, hd]
      rfl
    · rfl

theorem priorityOf_updateChannelStatus (hd : s.table.find? call.channelId = some d) (id : ℕ) :
    priorityOf
        (if d.status = call.status ∧ ¬overridesKeyExhaustion d call then s.table
          else s.table.save (call.row parseArray d)) id = s.table.priorityOf id := by
  have hkey : (call.row parseArray d).id = call.channelId :=
    StatusCall.row_listing.id.trans (key_of_find? hd)
  split_ifs
  · rfl
  · exact priorityOf_save (hkey ▸ hd) StatusCall.row_listing id

/-- **A mirrored call keeps the mirror.** -/
theorem Mirrors.step (hmirrors : Mirrors s) (h : Mirrorable parseArray s call) :
    Mirrors (updateChannelStatus parseArray s call) := by
  have hrel := hmirrors.channels call.channelId
  cases hc : s.cache.channelsIDM call.channelId with
  | none =>
    have hsame : updateChannelStatus parseArray s call = s := by
      rw [updateChannelStatus, hc]
    rw [hsame]
    exact hmirrors
  | some c =>
    rw [hc] at hrel
    obtain ⟨d, hd, hsame⟩ : ∃ d, s.table.find? call.channelId = some d ∧ SameStatus c d := by
      generalize s.table.find? call.channelId = found at hrel
      cases hrel with
      | some hsame => exact ⟨_, rfl, hsame⟩
    obtain ⟨c', hrow, hidm, hindex⟩ := @exists_cached_updateChannelStatus parseArray call s c d hc
      hsame
    have htable := @table_updateChannelStatus parseArray call s c d hc hd hsame
    refine ⟨fun id => ?_, fun group model => ?_, fun group model => ?_⟩
    · rw [hidm, htable, find?_updateChannelStatus hd]
      by_cases hid : id = call.channelId
      · rw [hid, update_self, if_pos rfl]
        refine .some ?_
        split_ifs with hskip
        · exact hrow.trans (h.stored d hd hskip.1 hskip.2)
        · exact hrow
      · rw [update_of_ne hid, if_neg hid]
        exact hmirrors.channels id
    · have hperm := (hmirrors.index group model).trans group2model2channels_perm
      refine List.Perm.trans ?_ group2model2channels_perm.symm
      rw [hindex, htable, index_updateChannelStatus hd h]
      by_cases hkeeps : (call.row parseArray d).status = d.status ∨
          (call.row parseArray d).status = .enabled
      · rw [if_pos hkeeps, if_pos hkeeps]
        exact hperm
      · rw [if_neg hkeeps, if_neg hkeeps, ← erase_eq_filter]
        · exact hperm.erase _
        · rw [← key_of_find? hd, count_entries (mem_of_find? hd)]
          exact h.turnedOff d hd (not_or.1 hkeeps).1 group model
    · rw [htable]
      simp only [priorityOf_updateChannelStatus hd]
      rw [hindex]
      split_ifs
      · exact hmirrors.sorted group model
      · exact (hmirrors.sorted group model).sublist erase_sublist

/-- **The cache mirrors the table after any sequence of mirrored calls**, starting from a fresh
cache. -/
theorem status_changes_mirrored (t : ChannelTable) (calls : List StatusCall)
    (h : Runs.Guarded (updateChannelStatus parseArray) (Mirrorable parseArray)
      ⟨t, initChannelCache t⟩ calls) :
    Mirrors (Runs.run (updateChannelStatus parseArray) ⟨t, initChannelCache t⟩ calls) :=
  Runs.invariant (fun _ _ hmirrors h => hmirrors.step h) (mirrors_init t) h

end

/-- A channel that lists no group and no model twice has at most one entry in a list. -/
theorem length_entries_le {c : Channel} (hgroups : c.groups.Nodup) (hmodels : c.getModels.Nodup)
    (group model : String) : (c.entries group model).length ≤ 1 := by
  have hone : ∀ {l : List String} (a : String), l.Nodup → (l.filter (· = a)).length ≤ 1 := by
    intro l a hl
    rw [← List.countP_eq_length_filter]
    exact nodup_iff_count_le_one.1 hl a
  unfold Channel.entries
  split_ifs
  · rw [length_flatMap]
    simp only [map_const', sum_replicate_nat, length_replicate]
    exact Nat.mul_le_mul (hone group hgroups) (hone model hmodels)
  · exact Nat.zero_le _

/-- One enabled channel. -/
def oneChannel : ChannelTable where
  rows := [{ id := 1, models := "m" }]
  nodup := by decide

theorem status_changes_mirrored_disabled :
    Mirrors (Runs.run (updateChannelStatus fun _ => none)
      ⟨oneChannel, initChannelCache oneChannel⟩ [{ channelId := 1, status := .autoDisabled }]) := by
  refine status_changes_mirrored oneChannel _ ⟨⟨?_, ?_, ?_⟩, trivial⟩
  · rintro d ⟨⟩ hstatus
    cases hstatus
  · rintro d ⟨⟩ hoff
    exact absurd rfl hoff
  · rintro d ⟨⟩ -
    exact length_entries_le (by decide +kernel) (by decide +kernel)

/-- One enabled channel with two keys. -/
def twoKeys : ChannelTable where
  rows := [{ id := 1, key := "a\nb", models := "m"
             channelInfo := { isMultiKey := true, multiKeySize := 2 } }]
  nodup := by decide

/-- The channel is switched off and on again. -/
def offAndOn : StatusState :=
  Runs.run (updateChannelStatus fun _ => none) ⟨oneChannel, initChannelCache oneChannel⟩
    [{ channelId := 1, status := .autoDisabled }, { channelId := 1, status := .enabled }]

/-- Its first key is disabled and enabled again. -/
def keyOffAndOn : StatusState :=
  Runs.run (updateChannelStatus fun _ => none) ⟨twoKeys, initChannelCache twoKeys⟩
    [{ channelId := 1, usingKey := "a", status := .autoDisabled },
      { channelId := 1, usingKey := "a", status := .enabled }]

/-- **The cache does not mirror the table**: a channel that is enabled again does not come back to
the index, and a key that is enabled again is stored as disabled. -/
theorem status_change_not_mirrored :
    (1 ∉ offAndOn.cache.group2model2channels "default" "m" ∧
      1 ∈ (initChannelCache offAndOn.table).group2model2channels "default" "m") ∧
    (keyOffAndOn.cache.channelsIDM 1).map (·.channelInfo.multiKeyStatusList 0) = some none ∧
      (keyOffAndOn.table.find? 1).map (·.channelInfo.multiKeyStatusList 0) =
        some (some .autoDisabled) := by
  refine ⟨⟨?_, ?_⟩, by decide +kernel, by decide +kernel⟩
  · have hentries : oneChannel.entries "default" "m" = [1] := by decide +kernel
    have hfresh := @group2model2channels_perm oneChannel "default" "m"
    rw [hentries, List.perm_singleton] at hfresh
    change 1 ∉ ((initChannelCache oneChannel).group2model2channels "default" "m").erase 1
    rw [hfresh]
    decide
  · refine mem_group2model2channels.2 ?_
    decide +kernel

end Channels
