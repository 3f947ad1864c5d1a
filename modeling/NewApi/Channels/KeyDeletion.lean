import NewApi.Channels.KeyActions

/-!
# Channels/KeyDeletion — what deleting keys leaves of the others

The keys that stay are joined by newlines into the column, whatever the column looked like before,
and their entries move to the new places.  `Update` skips an empty column, and the next reader
splits it again.

* `readBack_iff` — when the keys that stay are read back from the row.
* `keepsOthers_keep_iff` — …and then their entries are the ones that were handed over.
* `deletion_keeps_others_iff` — when a deletion keeps the other keys and their state.
-/

namespace Channels

open Channel Text Option List

/-- The actions that take keys out of the list. -/
def KeyAction.Deletes : KeyAction → Prop
  | .deleteKey _ | .deleteDisabledKeys => True
  | _ => False

/-- The keys that stay. -/
def Channel.rest (parseArray : ArrayParser) (c : Channel) (action : KeyAction) : List String :=
  (c.kept parseArray action).map Prod.fst

/-- The status of a key, as `get_key_status` has it. -/
def ChannelInfo.statusOf (info : ChannelInfo) (i : ℕ) : ChannelStatus :=
  (info.multiKeyStatusList i).getD .enabled

/-- **A row keeps the other keys and their state.** -/
structure KeepsOthers (parseArray : ArrayParser) (c : Channel) (action : KeyAction)
    (row : Channel) : Prop where
  keys : row.getKeys parseArray = c.rest parseArray action
  entries : ∀ j key i, (c.kept parseArray action)[j]? = some (key, i) →
    row.channelInfo.statusOf j = c.channelInfo.statusOf i ∧
      row.channelInfo.multiKeyDisabledReason j = c.channelInfo.multiKeyDisabledReason i ∧
      row.channelInfo.multiKeyDisabledTime j = c.channelInfo.multiKeyDisabledTime i
  bounded : ∀ j, row.channelInfo.multiKeyStatusList j ≠ none →
    j < (row.getKeys parseArray).length

/-- The keys that stay can be read back: they are not empty, do not spell an array, and are
separated by newlines. -/
def ReadBack (parseArray : ArrayParser) (c : Channel) (action : KeyAction) : Prop :=
  let rest := c.rest parseArray action
  let trimmed := Text.trimmed (Text.join '\n' rest)
  if rest = [] ∨ rest = [""] then rest = c.getKeys parseArray
  else
    match (if Text.startsWith trimmed "[" then parseArray trimmed else none) with
    | some keys => keys = rest
    | none => Text.Separable '\n' rest

/-- No enabled key that stays has a reason or a time left from when it was disabled. -/
def NoLeftovers (parseArray : ArrayParser) (c : Channel) (action : KeyAction) : Prop :=
  ∀ key ∈ c.kept parseArray action, keyEnabled c.channelInfo.multiKeyStatusList key.2 = true →
    c.channelInfo.multiKeyDisabledReason key.2 = none ∧
      c.channelInfo.multiKeyDisabledTime key.2 = none

section

variable {parseArray : ArrayParser} {c c' : Channel} {action : KeyAction}
  {reasons : ℕ → Option String} {times : ℕ → Option ℤ}

theorem keyCount_eq {key : String} (h : keysOf parseArray key ≠ []) :
    keyCount parseArray key = (keysOf parseArray key).length := by
  unfold keysOf keyCount at *
  by_cases hempty : key = ""
  · rw [if_pos hempty] at h
    exact absurd rfl h
  · rw [if_neg hempty] at h ⊢
    rw [if_neg hempty]
    dsimp only at h ⊢
    cases hparse : (if startsWith (trimmed key) "[" then parseArray (trimmed key)
      else none) with
    | none => rfl
    | some keys =>
      cases keys with
      | nil =>
        rw [hparse] at h
        exact absurd rfl h
      | cons first rest => rfl

/-- An entry that says enabled is not copied, and not missed. -/
theorem getD_filter_enabled (status : Option ChannelStatus) :
    (status.filter (· ≠ .enabled)).getD .enabled = status.getD .enabled := by
  cases status with
  | none => rfl
  | some status =>
    by_cases henabled : status = .enabled
    · subst henabled
      rfl
    · rw [filter_some, if_pos (by simpa using henabled)]

/-- The row a deletion leaves. -/
def Channel.deleted (parseArray : ArrayParser) (c : Channel) (action : KeyAction)
    (reasons : ℕ → Option String) (times : ℕ → Option ℤ) : Channel :=
  c.update parseArray
    ((c.keep (c.kept parseArray action) reasons times).disableIfUnavailable parseArray)

theorem deleted_key : (c.deleted parseArray action reasons times).key =
    if join '\n' (c.rest parseArray action) = "" then c.key
    else join '\n' (c.rest parseArray action) := by
  rw [deleted, update_key, disableIfUnavailable_key]
  rfl

theorem deleted_channelInfo (h : c.channelInfo.isMultiKey = true) :
    (c.deleted parseArray action reasons times).channelInfo =
      (c.keep (c.kept parseArray action) reasons times).channelInfo.recount
        (keyCount parseArray (c.deleted parseArray action reasons times).key) := by
  have hmulti : ((c.keep (c.kept parseArray action) reasons times).disableIfUnavailable
      parseArray).channelInfo.isMultiKey = true := by
    rw [disableIfUnavailable_channelInfo]
    exact h
  rw [deleted, update_channelInfo hmulti, update_key, disableIfUnavailable_channelInfo]

/-- **The keys that stay are read back** under a condition on them. -/
theorem readBack_iff : (c.deleted parseArray action reasons times).getKeys parseArray =
    c.rest parseArray action ↔ ReadBack parseArray c action := by
  rw [getKeys, deleted_key, ReadBack]
  generalize c.rest parseArray action = rest
  by_cases hempty : join '\n' rest = ""
  · rw [if_pos hempty, if_pos (join_eq_empty_iff.1 hempty), eq_comm]
    rfl
  · rw [if_neg hempty, if_neg (mt join_eq_empty_iff.2 hempty), keysOf, if_neg hempty]
    dsimp only
    generalize (if startsWith (trimmed (join '\n' rest)) "[" then
      parseArray (trimmed (join '\n' rest)) else none) = parsed
    cases parsed with
    | some keys => exact Iff.rfl
    | none => exact split_trimChar_join_iff hempty

/-- **A row keeps the other keys** when they are read back and their entries were handed over. -/
theorem keepsOthers_keep_iff (hmulti : c.channelInfo.isMultiKey = true)
    (hsome : c.rest parseArray action = [] → c.getKeys parseArray ≠ []) :
    KeepsOthers parseArray c action (c.deleted parseArray action reasons times) ↔
      ReadBack parseArray c action ∧ ∀ key ∈ c.kept parseArray action,
        reasons key.2 = c.channelInfo.multiKeyDisabledReason key.2 ∧
          times key.2 = c.channelInfo.multiKeyDisabledTime key.2 := by
  constructor
  · intro h
    refine ⟨readBack_iff.1 h.keys, fun key hkey => ?_⟩
    obtain ⟨j, hj⟩ := mem_iff_getElem?.1 hkey
    obtain ⟨-, hreason, htime⟩ := h.entries j key.1 key.2 hj
    rw [deleted_channelInfo hmulti] at hreason htime
    change reindex _ reasons j = _ at hreason
    change reindex _ times j = _ at htime
    rw [reindex, hj] at hreason htime
    exact ⟨hreason, htime⟩
  · rintro ⟨hread, hentries⟩
    have hkeys := (@readBack_iff parseArray c action reasons times).2 hread
    have hne : c.rest parseArray action ≠ [] := by
      intro hnil
      refine hsome hnil ?_
      rw [ReadBack, if_pos (Or.inl hnil), hnil] at hread
      exact hread.symm
    have hcount : keyCount parseArray (c.deleted parseArray action reasons times).key =
        (c.kept parseArray action).length := by
      rw [keyCount_eq (by rw [← getKeys, hkeys]; exact hne), ← getKeys, hkeys,
        rest, length_map]
    refine ⟨hkeys, fun j key i hj => ?_, fun j hj => ?_⟩
    · have hlt : j < (c.kept parseArray action).length := (List.getElem?_eq_some_iff.1 hj).1
      obtain ⟨hreason, htime⟩ := hentries (key, i) (mem_of_getElem? hj)
      rw [deleted_channelInfo hmulti, hcount]
      refine ⟨?_, ?_, ?_⟩
      · have hstatus : ((c.keep (c.kept parseArray action) reasons times).channelInfo.recount
            (c.kept parseArray action).length).multiKeyStatusList j =
              (c.channelInfo.multiKeyStatusList i).filter (· ≠ .enabled) := by
          refine (if_pos hlt).trans ?_
          unfold keep
          dsimp only
          rw [reindex, hj]
          rfl
        rw [ChannelInfo.statusOf, hstatus, getD_filter_enabled]
        rfl
      · change reindex _ reasons j = _
        rw [reindex, hj]
        exact hreason
      · change reindex _ times j = _
        rw [reindex, hj]
        exact htime
    · rw [hkeys, rest, length_map, ← hcount]
      rw [deleted_channelInfo hmulti] at hj
      by_contra hlt
      exact hj (if_neg hlt)

/-! ## The two actions -/

theorem reindexed_whenDisabled {info : ChannelInfo} {i : ℕ} :
    info.whenDisabled info.multiKeyDisabledReason i = info.multiKeyDisabledReason i ∧
        info.whenDisabled info.multiKeyDisabledTime i = info.multiKeyDisabledTime i ↔
      (keyEnabled info.multiKeyStatusList i = true →
        info.multiKeyDisabledReason i = none ∧ info.multiKeyDisabledTime i = none) := by
  unfold ChannelInfo.whenDisabled
  by_cases henabled : keyEnabled info.multiKeyStatusList i = true
  · rw [if_pos henabled, if_pos henabled, forall_prop_of_true henabled, eq_comm,
      eq_comm (a := (none : Option ℤ))]
  · rw [if_neg henabled, if_neg henabled, forall_prop_of_false henabled]
    exact iff_of_true ⟨rfl, rfl⟩ trivial

/-- **When a deletion keeps the other keys and their state.** -/
theorem deletion_keeps_others_iff (hdeletes : action.Deletes)
    (h : manageMultiKeys parseArray c action = some c') :
    KeepsOthers parseArray c action (c.update parseArray c') ↔
      ReadBack parseArray c action ∧
        (action = .deleteDisabledKeys → NoLeftovers parseArray c action) := by
  unfold manageMultiKeys at h
  dsimp only at h
  by_cases hmulti : c.channelInfo.isMultiKey = false
  · rw [if_pos hmulti] at h
    cases h
  rw [if_neg hmulti] at h
  rw [Bool.not_eq_false] at hmulti
  cases action with
  | deleteKey i =>
    dsimp only at h
    split_ifs at h with haccepted
    cases h
    refine (keepsOthers_keep_iff hmulti fun hnil => ?_).trans ?_
    · exact absurd (map_eq_nil_iff.1 hnil) haccepted.2
    · refine and_congr_right fun _ => iff_of_true (fun _ _ => ⟨rfl, rfl⟩) nofun
  | deleteDisabledKeys =>
    dsimp only at h
    split_ifs at h with haccepted
    cases h
    refine (keepsOthers_keep_iff hmulti fun _ hnil => ?_).trans ?_
    · rw [hnil] at haccepted
      exact absurd haccepted (Nat.not_lt_zero _)
    · refine and_congr_right fun _ => ?_
      rw [forall_prop_of_true rfl]
      exact forall₂_congr fun _ _ => reindexed_whenDisabled
  | disableKey i | enableKey i | enableAllKeys | disableAllKeys => exact absurd hdeletes id

end

/-- Three keys, one on a line; the places of `off` were disabled automatically. -/
def lineChannel (off : List ℕ) : Channel where
  id := 1
  key := "a\nb\nc"
  channelInfo :=
    { isMultiKey := true, multiKeySize := 3
      multiKeyStatusList := fun i => if i ∈ off then some .autoDisabled else none
      multiKeyDisabledReason := fun i => if i ∈ off then some "no quota" else none }

/-- …as when one of three plain keys is deleted. -/
theorem deletion_keeps_others_lines :
    ∃ c', manageMultiKeys (fun _ => none) (lineChannel [2]) (.deleteKey 0) = some c' ∧
      KeepsOthers (fun _ => none) (lineChannel [2]) (.deleteKey 0)
        ((lineChannel [2]).update (fun _ => none) c') := by
  obtain ⟨c', h⟩ : ∃ c',
      manageMultiKeys (fun _ => none) (lineChannel [2]) (.deleteKey 0) = some c' :=
    isSome_iff_exists.1 (by decide +kernel)
  have hdeletes : (KeyAction.deleteKey 0).Deletes := trivial
  refine ⟨c', h, (deletion_keeps_others_iff hdeletes h).2 ⟨?_, nofun⟩⟩
  have hrest : (lineChannel [2]).rest (fun _ => none) (.deleteKey 0) = ["b", "c"] := by
    decide +kernel
  rw [ReadBack, hrest, if_neg (by decide), ite_self]
  exact ⟨by decide, by decide, by decide⟩

/-- **Every key was disabled**: nothing is left for the column, which is then not written, and the
keys that were to be deleted come back enabled. -/
theorem deleted_keys_come_back :
    ∃ c', manageMultiKeys (fun _ => none) (lineChannel [0, 1, 2]) .deleteDisabledKeys = some c' ∧
      ((lineChannel [0, 1, 2]).update (fun _ => none) c').getKeys (fun _ => none) =
        ["a", "b", "c"] ∧
      [0, 1, 2].map ((lineChannel [0, 1, 2]).update (fun _ => none) c').channelInfo.statusOf =
        [.enabled, .enabled, .enabled] ∧
      ¬KeepsOthers (fun _ => none) (lineChannel [0, 1, 2]) .deleteDisabledKeys
        ((lineChannel [0, 1, 2]).update (fun _ => none) c') := by
  obtain ⟨c', h⟩ : ∃ c',
      manageMultiKeys (fun _ => none) (lineChannel [0, 1, 2]) .deleteDisabledKeys = some c' :=
    isSome_iff_exists.1 (by decide +kernel)
  have hkeys : (manageMultiKeys (fun _ => none) (lineChannel [0, 1, 2]) .deleteDisabledKeys).map
      (fun c' => ((lineChannel [0, 1, 2]).update (fun _ => none) c').getKeys (fun _ => none)) =
        some ["a", "b", "c"] := by
    decide +kernel
  have hstatus : (manageMultiKeys (fun _ => none) (lineChannel [0, 1, 2]) .deleteDisabledKeys).map
      (fun c' => [0, 1, 2].map
        ((lineChannel [0, 1, 2]).update (fun _ => none) c').channelInfo.statusOf) =
        some [.enabled, .enabled, .enabled] := by
    decide +kernel
  have hrest : (lineChannel [0, 1, 2]).rest (fun _ => none) .deleteDisabledKeys = [] := by
    decide +kernel
  rw [h] at hkeys hstatus
  refine ⟨c', h, some.inj hkeys, some.inj hstatus, fun hkeeps => ?_⟩
  have hread := hkeeps.keys.symm.trans (some.inj hkeys)
  rw [hrest] at hread
  cases hread

end Channels
