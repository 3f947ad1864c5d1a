import NewApi.Channels.Keys

/-!
# Channels/KeyActions — the next key of a channel, and managing its keys

`GetNextEnabledKey` (`model/channel.go`) gives a request its key and moves the cursor of a channel
that polls.  `ManageMultiKeys` (`controller/channel.go`) disables, enables and deletes keys of a
channel it has read; `Channel.Update` writes the channel back and skips the columns that are empty.

* `update_key`, `update_channelInfo` — what `Update` leaves in the row.
* `manageMultiKeys_disabled` — an action that does not release a key leaves it disabled.
-/

namespace Channels

open Function

/-! ## The next key -/

/-- The place polling starts from. -/
def pollingStart (saved : ℤ) (size : ℕ) : ℕ :=
  if saved < 0 ∨ (size : ℤ) ≤ saved then 0 else saved.toNat

/-- The places polling visits, in order. -/
def pollingOrder (saved : ℤ) (size : ℕ) : List ℕ :=
  (List.range size).map fun i => (pollingStart saved size + i) % size

/-- A key that was picked, and the cursor that is saved with it. -/
structure PickedKey where
  key : String
  index : ℕ
  cursor : Option ℤ := none

/-- `GetNextEnabledKey`: `saved` is the stored cursor, `draw` the number that was drawn. -/
def Channel.getNextEnabledKey (parseArray : ArrayParser) (c : Channel) (saved : ℤ) (draw : ℕ) :
    Option PickedKey :=
  if c.channelInfo.isMultiKey = false then some { key := c.key, index := 0 }
  else
    let keys := c.getKeys parseArray
    let enabled := keyEnabled c.channelInfo.multiKeyStatusList
    let pick (i : ℕ) (cursor : Option ℤ) : PickedKey :=
      { key := keys.getD i "", index := i, cursor }
    match (List.range keys.length).filter enabled with
    | [] => none
    | first :: rest =>
      match c.channelInfo.multiKeyMode with
      | .random => some (pick ((first :: rest).getD (draw % (rest.length + 1)) first) none)
      | .polling =>
        match (pollingOrder saved keys.length).find? enabled with
        | some i => some (pick i (some ((i + 1) % keys.length : ℕ)))
        -- not reached: the cursor of the object is saved as it is
        | none => some (pick first (some c.channelInfo.multiKeyPollingIndex))
      | .other _ => some (pick first none)

/-! ## `Update` -/

/-- The number of keys `Update` counts: an array that is empty is read as lines. -/
def keyCount (parseArray : ArrayParser) (key : String) : ℕ :=
  if key = "" then 0
  else
    let trimmed := Text.trimmed key
    match (if Text.startsWith trimmed "[" then parseArray trimmed else none) with
    | some (first :: rest) => (first :: rest).length
    | _ => (Text.split '\n' (Text.trimChar '\n' key)).length

/-- The keys are counted anew, and no status is kept beyond them. -/
def ChannelInfo.recount (info : ChannelInfo) (size : ℕ) : ChannelInfo :=
  { info with
    multiKeySize := size
    multiKeyStatusList := fun i => if i < size then info.multiKeyStatusList i else none }

/-- `Update`: what it leaves of a row. -/
def Channel.update (parseArray : ArrayParser) (row c : Channel) : Channel :=
  let key := if c.key = "" then row.key else c.key
  { c with
    id := row.id
    key := key
    status := if c.status = .unknown then row.status else c.status
    weight := c.weight.or row.weight
    models := if c.models = "" then row.models else c.models
    group := if c.group = "" then row.group else c.group
    priority := c.priority.or row.priority
    statusReason := c.statusReason.or row.statusReason
    channelInfo :=
      if c.channelInfo.isMultiKey then c.channelInfo.recount (keyCount parseArray key)
      else c.channelInfo }

/-! ## `ManageMultiKeys` -/

/-- The actions of the administrator on keys. -/
inductive KeyAction where
  | disableKey (keyIndex : ℕ) | enableKey (keyIndex : ℕ)
  | enableAllKeys | disableAllKeys
  | deleteKey (keyIndex : ℕ) | deleteDisabledKeys
  deriving DecidableEq

/-- `hasEnabledMultiKey` of the controller. -/
def Channel.hasEnabledMultiKey (parseArray : ArrayParser) (c : Channel) : Bool :=
  !c.channelInfo.isMultiKey ||
    Channels.hasEnabledMultiKey (c.getKeys parseArray) c.channelInfo.multiKeyStatusList

/-- `disableMultiKeyChannelIfUnavailable`. -/
def Channel.disableIfUnavailable (parseArray : ArrayParser) (c : Channel) : Channel :=
  if c.hasEnabledMultiKey parseArray = false ∧ c.status = .enabled then
    { c with status := .manuallyDisabled, statusReason := some allKeysDisabled }
  else c

/-- `restoreMultiKeyChannelIfAvailable`. -/
def Channel.restoreIfAvailable (parseArray : ArrayParser) (c : Channel) : Channel :=
  if c.status = .manuallyDisabled ∧ c.hasEnabledMultiKey parseArray ∧
      c.statusReason = some allKeysDisabled then
    { c with status := .enabled, statusReason := some "" }
  else c

/-- A channel with other entries for its keys. -/
def Channel.withInfo (c : Channel) (f : ChannelInfo → ChannelInfo) : Channel :=
  { c with channelInfo := f c.channelInfo }

/-- `enable_key`: the entries of a key are deleted. -/
def ChannelInfo.forget (info : ChannelInfo) (i : ℕ) : ChannelInfo :=
  { info with
    multiKeyStatusList := Function.update info.multiKeyStatusList i none
    multiKeyDisabledReason := Function.update info.multiKeyDisabledReason i none
    multiKeyDisabledTime := Function.update info.multiKeyDisabledTime i none }

/-- `enable_all_keys`. -/
def ChannelInfo.forgetAll (info : ChannelInfo) : ChannelInfo :=
  { info with
    multiKeyStatusList := fun _ => none
    multiKeyDisabledReason := fun _ => none
    multiKeyDisabledTime := fun _ => none }

/-- `disable_key`: neither a reason nor a time is written. -/
def ChannelInfo.disable (info : ChannelInfo) (i : ℕ) : ChannelInfo :=
  { info with
    multiKeyStatusList := Function.update info.multiKeyStatusList i (some .manuallyDisabled) }

/-- `disable_all_keys`. -/
def ChannelInfo.disableAll (info : ChannelInfo) : ChannelInfo :=
  { info with
    multiKeyStatusList := fun i =>
      if i < info.multiKeySize ∧ keyEnabled info.multiKeyStatusList i then some .manuallyDisabled
      else info.multiKeyStatusList i }

/-- The keys that stay, each with the place it had. -/
def keptKeys (keys : List String) (stays : ℕ → Bool) : List (String × ℕ) :=
  keys.zipIdx.filter fun key => stays key.2

/-- A map over the old places, at the new ones. -/
def reindex {α : Type} (kept : List (String × ℕ)) (entries : ℕ → Option α) (j : ℕ) : Option α :=
  kept[j]?.bind fun key => entries key.2

/-- The channel keeps some of its keys, and of their entries those it is given. -/
def Channel.keep (c : Channel) (kept : List (String × ℕ))
    (reasons : ℕ → Option String) (times : ℕ → Option ℤ) : Channel :=
  { c with
    key := Text.join '\n' (kept.map Prod.fst)
    channelInfo :=
      { c.channelInfo with
        multiKeySize := kept.length
        multiKeyStatusList := reindex kept fun i =>
          (c.channelInfo.multiKeyStatusList i).filter (· ≠ .enabled)
        multiKeyDisabledReason := reindex kept reasons
        multiKeyDisabledTime := reindex kept times } }

/-- The entries of a key that is not enabled. -/
def ChannelInfo.whenDisabled {α : Type} (info : ChannelInfo) (entries : ℕ → Option α) (i : ℕ) :
    Option α :=
  if keyEnabled info.multiKeyStatusList i then none else entries i

/-- The keys an action deletes, by their places. -/
def KeyAction.deletes (info : ChannelInfo) : KeyAction → ℕ → Bool
  | .deleteKey keyIndex, i => i = keyIndex
  | .deleteDisabledKeys, i => info.multiKeyStatusList i = some .autoDisabled
  | _, _ => false

/-- The keys an action leaves, each with the place it had. -/
def Channel.kept (parseArray : ArrayParser) (c : Channel) (action : KeyAction) :
    List (String × ℕ) :=
  keptKeys (c.getKeys parseArray) fun i => !action.deletes c.channelInfo i

/-- `ManageMultiKeys`: the channel it hands to `Update`, if the action is accepted. -/
def manageMultiKeys (parseArray : ArrayParser) (c : Channel) (action : KeyAction) :
    Option Channel :=
  let info := c.channelInfo
  let kept := c.kept parseArray action
  if info.isMultiKey = false then none
  else
    match action with
    | .disableKey i =>
      if i < info.multiKeySize then
        some ((c.withInfo (·.disable i)).disableIfUnavailable parseArray)
      else none
    | .enableKey i =>
      if i < info.multiKeySize then some ((c.withInfo (·.forget i)).restoreIfAvailable parseArray)
      else none
    | .enableAllKeys => some ((c.withInfo (·.forgetAll)).restoreIfAvailable parseArray)
    | .disableAllKeys =>
      if (List.range info.multiKeySize).any (keyEnabled info.multiKeyStatusList) then
        some ((c.withInfo (·.disableAll)).disableIfUnavailable parseArray)
      else none
    | .deleteKey i =>
      if i < info.multiKeySize ∧ kept ≠ [] then
        some ((c.keep kept info.multiKeyDisabledReason
          info.multiKeyDisabledTime).disableIfUnavailable parseArray)
      else none
    | .deleteDisabledKeys =>
      if kept.length < (c.getKeys parseArray).length then
        some ((c.keep kept (info.whenDisabled info.multiKeyDisabledReason)
          (info.whenDisabled info.multiKeyDisabledTime)).disableIfUnavailable parseArray)
      else none

/-! ## What is kept -/

section

variable {parseArray : ArrayParser} {c c' row : Channel} {action : KeyAction} {k : ℕ}

/-- `Update` counts every key there is. -/
theorem length_keysOf_le {key : String} :
    (keysOf parseArray key).length ≤ keyCount parseArray key := by
  unfold keysOf keyCount
  by_cases hempty : key = ""
  · rw [if_pos hempty, if_pos hempty]
    exact le_refl 0
  · rw [if_neg hempty, if_neg hempty]
    dsimp only
    cases (if Text.startsWith (Text.trimmed key) "[" then parseArray (Text.trimmed key)
      else none) with
    | none => exact le_refl _
    | some keys =>
      cases keys with
      | nil => exact Nat.zero_le _
      | cons first rest => exact le_refl _

@[simp] theorem update_key :
    (row.update parseArray c).key = if c.key = "" then row.key else c.key := rfl

theorem update_channelInfo (h : c.channelInfo.isMultiKey = true) :
    (row.update parseArray c).channelInfo =
      c.channelInfo.recount (keyCount parseArray (if c.key = "" then row.key else c.key)) :=
  if_pos h

theorem recount_disabled {info : ChannelInfo} {size : ℕ} (hk : k < size) :
    keyEnabled (info.recount size).multiKeyStatusList k = keyEnabled info.multiKeyStatusList k := by
  have hsame : (info.recount size).multiKeyStatusList k = info.multiKeyStatusList k := if_pos hk
  rw [keyEnabled, keyEnabled, hsame]

@[simp] theorem disableIfUnavailable_key : (c.disableIfUnavailable parseArray).key = c.key := by
  unfold Channel.disableIfUnavailable
  split_ifs <;> rfl

@[simp] theorem disableIfUnavailable_channelInfo :
    (c.disableIfUnavailable parseArray).channelInfo = c.channelInfo := by
  unfold Channel.disableIfUnavailable
  split_ifs <;> rfl

@[simp] theorem restoreIfAvailable_key : (c.restoreIfAvailable parseArray).key = c.key := by
  unfold Channel.restoreIfAvailable
  split_ifs <;> rfl

@[simp] theorem restoreIfAvailable_channelInfo :
    (c.restoreIfAvailable parseArray).channelInfo = c.channelInfo := by
  unfold Channel.restoreIfAvailable
  split_ifs <;> rfl

/-- The action enables a key, or moves keys to other places. -/
def KeyAction.Releases (k : ℕ) : KeyAction → Prop
  | .enableKey i => i = k
  | .enableAllKeys | .deleteKey _ | .deleteDisabledKeys => True
  | .disableKey _ | .disableAllKeys => False

instance : ∀ (k : ℕ) (action : KeyAction), Decidable (action.Releases k)
  | k, .enableKey i => inferInstanceAs (Decidable (i = k))
  | _, .enableAllKeys | _, .deleteKey _ | _, .deleteDisabledKeys =>
    inferInstanceAs (Decidable True)
  | _, .disableKey _ | _, .disableAllKeys => inferInstanceAs (Decidable False)

theorem keyEnabled_update {list : ℕ → Option ChannelStatus} {i : ℕ} {status : ChannelStatus}
    (hstatus : status ≠ .enabled) (h : keyEnabled list k = false) :
    keyEnabled (update list i (some status)) k = false := by
  by_cases hik : k = i
  · subst hik
    simp [keyEnabled, hstatus]
  · rw [keyEnabled, update_of_ne hik]
    exact h

/-- **An action that releases no key** leaves the column, and every key that was disabled. -/
theorem manageMultiKeys_disabled (h : manageMultiKeys parseArray c action = some c')
    (haction : ¬action.Releases k) (hk : keyEnabled c.channelInfo.multiKeyStatusList k = false) :
    c'.key = c.key ∧ c'.channelInfo.isMultiKey = true ∧
      keyEnabled c'.channelInfo.multiKeyStatusList k = false := by
  unfold manageMultiKeys at h
  dsimp only at h
  by_cases hmulti : c.channelInfo.isMultiKey = false
  · rw [if_pos hmulti] at h
    cases h
  rw [if_neg hmulti] at h
  rw [Bool.not_eq_false] at hmulti
  cases action with
  | disableKey i =>
    dsimp only at h
    split_ifs at h
    cases h
    rw [disableIfUnavailable_key, disableIfUnavailable_channelInfo]
    exact ⟨rfl, hmulti, keyEnabled_update (by decide) hk⟩
  | enableKey i =>
    dsimp only at h
    split_ifs at h
    cases h
    rw [restoreIfAvailable_key, restoreIfAvailable_channelInfo]
    refine ⟨rfl, hmulti, ?_⟩
    change keyEnabled (update c.channelInfo.multiKeyStatusList i none) k = false
    rw [keyEnabled, update_of_ne (Ne.symm haction)]
    exact hk
  | disableAllKeys =>
    dsimp only at h
    split_ifs at h
    cases h
    rw [disableIfUnavailable_key, disableIfUnavailable_channelInfo]
    refine ⟨rfl, hmulti, ?_⟩
    have hsame : c.channelInfo.disableAll.multiKeyStatusList k =
        c.channelInfo.multiKeyStatusList k := by
      refine if_neg fun hboth => ?_
      rw [hk] at hboth
      exact Bool.false_ne_true hboth.2
    change keyEnabled c.channelInfo.disableAll.multiKeyStatusList k = false
    rw [keyEnabled, hsame]
    exact hk
  | enableAllKeys | deleteKey i | deleteDisabledKeys => exact absurd trivial haction

end

end Channels
