import NewApi.Channels.Basic

/-!
# Channels/Keys — the keys of a channel

A channel with several keys holds them in one column, one on a line or as a JSON array
(`GetKeys`, `model/channel.go`); their statuses, reasons and times are maps over their places.
`handlerMultiKeyUpdate` changes the status of one of them, and with it perhaps that of the channel.

* `handlerMultiKeyUpdate_congr` — the statuses it leaves depend on the statuses and the keys only.
-/

namespace Channels

/-- The parser for JSON arrays: the texts of the entries. -/
abbrev ArrayParser := String → Option (List String)

/-- The keys in a column: `GetKeys`, for a channel whose `Keys` are not filled in yet. -/
def keysOf (parseArray : ArrayParser) (key : String) : List String :=
  if key = "" then []
  else
    let trimmed := Text.trimmed key
    match (if Text.startsWith trimmed "[" then parseArray trimmed else none) with
    | some keys => keys
    | none => Text.split '\n' (Text.trimChar '\n' key)

/-- The keys of a channel. -/
def Channel.getKeys (parseArray : ArrayParser) (c : Channel) : List String :=
  keysOf parseArray c.key

/-- A key is enabled unless its status says otherwise. -/
def keyEnabled (statusList : ℕ → Option ChannelStatus) (i : ℕ) : Bool :=
  statusList i = none || statusList i = some .enabled

/-- A key is enabled. -/
def hasEnabledMultiKey (keys : List String) (statusList : ℕ → Option ChannelStatus) : Bool :=
  (List.range keys.length).any (keyEnabled statusList)

/-- `ChannelStatusReasonAllKeysDisabled`. -/
def allKeysDisabled : String := "All keys are disabled"

/-- The key at a place gets a status. -/
def ChannelInfo.setKey (info : ChannelInfo) (i : ℕ) (status : ChannelStatus) (reason : String)
    (now : ℤ) : ChannelInfo :=
  if status = .enabled then
    { info with multiKeyStatusList := Function.update info.multiKeyStatusList i none }
  else
    { info with
      multiKeyStatusList := Function.update info.multiKeyStatusList i (some status)
      multiKeyDisabledReason := Function.update info.multiKeyDisabledReason i (some reason)
      multiKeyDisabledTime := Function.update info.multiKeyDisabledTime i (some now) }

/-- The part of `handlerMultiKeyUpdate` for a key that was found. -/
def Channel.setKey (c : Channel) (keys : List String) (i : ℕ) (status : ChannelStatus)
    (reason : String) (now : ℤ) : Channel :=
  let info := c.channelInfo.setKey i status reason now
  if hasEnabledMultiKey keys info.multiKeyStatusList = false then
    { c with channelInfo := info, status := .autoDisabled, statusReason := some allKeysDisabled }
  else if status = .enabled then { c with channelInfo := info, status := .enabled }
  else { c with channelInfo := info }

/-- The status of one key, and of the channel if it was the last. -/
def handlerMultiKeyUpdate (parseArray : ArrayParser) (c : Channel) (usingKey : String)
    (status : ChannelStatus) (reason : String) (now : ℤ) : Channel :=
  let keys := c.getKeys parseArray
  if keys = [] then { c with status }
  else
    match keys.findIdx? (· = usingKey) with
    | none => if usingKey = "" then { c with status, statusReason := some reason } else c
    | some i => c.setKey keys i status reason now

/-! ## What a call may change -/

section

variable {parseArray : ArrayParser} {c d : Channel} {usingKey reason : String}
  {status : ChannelStatus} {now : ℤ}

/-- Two views of a channel agree on the statuses, of the channel and of its keys. -/
structure SameStatus (c d : Channel) : Prop where
  status : c.status = d.status
  statusList : c.channelInfo.multiKeyStatusList = d.channelInfo.multiKeyStatusList
  isMultiKey : c.channelInfo.isMultiKey = d.channelInfo.isMultiKey
  key : c.key = d.key

theorem SameStatus.refl (c : Channel) : SameStatus c c := ⟨rfl, rfl, rfl, rfl⟩

/-- What a channel is selected by, apart from its status. -/
structure SameListing (c d : Channel) : Prop where
  id : c.id = d.id
  models : c.models = d.models
  group : c.group = d.group
  priority : c.priority = d.priority

theorem SameListing.refl (c : Channel) : SameListing c c := ⟨rfl, rfl, rfl, rfl⟩

variable {info : ChannelInfo} {i : ℕ}

theorem statusList_setKey {info' : ChannelInfo}
    (h : info.multiKeyStatusList = info'.multiKeyStatusList) (reason' : String) (now' : ℤ) :
    (info.setKey i status reason now).multiKeyStatusList =
      (info'.setKey i status reason' now').multiKeyStatusList := by
  unfold ChannelInfo.setKey
  split_ifs
  · rw [h]
  · rw [h]

theorem isMultiKey_setKey : (info.setKey i status reason now).isMultiKey = info.isMultiKey := by
  unfold ChannelInfo.setKey
  split_ifs
  · rfl
  · rfl

variable {keys : List String}

theorem SameStatus.setKey (h : SameStatus c d) :
    SameStatus (c.setKey keys i status reason now) (d.setKey keys i status reason now) := by
  have hlist : (c.channelInfo.setKey i status reason now).multiKeyStatusList =
      (d.channelInfo.setKey i status reason now).multiKeyStatusList :=
    statusList_setKey h.statusList reason now
  have hmulti : (c.channelInfo.setKey i status reason now).isMultiKey =
      (d.channelInfo.setKey i status reason now).isMultiKey := by
    rw [isMultiKey_setKey, isMultiKey_setKey, h.isMultiKey]
  unfold Channel.setKey
  dsimp only
  rw [← hlist]
  split_ifs
  · exact ⟨rfl, hlist, hmulti, h.key⟩
  · exact ⟨rfl, hlist, hmulti, h.key⟩
  · exact ⟨h.status, hlist, hmulti, h.key⟩

/-- **The statuses a call leaves** depend on the statuses and the keys it finds. -/
theorem handlerMultiKeyUpdate_congr (h : SameStatus c d) :
    SameStatus (handlerMultiKeyUpdate parseArray c usingKey status reason now)
      (handlerMultiKeyUpdate parseArray d usingKey status reason now) := by
  have hkeys : c.getKeys parseArray = d.getKeys parseArray := by
    rw [Channel.getKeys, Channel.getKeys, h.key]
  unfold handlerMultiKeyUpdate
  dsimp only
  rw [hkeys]
  by_cases hnil : d.getKeys parseArray = []
  · rw [if_pos hnil, if_pos hnil]
    exact ⟨rfl, h.statusList, h.isMultiKey, h.key⟩
  · rw [if_neg hnil, if_neg hnil]
    cases (d.getKeys parseArray).findIdx? (· = usingKey) with
    | none =>
      dsimp only
      split_ifs
      · exact ⟨rfl, h.statusList, h.isMultiKey, h.key⟩
      · exact h
    | some i => exact h.setKey

theorem setKey_listing : SameListing (c.setKey keys i status reason now) c := by
  unfold Channel.setKey
  dsimp only
  split_ifs
  · exact ⟨rfl, rfl, rfl, rfl⟩
  · exact ⟨rfl, rfl, rfl, rfl⟩
  · exact ⟨rfl, rfl, rfl, rfl⟩

/-- A call leaves what the channel is listed under. -/
theorem handlerMultiKeyUpdate_listing :
    SameListing (handlerMultiKeyUpdate parseArray c usingKey status reason now) c := by
  unfold handlerMultiKeyUpdate
  dsimp only
  by_cases hnil : c.getKeys parseArray = []
  · rw [if_pos hnil]
    exact ⟨rfl, rfl, rfl, rfl⟩
  · rw [if_neg hnil]
    cases (c.getKeys parseArray).findIdx? (· = usingKey) with
    | none =>
      dsimp only
      split_ifs
      · exact ⟨rfl, rfl, rfl, rfl⟩
      · exact SameListing.refl c
    | some i => exact setKey_listing

end

end Channels
