import NewApi.Channels.KeyActions
import NewApi.Channels.Status
import NewApi.Machinery.Calls

/-!
# Channels/KeyRaces — writers of one `ChannelInfo`

`channel_info` holds the statuses of the keys and the cursor.  Three routines write all of it:
`UpdateChannelStatus` from the row it reads under the lock, `GetNextEnabledKey` (without the memory
cache) and `ManageMultiKeys` from a channel that was read before.

* `stored_disabled` — `UpdateChannelStatus` enables no key when it is told to disable one.
* `writes_disabled` — nor does a write of a channel that was read with the key disabled.
* `disabled_key_stays_disabled` — …and so no number of them, however they interleave.
-/

namespace Channels

/-- The part of `UpdateChannelStatus` on the row. -/
def StatusCall.store (parseArray : ArrayParser) (call : StatusCall) (row : Channel) : Channel :=
  if row.status = call.status ∧ ¬overridesKeyExhaustion row call then row
  else call.row parseArray row

/-! ## Calls in progress -/

/-- A routine that is called for the channel. -/
inductive KeyCall where
  | getNextEnabledKey
  | manageMultiKeys (action : KeyAction)

/-- A routine under way, with the channel it has read. -/
structure KeyTask where
  call : KeyCall
  channel : Channel

/-- What a routine leaves in the row; `draw` is the number it draws. -/
def KeyTask.write (parseArray : ArrayParser) (memoryCacheEnabled : Bool) (row : Channel)
    (task : KeyTask) (draw : ℕ) : Channel :=
  match task.call with
  | .getNextEnabledKey =>
    let saved := row.channelInfo.multiKeyPollingIndex
    let picked := task.channel.getNextEnabledKey parseArray saved draw
    match picked.bind PickedKey.cursor with
    | none => row
    | some cursor =>
      if memoryCacheEnabled then row
      else
        { row with channelInfo := { task.channel.channelInfo with multiKeyPollingIndex := cursor } }
  | .manageMultiKeys action =>
    match manageMultiKeys parseArray task.channel action with
    | none => row
    | some channel => row.update parseArray channel

/-- The routines over one row: each reads the channel, and writes once it has the lock. -/
def keySystem (parseArray : ArrayParser) (memoryCacheEnabled : Bool) :
    CallSystem Channel KeyTask KeyCall ℕ StatusCall where
  init row call := { call, channel := row }
  perform row task draw := (task.write parseArray memoryCacheEnabled row draw, none)
  env row call := call.store parseArray row

/-- The routine explicitly enables the key, or moves keys to other places. -/
def KeyTask.Releases (k : ℕ) (task : KeyTask) : Prop :=
  match task.call with
  | .getNextEnabledKey => False
  | .manageMultiKeys action => action.Releases k

/-- Keys are disabled, the others managed, and requests served. -/
def Unreleased (k : ℕ) (w : Calls Channel KeyTask) : CallOp KeyCall ℕ StatusCall → Prop
  | .start _ => True
  | .advance n _ => ∀ task ∈ w.tasks[n]?, ¬task.Releases k
  | .env call => call.status ≠ .enabled

/-- A routine that writes has read the key as disabled; one that writes the keys too has read
those of the row. -/
def KeyTask.Current (memoryCacheEnabled : Bool) (row : Channel) (k : ℕ) (task : KeyTask) : Prop :=
  match task.call with
  | .getNextEnabledKey =>
    memoryCacheEnabled = true ∨ keyEnabled task.channel.channelInfo.multiKeyStatusList k = false
  | .manageMultiKeys _ =>
    keyEnabled task.channel.channelInfo.multiKeyStatusList k = false ∧ task.channel.key = row.key

/-- What is written was read after the key had been disabled. -/
def ReadAfter (memoryCacheEnabled : Bool) (k : ℕ) (w : Calls Channel KeyTask) :
    CallOp KeyCall ℕ StatusCall → Prop
  | .advance n _ => ∀ task ∈ w.tasks[n]?, task.Current memoryCacheEnabled w.shared k
  | _ => True

/-! ## One write -/

section

variable {parseArray : ArrayParser} {memoryCacheEnabled : Bool} {row c : Channel} {k : ℕ}

/-- The channel has a key at a place, and it is disabled. -/
structure HasDisabled (parseArray : ArrayParser) (k : ℕ) (c : Channel) : Prop where
  lt : k < (c.getKeys parseArray).length
  disabled : keyEnabled c.channelInfo.multiKeyStatusList k = false

variable {reason : String} {status : ChannelStatus} {now : ℤ}

section

variable (hstatus : status ≠ .enabled) (h : keyEnabled c.channelInfo.multiKeyStatusList k = false)

include hstatus h

theorem setKey_disabled {keys : List String} {i : ℕ} :
    (c.setKey keys i status reason now).key = c.key ∧
      keyEnabled (c.setKey keys i status reason now).channelInfo.multiKeyStatusList k = false := by
  have hlist : keyEnabled (c.channelInfo.setKey i status reason now).multiKeyStatusList k =
      false := by
    rw [ChannelInfo.setKey, if_neg hstatus]
    exact keyEnabled_update hstatus h
  unfold Channel.setKey
  dsimp only
  split_ifs
  · exact ⟨rfl, hlist⟩
  · exact ⟨rfl, hlist⟩

theorem handlerMultiKeyUpdate_disabled {usingKey : String} :
    (handlerMultiKeyUpdate parseArray c usingKey status reason now).key = c.key ∧
      keyEnabled (handlerMultiKeyUpdate parseArray c usingKey status reason
        now).channelInfo.multiKeyStatusList k = false := by
  unfold handlerMultiKeyUpdate
  dsimp only
  by_cases hnil : c.getKeys parseArray = []
  · rw [if_pos hnil]
    exact ⟨rfl, h⟩
  · rw [if_neg hnil]
    cases (c.getKeys parseArray).findIdx? (· = usingKey) with
    | none =>
      dsimp only
      split_ifs
      · exact ⟨rfl, h⟩
      · exact ⟨rfl, h⟩
    | some i => exact setKey_disabled hstatus h

end

/-- **A call that disables** leaves the keys that are disabled. -/
theorem stored_disabled {call : StatusCall} (hstatus : call.status ≠ .enabled)
    (h : HasDisabled parseArray k row) : HasDisabled parseArray k (call.store parseArray row) := by
  have hrow : (call.row parseArray row).key = row.key ∧
      keyEnabled (call.row parseArray row).channelInfo.multiKeyStatusList k = false := by
    unfold StatusCall.row
    split_ifs
    · exact handlerMultiKeyUpdate_disabled hstatus h.disabled
    · exact ⟨rfl, h.disabled⟩
  unfold StatusCall.store
  split_ifs
  · exact h
  · refine ⟨?_, hrow.2⟩
    rw [Channel.getKeys, hrow.1]
    exact h.lt

variable {draw : ℕ}

theorem getNextEnabledKey_disabled (hread : memoryCacheEnabled = true ∨
      keyEnabled c.channelInfo.multiKeyStatusList k = false) (h : HasDisabled parseArray k row) :
    HasDisabled parseArray k
      (KeyTask.write parseArray memoryCacheEnabled row ⟨.getNextEnabledKey, c⟩ draw) := by
  unfold KeyTask.write
  dsimp only
  split
  · exact h
  · split_ifs with hmemory
    · exact h
    · exact ⟨h.lt, hread.resolve_left hmemory⟩

/-- **A write of a channel that was read with the key disabled** leaves it disabled. -/
theorem writes_disabled {task : KeyTask} (hreleases : ¬task.Releases k)
    (hcurrent : task.Current memoryCacheEnabled row k) (h : HasDisabled parseArray k row) :
    HasDisabled parseArray k (task.write parseArray memoryCacheEnabled row draw) := by
  obtain ⟨call, channel⟩ := task
  cases call with
  | getNextEnabledKey => exact getNextEnabledKey_disabled hcurrent h
  | manageMultiKeys action =>
    obtain ⟨hread, hkeys⟩ := hcurrent
    unfold KeyTask.write
    dsimp only
    cases hmanage : manageMultiKeys parseArray channel action with
    | none => exact h
    | some channel' =>
      obtain ⟨hkey, hmulti, hdisabled⟩ :=
        manageMultiKeys_disabled hmanage hreleases hread
      -- the column is the one of the row, so that the key is still counted
      have hcolumn : (if channel'.key = "" then row.key else channel'.key) = row.key := by
        rw [hkey, hkeys]
        exact ite_self _
      dsimp only
      refine ⟨?_, ?_⟩
      · rw [Channel.getKeys, update_key, hcolumn]
        exact h.lt
      · rw [update_channelInfo hmulti, hcolumn, recount_disabled (h.lt.trans_le length_keysOf_le)]
        exact hdisabled

end

/-! ## Any number of writes -/

/-- **A disabled key stays disabled** if what is written was read after it had been disabled. -/
theorem disabled_key_stays_disabled {parseArray : ArrayParser} {memoryCacheEnabled : Bool} {k : ℕ}
    {w : Calls Channel KeyTask} {ops : List (CallOp KeyCall ℕ StatusCall)}
    (hkey : k < (w.shared.getKeys parseArray).length)
    (hdisabled : keyEnabled w.shared.channelInfo.multiKeyStatusList k = false)
    (hops : Runs.Guarded (Calls.step (keySystem parseArray memoryCacheEnabled))
      (fun w op => Unreleased k w op ∧ ReadAfter memoryCacheEnabled k w op) w ops) :
    keyEnabled (Runs.run (Calls.step (keySystem parseArray memoryCacheEnabled)) w
      ops).shared.channelInfo.multiKeyStatusList k = false := by
  have hrun : Calls.Holds (HasDisabled parseArray k) (fun _ _ => True)
      (Runs.run (Calls.step (keySystem parseArray memoryCacheEnabled)) w ops) := by
    refine Calls.holds_run ?_ ?_ ?_ ⟨⟨hkey, hdisabled⟩, fun _ _ => trivial⟩ hops
    · intro w call _ _
      trivial
    · intro w n draw task hguard htask h
      refine ⟨writes_disabled (hguard.1 task htask) (hguard.2 task htask) h.shared, ?_, ?_⟩
      · exact fun _ _ => trivial
      · exact fun _ _ => trivial
    · intro w call hguard h
      exact ⟨stored_disabled hguard.1 h.shared, fun _ _ => trivial⟩
  exact hrun.shared.disabled

/-- A channel with two keys that polls; the places of `off` are disabled. -/
def pollingChannel (off : List ℕ) : Channel where
  id := 1
  key := "a\nb"
  channelInfo :=
    { isMultiKey := true, multiKeySize := 2, multiKeyMode := .polling
      multiKeyStatusList := fun i => if i ∈ off then some .autoDisabled else none }

/-- …as for a request that is served, and a key that is managed, one after the other. -/
theorem disabled_key_stays_disabled_in_turn :
    keyEnabled (Runs.run (Calls.step (keySystem (fun _ => none) false)) ⟨pollingChannel [0], []⟩
      [.start .getNextEnabledKey, .advance 0 0, .start (.manageMultiKeys (.disableKey 1)),
        .advance 0 0, .env { channelId := 1, usingKey := "b", status := .autoDisabled }]
      ).shared.channelInfo.multiKeyStatusList 0 = false := by
  have hdisables : ChannelStatus.autoDisabled ≠ .enabled := by decide
  refine disabled_key_stays_disabled (by decide +kernel) (by decide)
    ⟨⟨trivial, trivial⟩, ⟨?_, ?_⟩, ⟨trivial, trivial⟩, ⟨?_, ?_⟩, ⟨hdisables, trivial⟩, trivial⟩
  · rintro task ⟨⟩
    exact id
  · rintro task ⟨⟩
    exact Or.inr (by decide)
  · rintro task ⟨⟩
    exact (by decide : ¬(KeyAction.disableKey 1).Releases 0)
  · rintro task ⟨⟩
    exact ⟨by decide +kernel, by decide +kernel⟩

/-- The first key is disabled between the read of a channel and its write. -/
def raced (call : KeyCall) : List (CallOp KeyCall ℕ StatusCall) :=
  [.start call, .env { channelId := 1, usingKey := "a", status := .autoDisabled }, .advance 0 0]

/-- The first key is disabled in the row and then enabled, with nothing that releases it. -/
def ComesBack (memoryCacheEnabled : Bool) (call : KeyCall) : Prop :=
  Runs.Guarded (Calls.step (keySystem (fun _ => none) memoryCacheEnabled)) (Unreleased 0)
      ⟨pollingChannel [], []⟩ (raced call) ∧
    keyEnabled (Runs.run (Calls.step (keySystem (fun _ => none) memoryCacheEnabled))
      ⟨pollingChannel [], []⟩ ((raced call).take 2)).shared.channelInfo.multiKeyStatusList 0 =
        false ∧
    keyEnabled (Runs.run (Calls.step (keySystem (fun _ => none) memoryCacheEnabled))
      ⟨pollingChannel [], []⟩ (raced call)).shared.channelInfo.multiKeyStatusList 0 = true

/-- **A disabled key comes back**: moving the cursor, or disabling another key, writes statuses that
were read before. -/
theorem disabled_key_comes_back :
    ComesBack false .getNextEnabledKey ∧ ComesBack true (.manageMultiKeys (.disableKey 1)) := by
  have hdisables : ChannelStatus.autoDisabled ≠ .enabled := by decide
  refine ⟨⟨⟨trivial, hdisables, ?_, trivial⟩, by decide +kernel, by decide +kernel⟩,
    ⟨trivial, hdisables, ?_, trivial⟩, by decide +kernel, by decide +kernel⟩
  · rintro task ⟨⟩
    exact id
  · rintro task ⟨⟩
    exact (by decide : ¬(KeyAction.disableKey 1).Releases 0)

end Channels
