import NewApi.OaiChat.ResponsesReader

/-!
# OaiChat/ResponsesPieces — the reader keeps up with every piece

* `follows_continueTool`, `follows_appendToolCallDelta` — fragments of tool calls.
* `follows_doneDeltaEvents` — the end of all items that are open.
* `follows_takeAll` — a chunk whose pieces fit.
-/

namespace ResponsesStream

open State List Follows Reader Blocks Tool

/-! ## Tools -/

section Tools

variable {s : State} {t u : Tool} {i : ℤ} {r : OutputRef}

theorem chatIndex_of_findTool (h : s.findTool i = some t) : t.chatIndex = i := by
  have hfound := find?_some h
  exact of_decide_eq_true hfound

theorem mem_of_findTool (h : s.findTool i = some t) : t ∈ s.tools := mem_of_find?_eq_some h

@[simp] theorem lane_setTool {kind : LaneKind} : (s.setTool t).lane kind = s.lane kind := by
  cases kind <;> rfl

section

variable (h : s.findTool t.chatIndex = some u)

include h

/-- Only the tool that is changed changes. -/
theorem findTool_setTool :
    (s.setTool t).findTool i = if i = t.chatIndex then some t else s.findTool i := by
  have hkeep : ∀ v : Tool, (if v.chatIndex = t.chatIndex then t else v).chatIndex = v.chatIndex := by
    intro v
    split_ifs with hv
    · exact hv.symm
    · rfl
  rw [findTool, setTool, find?_map]
  simp only [Function.comp_def, hkeep]
  split_ifs with hi
  · subst hi
    rw [findTool] at h
    rw [h, Option.map_some, if_pos (chatIndex_of_findTool h)]
  · change (s.findTool i).map _ = s.findTool i
    cases hfound : s.findTool i with
    | none => rfl
    | some v =>
      rw [Option.map_some, if_neg]
      rw [chatIndex_of_findTool hfound]
      exact hi

theorem refText_setTool (ht : r = .tool t.chatIndex → t.arguments = u.arguments) :
    (s.setTool t).refText r = s.refText r := by
  cases r with
  | lane kind segment => rw [refText, lane_setTool, refText]
  | tool i =>
    rw [refText, findTool_setTool h, refText]
    split_ifs with hi
    · subst hi
      rw [h]
      exact ht rfl
    · rfl

theorem refLive_setTool (ht : r = .tool t.chatIndex → t.done = u.done) :
    (s.setTool t).refLive r = s.refLive r := by
  cases r with
  | lane kind segment => rw [refLive, lane_setTool, refLive]
  | tool i =>
    rw [refLive, findTool_setTool h, refLive]
    split_ifs with hi
    · subst hi
      rw [h, Option.any_some, Option.any_some, ht rfl]
    · rfl

end

/-- A tool may change but for its place. -/
theorem Sound.setTool (hs : Sound s) (h : s.findTool t.chatIndex = some u)
    (hindex : t.outputIndex = u.outputIndex) : Sound (s.setTool t) where
  nodup := hs.nodup
  lanes kind := by
    exact hs.lanes kind
  place := by
    intro v hv
    obtain ⟨v, hmem, rfl⟩ := mem_map.1 hv
    have hplace := hs.place u (mem_of_findTool h)
    rw [chatIndex_of_findTool h] at hplace
    split_ifs
    · rw [hindex]
      exact hplace
    · exact hs.place v hmem
  known i hmem := by
    rw [findTool_setTool h]
    split_ifs
    · rfl
    · exact hs.known i hmem

/-- A tool that is not done stands for the reader. -/
theorem Sound.stands_tool (hs : Sound s) (h : s.findTool i = some t) (hdone : t.done = false)
    {p : Block ItemKind → Prop}
    (hp : ∀ b : Block ItemKind, b.kind = .functionCall → b.text = t.arguments → p b) :
    Blocks.Stands s.reader.items t.outputIndex p := by
  have hplace := hs.place t (mem_of_findTool h)
  rw [chatIndex_of_findTool h] at hplace
  refine stands_view hplace ?_ (hp _ rfl ?_)
  · rw [refLive, h, Option.any_some, hdone]
    rfl
  · show refText s (.tool i) = _
    rw [refText, h]
    rfl

/-- A tool is filled by arguments, and stays where it is. -/
structure Tool.Grows (u t : Tool) (arguments : String) : Prop where
  chatIndex : t.chatIndex = u.chatIndex
  outputIndex : t.outputIndex = u.outputIndex
  done : t.done = u.done
  arguments : t.arguments = u.arguments ++ arguments

theorem Tool.grows_takeID {id : String} : t.Grows (t.takeID id) "" := by
  unfold takeID
  split_ifs <;> exact ⟨rfl, rfl, rfl, String.append_empty.symm⟩

theorem Tool.grows_takeName {id name arguments : String} :
    t.Grows (((t.takeID id).takeName name).grow arguments) arguments := by
  unfold takeName takeID grow
  split_ifs <;> exact ⟨rfl, rfl, rfl, rfl⟩

/-- A tool that grows is followed. -/
theorem follows_setTool (hs : Sound s) (h : s.findTool u.chatIndex = some u) (hu : u.done = false)
    {arguments : String} (hgrows : u.Grows t arguments) (id : String) :
    Follows s (s.setTool t)
      (if arguments = "" then [] else [.delta .functionCall u.outputIndex id arguments]) := by
  rw [← hgrows.chatIndex] at h
  have hsound := hs.setTool h hgrows.outputIndex
  have hlive : ∀ r ∈ s.outputOrder, (s.setTool t).refLive r = s.refLive r :=
    fun r _ => refLive_setTool h fun _ => hgrows.done
  have harguments := hgrows.arguments
  split_ifs with hempty
  · rw [hempty, String.append_empty] at harguments
    refine ⟨hsound, rfl, congrArg some ?_⟩
    refine congrArg (Reader.mk true · false) (Eq.symm (view_congr ?_ hlive))
    exact fun r _ => refText_setTool h fun _ => harguments
  · have hplace := hs.place u (mem_of_findTool h)
    rw [chatIndex_of_findTool h] at hplace
    refine single hsound rfl (withItems_eq ?_)
    refine view_extend hs.nodup hplace ?_ rfl ?_ hlive ?_
    · rw [refLive, h, Option.any_some, hu]
      rfl
    · exact fun r _ hne => refText_setTool h fun heq => absurd heq hne
    · rw [refText, findTool_setTool h, if_pos rfl, refText, h]
      exact harguments

/-- The call does not fit the tool. -/
def Tool.Refuses (t : Tool) (call : ToolCallDelta) : Prop :=
  t.done = true ∨
    (Text.trimmed call.id ≠ "" ∧ t.callID ≠ "" ∧ t.callID ≠ Text.trimmed call.id) ∨
    (Text.trimmed call.name ≠ "" ∧ t.name ≠ "" ∧ t.name ≠ Text.trimmed call.name)

instance (t : Tool) (call : ToolCallDelta) : Decidable (t.Refuses call) :=
  inferInstanceAs (Decidable (_ ∨ _ ∨ _))

/-- A fragment that fits is followed. -/
theorem follows_continueTool {call : ToolCallDelta} (hs : Sound s)
    (h : s.findTool t.chatIndex = some t) (hfits : ¬t.Refuses call) :
    (s.continueTool t call).error = none ∧
      Follows s (s.continueTool t call).state (s.continueTool t call).payloads := by
  rw [Tool.Refuses, not_or, not_or] at hfits
  obtain ⟨hdone, hid, hname⟩ := hfits
  rw [continueTool, if_neg hdone, if_neg hid, if_neg hname]
  rw [Bool.not_eq_true] at hdone
  exact ⟨rfl, follows_setTool hs h hdone grows_takeName t.itemID⟩

/-- One that does not is refused, though its id may be kept. -/
theorem follows_continueTool_refused {call : ToolCallDelta} (hs : Sound s)
    (h : s.findTool t.chatIndex = some t) (hrefuses : t.Refuses call) :
    (s.continueTool t call).error ≠ none ∧ (s.continueTool t call).payloads = [] ∧
      Follows s (s.continueTool t call).state [] := by
  rw [continueTool]
  by_cases hdone : t.done = true
  · rw [if_pos hdone]
    exact ⟨nofun, rfl, refl hs⟩
  rcases (or_iff_right hdone).1 hrefuses with hid | hname
  · rw [if_neg hdone, if_pos hid]
    exact ⟨nofun, rfl, refl hs⟩
  · rw [if_neg hdone, if_pos hname]
    rw [Bool.not_eq_true] at hdone
    split_ifs
    · exact ⟨nofun, rfl, refl hs⟩
    · exact ⟨nofun, rfl, follows_setTool hs h hdone grows_takeID t.itemID⟩

end Tools

/-! ### A new tool -/

section NewTool

variable {s : State} {t : Tool} {call : ToolCallDelta}

theorem findTool_addTool {i : ℤ} (h : s.findTool t.chatIndex = none) :
    (s.addTool t).findTool i = if i = t.chatIndex then some t else s.findTool i := by
  rw [addTool, findTool_nextIndex, findTool, find?_append]
  change (s.findTool i).or _ = _
  split_ifs with hi
  · subst hi
    rw [h, find?_singleton, if_pos (decide_eq_true rfl)]
    rfl
  · rw [find?_singleton, if_neg]
    · exact Option.or_none
    · rw [decide_eq_true_iff]
      exact Ne.symm hi

@[simp] theorem lane_addTool {kind : LaneKind} : (s.addTool t).lane kind = s.lane kind := by
  cases kind <;> rfl

section

variable (hs : Sound s) (h : s.findTool t.chatIndex = none)
  (hindex : t.outputIndex = s.outputOrder.length)

include hs h hindex

/-- A tool may be added. -/
theorem sound_addTool : Sound (s.addTool t) := by
  refine Sound.nextIndex hs.nodup ?_ ?_ ?_ ?_
  · intro hmem
    have hknown := hs.known _ hmem
    rw [h] at hknown
    cases hknown
  · intro kind
    have hlane := (hs.lanes kind).concat (r := .tool t.chatIndex) nofun
    cases kind <;> exact hlane
  · intro u hu
    rcases mem_append.1 hu with hold | hnew
    · have hplace := hs.place u hold
      rw [List.getElem?_append_left (List.getElem?_eq_some_iff.1 hplace).1]
      exact hplace
    · rw [mem_singleton.1 hnew, hindex]
      exact getElem?_concat_length
  · intro i hmem
    have hfound := findTool_addTool (i := i) h
    rw [addTool, findTool_nextIndex] at hfound
    rw [hfound]
    split_ifs with hi
    · rfl
    · refine hs.known i ((mem_append.1 hmem).resolve_right fun hnew => hi ?_)
      rw [mem_singleton] at hnew
      injection hnew

/-- Adding a tool is followed. -/
theorem follows_addTool {item : Item} (harguments : t.arguments = "") (hdone : t.done = false)
    (hkind : item.kind = .functionCall) :
    Follows s (s.addTool t) [.itemAdded t.outputIndex item] := by
  have hother : ∀ r ∈ s.outputOrder, ∀ i, r = .tool i → i ≠ t.chatIndex := by
    rintro r hr i rfl rfl
    have hknown := hs.known _ hr
    rw [h] at hknown
    cases hknown
  refine single (sound_addTool hs h hindex) rfl ?_
  rw [follow, hindex]
  refine (if_pos length_view.symm).trans (withItems_eq ?_)
  rw [hkind]
  refine view_concat (r := OutputRef.tool t.chatIndex) ?_ ?_ ?_ ?_
  · intro r hr
    cases r with
    | lane kind segment => rw [refText, lane_addTool, refText]
    | tool i =>
      rw [refText, findTool_addTool h, if_neg (hother _ hr i rfl), refText]
  · intro r hr
    cases r with
    | lane kind segment => rw [refLive, lane_addTool, refLive]
    | tool i =>
      rw [refLive, findTool_addTool h, if_neg (hother _ hr i rfl), refLive]
  · rw [refText, findTool_addTool h, if_pos rfl]
    exact harguments
  · rw [refLive, findTool_addTool h, if_pos rfl, Option.any_some, hdone]
    rfl

end

/-- A new tool takes its first fragment. -/
theorem not_refuses_newTool : ¬(s.newTool call).Refuses call := by
  rintro (hdone | ⟨-, -, hid⟩ | ⟨-, -, hname⟩)
  · exact Bool.false_ne_true hdone
  · exact hid rfl
  · exact hname rfl

/-- **A fragment of a tool call is refused only by the tool it is for.** -/
theorem follows_appendToolCallDelta (hs : Sound s)
    (h : ∀ t ∈ s.findTool call.chatIndex, ¬t.Refuses call) :
    (s.appendToolCallDelta call).error = none ∧
      Follows s (s.appendToolCallDelta call).state (s.appendToolCallDelta call).payloads := by
  rw [appendToolCallDelta]
  cases hfound : s.findTool call.chatIndex with
  | some t =>
    refine follows_continueTool hs ?_ (h t hfound)
    rw [chatIndex_of_findTool hfound]
    exact hfound
  | none =>
    have hadded : Follows s (s.addTool (s.newTool call))
        [.itemAdded _ { (s.newTool call).output .inProgress with value := "" }] :=
      follows_addTool hs hfound rfl rfl rfl rfl
    have hfind : (s.addTool (s.newTool call)).findTool (s.newTool call).chatIndex =
        some (s.newTool call) := by
      rw [findTool_addTool hfound, if_pos rfl]
    obtain ⟨herror, hcontinue⟩ := follows_continueTool hadded.sound hfind not_refuses_newTool
    exact ⟨herror, hadded.trans hcontinue⟩

theorem follows_appendToolCallDelta_refused (hs : Sound s)
    (hfound : s.findTool call.chatIndex = some t) (h : t.Refuses call) :
    (s.appendToolCallDelta call).error ≠ none ∧ (s.appendToolCallDelta call).payloads = [] ∧
      Follows s (s.appendToolCallDelta call).state [] := by
  rw [appendToolCallDelta, hfound]
  refine follows_continueTool_refused hs ?_ h
  rw [chatIndex_of_findTool hfound]
  exact hfound

end NewTool

/-! ## The end of all items -/

section Done

variable {s : State} {i j : ℤ} {kind : LaneKind} (status : ItemStatus)

theorem follows_toolDone {t : Tool} (hs : Sound s) (h : s.findTool t.chatIndex = some t)
    (hdone : t.done = false) {value : Option String} (hvalue : ∀ v ∈ value, v = t.arguments) :
    Follows s (s.setTool { t with done := true })
      [.valueDone .functionCall t.outputIndex t.itemID value,
        .itemDone t.outputIndex (t.output status)] := by
  have hvalueDone : Follows s s [.valueDone .functionCall t.outputIndex t.itemID value] := by
    refine stay hs (expect_eq (hs.stands_tool h hdone fun b hkind htext => ?_))
    exact ⟨hkind, fun v hv => (hvalue v hv).trans htext.symm⟩
  refine hvalueDone.trans (single (hs.setTool h rfl) rfl (withItems_eq ?_))
  refine view_stop hs.nodup (hs.place t (mem_of_findTool h)) ?_ ⟨rfl, ?_⟩ ?_ ?_ ?_
  · rw [refLive, h, Option.any_some, hdone]
    rfl
  · rw [refText, h]
    rfl
  · exact fun r _ => refText_setTool h fun _ => rfl
  · exact fun r _ hne => refLive_setTool h fun heq => absurd heq hne
  · have hset := findTool_setTool (s := s) (t := { t with done := true }) (i := t.chatIndex) h
    rw [if_pos rfl] at hset
    rw [refLive, hset]
    rfl

/-- Closing a tool is followed. -/
theorem follows_closeTool (hs : Sound s) :
    Follows s (s.closeTool status i).1 (s.closeTool status i).2 := by
  rw [closeTool]
  cases hfound : s.findTool i with
  | none => exact refl hs
  | some t =>
    dsimp only
    by_cases hdone : t.done = true
    · rw [if_pos hdone]
      exact refl hs
    · rw [if_neg hdone]
      rw [Bool.not_eq_true] at hdone
      rw [← chatIndex_of_findTool hfound] at hfound
      refine follows_toolDone status hs hfound hdone fun v hv => ?_
      exact (Option.some.inj (Option.ite_none_right_eq_some.1 hv).2).symm

theorem findTool_closeTool : (s.closeTool status i).1.findTool j =
    if j = i then (s.findTool i).map ({ · with done := true }) else s.findTool j := by
  rw [closeTool]
  cases hfound : s.findTool i with
  | none =>
    by_cases hj : j = i
    · rw [if_pos hj, hj]
      exact hfound
    · rw [if_neg hj]
  | some t =>
    have hindex := chatIndex_of_findTool hfound
    dsimp only
    by_cases hdone : t.done = true
    · rw [if_pos hdone]
      by_cases hj : j = i
      · rw [if_pos hj, hj, hfound, Option.map_some, ← hdone]
      · rw [if_neg hj]
    · subst hindex
      rw [if_neg hdone]
      exact findTool_setTool (t := { t with done := true }) hfound

@[simp] theorem lane_closeTool : (s.closeTool status i).1.lane kind = s.lane kind := by
  rw [closeTool]
  cases s.findTool i with
  | none => rfl
  | some t =>
    dsimp only
    by_cases hdone : t.done = true
    · rw [if_pos hdone]
    · rw [if_neg hdone]
      exact lane_setTool

/-- The tool, if there is one, is done. -/
def State.ToolDone (s : State) (i : ℤ) : Prop := ∀ t ∈ s.findTool i, t.done = true

theorem toolDone_closeTool (h : j = i ∨ s.ToolDone j) : (s.closeTool status i).1.ToolDone j := by
  intro t ht
  rw [findTool_closeTool] at ht
  split_ifs at ht with hj
  · obtain ⟨u, -, rfl⟩ := Option.map_eq_some_iff.1 ht
    rfl
  · exact h.resolve_left hj t ht

variable {l : List ℤ}

/-- …and closing all of them. -/
theorem follows_closeTools (hs : Sound s) :
    Follows s (s.closeTools status l).1 (s.closeTools status l).2 := by
  induction l generalizing s with
  | nil => exact refl hs
  | cons i l ih =>
    have hfirst : Follows s (s.closeTool status i).1 _ := follows_closeTool status hs
    exact hfirst.trans (ih hfirst.sound)

theorem lane_closeTools : (s.closeTools status l).1.lane kind = s.lane kind := by
  induction l generalizing s with
  | nil => rfl
  | cons i l ih => exact ih.trans (lane_closeTool status)

theorem toolDone_closeTools (h : j ∈ l ∨ s.ToolDone j) : (s.closeTools status l).1.ToolDone j := by
  induction l generalizing s with
  | nil => exact h.resolve_left not_mem_nil
  | cons i l ih =>
    refine ih ?_
    rw [mem_cons, or_assoc] at h
    rcases h with rfl | hmem | hdone
    · exact Or.inr (toolDone_closeTool status (Or.inl rfl))
    · exact Or.inl hmem
    · exact Or.inr (toolDone_closeTool status (Or.inr hdone))

/-- No item is open. -/
def State.AllDone (s : State) : Prop := (∀ kind, ¬(s.lane kind).Open) ∧ ∀ i, s.ToolDone i

/-- **All items that are open are ended**, and the reader takes it. -/
theorem follows_doneDeltaEvents (hs : Sound s) :
    Follows s s.doneDeltaEvents.1 s.doneDeltaEvents.2 := by
  have htext := follows_closeLane hs s.outputStatus .text
  have hreasoning := follows_closeLane htext.sound s.outputStatus .reasoning
  exact (htext.trans hreasoning).trans (follows_closeTools s.outputStatus hreasoning.sound)

/-- In the end nothing is open. -/
theorem allDone_doneDeltaEvents : s.doneDeltaEvents.1.AllDone := by
  rw [doneDeltaEvents]
  refine ⟨fun kind => ?_, fun i => toolDone_closeTools _ ?_⟩
  · rw [lane_closeTools]
    cases kind with
    | text =>
      rw [lane_closeLane_of_ne _ (by decide)]
      exact not_open_closeLane _
    | reasoning => exact not_open_closeLane _
  · generalize (s.closeLane s.outputStatus .text).1.closeLane s.outputStatus .reasoning = closed
    cases hfound : closed.1.findTool i with
    | none =>
      right
      intro t ht
      rw [hfound] at ht
      cases ht
    | some t =>
      left
      rw [State.sortedTools, (perm_insertionSort _ _).mem_iff, mem_map]
      exact ⟨t, mem_of_findTool hfound, chatIndex_of_findTool hfound⟩

theorem refLive_of_allDone (hs : Sound s) (h : s.AllDone) {r : OutputRef}
    (hr : r ∈ s.outputOrder) : s.refLive r = false := by
  cases r with
  | lane kind segment =>
    have hlt := ((hs.lanes kind).refs segment hr).resolve_right fun hopen => h.1 kind hopen.1
    exact decide_eq_false hlt.not_ge
  | tool i =>
    obtain ⟨t, ht⟩ := Option.isSome_iff_exists.1 (hs.known i hr)
    rw [refLive, ht, Option.any_some, h.2 i t ht]
    rfl

end Done

/-! ## Pieces -/

section Pieces

variable {s : State} {piece : Piece}

/-- The items of two states are the same. -/
structure SameItems (s s' : State) : Prop where
  text : s'.text = s.text
  reasoning : s'.reasoning = s.reasoning
  tools : s'.tools = s.tools
  outputOrder : s'.outputOrder = s.outputOrder

variable {s' : State}

section

variable (h : SameItems s s')

include h

theorem SameItems.lane (kind : LaneKind) : s'.lane kind = s.lane kind := by
  cases kind with
  | text => exact h.text
  | reasoning => exact h.reasoning

theorem SameItems.findTool (i : ℤ) : s'.findTool i = s.findTool i := congrArg (find? _) h.tools

theorem SameItems.sound (hs : Sound s) :
    Sound s' where
  nodup := by
    rw [h.outputOrder]
    exact hs.nodup
  lanes kind := by
    rw [h.outputOrder, h.lane]
    exact hs.lanes kind
  place := by
    rw [h.outputOrder, h.tools]
    exact hs.place
  known i := by
    rw [h.outputOrder, h.findTool]
    exact hs.known i

theorem SameItems.reader : s'.reader = s.reader := by
  refine congrArg (Reader.mk true · false) ?_
  rw [h.outputOrder]
  refine view_congr (fun r _ => ?_) fun r _ => ?_
  · cases r with
    | lane kind segment => rw [refText, h.lane, refText]
    | tool i => rw [refText, h.findTool, refText]
  · cases r with
    | lane kind segment => rw [refLive, h.lane, refLive]
    | tool i => rw [refLive, h.findTool, refLive]

theorem SameItems.follows (hs : Sound s) (hframe : s'.frame = s.frame) : Follows s s' [] :=
  ⟨h.sound hs, hframe, congrArg some h.reader.symm⟩

end

theorem follows_applyFinishReason (hs : Sound s) (reason : String) :
    Follows s (s.applyFinishReason reason) [] := by
  rw [applyFinishReason]
  split_ifs <;> exact SameItems.follows ⟨rfl, rfl, rfl, rfl⟩ hs rfl

/-- A piece that is not refused. -/
def State.Fits (s : State) : Piece → Prop
  | .annotations annotations => annotations.isSome = true
  | .toolCall call => ∀ t ∈ s.findTool call.chatIndex, ¬t.Refuses call
  | _ => True

instance (s : State) : DecidablePred s.Fits
  | .reasoning _ => inferInstanceAs (Decidable True)
  | .text _ => inferInstanceAs (Decidable True)
  | .annotations _ => inferInstanceAs (Decidable (_ = _))
  | .toolCall _ => inferInstanceAs (Decidable (∀ t ∈ _, _))
  | .finish _ => inferInstanceAs (Decidable True)

/-- **A piece that fits is taken, and read.** -/
theorem follows_take (hs : Sound s) (h : s.Fits piece) :
    (s.take piece).error = none ∧ Follows s (s.take piece).state (s.take piece).payloads := by
  cases piece with
  | reasoning delta => exact ⟨rfl, follows_appendLaneDelta hs .reasoning delta⟩
  | text delta => exact ⟨rfl, follows_appendLaneDelta hs .text delta⟩
  | annotations annotations =>
    obtain ⟨annotations, rfl⟩ := Option.isSome_iff_exists.1 h
    exact ⟨rfl, follows_appendAnnotationDelta hs annotations⟩
  | toolCall call => exact follows_appendToolCallDelta hs h
  | finish reason =>
    have hreason := follows_applyFinishReason hs reason
    have hdone := hreason.trans (follows_doneDeltaEvents hreason.sound)
    simp only [State.take]
    exact ⟨trivial, hdone⟩

/-- …and one that does not leaves nothing to read. -/
theorem follows_take_refused (hs : Sound s) (h : ¬s.Fits piece) :
    (s.take piece).error ≠ none ∧ (s.take piece).payloads = [] ∧
      Follows s (s.take piece).state [] := by
  cases piece with
  | reasoning delta => exact absurd trivial h
  | text delta => exact absurd trivial h
  | annotations annotations =>
    cases annotations with
    | none => exact ⟨nofun, rfl, refl hs⟩
    | some annotations => exact absurd rfl h
  | toolCall call =>
    simp only [State.Fits, not_forall, not_not] at h
    obtain ⟨t, hfound, hrefuses⟩ := h
    exact follows_appendToolCallDelta_refused hs hfound hrefuses
  | finish reason => exact absurd trivial h

/-- Every piece fits the state it meets. -/
def State.AllFit (s : State) : List Piece → Prop
  | [] => True
  | piece :: pieces => s.Fits piece ∧ AllFit (s.take piece).state pieces

instance State.decidableAllFit (s : State) : (pieces : List Piece) → Decidable (s.AllFit pieces)
  | [] => inferInstanceAs (Decidable True)
  | piece :: pieces =>
    haveI := State.decidableAllFit (s.take piece).state pieces
    inferInstanceAs (Decidable (_ ∧ _))

/-- **Pieces that fit are followed.** -/
theorem follows_takeAll {pieces : List Piece} (hs : Sound s) (h : s.AllFit pieces) :
    (s.takeAll pieces).error = none ∧
      Follows s (s.takeAll pieces).state (s.takeAll pieces).payloads := by
  induction pieces generalizing s with
  | nil => exact ⟨rfl, refl hs⟩
  | cons piece pieces ih =>
    obtain ⟨herror, hfirst⟩ := follows_take hs h.1
    obtain ⟨herror', hlater⟩ := ih hfirst.sound h.2
    rw [takeAll, herror]
    exact ⟨herror', hfirst.trans hlater⟩

end Pieces

end ResponsesStream
