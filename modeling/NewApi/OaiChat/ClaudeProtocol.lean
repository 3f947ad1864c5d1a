import NewApi.OaiChat.ClaudeReader

/-!
# OaiChat/ClaudeProtocol — the protocol of Claude events

Every chunk moves the conversion and the client together (`Moves`), and the message is ended once.
Finalisation does not start a message, so a stream without a chunk has an end and no beginning.

* `moves_appendContent`, `moves_appendCitationDeltas` — the moves of a chunk.
* `obeys_stream_iff` — a stream obeys the protocol if it has a chunk at all.
-/

namespace ClaudeStream

open Reader State List

open Dto (Usage ClaudeUsage)
open Reading (Leads)

/-! ## Moves -/

/-- The fields no content touches. -/
def State.frame (s : State) : Bool × ℕ := (s.done, s.sendResponseCount)

/-- **A move of the conversion, with events the client follows.** -/
structure Moves (s s' : State) (events : List Event) : Prop where
  sound : Sound s'
  frame : s'.frame = s.frame
  leads : ∀ r, Agrees s r → Leads Reader.step r events (Agrees s')

section Moves

variable {s s' s'' : State} {before after : List Event} (env : Env)

theorem Moves.refl (hs : Sound s) : Moves s s [] := ⟨hs, rfl, fun _ h => Leads.nil h⟩

/-- Moves one after the other. -/
theorem Moves.trans (h : Moves s s' before) (h' : Moves s' s'' after) :
    Moves s s'' (before ++ after) :=
  ⟨h'.sound, h'.frame.trans h.frame, fun r hr => (h.leads r hr).append h'.leads⟩

theorem frame_stop : (s.appendStopOpenBlocks env).1.advance.frame = s.frame := by
  have hpending : (s.appendStopOpenBlocks env).1.frame = s.frame := by
    rw [appendStopOpenBlocks, startPendingToolBlocks]
    split_ifs <;> rfl
  rw [advance]
  cases (s.appendStopOpenBlocks env).1.lastMessagesType <;> exact hpending

/-- What is open may be closed. -/
theorem moves_stopOpenBlocksAndAdvance (hs : Sound s) :
    Moves s (s.stopOpenBlocksAndAdvance env).1 (s.stopOpenBlocksAndAdvance env).2 ∧
      (s.stopOpenBlocksAndAdvance env).1.lastMessagesType = .none := by
  rw [stopOpenBlocksAndAdvance]
  split_ifs with htype
  · exact ⟨Moves.refl hs, htype⟩
  · have hstop : Sound (s.appendStopOpenBlocks env).1 := sound_startPendingToolBlocks env hs
    refine ⟨⟨sound_advance hstop, frame_stop env, fun r hr => ?_⟩, advance_lastMessagesType⟩
    exact (hr.appendStopOpenBlocks env hs).mono fun r' h' => h'.advance hstop

/-- The types of which one block is open at a time. -/
inductive Single : LastMessagesType → ContentBlock → BlockKind → Prop where
  | text : Single .text .text .text
  | thinking : Single .thinking .thinking .thinking

variable {type : LastMessagesType} {block : ContentBlock} {kind : BlockKind}

theorem Single.openBlocks (h : Single type block kind) (htype : s.lastMessagesType = type) :
    s.openBlocks = [(s.index, kind)] := by
  cases h <;> rw [openBlocks, htype]

theorem Single.kind_eq (h : Single type block kind) : block.kind = kind := by
  cases h <;> rfl

section

variable (hs : Sound s)

include hs

/-- A new block of text or thinking, where nothing is open. -/
theorem moves_blockStart (htype : s.lastMessagesType = .none) (hblock : Single type block kind) :
    Moves s { s with lastMessagesType := type } [.blockStart s.index block] := by
  have hfree : ¬s.Used s.index := by
    rw [State.Used, htype]
    exact Nat.lt_irrefl _
  have hnone : s.openBlocks = [] := by rw [openBlocks, htype]
  have hused : ∀ i, i ≤ s.index ↔ s.Used i ∨ i = s.index := by
    intro i
    rw [State.Used, htype]
    exact Nat.le_iff_lt_or_eq
  refine ⟨⟨⟨hs.blockIndex, hs.byIndex, hs.byID⟩, fun htools => ?_⟩, rfl, fun r hr => ?_⟩
  · cases hblock <;> cases htools
  · refine hr.start hfree (Or.inr hnone) (fun x => ?_) ?_
    · rw [hnone, or_iff_right not_mem_nil, hblock.openBlocks rfl, hblock.kind_eq]
      exact mem_singleton
    · cases hblock <;> exact hused

section

variable (hblock : Single type block kind)

include hblock

/-- A block of the kind is open, or opened. -/
theorem moves_ensureBlock :
    Moves s (s.ensureBlock env type block).1 (s.ensureBlock env type block).2 ∧
      (s.ensureBlock env type block).1.lastMessagesType = type := by
  rw [ensureBlock]
  split_ifs with htype
  · exact ⟨Moves.refl hs, htype⟩
  · obtain ⟨hstop, hnone⟩ := moves_stopOpenBlocksAndAdvance env hs
    exact ⟨hstop.trans (moves_blockStart hstop.sound hnone hblock), rfl⟩

theorem moves_blockDelta (htype : s.lastMessagesType = type) (delta : Delta)
    (hkind : delta.kind = kind) : Moves s s [.blockDelta s.index delta] := by
  refine ⟨hs, rfl, fun _ hr => hr.delta ?_⟩
  rw [hblock.openBlocks htype, hkind]
  exact mem_singleton_self _

/-- Text and thinking. -/
theorem moves_appendDelta (delta : Delta) (hkind : delta.kind = kind) :
    Moves s (s.appendDelta env type block delta).1 (s.appendDelta env type block delta).2 := by
  obtain ⟨hopened, htype⟩ := moves_ensureBlock env hs hblock
  exact hopened.trans (moves_blockDelta hopened.sound hblock htype delta hkind)

end

theorem moves_citations (htype : s.lastMessagesType = .text) (citations : List String) :
    Moves s s (citations.map fun citation => .blockDelta s.index (.citation citation)) := by
  induction citations with
  | nil => exact Moves.refl hs
  | cons citation citations ih =>
    exact (moves_blockDelta hs .text htype (.citation citation) rfl).trans ih

/-- Citations. -/
theorem moves_appendCitationDeltas (citations : List String) :
    Moves s (s.appendCitationDeltas env citations).1 (s.appendCitationDeltas env citations).2 := by
  rw [appendCitationDeltas]
  split_ifs
  · exact Moves.refl hs
  · obtain ⟨hopened, htype⟩ := moves_ensureBlock env hs .text
    exact hopened.trans (moves_citations hopened.sound htype citations)

theorem tabled_enterTools :
    Tabled (s.enterTools env).1 ∧ (s.enterTools env).1.lastMessagesType = .tools ∧
      (s.enterTools env).1.frame = s.frame ∧ ∀ r, Agrees s r →
        Leads step r (s.enterTools env).2 (Agrees (s.enterTools env).1) := by
  rw [enterTools]
  split_ifs with htype
  · exact ⟨hs.toTabled, htype, rfl, fun r hr => Leads.nil hr⟩
  · obtain ⟨hstop, hnone⟩ := moves_stopOpenBlocksAndAdvance env hs
    refine ⟨⟨nofun, nofun, nofun⟩, rfl, hstop.frame, fun r hr => (hstop.leads r hr).mono ?_⟩
    intro r' h'
    refine ⟨h'.started, h'.running, h'.unstopped, fun x => ?_, fun b hb => Or.inl ?_⟩
    · rw [h'.live, openBlocks, hnone]
      rfl
    · have hused := h'.used b hb
      rw [State.Used, hnone] at hused
      exact hused

end

variable {r : Reader}

/-- While tools are open the index does not count. -/
theorem Agrees.of_tools (h : Agrees s r) (htools : s.lastMessagesType = .tools)
    (htools' : s'.lastMessagesType = .tools) (hbase : s'.toolCallBaseIndex = s.toolCallBaseIndex)
    (hcalls : s'.toolCalls = s.toolCalls) : Agrees s' r := by
  have hstarted : s'.startedTools = s.startedTools := by
    rw [startedTools, hcalls, startedTools]
  refine ⟨h.started, h.running, h.unstopped, fun x => ?_, fun b hb => ?_⟩
  · rw [h.live, mem_openBlocks_tools htools, mem_openBlocks_tools htools', hstarted]
  · have hused := h.used b hb
    rw [State.Used, htools] at hused
    rw [State.Used, htools', hbase, hstarted]
    exact hused

theorem frame_takeToolCalls {calls : List (ToolCallDelta × ℕ)} :
    (s.takeToolCalls calls).1.frame = s.frame := by
  induction calls generalizing s with
  | nil => rfl
  | cons call calls ih => exact ih

/-- Tool calls. -/
theorem moves_appendToolCalls (hs : Sound s) {calls : List ToolCallDelta} (hcalls : calls ≠ []) :
    Moves s (s.appendToolCalls env calls).1 (s.appendToolCalls env calls).2 := by
  obtain ⟨htabled, htools, hframe, hentered⟩ := tabled_enterTools env hs
  have hzip : calls.zipIdx ≠ [] := fun hnil => hcalls (by simpa using hnil)
  obtain ⟨htabled', htools', hnonempty⟩ :=
    @tabled_takeToolCalls (s.enterTools env).1 htabled htools calls.zipIdx
  refine ⟨⟨⟨htabled'.blockIndex, htabled'.byIndex, htabled'.byID⟩, fun _ =>
    hnonempty (Or.inl hzip)⟩, frame_takeToolCalls.trans hframe, fun r hr => ?_⟩
  refine (hentered r hr).append fun r' h' => ?_
  exact (agrees_takeToolCalls htabled htools h').mono fun r'' h'' =>
    h''.of_tools htools' htools' rfl rfl

/-- **The content of a choice.** -/
theorem moves_appendContent (hs : Sound s) (c : Choice) :
    Moves s (s.appendContent env c).1 (s.appendContent env c).2 := by
  rw [appendContent]
  split_ifs with hcalls hreasoning htext
  · exact moves_appendToolCalls env hs hcalls
  · exact moves_appendDelta env hs .thinking _ rfl
  · exact moves_appendDelta env hs .text _ rfl
  · exact Moves.refl hs

/-- The blocks of two states are the same. -/
structure SameBlocks (s s' : State) : Prop where
  frame : s'.frame = s.frame
  lastMessagesType : s'.lastMessagesType = s.lastMessagesType
  index : s'.index = s.index
  base : s'.toolCallBaseIndex = s.toolCallBaseIndex
  toolCalls : s'.toolCalls = s.toolCalls

theorem SameBlocks.moves (h : SameBlocks s s') (hs : Sound s) : Moves s s' [] := by
  have hstarted : s'.startedTools = s.startedTools := by
    rw [startedTools, h.toolCalls, startedTools]
  refine ⟨⟨⟨?_, ?_, ?_⟩, ?_⟩, h.frame,
    fun r hr => Leads.nil ⟨hr.started, hr.running, hr.unstopped, ?_, ?_⟩⟩
  · rw [h.toolCalls, h.base]
    exact hs.blockIndex
  · rw [h.toolCalls]
    exact hs.byIndex
  · rw [h.toolCalls]
    exact hs.byID
  · rw [h.lastMessagesType, h.toolCalls]
    exact hs.nonempty
  · rw [openBlocks, h.lastMessagesType, h.index, hstarted]
    exact hr.live
  · unfold State.Used
    rw [h.lastMessagesType, h.index, h.base, hstarted]
    exact hr.used

/-! ## The end of a message -/

/-- A message that is finished has stopped. -/
theorem stopped_finishMessage (hs : Sound s) (h : Agrees s r) (usage : Option ClaudeUsage)
    (stopReason : String) :
    Leads step r (s.finishMessage env usage stopReason).2 (·.stopped = true) := by
  refine (h.appendStopOpenBlocks env hs).append fun r' h' => ?_
  have hdelta : r'.step (.messageDelta usage stopReason) = some { r' with ended := true } := by
    rw [step, if_pos ⟨h'.started, h'.unstopped⟩, follow,
      if_pos ⟨h'.running, h'.live⟩]
    exact fun _ _ _ hstart => Event.noConfusion hstart
  have hstop : step { r' with ended := true } .messageStop =
      some { r' with ended := true, stopped := true } := by
    rw [step, if_pos ⟨h'.started, h'.unstopped⟩, follow, if_pos rfl]
    exact fun _ _ _ hstart => Event.noConfusion hstart
  exact Leads.cons hdelta (Leads.single hstop rfl)

/-- A message that has begun: the client was told the end, or holds what the conversion thinks it
holds. -/
def Running (s : State) (r : Reader) : Prop :=
  if s.done then r.stopped = true else 1 ≤ s.sendResponseCount ∧ Sound s ∧ Agrees s r

/-- The message has begun and goes on. -/
structure Begun (s : State) : Prop where
  running : s.done = false
  counted : 1 ≤ s.sendResponseCount

theorem Begun.of_frame (h : Begun s) (hframe : s'.frame = s.frame) : Begun s' := by
  have hdone : s'.done = s.done := congrArg Prod.fst hframe
  have hcount : s'.sendResponseCount = s.sendResponseCount := congrArg Prod.snd hframe
  exact ⟨hdone.trans h.running, hcount ▸ h.counted⟩

theorem Begun.running_iff (h : Begun s) : Running s r ↔ Sound s ∧ Agrees s r := by
  rw [Running, h.running, if_neg Bool.false_ne_true, and_iff_right h.counted]

theorem sameBlocks_mergeUsage (usage : Option Usage) : SameBlocks s (s.mergeUsage usage) := by
  cases usage <;> exact ⟨rfl, rfl, rfl, rfl, rfl⟩

theorem sameBlocks_noteFinish (c : Choice) : SameBlocks s (s.noteFinish c) := by
  unfold noteFinish
  split_ifs <;> exact ⟨rfl, rfl, rfl, rfl, rfl⟩

section

variable (hbegun : Begun s) (hs : Sound s) (h : Agrees s r)

include hbegun hs h

theorem running_finishIfUsage (usage : Option Usage) (stopReason : String) :
    Leads step r (s.finishIfUsage env usage stopReason).2
      (Running (s.finishIfUsage env usage stopReason).1) := by
  have hmerged := (sameBlocks_mergeUsage usage).moves hs
  obtain ⟨r', hread, hr'⟩ := hmerged.leads r h
  cases hread
  rw [finishIfUsage]
  cases s.clientVisibleUsage usage with
  | none => exact Leads.nil ((hbegun.of_frame hmerged.frame).running_iff.2 ⟨hmerged.sound, hr'⟩)
  | some visible =>
    refine (stopped_finishMessage env hmerged.sound hr' (some visible) stopReason).mono ?_
    intro r' hstopped
    exact (if_pos rfl).mpr hstopped

/-- A choice leads on, or to the end. -/
theorem running_takeChoice (usage : Option Usage) (c : Choice) :
    Leads step r (s.takeChoice env usage c).2 (Running (s.takeChoice env usage c).1) := by
  have hnoted := (sameBlocks_noteFinish c).moves hs
  have hcontent := hnoted.trans (moves_appendContent env hnoted.sound c)
  have hcited := hcontent.trans (moves_appendCitationDeltas env hcontent.sound c.citations)
  have hbegun' := hbegun.of_frame hcited.frame
  rw [takeChoice]
  split_ifs
  · exact (hcited.leads r h).mono fun r' h' => hbegun'.running_iff.2 ⟨hcited.sound, h'⟩
  · exact (hcited.leads r h).append fun r' h' =>
      running_finishIfUsage env hbegun' hcited.sound h' usage _

/-- …and so does a chunk. -/
theorem running_takeChunk (chunk : Chunk) :
    Leads step r (s.takeChunk env chunk).2 (Running (s.takeChunk env chunk).1) := by
  rw [takeChunk]
  cases chunk.choices with
  | nil => exact running_finishIfUsage env hbegun hs h chunk.usage _
  | cons c _ => exact running_takeChoice env hbegun hs h chunk.usage c

end

end Moves

/-! ## Streams -/

section Stream

variable {s : State} {r : Reader} (env : Env)

theorem convert_of_done (h : s.done = true) (chunk : Chunk) :
    s.convert env chunk = (s.counted, []) := by
  exact if_pos h

theorem convert_of_running (h : s.done = false) (chunk : Chunk) :
    s.convert env chunk =
      (((s.counted.startMessage env chunk).1.takeChunk env chunk).1,
        (s.counted.startMessage env chunk).2 ++
          ((s.counted.startMessage env chunk).1.takeChunk env chunk).2) := by
  refine if_neg ?_
  rw [counted, h]
  exact Bool.false_ne_true

/-- **A chunk after the first**: nothing is started again. -/
theorem running_convert (h : Running s r) (chunk : Chunk) :
    Leads step r (s.convert env chunk).2 (Running (s.convert env chunk).1) := by
  by_cases hdone : s.done = true
  · rw [Running, if_pos hdone] at h
    rw [convert_of_done env hdone]
    exact Leads.nil ((if_pos hdone).mpr h)
  · rw [Running, if_neg hdone] at h
    rw [Bool.not_eq_true] at hdone
    obtain ⟨hcount, hs, hagrees⟩ := h
    have hbegun : Begun s.counted := ⟨hdone, Nat.le_succ_of_le hcount⟩
    have hstart : s.counted.startMessage env chunk = (s.counted, []) := by
      refine if_neg fun heq => ?_
      have hzero : s.sendResponseCount = 0 := Nat.succ.inj heq
      omega
    rw [convert_of_running env hdone, hstart, nil_append]
    exact running_takeChunk env hbegun ⟨⟨hs.blockIndex, hs.byIndex, hs.byID⟩, hs.nonempty⟩
      ⟨hagrees.started, hagrees.running, hagrees.unstopped, hagrees.live, hagrees.used⟩ chunk

theorem startMessage_first (chunk : Chunk) : ∃ s' usage,
    (counted {}).startMessage env chunk = (s', [.messageStart chunk.id chunk.model usage]) ∧
      SameBlocks (counted {}) s' := by
  have hcount : (counted {}).sendResponseCount = 1 := rfl
  rw [startMessage, if_pos hcount]
  cases chunk.usage.filter fun usage => decide usage.hasTokens with
  | none => exact ⟨_, _, rfl, rfl, rfl, rfl, rfl, rfl⟩
  | some usage => exact ⟨_, _, rfl, sameBlocks_mergeUsage (some usage)⟩

/-- **The first chunk** starts the message. -/
theorem running_convert_first (chunk : Chunk) :
    Leads step {} (convert env {} chunk).2 (Running (convert env {} chunk).1) := by
  obtain ⟨s', usage, hstart, hsame⟩ := startMessage_first env chunk
  have hsound : Sound (counted {}) := ⟨⟨nofun, nofun, nofun⟩, nofun⟩
  have hagrees : Agrees (counted {}) { started := true } :=
    ⟨rfl, rfl, rfl, fun _ => Iff.rfl, nofun⟩
  have hmoves := hsame.moves hsound
  have hbegun : Begun s' := Begun.of_frame ⟨rfl, Nat.le_refl _⟩ hsame.frame
  obtain ⟨r', hread, hr'⟩ := hmoves.leads _ hagrees
  cases hread
  rw [convert_of_running env rfl, hstart]
  exact Leads.cons rfl (running_takeChunk env hbegun hmoves.sound hr' chunk)

/-- A stream that is finalized has stopped. -/
theorem stopped_finalize (h : Running s r) :
    Leads step r (s.finalize env) (·.stopped = true) := by
  rw [finalize]
  rw [Running] at h
  split_ifs at h ⊢ with hdone
  · exact Leads.nil h
  · exact stopped_finishMessage env h.2.1 h.2.2 _ _

/-- **A stream stops.** -/
theorem stopped_stream {chunks : List Chunk} (h : Running s r) :
    Leads step r (stream env s chunks) (·.stopped = true) := by
  induction chunks generalizing s r with
  | nil => exact stopped_finalize env h
  | cons chunk chunks ih => exact (running_convert env h chunk).append fun r' h' => ih h'

theorem obeys_of_leads {events : List Event} (h : Leads step {} events (·.stopped = true)) :
    Obeys events := by
  obtain ⟨r, hread, hstopped⟩ := h
  rw [Obeys, hread]
  exact hstopped

/-- **A stream obeys the protocol if it has a chunk.** -/
theorem obeys_stream_iff (env : Env) (chunks : List Chunk) :
    Obeys (stream env {} chunks) ↔ chunks ≠ [] := by
  cases chunks with
  | nil => exact iff_of_false (by rw [Obeys]; exact Bool.false_ne_true) fun h => h rfl
  | cons chunk chunks =>
    refine iff_of_true (obeys_of_leads ?_) (cons_ne_nil _ _)
    exact (running_convert_first env chunk).append fun r h => stopped_stream env h

/-- One without does not: it ends a message that was not started. -/
theorem not_obeys_stream_nil : ¬Obeys (stream { uuid := fun _ => "u" } {} []) := by decide

end Stream

end ClaudeStream
