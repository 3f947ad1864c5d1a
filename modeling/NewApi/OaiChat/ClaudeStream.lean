import NewApi.Dto.Merge

/-!
# OaiChat/ClaudeStream — chat chunks as Claude events

`StreamResponseOpenAI2Claude` and `FinalizeStreamResponseOpenAI2Claude`
(`relaykit/relayconvert/internal/oai_chat/to_claude_messages_resp.go`).  Text and thinking fill one
block at a time, tool calls as many as there are; a block of another type closes what is open.  The
message ends with the finish reason if a usage is known, with a chunk without choices if one is, or
by finalisation.

* `State.convert` — the events of a chunk.
* `stream` — the events of a whole stream.
-/

namespace ClaudeStream

open Dto (Usage ClaudeUsage)

/-! ## Events -/

/-- The content block of a start event. -/
inductive ContentBlock where
  | text | thinking
  | toolUse (id name : String)
  deriving DecidableEq

/-- What a block grows by. -/
inductive Delta where
  | text (text : String)
  | thinking (thinking : String)
  | inputJSON (partialJSON : String)
  | citation (citation : String)
  deriving DecidableEq

/-- `dto.ClaudeResponse`, by the events that occur. -/
inductive Event where
  | messageStart (id model : String) (usage : ClaudeUsage)
  | blockStart (index : ℕ) (block : ContentBlock)
  | blockDelta (index : ℕ) (delta : Delta)
  | blockStop (index : ℕ)
  | messageDelta (usage : Option ClaudeUsage) (stopReason : String)
  | messageStop
  deriving DecidableEq

/-! ## Tool calls -/

/-- `ToolCalls` with the maps into them: a pointer to a call is its place. -/
structure CallTable (α : Type) where
  calls : List α := []
  byIndex : List (ℤ × ℕ) := []
  byID : List (String × ℕ) := []

namespace CallTable

variable {α : Type} (idOf : α → String) (t : CallTable α)

/-- The call a fragment is for: by its id, or by its index unless that call has another id. -/
def find (index : ℤ) (id : String) : Option ℕ :=
  let found := (if id = "" then none else t.byID.lookup id).or (t.byIndex.lookup index)
  found.filter fun place => !(t.calls[place]?).any fun c => id ≠ "" ∧ idOf c ≠ "" ∧ idOf c ≠ id

/-- …or a new one. -/
def place (index : ℤ) (id : String) : ℕ := (t.find idOf index id).getD t.calls.length

/-- The call at the place of a fragment is changed, and the maps lead to it. -/
def put (index : ℤ) (id : String) (c : α) (known : Bool) : CallTable α :=
  let place := t.place idOf index id
  { calls := if place < t.calls.length then t.calls.set place c else t.calls ++ [c]
    byIndex := (index, place) :: t.byIndex
    byID := if known ∨ id = "" then t.byID else (id, place) :: t.byID }

end CallTable

/-- `ClaudeStreamToolCall`. -/
structure ToolCall where
  blockIndex : ℕ
  id : String := ""
  name : String := ""
  pendingArguments : String := ""
  started : Bool := false
  deriving DecidableEq

namespace ToolCall

variable (tool : ToolCall)

/-- The start of a block, and the arguments that were waiting for it. -/
def startEvents (id : String) : List Event :=
  .blockStart tool.blockIndex (.toolUse id tool.name) ::
    if tool.pendingArguments = "" then []
    else [.blockDelta tool.blockIndex (.inputJSON tool.pendingArguments)]

/-- The body of the loop of `startPendingToolBlocks`. -/
def startPending (uuid : ℕ → String) : ToolCall × List Event :=
  if tool.started ∨ tool.name = "" then (tool, [])
  else
    let id := if tool.id = "" then "toolu_" ++ uuid tool.blockIndex else tool.id
    ({ tool with id, started := true, pendingArguments := "" }, tool.startEvents id)

/-- An id and a name are taken once, arguments are kept until the block is started. -/
def take (id name arguments : String) : ToolCall :=
  { tool with
    id := if tool.id = "" then id else tool.id
    name := if tool.name = "" then name else tool.name
    pendingArguments :=
      if tool.started then tool.pendingArguments else tool.pendingArguments ++ arguments }

/-- The second half of the loop over the tool calls of a chunk. -/
def feed (id name arguments : String) : ToolCall × List Event :=
  let tool := tool.take id name arguments
  if ¬tool.started ∧ tool.id ≠ "" ∧ tool.name ≠ "" then
    ({ tool with started := true, pendingArguments := "" }, tool.startEvents tool.id)
  else
    (tool,
      if tool.started ∧ arguments ≠ "" then [.blockDelta tool.blockIndex (.inputJSON arguments)]
      else [])

end ToolCall

/-! ## State -/

/-- The kind of block that is open. -/
inductive LastMessagesType where
  | none | text | tools | thinking
  deriving DecidableEq

/-- `ClaudeConvertInfo`, with `SendResponseCount` of the request. -/
structure State where
  lastMessagesType : LastMessagesType := .none
  index : ℕ := 0
  usage : Option Usage := none
  finishReason : String := ""
  done : Bool := false
  toolCallBaseIndex : ℕ := 0
  toolCallMaxIndexOffset : ℕ := 0
  toolCalls : CallTable ToolCall := {}
  sendResponseCount : ℕ := 0

/-- What a conversion is given beside the chunks: the estimated prompt, and the ids it draws, by the
block they are for. -/
structure Env where
  estimatePromptTokens : ℤ := 0
  uuid : ℕ → String

/-- `OpenAIFinishReasonToClaudeStopReason`. -/
def stopReasonOpenAI2Claude (finishReason : String) : String :=
  let reason := Text.lower finishReason
  if reason = "stop" then "end_turn"
  else if reason = "stop_sequence" then "stop_sequence"
  else if reason = "length" ∨ reason = "max_tokens" then "max_tokens"
  else if reason = "content_filter" then "refusal"
  else if reason = "tool_calls" then "tool_use"
  else finishReason

namespace State

variable (env : Env) (s : State)

/-- The events that close what is open. -/
def stopOpenBlocks : List Event :=
  match s.lastMessagesType with
  | .none => []
  | .text | .thinking => [.blockStop s.index]
  | .tools =>
    if s.toolCalls.calls = [] then
      (List.range (s.toolCallMaxIndexOffset + 1)).map fun offset =>
        .blockStop (s.toolCallBaseIndex + offset)
    else (s.toolCalls.calls.filter (·.started)).map fun tool => .blockStop tool.blockIndex

/-- Tools that could not be announced before are now. -/
def startPendingToolBlocks : State × List Event :=
  if s.lastMessagesType = .tools then
    ({ s with
        toolCalls :=
          { s.toolCalls with calls := s.toolCalls.calls.map fun tool => (tool.startPending env.uuid).1 } },
      s.toolCalls.calls.flatMap fun tool => (tool.startPending env.uuid).2)
  else (s, [])

/-- Pending tools are announced, then all is closed. -/
def appendStopOpenBlocks : State × List Event :=
  let pending := s.startPendingToolBlocks env
  (pending.1, pending.2 ++ pending.1.stopOpenBlocks)

/-- The next free index, and no tools. -/
def advance : State :=
  match s.lastMessagesType with
  | .none => s
  | .tools =>
    { s with
      lastMessagesType := .none, index := s.toolCallBaseIndex + s.toolCalls.calls.length
      toolCallBaseIndex := 0, toolCallMaxIndexOffset := 0, toolCalls := {} }
  | .text | .thinking => { s with lastMessagesType := .none, index := s.index + 1 }

/-- What is open is closed, and its indices are used up. -/
def stopOpenBlocksAndAdvance : State × List Event :=
  if s.lastMessagesType = .none then (s, [])
  else
    let stopped := s.appendStopOpenBlocks env
    (stopped.1.advance, stopped.2)

/-- A block of a type that holds one block at a time is open. -/
def ensureBlock (type : LastMessagesType) (block : ContentBlock) : State × List Event :=
  if s.lastMessagesType = type then (s, [])
  else
    let stopped := s.stopOpenBlocksAndAdvance env
    ({ stopped.1 with lastMessagesType := type },
      stopped.2 ++ [.blockStart stopped.1.index block])

/-- `appendCitationDeltas`, for the citations that were read off the annotations. -/
def appendCitationDeltas (citations : List String) : State × List Event :=
  if citations = [] then (s, [])
  else
    let opened := s.ensureBlock env .text .text
    (opened.1,
      opened.2 ++ citations.map fun citation => .blockDelta opened.1.index (.citation citation))

/-- A delta of the text or of the thinking. -/
def appendDelta (type : LastMessagesType) (block : ContentBlock) (delta : Delta) :
    State × List Event :=
  let opened := s.ensureBlock env type block
  (opened.1, opened.2 ++ [.blockDelta opened.1.index delta])

end State

/-! ## Chunks -/

/-- `dto.ToolCallResponse`. -/
structure ToolCallDelta where
  index : Option ℤ := none
  id : String := ""
  name : String := ""
  arguments : String := ""
  deriving DecidableEq

/-- The delta of a chunk. -/
structure Choice where
  reasoning : String := ""
  text : String := ""
  citations : List String := []
  toolCalls : List ToolCallDelta := []
  finishReason : Option String := none
  deriving DecidableEq

/-- `dto.ChatCompletionsStreamResponse`. -/
structure Chunk where
  id : String := ""
  model : String := ""
  usage : Option Usage := none
  choices : List Choice := []
  deriving DecidableEq

/-- The finish reason, if there is one. -/
def Choice.finish (c : Choice) : String := c.finishReason.getD ""

namespace State

variable (env : Env) (s : State)

/-- The tables for tool calls are set up. -/
def enterTools : State × List Event :=
  if s.lastMessagesType = .tools then (s, [])
  else
    let stopped := s.stopOpenBlocksAndAdvance env
    ({ stopped.1 with
        lastMessagesType := .tools, toolCallBaseIndex := stopped.1.index
        toolCallMaxIndexOffset := 0, toolCalls := {} },
      stopped.2)

/-- The call a fragment is for, as it stands. -/
def toolFor (index : ℤ) (id : String) : ToolCall :=
  (s.toolCalls.calls[s.toolCalls.place ToolCall.id index id]?).getD
    { blockIndex := s.toolCallBaseIndex + s.toolCalls.calls.length }

/-- The loop body over the tool calls of a chunk. -/
def takeToolCall (index : ℤ) (call : ToolCallDelta) : State × List Event :=
  let incomingID := Text.trimmed call.id
  let tool := s.toolFor index incomingID
  let fed := tool.feed incomingID (Text.trimmed call.name) call.arguments
  ({ s with
      toolCalls := s.toolCalls.put ToolCall.id index incomingID fed.1 (decide (tool.id ≠ "")) },
    fed.2)

/-- The tool calls of a chunk, one by one. -/
def takeToolCalls (s : State) : List (ToolCallDelta × ℕ) → State × List Event
  | [] => (s, [])
  | (call, i) :: calls =>
    -- a call without an index counts by its place in the chunk
    let taken := s.takeToolCall (call.index.getD i) call
    let later := takeToolCalls taken.1 calls
    (later.1, taken.2 ++ later.2)

/-- The branch for tool calls. -/
def appendToolCalls (calls : List ToolCallDelta) : State × List Event :=
  let entered := s.enterTools env
  let taken := entered.1.takeToolCalls calls.zipIdx
  let count := taken.1.toolCalls.calls.length
  ({ taken.1 with
      toolCallMaxIndexOffset := count - 1
      index := if count = 0 then taken.1.index else taken.1.toolCallBaseIndex + count - 1 },
    entered.2 ++ taken.2)

/-- The first content a choice has: tool calls before reasoning before text. -/
def appendContent (c : Choice) : State × List Event :=
  if c.toolCalls ≠ [] then s.appendToolCalls env c.toolCalls
  else if c.reasoning ≠ "" then s.appendDelta env .thinking .thinking (.thinking c.reasoning)
  else if c.text ≠ "" then s.appendDelta env .text .text (.text c.text)
  else (s, [])

/-- What `clientVisibleClaudeStreamUsage` answers. -/
def clientVisibleUsage (incoming : Option Usage) : Option ClaudeUsage :=
  match s.usage.map Dto.usageFromOpenAI, incoming.map Dto.usageFromOpenAI with
  | none, converted => converted
  | some prior, none => some prior
  | some prior, some converted => some (Dto.mergeClaudeUsageNonZero prior converted)

/-- …and what it leaves. -/
def mergeUsage (incoming : Option Usage) : State :=
  match incoming with
  | none => s
  | some incoming => { s with usage := some (Dto.mergeUsageNonZero (s.usage.getD {}) incoming) }

/-- The end of a message. -/
def finishMessage (usage : Option ClaudeUsage) (stopReason : String) : State × List Event :=
  let stopped := s.appendStopOpenBlocks env
  ({ stopped.1 with done := true }, stopped.2 ++ [.messageDelta usage stopReason, .messageStop])

/-- The message ends if a usage is known. -/
def finishIfUsage (incoming : Option Usage) (stopReason : String) : State × List Event :=
  match s.clientVisibleUsage incoming with
  | none => (s.mergeUsage incoming, [])
  | some usage => (s.mergeUsage incoming).finishMessage env (some usage) stopReason

/-- `end_turn` stands for no stop reason. -/
def stopReason : String :=
  let reason := stopReasonOpenAI2Claude s.finishReason
  if reason = "" then "end_turn" else reason

/-- The first frame of a response. -/
def startMessage (chunk : Chunk) : State × List Event :=
  if s.sendResponseCount = 1 then
    match chunk.usage.filter fun usage => decide usage.hasTokens with
    | none =>
      (s, [.messageStart chunk.id chunk.model { inputTokens := env.estimatePromptTokens }])
    | some usage =>
      (s.mergeUsage (some usage), [.messageStart chunk.id chunk.model (Dto.usageFromOpenAI usage)])
  else (s, [])

/-- The finish reason of a choice is kept. -/
def noteFinish (c : Choice) : State :=
  if c.finish = "" then s else { s with finishReason := c.finish }

/-- The branch for a chunk with a choice. -/
def takeChoice (usage : Option Usage) (c : Choice) : State × List Event :=
  let content := (s.noteFinish c).appendContent env c
  let cited := content.1.appendCitationDeltas env c.citations
  if c.finish = "" then (cited.1, content.2 ++ cited.2)
  else
    let finished := cited.1.finishIfUsage env usage (stopReasonOpenAI2Claude cited.1.finishReason)
    (finished.1, content.2 ++ cited.2 ++ finished.2)

/-- A chunk after the message was started. -/
def takeChunk (chunk : Chunk) : State × List Event :=
  match chunk.choices with
  | [] => s.finishIfUsage env chunk.usage s.stopReason
  | chosenChoice :: _ => s.takeChoice env chunk.usage chosenChoice

/-- `StreamResponseOpenAI2Claude`; the caller has counted the chunk. -/
def streamResponseOpenAI2Claude (chunk : Chunk) : State × List Event :=
  if s.done then (s, [])
  else
    let started := s.startMessage env chunk
    let rest := started.1.takeChunk env chunk
    (rest.1, started.2 ++ rest.2)

/-- `IncrSendResponseCount`. -/
def counted : State := { s with sendResponseCount := s.sendResponseCount + 1 }

/-- The next chunk of a stream. -/
def convert (chunk : Chunk) : State × List Event :=
  s.counted.streamResponseOpenAI2Claude env chunk

/-- `FinalizeStreamResponseOpenAI2Claude`. -/
def finalize : List Event :=
  if s.done then [] else (s.finishMessage env (s.clientVisibleUsage none) s.stopReason).2

end State

/-- **The events of a stream.** -/
def stream (env : Env) (s : State) : List Chunk → List Event
  | [] => s.finalize env
  | chunk :: chunks => (s.convert env chunk).2 ++ stream env (s.convert env chunk).1 chunks

end ClaudeStream
