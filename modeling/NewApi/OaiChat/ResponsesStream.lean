import Mathlib.Data.List.Sort
import NewApi.Machinery.Text

/-!
# OaiChat/ResponsesStream — chat chunks as Responses events

`ChatCompletionsStreamChunkToResponsesEvents`, `FinalizeChatCompletionsStreamToResponses` and `Fail`
(`relaykit/relayconvert/internal/oai_chat/to_oai_responses_stream_resp.go`).  A chunk is taken piece
by piece.  Text and reasoning each fill one item at a time (`Lane`), every tool call one of its own;
a finish reason closes all that are open.

* `State.take` — the events of one piece.
* `State.convert` — the events of a chunk, or an error that throws them away.
* `stream` — the events of a whole stream.
-/

namespace ResponsesStream

/-! ## Events -/

/-- The kinds of items. -/
inductive ItemKind where
  | message | reasoning | functionCall
  deriving DecidableEq

/-- The status of an item. -/
inductive ItemStatus where
  | inProgress | completed | incomplete
  deriving DecidableEq

/-- `dto.ResponsesOutput`; the value is the text, the summary or the arguments. -/
structure Item where
  kind : ItemKind
  id : String
  status : ItemStatus
  value : String := ""
  annotations : List String := []
  callID : String := ""
  name : String := ""
  deriving DecidableEq

/-- How a response ends, and the status of the stream until then. -/
inductive Status where
  | completed | incomplete | failed
  deriving DecidableEq

/-- `dto.ResponsesStreamResponse`, by the events that occur. -/
inductive Payload where
  | created (id model : String)
  | itemAdded (outputIndex : ℕ) (item : Item)
  | partAdded (outputIndex : ℕ) (itemID : String)
  | delta (kind : ItemKind) (outputIndex : ℕ) (itemID delta : String)
  | annotationAdded (outputIndex : ℕ) (itemID : String) (annotationIndex : ℕ) (body : String)
  | valueDone (kind : ItemKind) (outputIndex : ℕ) (itemID : String) (value : Option String)
  | partDone (outputIndex : ℕ) (itemID text : String)
  | itemDone (outputIndex : ℕ) (item : Item)
  | error (code message param : String)
  | finished (status : Status) (id model : String) (incompleteReason : Option String)
      (output : List Item)
  deriving DecidableEq

/-- An event as it is sent. -/
structure Event where
  payload : Payload
  sequenceNumber : Option ℕ
  deriving DecidableEq

/-! ## State -/

/-- The lanes of a stream: the message and the reasoning. -/
inductive LaneKind where
  | text | reasoning
  deriving DecidableEq

/-- The kind of a lane's items. -/
def LaneKind.itemKind : LaneKind → ItemKind
  | .text => .message
  | .reasoning => .reasoning

/-- The fields for the message, and for the reasoning. -/
structure Lane where
  started : Bool := false
  done : Bool := false
  outputIndex : ℕ := 0
  segment : ℕ := 0
  value : String := ""
  annotations : List String := []
  /-- `closedMessages`, `closedReasonings`. -/
  closed : List Item := []

/-- `chatToResponsesStreamTool`. -/
structure Tool where
  chatIndex : ℤ
  outputIndex : ℕ
  itemID : String
  callID : String
  name : String
  arguments : String := ""
  done : Bool := false

/-- `chatToResponsesOutputRef`. -/
inductive OutputRef where
  | lane (kind : LaneKind) (segment : ℕ)
  | tool (toolIndex : ℤ)
  deriving DecidableEq

/-- `ChatToResponsesStreamState`. -/
structure State where
  id : String
  model : String
  emitSequenceNumber : Bool
  status : Status := .completed
  incompleteReason : Option String := none
  sentCreated : Bool := false
  finalized : Bool := false
  nextSequenceNumber : ℕ := 0
  text : Lane := {}
  reasoning : Lane := {}
  /-- `toolsByIndex`. -/
  tools : List Tool := []
  /-- `nextOutputIndex` is its length. -/
  outputOrder : List OutputRef := []

namespace State

variable (s : State)

/-- The lane of a kind. -/
def lane : LaneKind → Lane
  | .text => s.text
  | .reasoning => s.reasoning

/-- A lane is changed. -/
def setLane (l : Lane) : LaneKind → State
  | .text => { s with text := l }
  | .reasoning => { s with reasoning := l }

/-- `messageID`, `reasoningID`. -/
def laneID (kind : LaneKind) : String :=
  match kind with
  | .text => s.id ++ "_msg_" ++ toString (s.lane kind).segment
  | .reasoning => s.id ++ "_reasoning_" ++ toString (s.lane kind).segment

/-- The status of items when the response ends. -/
def outputStatus : ItemStatus := if s.status = .completed then .completed else .incomplete

/-- `messageOutput`, `reasoningOutput`. -/
def laneOutput (kind : LaneKind) (status : ItemStatus) : Item where
  kind := kind.itemKind
  id := s.laneID kind
  status := status
  value := (s.lane kind).value
  annotations := (s.lane kind).annotations

end State

/-- `callID`. -/
def Tool.resolvedCallID (t : Tool) : String := if t.callID = "" then t.itemID else t.callID

/-- An id, if there is one, is the call's. -/
def Tool.takeID (t : Tool) (id : String) : Tool := if id = "" then t else { t with callID := id }

/-- A name, if there is one, is the call's. -/
def Tool.takeName (t : Tool) (name : String) : Tool := if name = "" then t else { t with name }

/-- The arguments grow. -/
def Tool.grow (t : Tool) (arguments : String) : Tool :=
  { t with arguments := t.arguments ++ arguments }

/-- `toolOutput`. -/
def Tool.output (t : Tool) (status : ItemStatus) : Item where
  kind := .functionCall
  id := t.itemID
  status := status
  value := t.arguments
  callID := t.resolvedCallID
  name := t.name

/-! ## Text and reasoning -/

/-- After an item was closed the next segment begins. -/
def Lane.reopen (l : Lane) : Lane :=
  if l.done then
    { l with
      segment := l.segment + 1, started := false, done := false, value := "", annotations := [] }
  else l

namespace State

variable (s : State)

/-- The events that open an item. -/
def openingEvents (kind : LaneKind) : List Payload :=
  let index := (s.lane kind).outputIndex
  let id := s.laneID kind
  .itemAdded index { kind := kind.itemKind, id, status := .inProgress } ::
    match kind with
    | .text => []
    | .reasoning => [.partAdded index id]

/-- `nextIndex`: the index is the number of items before. -/
def nextIndex (ref : OutputRef) : State := { s with outputOrder := s.outputOrder ++ [ref] }

/-- A lane takes the next output index. -/
def openLane (kind : LaneKind) (l : Lane) : State :=
  (s.setLane { l with started := true, outputIndex := s.outputOrder.length } kind).nextIndex
    (.lane kind l.segment)

/-- `startText`, and the first half of `appendReasoningDelta`. -/
def startLane (kind : LaneKind) : State × List Payload :=
  let l := (s.lane kind).reopen
  if l.started then (s.setLane l kind, [])
  else (s.openLane kind l, (s.openLane kind l).openingEvents kind)

/-- The lane grows by a delta. -/
def growLane (kind : LaneKind) (delta : String) : State :=
  s.setLane { s.lane kind with value := (s.lane kind).value ++ delta } kind

/-- `appendTextDelta`, `appendReasoningDelta`. -/
def appendLaneDelta (kind : LaneKind) (delta : String) : State × List Payload :=
  let opened := s.startLane kind
  (opened.1.growLane kind delta,
    opened.2 ++ [.delta kind.itemKind (opened.1.lane kind).outputIndex (opened.1.laneID kind) delta])

/-- Text of the answer. -/
def appendTextDelta (delta : String) : State × List Payload := s.appendLaneDelta .text delta

/-- Text of the reasoning. -/
def appendReasoningDelta (delta : String) : State × List Payload :=
  s.appendLaneDelta .reasoning delta

/-- `appendAnnotationDelta`, for annotations that decode. -/
def appendAnnotationDelta (annotations : List String) : State × List Payload :=
  let opened := s.startLane .text
  let l := opened.1.text
  ({ opened.1 with text := { l with annotations := l.annotations ++ annotations } },
    opened.2 ++ annotations.zipIdx.map fun a =>
      .annotationAdded l.outputIndex (opened.1.laneID .text) (l.annotations.length + a.2) a.1)

end State

/-! ## Tool calls -/

/-- `dto.ToolCallResponse`. -/
structure ToolCallDelta where
  index : Option ℤ := none
  id : String := ""
  name : String := ""
  arguments : String := ""

/-- Why a chunk is refused. -/
inductive ConvertError where
  | invalidAnnotations
  | afterCompletion (chatIndex : ℤ)
  | changedID (chatIndex : ℤ) (id incoming : String)
  | changedName (chatIndex : ℤ) (name incoming : String)
  deriving DecidableEq

/-- What pieces of a chunk leave: the state, the events so far, and an error if there was one. -/
structure Taken where
  state : State
  payloads : List Payload := []
  error : Option ConvertError := none

/-- The index, `0` if it is missing. -/
def ToolCallDelta.chatIndex (call : ToolCallDelta) : ℤ := call.index.getD 0

namespace State

variable (s : State)

/-- The tool of a chat index. -/
def findTool (chatIndex : ℤ) : Option Tool := s.tools.find? (·.chatIndex = chatIndex)

/-- A tool is changed. -/
def setTool (t : Tool) : State :=
  { s with tools := s.tools.map fun u => if u.chatIndex = t.chatIndex then t else u }

/-- The tool of a call that was not heard of before. -/
def newTool (call : ToolCallDelta) : Tool where
  chatIndex := call.chatIndex
  outputIndex := s.outputOrder.length
  itemID :=
    if Text.trimmed call.id = "" then s.id ++ "_call_" ++ toString call.chatIndex
    else Text.trimmed call.id
  callID := Text.trimmed call.id
  name := Text.trimmed call.name

/-- A tool takes the next output index. -/
def addTool (t : Tool) : State :=
  { s with tools := s.tools ++ [t] }.nextIndex (.tool t.chatIndex)

/-- The second half of `appendToolCallDelta`. -/
def continueTool (t : Tool) (call : ToolCallDelta) : Taken :=
  let incomingID := Text.trimmed call.id
  let incomingName := Text.trimmed call.name
  if t.done then { state := s, error := some (.afterCompletion t.chatIndex) }
  else if incomingID ≠ "" ∧ t.callID ≠ "" ∧ t.callID ≠ incomingID then
    { state := s, error := some (.changedID t.chatIndex t.callID incomingID) }
  else if incomingName ≠ "" ∧ t.name ≠ "" ∧ t.name ≠ incomingName then
    -- the id was taken before the name is looked at
    { state := s.setTool (t.takeID incomingID)
      error := some (.changedName t.chatIndex t.name incomingName) }
  else
    { state := s.setTool (((t.takeID incomingID).takeName incomingName).grow call.arguments)
      payloads :=
        if call.arguments = "" then []
        else [.delta .functionCall t.outputIndex t.itemID call.arguments] }

/-- A piece of a tool call. -/
def appendToolCallDelta (call : ToolCallDelta) : Taken :=
  match s.findTool call.chatIndex with
  | some t => s.continueTool t call
  | none =>
    let t := s.newTool call
    let taken := (s.addTool t).continueTool t call
    { taken with
      payloads := .itemAdded t.outputIndex { t.output .inProgress with value := "" } ::
        taken.payloads }

/-! ## Closing items -/

/-- The events that report a lane's value. -/
def closingEvents (kind : LaneKind) : List Payload :=
  let l := s.lane kind
  match kind with
  | .text =>
    [.valueDone .message l.outputIndex (s.laneID .text)
      (if s.emitSequenceNumber then some l.value else none)]
  | .reasoning =>
    [.valueDone .reasoning l.outputIndex (s.laneID .reasoning) (some l.value),
      .partDone l.outputIndex (s.laneID .reasoning) l.value]

/-- The first two parts of `doneDeltaEvents`. -/
def closeLane (status : ItemStatus) (kind : LaneKind) : State × List Payload :=
  let l := s.lane kind
  let item := s.laneOutput kind status
  if l.started ∧ l.done = false then
    (s.setLane { l with done := true, closed := l.closed ++ [item] } kind,
      s.closingEvents kind ++ [.itemDone l.outputIndex item])
  else (s, [])

/-- The body of its loop over the tools. -/
def closeTool (status : ItemStatus) (chatIndex : ℤ) : State × List Payload :=
  match s.findTool chatIndex with
  | none => (s, [])
  | some t =>
    if t.done then (s, [])
    else
      (s.setTool { t with done := true },
        [.valueDone .functionCall t.outputIndex t.itemID
            (if s.emitSequenceNumber then some t.arguments else none),
          .itemDone t.outputIndex (t.output status)])

/-- The tools are closed in order. -/
def closeTools (s : State) (status : ItemStatus) : List ℤ → State × List Payload
  | [] => (s, [])
  | i :: rest =>
    let closed := s.closeTool status i
    let later := closeTools closed.1 status rest
    (later.1, closed.2 ++ later.2)

/-- `sortedTools`, by their indexes. -/
def sortedTools : List ℤ := (s.tools.map Tool.chatIndex).insertionSort (· ≤ ·)

/-- All that is open is closed. -/
def doneDeltaEvents : State × List Payload :=
  let status := s.outputStatus
  let text := s.closeLane status .text
  let reasoning := text.1.closeLane status .reasoning
  let tools := reasoning.1.closeTools status reasoning.1.sortedTools
  (tools.1, text.2 ++ reasoning.2 ++ tools.2)

/-- How the response ends. -/
def applyFinishReason (finishReason : String) : State :=
  let reason := Text.trimmed finishReason
  if reason = "length" then
    { s with status := .incomplete, incompleteReason := some "max_output_tokens" }
  else if reason = "content_filter" then
    { s with status := .incomplete, incompleteReason := some "content_filter" }
  else { s with status := .completed, incompleteReason := none }

end State

/-! ## Chunks -/

/-- One piece of a chunk that is converted. -/
inductive Piece where
  | reasoning (delta : String)
  | text (delta : String)
  /-- The annotations, if they decode. -/
  | annotations (annotations : Option (List String))
  | toolCall (call : ToolCallDelta)
  | finish (reason : String)

/-- The delta of a chunk. -/
structure Choice where
  reasoning : String := ""
  text : String := ""
  /-- Annotations that are there, and what they decode to. -/
  annotations : Option (Option (List String)) := none
  toolCalls : List ToolCallDelta := []
  finishReason : Option String := none

/-- `dto.ChatCompletionsStreamResponse`. -/
structure Chunk where
  id : String := ""
  model : String := ""
  choices : List Choice := []

/-- The pieces of a choice, in the order of the loop body. -/
def Choice.pieces (c : Choice) : List Piece :=
  (if c.reasoning = "" then [] else [.reasoning c.reasoning]) ++
    (if c.text = "" then [] else [.text c.text]) ++
    c.annotations.toList.map .annotations ++
    c.toolCalls.map .toolCall ++
    ((c.finishReason.filter (Text.trimmed · ≠ "")).toList.map .finish)

/-- The pieces of a chunk in the order they are taken. -/
def Chunk.pieces (c : Chunk) : List Piece := c.choices.flatMap Choice.pieces

namespace State

variable (s : State)

/-- The events of one piece. -/
def take : Piece → Taken
  | .reasoning delta =>
    { state := (s.appendReasoningDelta delta).1, payloads := (s.appendReasoningDelta delta).2 }
  | .text delta =>
    { state := (s.appendTextDelta delta).1, payloads := (s.appendTextDelta delta).2 }
  | .annotations none => { state := s, error := some .invalidAnnotations }
  | .annotations (some annotations) =>
    { state := (s.appendAnnotationDelta annotations).1
      payloads := (s.appendAnnotationDelta annotations).2 }
  | .toolCall call => s.appendToolCallDelta call
  | .finish reason =>
    let closed := (s.applyFinishReason reason).doneDeltaEvents
    { state := closed.1, payloads := closed.2 }

/-- The events of pieces, up to the first that is refused. -/
def takeAll (s : State) : List Piece → Taken
  | [] => { state := s }
  | piece :: pieces =>
    let first := s.take piece
    match first.error with
    | some e => { first with error := some e }
    | none =>
      let later := takeAll first.state pieces
      { later with payloads := first.payloads ++ later.payloads }

/-- `response.created` is sent first, and once. -/
def ensureCreated : State × List Payload :=
  if s.sentCreated then (s, []) else ({ s with sentCreated := true }, [.created s.id s.model])

/-- The id and the model are those of the first chunk that has one. -/
def adopt (chunk : Chunk) : State :=
  { s with
    id := if s.id = "" then chunk.id else s.id
    model := if s.model = "" then chunk.model else s.model }

/-- `event`: events are numbered one after the other. -/
def number (payloads : List Payload) : List Event :=
  payloads.zipIdx.map fun p =>
    { payload := p.1
      sequenceNumber := if s.emitSequenceNumber then some (s.nextSequenceNumber + p.2) else none }

/-- …and the counter has moved past them. -/
def advance (payloads : List Payload) : State :=
  if s.emitSequenceNumber then
    { s with nextSequenceNumber := s.nextSequenceNumber + payloads.length }
  else s

/-- The pieces of a chunk, and the created event before them. -/
def taken (chunk : Chunk) : Taken :=
  let created := (s.adopt chunk).ensureCreated
  let later := created.1.takeAll chunk.pieces
  { later with payloads := created.2 ++ later.payloads }

/-- `ChatCompletionsStreamChunkToResponsesEvents`. -/
def convert (chunk : Chunk) : State × Except ConvertError (List Event) :=
  let taken := s.taken chunk
  (taken.state.advance taken.payloads,
    match taken.error with
    | some e => .error e
    | none => .ok (s.number taken.payloads))

end State

/-! ## The end of a stream -/

/-- The arguments of `Fail`. -/
structure Failure where
  code : String := ""
  message : String := ""
  param : String := ""
  deriving DecidableEq

namespace State

variable (s : State)

/-- An item of the final response. -/
def finalItem (status : ItemStatus) : OutputRef → Option Item
  | .lane kind segment =>
    match (s.lane kind).closed[segment]? with
    | some closed => some { closed with status }
    | none => some (s.laneOutput kind status)
  | .tool toolIndex => (s.findTool toolIndex).map (·.output status)

/-- The terminal event. -/
def finalResponse : Payload :=
  .finished s.status s.id s.model s.incompleteReason
    (s.outputOrder.filterMap (s.finalItem s.outputStatus))

/-- The events of `FinalizeChatCompletionsStreamToResponses`. -/
def finalizePayloads : List Payload :=
  if s.finalized then []
  else s.doneDeltaEvents.2 ++ [{ s.doneDeltaEvents.1 with finalized := true }.finalResponse]

/-- The events of `Fail`. -/
def failPayloads (failure : Failure) : List Payload :=
  if s.finalized then []
  else
    let code := Text.trimmed failure.code
    let code := if code = "" then "server_error" else code
    let message := Text.trimmed failure.message
    let message := if message = "" then "upstream response stream failed" else message
    let created := { s with status := .failed }.ensureCreated
    let closed := created.1.doneDeltaEvents
    created.2 ++ closed.2 ++
      [.error code message failure.param, { closed.1 with finalized := true }.finalResponse]

end State

/-- How a stream is ended. -/
inductive Ending where
  | finalize
  | fail (failure : Failure)
  deriving DecidableEq

/-- The events at the end. -/
def State.finish (s : State) : Ending → List Event
  | .finalize => s.number s.finalizePayloads
  | .fail failure => s.number (s.failPayloads failure)

/-- **The events of a stream**: a chunk that is refused is followed by `Fail`. -/
def stream (refused : Failure) (ending : Ending) (s : State) : List Chunk → List Event
  | [] => s.finish ending
  | chunk :: chunks =>
    match s.convert chunk with
    | (s, .ok events) => events ++ stream refused ending s chunks
    | (s, .error _) => s.finish (.fail refused)

/-- `NewChatToResponsesStreamState`. -/
def newState (id model : String) (emitSequenceNumber : Bool) : State :=
  { id, model, emitSequenceNumber }

end ResponsesStream
