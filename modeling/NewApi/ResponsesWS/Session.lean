import Mathlib.Data.Nat.Notation

/-!
# ResponsesWS/Session — one Responses connection over WebSocket

A session (`relay/responses_websocket.go`) has three kinds of routines.  The client loop takes
messages and starts a worker for each `response.create` that finds the slot free.  The upstream
reader hands each frame to the call in the slot.  A worker prepares billing and the connection,
reads frames until one ends its call, bills it, and frees the slot.

* `judge` — what a worker makes of a frame.
* `perform` — one step of a worker.
* `step` — one step of the session.
-/

namespace ResponsesWS

/-! ## Frames -/

/-- The type of an upstream event. -/
inductive EventType where
  | error
  | completed | done | incomplete | failed | cancelled | canceled
  | response (name : String)
  | other (name : String)
  deriving DecidableEq

/-- The events that finish a response. -/
def EventType.isTerminal : EventType → Bool
  | .completed | .done | .incomplete | .failed | .cancelled | .canceled => true
  | _ => false

/-- The events of a response: `response.` and a name. -/
def EventType.isResponse : EventType → Bool
  | .response _ => true
  | type => type.isTerminal

/-- An upstream event.  The fields hold what was decoded, also of a body that does not decode. -/
structure Frame where
  type : EventType
  decodes : Bool := true
  streamID : String := ""
  /-- The id of the response the event carries, if it carries one. -/
  response : Option String := none
  /-- `event_id`, `response_id` and `status` of an error. -/
  eventID : String := ""
  responseID : String := ""
  status : ℕ := 0
  /-- The type and the code of the error. -/
  error : Option (String × String) := none
  /-- The create the event is an answer to.  No field of the event says so. -/
  origin : ℕ
  deriving DecidableEq

/-- `responsesWSMessage`: a frame, or the end of the connection. -/
inductive Incoming where
  | frame (f : Frame)
  | disconnect
  deriving DecidableEq

/-- `responsesWSControl`, with the ids in its body. -/
structure Control where
  eventID : String := ""
  streamID : String := ""
  responseID : String := ""
  deriving DecidableEq

/-- What an error frame means for the active call. -/
structure ErrorVerdict where
  terminal : Bool := false
  ambiguous : Bool := false
  controlError : Bool := false
  deriving DecidableEq

/-- The codes of a cancel that fails. -/
def controlCodes : List String :=
  ["response_not_found", "response_not_active", "response_already_completed"]

/-- The error answers the control that was sent. -/
def isControlError (event : Frame) (responseID : String) (pending : Control) : Bool :=
  (event.eventID ≠ "" && event.eventID = pending.eventID) ||
    (event.responseID ≠ "" && event.responseID = pending.responseID &&
      event.responseID ≠ responseID) ||
    ((event.streamID = "" || event.streamID = pending.streamID) &&
      event.error.any fun error =>
        error.1 = "invalid_request_error" && controlCodes.contains error.2)

/-- What an error means for the call. -/
def responsesWSErrorEndsRequest (event : Frame) (streamID responseID : String)
    (control : Option Control) : ErrorVerdict :=
  if control.any (isControlError event responseID) then { controlError := true }
  else if (event.streamID ≠ "" ∧ event.streamID ≠ streamID) ∨
      (responseID ≠ "" ∧ event.responseID ≠ "" ∧ event.responseID ≠ responseID) then {}
  else { terminal := true, ambiguous := control.isSome && event.responseID = "" }

/-! ## Calls -/

/-- The variables of the loop in `runCall`. -/
structure Streaming where
  accepted : Bool := false
  pendingControl : Option Control := none
  sentControl : Option Control := none
  responseID : String := ""
  deriving DecidableEq

/-- How far `runCall` has got. -/
inductive Phase where
  | preparing
  | streaming (st : Streaming)
  /-- `runCall` has returned. -/
  | ended (closeAfter : Bool)
  deriving DecidableEq

/-- A create that was admitted: its `responsesWSCallState` and its worker. -/
structure Call where
  id : ℕ
  streamID : String
  model : String
  /-- The message is a valid request. -/
  parses : Bool
  controls : Option Control := none
  phase : Phase := .preparing
  deriving DecidableEq

/-- An event of a response is one of the active call. -/
def Streaming.observe (st : Streaming) (f : Frame) : Streaming :=
  if f.type.isResponse then
    { st with
      accepted := true
      responseID := if f.response.getD "" = "" then st.responseID else f.response.getD "" }
  else st

/-- The event carries the response that ended last. -/
def Frame.Names (last : String) (f : Frame) : Prop :=
  f.response.getD "" ≠ "" ∧ f.response.getD "" = last

instance (last : String) (f : Frame) : Decidable (f.Names last) :=
  inferInstanceAs (Decidable (_ ∧ _))

/-- What becomes of a call after a frame. -/
inductive Verdict where
  /-- It goes on; the frame is passed to the client, and a pending control upstream. -/
  | goesOn (st : Streaming) (forwards flushes : Bool)
  /-- It ends, with a settlement or a refund. -/
  | ends (settles closeAfter : Bool) (lastResponseID : String)
  deriving DecidableEq

/-- The end of the loop body: terminal events end the call. -/
def conclude (last : String) (st : Streaming) (f : Frame) : Verdict :=
  if f.type.isTerminal then .ends true false (f.response.getD last)
  else .goesOn st true true

/-- The branch of the loop body for an error. -/
def judgeError (last : String) (c : Call) (st : Streaming) (f : Frame) : Verdict :=
  if f.responseID ≠ "" ∧ f.responseID = last then .goesOn st false false
  else
    let verdict := responsesWSErrorEndsRequest f c.streamID st.responseID st.sentControl
    if verdict.terminal = false then
      .goesOn (if verdict.controlError then { st with sentControl := none } else st) true false
    else if st.accepted then .ends true verdict.ambiguous st.responseID
    else .ends false (f.status = 401 ∨ f.status = 403) last

/-- The body of the loop in `runCall`, for a frame. -/
def judge (last : String) (c : Call) (st : Streaming) (f : Frame) : Verdict :=
  if f.decodes = false then conclude last st f
  else if f.type ≠ .error ∧ f.streamID ≠ "" ∧ f.streamID ≠ c.streamID then .goesOn st true false
  else if f.Names last then .goesOn st false false
  else if f.type = .error then judgeError last c st f
  else conclude last (st.observe f) f

/-! ## The first half of `runCall` -/

/-- One pass of the retry loop; `some closes` is a failure, with a status that closes or not. -/
structure Attempt where
  /-- `selectResponsesWSChannel`, or `restoreConnectionContext`. -/
  select : Option Bool := none
  /-- `PrepareRequestBilling`, later `PrepareTieredBillingForSelectedGroup`. -/
  billing : Option Bool := none
  payload : Option Bool := none
  /-- A dial that fails, and whether it is tried again. -/
  dial : Option (Bool × Bool) := none
  writes : Bool := true

/-- How the request fares before its frames are read. -/
structure Setup where
  middleware : Option Bool := none
  access : Option Bool := none
  attempts : List Attempt := [{}]

/-- How preparing a call ends. -/
inductive Opened where
  | failed (prepared closeAfter : Bool)
  | ready
  deriving DecidableEq

/-- The request is written to a connection that is open. -/
def reuse (alive : Bool) (a : Attempt) : Opened :=
  match a.select, a.billing, a.payload with
  | some closes, _, _ => .failed false closes
  | none, some closes, _ => .failed false closes
  | none, none, some closes => .failed true closes
  | none, none, none => if alive && a.writes then .ready else .failed true true

/-- The retry loop; `prepared` once billing is, `closes` from the failure before. -/
def connect (alive : Bool) : (prepared closes : Bool) → List Attempt → Opened
  | prepared, closes, [] => .failed prepared closes
  | prepared, _, a :: rest =>
    match a.select, a.billing, a.payload, a.dial with
    | some closes, _, _, _ => .failed prepared closes
    | none, some closes, _, _ => .failed prepared closes
    | none, none, some closes, _ => .failed true closes
    | none, none, none, some (true, closes) => connect alive true closes rest
    | none, none, none, some (false, closes) => .failed true closes
    | none, none, none, none =>
      if alive = false then .failed true false else if a.writes then .ready else .failed true true

/-- `runCall`, up to the loop, with the middleware around it. -/
def openCall (alive : Bool) (lockedModel : Option String) (c : Call) (setup : Setup) : Opened :=
  match setup.middleware, setup.access with
  | some closes, _ => .failed false closes
  | none, access =>
    if c.parses = false ∨ c.model = "" ∨ lockedModel.any (· ≠ c.model) then .failed false false
    else
      match access with
      | some closes => .failed false closes
      | none =>
        if lockedModel.isSome then reuse alive (setup.attempts.headD {})
        else connect alive false true setup.attempts

/-! ## The session -/

/-- The moves of billing. -/
inductive EntryKind where
  | prepared | settled | refunded
  deriving DecidableEq

/-- A move of billing, with the frame that caused it. -/
structure Entry where
  call : ℕ
  kind : EntryKind
  frame : Option Frame := none
  deriving DecidableEq

/-- `responsesWSSession`. -/
structure Session where
  /-- The context is not cancelled. -/
  alive : Bool := true
  current : Option ℕ := none
  workers : List Call := []
  nextCall : ℕ := 0
  /-- The workers that have freed the slot and are about to shut the session down. -/
  closing : ℕ := 0
  /-- The upstream reader runs, and what it has read for which call. -/
  reading : Bool := false
  held : Option (Incoming × ℕ) := none
  lockedModel : Option String := none
  lastResponseID : String := ""
  log : List Entry := []

namespace Session

variable (s : Session)

/-- The context is cancelled. -/
def shutdown : Session := { s with alive := false }

/-- A write that fails closes the session. -/
def wrote (ok : Bool) : Session := if ok then s else s.shutdown

/-- Moves of billing are made. -/
def record (entries : List Entry) : Session := { s with log := s.log ++ entries }

/-- The call was settled or refunded. -/
def Billed (id : ℕ) : Prop := ∃ e ∈ s.log, e.call = id ∧ e.kind ≠ .prepared

instance (id : ℕ) : Decidable (s.Billed id) := inferInstanceAs (Decidable (∃ _ ∈ _, _))

/-- `RefundFailedRequestBilling`: a settled session never refunds again. -/
def refund (id : ℕ) (frame : Option Frame) : Session :=
  if s.Billed id then s else s.record [⟨id, .refunded, frame⟩]

/-- `ConsumeResponsesQuota`. -/
def settle (id : ℕ) (frame : Option Frame) : Session := s.record [⟨id, .settled, frame⟩]

end Session

/-! ## Steps of a worker -/

/-- The steps of a worker. -/
inductive WorkerStep where
  | prepare (setup : Setup)
  | takeIncoming (clientWrites targetWrites : Bool)
  | takeControl (targetWrites : Bool)
  | timeout
  /-- The context is cancelled. -/
  | notice
  /-- A panic, after billing was prepared or before. -/
  | crash (prepared : Bool)
  /-- The deferred part of `runRequest`, until it unlocks. -/
  | finish (writes : Bool)

/-- A frame for the loop of a call. -/
def takeFrame (s : Session) (c : Call) (st : Streaming) (f : Frame)
    (clientWrites targetWrites : Bool) : Session × Call :=
  match judge s.lastResponseID c st f with
  | .ends settles closeAfter last =>
    let s := { s with lastResponseID := last }
    (if settles then s.settle c.id (some f) else s.refund c.id (some f),
      { c with phase := .ended closeAfter })
  | .goesOn st forwards flushes =>
    let s := if forwards then s.wrote clientWrites else s
    if flushes ∧ st.accepted ∧ st.pendingControl.isSome then
      (s.wrote targetWrites, { c with
        phase := .streaming { st with sentControl := st.pendingControl, pendingControl := none } })
    else (s, { c with phase := .streaming st })

/-- The deferred part of `runCall` after a panic. -/
def crashed (s : Session) (c : Call) (prepared : Bool) : Session :=
  match c.phase with
  | .preparing =>
    if prepared then (s.record [⟨c.id, .prepared, none⟩]).refund c.id none else s
  | .streaming _ => s.refund c.id none
  | .ended _ => s

/-- One step of the worker of a call; no call is left when it is finished. -/
def perform (s : Session) (c : Call) : WorkerStep → Session × Option Call
  | .prepare setup =>
    if c.phase = .preparing then
      match openCall s.alive s.lockedModel c setup with
      | .failed prepared closeAfter =>
        (if prepared then (s.record [⟨c.id, .prepared, none⟩]).refund c.id none else s,
          some { c with phase := .ended closeAfter })
      | .ready =>
        ({ s.record [⟨c.id, .prepared, none⟩] with lockedModel := some c.model, reading := true },
          some { c with phase := .streaming {} })
    else (s, some c)
  | .takeIncoming clientWrites targetWrites =>
    match c.phase, s.held with
    | .streaming st, some (incoming, id) =>
      if id ≠ c.id then (s, some c)
      else
        match incoming with
        | .disconnect =>
          ({ s with held := none, reading := false }.settle c.id none,
            some { c with phase := .ended true })
        | .frame f =>
          let result := takeFrame { s with held := none } c st f clientWrites targetWrites
          (result.1, some result.2)
    | _, _ => (s, some c)
  | .takeControl targetWrites =>
    match c.phase, c.controls with
    | .streaming st, some control =>
      let c := { c with controls := none }
      if st.pendingControl.isSome ∨ st.sentControl.isSome then (s, some c)
      else if st.accepted = false then
        (s, some { c with phase := .streaming { st with pendingControl := some control } })
      else
        (s.wrote targetWrites,
          some { c with phase := .streaming { st with sentControl := some control } })
    | _, _ => (s, some c)
  | .timeout =>
    match c.phase with
    | .streaming _ => (s.settle c.id none, some { c with phase := .ended true })
    | _ => (s, some c)
  | .notice =>
    match c.phase with
    | .streaming _ =>
      if s.alive then (s, some c) else (s.settle c.id none, some { c with phase := .ended false })
    | _ => (s, some c)
  | .crash prepared => (crashed s c prepared, some { c with phase := .ended true })
  | .finish writes =>
    match c.phase with
    | .ended closeAfter =>
      ({ s with
          current := none
          closing := if writes && !closeAfter then s.closing else s.closing + 1 }, none)
    | _ => (s, some c)

/-! ## Steps of the session -/

/-- What a client sends. -/
inductive ClientMessage where
  | create (streamID model : String) (parses : Bool)
  | cancel (control : Control)
  /-- Anything else is answered with an error. -/
  | other

/-- The steps of the session's routines. -/
inductive Op where
  | receive (message : ClientMessage)
  | clientGone
  | closeForPolicy
  /-- The shutdown after a call that closes the session, or whose last write has failed. -/
  | closeAfter
  | read (incoming : Incoming) (clientWrites : Bool)
  /-- The reader finds the call finished it has a frame for. -/
  | release (clientWrites : Bool)
  | readerStops
  | worker (k : ℕ) (a : WorkerStep)

/-- A frame for no call goes to the client, and the end of the connection closes the session. -/
def unclaimed (s : Session) (incoming : Incoming) (clientWrites : Bool) : Session :=
  match incoming with
  | .frame _ => if clientWrites then s else { s.shutdown with reading := false }
  | .disconnect => { s.shutdown with reading := false }

/-- A control is put into the channel of a call, if there is room. -/
def offerControl (id : ℕ) (control : Control) (c : Call) : Call :=
  if c.id = id ∧ c.controls = none then { c with controls := some control } else c

/-- One step. -/
def step (s : Session) : Op → Session
  | .receive (.create streamID model parses) =>
    if s.current.isSome then s
    else
      { s with
        current := some s.nextCall
        workers := s.workers ++ [{ id := s.nextCall, streamID, model, parses }]
        nextCall := s.nextCall + 1 }
  | .receive (.cancel control) =>
    match s.current with
    | none => s
    | some id => { s with workers := s.workers.map (offerControl id control) }
  | .receive .other => s
  | .clientGone => s.shutdown
  | .closeForPolicy => s.shutdown
  | .closeAfter => if s.closing = 0 then s else { s.shutdown with closing := s.closing - 1 }
  | .read incoming clientWrites =>
    if s.reading = false ∨ s.held.isSome then s
    else
      match s.current with
      | some id => { s with held := some (incoming, id) }
      | none => unclaimed s incoming clientWrites
  | .release clientWrites =>
    match s.held with
    | none => s
    | some (incoming, id) =>
      if ∃ c ∈ s.workers, c.id = id then s
      else unclaimed { s with held := none } incoming clientWrites
  | .readerStops => if s.alive then s else { s with held := none, reading := false }
  | .worker k a =>
    match s.workers[k]? with
    | none => s
    | some c =>
      let result := perform s c a
      { result.1 with workers := s.workers.eraseIdx k ++ result.2.toList }

end ResponsesWS
