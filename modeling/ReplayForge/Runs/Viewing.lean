import ReplayForge.Data.DictOrder
import ReplayForge.Shared.Json
import ReplayForge.Surfaces.Models

/-!
# The execution viewer

A bounded, ephemeral view of running executions.  Every operation holds the
viewer's lock, so each is one function of the viewer and of what it reads from
its environment: the identifier it draws and the clock.
-/

namespace ReplayForge

inductive ViewMode where
  | replay
  | discovery
deriving DecidableEq, Repr

inductive ViewState where
  | running
  | paused
  | success
  | failure
  | businessOutcome
  | terminated
deriving DecidableEq, Repr

inductive ViewingError where
  | viewing (code : String) (status : Nat)
  | stopIteration
deriving DecidableEq, Repr

structure ViewingLimits where
  maximumActive : Nat := 1
  maximumExecutions : Nat := 4
  maximumFrames : Nat := 60
  maximumBytes : Nat := 32 * 1024 * 1024
  maximumFrameBytes : Nat := 5 * 1024 * 1024
  maximumEvents : Nat := 2000
  retentionSeconds : Nat := 300
  positive : 1 ≤ maximumActive ∧ 1 ≤ maximumExecutions ∧ 1 ≤ maximumFrames ∧
    1 ≤ maximumBytes ∧ 1 ≤ maximumFrameBytes ∧ 1 ≤ maximumEvents ∧
    1 ≤ retentionSeconds
  retained : maximumActive ≤ maximumExecutions

structure FrameMetadata where
  sequence : Nat
  runId : String
  phase : String
  capturedAt : String
  width : Nat
  height : Nat
  eventSequence : Nat
deriving DecidableEq, Repr

/-- A retained frame, found under the sequence number of its metadata. -/
structure ViewedFrame where
  metadata : FrameMetadata
  data : Bytes
deriving DecidableEq, Repr

/-- A published event and the three fields that override its own. -/
structure ViewedEvent where
  event : Dict Json
  sequence : Nat
  runId : String
  phase : String
deriving DecidableEq

structure ViewedExecution where
  id : String
  mode : ViewMode
  tokenHash : Bytes
  state : ViewState := .running
  phase : String := "starting"
  frames : List ViewedFrame := []
  events : List ViewedEvent := []
  runIds : List String := []
  sequence : Nat := 0
  eventSequence : Nat := 0
  evictedFrames : Nat := 0
  byteCount : Nat := 0
  result : Option (Dict Json) := none
  finishedAt : Option Rat := none

structure RunFeed where
  executionId : String
  runId : String
  phase : String
deriving DecidableEq, Repr

structure ExecutionSnapshot where
  executionId : String
  mode : ViewMode
  state : ViewState
  phase : String
  runIds : List String
  frames : List FrameMetadata
  evictedFrames : Nat
  events : List ViewedEvent
  eventCursor : Nat
  firstEventSequence : Option Nat
  result : Option (Dict Json)
  retentionSeconds : Nat

structure ExecutionViewer where
  items : Dict ViewedExecution := []
  closed : Bool := false

def ViewedExecution.active (item : ViewedExecution) : Bool :=
  item.finishedAt.isNone

namespace ExecutionViewer

variable (limits : ViewingLimits) (sha256 : String → Bytes)

/-- The number of unfinished executions. -/
def activeCount (items : Dict ViewedExecution) : Nat :=
  items.countP fun entry => entry.2.active

def expired (readings : String → Rat) (entry : String × ViewedExecution) :
    Bool :=
  match entry.2.finishedAt with
  | none => false
  | some finishedAt => limits.retentionSeconds ≤ readings entry.1 - finishedAt

/-- `_expire`: `readings` is what the clock says as each entry is looked at. -/
def expire (viewer : ExecutionViewer) (readings : String → Rat) :
    ExecutionViewer :=
  { viewer with
    items := ((viewer.items.filter (expired limits readings)).map Prod.fst).foldl
      Dict.erase viewer.items }

/-- The source tests the time of an end for truth, and zero is false. -/
def evictable (item : ViewedExecution) : Bool :=
  item.finishedAt.any (· ≠ 0)

def oldest (items : Dict ViewedExecution) : Option String :=
  (items.find? fun entry => evictable entry.2).map Prod.fst

theorem mem_of_oldest {items : Dict ViewedExecution} {key : String}
    (found : oldest items = some key) :
    ∃ item, (key, item) ∈ items ∧ evictable item = true := by
  obtain ⟨⟨stored, item⟩, first, rfl⟩ := Option.map_eq_some_iff.mp found
  exact ⟨item, List.mem_of_find?_eq_some first,
    by simpa using List.find?_some first⟩

/-- The loop of `start` that deletes the oldest finished entries, and whether
it found one each time. -/
def makeRoom (items : Dict ViewedExecution) : Bool × Dict ViewedExecution :=
  if limits.maximumExecutions ≤ items.length then
    match found : oldest items with
    | none => (false, items)
    | some key => makeRoom (items.erase key)
  else
    (true, items)
termination_by items.length
decreasing_by
  obtain ⟨item, member, _⟩ := mem_of_oldest found
  exact Dict.length_erase_lt (Dict.mem_keys.mpr ⟨item, member⟩)

/-- `start` with the identifier and the token it draws. -/
def start (viewer : ExecutionViewer) (mode : ViewMode)
    (executionId token : String) (readings : String → Rat) :
    Except ViewingError (String × String) × ExecutionViewer :=
  let viewer := viewer.expire limits readings
  if viewer.closed then
    (.error (.viewing "viewer_unavailable" 503), viewer)
  else if limits.maximumActive ≤ activeCount viewer.items then
    (.error (.viewing "execution_capacity_reached" 429), viewer)
  else
    let (found, items) := makeRoom limits viewer.items
    if found then
      (.ok (executionId, token),
        { viewer with
          items := items.set executionId
            { id := executionId, mode, tokenHash := sha256 token } })
    else
      (.error .stopIteration, { viewer with items })

/-- `_authorize`, which also expires entries. -/
def authorize (viewer : ExecutionViewer) (executionId token : String)
    (readings : String → Rat) :
    Except ViewingError ViewedExecution × ExecutionViewer :=
  let viewer := viewer.expire limits readings
  match viewer.items.get? executionId with
  | none => (.error (.viewing "execution_unavailable" 404), viewer)
  | some item =>
      if item.tokenHash = sha256 token then
        (.ok item, viewer)
      else
        (.error (.viewing "execution_unavailable" 404), viewer)

def snapshot (viewer : ExecutionViewer) (executionId token : String)
    (after : Nat) (readings : String → Rat) :
    Except ViewingError ExecutionSnapshot × ExecutionViewer :=
  let (authorized, viewer) :=
    viewer.authorize limits sha256 executionId token readings
  (authorized.map fun item =>
    { executionId := item.id
      mode := item.mode
      state := item.state
      phase := item.phase
      runIds := item.runIds
      frames := item.frames.map ViewedFrame.metadata
      evictedFrames := item.evictedFrames
      events := item.events.filter fun event => after < event.sequence
      eventCursor := item.eventSequence
      firstEventSequence := item.events.head?.map ViewedEvent.sequence
      result := item.result
      retentionSeconds := limits.retentionSeconds }, viewer)

def frame (viewer : ExecutionViewer) (executionId token : String)
    (sequence : Nat) (readings : String → Rat) :
    Except ViewingError Bytes × ExecutionViewer :=
  let (authorized, viewer) :=
    viewer.authorize limits sha256 executionId token readings
  (authorized.bind fun item =>
    match item.frames.find? fun held => held.metadata.sequence = sequence with
    | none => .error (.viewing "frame_expired" 410)
    | some held => .ok held.data, viewer)

/-- The entry that an operation on an unfinished execution changes. -/
def running (viewer : ExecutionViewer) (executionId : String) :
    Option ViewedExecution :=
  (viewer.items.get? executionId).filter ViewedExecution.active

def put (viewer : ExecutionViewer) (executionId : String)
    (item : ViewedExecution) :
    ExecutionViewer :=
  { viewer with items := viewer.items.set executionId item }

def phase (viewer : ExecutionViewer) (executionId name : String) :
    ExecutionViewer :=
  match viewer.running executionId with
  | none => viewer
  | some item => viewer.put executionId { item with phase := name }

/-- `bind`, which raises a key error when the execution is gone. -/
def bind (viewer : ExecutionViewer) (executionId runId : String) :
    Option RunFeed × ExecutionViewer :=
  match viewer.items.get? executionId with
  | none => (none, viewer)
  | some item =>
      let item :=
        if runId ∈ item.runIds then item
        else { item with runIds := item.runIds ++ [runId] }
      (some { executionId, runId, phase := item.phase },
        viewer.put executionId item)

def pngSignature : Bytes :=
  [0x89, 0x50, 0x4E, 0x47, 0x0D, 0x0A, 0x1A, 0x0A]

/-- The checks of `publish_frame` on the content alone. -/
def viewable (data : Bytes) : Bool :=
  pngSignature.isPrefixOf data &&
    decide (data.length ≤ min limits.maximumFrameBytes limits.maximumBytes)

/-- The execution a frame is added to, when it is. -/
def acceptsFrame (viewer : ExecutionViewer) (feed : RunFeed)
    (frame : SurfaceFrame) : Option ViewedExecution :=
  if viewable limits frame.content then
    (viewer.running feed.executionId).filter fun item =>
      !item.frames.getLast?.any fun last =>
        last.data = frame.content && last.metadata.runId = feed.runId
  else
    none

/-- The frame an execution retains, under its next sequence number. -/
def framed (item : ViewedExecution) (feed : RunFeed) (frame : SurfaceFrame)
    (capturedAt : String) : ViewedFrame :=
  { metadata :=
      { sequence := item.sequence + 1
        runId := feed.runId
        phase := feed.phase
        capturedAt
        width := frame.viewport.width
        height := frame.viewport.height
        eventSequence := item.eventSequence }
    data := frame.content }

/-- The loop of `publish_frame` that drops the earliest frames. -/
def evictFrames (maximum maximumBytes : Nat) :
    List ViewedFrame → Nat → Nat → List ViewedFrame × Nat × Nat
  | [], byteCount, evicted => ([], byteCount, evicted)
  | first :: rest, byteCount, evicted =>
      if maximum < (first :: rest).length ∨ maximumBytes < byteCount then
        evictFrames maximum maximumBytes rest (byteCount - first.data.length)
          (evicted + 1)
      else
        (first :: rest, byteCount, evicted)

def maximumRetained (mode : ViewMode) : Nat :=
  match mode with
  | .replay => limits.maximumFrames
  | .discovery => 1

def withFrame (item : ViewedExecution) (held : ViewedFrame) : ViewedExecution :=
  let (frames, byteCount, evicted) :=
    evictFrames (maximumRetained limits item.mode) limits.maximumBytes
      (item.frames ++ [held]) (item.byteCount + held.data.length)
      item.evictedFrames
  { item with
    sequence := item.sequence + 1
    frames
    byteCount
    evictedFrames := evicted }

def publishFrame (viewer : ExecutionViewer) (feed : RunFeed)
    (frame : SurfaceFrame) (capturedAt : String) : ExecutionViewer :=
  match viewer.acceptsFrame limits feed frame with
  | none => viewer
  | some item =>
      viewer.put feed.executionId
        (withFrame limits item (framed item feed frame capturedAt))

def stamped (item : ViewedExecution) (feed : RunFeed) (event : Dict Json) :
    ViewedEvent :=
  { event
    sequence := item.eventSequence + 1
    runId := feed.runId
    phase := feed.phase }

/-- All but the last `maximumEvents` events are deleted. -/
def withEvent (item : ViewedExecution) (event : ViewedEvent) :
    ViewedExecution :=
  let events := item.events ++ [event]
  { item with
    eventSequence := item.eventSequence + 1
    events := events.drop (events.length - limits.maximumEvents) }

def publishEvent (viewer : ExecutionViewer) (feed : RunFeed)
    (event : Dict Json) : ExecutionViewer :=
  match viewer.running feed.executionId with
  | none => viewer
  | some item =>
      viewer.put feed.executionId
        (withEvent limits item (stamped item feed event))

/-- The statuses that end an execution. -/
def terminalState : String → Option ViewState
  | "success" => some .success
  | "failure" => some .failure
  | "business_outcome" => some .businessOutcome
  | "terminated" => some .terminated
  | _ => none

def invalidResult : Dict Json :=
  [("status", .str "failure"), ("code", .str "invalid_execution_result")]

/-- What `finish` makes of an unfinished execution. -/
def ended (item : ViewedExecution) (result : Dict Json) (now : Rat) :
    ViewedExecution :=
  match result.get? "status" with
  | some (.str status) =>
      if status = "intervention_required" then
        { item with state := .paused, result := some result }
      else
        match terminalState status with
        | some state =>
            { item with state, finishedAt := some now, result := some result }
        | none =>
            { item with
              state := .failure, finishedAt := some now,
              result := some invalidResult }
  -- A list or an object cannot be looked up in a set: the call raises.
  | some (.arr _) | some (.obj _) => item
  | _ =>
      { item with
        state := .failure, finishedAt := some now,
        result := some invalidResult }

def finish (viewer : ExecutionViewer) (executionId : String)
    (result : Dict Json) (now : Rat) : ExecutionViewer :=
  match viewer.running executionId with
  | none => viewer
  | some item => viewer.put executionId (ended item result now)

def runResult (viewer : ExecutionViewer) (feed : RunFeed)
    (result : Dict Json) (now : Rat) : ExecutionViewer :=
  if feed.phase = "replay" ∨
      result.get? "status" = some (.str "intervention_required") ∨
      result.get? "status" = some (.str "terminated") then
    viewer.finish feed.executionId result now
  else
    viewer

def resume (viewer : ExecutionViewer) (feed : RunFeed) : ExecutionViewer :=
  match viewer.running feed.executionId with
  | none => viewer
  | some item =>
      viewer.put feed.executionId
        { item with state := .running, result := none }

end ExecutionViewer

end ReplayForge
