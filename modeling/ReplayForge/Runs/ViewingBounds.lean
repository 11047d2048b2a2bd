import Mathlib.Algebra.Ring.Nat
import ReplayForge.Runs.Viewing

/-!
# What a viewed execution retains

`Published` is the history of one execution: every frame and every event the
viewer accepted for it.  An execution `Tracks` its history when it retains the
end of it and its counters agree with what was dropped.
-/

namespace ReplayForge

structure Published where
  frames : List ViewedFrame := []
  events : List ViewedEvent := []

namespace ExecutionViewer

def frameSize (frames : List ViewedFrame) : Nat :=
  (frames.map fun held => held.data.length).sum

@[simp]
theorem frameSize_cons (first : ViewedFrame) (rest : List ViewedFrame) :
    frameSize (first :: rest) = first.data.length + frameSize rest := by
  simp [frameSize]

theorem frameSize_concat (frames : List ViewedFrame) (last : ViewedFrame) :
    frameSize (frames ++ [last]) = frameSize frames + last.data.length := by
  simp [frameSize]

/-- The loop drops a beginning and leaves what the two bounds allow. -/
theorem evictFrames_spec (maximum maximumBytes : Nat)
    (frames : List ViewedFrame) (evicted : Nat) :
    ∃ dropped ≤ frames.length,
      evictFrames maximum maximumBytes frames (frameSize frames) evicted =
        (frames.drop dropped, frameSize (frames.drop dropped),
          evicted + dropped) ∧
      (frames.drop dropped).length ≤ maximum ∧
      frameSize (frames.drop dropped) ≤ maximumBytes := by
  induction frames generalizing evicted with
  | nil => exact ⟨0, Nat.le_refl _, rfl, by simp, by simp [frameSize]⟩
  | cons first rest ih =>
      by_cases beyond : maximum < (first :: rest).length ∨
        maximumBytes < frameSize (first :: rest)
      · obtain ⟨dropped, few, same, count, size⟩ := ih (evicted + 1)
        have smaller : frameSize (first :: rest) - first.data.length =
            frameSize rest := by
          rw [frameSize_cons]
          omega
        refine ⟨dropped + 1, by simpa using few, ?_, count, size⟩
        rw [evictFrames, if_pos beyond, smaller, same, List.drop_succ_cons,
          Nat.add_assoc, Nat.add_comm 1]
      · have under := not_or.mp beyond
        refine ⟨0, Nat.zero_le _, ?_, by simpa using under.1,
          by simpa using under.2⟩
        rw [evictFrames, if_neg beyond]
        rfl

end ExecutionViewer

open ExecutionViewer

variable {limits : ViewingLimits}

structure ViewedExecution.Tracks (limits : ViewingLimits)
    (item : ViewedExecution)
    (published : Published) : Prop where
  frames : item.frames = published.frames.drop item.evictedFrames
  counted : item.evictedFrames + item.frames.length = item.sequence
  numbered : published.frames.map (fun held => held.metadata.sequence) =
    List.range' 1 item.sequence
  bytes : item.byteCount = frameSize item.frames
  bytesBound : item.byteCount ≤ limits.maximumBytes
  framesBound : item.frames.length ≤ maximumRetained limits item.mode
  events : item.events =
    published.events.drop (published.events.length - limits.maximumEvents)
  eventsNumbered : published.events.map ViewedEvent.sequence =
    List.range' 1 item.eventSequence

namespace ViewedExecution.Tracks

variable {item : ViewedExecution} {published : Published}

theorem frames_length (tracks : item.Tracks limits published) :
    published.frames.length = item.sequence := by
  have same := congrArg List.length tracks.numbered
  simpa using same

theorem events_length (tracks : item.Tracks limits published) :
    published.events.length = item.eventSequence := by
  have same := congrArg List.length tracks.eventsNumbered
  simpa using same

/-- A change of the fields that do not count anything. -/
theorem untouched (tracks : item.Tracks limits published) (state : ViewState)
    (phase : String) (runIds : List String) (result : Option (Dict Json))
    (finishedAt : Option Rat) :
    Tracks limits { item with state, phase, runIds, result, finishedAt }
      published :=
  ⟨tracks.frames, tracks.counted, tracks.numbered, tracks.bytes,
    tracks.bytesBound, tracks.framesBound, tracks.events,
    tracks.eventsNumbered⟩

theorem withFrame (tracks : item.Tracks limits published) {held : ViewedFrame}
    (next : held.metadata.sequence = item.sequence + 1) :
    Tracks limits (ExecutionViewer.withFrame limits item held)
      { published with frames := published.frames ++ [held] } := by
  obtain ⟨dropped, few, same, count, size⟩ :=
    evictFrames_spec (maximumRetained limits item.mode) limits.maximumBytes
      (item.frames ++ [held]) item.evictedFrames
  have size' : item.byteCount + held.data.length =
      frameSize (item.frames ++ [held]) := by
    rw [frameSize_concat, tracks.bytes]
  have within : item.evictedFrames ≤ published.frames.length := by
    rw [tracks.frames_length, ← tracks.counted]
    exact Nat.le_add_right _ _
  have ending : (item.frames ++ [held]).drop dropped =
      (published.frames ++ [held]).drop (item.evictedFrames + dropped) := by
    rw [← List.drop_drop, List.drop_append_of_le_length within,
      ← tracks.frames]
  simp only [ExecutionViewer.withFrame, size', same]
  constructor
  · exact ending
  · have counted := tracks.counted
    simp only [List.length_append, List.length_drop, List.length_cons,
      List.length_nil] at few ⊢
    omega
  · rw [List.map_append, tracks.numbered, List.range'_concat]
    simp [next, Nat.add_comm]
  · rfl
  · exact size
  · exact count
  · exact tracks.events
  · exact tracks.eventsNumbered

theorem withEvent (tracks : item.Tracks limits published) {event : ViewedEvent}
    (next : event.sequence = item.eventSequence + 1) :
    Tracks limits (ExecutionViewer.withEvent limits item event)
      { published with events := published.events ++ [event] } := by
  have ending : ∀ {first last : Nat} {all : List ViewedEvent},
      first ≤ all.length → last + first = all.length + 1 - limits.maximumEvents →
      (all.drop first ++ [event]).drop last =
        (all ++ [event]).drop (all.length + 1 - limits.maximumEvents) := by
    intro first last all within total
    rw [← List.drop_append_of_le_length within, List.drop_drop, Nat.add_comm,
      total]
  constructor
  · exact tracks.frames
  · exact tracks.counted
  · exact tracks.numbered
  · exact tracks.bytes
  · exact tracks.bytesBound
  · exact tracks.framesBound
  · simp only [ExecutionViewer.withEvent, tracks.events, List.length_append,
      List.length_drop, List.length_cons, List.length_nil]
    exact ending (Nat.sub_le _ _) (by omega)
  · simp only [ExecutionViewer.withEvent, List.map_append,
      tracks.eventsNumbered, List.range'_concat]
    simp [next, Nat.add_comm]

/-- The retained events reach back from the cursor without a gap. -/
theorem events_suffix (tracks : item.Tracks limits published) :
    item.events <:+ published.events := by
  rw [tracks.events]
  exact List.drop_suffix _ _

theorem frames_suffix (tracks : item.Tracks limits published) :
    item.frames <:+ published.frames := by
  rw [tracks.frames]
  exact List.drop_suffix _ _

theorem eventsBound (tracks : item.Tracks limits published) :
    item.events.length ≤ limits.maximumEvents := by
  rw [tracks.events, List.length_drop]
  omega

end ViewedExecution.Tracks

theorem ViewedExecution.tracks_new (executionId : String) (mode : ViewMode)
    (tokenHash : Bytes) :
    Tracks limits { id := executionId, mode, tokenHash } {} := by
  constructor <;> simp [frameSize]

end ReplayForge
