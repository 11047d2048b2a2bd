import ReplayForge.Runs.ViewingBounds
import Mathlib.Logic.Function.Basic

/-!
# Runs of the execution viewer

Every call holds the lock, so a run of several threads is a sequence of calls.
A `ViewerWatch` adds to the viewer what a run can be held to: the identifiers
drawn so far and what was accepted under each.
-/

namespace ReplayForge

open ExecutionViewer

inductive ViewerCall where
  | start (mode : ViewMode) (executionId token : String)
      (readings : String → Rat)
  | expire (readings : String → Rat)
  | snapshot (executionId token : String) (after : Nat)
      (readings : String → Rat)
  | frame (executionId token : String) (sequence : Nat)
      (readings : String → Rat)
  | phase (executionId name : String)
  | bind (executionId runId : String)
  | publishFrame (feed : RunFeed) (shown : SurfaceFrame) (capturedAt : String)
  | publishEvent (feed : RunFeed) (event : Dict Json)
  | runResult (feed : RunFeed) (result : Dict Json) (now : Rat)
  | finish (executionId : String) (result : Dict Json) (now : Rat)
  | resume (feed : RunFeed)

structure ViewerWatch where
  viewer : ExecutionViewer := {}
  issued : List String := []
  published : String → Published := fun _ => {}

namespace ViewerCall

variable (limits : ViewingLimits) (sha256 : String → Bytes)

def run (viewer : ExecutionViewer) : ViewerCall → ExecutionViewer
  | .start mode executionId token readings =>
      (viewer.start limits sha256 mode executionId token readings).2
  | .expire readings => viewer.expire limits readings
  | .snapshot executionId token after readings =>
      (viewer.snapshot limits sha256 executionId token after readings).2
  | .frame executionId token sequence readings =>
      (viewer.frame limits sha256 executionId token sequence readings).2
  | .phase executionId name => viewer.phase executionId name
  | .bind executionId runId => (viewer.bind executionId runId).2
  | .publishFrame feed shown capturedAt =>
      viewer.publishFrame limits feed shown capturedAt
  | .publishEvent feed event => viewer.publishEvent limits feed event
  | .runResult feed result now => viewer.runResult feed result now
  | .finish executionId result now => viewer.finish executionId result now
  | .resume feed => viewer.resume feed

/-- The identifier a call draws. -/
def draws : ViewerCall → Option String
  | .start _ executionId _ _ => some executionId
  | _ => none

/-- What the clock reads where a call notes the end of an execution. -/
def stamps : ViewerCall → Option Rat
  | .runResult _ _ now => some now
  | .finish _ _ now => some now
  | _ => none

/-- The clock does not read zero at an end. -/
def ticks (call : ViewerCall) : Prop :=
  ∀ now ∈ call.stamps, now ≠ 0

/-- The histories after a call: what the viewer accepts is added to one. -/
def publish (viewer : ExecutionViewer) (published : String → Published) :
    ViewerCall → String → Published
  | .publishFrame feed shown capturedAt =>
      match viewer.acceptsFrame limits feed shown with
      | none => published
      | some item =>
          let history := published feed.executionId
          Function.update published feed.executionId
            { history with
              frames := history.frames ++ [framed item feed shown capturedAt] }
  | .publishEvent feed event =>
      match viewer.running feed.executionId with
      | none => published
      | some item =>
          let history := published feed.executionId
          Function.update published feed.executionId
            { history with
              events := history.events ++ [stamped item feed event] }
  | _ => published

end ViewerCall

def ViewerWatch.step (limits : ViewingLimits) (sha256 : String → Bytes)
    (watch : ViewerWatch) (call : ViewerCall) : ViewerWatch :=
  { viewer := call.run limits sha256 watch.viewer
    issued := watch.issued ++ call.draws.toList
    published := call.publish limits watch.viewer watch.published }

/-- Runs whose identifiers are all different and whose calls meet a condition. -/
inductive ViewerRun (limits : ViewingLimits) (sha256 : String → Bytes)
    (meets : ViewerCall → Prop) (first : ViewerWatch) : ViewerWatch → Prop where
  | here : ViewerRun limits sha256 meets first first
  | step {watch : ViewerWatch} (call : ViewerCall) :
      ViewerRun limits sha256 meets first watch →
      (∀ drawn ∈ call.draws, drawn ∉ watch.issued) → meets call →
      ViewerRun limits sha256 meets first (watch.step limits sha256 call)

variable {limits : ViewingLimits} {sha256 : String → Bytes}

section Expiry

variable {items : Dict ViewedExecution}

theorem foldl_erase_sublist (keys : List String)
    (items : Dict ViewedExecution) :
    (keys.foldl Dict.erase items).Sublist items := by
  induction keys generalizing items with
  | nil => exact List.Sublist.refl _
  | cons key rest ih =>
      exact (ih (items.erase key)).trans (Dict.erase_sublist items key)

theorem mem_foldl_erase {keys : List String} {entry : String × ViewedExecution}
    (member : entry ∈ items) (kept : entry.1 ∉ keys) :
    entry ∈ keys.foldl Dict.erase items := by
  induction keys generalizing items with
  | nil => exact member
  | cons key rest ih =>
      rw [List.mem_cons, not_or] at kept
      exact ih (Dict.mem_erase_of_ne member kept.1) kept.2

theorem expire_sublist (limits : ViewingLimits) (viewer : ExecutionViewer)
    (readings : String → Rat) :
    (viewer.expire limits readings).items.Sublist viewer.items :=
  foldl_erase_sublist _ _

/-- Two entries of one key are the same entry. -/
theorem entry_unique (distinct : items.keys.Nodup) {key : String}
    {first second : ViewedExecution} (one : (key, first) ∈ items)
    (two : (key, second) ∈ items) : first = second := by
  have found := Dict.get?_of_mem distinct one
  rw [Dict.get?_of_mem distinct two] at found
  exact (Option.some.inj found).symm

/-- Expiry deletes finished executions only. -/
theorem mem_expire (limits : ViewingLimits) {viewer : ExecutionViewer}
    (distinct : viewer.items.keys.Nodup) {key : String} {item : ViewedExecution}
    (member : (key, item) ∈ viewer.items) (active : item.active = true)
    (readings : String → Rat) :
    (key, item) ∈ (viewer.expire limits readings).items := by
  apply mem_foldl_erase member
  intro gone
  obtain ⟨⟨other, old⟩, dropped, same⟩ := List.mem_map.mp gone
  obtain ⟨present, late⟩ := List.mem_filter.mp dropped
  dsimp only at same
  subst other
  cases entry_unique distinct present member
  have unfinished : item.finishedAt = none := by
    simpa [ViewedExecution.active] using active
  simp [expired, unfinished] at late

end Expiry

section Room

variable {items : Dict ViewedExecution}

theorem activeCount_le {fewer : Dict ViewedExecution} (sub : fewer.Sublist items) :
    activeCount fewer ≤ activeCount items :=
  sub.countP_le

theorem makeRoom_sublist (limits : ViewingLimits)
    (items : Dict ViewedExecution) :
    (makeRoom limits items).2.Sublist items := by
  fun_induction makeRoom limits items with
  | case1 items full none => exact List.Sublist.refl _
  | case2 items full key found ih =>
      exact ih.trans (Dict.erase_sublist items key)
  | case3 items room => exact List.Sublist.refl _

theorem makeRoom_length (found : (makeRoom limits items).1 = true) :
    (makeRoom limits items).2.length < limits.maximumExecutions := by
  fun_induction makeRoom limits items with
  | case1 items full none => cases found
  | case2 items full key first ih => exact ih found
  | case3 items room => exact Nat.lt_of_not_le room

theorem keys_nodup {fewer : Dict ViewedExecution} (sub : fewer.Sublist items)
    (distinct : items.keys.Nodup) : fewer.keys.Nodup :=
  distinct.sublist (sub.map Prod.fst)

/-- Making room deletes finished executions only. -/
theorem mem_makeRoom (limits : ViewingLimits)
    (distinct : items.keys.Nodup) {key : String}
    {item : ViewedExecution} (member : (key, item) ∈ items)
    (active : item.active = true) :
    (key, item) ∈ (makeRoom limits items).2 := by
  fun_induction makeRoom limits items with
  | case1 items full none => exact member
  | case2 items full oldest found ih =>
      apply ih (keys_nodup (Dict.erase_sublist items oldest) distinct)
      apply Dict.mem_erase_of_ne member
      intro same
      obtain ⟨finished, present, gone⟩ := mem_of_oldest found
      dsimp only at same
      subst oldest
      cases entry_unique distinct present member
      have unfinished : item.finishedAt = none := by
        simpa [ViewedExecution.active] using active
      simp [evictable, unfinished] at gone
  | case3 items room => exact member

/-- Room is found while fewer executions are unfinished than may be retained,
when the loop can see that the others are finished. -/
theorem makeRoom_found (active : activeCount items < limits.maximumExecutions)
    (seen : ∀ entry ∈ items, entry.2.active = false →
      evictable entry.2 = true) :
    (makeRoom limits items).1 = true := by
  fun_induction makeRoom limits items with
  | case1 items full none =>
      have all : ∀ entry ∈ items, entry.2.active = true := by
        intro entry member
        by_contra beyond
        have gone := seen entry member (by simpa using beyond)
        have absent := List.find?_eq_none.mp (Option.map_eq_none_iff.mp none)
        exact absent entry member gone
      have count : activeCount items = items.length :=
        List.countP_eq_length.mpr all
      omega
  | case2 items full key found ih =>
      have sub := Dict.erase_sublist items key
      apply ih (Nat.lt_of_le_of_lt (activeCount_le sub) active)
      exact fun entry member => seen entry (sub.subset member)
  | case3 items room => rfl

theorem makeRoom_stuck (full : limits.maximumExecutions ≤ items.length)
    (unseen : oldest items = none) : makeRoom limits items = (false, items) := by
  rw [makeRoom, if_pos full]
  split
  · rfl
  next found => simp [unseen] at found

end Room

end ReplayForge
