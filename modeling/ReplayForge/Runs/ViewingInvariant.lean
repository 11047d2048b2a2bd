import ReplayForge.Runs.ViewingRuns

/-!
# The representation invariant of the viewer

`ViewerStep` says once what a call can do to the retained executions: delete
some, change one that is retained, or add a new one.
-/

namespace ReplayForge

open ExecutionViewer

variable {limits : ViewingLimits} {sha256 : String → Bytes}

/-- A change of one retained execution and of its history. -/
structure ViewedExecution.Follows (limits : ViewingLimits) (call : ViewerCall)
    (before after : ViewedExecution) (published published' : Published) : Prop where
  active : after.active = true → before.active = true
  ends : after.finishedAt = before.finishedAt ∨
    ∃ now ∈ call.stamps, after.finishedAt = some now
  grows : published.events <+: published'.events
  settled : before.active = false →
    after.state = before.state ∧ after.finishedAt = before.finishedAt
  tracks : before.Tracks limits published → after.Tracks limits published'

inductive ViewerStep (limits : ViewingLimits) (watch : ViewerWatch) :
    ViewerCall → ViewerWatch → Prop where
  | dropped {call : ViewerCall} {items : Dict ViewedExecution} :
      items.Sublist watch.viewer.items →
      ViewerStep limits watch call
        { viewer := { watch.viewer with items }
          issued := watch.issued ++ call.draws.toList
          published := watch.published }
  | changed {call : ViewerCall} {executionId : String}
      {before after : ViewedExecution} {published : Published} :
      watch.viewer.items.get? executionId = some before →
      before.Follows limits call after (watch.published executionId) published →
      call.draws = none →
      ViewerStep limits watch call
        { viewer := watch.viewer.put executionId after
          issued := watch.issued
          published :=
            Function.update watch.published executionId published }
  | started {mode : ViewMode} {executionId token : String}
      {tokenHash : Bytes} {readings : String → Rat}
      {items : Dict ViewedExecution} :
      items.Sublist watch.viewer.items →
      items.length < limits.maximumExecutions →
      activeCount items < limits.maximumActive →
      ViewerStep limits watch (.start mode executionId token readings)
        { viewer :=
            { watch.viewer with
              items := items.set executionId
                { id := executionId, mode, tokenHash } }
          issued := watch.issued ++ [executionId]
          published := watch.published }

/-- A change that touches no counter. -/
theorem ViewedExecution.Follows.touched {call : ViewerCall}
    {before : ViewedExecution}
    (published : Published)
    {state : ViewState} {phase : String} {runIds : List String}
    {result : Option (Dict Json)} {finishedAt : Option Rat}
    (active : finishedAt = none → before.active = true)
    (settled : before.active = false →
      state = before.state ∧ finishedAt = before.finishedAt)
    (ends : finishedAt = before.finishedAt ∨
      ∃ now ∈ call.stamps, finishedAt = some now) :
    before.Follows limits call
      { before with state, phase, runIds, result, finishedAt }
      published published where
  active := fun unfinished => active
    (by simpa [ReplayForge.ViewedExecution.active] using unfinished)
  ends := ends
  grows := List.prefix_refl _
  settled := settled
  tracks := fun tracks => tracks.untouched state phase runIds result finishedAt

theorem running_eq_some {viewer : ExecutionViewer} {executionId : String}
    {item : ViewedExecution} :
    viewer.running executionId = some item ↔
      viewer.items.get? executionId = some item ∧ item.active = true := by
  simp [running, Option.filter_eq_some_iff]

theorem ViewerStep.unchanged (watch : ViewerWatch) {call : ViewerCall}
    (draws : call.draws = none) : ViewerStep limits watch call watch := by
  have drop : ViewerStep limits watch call _ :=
    .dropped (List.Sublist.refl watch.viewer.items)
  simpa [draws] using drop

theorem ViewerStep.touched {watch : ViewerWatch} {call : ViewerCall}
    (draws : call.draws = none) {executionId : String}
    {before after : ViewedExecution}
    (found : watch.viewer.items.get? executionId = some before)
    (follows : before.Follows limits call after (watch.published executionId)
      (watch.published executionId)) :
    ViewerStep limits watch call
      { watch with viewer := watch.viewer.put executionId after } := by
  have change := ViewerStep.changed found follows draws
  rwa [Function.update_eq_self] at change

/-- The item that an end of the execution leaves. -/
theorem ended_follows {call : ViewerCall} {item : ViewedExecution}
    (active : item.active = true) (result : Dict Json) {now : Rat}
    (stamps : now ∈ call.stamps) (published : Published) :
    item.Follows limits call (ended item result now) published published := by
  have unfinished {claim : Prop} : item.active = false → claim := by
    simp [active]
  have stays {state : ViewState} {result : Option (Dict Json)} :
      item.Follows limits call { item with state, result } published
        published :=
    .touched published (fun _ => active) unfinished (.inl rfl)
  have ends {state : ViewState} {result : Option (Dict Json)} :
      item.Follows limits call
        { item with state, finishedAt := some now, result } published
        published :=
    .touched published (fun _ => active) unfinished (.inr ⟨now, stamps, rfl⟩)
  unfold ended
  split
  · split
    · exact stays
    · split
      · exact ends
      · exact ends
  · exact stays
  · exact stays
  · exact ends

theorem finish_step (watch : ViewerWatch) {call : ViewerCall}
    (draws : call.draws = none) (executionId : String) (result : Dict Json)
    {now : Rat} (stamps : now ∈ call.stamps) :
    ViewerStep limits watch call
      { watch with viewer := watch.viewer.finish executionId result now } := by
  unfold finish
  split
  next => exact .unchanged watch draws
  next item found =>
    obtain ⟨found, active⟩ := running_eq_some.mp found
    exact .touched draws found (ended_follows active result stamps _)

theorem authorize_items (viewer : ExecutionViewer) (executionId token : String)
    (readings : String → Rat) :
    (viewer.authorize limits sha256 executionId token readings).2 =
      viewer.expire limits readings := by
  unfold authorize
  dsimp only
  split
  · rfl
  · split <;> rfl

theorem expire_step (watch : ViewerWatch) {call : ViewerCall}
    (draws : call.draws = none) (readings : String → Rat) :
    ViewerStep limits watch call
      { watch with viewer := watch.viewer.expire limits readings } := by
  have drop : ViewerStep limits watch call _ :=
    .dropped (expire_sublist limits watch.viewer readings)
  simpa [draws, expire] using drop

theorem start_step (watch : ViewerWatch) (mode : ViewMode)
    (executionId token : String) (readings : String → Rat) :
    ViewerStep limits watch (.start mode executionId token readings)
      { viewer := (watch.viewer.start limits sha256 mode executionId token
          readings).2
        issued := watch.issued ++ [executionId]
        published := watch.published } := by
  have expiry : ViewerStep limits watch
      (.start mode executionId token readings) _ :=
    .dropped (expire_sublist limits watch.viewer readings)
  have fewer := expire_sublist limits watch.viewer readings
  have room := @makeRoom_sublist limits
    (watch.viewer.expire limits readings).items
  unfold start
  dsimp only
  split
  next => exact expiry
  next =>
    split
    next => exact expiry
    next unfilled =>
      split
      next found =>
        refine .started (room.trans fewer) (makeRoom_length found) ?_
        exact Nat.lt_of_le_of_lt (activeCount_le room)
          (Nat.lt_of_not_le unfilled)
      next => exact .dropped (room.trans fewer)

theorem accepted_running {viewer : ExecutionViewer} {feed : RunFeed}
    {shown : SurfaceFrame} {item : ViewedExecution}
    (accepted : viewer.acceptsFrame limits feed shown = some item) :
    viewer.running feed.executionId = some item := by
  unfold acceptsFrame at accepted
  split at accepted
  · exact (Option.filter_eq_some_iff.mp accepted).1
  · cases accepted

/-- A call that draws nothing and adds to no history. -/
theorem ViewerWatch.step_of_run (watch : ViewerWatch) {call : ViewerCall}
    (draws : call.draws = none)
    (kept : call.publish limits watch.viewer watch.published =
      watch.published) :
    watch.step limits sha256 call =
      { watch with viewer := call.run limits sha256 watch.viewer } := by
  simp [step, draws, kept]

theorem framed_follows {call : ViewerCall} {item : ViewedExecution}
    (active : item.active = true) (feed : RunFeed) (shown : SurfaceFrame)
    (capturedAt : String) (published : Published) :
    item.Follows limits call
      (withFrame limits item (framed item feed shown capturedAt)) published
      { published with
        frames := published.frames ++ [framed item feed shown capturedAt] } where
  active := fun _ => active
  ends := .inl rfl
  grows := List.prefix_refl _
  settled := by simp [active]
  tracks := fun tracks => tracks.withFrame rfl

theorem event_follows {call : ViewerCall} {item : ViewedExecution}
    (active : item.active = true) (feed : RunFeed) (event : Dict Json)
    (published : Published) :
    item.Follows limits call
      (withEvent limits item (stamped item feed event)) published
      { published with
        events := published.events ++ [stamped item feed event] } where
  active := fun _ => active
  ends := .inl rfl
  grows := List.prefix_append _ _
  settled := by simp [active]
  tracks := fun tracks => tracks.withEvent rfl

theorem publishFrame_step (watch : ViewerWatch) (feed : RunFeed)
    (shown : SurfaceFrame) (capturedAt : String) :
    ViewerStep limits watch (.publishFrame feed shown capturedAt)
      (watch.step limits sha256 (.publishFrame feed shown capturedAt)) := by
  cases accepted : watch.viewer.acceptsFrame limits feed shown with
  | none =>
      have same : watch.step limits sha256
          (.publishFrame feed shown capturedAt) = watch := by
        simp [ViewerWatch.step, ViewerCall.run, ViewerCall.publish,
          publishFrame, accepted, ViewerCall.draws]
      rw [same]
      exact .unchanged watch rfl
  | some item =>
      obtain ⟨found, active⟩ := running_eq_some.mp (accepted_running accepted)
      have change : ViewerStep limits watch
          (.publishFrame feed shown capturedAt) _ :=
        .changed found (framed_follows active feed shown capturedAt _) rfl
      simpa [ViewerWatch.step, ViewerCall.run, ViewerCall.publish,
        publishFrame, accepted, ViewerCall.draws] using change

theorem publishEvent_step (watch : ViewerWatch) (feed : RunFeed)
    (event : Dict Json) :
    ViewerStep limits watch (.publishEvent feed event)
      (watch.step limits sha256 (.publishEvent feed event)) := by
  cases running : watch.viewer.running feed.executionId with
  | none =>
      have same : watch.step limits sha256 (.publishEvent feed event) =
          watch := by
        simp [ViewerWatch.step, ViewerCall.run, ViewerCall.publish,
          publishEvent, running, ViewerCall.draws]
      rw [same]
      exact .unchanged watch rfl
  | some item =>
      obtain ⟨found, active⟩ := running_eq_some.mp running
      have change : ViewerStep limits watch (.publishEvent feed event) _ :=
        .changed found (event_follows active feed event _) rfl
      simpa [ViewerWatch.step, ViewerCall.run, ViewerCall.publish,
        publishEvent, running, ViewerCall.draws] using change

theorem phase_step (watch : ViewerWatch) (executionId name : String) :
    ViewerStep limits watch (.phase executionId name)
      { watch with viewer := watch.viewer.phase executionId name } := by
  unfold phase
  split
  next => exact .unchanged watch rfl
  next item found =>
    obtain ⟨found, active⟩ := running_eq_some.mp found
    exact .touched rfl found
      (.touched _ (fun _ => active) (by simp [active]) (.inl rfl))

/-- A run may be bound to a finished execution, whose state stays. -/
theorem bind_step (watch : ViewerWatch) (executionId runId : String) :
    ViewerStep limits watch (.bind executionId runId)
      { watch with viewer := (watch.viewer.bind executionId runId).2 } := by
  unfold ExecutionViewer.bind
  split
  next => exact .unchanged watch rfl
  next item found =>
    apply ViewerStep.touched rfl found
    have unfinished : item.finishedAt = none → item.active = true := by
      simp [ViewedExecution.active]
    split
    · exact .touched _ unfinished (fun _ => ⟨rfl, rfl⟩) (.inl rfl)
    · exact .touched _ unfinished (fun _ => ⟨rfl, rfl⟩) (.inl rfl)

theorem resume_step (watch : ViewerWatch) (feed : RunFeed) :
    ViewerStep limits watch (.resume feed)
      { watch with viewer := watch.viewer.resume feed } := by
  unfold resume
  split
  next => exact .unchanged watch rfl
  next item found =>
    obtain ⟨found, active⟩ := running_eq_some.mp found
    exact .touched rfl found
      (.touched _ (fun _ => active) (by simp [active]) (.inl rfl))

theorem runResult_step (watch : ViewerWatch) (feed : RunFeed)
    (result : Dict Json) (now : Rat) :
    ViewerStep limits watch (.runResult feed result now)
      { watch with viewer := watch.viewer.runResult feed result now } := by
  unfold runResult
  split
  · exact finish_step watch rfl feed.executionId result rfl
  · exact .unchanged watch rfl

theorem ViewerWatch.step_cases (limits : ViewingLimits)
    (sha256 : String → Bytes) (watch : ViewerWatch) (call : ViewerCall) :
    ViewerStep limits watch call (watch.step limits sha256 call) := by
  cases call with
  | start mode executionId token readings =>
      exact start_step watch mode executionId token readings
  | expire readings =>
      rw [watch.step_of_run rfl rfl]
      exact expire_step watch rfl readings
  | snapshot executionId token after readings =>
      rw [watch.step_of_run rfl rfl, ViewerCall.run, snapshot]
      dsimp only
      rw [authorize_items]
      exact expire_step watch rfl readings
  | frame executionId token sequence readings =>
      rw [watch.step_of_run rfl rfl, ViewerCall.run, ExecutionViewer.frame]
      dsimp only
      rw [authorize_items]
      exact expire_step watch rfl readings
  | phase executionId name =>
      rw [watch.step_of_run rfl rfl]
      exact phase_step watch executionId name
  | bind executionId runId =>
      rw [watch.step_of_run rfl rfl]
      exact bind_step watch executionId runId
  | publishFrame feed shown capturedAt =>
      exact publishFrame_step watch feed shown capturedAt
  | publishEvent feed event => exact publishEvent_step watch feed event
  | runResult feed result now =>
      rw [watch.step_of_run rfl rfl]
      exact runResult_step watch feed result now
  | finish executionId result now =>
      rw [watch.step_of_run rfl rfl]
      exact finish_step watch rfl executionId result rfl
  | resume feed =>
      rw [watch.step_of_run rfl rfl]
      exact resume_step watch feed

/-- What holds of the viewer between any two calls. -/
structure ViewerWatch.Sound (limits : ViewingLimits) (watch : ViewerWatch) :
    Prop where
  opened : watch.viewer.closed = false
  distinct : watch.viewer.items.keys.Nodup
  capacity : watch.viewer.items.length ≤ limits.maximumExecutions
  active : activeCount watch.viewer.items ≤ limits.maximumActive
  issued : ∀ executionId ∈ watch.viewer.items.keys, executionId ∈ watch.issued
  unpublished : ∀ executionId, executionId ∉ watch.issued →
    watch.published executionId = {}
  numbered : ∀ executionId,
    (watch.published executionId).events.map ViewedEvent.sequence =
      List.range' 1 (watch.published executionId).events.length
  tracks : ∀ executionId item, (executionId, item) ∈ watch.viewer.items →
    item.Tracks limits (watch.published executionId)

namespace ViewerWatch

theorem sound_first : Sound limits {} where
  opened := rfl
  distinct := List.nodup_nil
  capacity := Nat.zero_le _
  active := Nat.zero_le _
  issued := fun _ member => nomatch member
  unpublished := fun _ _ => rfl
  numbered := fun _ => rfl
  tracks := fun _ _ member => nomatch member

theorem Sound.fewer {watch : ViewerWatch} (sound : watch.Sound limits)
    {items : Dict ViewedExecution} (sub : items.Sublist watch.viewer.items)
    (more : List String) :
    Sound limits
      { viewer := { watch.viewer with items }
        issued := watch.issued ++ more
        published := watch.published } where
  opened := sound.opened
  distinct := keys_nodup sub sound.distinct
  capacity := sub.length_le.trans sound.capacity
  active := (activeCount_le sub).trans sound.active
  issued := fun executionId member => List.mem_append_left _
    (sound.issued executionId ((sub.map Prod.fst).subset member))
  unpublished := fun executionId fresh => sound.unpublished executionId
    fun old => fresh (List.mem_append_left _ old)
  numbered := sound.numbered
  tracks := fun executionId item member =>
    sound.tracks executionId item (sub.subset member)

theorem Sound.changed {watch : ViewerWatch} (sound : watch.Sound limits)
    {call : ViewerCall} {executionId : String} {before after : ViewedExecution}
    {published : Published}
    (found : watch.viewer.items.get? executionId = some before)
    (follows : before.Follows limits call after (watch.published executionId)
      published) :
    Sound limits
      { viewer := watch.viewer.put executionId after
        issued := watch.issued
        published :=
          Function.update watch.published executionId published } := by
  obtain ⟨early, late, split, _, stores⟩ := Dict.split_of_get? found
  have put : watch.viewer.items.set executionId after =
      early ++ (executionId, after) :: late := stores after
  have keys : (watch.viewer.items.set executionId after).keys =
      watch.viewer.items.keys := by
    rw [put, split]
    simp [Dict.keys]
  have tracks := follows.tracks
    (sound.tracks executionId before (Dict.mem_of_get? found))
  have drawn : executionId ∈ watch.issued :=
    sound.issued executionId
      (Dict.mem_keys.mpr ⟨before, Dict.mem_of_get? found⟩)
  constructor
  · exact sound.opened
  · exact keys ▸ sound.distinct
  · have capacity := sound.capacity
    rw [split] at capacity
    simpa [ExecutionViewer.put, put] using capacity
  · have active := sound.active
    have fewer : activeCount (early ++ (executionId, after) :: late) ≤
        activeCount (early ++ (executionId, before) :: late) := by
      simp only [activeCount, List.countP_append, List.countP_cons]
      by_cases still : after.active = true
      · simp [still, follows.active still]
      · simp [still]
    rw [split] at active
    exact (put ▸ fewer).trans active
  · intro other member
    exact sound.issued other (keys ▸ member)
  · intro other fresh
    have different : other ≠ executionId := by
      rintro rfl
      exact fresh drawn
    simpa [Function.update_of_ne different] using sound.unpublished other fresh
  · intro other
    dsimp only
    by_cases same : other = executionId
    · subst other
      rw [Function.update_self, tracks.events_length]
      exact tracks.eventsNumbered
    · rw [Function.update_of_ne same]
      exact sound.numbered other
  · intro other item member
    rcases Dict.mem_set member with here | old
    · cases here
      simpa using tracks
    · by_cases same : other = executionId
      · subst other
        have distinct' : (watch.viewer.items.set executionId after).keys.Nodup :=
          keys ▸ sound.distinct
        cases entry_unique distinct' member
          (Dict.mem_of_get? (Dict.get?_set_self _ _ _))
        simpa using tracks
      · simpa [Function.update_of_ne same] using sound.tracks other item old

theorem Sound.started {watch : ViewerWatch} (sound : watch.Sound limits)
    {items : Dict ViewedExecution} (sub : items.Sublist watch.viewer.items)
    (room : items.length < limits.maximumExecutions)
    (unfilled : activeCount items < limits.maximumActive)
    {executionId : String} (fresh : executionId ∉ watch.issued)
    (mode : ViewMode) (tokenHash : Bytes) :
    Sound limits
      { viewer :=
          { watch.viewer with
            items := items.set executionId
              { id := executionId, mode, tokenHash } }
        issued := watch.issued ++ [executionId]
        published := watch.published } := by
  have less := sound.fewer sub [executionId]
  have absent : executionId ∉ Dict.keys items := fun present =>
    fresh (sound.issued executionId ((sub.map Prod.fst).subset present))
  have added : items.set executionId { id := executionId, mode, tokenHash } =
      items ++ [(executionId, { id := executionId, mode, tokenHash })] :=
    Dict.set_absent absent
  constructor
  · exact sound.opened
  · exact (Dict.distinct_set less.distinct _ _).1
  · simpa [added] using Nat.succ_le_of_lt room
  · have more : activeCount (items ++ [(executionId,
        ({ id := executionId, mode, tokenHash } : ViewedExecution))]) =
          activeCount items + 1 := by
      simp [activeCount, List.countP_append, ViewedExecution.active]
    simp only [added, more]
    exact Nat.succ_le_of_lt unfilled
  · intro other member
    rcases (Dict.distinct_set less.distinct _ _).2 other |>.mp member with
      rfl | old
    · exact List.mem_append_right _ List.mem_cons_self
    · exact less.issued other old
  · exact less.unpublished
  · exact less.numbered
  · intro other item member
    rcases Dict.mem_set member with here | old
    · cases here
      rw [sound.unpublished executionId fresh]
      exact ViewedExecution.tracks_new executionId mode tokenHash
    · exact less.tracks other item old

/-- One call keeps the invariant. -/
theorem Sound.step {watch : ViewerWatch} (sound : watch.Sound limits)
    {call : ViewerCall}
    (fresh : ∀ drawn ∈ call.draws, drawn ∉ watch.issued) :
    (watch.step limits sha256 call).Sound limits := by
  have step := watch.step_cases limits sha256 call
  generalize watch.step limits sha256 call = next at step
  cases step with
  | dropped sub => exact sound.fewer sub _
  | changed found follows _ => exact sound.changed found follows
  | started sub room unfilled =>
      exact sound.started sub room unfilled (fresh _ rfl) _ _

end ViewerWatch

theorem ViewerRun.sound {meets : ViewerCall → Prop} {first watch : ViewerWatch}
    (run : ViewerRun limits sha256 meets first watch)
    (sound : first.Sound limits) : watch.Sound limits := by
  induction run with
  | here => exact sound
  | step call _ fresh _ ih => exact ih.step fresh

/-- An execution has ended: if it is retained, it is as its end left it. -/
structure ViewerWatch.Settled (watch : ViewerWatch) (executionId : String)
    (state : ViewState) (finishedAt : Rat) : Prop where
  drawn : executionId ∈ watch.issued
  kept : ∀ item, (executionId, item) ∈ watch.viewer.items →
    item.state = state ∧ item.finishedAt = some finishedAt

theorem ViewerWatch.Settled.step {watch : ViewerWatch} {executionId : String}
    {state : ViewState} {finishedAt : Rat}
    (settled : watch.Settled executionId state finishedAt)
    {call : ViewerCall}
    (fresh : ∀ drawn ∈ call.draws, drawn ∉ watch.issued) :
    (watch.step limits sha256 call).Settled executionId state finishedAt := by
  have step := watch.step_cases limits sha256 call
  generalize watch.step limits sha256 call = next at step
  cases step with
  | dropped sub =>
      exact ⟨List.mem_append_left _ settled.drawn,
        fun item member => settled.kept item (sub.subset member)⟩
  | @changed _ _ before _ _ found follows _ =>
      refine ⟨settled.drawn, fun item member => ?_⟩
      rcases Dict.mem_set member with here | old
      · cases here
        obtain ⟨state', finishedAt'⟩ :=
          settled.kept before (Dict.mem_of_get? found)
        have inactive : before.active = false := by
          simp [ViewedExecution.active, finishedAt']
        obtain ⟨sameState, sameEnd⟩ := follows.settled inactive
        exact ⟨sameState.trans state', sameEnd.trans finishedAt'⟩
      · exact settled.kept item old
  | started sub _ _ =>
      refine ⟨List.mem_append_left _ settled.drawn, fun item member => ?_⟩
      rcases Dict.mem_set member with here | old
      · cases here
        exact (fresh _ rfl settled.drawn).elim
      · exact settled.kept item (sub.subset old)

theorem ViewerRun.settled {meets : ViewerCall → Prop}
    {first watch : ViewerWatch} {executionId : String} {state : ViewState}
    {finishedAt : Rat} (run : ViewerRun limits sha256 meets first watch)
    (settled : first.Settled executionId state finishedAt) :
    watch.Settled executionId state finishedAt := by
  induction run with
  | here => exact settled
  | step call _ fresh _ ih => exact ih.step fresh

end ReplayForge
