import ReplayForge.Runs.ViewingInvariant

/-!
# Starting and polling

What the invariant means to the two clients of the viewer: an execution can be
started while fewer are unfinished than may be, and a client that polls with
its last cursor misses nothing that a snapshot does not tell it.
-/

namespace ReplayForge

open ExecutionViewer

variable {limits : ViewingLimits} {sha256 : String → Bytes}

section Starting

/-- No retained execution ended when the clock read zero. -/
def ViewerWatch.Stamped (watch : ViewerWatch) : Prop :=
  ∀ entry ∈ watch.viewer.items, entry.2.finishedAt ≠ some 0

theorem ViewerWatch.Stamped.step {watch : ViewerWatch}
    (stamped : watch.Stamped) {call : ViewerCall} (ticks : call.ticks) :
    (watch.step limits sha256 call).Stamped := by
  have step := watch.step_cases limits sha256 call
  generalize watch.step limits sha256 call = next at step
  cases step with
  | dropped sub => exact fun entry member => stamped entry (sub.subset member)
  | changed found follows _ =>
      intro entry member
      rcases Dict.mem_set member with here | old
      · subst here
        rcases follows.ends with same | ⟨now, stamps, same⟩
        · rw [same]
          exact stamped _ (Dict.mem_of_get? found)
        · rw [same]
          simpa using ticks now stamps
      · exact stamped entry old
  | started sub _ _ =>
      intro entry member
      rcases Dict.mem_set member with here | old
      · subst here
        simp
      · exact stamped entry (sub.subset old)

theorem ViewerRun.stamped {first watch : ViewerWatch}
    (run : ViewerRun limits sha256 ViewerCall.ticks first watch)
    (stamped : first.Stamped) : watch.Stamped := by
  induction run with
  | here => exact stamped
  | step call _ _ ticks ih => exact ih.step ticks

/-- A new execution can be started, and every unfinished one stays. -/
def ViewerWatch.Startable (limits : ViewingLimits)
    (sha256 : String → Bytes) (watch : ViewerWatch) : Prop :=
  ∀ mode executionId token readings, executionId ∉ watch.issued →
    activeCount watch.viewer.items < limits.maximumActive →
    (watch.viewer.start limits sha256 mode executionId token readings).1 =
      .ok (executionId, token) ∧
    ∀ key item, (key, item) ∈ watch.viewer.items → item.active = true →
      (key, item) ∈ (watch.viewer.start limits sha256 mode executionId token
        readings).2.items

theorem ViewerWatch.Sound.startable {watch : ViewerWatch}
    (sound : watch.Sound limits) (stamped : watch.Stamped) :
    watch.Startable limits sha256 := by
  intro mode executionId token readings fresh few
  have sub := expire_sublist limits watch.viewer readings
  have active := activeCount_le sub
  have seen : ∀ entry ∈ (watch.viewer.expire limits readings).items,
      entry.2.active = false → evictable entry.2 = true := by
    intro entry member finished
    obtain ⟨finishedAt, ended⟩ : ∃ at', entry.2.finishedAt = some at' := by
      simpa [ViewedExecution.active, Option.isNone_eq_false_iff,
        Option.isSome_iff_exists] using finished
    have late := stamped entry (sub.subset member)
    rw [ended] at late
    simpa [evictable, ended] using late
  have room : (makeRoom limits (watch.viewer.expire limits readings).items).1 =
      true := makeRoom_found
    (Nat.lt_of_lt_of_le (Nat.lt_of_le_of_lt active few) limits.retained) seen
  have unfilled : ¬ limits.maximumActive ≤
      activeCount (watch.viewer.expire limits readings).items := by
    omega
  have opened : (watch.viewer.expire limits readings).closed = false :=
    sound.opened
  have started : watch.viewer.start limits sha256 mode executionId token
      readings = (.ok (executionId, token),
        { watch.viewer.expire limits readings with
          items := (makeRoom limits
            (watch.viewer.expire limits readings).items).2.set executionId
              { id := executionId, mode, tokenHash := sha256 token } }) := by
    simp [start, opened, unfilled, room]
  rw [started]
  refine ⟨rfl, fun key item member unfinished => ?_⟩
  have kept := mem_makeRoom limits
    (keys_nodup sub sound.distinct)
    (mem_expire limits sound.distinct member unfinished readings)
    unfinished
  have different : key ≠ executionId := by
    rintro rfl
    exact fresh (sound.issued key (Dict.mem_keys.mpr ⟨item, member⟩))
  have distinct := keys_nodup (makeRoom_sublist limits _)
    (keys_nodup sub sound.distinct)
  have found := Dict.get?_of_mem distinct kept
  rw [← Dict.get?_set_ne _ _ different] at found
  exact Dict.mem_of_get? found

end Starting

section Polling

variable {executionId token : String}

/-- The numbers above a cursor are the ones after as many places. -/
theorem filter_numbered {events : List ViewedEvent} {first : Nat}
    (numbered : events.map ViewedEvent.sequence =
      List.range' first events.length) (after : Nat) :
    events.filter (fun event => after < event.sequence) =
      events.drop (after + 1 - first) := by
  induction events generalizing first with
  | nil => simp
  | cons event rest ih =>
      simp only [List.map_cons, List.length_cons, List.range'_succ,
        List.cons.injEq] at numbered
      obtain ⟨here, later⟩ := numbered
      rw [List.filter_cons, here, ih later]
      by_cases new : after < first
      · rw [if_pos (by simpa using new), Nat.sub_eq_zero_of_le (by omega),
          Nat.sub_eq_zero_of_le (by omega)]
        rfl
      · obtain ⟨more, total⟩ : ∃ more, after + 1 - first = more + 1 :=
          ⟨after - first, by omega⟩
        rw [if_neg (by simpa using new), total, List.drop_succ_cons]
        congr 1
        omega

/-- The events after a cursor, when none of them was dropped. -/
theorem ViewedExecution.Tracks.polled {item : ViewedExecution}
    {published : Published}
    (tracks : item.Tracks limits published) {after : Nat}
    (told : ∀ first ∈ item.events.head?.map ViewedEvent.sequence,
      first ≤ after + 1) :
    item.events.filter (fun event => after < event.sequence) =
      published.events.drop after := by
  have numbered := tracks.eventsNumbered
  rw [← tracks.events_length] at numbered
  rw [tracks.events] at told ⊢
  generalize start : published.events.length - limits.maximumEvents = dropped
    at told ⊢
  have later : (published.events.drop dropped).map ViewedEvent.sequence =
      List.range' (1 + dropped) (published.events.drop dropped).length := by
    rw [List.map_drop, numbered, List.drop_range', List.length_drop]
    simp
  rw [filter_numbered later]
  cases kept : published.events.drop dropped with
  | nil =>
      have empty : published.events = [] := by
        have positive := limits.positive
        have few := congrArg List.length kept
        rw [List.length_drop, List.length_nil] at few
        exact List.eq_nil_of_length_eq_zero (by omega)
      simp [empty]
  | cons event rest =>
      have first : event.sequence = 1 + dropped := by
        rw [kept] at later
        simpa [List.range'_succ] using (congrArg List.head? later)
      have near := told event.sequence (by simp [kept])
      rw [← kept, List.drop_drop]
      congr 1
      omega

theorem snapshot_eq_ok {viewer : ExecutionViewer} {after : Nat}
    {readings : String → Rat} {view : ExecutionSnapshot}
    (polled : (viewer.snapshot limits sha256 executionId token after
      readings).1 = .ok view) :
    ∃ item, (executionId, item) ∈ viewer.items ∧
      view.events = item.events.filter (fun event => after < event.sequence) ∧
      view.eventCursor = item.eventSequence ∧
      view.firstEventSequence = item.events.head?.map ViewedEvent.sequence := by
  unfold snapshot authorize at polled
  dsimp only at polled
  split at polled
  next => cases polled
  next item found =>
    split at polled
    next =>
      cases polled
      have member := (expire_sublist limits viewer readings).subset
        (Dict.mem_of_get? found)
      exact ⟨item, member, rfl, rfl, rfl⟩
    next => cases polled

/-- An unfinished execution answers whoever holds its token. -/
theorem snapshot_answers {viewer : ExecutionViewer}
    (distinct : viewer.items.keys.Nodup) {item : ViewedExecution}
    (member : (executionId, item) ∈ viewer.items)
    (unfinished : item.active = true) (held : item.tokenHash = sha256 token)
    (after : Nat) (readings : String → Rat) :
    ∃ view, (viewer.snapshot limits sha256 executionId token after
      readings).1 = .ok view := by
  have kept := Dict.get?_of_mem
    (keys_nodup (expire_sublist limits viewer readings) distinct)
    (mem_expire limits distinct member unfinished readings)
  simp [snapshot, authorize, kept, held, Except.map]

/-- A run in which a client polls one execution with its last cursor, as long
as no snapshot tells it that earlier events were dropped. -/
inductive PolledRun (limits : ViewingLimits) (sha256 : String → Bytes)
    (executionId token : String) :
    ViewerWatch → Nat → List ViewedEvent → Prop where
  | here : PolledRun limits sha256 executionId token {} 0 []
  | step {watch : ViewerWatch} {after : Nat} {received : List ViewedEvent}
      (call : ViewerCall) :
      PolledRun limits sha256 executionId token watch after received →
      (∀ drawn ∈ call.draws, drawn ∉ watch.issued) →
      PolledRun limits sha256 executionId token
        (watch.step limits sha256 call) after received
  | poll {watch : ViewerWatch} {after : Nat} {received : List ViewedEvent}
      {readings : String → Rat} {view : ExecutionSnapshot} :
      PolledRun limits sha256 executionId token watch after received →
      (watch.viewer.snapshot limits sha256 executionId token after
        readings).1 = .ok view →
      (∀ first ∈ view.firstEventSequence, first ≤ after + 1) →
      PolledRun limits sha256 executionId token
        (watch.step limits sha256
          (.snapshot executionId token after readings))
        view.eventCursor (received ++ view.events)

theorem PolledRun.sound {watch : ViewerWatch} {after : Nat}
    {received : List ViewedEvent}
    (polled : PolledRun limits sha256 executionId token watch after received) :
    watch.Sound limits := by
  induction polled with
  | here => exact ViewerWatch.sound_first
  | step call _ fresh ih => exact ih.step fresh
  | poll _ _ _ ih => exact ih.step (fun _ drawn => nomatch drawn)

/-- A history only grows. -/
theorem ViewerWatch.step_grows (limits : ViewingLimits)
    (sha256 : String → Bytes) (watch : ViewerWatch) (call : ViewerCall)
    (executionId : String) :
    (watch.published executionId).events <+:
      ((watch.step limits sha256 call).published executionId).events := by
  have step := watch.step_cases limits sha256 call
  generalize watch.step limits sha256 call = next at step
  cases step with
  | dropped _ => exact List.prefix_refl _
  | @changed _ changed _ _ _ _ follows _ =>
      by_cases same : executionId = changed
      · subst same
        simpa using follows.grows
      · simp [Function.update_of_ne same]
  | started _ _ _ => exact List.prefix_refl _

/-- A polling client has received exactly what was accepted up to its cursor,
in order. -/
theorem PolledRun.received {watch : ViewerWatch} {after : Nat}
    {received : List ViewedEvent}
    (polled : PolledRun limits sha256 executionId token watch after received) :
    after ≤ (watch.published executionId).events.length ∧
      received = (watch.published executionId).events.take after := by
  induction polled with
  | here => exact ⟨Nat.le_refl _, rfl⟩
  | @step watch after received call _ _ ih =>
      obtain ⟨within, same⟩ := ih
      obtain ⟨more, grown⟩ := watch.step_grows limits sha256 call executionId
      rw [← grown, List.length_append, List.take_append_of_le_length within]
      exact ⟨Nat.le_add_right_of_le within, same⟩
  | @poll watch after received readings view earlier answered told ih =>
      obtain ⟨within, same⟩ := ih
      obtain ⟨item, member, events, cursor, first⟩ := snapshot_eq_ok answered
      have tracks := earlier.sound.tracks executionId item member
      rw [first] at told
      rw [events, tracks.polled told, same, List.take_append_drop, cursor,
        ← tracks.events_length]
      have kept : (watch.step limits sha256
          (.snapshot executionId token after readings)).published =
            watch.published := rfl
      rw [kept, List.take_length]
      exact ⟨Nat.le_refl _, rfl⟩

/-- A poll that reports no gap brings the client everything accepted so far. -/
theorem PolledRun.caught_up {watch : ViewerWatch} {after : Nat}
    {received : List ViewedEvent}
    (polled : PolledRun limits sha256 executionId token watch after received)
    {readings : String → Rat} {view : ExecutionSnapshot}
    (answered : (watch.viewer.snapshot limits sha256 executionId token after
      readings).1 = .ok view)
    (told : ∀ first ∈ view.firstEventSequence, first ≤ after + 1) :
    received ++ view.events = (watch.published executionId).events ∧
      view.eventCursor = (watch.published executionId).events.length := by
  obtain ⟨item, member, events, cursor, first⟩ := snapshot_eq_ok answered
  have tracks := polled.sound.tracks executionId item member
  obtain ⟨-, same⟩ := polled.received
  rw [first] at told
  refine ⟨?_, by rw [cursor, tracks.events_length]⟩
  rw [events, tracks.polled told, same, List.take_append_drop]

/-- A client that polls with its last cursor has received every event up to it
once and in order, is answered while the execution runs, and after an answer
without a gap has received every event accepted so far. -/
def ViewerWatch.Polls (limits : ViewingLimits) (sha256 : String → Bytes)
    (watch : ViewerWatch) : Prop :=
  ∀ executionId token after received,
    PolledRun limits sha256 executionId token watch after received →
    received = (watch.published executionId).events.take after ∧
    received.map ViewedEvent.sequence = List.range' 1 after ∧
    (∀ item readings, (executionId, item) ∈ watch.viewer.items →
      item.active = true → item.tokenHash = sha256 token →
      ∃ view, (watch.viewer.snapshot limits sha256 executionId token after
        readings).1 = .ok view) ∧
    ∀ readings view,
      (watch.viewer.snapshot limits sha256 executionId token after
        readings).1 = .ok view →
      (∀ first ∈ view.firstEventSequence, first ≤ after + 1) →
      received ++ view.events = (watch.published executionId).events ∧
        view.eventCursor = (watch.published executionId).events.length

theorem ViewerWatch.Sound.polls {watch : ViewerWatch}
    (sound : watch.Sound limits) : watch.Polls limits sha256 := by
  intro executionId token after received polled
  obtain ⟨within, same⟩ := polled.received
  refine ⟨same, ?_, ?_, fun _ _ answered told =>
    polled.caught_up answered told⟩
  · rw [same, List.map_take, sound.numbered,
      List.take_range'_of_length_ge within]
  · intro item readings member unfinished held
    exact snapshot_answers sound.distinct member unfinished held after readings

end Polling

/-- What an execution retains of what was accepted for it. -/
structure ViewedExecution.Retains (limits : ViewingLimits)
    (item : ViewedExecution)
    (published : Published) : Prop where
  bytes : item.byteCount = frameSize item.frames
  bytesBound : item.byteCount ≤ limits.maximumBytes
  frames : item.frames <:+ published.frames
  framesNumbered :
    published.frames.map (fun held => held.metadata.sequence) =
      List.range' 1 item.sequence
  evicted : item.evictedFrames + item.frames.length = item.sequence
  events : item.events <:+ published.events
  eventsBound : item.events.length ≤ limits.maximumEvents
  eventsNumbered : published.events.map ViewedEvent.sequence =
    List.range' 1 item.eventSequence

theorem ViewedExecution.Tracks.retains {item : ViewedExecution}
    {published : Published}
    (tracks : item.Tracks limits published) : item.Retains limits published where
  bytes := tracks.bytes
  bytesBound := tracks.bytesBound
  frames := tracks.frames_suffix
  framesNumbered := tracks.numbered
  evicted := tracks.counted
  events := tracks.events_suffix
  eventsBound := tracks.eventsBound
  eventsNumbered := tracks.eventsNumbered

/-- While no end of an execution is noted at a clock reading of zero, the
viewer keeps its bounds, can start whenever it should, never changes an
execution that has ended, and loses no event of a polling client silently. -/
theorem viewer_bounded {watch : ViewerWatch}
    (run : ViewerRun limits sha256 ViewerCall.ticks {} watch) :
    watch.viewer.items.length ≤ limits.maximumExecutions ∧
    activeCount watch.viewer.items ≤ limits.maximumActive ∧
    watch.Startable limits sha256 ∧
    (∀ executionId item, (executionId, item) ∈ watch.viewer.items →
      item.Retains limits (watch.published executionId)) ∧
    (∀ later, ViewerRun limits sha256 ViewerCall.ticks watch later →
      ∀ executionId item item',
        (executionId, item) ∈ watch.viewer.items → item.active = false →
        (executionId, item') ∈ later.viewer.items →
        item'.state = item.state) ∧
    watch.Polls limits sha256 := by
  have sound := ViewerRun.sound run ViewerWatch.sound_first
  have stamped : watch.Stamped :=
    ViewerRun.stamped run (fun _ member => nomatch member)
  refine ⟨sound.capacity, sound.active, sound.startable stamped, ?_, ?_,
    sound.polls⟩
  · intro executionId item member
    exact (sound.tracks executionId item member).retains
  · intro later run' executionId item item' member finished member'
    obtain ⟨finishedAt, ended⟩ : ∃ at', item.finishedAt = some at' := by
      simpa [ViewedExecution.active, Option.isNone_eq_false_iff,
        Option.isSome_iff_exists] using finished
    have settled : watch.Settled executionId item.state finishedAt := by
      refine ⟨sound.issued _ (Dict.mem_keys.mpr ⟨item, member⟩), ?_⟩
      intro other present
      cases entry_unique sound.distinct present member
      exact ⟨rfl, ended⟩
    exact ((ViewerRun.settled run' settled).kept item' member').1

section Zero

/-- `start` fails when the viewer is full and no end can be seen. -/
theorem start_blocked {viewer : ExecutionViewer} {mode : ViewMode}
    {executionId token : String} {readings : String → Rat}
    (opened : viewer.closed = false)
    (few : activeCount (viewer.expire limits readings).items <
      limits.maximumActive)
    (full : limits.maximumExecutions ≤
      (viewer.expire limits readings).items.length)
    (unseen : oldest (viewer.expire limits readings).items = none) :
    (viewer.start limits sha256 mode executionId token readings).1 =
      .error .stopIteration := by
  have opened' : (viewer.expire limits readings).closed = false := opened
  simp [start, opened', Nat.not_le.mpr few, makeRoom_stuck full unseen]

/-- One execution may be retained, and it may be running. -/
def ViewingLimits.single : ViewingLimits where
  maximumExecutions := 1
  positive := by decide
  retained := by decide

def ViewerCall.startFirst : ViewerCall :=
  .start .replay "exe_1" "first" fun _ => 0

def ViewerCall.succeed (now : Rat) : ViewerCall :=
  .finish "exe_1" [("status", .str "success")] now

/-- One execution that ended when the clock read `now`. -/
def ViewerWatch.once (sha256 : String → Bytes) (now : Rat) : ViewerWatch :=
  (ViewerWatch.step .single sha256 {} .startFirst).step .single sha256
    (.succeed now)

theorem started_viewer (sha256 : String → Bytes) :
    (ViewerWatch.step .single sha256 {} .startFirst).viewer =
      { items := [("exe_1",
          { id := "exe_1", mode := .replay,
            tokenHash := sha256 "first" })] } := by
  simp [ViewerWatch.step, ViewerCall.run, ViewerCall.startFirst, start,
    expire, activeCount, makeRoom, ViewingLimits.single, Dict.set]

theorem once_viewer (sha256 : String → Bytes) (now : Rat) :
    (ViewerWatch.once sha256 now).viewer =
      { items := [("exe_1",
          { id := "exe_1", mode := .replay, tokenHash := sha256 "first"
            state := .success
            result := some [("status", .str "success")]
            finishedAt := some now })] } := by
  change ((ViewerWatch.step .single sha256 {} .startFirst).viewer.finish
    "exe_1" [("status", .str "success")] now) = _
  rw [started_viewer]
  rfl

theorem once_issued (sha256 : String → Bytes) (now : Rat) :
    (ViewerWatch.once sha256 now).issued = ["exe_1"] := rfl

theorem ViewerRun.once {meets : ViewerCall → Prop} (sha256 : String → Bytes)
    (now : Rat) (first : meets .startFirst) (last : meets (.succeed now)) :
    ViewerRun .single sha256 meets {} (.once sha256 now) :=
  .step _ (.step _ .here (by simp) first) (fun _ drawn => nomatch drawn) last

def ViewerCall.announce : ViewerCall :=
  .publishEvent { executionId := "exe_1", runId := "run_1", phase := "replay" }
    [("event_type", .str "step_started")]

/-- One running execution with one event. -/
def ViewerWatch.announced (sha256 : String → Bytes) : ViewerWatch :=
  (ViewerWatch.step .single sha256 {} .startFirst).step .single sha256
    .announce

theorem announced_viewer (sha256 : String → Bytes) :
    (ViewerWatch.announced sha256).viewer =
      { items := [("exe_1",
          { id := "exe_1", mode := .replay, tokenHash := sha256 "first"
            events := [{
              event := [("event_type", .str "step_started")]
              sequence := 1, runId := "run_1", phase := "replay" }]
            eventSequence := 1 })] } := by
  change ((ViewerWatch.step .single sha256 {} .startFirst).viewer.publishEvent
    .single _ _) = _
  rw [started_viewer]
  simp [publishEvent, running, Option.filter, ViewedExecution.active, put,
    withEvent, stamped, ViewingLimits.single, Dict.get?_cons, Dict.set]

/-- The client of a running execution is answered with its one event, and the
execution keeps to its bounds. -/
theorem announced_polled : ∃ view,
    (snapshot .single (fun _ => []) (ViewerWatch.announced fun _ => []).viewer
      "exe_1" "first" 0 fun _ => 0).1 = .ok view ∧
    view.events.map ViewedEvent.sequence = [1] ∧
    view.eventCursor = 1 ∧
    (ViewerWatch.announced fun _ => []).viewer.items.length ≤ 1 ∧
    ∀ executionId item,
      (executionId, item) ∈ (ViewerWatch.announced fun _ => []).viewer.items →
      item.byteCount = frameSize item.frames := by
  have run : ViewerRun .single (fun _ => []) ViewerCall.ticks {}
      (ViewerWatch.announced fun _ => []) := by
    refine .step _ (.step _ .here (by simp) ?_)
      (fun _ drawn => by cases drawn) ?_
    all_goals
      intro now stamps
      cases stamps
  have polled : PolledRun .single (fun _ => []) "exe_1" "first"
      (ViewerWatch.announced fun _ => []) 0 [] :=
    .step _ (.step _ .here (by simp)) (fun _ drawn => by cases drawn)
  obtain ⟨capacity, -, -, retains, -, polls⟩ := viewer_bounded run
  obtain ⟨-, -, answers, complete⟩ := polls _ _ _ _ polled
  have viewer := announced_viewer fun _ => []
  obtain ⟨view, answered⟩ := answers _ (fun _ => 0)
    (by rw [viewer]; exact List.mem_singleton_self _) rfl rfl
  obtain ⟨item, member, -, -, first⟩ := snapshot_eq_ok answered
  rw [viewer, List.mem_singleton, Prod.mk.injEq] at member
  obtain ⟨-, rfl⟩ := member
  have accepted : ((ViewerWatch.announced fun _ => []).published
      "exe_1").events.map ViewedEvent.sequence = [1] := by
    have sequence := (retains "exe_1" _
      (by rw [viewer]; exact List.mem_singleton_self _)).eventsNumbered
    exact sequence
  obtain ⟨all, cursor⟩ := complete _ view answered (by simp [first])
  rw [List.nil_append] at all
  have counted := congrArg List.length accepted
  rw [List.length_map] at counted
  exact ⟨view, answered, all ▸ accepted, cursor.trans counted, capacity,
    fun executionId item member => (retains executionId item member).bytes⟩

/-- An execution that ended when the clock read zero is never evicted: nothing
is running, and still nothing can be started. -/
theorem ended_at_zero_blocks :
    ViewerRun .single (fun _ => []) (fun _ => True) {}
      (.once (fun _ => []) 0) ∧
    "exe_2" ∉ (ViewerWatch.once (fun _ => []) 0).issued ∧
    activeCount (ViewerWatch.once (fun _ => []) 0).viewer.items <
      ViewingLimits.single.maximumActive ∧
    (start .single (fun _ => []) (ViewerWatch.once (fun _ => []) 0).viewer
      .replay "exe_2" "second" (fun _ => 0)).1 = .error .stopIteration := by
  have viewer := once_viewer (fun _ => []) 0
  refine ⟨ViewerRun.once (fun _ => []) 0 trivial trivial,
    by simp [once_issued], ?_, ?_⟩
  · rw [viewer]
    decide
  · rw [viewer]
    exact start_blocked rfl (by decide +kernel) (by decide +kernel)
      (by decide +kernel)

end Zero

end ReplayForge
