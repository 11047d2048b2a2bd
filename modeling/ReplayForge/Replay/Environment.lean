import ReplayForge.Capabilities.Samples
import ReplayForge.Replay.Calls
import ReplayForge.Runtime.Footprints

/-!
# A concrete environment

A bank page on which everything works, for concrete runs: the repositories
answer by their own semantics and a script may replace any answer.
-/

namespace ReplayForge

open Effect

namespace Sample

def engine : ReplayEngine where
  host := host
  render
    | .str value => value
    | _ => ""
  effectivePolicy := {
    layerNames := ["platform"]
    allowedOrigins := ["https://bank"]
    allowedRoutePatterns := ["/pay"]
    allowedActionTypes := Action.knownKinds
    maximumRisk := .reversible
    forbiddenFieldClasses := [.credential, .secret] }
  leaseService := ⟨300, by decide⟩
  continuationSink := true
  compatibilityValidator := false

def sessionId : String := "ses_00000000000000000000000000000001"

def session : SurfaceSession where
  sessionId := sessionId

def observation : NormalizedObservation :=
  page sessionId (by decide)

def resolved : ResolvedTarget where
  handle := "button"
  description := "Pay"
  candidateIndex := 0
  registeredRisk := some .reversible
  described := by decide

def request (parts : Parts) : ReplayRequest where
  runId := runId
  artifact := artifact parts
  tenant := "standard"
  inputs := []

/-- The repositories after a run. -/
def control (past : List RuntimeEvent) : ControlState :=
  past.foldl (fun state event => match event.op with
    | .control op => (state.respond op).1
    | _ => state) {}

def answerSession : (op : SessionOp) → op.Result
  | .observe => observation
  | .origin => "https://bank"
  | .captureProviderFrame => pngSignature
  | .resolve _ _ => resolved
  | .captureLocator _ => target "Pay"
  | .execute _ _ _ => .completed
  | .evaluate _ _ _ => false
  | .waitUntil _ _ _ _ => true
  | .extract _ => "customer"
  | .close => ()

/-- An identifier of each kind. -/
def freshId : (kind : EntityKind) → EntityId kind
  | .execution => ⟨"exe_00000000000000000000000000000002", by decide⟩
  | .run => ⟨"run_00000000000000000000000000000002", by decide⟩
  | .suite => ⟨"sui_00000000000000000000000000000002", by decide⟩
  | .session => ⟨"ses_00000000000000000000000000000002", by decide⟩
  | .intervention => ⟨"int_00000000000000000000000000000002", by decide⟩
  | .evidence => ⟨"evd_00000000000000000000000000000002", by decide⟩
  | .decision => ⟨"dec_00000000000000000000000000000002", by decide⟩
  | .event => ⟨"evt_00000000000000000000000000000002", by decide⟩
  | .trace => ⟨"trc_00000000000000000000000000000002", by decide⟩

/-- The answers of a page on which everything works. -/
def answer (past : List RuntimeEvent) : (op : RuntimeOp) → op.Resp
  | .openSession _ _ _ => .ok session
  | .session _ op => .ok (answerSession op)
  | .control op => ((control past).respond op).2
  | .now => 0
  | .newId kind => freshId kind
  | .record _ _ _ _ | .attachScreenshot _ _ _ | .validateCompatibility _ _
  | .retain _ => .ok ()
  | .evidenceManifestKey => manifest
  | .sleep _ | .mark _ => ()

/-- A script replaces the answers it is defined on. -/
abbrev Script :=
  List RuntimeEvent → (op : RuntimeOp) → Option op.Resp

/-- A timeout whose operation had no effect. -/
def timeout : SurfaceError where
  code := "action_timeout"
  safeMessage := "The page did not answer in time."
  recoverable := true
  effectAbsent := true

/-- The first session call that meets the test fails. -/
def failsOnce (error : SurfaceError) (test : SessionOp → Bool) : Script
  | past, .session _ op =>
      let met : RuntimeEvent → Bool
        | ⟨.session _ earlier, _⟩ => test earlier
        | _ => false
      if test op && !past.any met then some (.error (.surface error))
      else none
  | _, _ => none

def scripted (script : Script) (past : List RuntimeEvent) (op : RuntimeOp) :
    op.Resp :=
  (script past op).getD (answer past op)

/-- The events and the result of a call under a script. -/
def play {α : Type} (script : Script) (call : Replay α)
    (start : EngineState := {}) : List RuntimeEvent × Except Raised α :=
  let played := (call.run.run start).play (scripted script) []
  (played.1, played.2.1)

def succeeds : Except Raised RunResult → Bool
  | .ok result => result.isSuccess
  | .error _ => false

theorem executes_play {α : Type} (script : Script) (call : Replay α)
    (start : EngineState) :
    ∃ final, Executes call start (play script call start).1
      (play script call start).2 final :=
  ⟨_, Program.runs_play (scripted script) [] (call.run.run start)⟩

end Sample

end ReplayForge
