import ReplayForge.Effect.Procedure
import ReplayForge.Evidence.Models
import ReplayForge.Interventions.Transitions
import ReplayForge.Replay.Models

/-!
# The operations of the runtime

Everything the engines ask of their environment.  A response is arbitrary
within its type: sessions, the sink and the validator raise surface errors or
faults, the repositories and the journal their own errors.
-/

namespace ReplayForge

open Effect

/-- Calls on a live surface session. -/
inductive SessionOp where
  | observe
  | origin
  | captureProviderFrame
  | resolve (target : LocatorBundle) (timeoutMs : Nat)
  | captureLocator (target : ResolvedTarget)
  | execute (action : Action) (target : Option ResolvedTarget)
      (inputs : Fields)
  | evaluate (condition : Condition) (outputs : Outputs) (inputs : Fields)
  | waitUntil (condition : Condition) (outputs : Outputs) (inputs : Fields)
      (timeoutMs : Nat)
  | extract (target : ResolvedTarget)
  | close

abbrev SessionOp.Result : SessionOp → Type
  | .observe => NormalizedObservation
  | .origin => String
  | .captureProviderFrame => Bytes
  | .resolve _ _ => ResolvedTarget
  | .captureLocator _ => LocatorBundle
  | .execute _ _ _ => ActionReceipt
  | .evaluate _ _ _ | .waitUntil _ _ _ _ => Bool
  | .extract _ => String
  | .close => Unit

/-- Positions of a run that statements refer to.  A mark has no effect and
corresponds to no call of the source.  The index of a main step identifies its
visit; the steps of a recovery have none. -/
inductive Mark where
  | visit (index : Option Nat) (step : Step)
  | attempt (index : Option Nat) (number : Nat)
  /-- The `except` branch of an attempt was entered. -/
  | failed (index : Option Nat) (error : SurfaceError)
  | leave (index : Option Nat) (result : StepResult)
  /-- A declared application failure is about to be reported. -/
  | declaredFailure (code : String)

inductive RuntimeOp where
  | openSession (applicationFamily tenant entryPoint : String)
  | session (sessionId : String) (op : SessionOp)
  | control (op : ControlOp)
  | now
  | newId (kind : EntityKind)
  | record (eventType runId : String) (stepId : Option String)
      (details : Fields)
  | attachScreenshot (kind : String) (payload : Bytes)
      (retention : RetentionClass)
  | evidenceManifestKey
  | validateCompatibility (artifact : CapabilityArtifact) (tenant : String)
  /-- The sleeper, in milliseconds. -/
  | sleep (milliseconds : Nat)
  /-- The continuation sink. -/
  | retain (continuation : ReplayContinuation)
  | mark (mark : Mark)

abbrev RuntimeOp.Resp : RuntimeOp → Type
  | .openSession _ _ _ => Except SessionError SurfaceSession
  | .session _ op => Except SessionError op.Result
  | .control op => Except ControlError op.Result
  | .now => Int
  | .newId kind => EntityId kind
  | .record _ _ _ _ | .attachScreenshot _ _ _ => Except Fault Unit
  | .evidenceManifestKey => String
  | .validateCompatibility _ _ | .retain _ => Except SessionError Unit
  | .sleep _ | .mark _ => Unit

abbrev RuntimeSig : Signature where
  Op := RuntimeOp
  Resp := RuntimeOp.Resp

abbrev RuntimeEvent := Event RuntimeSig

/-- A piece of runtime code with local state `σ`. -/
abbrev Runtime (σ α : Type) := Procedure RuntimeSig σ Raised α

namespace Runtime

variable {σ α : Type}

private def call (op : RuntimeOp) : Runtime σ op.Resp :=
  @perform RuntimeSig σ Raised op

def session (sessionId : String) (op : SessionOp) : Runtime σ op.Result :=
  invoke (.session sessionId op) fun resp =>
    resp.mapError SessionError.raised

def control (op : ControlOp) : Runtime σ op.Result :=
  invoke (.control op) fun resp => resp.mapError ControlError.raised

def now : Runtime σ Int :=
  call .now

def newId (kind : EntityKind) : Runtime σ (EntityId kind) :=
  call (.newId kind)

def record (eventType runId : String) (stepId : Option String := none)
    (details : Fields := []) : Runtime σ Unit :=
  invoke (.record eventType runId stepId details) fun resp =>
    resp.mapError Fault.raised

def attachScreenshot (kind : String) (payload : Bytes)
    (retention : RetentionClass) : Runtime σ Unit :=
  invoke (.attachScreenshot kind payload retention) fun resp =>
    resp.mapError Fault.raised

def evidenceManifestKey : Runtime σ String :=
  call .evidenceManifestKey

def validateCompatibility (artifact : CapabilityArtifact) (tenant : String) :
    Runtime σ Unit :=
  invoke (.validateCompatibility artifact tenant) fun resp =>
    resp.mapError SessionError.raised

def openSession (applicationFamily tenant entryPoint : String) :
    Runtime σ SurfaceSession :=
  invoke (.openSession applicationFamily tenant entryPoint) fun resp =>
    resp.mapError SessionError.raised

def retain (continuation : ReplayContinuation) : Runtime σ Unit :=
  invoke (.retain continuation) fun resp =>
    resp.mapError SessionError.raised

def sleep (milliseconds : Nat) : Runtime σ Unit :=
  call (.sleep milliseconds)

def mark (position : Mark) : Runtime σ Unit :=
  call (.mark position)

/-- Raise when the test holds. -/
def raiseIf (test : Prop) [Decidable test] (error : Raised) :
    Runtime σ Unit :=
  if test then throw error else pure ()

/-- An `except` clause: the selected exceptions become values, the others
pass. -/
def catching {ε : Type} (select : Raised → Option ε) (body : Runtime σ α) :
    Runtime σ (Except ε α) :=
  tryCatch (Except.ok <$> body) fun error =>
    match select error with
    | some caught => pure (.error caught)
    | none => throw error

/-- `finally`: an exception of the final part replaces the outcome. -/
def ensuring (body : Runtime σ α) (final : Runtime σ Unit) : Runtime σ α := do
  let outcome ← catching some body
  final
  attempt outcome

/-- The first part's result, or the rest when it has none. -/
def orNext (first : Runtime σ (Option α)) (next : Runtime σ α) :
    Runtime σ α := do
  match ← first with
  | some value => pure value
  | none => next

end Runtime

end ReplayForge
