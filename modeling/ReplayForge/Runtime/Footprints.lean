import ReplayForge.Effect.Watch
import ReplayForge.Runtime.Operations

/-!
# Footprints of runtime code

The kind of an operation forgets its arguments.  `Uses` bounds the kinds a
piece of runtime code issues; the rules below give it for the combinators.
-/

namespace ReplayForge

open Effect

inductive OpKind where
  | openSession
  | observe
  | origin
  | capture
  | resolve
  | captureLocator
  | execute
  | evaluate
  | wait
  | extract
  | close
  | createLease
  | getLease
  | swapLease
  | getPair
  | createPaused
  | swapPair
  | now
  | newId
  | record (eventType : String)
  | attach
  | manifest
  | compatibility
  | sleep
  | retain
  | visit (main : Bool)
  | attempt (main : Bool)
  | failed (main : Bool)
  | leave (main : Bool)
  | declaredFailure
deriving DecidableEq

@[simp]
def SessionOp.kind : SessionOp → OpKind
  | .observe => .observe
  | .origin => .origin
  | .captureProviderFrame => .capture
  | .resolve _ _ => .resolve
  | .captureLocator _ => .captureLocator
  | .execute _ _ _ => .execute
  | .evaluate _ _ _ => .evaluate
  | .waitUntil _ _ _ _ => .wait
  | .extract _ => .extract
  | .close => .close

@[simp]
def ControlOp.kind : ControlOp → OpKind
  | .createLease _ => .createLease
  | .getLease _ => .getLease
  | .swapLease _ _ _ _ => .swapLease
  | .getPair _ => .getPair
  | .createPaused _ _ _ _ _ => .createPaused
  | .swapPair _ _ _ _ _ _ => .swapPair

@[simp]
def Mark.kind : Mark → OpKind
  | .visit index _ => .visit index.isSome
  | .attempt index _ => .attempt index.isSome
  | .failed index _ => .failed index.isSome
  | .leave index _ => .leave index.isSome
  | .declaredFailure _ => .declaredFailure

def RuntimeOp.kind : RuntimeOp → OpKind
  | .openSession _ _ _ => .openSession
  | .session _ op => op.kind
  | .control op => op.kind
  | .now => .now
  | .newId _ => .newId
  | .record eventType _ _ _ => .record eventType
  | .attachScreenshot _ _ _ => .attach
  | .evidenceManifestKey => .manifest
  | .validateCompatibility _ _ => .compatibility
  | .sleep _ => .sleep
  | .retain _ => .retain
  | .mark position => position.kind

/-- The kind of an event's operation. -/
def eventKind (event : RuntimeEvent) : OpKind :=
  RuntimeOp.kind event.op

/-- An exception of the code, not the mark of an exhausted bound. -/
def ordinary (error : Raised) : Prop := error ≠ .unfinished

/-- An exception of the code that is no surface error. -/
def noSurface (error : Raised) : Prop :=
  error.surface? = none ∧ error ≠ .unfinished

/-- The code issues operations of the given kinds only. -/
abbrev Uses {σ γ α : Type} (kinds : List OpKind) (view : σ → γ)
    (raises : Raised → Prop) (body : Runtime σ α) : Prop :=
  Confined (fun event => eventKind event ∈ kinds) view raises body

/-- A watch that looks at operations of the given kinds only. -/
structure RuntimeWatch (Q : Type) where
  step : Watch RuntimeSig Q
  kinds : List OpKind
  silent : ∀ seen event, eventKind event ∉ kinds → step seen event = seen

/-- What holds of the watch and of the local state at one point. -/
abbrev Assertion (σ Q : Type) := Q → σ → Prop

theorem noSurface.ordinary {error : Raised} (proof : noSurface error) :
    ReplayForge.ordinary error :=
  proof.2

theorem Fault.noSurface_raised (fault : Fault) : noSurface fault.raised := by
  cases fault <;> exact ⟨rfl, nofun⟩

theorem ControlError.noSurface_raised (error : ControlError) :
    noSurface error.raised := by
  cases error with
  | storage fault => exact fault.noSurface_raised
  | _ => exact ⟨rfl, nofun⟩

theorem SessionError.ordinary_raised (error : SessionError) :
    ordinary error.raised := by
  cases error with
  | surface error => exact nofun
  | fault reason => exact reason.noSurface_raised.ordinary

theorem noSurface_value {message : String} : noSurface (.value message) :=
  ⟨rfl, nofun⟩

theorem ordinary_value {message : String} : ordinary (.value message) :=
  nofun

section Rules

variable {σ γ α β : Type} {k : List OpKind} {v : σ → γ}
  {raises : Raised → Prop}

theorem Uses.widen {body : Runtime σ α} {more : List OpKind}
    (proof : Uses k v raises body) (included : k ⊆ more) :
    Uses more v raises body :=
  proof.weaken (fun _ member => included member) (fun _ _ same => same)
    (fun _ error => error)

theorem Uses.ordinary {body : Runtime σ α}
    (proof : Uses k v noSurface body) :
    Uses k v ReplayForge.ordinary body :=
  proof.weaken (fun _ member => member) (fun _ _ same => same)
    (fun _ error => error.ordinary)

theorem uses_session {sessionId : String} {op : SessionOp}
    (member : op.kind ∈ k) :
    Uses k v ReplayForge.ordinary
      (Runtime.session sessionId op : Runtime σ op.Result) := by
  refine confined_invoke (fun _ => member) fun resp error failed => ?_
  cases resp with
  | ok value => cases failed
  | error reason =>
      cases failed
      exact reason.ordinary_raised

theorem uses_control {op : ControlOp} (member : op.kind ∈ k) :
    Uses k v noSurface (Runtime.control op : Runtime σ op.Result) := by
  refine confined_invoke (fun _ => member) fun resp error failed => ?_
  cases resp with
  | ok value => cases failed
  | error reason =>
      cases failed
      exact reason.noSurface_raised

theorem uses_now (member : OpKind.now ∈ k) :
    Uses k v raises (Runtime.now : Runtime σ Int) :=
  confined_perform fun _ => member

theorem uses_newId {kind : EntityKind} (member : OpKind.newId ∈ k) :
    Uses k v raises
      (Runtime.newId kind : Runtime σ (EntityId kind)) :=
  confined_perform fun _ => member

theorem uses_manifest (member : OpKind.manifest ∈ k) :
    Uses k v raises
      (Runtime.evidenceManifestKey : Runtime σ String) :=
  confined_perform fun _ => member

theorem uses_sleep {milliseconds : Nat} (member : OpKind.sleep ∈ k) :
    Uses k v raises (Runtime.sleep milliseconds : Runtime σ Unit) :=
  confined_perform fun _ => member

theorem uses_mark {position : Mark} (member : position.kind ∈ k) :
    Uses k v raises (Runtime.mark position : Runtime σ Unit) :=
  confined_perform fun _ => member

private theorem storage_noSurface {resp : Except Fault Unit}
    {error : Raised} (failed : resp.mapError Fault.raised = .error error) :
    noSurface error := by
  cases resp with
  | ok value => cases failed
  | error reason =>
      cases failed
      exact reason.noSurface_raised

theorem uses_record {eventType runId : String} {stepId : Option String}
    {details : Fields} (member : OpKind.record eventType ∈ k) :
    Uses k v noSurface
      (Runtime.record eventType runId stepId details : Runtime σ Unit) :=
  confined_invoke (fun _ => member) fun _ _ failed => storage_noSurface failed

theorem uses_attachScreenshot {kind : String} {payload : Bytes}
    {retention : RetentionClass} (member : OpKind.attach ∈ k) :
    Uses k v noSurface
      (Runtime.attachScreenshot kind payload retention : Runtime σ Unit) :=
  confined_invoke (fun _ => member) fun _ _ failed => storage_noSurface failed

theorem confined_raiseIf {allowed : RuntimeEvent → Prop} {test : Prop}
    [Decidable test] {error : Raised} (permitted : test → raises error) :
    Confined allowed v raises
      (Runtime.raiseIf test error : Runtime σ Unit) :=
  confined_ite (fun holds => confined_throw (permitted holds))
    fun _ => confined_pure

theorem confined_forM {allowed : RuntimeEvent → Prop} {item : Option β}
    {step : β → Runtime σ PUnit}
    (each : ∀ value, Confined allowed v raises (step value)) :
    Confined allowed v raises (item.forM step) := by
  cases item with
  | none => exact confined_pure
  | some value => exact each value

theorem confined_catching {ε : Type} {allowed : RuntimeEvent → Prop}
    {select : Raised → Option ε} {body : Runtime σ α} {c : Raised → Prop}
    (first : Confined allowed v c body)
    (passed : ∀ error, c error → select error = none → raises error) :
    Confined allowed v raises (Runtime.catching select body) := by
  refine confined_tryCatch (c := c)
    (confined_bind first fun value => confined_pure) fun error thrown => ?_
  cases selected : select error with
  | some value => exact confined_pure
  | none => exact confined_throw (passed error thrown selected)

end Rules

/-- Operations of the given kinds do not disturb the assertion. -/
def Stable {σ Q : Type} (watch : Watch RuntimeSig Q) (kinds : List OpKind)
    (holds : Assertion σ Q) : Prop :=
  ∀ seen state event, holds seen state → eventKind event ∈ kinds →
    holds (watch seen event) state

theorem Stable.narrow {σ Q : Type} {watch : Watch RuntimeSig Q}
    {kinds fewer : List OpKind} {holds : Assertion σ Q}
    (stable : Stable watch kinds holds) (included : fewer ⊆ kinds) :
    Stable watch fewer holds :=
  fun seen state event here member =>
    stable seen state event here (included member)

/-- Operations a watch does not look at disturb nothing. -/
theorem RuntimeWatch.stable {σ Q : Type} {kinds : List OpKind}
    {holds : Assertion σ Q} (watch : RuntimeWatch Q)
    (apart : ∀ kind ∈ kinds, kind ∉ watch.kinds) :
    Stable watch.step kinds holds := by
  intro seen state event here member
  rw [watch.silent seen event (apart _ member)]
  exact here

/-- Code that issues operations of the given kinds only keeps what these do
not disturb, as far as it depends on the kept part of the state. -/
theorem Uses.keeps {σ γ α Q : Type} {kinds : List OpKind} {view : σ → γ}
    {raises : Raised → Prop} {body : Runtime σ α}
    {watch : Watch RuntimeSig Q} {holds : Assertion σ Q}
    (proof : Uses kinds view raises body) (stable : Stable watch kinds holds)
    (coarse : ∀ seen left right, view left = view right → holds seen right →
      holds seen left) :
    Guarantees watch holds body (fun _ => holds)
      (fun error seen state => raises error ∧ holds seen state) :=
  proof.guarantees stable coarse

section Guarantees

variable {σ α Q : Type} {watch : Watch RuntimeSig Q} {before : Q → σ → Prop}
  {raised : Raised → Q → σ → Prop}

theorem guarantees_session {sessionId : String} {op : SessionOp}
    {after : op.Result → Q → σ → Prop}
    (returned : ∀ seen state value, before seen state →
      after value (watch seen ⟨.session sessionId op, .ok value⟩) state)
    (failed : ∀ seen state (error : SessionError), before seen state →
      raised error.raised (watch seen ⟨.session sessionId op, .error error⟩)
        state) :
    Guarantees watch before (Runtime.session sessionId op) after raised := by
  refine guarantees_invoke (fun seen state resp value here read => ?_)
    fun seen state resp error here read => ?_
  · cases resp with
    | ok stored =>
        cases read
        exact returned seen state value here
    | error reason => cases read
  · cases resp with
    | ok stored => cases read
    | error reason =>
        cases read
        exact failed seen state reason here

theorem guarantees_record {eventType runId : String} {stepId : Option String}
    {details : Fields} {after : Unit → Q → σ → Prop}
    (returned : ∀ seen state, before seen state →
      after () (watch seen ⟨.record eventType runId stepId details, .ok ()⟩)
        state)
    (failed : ∀ seen state (fault : Fault), before seen state →
      raised fault.raised
        (watch seen ⟨.record eventType runId stepId details, .error fault⟩)
        state) :
    Guarantees watch before (Runtime.record eventType runId stepId details)
      after raised := by
  refine guarantees_invoke (fun seen state resp value here read => ?_)
    fun seen state resp error here read => ?_
  · cases resp with
    | ok stored => exact returned seen state here
    | error reason => cases read
  · cases resp with
    | ok stored => cases read
    | error reason =>
        cases read
        exact failed seen state reason here

theorem guarantees_raiseIf {test : Prop} [Decidable test] {error : Raised}
    {after : Unit → Q → σ → Prop}
    (passed : ∀ seen state, before seen state → ¬test → after () seen state)
    (thrown : ∀ seen state, before seen state → test →
      raised error seen state) :
    Guarantees watch before (Runtime.raiseIf test error : Runtime σ Unit)
      after raised :=
  guarantees_ite
    (fun holds => guarantees_throw fun seen state here =>
      thrown seen state here holds)
    fun fails => guarantees_pure fun seen state here =>
      passed seen state here fails

theorem guarantees_catching {ε : Type} {select : Raised → Option ε}
    {body : Runtime σ α} {after : Except ε α → Q → σ → Prop}
    {c : Raised → Q → σ → Prop}
    (first : Guarantees watch before body (fun value => after (.ok value))
      c)
    (selected : ∀ error value seen state, c error seen state →
      select error = some value → after (.error value) seen state)
    (passed : ∀ error seen state, c error seen state →
      select error = none → raised error seen state) :
    Guarantees watch before (Runtime.catching select body) after raised := by
  refine guarantees_tryCatch (c := c)
    (guarantees_bind first fun value => guarantees_pure fun _ _ here => here)
    fun error => ?_
  cases chosen : select error with
  | some value =>
      exact guarantees_pure fun seen state here =>
        selected error value seen state here chosen
  | none =>
      exact guarantees_throw fun seen state here =>
        passed error seen state here chosen

/-- What is known of an outcome. -/
def outcomeHolds {ε : Type} (returned : α → Q → σ → Prop)
    (failed : ε → Q → σ → Prop) : Except ε α → Q → σ → Prop
  | .ok value => returned value
  | .error error => failed error

theorem guarantees_ensuring {body : Runtime σ α} {final : Runtime σ Unit}
    {after m : α → Q → σ → Prop} {f : Raised → Q → σ → Prop}
    (first : Guarantees watch before body m f)
    (returned : ∀ value, Guarantees watch (m value) final
      (fun _ => after value) raised)
    (failed : ∀ error, Guarantees watch (f error) final
      (fun _ => raised error) raised) :
    Guarantees watch before (Runtime.ensuring body final) after raised := by
  refine guarantees_bind (m := outcomeHolds m f)
    (guarantees_catching first ?_ ?_) fun outcome => ?_
  · intro error value seen state here same
    cases same
    exact here
  · intro error seen state here impossible
    cases impossible
  · cases outcome with
    | ok value =>
        refine guarantees_bind (returned value) fun _ => ?_
        refine guarantees_attempt (fun seen state stored here same => ?_)
          (fun seen state error here impossible => by cases impossible)
        cases same
        exact here
    | error error =>
        refine guarantees_bind (failed error) fun _ => ?_
        refine guarantees_attempt
          (fun seen state stored here impossible => by cases impossible)
          (fun seen state other here same => ?_)
        cases same
        exact here

theorem guarantees_orNext {first : Runtime σ (Option α)}
    {next : Runtime σ α} {middle : Option α → Q → σ → Prop}
    {after : α → Q → σ → Prop}
    (head : Guarantees watch before first middle raised)
    (found : ∀ value seen state, middle (some value) seen state →
      after value seen state)
    (tail : Guarantees watch (middle none) next after raised) :
    Guarantees watch before (Runtime.orNext first next) after raised := by
  refine guarantees_bind head fun outcome => ?_
  cases outcome with
  | some value =>
      exact guarantees_pure fun seen state here => found value seen state here
  | none => exact tail

end Guarantees

end ReplayForge
