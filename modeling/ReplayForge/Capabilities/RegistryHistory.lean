import ReplayForge.Capabilities.RegistryCalls
import ReplayForge.Capabilities.RegistryMemory
import ReplayForge.Effect.Finished

/-!
# Histories of a registry on a file system

Several threads publish to and read from one directory, while any call of the
operating system may fail.
-/

namespace ReplayForge

open Effect RegistryCode

namespace RegistryCall

def code (registry : LocalCapabilityRegistry) :
    RegistryCall → RegistryCode RegistryAnswer
  | .publish artifact => do
      let record ← registry.publish artifact
      pure (.record record)
  | .publishNext artifact => do
      let record ← registry.publishNext artifact
      pure (.record record)
  | .get capabilityId version => do
      let record ← registry.get capabilityId version
      pure (.record record)
  | .versions capabilityId => do
      let records ← registry.versions capabilityId
      pure (.records records)
  | .latest capabilityId => do
      let record ← registry.latest capabilityId
      pure (.record record)

/-- What the call publishes beside the stored files. -/
def target (registry : LocalCapabilityRegistry) :
    RegistryCall → Files → Bool → Except Raised CapabilityArtifact → Prop
  | .publish artifact => LocalCapabilityRegistry.publishTarget artifact
  | .publishNext artifact => registry.nextTarget artifact
  | _ => fun _ _ _ => False

/-- A version that is made visible was to be published and had no file. -/
def promise (registry : LocalCapabilityRegistry) (call : RegistryCall) :
    Promise DiskSig Disk := fun past before event _ =>
  ∀ name path answer, event = ⟨.link name path, .ok answer⟩ →
    ∃ (candidate : CapabilityArtifact) (blind : Bool), path = candidate.key ∧
      call.target registry before.files blind (.ok candidate) ∧
      registry.Verdict before.files candidate (.ok none) ∧
      (blind = true → Blinded past)

end RegistryCall

namespace LocalCapabilityRegistry

variable {registry : LocalCapabilityRegistry} {index : Nat}
  {first state : Disk} {past : List DiskEvent} {α : Type}

/-- How a call that only reads has ended. -/
def ReadEnded (registry : LocalCapabilityRegistry) (calm : Prop)
    (index : Nat) (first : Disk) (result : α → Disk → Prop)
    (error : Raised → Disk → Prop) (ended : Except Raised α)
    (past : List DiskEvent) (state : Disk) : Prop :=
  match ended with
  | .ok value =>
      registry.Stands calm index [] first past state ∧ result value state
  | .error reason =>
      registry.Fails calm index [] first past state ∨
        (registry.Stands calm index [] first past state ∧ error reason state)

/-- How a call has ended, seen from the directory in which it began. -/
def Ended (registry : LocalCapabilityRegistry) (calm : Prop) (index : Nat)
    (first : Disk) (call : RegistryCall)
    (result : Except Raised RegistryAnswer) (past : List DiskEvent)
    (state : Disk) : Prop :=
  match call with
  | .publish _ | .publishNext _ => ∃ ended,
      result = ended.map RegistryAnswer.record ∧
        registry.Outcome calm index (call.target registry) {} first ended past
          state
  | .get capabilityId version => ∃ ended,
      result = ended.map RegistryAnswer.record ∧
        registry.ReadEnded calm index first
          (fun record state =>
            registry.Holds state.files (capabilityId, version) record)
          (fun reason state => reason = .capabilityNotFound ∧
            registry.SeenBetween calm index first state fun seen =>
              seen.files.lookup (capabilityId, version) = none)
          ended past state
  | .versions capabilityId => ∃ ended,
      result = ended.map RegistryAnswer.records ∧
        registry.ReadEnded calm index first
          (fun records state => registry.SeenBetween calm index first state
            fun seen => ∃ listed,
              registry.Listed seen.files capabilityId listed ∧
                orderedVersions listed = .ok records)
          (fun reason state => registry.SeenBetween calm index first state
            fun seen => ∃ listed,
              registry.Listed seen.files capabilityId listed ∧
                orderedVersions listed = .error reason)
          ended past state
  | .latest capabilityId => ∃ ended,
      result = ended.map RegistryAnswer.record ∧
        registry.ReadEnded calm index first
          (fun record state => registry.SeenBetween calm index first state
            fun seen => ∃ listed,
              registry.Listed seen.files capabilityId listed ∧
                latestVersion listed = .ok record)
          (fun reason state => registry.SeenBetween calm index first state
            fun seen => ∃ listed,
              registry.Listed seen.files capabilityId listed ∧
                latestVersion listed = .error reason)
          ended past state

/-- A call whose value is handed on. -/
theorem keeps_answer {calm : Prop} {promise : Promise DiskSig Disk}
    {body : RegistryCode α} {answer : α → RegistryAnswer}
    {ends : Except Raised α → List DiskEvent → Disk → Prop}
    (keeps : Keeps (registry.shared calm) index promise body () past state
      (fun value _ past state => ends (.ok value) past state)
      (fun reason _ past state => ends (.error reason) past state)) :
    Safe (registry.shared calm) index promise
      (fun outcome past state => ∃ ended,
        outcome.1 = Except.map answer ended ∧ ends ended past state)
      ((do
        let value ← body
        pure (answer value) : RegistryCode RegistryAnswer).run.run ()) past
        state := by
  have whole : Keeps (registry.shared calm) index promise
      (do
        let value ← body
        pure (answer value) : RegistryCode RegistryAnswer) () past state
      (fun value _ past state => ∃ ended,
        Except.ok value = Except.map answer ended ∧ ends ended past state)
      (fun reason _ past state => ∃ ended,
        Except.error reason = Except.map answer ended ∧
          ends ended past state) := by
    apply keeps_bind (keeps.weaken (fun _ _ _ _ here => here)
      fun reason _ past state here => ⟨.error reason, rfl, here⟩)
    rintro value ⟨⟩ past state here
    exact keeps_pure ⟨.ok value, rfl, here⟩
  apply Safe.weaken whole
  rintro ⟨outcome, ⟨⟩⟩ past state here
  cases outcome with
  | ok value => exact here
  | error reason => exact here

theorem quiet_promise (call : RegistryCall) : Quiets (call.promise registry) := by
  intro past before event after unlinked name path answer same
  subst same
  cases unlinked

/-- What a call does among other threads. -/
theorem safe_call {calm : Prop} (alone : calm → index = 0)
    (faithful : registry.Faithful) (call : RegistryCall)
    (accepted : call.Accepted registry.serializers registry.host)
    (sound : registry.Sound first) :
    Safe (registry.shared calm) index (call.promise registry)
      (fun outcome past state =>
        registry.Ended calm index first call outcome.1 past state)
      ((call.code registry).run.run ()) [] first := by
  have quiet : Quiets (call.promise registry) := quiet_promise call
  have begun : Stage.reached [] = {} := rfl
  cases call with
  | publish artifact =>
      apply keeps_answer (keeps_publish alone quiet faithful
        (accepted artifact rfl) sound begun ?_)
      rintro files name past before answer after verdict rfl name' path answer'
        same
      cases same
      exact ⟨artifact, false, rfl, ⟨rfl, rfl⟩, verdict, nofun⟩
  | publishNext artifact =>
      apply keeps_answer (keeps_publishNext alone quiet faithful
        (accepted artifact rfl) sound begun ?_)
      rintro files blind candidate name past before answer after next verdict
        rfl blinded name' path answer' same
      cases same
      exact ⟨candidate, blind, rfl, next, verdict, blinded⟩
  | get capabilityId version =>
      exact keeps_answer (reads_get quiet faithful sound)
  | versions capabilityId =>
      exact keeps_answer (reads_versions quiet faithful sound)
  | latest capabilityId =>
      exact keeps_answer (reads_latest quiet faithful sound)

end LocalCapabilityRegistry

end ReplayForge
