import ReplayForge.Capabilities.PublicationFaults
import ReplayForge.Capabilities.RegistryImmutable

/-!
# Both registries

The registry on a file system and the registry in memory are immutable and
grow.  The registry in memory also stores versions whose numbers the host
language does not convert, which its later calls cannot compare.
-/

namespace ReplayForge

open Effect

/-- A history of calls of an immutable registry, one after the other. -/
structure InMemoryCapabilityRegistry.History (serializers : Serializers)
    (registry : InMemoryCapabilityRegistry) (calls : List TimedCall) : Prop where
  /-- What can be read stays as it is. -/
  kept : ∀ early late, calls = early ++ late → ∀ path record,
    (registry.after serializers early).Holds path record →
    (registry.after serializers calls).Holds path record
  owes : ∀ early timed late, calls = early ++ timed :: late →
    timed.call.Owes serializers (registry.after serializers early).Holds
      (registry.after serializers (early ++ [timed])).Holds
      ((registry.after serializers early).respond serializers timed.now
        timed.call).1

namespace InMemoryCapabilityRegistry

variable {serializers : Serializers} {host : Host}
  {registry : InMemoryCapabilityRegistry} {calls : List TimedCall}

theorem after_concat (early : List TimedCall) (timed : TimedCall) :
    registry.after serializers (early ++ [timed]) =
      ((registry.after serializers early).respond serializers timed.now
        timed.call).2 := by
  simp [after]

theorem after_kept (early late : List TimedCall) {path : CapabilityKey}
    {record : CapabilityVersionRecord}
    (held : (registry.after serializers early).Holds path record) :
    (registry.after serializers (early ++ late)).Holds path record := by
  induction late using List.reverseRecOn with
  | nil => rwa [List.append_nil]
  | append_singleton late timed ih =>
      rw [← List.append_assoc, after_concat]
      exact respond_kept timed ih

theorem after_sound (sound : registry.Sound serializers)
    (early : List TimedCall) :
    (registry.after serializers early).Sound serializers := by
  induction early using List.reverseRecOn with
  | nil => exact sound
  | append_singleton early timed ih =>
      rw [after_concat]
      exact respond_sound timed ih

theorem after_numbered (numbered : registry.Numbered)
    (accepted : ∀ timed ∈ calls, timed.call.Accepted serializers host)
    (convertible : ∀ timed ∈ calls, timed.call.Convertible serializers) :
    (registry.after serializers calls).Numbered := by
  induction calls using List.reverseRecOn with
  | nil => exact numbered
  | append_singleton early timed ih =>
      rw [after_concat]
      apply respond_numbered timed (accepted timed (by simp))
        (convertible timed (by simp))
      exact ih (fun other member => accepted other (by simp [member]))
        fun other member => convertible other (by simp [member])

theorem history (sound : registry.Sound serializers)
    (numbered : registry.Numbered)
    (accepted : ∀ timed ∈ calls, timed.call.Accepted serializers host)
    (convertible : ∀ timed ∈ calls, timed.call.Convertible serializers) :
    registry.History serializers calls where
  kept early late split path record held := by
    rw [split]
    exact after_kept early late held
  owes early timed late split := by
    subst split
    rw [after_concat]
    apply respond_owes (after_sound sound early)
    exact after_numbered numbered
      (fun other member => accepted other (by simp [member]))
      fun other member => convertible other (by simp [member])

end InMemoryCapabilityRegistry

namespace Sample

def noon : Timestamp := { year := 2026, month := 1, day := 1 }

theorem empty_memory (serializers : Serializers) :
    InMemoryCapabilityRegistry.Sound serializers {} ∧
      InMemoryCapabilityRegistry.Numbered {} :=
  ⟨fun _ _ held => (nomatch held), fun _ _ held => nomatch held⟩

/-- A version whose last part has so many digits. -/
def patchVersion (digits : Nat) : String :=
  String.ofList
    (['.'].intercalate [['1'], ['0'], List.replicate digits '1'])

theorem patchVersion_parts (digits : Nat) :
    Text.splitOnChar '.' (patchVersion digits) =
      ["1", "0", String.ofList (List.replicate digits '1')] := by
  apply splitOnChar_join
  intro part member
  simp only [List.mem_cons, List.not_mem_nil, or_false] at member
  rcases member with rfl | rfl | rfl
  · decide
  · decide
  · intro inside
    exact absurd (List.eq_of_mem_replicate inside) (by decide)

theorem patchVersion_fits (digits : Nat) :
    Pattern.semanticVersion (patchVersion (digits + 1)) = true := by
  have all : (List.replicate digits '1').all Pattern.digit = true := by
    apply List.all_eq_true.mpr
    intro char inside
    rw [List.eq_of_mem_replicate inside]
    rfl
  have head : Pattern.digit '1' = true := rfl
  have part : Pattern.versionPart
      (String.ofList (List.replicate (digits + 1) '1')) = true := by
    simp [Pattern.versionPart, List.replicate_succ, all, head]
  simp only [Pattern.semanticVersion, patchVersion_parts, List.all_cons, part]
  rfl

theorem patchVersion_inconvertible {digits : Nat}
    (long : maxStrDigits < digits) :
    isConvertible (patchVersion digits) = false := by
  simp [isConvertible, patchVersion_parts, long]

/-- A version with one digit more than can be converted. -/
def longVersion : String := patchVersion (maxStrDigits + 1)

def longPayment : CapabilityArtifact := payment.restamped longVersion none

theorem longPayment_accepted :
    hashing.Accepted host longPayment :=
  Serializers.Accepted.restamped serializers_reads ⟨_, payment_accepted⟩
    (patchVersion_fits maxStrDigits) rfl

end Sample

end ReplayForge
