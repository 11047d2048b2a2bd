import ReplayForge.Evidence.DiagnosticArchive
import ReplayForge.Runs.Privacy

/-!
# The run journal

The journal retains redacted events and publishes a manifest of the evidence
after every change.  Each call runs under the journal's lock.  The clock, the
identifiers it draws and the evidence store are its environment, whose state
is `σ`; any store operation may fail.
-/

namespace ReplayForge

/-- The evidence port. -/
structure EvidenceStore (σ : Type) where
  write : String → String → EvidencePayload → RetentionClass → σ →
    Except Raised EvidenceRecord × σ
  read : String → σ → Except Raised Bytes

structure RunEvent where
  id : String
  runId : String
  sequence : Nat
  eventType : String
  occurredAt : Timestamp
  stepId : Option String
  details : Fields
deriving DecidableEq

structure RunJournal where
  events : List RunEvent := []
  evidenceRecords : List EvidenceRecord := []
  attachments : List EvidenceRecord := []
  terminalResult : Option EvidenceRecord := none
  manifestKey : Option String := none
  finalized : Bool := false
deriving DecidableEq

structure JournalContext (σ : Type) where
  runId : String
  redactor : StructuredRedactor
  encoders : EvidenceEncoders
  evidenceStore : Option (EvidenceStore σ)
  newId : σ → String × σ
  now : σ → Except Raised Timestamp × σ
  identified : isEntityId .run runId = true

abbrev JournalM (σ : Type) := ExceptT Raised (StateM (RunJournal × σ))

namespace JournalM

variable {σ α : Type}

/-- An operation of the environment. -/
def perform (operation : σ → Except Raised α × σ) : JournalM σ α :=
  fun (journal, world) =>
    let (result, world) := operation world
    (result, journal, world)

def lift (result : Except Raised α) : JournalM σ α :=
  fun state => (result, state)

def journal : JournalM σ RunJournal :=
  fun state => (.ok state.1, state)

def update (change : RunJournal → RunJournal) : JournalM σ Unit :=
  fun (journal, world) => (.ok (), change journal, world)

theorem bind_apply {β : Type} (first : JournalM σ α)
    (rest : α → JournalM σ β) (state : RunJournal × σ) :
    (first >>= rest) state =
      match first state with
      | (.ok value, state) => rest value state
      | (.error raised, state) => (.error raised, state) := by
  change ExceptT.bindCont rest (first state).1 (first state).2 = _
  rcases first state with ⟨value | raised, after⟩ <;> rfl

theorem pure_apply (value : α) (state : RunJournal × σ) :
    (pure value : JournalM σ α) state = (.ok value, state) := rfl

theorem lift_apply (result : Except Raised α) (state : RunJournal × σ) :
    (lift result : JournalM σ α) state = (result, state) := rfl

theorem journal_apply (held : RunJournal) (world : σ) :
    journal (held, world) = (.ok held, held, world) := rfl

theorem update_apply (change : RunJournal → RunJournal) (held : RunJournal)
    (world : σ) : update change (held, world) = (.ok (), change held, world) :=
  rfl

theorem perform_apply (operation : σ → Except Raised α × σ)
    (held : RunJournal) (world : σ) :
    perform operation (held, world) =
      ((operation world).1, held, (operation world).2) := rfl

end JournalM

open JournalM

def retentionClass (eventType : String) : RetentionClass :=
  if "_failed".toList.isSuffixOf eventType.toList then .failure
  else if eventType = "intervention_required" ||
      Text.hasPrefix eventType "human_input_" then .humanAudit
  else .operational

/-- `f"run-event-{sequence:06d}"` -/
def runEventKind (sequence : Nat) : String :=
  let digits := toString sequence
  "run-event-" ++ String.ofList (List.replicate (6 - digits.length) '0') ++
    digits

def optionalText : Option String → Json
  | none => .null
  | some text => .str text

/-- `_event_payload` -/
def eventPayload (encoders : EvidenceEncoders) (event : RunEvent)
    (redactionDirectives : List String) : Except Raised EvidencePayload := do
  require (isEntityId .event event.id) "event_id"
  require event.occurredAt.hasOffset "event timestamp must include an offset"
  let content := encoders.ascii (.obj
    [("details", .obj event.details),
      ("event_id", .str event.id),
      ("event_type", .str event.eventType),
      ("occurred_at", .str (encoders.stamp event.occurredAt)),
      ("run_id", .str event.runId),
      ("sequence", .int event.sequence),
      ("step_id", optionalText event.stepId)])
  SanitizedEvidence.make content .json redactionDirectives

/-- `_manifest_record` -/
def manifestRecord (record : EvidenceRecord) : Except Raised ManifestEntry :=
  ManifestEntry.make
    { contentHash := record.contentHash
      createdAt := record.createdAt
      evidenceId := record.id
      key := record.key
      mediaType := record.mediaType
      redactionDirectives := record.redactionDirectives
      retentionClass := record.retentionClass
      sizeBytes := record.sizeBytes }

def entryJson (encoders : EvidenceEncoders) (entry : ManifestEntry) : Json :=
  .obj
    [("content_hash", .str entry.contentHash),
      ("created_at", .str (encoders.stamp entry.createdAt)),
      ("evidence_id", .str entry.evidenceId),
      ("key", .str entry.key),
      ("media_type", .str entry.mediaType.value),
      ("redaction_directives", .arr (entry.redactionDirectives.map .str)),
      ("retention_class", .str entry.retentionClass.value),
      ("size_bytes", .int entry.sizeBytes)]

def manifestJson (encoders : EvidenceEncoders)
    (manifest : RunEvidenceManifest) : Json :=
  .obj
    [("schema_version", .str "1.0"),
      ("run_id", .str manifest.runId),
      ("generated_at", .str (encoders.stamp manifest.generatedAt)),
      ("events", .arr (manifest.events.map (entryJson encoders))),
      ("attachments", .arr (manifest.attachments.map (entryJson encoders))),
      ("terminal_result",
        match manifest.terminalResult with
        | none => .null
        | some entry => entryJson encoders entry)]

/-- `_manifest_payload` -/
def manifestPayload (encoders : EvidenceEncoders) (runId : String)
    (generatedAt : Timestamp) (records attachments : List EvidenceRecord)
    (terminalResult : Option EvidenceRecord) :
    Except Raised EvidencePayload := do
  let events ← records.mapM manifestRecord
  let attached ← attachments.mapM manifestRecord
  let terminal ← terminalResult.mapM manifestRecord
  let manifest ← RunEvidenceManifest.make
    { runId, generatedAt, events, attachments := attached
      terminalResult := terminal }
  let content := encoders.indented (manifestJson encoders manifest)
  require (content.length ≤ maximumManifestBytes)
    "run manifest exceeds the evidence verification limit"
  let directives :=
    (records ++ attachments ++ terminalResult.toList).flatMap
      EvidenceRecord.redactionDirectives
  SanitizedEvidence.make content .json
    (StructuredRedactor.sortedDirectives directives)

namespace JournalContext

variable {σ : Type} (context : JournalContext σ)

/-- One write of the store and of a manifest that lists its record. -/
def publish (store : EvidenceStore σ) (kind : String)
    (payload : EvidencePayload) (retention : RetentionClass)
    (generatedAt : JournalM σ Timestamp)
    (manifest : RunJournal → EvidenceRecord → Timestamp →
      Except Raised EvidencePayload) :
    JournalM σ (EvidenceRecord × EvidenceRecord) := do
  let written ← perform (store.write context.runId kind payload retention)
  let stamp ← generatedAt
  let listing ← lift (manifest (← journal) written stamp)
  let published ←
    perform (store.write context.runId "manifest" listing .operational)
  pure (written, published)

def record (eventType runId : String) (stepId : Option String)
    (details : Fields) : JournalM σ Unit := do
  lift (require (runId = context.runId)
    "journal cannot record an event for a different run")
  lift (require (Pattern.family eventType)
    "event type must be a lowercase stable identifier")
  lift (require (stepId.all Pattern.stepId) "step ID is invalid")
  let sanitized ← lift (context.redactor.sanitizeJson context.encoders details
    (eventDetailClassifications details) context.runId)
  -- The text is parsed back into the cleaned mapping it was written from.
  let cleaned := (context.redactor.redactMapping context.encoders
    (eventDetailClassifications details) context.runId "" details).1
  let before ← journal
  lift (refuseIf before.finalized
    (.runtime "cannot record an event after run finalization"))
  lift (require (before.events.length < 10000)
    "run journal exceeds the event-count limit")
  let id ← perform fun world =>
    let (id, world) := context.newId world
    (.ok id, world)
  let runId ← lift (parseId runId .run)
  let occurredAt ← perform context.now
  let event : RunEvent :=
    { id, runId, sequence := before.events.length + 1, eventType, occurredAt
      stepId, details := cleaned }
  match context.evidenceStore with
  | none => update fun journal =>
      { journal with events := journal.events ++ [event] }
  | some store => do
      let payload ← lift (eventPayload context.encoders event
        sanitized.redactionDirectives)
      lift (require (payload.content.length ≤ maximumEventBytes)
        "run event exceeds the evidence verification limit")
      let (evidenceRecord, manifest) ← context.publish store
        (runEventKind event.sequence) payload (retentionClass eventType)
        (pure event.occurredAt)
        fun journal written stamp =>
          manifestPayload context.encoders runId stamp
            (journal.evidenceRecords ++ [written]) journal.attachments none
      update fun journal =>
        { journal with
          evidenceRecords := journal.evidenceRecords ++ [evidenceRecord]
          manifestKey := some manifest.key
          events := journal.events ++ [event] }

/-- `_attach`, which both kinds of attachment share. -/
def attach (kind : String) (payload : EvidencePayload)
    (retention : RetentionClass) : JournalM σ EvidenceRecord := do
  lift (require (payload.mediaType ≠ .json)
    "run attachments must be PNG images or ZIP archives")
  lift (require (payload.content.length ≤ maximumAttachmentBytes)
    "run attachment exceeds the twenty-megabyte limit")
  lift (require
    (payload.mediaType ≠ .png || pngMagic.isPrefixOf payload.content)
    "PNG run attachment has an invalid signature")
  lift (require
    (payload.mediaType ≠ .zip || zipMagic.isPrefixOf payload.content)
    "ZIP run attachment has an invalid signature")
  let before ← journal
  lift (refuseIf before.finalized
    (.runtime "cannot attach evidence after run finalization"))
  match context.evidenceStore with
  | none => lift (.error (.runtime "run attachments require an evidence store"))
  | some store => do
      lift (require (before.attachments.length < 100)
        "run journal exceeds the attachment-count limit")
      let (attachment, manifest) ← context.publish store kind payload retention
        (perform context.now)
        fun journal written stamp =>
          manifestPayload context.encoders context.runId stamp
            journal.evidenceRecords (journal.attachments ++ [written]) none
      update fun journal =>
        { journal with
          attachments := journal.attachments ++ [attachment]
          manifestKey := some manifest.key }
      pure attachment

/-- Another attachment may be added, and no archive has been. -/
def slotAvailable (journal : RunJournal) : Bool :=
  journal.attachments.length < 100 &&
    journal.attachments.all fun attachment => attachment.mediaType ≠ .zip

/-- The body of the `try` of `finalize`. -/
def captureDiagnostic (store : EvidenceStore σ) (details : Fields) :
    JournalM σ String := do
  lift (require (slotAvailable (← journal))
    "diagnostic attachment slot unavailable")
  let payload ← lift (diagnosticArchive context.encoders context.runId details
    context.redactor)
  let attachment ← perform
    (store.write context.runId "execution-diagnostic" payload .failure)
  update fun journal =>
    { journal with attachments := journal.attachments ++ [attachment] }
  pure "captured"

/-- Optional diagnostics cannot change the result of a run. -/
def diagnosticTrace (store : EvidenceStore σ) (details : Fields) :
    JournalM σ String :=
  fun state =>
    match context.captureDiagnostic store details state with
    | (.error raised, state) =>
        if raised.isOsRuntimeOrValue then (.ok "unavailable", state)
        else (.error raised, state)
    | captured => captured

def sanitizeTerminal (result : Fields)
    (classifications : Dict DataClassification) :
    Except Raised EvidencePayload :=
  context.redactor.sanitizeJson context.encoders result
    (terminalClassifications result classifications) context.runId

/-- The last diagnostic event. -/
def lastDiagnostic (journal : RunJournal) : Option RunEvent :=
  (journal.events.filter fun event =>
    event.eventType = "execution_diagnostic").getLast?

def terminalRetention (result : Fields) : RetentionClass :=
  if result.get? "status" = some (.str "failure") then .failure
  else .operational

/-- The writes that end `finalize`. -/
def publishTerminal (store : EvidenceStore σ) (result : Fields)
    (sanitized : EvidencePayload) : JournalM σ String := do
  let (terminal, manifest) ← context.publish store "terminal-result" sanitized
    (terminalRetention result) (perform context.now)
    fun journal written stamp =>
      manifestPayload context.encoders context.runId stamp
        journal.evidenceRecords journal.attachments (some written)
  update fun journal =>
    { journal with
      terminalResult := some terminal
      manifestKey := some manifest.key
      finalized := true }
  pure manifest.key

/-- A value that cannot be looked up in a set. -/
def isUnhashable : Json → Bool
  | .arr _ | .obj _ => true
  | _ => false

def completedStatuses : List Json :=
  [.str "success", .str "business_outcome", .str "failure"]

/-- The checks and the redaction before the lock is taken. -/
def checkTerminal (result : Fields)
    (classifications : Dict DataClassification) :
    Except Raised EvidencePayload := do
  require (result.get? "run_id" = some (.str context.runId))
    "terminal result belongs to a different run"
  refuseIf ((result.get? "status").any isUnhashable)
    (.other "unhashable type")
  require ((result.get? "status").any (· ∈ completedStatuses))
    "only completed runs may be finalized"
  let sanitized ← context.sanitizeTerminal result classifications
  require (sanitized.content.length ≤ maximumEventBytes)
    "terminal result exceeds the evidence verification limit"
  pure sanitized

def finalize (result : Fields)
    (classifications : Dict DataClassification) : JournalM σ String := do
  let sanitized ← lift (context.checkTerminal result classifications)
  let before ← journal
  lift (refuseIf before.finalized
    (.runtime "run evidence has already been finalized"))
  match context.evidenceStore with
  | none => do
      update fun journal => { journal with finalized := true }
      pure (RunEvidenceManifest.keyStart context.runId ++ "manifest.json")
  | some store =>
      match lastDiagnostic before with
      | none => context.publishTerminal store result sanitized
      | some diagnostic => do
          let traceStatus ← context.diagnosticTrace store diagnostic.details
          let enriched := result.set "diagnostic_trace" (.str traceStatus)
          let sanitized ←
            lift (context.sanitizeTerminal enriched classifications)
          context.publishTerminal store result sanitized

end JournalContext

end ReplayForge
