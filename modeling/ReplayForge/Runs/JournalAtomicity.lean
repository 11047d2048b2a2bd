import ReplayForge.Runs.Journal
import ReplayForge.Shared.JsonText

/-!
# What a journal call that raises leaves behind

A call is atomic when it leaves the journal as it was if it raises.  `finalize`
is not: it adds a diagnostic archive before it writes the terminal result.
-/

namespace ReplayForge

namespace JournalM

variable {σ α β : Type}

/-- The call never changes the journal. -/
def Quiet (call : JournalM σ α) : Prop :=
  ∀ state, (call state).2.1 = state.1

/-- The call changes the journal only if it does not raise. -/
def Atomic (call : JournalM σ α) : Prop :=
  ∀ state raised, (call state).1 = .error raised →
    (call state).2.1 = state.1

theorem quiet_pure (value : α) : Quiet (pure value : JournalM σ α) :=
  fun _ => rfl

theorem quiet_lift (result : Except Raised α) :
    Quiet (lift result : JournalM σ α) :=
  fun _ => rfl

theorem quiet_journal : Quiet (journal : JournalM σ RunJournal) :=
  fun _ => rfl

theorem quiet_perform (operation : σ → Except Raised α × σ) :
    Quiet (perform operation) :=
  fun _ => rfl

theorem Quiet.bind {first : JournalM σ α} {rest : α → JournalM σ β}
    (quiet : Quiet first) (rests : ∀ value, Quiet (rest value)) :
    Quiet (first >>= rest) := by
  intro state
  have same := quiet state
  rw [bind_apply]
  generalize first state = outcome at same ⊢
  rcases outcome with ⟨_ | value, after⟩
  · exact same
  · exact (rests value after).trans same

theorem Quiet.atomic {call : JournalM σ α} (quiet : Quiet call) : Atomic call :=
  fun state _ _ => quiet state

theorem Quiet.bind_atomic {first : JournalM σ α} {rest : α → JournalM σ β}
    (quiet : Quiet first) (rests : ∀ value, Atomic (rest value)) :
    Atomic (first >>= rest) := by
  intro state raised failed
  have same := quiet state
  rw [bind_apply] at failed ⊢
  generalize first state = outcome at same failed ⊢
  rcases outcome with ⟨_ | value, after⟩
  · exact same
  · exact (rests value after raised failed).trans same

/-- Nothing raises after the change that ends a call. -/
theorem atomic_update (change : RunJournal → RunJournal) (value : α) :
    Atomic (do update change; pure value : JournalM σ α) := by
  intro state raised failed
  cases failed

theorem atomic_update_unit (change : RunJournal → RunJournal) :
    Atomic (update change : JournalM σ Unit) := by
  intro state raised failed
  cases failed

end JournalM

open JournalM

namespace JournalContext

variable {σ : Type} (context : JournalContext σ)

theorem quiet_publish (store : EvidenceStore σ) (kind : String)
    (payload : EvidencePayload) (retention : RetentionClass)
    {generatedAt : JournalM σ Timestamp} (clock : Quiet generatedAt)
    (manifest : RunJournal → EvidenceRecord → Timestamp →
      Except Raised EvidencePayload) :
    Quiet (context.publish store kind payload retention generatedAt
      manifest) := by
  unfold publish
  refine (quiet_perform _).bind fun written => ?_
  refine clock.bind fun stamp => ?_
  refine quiet_journal.bind fun held => ?_
  refine (quiet_lift _).bind fun listing => ?_
  exact (quiet_perform _).bind fun published => quiet_pure _

theorem atomic_record (eventType runId : String) (stepId : Option String)
    (details : Fields) :
    Atomic (context.record eventType runId stepId details) := by
  unfold record
  refine (quiet_lift _).bind_atomic fun _ => ?_
  refine (quiet_lift _).bind_atomic fun _ => ?_
  refine (quiet_lift _).bind_atomic fun _ => ?_
  refine (quiet_lift _).bind_atomic fun sanitized => ?_
  refine quiet_journal.bind_atomic fun before => ?_
  refine (quiet_lift _).bind_atomic fun _ => ?_
  refine (quiet_lift _).bind_atomic fun _ => ?_
  refine (quiet_perform _).bind_atomic fun id => ?_
  refine (quiet_lift _).bind_atomic fun runId => ?_
  refine (quiet_perform _).bind_atomic fun occurredAt => ?_
  split
  · exact atomic_update_unit _
  next store _ =>
    refine (quiet_lift _).bind_atomic fun payload => ?_
    refine (quiet_lift _).bind_atomic fun _ => ?_
    refine (context.quiet_publish store _ _ _ (quiet_pure _) _).bind_atomic
      fun _ => ?_
    exact atomic_update_unit _

theorem atomic_attach (kind : String) (payload : EvidencePayload)
    (retention : RetentionClass) :
    Atomic (context.attach kind payload retention) := by
  unfold attach
  refine (quiet_lift _).bind_atomic fun _ => ?_
  refine (quiet_lift _).bind_atomic fun _ => ?_
  refine (quiet_lift _).bind_atomic fun _ => ?_
  refine (quiet_lift _).bind_atomic fun _ => ?_
  refine quiet_journal.bind_atomic fun before => ?_
  refine (quiet_lift _).bind_atomic fun _ => ?_
  split
  · exact (quiet_lift _).atomic
  next store _ =>
    refine (quiet_lift _).bind_atomic fun _ => ?_
    refine (context.quiet_publish store _ _ _ (quiet_perform _) _).bind_atomic
      fun _ => ?_
    exact atomic_update _ _

theorem atomic_publishTerminal (store : EvidenceStore σ) (result : Fields)
    (sanitized : EvidencePayload) :
    Atomic (context.publishTerminal store result sanitized) := by
  unfold publishTerminal
  refine (context.quiet_publish store _ _ _ (quiet_perform _) _).bind_atomic
    fun _ => ?_
  exact atomic_update _ _

/-- `finalize` stores the archive of the last diagnostic. -/
structure Captures (result : Fields)
    (classifications : Dict DataClassification) (journal : RunJournal)
    (world : σ) : Prop where
  checked : ∃ sanitized,
    context.checkTerminal result classifications = .ok sanitized
  running : journal.finalized = false
  stored : ∃ store diagnostic payload, context.evidenceStore = some store ∧
    lastDiagnostic journal = some diagnostic ∧
    slotAvailable journal = true ∧
    diagnosticArchive context.encoders context.runId diagnostic.details
      context.redactor = .ok payload ∧
    ∃ attachment, (store.write context.runId "execution-diagnostic" payload
      .failure world).1 = .ok attachment

theorem captureDiagnostic_ok {store : EvidenceStore σ} {details : Fields}
    {journal : RunJournal} {world : σ} {payload : EvidencePayload}
    {attachment : EvidenceRecord} (slot : slotAvailable journal = true)
    (archived : diagnosticArchive context.encoders context.runId details
      context.redactor = .ok payload)
    (written : (store.write context.runId "execution-diagnostic" payload
      .failure world).1 = .ok attachment) :
    ∃ world', context.captureDiagnostic store details (journal, world) =
      (.ok "captured",
        { journal with attachments := journal.attachments ++ [attachment] },
        world') := by
  refine ⟨(store.write context.runId "execution-diagnostic" payload .failure
    world).2, ?_⟩
  simp only [captureDiagnostic, bind_apply, lift_apply, journal_apply,
    perform_apply, update_apply, pure_apply, archived, require, slot, if_true,
    written]

/-- An archive that is not stored changes nothing. -/
theorem diagnosticTrace_unchanged (store : EvidenceStore σ) (details : Fields)
    (journal : RunJournal) (world : σ)
    (lost : ∀ payload attachment, slotAvailable journal = true →
      diagnosticArchive context.encoders context.runId details
        context.redactor = .ok payload →
      (store.write context.runId "execution-diagnostic" payload
        .failure world).1 ≠ .ok attachment) :
    (context.diagnosticTrace store details (journal, world)).2.1 = journal := by
  have kept : (context.captureDiagnostic store details
      (journal, world)).2.1 = journal := by
    simp only [captureDiagnostic, bind_apply, lift_apply, journal_apply]
    cases slot : slotAvailable journal with
    | false => rfl
    | true =>
        cases archived : diagnosticArchive context.encoders context.runId
          details context.redactor with
        | error raised => rfl
        | ok payload =>
            have refused := lost payload
            simp only [require, if_true, perform_apply]
            generalize store.write context.runId "execution-diagnostic" payload
              .failure world = outcome at refused ⊢
            rcases outcome with ⟨raised | attachment, world'⟩
            · rfl
            · exact (refused attachment slot archived rfl).elim
  unfold diagnosticTrace
  generalize context.captureDiagnostic store details (journal, world) = outcome
    at kept ⊢
  rcases outcome with ⟨raised | status, after⟩
  · dsimp only
    split
    · exact kept
    · exact kept
  · exact kept

theorem atomic_enriched (store : EvidenceStore σ) (result : Fields)
    (classifications : Dict DataClassification) (status : String) :
    Atomic (do
      let enriched := result.set "diagnostic_trace" (.str status)
      let sanitized ← lift (context.sanitizeTerminal enriched classifications)
      context.publishTerminal store result sanitized : JournalM σ String) :=
  (quiet_lift _).bind_atomic fun sanitized =>
    context.atomic_publishTerminal store result sanitized

theorem finalize_unchanged {result : Fields}
    {classifications : Dict DataClassification} {journal : RunJournal}
    {world : σ} {raised : Raised}
    (failed : (context.finalize result classifications (journal, world)).1 =
      .error raised)
    (lost : ¬ context.Captures result classifications journal world) :
    (context.finalize result classifications (journal, world)).2.1 =
      journal := by
  simp only [finalize, bind_apply, lift_apply, refuseIf] at failed ⊢
  cases checked : context.checkTerminal result classifications with
  | error other => rfl
  | ok sanitized =>
      cases finalized : journal.finalized with
      | true => simp only [journal_apply, finalized, if_true]
      | false =>
          simp only [checked, journal_apply, finalized, Bool.false_eq_true,
            if_false] at failed ⊢
          cases stores : context.evidenceStore with
          | none =>
              simp only [stores, bind_apply, update_apply, pure_apply] at failed
              cases failed
          | some store =>
              simp only [stores] at failed ⊢
              cases last : lastDiagnostic journal with
              | none =>
                  simp only [last] at failed ⊢
                  exact context.atomic_publishTerminal store result sanitized
                    (journal, world) raised failed
              | some diagnostic =>
                  simp only [last] at failed ⊢
                  have kept := context.diagnosticTrace_unchanged store
                    diagnostic.details journal world
                    fun payload attachment slot archived written =>
                      lost ⟨⟨sanitized, checked⟩, finalized, store, diagnostic,
                        payload, stores, last, slot, archived, attachment,
                        written⟩
                  rw [bind_apply] at failed ⊢
                  generalize context.diagnosticTrace store diagnostic.details
                    (journal, world) = outcome at kept failed ⊢
                  rcases outcome with ⟨other | status, after⟩
                  · exact kept
                  · exact (context.atomic_enriched store result classifications
                      status after raised failed).trans kept

theorem finalize_captured {result : Fields}
    {classifications : Dict DataClassification} {journal : RunJournal}
    {world : σ} {raised : Raised}
    (failed : (context.finalize result classifications (journal, world)).1 =
      .error raised)
    (captures : context.Captures result classifications journal world) :
    ∃ attachment,
      (context.finalize result classifications (journal, world)).2.1 =
        { journal with attachments := journal.attachments ++ [attachment] } := by
  obtain ⟨⟨sanitized, checked⟩, finalized, store, diagnostic, payload, stores,
    last, slot, archived, attachment, written⟩ := captures
  obtain ⟨world', captured⟩ :=
    context.captureDiagnostic_ok slot archived written
  have traced : context.diagnosticTrace store diagnostic.details
      (journal, world) = (.ok "captured",
        { journal with attachments := journal.attachments ++ [attachment] },
        world') := by
    simp [diagnosticTrace, captured]
  refine ⟨attachment, ?_⟩
  have same : context.finalize result classifications (journal, world) =
      (do
        let enriched := result.set "diagnostic_trace" (.str "captured")
        let sanitized ← lift (context.sanitizeTerminal enriched classifications)
        context.publishTerminal store result sanitized : JournalM σ String)
        ({ journal with attachments := journal.attachments ++ [attachment] },
          world') := by
    simp only [finalize, bind_apply, lift_apply, journal_apply, refuseIf,
      checked, finalized, Bool.false_eq_true, if_false, stores, last, traced]
  rw [same] at failed ⊢
  exact context.atomic_enriched store result classifications "captured" _
    raised failed

end JournalContext

inductive JournalCall where
  | record (eventType runId : String) (stepId : Option String)
      (details : Fields)
  | attach (kind : String) (payload : EvidencePayload)
      (retention : RetentionClass)
  | finalize (result : Fields) (classifications : Dict DataClassification)

namespace JournalCall

variable {σ : Type} (context : JournalContext σ)

def run : JournalCall → JournalM σ Unit
  | .record eventType runId stepId details =>
      context.record eventType runId stepId details
  | .attach kind payload retention => do
      let _ ← context.attach kind payload retention
      pure ()
  | .finalize result classifications => do
      let _ ← context.finalize result classifications
      pure ()

/-- The call stores a diagnostic archive. -/
def Captures (journal : RunJournal) (world : σ) : JournalCall → Prop
  | .finalize result classifications =>
      context.Captures result classifications journal world
  | _ => False

end JournalCall

/-- The answer of a call is of no account to what it leaves behind. -/
theorem forget_apply {σ α : Type} {call : JournalM σ α}
    {state : RunJournal × σ} {raised : Raised}
    (failed : ((do let _ ← call; pure ()) state :
      Except Raised Unit × RunJournal × σ).1 = .error raised) :
    (call state).1 = .error raised ∧
      ((do let _ ← call; pure ()) state :
        Except Raised Unit × RunJournal × σ).2 = (call state).2 := by
  change ((call >>= fun _ => pure ()) state).1 = _ at failed
  change _ ∧ ((call >>= fun _ => pure ()) state).2 = _
  rw [bind_apply] at failed ⊢
  generalize call state = outcome at failed ⊢
  rcases outcome with ⟨other | value, after⟩
  · cases failed
    exact ⟨rfl, rfl⟩
  · cases failed

/-- A call that raises leaves the journal as it was exactly when it has not
stored a diagnostic archive. -/
theorem journal_atomic_iff {σ : Type} {context : JournalContext σ}
    {call : JournalCall} {journal : RunJournal} {world : σ} {raised : Raised}
    (failed : (call.run context (journal, world)).1 = .error raised) :
    (call.run context (journal, world)).2.1 = journal ↔
      ¬ call.Captures context journal world := by
  cases call with
  | record eventType runId stepId details =>
      have kept := context.atomic_record eventType runId stepId details
        (journal, world) raised failed
      exact ⟨fun _ captures => captures, fun _ => kept⟩
  | attach kind payload retention =>
      obtain ⟨raises, same⟩ := forget_apply failed
      have kept := context.atomic_attach kind payload retention
        (journal, world) raised raises
      exact ⟨fun _ captures => captures,
        fun _ => (congrArg Prod.fst same).trans kept⟩
  | finalize result classifications =>
      obtain ⟨raises, same⟩ := forget_apply failed
      constructor
      · intro unchanged captures
        obtain ⟨attachment, left⟩ := context.finalize_captured raises captures
        have left' := (congrArg Prod.fst same).trans left
        have longer := congrArg (fun held => held.attachments.length)
          (left'.symm.trans unchanged)
        simp at longer
      · intro lost
        exact (congrArg Prod.fst same).trans
          (context.finalize_unchanged raises lost)

section FullDisk

namespace FullDisk

def runId : String := "run_00000000000000000000000000000000"

def zeros (count : Nat) : String := String.ofList (List.replicate count '0')

def instant : Timestamp where
  year := 2026
  month := 1
  day := 1

def bytes (json : Json) : Bytes :=
  json.chars.map fun char => UInt8.ofNat char.toNat

def encoders : EvidenceEncoders where
  stamp := fun _ => "2026-01-01T00:00:00Z"
  compact := bytes
  ascii := bytes
  indented := bytes
  hmacSha256 := fun _ _ => zeros 64
  tokenFound := fun _ => false
  occursIn := fun _ _ => false
  zipped := fun content => zipMagic ++ content

/-- A store that fails from one write on; its state counts the writes. -/
def store (failing : Nat) : EvidenceStore Nat where
  write := fun runId kind payload retention count =>
    if failing ≤ count then (.error (.os "no space left"), count)
    else
      let id := "evd_" ++ zeros 31 ++ toString count
      (.ok
        { id
          key := "evidence://" ++ runId ++ "/" ++ kind ++ "-" ++ id
          mediaType := payload.mediaType
          sizeBytes := payload.content.length
          contentHash := "sha256:" ++ zeros 64
          retentionClass := retention
          redactionDirectives := payload.redactionDirectives
          createdAt := instant }, count + 1)
  read := fun _ _ => .error (.os "not kept")

def context (failing : Nat) : JournalContext Nat where
  runId := runId
  redactor := { pseudonymKey := [] }
  encoders := encoders
  evidenceStore := some (store failing)
  newId := fun count => ("evt_" ++ zeros 31 ++ toString count, count)
  now := fun count => (.ok instant, count)
  identified := by decide +kernel

def diagnosed : JournalCall :=
  .record "execution_diagnostic" runId none [("code", .str "target_absent")]

def finished : JournalCall :=
  .finalize [("run_id", .str runId), ("status", .str "failure")] []

/-- The journal after one diagnostic event. -/
def state (failing : Nat) : RunJournal × Nat :=
  (diagnosed.run (context failing) ({}, 0)).2

def journal (failing : Nat) : RunJournal := (state failing).1

def writes (failing : Nat) : Nat := (state failing).2

end FullDisk

open FullDisk JournalContext

theorem full_disk_adds_archive :
    (diagnosed.run (context 3) ({}, 0)).1 = .ok () ∧
    (finished.run (context 3) (state 3)).1 = .error (.os "no space left") ∧
    (finished.run (context 3) (state 3)).2.1 ≠ (state 3).1 := by
  decide +kernel

/-- A disk that is full before the archive leaves the journal alone; one that
fills up after it has let the archive in. -/
theorem full_disk_keeps_journal :
    (lastDiagnostic (journal 2) ≠ none ∧
      (finished.run (context 2) (journal 2, writes 2)).1 =
        .error (.os "no space left") ∧
      ¬ finished.Captures (context 2) (journal 2) (writes 2)) ∧
    (finished.run (context 3) (journal 3, writes 3)).1 =
        .error (.os "no space left") ∧
      finished.Captures (context 3) (journal 3) (writes 3) := by
  obtain ⟨noted, early, kept⟩ : lastDiagnostic (journal 2) ≠ none ∧
      (finished.run (context 2) (journal 2, writes 2)).1 =
        .error (.os "no space left") ∧
      (finished.run (context 2) (journal 2, writes 2)).2.1 = journal 2 := by
    decide +kernel
  obtain ⟨late, changed⟩ :
      (finished.run (context 3) (journal 3, writes 3)).1 =
        .error (.os "no space left") ∧
      (finished.run (context 3) (journal 3, writes 3)).2.1 ≠ journal 3 := by
    decide +kernel
  refine ⟨⟨noted, early, ?_⟩, late, ?_⟩
  · exact (journal_atomic_iff early).mp kept
  · by_contra lost
    exact changed ((journal_atomic_iff late).mpr lost)

end FullDisk

end ReplayForge
