import ReplayForge.Interventions.Pairing
import ReplayForge.Interventions.Ownership
import ReplayForge.Effect.Interleaving
import ReplayForge.Replay.Dispatch
import ReplayForge.Replay.Progress
import ReplayForge.Replay.RecoveryUses
import ReplayForge.Policy.Floors
import ReplayForge.Policy.Layering
import ReplayForge.Policy.RouteAgreement
import ReplayForge.Suites.Environment
import ReplayForge.Suites.Updates
import ReplayForge.Capabilities.Injectivity
import ReplayForge.Capabilities.Restoration
import ReplayForge.Interventions.Reading
import ReplayForge.Runs.Polling
import ReplayForge.Runtime.SerialProgress
import ReplayForge.Runs.JournalAtomicity
import ReplayForge.Runs.Confidentiality
import ReplayForge.Surfaces.FieldValues
import ReplayForge.Capabilities.ContractPaths
import ReplayForge.Servicing.Review
import ReplayForge.Capabilities.LocalRegistry
import ReplayForge.Capabilities.RegistryRefinement
import ReplayForge.Discovery.RouteOrder
import ReplayForge.Discovery.Privacy
import ReplayForge.Discovery.Budgets
import ReplayForge.Discovery.Sessions
