import LawFirmDigitalTwin.Lib.Run
import LawFirmDigitalTwin.Lib.Raising
import LawFirmDigitalTwin.Lib.Sha256
import LawFirmDigitalTwin.HashIO
import LawFirmDigitalTwin.PyValue
import LawFirmDigitalTwin.Decimal
import LawFirmDigitalTwin.Models
import LawFirmDigitalTwin.World
import LawFirmDigitalTwin.FinanceLedger
import LawFirmDigitalTwin.Kernel.State
import LawFirmDigitalTwin.Kernel.Transition
import LawFirmDigitalTwin.Kernel.Frame
import LawFirmDigitalTwin.Kernel.Steps
import LawFirmDigitalTwin.Lib.Trace
import LawFirmDigitalTwin.Kernel.Runs
import LawFirmDigitalTwin.Kernel.Closed
import LawFirmDigitalTwin.Kernel.Workflow
import LawFirmDigitalTwin.Kernel.Provenance
import LawFirmDigitalTwin.Kernel.HumanGate
import LawFirmDigitalTwin.Kernel.Reconciled
import LawFirmDigitalTwin.Kernel.Custody
import LawFirmDigitalTwin.Kernel.Atomicity
import LawFirmDigitalTwin.Lib.Exclusive
import LawFirmDigitalTwin.Lib.HashChain
import LawFirmDigitalTwin.Commit.Protocol
import LawFirmDigitalTwin.Commit.Store
import LawFirmDigitalTwin.Commit.Adapter
import LawFirmDigitalTwin.Commit.History
import LawFirmDigitalTwin.Commit.Invariant
import LawFirmDigitalTwin.Commit.ExactlyOnce
import LawFirmDigitalTwin.Lib.Threads
import LawFirmDigitalTwin.SealedIpc.Protocol
import LawFirmDigitalTwin.SealedIpc.Validator
import LawFirmDigitalTwin.SealedIpc.Authorize
import LawFirmDigitalTwin.SealedIpc.Sequential
import LawFirmDigitalTwin.SealedIpc.Soundness
import LawFirmDigitalTwin.SealedIpc.Replay
import LawFirmDigitalTwin.Lib.TwoRuns
import LawFirmDigitalTwin.SealedIpc.Agreement
import LawFirmDigitalTwin.SealedIpc.Deletion
import LawFirmDigitalTwin.SealedIpc.Interleaving
import LawFirmDigitalTwin.Kernel.DualControl
import LawFirmDigitalTwin.Kernel.Privilege
import LawFirmDigitalTwin.Kernel.Cassette
import LawFirmDigitalTwin.Lib.Related
import LawFirmDigitalTwin.Kernel.TwoRuns
import LawFirmDigitalTwin.Kernel.Noninterference
import LawFirmDigitalTwin.Kernel.Neutrality
import LawFirmDigitalTwin.Schedule.Contracts
import LawFirmDigitalTwin.Schedule.Manifest
import LawFirmDigitalTwin.Lib.Fcfs
import LawFirmDigitalTwin.Schedule.Reference
import LawFirmDigitalTwin.Schedule.Checker
import LawFirmDigitalTwin.Lib.Calendar
import LawFirmDigitalTwin.Schedule.SimPy
import LawFirmDigitalTwin.Schedule.Simulation
import LawFirmDigitalTwin.Commit.HeadBinding
import LawFirmDigitalTwin.Commit.SelfCheck
import LawFirmDigitalTwin.Commit.Transition
import LawFirmDigitalTwin.Finance.Journal
import LawFirmDigitalTwin.Finance.History
import LawFirmDigitalTwin.Finance.Invariant
import LawFirmDigitalTwin.Mesh.Contracts
import LawFirmDigitalTwin.Mesh.Registry
import LawFirmDigitalTwin.PyText
import LawFirmDigitalTwin.Mesh.Router
import LawFirmDigitalTwin.Mesh.Citations
import LawFirmDigitalTwin.Lib.Occurs
import LawFirmDigitalTwin.Oracle.Canary
import LawFirmDigitalTwin.Oracle.Completeness
import LawFirmDigitalTwin.Spelling
import LawFirmDigitalTwin.Oracle.Disclosure
import LawFirmDigitalTwin.Oracle.IndependentChecker
import LawFirmDigitalTwin.Campaign.Manifest
import LawFirmDigitalTwin.Campaign.Accepted
import LawFirmDigitalTwin.Campaign.Ownership
import LawFirmDigitalTwin.Campaign.Order
import LawFirmDigitalTwin.SealedIpc.Audit
import LawFirmDigitalTwin.Kernel.EvidencePhase
import LawFirmDigitalTwin.Berean.Auditor
import LawFirmDigitalTwin.Berean.Conflicts
import LawFirmDigitalTwin.Berean.Deadlines
import LawFirmDigitalTwin.Finance.Lifecycle
import LawFirmDigitalTwin.Schedule.Fairness
import LawFirmDigitalTwin.JsonWords
import LawFirmDigitalTwin.Schedule.Permutation
import LawFirmDigitalTwin.Blinding
import LawFirmDigitalTwin.Lib.JsonText
import LawFirmDigitalTwin.JsonReading
import LawFirmDigitalTwin.Mesh.Protocol
import LawFirmDigitalTwin.Lib.JsonCanonical
import LawFirmDigitalTwin.CanonicalForm
import LawFirmDigitalTwin.SealedIpc.Frames
import LawFirmDigitalTwin.Schedule.Build
import LawFirmDigitalTwin.Schedule.RouteBlind
import LawFirmDigitalTwin.Lib.Apportion
import LawFirmDigitalTwin.Population.Axis
import LawFirmDigitalTwin.CaseManifest
import LawFirmDigitalTwin.Evidence.Contracts
import LawFirmDigitalTwin.Evidence.Identity
import LawFirmDigitalTwin.Case.Facts
import LawFirmDigitalTwin.Evidence.Planning
import LawFirmDigitalTwin.Composition.Culture
import LawFirmDigitalTwin.Corpus.Figures
import LawFirmDigitalTwin.Lib.Transversal
import LawFirmDigitalTwin.Corpus.Diversity
import LawFirmDigitalTwin.Corpus.OrderIndependence
import LawFirmDigitalTwin.Corpus.Suppression
import LawFirmDigitalTwin.Corpus.Differencing
import LawFirmDigitalTwin.Corpus.Auditor
import LawFirmDigitalTwin.Corpus.AuditOrder
import LawFirmDigitalTwin.Corpus.AuditShows
import LawFirmDigitalTwin.Lib.JsonGrammar
import LawFirmDigitalTwin.SealedIpc.StrictFrames
import LawFirmDigitalTwin.Lib.Topological
import LawFirmDigitalTwin.Litigation.LifecycleDag
import LawFirmDigitalTwin.DesignC.Registry
import LawFirmDigitalTwin.DesignC.JobManifest
import LawFirmDigitalTwin.Lib.Cleanup
import LawFirmDigitalTwin.SecurePipe.Adapter
import LawFirmDigitalTwin.SecurePipe.Session
import LawFirmDigitalTwin.Lib.JsonDepth
import LawFirmDigitalTwin.Mesh.RequestErrors
import LawFirmDigitalTwin.Schedule.BuildErrors
import LawFirmDigitalTwin.Lib.Returns
import LawFirmDigitalTwin.Campaign.Returns
import LawFirmDigitalTwin.Campaign.Faultless
import LawFirmDigitalTwin.Campaign.Malformed
import LawFirmDigitalTwin.Case.Compilation
import LawFirmDigitalTwin.Case.Rederivation
import LawFirmDigitalTwin.Case.Passing
import LawFirmDigitalTwin.Case.Compiler
import LawFirmDigitalTwin.Population.Registry
import LawFirmDigitalTwin.Case.Pipeline
import LawFirmDigitalTwin.Case.Separation
import LawFirmDigitalTwin.Case.SelfValidation
import LawFirmDigitalTwin.Case.Standard
import LawFirmDigitalTwin.JsonSearch
import LawFirmDigitalTwin.Case.Leaks
import LawFirmDigitalTwin.Case.Populations
import LawFirmDigitalTwin.Berean.Report
import LawFirmDigitalTwin.Berean.Vetted
import LawFirmDigitalTwin.Kernel.Attempts
import LawFirmDigitalTwin.Kernel.Renaming
import LawFirmDigitalTwin.Kernel.Skeleton
import LawFirmDigitalTwin.Kernel.Export
