import OpenWorkProof.Acceptance.LiveOffline
import OpenWorkProof.Acceptance.ReportSoundness
import OpenWorkProof.Agency.AgencyPolicy
import OpenWorkProof.Agency.Ledger
import OpenWorkProof.Binding.CheckpointLedger
import OpenWorkProof.Binding.CurrentDecision
import OpenWorkProof.Binding.Genuine
import OpenWorkProof.Binding.ManifestIntersection
import OpenWorkProof.Bridge.Application
import OpenWorkProof.Bridge.Case
import OpenWorkProof.Bridge.Execution
import OpenWorkProof.Bridge.Observations
import OpenWorkProof.Bridge.Protocol
import OpenWorkProof.Bridge.Session
import OpenWorkProof.Bridge.Tokens
import OpenWorkProof.Delivery.CaseLifecycle
import OpenWorkProof.Delivery.CodeDelivery
import OpenWorkProof.Delivery.Manifest
import OpenWorkProof.Delivery.Objects
import OpenWorkProof.Delivery.VerifyV02
import OpenWorkProof.Delivery.VerifyV03
import OpenWorkProof.Delivery.VerifyV05
import OpenWorkProof.Evidence.ComposeParents
import OpenWorkProof.Evidence.PublicationRun
import OpenWorkProof.Evidence.ReworkEpisode
import OpenWorkProof.Evidence.TransactionVersion
import OpenWorkProof.Foundation.Containment
import OpenWorkProof.Foundation.Endpoint
import OpenWorkProof.Foundation.Reactive
import OpenWorkProof.Integrity.Capture
import OpenWorkProof.Integrity.ControlSoundness
import OpenWorkProof.Integrity.PopulationReplay
import OpenWorkProof.Integrity.Symmetry
import OpenWorkProof.Policy.CausalLaws
import OpenWorkProof.Policy.Confinement
import OpenWorkProof.Policy.Conservation
import OpenWorkProof.Policy.DenialCodes
import OpenWorkProof.Policy.LiveReplay
import OpenWorkProof.Policy.Milestones
import OpenWorkProof.Policy.Revocation
import OpenWorkProof.Policy.StateHistory
import OpenWorkProof.RepoTools.GitTreeId
import OpenWorkProof.RepoTools.WorkspaceRollback
import OpenWorkProof.Signing.SignedAs
import OpenWorkProof.Soc.BundleVerifier
import OpenWorkProof.Soc.Egress
import OpenWorkProof.Soc.Enforcement
import OpenWorkProof.Verification.ReplayStability
import OpenWorkProof.Verification.Selection
