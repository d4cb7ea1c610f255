import Scorecard.Main
import Scorecard.Proofs.MigrationRun
import Scorecard.Proofs.MigrationOutcome
import Scorecard.Proofs.StagedMigration
import Scorecard.Proofs.CarriedData
import Scorecard.Proofs.LosslessChanges
import Scorecard.Proofs.PathwiseEquality
import Scorecard.Proofs.SilentChanges
import Scorecard.Proofs.SingleEdit
import Scorecard.Proofs.WrittenDocuments
import Scorecard.Proofs.AcceptedDocuments
import Scorecard.Proofs.CrossedSteps
import Scorecard.Proofs.HollowChanges
import Scorecard.Proofs.StepReports
import Scorecard.Proofs.UpgradedComparison
import Scorecard.Proofs.StatusFlags
import Scorecard.Proofs.ExactStatus
import Scorecard.Proofs.ClassifiedTrees
import Scorecard.Proofs.ComparisonOutcome
import Scorecard.Proofs.StoredStatus
import Scorecard.Proofs.MirroredChanges
import Scorecard.Proofs.ShownChanges
import Scorecard.Proofs.PublicationTime
import Scorecard.Proofs.IndependentScenarios
import Scorecard.Proofs.LeadingMembers
import Scorecard.Proofs.EqualResults
import Scorecard.Proofs.RemappedVulnerabilities
import Scorecard.Proofs.RecoverableLoss
import Scorecard.Proofs.ReversibleScales
import Scorecard.Proofs.LoggedEntries
import Scorecard.Proofs.PartitionedPaths
import Scorecard.Proofs.ReplacedSubtrees
import Scorecard.Proofs.SettledSteps
import Scorecard.Proofs.ExactStamping
import Scorecard.Proofs.VersionGrammar
import Scorecard.Proofs.ComparisonSummary
import Scorecard.Proofs.DecodedPaths
