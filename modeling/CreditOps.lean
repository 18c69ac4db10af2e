import CreditOps.Disbursements.Invocations
import CreditOps.Disbursements.Segregation
import CreditOps.Repayments.Requests
import CreditOps.Orchestration.RevisionRetry
import CreditOps.Workers.Checkpoints
import CreditOps.Outbox.Starvation
import CreditOps.ContractPackages.Closing
import CreditOps.Workers.LostTicks
import CreditOps.SettlementRecovery.Approval
import CreditOps.Ingestion.Resumption
import CreditOps.Ingestion.Grounding
import CreditOps.Evidence.Lineage
import CreditOps.Uploads.Revisions
import CreditOps.Financing.Confirmation
import CreditOps.Intake.Once
import CreditOps.Intake.Coverage
import CreditOps.Notifications.Faithful
import CreditOps.Assessments.DraftingLimits
import CreditOps.RiskReview.LastDisposition
import CreditOps.CreditOperations.Retries
import CreditOps.Monitoring.Exactness
import CreditOps.Assessments.OutputParsing
import CreditOps.Monitoring.Obligations
import CreditOps.Monitoring.Covenants
import CreditOps.Repayments.SoundSchedules
import CreditOps.Repayments.Monotone
import CreditOps.Disbursements.AmountText
import CreditOps.SettlementRecovery.ZeroBalance
import CreditOps.Underwriting.RepaymentCapacity
import CreditOps.Underwriting.FactOrder
import CreditOps.Orchestration.Cycles
import CreditOps.ContractPackages.Redlines
import CreditOps.Intake.HandoffExactness
import CreditOps.GoalContracts.ContextHash
import CreditOps.GapRequests.SnapshotHash
import CreditOps.Inference.Prompts
import CreditOps.Inference.ExtractionLaw
import CreditOps.Retrieval.Traversal
import CreditOps.Assessments.CitationCounts
import CreditOps.Cases.Listing
import CreditOps.Financing.VersionChains
import CreditOps.Policies.Corpus
