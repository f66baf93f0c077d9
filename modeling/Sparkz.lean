import Sparkz.InterleavingPast
import Sparkz.TreasuryLease
import Sparkz.SpendReservation
import Sparkz.Ledger
import Sparkz.SpendEvidence
import Sparkz.Database
import Sparkz.System
import Sparkz.TokenOperations
import Sparkz.TreasuryTransactions
import Sparkz.SpendReservations
import Sparkz.LedgerProjection
import Sparkz.TransactionReliability
import Sparkz.SpendExecutor
import Sparkz.AwardExecutor
import Sparkz.OperationLifecycle
import Sparkz.AwardClaims
import Sparkz.UserWalletSelection
import Sparkz.FundingAttempts
import Sparkz.TreasuryNonces
import Sparkz.ReservationRuns
import Sparkz.WalletCapacity
import Sparkz.TrustedReceipts
import Sparkz.SpendRetries
import Sparkz.CustodialSpendEndpoint
import Sparkz.SpendEvidenceExactness
import Sparkz.WalletLinking
import Sparkz.RpcFailoverSafety
import Sparkz.RpcChainValidation
import Sparkz.EvidenceTotals
import Sparkz.JsonText
import Sparkz.RewardPolicy
import Sparkz.AwardCalculation
import Sparkz.AwardReproduction
import Sparkz.RewardPolicyValidation
import Sparkz.RewardPolicyRepository
import Sparkz.RewardPolicyStorage
import Sparkz.RewardPolicyRuns
import Sparkz.CorrectionAnnotation
import Sparkz.AnnotationEvidence
import Sparkz.AnnotationAgreement
import Sparkz.AnnotationCalls
import Sparkz.AnnotationStore
import Sparkz.AnnotationReads
import Sparkz.AnnotationRuns
import Sparkz.AnnotationReplays
import Sparkz.ClaimEndings
import Sparkz.SpendBlocking
import Sparkz.SpendRecoveryIntent
import Sparkz.ProjectionRuns
import Sparkz.BinaryRounding
import Sparkz.DecimalNames
import Sparkz.JsArithmetic
import Sparkz.JsNumberTexts
import Sparkz.CallFailures
import Sparkz.BalanceAdmission
import Sparkz.BalanceSampling
import Sparkz.CdrEnergy
import Sparkz.EnergyGrammar
import Sparkz.AwardExactness
import Sparkz.CircularArcs
import Sparkz.OffPeakMembership
import Sparkz.CdrIdentity
import Sparkz.CdrOwnership
import Sparkz.CdrTokenUids
import Sparkz.AwardPreparation
import Sparkz.DecimalAmounts
import Sparkz.CommaSeparated
import Sparkz.EvidenceCsv
import Sparkz.IntentFingerprints
import Sparkz.ReceiptTexts
import Sparkz.ApprovalPreparationFairness
import Sparkz.RawErrors
import Sparkz.SettlementDelivery
import Sparkz.ProjectionEvidence
