import AcbuBackend.Ai.OpenaiGuard
import AcbuBackend.Audit.Pipeline
import AcbuBackend.Auth.GuessBound
import AcbuBackend.Auth.IssuedKeys
import AcbuBackend.Auth.SessionKeys
import AcbuBackend.Auth.SigninEnumeration
import AcbuBackend.Auth.SigninLockout
import AcbuBackend.Auth.SingleRedemption
import AcbuBackend.Auth.TokenFamilies
import AcbuBackend.Auth.WsAuth
import AcbuBackend.Basket.BasisPoints
import AcbuBackend.Basket.BasketService
import AcbuBackend.Bills.PartnerAgreement
import AcbuBackend.Bills.WithdrawalLimits
import AcbuBackend.Breaker.HorizonRecovery
import AcbuBackend.Bulk.Accounting
import AcbuBackend.Bulk.ChunkIsolation
import AcbuBackend.Bulk.CsvRoundTrip
import AcbuBackend.Bulk.PaidTransfers
import AcbuBackend.Bulk.RowKeys
import AcbuBackend.Burn.BurnController
import AcbuBackend.Burn.RefusedBurns
import AcbuBackend.Cache.CappedCounters
import AcbuBackend.Challenge.SingleUse
import AcbuBackend.Conversion.ExactSplit
import AcbuBackend.Conversion.ExactlyOnce
import AcbuBackend.Conversion.RecordedCents
import AcbuBackend.Dates.DateUtils
import AcbuBackend.Devices.DeviceVerification
import AcbuBackend.Effects.Outcome
import AcbuBackend.Effects.RelyGuarantee
import AcbuBackend.Encryption.KycEncryption
import AcbuBackend.Fiat.BankAccounts
import AcbuBackend.Fiat.DemoBounds
import AcbuBackend.Fintech.Router
import AcbuBackend.Idempotency.KeyIsolation
import AcbuBackend.Idempotency.ScopedKeys
import AcbuBackend.Idempotency.SingleClaim
import AcbuBackend.Ids.IdGenerator
import AcbuBackend.Investment.AccrualBound
import AcbuBackend.Investment.ReserveBound
import AcbuBackend.Investment.SerialLedger
import AcbuBackend.Investment.WithdrawalNotice
import AcbuBackend.Investment.YieldLedger
import AcbuBackend.Jobs.JobLock
import AcbuBackend.Kyc.DocumentOwnership
import AcbuBackend.Kyc.ScanGate
import AcbuBackend.Ledger.ChunkedWrites
import AcbuBackend.Logging.LogRedaction
import AcbuBackend.Messages.ValidatedRoundTrip
import AcbuBackend.Metrics.MetricsService
import AcbuBackend.Mint.ConfirmationGate
import AcbuBackend.Mint.ConfirmedAmount
import AcbuBackend.Mint.DepositReplay
import AcbuBackend.Mint.FailedStatus
import AcbuBackend.Mint.NetIssued
import AcbuBackend.MintEvents.Correlation
import AcbuBackend.OnRamp.DeclaredAmount
import AcbuBackend.OnRamp.NothingDropped
import AcbuBackend.OnRamp.SingleConversion
import AcbuBackend.OutboundWebhooks.DeliveryOutcome
import AcbuBackend.OutboundWebhooks.NoneLost
import AcbuBackend.OutboundWebhooks.Signatures
import AcbuBackend.Paging.CursorPages
import AcbuBackend.Queue.Envelopes
import AcbuBackend.RateCache.Coherence
import AcbuBackend.RateLimit.WindowRecovery
import AcbuBackend.Rates.BreakerRecovery
import AcbuBackend.Rates.CompositeHull
import AcbuBackend.Rates.ExchangeRates
import AcbuBackend.Rates.PipelineAgreement
import AcbuBackend.Reads.CursorPaging
import AcbuBackend.Reads.TenantIsolation
import AcbuBackend.Recipient.RecipientResolver
import AcbuBackend.Recovery.RetiredCredentials
import AcbuBackend.Recovery.SingleRecovery
import AcbuBackend.RecoveryAudit.AuditService
import AcbuBackend.Reserves.MintPolicy
import AcbuBackend.Reserves.Rebalancing
import AcbuBackend.Reserves.RunWeights
import AcbuBackend.Runtime.Request
import AcbuBackend.Runtime.ShortestText
import AcbuBackend.Salary.BatchOutcome
import AcbuBackend.Salary.Recovery
import AcbuBackend.Schedules.DueSchedules
import AcbuBackend.Schedules.RetriedTrigger
import AcbuBackend.Stellar.BuildTransaction
import AcbuBackend.Stellar.EventDelivery
import AcbuBackend.Stellar.FeeManager
import AcbuBackend.Stellar.ScVal
import AcbuBackend.Transfer.BalanceGuard
import AcbuBackend.Treasury.FloatRevenue
import AcbuBackend.Treasury.TreasuryService
import AcbuBackend.Units.ContractAmount
import AcbuBackend.Users.EndedAccess
import AcbuBackend.Wallet.SerialUpdates
import AcbuBackend.Wallet.SingleEnrolment
import AcbuBackend.Webhooks.CapturedCallbacks
import AcbuBackend.WeightDrift.DriftReport
import AcbuBackend.WeightDrift.SingleDecision
import AcbuBackend.Withdrawal.SinglePayout
