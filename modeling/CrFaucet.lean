import CrFaucet.Interaction.Run
import CrFaucet.Interaction.Program
import CrFaucet.Interaction.Pool
import CrFaucet.Token.Erc20
import CrFaucet.Token.MiningPoolToken
import CrFaucet.Token.Conservation
import CrFaucet.Redemption.Payout
import CrFaucet.Redemption.Store
import CrFaucet.Redemption.World
import CrFaucet.Redemption.Drain
import CrFaucet.Redemption.Claim
import CrFaucet.Interaction.Exclusive
import CrFaucet.Redemption.Effects
import CrFaucet.Redemption.SinglePayout
import CrFaucet.Redemption.WipeSafety
import CrFaucet.Redemption.PendingCounters
import CrFaucet.Redemption.Verdicts
import CrFaucet.Redemption.ExactCounters
import CrFaucet.Redemption.Stream
import CrFaucet.Redemption.NoLoss
import CrFaucet.Redemption.BatchPayout
import CrFaucet.Treasury.FailedReads
import CrFaucet.Issuance.Balances
import CrFaucet.Issuance.Service
import CrFaucet.Issuance.FeeSwap
import CrFaucet.Issuance.Solvency
import CrFaucet.Ring
import CrFaucet.Stratum.Jobs
import CrFaucet.Stratum.Replay
import CrFaucet.Stratum.Session
import CrFaucet.Stratum.Advertised
import CrFaucet.Token.Records
import CrFaucet.Governance.PoolGovernance
import CrFaucet.Governance.Timelock
import CrFaucet.Governance.Handover
import CrFaucet.Redemption.StampScan
import CrFaucet.Issuance.Commands
import CrFaucet.Issuance.Rates
import CrFaucet.Issuance.OneRate
import CrFaucet.Issuance.UnsoldFees
import CrFaucet.Issuance.RestoreOrder
import CrFaucet.Stratum.Submit
import CrFaucet.Redemption.Custody
import CrFaucet.Redemption.Absorbing
import CrFaucet.Redemption.SentMeansPaid
import CrFaucet.Issuance.Composition
import CrFaucet.Interaction.Transcript
import CrFaucet.Redemption.Guards
import CrFaucet.Redemption.WalletRpc
import CrFaucet.Redemption.Spending
import CrFaucet.Issuance.FailedRequests
import CrFaucet.Issuance.FeeVoucher
import CrFaucet.Stratum.CurrentJob
import CrFaucet.Issuance.RestoreMerge
import CrFaucet.Governance.ReviewedUpdates
import CrFaucet.Treasury.View
import CrFaucet.Census
import CrFaucet.Instances.Fleet
import CrFaucet.Instances.SoleInstance
import CrFaucet.Utf8
import CrFaucet.Hex
import CrFaucet.Stratum.Target
import CrFaucet.Stratum.Blob
import CrFaucet.Stratum.Share
import CrFaucet.Stratum.Upstream
import CrFaucet.Stratum.ShareTargets
import CrFaucet.Stratum.Steps
import CrFaucet.Stratum.Trust
import CrFaucet.Stratum.Bounds
import CrFaucet.Stratum.Samples
import CrFaucet.Stratum.Forwarding
import CrFaucet.Stratum.Requests
import CrFaucet.PpsRate.Quorum
import CrFaucet.PpsRate.Tick
import CrFaucet.Oracle.Source
import CrFaucet.Oracle.Server
import CrFaucet.Oracle.Reports
import CrFaucet.Oracle.Limiter
import CrFaucet.Oracle.CircuitLimit
import CrFaucet.LineReader
import CrFaucet.Stratum.Framing
import CrFaucet.Stratum.IdleTimeout
import CrFaucet.Stratum.WorkerBytes
import CrFaucet.Metrics.Hashrate
import CrFaucet.SelfFund.Planning
import CrFaucet.SelfFund.Tick
import CrFaucet.SelfFund.RunawayGuard
import CrFaucet.SelfFund.ReserveFloor
import CrFaucet.SelfFund.Cadence
import CrFaucet.BitRegroup
import CrFaucet.Instances.Bech32
import CrFaucet.Cbor
import CrFaucet.SelfFund.RentPayer
import CrFaucet.Oracle.Digest
import CrFaucet.Redemption.Provenance
import CrFaucet.Redemption.PaidTotal
import CrFaucet.Interaction.Projection
import CrFaucet.MiningPool.Backing
import CrFaucet.Redemption.RestorePoint
import CrFaucet.Redemption.Shutdown
import CrFaucet.Oracle.Ssrf
import CrFaucet.Oracle.Admission
import CrFaucet.Oracle.Isolation
