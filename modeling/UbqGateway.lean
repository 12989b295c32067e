import UbqGateway.Authority.Isolation
import UbqGateway.Kernel.Rows
import UbqGateway.Kernel.Windows
import UbqGateway.Kernel.Agreement
import UbqGateway.Paid.Markers
import UbqGateway.Paid.Deletions
import UbqGateway.Paid.Wakeups
import UbqGateway.Paid.LimitedWindows
import UbqGateway.Paid.Backfill
import UbqGateway.Paid.LifecyclePatches
import UbqGateway.ApiKey.Accounting
import UbqGateway.ApiKey.HandoffRuns
import UbqGateway.ApiKey.UsageReset
import UbqGateway.Codex.Fence
import UbqGateway.Codex.Leases
import UbqGateway.Native.Replays
import UbqGateway.Embeddings.Idempotency
import UbqGateway.Embeddings.JobRuns
import UbqGateway.Embeddings.CacheConsistency
import UbqGateway.Embeddings.VoyageBudget
import UbqGateway.Telemetry.QueueRuns
import UbqGateway.Telemetry.RefillProjection
import UbqGateway.Admission.Decisions
import UbqGateway.Keys.NativeOrder
import UbqGateway.Keys.QueryExact
import UbqGateway.Keys.KeyJson
import UbqGateway.Responses.ChunkInvariance
import UbqGateway.Chat.StreamedCalls
import UbqGateway.Chat.BilledOnce
import UbqGateway.DeepSeek.ToolIdentity
import UbqGateway.DeepSeek.ToolChoice
import UbqGateway.DeepSeek.StreamRuns
import UbqGateway.DeepSeek.FrameReader
import UbqGateway.Provider.MessagesRuns
import UbqGateway.Provider.ReplayReceipts
import UbqGateway.Auth.PasskeyRuns
import UbqGateway.Codex.CapacityMerge
import UbqGateway.Codex.CapacityReplay
import UbqGateway.Codex.Normalization
import UbqGateway.Authority.CredentialPublication
import UbqGateway.Codex.DuplicateKeys
import UbqGateway.Codex.Selection
import UbqGateway.Provider.RelayRuns
