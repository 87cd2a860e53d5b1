import NewsCraft.Jobs.Attempts
import NewsCraft.Publishing.IntentUnique
import NewsCraft.Publishing.BackedReceipts
import NewsCraft.Telegram.CursorOrder
import NewsCraft.Automations.Soundness
import NewsCraft.Automations.Permutation
import NewsCraft.Ingestion.Duplicates
import NewsCraft.Jobs.RoutePolls
import NewsCraft.Retention.PreviewedOnly
import NewsCraft.Retention.CleanupAccounts
import NewsCraft.Jobs.StoredPayload
import NewsCraft.Generation.FenceExclusion
import NewsCraft.Automations.SelectionCover
import NewsCraft.SourceCollections.StopKept
import NewsCraft.Research.BudgetRunnable
import NewsCraft.Publishing.CheckedAsConfigured
import NewsCraft.Generation.PackCostRuns
import NewsCraft.Generation.PackReadyRuns
import NewsCraft.Generation.CheckpointRedaction
import NewsCraft.Gateway.FencedRuns
import NewsCraft.Security.AuditClosed
import NewsCraft.Articles.CoverageAgree
import NewsCraft.Telegram.RevisionsOrdered
import NewsCraft.Telegram.WaitsServed
import NewsCraft.Telegram.CapturedFromBoundary
import NewsCraft.Automations.ArtifactApproval
import NewsCraft.Publishing.UploadContract
import NewsCraft.Telegram.CapturePolicy
import NewsCraft.Publishing.ConfirmPublished
import NewsCraft.Telegram.EditsNewest
import NewsCraft.Publishing.DryRunsUnsent
import NewsCraft.Telegram.ActivationAlive
import NewsCraft.Automations.ClientMirrors
import NewsCraft.Automations.Diagnostics
import NewsCraft.Telegram.QuietHours
import NewsCraft.Automations.CreateReplayed
import NewsCraft.Research.WithinBudget
import NewsCraft.Ingestion.AttachMedia
import NewsCraft.Telegram.PublicPages
import NewsCraft.Gateway.RateLimits
import NewsCraft.Stories.Grouping
import NewsCraft.Security.SecretStore
import NewsCraft.Network.SafeHttp
import NewsCraft.Providers.Readiness
import NewsCraft.ManualPublication.Plans
import NewsCraft.Publishing.TelegramTargets
import NewsCraft.Core.RedactUrl
import NewsCraft.Generation.XWeight
import NewsCraft.Operations.History
import NewsCraft.Media.JpegDimensions
