import BidSystem.Interaction.Rely
import BidSystem.Documents.UploadTraffic
import BidSystem.Bootstrap.Lifespan
import BidSystem.Api.ProtectedRoutes
import BidSystem.Api.RequestRuns
import BidSystem.Telemetry.Metrics
import BidSystem.Telemetry.Structured
import BidSystem.Outbox.Backoff
import BidSystem.Documents.Staging
import BidSystem.Documents.Aggregate
import BidSystem.Outbox.Claims
import BidSystem.Outbox.Attempts
import BidSystem.Outbox.Fencing
import BidSystem.Outbox.Contract
import BidSystem.Outbox.Runs
import BidSystem.Outbox.Table
import BidSystem.Selection.First
import BidSystem.Outbox.Event
import BidSystem.Telemetry.HiddenValues
import BidSystem.Telemetry.InlineSecrets
import BidSystem.Telemetry.SensitiveKeys
import BidSystem.Telemetry.UrlCredentials
import BidSystem.Telemetry.Redaction
import BidSystem.Regex.Substitution
import BidSystem.Security.Authentication
import BidSystem.Security.Settings
import BidSystem.Shared.Datetime
import BidSystem.Security.RateLimit
import BidSystem.FixedWindow.Windows
import BidSystem.Documents.ObjectTraffic
import BidSystem.Documents.Upload
import BidSystem.Interaction.Action
import BidSystem.Documents.ObjectStore
import BidSystem.Interaction.Program
import BidSystem.Documents.FileProcessing
import BidSystem.ContentAddressed.Store
import BidSystem.Documents.Transactions
import BidSystem.Documents.History
import BidSystem.AppendOnly.Ledger
import BidSystem.Documents.Repository
import BidSystem.Documents.Models
import BidSystem.Identity.RevocationRun
import BidSystem.Identity.RevocationRace
import BidSystem.ReadCommitted.Law
import BidSystem.Identity.RotationRace
import BidSystem.Identity.AccessRuns
import BidSystem.Identity.Access
import BidSystem.Identity.FamilyRuns
import BidSystem.Identity.Effects
import BidSystem.Identity.SessionTable
import BidSystem.ReadCommitted.Journal
import BidSystem.Identity.Repository
import BidSystem.Identity.Store
import BidSystem.ReadCommitted.Relation
import BidSystem.Identity.Session
import BidSystem.ReadCommitted.Serial
import BidSystem.AgentRuntime.Executor
import BidSystem.AgentRuntime.FloatDelays
import BidSystem.Api.Asgi
import BidSystem.Api.BodyLimit
import BidSystem.Documents.Comparison
import BidSystem.Documents.Elements
import BidSystem.Identity.BootstrapRace
import BidSystem.Identity.RegistrationRuns
import BidSystem.Telemetry.AuthorizationHeader
import BidSystem.Telemetry.RepeatedRedaction
import BidSystem.Documents.Safety
import BidSystem.Api.AuthRoutes
import BidSystem.Api.RefreshRoutes
import BidSystem.Api.UploadForm
import BidSystem.Bootstrap.Container
import BidSystem.Documents.DigestSpelling
import BidSystem.ReadCommitted.Binding
import BidSystem.Documents.UploadContract
import BidSystem.Database.Transaction
import BidSystem.Worker.Lifecycle
import BidSystem.ReadCommitted.LostUpdate
import BidSystem.Identity.RehashRace
import BidSystem.Telemetry.LogRecords
