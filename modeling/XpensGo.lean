import XpensGo.Relational.Aggregate
import XpensGo.Transition.System
import XpensGo.EcmaScript.Number
import XpensGo.EcmaScript.RegExp
import XpensGo.EcmaScript.Schema
import XpensGo.EcmaScript.TextCodec
import XpensGo.EcmaScript.Calendar
import XpensGo.EcmaScript.WhiteSpace
import XpensGo.Concurrency.ForEach
import XpensGo.Postgres.ReadCommitted
import XpensGo.Model.BudgetThresholds
import XpensGo.Model.DailyDispatch
import XpensGo.Model.InputSize
import XpensGo.Model.LegalWrites
import XpensGo.Model.ReportedOutcome
import XpensGo.Model.RestartRaces
import XpensGo.Model.RetrySchedule
import XpensGo.Model.PreparedOnce
import XpensGo.Model.OpenAIErrors
import XpensGo.Model.StoredExtractions
import XpensGo.Model.OperationIdentity
import XpensGo.Model.SpendCeiling
import XpensGo.Model.SerialPrepare
import XpensGo.Model.ConcurrentStore
import XpensGo.Identity.Authority
import XpensGo.Identity.ChallengeLimit
import XpensGo.Identity.AdvertisedWait
import XpensGo.Identity.SerialCreation
import XpensGo.Identity.SerialProvisioning
import XpensGo.Channel.AbuseAccounting
import XpensGo.Channel.AtMostOnce
import XpensGo.Channel.BatchIsolation
import XpensGo.Channel.ExactlyOnce
import XpensGo.Channel.PublicationLeases
import XpensGo.Channel.PublicationProgress
import XpensGo.Channel.Recoverability
import XpensGo.Channel.RecoveryRepetition
import XpensGo.Channel.SuppressedEvents
import XpensGo.Channel.TelegramContent
import XpensGo.Channel.LinkChallengeCrypto
import XpensGo.Channel.DeepLink
import XpensGo.Channel.TelegramEvent
import XpensGo.Channel.TelegramWebhook
import XpensGo.Channel.BoundedBody
import XpensGo.Channel.AcceptedUpdates
import XpensGo.Channel.WebhookEndpoint
import XpensGo.Queue.Settlement
import XpensGo.Web.TenantIsolation
import XpensGo.Waitlist.Invites
import XpensGo.Bot.TurnLimit
import XpensGo.Bot.Alerts
