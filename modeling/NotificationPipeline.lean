import NotificationPipeline.Domain.Uuid
import NotificationPipeline.Domain.Errors
import NotificationPipeline.Domain.Notification
import NotificationPipeline.Domain.Template
import NotificationPipeline.Adapter.Postgres
import NotificationPipeline.Adapter.Queue
import NotificationPipeline.App.World
import NotificationPipeline.App.TemplateService
import NotificationPipeline.App.NotificationService
import NotificationPipeline.App.DeliveryService
import NotificationPipeline.App.Scheduler
import NotificationPipeline.App.Persistence
import NotificationPipeline.App.BatchRun
import NotificationPipeline.App.Metrics
import NotificationPipeline.Adapter.Provider
import NotificationPipeline.Adapter.Listing
import NotificationPipeline.Middleware.RateLimit
import NotificationPipeline.Adapter.Hub
import NotificationPipeline.Adapter.Handlers
import NotificationPipeline.Adapter.Templates
import NotificationPipeline.System.Step
import NotificationPipeline.System.Frame
import NotificationPipeline.System.Routing
import NotificationPipeline.System.Schedule
import NotificationPipeline.System.Transitions
import NotificationPipeline.System.Coverage
import NotificationPipeline.System.Idempotency
import NotificationPipeline.System.Counters
import NotificationPipeline.System.RetryLoop
import NotificationPipeline.System.Validity
