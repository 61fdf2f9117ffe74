import CommitmentOptimizer.Foundations.Schedules
import CommitmentOptimizer.Foundations.KeyedTable
import CommitmentOptimizer.Foundations.RowLocking
import CommitmentOptimizer.Foundations.SqlConstraints
import CommitmentOptimizer.Foundations.Json
import CommitmentOptimizer.Tenants.Users
import CommitmentOptimizer.Recommendations.RecommendationLifecycle
import CommitmentOptimizer.Approvals.ApprovalLifecycle
import CommitmentOptimizer.Approvals.ApprovalTransactions
import CommitmentOptimizer.Approvals.ApprovalInvariants
import CommitmentOptimizer.Approvals.ApprovalVerification
import CommitmentOptimizer.Approvals.ApprovalSafety
import CommitmentOptimizer.Adapters.EcosystemEvents
import CommitmentOptimizer.Adapters.EventHistory
import CommitmentOptimizer.Adapters.EcosystemDispatcher
import CommitmentOptimizer.Adapters.DeliveryOnce
import CommitmentOptimizer.Sessions.SessionTables
import CommitmentOptimizer.Sessions.SessionTransactions
import CommitmentOptimizer.Sessions.SessionInvariants
import CommitmentOptimizer.Sessions.SessionVerification
import CommitmentOptimizer.Sessions.SessionSafety
import CommitmentOptimizer.Sessions.SecurityWrites
import CommitmentOptimizer.Foundations.UuidText
import CommitmentOptimizer.Sessions.AccessTokens
import CommitmentOptimizer.Sessions.Authentication
import CommitmentOptimizer.Foundations.LexicographicChoice
import CommitmentOptimizer.Optimizer.OptimizerRuns
import CommitmentOptimizer.Optimizer.Candidates
import CommitmentOptimizer.Optimizer.CandidateChoice
import CommitmentOptimizer.Foundations.BigIntText
import CommitmentOptimizer.Optimizer.EconomicKernel
import CommitmentOptimizer.Optimizer.KernelAgreement
import CommitmentOptimizer.Foundations.FaultyWorkers
import CommitmentOptimizer.Foundations.JobQueue
import CommitmentOptimizer.Reports.ReportSnapshots
import CommitmentOptimizer.Backtests.BacktestRuns
import CommitmentOptimizer.Forecasting.ForecastRuns
import CommitmentOptimizer.Workers.RunWorkers
import CommitmentOptimizer.Workers.RunCompletion
import CommitmentOptimizer.PriceTables.PriceTableItems
import CommitmentOptimizer.PriceTables.PriceTableTransactions
import CommitmentOptimizer.PriceTables.ActivePeriods
import CommitmentOptimizer.Foundations.TransactionFrames
import CommitmentOptimizer.Sessions.UserMutationSafety
import CommitmentOptimizer.Foundations.CalendarDates
import CommitmentOptimizer.Optimizer.OptimizerRunCreation
import CommitmentOptimizer.Optimizer.OptimizerWorker
import CommitmentOptimizer.Optimizer.RecommendationCompletion
import CommitmentOptimizer.Optimizer.FrozenInputs
import CommitmentOptimizer.Optimizer.StalePrices
import CommitmentOptimizer.Adapters.DispatcherFleet
import CommitmentOptimizer.Foundations.GroupedRows
import CommitmentOptimizer.Foundations.IsoInstants
import CommitmentOptimizer.Imports.UsageRows
import CommitmentOptimizer.Foundations.JsValues
import CommitmentOptimizer.Foundations.JsonText
import CommitmentOptimizer.Imports.ControlTotals
import CommitmentOptimizer.Imports.UsageParsers
import CommitmentOptimizer.Imports.CsvAgreement
import CommitmentOptimizer.Imports.ImportRequests
import CommitmentOptimizer.Imports.TagCredentials
import CommitmentOptimizer.Shared.LocalObjects
import CommitmentOptimizer.Imports.ImportIsolation
import CommitmentOptimizer.Tenants.ArgonExecutor
import CommitmentOptimizer.Tenants.ArgonExecutorRuns
import CommitmentOptimizer.Shared.ManagedCache
import CommitmentOptimizer.Shared.ManagedCacheRuns
import CommitmentOptimizer.Foundations.RollingWindows
import CommitmentOptimizer.Foundations.SortedSets
import CommitmentOptimizer.Shared.RollingWindowLimiter
import CommitmentOptimizer.Backtests.BacktestReplay
import CommitmentOptimizer.Tenants.AuthSessionLimiter
import CommitmentOptimizer.Foundations.JsonTextUnique
import CommitmentOptimizer.Tenants.ApiKeyCredentials
import CommitmentOptimizer.Tenants.TenantRows
import CommitmentOptimizer.Foundations.TransactionHistory
import CommitmentOptimizer.Tenants.TenantRegistration
import CommitmentOptimizer.Tenants.RegistrationVerification
import CommitmentOptimizer.Tenants.RegistrationOnce
import CommitmentOptimizer.Foundations.RegularText
import CommitmentOptimizer.Optimizer.FixtureCaseContract
import CommitmentOptimizer.Foundations.PartialLists
import CommitmentOptimizer.Optimizer.SelectionOrder
import CommitmentOptimizer.Optimizer.Relaxations
import CommitmentOptimizer.Notifications.NotificationPreferences
import CommitmentOptimizer.Notifications.NotificationEmission
import CommitmentOptimizer.Notifications.PreferenceLocks
import CommitmentOptimizer.Notifications.NotificationOnce
import CommitmentOptimizer.Workers.WorkerShutdown
import CommitmentOptimizer.Foundations.KeysetPages
import CommitmentOptimizer.Foundations.Timestamps
import CommitmentOptimizer.Sessions.Base64UrlText
import CommitmentOptimizer.Shared.RedisJobQueue
import CommitmentOptimizer.Tenants.UsersCursor
import CommitmentOptimizer.Tenants.UsersPages
import CommitmentOptimizer.Foundations.HalfAwayRounding
import CommitmentOptimizer.Foundations.NearestRank
import CommitmentOptimizer.Optimizer.OptimizerPolicies
import CommitmentOptimizer.Optimizer.Feasibility
import CommitmentOptimizer.Optimizer.PriceSavings
import CommitmentOptimizer.Foundations.JsonReader
import CommitmentOptimizer.Foundations.Utf8Order
import CommitmentOptimizer.Optimizer.CanonicalRequests
import CommitmentOptimizer.Backtests.BacktestAccounting
import CommitmentOptimizer.Foundations.CalendarMonths
import CommitmentOptimizer.Backtests.ReplayWindow
import CommitmentOptimizer.Foundations.InsertionGroups
import CommitmentOptimizer.Forecasting.SeasonalForecast
import CommitmentOptimizer.Foundations.CsvFormat
import CommitmentOptimizer.Imports.CsvRoundTrip
import CommitmentOptimizer.Forecasting.ForecastUsage
import CommitmentOptimizer.PriceTables.PriceItemRequests
import CommitmentOptimizer.Optimizer.RecommendationRanges
import CommitmentOptimizer.Reports.ReportRequests
import CommitmentOptimizer.Reports.ReportStability
import CommitmentOptimizer.Imports.MoneyRounding
import CommitmentOptimizer.Foundations.SuccessorChains
import CommitmentOptimizer.Tenants.RotationChains
import CommitmentOptimizer.Tenants.RotationHistories
import CommitmentOptimizer.Tenants.RotationGrowth
import CommitmentOptimizer.Tenants.KeyRotation
import CommitmentOptimizer.Tenants.FirstRun
import CommitmentOptimizer.Tenants.FirstRunHistory
import CommitmentOptimizer.PriceTables.PriceTableBodies
import CommitmentOptimizer.Reports.TemplateRendering
import CommitmentOptimizer.Foundations.ColumnCasts
import CommitmentOptimizer.PriceTables.PriceTableStorage
import CommitmentOptimizer.Imports.ImportTables
import CommitmentOptimizer.Imports.ImportTransactions
import CommitmentOptimizer.Imports.ImportAtomicity
import CommitmentOptimizer.Foundations.JsonbText
import CommitmentOptimizer.Imports.ImportErrors
import CommitmentOptimizer.Imports.ImportStorage
import CommitmentOptimizer.Backtests.UsageWindows
import CommitmentOptimizer.Audit.AuditSanitizing
import CommitmentOptimizer.Shared.LogRedaction
import CommitmentOptimizer.Tenants.TenantInputs
import CommitmentOptimizer.Notifications.DecisionNotices
import CommitmentOptimizer.Shared.DuckdbSessions
import CommitmentOptimizer.Foundations.JsonMembers
import CommitmentOptimizer.Sessions.ProtectedHeaders
import CommitmentOptimizer.Foundations.AscendingLists
import CommitmentOptimizer.Database.SqlPlans
import CommitmentOptimizer.Database.AppliedPlans
import CommitmentOptimizer.Database.SqlRunner
import CommitmentOptimizer.Database.MigrationLedger
import CommitmentOptimizer.Database.UndisturbedRuns
import CommitmentOptimizer.Shared.ObjectFiles
import CommitmentOptimizer.Shared.ObjectStoreRuns
