import Openlit.AgentPointers
import Openlit.AgentRegistry
import Openlit.AgentSync
import Openlit.AutoEvaluationRuns
import Openlit.AutoEvaluations
import Openlit.BoardExports
import Openlit.Boards
import Openlit.Certificates
import Openlit.ChatCompletions
import Openlit.ChatStreams
import Openlit.CheckAuth
import Openlit.ClickHouse
import Openlit.ConfigRequests
import Openlit.CreatedRows
import Openlit.CurrentConfigs
import Openlit.CurrentLinks
import Openlit.CurrentOrganisations
import Openlit.DashboardCalls
import Openlit.FilterClauses
import Openlit.FolderTables
import Openlit.Forests
import Openlit.Hierarchies
import Openlit.InjectorNames
import Openlit.Interleavings
import Openlit.Invitations
import Openlit.JsonParse
import Openlit.Lexemes
import Openlit.Literals
import Openlit.MainDashboards
import Openlit.Memberships
import Openlit.MetaUpdates
import Openlit.MigrationRuns
import Openlit.OpengroundCopies
import Openlit.OrganisationRoles
import Openlit.OrganisationRuns
import Openlit.PromptTexts
import Openlit.PromptNames
import Openlit.SeparatedWords
import Openlit.VersionOrder
import Openlit.PriceRefreshes
import Openlit.NearestSpans
import Openlit.SanitizedValues
import Openlit.PythonJson
import Openlit.JudgeResponses
import Openlit.StreamSpans
import Openlit.Substitutions
import Openlit.EvaluationPrompts
import Openlit.PromptCompilation
import Openlit.OTelMessages
import Openlit.PartialCleanups
import Openlit.KeyedFolds
import Openlit.PythonRepr
import Openlit.TextOrder
import Openlit.Lookups
import Openlit.FormattedMessages
import Openlit.Prompts
import Openlit.QuotedValues
import Openlit.Registers
import Openlit.RemoteConfigSync
import Openlit.RuleIsolation
import Openlit.RuleLinkSync
import Openlit.RulePreview
import Openlit.RulePreviews
import Openlit.RuleSaves
import Openlit.RuleSemantics
import Openlit.SavedTexts
import Openlit.SharePermissions
import Openlit.Sharing
import Openlit.UpdateQueries
import Openlit.Vault
import Openlit.WebhookChoice
import Openlit.WebhookEligibility
import Openlit.WebhookEnvironment
import Openlit.WebhookReliability
import Openlit.Slots
import Openlit.OpenAIChat
import Openlit.Fragments
import Openlit.OpenAIChatStreams
import Openlit.Python
import Openlit.AnthropicMessages
import Openlit.AnthropicStreams
import Openlit.CallbackSpans
import Openlit.LangchainCallbacks
import Openlit.OpenAIResponseStreams
import Openlit.TracedStreams
import Openlit.OpenAIResponses
import Openlit.CallbackSpans
import Openlit.FrameworkFlags
import Openlit.PatchedCalls
import Openlit.TransparentCalls
import Openlit.OrganisationLinks
import Openlit.LinkedRuns
import Openlit.ConfigCreations
import Openlit.CertificateRequests
import Openlit.CustomRules
import Openlit.Pricing
import Openlit.DoubleQuotes
import Openlit.FileLines
import Openlit.StatusWatchers
import Openlit.StreamReader
import Openlit.Crontabs
import Openlit.ServerEvents
import Openlit.EventStreams
import Openlit.LangchainHandler
import Openlit.HandlerSpans
import Openlit.AnthropicGenerator
import Openlit.ChatGenerator
import Openlit.ResponseGenerator
import Openlit.AttributeLists
import Openlit.PythonPath
import Openlit.OwnerNames
import Openlit.ResourceAttributes
import Openlit.CertificateChecks
import Openlit.RetryCounts
import Openlit.SpecParsing
import Openlit.CertificateIdentities
import Openlit.ConnectionOffers
import Openlit.FailedRequests
import Openlit.HierarchySearch
import Openlit.PreviousWindows
import Openlit.CronLogs
import Openlit.SettledLinks
import Openlit.RulePriorities
import Openlit.EvaluationTypes
import Openlit.RecursiveQueries
import Openlit.TraceHierarchies
import Openlit.SharedConfigs
import Openlit.BoardLayouts
import Openlit.JsonRewrites
import Openlit.WidgetConfigs
import Openlit.ReconcileRuns
import Openlit.LoneReconciles
import Openlit.SqlComments
import Openlit.ResourceSchemas
import Openlit.Startups
import Openlit.InstrumentCli
import Openlit.SearchPaths
import Openlit.GoLifecycle
import Openlit.UrlParameters
import Openlit.FilterStore
import Openlit.FilterUrls
import Openlit.Pages
import Openlit.RequestPages
