import NewApi.Subscription.Usage
import NewApi.Task.Visible
import NewApi.Task.Obligations
import NewApi.Task.Pass
import NewApi.Task.Submission
import NewApi.Billing.Replay
import NewApi.Wallet.ManualTopUp
import NewApi.Wallet.Codes
import NewApi.Batch.Flush
import NewApi.Wallet.Ceiling
import NewApi.Wallet.CachedQuota
import NewApi.Auth.Fence
import NewApi.Lottery.Draws
import NewApi.Session.Rotation
import NewApi.Session.Limits
import NewApi.Verification.Bound
import NewApi.TwoFactor.Lockout
import NewApi.SystemTask.Named
import NewApi.Channels.Walk
import NewApi.Channels.KeyRaces
import NewApi.Channels.KeyDeletion
import NewApi.ResponsesWS.Billing
import NewApi.OaiChat.ResponsesGrammar
import NewApi.OaiChat.ClaudeProtocol
import NewApi.Conversion.PricedOnce
import NewApi.Conversion.TextSettlement
import NewApi.Dto.GeminiUsage
import NewApi.OaiResponses.ToolUsage
import NewApi.Pricing.OtherRatios
import NewApi.Subscription.CatchUp
import NewApi.Billingexpr.RequestRules
import NewApi.Jsplugin.Routing
import NewApi.RateLimit.ModelRequests
import NewApi.Channels.ModelMapping
import NewApi.Jsplugin.RoutePaths
import NewApi.Setting.StatusCodes
import NewApi.Reasoning.Billing
