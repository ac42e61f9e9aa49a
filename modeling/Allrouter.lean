import Allrouter.Billing.BatchUpdate
import Allrouter.Billing.Checkin
import Allrouter.Billing.ProfitSplit
import Allrouter.Billing.ProviderSync
import Allrouter.Billing.Redemption
import Allrouter.Billing.TieredTokens
import Allrouter.Billing.TopUpBonus
import Allrouter.Billing.Transfer
import Allrouter.Channel.Ability
import Allrouter.Channel.CachedKeys
import Allrouter.Channel.KeyManagement
import Allrouter.Fetch.Download
import Allrouter.Login.TwoFactor
import Allrouter.Middleware.MemoryLimiter
import Allrouter.Middleware.RateLimit
import Allrouter.Middleware.TokenBucket
import Allrouter.Relay.BodyStorage
import Allrouter.Relay.ClaudeRequest
import Allrouter.Relay.ClaudeToolCalls
import Allrouter.Relay.GeminiRequest
import Allrouter.Relay.ImageTicket
import Allrouter.Relay.ModelMapping
import Allrouter.Relay.PerfMetrics
import Allrouter.Relay.Retry
import Allrouter.Relay.ToolHistory
import Allrouter.Subscription.Aggregate
import Allrouter.Subscription.Cleanup
import Allrouter.Subscription.Completion
import Allrouter.Subscription.Entitlement
import Allrouter.Subscription.LateCharge
import Allrouter.Subscription.Normalize
import Allrouter.Subscription.PurchaseLimit
import Allrouter.Subscription.Stock
import Allrouter.Task.Media
import Allrouter.Task.Midjourney
import Allrouter.Task.Opening
import Allrouter.Task.Price
import Allrouter.Task.Queue
import Allrouter.Task.Recovery
import Allrouter.Task.Submit
import Allrouter.Task.Suno
import Allrouter.Token.Cache
import Allrouter.Token.Quota
