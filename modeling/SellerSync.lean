import SellerSync.Account
import SellerSync.Amazon.Inbound
import SellerSync.Amazon.Order
import SellerSync.Amazon.Outbound
import SellerSync.Amazon.Region
import SellerSync.Amazon.Requests
import SellerSync.Amazon.Shipping
import SellerSync.Amazon.Signature
import SellerSync.Api.Credential
import SellerSync.Api.Executor
import SellerSync.Api.ResponseBody
import SellerSync.Api.Retry
import SellerSync.Auth.Consent
import SellerSync.Auth.Grant
import SellerSync.Auth.Transaction
import SellerSync.Catalog
import SellerSync.Codec.Base64
import SellerSync.Crypto.Sha256
import SellerSync.Customer
import SellerSync.Ebay.Order
import SellerSync.Erasure.Request
import SellerSync.Error
import SellerSync.Inbound.Shipment
import SellerSync.Json.Decode
import SellerSync.Json.Read
import SellerSync.Json.Scalars
import SellerSync.Json.Value
import SellerSync.Marketplace
import SellerSync.Number.Binary64
import SellerSync.Number.Decimal
import SellerSync.Number.DecimalArith
import SellerSync.Order.Fields
import SellerSync.Order.Incoming
import SellerSync.Order.Quality
import SellerSync.Order.Raw
import SellerSync.Order.Stored
import SellerSync.Order.View
import SellerSync.Pipeline
import SellerSync.Rates.Cache
import SellerSync.Rates.Quote
import SellerSync.Request.Dispatch
import SellerSync.Request.Field
import SellerSync.Request.Overrides
import SellerSync.Request.Pure
import SellerSync.Schedule
import SellerSync.Service.Basic
import SellerSync.Session.Accounts
import SellerSync.Session.Amazon
import SellerSync.Session.Basic
import SellerSync.Session.Labels
import SellerSync.Session.Rates
import SellerSync.Session.Records
import SellerSync.Session.Run
import SellerSync.Session.State
import SellerSync.Session.View
import SellerSync.Settings
import SellerSync.Settings.View
import SellerSync.Shopify.Order
import SellerSync.Store.Accounts
import SellerSync.Store.Basic
import SellerSync.Store.Catalog
import SellerSync.Store.Customers
import SellerSync.Store.Erase
import SellerSync.Store.Inbound
import SellerSync.Store.Orders
import SellerSync.Store.Quotes
import SellerSync.Sync.Connect
import SellerSync.Sync.Ingest
import SellerSync.Sync.Pull
import SellerSync.Sync.Queue
import SellerSync.Sync.Subscriptions
import SellerSync.Sync.Tick
import SellerSync.Text.BidiClass
import SellerSync.Text.Blank
import SellerSync.Text.CaseTables
import SellerSync.Text.CombiningClass
import SellerSync.Text.Composition
import SellerSync.Text.Decomposition
import SellerSync.Text.Escaped
import SellerSync.Text.JoiningType
import SellerSync.Text.Lowercase
import SellerSync.Text.Nfc
import SellerSync.Text.Numeral
import SellerSync.Text.RangeTable
import SellerSync.Time.Instant
import SellerSync.Time.Relaxed
import SellerSync.Time.Rfc3339
import SellerSync.Uuid
import SellerSync.Web.Client
import SellerSync.Web.Host
import SellerSync.Web.Idna
import SellerSync.Web.IdnaMapping
import SellerSync.Web.IdnaMapping.Alphabets
import SellerSync.Web.IdnaMapping.CompatibilityIdeographs
import SellerSync.Web.IdnaMapping.EastAsian
import SellerSync.Web.IdnaMapping.Historic
import SellerSync.Web.IdnaMapping.Mathematical
import SellerSync.Web.IdnaMapping.PresentationForms
import SellerSync.Web.IdnaMapping.Status
import SellerSync.Web.IdnaMapping.SupplementaryIdeographs
import SellerSync.Web.IdnaMapping.Symbols
import SellerSync.Web.Method
import SellerSync.Web.Percent
import SellerSync.Web.Punycode
import SellerSync.Web.Url
import SellerSync.Webhook
import SellerSync.Proofs.Rows
import SellerSync.Proofs.Keys
import SellerSync.Proofs.Erasure
import SellerSync.Proofs.Sound
import SellerSync.Proofs.Writes
import SellerSync.Proofs.Reachable
import SellerSync.Proofs.CustomerMatch
import SellerSync.Proofs.Reapply
import SellerSync.Proofs.Links
import SellerSync.Proofs.ErasureScope
import SellerSync.Proofs.Steady
import SellerSync.Proofs.Contacts
import SellerSync.Proofs.LabelVerdicts
import SellerSync.Proofs.LinkedRuns
import SellerSync.Proofs.Normalization
import SellerSync.Proofs.NullFields
import SellerSync.Proofs.Rounding
import SellerSync.Proofs.QuoteCache
import SellerSync.Proofs.Webhooks
import SellerSync.Proofs.Credentials
import SellerSync.Proofs.Retries
import SellerSync.Proofs.InFlight
import SellerSync.Proofs.SingleUse
import SellerSync.Proofs.JobQueue
import SellerSync.Proofs.JobRuns
import SellerSync.Proofs.Listings
import SellerSync.Proofs.Signing
import SellerSync.Proofs.Refresh
import SellerSync.Proofs.Polling
import SellerSync.Proofs.Lifetimes
import SellerSync.Proofs.AsciiText
import SellerSync.Proofs.ShopDomains
import SellerSync.Proofs.ShopHosts
import SellerSync.Proofs.LowerText
import SellerSync.Proofs.KeyFields
import SellerSync.Proofs.CustomerResolution
import SellerSync.Proofs.AuditRows
import SellerSync.Proofs.StockLevels
import SellerSync.Proofs.LabelWrites
import SellerSync.Proofs.Subscriptions
import SellerSync.Proofs.Connections
import SellerSync.Proofs.StockPush
import SellerSync.Proofs.DecimalSums
import SellerSync.Proofs.Backoff
import SellerSync.Proofs.AmountReading
import SellerSync.Store.Calls
import SellerSync.Pipeline.Script
import SellerSync.Pipeline.Threads
import SellerSync.Proofs.Scripts
import SellerSync.Proofs.Footprint
import SellerSync.Proofs.Apartness
import SellerSync.Proofs.AccountCalls
import SellerSync.Proofs.ScriptSafety
import SellerSync.Proofs.Interleavings
