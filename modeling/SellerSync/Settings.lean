import SellerSync.Text.Blank
import SellerSync.Text.Lowercase
import SellerSync.Text.Numeral
import SellerSync.Time.Instant
import SellerSync.Error
/-! Settings of the service, read from environment variables. A variable counts only when it is set to
something other than blanks, and then with its blanks trimmed. -/
namespace SellerSync

/-- Environment variables by name. -/
abbrev Env := List (String × String)

namespace Env

/-- A variable's value, trimmed; none when unset or blank. -/
def get? (env : Env) (key : String) : Option String :=
  match env.find? (·.1 == key) with
  | some (_, v) =>
    let t := Text.trim v
    if t.isEmpty then none else some t
  | none => none

def getD (env : Env) (key fallback : String) : String := (env.get? key).getD fallback

end Env

/-- A switch: on for `1`, `true`, `yes` and `on`, whatever the case and surrounding blanks. -/
def switchOn (s : String) : Bool := ["1", "true", "yes", "on"].contains (Text.toLower (Text.trim s))

def dropTrailing (c : Char) (s : String) : String :=
  String.ofList (s.toList.reverse.dropWhile (· == c)).reverse

def dropLeading (c : Char) (s : String) : String := String.ofList (s.toList.dropWhile (· == c))

structure ShopifySettings where
  clientId : String
  clientSecret : String
  apiVersion : String
  scopes : String
  /-- Key of the HMAC that signs webhook deliveries. -/
  webhookSecret : Option String
  /-- Stands in for every shop's own host when set. -/
  baseUrlOverride : Option String
  deriving Repr, Inhabited

namespace ShopifySettings

def defaultScopes : String :=
  "read_products,read_orders,read_customers,read_inventory,write_inventory,write_fulfillments"

/-- The base URL of a shop's API: the override without trailing slashes, or the shop's host. -/
def shopBase (c : ShopifySettings) (shop : String) : String :=
  match c.baseUrlOverride with
  | some base => dropTrailing '/' base
  | none => "https://" ++ shop

def fromEnv (env : Env) : ShopifySettings where
  clientId := env.getD "SHOPIFY_CLIENT_ID" ""
  clientSecret := env.getD "SHOPIFY_CLIENT_SECRET" ""
  apiVersion := env.getD "SHOPIFY_API_VERSION" "2024-01"
  scopes := env.getD "SHOPIFY_SCOPES" defaultScopes
  webhookSecret := env.get? "SHOPIFY_WEBHOOK_SECRET"
  baseUrlOverride := env.get? "SHOPIFY_API_BASE_URL"

end ShopifySettings

structure EbaySettings where
  clientId : String
  clientSecret : String
  /-- The name under which the redirect target is registered. -/
  ruName : String
  scope : String
  marketplaceId : String
  apiBaseUrl : String
  authBaseUrl : String
  deriving Repr, Inhabited

namespace EbaySettings

def defaultScope : String :=
  " ".intercalate ["https://api.ebay.com/oauth/api_scope",
    "https://api.ebay.com/oauth/api_scope/sell.fulfillment",
    "https://api.ebay.com/oauth/api_scope/sell.inventory"]

def tokenUrl (c : EbaySettings) : String := c.apiBaseUrl ++ "/identity/v1/oauth2/token"

def fromEnv (env : Env) : EbaySettings where
  clientId := env.getD "EBAY_CLIENT_ID" ""
  clientSecret := env.getD "EBAY_CLIENT_SECRET" ""
  ruName := env.getD "EBAY_RU_NAME" ""
  scope := env.getD "EBAY_SCOPE" defaultScope
  marketplaceId := env.getD "EBAY_MARKETPLACE_ID" "EBAY_US"
  apiBaseUrl := dropTrailing '/' (env.getD "EBAY_API_BASE_URL" "https://api.ebay.com")
  authBaseUrl := dropTrailing '/' (env.getD "EBAY_AUTH_BASE_URL" "https://auth.ebay.com")

end EbaySettings

structure AmazonSettings where
  /-- The application the seller consents to. -/
  appId : String
  clientId : String
  clientSecret : String
  redirectUri : String
  tokenUrl : String
  region : String
  awsAccessKeyId : String
  awsSecretAccessKey : String
  awsSessionToken : Option String
  /-- Stands in for the regional API host when set. -/
  endpointOverride : Option String
  deriving Repr, Inhabited

namespace AmazonSettings

/-- A pasted redirect URI: trimmed, leading equals signs dropped. -/
def cleanRedirect (s : String) : String := dropLeading '=' (Text.trim s)

def fromEnv (env : Env) : AmazonSettings :=
  let clientId := env.getD "AMAZON_LWA_CLIENT_ID" ""
  let appBase := env.getD "APP_BASE_URL" ""
  { appId := (env.get? "AMAZON_APP_ID").getD clientId
    clientId := clientId
    clientSecret := env.getD "AMAZON_LWA_CLIENT_SECRET" ""
    redirectUri := cleanRedirect
      ((env.get? "AMAZON_LWA_REDIRECT_URI").getD (appBase ++ "/oauth/amazon/callback"))
    tokenUrl := env.getD "AMAZON_LWA_TOKEN_URL" "https://api.amazon.com/auth/o2/token"
    region := Text.toLower (env.getD "AMAZON_REGION" "na")
    awsAccessKeyId := env.getD "AMAZON_SPAPI_AWS_ACCESS_KEY_ID" ""
    awsSecretAccessKey := env.getD "AMAZON_SPAPI_AWS_SECRET_ACCESS_KEY" ""
    awsSessionToken := env.get? "AMAZON_SPAPI_AWS_SESSION_TOKEN"
    endpointOverride := env.get? "AMAZON_SPAPI_ENDPOINT" }

end AmazonSettings

structure RateShoppingSettings where
  apiUrl : Option String
  apiKey : Option String
  /-- How long a cached quote is good for. -/
  ttl : Span
  deriving Repr, Inhabited

namespace RateShoppingSettings

def defaultTtlSecs : Int := 7 * 24 * 60 * 60

/-- The lifetime in seconds must also fit a span, or reading stops. -/
def fromEnv (env : Env) : Except SyncError RateShoppingSettings := do
  let secs := ((env.get? "RATE_SHOPPING_TTL_SECS").bind (Numeral.intOfTextWithin? 64)).filter
    (fun n => decide (0 < n)) |>.getD defaultTtlSecs
  match Span.ofSeconds? secs with
  | some ttl => pure ⟨env.get? "RATE_SHOPPING_API_URL", env.get? "RATE_SHOPPING_API_KEY", ttl⟩
  | none => throw SyncError.spanOutOfRange

end RateShoppingSettings

structure ShippoSettings where
  apiKey : Option String
  apiBase : String
  /-- Quotes are made up locally instead of asked for. -/
  mockMode : Bool
  fromCity : String
  fromState : String
  fromPostal : String
  fromCountry : String
  deriving Repr, Inhabited

namespace ShippoSettings

def fromEnv (env : Env) : ShippoSettings where
  apiKey := env.get? "SHIPPO_API_KEY"
  apiBase := env.getD "SHIPPO_API_BASE" "https://api.goshippo.com"
  mockMode := ((env.get? "SHIPPO_MOCK_MODE").map switchOn).getD false
  fromCity := env.getD "SHIPPO_FROM_CITY" "Los Angeles"
  fromState := env.getD "SHIPPO_FROM_STATE" "CA"
  fromPostal := env.getD "SHIPPO_FROM_POSTAL" "90001"
  fromCountry := env.getD "SHIPPO_FROM_COUNTRY" "US"

end ShippoSettings

structure Settings where
  listenPort : Nat
  appBaseUrl : String
  redisUrl : Option String
  schedulerEnabled : Bool
  ingestQueueCapacity : Nat
  shopify : ShopifySettings
  ebay : EbaySettings
  amazon : AmazonSettings
  rateShopping : RateShoppingSettings
  shippo : ShippoSettings
  deriving Repr, Inhabited

namespace Settings

def fromEnv (env : Env) : Except SyncError Settings := do
  let rateShopping ← RateShoppingSettings.fromEnv env
  pure
    { listenPort := ((env.get? "PORT").bind (Numeral.natOfTextBelow? 16)).getD 8000
      appBaseUrl := dropTrailing '/' (env.getD "APP_BASE_URL" "")
      redisUrl := env.get? "REDIS_URL"
      schedulerEnabled := ((env.get? "SCHEDULER_ENABLED").map switchOn).getD true
      ingestQueueCapacity := (((env.get? "INGEST_QUEUE_CAPACITY").bind
        (Numeral.natOfTextBelow? 64)).filter (fun n => decide (0 < n))).getD 64
      shopify := ShopifySettings.fromEnv env
      ebay := EbaySettings.fromEnv env
      amazon := AmazonSettings.fromEnv env
      rateShopping := rateShopping
      shippo := ShippoSettings.fromEnv env }

end Settings

end SellerSync
