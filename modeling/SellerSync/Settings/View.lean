import SellerSync.Settings
import SellerSync.Json.Scalars
/-!
The JSON view of the settings: every field under its variable-style name, secrets included, the
quote lifetime in whole seconds, and the shop base that `example.myshopify.com` would get.
-/
namespace SellerSync

namespace Settings

def shopifyJson (c : ShopifySettings) : Json :=
  .object [("client_id", .str c.clientId), ("client_secret", .str c.clientSecret),
    ("api_version", .str c.apiVersion), ("scopes", .str c.scopes),
    ("webhook_secret", .optStr c.webhookSecret), ("base_url_override", .optStr c.baseUrlOverride),
    ("shop_base_example", .str (c.shopBase "example.myshopify.com"))]

def ebayJson (c : EbaySettings) : Json :=
  .object [("client_id", .str c.clientId), ("client_secret", .str c.clientSecret),
    ("ru_name", .str c.ruName), ("scope", .str c.scope), ("marketplace_id", .str c.marketplaceId),
    ("api_base_url", .str c.apiBaseUrl), ("auth_base_url", .str c.authBaseUrl),
    ("token_url", .str c.tokenUrl)]

def amazonJson (c : AmazonSettings) : Json :=
  .object [("app_id", .str c.appId), ("client_id", .str c.clientId),
    ("client_secret", .str c.clientSecret), ("redirect_uri", .str c.redirectUri),
    ("token_url", .str c.tokenUrl), ("region", .str c.region),
    ("aws_access_key_id", .str c.awsAccessKeyId),
    ("aws_secret_access_key", .str c.awsSecretAccessKey),
    ("aws_session_token", .optStr c.awsSessionToken),
    ("endpoint_override", .optStr c.endpointOverride)]

def rateShoppingJson (c : RateShoppingSettings) : Json :=
  .object [("api_url", .optStr c.apiUrl), ("api_key", .optStr c.apiKey),
    ("ttl_secs", .ofInt (c.ttl.toNanos.tdiv 1000000000))]

def shippoJson (c : ShippoSettings) : Json :=
  .object [("api_key", .optStr c.apiKey), ("api_base", .str c.apiBase),
    ("mock_mode", .bool c.mockMode), ("from_city", .str c.fromCity),
    ("from_state", .str c.fromState), ("from_postal", .str c.fromPostal),
    ("from_country", .str c.fromCountry)]

def toJson (c : Settings) : Json :=
  .object [("port", .ofNat c.listenPort), ("app_base_url", .str c.appBaseUrl),
    ("redis_url", .optStr c.redisUrl), ("scheduler_enabled", .bool c.schedulerEnabled),
    ("ingest_queue_capacity", .ofNat c.ingestQueueCapacity), ("shopify", shopifyJson c.shopify),
    ("ebay", ebayJson c.ebay), ("amazon", amazonJson c.amazon),
    ("rate_shopping", rateShoppingJson c.rateShopping), ("shippo", shippoJson c.shippo)]

end Settings

end SellerSync
