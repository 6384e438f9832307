import SellerSync.Request.Field
import SellerSync.Request.Overrides
import SellerSync.Order.View
import SellerSync.Order.Quality
import SellerSync.Settings.View
import SellerSync.Shopify.Order
import SellerSync.Ebay.Order
import SellerSync.Amazon.Order
import SellerSync.Amazon.Region
import SellerSync.Amazon.Signature
import SellerSync.Auth.Consent
import SellerSync.Auth.Grant
import SellerSync.Webhook
import SellerSync.Schedule
import SellerSync.Rates.Quote
import SellerSync.Api.Retry
import SellerSync.Web.Method
/-!
Operations without state: each reads its fields, calls one function of the library and writes
its result.
-/
namespace SellerSync

namespace Pure

def normalizeOrder (req : Json) : Answer := do
  let m ← Field.marketplace req "marketplace"
  let payload := Field.get req "payload"
  let order ← match m with
    | .shopify => Field.ofService (Shopify.translateOrder payload)
    | .ebay => Field.ofService (Ebay.translateOrder payload)
    | .amazon => do
      let items ← match Field.get req "items" with
        | .arr xs => pure xs
        | .null => pure []
        | _ => Field.bad "items must be an array"
      Field.ofService (Amazon.translateOrder payload items)
  pure order.toJson

def normalizeInventory (req : Json) : Answer := do
  let payload := Field.get req "payload"
  let stock ← match ← Field.marketplace req "marketplace" with
    | .shopify => Field.ofService (Shopify.translateLevel payload)
    | .ebay => Field.ofService (Ebay.translateItem payload)
    | .amazon => Field.bad "marketplace must be shopify or ebay"
  pure stock.toJson

def webhookKind (req : Json) : Answer := do
  let m ← Field.marketplace req "marketplace"
  let topic ← Field.str req "topic"
  match WebhookKind.ofTopic? m topic with
  | some k => pure (.object [("kind", .opt (fun k => .str k.name) k)])
  | none => Field.bad "marketplace must be shopify or ebay"

def signRequest (req : Json) : Answer := do
  let creds : AwsCredentials :=
    ⟨← Field.str req "access_key_id", ← Field.str req "secret_access_key",
      ← Field.optStr req "session_token"⟩
  let region ← Field.str req "region"
  let service ← Field.str req "service"
  let time ← Field.time req "time"
  let method ← Field.str req "method"
  if !Method.isValid method then Field.bad "method: invalid HTTP method"
  let url ← match Url.parse (← Field.str req "url") with
    | .ok u => pure u
    | .error e => Field.bad ("url: " ++ e.message)
  let headers ← Field.pairs req "headers"
  let body ← Field.bytes req "body"
  let added ← Field.ofService (Signature.sign creds region service time method url headers body)
  pure (.object [("headers", .arr (added.map fun (n, v) => .arr [.str n, .str v]))])

def syntheticQuote (req : Json) : Answer := do
  let weight ← Field.number req "weight"
  let items ← Field.u32 req "item_count"
  let provider ← Field.str req "provider"
  let q ← Field.ofService (Rates.syntheticQuote weight items provider)
  pure (.object [("amount", .ofDecimal q.amount), ("currency", .optStr q.currency),
    ("provider", .optStr q.provider), ("raw", q.raw)])

def isDue (req : Json) : Answer := do
  let last ← Field.optTime req "last_synced_at"
  let now ← Field.time req "now"
  let cadence ← if (Field.get req "cadence_secs").isNull then do
      let name ← Field.str req "family"
      match ChannelFamily.ofName? name with
      | some f => pure f.cadenceSecs
      | none => Field.bad ("unknown family " ++ name)
    else Field.u64 req "cadence_secs"
  pure (.object [("value", .bool (Schedule.isDue last now cadence))])

def retryPolicy (j : Json) : Except Failure RetryPolicy :=
  match j with
  | .null | .str "default" => pure RetryPolicy.standard
  | .obj _ =>
    if (j.get? "immediate").isSome then RetryPolicy.immediate <$> Field.u32 j "immediate"
    else do
      pure ⟨← Field.u32 j "max_attempts", .ofMillis (← Field.u64 j "base_delay_ms"),
        .ofMillis (← Field.u64 j "max_delay_ms"), .ofMillis (← Field.u64 j "max_retry_after_ms")⟩
  | _ => Field.bad "policy must be \"default\" or an object"

def retryDelay (req : Json) : Answer := do
  let attempt ← Field.u32 req "attempt"
  let retryAfter ← Field.optU64 req "retry_after_secs"
  let p ← retryPolicy (Field.get req "policy")
  let d := p.delayFor attempt (retryAfter.map Duration.ofSecs)
  pure (.object [("secs", .ofNat d.secs), ("nanos", .ofNat d.subsecNanos),
    ("max_attempts", .ofNat p.maxAttempts)])

def responseBody (req : Json) : Answer := do
  let b := ResponseBody.parse (← Field.str req "text")
  pure (.object [("kind", .str b.kindName), ("display", .str b.display),
    ("serialized", b.serialize), ("into_json", b.toJson)])

def addressDecoder : Decoder Address
  | .null => .ok {}
  | j => Record.run "Address" 6 (do
    pure { line1 := ← Record.opt "line1" Decode.string, line2 := ← Record.opt "line2" Decode.string
           city := ← Record.opt "city" Decode.string, region := ← Record.opt "region" Decode.string
           postalCode := ← Record.opt "postal_code" Decode.string
           country := ← Record.opt "country" Decode.string }) j

def dataQuality (req : Json) : Answer := do
  let shipTo ← Field.ofDecode (addressDecoder (Field.get req "ship_to"))
  let labelPresent ← Field.bool req "label_present"
  let (status, reasons) := Quality.assess shipTo labelPresent
  pure (.object [("status", .str status.name), ("reasons", .arr (reasons.map (.str ·.name))),
    ("deliverable", .bool shipTo.isDeliverable), ("empty", .bool shipTo.isEmpty)])

def cost (req : Json) (k : String) : Except Failure (Option Decimal) :=
  match Field.get req k with
  | .null => pure none
  | .str s =>
    match Decimal.parse? s with
    | some d => pure (some d)
    | none => Field.bad (k ++ " must be a decimal")
  | .num n =>
    match n.toI64? with
    | some i => pure (some (Decimal.ofInt i))
    | none => Field.bad (k ++ " must be a decimal")
  | _ => Field.bad (k ++ " must be a decimal")

def lineCostsTotal (req : Json) : Answer := do
  let c : LineCosts := ⟨← cost req "fulfillment", ← cost req "label", ← cost req "prep",
    ← cost req "third_party"⟩
  let t ← Field.ofService c.total
  pure (.object [("total", .opt .ofDecimal t)])

def tokenGrant (req : Json) : Answer := do
  let g ← Field.ofDecode (TokenGrant.decode (Field.get req "grant"))
  let now ← Field.time req "now"
  let u ← Field.ofService (g.toUpdate now)
  pure (.object [("access_token", .str u.accessToken),
    ("access_token_expires_at", .opt .ofInstant u.accessTokenExpiresAt),
    ("refresh_token", .optStr u.refreshToken),
    ("refresh_token_expires_at", .opt .ofInstant u.refreshTokenExpiresAt),
    ("scope", .optStr g.scope)])

def configFromEnv (req : Json) : Answer := do
  let env ← match Field.get req "env" with
    | .obj fs => fs.mapM fun
      | (k, .str v) => pure (k, v)
      | (k, _) => Field.bad ("env." ++ k ++ " must be a string")
    | .null => pure []
    | _ => Field.bad "env must be an object"
  let c ← Field.ofService (Settings.fromEnv env)
  pure c.toJson

def emptySettings : Except Failure Settings := Field.ofService (Settings.fromEnv [])

def authorizeUrl (req : Json) : Answer := do
  let m ← Field.marketplace req "marketplace"
  let state ← Field.str req "state"
  let c ← Overrides.apply (Field.get req "config") (← emptySettings)
  let url ← match m with
    | .shopify => do
      pure (Consent.shopifyUrl c.shopify (← Field.strD req "shop" "")
        (← Field.strD req "redirect_uri" "") state)
    | .ebay => pure (Consent.ebayUrl c.ebay state)
    | .amazon => do pure (Consent.amazonUrl c.amazon (← Field.strD req "region" c.amazon.region) state)
  pure (.object [("url", .str url)])

def bodyOf : Json → ResponseBody
  | .str s => .text s
  | j => .json j

def errorOf (req : Json) : Except Failure SyncError := do
  let status := fun (_ : Unit) => return (← Field.optU64 req "status").getD 0
  let attempts := fun (_ : Unit) => return (← Field.optU64 req "attempts").getD 0
  let text := fun (_ : Unit) => Field.strD req "text" ""
  let body := bodyOf (Field.get req "body")
  match ← Field.str req "kind" with
  | "credential_missing" => pure (.credentialMissing Uuid.nil)
  | "credential_refresh_failed" => return .credentialRefreshFailed (← status ()) (← text ())
  | "provider_rate_limited" => return .providerRateLimited (← status ()) body (← attempts ())
  | "provider_transient_failure" => return .providerTransientFailure (← status ()) body (← attempts ())
  | "provider_rejected" => return .providerRejected (← status ()) body
  | "invalid_external_payload" => do
    let m ← if (Field.get req "marketplace").isNull then pure Marketplace.shopify
      else Field.marketplace req "marketplace"
    return .invalidPayload m (← text ())
  | "no_cached_quote" => pure .noCachedQuote
  | "transport" => return .transport (← text ())
  | "not_found" => return .notFound "channel account" (← text ())
  | "configuration" => return .configuration (← text ())
  | "o_auth_state" => return .oauthState (← text ())
  | "quote_provider" => return .quoteProvider (← text ())
  | "storage" => return .storage (← text ())
  | k => Field.bad ("unknown error kind " ++ k)

def errorInfo (req : Json) : Answer := do
  let e ← errorOf req
  pure (.object [("kind", .str e.kind), ("display", .str e.message),
    ("is_auth_failure", .bool e.isAuthFailure), ("http_status", .opt .ofNat e.httpStatus?)])

def answer (op : String) (req : Json) : Option Answer :=
  match op with
  | "parse_money" => some (pure (.object [("value", .opt .ofDecimal (Fields.money? (Field.get req "value")))]))
  | "parse_quantity" => some (pure (.object [("value", .ofInt (Fields.quantity (Fields.money? (Field.get req "value"))))]))
  | "parse_timestamp" => some do
    pure (.object [("value", .opt .ofInstant (Fields.timestamp? (← Field.optStr req "value")))])
  | "text" => some do
    let v ← Field.optStr req "value"
    pure (.object [("non_empty", .optStr (Fields.optNonEmpty v)), ("email", .optStr (Fields.email? v))])
  | "sum_known" => some do
    let xs ← Field.array req "values"
    let t ← Field.ofService (Fields.sumKnown (xs.map Fields.money?))
    pure (.object [("value", .opt .ofDecimal t)])
  | "normalize_order" => some (normalizeOrder req)
  | "normalize_product" => some do
    let p ← Field.ofService (Shopify.translateProduct (Field.get req "payload"))
    pure p.toJson
  | "normalize_inventory" => some (normalizeInventory req)
  | "webhook_kind" => some (webhookKind req)
  | "verify_webhook" => some do
    let ok := Webhook.verify (← Field.str req "secret") (← Field.bytes req "body")
      (← Field.str req "signature")
    pure (.object [("valid", .bool ok)])
  | "normalize_shop_domain" => some do
    pure (.object [("value", .optStr (Consent.shopDomain? (← Field.str req "value")))])
  | "marketplace_parse" => some do
    pure (.object [("value", .opt (fun m => .str m.name) (Marketplace.parse? (← Field.str req "value")))])
  | "amazon_region" => some do
    let r := AmazonRegion.ofName (← Field.str req "region")
    pure (.object [("spapi_host", .str r.apiHost), ("aws_region", .str r.awsRegion),
      ("default_marketplace_id", .str r.defaultMarketplaceId)])
  | "sign_request" => some (signRequest req)
  | "weight_band" => some do
    pure (.object [("band", .ofBinary64Spelled (Rates.weightBand (← Field.number req "weight")))])
  | "synthetic_quote" => some (syntheticQuote req)
  | "needs_refresh" => some do
    let exp ← Field.optTime req "expires_at"
    let now ← Field.time req "now"
    pure (.object [("value", .bool (Credential.needsRefresh exp now))])
  | "is_due" => some (isDue req)
  | "retry_delay" => some (retryDelay req)
  | "response_body" => some (responseBody req)
  | "data_quality" => some (dataQuality req)
  | "line_costs_total" => some (lineCostsTotal req)
  | "token_grant" => some (tokenGrant req)
  | "config_from_env" => some (configFromEnv req)
  | "authorize_url" => some (authorizeUrl req)
  | "error_info" => some (errorInfo req)
  | _ => none

end Pure

end SellerSync
