import SellerSync.Session.Accounts
import SellerSync.Session.Amazon
import SellerSync.Session.Rates
import SellerSync.Session.State
import SellerSync.Request.Overrides
/-! Running a session: setting the service up, running its operations in order and writing each
answer. -/
namespace SellerSync

namespace Session

def mockBase : String := "http://127.0.0.1:43210"

def closedBase : String := "http://127.0.0.1:9"

def start : Instant := ⟨1767225600, 0⟩

def baseSettings (base : String) : Except SyncError Settings := do
  let s ← Settings.fromEnv []
  pure { s with
    appBaseUrl := "https://app.example.com"
    shopify := { s.shopify with
      clientId := "shopify-id", clientSecret := "shopify-secret", baseUrlOverride := some base }
    ebay := { s.ebay with
      clientId := "ebay-id", clientSecret := "ebay-secret", apiBaseUrl := base, authBaseUrl := base }
    amazon := { s.amazon with
      clientId := "lwa-id", clientSecret := "lwa-secret", appId := "lwa-id",
      tokenUrl := base ++ "/auth/o2/token", awsAccessKeyId := "AKIDEXAMPLE",
      awsSecretAccessKey := "secret", endpointOverride := some base }
    shippo := { s.shippo with apiBase := base } }

def checkMock (mock : Json) : Except Failure Unit := do
  let routes ← match mock with
    | .obj _ => match mock.get? "routes" with
      | none | some .null => pure []
      | some (.arr rs) => pure rs
      | some _ => Field.bad "mock.routes must be an array"
    | _ => Field.bad "mock must be an object"
  for r in routes do
    match r.get? "path" with
    | some (.str _) => pure ()
    | _ => Field.bad "mock route needs a path"

def setup (req : Json) : Except Failure (Context × Option String) := do
  let mock := Field.get req "mock"
  let base := if mock.isNull then closedBase else mockBase
  if !mock.isNull then checkMock mock
  let settings ← Overrides.apply (Field.get req "config") (← Field.ofService (baseSettings base))
  let attempts ← match Field.get req "retry" with
    | .null => pure 3
    | r => Field.u32 r "immediate"
  let ttlSecs ← match Field.get req "quote_ttl_secs" with
    | .null => pure RateShoppingSettings.defaultTtlSecs
    | _ => Field.i64 req "quote_ttl_secs"
  let some ttl := Span.ofSeconds? ttlSecs | throw (.service SyncError.spanOutOfRange)
  pure (⟨settings, RetryPolicy.immediate attempts, ttl, start, Network.unreachable⟩,
    if mock.isNull then none else some base)

def answer (op : String) (req : Json) : SessionM Json :=
  match op with
  | "account" => SessionOps.registerAccount req
  | "get_account" => SessionOps.getAccount req
  | "find_account" => SessionOps.findAccount req
  | "accounts_for_seller" => SessionOps.accountsForSeller req
  | "active_accounts" => SessionOps.activeAccounts req
  | "delete_account" => SessionOps.deleteAccount req
  | "set_status" => SessionOps.setStatus req
  | "mark_synced" => SessionOps.markSynced req
  | "token_update" => SessionOps.tokenUpdate req
  | "apply_order" => SessionOps.applyOrder req
  | "apply_raw_orders" => SessionOps.applyRawOrders req
  | "apply_product" => SessionOps.applyProduct req
  | "apply_inventory" => SessionOps.applyInventory req
  | "record_label" => SessionOps.recordLabel req
  | "has_label" => SessionOps.hasLabel req
  | "item_by_sku" => SessionOps.itemBySku req
  | "ingest_webhook" => SessionOps.ingestWebhook req
  | "queue_webhook" => SessionOps.queueWebhook req
  | "erase" => SessionOps.erase req
  | "deletion_requests" => SessionOps.deletionRequests
  | "quote" => SessionOps.quote req
  | "provider_quote" => SessionOps.providerQuote req
  | "cached_quote" => SessionOps.cachedQuote req
  | "quote_count" => SessionOps.quoteCount
  | "oauth_begin" => SessionOps.oauthBegin req
  | "oauth_consume" => SessionOps.oauthConsume req
  | "complete_authorization" => SessionOps.completeAuthorization req
  | "refresh_account" => SessionOps.refreshAccount req
  | "tick" => SessionOps.tick req
  | "acquire_credential" => SessionOps.acquireCredential req
  | "execute" => SessionOps.execute req
  | "register_webhooks" => SessionOps.registerWebhooks req
  | "push_inventory" => SessionOps.pushInventory req
  | "fulfillment_order" => SessionOps.fulfillmentOrder req
  | "get_rates" => SessionOps.getRates req
  | "create_shipment" => SessionOps.createShipment req
  | "fetch_label" => SessionOps.fetchLabel req
  | "inbound_plan" => SessionOps.inboundPlan req
  | "inbound_shipment" => SessionOps.inboundShipment req
  | "inbound_labels" => SessionOps.inboundLabels req
  | "get_inbound" => SessionOps.getInbound req
  | "mock_requests" => pure (.arr [])
  | "state" => SessionOps.state
  | other => SessionM.bad ("unknown op " ++ other)

def replaceAll (s pattern replacement : String) : String :=
  if pattern.isEmpty then s else replacement.intercalate (s.splitOn pattern)

def nonceNames (issued : Nat) (s : String) : String :=
  (List.range issued).foldl (fun t i => replaceAll t (Service.nonceOf (i + 1)) ("nonce#" ++ toString (i + 1))) s

def present (base : Option String) (sess : Session) (j : Json) : Json × Session :=
  let j := match base with
    | some b => Json.mapStrings (fun s => replaceAll s b "@MOCK@") j
    | none => j
  let j := Json.mapStrings (nonceNames sess.service.nonces) j
  let (j, labels) := sess.labels.rename (Json.sortKeys j)
  (j, { sess with labels })

def step (ctx : Context) (base : Option String) (sess : Session) (op : Json) : Json × Session :=
  let run : SessionM Json := match op.get? "op" with
    | some (.str name) => answer name op
    | _ => SessionM.bad "missing op"
  let (result, sess) := ((run.run ctx).run).run sess
  let j := match result with
    | .ok j => j
    | .error f => f.toJson
  present base sess j

def run (req : Json) : Json :=
  let req := if (Field.get req "mock").isNull then req
    else Json.mapStrings (fun s => replaceAll s "@MOCK@" mockBase) req
  match setup req, Field.get req "ops" with
  | .error f, _ => f.toJson
  | .ok _, .null => (Failure.badInput "ops must be an array").toJson
  | .ok (ctx, base), ops =>
    match ops with
    | .arr xs =>
      let (results, _) := xs.foldl (fun (acc : List Json × Session) op =>
        let (j, sess) := step ctx base acc.2 op
        (acc.1 ++ [j], sess)) ([], {})
      Json.object [("results", .arr results)]
    | _ => (Failure.badInput "ops must be an array").toJson

end Session

end SellerSync
